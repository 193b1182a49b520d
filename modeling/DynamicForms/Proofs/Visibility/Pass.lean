import DynamicForms.Proofs.Store.News
import DynamicForms.Proofs.Store.Run
import DynamicForms.Proofs.Visibility.Sweep
import DynamicForms.Proofs.Visibility.Visible
import DynamicForms.Visibility.Prune

/-!
# `DynamicForms.Proofs.Visibility.Pass` — what a pass of a tracker does

A tracker that is alone with its store makes its passes as pure functions. While it does so, its own
writes only mark that another pass is due; so one pass is a sweep over the values that went and a fill
of those that came. If the conditions of the form name whole paths, the mark stays clear only if no
visible item has changed; and it does stay clear if there is nothing to write.

## Contents
- `Tracker.Lone`: the worlds in which a tracker is alone.
- **A write.** `run_perform_cases`, `yields_write_of`, `works_write`.
- **A pass.** `works_passWrites`, `Tracker.afterPass`, `run_applyVisible`.
- **Hidden items.** `Tracker.Listed`, `Tracker.HiddenAbsent`, `apart_of_hidden_of_visible`,
  `hiddenAbsent_sweep`.
-/

namespace DynamicForms

open Value (Object)
open Path (Sound IsWhole Apart)

namespace Tracker

/-- The subscriptions of a store that only a tracker listens to. -/
def soleSubscriptions (items : List Item) : Option Nat → List (Subscription Unit)
  | none => []
  | some ticket => [⟨ticket, some (Item.watchedPaths items).eraseDups, ()⟩]

/-- A tracker is alone with its store, and hears of all that matters to it. -/
structure Lone (items : List Item) (registers : Bool) (w : World Unit Tracker) : Prop where
  /-- The form of the tracker. -/
  items_eq : w.parts.items = items
  /-- Whether the tracker registers fields. -/
  registers_eq : w.parts.registers = registers
  /-- Nobody else listens. -/
  alone : w.store.subscriptions = soleSubscriptions items w.parts.ticket
  /-- It does not listen only if there is nothing to hear. -/
  hears : w.parts.ticket = none → Item.watchedPaths items = []

/-- A world with other data and another mark. -/
def withMark (w : World Unit Tracker) (data : Object) (dirty : Bool) : World Unit Tracker :=
  ⟨{ w.store with data }, { w.parts with dirty }⟩

/-- A world in which passes are being made, or not. -/
def withRefreshing (w : World Unit Tracker) (refreshing : Bool) : World Unit Tracker :=
  { w with parts := { w.parts with refreshing } }

variable {items : List Item} {registers : Bool} {w : World Unit Tracker} {wr : Write}

theorem Lone.withData (h : Lone items registers w) (data : Object) :
    Lone items registers (w.withData data) :=
  ⟨h.items_eq, h.registers_eq, h.alone, h.hears⟩

theorem Lone.withMark (h : Lone items registers w) (data : Object) (dirty : Bool) :
    Lone items registers (withMark w data dirty) :=
  ⟨h.items_eq, h.registers_eq, h.alone, h.hears⟩

theorem Lone.withRefreshing (h : Lone items registers w) (refreshing : Bool) :
    Lone items registers (withRefreshing w refreshing) :=
  ⟨h.items_eq, h.registers_eq, h.alone, h.hears⟩

/-! ## A write -/

/-- Either nobody is to be told of a write, or the tracker is. -/
theorem captureFor_cases (hw : Lone items registers w) (wr : Write) :
    w.store.captureFor wr = [] ∨
    ∃ ticket, w.parts.ticket = some ticket ∧ w.store.captureFor wr
      = [(⟨ticket, some (Item.watchedPaths items).eraseDups, ()⟩ : Subscription Unit).capture
          w.store.data] := by
  have hsublist := concerned_sublist w.store wr
  rw [captureFor_eq]
  cases ht : w.parts.ticket with
  | none =>
    rw [hw.alone, ht] at hsublist
    left
    rw [List.eq_nil_of_sublist_nil hsublist]
    rfl
  | some ticket =>
    rw [hw.alone, ht, soleSubscriptions] at hsublist
    rcases List.sublist_singleton.mp hsublist with hnobody | hone
    · left
      rw [hnobody]
      rfl
    · right
      refine ⟨ticket, rfl, ?_⟩
      rw [hone]
      rfl

/-- A write that nobody is to be told of leaves all watched values as they are. -/
theorem read_watched_of_nobody (hi : Item.Regular items) (hw : Lone items registers w)
    (hwr : wr.IsWhole) (hnobody : w.store.captureFor wr = []) :
    ∀ c ∈ Item.watchedPaths items, Path.read (.object (wr.after w.store.data)) c
      = Path.read (.object w.store.data) c := by
  intro c hc
  have hconcerned : w.store.concerned wr = [] := by
    rw [captureFor_eq] at hnobody
    exact List.map_eq_nil_iff.mp hnobody
  have halone := hw.alone
  cases ht : w.parts.ticket with
  | none =>
    rw [hw.hears ht] at hc
    cases hc
  | some ticket =>
    rw [ht, soleSubscriptions] at halone
    refine read_after_of_not_concerned hwr (halone ▸ List.mem_singleton_self _) rfl
      (fun c hc => hi.whole c (List.mem_eraseDups.mp hc)) ?_ _ c (List.mem_eraseDups.mpr hc)
    rw [hconcerned]
    exact List.not_mem_nil

/-- A write is told to nobody, and then, if conditions name whole paths and so does it, it changes
    nothing that is visible; or the tracker refreshes after it. -/
theorem run_perform_cases (hw : Lone items registers w) (hwr : wr.IsPlaced) (depth : Nat) :
    ((∃ b, (perform Tracker.react (depth + 1) wr).run w
        = .ok b (w.withData (wr.after w.store.data))) ∧
      (Item.Regular items → wr.IsWhole →
        Item.visibleTable items (.object (wr.after w.store.data))
          = Item.visibleTable items (.object w.store.data))) ∨
    (perform Tracker.react (depth + 1) wr).run w
      = (refresh Part.whole (perform Tracker.react depth) >>= fun _ => pure true).run
          (w.withData (wr.after w.store.data)) := by
  rcases Write.change?_cases hwr w.store.data with ⟨hnone, hsame⟩ | hsome
  · left
    rw [hsame]
    exact ⟨⟨false, run_perform_of_none _ _ hnone⟩, fun _ _ => rfl⟩
  · rcases captureFor_cases hw wr with hempty | ⟨ticket, hticket, hone⟩
    · left
      refine ⟨⟨true, run_perform_of_nobody _ _ hsome hempty⟩, fun hi hwhole => ?_⟩
      have hreads := read_watched_of_nobody hi hw hwhole hempty
      exact Item.visibleTable_congr hi.named
        fun c hc => Value.Indistinct.interchangeable (Or.inl (hreads c hc))
    · rw [run_perform_of_one Tracker.react depth hsome hone]
      have hactive : (w.withData (wr.after w.store.data)).store.isActive ticket = true := by
        show w.store.subscriptions.any (·.ticket == ticket) = true
        rw [hw.alone, hticket]
        simp [soleSubscriptions]
      cases hnews : Captured.news? (Subscription.capture w.store.data
          ⟨ticket, some (Item.watchedPaths items).eraseDups, ()⟩) (wr.after w.store.data) wr with
      | none =>
        left
        refine ⟨⟨true, tell_bind_of_no_news hnews⟩, fun hi _ => ?_⟩
        refine (Item.visibleTable_congr hi.named
          fun c hc => Value.Indistinct.interchangeable (Or.inr ?_)).symm
        exact (news?_eq_none_iff rfl).mp hnews c (List.mem_eraseDups.mpr hc)
      | some news =>
        right
        exact tell_bind_of_news hactive hnews

/-- **A write from outside** leaves the visible part that of the data, or the tracker refreshes after it,
    with room for what it writes. -/
theorem yields_write_of {Q : World Unit Tracker → Prop} (hi : Item.Regular items)
    (hw : Lone items registers w) (hwr : wr.IsWhole)
    (hunheard : Item.visibleTable items (.object (wr.after w.store.data))
      = Item.visibleTable items (.object w.store.data) → Q (w.withData (wr.after w.store.data)))
    (hheard : ∀ put, HasRoom Tracker.react put →
      (refresh Part.whole put).Yields (w.withData (wr.after w.store.data)) Q) :
    (write Tracker.react wr).Yields w Q := by
  rw [Run.Yields, run_write, nesting_eq]
  rcases run_perform_cases hw hwr.isPlaced (188 + w.store.watchings.length + 1) with
    ⟨⟨b, hrun⟩, htable⟩ | hrun
  · exact ⟨b, _, hrun, hunheard (htable hi hwr)⟩
  · obtain ⟨⟨⟩, w', hrefresh, hw'⟩ := hheard _ (hasRoom_perform _ _)
    refine ⟨true, w', ?_, hw'⟩
    rw [hrun, EStateM.run_bind, hrefresh]
    rfl

/-! ### While passes are being made

A program *works* as a function on the data if, while passes are being made, that is all it does to
the world apart from the mark; and if the mark is clear afterwards, it was clear before and, all
conditions naming whole paths, no item has appeared or gone. -/

variable {α β ι : Type} {f g : Object → Object} {put : Writer Unit Tracker}

/-- While passes are being made, a program is a function on the data. -/
def Works (items : List Item) (registers : Bool) (m : Run Unit Tracker α) (f : Object → Object) :
    Prop :=
  ∀ w, Lone items registers w → w.parts.refreshing = true →
    ∃ a dirty, m.run w = .ok a (withMark w (f w.store.data) dirty) ∧
      (dirty = false → w.parts.dirty = false ∧
        (Item.Regular items → Item.visibleTable items (.object (f w.store.data))
          = Item.visibleTable items (.object w.store.data)))

theorem works_pure (a : α) : Works items registers (pure a) id :=
  fun w _ _ => ⟨a, w.parts.dirty, rfl, fun hclean => ⟨hclean, fun _ => rfl⟩⟩

theorem works_bind {m : Run Unit Tracker α} {k : α → Run Unit Tracker β}
    (hm : Works items registers m f) (hk : ∀ a, Works items registers (k a) g) :
    Works items registers (m >>= k) fun data => g (f data) := by
  intro w hw href
  obtain ⟨a, dirty, hrun, hclean⟩ := hm w hw href
  obtain ⟨b, dirty', hrun', hclean'⟩ :=
    hk a (withMark w (f w.store.data) dirty) (hw.withMark _ _) href
  refine ⟨b, dirty', ?_, fun h => ?_⟩
  · rw [EStateM.run_bind, hrun]
    exact hrun'
  · obtain ⟨hdirty, htable⟩ := hclean' h
    obtain ⟨hdirty', htable'⟩ := hclean hdirty
    exact ⟨hdirty', fun hi => (htable hi).trans (htable' hi)⟩

theorem works_forM {body : ι → Run Unit Tracker PUnit} {f : ι → Object → Object} {xs : List ι}
    (h : ∀ x ∈ xs, Works items registers (body x) (f x)) :
    Works items registers (xs.forM body) fun data => xs.foldl (fun data x => f x data) data := by
  induction xs with
  | nil => exact works_pure PUnit.unit
  | cons x rest ih =>
    exact works_bind (h x List.mem_cons_self) fun _ =>
      ih fun y hy => h y (List.mem_cons_of_mem _ hy)

/-- A write works as what it makes of the data. -/
theorem works_write (hput : HasRoom Tracker.react put) (hwr : wr.IsWhole) :
    Works items registers (put wr) wr.after := by
  intro w hw href
  obtain ⟨depth, hroom⟩ := hput wr w
  rw [hroom]
  rcases run_perform_cases hw hwr.isPlaced depth with ⟨⟨b, hrun⟩, htable⟩ | hrun
  · exact ⟨b, w.parts.dirty, hrun, fun hclean => ⟨hclean, fun hi => htable hi hwr⟩⟩
  · -- told of its own write while it makes passes, the tracker only marks that another one is due
    refine ⟨true, true, ?_, nofun⟩
    have hmark : (refresh Part.whole (perform Tracker.react depth)).run
        (w.withData (wr.after w.store.data)) = .ok () (withMark w (wr.after w.store.data) true) := by
      rw [refresh, EStateM.run_bind, Part.run_read]
      show (if w.parts.refreshing = true then _ else _ : Run Unit Tracker Unit).run _ = _
      rw [if_pos href]
      rfl
    rw [hrun, EStateM.run_bind, hmark]
    rfl

/-! ## A pass -/

theorem works_discard {m : Run Unit Tracker α} (h : Works items registers m f) :
    Works items registers (m >>= fun _ => pure PUnit.unit) f :=
  works_bind (g := id) h fun _ => works_pure PUnit.unit

theorem isWhole_unregister {path : String} (h : IsWhole path) : (Write.unregister path).IsWhole := by
  rintro other ⟨⟩
  exact h

theorem isWhole_set {path : String} (h : IsWhole path) (v : Value) : (Write.set path v).IsWhole := by
  rintro other ⟨⟩
  exact h

theorem works_register (hput : HasRoom Tracker.react put) {path : String} (hpath : IsWhole path)
    (item : Item) : Works items registers (register put path item) (fillOne (path, item)) := by
  cases item with
  | group g inner => exact works_pure ()
  | field f =>
    intro w hw href
    by_cases habsent : (Path.read (.object w.store.data) path).isAbsent = true
    · have hworks : Works items registers (put (.set path f.initialValue) >>= fun _ => pure ())
          (Write.set path f.initialValue).after :=
        works_discard (works_write hput (isWhole_set hpath f.initialValue))
      obtain ⟨a, dirty, hrun, hrest⟩ := hworks w hw href
      have hfill : fillOne (path, .field f) w.store.data
          = (Write.set path f.initialValue).after w.store.data := by
        simp only [fillOne, if_pos habsent]
      rw [hfill]
      refine ⟨a, dirty, ?_, hrest⟩
      rw [← hrun, register, EStateM.run_bind, run_readPath]
      show (if (Path.read (.object w.store.data) path).isAbsent = true then _ else _ :
        Run Unit Tracker Unit).run w = _
      rw [if_pos habsent]
    · have hfill : fillOne (path, .field f) w.store.data = w.store.data := by
        simp only [fillOne, if_neg habsent]
      rw [hfill]
      refine ⟨(), w.parts.dirty, ?_, fun hclean => ⟨hclean, fun _ => rfl⟩⟩
      rw [register, EStateM.run_bind, run_readPath]
      show (if (Path.read (.object w.store.data) path).isAbsent = true then _ else _ :
        Run Unit Tracker Unit).run w = _
      rw [if_neg habsent]
      rfl

/-- The writes of a pass. -/
def passWrites (registers : Bool) (write : Writer Unit Tracker) (before visible : Entries Item) :
    Run Unit Tracker Unit := do
  (moveBetween before visible).removed.forM fun path => do
    let _ ← write (.unregister path)
  if registers then
    visible.forM fun entry => register write entry.1 entry.2

/-- What is noted of a move: nothing if nothing has moved. -/
def noted (move : Move) : List Move :=
  if move.added.isEmpty && move.removed.isEmpty then [] else [move]

theorem run_noteMove (move : Move) (w : World Unit Tracker) :
    (noteMove Part.whole move).run w
      = .ok () { w with parts := { w.parts with moves := w.parts.moves ++ noted move } } := by
  unfold noteMove noted
  split
  · rw [List.append_nil]
    rfl
  · rfl

/-- What goes in a noted move is in what is noted. -/
theorem exists_noted_of_removed {move : Move} {path : String} (h : path ∈ move.removed) :
    move ∈ noted move := by
  unfold noted
  rw [if_neg]
  · exact List.mem_singleton_self move
  · rw [Bool.and_eq_true, not_and]
    intro _ hempty
    rw [List.isEmpty_iff.mp hempty] at h
    cases h

/-- A pass puts the new visible part in place, makes its writes and notes what has moved. -/
theorem run_applyVisible_eq (write : Writer Unit Tracker) (visible : Entries Item)
    (w : World Unit Tracker) :
    (applyVisible Part.whole write visible).run w
      = (passWrites w.parts.registers write w.parts.visible visible
          >>= fun _ => noteMove Part.whole (moveBetween w.parts.visible visible)).run
          { w with parts := { w.parts with visible } } := by
  simp only [applyVisible, passWrites, EStateM.run_bind, Part.run_read, Part.run_update,
    Part.whole_get, Part.whole_set]
  cases w.parts.registers <;>
    cases EStateM.run ((moveBetween w.parts.visible visible).removed.forM _) _ <;>
    simp only [Bool.false_eq_true, if_false, if_true, EStateM.run_bind, EStateM.run_pure]

theorem works_passWrites (hput : HasRoom Tracker.react put) {before visible : Entries Item}
    (hbefore : ∀ path ∈ before.keys, IsWhole path) (hvisible : ∀ path ∈ visible.keys, IsWhole path) :
    Works items registers (passWrites registers put before visible)
      (passed registers before visible) := by
  have hsweep : Works items registers
      ((moveBetween before visible).removed.forM fun path => do
        let _ ← put (.unregister path))
      (sweep (moveBetween before visible).removed) := by
    refine works_forM fun path hpath => ?_
    have hwhole : IsWhole path := hbefore path (List.mem_filter.mp hpath).1
    exact works_discard (works_write hput (isWhole_unregister hwhole))
  cases registers with
  | false => exact works_bind (g := id) hsweep fun _ => works_pure ()
  | true =>
    refine works_bind (g := fill visible) hsweep fun _ => ?_
    exact works_forM fun entry hentry =>
      works_register hput (hvisible _ (Entries.mem_keys_of_mem hentry)) entry.2

section

variable {κ σ : Type} {react : React κ σ} {put : Writer κ σ} {w : World κ σ}

/-- Deleting values that are not there does nothing. -/
theorem run_forM_unregister_of_absent (hput : HasRoom react put) {paths : List String}
    (h : ∀ path ∈ paths, (Path.read (.object w.store.data) path).isAbsent = true) :
    (paths.forM fun path => do let _ ← put (.unregister path)).run w = .ok () w := by
  refine Run.run_forM_of_noop fun path hpath => ?_
  have hnone : (Write.unregister path).change? w.store.data = .ok none := by
    rw [Write.change?, if_pos (h path hpath)]
  rw [EStateM.run_bind, hput.run_of_none react hnone]
  rfl

/-- Registering fields that have a value does nothing. -/
theorem run_forM_register_of_present {visible : Entries Item}
    (h : ∀ path f, (path, Item.field f) ∈ visible →
      (Path.read (.object w.store.data) path).isAbsent = false) :
    (visible.forM fun entry => register put entry.1 entry.2).run w = .ok () w := by
  refine Run.run_forM_of_noop fun entry hentry => ?_
  obtain ⟨path, item⟩ := entry
  cases item with
  | group g inner => rfl
  | field f =>
    have hpresent : (w.store.get path).isAbsent = false := h path f hentry
    simp only [register, EStateM.run_bind, run_readPath, hpresent, Bool.false_eq_true, if_false]
    rfl

end

/-- A pass with nothing to write writes nothing. -/
theorem run_passWrites_of_atRest (hput : HasRoom Tracker.react put) {before visible : Entries Item}
    (hrest : AtRest registers before visible w.store.data) :
    (passWrites registers put before visible).run w = .ok () w := by
  rw [passWrites, EStateM.run_bind, run_forM_unregister_of_absent hput hrest.1]
  cases registers with
  | false => rfl
  | true => exact run_forM_register_of_present (hrest.2 rfl)

/-- The world after a pass to a visible part. -/
def afterPass (registers : Bool) (visible : Entries Item) (w : World Unit Tracker) (dirty : Bool) :
    World Unit Tracker :=
  ⟨{ w.store with data := passed registers w.parts.visible visible w.store.data },
    { w.parts with
      visible, dirty, moves := w.parts.moves ++ noted (moveBetween w.parts.visible visible) }⟩

theorem Lone.afterPass (h : Lone items registers w) (visible : Entries Item) (dirty : Bool) :
    Lone items registers (afterPass registers visible w dirty) :=
  ⟨h.items_eq, h.registers_eq, h.alone, h.hears⟩

/-- **A pass**: the new visible part is in place, the data is swept and filled, and the move is
    noted. -/
theorem run_applyVisible (hw : Lone items registers w) (href : w.parts.refreshing = true)
    (hput : HasRoom Tracker.react put) {visible : Entries Item}
    (hbefore : ∀ path ∈ w.parts.visible.keys, IsWhole path)
    (hvisible : ∀ path ∈ visible.keys, IsWhole path) :
    ∃ dirty,
      (applyVisible Part.whole put visible).run w
        = .ok () (afterPass registers visible w dirty) ∧
      (dirty = false → Item.Regular items → Item.visibleTable items
          (.object (passed registers w.parts.visible visible w.store.data))
        = Item.visibleTable items (.object w.store.data)) ∧
      (AtRest registers w.parts.visible visible w.store.data → dirty = w.parts.dirty) := by
  let placed : World Unit Tracker := { w with parts := { w.parts with visible } }
  have hplaced : Lone items registers placed := ⟨hw.items_eq, hw.registers_eq, hw.alone, hw.hears⟩
  obtain ⟨a, dirty, hrun, hclean⟩ := works_passWrites hput hbefore hvisible placed hplaced href
  refine ⟨dirty, ?_, fun h => (hclean h).2, fun hrest => ?_⟩
  · rw [run_applyVisible_eq, hw.registers_eq, EStateM.run_bind, hrun]
    exact run_noteMove _ _
  · have hnothing := run_passWrites_of_atRest (w := placed) hput hrest
    rw [hnothing] at hrun
    injection hrun with _ hworld
    exact (congrArg (fun w' : World Unit Tracker => w'.parts.dirty) hworld).symm

/-! ## Hidden items -/

variable {before visible : Entries Item} {data : Object}

/-- A table whose names are paths of the form. -/
def Listed (items : List Item) (table : Entries Item) : Prop :=
  ∀ path ∈ table.keys, ∃ node ∈ Item.nodes items, node.path = path

theorem listed_visibleTable (items : List Item) (data : Value) :
    Listed items (Item.visibleTable items data) := by
  intro path hpath
  obtain ⟨entry, hentry, rfl⟩ := List.mem_map.mp hpath
  obtain ⟨node, hnode, hpath, -⟩ := Item.exists_node_of_mem_visibleTable hentry
  exact ⟨node, hnode, hpath⟩

theorem listed_byPath (h : Item.WellNamed items) : Listed items (Item.byPath items) := by
  intro path hpath
  rw [Item.keys_byPath h] at hpath
  exact List.mem_map.mp hpath

theorem Listed.isWhole {table : Entries Item} (hn : Item.WellNamed items) (h : Listed items table) :
    ∀ path ∈ table.keys, IsWhole path := by
  intro path hpath
  obtain ⟨node, hnode, rfl⟩ := h path hpath
  exact hn.isWhole hnode

/-- Items that are not in the table have no value. -/
def HiddenAbsent (items : List Item) (visible : Entries Item) (data : Object) : Prop :=
  ∀ node ∈ Item.nodes items, node.path ∉ visible.keys →
    (Path.read (.object data) node.path).isAbsent = true

theorem mem_removed_iff {path : String} :
    path ∈ (moveBetween before visible).removed ↔ path ∈ before.keys ∧ path ∉ visible.keys := by
  simp only [moveBetween, List.mem_filter, Bool.not_eq_true', Entries.contains_eq_false_iff]

theorem removed_isWhole (h : Item.WellNamed items) (hbefore : Listed items before) :
    ∀ path ∈ (moveBetween before visible).removed, IsWhole path :=
  fun path hpath => hbefore.isWhole h path (mem_removed_iff.mp hpath).1

/-- No field of the visible part stands above another one. -/
theorem unnested_visibleTable (h : Item.WellNamed items) (data : Value) :
    Unnested (Item.visibleTable items data) := by
  intro p f q g hp hq hpre
  obtain ⟨u, hu, hup, huf⟩ := Item.exists_node_of_mem_visibleTable hp
  obtain ⟨w, hw, hwq, -⟩ := Item.exists_node_of_mem_visibleTable hq
  have hfield : u.item.isField = true := by rw [huf]; rfl
  have heq : w = u := h.eq_of_prefix_of_isField hu hw hfield (by rw [hup, hwq]; exact hpre)
  calc p = u.path := hup.symm
    _ = w.path := by rw [heq]
    _ = q := hwq

/-- A hidden item and a visible field lie apart. -/
theorem apart_of_hidden_of_visible (h : Item.WellNamed items) {data : Value} {u w : Node}
    (hw : w ∈ Item.nodes items) (hu : u ∈ Item.nodes items) (hfield : u.item.isField = true)
    (hhidden : w.path ∉ (Item.visibleTable items data).keys)
    (hvisible : u.path ∈ (Item.visibleTable items data).keys) :
    Apart (Path.segments u.path) (Path.segments w.path) := by
  constructor
  · intro hpre
    rw [h.eq_of_prefix_of_isField hu hw hfield hpre] at hhidden
    exact hhidden hvisible
  · intro hpre
    have hgoverns := h.governs_of_prefix hw hu hpre
    exact hhidden (Item.mem_keys_visibleTable_of_governs h hw hu hgoverns hvisible)

/-- After a sweep what is hidden has no value. -/
theorem hiddenAbsent_sweep (hi : Item.Regular items) (hbefore : Listed items before)
    (hdata : Sound data) (h : HiddenAbsent items before data) :
    HiddenAbsent items visible (sweep (moveBetween before visible).removed data) := by
  intro node hnode hhidden
  have hwhole : ∀ path ∈ (moveBetween before visible).removed, IsWhole path :=
    removed_isWhole hi.named hbefore
  by_cases hwas : node.path ∈ before.keys
  · exact isAbsent_sweep_of_mem hdata hwhole (mem_removed_iff.mpr ⟨hwas, hhidden⟩)
  · exact isAbsent_sweep hdata hwhole (hi.named.isWhole hnode) (h node hnode hwas)

end Tracker
end DynamicForms
