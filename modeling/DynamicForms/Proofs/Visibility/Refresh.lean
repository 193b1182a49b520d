import DynamicForms.Proofs.Store.Keep
import DynamicForms.Proofs.Visibility.Prune

/-!
# `DynamicForms.Proofs.Visibility.Refresh` — a tracker inside a larger state

A tracker changes its own component and writes to the form. Its writes cannot fail for want of a place:
it deletes, and it sets initial values where nothing is found at the path of an item, which is never so
for a path without segments. So a tracker comes through its passes if its writes come through, however
much else follows from them.

## Contents
- **Keeping.** `keeps_passes`, `keeps_refresh`, `keeps_start`, `keeps_close`.
- **Coming through.** `Tracker.Manages` and its lemmas, up to `Manages.refresh`.
- `Item.exists_run_pruneRun`: pruning ends well, whatever the form and the data.
-/

namespace DynamicForms

open Value (Object)
open Run (ThroughOr keeps_pure keeps_bind keeps_forM throughOr_forM)

namespace Tracker

variable {κ σ : Type} {I E : World κ σ → Prop} {part : Part σ Tracker} {put : Writer κ σ}
  {w : World κ σ}

/-- A world in which no passes are being made any more. -/
def idled (part : Part σ Tracker) (w : World κ σ) : World κ σ :=
  { w with parts := part.set { part.get w.parts with refreshing := false } w.parts }

/-- Settling ends as what is settled does. -/
theorem run_settling_eq (m : Run κ σ Unit) (w : World κ σ) :
    (settling part m).run w = match m.run w with
      | .ok _ w' => .ok () (idled part w')
      | .error fault w' => .error fault (idled part w') := by
  show EStateM.tryCatch _ _ w = _
  have hbody : (m >>= fun _ => part.update fun t => { t with refreshing := false } :
      Run κ σ Unit) w = match m.run w with
        | .ok _ w' => .ok () (idled part w')
        | .error fault w' => .error fault w' := by
    show EStateM.run _ w = _
    rw [EStateM.run_bind]
    cases m.run w <;> rfl
  simp only [EStateM.tryCatch, hbody]
  cases m.run w <;> rfl

theorem outcome_settling (m : Run κ σ Unit) (w : World κ σ) :
    (settling part m).outcome w = idled part (m.outcome w) := by
  unfold Run.outcome
  rw [run_settling_eq]
  cases m.run w <;> rfl

/-- A world in which passes are being made. -/
def busied (part : Part σ Tracker) (w : World κ σ) : World κ σ :=
  { w with parts := part.set { part.get w.parts with refreshing := true } w.parts }

/-- Told of a write while it makes passes, a tracker only marks that another one is due. -/
theorem run_refresh_of_busy (hbusy : (part.get w.parts).refreshing = true) :
    (Tracker.refresh part put).run w
      = .ok () { w with parts := part.set { part.get w.parts with dirty := true } w.parts } := by
  have hrun : (Tracker.refresh part put).run w
      = (if (part.get w.parts).refreshing then part.update fun t => { t with dirty := true }
        else do
          part.update fun t => { t with refreshing := true }
          settling part (Tracker.passes part put
            ((Item.byPath (part.get w.parts).items).length + 1)) : Run κ σ Unit).run w := rfl
  rw [hrun, hbusy]
  rfl

/-- A refresh while no passes are being made is a few passes. -/
theorem run_refresh_of_idle (hidle : (part.get w.parts).refreshing = false) :
    (Tracker.refresh part put).run w = (settling part (Tracker.passes part put
      ((Item.byPath (part.get w.parts).items).length + 1))).run (busied part w) := by
  have hrun : (Tracker.refresh part put).run w
      = (if (part.get w.parts).refreshing then part.update fun t => { t with dirty := true }
        else do
          part.update fun t => { t with refreshing := true }
          settling part (Tracker.passes part put
            ((Item.byPath (part.get w.parts).items).length + 1)) : Run κ σ Unit).run w := rfl
  rw [hrun, hidle]
  rfl

/-! ## Keeping -/

/-- A change of a tracker that leaves its form and its subscription as they are. -/
def IsInner (f : Tracker → Tracker) : Prop :=
  ∀ t, (f t).items = t.items ∧ (f t).registers = t.registers ∧ (f t).ticket = t.ticket

section

variable (hpart : ∀ f, IsInner f → (part.update f : Run κ σ Unit).Keeps I)
  (hset : ∀ path v, (put (.set path v)).Keeps I)
  (hunregister : ∀ path, (put (.unregister path)).Keeps I)

include hset in
theorem keeps_register (path : String) (item : Item) : (register put path item).Keeps I := by
  cases item with
  | group g inner => exact keeps_pure ()
  | field f =>
    refine keeps_bind (fun _ h => h) fun v => ?_
    cases v.isAbsent with
    | false => exact keeps_pure ()
    | true => exact keeps_bind (hset _ _) fun _ => keeps_pure ()

include hpart

theorem keeps_noteMove (move : Move) : (noteMove part move : Run κ σ Unit).Keeps I := by
  unfold noteMove
  split
  · exact keeps_pure ()
  · exact hpart _ fun _ => ⟨rfl, rfl, rfl⟩

theorem keeps_settling {m : Run κ σ Unit} (hm : m.Keeps I) : (settling part m).Keeps I := by
  intro w hw
  rw [outcome_settling]
  exact hpart (fun t => { t with refreshing := false }) (fun _ => ⟨rfl, rfl, rfl⟩) _ (hm w hw)

include hset hunregister

theorem keeps_applyVisible (visible : Entries Item) : (applyVisible part put visible).Keeps I := by
  refine keeps_bind (fun _ h => h) fun t => keeps_bind (hpart _ fun _ => ⟨rfl, rfl, rfl⟩) fun _ => ?_
  refine keeps_bind (keeps_forM fun path _ => keeps_bind (hunregister _) fun _ => keeps_pure _)
    fun _ => ?_
  cases t.registers with
  | false => exact keeps_noteMove hpart _
  | true =>
    exact keeps_bind (keeps_forM fun entry _ => keeps_register hset _ _) fun _ =>
      keeps_noteMove hpart _

theorem keeps_passes (count : Nat) : (passes part put count).Keeps I := by
  induction count with
  | zero => exact keeps_pure ()
  | succ count ih =>
    refine keeps_bind (hpart _ fun _ => ⟨rfl, rfl, rfl⟩) fun _ => keeps_bind (fun _ h => h) fun t => ?_
    refine keeps_bind (fun _ h => h) fun data => ?_
    refine keeps_bind (keeps_applyVisible hpart hset hunregister _) fun _ =>
      keeps_bind (fun _ h => h) fun t => ?_
    cases t.dirty with
    | false => exact keeps_pure ()
    | true => exact ih

theorem keeps_refresh : (refresh part put).Keeps I := by
  refine keeps_bind (fun _ h => h) fun t => ?_
  cases t.refreshing with
  | true => exact hpart (fun t => { t with dirty := true }) fun _ => ⟨rfl, rfl, rfl⟩
  | false =>
    exact keeps_bind (hpart _ fun _ => ⟨rfl, rfl, rfl⟩) fun _ =>
      keeps_settling hpart (keeps_passes hpart hset hunregister _)

theorem keeps_start {owner : κ} (hsubscribe : ∀ paths, (do
      let ticket ← subscribe paths owner
      part.update fun t => { t with ticket := some ticket } : Run κ σ Unit).Keeps I) :
    (start part put owner).Keeps I := by
  have hrefresh := keeps_refresh hpart hset hunregister
  refine keeps_bind (hpart _ fun _ => ⟨rfl, rfl, rfl⟩) fun _ => keeps_bind (fun _ h => h) fun t => ?_
  cases !t.watched.isEmpty && t.ticket.isNone with
  | false => exact hrefresh
  | true =>
    have hall := keeps_bind (hsubscribe t.watched) fun _ => hrefresh
    rw [bind_assoc] at hall
    exact hall

end

/-- Whether passes are being made is the same after a refresh as before it. -/
theorem refreshing_outcome (put : Writer κ σ) (w : World κ σ) :
    (part.get ((refresh part put).outcome w).parts).refreshing = (part.get w.parts).refreshing := by
  cases hbusy : (part.get w.parts).refreshing with
  | true =>
    rw [Run.outcome_of_ok (run_refresh_of_busy hbusy)]
    show (part.get (part.set _ w.parts)).refreshing = true
    rw [part.get_set]
    exact hbusy
  | false =>
    rw [Run.outcome, run_refresh_of_idle hbusy, ← Run.outcome, outcome_settling]
    show (part.get (part.set _ _)).refreshing = false
    rw [part.get_set]

/-! ## Coming through -/

/-- A way to write by which a tracker manages: in worlds of one kind its writes come through or escape,
    and its own changes, apart from the form, the subscription and whether passes are being made, keep
    the kind. -/
structure Manages (part : Part σ Tracker) (items : List Item) (registers : Bool)
    (put : Writer κ σ) (E I : World κ σ → Prop) : Prop where
  /-- The form of the tracker. -/
  items_eq : ∀ {w}, I w → (part.get w.parts).items = items
  /-- Whether the tracker registers fields. -/
  registers_eq : ∀ {w}, I w → (part.get w.parts).registers = registers
  /-- Its own changes keep the kind of the world. -/
  update : ∀ {w} {t : Tracker}, I w → t.items = items → t.registers = registers →
    t.ticket = (part.get w.parts).ticket → t.refreshing = (part.get w.parts).refreshing →
    I { w with parts := part.set t w.parts }
  /-- Deleting comes through. -/
  unregister : ∀ path {w}, I w → (put (.unregister path)).ThroughOr E w I
  /-- Setting a value at an item where nothing is found comes through. -/
  set : registers = true → ∀ {w} {node : Node} (v : Value), I w → node ∈ Item.nodes items →
    (w.store.get node.path).isAbsent = true → (put (.set node.path v)).ThroughOr E w I
  /-- What has escaped stays so. -/
  keeps_update : ∀ f, (part.update f : Run κ σ Unit).Keeps E
  /-- What has escaped stays so. -/
  keeps_put : ∀ wr, (put wr).Keeps E

variable {items : List Item} {registers : Bool}

theorem throughOr_discard {α : Type} {m : Run κ σ α} (hm : m.ThroughOr E w I) :
    (m >>= fun _ => pure PUnit.unit).ThroughOr E w I :=
  hm.bind (fun _ => keeps_pure _) fun _ w' hw' => Or.inl ⟨_, w', rfl, hw'⟩

section

variable (h : Manages part items registers put E I) (hw : I w)

include h hw

/-- A change of the tracker alone, while the passes go on. -/
theorem Manages.change {f : Tracker → Tracker} (hf : IsInner f)
    (hrefreshing : ∀ t, (f t).refreshing = t.refreshing) :
    (part.update f : Run κ σ Unit).ThroughOr E w I := by
  obtain ⟨hitems, hregisters, hticket⟩ := hf (part.get w.parts)
  exact Or.inl ⟨(), _, Part.run_update part f w, h.update hw (hitems.trans (h.items_eq hw))
    (hregisters.trans (h.registers_eq hw)) hticket (hrefreshing _)⟩

/-- Registering one visible item. -/
theorem Manages.register (hregisters : registers = true) {node : Node}
    (hnode : node ∈ Item.nodes items) (item : Item) :
    (Tracker.register put node.path item).ThroughOr E w I := by
  cases item with
  | group g inner => exact Or.inl ⟨(), w, rfl, hw⟩
  | field f =>
    refine ThroughOr.after (run_readPath node.path w) ?_
    cases habsent : (w.store.get node.path).isAbsent with
    | false => exact Or.inl ⟨(), w, rfl, hw⟩
    | true => exact throughOr_discard (h.set hregisters f.initialValue hw hnode habsent)

/-- Noting what has moved. -/
theorem Manages.noteMove (move : Move) :
    (Tracker.noteMove part move : Run κ σ Unit).ThroughOr E w I := by
  unfold Tracker.noteMove
  split
  · exact Or.inl ⟨(), w, rfl, hw⟩
  · exact h.change hw (fun _ => ⟨rfl, rfl, rfl⟩) fun _ => rfl

/-- Making the visible part of some data the current one. -/
theorem Manages.applyVisible (data : Value) :
    (Tracker.applyVisible part put (Item.visibleTable items data)).ThroughOr E w I := by
  have hnote := fun move => keeps_noteMove (fun f _ => h.keeps_update f) move
  have hkeepsFill : ((Item.visibleTable items data).forM fun entry =>
      Tracker.register put entry.1 entry.2).Keeps E :=
    keeps_forM fun entry _ => keeps_register (fun _ _ => h.keeps_put _) _ _
  refine ThroughOr.after (Part.run_read part w) ?_
  refine ThroughOr.bind (h.change hw ?_ fun _ => rfl) (fun _ => ?_) fun _ w₁ hw₁ => ?_
  · exact fun _ => ⟨rfl, rfl, rfl⟩
  · refine keeps_bind (keeps_forM fun path _ => keeps_bind (h.keeps_put _) fun _ => keeps_pure _)
      fun _ => ?_
    cases (part.get w.parts).registers with
    | false => exact hnote _
    | true => exact keeps_bind hkeepsFill fun _ => hnote _
  · refine ThroughOr.bind (throughOr_forM (Q := I) (fun path _ => ?_) (fun path _ w' hw' => ?_) hw₁)
      (fun _ => ?_) fun _ w₂ hw₂ => ?_
    · exact keeps_bind (h.keeps_put _) fun _ => keeps_pure _
    · exact throughOr_discard (h.unregister path hw')
    · cases (part.get w.parts).registers with
      | false => exact hnote _
      | true => exact keeps_bind hkeepsFill fun _ => hnote _
    · rw [h.registers_eq hw]
      cases hregisters : registers with
      | false => exact h.noteMove hw₂ _
      | true =>
        refine ThroughOr.bind (throughOr_forM (Q := I) (fun entry _ => ?_)
          (fun entry hentry w' hw' => ?_) hw₂) (fun _ => hnote _) fun _ w₃ hw₃ => h.noteMove hw₃ _
        · exact keeps_register (fun _ _ => h.keeps_put _) _ _
        · obtain ⟨node, hnode, hpath, -⟩ := Item.exists_node_of_mem_visibleTable hentry
          rw [← hpath]
          exact h.register hw' hregisters hnode entry.2

/-- Making passes. -/
theorem Manages.passes (count : Nat) : (Tracker.passes part put count).ThroughOr E w I := by
  induction count generalizing w with
  | zero => exact Or.inl ⟨(), w, rfl, hw⟩
  | succ count ih =>
    have hmore : ∀ t : Tracker,
        (if t.dirty then Tracker.passes part put count else pure () : Run κ σ Unit).Keeps E := by
      intro t
      cases t.dirty with
      | false => exact keeps_pure ()
      | true =>
        exact keeps_passes (fun f _ => h.keeps_update f) (fun _ _ => h.keeps_put _)
          (fun _ => h.keeps_put _) count
    have happly := fun visible => keeps_applyVisible (fun f _ => h.keeps_update f)
      (fun _ _ => h.keeps_put _) (fun _ => h.keeps_put _) visible
    refine ThroughOr.bind (h.change hw ?_ fun _ => rfl) (fun _ => ?_) fun _ w₁ hw₁ => ?_
    · exact fun _ => ⟨rfl, rfl, rfl⟩
    · exact keeps_bind (fun _ h => h) fun t => keeps_bind (fun _ h => h) fun data =>
        keeps_bind (happly _) fun _ => keeps_bind (fun _ h => h) hmore
    refine ThroughOr.after (Part.run_read part w₁) (ThroughOr.after (run_readData w₁) ?_)
    rw [h.items_eq hw₁]
    refine (h.applyVisible hw₁ _).bind (fun _ => keeps_bind (fun _ h => h) hmore) fun _ w₂ hw₂ => ?_
    refine ThroughOr.after (Part.run_read part w₂) ?_
    cases (part.get w₂.parts).dirty with
    | false => exact Or.inl ⟨(), w₂, rfl, hw₂⟩
    | true => exact ih hw₂

end

/-- **A refresh comes through or escapes**; if it comes through, no passes are being made any more in a
    world of the kind in which they were made. -/
theorem Manages.refresh (h : Manages part items registers put E I)
    (hidle : (part.get w.parts).refreshing = false) (hw : I (busied part w)) :
    (Tracker.refresh part put).ThroughOr E w fun w' => ∃ last, I last ∧ w' = idled part last := by
  unfold ThroughOr
  rw [Run.Yields, Run.outcome, run_refresh_of_idle hidle, ← Run.outcome]
  rcases h.passes hw ((Item.byPath (part.get w.parts).items).length + 1) with
    ⟨⟨⟩, last, hpasses, hlast⟩ | hescaped
  · refine Or.inl ⟨(), idled part last, ?_, last, hlast, rfl⟩
    rw [run_settling_eq, hpasses]
  · right
    rw [outcome_settling]
    exact h.keeps_update (fun t => { t with refreshing := false }) _ hescaped

end Tracker

namespace Item

/-- A tracker that registers nothing, while it makes passes. -/
def Clears (items : List Item) (w : World Unit Tracker) : Prop :=
  w.parts.items = items ∧ w.parts.registers = false ∧ w.parts.refreshing = true

/-- A deletion in the passes of such a tracker. -/
theorem yields_perform_unregister {items : List Item} {w : World Unit Tracker} (hw : Clears items w)
    (depth : Nat) (path : String) :
    (perform Tracker.react (depth + 1) (.unregister path)).Yields w (Clears items) := by
  have hplaced : (Write.unregister path).IsPlaced := trivial
  rcases Write.change?_cases hplaced w.store.data with ⟨hnone, -⟩ | hsome
  · exact ⟨false, w, run_perform_of_none _ _ hnone, hw⟩
  · rw [Run.Yields, run_perform_of_some _ _ hsome]
    have htell : ∀ (c : Captured Unit) w', Clears items w' →
        (tell (Tracker.react (perform Tracker.react depth)) (.unregister path) c).Yields w'
          (Clears items) := by
      intro c w' hw'
      have hbusy : (Part.whole.get w'.parts).refreshing = true := hw'.2.2
      have hmark : (Tracker.refresh Part.whole (perform Tracker.react depth)).run w' = _ :=
        Tracker.run_refresh_of_busy hbusy
      rcases told_cases (Tracker.react (perform Tracker.react depth)) (.unregister path) c w' with
        hquiet | ⟨news, -, htold⟩
      · exact ⟨(), w', hquiet, hw'⟩
      · exact ⟨(), _, htold.trans hmark, hw'⟩
    have hall : ((w.store.captureFor (.unregister path)).forM
        (tell (Tracker.react (perform Tracker.react depth)) (.unregister path))).Yields
        (w.withData ((Write.unregister path).after w.store.data)) (Clears items) :=
      Run.yields_forM (I := fun _ => Clears items) (fun c _ w' hw' => htell c w' hw') hw
    exact hall.bind fun _ w' hw' => ⟨true, w', rfl, hw'⟩

/-- **Pruning ends well**, whatever the form and the data. -/
theorem exists_run_pruneRun (items : List Item) (data : Object) :
    ∃ w, pruneRun.run (pruneWorld items data) = .ok () w ∧ w.store.data = prune items data := by
  have hmanages : Tracker.Manages Part.whole items false (write Tracker.react) (fun _ => False)
      (Clears items) :=
    { items_eq := fun hw => hw.1
      registers_eq := fun hw => hw.2.1
      update := fun hw hitems hregisters _ hrefreshing =>
        ⟨hitems, hregisters, hrefreshing.trans hw.2.2⟩
      unregister := fun path w hw => by
        left
        rw [Run.Yields, run_write, nesting_eq]
        exact yields_perform_unregister hw _ path
      set := nofun
      keeps_update := fun _ _ h => h.elim
      keeps_put := fun _ _ h => h.elim }
  have hstart : (Tracker.start Part.whole (write Tracker.react) ()).Yields (pruneWorld items data)
      fun _ => True := by
    refine Tracker.yields_start_of fun w hw hidle _ _ => ?_
    have hbusy : Clears items (Tracker.busied Part.whole w) := ⟨hw.items_eq, hw.registers_eq, rfl⟩
    have hrefresh := hmanages.refresh hidle hbusy
    exact (hrefresh.resolve_right fun h => h).mono fun _ _ => trivial
  obtain ⟨w, rest, hrun, hsame, -, -⟩ := run_pruneRun_of hstart
  exact ⟨w, hrun, hsame⟩

end Item
end DynamicForms
