import DynamicForms.Proofs.Visibility.Consistency

/-!
# `DynamicForms.Proofs.Visibility.Retention` — what was typed into a field stays there

While a tracker makes its passes, each of them deletes the values of items that went in it, and gives
a value to visible fields that have none. Nothing else is written, and fields lie apart from each
other and from all that is hidden while they are shown. So a field that no pass hides keeps what was
typed into it, whatever the conditions of the form.

It is not enough that the field is visible before and after a step. With a diamond of conditions an
item can appear in one pass and go again in the next one; what is shown only while it is not there is
hidden in between, and its value is deleted.

## Contents
- `Tracker.Idling`: what holds between the steps of any run.
- `Tracker.Carries`: what passes carry over.
- **Passes.** `Carries.afterPass`, `yields_refresh_carries`.
- **Runs.** `Idling.event`, `idling_of_run`, `retained_of_set`.
- **A diamond.** `diamondForm`, `not_retained_of_visible`.
-/

namespace DynamicForms

open Value (Object)
open Path (Sound Apart)

namespace Tracker

variable {items : List Item} {w w' w'' : World Unit Tracker} {put : Writer Unit Tracker}

/-- What holds between the steps of any run. -/
structure Idling (items : List Item) (w : World Unit Tracker) : Prop where
  /-- The tracker is alone, and registers fields. -/
  lone : Lone items true w
  /-- No passes are being made. -/
  idle : w.parts.refreshing = false
  /-- What is visible is part of the form. -/
  listed : Listed items w.parts.visible

/-- From one world to another the visible fields that no move hides stay visible, and what is found at
    them is retained. -/
def RetainedBy (items : List Item) (moved : List Move) (w w' : World Unit Tracker) : Prop :=
  ∀ u ∈ Item.nodes items, ∀ f, u.item = .field f → u.path ∈ w.parts.visiblePaths →
    (∀ move ∈ moved, u.path ∉ move.removed) →
    u.path ∈ w'.parts.visiblePaths ∧ f.Retains (w.store.get u.path) (w'.store.get u.path)

/-- What passes carry over from one world to another. -/
structure Carries (items : List Item) (w w' : World Unit Tracker) : Prop where
  /-- The tracker is still alone. -/
  lone : Lone items true w'
  /-- What is visible is part of the form. -/
  listed : Listed items w'.parts.visible
  /-- All moves are noted, and what they do not hide is retained. -/
  retained : ∃ moved, w'.parts.moves = w.parts.moves ++ moved ∧ RetainedBy items moved w w'

theorem Carries.refl (hw : Lone items true w) (hlisted : Listed items w.parts.visible) :
    Carries items w w :=
  ⟨hw, hlisted, [], (List.append_nil _).symm, fun _ _ f _ hvisible _ =>
    ⟨hvisible, Field.Retains.refl f _⟩⟩

theorem Carries.trans (h : Carries items w w') (h' : Carries items w' w'') :
    Carries items w w'' := by
  obtain ⟨moved, hmoves, hretained⟩ := h.retained
  obtain ⟨moved', hmoves', hretained'⟩ := h'.retained
  refine ⟨h'.lone, h'.listed, moved ++ moved', ?_, ?_⟩
  · rw [hmoves', hmoves, List.append_assoc]
  · intro u hu f hf hvisible hkept
    obtain ⟨hvisible', hvalue⟩ := hretained u hu f hf hvisible
      fun move hmove => hkept move (List.mem_append_left _ hmove)
    obtain ⟨hvisible'', hvalue'⟩ := hretained' u hu f hf hvisible'
      fun move hmove => hkept move (List.mem_append_right _ hmove)
    exact ⟨hvisible'', hvalue.trans hvalue'⟩

/-! ## Passes -/

/-- A visible field is one of those that are filled or lies apart from them. -/
theorem apart_of_visible_field (hn : Item.WellNamed items) {u : Node} {f : Field}
    (hu : u ∈ Item.nodes items) (hf : u.item = .field f) {data : Value} {p : String} {g : Field}
    (hp : (p, Item.field g) ∈ Item.visibleTable items data) :
    Apart (Path.segments p) (Path.segments u.path) ∨ (p = u.path ∧ g = f) := by
  obtain ⟨x, hx, hxp, hxg⟩ := Item.exists_node_of_mem_visibleTable hp
  have hfieldU : u.item.isField = true := by rw [hf]; rfl
  have hfieldX : x.item.isField = true := by rw [hxg]; rfl
  by_cases heq : x = u
  · right
    subst heq
    rw [hf] at hxg
    exact ⟨hxp.symm, by injection hxg with hfield; exact hfield.symm⟩
  · left
    rw [← show x.path = p from hxp]
    constructor
    · intro hpre
      exact heq (hn.eq_of_prefix_of_isField hx hu hfieldX hpre).symm
    · intro hpre
      exact heq (hn.eq_of_prefix_of_isField hu hx hfieldU hpre)

/-- **A pass retains what it does not hide.** -/
theorem Carries.afterPass (hn : Item.WellNamed items) (hw : Lone items true w)
    (hlisted : Listed items w.parts.visible) (dirty : Bool) :
    Carries items w (Tracker.afterPass true (visibleNow items w) w dirty) := by
  refine ⟨hw.afterPass _ _, listed_visibleNow items w, _, rfl, ?_⟩
  intro u hu f hf hvisible hkept
  have hfield : u.item.isField = true := by rw [hf]; rfl
  have hstays : u.path ∉ (moveBetween w.parts.visible (visibleNow items w)).removed :=
    fun h => hkept _ (exists_noted_of_removed h) h
  have hnow : u.path ∈ (visibleNow items w).keys := by
    by_contra hgone
    exact hstays (mem_removed_iff.mpr ⟨hvisible, hgone⟩)
  refine ⟨hnow, ?_⟩
  -- what goes lies apart from the field, for the field is still visible
  have hswept : Path.read (.object (sweep
        (moveBetween w.parts.visible (visibleNow items w)).removed w.store.data)) u.path
      = Path.read (.object w.store.data) u.path := by
    refine read_sweep_of_apart (hn.isWhole hu) (fun path hpath => ?_) _
    obtain ⟨hwas, hgone⟩ := mem_removed_iff.mp hpath
    obtain ⟨x, hx, rfl⟩ := hlisted path hwas
    exact (apart_of_hidden_of_visible hn hx hu hfield hgone hnow).symm
  have hplaces : ∀ p g, (p, Item.field g) ∈ visibleNow items w →
      Apart (Path.segments p) (Path.segments u.path) ∨ (p = u.path ∧ g = f) :=
    fun p g hp => apart_of_visible_field hn hu hf hp
  have hfilled := retains_fill (hn.isWhole hu) hplaces
    (sweep (moveBetween w.parts.visible (visibleNow items w)).removed w.store.data)
  rw [hswept] at hfilled
  exact hfilled

/-- **A refresh retains what none of its passes hides.** -/
theorem yields_refresh_carries (hn : Item.WellNamed items) (hput : HasRoom Tracker.react put)
    (hw : Idling items w) :
    (refresh Part.whole put).Yields w fun w' => Idling items w' ∧ Carries items w w' := by
  let busy : World Unit Tracker := withRefreshing w true
  have hbusy : Lone items true busy := hw.lone.withRefreshing true
  have hpasses : (passes Part.whole put (Item.nodeCount items + 1)).Yields busy
      fun last => Carries items busy last := by
    refine yields_passes_of
      (I := fun _ now => now.parts.refreshing = true ∧ Carries items busy now)
      ?_ (fun _ hout => hout.2) ⟨rfl, Carries.refl hbusy hw.listed⟩
    rintro count now ⟨href, hcarries⟩
    obtain ⟨dirty, hrun, -, -⟩ := run_round hn hcarries.lone href hput hcarries.listed
    have hnext := hcarries.trans (Carries.afterPass hn hcarries.lone hcarries.listed dirty)
    refine ⟨_, hrun, ?_⟩
    split
    · exact ⟨href, hnext⟩
    · exact hnext
  refine (yields_refresh_of hn hw.lone hw.idle hpasses).mono ?_
  rintro _ ⟨last, hcarries, rfl⟩
  have hlone := hcarries.lone.withRefreshing false
  exact ⟨⟨hlone, rfl, hcarries.listed⟩, hlone, hcarries.listed, hcarries.retained⟩

/-! ## Runs -/

/-- A write that has no place does nothing if it does not fail. -/
theorem eq_of_run_write_of_not_placed {wr : Write} (hwr : ¬ wr.IsPlaced) {b : Bool}
    (hrun : (write Tracker.react wr).run w = .ok b w') : w' = w := by
  cases wr with
  | unregister path => exact absurd trivial hwr
  | reset data => exact absurd trivial hwr
  | set path v =>
    have hnone : Path.write? w.store.data path v = none := by
      rw [Path.write?, Classical.not_not.mp hwr]
    rw [run_write, nesting_eq] at hrun
    cases hsame : (Path.read (.object w.store.data) path).sameValue v with
    | true =>
      have hnothing : (Write.set path v).change? w.store.data = .ok none := by
        rw [Write.change?, if_pos hsame]
      rw [run_perform_of_none _ _ hnothing] at hrun
      injection hrun with _ hworld
      exact hworld.symm
    | false =>
      have hfails : (Write.set path v).change? w.store.data = .error .emptyPath := by
        rw [Write.change?, hsame, if_neg Bool.false_ne_true, hnone]
      rw [run_perform_of_error _ _ hfails] at hrun
      cases hrun

/-- A write that has a place ends well; what it does not touch and no pass hides is retained. -/
theorem yields_write_carries (hn : Item.WellNamed items) (hw : Idling items w) {wr : Write}
    (hwr : wr.IsPlaced) :
    (Event.write wr).run.Yields w fun w' =>
      Idling items w' ∧ Carries items (w.withData (wr.after w.store.data)) w' := by
  have hafter : Idling items (w.withData (wr.after w.store.data)) :=
    ⟨hw.lone.withData _, hw.idle, hw.listed⟩
  have hrun : (Event.write wr).run.run w
      = (perform Tracker.react w.store.nesting wr >>= fun _ => pure ()).run w := rfl
  rw [nesting_eq] at hrun
  rw [Run.Yields, hrun]
  rcases run_perform_cases hw.lone hwr (188 + w.store.watchings.length + 1) with
    ⟨⟨b, hrun⟩, -⟩ | hrun
  · -- the tracker is not told
    refine ⟨(), w.withData (wr.after w.store.data), ?_, hafter,
      Carries.refl hafter.lone hafter.listed⟩
    rw [EStateM.run_bind, hrun]
    rfl
  · -- the tracker is told, and refreshes with the writes that are left for it
    obtain ⟨⟨⟩, w', hrefresh, hw'⟩ := yields_refresh_carries hn (hasRoom_perform _ _) hafter
    refine ⟨(), w', ?_, hw'⟩
    rw [EStateM.run_bind, hrun, EStateM.run_bind, hrefresh]
    rfl

/-- A step that ends well leaves the tracker idling. -/
theorem Idling.event (hn : Item.WellNamed items) (hw : Idling items w) {e : Event}
    (hrun : e.run.run w = .ok () w') : Idling items w' := by
  cases e with
  | refresh => exact ((yields_refresh_carries hn (hasRoom_write _) hw).of_run hrun).1
  | write wr =>
    by_cases hwr : wr.IsPlaced
    · exact ((yields_write_carries hn hw hwr).of_run hrun).1
    · have hwrite : ∃ b, (write Tracker.react wr).run w = .ok b w' := by
        rw [Event.run, EStateM.run_bind] at hrun
        cases hb : (write Tracker.react wr).run w with
        | ok b after =>
          rw [hb] at hrun
          injection hrun with _ hworld
          exact ⟨b, by rw [hworld]⟩
        | error fault after =>
          rw [hb] at hrun
          cases hrun
      obtain ⟨b, hb⟩ := hwrite
      rw [eq_of_run_write_of_not_placed hwr hb]
      exact hw

/-- Starting leaves the tracker idling. -/
theorem yields_start_idling (hn : Item.WellNamed items) (data : Object) :
    (start Part.whole (write Tracker.react) ()).Yields ⟨Store.ofData data, ofItems items true⟩
      (Idling items) := by
  refine yields_start_of fun w hw hidle _ hvisible => ?_
  have hidling : Idling items w := ⟨hw, hidle, hvisible ▸ listed_byPath hn⟩
  exact (yields_refresh_carries hn (hasRoom_write _) hidling).mono fun _ h => h.1

/-- **Between the steps of every run the tracker idles.** -/
theorem idling_of_run (hn : Item.WellNamed items) {data : Object} {started : World Unit Tracker}
    {events : List Event}
    (hstart : (start Part.whole (write Tracker.react) ()).run
      ⟨Store.ofData data, ofItems items true⟩ = .ok () started)
    (hevents : (events.forM Event.run).run started = .ok () w) : Idling items w := by
  have hstarted : Idling items started := (yields_start_idling hn data).of_run hstart
  clear hstart
  induction events generalizing started with
  | nil =>
    injection hevents with _ hworld
    exact hworld ▸ hstarted
  | cons e rest ih =>
    have hsplit : (e.run >>= fun _ => rest.forM Event.run).run started = .ok () w := hevents
    rw [EStateM.run_bind] at hsplit
    cases hfirst : e.run.run started with
    | ok a between =>
      rw [hfirst] at hsplit
      exact ih hsplit (hstarted.event hn hfirst)
    | error fault between =>
      rw [hfirst] at hsplit
      cases hsplit

/-- **What was typed into a field stays there**, whatever the conditions of the form: in every state of
    a run, a value set at some place ends well, and every visible field that lies apart from the place
    and that none of the moves of the step hides is visible afterwards, with what was found at it
    before; only where there was nothing there may be the initial value. -/
theorem retained_of_set (hn : Item.WellNamed items) {data : Object} {started : World Unit Tracker}
    {events : List Event}
    (hstart : (start Part.whole (write Tracker.react) ()).run
      ⟨Store.ofData data, ofItems items true⟩ = .ok () started)
    (hevents : (events.forM Event.run).run started = .ok () w) {path : String}
    (hpath : Path.segments path ≠ []) (v : Value) :
    ∃ w' moved, (Event.write (.set path v)).run.run w = .ok () w' ∧
      w'.parts.moves = w.parts.moves ++ moved ∧
      ∀ u ∈ Item.nodes items, ∀ f, u.item = .field f →
        Apart (Path.segments path) (Path.segments u.path) →
        u.path ∈ w.parts.visiblePaths → (∀ move ∈ moved, u.path ∉ move.removed) →
        u.path ∈ w'.parts.visiblePaths ∧
          f.Retains (w.store.get u.path) (w'.store.get u.path) := by
  have hw := idling_of_run hn hstart hevents
  have hplaced : (Write.set path v).IsPlaced := hpath
  obtain ⟨⟨⟩, w', hrun, -, hcarries⟩ := yields_write_carries hn hw hplaced
  obtain ⟨moved, hmoves, hretained⟩ := hcarries.retained
  refine ⟨w', moved, hrun, hmoves, ?_⟩
  intro u hu f hf hapart hvisible hkept
  have hread : Path.read (.object ((Write.set path v).after w.store.data)) u.path
      = Path.read (.object w.store.data) u.path :=
    Write.read_after_of_apart rfl (hn.isWhole hu) hapart _
  obtain ⟨hstays, hvalue⟩ := hretained u hu f hf hvisible hkept
  refine ⟨hstays, ?_⟩
  show f.Retains (Path.read (.object w.store.data) u.path) (w'.store.get u.path)
  rw [← hread]
  exact hvalue

/-! ## A diamond -/

/-- A form with a diamond of conditions: `hint` and `detail` ask for `choice` to be "yes", `detail` also
    for `hint` to be anything but empty, and `note` for `detail` to be anything but empty. -/
def diamondForm : List Item :=
  [.field { (default : Field) with id := "choice" },
   .field { (default : Field) with id := "hint", showWhen := some ⟨"choice", .text "yes"⟩ },
   .field { (default : Field) with
    id := "detail"
    showWhen := some ⟨"choice", .text "yes"⟩
    visibility := some ⟨"hint", .notEquals, .one ""⟩ },
   .field { (default : Field) with
    id := "note", visibility := some ⟨"detail", .notEquals, .one ""⟩ }]

theorem regular_diamondForm : Item.Regular diamondForm := by decide +kernel

theorem acyclic_diamondForm : Item.Acyclic diamondForm :=
  Item.acyclic_of_numbered (fun node => ["choice", "hint", "detail", "note"].idxOf node.path)
    (by decide +kernel)

/-- The world after starting with no data and making some steps, if all end well. -/
def worldAfter (items : List Item) (events : List Event) : Option (World Unit Tracker) :=
  match (start Part.whole (write Tracker.react) ()).run
      ⟨Store.ofData [], ofItems items true⟩ with
  | .error _ _ => none
  | .ok _ started =>
    match (events.forM Event.run).run started with
    | .error _ _ => none
    | .ok _ w => some w

theorem exists_run_of_worldAfter {events : List Event} (h : worldAfter items events = some w) :
    ∃ started, (start Part.whole (write Tracker.react) ()).run
        ⟨Store.ofData [], ofItems items true⟩ = .ok () started ∧
      (events.forM Event.run).run started = .ok () w := by
  unfold worldAfter at h
  split at h
  · cases h
  next started hstart =>
  split at h
  · cases h
  next last hlast =>
  cases h
  exact ⟨started, hstart, hlast⟩

/-- A note is typed. -/
def typed : List Event := [.write (.set "note" (.text "typed"))]

/-- The world after a choice, if that ends well. -/
def afterChoice (choice : String) (w : World Unit Tracker) : Option (World Unit Tracker) :=
  match (Event.write (.set "choice" (.text choice))).run.run w with
  | .error _ _ => none
  | .ok _ w' => some w'

theorem run_of_afterChoice {choice : String} (h : afterChoice choice w = some w') :
    (Event.write (.set "choice" (.text choice))).run.run w = .ok () w' := by
  unfold afterChoice at h
  split at h
  · cases h
  next last hlast =>
  cases h
  exact hlast

/-- Whether the note holds what was typed. -/
def holdsNote (w : World Unit Tracker) : Bool :=
  (w.store.get "note").sameValue (.text "typed")

/-- Whether a move has hidden the note. -/
def hidesNote (w : World Unit Tracker) : Bool :=
  w.parts.moves.any fun move => move.removed.contains "note"

/-- The note as a node of the form. -/
def noteNode : Node :=
  ⟨.field { (default : Field) with
    id := "note", visibility := some ⟨"detail", .notEquals, .one ""⟩ }, "note", ""⟩

theorem noteNode_mem : noteNode ∈ Item.nodes diamondForm :=
  List.mem_cons_of_mem _ (List.mem_cons_of_mem _ (List.mem_cons_of_mem _ List.mem_cons_self))

/-- A choice that shows nothing new leaves the note as it was typed. -/
theorem retained_of_set_note :
    ∃ started w w', (start Part.whole (write Tracker.react) ()).run
        ⟨Store.ofData [], ofItems diamondForm true⟩ = .ok () started ∧
      (typed.forM Event.run).run started = .ok () w ∧
      (Event.write (.set "choice" (.text "no"))).run.run w = .ok () w' ∧
      "note" ∈ w'.parts.visiblePaths ∧ holdsNote w' = true := by
  have hcheck : ((worldAfter diamondForm typed).any fun w =>
      w.parts.isVisible "note" && holdsNote w &&
        (afterChoice "no" w).any fun w' => !hidesNote w') = true := by
    decide +kernel
  obtain ⟨w, hw, hcheck⟩ := (Option.any_eq_true _ _).mp hcheck
  rw [Bool.and_eq_true, Bool.and_eq_true] at hcheck
  obtain ⟨⟨hvisible, hnote⟩, hstep⟩ := hcheck
  obtain ⟨after, hafter, hhides⟩ := (Option.any_eq_true _ _).mp hstep
  obtain ⟨started, hstart, hevents⟩ := exists_run_of_worldAfter hw
  obtain ⟨w', moved, hrun, hmoves, hretained⟩ := retained_of_set regular_diamondForm.named hstart
    hevents (show Path.segments "choice" ≠ [] by decide +kernel) (.text "no")
  rw [run_of_afterChoice hafter] at hrun
  injection hrun with _ hworld
  subst hworld
  have hkept : ∀ move ∈ moved, "note" ∉ move.removed := by
    intro move hmove hgone
    have hmoved : move ∈ after.parts.moves := by
      rw [hmoves]
      exact List.mem_append_right _ hmove
    have hhidden : hidesNote after = true :=
      List.any_eq_true.mpr ⟨move, hmoved, List.contains_iff_mem.mpr hgone⟩
    rw [hhidden] at hhides
    cases hhides
  have hapart : Apart (Path.segments "choice") (Path.segments "note") :=
    Path.apart_of_not_overlaps (by decide +kernel) (by decide +kernel) (by decide +kernel)
  obtain ⟨hstays, hvalue⟩ := hretained noteNode noteNode_mem _ rfl hapart
    (Entries.contains_iff.mp hvisible) hkept
  refine ⟨started, w, after, hstart, hevents, run_of_afterChoice hafter, hstays, ?_⟩
  have hnote' : (w.store.get "note").sameValue (.text "typed") = true := hnote
  rcases hvalue with hsame | ⟨habsent, -⟩
  · have hread : after.store.get "note" = w.store.get "note" := hsame
    rw [holdsNote, hread]
    exact hnote
  · have hmissing : w.store.get "note" = .absent := (Value.isAbsent_iff _).mp habsent
    rw [hmissing, Value.sameValue_absent_left] at hnote'
    cases hnote'

/-- **It is not enough that a field is visible before and after a step.** On the diamond the note is
    visible before "yes" is chosen and afterwards, and yet what was typed into it is gone. -/
theorem not_retained_of_visible :
    ¬ ∀ (items : List Item) (data : Object) (events : List Event)
        (started w w' : World Unit Tracker) (path : String) (v : Value),
      Item.Regular items → Item.Acyclic items → Sound data → (∀ e ∈ events, e.IsPlain) →
      (start Part.whole (write Tracker.react) ()).run
        ⟨Store.ofData data, ofItems items true⟩ = .ok () started →
      (events.forM Event.run).run started = .ok () w → (Write.set path v).IsPlain →
      (Event.write (.set path v)).run.run w = .ok () w' →
      ∀ u ∈ Item.nodes items, ∀ f, u.item = .field f → Path.overlaps path u.path = false →
        u.path ∈ w.parts.visiblePaths → u.path ∈ w'.parts.visiblePaths →
        w'.store.get u.path = w.store.get u.path := by
  intro h
  have hcheck : ((worldAfter diamondForm typed).any fun w =>
      w.parts.isVisible "note" && holdsNote w &&
        (afterChoice "yes" w).any fun w' => w'.parts.isVisible "note" && !holdsNote w') = true := by
    decide +kernel
  obtain ⟨w, hw, hcheck⟩ := (Option.any_eq_true _ _).mp hcheck
  rw [Bool.and_eq_true, Bool.and_eq_true] at hcheck
  obtain ⟨⟨hvisible, hnote⟩, hstep⟩ := hcheck
  obtain ⟨w', hw', hlost⟩ := (Option.any_eq_true _ _).mp hstep
  rw [Bool.and_eq_true] at hlost
  obtain ⟨hvisible', hlost⟩ := hlost
  obtain ⟨started, hstart, hevents⟩ := exists_run_of_worldAfter hw
  have hsame : w'.store.get "note" = w.store.get "note" :=
    h diamondForm [] typed started w w' "choice" (.text "yes") regular_diamondForm
      acyclic_diamondForm (by decide +kernel) (by decide +kernel) hstart hevents
      (by decide +kernel) (run_of_afterChoice hw') noteNode noteNode_mem _ rfl (by decide +kernel)
      (Entries.contains_iff.mp hvisible) (Entries.contains_iff.mp hvisible')
  have hnote' : holdsNote w' = true := by
    rw [holdsNote, hsame]
    exact hnote
  rw [hnote'] at hlost
  cases hlost

end Tracker
end DynamicForms
