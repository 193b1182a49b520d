import DynamicForms.Proofs.Session.Outcome
import DynamicForms.Proofs.Session.Unaided

/-!
# `DynamicForms.Proofs.Session.Cleared` — an edit after the draft was thrown away

An autosaver whose draft was thrown away overlooks what it is told of next. It is told of every write, also of
those that the tracker makes because of an edit, and of these before it is told of the edit itself. So it
overlooks an edit if the tracker has nothing to write. An edit that cascades may well be saved.

## Contents
- `Tracker.AtRest.again`; `Session.run_refresh_of_atRest`: a refresh that writes nothing.
- `Autosaver.IsBlank`; `Session.Cleared`: there is no draft, and none is going to be saved.
- `Session.Cascades`: an edit makes the tracker write.
- `Hearing`: what holds while an edit is told; `Hearing.notice`, `Hearing.tell`.
- `Overlooking`: the next notice is overlooked; `Overlooking.put`.
- `noDraft_of_cleared`; `not_noDraft_of_cleared`.
-/

namespace DynamicForms

open Value (Object)

namespace Tracker

variable {registers : Bool} {before visible : Entries Item} {data : Object}

instance : Decidable (AtRest registers before visible data) :=
  decidable_of_iff ((∀ path ∈ (moveBetween before visible).removed,
      (Path.read (.object data) path).isAbsent = true) ∧
    (registers = true → ∀ entry ∈ visible, entry.2.isField = true →
      (Path.read (.object data) entry.1).isAbsent = false)) <| by
    refine and_congr_right fun _ => forall_congr' fun _ => ⟨fun h path f hentry => h _ hentry rfl, ?_⟩
    rintro h ⟨path, item⟩ hentry hfield
    cases item with
    | field f => exact h path f hentry
    | group g inner => cases hfield

/-- A pass that had nothing to write has nothing to write when it is made again. -/
theorem AtRest.again (h : AtRest registers before visible data) :
    AtRest registers visible visible data := by
  refine ⟨fun path hpath => ?_, h.2⟩
  obtain ⟨hin, hout⟩ := mem_removed_iff.mp hpath
  exact absurd hin hout

end Tracker

/-! ## Autosavers -/

namespace Autosaver

variable {a : Autosaver}

/-- There is no draft, and none is going to be saved. -/
structure IsBlank (a : Autosaver) : Prop where
  /-- No save is due. -/
  idle : a.debouncer.timer = none
  /-- There is no draft. -/
  noDraft : a.draft? = none
  /-- Nor does it say that there is one. -/
  hasDraft_eq : a.hasDraft = false

theorem isBlank_clearDraft (h : a.drafts.storage.IsTable) : a.clearDraft.IsBlank :=
  ⟨rfl, Drafts.load?_clear h a.formId, rfl⟩

/-- What it overlooks leaves it as it is. -/
theorem notice_of_skipNext (h : a.skipNext = true) (data : Object) (now mark : Nat) :
    a.notice data now mark = { a with skipNext := false } := by
  rw [notice, if_pos h]

end Autosaver

namespace Session

variable {form : Form} {w : World Owner Session} {wr : Write}

/-! ## A refresh that writes nothing -/

section

variable {put : Writer Owner Session} {visible : Entries Item}

theorem run_applyVisible_of_atRest (hput : HasRoom react put)
    (hrest : Tracker.AtRest w.parts.tracker.registers w.parts.tracker.visible visible w.store.data) :
    ∃ moves, (Tracker.applyVisible trackerPart put visible).run w
      = .ok () (withTracker w { w.parts.tracker with visible, moves }) := by
  let placed := withTracker w { w.parts.tracker with visible }
  let move := Tracker.moveBetween w.parts.tracker.visible visible
  have hsweep : (move.removed.forM fun path => do
      let _ ← put (.unregister path)).run placed = .ok () placed :=
    Tracker.run_forM_unregister_of_absent hput hrest.1
  have hnote : ∃ moves, (Tracker.noteMove trackerPart move : Visit Unit).run placed
      = .ok () (withTracker w { w.parts.tracker with visible, moves }) := by
    unfold Tracker.noteMove
    split
    · exact ⟨_, rfl⟩
    · exact ⟨_, rfl⟩
  obtain ⟨moves, hnote⟩ := hnote
  refine ⟨moves, ?_⟩
  have hrun : (Tracker.applyVisible trackerPart put visible).run w = (do
      move.removed.forM fun path => do
        let _ ← put (.unregister path)
      if w.parts.tracker.registers then
        visible.forM fun entry => Tracker.register put entry.1 entry.2
      Tracker.noteMove trackerPart move : Visit Unit).run placed := rfl
  rw [hrun, Run.run_bind_of_ok hsweep]
  cases hregisters : w.parts.tracker.registers with
  | false => exact hnote
  | true =>
    have hfill : (visible.forM fun entry => Tracker.register put entry.1 entry.2).run placed
        = .ok () placed := Tracker.run_forM_register_of_present (hrest.2 hregisters)
    exact (Run.run_bind_of_ok hfill).trans hnote

/-- **Brought up to date with nothing to write**, a tracker only puts the new visible part in place. -/
theorem run_refresh_of_atRest (hput : HasRoom react put)
    (hidle : w.parts.tracker.refreshing = false)
    (hrest : Tracker.AtRest w.parts.tracker.registers w.parts.tracker.visible
      (Item.visibleTable w.parts.tracker.items (.object w.store.data)) w.store.data) :
    ∃ moves, (Tracker.refresh trackerPart put).run w = .ok () (withTracker w { w.parts.tracker with
      visible := Item.visibleTable w.parts.tracker.items (.object w.store.data)
      refreshing := false, dirty := false, moves }) := by
  let started := withTracker w { w.parts.tracker with refreshing := true, dirty := false }
  obtain ⟨moves, happly⟩ := run_applyVisible_of_atRest (w := started) hput hrest
  refine ⟨moves, ?_⟩
  let last := withTracker w { w.parts.tracker with
    visible := Item.visibleTable w.parts.tracker.items (.object w.store.data)
    refreshing := true, dirty := false, moves }
  have hpasses : (Tracker.passes trackerPart put ((Item.byPath w.parts.tracker.items).length + 1)).run
      (Tracker.busied trackerPart w) = .ok () last := by
    have hrun : (Tracker.passes trackerPart put ((Item.byPath w.parts.tracker.items).length + 1)).run
        (Tracker.busied trackerPart w) = (do
          Tracker.applyVisible trackerPart put
            (Item.visibleTable w.parts.tracker.items (.object w.store.data))
          if (← trackerPart.read).dirty then
            Tracker.passes trackerPart put (Item.byPath w.parts.tracker.items).length
          : Visit Unit).run started := rfl
    rw [hrun, Run.run_bind_of_ok happly]
    rfl
  rw [Tracker.run_refresh_of_idle hidle, Tracker.run_settling_eq]
  rw [show (trackerPart.get w.parts).items = w.parts.tracker.items from rfl, hpasses]
  rfl

end

/-! ## The edit -/

/-- A write changes a value that a condition names. -/
def Stirs (items : List Item) (data after : Object) : Prop :=
  ∃ path ∈ Item.watchedPaths items,
    (Path.read (.object data) path).sameValue (Path.read (.object after) path) = false

instance (items : List Item) (data after : Object) : Decidable (Stirs items data after) :=
  inferInstanceAs (Decidable (∃ path ∈ Item.watchedPaths items,
    (Path.read (.object data) path).sameValue (Path.read (.object after) path) = false))

/-- An edit makes the tracker write: it changes a value that a condition names, and then an item that became
hidden has a value, or a visible field has none. -/
def Cascades (items : List Item) (w : World Owner Session) (wr : Write) : Prop :=
  match wr.change? w.store.data with
  | .ok (some after) => Stirs items w.store.data after ∧
    ¬ Tracker.AtRest true w.parts.tracker.visible (Item.visibleTable items (.object after)) after
  | _ => False

instance (items : List Item) (w : World Owner Session) (wr : Write) : Decidable (Cascades items w wr) := by
  unfold Cascades
  split <;> infer_instance

/-- A session in which there is no draft, and none is going to be saved. -/
structure Cleared (form : Form) (w : World Owner Session) : Prop where
  /-- The drafts of the form are kept, but there is none. -/
  saver : ∃ a, w.parts.autosaver = some a ∧ a.formId = form.id ∧ a.IsBlank
  /-- Nothing is looked up. -/
  noWorkers : w.parts.engine.workers = []
  /-- No request is in flight. -/
  noErrands : w.parts.engine.inFlight = []

theorem Cleared.calm (h : Cleared form w) : Calm w := by
  obtain ⟨a, hautosaver, -, hblank⟩ := h.saver
  refine ⟨h.noWorkers, h.noErrands, fun a' hautosaver' => ?_⟩
  obtain rfl := Option.some.inj (hautosaver.symm.trans hautosaver')
  exact hblank.idle

theorem Cleared.idle (h : Cleared form w) {e : Event} (he : e.IsIdle) : Cleared form (e.run.outcome w) := by
  obtain ⟨submission, now, hsame⟩ := outcome_of_isIdle h.calm he
  rw [hsame]
  exact ⟨h.saver, h.noWorkers, h.noErrands⟩

/-- While a write is being told, the autosaver overlooks all it will still be told. -/
structure Hearing (form : Form) (data after : Object) (wr : Write) (rest : List (Captured Owner))
    (w : World Owner Session) : Prop where
  /-- There is no draft, and as many notices are overlooked as are to come. -/
  saver : ∃ a, w.parts.autosaver = some a ∧ a.formId = form.id ∧ a.IsBlank ∧
    rest.countP (·.subscription.owner = .drafts) ≤ a.skipNext.toNat
  /-- Nothing is looked up. -/
  noWorkers : w.parts.engine.workers = []
  /-- No request is in flight. -/
  noErrands : w.parts.engine.inFlight = []
  /-- Nothing else was written. -/
  data_eq : w.store.data = after
  /-- The tracker is that of the form. -/
  items_eq : w.parts.tracker.items = form.schema.items
  /-- It gives visible fields an initial value. -/
  registers_eq : w.parts.tracker.registers = true
  /-- If it is told, it has nothing to write. -/
  atRest : Stirs form.schema.items data after →
    Tracker.AtRest true w.parts.tracker.visible (Item.visibleTable form.schema.items (.object after)) after
  /-- It is told only if a value has changed that a condition names. -/
  stirs : ∀ c ∈ rest, c.subscription.owner = .visibility → c.news? after wr ≠ none →
    Stirs form.schema.items data after

section

variable {data after : Object} {c : Captured Owner} {rest : List (Captured Owner)}

theorem Hearing.cleared (h : Hearing form data after wr rest w) : Cleared form w := by
  obtain ⟨a, hautosaver, hid, hblank, -⟩ := h.saver
  exact ⟨⟨a, hautosaver, hid, hblank⟩, h.noWorkers, h.noErrands⟩

/-- Somebody who is not told any more does not matter. -/
theorem Hearing.tail (h : Hearing form data after wr (c :: rest) w) : Hearing form data after wr rest w := by
  obtain ⟨a, hautosaver, hid, hblank, hfew⟩ := h.saver
  refine { h with saver := ⟨a, hautosaver, hid, hblank, ?_⟩, stirs := fun c' hc' => ?_ }
  · exact (List.Sublist.countP_le (List.sublist_cons_self c rest)).trans hfew
  · exact h.stirs c' (List.mem_cons_of_mem _ hc')

/-- The tracker has another visible part for which there is nothing to write either. -/
theorem Hearing.withTracker (h : Hearing form data after wr rest w) {t : Tracker}
    (hitems : t.items = w.parts.tracker.items) (hregisters : t.registers = w.parts.tracker.registers)
    (hvisible : t.visible = w.parts.tracker.visible ∨
      t.visible = Item.visibleTable form.schema.items (.object after)) :
    Hearing form data after wr rest (withTracker w t) := by
  refine { h with items_eq := hitems.trans h.items_eq, registers_eq := hregisters.trans h.registers_eq,
                  atRest := fun hstirs => ?_ }
  have hrest := h.atRest hstirs
  show Tracker.AtRest true t.visible _ after
  rcases hvisible with hsame | hnew
  · rwa [hsame]
  · rw [hnew]
    exact hrest.again

/-- The autosaver is told: this is the one notice that it overlooks, and there is none to come. -/
theorem Hearing.notice (h : Hearing form data after wr (c :: rest) w)
    (howner : c.subscription.owner = .drafts) : noticeEdit.Yields w (Hearing form data after wr rest) := by
  obtain ⟨a, hautosaver, hid, hblank, hfew⟩ := h.saver
  rw [List.countP_cons_of_pos (by simpa using howner)] at hfew
  have hskips : a.skipNext = true := by
    cases hskip : a.skipNext with
    | true => rfl
    | false =>
      rw [hskip] at hfew
      exact absurd hfew (Nat.not_succ_le_zero _)
  rw [hskips] at hfew
  have hnotice : (w.parts.autosaver.map fun a => a.notice w.store.data w.parts.now
      w.parts.engine.nextId) = some { a with skipNext := false } := by
    rw [hautosaver, Option.map_some, Autosaver.notice_of_skipNext hskips]
  refine ⟨(), _, rfl, { h.tail with saver := ⟨_, hnotice, hid, ?_, Nat.le_of_succ_le_succ hfew⟩ }⟩
  exact ⟨hblank.idle, hblank.noDraft, hblank.hasDraft_eq⟩

/-- **Each of those who are told of an edit that does not cascade** leaves no draft to be saved. -/
theorem Hearing.tell (h : Hearing form data after wr (c :: rest) w) {put : Writer Owner Session}
    (hput : HasRoom react put) : (tell (react put) wr c).Yields w (Hearing form data after wr rest) := by
  rcases told_cases (react put) wr c w with hquiet | ⟨news, hnews, htold⟩
  · exact ⟨(), w, hquiet, h.tail⟩
  · rw [Run.Yields, htold]
    cases howner : c.subscription.owner with
    | edits => exact ⟨(), _, rfl, { h.tail with }⟩
    | worker key => exact ⟨(), w, run_evaluate_of_none h.noWorkers put key, h.tail⟩
    | visibility =>
      have hheard : c.news? after wr ≠ none := by
        rw [← h.data_eq, hnews]
        exact Option.some_ne_none news
      have hstirs := h.stirs c List.mem_cons_self howner hheard
      cases hbusy : w.parts.tracker.refreshing with
      | true =>
        exact ⟨(), _, Tracker.run_refresh_of_busy hbusy, h.tail.withTracker rfl rfl (Or.inl rfl)⟩
      | false =>
        have hrest := h.atRest hstirs
        rw [← h.registers_eq, ← h.items_eq, ← h.data_eq] at hrest
        obtain ⟨moves, hrun⟩ := run_refresh_of_atRest hput hbusy hrest
        refine ⟨(), _, hrun, h.tail.withTracker rfl rfl (Or.inr ?_)⟩
        rw [h.items_eq, h.data_eq]
    | drafts => exact h.notice howner

end

/-- The autosaver of an unaided session overlooks what it is told of next. -/
structure Overlooking (form : Form) (w : World Owner Session) : Prop extends Unaided form w where
  /-- There is no draft, and the next notice is overlooked. -/
  overlooks : ∃ a, w.parts.autosaver = some a ∧ a.IsBlank ∧ a.skipNext = true

theorem Unaided.overlooking_clearDraft (h : Unaided form w) :
    Overlooking form (clearDraft.outcome w) := by
  obtain ⟨a, hautosaver, htable, -⟩ := h.saver
  refine ⟨keeps_unaided .clearDraft w h, a.clearDraft, ?_, Autosaver.isBlank_clearDraft htable, rfl⟩
  exact congrArg (Option.map Autosaver.clearDraft) hautosaver

theorem Overlooking.cleared (h : Overlooking form w) : Cleared form w := by
  obtain ⟨a, hautosaver, -, hid⟩ := h.saver
  obtain ⟨a', hautosaver', hblank, -⟩ := h.overlooks
  obtain rfl := Option.some.inj (hautosaver.symm.trans hautosaver')
  exact ⟨⟨a, hautosaver, hid, hblank⟩, h.noWorkers, h.noErrands⟩

theorem Overlooking.idle (h : Overlooking form w) {e : Event} (he : e.IsIdle) :
    Overlooking form (e.run.outcome w) := by
  refine ⟨keeps_unaided e w h.toUnaided, ?_⟩
  obtain ⟨submission, now, hsame⟩ := outcome_of_isIdle h.cleared.calm he
  rw [hsame]
  exact h.overlooks

/-- What is told of an edit that does not cascade. -/
theorem Overlooking.hearing (h : Overlooking form w) {after : Object}
    (hchange : wr.change? w.store.data = .ok (some after)) (hedit : ¬ Cascades form.schema.items w wr) :
    Hearing form w.store.data after wr (w.store.captureFor wr) (w.withData after) := by
  obtain ⟨a, hautosaver, -, hid⟩ := h.saver
  obtain ⟨a', hautosaver', hblank, hskips⟩ := h.overlooks
  obtain rfl := Option.some.inj (hautosaver.symm.trans hautosaver')
  have hrest : Stirs form.schema.items w.store.data after → Tracker.AtRest true w.parts.tracker.visible
      (Item.visibleTable form.schema.items (.object after)) after := by
    intro hstirs
    by_contra hwrites
    refine hedit ?_
    rw [Cascades, hchange]
    exact ⟨hstirs, hwrites⟩
  have hfew : (w.store.captureFor wr).countP (·.subscription.owner = .drafts) ≤ a.skipNext.toNat := by
    rw [hskips, captureFor_eq, List.countP_map]
    exact (concerned_sublist w.store wr).countP_le.trans h.once
  refine ⟨⟨a, hautosaver, hid, hblank, hfew⟩, h.noWorkers, h.noErrands, rfl, h.items_eq, h.registers_eq,
    hrest, fun c hc howner hnews => ?_⟩
  rw [captureFor_eq] at hc
  obtain ⟨sub, hsub, rfl⟩ := List.mem_map.mp hc
  have hpaths := h.watches sub ((concerned_sublist w.store wr).subset hsub) howner
  -- it is told of something, so not all that it watches is as it was
  by_contra hstill
  refine hnews ((news?_eq_none_iff hpaths).mpr fun path hpath => ?_)
  by_contra hchanged
  exact hstill ⟨path, List.mem_eraseDups.mp hpath, Bool.eq_false_iff.mpr hchanged⟩

/-- **An edit that does not cascade is overlooked.** -/
theorem Overlooking.put (h : Overlooking form w) (hedit : ¬ Cascades form.schema.items w wr) :
    Cleared form ((Session.put wr).outcome w) := by
  by_cases hchanges : ∃ after, wr.change? w.store.data = .ok (some after)
  · obtain ⟨after, hchange⟩ := hchanges
    have hloop : ((w.store.captureFor wr).forM
        (DynamicForms.tell (react (perform react (188 + w.store.watchings.length + 1))) wr)).Yields
        (w.withData after) (Hearing form w.store.data after wr []) :=
      Run.yields_forM (I := Hearing form w.store.data after wr)
        (fun _ _ _ hw => hw.tell (hasRoom_perform react _)) (h.hearing hchange hedit)
    obtain ⟨⟨⟩, w', hrun, hw'⟩ := hloop
    have hput : (Session.put wr).run w = .ok true w' := by
      rw [Session.put, run_write, nesting_eq, run_perform_of_some _ _ hchange, Run.run_bind_of_ok hrun]
      rfl
    rw [Run.outcome_of_ok hput]
    exact hw'.cleared
  · rw [Session.put, outcome_write_of_unchanged react fun after hchange => hchanges ⟨after, hchange⟩]
    exact h.cleared

/-! ## Whole runs -/

/-- **After the draft was thrown away an edit is not saved, unless it cascades.** A form without lookups is
used in any way, and its draft is thrown away. Then there is one edit. If that leaves the tracker nothing to
write, there is no draft afterwards, and it is not said that there is one, however much time passes. -/
theorem noDraft_of_cleared (hlookups : Item.lookups form.schema.items = []) {drafts : Drafts}
    (hdrafts : drafts.storage.IsTable) (channel : Channel) (wire : Wire) (delay : Int)
    (before : List Event) {pause rest : List Event} (hpause : ∀ e ∈ pause, e.IsIdle)
    (hrest : ∀ e ∈ rest, e.IsIdle) :
    let w := carryOn (world (ofForm form channel wire (some (drafts, delay))))
      (before ++ .clearDraft :: pause)
    ¬ Cascades form.schema.items w wr →
      let w' := carryOn w (.put wr :: rest)
      ∃ a, w'.parts.autosaver = some a ∧ a.drafts.load? form.id = none ∧ w'.parts.hasDraft = false := by
  intro w hedit w'
  have hbefore : Unaided form (carryOn (world (ofForm form channel wire (some (drafts, delay)))) before) :=
    carryOn_keeps (fun e _ => keeps_unaided e) (unaided_world hlookups hdrafts channel wire delay)
  have hw : Overlooking form w := by
    have hrun : w = carryOn (clearDraft.outcome
        (carryOn (world (ofForm form channel wire (some (drafts, delay)))) before)) pause :=
      carryOn_append _ before (.clearDraft :: pause)
    rw [hrun]
    exact carryOn_keeps (fun e he _ h => h.idle (hpause e he)) hbefore.overlooking_clearDraft
  have hput : Cleared form ((Event.put wr).run.outcome w) := by
    rw [Event.run, Run.outcome_discard]
    exact hw.put hedit
  have hw' : Cleared form w' := by
    show Cleared form (carryOn ((Event.put wr).run.outcome w) rest)
    exact carryOn_keeps (fun e he _ h => h.idle (hrest e he)) hput
  obtain ⟨a, hautosaver, hid, hblank⟩ := hw'.saver
  refine ⟨a, hautosaver, hid ▸ hblank.noDraft, ?_⟩
  rw [hasDraft, hautosaver]
  exact hblank.hasDraft_eq

/-- A kind asks for a company, and the draft is thrown away. The company then changes, which shows nothing
else. -/
theorem noDraft_of_cleared_size :
    let w := carryOn (world (ofForm sizeForm .manual ⟨[], []⟩
        (some (⟨.memory [], Drafts.usualSpace, 0⟩, 500))))
      [.mount, .put (.set "kind" (.text "business")), .advance 500, .clearDraft, .advance 500]
    let w' := carryOn w [.put (.set "company" (.text "Acme Ltd")), .advance 500]
    ∃ a, w'.parts.autosaver = some a ∧ a.drafts.load? sizeForm.id = none ∧ w'.parts.hasDraft = false := by
  have hedit : ¬ Cascades sizeForm.schema.items (carryOn (world (ofForm sizeForm .manual ⟨[], []⟩
        (some (⟨.memory [], Drafts.usualSpace, 0⟩, 500))))
      [.mount, .put (.set "kind" (.text "business")), .advance 500, .clearDraft, .advance 500])
      (.set "company" (.text "Acme Ltd")) := by
    decide +kernel
  have hidle : ∀ e ∈ [Event.advance 500], e.IsIdle := fun e he => by
    rw [List.mem_singleton.mp he]
    trivial
  exact noDraft_of_cleared lookups_sizeForm (by decide) .manual ⟨[], []⟩ 500
    [.mount, .put (.set "kind" (.text "business")), .advance 500] hidle hidle hedit

/-- **An edit that cascades is saved.** Once a kind asks for a company, the tracker gives the company a value;
the autosaver overlooks that, and the edit itself is saved. -/
theorem not_noDraft_of_cleared :
    let w := carryOn (world (ofForm sizeForm .manual ⟨[], []⟩
        (some (⟨.memory [], Drafts.usualSpace, 0⟩, 500))))
      [.mount, .clearDraft, .put (.set "kind" (.text "business")), .advance 500]
    Item.lookups sizeForm.schema.items = [] ∧ w.parts.mounted = true ∧ w.parts.hasDraft = true ∧
      ∃ kept, w.parts.draft? = some kept := by
  intro w
  have hdrafts : (⟨.memory [], Drafts.usualSpace, 0⟩ : Drafts).IsWritable :=
    ⟨trivial, Nat.pow_pos (by decide)⟩
  obtain ⟨⟨⟩, mounted, hmount, hmounted⟩ := yields_mount_restorable regular_sizeForm acyclic_sizeForm
    lookups_sizeForm hdrafts .manual ⟨[], []⟩ 500
  obtain rfl := Run.outcome_of_ok hmount
  have hkind : ∃ node ∈ Item.nodes sizeForm.schema.items, node.item.isField = true ∧ node.path = "kind" := by
    rw [schema_sizeForm]
    decide +kernel
  have hw : Restorable sizeForm w := @Restorable.events sizeForm _ regular_sizeForm acyclic_sizeForm hmounted
    [.clearDraft, .put (.set "kind" (.text "business")), .advance 500]
    ⟨trivial, ⟨hkind, by decide +kernel, .text _⟩, trivial, trivial⟩
  -- something was saved, and what is believed to be saved is kept
  have hsaved : w.parts.hasDraft = true ∧ w.parts.autosaver.any (·.lastSaved == "") = false := by
    decide +kernel
  obtain ⟨a, hautosaver, hfaithful, -⟩ := hw.saver
  refine ⟨lookups_sizeForm, hw.mounted, hsaved.1, ?_⟩
  obtain hnothing | ⟨kept, hdraft, -⟩ := hfaithful.believes
  · rw [hautosaver, Option.any_some, hnothing] at hsaved
    exact absurd hsaved.2 Bool.noConfusion
  · exact ⟨kept, by rw [draft?, hautosaver]; exact hdraft⟩

end Session
end DynamicForms
