import DynamicForms.Proofs.Draft.Presence
import DynamicForms.Proofs.Session.Mounting
import DynamicForms.Proofs.Session.Restored

/-!
# `DynamicForms.Proofs.Session.Unaided` — sessions without lookups

In a session without lookups three are told of writes. What decides what is visible watches the paths that
conditions name. What withdraws a submission and what schedules drafts are told of every write. The latter is
never told twice of the same one, however often the form is closed and mounted again: it knows the ticket of its
subscription, and makes another one only after it has given that one up.

As long as no save is due either, nothing happens by itself.

## Contents
- `Session.Unaided`, `unaided_world`.
- **Steps.** `keeps_unaided_put`, `keeps_unaided_mount`, `keeps_unaided_close`; `keeps_unaided`.
- **No edit.** `Session.Calm`, `Calm.run_go`; `Event.IsIdle`, `outcome_of_isIdle`.
-/

namespace DynamicForms

open Run (keeps_pure keeps_bind)

namespace Session

variable {form : Form} {w : World Owner Session}

/-- A world with another tracker. -/
def withTracker (w : World Owner Session) (tracker : Tracker) : World Owner Session :=
  { w with parts := { w.parts with tracker } }

/-! ## Between the steps -/

/-- A session without lookups that keeps drafts. What schedules them is told of a write once at most, and what
decides what is visible watches the paths that conditions name. -/
structure Unaided (form : Form) (w : World Owner Session) : Prop where
  /-- Drafts are kept. -/
  saver : ∃ a, w.parts.autosaver = some a ∧ a.drafts.storage.IsTable ∧ a.formId = form.id
  /-- Nothing is looked up. -/
  noWorkers : w.parts.engine.workers = []
  /-- No request is in flight. -/
  noErrands : w.parts.engine.inFlight = []
  /-- The tracker is that of the form. -/
  items_eq : w.parts.tracker.items = form.schema.items
  /-- It gives visible fields an initial value. -/
  registers_eq : w.parts.tracker.registers = true
  /-- What schedules drafts knows its ticket. -/
  held : ∀ sub ∈ w.store.subscriptions, sub.owner = .drafts → w.parts.ticketOf .drafts = some sub.ticket
  /-- It is told once. -/
  once : w.store.subscriptions.countP (·.owner = .drafts) ≤ 1
  /-- What decides what is visible watches the conditions. -/
  watches : ∀ sub ∈ w.store.subscriptions, sub.owner = .visibility →
    sub.paths = some (Item.watchedPaths form.schema.items).eraseDups

/-- It matters what subscriptions there are, but not what becomes of the data. -/
theorem Unaided.of_same {w' : World Owner Session} (h : Unaided form w)
    (hsubs : w'.store.subscriptions.Sublist w.store.subscriptions)
    (hautosaver : w'.parts.autosaver = w.parts.autosaver) (hengine : w'.parts.engine = w.parts.engine)
    (hitems : w'.parts.tracker.items = w.parts.tracker.items)
    (hregisters : w'.parts.tracker.registers = w.parts.tracker.registers) : Unaided form w' where
  saver := hautosaver ▸ h.saver
  noWorkers := hengine ▸ h.noWorkers
  noErrands := hengine ▸ h.noErrands
  items_eq := hitems.trans h.items_eq
  registers_eq := hregisters.trans h.registers_eq
  held sub hsub howner := by
    show w'.parts.autosaver.bind (·.ticket) = some sub.ticket
    rw [hautosaver]
    exact h.held sub (hsubs.subset hsub) howner
  once := hsubs.countP_le.trans h.once
  watches sub hsub := h.watches sub (hsubs.subset hsub)

theorem Unaided.of_parts (h : Unaided form w) {s : Session} (hautosaver : s.autosaver = w.parts.autosaver)
    (hengine : s.engine = w.parts.engine) (hitems : s.tracker.items = w.parts.tracker.items)
    (hregisters : s.tracker.registers = w.parts.tracker.registers) :
    Unaided form { w with parts := s } :=
  h.of_same (List.Sublist.refl _) hautosaver hengine hitems hregisters

theorem unaided_world (hlookups : Item.lookups form.schema.items = []) {drafts : Drafts}
    (hdrafts : drafts.storage.IsTable) (channel : Channel) (wire : Wire) (delay : Int) :
    Unaided form (world (ofForm form channel wire (some (drafts, delay)))) where
  saver := ⟨_, rfl, hdrafts, rfl⟩
  noWorkers := by
    show (Engine.ofLookups (Item.lookups form.schema.items)).workers = []
    rw [hlookups]
    rfl
  noErrands := rfl
  items_eq := rfl
  registers_eq := rfl
  held _ hsub := absurd hsub List.not_mem_nil
  once := Nat.zero_le 1
  watches _ hsub := absurd hsub List.not_mem_nil

/-- The autosaver may change, but for its subscription. -/
theorem keeps_unaided_updateAutosaver {f : Autosaver → Autosaver}
    (htable : ∀ a : Autosaver, a.drafts.storage.IsTable → (f a).drafts.storage.IsTable)
    (hid : ∀ a : Autosaver, (f a).formId = a.formId) (hticket : ∀ a : Autosaver, (f a).ticket = a.ticket) :
    (updateAutosaver f).Keeps (Unaided form) := by
  intro w h
  obtain ⟨a, hautosaver, ha, haid⟩ := h.saver
  have hnow : ((updateAutosaver f).outcome w).parts.autosaver = some (f a) :=
    congrArg (Option.map f) hautosaver
  refine { h with saver := ⟨f a, hnow, htable a ha, (hid a).trans haid⟩, held := fun sub hsub howner => ?_ }
  have hheld := h.held sub hsub howner
  simp only [ticketOf, hautosaver, Option.bind_some] at hheld
  simp only [ticketOf, hnow, Option.bind_some, hticket, hheld]

theorem keeps_unaided_tracker {f : Tracker → Tracker} (hf : Tracker.IsInner f) :
    (trackerPart.update f : Visit Unit).Keeps (Unaided form) := fun w h =>
  h.of_parts rfl rfl (hf w.parts.tracker).1 (hf w.parts.tracker).2.1

theorem keeps_unaided_unsubscribe (ticket : Nat) : (unsubscribe ticket : Visit Unit).Keeps (Unaided form) :=
  fun _ h => h.of_same List.filter_sublist rfl rfl rfl rfl

theorem keeps_unaided_react (put : Writer Owner Session) (hput : ∀ wr, (put wr).Keeps (Unaided form))
    (owner : Owner) (news : List String) : (react put owner news).Keeps (Unaided form) := by
  cases owner with
  | visibility =>
    exact Tracker.keeps_refresh (fun _ => keeps_unaided_tracker) (fun _ _ => hput _) fun _ => hput _
  | edits => exact fun _ h => h.of_parts rfl rfl rfl rfl
  | worker key =>
    intro w h
    rwa [react, Run.outcome_of_ok (run_evaluate_of_none h.noWorkers put key)]
  | drafts =>
    refine keeps_bind (fun _ => id) fun data => keeps_bind (fun _ => id) fun now =>
      keeps_bind (fun _ => id) fun e => keeps_unaided_updateAutosaver (fun a ha => ?_)
        (fun a => a.formId_notice data now e.nextId) fun a => a.ticket_notice data now e.nextId
    rwa [a.drafts_notice data now e.nextId]

theorem keeps_unaided_put (wr : Write) : (put wr).Keeps (Unaided form) :=
  keeps_write (fun _ _ h => h.of_same (List.Sublist.refl _) rfl rfl rfl rfl) keeps_unaided_react wr

/-! ### Mounting -/

theorem keeps_unaided_restore : restore.Keeps (Unaided form) :=
  keeps_restore (keeps_unaided_updateAutosaver (fun _ => id) (fun _ => rfl) fun _ => rfl)
    fun _ => keeps_unaided_put _

/-- A subscription of somebody else than the drafts is added. -/
theorem Unaided.add (h : Unaided form w) {paths : Option (List String)} {owner : Owner}
    (howner : owner ≠ .drafts)
    (hpaths : owner = .visibility → paths = some (Item.watchedPaths form.schema.items).eraseDups) :
    Unaided form { w with store := (w.store.add paths owner).2 } := by
  refine { h with held := fun sub hsub hdrafts => ?_, once := ?_, watches := fun sub hsub hvisibility => ?_ }
  · rcases List.mem_append.mp hsub with hold | hnew
    · exact h.held sub hold hdrafts
    · obtain rfl := List.mem_singleton.mp hnew
      exact absurd hdrafts howner
  · show (w.store.subscriptions ++ [_]).countP _ ≤ 1
    rw [List.countP_append, List.countP_singleton, if_neg (by simpa using howner)]
    exact h.once
  · rcases List.mem_append.mp hsub with hold | hnew
    · exact h.watches sub hold hvisibility
    · obtain rfl := List.mem_singleton.mp hnew
      exact hpaths hvisibility

theorem keeps_unaided_startTracker :
    (Tracker.start trackerPart put .visibility).Keeps (Unaided form) := by
  have hrefresh : (Tracker.refresh trackerPart put).Keeps (Unaided form) :=
    Tracker.keeps_refresh (fun _ => keeps_unaided_tracker) (fun _ _ => keeps_unaided_put _)
      fun _ => keeps_unaided_put _
  intro w h
  let t : Tracker := { w.parts.tracker with visible := Item.byPath w.parts.tracker.items }
  have hstarted : Unaided form (withTracker w t) := h.of_parts rfl rfl rfl rfl
  rw [Run.outcome, Tracker.run_start, ← Run.outcome]
  refine hrefresh _ ?_
  rw [Tracker.started]
  split
  · have hwatched : t.watched = Item.watchedPaths form.schema.items := by
      rw [← h.items_eq]
      rfl
    have hadded : Unaided form { withTracker w t with
        store := (w.store.add (some t.watched.eraseDups) .visibility).2 } :=
      hstarted.add (fun hdrafts => absurd hdrafts (by decide))
        fun _ => congrArg (fun paths => some paths.eraseDups) hwatched
    exact hadded.of_parts (s := { w.parts with
      tracker := { t with ticket := some w.store.nextTicket } }) rfl rfl rfl rfl
  · exact hstarted

/-- The drafts listen if they did not. -/
theorem keeps_unaided_startDrafts : startDrafts.Keeps (Unaided form) := by
  intro w h
  rcases startDrafts_cases w with hrun | ⟨⟨a, hautosaver, hnone⟩, hrun⟩
  · rwa [Run.outcome_of_ok hrun]
  · -- so far there is no subscription of the drafts, whose ticket they would have to know
    have hnobody : ∀ sub ∈ w.store.subscriptions, sub.owner ≠ .drafts := fun sub hsub howner => by
      have hheld := h.held sub hsub howner
      simp only [ticketOf, hautosaver, Option.bind_some, hnone] at hheld
      cases hheld
    obtain ⟨b, hsaver, hb, hid⟩ := h.saver
    have hstarted := autosaver_draftsListening hsaver
    rw [Run.outcome_of_ok hrun]
    refine { h with saver := ⟨_, hstarted, hb, hid⟩, held := fun sub hsub howner => ?_, once := ?_,
                    watches := fun sub hsub howner => ?_ }
    · rcases List.mem_append.mp hsub with hold | hnew
      · exact absurd howner (hnobody sub hold)
      · obtain rfl := List.mem_singleton.mp hnew
        exact congrArg (Option.bind · Autosaver.ticket) hstarted
    · show (w.store.subscriptions ++ [_]).countP _ ≤ 1
      rw [List.countP_append, List.countP_eq_zero.mpr (by simpa using hnobody), Nat.zero_add]
      exact List.countP_le_length
    · rcases List.mem_append.mp hsub with hold | hnew
      · exact h.watches sub hold howner
      · obtain rfl := List.mem_singleton.mp hnew
        cases howner

theorem keeps_unaided_mount : mount.Keeps (Unaided form) := by
  refine keeps_bind (fun _ => id) fun mounted => ?_
  cases mounted with
  | true => exact keeps_pure ()
  | false =>
    have hengine : (Engine.start enginePart put isShown Owner.worker).Keeps (Unaided form) := by
      intro w h
      rwa [Run.outcome_of_ok (run_startEngine_of_none h.noWorkers)]
    refine keeps_bind (fun _ h => h.of_parts rfl rfl rfl rfl) fun _ => ?_
    rw [startParts_eq]
    exact keeps_bind keeps_unaided_restore fun _ => keeps_bind keeps_unaided_startTracker fun _ =>
      keeps_bind (fun _ h => h.add nofun nofun) fun _ =>
        keeps_bind (fun _ h => h.of_parts rfl rfl rfl rfl) fun _ => keeps_bind hengine fun _ =>
          keeps_unaided_startDrafts

/-! ### Closing -/

/-- An owner gives its subscription up, if it has one. -/
theorem Unaided.dropped (h : Unaided form w) (ticket? : Option Nat) :
    Unaided form { w with store := dropped w.store ticket? } := by
  cases ticket? with
  | none => exact h
  | some ticket => exact keeps_unaided_unsubscribe ticket w h

/-- The drafts do not listen any more. -/
theorem keeps_unaided_closeDrafts : closeDrafts.Keeps (Unaided form) := by
  intro w h
  obtain ⟨a, hautosaver, ha, hid⟩ := h.saver
  -- once its subscription is gone, there is none whose ticket it would have to know
  have hnobody : ∀ sub ∈ (Session.dropped w.store (w.parts.ticketOf .drafts)).subscriptions,
      sub.owner ≠ .drafts := by
    intro sub hsub howner
    cases hgiven : w.parts.ticketOf .drafts with
    | none =>
      rw [hgiven] at hsub
      cases hgiven.symm.trans (h.held sub hsub howner)
    | some ticket =>
      rw [hgiven] at hsub
      obtain ⟨hold, hother⟩ := List.mem_filter.mp hsub
      have hsame := Option.some.inj (hgiven.symm.trans (h.held sub hold howner))
      rw [hsame, bne_self_eq_false] at hother
      cases hother
  rw [Run.outcome_of_ok (run_closeDrafts w)]
  exact { h.dropped (w.parts.ticketOf .drafts) with
          saver := ⟨_, congrArg (Option.map _) hautosaver, ha, hid⟩
          held := fun sub hsub howner => absurd howner (hnobody sub hsub) }

theorem keeps_unaided_close : close.Keeps (Unaided form) := by
  intro w h
  rw [Run.outcome, run_close, ← Run.outcome]
  refine keeps_bind keeps_unaided_closeDrafts (fun _ => keeps_bind ?_ fun _ => keeps_bind ?_ fun _ =>
    ?_) w h
  · intro w h
    have hrun : (Engine.close enginePart : Visit Unit).run w
        = (w.parts.engine.workers.keys.forM (Engine.closeWorker enginePart) : Visit Unit).run w := rfl
    rw [Run.outcome, hrun, h.noWorkers]
    exact h
  · refine keeps_bind (fun _ => id) fun t => ?_
    cases t.ticket with
    | none => exact keeps_pure ()
    | some ticket =>
      exact keeps_bind (keeps_unaided_unsubscribe ticket) fun _ _ h => h.of_parts rfl rfl rfl rfl
  · intro w h
    rw [Run.outcome_of_ok (run_closeForm w)]
    exact (h.dropped w.parts.ticket).of_parts (s := { w.parts with ticket := none, mounted := false })
      rfl rfl rfl rfl

/-! ### All steps -/

theorem keeps_unaided_complete (id : Nat) (result : LookupResult) :
    (complete id result).Keeps (Unaided form) := by
  intro w h
  rwa [Run.outcome_of_ok (run_complete_of_none h.noErrands id result)]

theorem keeps_unaided_go (may : Session → Nat → Bool) (count : Nat) :
    (agenda.go may count).Keeps (Unaided form) := by
  have hsave : saveDraft.Keeps (Unaided form) :=
    keeps_bind (fun _ => id) fun data => keeps_unaided_updateAutosaver
      (fun a ha => Drafts.isTable_save ha a.formId (.object data)) (fun _ => rfl) fun _ => rfl
  refine Agenda.keeps_go may (Dispatch.keeps_setUp fun _ _ h => h.of_parts rfl rfl rfl rfl)
    (fun _ _ h => h.of_parts rfl rfl rfl rfl) (fun s entry hentry => ?_) count
  obtain hdue | ⟨id, result, hanswer⟩ := mem_upcoming hentry
  · rw [hdue]
    exact hsave
  · rw [hanswer]
    exact keeps_unaided_complete id result

/-- **Every step leaves a session unaided.** -/
theorem keeps_unaided (e : Event) : e.run.Keeps (Unaided form) := by
  cases e with
  | mount => exact keeps_unaided_mount
  | close => exact keeps_unaided_close
  | put wr => exact keeps_bind (keeps_unaided_put wr) fun _ => keeps_pure ()
  | submit => exact fun _ h => h.of_parts rfl rfl rfl rfl
  | answer id result =>
    exact keeps_bind (Dispatch.keeps_answer keeps_unaided_complete id result) fun _ => keeps_pure ()
  | dismiss key =>
    intro w h
    rwa [Event.run, Run.outcome_of_ok (run_dismiss_of_none h.noWorkers key)]
  | clearDraft =>
    exact keeps_unaided_updateAutosaver (fun a ha => Drafts.isTable_clear ha a.formId) (fun _ => rfl)
      fun _ => rfl
  | drain => exact keeps_unaided_go _ _
  | advance ms =>
    exact keeps_bind (fun _ => id) fun _ => keeps_bind (keeps_unaided_go _ _) fun _ _ h =>
      h.of_parts rfl rfl rfl rfl
  | settle => exact keeps_unaided_go _ _

/-! ## No edit -/

/-- A step that neither writes to the form nor concerns the drafts: the form is submitted, time passes, or
something is done about lookups. -/
def Event.IsIdle : Event → Prop
  | .submit | .answer _ _ | .dismiss _ | .drain | .advance _ | .settle => True
  | .mount | .close | .put _ | .clearDraft => False

/-- Nothing is looked up, and no save is due. -/
structure Calm (w : World Owner Session) : Prop where
  /-- There are no workers. -/
  noWorkers : w.parts.engine.workers = []
  /-- No request is in flight. -/
  noErrands : w.parts.engine.inFlight = []
  /-- No save is due. -/
  idle : ∀ a, w.parts.autosaver = some a → a.debouncer.timer = none

theorem Calm.upcoming_eq (h : Calm w) : agenda.upcoming w.parts = [] := by
  have hsave : (w.parts.autosaver.map fun a => a.upcoming saveDraft).getD [] = [] := by
    cases hautosaver : w.parts.autosaver with
    | none => rfl
    | some a =>
      show a.upcoming saveDraft = []
      rw [Autosaver.upcoming, h.idle a hautosaver]
      rfl
  have harrivals : w.parts.dispatch.arrivalsOf w.parts.engine = [] := by
    refine List.filter_eq_nil_iff.mpr fun arrival _ => ?_
    rw [Engine.isInFlight, Engine.errand?, h.noErrands]
    exact Bool.false_ne_true
  show (w.parts.autosaver.map fun a => a.upcoming saveDraft).getD []
    ++ (w.parts.dispatch.arrivalsOf w.parts.engine).map _ = []
  rw [hsave, harrivals]
  rfl

/-- Nothing happens by itself. -/
theorem Calm.run_go (h : Calm w) (may : Session → Nat → Bool) (count : Nat) :
    (agenda.go may count).run w = .ok () w := by
  refine Agenda.run_go_of_nothing ?_ h.upcoming_eq may count
  have hunsent : w.parts.dispatch.unsent? w.parts.engine = none := by
    rw [Dispatch.unsent?, h.noErrands]
    rfl
  have hrun : agenda.setUp.run w
      = (Dispatch.setUp dispatchPart enginePart nowPart : Visit Bool).run w := rfl
  rw [hrun]
  simp only [Dispatch.setUp, EStateM.run_bind, Part.run_read, dispatchPart, enginePart, hunsent]
  rfl

/-- **Without an edit nothing is saved**: what such a step changes is the outcome of the submission and the
moment. -/
theorem outcome_of_isIdle (h : Calm w) {e : Event} (he : e.IsIdle) :
    ∃ submission now, e.run.outcome w = { w with parts := { w.parts with submission, now } } := by
  cases e with
  | mount | close | put wr | clearDraft => exact he.elim
  | submit => exact ⟨_, w.parts.now, rfl⟩
  | answer id result =>
    refine ⟨w.parts.submission, w.parts.now, ?_⟩
    have hrun : (Session.answer id result).run w = .ok false w := by
      show (if w.parts.engine.isInFlight id then do
        Agenda.attempt (complete id result)
        return true
        else return false : Visit Bool).run w = .ok false w
      rw [Engine.isInFlight, Engine.errand?, h.noErrands]
      rfl
    rw [Event.run, Run.outcome_discard, Run.outcome_of_ok hrun]
  | dismiss key =>
    exact ⟨w.parts.submission, w.parts.now, Run.outcome_of_ok (run_dismiss_of_none h.noWorkers key)⟩
  | drain =>
    have hrun : agenda.drain.run w = .ok () w := h.run_go _ Agenda.limit
    exact ⟨w.parts.submission, w.parts.now, Run.outcome_of_ok hrun⟩
  | settle =>
    have hrun : agenda.settle.run w = .ok () w := h.run_go _ Agenda.limit
    exact ⟨w.parts.submission, w.parts.now, Run.outcome_of_ok hrun⟩
  | advance ms =>
    have hadvance : (agenda.advance ms).run w = (agenda.go (fun _ due => due ≤ w.parts.now + ms)
        Agenda.limit >>= fun _ => agenda.now.update fun _ => w.parts.now + ms).run w := rfl
    rw [Run.run_bind_of_ok (h.run_go _ _), Part.run_update] at hadvance
    exact ⟨w.parts.submission, w.parts.now + ms, Run.outcome_of_ok hadvance⟩

end Session
end DynamicForms
