import DynamicForms.Proofs.Json.Document
import DynamicForms.Proofs.Lookup.Engine
import DynamicForms.Proofs.Session.Listening

/-!
# `DynamicForms.Proofs.Session.Mounting` — a session is upright after every step

A session is upright if no passes are being made, it knows the tickets of all subscriptions, and either
it is mounted and what withdraws a submission listens, or it is not and nobody does. Mounting may fail,
but only after that one has begun to listen: nothing that comes before it can. Closing never fails, and
gives up one ticket after the other until there are none.

## Contents
- `Session.Upright`, `upright_world`.
- **Programs.** `startDrafts`, `startDrafts_cases`; `closeDrafts`, `closeForm`, `run_close`.
- **Mounting.** `run_restore`, `yields_restore`, `yields_startTracker`, `keeps_mount`.
- **Closing.** `Session.GivesUp`, `Session.Shut`, `keeps_close`.
- `keeps_upright`: every step leaves a session upright.
-/

namespace DynamicForms

open Value (Object)
open Run (keeps_bind)

/-- A draft is a document. -/
theorem Autosaver.isDocument_of_draft? {a : Autosaver} {draft : Object} (h : a.draft? = some draft) :
    (Value.object draft).isDocument = true := by
  simp only [draft?, Drafts.load?] at h
  split at h
  · split at h
    · next v hread =>
      have hv := Json.isDocument_of_read hread
      unfold Drafts.recordData? at h
      split at h
      · next fields =>
        split at h
        · split at h
          · obtain ⟨v, hget, hobject⟩ := Option.bind_eq_some_iff.mp h
            have hinner := Value.isDocument_of_get? hv hget
            cases v with
            | object inner =>
              cases hobject
              exact hinner
            | _ => cases hobject
          · cases h
        · cases h
      · cases h
    · cases h
  · cases h

namespace Session

variable {form : Form} {heard : List (Subscription Owner) → Prop} {w : World Owner Session}
  {subs : List (Subscription Owner)} {depth : Nat} {wr : Write}

/-- A session as it is between two steps. -/
structure Upright (form : Form) (w : World Owner Session) : Prop where
  /-- While it is mounted, what withdraws a submission listens; otherwise nobody does. -/
  upheld : Upheld form (fun subs => if w.parts.mounted then Listening subs else subs = []) w
  /-- No passes are being made. -/
  idle : w.parts.tracker.refreshing = false

theorem Upright.listening (h : Upright form w) (hmounted : w.parts.mounted = true) :
    Listening w.store.subscriptions := by
  have hheard := h.upheld.heard
  rwa [hmounted, if_pos rfl] at hheard

theorem Upright.nobody (h : Upright form w) (hmounted : w.parts.mounted = false) :
    w.store.subscriptions = [] := by
  have hheard := h.upheld.heard
  rwa [hmounted, if_neg Bool.false_ne_true] at hheard

theorem upright_world (form : Form) (channel : Channel) (wire : Wire)
    (drafts : Option (Drafts × Int)) : Upright form (world (ofForm form channel wire drafts)) :=
  ⟨⟨rfl, rfl, rfl, nofun, nofun, rfl⟩, rfl⟩

/-- What leaves the subscriptions and the passes alone leaves a session upright. -/
theorem keeps_upright_of_holds {α : Type} {m : Visit α} (h : ∀ I, Holds I → m.Keeps I) :
    m.Keeps (Upright form) := by
  intro w hw
  have hmounted := h _ (holds_mounted w.parts.mounted) w rfl
  refine ⟨?_, h _ (holds_refreshing false) w hw.idle⟩
  rw [hmounted]
  exact h _ holds_upheld w hw.upheld

/-! ## What mounting and closing are made of -/

/-- What schedules drafts starts, if drafts are kept. -/
def startDrafts : Visit Unit := do
  match ← autosaverPart.read with
  | some a => a.start updateAutosaver .drafts
  | none => return

/-- What starts after the tracker. -/
def startOthers : Visit Unit := do
  let ticket ← listen .edits
  ticketPart.update fun _ => some ticket
  Engine.start enginePart put isShown .worker
  startDrafts

/-- The draft is put in, then the tracker starts, and then the others. -/
theorem startParts_eq : startParts = (do
    restore
    Tracker.start trackerPart put .visibility
    startOthers : Visit Unit) := rfl

/-- A world in which what schedules drafts listens. -/
def draftsListening (w : World Owner Session) : World Owner Session :=
  ⟨(w.store.listen .drafts).2, { w.parts with
    autosaver := w.parts.autosaver.map fun a => { a with ticket := some w.store.nextTicket } }⟩

theorem autosaver_draftsListening {a : Autosaver} (h : w.parts.autosaver = some a) :
    (draftsListening w).parts.autosaver = some { a with ticket := some w.store.nextTicket } := by
  rw [draftsListening, h]
  rfl

/-- What schedules drafts begins to listen if drafts are kept and it did not. -/
theorem startDrafts_cases (w : World Owner Session) : startDrafts.run w = .ok () w ∨
    (∃ a, w.parts.autosaver = some a ∧ a.ticket = none) ∧
      startDrafts.run w = .ok () (draftsListening w) := by
  have hread : (autosaverPart.read : Visit _).run w = .ok w.parts.autosaver w := rfl
  rw [startDrafts, Run.run_bind_of_ok hread]
  cases w.parts.autosaver with
  | none => exact Or.inl rfl
  | some a =>
    dsimp only
    unfold Autosaver.start
    split
    · next hnone => exact Or.inr ⟨⟨a, rfl, Option.isNone_iff_eq_none.mp hnone⟩, rfl⟩
    · exact Or.inl rfl

/-- What schedules drafts is closed, if drafts are kept. -/
def closeDrafts : Visit Unit := do
  match ← autosaverPart.read with
  | some a => a.close updateAutosaver
  | none => pure ()

/-- Once its parts are closed, so is the form: what withdraws a submission does not listen any more. -/
def closeForm : Visit Unit := do
  match ← ticketPart.read with
  | some ticket => unsubscribe ticket
  | none => pure ()
  ticketPart.update fun _ => none
  mountedPart.update fun _ => false

/-- The order in which a session is closed. -/
theorem run_close (w : World Owner Session) :
    close.run w = (closeDrafts >>= fun _ => Engine.close enginePart >>= fun _ =>
      Tracker.close trackerPart >>= fun _ => closeForm).run w := by
  obtain ⟨store, form, tracker, engine, dispatch, autosaver, submission, ticket, mounted, now⟩ := w
  cases autosaver <;> rfl

/-- A store without the subscription under a ticket, if there is a ticket. -/
def dropped (store : Store Owner) : Option Nat → Store Owner
  | some ticket => store.unsubscribe ticket
  | none => store

theorem data_dropped (store : Store Owner) (ticket? : Option Nat) :
    (dropped store ticket?).data = store.data := by
  cases ticket? <;> rfl

/-- A world in which what schedules drafts is closed. -/
def draftsClosed (w : World Owner Session) : World Owner Session :=
  ⟨dropped w.store (w.parts.ticketOf .drafts), { w.parts with
    autosaver := w.parts.autosaver.map fun a =>
      { a with debouncer := a.debouncer.cancel, ticket := none } }⟩

theorem run_closeDrafts (w : World Owner Session) : closeDrafts.run w = .ok () (draftsClosed w) := by
  obtain ⟨store, form, tracker, engine, dispatch, autosaver, submission, ticket, mounted, now⟩ := w
  cases autosaver with
  | none => rfl
  | some a =>
    obtain ⟨formId, drafts, debouncer, lastSaved, skipNext, given, hasDraft⟩ := a
    cases given <;> rfl

theorem run_closeForm (w : World Owner Session) : closeForm.run w
    = .ok () ⟨dropped w.store w.parts.ticket, { w.parts with ticket := none, mounted := false }⟩ := by
  obtain ⟨store, form, tracker, engine, dispatch, autosaver, submission, ticket, mounted, now⟩ := w
  cases ticket <;> rfl

/-! ## Mounting -/

/-- A session that is being mounted. -/
structure Mounting (form : Form) (heard : List (Subscription Owner) → Prop)
    (w : World Owner Session) : Prop where
  /-- Its subscriptions are as described. -/
  upheld : Upheld form heard w
  /-- No passes are being made. -/
  idle : w.parts.tracker.refreshing = false
  /-- It counts as mounted. -/
  mounted : w.parts.mounted = true

/-- The data of the form once the draft has been put in; an empty one is not. -/
def restored (s : Session) (data : Object) : Object :=
  match s.draft? with
  | some (entry :: rest) => entry :: rest
  | _ => data

/-- Before anybody listens, putting in the draft does nothing else. -/
theorem run_restore (hnobody : w.store.subscriptions = []) : restore.run w
    = .ok () ⟨{ w.store with data := restored w.parts w.store.data },
        { w.parts with autosaver := w.parts.autosaver.map Autosaver.restore }⟩ := by
  obtain ⟨store, form, tracker, engine, dispatch, autosaver, submission, ticket, mounted, now⟩ := w
  cases autosaver with
  | none => rfl
  | some a =>
    let s : Session := ⟨form, tracker, engine, dispatch, some a, submission, ticket, mounted, now⟩
    let w' : World Owner Session := ⟨store, { s with autosaver := some a.restore }⟩
    have hread : (autosaverPart.read : Visit _).run ⟨store, s⟩ = .ok (some a) ⟨store, s⟩ := rfl
    have hupdate : (autosaverPart.update fun a => a.map Autosaver.restore : Visit Unit).run ⟨store, s⟩
        = .ok () w' := rfl
    have hdata : restored s store.data = match a.draft? with
      | some (entry :: rest) => entry :: rest
      | _ => store.data := rfl
    rw [restore, EStateM.run_bind, hread]
    dsimp only
    rw [EStateM.run_bind, hupdate, hdata]
    cases a.draft? with
    | none => rfl
    | some draft =>
      cases draft with
      | nil => rfl
      | cons entry rest =>
        have hcaptured : w'.store.captureFor (.reset (entry :: rest)) = [] := by
          rw [captureFor_eq]
          simp only [Store.concerned, Write.path?]
          rw [show w'.store.subscriptions = [] from hnobody, List.map_nil]
        have hput : (put (.reset (entry :: rest))).run w' = .ok true (w'.withData (entry :: rest)) := by
          rw [put, run_write, nesting_eq]
          exact run_perform_of_nobody react _ rfl hcaptured
        dsimp only
        rw [EStateM.run_bind, hput]
        rfl

/-- A session holds its data or its draft. -/
theorem restored_cases (s : Session) (data : Object) :
    restored s data = data ∨ s.draft? = some (restored s data) := by
  unfold restored
  split
  · next hdraft => exact Or.inr hdraft
  · exact Or.inl rfl

/-- The draft is put into the form before anybody listens. -/
theorem yields_restore (hw : Mounting form (· = []) w) :
    restore.Yields w (Mounting form (· = [])) := by
  refine ⟨(), _, run_restore hw.upheld.heard, ⟨?_, hw.idle, hw.mounted⟩⟩
  have hgrounded : Path.Grounded (restored w.parts w.store.data) := by
    rcases restored_cases w.parts w.store.data with hsame | hdraft
    · rw [hsame]
      exact hw.upheld.grounded
    · obtain ⟨a, -, ha⟩ := Option.bind_eq_some_iff.mp hdraft
      have hdocument := Autosaver.isDocument_of_draft? ha
      have hall := ((Value.isDocument_object_iff _).mp hdocument).2
      exact Path.grounded_of_all fun e he => Value.isAbsent_of_isDocument (hall e he)
  refine ⟨hw.upheld.form_eq, hw.upheld.items_eq, hw.upheld.registers_eq, hgrounded, fun sub hsub => ?_,
    hw.upheld.heard⟩
  exact absurd ((hw.upheld.heard : w.store.subscriptions = []) ▸ hsub) List.not_mem_nil

/-- Only what decides what is visible listens. -/
def OnlyVisibility (subs : List (Subscription Owner)) : Prop :=
  ∀ sub ∈ subs, sub.owner = .visibility

/-- A write of a tracker that is making passes while nobody else listens. -/
theorem yields_perform_busy (hwr : wr.IsProper) (hplaced : wr.IsPlaced)
    (hw : Busy form OnlyVisibility w) :
    (perform react (depth + 1) wr).Yields w (Busy form OnlyVisibility) := by
  rcases Write.change?_cases hplaced w.store.data with ⟨hnone, -⟩ | hsome
  · exact ⟨false, w, run_perform_of_none _ _ hnone, hw⟩
  · rw [Run.Yields, run_perform_of_some _ _ hsome, captureFor_eq]
    have howners : ∀ sub ∈ w.store.concerned wr, sub.owner = .visibility :=
      fun sub hsub => hw.heard sub ((concerned_sublist _ _).subset hsub)
    have hall : (((w.store.concerned wr).map fun sub => sub.capture w.store.data).forM
        (tell (react (perform react depth)) wr)).Yields
        (w.withData (wr.after w.store.data)) (Busy form OnlyVisibility) := by
      have hstart : Busy form OnlyVisibility (w.withData (wr.after w.store.data)) :=
        ⟨hw.toUpheld.withData hwr hsome, hw.refreshing⟩
      let I : List (Captured Owner) → World Owner Session → Prop := fun rest w' =>
        (∀ c ∈ rest, c.subscription.owner = .visibility) ∧ Busy form OnlyVisibility w'
      have hround : ∀ c rest w', I (c :: rest) w' →
          (tell (react (perform react depth)) wr c).Yields w' (I rest) := by
        intro c rest w' hw'
        refine (yields_tell_busy (hw'.1 c List.mem_cons_self) hw'.2).mono fun w'' hw'' => ⟨?_, hw''⟩
        exact fun c' hc' => hw'.1 c' (List.mem_cons_of_mem _ hc')
      refine (Run.yields_forM hround ⟨fun c hc => ?_, hstart⟩).mono fun _ hw' => hw'.2
      obtain ⟨sub, hsub, rfl⟩ := List.mem_map.mp hc
      exact howners sub hsub
    exact hall.bind fun _ w' hw' => ⟨true, w', rfl, hw'⟩

/-- The tracker refreshes before anybody else listens. -/
theorem yields_refresh_mounting (hpaths : ∀ node ∈ Item.nodes form.schema.items, node.path ≠ "")
    (hw : Mounting form OnlyVisibility w) :
    (Tracker.refresh trackerPart put).Yields w (Mounting form OnlyVisibility) := by
  have hmanages : Tracker.Manages trackerPart form.schema.items true put (fun _ => False)
      (Busy form OnlyVisibility) := by
    refine manages hpaths (fun wr w hwr hplaced hw => ?_) (fun _ _ => id) fun _ _ => id
    left
    rw [Run.Yields, put, run_write, nesting_eq]
    exact yields_perform_busy hwr hplaced hw
  have hbusy : Busy form OnlyVisibility (Tracker.busied trackerPart w) :=
    ⟨hw.upheld.of_parts rfl rfl rfl fun owner => by cases owner <;> rfl, rfl⟩
  obtain ⟨⟨⟩, last, hrun, busy, hlast, rfl⟩ :=
    (hmanages.refresh hw.idle hbusy).resolve_right fun h => h
  have hmounted : (Tracker.refresh trackerPart put).Keeps fun w => w.parts.mounted = true :=
    Tracker.keeps_refresh (fun _ _ _ => id) (fun _ _ => (holds_mounted true).put trivial)
      fun _ => (holds_mounted true).put trivial
  have hend := hmounted w hw.mounted
  rw [Run.outcome_of_ok hrun] at hend
  exact ⟨(), _, hrun, hlast.toUpheld.of_parts rfl rfl rfl fun owner => by cases owner <;> rfl, rfl,
    hend⟩

/-- The tracker starts before anybody else listens. -/
theorem yields_startTracker (hpaths : ∀ node ∈ Item.nodes form.schema.items, node.path ≠ "")
    (hw : Mounting form (· = []) w) :
    (Tracker.start trackerPart put .visibility).Yields w (Mounting form OnlyVisibility) := by
  have hnobody : w.store.subscriptions = [] := hw.upheld.heard
  rw [Run.Yields, Tracker.run_start, Tracker.started]
  split
  · -- the first subscription is its own
    let t : Tracker := { w.parts.tracker with visible := Item.byPath w.parts.tracker.items }
    have hone : (w.store.subscribe t.watched Owner.visibility).2.subscriptions
        = [⟨w.store.nextTicket, some t.watched.eraseDups, .visibility⟩] := by
      show w.store.subscriptions ++ _ = _
      rw [hnobody, List.nil_append]
    refine yields_refresh_mounting hpaths
      (w := Tracker.listening trackerPart .visibility (Tracker.readied trackerPart w))
      ⟨⟨hw.upheld.form_eq, hw.upheld.items_eq, hw.upheld.registers_eq, hw.upheld.grounded,
        fun sub hsub => ?_, fun sub hsub => ?_⟩, hw.idle, hw.mounted⟩
    · obtain rfl := List.mem_singleton.mp (hone ▸ hsub)
      rfl
    · obtain rfl := List.mem_singleton.mp (hone ▸ hsub)
      rfl
  · have hnow : Upheld form OnlyVisibility w := hw.upheld.mono (by
      rw [hnobody]
      exact fun sub hsub => absurd hsub List.not_mem_nil)
    exact yields_refresh_mounting hpaths (w := Tracker.readied trackerPart w)
      ⟨hnow.of_parts rfl rfl rfl fun owner => by cases owner <;> rfl, hw.idle, hw.mounted⟩

/-- A subscription is added for an owner who had none. -/
theorem Mounting.add (hw : Mounting form Listening w) {owner : Owner} {s : Session}
    (paths : Option (List String)) (hform : s.form = w.parts.form)
    (htracker : s.tracker = w.parts.tracker) (hmounted : s.mounted = w.parts.mounted)
    (hfree : w.parts.ticketOf owner = none)
    (hgiven : s.ticketOf owner = some w.store.nextTicket)
    (hothers : ∀ other, other ≠ owner → s.ticketOf other = w.parts.ticketOf other) :
    Mounting form Listening ⟨(w.store.add paths owner).2, s⟩ := by
  refine ⟨⟨hform.trans hw.upheld.form_eq, ?_, ?_, hw.upheld.grounded, fun sub hsub => ?_,
    hw.upheld.heard.add _⟩, ?_, hmounted.trans hw.mounted⟩
  · exact (congrArg Tracker.items htracker).trans hw.upheld.items_eq
  · exact (congrArg Tracker.registers htracker).trans hw.upheld.registers_eq
  · rcases List.mem_append.mp hsub with hold | hnew
    · have hheld := hw.upheld.held sub hold
      rw [hothers sub.owner fun heq => ?_]
      · exact hheld
      · rw [heq, hfree] at hheld
        cases hheld
    · obtain rfl := List.mem_singleton.mp hnew
      exact hgiven
  · exact (congrArg Tracker.refreshing htracker).trans hw.idle

/-- A worker gets a ticket that the session knows of. -/
theorem givesTickets_mounting :
    Engine.GivesTickets enginePart Owner.worker (Mounting form Listening) := by
  intro key worker w hw hfound hnone
  refine hw.add (s := { w.parts with engine := w.parts.engine.changeWorker key fun worker =>
    { worker with ticket := some w.store.nextTicket } })
    (some worker.lookup.dependencyPaths.eraseDups) rfl rfl rfl ?_ ?_ ?_
  · show (w.parts.engine.workers.get? key).bind (·.ticket) = none
    rw [show w.parts.engine.workers.get? key = some worker from hfound]
    exact hnone
  · refine (Engine.ticket?_changeWorker_self _ _ _).trans ?_
    rw [show w.parts.engine.workers.get? key = some worker from hfound]
    rfl
  · intro other hother
    cases other with
    | worker other =>
      exact Engine.ticket?_changeWorker_of_ne (fun heq => hother (congrArg Owner.worker heq)) _ _
    | visibility | edits | drafts => rfl

/-- What leaves the subscriptions and the passes alone keeps a session mounting. -/
theorem keeps_mounting_of_holds {m : Visit Unit} (h : ∀ I, Holds I → m.Keeps I) :
    m.Keeps (Mounting form heard) := fun w hw =>
  ⟨h _ holds_upheld w hw.upheld, h _ (holds_refreshing false) w hw.idle,
    h _ (holds_mounted true) w hw.mounted⟩

/-- The lookups start once what withdraws a submission listens. -/
theorem keeps_startEngine :
    (Engine.start enginePart put isShown Owner.worker).Keeps (Mounting form Listening) :=
  Engine.keeps_start
    (fun path v w hw => ⟨holds_upheld.set path v w hw.upheld,
      (holds_refreshing false).set path v w hw.idle, (holds_mounted true).set path v w hw.mounted⟩)
    (fun f hf => keeps_mounting_of_holds fun _ h => h.engine f hf) givesTickets_mounting

/-- The drafts start. -/
theorem keeps_startDrafts : startDrafts.Keeps (Mounting form Listening) := by
  intro w hw
  rcases startDrafts_cases w with hrun | ⟨⟨a, hautosaver, hnone⟩, hrun⟩
  · rwa [Run.outcome_of_ok hrun]
  · rw [Run.outcome_of_ok hrun]
    refine hw.add (s := (draftsListening w).parts) none rfl rfl rfl ?_ ?_ fun other hother => ?_
    · show w.parts.autosaver.bind (·.ticket) = none
      rw [hautosaver]
      exact hnone
    · exact congrArg (Option.bind · Autosaver.ticket) (autosaver_draftsListening hautosaver)
    · cases other with
      | drafts => exact absurd rfl hother
      | visibility | edits | worker key => rfl

/-- **Mounting leaves a session upright**, whether it ends well or not. -/
theorem keeps_mount (hpaths : ∀ node ∈ Item.nodes form.schema.items, node.path ≠ "") :
    mount.Keeps (Upright form) := by
  intro w hw
  have hrun : mount.run w = (if w.parts.mounted then pure () else do
      mountedPart.update fun _ => true
      startParts : Visit Unit).run w := rfl
  rw [Run.outcome, hrun, ← Run.outcome]
  cases hmounted : w.parts.mounted with
  | true => exact hw
  | false =>
    let w₁ : World Owner Session := { w with parts := { w.parts with mounted := true } }
    have hw₁ : Mounting form (· = []) w₁ := by
      have hnobody : Upheld form (· = []) w := hw.upheld.mono (hw.nobody hmounted)
      exact ⟨hnobody.of_parts rfl rfl rfl fun owner => by cases owner <;> rfl, hw.idle, rfl⟩
    -- up to here nothing fails; from here on something may, but what withdraws a submission listens
    obtain ⟨⟨⟩, w₂, hrestore, hw₂⟩ := yields_restore hw₁
    obtain ⟨⟨⟩, w₃, hstart, hw₃⟩ := yields_startTracker hpaths hw₂
    let w₄ : World Owner Session :=
      ⟨(w₃.store.listen .edits).2, { w₃.parts with ticket := some w₃.store.nextTicket }⟩
    have hw₄ : Mounting form Listening w₄ := by
      refine ⟨⟨hw₃.upheld.form_eq, hw₃.upheld.items_eq, hw₃.upheld.registers_eq,
        hw₃.upheld.grounded, fun sub hsub => ?_, ?_⟩, hw₃.idle, hw₃.mounted⟩
      · rcases List.mem_append.mp hsub with hold | hnew
        · have hheld := hw₃.upheld.held sub hold
          rw [hw₃.upheld.heard sub hold] at hheld ⊢
          exact hheld
        · obtain rfl := List.mem_singleton.mp hnew
          rfl
      · exact ⟨w₃.store.subscriptions, w₃.store.nextTicket, [], rfl, hw₃.upheld.heard⟩
    have hend : Mounting form Listening
        ((Engine.start enginePart put isShown Owner.worker >>= fun _ => startDrafts).outcome w₄) :=
      keeps_bind keeps_startEngine (fun _ => keeps_startDrafts) w₄ hw₄
    have hall : ((do
        mountedPart.update fun _ => true
        startParts : Visit Unit).outcome w)
        = (Engine.start enginePart put isShown Owner.worker >>= fun _ => startDrafts).outcome w₄ := by
      refine Eq.trans (show _ = startParts.outcome w₁ from rfl) ?_
      rw [startParts_eq, Run.outcome_bind_of_ok hrestore, Run.outcome_bind_of_ok hstart]
      rfl
    rw [if_neg Bool.false_ne_true, hall]
    refine ⟨hend.upheld.mono ?_, hend.idle⟩
    rw [hend.mounted, if_pos rfl]
    exact hend.upheld.heard

/-! ## Closing -/

/-- A session without the subscription of one owner. -/
structure GivesUp (owner : Owner) (before after : Session) : Prop where
  /-- The form is the same. -/
  form_eq : after.form = before.form
  /-- So is the form of the tracker. -/
  items_eq : after.tracker.items = before.tracker.items
  /-- So is whether it registers fields. -/
  registers_eq : after.tracker.registers = before.tracker.registers
  /-- So is whether passes are being made. -/
  refreshing_eq : after.tracker.refreshing = before.tracker.refreshing
  /-- The owner has no ticket any more. -/
  gone : after.ticketOf owner = none
  /-- All others keep theirs. -/
  others : ∀ other, other ≠ owner → after.ticketOf other = before.ticketOf other

/-- A session that is being closed: some owners have given up their subscriptions. -/
structure Shut (form : Form) (gone : Owner → Prop) (w : World Owner Session) : Prop where
  /-- The session is as it was. -/
  upheld : Upheld form (fun _ => True) w
  /-- No passes are being made. -/
  idle : w.parts.tracker.refreshing = false
  /-- Those owners have no tickets. -/
  gone : ∀ owner, gone owner → w.parts.ticketOf owner = none

/-- One more owner gives its subscription up. -/
theorem Shut.step {gone : Owner → Prop} {owner : Owner} {s : Session} (h : Shut form gone w)
    (hs : GivesUp owner w.parts s) :
    Shut form (fun other => gone other ∨ other = owner)
      ⟨dropped w.store (w.parts.ticketOf owner), s⟩ := by
  refine ⟨⟨hs.form_eq.trans h.upheld.form_eq, hs.items_eq.trans h.upheld.items_eq,
    hs.registers_eq.trans h.upheld.registers_eq, ?_, fun sub hsub => ?_, trivial⟩,
    hs.refreshing_eq.trans h.idle, fun other hother => ?_⟩
  · show Path.Grounded (dropped w.store (w.parts.ticketOf owner)).data
    rw [data_dropped]
    exact h.upheld.grounded
  · -- whoever is still subscribed had another ticket
    have hsub : sub ∈ w.store.subscriptions ∧ ∀ ticket, w.parts.ticketOf owner = some ticket →
        sub.ticket ≠ ticket := by
      cases hticket : w.parts.ticketOf owner with
      | none =>
        rw [hticket] at hsub
        exact ⟨hsub, nofun⟩
      | some ticket =>
        rw [hticket] at hsub
        obtain ⟨hmem, hne⟩ := List.mem_filter.mp hsub
        exact ⟨hmem, fun _ heq => Option.some.inj heq ▸ by simpa using hne⟩
    have hheld := h.upheld.held sub hsub.1
    rw [hs.others sub.owner fun heq => ?_]
    · exact hheld
    · rw [heq] at hheld
      exact hsub.2 _ hheld rfl
  · by_cases heq : other = owner
    · rw [heq]
      exact hs.gone
    · rw [hs.others other heq]
      exact h.gone other (hother.resolve_right heq)

theorem Shut.mono {gone gone' : Owner → Prop} (h : Shut form gone w)
    (himp : ∀ owner, gone' owner → gone owner) : Shut form gone' w :=
  { h with gone := fun owner hgone => h.gone owner (himp owner hgone) }

/-- A session all of whose owners have given up their subscriptions has none. -/
theorem Shut.nobody (h : Shut form (fun _ => True) w) : w.store.subscriptions = [] := by
  refine List.eq_nil_iff_forall_not_mem.mpr fun sub hsub => ?_
  have hheld := h.upheld.held sub hsub
  rw [h.gone sub.owner trivial] at hheld
  cases hheld

section

variable {gone : Owner → Prop}

/-- The drafts close. -/
theorem yields_closeDrafts (h : Shut form gone w) :
    closeDrafts.Yields w (Shut form fun owner => gone owner ∨ owner = .drafts) := by
  have hgives : GivesUp .drafts w.parts (draftsClosed w).parts := by
    refine ⟨rfl, rfl, rfl, rfl, ?_, fun other hother => ?_⟩
    · show (w.parts.autosaver.map fun a =>
        { a with debouncer := a.debouncer.cancel, ticket := none }).bind Autosaver.ticket = none
      cases w.parts.autosaver <;> rfl
    · cases other with
      | drafts => exact absurd rfl hother
      | visibility | edits | worker key => rfl
  exact ⟨(), _, run_closeDrafts w, h.step hgives⟩

/-- One worker closes. -/
theorem yields_closeWorker (key : String) (h : Shut form gone w) :
    (Engine.closeWorker enginePart key : Visit Unit).Yields w
      (Shut form fun owner => gone owner ∨ owner = .worker key) := by
  cases hfound : w.parts.engine.workers.get? key with
  | none =>
    have hnone : w.parts.ticketOf (.worker key) = none := by
      rw [ticketOf, Engine.ticket?, hfound]
      rfl
    refine ⟨(), w, Engine.run_closeWorker_of_none enginePart hfound, { h with gone := ?_ }⟩
    rintro owner (hgone | rfl)
    · exact h.gone owner hgone
    · exact hnone
  | some worker =>
    let engine : Engine := (w.parts.engine.changeWorker key fun worker =>
      { worker with ticket := none, current := none }).callOff key
    have htickets : ∀ other, engine.ticket? other = (w.parts.engine.changeWorker key fun worker =>
      { worker with ticket := none, current := none }).ticket? other := fun _ => rfl
    have hgives : GivesUp (.worker key) w.parts { w.parts with engine } := by
      refine ⟨rfl, rfl, rfl, rfl, ?_, fun other hother => ?_⟩
      · rw [ticketOf, htickets, Engine.ticket?_changeWorker_self, hfound]
        rfl
      · cases other with
        | worker other =>
          rw [ticketOf, htickets, Engine.ticket?_changeWorker_of_ne fun heq =>
            hother (congrArg Owner.worker heq)]
          rfl
        | visibility | edits | drafts => rfl
    refine ⟨(), _, ?_, h.step hgives⟩
    have hticket : w.parts.ticketOf (.worker key) = worker.ticket := by
      rw [ticketOf, Engine.ticket?, hfound]
      rfl
    rw [Engine.run_closeWorker enginePart hfound, hticket, Engine.closed]
    cases worker.ticket <;> rfl

/-- All workers close. -/
theorem yields_closeEngine (h : Shut form gone w) :
    (Engine.close enginePart : Visit Unit).Yields w
      (Shut form fun owner => gone owner ∨ ∃ key, owner = .worker key) := by
  -- those have closed that are not to be closed yet
  let I : List String → World Owner Session → Prop := fun rest =>
    Shut form fun owner => gone owner ∨ ∃ key, owner = .worker key ∧ key ∉ rest
  have hround : ∀ key rest w', I (key :: rest) w' →
      (Engine.closeWorker enginePart key : Visit Unit).Yields w' (I rest) := by
    intro key rest w' hw'
    refine (yields_closeWorker key hw').mono fun w'' hw'' => hw''.mono ?_
    rintro owner (hgone | ⟨other, rfl, hother⟩)
    · exact Or.inl (Or.inl hgone)
    · by_cases heq : other = key
      · exact Or.inr (congrArg Owner.worker heq)
      · exact Or.inl (Or.inr ⟨other, rfl, by simp [heq, hother]⟩)
  have hstart : I w.parts.engine.workers.keys w := by
    refine { h with gone := ?_ }
    rintro owner (hgone | ⟨key, rfl, hkey⟩)
    · exact h.gone owner hgone
    · rw [ticketOf, Engine.ticket?, (Entries.get?_eq_none_iff _ _).mpr hkey]
      rfl
  refine Run.Yields.mono (Run.yields_forM hround hstart) fun w' hw' => hw'.mono ?_
  rintro owner (hgone | ⟨key, rfl⟩)
  · exact Or.inl hgone
  · exact Or.inr ⟨key, rfl, List.not_mem_nil⟩

/-- What decides what is visible closes. -/
theorem yields_closeTracker (h : Shut form gone w) :
    (Tracker.close trackerPart : Visit Unit).Yields w
      (Shut form fun owner => gone owner ∨ owner = .visibility) := by
  cases hticket : w.parts.tracker.ticket with
  | none =>
    refine ⟨(), w, ?_, { h with gone := ?_ }⟩
    · simp only [Tracker.close, EStateM.run_bind, Part.run_read]
      rw [show (trackerPart.get w.parts).ticket = none from hticket]
      rfl
    · rintro owner (hgone | rfl)
      · exact h.gone owner hgone
      · exact hticket
  | some ticket =>
    have hgives : GivesUp .visibility w.parts
        { w.parts with tracker := { w.parts.tracker with ticket := none } } := by
      refine ⟨rfl, rfl, rfl, rfl, rfl, fun other hother => ?_⟩
      cases other with
      | visibility => exact absurd rfl hother
      | edits | worker key | drafts => rfl
    refine ⟨(), _, ?_, h.step hgives⟩
    simp only [Tracker.close, EStateM.run_bind, Part.run_read]
    rw [show (trackerPart.get w.parts).ticket = some ticket from hticket,
      show w.parts.ticketOf .visibility = some ticket from hticket]
    rfl

end

/-- **Closing leaves a session upright**, with nobody listening. -/
theorem keeps_close : close.Keeps (Upright form) := by
  intro w hw
  have hnow : Shut form (fun _ => False) w := ⟨hw.upheld.mono trivial, hw.idle, nofun⟩
  obtain ⟨⟨⟩, w₁, hdrafts, hw₁⟩ := yields_closeDrafts hnow
  obtain ⟨⟨⟩, w₂, hengine, hw₂⟩ := yields_closeEngine hw₁
  obtain ⟨⟨⟩, w₃, htracker, hw₃⟩ := yields_closeTracker hw₂
  have hgives : GivesUp .edits w₃.parts { w₃.parts with ticket := none, mounted := false } := by
    refine ⟨rfl, rfl, rfl, rfl, rfl, fun other hother => ?_⟩
    cases other with
    | edits => exact absurd rfl hother
    | visibility | worker key | drafts => rfl
  have hend : Shut form (fun _ => True) _ := (hw₃.step hgives).mono fun owner _ => by
    cases owner <;> simp
  have hrun : close.outcome w
      = ⟨dropped w₃.store w₃.parts.ticket, { w₃.parts with ticket := none, mounted := false }⟩ := by
    rw [Run.outcome, run_close, ← Run.outcome, Run.outcome_bind_of_ok hdrafts,
      Run.outcome_bind_of_ok hengine, Run.outcome_bind_of_ok htracker,
      Run.outcome_of_ok (run_closeForm w₃)]
  rw [hrun]
  exact ⟨hend.upheld.mono hend.nobody, hend.idle⟩

end Session
end DynamicForms
