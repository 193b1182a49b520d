import DynamicForms.Proofs.Session.Mounting
import DynamicForms.Proofs.Visibility.Pass
import DynamicForms.Proofs.Visibility.Twins

/-!
# `DynamicForms.Proofs.Session.Following` — a session follows a tracker that is alone

While a form without lookups is filled in, what decides what is visible is the only part that writes; what
withdraws a submission and what schedules drafts only listen. So its tracker does what it would do if it
were alone with the same data, and what is known of such a tracker is known of the session.

While any form is being mounted, nobody else listens yet when its tracker starts. So this start, too, is that of
a tracker that is alone, and all other parts of the session stay as they are meanwhile.

## Contents
- **Following.** `Session.Attends`, `Attends.relates_perform`, `Attends.twins_put`.
- `Session.Beside`, `twins_put`, `Session.Follows`: a form without lookups.
- **The tracker starts.** `Tracker.Starts`, `Session.Alongside`, `yields_startTracker_alongside`.
- **Mounting.** `Session.opening`, `run_mount`, `yields_startDrafts`; `yields_mount_follows`.
-/

namespace DynamicForms

open Value (Object)

/-- A tracker that is alone with some data and takes every item as visible comes to have a property when it
    refreshes. -/
def Tracker.Starts (items : List Item) (data : Object) (Q : World Unit Tracker → Prop) : Prop :=
  ∀ t : World Unit Tracker, Lone items true t → t.parts.refreshing = false → t.store.data = data →
    t.parts.visible = Item.byPath items → (refresh Part.whole (write react)).Yields t Q

namespace Session

open Run (Relates relates_forM relates_forM_left relates_forM_append)
open Tracker (Lone)

/-! ## A session beside a tracker -/

/-- The subscription of a tracker as a session makes it. -/
def forVisibility (sub : Subscription Unit) : Subscription Owner :=
  ⟨sub.ticket, sub.paths, .visibility⟩

/-- Subscriptions of those that only listen. -/
def IsQuiet (subs : List (Subscription Owner)) : Prop :=
  ∀ sub ∈ subs, sub.paths = none ∧ (sub.owner = .edits ∨ sub.owner = .drafts)

/-- A relation under which a session follows a tracker that is alone: they have the same data and the same
    tracker, and beside the tracker only those listen to the session who do nothing that a tracker sees. -/
structure Attends (subs : List (Subscription Unit)) (quiet : List (Subscription Owner))
    (R : World Owner Session → World Unit Tracker → Prop) : Prop where
  /-- The data is the same. -/
  data_eq : ∀ {s t}, R s t → s.store.data = t.store.data
  /-- So is the tracker. -/
  tracker_eq : ∀ {s t}, R s t → s.parts.tracker = t.parts
  /-- The subscriptions of the tracker that is alone. -/
  alone : ∀ {s t}, R s t → t.store.subscriptions = subs
  /-- The subscriptions of the session. -/
  heard : ∀ {s t}, R s t → s.store.subscriptions = subs.map forVisibility ++ quiet
  /-- The data may change in both. -/
  withData : ∀ {s t} (data : Object), R s t → R (s.withData data) (t.withData data)
  /-- So may the tracker. -/
  change : ∀ {s t} (tracker : Tracker), R s t →
    R { s with parts := { s.parts with tracker } } { t with parts := tracker }
  /-- The others are told of every write. -/
  paths_eq : ∀ sub ∈ quiet, sub.paths = none
  /-- They do nothing that a tracker sees. -/
  listens : ∀ (put : Writer Owner Session), ∀ sub ∈ quiet, ∀ news,
    Relates R Eq (react put sub.owner news) (pure PUnit.unit : Run Unit Tracker PUnit)

section

variable {subs : List (Subscription Unit)} {quiet : List (Subscription Owner)}
  {R : World Owner Session → World Unit Tracker → Prop} {s : World Owner Session}
  {t : World Unit Tracker} {wr : Write} (h : Attends subs quiet R)

include h

theorem Attends.concerned_eq (hR : R s t) (wr : Write) :
    s.store.concerned wr = (t.store.concerned wr).map forVisibility ++ quiet := by
  unfold Store.concerned
  rw [h.heard hR, h.alone hR]
  cases wr.path? with
  | none => rfl
  | some path =>
    have hall : quiet.filter (fun sub => sub.watches path) = quiet := by
      refine List.filter_eq_self.mpr fun sub hsub => ?_
      simp only [Subscription.watches, h.paths_eq sub hsub]
    simp only [List.filter_append, hall, List.filter_map]
    rfl

theorem Attends.nesting_eq (hR : R s t) : s.store.nesting = t.store.nesting := by
  have hnone : (quiet.flatMap fun sub => (sub.paths.getD []).map fun path => (sub.owner, path)) = [] := by
    refine List.flatMap_eq_nil_iff.mpr fun sub hsub => ?_
    rw [h.paths_eq sub hsub]
    rfl
  simp only [Store.nesting, Store.watchings, h.heard hR, h.alone hR, List.flatMap_append, hnone,
    List.append_nil, List.length_flatMap, List.map_map, List.length_map]
  rfl

/-- A session whose writes follow has the same tracker. -/
theorem Attends.twins {put : Writer Owner Session} {put' : Writer Unit Tracker}
    (hput : ∀ wr, Relates R Eq (put wr) (put' wr)) :
    Tracker.Twins R trackerPart Part.whole put put' where
  data_eq hR := h.data_eq hR
  tracker_eq hR := h.tracker_eq hR
  change tracker hR := h.change tracker hR
  put := hput

/-- **A write to a session follows the same write to a tracker that is alone.** -/
theorem Attends.relates_perform (depth : Nat) (wr : Write) :
    Relates R Eq (perform react depth wr) (perform Tracker.react depth wr) := by
  refine DynamicForms.relates_perform (P := fun _ => True) (fun {wr s t} _ hR => ?_)
    (fun put put' hput {wr s t} _ hR => ?_) depth trivial
  · rw [h.data_eq hR]
    cases wr.change? t.store.data with
    | error fault => exact .error fault
    | ok change =>
      cases change with
      | none => exact .none
      | some after => exact .some (h.withData after hR)
  · have htwins := h.twins fun wr => hput wr trivial
    have hvisible : Relates R Eq
        ((((t.store.concerned wr).map forVisibility).map fun sub => sub.capture s.store.data).forM
          (tell (react put) wr))
        (((t.store.concerned wr).map fun sub => sub.capture t.store.data).forM
          (tell (Tracker.react put') wr)) := by
      refine relates_forM ?_
      rw [List.map_map]
      refine List.forall₂_map_left_iff.mpr (List.forall₂_map_right_iff.mpr
        (List.forall₂_same.mpr fun sub hsub => ?_))
      have hmem : sub ∈ subs := h.alone hR ▸ (concerned_sublist _ _).subset hsub
      refine relates_tell (fun s' t' hR' => ?_) (fun s' t' hR' => ?_) fun news => htwins.refresh
      · -- the subscription is there in both
        have hsession : s'.store.isActive sub.ticket = true := by
          rw [Store.isActive, h.heard hR', List.any_eq_true]
          exact ⟨forVisibility sub, List.mem_append_left _ (List.mem_map_of_mem hmem), beq_self_eq_true _⟩
        have hlone : t'.store.isActive sub.ticket = true := by
          rw [Store.isActive, h.alone hR', List.any_eq_true]
          exact ⟨sub, hmem, beq_self_eq_true _⟩
        exact hsession.trans hlone.symm
      · rw [h.data_eq hR', h.data_eq hR]
        rfl
    have hquietly : Relates R Eq
        ((quiet.map fun sub => sub.capture s.store.data).forM (tell (react put) wr))
        (pure PUnit.unit : Run Unit Tracker PUnit) := by
      refine relates_forM_left fun c hc => ?_
      obtain ⟨sub, hsub, rfl⟩ := List.mem_map.mp hc
      exact relates_tell_left (h.listens put sub hsub)
    rw [captureFor_eq, captureFor_eq, h.concerned_eq hR, List.map_append]
    exact relates_forM_append hvisible hquietly

/-- So the tracker of the session does what it would do if it were alone. -/
theorem Attends.twins_put : Tracker.Twins R trackerPart Part.whole put (write Tracker.react) :=
  h.twins fun _ => relates_write (fun _ _ hR => h.nesting_eq hR) fun depth => h.relates_perform depth _

end

/-- A session of a form without lookups follows a tracker that is alone: they have the same data, and
    whoever else listens to the session only listens. -/
structure Beside (form : Form) (subs : List (Subscription Unit)) (quiet : List (Subscription Owner))
    (s : World Owner Session) (t : World Unit Tracker) : Prop where
  /-- The data is the same. -/
  data_eq : s.store.data = t.store.data
  /-- So is the tracker. -/
  tracker_eq : s.parts.tracker = t.parts
  /-- The subscriptions of the tracker that is alone. -/
  alone : t.store.subscriptions = subs
  /-- The subscriptions of the session. -/
  heard : s.store.subscriptions = subs.map forVisibility ++ quiet
  /-- The form of the session. -/
  form_eq : s.parts.form = form
  /-- Nothing is looked up. -/
  noWorkers : s.parts.engine.workers = []

variable {form : Form} {subs : List (Subscription Unit)} {quiet : List (Subscription Owner)}
  {s : World Owner Session} {t : World Unit Tracker} {wr : Write}

theorem attends_beside (hquiet : IsQuiet quiet) : Attends subs quiet (Beside form subs quiet) where
  data_eq h := h.data_eq
  tracker_eq h := h.tracker_eq
  alone h := h.alone
  heard h := h.heard
  withData _ h := ⟨rfl, h.tracker_eq, h.alone, h.heard, h.form_eq, h.noWorkers⟩
  change _ h := ⟨h.data_eq, rfl, h.alone, h.heard, h.form_eq, h.noWorkers⟩
  paths_eq sub hsub := (hquiet sub hsub).1
  listens put sub hsub news s t h := by
    -- a submission is withdrawn or a draft scheduled
    rcases (hquiet sub hsub).2 with howner | howner <;> rw [howner]
    · exact .ok rfl ⟨h.data_eq, h.tracker_eq, h.alone, h.heard, h.form_eq, h.noWorkers⟩
    · exact .ok rfl ⟨h.data_eq, h.tracker_eq, h.alone, h.heard, h.form_eq, h.noWorkers⟩

/-- So the tracker of a form without lookups does what it would do if it were alone. -/
theorem twins_put (hquiet : IsQuiet quiet) :
    Tracker.Twins (Beside form subs quiet) trackerPart Part.whole put (write Tracker.react) :=
  (attends_beside hquiet).twins_put

/-- A session follows a tracker that is alone and has a property. -/
def Follows (form : Form) (Q : World Unit Tracker → Prop) (w : World Owner Session) : Prop :=
  ∃ subs quiet t, IsQuiet quiet ∧ Beside form subs quiet w t ∧ Q t

/-! ## The tracker starts -/

variable {Q : World Unit Tracker → Prop} {w : World Owner Session}

/-- A session to which only its tracker listens follows a tracker that is alone, and its other parts are those
    of some session. -/
structure Alongside (p : Session) (subs : List (Subscription Unit)) (s : World Owner Session)
    (t : World Unit Tracker) : Prop where
  /-- The data is the same. -/
  data_eq : s.store.data = t.store.data
  /-- The subscriptions of the tracker that is alone. -/
  alone : t.store.subscriptions = subs
  /-- The subscriptions of the session. -/
  heard : s.store.subscriptions = subs.map forVisibility
  /-- The tracker is the same, and the other parts are as they were. -/
  parts_eq : s.parts = { p with tracker := t.parts }

theorem attends_alongside (p : Session) : Attends subs [] (Alongside p subs) where
  data_eq h := h.data_eq
  tracker_eq h := by rw [h.parts_eq]
  alone h := h.alone
  heard h := h.heard.trans (List.append_nil _).symm
  withData _ h := ⟨rfl, h.alone, h.heard, h.parts_eq⟩
  change {s t} tracker h := by
    refine ⟨h.data_eq, h.alone, h.heard, ?_⟩
    show { s.parts with tracker } = { p with tracker }
    rw [h.parts_eq]
  paths_eq _ hsub := absurd hsub List.not_mem_nil
  listens _ _ hsub := absurd hsub List.not_mem_nil

/-- **The tracker of a session starts as if it were alone**, for nobody listens yet; and nothing else of the
    session changes meanwhile. -/
theorem yields_startTracker_alongside {items : List Item} (hnobody : w.store.subscriptions = [])
    (htracker : w.parts.tracker = .ofItems items true)
    (hstarts : Tracker.Starts items w.store.data Q) :
    (Tracker.start trackerPart put .visibility).Yields w fun w' =>
      ∃ subs t, Alongside w.parts subs w' t ∧ Q t := by
  have hrefresh : ∀ {subs s t}, Alongside w.parts subs s t → Lone items true t →
      t.parts.refreshing = false → t.store.data = w.store.data → t.parts.visible = Item.byPath items →
      (Tracker.refresh trackerPart put).Yields s fun s' => ∃ subs t, Alongside w.parts subs s' t ∧ Q t := by
    intro subs s t halongside hlone hidle hsame hvisible
    have halone := hstarts t hlone hidle hsame hvisible
    exact ((attends_alongside w.parts).twins_put.refresh.yields halongside halone).mono
      fun s' hs' => ⟨subs, hs'⟩
  let tracker : Tracker := { Tracker.ofItems items true with visible := Item.byPath items }
  have hready : Tracker.readied trackerPart w = { w with parts := { w.parts with tracker } } := by
    show { w with parts := { w.parts with tracker := { w.parts.tracker with
      visible := Item.byPath w.parts.tracker.items } } } = _
    rw [htracker]
    rfl
  rw [Run.Yields, Tracker.run_start, Tracker.started, hready]
  split
  · let sub : Subscription Unit :=
      ⟨w.store.nextTicket, some (Item.watchedPaths items).eraseDups, ()⟩
    let t : World Unit Tracker :=
      ⟨⟨w.store.data, [sub], w.store.nextTicket + 1⟩, { tracker with ticket := some w.store.nextTicket }⟩
    have hheard : (w.store.subscribe (Item.watchedPaths items) Owner.visibility).2.subscriptions
        = [sub].map forVisibility := by
      show w.store.subscriptions ++ _ = _
      rw [hnobody]
      rfl
    exact hrefresh (s := Tracker.listening trackerPart .visibility _) (t := t)
      ⟨rfl, rfl, hheard, rfl⟩ ⟨rfl, rfl, rfl, fun hnone => absurd hnone (Option.some_ne_none _)⟩
      rfl rfl rfl
  · next hdeaf =>
    -- nothing to hear: no subscription is made
    have hnothing : Item.watchedPaths items = [] := by
      replace hdeaf : ¬ (!(Item.watchedPaths items).isEmpty && true) = true := hdeaf
      simpa using hdeaf
    let t : World Unit Tracker := ⟨⟨w.store.data, [], w.store.nextTicket⟩, tracker⟩
    exact hrefresh (t := t) ⟨rfl, rfl, hnobody, rfl⟩ ⟨rfl, rfl, rfl, fun _ => hnothing⟩ rfl rfl rfl

/-! ## Mounting -/

/-- A session that is being mounted, once its draft has been put in. -/
def opening (form : Form) (channel : Channel) (wire : Wire) (drafts : Option (Drafts × Int)) :
    World Owner Session :=
  let s := ofForm form channel wire drafts
  ⟨⟨restored s [], [], 0⟩, { s with autosaver := s.autosaver.map Autosaver.restore, mounted := true }⟩

/-- Mounting puts the draft in, starts the tracker, and then the others. -/
theorem run_mount (form : Form) (channel : Channel) (wire : Wire) (drafts : Option (Drafts × Int)) :
    mount.run (world (ofForm form channel wire drafts))
      = (Tracker.start trackerPart put .visibility >>= fun _ => startOthers).run
          (opening form channel wire drafts) := by
  let w : World Owner Session :=
    ⟨Store.ofData [], { ofForm form channel wire drafts with mounted := true }⟩
  have hrestore : restore.run w = .ok () (opening form channel wire drafts) := run_restore rfl
  have hfirst : mount.run (world (ofForm form channel wire drafts)) = startParts.run w := rfl
  rw [hfirst, startParts_eq, Run.run_bind_of_ok hrestore]

theorem yields_startDrafts {Q : World Owner Session → Prop} (hstay : Q w)
    (hlisten : Q (draftsListening w)) : startDrafts.Yields w Q := by
  rcases startDrafts_cases w with hrun | ⟨-, hrun⟩
  · exact ⟨(), w, hrun, hstay⟩
  · exact ⟨(), _, hrun, hlisten⟩

/-- One more part begins to listen, and only listens. -/
theorem Beside.listen {owner : Owner} {p : Session} (h : Beside form subs quiet s t)
    (htracker : p.tracker = s.parts.tracker) (hform : p.form = s.parts.form)
    (hengine : p.engine = s.parts.engine) :
    Beside form subs (quiet ++ [⟨s.store.nextTicket, none, owner⟩]) ⟨(s.store.listen owner).2, p⟩ t where
  data_eq := h.data_eq
  tracker_eq := htracker.trans h.tracker_eq
  alone := h.alone
  heard := by
    show s.store.subscriptions ++ _ = _
    rw [h.heard, List.append_assoc]
  form_eq := hform.trans h.form_eq
  noWorkers := by
    rw [show p.engine.workers = s.parts.engine.workers from congrArg Engine.workers hengine]
    exact h.noWorkers

/-- **Mounting a form without lookups** leaves its session following what a tracker makes of the draft. -/
theorem yields_mount_follows (hlookups : Item.lookups form.schema.items = []) {channel : Channel}
    {wire : Wire} {drafts : Option (Drafts × Int)}
    (hstarts : Tracker.Starts form.schema.items (restored (ofForm form channel wire drafts) []) Q) :
    mount.Yields (world (ofForm form channel wire drafts)) (Follows form Q) := by
  obtain ⟨⟨⟩, w₁, hstart, subs, t, halongside, ht⟩ := yields_startTracker_alongside
    (w := opening form channel wire drafts) rfl rfl hstarts
  have hworkers : w₁.parts.engine.workers = [] := by
    rw [halongside.parts_eq]
    show (Engine.ofLookups (Item.lookups form.schema.items)).workers = []
    rw [hlookups]
    rfl
  have hbeside : Beside form subs [] w₁ t :=
    ⟨halongside.data_eq, by rw [halongside.parts_eq], halongside.alone,
      halongside.heard.trans (List.append_nil _).symm, by rw [halongside.parts_eq]; rfl, hworkers⟩
  -- what withdraws a submission listens, and there are no workers to start
  let w₂ : World Owner Session :=
    ⟨(w₁.store.listen .edits).2, { w₁.parts with ticket := some w₁.store.nextTicket }⟩
  have hedits : Beside form subs [⟨w₁.store.nextTicket, none, .edits⟩] w₂ t :=
    hbeside.listen (p := w₂.parts) rfl rfl rfl
  have hengine : (Engine.start enginePart put isShown Owner.worker : Visit Unit).run w₂
      = .ok () w₂ := by
    have hloop : (Engine.start enginePart put isShown Owner.worker : Visit Unit).run w₂
        = (w₂.parts.engine.workers.keys.forM
            (Engine.startWorker enginePart put isShown Owner.worker)).run w₂ := rfl
    rw [hloop, hedits.noWorkers]
    rfl
  have hlisten : (listen .edits : Visit Nat).run w₁
      = .ok w₁.store.nextTicket ⟨(w₁.store.listen .edits).2, w₁.parts⟩ := rfl
  have hticket : (ticketPart.update fun _ => some w₁.store.nextTicket : Visit Unit).run
      ⟨(w₁.store.listen .edits).2, w₁.parts⟩ = .ok () w₂ := rfl
  have hquiet : IsQuiet [⟨w₁.store.nextTicket, none, .edits⟩] := by
    rintro sub hsub
    obtain rfl := List.mem_singleton.mp hsub
    exact ⟨rfl, Or.inl rfl⟩
  rw [Run.Yields, run_mount, Run.run_bind_of_ok hstart, startOthers, Run.run_bind_of_ok hlisten,
    Run.run_bind_of_ok hticket, Run.run_bind_of_ok hengine]
  refine yields_startDrafts (Q := Follows form Q) ⟨subs, _, t, hquiet, hedits, ht⟩
    ⟨subs, _, t, ?_, hedits.listen rfl rfl rfl, ht⟩
  intro sub hsub
  rcases List.mem_append.mp hsub with hold | hnew
  · exact hquiet sub hold
  · obtain rfl := List.mem_singleton.mp hnew
    exact ⟨rfl, Or.inr rfl⟩

end Session
end DynamicForms
