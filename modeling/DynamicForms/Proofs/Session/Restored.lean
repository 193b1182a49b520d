import DynamicForms.Proofs.Session.Shown
import DynamicForms.Proofs.Visibility.Registered

/-!
# `DynamicForms.Proofs.Session.Restored` — a restored draft gives back the form

As long as only visible fields are set, the data of a form is complete: nothing lies where hidden items are,
and visible fields have a value. What the drafts say was last saved is what is kept. So if that was the data as
it is, the draft is complete as well, and a form that is mounted with it starts from everything being
visible and leaves it as it is.

## Contents
- `Session.Tended`: a mounted session without lookups whose drafts are in order; `keeps_put_tended`,
  `tended_mount`.
- `run_evaluate_of_none`, `run_startEngine_of_none`, `run_dismiss_of_none`, `run_complete_of_none`: without
  lookups their part does nothing.
- `Session.Restorable`: what holds between the steps; `Event.SetsShown`, `Restorable.event`.
- `Session.SetsShownOnly`, `Restorable.events`; `exists_close`.
- `restored_of_saved`.
-/

namespace DynamicForms

open Json (Serialisable)
open Run (keeps_pure keeps_bind)
open Value (Object SameDocument)

namespace Session

variable {form : Form} {w : World Owner Session}

/-! ## Drafts -/

/-- A mounted session without lookups, whose autosaver keeps what it believes to be saved. -/
structure Tended (form : Form) (w : World Owner Session) : Prop where
  /-- Drafts are kept. -/
  saver : ∃ a, w.parts.autosaver = some a ∧ a.IsFaithful ∧ a.formId = form.id
  /-- Nothing is looked up. -/
  noWorkers : w.parts.engine.workers = []
  /-- No request is in flight. -/
  noErrands : w.parts.engine.inFlight = []
  /-- The form is mounted. -/
  mounted : w.parts.mounted = true

/-- It does not matter what becomes of the data, the tracker, the submission, and the moment. -/
theorem Tended.of_parts {w' : World Owner Session} (h : Tended form w)
    (hautosaver : w'.parts.autosaver = w.parts.autosaver) (hengine : w'.parts.engine = w.parts.engine)
    (hmounted : w'.parts.mounted = w.parts.mounted) : Tended form w' := by
  refine ⟨?_, ?_, ?_, hmounted.trans h.mounted⟩
  · rw [hautosaver]
    exact h.saver
  · rw [hengine]
    exact h.noWorkers
  · rw [hengine]
    exact h.noErrands

/-- The autosaver may change, as long as it keeps what it believes to be saved. -/
theorem keeps_updateAutosaver {f : Autosaver → Autosaver}
    (hfaithful : ∀ a : Autosaver, a.IsFaithful → (f a).IsFaithful)
    (hid : ∀ a : Autosaver, (f a).formId = a.formId) : (updateAutosaver f).Keeps (Tended form) := by
  intro w h
  obtain ⟨a, hautosaver, ha, haid⟩ := h.saver
  exact ⟨⟨f a, congrArg (Option.map f) hautosaver, hfaithful a ha, (hid a).trans haid⟩, h.noWorkers,
    h.noErrands, h.mounted⟩

theorem get?_of_no_workers (h : w.parts.engine.workers = []) (key : String) :
    (enginePart.get w.parts).workers.get? key = none :=
  congrArg (Entries.get? · key) h

theorem run_evaluate_of_none (h : w.parts.engine.workers = []) (put : Writer Owner Session) (key : String) :
    (Engine.evaluate enginePart put isShown key).run w = .ok () w :=
  Engine.run_evaluate_of_none enginePart (get?_of_no_workers h key)

theorem run_startEngine_of_none (h : w.parts.engine.workers = []) :
    (Engine.start enginePart put isShown Owner.worker).run w = .ok () w := by
  have hrun : (Engine.start enginePart put isShown Owner.worker).run w
      = (w.parts.engine.workers.keys.forM (Engine.startWorker enginePart put isShown Owner.worker)).run w :=
    rfl
  rw [hrun, h]
  rfl

theorem run_dismiss_of_none (h : w.parts.engine.workers = []) (key : String) :
    (dismiss key).run w = .ok () w :=
  Engine.run_dismiss_of_none enginePart (get?_of_no_workers h key)

theorem keeps_react_tended (put : Writer Owner Session) (hput : ∀ wr, (put wr).Keeps (Tended form))
    (owner : Owner) (news : List String) : (react put owner news).Keeps (Tended form) := by
  cases owner with
  | visibility =>
    exact Tracker.keeps_refresh (fun _ _ _ h => h.of_parts rfl rfl rfl) (fun _ _ => hput _)
      fun _ => hput _
  | edits => exact fun _ h => h.of_parts rfl rfl rfl
  | worker key =>
    intro w h
    rwa [react, Run.outcome_of_ok (run_evaluate_of_none h.noWorkers put key)]
  | drafts =>
    exact keeps_bind (fun _ => id) fun data => keeps_bind (fun _ => id) fun now =>
      keeps_bind (fun _ => id) fun e => keeps_updateAutosaver (fun a ha => ha.notice data now e.nextId)
        fun a => a.formId_notice data now e.nextId

/-- Writes leave the drafts in order. -/
theorem keeps_put_tended (wr : Write) : (put wr).Keeps (Tended form) :=
  keeps_write (fun _ _ h => h.of_parts rfl rfl rfl) keeps_react_tended wr

theorem keeps_startParts : startParts.Keeps (Tended form) := by
  have hrestore : restore.Keeps (Tended form) :=
    keeps_restore (keeps_updateAutosaver (fun _ => Autosaver.IsFaithful.restore) fun _ => rfl)
      fun _ => keeps_put_tended _
  have hstart : (Tracker.start trackerPart put .visibility).Keeps (Tended form) :=
    Tracker.keeps_start (fun _ _ _ h => h.of_parts rfl rfl rfl) (fun _ _ => keeps_put_tended _)
      (fun _ => keeps_put_tended _) fun _ _ h => h.of_parts rfl rfl rfl
  have hengine : (Engine.start enginePart put isShown Owner.worker).Keeps (Tended form) := by
    intro w h
    rwa [Run.outcome_of_ok (run_startEngine_of_none h.noWorkers)]
  have hdrafts : startDrafts.Keeps (Tended form) := by
    intro w h
    rcases startDrafts_cases w with hrun | ⟨-, hrun⟩
    · rwa [Run.outcome_of_ok hrun]
    · obtain ⟨a, hautosaver, ha, hid⟩ := h.saver
      rw [Run.outcome_of_ok hrun]
      exact ⟨⟨_, autosaver_draftsListening hautosaver, ⟨ha.writable, ha.believes⟩, hid⟩,
        h.noWorkers, h.noErrands, h.mounted⟩
  rw [startParts_eq]
  exact keeps_bind hrestore fun _ => keeps_bind hstart fun _ =>
    keeps_bind (fun _ h => h.of_parts rfl rfl rfl) fun ticket =>
      keeps_bind (fun _ h => h.of_parts rfl rfl rfl) fun _ => keeps_bind hengine fun _ => hdrafts

theorem tended_mount (hlookups : Item.lookups form.schema.items = []) {drafts : Drafts}
    (hdrafts : drafts.IsWritable) (channel : Channel) (wire : Wire) (delay : Int) :
    Tended form (mount.outcome (world (ofForm form channel wire (some (drafts, delay))))) := by
  have hstart : Tended form ⟨Store.ofData [],
      { ofForm form channel wire (some (drafts, delay)) with mounted := true }⟩ := by
    refine ⟨⟨_, rfl, Autosaver.isFaithful_ofDrafts hdrafts delay, rfl⟩, ?_, rfl, rfl⟩
    show (Engine.ofLookups (Item.lookups form.schema.items)).workers = []
    rw [hlookups]
    rfl
  exact keeps_startParts _ hstart

/-! ## Between the steps -/

/-- A session from which a draft can be restored: it follows a tracker whose data is complete, and its
drafts are in order. -/
structure Restorable (form : Form) (w : World Owner Session) : Prop extends Tended form w where
  /-- It follows a tracker. -/
  follows : Follows form (Tracker.Registered form.schema.items) w

theorem Follows.of_parts {Q : World Unit Tracker → Prop} {w' : World Owner Session} (h : Follows form Q w)
    (hstore : w'.store = w.store) (htracker : w'.parts.tracker = w.parts.tracker)
    (hform : w'.parts.form = w.parts.form) (hengine : w'.parts.engine = w.parts.engine) :
    Follows form Q w' := by
  obtain ⟨subs, quiet, t, hquiet, hbeside, ht⟩ := h
  refine ⟨subs, quiet, t, hquiet, ⟨?_, htracker.trans hbeside.tracker_eq, hbeside.alone, ?_,
    hform.trans hbeside.form_eq, ?_⟩, ht⟩
  · rw [hstore]
    exact hbeside.data_eq
  · rw [hstore]
    exact hbeside.heard
  · rw [hengine]
    exact hbeside.noWorkers

theorem Restorable.of_parts {w' : World Owner Session} (h : Restorable form w)
    (htended : Tended form w') (hstore : w'.store = w.store)
    (htracker : w'.parts.tracker = w.parts.tracker) (hform : w'.parts.form = w.parts.form)
    (hengine : w'.parts.engine = w.parts.engine) : Restorable form w' :=
  ⟨htended, h.follows.of_parts hstore htracker hform hengine⟩

theorem Restorable.visible_eq (h : Restorable form w) :
    w.parts.tracker.visible = Item.visibleTable form.schema.items (.object w.store.data) := by
  obtain ⟨subs, quiet, t, -, hbeside, hregistered⟩ := h.follows
  rw [hbeside.tracker_eq, hbeside.data_eq]
  exact hregistered.visible_eq

theorem Restorable.complete (h : Restorable form w) :
    Tracker.Complete form.schema.items w.store.data := by
  obtain ⟨subs, quiet, t, -, hbeside, hregistered⟩ := h.follows
  rw [hbeside.data_eq]
  exact hregistered.complete

theorem Restorable.data (h : Restorable form w) : Serialisable (.object w.store.data) := by
  obtain ⟨subs, quiet, t, -, hbeside, hregistered⟩ := h.follows
  rw [hbeside.data_eq]
  exact hregistered.data

/-- A step in the life of a mounted form that sets nothing but a field that is visible, to a value that has
a text. -/
def Event.SetsShown (items : List Item) (w : World Owner Session) : Event → Prop
  | .put (.set path v) => (∃ node ∈ Item.nodes items, node.item.isField = true ∧ node.path = path) ∧
      w.parts.isShown path = true ∧ Serialisable v
  | .put _ => False
  | .close => False
  | _ => True

/-- Setting a visible field. -/
theorem Restorable.set (hi : Item.Regular form.schema.items) (hacyclic : Item.Acyclic form.schema.items)
    (h : Restorable form w) {path : String} {v : Value}
    (he : (Event.put (.set path v)).SetsShown form.schema.items w) :
    Restorable form ((put (.set path v)).outcome w) := by
  obtain ⟨⟨u, hu, hfield, rfl⟩, hshown, hv⟩ := he
  obtain ⟨subs, quiet, t, hquiet, hbeside, hregistered⟩ := h.follows
  have hvisible : u.path ∈ t.parts.visible.keys := by
    rw [← hbeside.tracker_eq]
    exact Entries.contains_iff.mp hshown
  have halone := hregistered.set hi hacyclic hu hfield hvisible hv
  obtain ⟨changed, w', hrun, t', hbeside', ht'⟩ := (twins_put hquiet).put _ |>.yields hbeside halone
  refine ⟨keeps_put_tended _ w h.toTended, ?_⟩
  rw [Run.outcome_of_ok hrun]
  exact ⟨subs, quiet, t', hquiet, hbeside', ht'⟩

/-- Saving the draft. -/
theorem keeps_saveDraft : saveDraft.Keeps (Restorable form) := by
  intro w h
  obtain ⟨a, hautosaver, ha, hid⟩ := h.saver
  refine h.of_parts ⟨⟨a.fire w.store.data, ?_, ha.fire h.data, hid⟩, h.noWorkers, h.noErrands, h.mounted⟩
    rfl rfl rfl rfl
  exact congrArg (Option.map fun a => a.fire w.store.data) hautosaver

/-- There is no request that could be answered. -/
theorem run_complete_of_none (h : w.parts.engine.inFlight = []) (id : Nat) (result : LookupResult) :
    (complete id result).run w = .ok () w := by
  have herrand : w.parts.engine.errand? id = none := by
    rw [Engine.errand?, h]
    rfl
  exact Engine.run_complete_of_none enginePart herrand result

/-- What happens by itself. -/
theorem keeps_go_restorable (may : Session → Nat → Bool) (count : Nat) :
    (agenda.go may count).Keeps (Restorable form) := by
  refine Agenda.keeps_go may (Dispatch.keeps_setUp fun f _ h =>
      h.of_parts (h.toTended.of_parts rfl rfl rfl) rfl rfl rfl rfl)
    (fun f _ h => h.of_parts (h.toTended.of_parts rfl rfl rfl) rfl rfl rfl rfl)
    (fun s entry hentry => ?_) count
  obtain hsave | ⟨id, result, hanswer⟩ := mem_upcoming hentry
  · rw [hsave]
    exact keeps_saveDraft
  · rw [hanswer]
    intro w h
    rwa [Run.outcome_of_ok (run_complete_of_none h.noErrands _ _)]

/-- **A step leaves a session from which a draft can be restored.** -/
theorem Restorable.event (hi : Item.Regular form.schema.items) (hacyclic : Item.Acyclic form.schema.items)
    (h : Restorable form w) {e : Event} (he : e.SetsShown form.schema.items w) :
    Restorable form (e.run.outcome w) := by
  have hnow : ∀ f, (agenda.now.update f : Visit Unit).Keeps (Restorable form) :=
    fun f _ h => h.of_parts (h.toTended.of_parts rfl rfl rfl) rfl rfl rfl rfl
  cases e with
  | close => exact he.elim
  | mount =>
    have hrun : Session.mount.run w = (if w.parts.mounted then pure () else do
        mountedPart.update fun _ => true
        startParts : Visit Unit).run w := rfl
    rw [h.mounted, if_pos rfl] at hrun
    rwa [Event.run, Run.outcome_of_ok hrun]
  | put wr =>
    cases wr with
    | set path v =>
      rw [Event.run, Run.outcome_discard]
      exact h.set hi hacyclic he
    | unregister path => exact he.elim
    | reset data => exact he.elim
  | submit => exact h.of_parts (h.toTended.of_parts rfl rfl rfl) rfl rfl rfl rfl
  | answer id result =>
    exact keeps_bind (Dispatch.keeps_answer (fun id result w h => by
      rwa [Run.outcome_of_ok (run_complete_of_none h.noErrands id result)]) id result)
      (fun _ => keeps_pure ()) w h
  | dismiss key =>
    rwa [Event.run, Run.outcome_of_ok (run_dismiss_of_none h.noWorkers key)]
  | clearDraft =>
    exact h.of_parts (keeps_updateAutosaver (fun _ => Autosaver.IsFaithful.clearDraft) (fun _ => rfl) w
      h.toTended) rfl rfl rfl rfl
  | drain => exact keeps_go_restorable _ _ w h
  | advance ms =>
    exact keeps_bind (fun _ => id) (fun _ => keeps_bind (keeps_go_restorable _ _) fun _ => hnow _) w h
  | settle => exact keeps_go_restorable _ _ w h

/-! ## Whole runs -/

/-- Every step of a run sets nothing but fields that are visible when it is made. -/
def SetsShownOnly (items : List Item) : World Owner Session → List Event → Prop
  | _, [] => True
  | w, e :: rest => e.SetsShown items w ∧ SetsShownOnly items (e.run.outcome w) rest

theorem Restorable.events (hi : Item.Regular form.schema.items) (hacyclic : Item.Acyclic form.schema.items)
    (h : Restorable form w) {events : List Event} (hevents : SetsShownOnly form.schema.items w events) :
    Restorable form (carryOn w events) := by
  induction events generalizing w with
  | nil => exact h
  | cons e rest ih => exact ih (h.event hi hacyclic hevents.1) hevents.2

/-- Whatever the drafts are, the data of a form that is being mounted has a text. -/
theorem serialisable_restored (s : Session) : Serialisable (.object (restored s [])) := by
  rcases restored_cases s [] with hnone | hdraft
  · rw [hnone]
    exact .object List.nodup_nil fun _ hentry => by cases hentry
  · obtain ⟨a, -, ha⟩ := Option.bind_eq_some_iff.mp hdraft
    exact Drafts.serialisable_of_load? ha

theorem yields_mount_restorable (hi : Item.Regular form.schema.items)
    (hacyclic : Item.Acyclic form.schema.items) (hlookups : Item.lookups form.schema.items = [])
    {drafts : Drafts} (hdrafts : drafts.IsWritable) (channel : Channel) (wire : Wire) (delay : Int) :
    mount.Yields (world (ofForm form channel wire (some (drafts, delay)))) (Restorable form) := by
  have hstarts : Tracker.Starts form.schema.items
      (restored (ofForm form channel wire (some (drafts, delay))) [])
      (Tracker.Registered form.schema.items) :=
    fun t hlone hidle hsame hvisible => Tracker.yields_refresh_registered hi hacyclic
      (hasRoom_write Tracker.react) hlone hidle (hsame ▸ serialisable_restored _)
      (hvisible ▸ Tracker.listed_byPath hi.named) (hvisible ▸ Tracker.bare_byPath hi.named _)
  obtain ⟨⟨⟩, w, hrun, hfollows⟩ := yields_mount_follows hlookups hstarts
  refine ⟨(), w, hrun, ?_, hfollows⟩
  have htended := tended_mount hlookups hdrafts channel wire delay
  rwa [Run.outcome_of_ok hrun] at htended

/-- **Mounting with a complete draft leaves it as it is.** -/
theorem yields_mount_complete (hi : Item.Regular form.schema.items)
    (hacyclic : Item.Acyclic form.schema.items) (hlookups : Item.lookups form.schema.items = [])
    {drafts : Drafts} {draft : Object} (hload : drafts.load? form.id = some draft)
    (hcomplete : Tracker.Complete form.schema.items draft) (channel : Channel) (wire : Wire) (delay : Int) :
    mount.Yields (world (ofForm form channel wire (some (drafts, delay)))) fun w =>
      w.store.data = draft ∧
        w.parts.tracker.visible = Item.visibleTable form.schema.items (.object draft) := by
  have hrestored : restored (ofForm form channel wire (some (drafts, delay))) [] = draft := by
    have hdraft : (ofForm form channel wire (some (drafts, delay))).draft? = some draft := hload
    rw [restored, hdraft]
    cases draft <;> rfl
  refine (yields_mount_follows (Q := fun t => t.store.data = draft ∧
    t.parts.visible = Item.visibleTable form.schema.items (.object draft)) hlookups
    fun t hlone hidle hsame hvisible => ?_).mono fun w hw => ?_
  · rw [hrestored] at hsame
    rw [← hsame] at hcomplete ⊢
    exact Tracker.yields_refresh_complete hi hacyclic (hasRoom_write Tracker.react) hlone hidle
      (hsame ▸ Drafts.serialisable_of_load? hload) hcomplete
      (hvisible ▸ Tracker.listed_byPath hi.named)
  · obtain ⟨subs, quiet, t, -, hbeside, hdata, hvisible⟩ := hw
    exact ⟨hbeside.data_eq.trans hdata, (congrArg Tracker.visible hbeside.tracker_eq).trans hvisible⟩

/-- Closing a session without lookups ends well and leaves its drafts alone. -/
theorem exists_close (hworkers : w.parts.engine.workers = []) :
    ∃ closed, close.run w = .ok () closed ∧
      closed.parts.autosaver.map Autosaver.drafts = w.parts.autosaver.map Autosaver.drafts := by
  obtain ⟨store, form, tracker, ⟨workers, inFlight, nextId, told⟩, dispatch, autosaver, submission, ticket,
    mounted, now⟩ := w
  obtain rfl : workers = [] := hworkers
  cases tracker with
  | mk items registers visible ticket' refreshing dirty moves =>
    cases autosaver with
    | none => cases ticket <;> cases ticket' <;> exact ⟨_, rfl, rfl⟩
    | some a =>
      obtain ⟨formId, drafts, debouncer, lastSaved, skipNext, ticket'', hasDraft⟩ := a
      cases ticket <;> cases ticket' <;> cases ticket'' <;> exact ⟨_, rfl, rfl⟩

/-- **A restored draft gives back the form.** A form without lookups whose conditions are acyclic is mounted
with drafts, whatever draft there is, and only visible fields are set, to values that have a text. If what
was saved last is the data as it is, then closing the form and mounting it anew with the drafts it leaves
gives the same values and shows the same. -/
theorem restored_of_saved (hi : Item.Regular form.schema.items) (hacyclic : Item.Acyclic form.schema.items)
    (hlookups : Item.lookups form.schema.items = []) {drafts : Drafts} (hdrafts : drafts.IsWritable)
    (channel : Channel) (wire : Wire) (delay : Int) :
    ∃ mounted, mount.run (world (ofForm form channel wire (some (drafts, delay)))) = .ok () mounted ∧
      ∀ events, SetsShownOnly form.schema.items mounted events →
        let w := carryOn mounted events
        w.parts.autosaver.map Autosaver.lastSaved = some (snapshotText w.store.data) →
        ∃ closed kept, close.run w = .ok () closed ∧
          closed.parts.autosaver.map Autosaver.drafts = some kept ∧
          ∀ time channel' wire' delay', ∃ again,
            mount.run (world (ofForm form channel' wire' (some ({ kept with time }, delay')))) =
              .ok () again ∧
            SameDocument (.object again.store.data) (.object w.store.data) ∧
            again.parts.tracker.visiblePaths = w.parts.tracker.visiblePaths := by
  obtain ⟨⟨⟩, mounted, hmount, hmounted⟩ :=
    yields_mount_restorable hi hacyclic hlookups hdrafts channel wire delay
  refine ⟨mounted, hmount, fun events hevents => ?_⟩
  intro w hsaved
  have hw : Restorable form w := hmounted.events hi hacyclic hevents
  obtain ⟨a, hautosaver, hfaithful, hid⟩ := hw.saver
  rw [hautosaver] at hsaved
  obtain ⟨draft, hdraft, hsame⟩ := hfaithful.exists_draft? hw.data (Option.some.inj hsaved)
  obtain ⟨closed, hclose, hkept⟩ := exists_close hw.noWorkers
  rw [hautosaver] at hkept
  refine ⟨closed, a.drafts, hclose, hkept, fun time channel' wire' delay' => ?_⟩
  -- the draft that was kept is the data as it was, up to the order of names, so it is complete as well
  have hload : ({ a.drafts with time } : Drafts).load? form.id = some draft := by
    rw [← hid]
    exact hdraft
  have hserialisable := Drafts.serialisable_of_load? hload
  have hcomplete := hw.complete.of_sameDocument hi.named hw.data hserialisable hsame.symm
  obtain ⟨⟨⟩, again, hrun, hdata, hvisible⟩ :=
    yields_mount_complete hi hacyclic hlookups hload hcomplete channel' wire' delay'
  refine ⟨again, hrun, hdata ▸ hsame, ?_⟩
  rw [Tracker.visiblePaths, Tracker.visiblePaths, hvisible, hw.visible_eq,
    Item.visibleTable_of_sameDocument hi.named hserialisable hw.data hsame]

/-- A kind and a company that it asks for are set, the draft is saved once edits have paused, and the form
is mounted anew with it. -/
theorem restored_of_saved_size :
    ∃ mounted, mount.run (world (ofForm sizeForm .manual ⟨[], []⟩
        (some (⟨.memory [], Drafts.usualSpace, 0⟩, 500)))) = .ok () mounted ∧
      let w := carryOn mounted
        [.put (.set "kind" (.text "business")), .put (.set "company" (.text "Acme")), .advance 500]
      ∃ closed kept, close.run w = .ok () closed ∧
        closed.parts.autosaver.map Autosaver.drafts = some kept ∧
        ∃ again, mount.run (world (ofForm sizeForm .manual ⟨[], []⟩ (some (kept, 500)))) =
            .ok () again ∧
          SameDocument (.object again.store.data) (.object w.store.data) ∧
          again.parts.tracker.visiblePaths = w.parts.tracker.visiblePaths := by
  have hdrafts : (⟨.memory [], Drafts.usualSpace, 0⟩ : Drafts).IsWritable :=
    ⟨trivial, Nat.pow_pos (by decide)⟩
  obtain ⟨mounted, hmount, hall⟩ := restored_of_saved regular_sizeForm acyclic_sizeForm
    lookups_sizeForm hdrafts .manual ⟨[], []⟩ 500
  refine ⟨mounted, hmount, ?_⟩
  obtain rfl := Run.outcome_of_ok hmount
  have hfields : ∀ path ∈ ["kind", "company"], ∃ node ∈ Item.nodes sizeForm.schema.items,
      node.item.isField = true ∧ node.path = path := by
    rw [schema_sizeForm]
    decide +kernel
  obtain ⟨closed, kept, hclose, hkept, hagain⟩ := hall
    [.put (.set "kind" (.text "business")), .put (.set "company" (.text "Acme")), .advance 500]
    ⟨⟨hfields "kind" (by decide), by decide +kernel, .text _⟩,
      ⟨hfields "company" (by decide), by decide +kernel, .text _⟩, trivial, trivial⟩ (by decide +kernel)
  exact ⟨closed, kept, hclose, hkept, hagain kept.time .manual ⟨[], []⟩ 500⟩

end Session
end DynamicForms
