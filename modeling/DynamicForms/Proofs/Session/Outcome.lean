import DynamicForms.Proofs.Schema.Identifiers
import DynamicForms.Proofs.Session.Hidden
import DynamicForms.Proofs.Session.Mounting

/-!
# `DynamicForms.Proofs.Session.Outcome` — what is shown of a submission is never stale

What a session shows after a submission was found in the data of that moment. As long as the form stays
mounted it is still so: either nothing has changed the data since, or the first thing that did has
withdrawn the submission. That is so whatever may happen to the session, and also where a step fails
half-way.

A form that was closed after its submission hears of no writes, so nothing is said of it. Nor may a form
be reset to data that marks something as absent under a name without segments: the tracker could then
try to set a value there, which fails before anybody else is told.

## Contents
- `Session.keeps_upright`: every step leaves a session upright.
- `Session.Lasting`, `holds_lasting`: a submission lasts or is withdrawn.
- `Session.Describes`, `Session.StaysMounted`.
- `Session.describes_of_staysMounted`.
-/

namespace DynamicForms

open Value (Object)
open Run (keeps_pure keeps_bind)

/-- Data is not refused without a message. -/
theorem Validator.ne_nil_of_invalid {v : Validator} {data : Object} {errors : Entries String}
    (h : v.validate data = .invalid errors) : errors ≠ [] := by
  simp only [validate] at h
  split at h
  · cases h
  · next hne =>
    cases h
    exact hne

namespace Session

variable {form : Form} {w w' : World Owner Session} {data : Object} {shown : Submission} {wr : Write}

/-! ## Steps -/

/-- Submitting replaces what was shown before. -/
theorem outcome_run_submit (w : World Owner Session) : Event.submit.run.outcome w
    = { w with parts := { w.parts with
      submission := .ofVerdict (w.parts.form.judge w.store.data) } } := rfl

theorem keeps_upright_submit : Event.submit.run.Keeps (Upright form) := by
  intro w hw
  rw [outcome_run_submit]
  exact ⟨hw.upheld.of_parts rfl rfl rfl fun owner => by cases owner <;> rfl, hw.idle⟩

/-- **Every step leaves a session upright.** -/
theorem keeps_upright (hpaths : ∀ node ∈ Item.nodes form.schema.items, node.path ≠ "") {e : Event}
    (hproper : e.IsProper) : e.run.Keeps (Upright form) := by
  rcases e.eq_or_isInner with rfl | rfl | rfl | hinner
  · exact keeps_mount hpaths
  · exact keeps_close
  · exact keeps_upright_submit
  · exact keeps_upright_of_holds fun _ h => h.keeps hinner hproper

/-- What depends neither on the store nor, but for the form and the submission, on the parts mounting
    keeps, if writes do. -/
theorem keeps_mount_of {I : World Owner Session → Prop}
    (hparts : ∀ w s, I w → s.form = w.parts.form → s.submission = w.parts.submission →
      I { w with parts := s })
    (hstore : ∀ w store, I w → I { w with store }) (hput : ∀ wr, (put wr).Keeps I) :
    mount.Keeps I := by
  refine keeps_bind (fun _ => id) fun mounted => ?_
  cases mounted with
  | true => exact keeps_pure ()
  | false =>
    have hrestore : restore.Keeps I :=
      keeps_restore (fun w hw => hparts w _ hw rfl rfl) fun _ => hput _
    have hdrafts : startDrafts.Keeps I := by
      intro w hw
      rcases startDrafts_cases w with hrun | ⟨-, hrun⟩
      · rwa [Run.outcome_of_ok hrun]
      · rw [Run.outcome_of_ok hrun]
        exact hparts _ _ (hstore w _ hw) rfl rfl
    refine keeps_bind (fun w hw => hparts w _ hw rfl rfl) fun _ => ?_
    rw [startParts_eq]
    refine keeps_bind hrestore fun _ => keeps_bind ?_ fun _ =>
      keeps_bind (fun w hw => hstore w _ hw) fun _ =>
        keeps_bind (fun w hw => hparts w _ hw rfl rfl) fun _ => keeps_bind ?_ fun _ => hdrafts
    · exact Tracker.keeps_start (fun _ _ w hw => hparts w _ hw rfl rfl) (fun _ _ => hput _)
        (fun _ => hput _) fun _ w hw => hparts _ _ (hstore w _ hw) rfl rfl
    · exact Engine.keeps_start (fun _ _ => hput _) (fun _ _ w hw => hparts w _ hw rfl rfl)
        fun _ _ w hw _ _ => hparts _ _ (hstore w _ hw) rfl rfl

/-- Mounting shows no submission again. -/
theorem keeps_withdrawn_mount : mount.Keeps Withdrawn :=
  keeps_mount_of (fun _ _ hw _ hs => hs.trans hw) (fun _ _ hw => hw) fun wr =>
    keeps_bind (fun _ => id) fun s => keeps_perform_withdrawn s.nesting wr

/-- What depends neither on the subscriptions nor, but for the form and the submission, on the parts
    closing keeps. -/
theorem keeps_close_of {I : World Owner Session → Prop}
    (hparts : ∀ w s, I w → s.form = w.parts.form → s.submission = w.parts.submission →
      I { w with parts := s })
    (hunsubscribe : ∀ ticket, (unsubscribe ticket : Visit Unit).Keeps I) : close.Keeps I := by
  have hdropped : ∀ w ticket?, I w → I { w with store := dropped w.store ticket? } := by
    intro w ticket? hw
    cases ticket? with
    | none => exact hw
    | some ticket => exact hunsubscribe ticket w hw
  intro w hw
  rw [Run.outcome, run_close, ← Run.outcome]
  refine keeps_bind (fun w hw => ?_) (fun _ => keeps_bind ?_ fun _ =>
    keeps_bind (keeps_bind (fun _ => id) fun t => ?_) fun _ w hw => ?_) w hw
  · rw [Run.outcome_of_ok (run_closeDrafts w)]
    exact hparts _ _ (hdropped w _ hw) rfl rfl
  · exact Engine.keeps_close (fun _ _ w hw => hparts w _ hw rfl rfl) hunsubscribe
  · cases t.ticket with
    | none => exact keeps_pure ()
    | some ticket =>
      exact keeps_bind (hunsubscribe ticket) fun _ w hw => hparts w _ hw rfl rfl
  · rw [Run.outcome_of_ok (run_closeForm w)]
    exact hparts _ _ (hdropped w _ hw) rfl rfl

/-- Every step but a submission leaves a withdrawn submission as it is. -/
theorem keeps_withdrawn {e : Event} (hproper : e.IsProper) (he : e ≠ .submit) :
    e.run.Keeps Withdrawn := by
  rcases e.eq_or_isInner with rfl | rfl | rfl | hinner
  · exact keeps_withdrawn_mount
  · exact keeps_close_of (fun _ _ hw _ hs => hs.trans hw) fun _ _ => id
  · exact absurd rfl he
  · exact holds_withdrawn.keeps hinner hproper

/-! ## A submission lasts or is withdrawn -/

/-- A mounted session in which either a submission was withdrawn, or nothing has changed since it was
    made of some data. -/
structure Lasting (form : Form) (data : Object) (shown : Submission) (w : World Owner Session) :
    Prop where
  /-- The session is upright. -/
  upright : Upright form w
  /-- It is mounted. -/
  mounted : w.parts.mounted = true
  /-- The submission lasts or was withdrawn. -/
  lasts : Withdrawn w ∨ w.store.data = data ∧ w.parts.submission = shown

/-- **While a form is mounted, a submission lasts until it is withdrawn**, and it is withdrawn by
    whatever changes the data. -/
theorem holds_lasting (hpaths : ∀ node ∈ Item.nodes form.schema.items, node.path ≠ "")
    (data : Object) (shown : Submission) : Holds (Lasting form data shown) := by
  have hupright : ∀ {m : Visit Unit}, (∀ I, Holds I → m.Keeps I) →
      (∀ w, (m.outcome w).store.data = w.store.data ∧
        (m.outcome w).parts.submission = w.parts.submission) → m.Keeps (Lasting form data shown) := by
    intro m hm hsame w hw
    refine ⟨keeps_upright_of_holds hm w hw.upright, hm _ (holds_mounted true) w hw.mounted, ?_⟩
    obtain ⟨hdata, hshown⟩ := hsame w
    rcases hw.lasts with hwithdrawn | ⟨hlasts, hstill⟩
    · exact Or.inl (hshown.trans hwithdrawn)
    · exact Or.inr ⟨hdata.trans hlasts, hshown.trans hstill⟩
  refine { engine := ?_, autosaver := ?_, put := ?_, dispatch := ?_, now := ?_ }
  · exact fun f hf => hupright (fun _ h => h.engine f hf) fun _ => ⟨rfl, rfl⟩
  · exact fun f hf => hupright (fun _ h => h.autosaver f hf) fun _ => ⟨rfl, rfl⟩
  · intro wr hwr w hw
    by_cases hchanges : ∃ after, wr.change? w.store.data = .ok (some after)
    · obtain ⟨after, hchange⟩ := hchanges
      refine ⟨keeps_upright_of_holds (fun _ h => h.put hwr) w hw.upright,
        (holds_mounted true).put hwr w hw.mounted, Or.inl ?_⟩
      exact withdrawn_put hpaths hw.upright.upheld (hw.upright.listening hw.mounted) hw.upright.idle
        hwr hchange
    · rw [put, outcome_write_of_unchanged react fun after hchange => hchanges ⟨after, hchange⟩]
      exact hw
  · exact fun f => hupright (fun _ h => h.dispatch f) fun _ => ⟨rfl, rfl⟩
  · exact fun f => hupright (fun _ h => h.now f) fun _ => ⟨rfl, rfl⟩

/-- Every step that neither submits nor closes. -/
theorem keeps_lasting (hpaths : ∀ node ∈ Item.nodes form.schema.items, node.path ≠ "")
    {e : Event} (hproper : e.IsProper) (hsubmit : e ≠ .submit) (hclose : e ≠ .close) :
    e.run.Keeps (Lasting form data shown) := by
  rcases e.eq_or_isInner with rfl | rfl | rfl | hinner
  · intro w hw
    have hrun : mount.run w = (if w.parts.mounted then pure () else do
        mountedPart.update fun _ => true
        startParts : Visit Unit).run w := rfl
    show Lasting form data shown (mount.outcome w)
    rw [Run.outcome, hrun, ← Run.outcome, hw.mounted, if_pos rfl]
    exact hw
  · exact absurd rfl hclose
  · exact absurd rfl hsubmit
  · exact (holds_lasting hpaths data shown).keeps hinner hproper

/-! ## What is shown -/

/-- What a session shows of a submission is so at the moment. -/
structure Describes (form : Form) (w : World Owner Session) : Prop where
  /-- While the form is edited nothing is shown. -/
  editing : w.parts.submission.state = .editing →
    w.parts.submission.errors = [] ∧ w.parts.submission.output = none
  /-- What is shown as submitted is what the data would be accepted as. -/
  submitted : w.parts.submission.state = .submitted → w.parts.submission.errors = [] ∧
    ∃ output, form.judge w.store.data = .valid output ∧ w.parts.submission.output = some output
  /-- The messages that are shown are those that the data would be refused with. -/
  invalid : w.parts.submission.state = .invalid → w.parts.submission.output = none ∧
    w.parts.submission.errors ≠ [] ∧ form.judge w.store.data = .invalid w.parts.submission.errors
  /-- Between two steps nothing is being checked. -/
  checked : w.parts.submission.state ≠ .validating

/-- A run in which a session, if it is submitted, stays mounted from its last submission on. -/
def StaysMounted (w : World Owner Session) (events : List Event) : Prop :=
  (∀ e ∈ events, e ≠ .submit) ∨
    ∃ before after, events = before ++ .submit :: after ∧
      (carryOn w before).parts.mounted = true ∧ ∀ e ∈ after, e ≠ .close

theorem Withdrawn.describes (h : Withdrawn w) : Describes form w := by
  unfold Withdrawn at h
  constructor <;> rw [h]
  · exact fun _ => ⟨rfl, rfl⟩
  · exact nofun
  · exact nofun
  · exact nofun

/-- What was found in the data is shown as it is. -/
theorem describes_ofVerdict (h : w.parts.submission = .ofVerdict (form.judge w.store.data)) :
    Describes form w := by
  cases hjudge : form.judge w.store.data with
  | valid output =>
    rw [hjudge] at h
    constructor <;> rw [h]
    · exact nofun
    · exact fun _ => ⟨rfl, output, hjudge, rfl⟩
    · exact nofun
    · exact nofun
  | invalid errors =>
    rw [hjudge] at h
    constructor <;> rw [h]
    · exact nofun
    · exact nofun
    · exact fun _ => ⟨rfl, Validator.ne_nil_of_invalid hjudge, hjudge⟩
    · exact nofun

theorem Lasting.describes (h : Lasting form data (.ofVerdict (form.judge data)) w) :
    Describes form w := by
  rcases h.lasts with hwithdrawn | ⟨hdata, hshown⟩
  · exact hwithdrawn.describes
  · exact describes_ofVerdict (hshown.trans (by rw [hdata]))

/-- What was found in the data at some moment lasts or was withdrawn. -/
def Found (form : Form) (w : World Owner Session) : Prop :=
  ∃ data, Lasting form data (.ofVerdict (form.judge data)) w

/-- A mounted form is submitted. -/
theorem found_submit (hw : Upright form w) (hmounted : w.parts.mounted = true) :
    Found form (Event.submit.run.outcome w) := by
  refine ⟨w.store.data, keeps_upright_submit w hw, hmounted, Or.inr ⟨rfl, ?_⟩⟩
  rw [outcome_run_submit, hw.upheld.form_eq]

/-- Every step but closing. -/
theorem keeps_found (hpaths : ∀ node ∈ Item.nodes form.schema.items, node.path ≠ "") {e : Event}
    (hproper : e.IsProper) (hclose : e ≠ .close) : e.run.Keeps (Found form) := by
  rintro w ⟨data, hw⟩
  by_cases hsubmit : e = .submit
  · subst hsubmit
    exact found_submit hw.upright hw.mounted
  · exact ⟨data, keeps_lasting hpaths hproper hsubmit hclose w hw⟩

/-- After a run in which a session stays mounted from its last submission on, none is shown, or what is
    shown was found in the data. -/
theorem withdrawn_or_found (hpaths : ∀ node ∈ Item.nodes form.schema.items, node.path ≠ "")
    {events : List Event} (hproper : ∀ e ∈ events, e.IsProper) (hw : Upright form w)
    (hwithdrawn : Withdrawn w) (h : StaysMounted w events) :
    Withdrawn (carryOn w events) ∨ Found form (carryOn w events) := by
  rcases h with hnone | ⟨before, after, rfl, hmounted, hopen⟩
  · left
    exact carryOn_keeps (fun e he => keeps_withdrawn (hproper e he) (hnone e he)) hwithdrawn
  · right
    have hbefore : Upright form (carryOn w before) :=
      carryOn_keeps (fun e he => keeps_upright hpaths (hproper e (List.mem_append_left _ he))) hw
    rw [carryOn_append]
    have hafter : ∀ e ∈ after, e.run.Keeps (Found form) := fun e he => keeps_found hpaths
      (hproper e (List.mem_append_right _ (List.mem_cons_of_mem _ he))) (hopen e he)
    exact carryOn_keeps hafter (found_submit hbefore hmounted)

/-- A step that changes the data withdraws a submission, if one was shown that was found in the data. -/
theorem withdrawn_of_changed (hpaths : ∀ node ∈ Item.nodes form.schema.items, node.path ≠ "")
    {e : Event} (hproper : e.IsProper) (hw : Withdrawn w ∨ Found form w)
    (hchanged : (e.run.outcome w).store.data ≠ w.store.data) : Withdrawn (e.run.outcome w) := by
  have hsubmit : e ≠ .submit := by
    rintro rfl
    exact hchanged rfl
  have hclose : e ≠ .close := by
    rintro rfl
    exact hchanged (keeps_close_of (I := fun w' => w'.store.data = w.store.data)
      (fun _ _ h _ _ => h) (fun _ _ h => h) w rfl)
  rcases hw with hwithdrawn | ⟨data, hfound⟩
  · exact keeps_withdrawn hproper hsubmit w hwithdrawn
  · -- seen from now on, what lasts is what is shown now
    have hnow : Lasting form w.store.data w.parts.submission w :=
      ⟨hfound.upright, hfound.mounted, Or.inr ⟨rfl, rfl⟩⟩
    have hend := keeps_lasting hpaths hproper hsubmit hclose w hnow
    exact hend.lasts.resolve_right fun hsame => hchanged hsame.1

/-- **What is shown of a submission is never stale.** In every run in which a session stays mounted from
    its last submission on: while the form is edited nothing is shown; what is shown as submitted or
    refused is what pruning and checking, both of which end well, make of the data at the moment; no
    check is left half-way; and every further step that changes the data leaves the form being edited. -/
theorem describes_of_staysMounted {document : Value} {schema : Schema}
    (hschema : Schema.ofValue document = .ok schema) (hform : Form.ofSchema schema = .ok form)
    (channel : Channel) (wire : Wire) (drafts : Option (Drafts × Int)) {events : List Event}
    (hproper : ∀ e ∈ events, e.IsProper)
    (h : StaysMounted (world (ofForm form channel wire drafts)) events) :
    let w := carryOn (world (ofForm form channel wire drafts)) events
    Describes form w ∧
      (∃ pruned, Item.pruneRun.run (Item.pruneWorld schema.items w.store.data) = .ok () pruned ∧
        pruned.store.data = Item.prune schema.items w.store.data) ∧
      ∀ e : Event, e.IsProper → (e.run.outcome w).store.data ≠ w.store.data →
        (e.run.outcome w).parts.submission.state = .editing := by
  intro w
  have hpaths : ∀ node ∈ Item.nodes form.schema.items, node.path ≠ "" := by
    rw [(Form.build_of_ofSchema hform).1]
    exact fun node => Schema.path_ne_empty_of_ofValue hschema
  have hend := withdrawn_or_found hpaths hproper (upright_world form channel wire drafts) rfl h
  refine ⟨?_, Item.exists_run_pruneRun _ _, fun e he hchanged => ?_⟩
  · rcases hend with hwithdrawn | ⟨data, hlasting⟩
    · exact hwithdrawn.describes
    · exact hlasting.describes
  · rw [show (e.run.outcome w).parts.submission = .blank from
      withdrawn_of_changed hpaths he hend hchanged]
    rfl

/-- A private person's tax form, submitted and then changed. -/
theorem describes_of_staysMounted_tax : ∃ schema form,
    Schema.ofValue Form.taxDocument = .ok schema ∧ Form.ofSchema schema = .ok form ∧
      Describes form (carryOn (world (ofForm form .manual ⟨[], []⟩ none))
        [.mount, .put (.set "kind" (.text "person")), .submit]) := by
  have hok : ((Schema.ofValue Form.taxDocument).toOption.bind fun schema =>
      (Form.ofSchema schema).toOption.map fun form =>
        (carryOn (world (ofForm form .manual ⟨[], []⟩ none))
          [.mount, .put (.set "kind" (.text "person"))]).parts.mounted) = some true := by
    decide +kernel
  cases hschema : Schema.ofValue Form.taxDocument with
  | error e =>
    rw [hschema] at hok
    cases hok
  | ok schema =>
    cases hform : Form.ofSchema schema with
    | error e =>
      simp only [hschema, Except.toOption, Option.bind_some, hform, Option.map_none] at hok
      cases hok
    | ok form =>
      simp only [hschema, Except.toOption, Option.bind_some, hform, Option.map_some,
        Option.some.injEq] at hok
      refine ⟨schema, form, rfl, hform, ?_⟩
      refine (describes_of_staysMounted hschema hform .manual ⟨[], []⟩ none (by decide) ?_).1
      exact Or.inr ⟨[.mount, .put (.set "kind" (.text "person"))], [], rfl, hok, nofun⟩

end Session
end DynamicForms
