import DynamicForms.Proofs.Store.Run
import DynamicForms.Proofs.Validation.Required
import DynamicForms.Session.Life

/-!
# `DynamicForms.Proofs.Session.Submit` — what submitting a form promises about required fields

Submitting checks the data without the values of hidden items. If it is accepted, every required field
has a value that satisfies it, as long as everything on its way that can be hidden is given. That a
field can be hidden makes it optional, whether it is hidden at the moment or not; so a field that is
shown, required and missing does not stand in the way of a submission.

## Contents
- `Form.build_of_ofSchema`, `Form.ofSchema_of_isSome`.
- `Session.Visited`: the worlds of a session that was mounted and written to.
- `Session.required_of_submit`.
- `Session.not_required_of_shown`.
-/

namespace DynamicForms

namespace Form

variable {schema : Schema} {form : Form}

/-- The parts of the form that a schema describes. -/
theorem build_of_ofSchema (h : ofSchema schema = .ok form) :
    form.schema = schema ∧ Validator.build schema.items = .ok form.validator := by
  obtain ⟨validator, hbuild, h⟩ := bind_eq_ok_iff.mp h
  cases h
  exact ⟨rfl, hbuild⟩

/-- If a schema describes a form, that is the form of the schema. -/
theorem ofSchema_of_isSome (h : (ofSchema schema).toOption.isSome = true) :
    ofSchema schema = .ok ((ofSchema schema).toOption.getD default) := by
  cases hform : ofSchema schema with
  | error e => rw [hform] at h; cases h
  | ok form => rfl

end Form

namespace Session

open Value (Object)

/-- A world of a session that was mounted and then written to. -/
inductive Visited (form : Form) : World Owner Session → Prop
  /-- The form was mounted. -/
  | mounted {channel : Channel} {wire : Wire} {drafts : Option (Drafts × Int)}
      {w : World Owner Session}
      (h : mount.run (world (ofForm form channel wire drafts)) = .ok () w) : Visited form w
  /-- The form was written to. -/
  | put {wr : Write} {b : Bool} {w w' : World Owner Session} (hw : Visited form w)
      (h : (put wr).run w = .ok b w') : Visited form w'

variable {schema : Schema} {form : Form} {w w' : World Owner Session} {sub : Submission}

/-- A submission is what the form makes of the data. -/
theorem eq_of_run_submit (h : submit.run w = .ok sub w') :
    sub = Submission.ofVerdict (w.parts.form.judge w.store.data) := by
  simp only [submit, EStateM.run_bind, Part.run_update, run_readData] at h
  injection h with hsub
  exact hsub.symm

theorem exists_output_of_isAccepted {verdict : Verdict}
    (h : (Submission.ofVerdict verdict).isAccepted = true) :
    ∃ output, verdict = .valid output ∧ (Submission.ofVerdict verdict).output = some output := by
  cases verdict with
  | valid output => exact ⟨output, rfl, rfl⟩
  | invalid errors => cases h

theorem errors_ofVerdict (verdict : Verdict) : (Submission.ofVerdict verdict).errors = verdict.errors := by
  cases verdict <;> rfl

/-- **What is submitted satisfies every required field** that is given: everything on its way that can
    be hidden is there and not null in the data without hidden values. That is so for every field
    whose way has nothing that can be hidden. -/
theorem required_of_submit (hnamed : Item.WellNamed schema.items)
    (hform : Form.ofSchema schema = .ok form) (hw : w.parts.form = form)
    (hrun : submit.run w = .ok sub w') (haccepted : sub.isAccepted = true) :
    ∃ output, sub.output = some output ∧
      ∀ node ∈ Item.nodes schema.items, ∀ f, node.item = .field f → f.isRequired = true →
        node.IsGiven schema.items (Item.prune schema.items w.store.data) →
        f.isSatisfiedBy (Path.read (.object output) node.path) = true := by
  rw [eq_of_run_submit hrun, hw] at haccepted ⊢
  obtain ⟨output, hvalid, houtput⟩ := exists_output_of_isAccepted haccepted
  refine ⟨output, houtput, fun node hnode f hf hreq hgiven => ?_⟩
  obtain ⟨hschema, hbuild⟩ := Form.build_of_ofSchema hform
  rw [Form.judge, hschema] at hvalid
  exact Validator.required_of_valid hnamed hbuild hvalid hnode hf hreq hgiven

/-! ## A form with a field that is shown on a condition -/

/-- A company, asked for if the kind is a business. -/
def companyField : Field :=
  { (default : Field) with
    id := "company"
    rules := some [⟨.required, none, "Company is required", none⟩]
    showWhen := some ⟨"kind", .text "business"⟩ }

/-- A kind, and a company. -/
def companySchema : Schema :=
  ⟨"Company", none, [.field { (default : Field) with id := "kind" }, .field companyField]⟩

/-- The form of the schema. -/
def companyForm : Form :=
  (Form.ofSchema companySchema).toOption.getD default

theorem ofSchema_companySchema : Form.ofSchema companySchema = .ok companyForm :=
  Form.ofSchema_of_isSome (by decide +kernel)

theorem wellNamed_companySchema : Item.WellNamed companySchema.items :=
  ⟨by decide +kernel, by decide +kernel⟩

theorem required_of_submit_company :
    ∃ output, Submission.output (Submission.ofVerdict (companyForm.judge
        [("kind", .text "business"), ("company", .text "Acme")])) = some output ∧
      companyField.isSatisfiedBy (Path.read (.object output) "company") = true := by
  let w : World Owner Session :=
    ⟨Store.ofData [("kind", .text "business"), ("company", .text "Acme")],
      ofForm companyForm .manual ⟨[], []⟩ none⟩
  have haccepted : (Submission.ofVerdict (companyForm.judge w.store.data)).isAccepted = true := by
    decide +kernel
  obtain ⟨output, houtput, hall⟩ := required_of_submit wellNamed_companySchema
    ofSchema_companySchema (show w.parts.form = companyForm from rfl) rfl haccepted
  refine ⟨output, houtput, hall ⟨.field companyField, "company", ""⟩ ?_ companyField rfl
    (by decide +kernel) ?_⟩
  · exact List.mem_cons_of_mem _ List.mem_cons_self
  · intro g hg _ hgated
    have hthere : (Path.descend? (.object (Item.prune companySchema.items w.store.data))
        (Path.segments "company")).any (fun v => !v.isNull) = true := by decide +kernel
    rcases List.mem_cons.mp hg with rfl | hg
    · cases hgated
    · obtain rfl := List.mem_singleton.mp hg
      obtain ⟨v, hv, hnull⟩ := (Option.any_eq_true _ _).mp hthere
      exact ⟨v, hv, by simpa using hnull⟩

/-- What comes of submitting the form after the company, shown for a business, was taken out of the
    data. -/
def companyOutcome : Bool :=
  match mount.run (world (ofForm companyForm .manual ⟨[], []⟩ none)) with
  | .error _ _ => false
  | .ok _ mounted =>
    match (put (.set "kind" (.text "business"))).run mounted with
    | .error _ _ => false
    | .ok _ chosen =>
      match (put (.unregister "company")).run chosen with
      | .error _ _ => false
      | .ok _ w =>
        match submit.run w with
        | .error _ _ => false
        | .ok sub _ => w.parts.isShown "company" && sub.output.any fun output =>
            !companyField.isSatisfiedBy (Path.read (.object output) "company")

/-- **A required field that is shown may be missing from what is submitted.** It is not so that every
    accepted submission satisfies every required field that is shown. -/
theorem not_required_of_shown :
    ¬ ∀ (schema : Schema) (form : Form) (w w' : World Owner Session) (sub : Submission)
        (output : Object),
      Item.WellNamed schema.items → Form.ofSchema schema = .ok form → Visited form w →
      submit.run w = .ok sub w' → sub.output = some output →
      ∀ node ∈ Item.nodes schema.items, node.path ∈ w.parts.tracker.visiblePaths →
        ∀ f, node.item = .field f → f.isRequired = true →
          f.isSatisfiedBy (Path.read (.object output) node.path) = true := by
  intro h
  have houtcome : companyOutcome = true := by decide +kernel
  unfold companyOutcome at houtcome
  split at houtcome
  · cases houtcome
  next mounted hmounted =>
  split at houtcome
  · cases houtcome
  next b chosen hchosen =>
  split at houtcome
  · cases houtcome
  next b' w hw =>
  split at houtcome
  · cases houtcome
  next sub w' hsub =>
  rw [Bool.and_eq_true] at houtcome
  obtain ⟨hshown, hmissing⟩ := houtcome
  obtain ⟨output, houtput, hnot⟩ := (Option.any_eq_true _ _).mp hmissing
  have hvisited : Visited companyForm w :=
    Visited.put (Visited.put (Visited.mounted hmounted) hchosen) hw
  have hsat := h companySchema companyForm w w' sub output wellNamed_companySchema
    ofSchema_companySchema hvisited hsub houtput ⟨.field companyField, "company", ""⟩
    (List.mem_cons_of_mem _ List.mem_cons_self) (Entries.contains_iff.mp hshown) companyField rfl
    (by decide +kernel)
  rw [hsat] at hnot
  cases hnot


end Session
end DynamicForms
