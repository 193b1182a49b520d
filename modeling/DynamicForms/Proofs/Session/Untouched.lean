import DynamicForms.Proofs.Lookup.Fresh
import DynamicForms.Proofs.Session.Following
import DynamicForms.Proofs.Session.Submit
import DynamicForms.Proofs.Validation.SecondPass
import DynamicForms.Proofs.Visibility.Pristine

/-!
# `DynamicForms.Proofs.Session.Untouched` — submitting a form that nobody has touched

A form that is mounted without a draft fills itself in: every visible field gets its initial value, and its
lookups only begin. So whatever it holds at a field when it is submitted right away is the initial value of the
field, and pruning may take that away but puts nothing else there. What an optional field may start out with,
its check then lets pass.

That a field is optional only means that it may be missing. It is missing while it is hidden; once it is shown
it holds its initial value, and its unconditional rules ask something of that. So an empty text stands in the
way of a submission if it is required, though the field can be hidden and is optional for that reason.

## Contents
- **One field.** `Field.permitsInitial`, `isOfBaseType_initialValue`, `isRefused_eq_false_of_initial`.
- **The check.** `Validator.silent_of_pristine`.
- **Mounting.** `Session.IsPristine`, `yields_mount_pristine`.
- **Submitting.** `Session.silent_of_untouched`, `Session.not_silent_of_untouched`.
-/

namespace DynamicForms

open Path (segments descend?)
open Tracker (Pristine pristine_nil)
open Value (Object)

/-! ## One field -/

namespace Field

variable {f : Field}

/-- Whether the unconditional rules of a field permit what it starts out with. Null is always permitted. Anything
    else is to keep all of them, and to be of the base type if the field declares it itself. -/
def permitsInitial (f : Field) : Bool :=
  f.initialValue.isNull || ((f.default.all fun d => f.isOfBaseType d.toValue) &&
    f.unconditionalRules.all fun r => f.keeps r f.initialValue)

/-- What a field starts out with by itself is of its base type, unless it is null. -/
theorem isOfBaseType_initialValue (hnull : f.initialValue.isNull = false)
    (hdefault : (f.default.all fun d => f.isOfBaseType d.toValue) = true) :
    f.isOfBaseType f.initialValue = true := by
  unfold initialValue at hnull ⊢
  cases hd : f.default with
  | some d =>
    rw [hd] at hdefault
    exact hdefault
  | none =>
    rw [hd] at hnull
    unfold isOfBaseType hasChoices FieldKind.isChoice
    cases hkind : f.kind with
    | select | radio =>
      rw [hkind] at hnull
      cases hnull
    | _ => rfl

/-- A field that declares no initial value and has no unconditional rule permits what it starts out with. -/
theorem permitsInitial_of_noRules (hdefault : f.default = none) (hrules : f.unconditionalRules = []) :
    f.permitsInitial = true := by
  rw [permitsInitial, hdefault, hrules]
  exact Bool.or_true _

/-- **An optional field is not refused while it holds nothing or an initial value that it permits.** -/
theorem isRefused_eq_false_of_initial (hoptional : f.isOptional = true) (hinitial : f.permitsInitial = true)
    {found : Option Value} (hfound : ∀ v, found = some v → v = f.initialValue) :
    f.isRefused found = false := by
  cases found with
  | none => rw [isRefused, hoptional, Bool.not_true]
  | some v =>
    obtain rfl := hfound v rfl
    cases hnull : f.initialValue.isNull with
    | true => rw [isRefused, hnull, if_pos rfl, hoptional, Bool.not_true]
    | false =>
      rw [permitsInitial, hnull, Bool.false_or, Bool.and_eq_true] at hinitial
      have haccepts : f.accepts f.initialValue = true :=
        Bool.and_eq_true_iff.mpr ⟨isOfBaseType_initialValue hnull hinitial.1, hinitial.2⟩
      rw [isRefused, hnull, if_neg Bool.false_ne_true, haccepts, Bool.not_true]

end Field

/-! ## The check -/

namespace Validator

variable {v : Validator} {items : List Item} {data : Object} {node : Node} {f : Field}

/-- **Nothing is said about an optional field that nobody has touched**, if it has no rule with a condition and
    permits what it starts out with. -/
theorem silent_of_pristine (h : Item.WellNamed items) (hbuild : build items = .ok v)
    (hdata : Pristine items data) (hnode : node ∈ Item.nodes items) (hf : node.item = .field f)
    (hoptional : f.isOptional = true) (hrules : ∀ rule ∈ f.ruleList, rule.condition = none)
    (hinitial : f.permitsInitial = true) : node.path ∉ (v.validate data).errors.keys := by
  classical
  have hfield : node.item.isField = true := by rw [hf]; rfl
  -- groups are put in before the first pass, but nothing is put in at a field
  have hfound : descend? (.object (Item.complete data items)) (segments node.path)
      = descend? (.object data) (segments node.path) :=
    Item.descend?_complete h.atTop data hnode (Or.inl hfield)
      (Path.segments_from_top _)
  have hfirst : node.path ∉ (v.firstPass data).places := by
    intro hplace
    obtain ⟨-, hfaulty⟩ := (mem_places_firstPass_iff h hbuild data hnode).mp hplace
    have hnot : f.isRefused (descend? (.object data) (segments node.path)) = false :=
      Field.isRefused_eq_false_of_initial hoptional hinitial (hdata.initial node hnode f hf)
    rw [hfound, hf] at hfaulty
    exact Bool.false_ne_true (hnot.symm.trans hfaulty)
  -- the second pass only looks at rules with a condition
  have hbroken : (f.ruleList.filter fun rule => rule.IsBroken items data node f) = [] := by
    rw [List.filter_eq_nil_iff]
    intro rule hrule hbroken
    obtain ⟨c, hc, -⟩ := (of_decide_eq_true hbroken).active
    rw [hrules rule hrule] at hc
    cases hc
  rw [← Entries.get?_eq_none_iff, get?_errors_of_silent hfirst, get?_secondPass h hbuild data hnode hf,
    hbroken]
  rfl

end Validator

namespace Session

/-! ## Mounting -/

variable {schema : Schema} {form : Form} {w : World Owner Session}

/-- A session of a form whose data nobody has touched. -/
structure IsPristine (form : Form) (w : World Owner Session) : Prop where
  /-- The form of the session. -/
  form_eq : w.parts.form = form
  /-- Its data. -/
  data : Pristine form.schema.items w.store.data

/-- The lookups of a form begin without touching it. -/
theorem yields_startEngine_pristine (hw : IsPristine form w)
    (hengine : w.parts.engine = .ofLookups (Item.lookups form.schema.items)) :
    (Engine.start enginePart put isShown Owner.worker).Yields w (IsPristine form) := by
  refine Engine.yields_start_of_fresh (fun f w hw => ⟨hw.form_eq, hw.data⟩)
    (fun paths owner w hw => ⟨hw.form_eq, hw.data⟩)
    (fun w hw l => l.exists_requestKey?_of_serialisable hw.data.hasText) ?_ ?_ hw
  · show w.parts.engine.workers.keys.Nodup
    rw [hengine]
    exact Entries.nodup_keys_ofPairs _
  · intro entry hentry
    replace hentry : entry ∈ w.parts.engine.workers := hentry
    rw [hengine] at hentry
    obtain ⟨l, -, rfl⟩ := List.mem_map.mp (Entries.mem_ofPairs hentry)
    rfl

/-- **Mounting a form without a draft touches nothing**: the form comes to hold initial values only. -/
theorem yields_mount_pristine (hnamed : Item.WellNamed form.schema.items) {channel : Channel} {wire : Wire}
    {drafts : Option (Drafts × Int)} (hdraft : (ofForm form channel wire drafts).draft? = none) :
    mount.Yields (world (ofForm form channel wire drafts)) (IsPristine form) := by
  have hempty : (opening form channel wire drafts).store.data = [] := by
    show restored (ofForm form channel wire drafts) [] = []
    rw [restored, hdraft]
  have hstarts : Tracker.Starts form.schema.items (opening form channel wire drafts).store.data
      fun t => Pristine form.schema.items t.store.data := by
    intro t ht hidle hdata hvisible
    refine Tracker.yields_refresh_pristine hnamed ht hidle hvisible ?_
    rw [hdata, hempty]
    exact pristine_nil hnamed
  rw [Run.Yields, run_mount]
  refine (yields_startTracker_alongside (w := opening form channel wire drafts) rfl rfl hstarts).bind ?_
  rintro - w₁ ⟨subs, t, halongside, ht⟩
  have hpristine : IsPristine form w₁ :=
    ⟨by rw [halongside.parts_eq]; rfl, halongside.data_eq ▸ ht⟩
  have hengine : w₁.parts.engine = .ofLookups (Item.lookups form.schema.items) := by
    rw [halongside.parts_eq]
    rfl
  -- what withdraws a submission listens, and then the lookups begin
  let w₂ : World Owner Session :=
    ⟨(w₁.store.listen .edits).2, { w₁.parts with ticket := some w₁.store.nextTicket }⟩
  have hlistens : startOthers.run w₁
      = (Engine.start enginePart put isShown Owner.worker >>= fun _ => startDrafts).run w₂ := rfl
  have hengineStarts := yields_startEngine_pristine (w := w₂) ⟨hpristine.form_eq, hpristine.data⟩ hengine
  rw [Run.Yields, hlistens]
  exact hengineStarts.bind fun _ w₃ hw₃ => yields_startDrafts hw₃ ⟨hw₃.form_eq, hw₃.data⟩

/-! ## Submitting -/

/-- **An optional field does not stand in the way of submitting a form that nobody has touched**, if it has no
    rule with a condition and its unconditional rules permit what it starts out with. -/
theorem silent_of_untouched (hnamed : Item.WellNamed schema.items) (hform : Form.ofSchema schema = .ok form)
    {channel : Channel} {wire : Wire} {drafts : Option (Drafts × Int)}
    (hdraft : (ofForm form channel wire drafts).draft? = none) :
    ∃ mounted submitted sub,
      mount.run (world (ofForm form channel wire drafts)) = .ok () mounted ∧
      submit.run mounted = .ok sub submitted ∧
      ∀ node ∈ Item.nodes schema.items, ∀ f, node.item = .field f → f.isOptional = true →
        (∀ rule ∈ f.ruleList, rule.condition = none) → f.permitsInitial = true →
        node.path ∉ sub.errors.keys := by
  obtain ⟨rfl, hbuild⟩ := Form.build_of_ofSchema hform
  obtain ⟨⟨⟩, mounted, hmount, hpristine⟩ := yields_mount_pristine hnamed hdraft
  refine ⟨mounted, _, _, hmount, rfl, fun node hnode f hf hoptional hrules hinitial => ?_⟩
  have hsilent := Validator.silent_of_pristine hnamed hbuild (Item.pristine_prune hnamed hpristine.data)
    hnode hf hoptional hrules hinitial
  show node.path ∉ (Submission.ofVerdict (mounted.parts.form.judge mounted.store.data)).errors.keys
  rw [hpristine.form_eq, errors_ofVerdict]
  exact hsilent

/-- A size, chosen from two. -/
def sizeField : Field :=
  { (default : Field) with
    id := "size"
    kind := .select
    options := some [⟨"Small", "s"⟩, ⟨"Large", "l"⟩] }

/-- A kind, which is that of a business at first, a company, and a size in a group. -/
def businessSchema : Schema :=
  ⟨"Business", none,
    [.field { (default : Field) with id := "kind", default := some (.text "business") },
     .field companyField,
     .group { (default : GroupHeader) with id := "details" } [.field sizeField]]⟩

/-- The form of the schema. -/
def businessForm : Form :=
  (Form.ofSchema businessSchema).toOption.getD default

theorem ofSchema_businessSchema : Form.ofSchema businessSchema = .ok businessForm :=
  Form.ofSchema_of_isSome (by decide +kernel)

theorem wellNamed_businessSchema : Item.WellNamed businessSchema.items :=
  ⟨by decide +kernel, by decide +kernel⟩

/-- Nothing is chosen, and nothing is said about that. -/
theorem silent_of_untouched_business :
    ∃ mounted submitted sub,
      mount.run (world (ofForm businessForm .manual ⟨[], []⟩ none)) = .ok () mounted ∧
      submit.run mounted = .ok sub submitted ∧ "details.size" ∉ sub.errors.keys := by
  have hdraft : (ofForm businessForm .manual ⟨[], []⟩ none).draft? = none := rfl
  obtain ⟨mounted, submitted, sub, hmount, hsubmit, hsilent⟩ :=
    silent_of_untouched wellNamed_businessSchema ofSchema_businessSchema hdraft
  refine ⟨mounted, submitted, sub, hmount, hsubmit, hsilent ⟨.field sizeField, "details.size", "details"⟩ ?_
    sizeField rfl (by decide +kernel) (by decide +kernel) (by decide +kernel)⟩
  exact List.mem_cons_of_mem _ (List.mem_cons_of_mem _ (List.mem_cons_of_mem _ List.mem_cons_self))

/-- What comes of submitting the form at once: the company is shown, and there is a message at it. -/
def businessOutcome : Bool :=
  match mount.run (world (ofForm businessForm .manual ⟨[], []⟩ none)) with
  | .error _ _ => false
  | .ok _ mounted =>
    match submit.run mounted with
    | .error _ _ => false
    | .ok sub _ => mounted.parts.isShown "company" && sub.errors.contains "company"

/-- **An optional field may stand in the way of submitting a form that nobody has touched.** It is not so that
    nothing is ever said about an optional field that is shown and has no rule with a condition. -/
theorem not_silent_of_untouched :
    ¬ ∀ (schema : Schema) (form : Form) (channel : Channel) (wire : Wire) (drafts : Option (Drafts × Int))
        (mounted submitted : World Owner Session) (sub : Submission),
      Item.WellNamed schema.items → Form.ofSchema schema = .ok form →
      (ofForm form channel wire drafts).draft? = none →
      mount.run (world (ofForm form channel wire drafts)) = .ok () mounted →
      submit.run mounted = .ok sub submitted →
      ∀ node ∈ Item.nodes schema.items, node.path ∈ mounted.parts.tracker.visiblePaths →
        ∀ f, node.item = .field f → f.isOptional = true →
          (∀ rule ∈ f.ruleList, rule.condition = none) → node.path ∉ sub.errors.keys := by
  intro h
  have houtcome : businessOutcome = true := by decide +kernel
  unfold businessOutcome at houtcome
  split at houtcome
  · cases houtcome
  next mounted hmount =>
  split at houtcome
  · cases houtcome
  next sub submitted hsubmit =>
  rw [Bool.and_eq_true] at houtcome
  obtain ⟨hshown, hmessage⟩ := houtcome
  exact h businessSchema businessForm .manual ⟨[], []⟩ none mounted submitted sub
    wellNamed_businessSchema ofSchema_businessSchema rfl hmount hsubmit
    ⟨.field companyField, "company", ""⟩ (List.mem_cons_of_mem _ List.mem_cons_self)
    (Entries.contains_iff.mp hshown) companyField rfl (by decide +kernel) (by decide +kernel)
    (Entries.contains_iff.mp hmessage)

end Session
end DynamicForms
