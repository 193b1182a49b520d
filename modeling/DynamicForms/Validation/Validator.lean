import DynamicForms.Validation.Build
import DynamicForms.Visibility.Condition

/-!
# `DynamicForms.Validation.Validator` — is this form filled in correctly?

Form data is checked in two passes. Before the first, every group that cannot be hidden by a
condition of its own and is missing is put in as an empty one, so that its fields complain for
themselves. The first pass checks types and unconditional rules. The second looks at the rules with a
condition, whose condition is decided by the data as given; a field that can be hidden and is missing
is passed over. Of several broken rules of one field in the second pass the last one speaks, and only
if the first pass had nothing to say about that path.

## Contents
- `Item.complete`: the data with missing groups put in.
- `Validator`, `Validator.build`.
- `ConditionalRule.complaint?`, `Validator.conditionalComplaints`.
- `Verdict`, `Validator.validate`.
-/

namespace DynamicForms

/-! ## Missing groups -/

mutual

/-- The data with the groups of some items put in where they are missing, all the way down. -/
def Item.complete (data : Value.Object) : List Item → Value.Object
  | [] => data
  | item :: rest => Item.complete (Item.completeOne data item) rest

/-- The data with one group put in if it is missing. -/
def Item.completeOne (data : Value.Object) : Item → Value.Object
  | .field _ => data
  | .group g items =>
    if g.showWhen.isSome then data
    else
      match data.get? g.id with
      | none | some .absent => data.put g.id (.object (Item.complete [] items))
      | some (.object inner) => data.put g.id (.object (Item.complete inner items))
      | some _ => data

end

/-! ## Validators -/

/-- A form made ready for checking data. -/
structure Validator where
  /-- The items of the form. -/
  items : List Item
  /-- The checks of the first pass. -/
  checks : List Check
  /-- The rules of the second pass. -/
  conditional : List ConditionalRule
  deriving Repr, Inhabited

/-- Make a form ready. -/
def Validator.build (items : List Item) : Except BuildError Validator := do
  let (checks, plan) ← buildItems "" false ⟨[], []⟩ items
  return ⟨items, checks, plan.conditional⟩

/-- The outcome of checking data: messages by path, or the data that the form knows. -/
inductive Verdict where
  /-- The data is in order. -/
  | valid (output : Value.Object)
  /-- Some places fail. -/
  | invalid (errors : Entries String)
  deriving Repr, Inhabited

/-- Whether the data is in order. -/
def Verdict.isValid : Verdict → Bool
  | .valid _ => true
  | .invalid _ => false

/-- The messages by path. -/
def Verdict.errors : Verdict → Entries String
  | .valid _ => []
  | .invalid errors => errors

/-- The data that the form knows, if it is in order. -/
def Verdict.output? : Verdict → Option Value.Object
  | .valid output => some output
  | .invalid _ => none

/-- Whether a rule with a condition applies to the data: its condition holds, and its field is not
one that is merely hidden. -/
def ConditionalRule.applies (r : ConditionalRule) (data : Value) : Bool :=
  r.condition.holds data r.parent && !(r.gated && (Path.read data r.path).isAbsent)

/-- Whether a rule with a condition applies and is broken. -/
def ConditionalRule.isBroken (r : ConditionalRule) (data : Value) : Bool :=
  r.applies data && !r.check.passes (Path.read data r.path)

namespace Validator

/-- The complaints of the first pass. -/
def firstPass (v : Validator) (data : Value.Object) : Outcome :=
  Check.runAll (Item.complete data v.items) v.checks

/-- The messages of the second pass by path; the last broken rule of a field counts. -/
def secondPass (v : Validator) (data : Value.Object) : Entries String :=
  Entries.ofPairs ((v.conditional.filter (·.isBroken (.object data))).map
    fun r => (r.path, r.rule.message))

/-- The messages of both passes by path; the first message about a path counts. -/
def messages (first : List (String × Complaint)) (second : Entries String) : Entries String :=
  (first.map (fun c => (c.1, c.2.message)) ++ second).foldl
    (fun errors entry => errors.putNew entry.1 entry.2) []

/-- Check data. -/
def validate (v : Validator) (data : Value.Object) : Verdict :=
  let found := v.firstPass data
  match messages found.complaints (v.secondPass data) with
  | [] => .valid found.output
  | errors => .invalid errors

end Validator

end DynamicForms
