import DynamicForms.Pattern.Search
import DynamicForms.Schema.Basic
import DynamicForms.Text.Blank

/-!
# `DynamicForms.Validation.RuleCheck` — what a rule asks of a value

A rule is made ready once, which reads its pattern; then it passes or fails any value. Only
`required` minds values that are no texts; lengths and patterns pass them. Lengths are counted in
characters. A rule without a value of the right type passes everything.

## Contents
- `RuleCheck`, `Rule.check?`.
- `RuleValue.compareLength?`: a length against a number.
- `RuleCheck.passes`.
-/

namespace DynamicForms

/-- A rule made ready. -/
inductive RuleCheck where
  /-- There must be a value. -/
  | present
  /-- A text must have at least a length. -/
  | atLeast (bound : RuleValue)
  /-- A text must have at most a length. -/
  | atMost (bound : RuleValue)
  /-- A text must have a match of a pattern. -/
  | matching (p : Pattern)
  /-- Anything passes. -/
  | anything
  deriving Repr, Inhabited

/-- How a length compares with the number of a rule; none if that is not a number. -/
def RuleValue.compareLength? (length : Nat) : RuleValue → Option Ordering
  | .int n => some (compare (length : Int) n)
  | .double d => (d.compareInt length).map Ordering.swap
  | .text _ => none

/-- Whether the value of a rule is of a numeric type. -/
def RuleValue.isNumeric : RuleValue → Bool
  | .text _ => false
  | _ => true

/-- The pattern of a rule as written, if it has one. -/
def Rule.patternText? (r : Rule) : Option String :=
  match r.value with
  | some (.text s) => if r.kind.isPattern then some s else none
  | _ => none

/-- A bound on lengths made ready. -/
def boundCheck (check : RuleValue → RuleCheck) (v : Option RuleValue) : RuleCheck :=
  match v with
  | some bound => if bound.isNumeric then check bound else .anything
  | none => .anything

/-- A rule made ready, or why its pattern cannot be read. -/
def Rule.check? (r : Rule) : Except Pattern.Error RuleCheck :=
  match r.kind with
  | .required => .ok .present
  | .minLength => .ok (boundCheck .atLeast r.value)
  | .maxLength => .ok (boundCheck .atMost r.value)
  | .pattern | .custom =>
    match r.patternText? with
    | some s => (Pattern.parse s).map .matching
    | none => .ok .anything

/-- Whether a value is given: a text that is not blank, true, or anything but null and absence. -/
def Value.isGiven : Value → Bool
  | .text s => !Text.isBlankText s
  | .bool b => b
  | .null => false
  | .absent => false
  | _ => true

/-- Whether a rule passes a value. -/
def RuleCheck.passes (check : RuleCheck) (v : Value) : Bool :=
  match check, v with
  | .present, v => v.isGiven
  | .atLeast bound, .text s => (bound.compareLength? s.length).any Ordering.isGE
  | .atMost bound, .text s => (bound.compareLength? s.length).any Ordering.isLE
  | .matching p, .text s => p.search s
  | _, _ => true

end DynamicForms
