import DynamicForms.Path.Basic
import DynamicForms.Schema.Error
import DynamicForms.Validation.Check

/-!
# `DynamicForms.Validation.Build` — from schemas to checks

The checks of a form are made once, which reads all patterns; the first that cannot be read is the
answer. Unconditional rules become part of the check of their field; rules with a condition are kept
aside, with their place and with whether the field or a group around it can be hidden.

The message about a wrong choice lists the options as declared, each once. Choices that may be left
out and offer the same set of options all show the order of the first of them.

## Contents
- `BuildError`.
- `ConditionalRule`.
- **Fields.** `Field.baseCheck`, `Field.conditionalRules`.
- **Orders of options.** `sameSet`, `shownOrder`.
- **Forms.** `Plan`, `buildItem`, `buildItems`.
-/

namespace DynamicForms

/-- A pattern in the rules of a form that cannot be read. -/
structure BuildError where
  /-- The place of the rule. -/
  path : String
  /-- The pattern. -/
  pattern : String
  /-- Why it cannot be read. -/
  error : Pattern.Error
  deriving DecidableEq, Repr

/-- The error as one of the schema, if it is one of the pattern's form and not of its size or
alphabet. -/
def BuildError.schemaError? (e : BuildError) : Option SchemaError :=
  match e.error with
  | .flawed .. | .flawedOverall .. =>
    some (.flawed e.path (.badPattern e.pattern (e.error.message e.pattern)))
  | _ => none

/-- A rule with a condition, and where it applies. -/
structure ConditionalRule where
  /-- The path of the field. -/
  path : String
  /-- The path of the group around it. -/
  parent : String
  /-- The rule. -/
  rule : Rule
  /-- The condition of the rule. -/
  condition : RuleCondition
  /-- The rule made ready. -/
  check : RuleCheck
  /-- Whether the field or a group around it can be hidden. -/
  gated : Bool
  deriving Repr, Inhabited

/-! ## Fields -/

/-- A rule of a field with its place and check. -/
structure ReadyRule where
  /-- The rule. -/
  rule : Rule
  /-- The rule made ready. -/
  check : RuleCheck
  deriving Repr, Inhabited

/-- Make rules ready, from a position on. -/
def readyRules (path : String) (index : Nat) : List Rule → Except BuildError (List ReadyRule)
  | [] => .ok []
  | rule :: rest => do
    let place := path ++ ".validations[" ++ toString index ++ "]"
    let check ← rule.check?.mapError fun e => ⟨place, rule.patternText?.getD "", e⟩
    let more ← readyRules path (index + 1) rest
    return ⟨rule, check⟩ :: more

/-- The messages of the `required` rules among some rules. -/
def requiredMessages (rules : List ReadyRule) : List String :=
  (rules.filter (·.rule.kind == .required)).map (·.rule.message)

/-- A rule for a text. -/
def ReadyRule.textRule (r : ReadyRule) : TextRule × String :=
  (if r.rule.kind == .required then .nonEmpty else .check r.check, r.rule.message)

/-- The values of options, each once. -/
def Field.distinctOptions (f : Field) : List String :=
  f.optionValues.eraseDups

/-- Whether the field is a choice with options. -/
def Field.hasChoices (f : Field) : Bool :=
  f.kind.isChoice && !f.optionValues.isEmpty

/-- What a field asks of its value, given its unconditional rules. -/
def Field.baseCheck (f : Field) (shown : List String) (rules : List ReadyRule) : BaseCheck :=
  if f.kind == .checkbox then .flag (requiredMessages rules)
  else if f.hasChoices then .choice f.distinctOptions shown (requiredMessages rules)
  else .text (rules.map ReadyRule.textRule)

/-- The rules of a field that have a condition. -/
def conditionalRules (path parent : String) (gated : Bool) (rules : List ReadyRule) :
    List ConditionalRule :=
  rules.filterMap fun r => r.rule.condition.map fun c => ⟨path, parent, r.rule, c, r.check, gated⟩

/-! ## Orders of options -/

/-- Whether two lists have the same elements. -/
def sameSet (xs ys : List String) : Bool :=
  xs.all ys.contains && ys.all xs.contains

/-- The order in which a set of options is shown first. -/
def shownOrder (orders : List (List String)) (options : List String) : List String :=
  (orders.find? (sameSet options)).getD options

/-! ## Forms -/

/-- What has been made so far. -/
structure Plan where
  /-- The rules with a condition, in order. -/
  conditional : List ConditionalRule
  /-- The orders in which optional choices are shown. -/
  orders : List (List String)
  deriving Repr, Inhabited

/-- Make the check of a field. -/
def buildField (parent : String) (gated : Bool) (plan : Plan) (f : Field) :
    Except BuildError (FieldCheck × Plan) := do
  let path := Path.join parent f.id
  let gated := gated || f.isConditional
  let rules ← readyRules path 0 f.ruleList
  let always := rules.filter (·.rule.condition.isNone)
  let options := f.distinctOptions
  let shared := f.hasChoices && f.isOptional && (requiredMessages always).isEmpty
  let shown := if shared then shownOrder plan.orders options else options
  let orders := if shared then plan.orders ++ [shown] else plan.orders
  let conditional := plan.conditional ++ conditionalRules path parent gated rules
  return (⟨f.id, path, f.isOptional, f.baseCheck shown always⟩, ⟨conditional, orders⟩)

mutual

/-- Make the check of an item. -/
def buildItem (parent : String) (gated : Bool) (plan : Plan) :
    Item → Except BuildError (Check × Plan)
  | .field f => do
    let (check, plan) ← buildField parent gated plan f
    return (.field check, plan)
  | .group g items => do
    let path := Path.join parent g.id
    let (checks, plan) ← buildItems path (gated || g.showWhen.isSome) plan items
    return (.group ⟨g.id, path, g.showWhen.isSome⟩ checks, plan)

/-- Make the checks of several items. -/
def buildItems (parent : String) (gated : Bool) (plan : Plan) :
    List Item → Except BuildError (List Check × Plan)
  | [] => .ok ([], plan)
  | item :: rest => do
    let (check, plan) ← buildItem parent gated plan item
    let (checks, plan) ← buildItems parent gated plan rest
    return (check :: checks, plan)

end

end DynamicForms
