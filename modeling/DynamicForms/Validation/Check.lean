import DynamicForms.Schema.Decode
import DynamicForms.Validation.RuleCheck

/-!
# `DynamicForms.Validation.Check` — the first pass over form data

Every field asks for a value of its base type, and then for its rules to pass. A tick box holds a
boolean, a choice one of its options, everything else a text. An optional field may also be missing
or null. Groups are checked entry by entry; a group that can be hidden may be missing or null.

The pass collects one message for every place that fails, and the entries that the form knows.

## Contents
- `Complaint`: what is said about a place.
- `BaseCheck`, `FieldCheck`, `Check`: the checks of a form as a tree.
- `BaseCheck.complaint?`.
- `Outcome`, `FieldCheck.run`, `Check.run`, `Check.runAll`.
-/

namespace DynamicForms

/-- What is said about a place. -/
inductive Complaint where
  /-- The value does not fit its type. -/
  | unfit (fault : Decode.Fault)
  /-- A rule is broken; this is its message. -/
  | broken (message : String)
  deriving DecidableEq, Repr

/-- The words of a complaint. -/
def Complaint.message : Complaint → String
  | .unfit fault => fault.message
  | .broken message => message

/-- A rule for a text: `required` asks for at least one character, all others for their check. -/
inductive TextRule where
  /-- The text must not be empty. -/
  | nonEmpty
  /-- The check must pass. -/
  | check (c : RuleCheck)
  deriving Repr, Inhabited

/-- Whether a rule for a text passes it. -/
def TextRule.passes (rule : TextRule) (s : String) : Bool :=
  match rule with
  | .nonEmpty => !s.isEmpty
  | .check c => c.passes (.text s)

/-- What a field asks of its value. -/
inductive BaseCheck where
  /-- A boolean; if there are messages of `required` rules, it must be true. -/
  | flag (required : List String)
  /-- One of some options, which a message lists in an order of its own; if there are messages of
  `required` rules, neither null nor the empty text. -/
  | choice (options shown required : List String)
  /-- A text that passes some rules, each with its message. -/
  | text (rules : List (TextRule × String))
  deriving Repr, Inhabited

/-- What is said about a text. -/
def textComplaint? (rules : List (TextRule × String)) (s : String) : Option Complaint :=
  (rules.find? fun rule => !rule.1.passes s).map fun rule => .broken rule.2

/-- Whether nothing is chosen. -/
def isUnchosen : Value → Bool
  | .null => true
  | .text s => s.isEmpty
  | _ => false

/-- Whether a value is one of some texts. -/
def isOneOf (options : List String) : Value → Bool
  | .text s => options.contains s
  | _ => false

/-- What is said about the value of a field, if anything. Of several `required` rules on a choice
the last one speaks first. -/
def BaseCheck.complaint? (check : BaseCheck) (v : Value) : Option Complaint :=
  match check with
  | .flag required =>
    match v with
    | .bool true => none
    | .bool false => required.head?.map .broken
    | _ => some (.unfit .notBool)
  | .choice options shown required =>
    match required.getLast?, isUnchosen v with
    | some message, true => some (.broken message)
    | _, _ => if isOneOf options v then none else some (.unfit (.notChoice shown))
  | .text rules =>
    match v with
    | .text s => textComplaint? rules s
    | _ => some (.unfit .notText)

/-- The check of a field. -/
structure FieldCheck where
  /-- The name of the field inside its group. -/
  id : String
  /-- The path of the field. -/
  path : String
  /-- Whether the field may be missing or null. -/
  optional : Bool
  /-- What is asked of the value. -/
  base : BaseCheck
  deriving Repr, Inhabited

/-- The check of a group, apart from what is inside it. -/
structure GroupCheck where
  /-- The name of the group inside the group around it. -/
  id : String
  /-- The path of the group. -/
  path : String
  /-- Whether the group may be missing or null. -/
  optional : Bool
  deriving Repr, Inhabited

/-- The checks of a form. -/
inductive Check where
  /-- The check of a field. -/
  | field (f : FieldCheck)
  /-- The check of a group and of what is inside it. -/
  | group (g : GroupCheck) (checks : List Check)
  deriving Repr, Inhabited

/-- What a pass has found: complaints by path, and the known entries. -/
structure Outcome where
  /-- The places that fail, in order. -/
  complaints : List (String × Complaint)
  /-- The entries that the form knows. -/
  output : Value.Object
  deriving Repr, Inhabited

namespace Outcome

/-- Nothing to say, and no entry. -/
def none : Outcome := ⟨[], []⟩

/-- An entry with nothing to say about it. -/
def accepted (id : String) (v : Value) : Outcome := ⟨[], [(id, v)]⟩

/-- A place that fails. -/
def refused (path : String) (c : Complaint) : Outcome := ⟨[(path, c)], []⟩

/-- One finding after the other. -/
def append (a b : Outcome) : Outcome :=
  ⟨a.complaints ++ b.complaints, a.output ++ b.output⟩

end Outcome

/-- What is found at a place: an optional one may be missing or null, any other must be there. -/
def checkEntry (data : Value.Object) (id path : String) (optional : Bool)
    (check : Value → Outcome) : Outcome :=
  match data.get? id with
  | .none => if optional then .none else .refused path (.unfit .missing)
  | some v => if optional && v.isNull then .accepted id v else check v

/-- What is found at a field. -/
def FieldCheck.run (f : FieldCheck) (data : Value.Object) : Outcome :=
  checkEntry data f.id f.path f.optional fun v =>
    match f.base.complaint? v with
    | some c => .refused f.path c
    | .none => .accepted f.id v

/-- The name that a message gives to the shape of a group. -/
def groupShapeName (path : String) : String :=
  if path.isEmpty then "FormData"
  else "FormData_" ++ String.ofList (path.toList.map fun c => if Text.isWordChar c then c else '_')

/-- The complaint about a group that is no object. -/
def GroupCheck.shapeComplaint (g : GroupCheck) : Complaint :=
  .unfit (.notObject (groupShapeName g.path))

mutual

/-- What is found at an item. -/
def Check.run (data : Value.Object) : Check → Outcome
  | .field f => f.run data
  | .group g checks =>
    checkEntry data g.id g.path g.optional fun v =>
      match v with
      | .object inner =>
        let found := Check.runAll inner checks
        ⟨found.complaints, [(g.id, .object found.output)]⟩
      | _ => .refused g.path g.shapeComplaint

/-- What is found at several items. -/
def Check.runAll (data : Value.Object) : List Check → Outcome
  | [] => .none
  | check :: rest => (Check.run data check).append (Check.runAll data rest)

end

end DynamicForms
