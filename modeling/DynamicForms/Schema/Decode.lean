import DynamicForms.Schema.Basic
import DynamicForms.Text.Quoted

/-!
# `DynamicForms.Schema.Decode` — values as schemas

Every part of a schema is read from an object by the names of its entries. Some entries go by two
names, of which the first wins when both are there; an entry that no part knows is passed over. Where
several types are allowed, a value of one of them keeps its type, and only then is the first type
that a value can be taken for tried: a default of zero or one is a boolean, and a truth value given
as the value of a rule is a number.

A value that does not fit is reported with the way to it, the names as the object has them.

## Contents
- `Step`, `Fault`, `Misfit`: what does not fit, and where.
- **Building blocks.** `text`, `list`, `required`, `optional`, `optionalList`.
- **Parts.** One reader for every part of a schema; `item`, `items`, `schema`.
-/

namespace DynamicForms.Decode

/-- One step on the way into a value. -/
inductive Step where
  /-- To the entry of a name. -/
  | name (s : String)
  /-- To the element at a position. -/
  | index (i : Nat)
  deriving DecidableEq, Repr

/-- What does not fit. -/
inductive Fault where
  /-- An entry is missing. -/
  | missing
  /-- A text is needed. -/
  | notText
  /-- A boolean is needed. -/
  | notBool
  /-- A boolean is needed, and the number cannot be taken for one. -/
  | notBoolLike
  /-- A whole number is needed. -/
  | notInt
  /-- A list is needed. -/
  | notList
  /-- An object is needed; the name says for what. -/
  | notObject (part : String)
  /-- An object of any kind is needed. -/
  | notDictionary
  /-- One of some texts is needed. -/
  | notChoice (choices : List String)
  deriving DecidableEq, Repr

/-- Texts in quotes as alternatives: commas between them, and "or" before the last. -/
def alternatives : List String → String
  | [] => ""
  | [one] => Text.quote one
  | [one, last] => Text.quote one ++ " or " ++ Text.quote last
  | one :: rest => Text.quote one ++ ", " ++ alternatives rest

/-- The words for what does not fit. -/
def Fault.message : Fault → String
  | .missing => "Field required"
  | .notText => "Input should be a valid string"
  | .notBool => "Input should be a valid boolean"
  | .notBoolLike => "Input should be a valid boolean, unable to interpret input"
  | .notInt => "Input should be a valid integer"
  | .notList => "Input should be a valid list"
  | .notObject part => "Input should be a valid dictionary or instance of " ++ part
  | .notDictionary => "Input should be a valid dictionary"
  | .notChoice choices => "Input should be " ++ alternatives choices

/-- A value that does not fit: the way to it and the reason. -/
structure Misfit where
  /-- The way to the value. -/
  way : List Step
  /-- Why it does not fit. -/
  fault : Fault
  deriving DecidableEq, Repr

/-- The way of a misfit as a path: names after dots, positions in brackets. -/
def wayText (way : List Step) : String :=
  way.foldl (fun path step => match step with
    | .index i => path ++ "[" ++ toString i ++ "]"
    | .name s => if path.isEmpty then s else path ++ "." ++ s) ""

/-- Something read, or the first misfit. -/
abbrev Decoded := Except Misfit

/-- A misfit right here. -/
def refuse {α : Type} (fault : Fault) : Decoded α :=
  .error ⟨[], fault⟩

/-- Read something one step away. -/
def under {α : Type} (step : Step) (read : Decoded α) : Decoded α :=
  read.mapError fun misfit => { misfit with way := step :: misfit.way }

/-! ## Building blocks -/

/-- A text. -/
def text : Value → Decoded String
  | .text s => .ok s
  | _ => refuse .notText

/-- Elements from a position on. -/
def listFrom {α : Type} (read : Value → Decoded α) (position : Nat) : List Value → Decoded (List α)
  | [] => .ok []
  | v :: rest => do
    let first ← under (.index position) (read v)
    let more ← listFrom read (position + 1) rest
    return first :: more

/-- A list. -/
def list {α : Type} (read : Value → Decoded α) : Value → Decoded (List α)
  | .list items => listFrom read 0 items
  | _ => refuse .notList

/-- The entries of an object that describes some part. -/
def object (part : String) : Value → Decoded Value.Object
  | .object fields => .ok fields
  | _ => refuse (.notObject part)

/-- The first of some names that an object has, with its value. -/
def named? (fields : Value.Object) (names : List String) : Option (String × Value) :=
  names.findSome? fun name => (fields.get? name).map (name, ·)

/-- An entry that must be there; a missing one is reported under its first name. -/
def required {α : Type} (fields : Value.Object) (names : List String) (read : Value → Decoded α) :
    Decoded α :=
  match named? fields names with
  | some (name, v) => under (.name name) (read v)
  | none => under (.name (names.headD "")) (refuse .missing)

/-- An entry that may be missing or null. -/
def optional {α : Type} (fields : Value.Object) (names : List String) (read : Value → Decoded α) :
    Decoded (Option α) :=
  match named? fields names with
  | some (name, v) => if v.isNull then .ok none else (under (.name name) (read v)).map some
  | none => .ok none

/-- A list that is empty if its entry is missing. -/
def optionalList {α : Type} (fields : Value.Object) (names : List String)
    (read : Value → Decoded α) : Decoded (List α) :=
  match named? fields names with
  | some (name, v) => under (.name name) (list read v)
  | none => .ok []

/-- One of some named things. -/
def choice {α : Type} (all : List α) (name : α → String) (v : Value) : Decoded α :=
  let found := match v with
    | .text s => all.find? (name · == s)
    | _ => none
  match found with
  | some a => .ok a
  | none => refuse (.notChoice (all.map name))

/-! ## Values of several types -/

/-- A boolean, or a number that is zero or one. -/
def boolLike : Value → Decoded Bool
  | .bool b => .ok b
  | .int n => if n = 0 then .ok false else if n = 1 then .ok true else refuse .notBoolLike
  | .double d =>
    if d.numEqInt 0 then .ok false
    else if d.numEqInt 1 then .ok true
    else if d.isWhole then refuse .notBoolLike
    else refuse .notBool
  | _ => refuse .notBool

/-- A scalar. -/
def scalar : Value → Decoded Scalar
  | .bool b => .ok (.bool b)
  | .int n => .ok (.int n)
  | .double d => .ok (.double d)
  | .text s => .ok (.text s)
  | _ => under (.name "bool") (refuse .notBool)

/-- The value of a rule. -/
def ruleValue : Value → Decoded RuleValue
  | .bool b => .ok (.int (if b then 1 else 0))
  | .int n => .ok (.int n)
  | .double d => .ok (.double d)
  | .text s => .ok (.text s)
  | _ => under (.name "int") (refuse .notInt)

/-- The texts of a list of nothing else. -/
def allTexts? : List Value → Option (List String)
  | [] => some []
  | .text s :: rest => (allTexts? rest).map (s :: ·)
  | _ => none

/-- What a visibility condition compares with. -/
def comparand (v : Value) : Decoded Comparand :=
  let refused := under (.name "str") (refuse .notText)
  match v with
  | .text s => .ok (.one s)
  | .list items =>
    match allTexts? items with
    | some texts => .ok (.many texts)
    | none => refused
  | _ => refused

/-- The default of a field. -/
def defaultValue (v : Value) : Decoded DefaultValue :=
  let asBool := (under (.name "bool") (boolLike v)).map DefaultValue.bool
  match v with
  | .text s => .ok (.text s)
  | .list items =>
    match allTexts? items with
    | some texts => .ok (.texts texts)
    | none => asBool
  | _ => asBool

/-! ## Parts -/

/-- An option of a choice. -/
def fieldOption (v : Value) : Decoded FieldOption := do
  let fields ← object "FieldOption" v
  let label ← required fields ["label"] text
  let value ← required fields ["value"] text
  return ⟨label, value⟩

/-- A `showWhen` condition. -/
def showWhen (v : Value) : Decoded ShowWhen := do
  let fields ← object "ShowWhenCondition" v
  let field ← required fields ["field"] text
  let equals ← required fields ["equals"] scalar
  return ⟨field, equals⟩

/-- A visibility condition. -/
def visibilityCondition (v : Value) : Decoded VisibilityCondition := do
  let fields ← object "VisibilityCondition" v
  let field ← required fields ["field"] text
  let operator ← required fields ["operator"]
    (choice VisibilityOperator.all VisibilityOperator.name)
  let value ← required fields ["value"] comparand
  return ⟨field, operator, value⟩

/-- The condition of a rule. -/
def ruleCondition (v : Value) : Decoded RuleCondition := do
  let fields ← object "ValidationCondition" v
  let field ← required fields ["field"] text
  let operator ← required fields ["operator"] (choice RuleOperator.all RuleOperator.name)
  let value ← required fields ["value"] scalar
  return ⟨field, operator, value⟩

/-- A rule. -/
def rule (v : Value) : Decoded Rule := do
  let fields ← object "ValidationRule" v
  let kind ← required fields ["type"] (choice RuleKind.all RuleKind.name)
  let value ← optional fields ["value"] ruleValue
  let message ← required fields ["message"] text
  let condition ← optional fields ["condition"] ruleCondition
  return ⟨kind, value, message, condition⟩

/-- A lookup declaration. -/
def autoFill (v : Value) : Decoded AutoFill := do
  let fields ← object "AutoFillConfig" v
  let endpoint ← required fields ["apiEndpoint", "api_endpoint"] text
  let dependsOn ← optionalList fields ["dependsOn", "depends_on"] text
  let targets ← optionalList fields ["targetFields", "target_fields"] text
  return ⟨endpoint, dependsOn, targets⟩

/-- The names of a `showWhen` entry. -/
def showWhenNames : List String := ["showWhen", "show_when"]

/-- The names of a lookup declaration. -/
def autoFillNames : List String := ["autoFill", "auto_fill"]

/-- A field, from its entries. -/
def fieldEntries (fields : Value.Object) : Decoded Field := do
  let id ← required fields ["id"] text
  let kind ← required fields ["type"] (choice FieldKind.all FieldKind.name)
  let label ← required fields ["label"] text
  let placeholder ← optional fields ["placeholder"] text
  let default ← optional fields ["defaultValue", "default_value"] defaultValue
  let options ← optional fields ["options"] (list fieldOption)
  let rules ← optional fields ["validations"] (list rule)
  let visibility ← optional fields ["visibilityCondition", "visibility_condition"]
    visibilityCondition
  let autoFill ← optional fields autoFillNames autoFill
  let showWhen ← optional fields showWhenNames showWhen
  return ⟨id, kind, label, placeholder, default, options, rules, visibility, autoFill, showWhen⟩

/-- A field. -/
def field (v : Value) : Decoded Field := do
  fieldEntries (← object "FieldConfig" v)

/-- Whether an object describes a group. -/
def describesGroup (fields : Value.Object) : Bool :=
  (fields.get? "type").bind Value.text? == some groupTypeName

mutual

/-- A field or a group. -/
def item : Value → Decoded Item
  | .object fields =>
    if describesGroup fields then do
      let id ← required fields ["id"] text
      let title ← required fields ["title"] text
      let description ← optional fields ["description"] text
      let items ← children fields
      let showWhen ← optional fields showWhenNames showWhen
      let autoFill ← optional fields autoFillNames autoFill
      return .group ⟨id, title, description, showWhen, autoFill⟩ items
    else (fieldEntries fields).map .field
  | _ => refuse (.notObject "FieldConfig")

/-- The items among the entries of a group; none if there is no such entry. -/
def children : List (String × Value) → Decoded (List Item)
  | [] => .ok []
  | (name, v) :: rest => if name == "fields" then under (.name name) (items v) else children rest

/-- A list of items. -/
def items : Value → Decoded (List Item)
  | .list vs => itemsFrom 0 vs
  | _ => refuse .notList

/-- Items from a position on. -/
def itemsFrom (position : Nat) : List Value → Decoded (List Item)
  | [] => .ok []
  | v :: rest => do
    let first ← under (.index position) (item v)
    let more ← itemsFrom (position + 1) rest
    return first :: more

end

/-- A schema, from its entries. -/
def schema (fields : Value.Object) : Decoded Schema := do
  let title ← required fields ["title"] text
  let description ← optional fields ["description"] text
  let items ← children fields
  return ⟨title, description, items⟩

end DynamicForms.Decode
