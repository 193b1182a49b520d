import DynamicForms.Schema.Error
import DynamicForms.Text.Blank
import DynamicForms.Value.Display

/-!
# `DynamicForms.Schema.Shape` — the shape of a schema's document

Before a schema is read, its document is checked from top to bottom, left to right, an item before
what is inside it; the first problem found is the answer. The check knows every entry by its usual
name only. No two items of the whole form may have one identifier.

## Contents
- `Checked`, `demand`: checks and how they fail.
- **Parts.** `options`, `rules`, `showWhen`, `visibility`, `autoFill`.
- **Items.** `openItem`, `item`, `itemsFrom`.
- `document`: the whole check.
-/

namespace DynamicForms.Shape

/-- The outcome of a check. -/
abbrev Checked := Except SchemaError

/-- Demand that a condition holds at a place. -/
def demand (holds : Bool) (path : String) (flaw : ShapeFlaw) : Checked Unit :=
  if holds then .ok () else .error (.flawed path flaw)

/-- The place of an element of a list. -/
def elementPath (path : String) (index : Nat) : String :=
  path ++ "[" ++ toString index ++ "]"

/-- Run a check on every element of a list, with its position. -/
def eachFrom (check : Nat → Value → Checked Unit) (index : Nat) : List Value → Checked Unit
  | [] => .ok ()
  | v :: rest => do
    check index v
    eachFrom check (index + 1) rest

/-- The value of an entry; null if there is none. -/
def entryOf (fields : Value.Object) (name : String) : Value :=
  (fields.get? name).getD .null

/-- Whether the entry is a text. -/
def hasText (fields : Value.Object) (name : String) : Bool :=
  (entryOf fields name).isText

/-- Whether the entry is one of some texts. -/
def hasOneOf (fields : Value.Object) (name : String) (texts : List String) : Bool :=
  match entryOf fields name with
  | .text s => texts.contains s
  | _ => false

/-! ## Parts -/

/-- An option has a label and a value. -/
def isOption : Value → Bool
  | .object fields => hasText fields "label" && hasText fields "value"
  | _ => false

/-- A choice has options. -/
def options (kind : FieldKind) (path : String) (fields : Value.Object) : Checked Unit :=
  match entryOf fields "options" with
  | .list (first :: rest) =>
    eachFrom (fun i v => demand (isOption v) (elementPath (path ++ ".options") i) .badOption) 0
      (first :: rest)
  | _ => .error (.flawed path (.noOptions kind))

/-- The condition of a rule names a place and an operator. -/
def isRuleCondition : Value → Bool
  | .null => true
  | .object fields =>
    hasText fields "field" && hasOneOf fields "operator" (RuleOperator.all.map RuleOperator.name)
  | _ => false

/-- A rule has a type, a message and, perhaps, a condition. -/
def rule (path : String) : Value → Checked Unit
  | .object fields => do
    demand (hasOneOf fields "type" (RuleKind.all.map RuleKind.name)) path
      (.unknownRule (entryOf fields "type").shown)
    demand (hasText fields "message") path .ruleMessage
    demand (isRuleCondition (entryOf fields "condition")) path .ruleCondition
  | _ => .error (.flawed path .notObject)

/-- Rules are a list. -/
def rules (path : String) (fields : Value.Object) : Checked Unit :=
  match entryOf fields "validations" with
  | .null => .ok ()
  | .list vs => eachFrom (fun i v => rule (elementPath (path ++ ".validations") i) v) 0 vs
  | _ => .error (.flawed path .rulesNotList)

/-- A `showWhen` condition names a place and has a value. -/
def isShowWhen : Value → Bool
  | .null => true
  | .object fields => hasText fields "field" && Entries.contains fields "equals"
  | _ => false

/-- The `showWhen` condition of an item. -/
def showWhen (path : String) (fields : Value.Object) : Checked Unit :=
  demand (isShowWhen (entryOf fields "showWhen")) path .showWhen

/-- A visibility condition names a place and an operator and has a value. -/
def isVisibility : Value → Bool
  | .null => true
  | .object fields =>
    hasText fields "field"
      && hasOneOf fields "operator" (VisibilityOperator.all.map VisibilityOperator.name)
      && Entries.contains fields "value"
  | _ => false

/-- The visibility condition of a field. -/
def visibility (path : String) (fields : Value.Object) : Checked Unit :=
  demand (isVisibility (entryOf fields "visibilityCondition")) path .visibility

/-- Whether the value is a list of texts. -/
def isTextList : Value → Bool
  | .list vs => vs.all Value.isText
  | _ => false

/-- The lookup declaration of an item has an endpoint and two lists of references. -/
def autoFill (path : String) (fields : Value.Object) : Checked Unit :=
  match entryOf fields "autoFill" with
  | .null => .ok ()
  | .object inner => do
    demand (hasText inner "apiEndpoint") path .autoFillEndpoint
    demand (isTextList (entryOf inner "dependsOn")) path (.autoFillReferences "dependsOn")
    demand (isTextList (entryOf inner "targetFields")) path (.autoFillReferences "targetFields")
  | _ => .error (.flawed path .autoFillEndpoint)

/-! ## Items -/

/-- The text of an entry, or a problem. -/
def textOf (fields : Value.Object) (name path : String) (flaw : ShapeFlaw) : Checked String :=
  match entryOf fields name with
  | .text s => .ok s
  | _ => .error (.flawed path flaw)

/-- The identifier of an item, which must be new, and then its type. -/
def openItem (path : String) (seen : List String) (fields : Value.Object) :
    Checked (String × String) := do
  let id ← textOf fields "id" path .noId
  demand (!Text.isBlankText id) path .blankId
  if seen.contains id then
    .error (.duplicateId id path)
  else do
    let type ← textOf fields "type" path .noType
    return (id, type)

/-- The entries of a field. -/
def field (path type : String) (fields : Value.Object) : Checked Unit := do
  demand (hasText fields "label") path .noLabel
  match FieldKind.ofName? type with
  | none => .error (.flawed path (.unknownType type))
  | some kind => do
    if kind.isChoice then
      options kind path fields
    rules path fields
    showWhen path fields
    visibility path fields
    autoFill path fields

/-- The entries of a group, apart from its items. -/
def group (path : String) (fields : Value.Object) : Checked Unit := do
  demand (hasText fields "title") path .groupTitle
  demand (entryOf fields "fields").list?.isSome path .groupFields
  showWhen path fields
  autoFill path fields

mutual

/-- An item and what is inside it. The answer is the list of all identifiers met so far. -/
def item (path : String) (seen : List String) : Value → Checked (List String)
  | .object fields => do
    let (id, type) ← openItem path seen fields
    if type == groupTypeName then
      group path fields
      children (path ++ ".fields") (id :: seen) fields
    else
      field path type fields
      return id :: seen
  | _ => .error (.flawed path .notObject)

/-- The items among the entries of a group. -/
def children (path : String) (seen : List String) : List (String × Value) → Checked (List String)
  | [] => .ok seen
  | (name, v) :: rest => if name == "fields" then items path seen v else children path seen rest

/-- The items of a list. -/
def items (path : String) (seen : List String) : Value → Checked (List String)
  | .list vs => itemsFrom path 0 seen vs
  | _ => .ok seen

/-- Items from a position on. -/
def itemsFrom (path : String) (index : Nat) (seen : List String) :
    List Value → Checked (List String)
  | [] => .ok seen
  | v :: rest => do
    let seen ← item (elementPath path index) seen v
    itemsFrom path (index + 1) seen rest

end

/-- The whole document; its entries, if the shape is right. -/
def document : Value → Checked Value.Object
  | .object fields => do
    if !hasText fields "title" then
      .error .noTitle
    match entryOf fields "fields" with
    | .list [] => .error .emptyFields
    | .list vs => do
      let _ ← itemsFrom "fields" 0 [] vs
      return fields
    | _ => .error .noFields
  | _ => .error .notObject

end DynamicForms.Shape
