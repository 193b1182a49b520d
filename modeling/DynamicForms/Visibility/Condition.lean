import DynamicForms.Path.Access
import DynamicForms.Schema.Walk

/-!
# `DynamicForms.Visibility.Condition` — when an item is shown

A condition names a place in the form and is decided by the value there. An absent value is never
equal to anything and never contains anything, so a condition on an empty place fails unless it asks
for a difference.

## Contents
- `ShowWhen.holds`, `VisibilityCondition.holds`, `RuleCondition.holds`.
- `Item.isShown`: both conditions of an item.
- `Item.conditionPaths`: the places that the conditions of some items name.
-/

namespace DynamicForms

/-- Whether a list starts with, or somewhere later has, another list. -/
def hasInfix (needle : List Char) : List Char → Bool
  | [] => needle.isEmpty
  | c :: rest => needle.isPrefixOf (c :: rest) || hasInfix needle rest

/-- The place holds the value. -/
def ShowWhen.holds (c : ShowWhen) (data : Value) : Bool :=
  (Path.read data c.field).strictlyEqual c.equals.toValue

/-- A text contains a text, and a list has an element that is a text; nothing else contains
anything. -/
def containsText (actual : Value) (needle : String) : Bool :=
  match actual with
  | .text s => hasInfix needle.toList s.toList
  | .list items => Value.occursIn (.text needle) items
  | _ => false

/-- The place compares with the value, or one of the values. -/
def VisibilityCondition.holds (c : VisibilityCondition) (data : Value) : Bool :=
  let actual := Path.read data c.field
  let equal := c.value.texts.any fun s => actual.strictlyEqual (.text s)
  match c.operator with
  | .contains => c.value.texts.any (containsText actual)
  | .equals => equal
  | .notEquals => !equal

/-- The value that the condition of a rule looks at: at its path, or else at its path inside the
group of the rule's field. -/
def RuleCondition.operand (c : RuleCondition) (data : Value) (parent : String) : Value :=
  match Path.read data c.field with
  | .absent =>
    let inside := Path.join parent c.field
    if inside == c.field then .absent else Path.read data inside
  | v => v

/-- The place compares with the value. -/
def RuleCondition.holds (c : RuleCondition) (data : Value) (parent : String) : Bool :=
  let equal := (c.operand data parent).strictlyEqual c.value.toValue
  match c.operator with
  | .equals => equal
  | .notEquals => !equal

/-- A condition that may be missing; a missing one holds. -/
def holdsIfAny {α : Type} (holds : α → Value → Bool) (c : Option α) (data : Value) : Bool :=
  c.all (holds · data)

namespace Item

/-- Whether the item's own conditions hold. -/
def isShown (item : Item) (data : Value) : Bool :=
  holdsIfAny ShowWhen.holds item.showWhen data
    && holdsIfAny VisibilityCondition.holds item.visibility data

/-- The places that the conditions of one item name. -/
def ownPaths (item : Item) : List String :=
  item.showWhen.toList.map (·.field) ++ item.visibility.toList.map (·.field)

/-- Add a path to a list of paths if it is neither empty nor there already. -/
def addPath (paths : List String) (path : String) : List String :=
  if path.isEmpty || paths.contains path then paths else paths ++ [path]

/-- The places that the conditions of some items name, each once, in order. -/
def conditionPaths (items : List Item) : List String :=
  (items.flatMap ownPaths).foldl addPath []

end Item

end DynamicForms
