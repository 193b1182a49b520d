import DynamicForms.Entries
import DynamicForms.Number.Double

/-!
# `DynamicForms.Value` — what a form can hold

Form data, request parameters and decoded documents are dynamic values: null, booleans, whole
numbers of any size, doubles, texts, lists and objects. Two further values never stand in a
document: *absent*, the mark that nothing is stored at a path, and a *foreign* value, which no
document can express.

## Contents
- `Value`, `Value.Object`.
- `isAbsent`, `isObject`, `object?`, `text?`: what kind of value it is.
-/

namespace DynamicForms

/-- A dynamic value. -/
inductive Value where
  /-- The null value. -/
  | null
  /-- A boolean. -/
  | bool (b : Bool)
  /-- A whole number. -/
  | int (n : Int)
  /-- A number in binary floating point. -/
  | double (d : Double)
  /-- A text. -/
  | text (s : String)
  /-- A list of values. -/
  | list (items : List Value)
  /-- An object: values under distinct names, in order. -/
  | object (fields : List (String × Value))
  /-- Nothing is stored here. -/
  | absent
  /-- A value that no document can express. -/
  | foreign
  deriving Repr, Inhabited

namespace Value

/-- The entries of an object. -/
abbrev Object := Entries Value

/-- Whether nothing is stored. -/
def isAbsent : Value → Bool
  | .absent => true
  | _ => false

/-- Whether the value is null. -/
def isNull : Value → Bool
  | .null => true
  | _ => false

/-- Whether the value is an object. -/
def isObject : Value → Bool
  | .object _ => true
  | _ => false

/-- Whether the value is a text. -/
def isText : Value → Bool
  | .text _ => true
  | _ => false

/-- Whether the value is a boolean. -/
def isBool : Value → Bool
  | .bool _ => true
  | _ => false

/-- The entries, if the value is an object. -/
def object? : Value → Option Object
  | .object fields => some fields
  | _ => none

/-- The characters, if the value is a text. -/
def text? : Value → Option String
  | .text s => some s
  | _ => none

/-- The elements, if the value is a list. -/
def list? : Value → Option (List Value)
  | .list items => some items
  | _ => none

/-- A list of texts. -/
def texts (items : List String) : Value :=
  .list (items.map .text)

/-- The value under a name of an object; absent if the name is not there. -/
def field (fields : Object) (name : String) : Value :=
  (fields.get? name).getD .absent

@[simp] theorem isAbsent_absent : isAbsent .absent = true := rfl

theorem isAbsent_iff (v : Value) : v.isAbsent = true ↔ v = .absent := by
  cases v <;> simp [isAbsent]

theorem isNull_iff (v : Value) : v.isNull = true ↔ v = .null := by
  cases v <;> simp [isNull]

theorem isObject_iff (v : Value) : v.isObject = true ↔ ∃ fields, v = .object fields := by
  cases v <;> simp [isObject]

end Value

end DynamicForms
