import DynamicForms.Number.Text
import DynamicForms.Text.Quoted
import DynamicForms.Value.Basic

/-!
# `DynamicForms.Value.Display` — values in messages

A message shows a text as it is and any other value in display form: `None`, `True` and `False`,
numbers in digits, lists in brackets and objects in braces with their texts in quotes.

## Contents
- `Value.display`: the display form, in which texts are quoted.
- `Value.shown`: the same, with a text at the top as it is.
-/

namespace DynamicForms.Value

/-- Pieces with a comma and a blank between them. -/
def commaSeparated (pieces : List String) : String :=
  ", ".intercalate pieces

mutual

/-- The display form of a value. -/
def display : Value → String
  | .null => "None"
  | .bool true => "True"
  | .bool false => "False"
  | .int n => toString n
  | .double d => d.text
  | .text s => Text.quote s
  | .list items => "[" ++ commaSeparated (displayList items) ++ "]"
  | .object fields => "\x7b" ++ commaSeparated (displayFields fields) ++ "\x7d"
  | .absent => "MISSING"
  | .foreign => "<object>"

/-- The display forms of the elements of a list. -/
def displayList : List Value → List String
  | [] => []
  | item :: rest => display item :: displayList rest

/-- The display forms of the entries of an object. -/
def displayFields : List (String × Value) → List String
  | [] => []
  | (name, value) :: rest => (Text.quote name ++ ": " ++ display value) :: displayFields rest

end

/-- A value as it stands in the middle of a message. -/
def shown : Value → String
  | .text s => s
  | v => display v

end DynamicForms.Value
