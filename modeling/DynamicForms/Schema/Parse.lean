import DynamicForms.Json.Reader
import DynamicForms.Json.Writer
import DynamicForms.Schema.Shape

/-!
# `DynamicForms.Schema.Parse` — from texts to schemas

A schema is read from the text of a document: the text must be a document, the document must have
the shape of a schema, and every part must fit its type.

## Contents
- `Schema.ofValue`, `Schema.parse`.
- `isDocument`: whether a text is a document at all.
-/

namespace DynamicForms

/-- The error of a part that does not fit. -/
def SchemaError.ofMisfit (misfit : Decode.Misfit) : SchemaError :=
  .flawed (Decode.wayText misfit.way) (.misfit misfit.fault)

/-- The schema that a decoded document describes. -/
def Schema.ofValue (v : Value) : Except SchemaError Schema := do
  let fields ← Shape.document v
  (Decode.schema fields).mapError SchemaError.ofMisfit

/-- The schema that a text describes. -/
def Schema.parse (s : String) : Except SchemaError Schema := do
  let v ← (Json.read s).mapError SchemaError.ofJson
  Schema.ofValue v

/-- Whether a text is a document. The one error is a whole number of too many digits: such a text
is neither. -/
def isDocument (s : String) : Except Nat Bool :=
  match Json.read s with
  | .ok _ => .ok true
  | .error (.flawed _ _) => .ok false
  | .error (.tooManyDigits count) => .error count

end DynamicForms
