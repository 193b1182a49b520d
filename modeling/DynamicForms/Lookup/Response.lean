import DynamicForms.Schema.Decode
import DynamicForms.Text.Case

/-!
# `DynamicForms.Lookup.Response` — the answer to a lookup

A response says whether the lookup succeeded and carries data or the text of an error. It is read
leniently from an object: success may also be given as a number or a word.

## Contents
- `Response`, with `Response.failed` and `Response.found`.
- `Response.decode`.
- `Response.toValue`.
-/

namespace DynamicForms

/-- The answer to a lookup. -/
structure Response where
  /-- Whether the lookup succeeded. -/
  success : Bool
  /-- What was found. -/
  data : Option Value.Object
  /-- What went wrong. -/
  error : Option String
  deriving Repr, Inhabited

namespace Response

/-- A failure with a text. -/
def failed (error : String) : Response := ⟨false, none, some error⟩

/-- A success with data. -/
def found (data : Value.Object) : Response := ⟨true, some data, none⟩

/-- The words for true. -/
def trueWords : List String := ["1", "on", "t", "true", "y", "yes"]

/-- The words for false. -/
def falseWords : List String := ["0", "off", "f", "false", "n", "no"]

/-- A boolean given as such, as a number or as a word of either case. -/
def flag (v : Value) : Decode.Decoded Bool :=
  match v with
  | .text s =>
    let word := String.ofList (s.toList.map Char.toLower)
    if trueWords.contains word then .ok true
    else if falseWords.contains word then .ok false
    else Decode.refuse .notBoolLike
  | _ => Decode.boolLike v

/-- The entries of an object of any kind. -/
def dataEntries : Value → Decode.Decoded Value.Object
  | .object fields => .ok fields
  | _ => Decode.refuse .notDictionary

/-- A response from its entries. -/
def decode (fields : Value.Object) : Decode.Decoded Response := do
  let success ← Decode.required fields ["success"] flag
  let data ← Decode.optional fields ["data"] dataEntries
  let error ← Decode.optional fields ["error"] Decode.text
  return ⟨success, data, error⟩

/-- A text or null. -/
def textOrNull : Option String → Value
  | some s => .text s
  | none => .null

/-- The entries of a response, null for what is not there. -/
def toObject (r : Response) : Value.Object :=
  [("success", .bool r.success), ("data", (r.data.map Value.object).getD .null),
    ("error", textOrNull r.error)]

/-- A response as a value. -/
def toValue (r : Response) : Value :=
  .object r.toObject

/-- The entries of a response that are not null. -/
def toPresentObject (r : Response) : Value.Object :=
  r.toObject.filter fun entry => !entry.2.isNull

end Response

end DynamicForms
