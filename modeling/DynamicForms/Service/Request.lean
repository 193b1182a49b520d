import DynamicForms.Schema.Decode

/-!
# `DynamicForms.Service.Request` — what the service is asked

The body of a request is a document. One that does not have the form its route wants is rejected with
the places that do not fit: the body as a whole, or single entries of it.

## Contents
- `Request`, `Place`.
- `textRequest`: the text of a schema.
- `SubmitRequest`, `submitRequest`: a schema, as a text or as a document, and the data of a form.
- `parameters`: the parameters of a lookup.
-/

namespace DynamicForms.Service

/-- A request. -/
structure Request where
  /-- Its method. -/
  method : String
  /-- Its path. -/
  path : String
  /-- The document in its body, if there is one. -/
  body : Option Value
  deriving Repr, Inhabited

/-- A place of a request, from outside in. -/
abbrev Place := List String

/-- What a request holds, or the places that do not fit. -/
abbrev Accepted := Except (List Place)

/-- The body as a whole. -/
def bodyPlace : Place := ["body"]

/-- The entries of the body. -/
def entries (r : Request) : Accepted Value.Object :=
  match r.body with
  | some (.object fields) => .ok fields
  | _ => .error [bodyPlace]

/-- The text of a schema. -/
def textRequest (r : Request) : Accepted String := do
  let fields ← entries r
  match Entries.get? fields "text" with
  | some (.text s) => return s
  | _ => throw [bodyPlace ++ ["text"]]

/-- A form to be checked. -/
structure SubmitRequest where
  /-- The schema: a text, or a document. -/
  schema : Value
  /-- The data. -/
  data : Value.Object
  deriving Repr, Inhabited

/-- The names under which the schema may be given; the first counts if both are there. -/
def schemaNames : List String := ["schema", "form_schema"]

/-- The schema of a form to be checked. -/
def submittedSchema (fields : Value.Object) : Accepted Value :=
  match Decode.named? fields schemaNames with
  | some (_, .text s) => .ok (.text s)
  | some (_, .object schema) => .ok (.object schema)
  | some (name, _) => .error [bodyPlace ++ [name, "str"], bodyPlace ++ [name, "dict[str,any]"]]
  | none => .error [bodyPlace ++ ["schema"]]

/-- The data of a form to be checked; none is no data. -/
def submittedData (fields : Value.Object) : Accepted Value.Object :=
  match Entries.get? fields "data" with
  | some (.object data) => .ok data
  | some _ => .error [bodyPlace ++ ["data"]]
  | none => .ok []

/-- A form to be checked. -/
def submitRequest (r : Request) : Accepted SubmitRequest := do
  let fields ← entries r
  match submittedSchema fields, submittedData fields with
  | .ok schema, .ok data => return ⟨schema, data⟩
  | .error places, .ok _ => throw places
  | .ok _, .error places => throw places
  | .error places, .error more => throw (places ++ more)

/-- The parameters of a lookup. -/
def parameters (r : Request) : Accepted Value.Object := entries r

end DynamicForms.Service
