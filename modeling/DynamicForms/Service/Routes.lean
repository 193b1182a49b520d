import DynamicForms.Lookup.Basic
import DynamicForms.Schema.Parse
import DynamicForms.Service.Request
import DynamicForms.Session.Basic
import DynamicForms.Lookup.Tables

/-!
# `DynamicForms.Service.Routes` — forms over the network

The service reads schemas, checks submitted forms and answers the built-in lookups. A path has one
method; a slash at its end does not matter. A schema that cannot be read or built is a bad request, and
a form that is not filled in correctly cannot be processed.

## Contents
- `Answer`, `Failure`.
- **Routes.** `health`, `parseSchema`, `submit`, `address`, `company`.
- `respond`.
-/

namespace DynamicForms.Service

/-- The answer to a request. -/
inductive Answer where
  /-- A status and a document. -/
  | answered (status : Nat) (body : Value)
  /-- The request does not have the form that its route wants. -/
  | rejected (places : List Place)
  deriving Repr, Inhabited

/-- What the service does not handle. -/
inductive Failure where
  /-- A schema with a whole number of too many digits. -/
  | schema (e : SchemaError)
  /-- A rule that cannot be built for another reason than its form. -/
  | rule (e : BuildError)
  deriving Repr

/-- An answer that says only what is wrong. -/
def refusal (status : Nat) (detail : Value) : Answer :=
  .answered status (.object (entry "detail" detail))

/-- The answer to a schema that is refused. -/
def schemaRefusal (e : SchemaError) : Except Failure Answer :=
  match e with
  | .tooManyDigits count => .error (.schema (.tooManyDigits count))
  | e => .ok (refusal 400 (.object (entry "error" (.text e.code) ++ entry "message" (.text e.message))))

/-- Go on with what a request holds. -/
def accepting {α : Type} (held : Accepted α) (next : α → Except Failure Answer) :
    Except Failure Answer :=
  match held with
  | .ok a => next a
  | .error places => .ok (.rejected places)

/-- Go on with the schema that a text describes. -/
def reading (text : String) (next : Schema → Except Failure Answer) : Except Failure Answer :=
  match Schema.parse text with
  | .ok schema => next schema
  | .error e => schemaRefusal e

/-! ## Routes -/

/-- The service is there. -/
def health : Except Failure Answer :=
  .ok (.answered 200 (.object (entry "ok" (.bool true) ++ entry "service" (.text "form-service"))))

/-- Read a schema: the schema, the name of its form, and its lookups. -/
def parseSchema (r : Request) : Except Failure Answer :=
  accepting (textRequest r) fun text =>
    reading text fun schema =>
      .ok (.answered 200 (.object (entry "schema" schema.toValue
        ++ entry "formId" (.text schema.formId)
        ++ entry "autoFill" (.list ((Item.lookups schema.items).map Lookup.toValue)))))

/-- The text of a schema that may be given as a document. -/
def schemaText : Value → String
  | .text s => s
  | v => (Json.text? Json.Style.spaced v).getD ""

/-- The answer to a checked form. -/
def verdictAnswer : Verdict → Answer
  | .valid output => .answered 200 (.object (entry "valid" (.bool true) ++ entry "output" (.object output)))
  | .invalid errors => refusal 422 (.object (entry "errors"
      (.object (errors.map fun (path, message) => (path, .text message)))))

/-- Check a form. -/
def submit (r : Request) : Except Failure Answer :=
  accepting (submitRequest r) fun submitted =>
    reading (schemaText submitted.schema) fun schema =>
      match Form.ofSchema schema with
      | .ok form => .ok (verdictAnswer (form.judge submitted.data))
      | .error e =>
        match e.schemaError? with
        | some error => schemaRefusal error
        | none => .error (.rule e)

/-- Answer a lookup. -/
def lookup (table : Value.Object → Response) (r : Request) : Except Failure Answer :=
  accepting (parameters r) fun params => .ok (.answered 200 (.object (table params).toPresentObject))

/-- The methods and the work of the routes, by path. -/
def routes : Entries (String × (Request → Except Failure Answer)) := [
  ("/health", "GET", fun _ => health),
  ("/schema/parse", "POST", parseSchema),
  ("/submit", "POST", submit),
  ("/api/address", "POST", lookup Tables.lookupAddress),
  ("/api/company", "POST", lookup Tables.lookupCompany)]

/-- A path without the slashes at its end. -/
def trimmed (path : String) : String :=
  String.ofList (path.toList.reverse.dropWhile (· == '/')).reverse

/-- The answer to a request. -/
def respond (r : Request) : Except Failure Answer :=
  match routes.get? (trimmed r.path) with
  | some (method, work) =>
    if r.method = method then work r else .ok (refusal 405 (.text "Method Not Allowed"))
  | none => .ok (refusal 404 (.text "Not Found"))

end DynamicForms.Service
