import DynamicForms.Lookup.Basic
import DynamicForms.Lookup.Request
import DynamicForms.Json.Reader
import DynamicForms.Store.Basic
import DynamicForms.Lookup.Channel

/-!
# `DynamicForms.Lookup.Worker` — where one lookup stands

A worker looks after one lookup. It waits until every dependency is filled in, asks for the answer to
their present values, and takes that answer and no other: the request it asked for last is its current
one, and it is given up as soon as it no longer fits the form.

## Contents
- **What is asked.** `Lookup.values`, `Lookup.isReady`, `Lookup.params`, `Lookup.requestKey?`,
  `keyParams`.
- **What comes back.** `LookupResult`, `LookupResult.verdict`.
- **Where it stands.** `Phase`, `CurrentRequest`, `Worker`, `Status`, `Worker.status`.
-/

namespace DynamicForms

/-! ## What is asked -/

namespace Lookup

/-- The values that a lookup depends on. -/
def values (l : Lookup) (data : Value.Object) : List Value :=
  l.dependsOn.map fun r => Path.read (.object data) r.path

/-- Whether a lookup depends on anything and all of it is filled in. -/
def isReady (l : Lookup) (data : Value.Object) : Bool :=
  !(l.values data).isEmpty && (l.values data).all Value.isFilledIn

/-- Whether a lookup depends on nothing, or on something that is not there. -/
def isUnregistered (l : Lookup) (data : Value.Object) : Bool :=
  (l.values data).isEmpty || (l.values data).any Value.isAbsent

/-- The values that a lookup depends on, by the names it calls them. -/
def params (l : Lookup) (data : Value.Object) : Value.Object :=
  Entries.ofPairs (l.dependsOn.map fun r => (r.key, Path.read (.object data) r.path))

/-- The paths that a lookup depends on. -/
def dependencyPaths (l : Lookup) : List String :=
  l.dependsOn.map (·.path)

/-- The key of the request that a lookup is ready for. It is none if the lookup is not ready; the
fault is a value that cannot be written. -/
def requestKey? (l : Lookup) (data : Value.Object) : Except Fault (Option String) :=
  if l.isReady data then
    match DynamicForms.requestKey? (l.params data) with
    | some key => .ok (some key)
    | none => .error .notWritable
  else .ok none

end Lookup

/-- The parameters that the key of a request is the document of. -/
def keyParams (key : String) : Value.Object :=
  match Json.read key with
  | .ok (.object fields) => fields
  | _ => []

/-! ## What comes back -/

/-- What comes of a request. -/
inductive LookupResult where
  /-- A response, or nothing if nobody knew the endpoint. -/
  | answered (response : Option Response)
  /-- A value that has still to be read as a response. -/
  | document (v : Value)
  /-- A failure of some kind, with a text that may be empty. -/
  | failed (kind text : String)
  deriving Repr, Inhabited

namespace LookupResult

/-- What is said when there is nothing else to say. -/
def usualMessage : String := "Auto-fill request failed"

/-- The response in a value. -/
def ofDocument : Value → Option Response
  | .null => none
  | .object fields =>
    match Response.decode fields with
    | .ok response => some response
    | .error _ => some (.failed usualMessage)
  | _ => some (.failed usualMessage)

/-- The response that a result stands for. -/
def response? : LookupResult → Option Response
  | .answered response => response
  | .document v => ofDocument v
  | .failed kind text => some (.failed (if text.isEmpty then kind else text))

/-- What is said about a response that brings no data. -/
def complaint : Option Response → String
  | some response =>
    match response.error with
    | some text => if text.isEmpty then usualMessage else text
    | none => usualMessage
  | none => usualMessage

/-- The data that a result brings, or what is said if it brings none. -/
def verdict (o : LookupResult) : Except String Value.Object :=
  match o.response? with
  | some ⟨true, some data, _⟩ => .ok data
  | response => .error (complaint response)

/-- The result that the answer of a channel is. -/
def ofAnswer : ChannelAnswer → LookupResult
  | .ok response => .answered response
  | .error e => .failed "AutoFillError" e.message

end LookupResult

/-! ## Where it stands -/

/-- Where a lookup stands. -/
inductive Phase where
  /-- It depends on nothing, or has not started. -/
  | idle
  /-- Not everything it depends on is filled in. -/
  | waiting
  /-- It was asked for. -/
  | loading
  /-- It was answered with data. -/
  | success
  /-- It was answered without data. -/
  | error
  deriving DecidableEq, Repr, Inhabited

/-- The name of a phase. -/
def Phase.name : Phase → String
  | .idle => "idle"
  | .waiting => "waiting-for-dependencies"
  | .loading => "loading"
  | .success => "success"
  | .error => "error"

/-- The request that a worker asked for last, as long as it still fits the form. -/
structure CurrentRequest where
  /-- Its number. -/
  id : Nat
  /-- Its key. -/
  key : String
  /-- Whether it was answered. -/
  answered : Bool
  deriving DecidableEq, Repr, Inhabited

/-- A worker. -/
structure Worker where
  /-- The lookup. -/
  lookup : Lookup
  /-- The ticket of its subscription, while it has one. -/
  ticket : Option Nat
  /-- Whether the lookup was ready when the worker last looked. -/
  wasReady : Bool
  /-- The current request. -/
  current : Option CurrentRequest
  /-- Where the lookup stands. -/
  phase : Phase
  /-- What was said about the last answer, if it brought no data. -/
  error : Option String
  /-- The key of the last request whose answer was taken. -/
  lastKey : Option String
  deriving Repr, Inhabited

/-- What a form shows of a lookup. -/
structure Status where
  /-- Whether an answer is awaited. -/
  loading : Bool
  /-- What went wrong. -/
  error : Option String
  /-- Where the lookup stands. -/
  phase : Phase
  deriving DecidableEq, Repr, Inhabited

namespace Worker

/-- A worker that has not started. -/
def ofLookup (lookup : Lookup) : Worker where
  lookup
  ticket := none
  wasReady := false
  current := none
  phase := .idle
  error := none
  lastKey := none

/-- Whether an answer is awaited. -/
def isLoading (w : Worker) : Bool :=
  match w.current with
  | some request => !request.answered
  | none => false

/-- Whether a request is the current one. -/
def isCurrent (w : Worker) (id : Nat) : Bool :=
  match w.current with
  | some request => request.id == id
  | none => false

/-- Whether the current request has a key. -/
def hasAskedFor (w : Worker) (key : String) : Bool :=
  match w.current with
  | some request => request.key == key
  | none => false

/-- The worker after one of its requests was answered. -/
def noteAnswered (w : Worker) (id : Nat) : Worker :=
  { w with current := w.current.map fun request =>
      if request.id = id then { request with answered := true } else request }

/-- What a form shows of the lookup: an error only while its dependencies are filled in and no answer
is awaited. -/
def status (w : Worker) (data : Value.Object) : Status where
  loading := w.isLoading
  error := if w.lookup.isReady data && !w.isLoading then w.error else none
  phase := w.phase

end Worker

end DynamicForms
