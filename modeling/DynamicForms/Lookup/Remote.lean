import DynamicForms.Lookup.Response

/-!
# `DynamicForms.Lookup.Remote` — lookups answered by a remote service

A remote service gets the parameters of a lookup as a document posted to a URL. The URL is the
endpoint itself if it is a whole one or there is no base, and otherwise the base and the endpoint with
one slash between them. Its reply is read as follows: a status from 400 on is a failure; a body must be
an object; an object whose success is a boolean is a response in an envelope, any other object is the
data itself.

## Contents
- `Remote`, `Remote.url`.
- `Call`, `Reply`.
- `ReplyError`, `ReplyError.message`.
- `Reply.read`: the response that a reply stands for.
-/

namespace DynamicForms

/-- A remote service. -/
structure Remote where
  /-- What endpoints are relative to; may be empty. -/
  baseUrl : String
  /-- How many seconds to wait for a reply. -/
  timeout : Value
  deriving Repr, Inhabited

namespace Remote

/-- A text without the slashes at its start. -/
def dropSlashes (s : String) : String :=
  String.ofList (s.toList.dropWhile (· == '/'))

/-- A text without the slashes at its end. -/
def dropFinalSlashes (s : String) : String :=
  String.ofList (s.toList.reverse.dropWhile (· == '/')).reverse

/-- Whether an endpoint is a whole URL. -/
def isWhole (endpoint : String) : Bool :=
  "http://".toList.isPrefixOf endpoint.toList || "https://".toList.isPrefixOf endpoint.toList

/-- The URL of an endpoint. -/
def url (r : Remote) (endpoint : String) : String :=
  let base := dropFinalSlashes r.baseUrl
  if isWhole endpoint || base.isEmpty then endpoint
  else base ++ "/" ++ dropSlashes endpoint

end Remote

/-- A request as it went out. -/
structure Call where
  /-- Where it went. -/
  target : String
  /-- The parameters. -/
  params : Value.Object
  /-- How many seconds to wait for a reply, if that was said. -/
  timeout : Option Value
  deriving Repr, Inhabited

/-- What comes back from a remote service. -/
inductive Reply where
  /-- Nothing: the connection failed. -/
  | lost (text : String)
  /-- A status, and the document in the body if there is one. -/
  | answered (status : Int) (body : Option Value)
  deriving Repr, Inhabited

/-- Why a reply stands for no response. -/
inductive ReplyError where
  /-- The connection failed. -/
  | lost (text : String)
  /-- The body is no document. -/
  | noDocument (url : String)
  /-- The body is no object. -/
  | noObject (url : String)
  /-- The body is an envelope that cannot be read. -/
  | badEnvelope (misfit : Decode.Misfit)
  deriving Repr, Inhabited

/-- What is said about it. -/
def ReplyError.message : ReplyError → String
  | .lost text => text
  | .noDocument url => "Invalid JSON from " ++ url
  | .noObject url => "Unexpected response shape from " ++ url
  | .badEnvelope misfit => Decode.wayText misfit.way ++ ": " ++ misfit.fault.message

/-- The response in the object that a body holds: in an envelope if its success is a boolean. -/
def Response.ofBody (fields : Value.Object) : Except ReplyError Response :=
  match Entries.get? fields "success" with
  | some (.bool _) => (Response.decode fields).mapError .badEnvelope
  | _ => .ok (.found fields)

/-- The first status that tells of a failure. -/
def Reply.firstBadStatus : Int := 400

/-- The response that a reply stands for. -/
def Reply.read (url : String) : Reply → Except ReplyError Response
  | .lost text => .error (.lost text)
  | .answered status body =>
    if firstBadStatus ≤ status then .ok (.failed ("API error: " ++ toString status))
    else
      match body with
      | none => .error (.noDocument url)
      | some (.object fields) => Response.ofBody fields
      | some _ => .error (.noObject url)

end DynamicForms
