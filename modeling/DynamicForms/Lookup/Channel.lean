import DynamicForms.Lookup.Remote
import DynamicForms.Lookup.Tables

/-!
# `DynamicForms.Lookup.Channel` — ways to get a lookup answered

The built-in lookups answer every endpoint below `/api/`, after a delay; other endpoints are not
theirs. A remote service answers any endpoint. A client asks the built-in lookups first and the remote
service for what is not theirs, and turns every failure into a response. A manual channel leaves every
request open, to be answered by hand.

Posts to the remote service are answered by replies that are laid out beforehand, in order.

## Contents
- `Builtin.respond`.
- `Channel`, `Wire`, `Delivery`.
- `Channel.request`: what becomes of a request.
-/

namespace DynamicForms

/-! ## The built-in lookups -/

namespace Builtin

/-- What the endpoints of the built-in lookups start with. -/
def root : String := "/api/"

/-- Whether an endpoint belongs to the built-in lookups. -/
def owns (endpoint : String) : Bool :=
  root.toList.isPrefixOf endpoint.toList

/-- How long the built-in lookups take if nothing else is said. -/
def usualDelay : Int := 250

/-- The answer of the built-in lookups; none if the endpoint is not theirs. -/
def respond (endpoint : String) (params : Value.Object) : Option Response :=
  if owns endpoint then
    match endpoint with
    | "/api/address" => some (Tables.lookupAddress params)
    | "/api/company" => some (Tables.lookupCompany params)
    | _ => some (.failed ("Mock endpoint \"" ++ endpoint ++ "\" is not implemented"))
  else none

end Builtin

/-! ## Channels -/

/-- A way to get a lookup answered. -/
inductive Channel where
  /-- The built-in lookups with their delay. -/
  | builtin (delay : Int)
  /-- A remote service. -/
  | remote (service : Remote)
  /-- The built-in lookups, and then the remote service, if there is one. -/
  | client (delay : Int) (service : Option Remote)
  /-- Requests stay open. -/
  | manual
  deriving Repr, Inhabited

/-- The replies that are laid out, and the calls that went out. -/
structure Wire where
  /-- The replies still to come. -/
  replies : List Reply
  /-- The calls, in order. -/
  calls : List Call
  deriving Repr, Inhabited

/-- An answer of a channel: a response, nothing if the endpoint is not the channel's, or an error. -/
abbrev ChannelAnswer := Except ReplyError (Option Response)

/-- What becomes of a request. -/
inductive Delivery where
  /-- It is answered after some milliseconds. -/
  | after (delay : Nat) (answer : ChannelAnswer)
  /-- It stays open until it is answered by hand. -/
  | byHand
  deriving Inhabited

namespace Wire

/-- A wire on which nothing has happened. -/
def ofReplies (replies : List Reply) : Wire := ⟨replies, []⟩

/-- Note a call. -/
def note (w : Wire) (call : Call) : Wire :=
  { w with calls := w.calls ++ [call] }

/-- The reply when none is laid out. -/
def noReply : Reply := .lost "no reply scripted"

/-- Post to a remote service. -/
def post (w : Wire) (service : Remote) (endpoint : String) (params : Value.Object) :
    Except ReplyError Response × Wire :=
  let url := service.url endpoint
  let noted := w.note ⟨url, params, some service.timeout⟩
  match w.replies with
  | [] => (noReply.read url, noted)
  | reply :: rest => (reply.read url, { noted with replies := rest })

end Wire

namespace Channel

/-- The response that a client makes of what a remote service gave. -/
def clientAnswer : Except ReplyError Response → Response
  | .ok response => response
  | .error e => .failed e.message

/-- What becomes of a request, and the wire after it. -/
def request (c : Channel) (w : Wire) (endpoint : String) (params : Value.Object) : Delivery × Wire :=
  match c with
  | .builtin delay =>
    match Builtin.respond endpoint params with
    | some response => (.after delay.toNat (.ok (some response)), w)
    | none => (.after 0 (.ok none), w)
  | .remote service =>
    let (answer, w) := w.post service endpoint params
    (.after 0 (answer.map some), w)
  | .client delay service =>
    match Builtin.respond endpoint params, service with
    | some response, _ => (.after delay.toNat (.ok (some response)), w)
    | none, some service =>
      let (answer, w) := w.post service endpoint params
      (.after 0 (.ok (some (clientAnswer answer))), w)
    | none, none => (.after 0 (.ok (some (.failed ("No transport handled " ++ endpoint)))), w)
  | .manual => (.byHand, w.note ⟨endpoint, params, none⟩)

end Channel

end DynamicForms
