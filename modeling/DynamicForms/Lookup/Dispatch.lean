import DynamicForms.Lookup.Engine
import DynamicForms.Timer.Agenda

/-!
# `DynamicForms.Lookup.Dispatch` — requests on their way

Requests that were asked for go out in order over a channel, which says when their answers arrive. An
answer that arrives for a request no longer in flight is lost.

## Contents
- `Arrival`, `Dispatch`.
- `Dispatch.send`, `Dispatch.arrivalsOf`.
- `Dispatch.setUp`, `Dispatch.upcoming`: the part of an agenda that concerns requests.
- `Dispatch.answer`: an answer given by hand.
-/

namespace DynamicForms

/-- An answer on its way. -/
structure Arrival where
  /-- When it arrives. -/
  time : Nat
  /-- The request it answers. -/
  id : Nat
  /-- The answer. -/
  result : LookupResult
  deriving Repr, Inhabited

/-- When the answer arrives, later requests after earlier ones. -/
def Arrival.timer (a : Arrival) : Timer := ⟨a.time, a.id⟩

/-- Requests and answers on their way. -/
structure Dispatch where
  /-- How requests are answered. -/
  channel : Channel
  /-- The wire they go over. -/
  wire : Wire
  /-- The number of the first request that has not gone out. -/
  next : Nat
  /-- The answers on their way. -/
  arrivals : List Arrival
  deriving Repr, Inhabited

namespace Dispatch

/-- Nothing is on its way. -/
def ofChannel (channel : Channel) (wire : Wire) : Dispatch := ⟨channel, wire, 0, []⟩

/-- A request goes out at a moment. -/
def send (d : Dispatch) (now : Nat) (errand : Errand) : Dispatch :=
  let (delivery, wire) := d.channel.request d.wire errand.endpoint errand.params
  let arrivals := match delivery with
    | .after delay answer => d.arrivals ++ [⟨now + delay, errand.id, .ofAnswer answer⟩]
    | .byHand => d.arrivals
  { d with wire, arrivals, next := errand.id + 1 }

/-- The first request that has not gone out. -/
def unsent? (d : Dispatch) (e : Engine) : Option Errand :=
  e.inFlight.find? fun errand => d.next ≤ errand.id

/-- The answers on their way to requests in flight. -/
def arrivalsOf (d : Dispatch) (e : Engine) : List Arrival :=
  d.arrivals.filter fun arrival => e.isInFlight arrival.id

variable {κ σ : Type} (part : Part σ Dispatch) (engine : Part σ Engine)

/-- Send one request that has not gone out; whether there was one. -/
def setUp (now : Part σ Nat) : Run κ σ Bool := do
  let d ← part.read
  match d.unsent? (← engine.read) with
  | some errand =>
    let moment ← now.read
    part.update fun d => d.send moment errand
    return true
  | none => return false

/-- The answers that fall due. -/
def upcoming (complete : Nat → LookupResult → Run κ σ Unit) (parts : σ) :
    List (Timer × Run κ σ Unit) :=
  ((part.get parts).arrivalsOf (engine.get parts)).map fun arrival =>
    (arrival.timer, complete arrival.id arrival.result)

/-- Answer a request by hand; whether it was in flight. A failure while the answer is taken concerns
nobody else. -/
def answer (complete : Nat → LookupResult → Run κ σ Unit) (id : Nat) (result : LookupResult) :
    Run κ σ Bool := do
  if (← engine.read).isInFlight id then
    Agenda.attempt (complete id result)
    return true
  else return false

end Dispatch

end DynamicForms
