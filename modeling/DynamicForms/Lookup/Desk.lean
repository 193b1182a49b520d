import DynamicForms.Lookup.Dispatch

/-!
# `DynamicForms.Lookup.Desk` — lookups over a form by themselves

A desk runs the lookups of a form without anything else. What is visible is decided by a set of hidden
paths; if there is none, everything is visible for good.

## Contents
- `Desk`, `Desk.world`.
- `Desk.react`, `Desk.agenda`, and what can be done at a desk.
-/

namespace DynamicForms

/-- Lookups with their requests, a set of hidden paths, and the moment. -/
structure Desk where
  /-- The lookups. -/
  engine : Engine
  /-- The requests on their way. -/
  dispatch : Dispatch
  /-- The hidden paths, if anything can be hidden. -/
  hidden : Option (List String)
  /-- The moment. -/
  now : Nat
  deriving Repr, Inhabited

namespace Desk

/-- A run of a desk; a subscription is owned by the key of its worker. -/
abbrev Shift := Run String Desk

/-- The lookups of a desk. -/
def enginePart : Part Desk Engine :=
  ⟨Desk.engine, fun engine d => { d with engine }, fun _ _ => rfl, fun _ => rfl⟩

/-- The requests on their way. -/
def dispatchPart : Part Desk Dispatch :=
  ⟨Desk.dispatch, fun dispatch d => { d with dispatch }, fun _ _ => rfl, fun _ => rfl⟩

/-- The hidden paths. -/
def hiddenPart : Part Desk (Option (List String)) :=
  ⟨Desk.hidden, fun hidden d => { d with hidden }, fun _ _ => rfl, fun _ => rfl⟩

/-- The moment. -/
def nowPart : Part Desk Nat :=
  ⟨Desk.now, fun now d => { d with now }, fun _ _ => rfl, fun _ => rfl⟩

/-- A desk over the data of a form before anything was started. -/
def world (lookups : List Lookup) (channel : Channel) (wire : Wire) (hidden : Option (List String))
    (data : Value.Object) : World String Desk :=
  ⟨Store.ofData data, ⟨.ofLookups lookups, .ofChannel channel wire, hidden, 0⟩⟩

/-- Whether a path is not hidden. -/
def isShown (d : Desk) (path : String) : Bool :=
  !(d.hidden.any fun paths => paths.contains path)

/-- A worker that is told of a change looks at the form. -/
def react : React String Desk :=
  fun write key _ => Engine.evaluate enginePart write isShown key

/-- Write to the form. -/
def put (w : Write) : Shift Bool := write react w

/-- A request is answered. -/
def complete (id : Nat) (result : LookupResult) : Shift Unit :=
  Engine.complete enginePart put isShown id result

/-- What happens by itself at a desk. -/
def agenda : Agenda String Desk where
  now := nowPart
  setUp := Dispatch.setUp dispatchPart enginePart nowPart
  upcoming := Dispatch.upcoming dispatchPart enginePart complete
  isBusy := fun d => d.engine.isBusy

/-- Start all workers. -/
def start : Shift Unit := Engine.start enginePart put isShown id

/-- Close all workers. -/
def close : Shift Unit := Engine.close enginePart

/-- Have a worker look at the form. -/
def evaluate (key : String) : Shift Unit := Engine.evaluate enginePart put isShown key

/-- Forget what was said about the last answer of a worker. -/
def dismiss (key : String) : Shift Unit := Engine.dismiss enginePart key

/-- Answer a request by hand; whether it was in flight. -/
def answer (id : Nat) (result : LookupResult) : Shift Bool :=
  Dispatch.answer enginePart complete id result

/-- Hide a path. -/
def hide (path : String) : Shift Unit :=
  hiddenPart.update fun hidden => hidden.map fun paths => path :: paths

/-- Show a path. -/
def reveal (path : String) : Shift Unit :=
  hiddenPart.update fun hidden => hidden.map fun paths => paths.filter (· != path)

end Desk

end DynamicForms
