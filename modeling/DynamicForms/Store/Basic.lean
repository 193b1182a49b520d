import DynamicForms.Path.Access
import DynamicForms.Value.Equality

/-!
# `DynamicForms.Store.Basic` — form data with subscriptions

A store holds the data of one form and the subscriptions to it. A subscription names paths and is
told when the value at one of them changes, or it names none and is told of every write. It is known
by the ticket it was given; a ticket is never given twice, and a subscription is active as long as the
store has it.

A write changes the data or leaves it as it was: setting a value that is there already, and deleting
what is not there, change nothing. Before a write the store captures what the subscriptions that watch
the written path see, so that it can tell afterwards what has changed for each of them.

## Contents
- `Subscription`, `Store`, with `subscribe`, `listen`, `unsubscribe`, `watchings`, `isActive`.
- `Fault`: what can go wrong.
- `Write`, `Write.change?`: what a write makes of the data.
- `Captured`, `Store.captureFor`, `Captured.changed`.
-/

namespace DynamicForms

/-- What can go wrong while a form is running. -/
inductive Fault where
  /-- A value is to be set at a path without segments. -/
  | emptyPath
  /-- No subscription has this name. -/
  | unknownSubscriber (name : String)
  /-- A value that no document can express is to be written to one. -/
  | notWritable
  /-- A response does not fit its type. -/
  | badResponse
  /-- Subscribers react to each other too often. -/
  | tooDeep
  deriving DecidableEq, Repr, Inhabited

/-- A subscription to a store. -/
structure Subscription (κ : Type) where
  /-- The ticket it was given. -/
  ticket : Nat
  /-- The paths it watches; none if it is told of every write. -/
  paths : Option (List String)
  /-- Who is told. -/
  owner : κ
  deriving Repr

/-- Form data with subscriptions. -/
structure Store (κ : Type) where
  /-- The data. -/
  data : Value.Object
  /-- The subscriptions, in the order they were made. -/
  subscriptions : List (Subscription κ)
  /-- The ticket of the next subscription. -/
  nextTicket : Nat
  deriving Repr

namespace Store

variable {κ : Type}

/-- A store without subscriptions. -/
def ofData (data : Value.Object) : Store κ := ⟨data, [], 0⟩

/-- The value at a path. -/
def get (s : Store κ) (path : String) : Value :=
  Path.read (.object s.data) path

/-- Add a subscription. -/
def add (s : Store κ) (paths : Option (List String)) (owner : κ) : Nat × Store κ :=
  (s.nextTicket,
    { s with
      subscriptions := s.subscriptions ++ [⟨s.nextTicket, paths, owner⟩]
      nextTicket := s.nextTicket + 1 })

/-- Be told when the value at one of some paths changes. -/
def subscribe (s : Store κ) (paths : List String) (owner : κ) : Nat × Store κ :=
  s.add (some paths.eraseDups) owner

/-- Be told of every write. -/
def listen (s : Store κ) (owner : κ) : Nat × Store κ :=
  s.add none owner

/-- Give a subscription up. -/
def unsubscribe (s : Store κ) (ticket : Nat) : Store κ :=
  { s with subscriptions := s.subscriptions.filter (·.ticket != ticket) }

/-- The watched paths with those who watch them. -/
def watchings (s : Store κ) : List (κ × String) :=
  s.subscriptions.flatMap fun sub => (sub.paths.getD []).map fun path => (sub.owner, path)

/-- Whether the store still has a subscription. -/
def isActive (s : Store κ) (ticket : Nat) : Bool :=
  s.subscriptions.any (·.ticket == ticket)

end Store

/-! ## Writes -/

/-- A write to a store. -/
inductive Write where
  /-- Set the value at a path. -/
  | set (path : String) (v : Value)
  /-- Delete the value at a path. -/
  | unregister (path : String)
  /-- Replace all data. -/
  | reset (data : Value.Object)
  deriving Repr, Inhabited

namespace Write

/-- The path that is written; none if all data is replaced. -/
def path? : Write → Option String
  | .set path _ => some path
  | .unregister path => some path
  | .reset _ => none

/-- The data after a write; none if nothing changes. -/
def change? (data : Value.Object) : Write → Except Fault (Option Value.Object)
  | .set path v =>
    if (Path.read (.object data) path).sameValue v then .ok none
    else
      match Path.write? data path v with
      | some after => .ok (some after)
      | none => .error .emptyPath
  | .unregister path =>
    if (Path.read (.object data) path).isAbsent then .ok none
    else .ok (some (Path.delete data path))
  | .reset after => .ok (some after)

end Write

/-- Whether a subscription watches a path. -/
def Subscription.watches {κ : Type} (s : Subscription κ) (path : String) : Bool :=
  match s.paths with
  | none => true
  | some paths => paths.any fun watched => Path.overlaps watched path

/-! ## What subscriptions see -/

/-- A subscription with the values it saw before a write; none if it is told of every write. -/
structure Captured (κ : Type) where
  /-- The subscription. -/
  subscription : Subscription κ
  /-- The values at its paths. -/
  before : Option (List (String × Value))
  deriving Repr

/-- What a subscription sees. -/
def Subscription.capture {κ : Type} (data : Value.Object) (s : Subscription κ) : Captured κ :=
  ⟨s, s.paths.map fun paths => paths.map fun path => (path, Path.read (.object data) path)⟩

/-- What the subscriptions see that a write concerns. -/
def Store.captureFor {κ : Type} (s : Store κ) (w : Write) : List (Captured κ) :=
  let concerned : List (Subscription κ) := match w.path? with
    | some path => s.subscriptions.filter fun sub => sub.watches path
    | none => s.subscriptions
  concerned.map fun sub => sub.capture s.data

/-- The paths at which the values have changed. -/
def changedPaths (data : Value.Object) (before : List (String × Value)) : List String :=
  (before.filter fun entry => !entry.2.sameValue (Path.read (.object data) entry.1)).map (·.1)

/-- What a subscription is to be told after a write, given the data at that moment; none if it is
not to be told anything. One that is told of every write gets the written path. -/
def Captured.news? {κ : Type} (c : Captured κ) (data : Value.Object) (w : Write) :
    Option (List String) :=
  match c.before with
  | none => some w.path?.toList
  | some before =>
    match changedPaths data before with
    | [] => none
    | changed => some changed

end DynamicForms
