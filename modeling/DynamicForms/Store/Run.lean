import DynamicForms.Store.Basic

/-!
# `DynamicForms.Store.Run` — subscribers that write back

Subscribers are told of a write one after the other, while it is being made, and may themselves write;
those writes are made, and told of, at once. So a write is a program on the whole running form: the
store together with the state of everything that reacts to it. A program that fails keeps what it has
done so far.

How the owners of subscriptions react is a parameter. A reaction is handed the way to write, which
may be nested so many times and no more: reactions that go on for ever end in a fault.

## Contents
- `World`, `Run`: the running form and programs on it.
- `Part`: one component of the state beside the store.
- `React`, `tell`, `perform`: a write with everything that follows from it.
-/

namespace DynamicForms

/-- A running form: its store and the state of all that reacts to it. -/
structure World (κ σ : Type) where
  /-- The store. -/
  store : Store κ
  /-- The state of all that reacts. -/
  parts : σ

/-- A program on a running form. One that fails keeps what it has done. -/
abbrev Run (κ σ : Type) := EStateM Fault (World κ σ)

/-- One component of a state. -/
structure Part (σ α : Type) where
  /-- Read the component. -/
  get : σ → α
  /-- Replace the component. -/
  set : α → σ → σ
  /-- What is put in is what is read. -/
  get_set : ∀ a s, get (set a s) = a
  /-- Putting in what is there changes nothing. -/
  set_get : ∀ s, set (get s) s = s

namespace Part

/-- A state that is one component. -/
def whole {σ : Type} : Part σ σ := ⟨id, fun a _ => a, fun _ _ => rfl, fun _ => rfl⟩

variable {κ σ α : Type}

/-- The component. -/
def read (part : Part σ α) : Run κ σ α :=
  modifyGet fun w => (part.get w.parts, w)

/-- Change the component. -/
def update (part : Part σ α) (f : α → α) : Run κ σ Unit :=
  modify fun w => { w with parts := part.set (f (part.get w.parts)) w.parts }

end Part

variable {κ σ : Type}

/-- The store. -/
def readStore : Run κ σ (Store κ) := do
  return (← get).store

/-- Change the store itself, not its data. -/
def updateStore (f : Store κ → Store κ) : Run κ σ Unit :=
  modify fun w => { w with store := f w.store }

/-- The value at a path. -/
def readPath (path : String) : Run κ σ Value := do
  return (← readStore).get path

/-- The data. -/
def readData : Run κ σ Value.Object := do
  return (← readStore).data

/-- Be told when the value at one of some paths changes. -/
def subscribe (paths : List String) (owner : κ) : Run κ σ Nat :=
  modifyGet fun w =>
    let (ticket, store) := w.store.subscribe paths owner
    (ticket, { w with store })

/-- Be told of every write. -/
def listen (owner : κ) : Run κ σ Nat :=
  modifyGet fun w =>
    let (ticket, store) := w.store.listen owner
    (ticket, { w with store })

/-- Give a subscription up. -/
def unsubscribe (ticket : Nat) : Run κ σ Unit :=
  updateStore (·.unsubscribe ticket)

/-- A way to write: whether anything changed. -/
abbrev Writer (κ σ : Type) := Write → Run κ σ Bool

/-- How owners of subscriptions react to news, with a way to write. -/
abbrev React (κ σ : Type) := Writer κ σ → κ → List String → Run κ σ Unit

/-- Tell one subscription of a write, if it is still active and there are news for it. -/
def tell (react : κ → List String → Run κ σ Unit) (w : Write) (c : Captured κ) : Run κ σ Unit := do
  let s ← readStore
  if s.isActive c.subscription.ticket then
    match c.news? s.data w with
    | some news => react c.subscription.owner news
    | none => return

/-- Make a write and tell the subscriptions it concerns, with at most `depth` nested writes. -/
def perform (react : React κ σ) : (depth : Nat) → Writer κ σ
  | 0, _ => throw .tooDeep
  | depth + 1, w => do
    let s ← readStore
    match w.change? s.data with
    | .error fault => throw fault
    | .ok none => return false
    | .ok (some after) =>
      updateStore fun s => { s with data := after }
      (s.captureFor w).forM (tell (react (perform react depth)) w)
      return true

/-- How often writes may be nested if nothing is watched. -/
def nestingLimit : Nat := 190

/-- How often writes may be nested. Each value that is watched leaves room for another one, so that a
change can be passed on from value to value through the whole form. -/
def Store.nesting (s : Store κ) : Nat :=
  nestingLimit + s.watchings.length

/-- Make an outermost write. -/
def write (react : React κ σ) : Writer κ σ := fun w => do
  perform react (← readStore).nesting w

end DynamicForms
