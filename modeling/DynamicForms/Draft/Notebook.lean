import DynamicForms.Draft.Autosaver

/-!
# `DynamicForms.Draft.Notebook` — an autosaver over a form by itself

A notebook is a form whose data is saved as a draft, without anything else that reacts to it.

## Contents
- `Notebook`, `Notebook.world`.
- `Notebook.react`, `Notebook.agenda`, and what can be done with a notebook.
-/

namespace DynamicForms

/-- An autosaver and the moment. -/
structure Notebook where
  /-- The autosaver. -/
  autosaver : Autosaver
  /-- The moment. -/
  now : Nat
  deriving Repr, Inhabited

namespace Notebook

/-- A run of a notebook. -/
abbrev Page := Run Unit Notebook

/-- The autosaver. -/
def autosaverPart : Part Notebook Autosaver :=
  ⟨Notebook.autosaver, fun autosaver n => { n with autosaver }, fun _ _ => rfl, fun _ => rfl⟩

/-- The moment. -/
def nowPart : Part Notebook Nat :=
  ⟨Notebook.now, fun now n => { n with now }, fun _ _ => rfl, fun _ => rfl⟩

/-- A notebook over the data of a form before anything was started. -/
def world (autosaver : Autosaver) (data : Value.Object) : World Unit Notebook :=
  ⟨Store.ofData data, ⟨autosaver, 0⟩⟩

/-- The autosaver is told of a write. -/
def react : React Unit Notebook :=
  fun _ _ _ => do
    let data ← readData
    let now ← nowPart.read
    autosaverPart.update fun a => a.notice data now 0

/-- Write to the form. -/
def put (w : Write) : Page Bool := write react w

/-- The timer has run out. -/
def fire : Page Unit := do
  let data ← readData
  autosaverPart.update fun a => a.fire data

/-- What happens by itself. -/
def agenda : Agenda Unit Notebook where
  now := nowPart
  setUp := return false
  upcoming := fun n => n.autosaver.upcoming fire
  isBusy := fun _ => false

/-- Start the autosaver. -/
def start : Page Unit := do
  (← autosaverPart.read).start autosaverPart.update ()

/-- Close the autosaver. -/
def close : Page Unit := do
  (← autosaverPart.read).close autosaverPart.update

/-- Save now if it was going to be saved. -/
def flush : Page Unit := do
  let data ← readData
  autosaverPart.update fun a => a.flush data

/-- Change the autosaver itself. -/
def update (f : Autosaver → Autosaver) : Page Unit := autosaverPart.update f

end Notebook

end DynamicForms
