import DynamicForms.Store.Run
import DynamicForms.Timer.Debouncer

/-!
# `DynamicForms.Timer.Agenda` — what happens by itself

In a running form things happen by themselves: requests that were asked for go out, and answers and
saves fall due. After every step what is ready is set up and what is due takes place, without time
going on; letting time pass goes from one thing that falls due to the next. A thing that fails keeps
what it has done, and the others are not concerned.

## Contents
- `Timer.isBefore`, `earliest?`.
- `Agenda`, `Agenda.go`, with `Agenda.drain`, `Agenda.advance`, `Agenda.settle`.
-/

namespace DynamicForms

/-- Whether a timer falls due before another. -/
def Timer.isBefore (a b : Timer) : Bool :=
  a.due < b.due || (a.due == b.due && a.mark < b.mark)

/-- What falls due first; of several with one timer the first. -/
def earliest? {α : Type} : List (Timer × α) → Option (Timer × α)
  | [] => none
  | entry :: rest =>
    match earliest? rest with
    | some best => if best.1.isBefore entry.1 then some best else some entry
    | none => some entry

/-- What happens by itself in a running form. -/
structure Agenda (κ σ : Type) where
  /-- The moment. -/
  now : Part σ Nat
  /-- Set up one thing that is ready; whether there was one. -/
  setUp : Run κ σ Bool
  /-- What falls due, and when. -/
  upcoming : σ → List (Timer × Run κ σ Unit)
  /-- Whether something is awaited. -/
  isBusy : σ → Bool

namespace Agenda

variable {κ σ : Type}

/-- How many things may happen in one step. -/
def limit : Nat := 100000

/-- Do something that may fail without concerning others. -/
def attempt (run : Run κ σ Unit) : Run κ σ Unit :=
  try run catch _ => return

/-- Let things happen, one after the other, as long as they may at the moment they fall due. -/
def go (a : Agenda κ σ) (may : σ → Nat → Bool) : (count : Nat) → Run κ σ Unit
  | 0 => return
  | count + 1 => do
    if ← a.setUp then
      go a may count
    else
      let parts := (← get).parts
      match earliest? (a.upcoming parts) with
      | none => return
      | some (timer, run) =>
        if may parts timer.due then
          a.now.update fun now => max now timer.due
          attempt run
          go a may count

/-- Let happen what is ready or due. -/
def drain (a : Agenda κ σ) : Run κ σ Unit :=
  a.go (fun parts due => due ≤ a.now.get parts) limit

/-- Let some milliseconds pass. -/
def advance (a : Agenda κ σ) (ms : Nat) : Run κ σ Unit := do
  let now ← a.now.read
  a.go (fun _ due => due ≤ now + ms) limit
  a.now.update fun _ => now + ms

/-- Let time pass until nothing is awaited. -/
def settle (a : Agenda κ σ) : Run κ σ Unit :=
  a.go (fun parts _ => a.isBusy parts) limit

end Agenda

end DynamicForms
