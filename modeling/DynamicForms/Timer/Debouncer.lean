/-!
# `DynamicForms.Timer.Debouncer` — acting once things have calmed down

A debouncer acts once a delay has passed since it was last triggered: every trigger sets its timer
anew. It may be cancelled, and it may be flushed, which is to act at once if it was going to act at
all. Time is counted in milliseconds from zero.

A timer also holds a mark that orders it among other things that fall due at the same moment: what
was set up before the mark goes first.

## Contents
- `Timer`, `Debouncer`, with `trigger`, `cancel`, `elapse`.
- `Timeline`, `Timeline.step`, `Timeline.run`: the moments at which a debouncer acts.
- **One timer.** `elapse_of_none`, `pending_trigger`, `pending_cancel`.
-/

namespace DynamicForms

/-- A moment at which something falls due. -/
structure Timer where
  /-- The moment. -/
  due : Nat
  /-- Its place among what falls due at that moment. -/
  mark : Nat
  deriving DecidableEq, Repr, Inhabited

/-- Something that acts once a delay has passed since it was last triggered. -/
structure Debouncer where
  /-- The delay; none if it is not positive. -/
  delay : Int
  /-- The timer, while one is set. -/
  timer : Option Timer
  deriving DecidableEq, Repr, Inhabited

namespace Debouncer

/-- A debouncer that was not triggered yet. -/
def ofDelay (delay : Int) : Debouncer := ⟨delay, none⟩

/-- The delay of a debouncer of which nothing else is said. -/
def usualDelay : Int := 500

/-- Whether it is going to act. -/
def pending (d : Debouncer) : Bool :=
  d.timer.isSome

/-- Trigger it at a moment, after what is before a mark. -/
def trigger (d : Debouncer) (now mark : Nat) : Debouncer :=
  { d with timer := some ⟨now + d.delay.toNat, mark⟩ }

/-- Keep it from acting. -/
def cancel (d : Debouncer) : Debouncer :=
  { d with timer := none }

/-- Let time come to a moment: when it acts, if it does, and the debouncer after that. -/
def elapse (d : Debouncer) (moment : Nat) : Option Nat × Debouncer :=
  match d.timer with
  | some timer => if timer.due ≤ moment then (some timer.due, d.cancel) else (none, d)
  | none => (none, d)

/-! ## One timer -/

@[simp] theorem pending_trigger (d : Debouncer) (now mark : Nat) :
    (d.trigger now mark).pending = true := rfl

@[simp] theorem pending_cancel (d : Debouncer) : d.cancel.pending = false := rfl

theorem elapse_of_none {d : Debouncer} (h : d.timer = none) (moment : Nat) :
    d.elapse moment = (none, d) := by
  simp [elapse, h]

end Debouncer

/-! ## Timelines -/

/-- What is done to a debouncer. -/
inductive TimerStep where
  /-- Trigger it. -/
  | trigger
  /-- Cancel it. -/
  | cancel
  /-- Act now if it is going to act. -/
  | flush
  /-- Let some milliseconds pass. -/
  | advance (ms : Nat)
  deriving DecidableEq, Repr, Inhabited

/-- A debouncer in time, with the moments at which it has acted. -/
structure Timeline where
  /-- The moment. -/
  now : Nat
  /-- The debouncer. -/
  debouncer : Debouncer
  /-- The moments at which it has acted. -/
  fired : List Nat
  deriving DecidableEq, Repr, Inhabited

namespace Timeline

/-- Where a debouncer starts. -/
def ofDelay (delay : Int) : Timeline := ⟨0, .ofDelay delay, []⟩

/-- Let time come to a moment. -/
def goTo (t : Timeline) (moment : Nat) : Timeline :=
  let (fired, debouncer) := t.debouncer.elapse moment
  ⟨moment, debouncer, t.fired ++ fired.toList⟩

/-- Act at once if it was going to act. -/
def flush (t : Timeline) : Timeline :=
  if t.debouncer.pending then
    { t with debouncer := t.debouncer.cancel, fired := t.fired ++ [t.now] }
  else t

/-- Do something, before anything that falls due. -/
def apply (t : Timeline) : TimerStep → Timeline
  | .trigger => { t with debouncer := t.debouncer.trigger t.now 0 }
  | .cancel => { t with debouncer := t.debouncer.cancel }
  | .flush => t.flush
  | .advance ms => t.goTo (t.now + ms)

/-- Do something, and what falls due by it. -/
def step (t : Timeline) (s : TimerStep) : Timeline :=
  let t := t.apply s
  t.goTo t.now

/-- Do several things. -/
def run (t : Timeline) (steps : List TimerStep) : Timeline :=
  steps.foldl step t

end Timeline

end DynamicForms
