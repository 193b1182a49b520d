import DynamicForms.Timer.Debouncer
import Mathlib.Data.List.Induction
import Mathlib.Data.List.Nodup

/-!
# `DynamicForms.Proofs.Timer.Timeline` — when a debouncer acts

What a debouncer does can be told from the steps alone. A trigger *runs out* if nothing but waiting comes
between it and the step that brings the time to its delay after it; then the debouncer acts, once and at
that moment. A trigger is *outstanding* as long as it was neither replaced nor cancelled nor flushed and
its delay has not passed; a flush acts, at once, exactly if there is such a trigger. These are all the
moments at which a debouncer acts, and it is pending exactly while a trigger is outstanding.

Both are said of places in the list of steps. The proof adds one step at a time at the end of the list: what
is said of earlier places stays as it was, and the step adds at most one firing.

## Contents
- `TimerStep.isAdvance`, `TimerStep.wait`; `timeOf`, `momentAt`, `IsQuiet`: what happens between two places.
- `Outstanding`, `RunsOut`; `Firing`, with `Firing.Occurs` and `Firing.moment`.
- **One more step.** `outstanding_append`, `outstanding_concat_iff`, `runsOut_concat_iff`,
  `occurs_concat_iff`; `AreFirings.concat_of_none`, `concat_of_one`.
- **What a step does.** `step_advance`, `step_cancel`, `step_flush_of_none`, `step_flush_of_some`,
  `step_trigger_of_eq_zero`, `step_trigger_of_pos`.
- `Timeline.Tells`, kept by every step; `Timeline.IsTimely`, `isTimely`.
-/

namespace DynamicForms

/-! ## Places in a list of steps -/

namespace TimerStep

/-- Whether a step only lets time pass. -/
def isAdvance : TimerStep → Bool
  | .advance _ => true
  | _ => false

/-- How many milliseconds pass in a step. -/
def wait : TimerStep → Nat
  | .advance ms => ms
  | _ => 0

end TimerStep

namespace Timeline

/-- How many milliseconds pass in some steps. -/
def timeOf : List TimerStep → Nat
  | [] => 0
  | step :: rest => step.wait + timeOf rest

theorem timeOf_append (steps more : List TimerStep) :
    timeOf (steps ++ more) = timeOf steps + timeOf more := by
  induction steps with
  | nil => exact (Nat.zero_add _).symm
  | cons step rest ih => rw [List.cons_append, timeOf, timeOf, ih, Nat.add_assoc]

/-- The moment after the first so many steps. -/
def momentAt (steps : List TimerStep) (count : Nat) : Nat :=
  timeOf (steps.take count)

/-- From one place up to another one time passes and nothing else is done. -/
def IsQuiet (steps : List TimerStep) (first last : Nat) : Prop :=
  ∀ place step, first ≤ place → place < last → steps[place]? = some step → step.isAdvance = true

/-- The trigger at a place is outstanding after so many steps: nothing was done to the debouncer since,
    and its delay has not passed. -/
structure Outstanding (delay : Nat) (steps : List TimerStep) (count place : Nat) : Prop where
  /-- It has been made. -/
  before : place < count
  /-- It is a trigger. -/
  trigger : steps[place]? = some .trigger
  /-- Nothing was done since. -/
  quiet : IsQuiet steps (place + 1) count
  /-- Its delay has not passed. -/
  early : momentAt steps count < momentAt steps place + delay

/-- The trigger at a place runs out: nothing but waiting comes between it and the step that brings the time
    to its delay after it. -/
structure RunsOut (delay : Nat) (steps : List TimerStep) (place : Nat) : Prop where
  /-- It is a trigger. -/
  trigger : steps[place]? = some .trigger
  /-- It is left alone until its delay has passed. -/
  alone : ∃ count ≤ steps.length, place < count ∧
    momentAt steps place + delay ≤ momentAt steps count ∧ IsQuiet steps (place + 1) count

/-- Why a debouncer acts. -/
inductive Firing where
  /-- The trigger at a place runs out. -/
  | timer (place : Nat)
  /-- It is flushed at a place. -/
  | flush (place : Nat)

namespace Firing

/-- The step to which a firing belongs. -/
def place : Firing → Nat
  | .timer place => place
  | .flush place => place

/-- A trigger has to run out, and a flush has to find one that is outstanding. -/
def Occurs (delay : Nat) (steps : List TimerStep) : Firing → Prop
  | .timer place => RunsOut delay steps place
  | .flush place => steps[place]? = some .flush ∧ ∃ trigger, Outstanding delay steps place trigger

/-- When it acts: for a trigger its delay later, for a flush at once. -/
def moment (delay : Nat) (steps : List TimerStep) : Firing → Nat
  | .timer place => momentAt steps place + delay
  | .flush place => momentAt steps place

end Firing

variable {delay : Nat} {steps : List TimerStep} {step : TimerStep} {first last count place other : Nat}

theorem momentAt_mono (h : first ≤ last) (steps : List TimerStep) :
    momentAt steps first ≤ momentAt steps last := by
  obtain ⟨more, rfl⟩ := Nat.exists_eq_add_of_le h
  rw [momentAt, momentAt, List.take_add, timeOf_append]
  exact Nat.le_add_right _ _

/-- Of two triggers only the later one is outstanding. -/
theorem Outstanding.unique (h : Outstanding delay steps count place)
    (h' : Outstanding delay steps count other) : place = other := by
  rcases Nat.lt_trichotomy place other with hlt | heq | hlt
  · cases h.quiet other .trigger hlt h'.before h'.trigger
  · exact heq
  · cases h'.quiet place .trigger hlt h.before h.trigger

/-- A trigger that is outstanding at the end has not run out. -/
theorem Outstanding.not_runsOut (h : Outstanding delay steps steps.length place) :
    ¬ RunsOut delay steps place := by
  rintro ⟨-, count, hcount, -, hdue, -⟩
  have hmono := momentAt_mono hcount steps
  have hearly := h.early
  omega

/-- A trigger that is outstanding when it is flushed does not run out. -/
theorem Outstanding.not_runsOut_of_flush (h : Outstanding delay steps count place)
    (hflush : steps[count]? = some .flush) : ¬ RunsOut delay steps place := by
  rintro ⟨-, last, -, -, hdue, hquiet⟩
  have hearly := h.early
  rcases Nat.lt_or_ge count last with hlt | hle
  · cases hquiet count .flush h.before hlt hflush
  · have hmono := momentAt_mono hle steps
    omega

namespace Firing

variable {f : Firing}

theorem place_lt_of_occurs (h : f.Occurs delay steps) : f.place < steps.length := by
  cases f with
  | timer place => exact (List.getElem?_eq_some_iff.mp h.trigger).1
  | flush place => exact (List.getElem?_eq_some_iff.mp h.1).1

/-- Nothing occurs later than now. -/
theorem moment_le_of_occurs (h : f.Occurs delay steps) :
    f.moment delay steps ≤ momentAt steps steps.length := by
  have hplace := place_lt_of_occurs h
  cases f with
  | timer place =>
    obtain ⟨-, count, hcount, -, hdue, -⟩ := h
    exact Nat.le_trans hdue (momentAt_mono hcount steps)
  | flush place => exact momentAt_mono (Nat.le_of_lt hplace) steps

end Firing

/-! ## One more step -/

theorem momentAt_append (h : count ≤ steps.length) (more : List TimerStep) :
    momentAt (steps ++ more) count = momentAt steps count := by
  rw [momentAt, momentAt, List.take_append_of_le_length h]

theorem momentAt_concat (steps : List TimerStep) (step : TimerStep) :
    momentAt (steps ++ [step]) (steps.length + 1) = momentAt steps steps.length + step.wait := by
  have hall : (steps ++ [step]).take (steps.length + 1) = steps ++ [step] :=
    List.take_of_length_le (Nat.le_of_eq List.length_append)
  rw [momentAt, momentAt, hall, List.take_length, timeOf_append]
  rfl

theorem isQuiet_append (h : last ≤ steps.length) (more : List TimerStep) :
    IsQuiet (steps ++ more) first last ↔ IsQuiet steps first last := by
  refine forall₂_congr fun place s => imp_congr_right fun _ => forall_congr' fun hlast => ?_
  rw [List.getElem?_append_left (Nat.lt_of_lt_of_le hlast h)]

theorem isQuiet_concat_iff (h : first ≤ steps.length) :
    IsQuiet (steps ++ [step]) first (steps.length + 1) ↔
      IsQuiet steps first steps.length ∧ step.isAdvance = true := by
  constructor
  · intro hquiet
    refine ⟨fun place s hfirst hlast hs => ?_, ?_⟩
    · refine hquiet place s hfirst (Nat.lt_succ_of_lt hlast) ?_
      rwa [List.getElem?_append_left hlast]
    · exact hquiet steps.length step h (Nat.lt_succ_self _) List.getElem?_concat_length
  · rintro ⟨hquiet, hstep⟩ place s hfirst hlast hs
    rcases Nat.lt_succ_iff_lt_or_eq.mp hlast with hlt | rfl
    · rw [List.getElem?_append_left hlt] at hs
      exact hquiet place s hfirst hlt hs
    · rw [List.getElem?_concat_length] at hs
      exact Option.some.inj hs ▸ hstep

theorem outstanding_append (h : count ≤ steps.length) (more : List TimerStep) :
    Outstanding delay (steps ++ more) count place ↔ Outstanding delay steps count place := by
  constructor
  · rintro ⟨hbefore, htrigger, hquiet, hearly⟩
    rw [List.getElem?_append_left (Nat.lt_of_lt_of_le hbefore h)] at htrigger
    rw [momentAt_append h, momentAt_append (by omega)] at hearly
    exact ⟨hbefore, htrigger, (isQuiet_append h more).mp hquiet, hearly⟩
  · rintro ⟨hbefore, htrigger, hquiet, hearly⟩
    refine ⟨hbefore, ?_, (isQuiet_append h more).mpr hquiet, ?_⟩
    · rwa [List.getElem?_append_left (Nat.lt_of_lt_of_le hbefore h)]
    · rwa [momentAt_append h, momentAt_append (by omega)]

/-- After one more step a trigger is outstanding if it was and the time that passed is too short for it, or
    if it is the step. -/
theorem outstanding_concat_iff :
    Outstanding delay (steps ++ [step]) (steps ++ [step]).length place ↔
      (step.isAdvance = true ∧ Outstanding delay steps steps.length place ∧
        momentAt steps steps.length + step.wait < momentAt steps place + delay) ∨
      (step = .trigger ∧ place = steps.length ∧ 0 < delay) := by
  have hnow := momentAt_concat steps step
  rw [List.length_append, List.length_singleton]
  constructor
  · rintro ⟨hbefore, htrigger, hquiet, hearly⟩
    rw [hnow, momentAt_append (by omega)] at hearly
    rcases Nat.lt_succ_iff_lt_or_eq.mp hbefore with hlt | rfl
    · obtain ⟨hquiet, hstep⟩ := (isQuiet_concat_iff hlt).mp hquiet
      rw [List.getElem?_append_left hlt] at htrigger
      exact Or.inl ⟨hstep, ⟨hlt, htrigger, hquiet, by omega⟩, hearly⟩
    · rw [List.getElem?_concat_length, Option.some.injEq] at htrigger
      subst htrigger
      exact Or.inr ⟨rfl, rfl, Nat.lt_of_add_lt_add_left hearly⟩
  · rintro (⟨hstep, ⟨hbefore, htrigger, hquiet, -⟩, hearly⟩ | ⟨rfl, rfl, hdelay⟩)
    · refine ⟨by omega, ?_, (isQuiet_concat_iff hbefore).mpr ⟨hquiet, hstep⟩, ?_⟩
      · rwa [List.getElem?_append_left hbefore]
      · rwa [hnow, momentAt_append (by omega)]
    · refine ⟨by omega, List.getElem?_concat_length, fun p s hp hlast => by omega, ?_⟩
      rw [hnow, momentAt_append (Nat.le_refl _)]
      exact Nat.add_lt_add_left hdelay _

/-- With one more step a trigger runs out if it did before, if the step lets its time pass, or if it is the
    step and has no delay. -/
theorem runsOut_concat_iff :
    RunsOut delay (steps ++ [step]) place ↔ RunsOut delay steps place ∨
      (step.isAdvance = true ∧ Outstanding delay steps steps.length place ∧
        momentAt steps place + delay ≤ momentAt steps steps.length + step.wait) ∨
      (step = .trigger ∧ place = steps.length ∧ delay = 0) := by
  have hnow := momentAt_concat steps step
  constructor
  · rintro ⟨htrigger, count, hcount, hplace, hdue, hquiet⟩
    rw [List.length_append, List.length_singleton] at hcount
    rw [momentAt_append (by omega)] at hdue
    rcases Nat.lt_or_ge place steps.length with hlt | hge
    · rw [List.getElem?_append_left hlt] at htrigger
      rcases Nat.lt_or_ge steps.length count with hlast | hle
      · -- the step is what brings the time so far, if it was not there before
        obtain rfl : count = steps.length + 1 := by omega
        obtain ⟨hquiet, hstep⟩ := (isQuiet_concat_iff hlt).mp hquiet
        rw [hnow] at hdue
        by_cases hearly : momentAt steps steps.length < momentAt steps place + delay
        · exact Or.inr (Or.inl ⟨hstep, ⟨hlt, htrigger, hquiet, hearly⟩, hdue⟩)
        · exact Or.inl ⟨htrigger, steps.length, Nat.le_refl _, hlt, by omega, hquiet⟩
      · rw [momentAt_append hle] at hdue
        exact Or.inl ⟨htrigger, count, hle, hplace, hdue, (isQuiet_append hle _).mp hquiet⟩
    · obtain rfl : place = steps.length := by omega
      obtain rfl : count = steps.length + 1 := by omega
      rw [List.getElem?_concat_length, Option.some.injEq] at htrigger
      subst htrigger
      have hzero : delay ≤ 0 := Nat.le_of_add_le_add_left (hnow ▸ hdue)
      exact Or.inr (Or.inr ⟨rfl, rfl, Nat.le_zero.mp hzero⟩)
  · rintro (⟨htrigger, count, hcount, hplace, hdue, hquiet⟩ |
      ⟨hstep, ⟨hbefore, htrigger, hquiet, -⟩, hdue⟩ | ⟨rfl, rfl, rfl⟩)
    · refine ⟨?_, count, ?_, hplace, ?_, (isQuiet_append hcount _).mpr hquiet⟩
      · rwa [List.getElem?_append_left (by omega)]
      · rw [List.length_append]; omega
      · rwa [momentAt_append hcount, momentAt_append (by omega)]
    · refine ⟨?_, steps.length + 1, ?_, by omega, ?_,
        (isQuiet_concat_iff hbefore).mpr ⟨hquiet, hstep⟩⟩
      · rwa [List.getElem?_append_left hbefore]
      · simp
      · rwa [hnow, momentAt_append (by omega)]
    · refine ⟨List.getElem?_concat_length, steps.length + 1, ?_, by omega, ?_,
        fun p s hp hlast => by omega⟩
      · simp
      · exact momentAt_mono (Nat.le_succ _) _

namespace Firing

variable {f g : Firing}

/-- The firings that one more step adds. -/
def Arises (delay : Nat) (steps : List TimerStep) (f : Firing) : TimerStep → Prop
  | .trigger => f = .timer steps.length ∧ delay = 0
  | .cancel => False
  | .flush => f = .flush steps.length ∧ ∃ place, Outstanding delay steps steps.length place
  | .advance ms => ∃ place, f = .timer place ∧ Outstanding delay steps steps.length place ∧
      momentAt steps place + delay ≤ momentAt steps steps.length + ms

/-- One more step leaves the firings there were, and adds those that arise in it. -/
theorem occurs_concat_iff :
    f.Occurs delay (steps ++ [step]) ↔ f.Occurs delay steps ∨ f.Arises delay steps step := by
  cases f with
  | timer place =>
    rw [Occurs, runsOut_concat_iff, Occurs]
    refine or_congr_right ?_
    cases step <;> simp [Arises, TimerStep.isAdvance, TimerStep.wait]
  | flush place =>
    rw [Occurs, Occurs]
    constructor
    · rintro ⟨hflush, trigger, houtstanding⟩
      have hplace : place < (steps ++ [step]).length := (List.getElem?_eq_some_iff.mp hflush).1
      rw [List.length_append, List.length_singleton] at hplace
      rw [outstanding_append (by omega)] at houtstanding
      rcases Nat.lt_succ_iff_lt_or_eq.mp hplace with hlt | rfl
      · rw [List.getElem?_append_left hlt] at hflush
        exact Or.inl ⟨hflush, trigger, houtstanding⟩
      · rw [List.getElem?_concat_length, Option.some.injEq] at hflush
        subst hflush
        exact Or.inr ⟨rfl, trigger, houtstanding⟩
    · rintro (⟨hflush, trigger, houtstanding⟩ | harises)
      · have hplace := (List.getElem?_eq_some_iff.mp hflush).1
        refine ⟨?_, trigger, (outstanding_append (by omega) _).mpr houtstanding⟩
        rwa [List.getElem?_append_left hplace]
      · cases step with
        | flush =>
          obtain ⟨hplace, trigger, houtstanding⟩ := harises
          cases hplace
          exact ⟨List.getElem?_concat_length, trigger,
            (outstanding_append (Nat.le_refl _) _).mpr houtstanding⟩
        | _ => simp [Arises] at harises

theorem moment_append (h : f.place ≤ steps.length) (more : List TimerStep) :
    f.moment delay (steps ++ more) = f.moment delay steps := by
  cases f with
  | timer place => exact congrArg (· + delay) (momentAt_append h more)
  | flush place => exact momentAt_append h more

end Firing

/-- These are the moments of all firings that occur, each counted once, in the order of time. -/
def AreFirings (delay : Nat) (steps : List TimerStep) (moments : List Nat) : Prop :=
  ∃ firings : List Firing, firings.Nodup ∧ (∀ f, f ∈ firings ↔ f.Occurs delay steps) ∧
    moments = firings.map (Firing.moment delay steps) ∧ moments.Pairwise (· ≤ ·)

variable {moments : List Nat}

/-- A step in which no firing arises adds no moment. -/
theorem AreFirings.concat_of_none (h : AreFirings delay steps moments)
    (hnone : ∀ f : Firing, ¬ f.Arises delay steps step) :
    AreFirings delay (steps ++ [step]) moments := by
  obtain ⟨firings, hnodup, hmem, hmoments, hsorted⟩ := h
  refine ⟨firings, hnodup, fun f => ?_, ?_, hsorted⟩
  · rw [hmem, Firing.occurs_concat_iff, or_iff_left (hnone f)]
  · rw [hmoments]
    refine List.map_congr_left fun f hf => (Firing.moment_append ?_ _).symm
    exact Nat.le_of_lt (Firing.place_lt_of_occurs ((hmem f).mp hf))

/-- A step in which one firing arises, not before now, adds its moment. -/
theorem AreFirings.concat_of_one (h : AreFirings delay steps moments) {f : Firing}
    (hone : ∀ g : Firing, g.Arises delay steps step ↔ g = f) (hnew : ¬ f.Occurs delay steps)
    (hplace : f.place ≤ steps.length)
    (hnow : momentAt steps steps.length ≤ f.moment delay steps) :
    AreFirings delay (steps ++ [step]) (moments ++ [f.moment delay steps]) := by
  obtain ⟨firings, hnodup, hmem, rfl, hsorted⟩ := h
  refine ⟨firings ++ [f], ?_, fun g => ?_, ?_, ?_⟩
  · rw [← List.concat_eq_append]
    exact hnodup.concat fun hf => hnew ((hmem f).mp hf)
  · rw [List.mem_append, List.mem_singleton, hmem, Firing.occurs_concat_iff, hone]
  · rw [List.map_append, List.map_singleton, Firing.moment_append hplace]
    congr 1
    refine List.map_congr_left fun g hg => (Firing.moment_append ?_ _).symm
    exact Nat.le_of_lt (Firing.place_lt_of_occurs ((hmem g).mp hg))
  · refine List.pairwise_append.mpr ⟨hsorted, List.pairwise_singleton _ _, ?_⟩
    rintro moment hmoment _ hlast
    obtain ⟨g, hg, rfl⟩ := List.mem_map.mp hmoment
    rw [List.mem_singleton.mp hlast]
    exact Nat.le_trans (Firing.moment_le_of_occurs ((hmem g).mp hg)) hnow

/-! ## What a step does -/

variable {t : Timeline} {timer : Timer}

theorem goTo_of_none (h : t.debouncer.timer = none) (moment : Nat) :
    t.goTo moment = ⟨moment, t.debouncer, t.fired⟩ := by
  rw [goTo, Debouncer.elapse_of_none h]
  exact congrArg (Timeline.mk moment t.debouncer) (List.append_nil _)

theorem goTo_of_lt {moment : Nat} (h : t.debouncer.timer = some timer) (hearly : moment < timer.due) :
    t.goTo moment = ⟨moment, t.debouncer, t.fired⟩ := by
  have helapse : t.debouncer.elapse moment = (none, t.debouncer) := by
    simp only [Debouncer.elapse, h, if_neg (Nat.not_le.mpr hearly)]
  rw [goTo, helapse]
  exact congrArg (Timeline.mk moment t.debouncer) (List.append_nil _)

theorem goTo_of_le {moment : Nat} (h : t.debouncer.timer = some timer) (hdue : timer.due ≤ moment) :
    t.goTo moment = ⟨moment, t.debouncer.cancel, t.fired ++ [timer.due]⟩ := by
  have helapse : t.debouncer.elapse moment = (some timer.due, t.debouncer.cancel) := by
    simp only [Debouncer.elapse, h, if_pos hdue]
  rw [goTo, helapse]
  rfl

/-- Coming to a moment twice is coming to it once. -/
theorem goTo_goTo (t : Timeline) (moment : Nat) : (t.goTo moment).goTo moment = t.goTo moment := by
  cases h : t.debouncer.timer with
  | none =>
    rw [goTo_of_none h, goTo_of_none (by exact h)]
  | some timer =>
    rcases Nat.lt_or_ge moment timer.due with hearly | hdue
    · rw [goTo_of_lt h hearly, goTo_of_lt (by exact h) hearly]
    · rw [goTo_of_le h hdue, goTo_of_none rfl]

theorem step_advance (t : Timeline) (ms : Nat) : t.step (.advance ms) = t.goTo (t.now + ms) :=
  goTo_goTo t (t.now + ms)

theorem step_cancel (t : Timeline) :
    t.step .cancel = { t with debouncer := t.debouncer.cancel } := by
  rw [step, apply, goTo_of_none rfl]

theorem step_flush_of_none (h : t.debouncer.timer = none) : t.step .flush = t := by
  have hflush : t.flush = t := by simp [flush, Debouncer.pending, h]
  rw [step, apply, hflush, goTo_of_none h]

theorem step_flush_of_some (h : t.debouncer.timer = some timer) :
    t.step .flush = ⟨t.now, t.debouncer.cancel, t.fired ++ [t.now]⟩ := by
  have hflush : t.flush = ⟨t.now, t.debouncer.cancel, t.fired ++ [t.now]⟩ := by
    simp [flush, Debouncer.pending, h]
  rw [step, apply, hflush, goTo_of_none rfl]

/-- A trigger without a delay acts at once. -/
theorem step_trigger_of_eq_zero (h : t.debouncer.delay = 0) :
    t.step .trigger = ⟨t.now, t.debouncer.cancel, t.fired ++ [t.now]⟩ := by
  have htimer : (t.debouncer.trigger t.now 0).timer = some ⟨t.now, 0⟩ := by
    simp [Debouncer.trigger, h]
  rw [step, apply, goTo_of_le htimer (Nat.le_refl t.now)]
  rfl

theorem step_trigger_of_pos {delay : Nat} (h : t.debouncer.delay = delay) (hpos : 0 < delay) :
    t.step .trigger = { t with debouncer := ⟨delay, some ⟨t.now + delay, 0⟩⟩ } := by
  have htrigger : t.debouncer.trigger t.now 0 = ⟨delay, some ⟨t.now + delay, 0⟩⟩ := by
    simp [Debouncer.trigger, h]
  rw [step, apply, htrigger]
  exact goTo_of_lt rfl (Nat.lt_add_of_pos_right hpos)

/-- The timer that is set, if one is, is that of the trigger that is outstanding. -/
def IsTimerOf (delay : Nat) (steps : List TimerStep) (set : Option Timer) : Prop :=
  ∀ timer, set = some timer ↔
    ∃ place, Outstanding delay steps steps.length place ∧ timer = ⟨momentAt steps place + delay, 0⟩

theorem isTimerOf_none (h : ∀ place, ¬ Outstanding delay steps steps.length place) :
    IsTimerOf delay steps none :=
  fun _ => ⟨nofun, fun ⟨place, houtstanding, _⟩ => absurd houtstanding (h place)⟩

theorem isTimerOf_some (h : Outstanding delay steps steps.length place) :
    IsTimerOf delay steps (some ⟨momentAt steps place + delay, 0⟩) := by
  intro timer
  rw [Option.some.injEq]
  constructor
  · rintro rfl
    exact ⟨place, h, rfl⟩
  · rintro ⟨other, hother, rfl⟩
    rw [h.unique hother]

/-- The timeline tells what the steps so far came to. -/
structure Tells (delay : Nat) (steps : List TimerStep) (t : Timeline) : Prop where
  /-- The time that has passed. -/
  now_eq : t.now = momentAt steps steps.length
  /-- The delay stays. -/
  delay_eq : t.debouncer.delay = delay
  /-- The timer waits for the trigger that is outstanding. -/
  timer : IsTimerOf delay steps t.debouncer.timer
  /-- It has acted at the moments of the firings. -/
  fired : AreFirings delay steps t.fired

namespace Tells

variable (h : Tells delay steps t)

include h

theorem not_outstanding (hnone : t.debouncer.timer = none) (place : Nat) :
    ¬ Outstanding delay steps steps.length place := by
  intro houtstanding
  have htimer := (h.timer _).mpr ⟨place, houtstanding, rfl⟩
  rw [hnone] at htimer
  cases htimer

theorem now_concat (step : TimerStep) :
    t.now + step.wait = momentAt (steps ++ [step]) (steps ++ [step]).length := by
  rw [List.length_append, List.length_singleton, momentAt_concat, h.now_eq]

/-- A trigger is outstanding from then on, unless it has no delay and acts at once. -/
theorem trigger : Tells delay (steps ++ [.trigger]) (t.step .trigger) := by
  rcases Nat.eq_zero_or_pos delay with rfl | hpos
  · rw [step_trigger_of_eq_zero h.delay_eq]
    refine ⟨h.now_concat .trigger, h.delay_eq, isTimerOf_none fun place => ?_, ?_⟩
    · rw [outstanding_concat_iff]
      rintro (⟨hadvance, -⟩ | ⟨-, -, hpos⟩)
      · cases hadvance
      · exact Nat.lt_irrefl 0 hpos
    · rw [h.now_eq]
      refine h.fired.concat_of_one (f := .timer steps.length) (fun g => and_iff_left rfl) ?_ ?_ ?_
      · exact fun hoccurs => Nat.lt_irrefl _ (Firing.place_lt_of_occurs hoccurs)
      · exact Nat.le_refl _
      · exact Nat.le_refl _
  · rw [step_trigger_of_pos h.delay_eq hpos]
    refine ⟨h.now_concat .trigger, rfl, ?_, h.fired.concat_of_none ?_⟩
    · have houtstanding : Outstanding delay (steps ++ [.trigger])
          (steps ++ [TimerStep.trigger]).length steps.length :=
        outstanding_concat_iff.mpr (Or.inr ⟨rfl, rfl, hpos⟩)
      have htimer := isTimerOf_some houtstanding
      rwa [momentAt_append (Nat.le_refl _), ← h.now_eq] at htimer
    · exact fun f harises => absurd harises.2 (Nat.ne_of_gt hpos)

/-- Nothing is outstanding after a cancellation. -/
theorem cancel : Tells delay (steps ++ [.cancel]) (t.step .cancel) := by
  rw [step_cancel]
  refine ⟨h.now_concat .cancel, h.delay_eq, isTimerOf_none fun place => ?_,
    h.fired.concat_of_none fun f => id⟩
  rw [outstanding_concat_iff]
  rintro (⟨hadvance, -⟩ | ⟨hstep, -⟩)
  · cases hadvance
  · cases hstep

/-- A flush acts if a trigger is outstanding, and leaves none so. -/
theorem flush : Tells delay (steps ++ [.flush]) (t.step .flush) := by
  have hnone : ∀ place, ¬ Outstanding delay (steps ++ [.flush])
      (steps ++ [TimerStep.flush]).length place := by
    intro place
    rw [outstanding_concat_iff]
    rintro (⟨hadvance, -⟩ | ⟨hstep, -⟩)
    · cases hadvance
    · cases hstep
  cases htimer : t.debouncer.timer with
  | none =>
    rw [step_flush_of_none htimer]
    refine ⟨h.now_concat .flush, h.delay_eq, htimer ▸ isTimerOf_none hnone,
      h.fired.concat_of_none ?_⟩
    rintro f ⟨-, place, houtstanding⟩
    exact h.not_outstanding htimer place houtstanding
  | some timer =>
    obtain ⟨place, houtstanding, -⟩ := (h.timer timer).mp htimer
    rw [step_flush_of_some htimer]
    refine ⟨h.now_concat .flush, h.delay_eq, isTimerOf_none hnone, ?_⟩
    rw [h.now_eq]
    refine h.fired.concat_of_one (f := .flush steps.length) ?_ ?_ ?_ ?_
    · exact fun g => and_iff_left ⟨place, houtstanding⟩
    · exact fun hoccurs => Nat.lt_irrefl _ (Firing.place_lt_of_occurs hoccurs)
    · exact Nat.le_refl _
    · exact Nat.le_refl _

/-- The trigger that is outstanding stays so, or runs out if the time is up. -/
theorem advance (ms : Nat) : Tells delay (steps ++ [.advance ms]) (t.step (.advance ms)) := by
  rw [step_advance]
  cases htimer : t.debouncer.timer with
  | none =>
    have hnone := h.not_outstanding htimer
    rw [goTo_of_none htimer]
    refine ⟨h.now_concat (.advance ms), h.delay_eq, ?_, h.fired.concat_of_none ?_⟩
    · rw [htimer]
      refine isTimerOf_none fun place => ?_
      rw [outstanding_concat_iff]
      rintro (⟨-, houtstanding, -⟩ | ⟨hstep, -⟩)
      · exact hnone place houtstanding
      · cases hstep
    · rintro f ⟨place, -, houtstanding, -⟩
      exact hnone place houtstanding
  | some timer =>
    obtain ⟨place, houtstanding, rfl⟩ := (h.timer timer).mp htimer
    have hplace := houtstanding.before
    rcases Nat.lt_or_ge (t.now + ms) (momentAt steps place + delay) with hearly | hdue
    · -- the timer is not due yet: it stays set, and nothing fires
      rw [goTo_of_lt htimer hearly]
      rw [h.now_eq] at hearly
      refine ⟨h.now_concat (.advance ms), h.delay_eq, ?_, h.fired.concat_of_none ?_⟩
      · have hstays : Outstanding delay (steps ++ [.advance ms])
            (steps ++ [TimerStep.advance ms]).length place :=
          outstanding_concat_iff.mpr (Or.inl ⟨rfl, houtstanding, hearly⟩)
        have hset := isTimerOf_some hstays
        rwa [momentAt_append (Nat.le_of_lt hplace), ← htimer] at hset
      · rintro f ⟨other, -, hother, hdue⟩
        rw [← houtstanding.unique hother] at hdue
        exact Nat.not_le.mpr hearly hdue
    · -- the timer runs out: it fires, and no other place is outstanding
      rw [goTo_of_le htimer hdue]
      rw [h.now_eq] at hdue
      refine ⟨h.now_concat (.advance ms), h.delay_eq, isTimerOf_none fun other => ?_, ?_⟩
      · rw [outstanding_concat_iff]
        rintro (⟨-, hother, hearly⟩ | ⟨hstep, -⟩)
        · rw [← houtstanding.unique hother] at hearly
          exact Nat.not_le.mpr hearly hdue
        · cases hstep
      · refine h.fired.concat_of_one (f := .timer place) (fun g => ?_) houtstanding.not_runsOut
          (Nat.le_of_lt hplace) (Nat.le_of_lt houtstanding.early)
        constructor
        · rintro ⟨other, rfl, hother, -⟩
          rw [houtstanding.unique hother]
        · rintro rfl
          exact ⟨place, rfl, houtstanding, hdue⟩

/-- One more step keeps it so. -/
theorem concat (step : TimerStep) : Tells delay (steps ++ [step]) (t.step step) := by
  cases step with
  | trigger => exact h.trigger
  | cancel => exact h.cancel
  | flush => exact h.flush
  | advance ms => exact h.advance ms

end Tells

/-- Before any step nothing is outstanding and nothing has occurred. -/
theorem tells_ofDelay (delay : Nat) : Tells delay [] (ofDelay delay) where
  now_eq := rfl
  delay_eq := rfl
  timer := isTimerOf_none fun place h => Nat.not_lt_zero place h.before
  fired := ⟨[], List.nodup_nil, fun _ => ⟨nofun, fun hoccurs =>
    absurd (Firing.place_lt_of_occurs hoccurs) (Nat.not_lt_zero _)⟩, rfl, List.Pairwise.nil⟩

theorem tells_run (delay : Nat) (steps : List TimerStep) :
    Tells delay steps ((ofDelay delay).run steps) := by
  induction steps using List.reverseRecOn with
  | nil => exact tells_ofDelay delay
  | append_singleton steps step ih =>
    rw [run, List.foldl_append]
    exact ih.concat step

/-! ## What a debouncer promises -/

/-- What the steps say of when a debouncer acts, and of whether it is pending. -/
structure IsTimely (delay : Nat) (steps : List TimerStep) : Prop where
  /-- It has acted at the moments of all firings that occur, once for each, and at no others. -/
  fired : AreFirings delay steps ((ofDelay delay).run steps).fired
  /-- A trigger that is flushed does not run out. -/
  not_runsOut : ∀ place trigger, steps[place]? = some .flush →
    Outstanding delay steps place trigger → ¬ RunsOut delay steps trigger
  /-- It is pending exactly while a trigger is outstanding. -/
  pending_iff : ((ofDelay delay).run steps).debouncer.pending = true ↔
    ∃ place, Outstanding delay steps steps.length place

/-- **A debouncer acts once for every trigger that runs out, when its delay has passed, and at once for every
    flush that finds a trigger outstanding.** -/
theorem isTimely (delay : Nat) (steps : List TimerStep) : IsTimely delay steps where
  fired := (tells_run delay steps).fired
  not_runsOut _ _ hflush houtstanding := houtstanding.not_runsOut_of_flush hflush
  pending_iff := by
    rw [Debouncer.pending, Option.isSome_iff_exists]
    constructor
    · rintro ⟨timer, htimer⟩
      obtain ⟨place, houtstanding, -⟩ := ((tells_run delay steps).timer timer).mp htimer
      exact ⟨place, houtstanding⟩
    · rintro ⟨place, houtstanding⟩
      exact ⟨_, ((tells_run delay steps).timer _).mpr ⟨place, houtstanding, rfl⟩⟩

/-- The second trigger replaces the first one and runs out; the third one is flushed. -/
example : ((ofDelay 500).run [.trigger, .advance 200, .trigger, .advance 700, .trigger, .advance 100,
    .flush, .advance 900]).fired = [700, 1000] := by decide

end Timeline
end DynamicForms
