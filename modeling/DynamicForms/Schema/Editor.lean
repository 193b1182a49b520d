import DynamicForms.Schema.FormId
import DynamicForms.Schema.Parse
import DynamicForms.Text.Blank
import DynamicForms.Timer.Debouncer

/-!
# `DynamicForms.Schema.Editor` — the text of a schema while it is typed

An editor holds the text of a schema and reads it once typing pauses. It hands on the schema, or
nothing if the text is blank or describes none; in the latter case it keeps the message. A whole number
of too many digits is the one error that it does not handle: the editor is left as it was.

## Contents
- `Editor`, `Editor.ofDelay`.
- `Editor.check`: reading the text.
- `Editor.setText`, `Editor.flush`, `Editor.close`, `Editor.goTo`.
-/

namespace DynamicForms

/-- The text of a schema while it is typed. -/
structure Editor where
  /-- The text. -/
  text : String
  /-- What is wrong with the text that was read last. -/
  error : Option String
  /-- Whether the text that was read last describes a schema. -/
  success : Bool
  /-- Waits for a pause. -/
  debouncer : Debouncer
  /-- What was handed on, in order. -/
  received : List (Option Schema)
  /-- The moment. -/
  now : Nat
  deriving Repr, Inhabited

namespace Editor

/-- An editor without a text. -/
def ofDelay (delay : Int) : Editor := ⟨"", none, false, .ofDelay delay, [], 0⟩

/-- Hand something on. -/
def handOn (e : Editor) (error : Option String) (schema : Option Schema) : Editor :=
  { e with error, success := schema.isSome, received := e.received ++ [schema] }

/-- Read the text; an error that is not handled is given back. -/
def check (e : Editor) : Editor × Option SchemaError :=
  if Text.isBlankText e.text then (e.handOn none none, none)
  else
    match Schema.parse e.text with
    | .ok schema => (e.handOn none (some schema), none)
    | .error (.tooManyDigits count) => (e, some (.tooManyDigits count))
    | .error error => (e.handOn (some error.message) none, none)

/-- Type a text. -/
def setText (e : Editor) (text : String) : Editor :=
  { e with text, debouncer := e.debouncer.trigger e.now 0 }

/-- Read the text now if it was going to be read. -/
def flush (e : Editor) : Editor × Option SchemaError :=
  if e.debouncer.pending then { e with debouncer := e.debouncer.cancel }.check
  else (e, none)

/-- The text is not going to be read any more. -/
def close (e : Editor) : Editor :=
  { e with debouncer := e.debouncer.cancel }

/-- Let time come to a moment. -/
def goTo (e : Editor) (moment : Nat) : Editor :=
  match e.debouncer.elapse moment with
  | (some _, debouncer) => { e with debouncer, now := moment }.check.1
  | (none, debouncer) => { e with debouncer, now := moment }

end Editor

end DynamicForms
