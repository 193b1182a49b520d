import DynamicForms.Draft.Drafts
import DynamicForms.Store.Run
import DynamicForms.Timer.Agenda

/-!
# `DynamicForms.Draft.Autosaver` — saving drafts once edits pause

An autosaver is told of every write to a form and saves its data as a draft once there was no write
for a while. A write that leaves the data as it was last saved or restored does not count. After the
draft was thrown away the next write does not count either.

## Contents
- `snapshotText`, `Autosaver`, `Autosaver.ofDrafts`.
- **Edits.** `Autosaver.notice`, `Autosaver.save`, `Autosaver.flush`.
- **The draft.** `Autosaver.draft?`, `Autosaver.restore`, `Autosaver.clearDraft`.
- **In a running form.** `Autosaver.start`, `Autosaver.close`, `Autosaver.upcoming`.
-/

namespace DynamicForms

/-- The data of a form as a text in which the order of names does not matter; empty if it cannot be
written. -/
def snapshotText (data : Value.Object) : String :=
  (Json.sortedText? (.object data)).getD ""

/-- Saves drafts of one form. -/
structure Autosaver where
  /-- The name of the form. -/
  formId : String
  /-- The drafts. -/
  drafts : Drafts
  /-- Waits for a pause. -/
  debouncer : Debouncer
  /-- The data that was last saved or restored, as a text; empty if there is none. -/
  lastSaved : String
  /-- Whether the next write does not count. -/
  skipNext : Bool
  /-- The ticket of its subscription, while it has one. -/
  ticket : Option Nat
  /-- Whether there is a draft. -/
  hasDraft : Bool
  deriving Repr, Inhabited

namespace Autosaver

/-- An autosaver that has not started. -/
def ofDrafts (formId : String) (drafts : Drafts) (delay : Int) : Autosaver where
  formId
  drafts
  debouncer := .ofDelay delay
  lastSaved := ""
  skipNext := false
  ticket := none
  hasDraft := (drafts.load? formId).isSome

/-! ## Edits -/

/-- The data was written. -/
def notice (a : Autosaver) (data : Value.Object) (now mark : Nat) : Autosaver :=
  if a.skipNext then { a with skipNext := false }
  else
    let text := snapshotText data
    if text.isEmpty || text == a.lastSaved then a
    else { a with debouncer := a.debouncer.trigger now mark }

/-- Save the data. -/
def save (a : Autosaver) (data : Value.Object) : Autosaver :=
  { a with
    drafts := a.drafts.save a.formId (.object data)
    lastSaved := snapshotText data
    hasDraft := true }

/-- The timer has run out: save the data. -/
def fire (a : Autosaver) (data : Value.Object) : Autosaver :=
  { a with debouncer := a.debouncer.cancel }.save data

/-- Save the data now if they were going to be saved. -/
def flush (a : Autosaver) (data : Value.Object) : Autosaver :=
  if a.debouncer.pending then a.fire data else a

/-! ## The draft -/

/-- The draft of the form. -/
def draft? (a : Autosaver) : Option Value.Object :=
  a.drafts.load? a.formId

/-- The draft is put into the form. -/
def restore (a : Autosaver) : Autosaver :=
  { a with lastSaved := (a.draft?.map snapshotText).getD "" }

/-- Throw the draft away. -/
def clearDraft (a : Autosaver) : Autosaver :=
  { a with
    debouncer := a.debouncer.cancel
    skipNext := true
    drafts := a.drafts.clear a.formId
    lastSaved := ""
    hasDraft := false }

/-! ## In a running form -/

variable {κ σ : Type} (update : (Autosaver → Autosaver) → Run κ σ Unit)

/-- Start: be told of every write. -/
def start (a : Autosaver) (owner : κ) : Run κ σ Unit := do
  if a.ticket.isNone then
    let ticket ← listen owner
    update fun a => { a with ticket := some ticket }

/-- Close: what was going to be saved is not. -/
def close (a : Autosaver) : Run κ σ Unit := do
  match a.ticket with
  | some ticket => unsubscribe ticket
  | none => pure ()
  update fun a => { a with debouncer := a.debouncer.cancel, ticket := none }

/-- The save that falls due. -/
def upcoming (a : Autosaver) (fire : Run κ σ Unit) : List (Timer × Run κ σ Unit) :=
  (a.debouncer.timer.map fun timer => (timer, fire)).toList

end Autosaver

end DynamicForms
