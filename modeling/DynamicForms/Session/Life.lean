import DynamicForms.Session.Basic

/-!
# `DynamicForms.Session.Life` — from mounting a form to closing it

When a form is mounted its draft is put in, what is visible is found out, and its parts start to
listen. Closing it ends all that but keeps the data. In between it is written to, answers arrive, time
passes, and it is submitted.

## Contents
- `Session.mount`, `Session.close`.
- `Session.submit`.
- `Session.complete`, `Session.agenda`: what happens by itself.
- `Session.answer`, `Session.dismiss`, `Session.clearDraft`.
-/

namespace DynamicForms.Session

/-! ## Mounting and closing -/

/-- The draft is put into the form; an empty one is not. -/
def restore : Visit Unit := do
  match ← autosaverPart.read with
  | some a =>
    autosaverPart.update fun a => a.map Autosaver.restore
    match a.draft? with
    | some [] => return
    | some draft =>
      let _ ← put (.reset draft)
    | none => return
  | none => return

/-- Change what saves drafts. -/
def updateAutosaver (f : Autosaver → Autosaver) : Visit Unit :=
  autosaverPart.update fun a => a.map f

/-- All parts start, in the order in which they react to writes. -/
def startParts : Visit Unit := do
  restore
  Tracker.start trackerPart put .visibility
  let ticket ← listen .edits
  ticketPart.update fun _ => some ticket
  Engine.start enginePart put isShown .worker
  match ← autosaverPart.read with
  | some a => a.start updateAutosaver .drafts
  | none => return

/-- Mount the form, if it is not mounted. -/
def mount : Visit Unit := do
  if ← mountedPart.read then return
  mountedPart.update fun _ => true
  startParts

/-- Close the form. -/
def close : Visit Unit := do
  match ← autosaverPart.read with
  | some a => a.close updateAutosaver
  | none => pure ()
  Engine.close enginePart
  Tracker.close trackerPart
  match ← ticketPart.read with
  | some ticket => unsubscribe ticket
  | none => pure ()
  ticketPart.update fun _ => none
  mountedPart.update fun _ => false

/-! ## Submitting -/

/-- Submit the form. -/
def submit : Visit Submission := do
  submissionPart.update fun s => { s with state := .validating }
  let form := (← get).parts.form
  let submission := Submission.ofVerdict (form.judge (← readData))
  submissionPart.update fun _ => submission
  return submission

/-! ## What happens by itself -/

/-- A request is answered. -/
def complete (id : Nat) (result : LookupResult) : Visit Unit :=
  Engine.complete enginePart put isShown id result

/-- The draft is saved. -/
def saveDraft : Visit Unit := do
  let data ← readData
  updateAutosaver fun a => a.fire data

/-- What falls due. -/
def upcoming (s : Session) : List (Timer × Visit Unit) :=
  (s.autosaver.map fun a => a.upcoming saveDraft).getD []
    ++ Dispatch.upcoming dispatchPart enginePart complete s

/-- What happens by itself. -/
def agenda : Agenda Owner Session where
  now := nowPart
  setUp := Dispatch.setUp dispatchPart enginePart nowPart
  upcoming := upcoming
  isBusy := fun s => s.engine.isBusy

/-! ## Further steps -/

/-- Answer a request by hand; whether it was in flight. -/
def answer (id : Nat) (result : LookupResult) : Visit Bool :=
  Dispatch.answer enginePart complete id result

/-- Forget what was said about the last answer of a worker. -/
def dismiss (key : String) : Visit Unit := Engine.dismiss enginePart key

/-- Throw the draft away. -/
def clearDraft : Visit Unit := updateAutosaver Autosaver.clearDraft

end DynamicForms.Session
