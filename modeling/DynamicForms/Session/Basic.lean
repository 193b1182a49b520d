import DynamicForms.Lookup.Dispatch
import DynamicForms.Draft.Autosaver
import DynamicForms.Schema.FormId
import DynamicForms.Validation.Validator
import DynamicForms.Visibility.Prune

/-!
# `DynamicForms.Session.Basic` — a form that is being filled in

A session holds everything about one form that somebody fills in: what is visible, the lookups, the
draft, and how its submission went. Each part reacts to writes in its turn: first what is visible is
brought up to date, then the outcome of a submission is withdrawn, then the lookups look at the form,
and last the draft is scheduled.

## Contents
- `Form`, `Form.ofSchema`.
- `Submission`: how submitting went.
- `Owner`, `Session`, `Session.ofForm`, and the parts of a session.
- `Session.react`: what follows from a write.
-/

namespace DynamicForms

/-! ## Forms -/

/-- A form that can be filled in. -/
structure Form where
  /-- What it consists of. -/
  schema : Schema
  /-- Its name. -/
  id : String
  /-- How it is checked. -/
  validator : Validator
  deriving Repr, Inhabited

/-- The form that a schema describes. -/
def Form.ofSchema (schema : Schema) : Except BuildError Form := do
  return ⟨schema, schema.formId, ← Validator.build schema.items⟩

/-- The outcome of submitting data: hidden values do not count. -/
def Form.judge (f : Form) (data : Value.Object) : Verdict :=
  f.validator.validate (Item.prune f.schema.items data)

/-! ## Submissions -/

/-- How far a form has come. -/
inductive FormState where
  /-- It is being filled in. -/
  | editing
  /-- It is being checked. -/
  | validating
  /-- It was accepted. -/
  | submitted
  /-- It was refused. -/
  | invalid
  deriving DecidableEq, Repr, Inhabited

/-- The name of a state. -/
def FormState.name : FormState → String
  | .editing => "editing"
  | .validating => "validating"
  | .submitted => "submitted"
  | .invalid => "invalid"

/-- How submitting a form went. -/
structure Submission where
  /-- How far the form has come. -/
  state : FormState
  /-- The messages by path. -/
  errors : Entries String
  /-- What was accepted. -/
  output : Option Value.Object
  deriving Repr, Inhabited

namespace Submission

/-- Nothing was submitted. -/
def blank : Submission := ⟨.editing, [], none⟩

/-- The submission that a verdict makes. -/
def ofVerdict : Verdict → Submission
  | .valid output => ⟨.submitted, [], some output⟩
  | .invalid errors => ⟨.invalid, errors, none⟩

/-- Whether data was accepted. -/
def isAccepted (s : Submission) : Bool :=
  s.state == .submitted

/-- The messages as an object of objects along the groups of the form. A message whose path cannot be
written is left out. -/
def errorTree (s : Submission) : Value.Object :=
  s.errors.foldl (fun tree (path, message) => (Path.write? tree path (.text message)).getD tree) []

end Submission

/-! ## Sessions -/

/-- Who is told of writes. -/
inductive Owner where
  /-- What decides what is visible. -/
  | visibility
  /-- What withdraws the outcome of a submission. -/
  | edits
  /-- The worker under a key. -/
  | worker (key : String)
  /-- What schedules drafts. -/
  | drafts
  deriving DecidableEq, Repr, Inhabited

/-- A form that is being filled in. -/
structure Session where
  /-- The form. -/
  form : Form
  /-- What is visible. -/
  tracker : Tracker
  /-- The lookups. -/
  engine : Engine
  /-- Their requests on the way. -/
  dispatch : Dispatch
  /-- What saves drafts, if drafts are kept. -/
  autosaver : Option Autosaver
  /-- How submitting went. -/
  submission : Submission
  /-- The ticket of what withdraws the outcome of a submission, while it has one. -/
  ticket : Option Nat
  /-- Whether the form is mounted. -/
  mounted : Bool
  /-- The moment. -/
  now : Nat
  deriving Repr, Inhabited

namespace Session

/-- A run of a session. -/
abbrev Visit := Run Owner Session

/-- What is visible. -/
def trackerPart : Part Session Tracker :=
  ⟨Session.tracker, fun tracker s => { s with tracker }, fun _ _ => rfl, fun _ => rfl⟩

/-- The lookups. -/
def enginePart : Part Session Engine :=
  ⟨Session.engine, fun engine s => { s with engine }, fun _ _ => rfl, fun _ => rfl⟩

/-- The requests on their way. -/
def dispatchPart : Part Session Dispatch :=
  ⟨Session.dispatch, fun dispatch s => { s with dispatch }, fun _ _ => rfl, fun _ => rfl⟩

/-- What saves drafts. -/
def autosaverPart : Part Session (Option Autosaver) :=
  ⟨Session.autosaver, fun autosaver s => { s with autosaver }, fun _ _ => rfl, fun _ => rfl⟩

/-- How submitting went. -/
def submissionPart : Part Session Submission :=
  ⟨Session.submission, fun submission s => { s with submission }, fun _ _ => rfl, fun _ => rfl⟩

/-- The ticket of what withdraws the outcome of a submission. -/
def ticketPart : Part Session (Option Nat) :=
  ⟨Session.ticket, fun ticket s => { s with ticket }, fun _ _ => rfl, fun _ => rfl⟩

/-- Whether the form is mounted. -/
def mountedPart : Part Session Bool :=
  ⟨Session.mounted, fun mounted s => { s with mounted }, fun _ _ => rfl, fun _ => rfl⟩

/-- The moment. -/
def nowPart : Part Session Nat :=
  ⟨Session.now, fun now s => { s with now }, fun _ _ => rfl, fun _ => rfl⟩

/-- A session of a form that is not mounted, with drafts and their delay if drafts are kept. -/
def ofForm (form : Form) (channel : Channel) (wire : Wire) (drafts : Option (Drafts × Int)) :
    Session where
  form
  tracker := .ofItems form.schema.items true
  engine := .ofLookups (Item.lookups form.schema.items)
  dispatch := .ofChannel channel wire
  autosaver := drafts.map fun (drafts, delay) => .ofDrafts form.id drafts delay
  submission := .blank
  ticket := none
  mounted := false
  now := 0

/-- The world of a session that is not mounted. -/
def world (s : Session) : World Owner Session := ⟨Store.ofData [], s⟩

/-- Whether there is a draft. -/
def hasDraft (s : Session) : Bool :=
  s.autosaver.any (·.hasDraft)

/-- The draft that is kept. -/
def draft? (s : Session) : Option Value.Object :=
  s.autosaver.bind (·.draft?)

/-! ## What follows from a write -/

/-- Whether a path is visible. -/
def isShown (s : Session) (path : String) : Bool :=
  s.tracker.isVisible path

/-- The outcome of a submission is withdrawn. -/
def withdraw : Visit Unit :=
  submissionPart.update fun _ => .blank

/-- The draft is scheduled, after the requests that were asked for so far. -/
def noticeEdit : Visit Unit := do
  let data ← readData
  let now ← nowPart.read
  let mark := (← enginePart.read).nextId
  autosaverPart.update fun a => a.map fun a => a.notice data now mark

/-- What follows from a write. -/
def react : React Owner Session :=
  fun write owner _ =>
    match owner with
    | .visibility => Tracker.refresh trackerPart write
    | .edits => withdraw
    | .worker key => Engine.evaluate enginePart write isShown key
    | .drafts => noticeEdit

/-- Write to the form. -/
def put (w : Write) : Visit Bool := write react w

end Session

end DynamicForms
