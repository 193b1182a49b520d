import DynamicForms.Lookup.Worker
import DynamicForms.Store.Run

/-!
# `DynamicForms.Lookup.Engine` — all lookups of a form

An engine has one worker for each lookup of a form. A worker looks at the form when it starts and
whenever a value that its lookup depends on changes. If the lookup is ready under a new key, its current
request is given up and another one goes out. If it is not ready any more, its current request is given
up, and its targets are cleared in case everything it depends on is still there.

Requests stay in flight until they are answered, also those that were given up. An answer is taken only
for the current request of a worker: data goes to those targets that it names, anything else clears the
targets and leaves a message. Hidden targets are passed over.

## Contents
- `Errand`, `Engine`.
- **Looking at the form.** `Engine.evaluate`.
- **Answers.** `Engine.complete`.
- `Engine.start`, `Engine.close`, `Engine.dismiss`.
-/

namespace DynamicForms

/-- A request in flight. -/
structure Errand where
  /-- Its number. -/
  id : Nat
  /-- The worker that asked for it. -/
  worker : String
  /-- Its key. -/
  key : String
  /-- Where it goes. -/
  endpoint : String
  /-- What it asks about. -/
  params : Value.Object
  deriving Repr, Inhabited

/-- All lookups of a form. -/
structure Engine where
  /-- The workers by the path of the item that declares the lookup. -/
  workers : Entries Worker
  /-- The requests in flight, in the order they were asked for. -/
  inFlight : List Errand
  /-- The number of the next request. -/
  nextId : Nat
  /-- The workers whose status changed, in order. -/
  events : List String
  deriving Repr, Inhabited

namespace Engine

/-- An engine that has not started. -/
def ofLookups (lookups : List Lookup) : Engine :=
  ⟨Entries.ofPairs (lookups.map fun l => (l.key, Worker.ofLookup l)), [], 0, []⟩

/-- Change one worker. -/
def changeWorker (e : Engine) (key : String) (f : Worker → Worker) : Engine :=
  { e with workers := e.workers.change key f }

/-- The request in flight with a number. -/
def errand? (e : Engine) (id : Nat) : Option Errand :=
  e.inFlight.find? fun errand => errand.id == id

/-- Whether a request is in flight. -/
def isInFlight (e : Engine) (id : Nat) : Bool :=
  (e.errand? id).isSome

/-- Whether a worker has requests in flight. -/
def hasInFlight (e : Engine) (key : String) : Bool :=
  e.inFlight.any fun errand => errand.worker == key

/-- Whether any request is in flight. -/
def isBusy (e : Engine) : Bool :=
  !e.inFlight.isEmpty

/-- The engine after a worker asked for an answer. -/
def ask (e : Engine) (key : String) (w : Worker) (request : String) : Engine :=
  { e.changeWorker key fun w => { w with current := some ⟨e.nextId, request, false⟩ } with
    inFlight := e.inFlight ++ [⟨e.nextId, key, request, w.lookup.endpoint, keyParams request⟩]
    nextId := e.nextId + 1 }

/-- The engine after a request was answered. -/
def land (e : Engine) (errand : Errand) : Engine :=
  { e.changeWorker errand.worker fun w => w.noteAnswered errand.id with
    inFlight := e.inFlight.filter fun other => other.id != errand.id }

/-- The engine without the requests of one worker. -/
def callOff (e : Engine) (key : String) : Engine :=
  { e with inFlight := e.inFlight.filter fun errand => errand.worker != key }

/-- What a form shows of its lookups. -/
def status (e : Engine) (data : Value.Object) : Entries Status :=
  e.workers.map fun (key, w) => (key, w.status data)

variable {κ σ : Type} (part : Part σ Engine) (write : Writer κ σ)
  (isShown : σ → String → Bool)

/-- The worker under a key. -/
def worker? (key : String) : Run κ σ (Option Worker) := do
  return (← part.read).workers.get? key

/-- Change one worker. -/
def updateWorker (key : String) (f : Worker → Worker) : Run κ σ Unit :=
  part.update fun e => e.changeWorker key f

/-- Note that the status of a worker changed. -/
def announce (key : String) : Run κ σ Unit :=
  part.update fun e => { e with events := e.events ++ [key] }

/-- Enter a phase. -/
def enterPhase (key : String) (phase : Phase) : Run κ σ Unit := do
  match ← worker? part key with
  | some w =>
    if w.phase != phase then
      updateWorker part key fun w => { w with phase }
      announce part key
  | none => return

/-- Give the current request up. -/
def invalidate (key : String) : Run κ σ Unit :=
  updateWorker part key fun w => { w with current := none }

/-- Write to the targets of a lookup that are shown; what to write is said by target. Each write may
change which of the further targets are shown. -/
def writeTargets (targets : List Reference) (content : Reference → Option Value) :
    Run κ σ Unit :=
  targets.forM fun target => do
    let parts := (← get).parts
    if isShown parts target.path then
      match content target with
      | some v =>
        let _ ← write (.set target.path v)
      | none => return

/-- Clear the targets of a lookup. -/
def clearTargets (targets : List Reference) : Run κ σ Unit :=
  writeTargets write isShown targets fun _ => some (.text "")

/-! ## Looking at the form -/

/-- What a worker does when its lookup is ready under a key. -/
def request (key : String) (w : Worker) (requestKey : String) : Run κ σ Unit := do
  updateWorker part key fun w => { w with wasReady := true }
  if w.hasAskedFor requestKey then return
  part.update fun e => e.ask key w requestKey
  enterPhase part key .loading

/-- What a worker does when its lookup is not ready. -/
def standBy (key : String) (w : Worker) (data : Value.Object) : Run κ σ Unit := do
  invalidate part key
  if w.wasReady && !w.lookup.isUnregistered data then
    clearTargets write isShown w.lookup.targets
  updateWorker part key fun w => { w with wasReady := false }
  enterPhase part key (if w.lookup.dependsOn.isEmpty then .idle else .waiting)

/-- Have a worker look at the form. -/
def evaluate (key : String) : Run κ σ Unit := do
  match ← worker? part key with
  | none => return
  | some w =>
    let data ← readData
    match w.lookup.requestKey? data with
    | .error fault => throw fault
    | .ok (some requestKey) => request part key w requestKey
    | .ok none => standBy part write isShown key w data

/-! ## Answers -/

/-- Take an answer that brings data. -/
def accept (key : String) (targets : List Reference) (data : Value.Object) : Run κ σ Unit := do
  updateWorker part key fun w => { w with error := none }
  enterPhase part key .success
  writeTargets write isShown targets fun target => Entries.get? data target.key

/-- Take an answer that brings no data. -/
def reject (key : String) (targets : List Reference) (message : String) : Run κ σ Unit := do
  updateWorker part key fun w => { w with error := some message }
  enterPhase part key .error
  clearTargets write isShown targets

/-- Take the answer to the current request of a worker. -/
def receive (errand : Errand) (targets : List Reference) (result : LookupResult) : Run κ σ Unit := do
  match result.verdict with
  | .ok data => accept part write isShown errand.worker targets data
  | .error message => reject part write isShown errand.worker targets message
  updateWorker part errand.worker fun w => { w with lastKey := some errand.key }
  announce part errand.worker

/-- A request is answered. The answer is taken if it is the current request of its worker. -/
def complete (id : Nat) (result : LookupResult) : Run κ σ Unit := do
  match (← part.read).errand? id with
  | none => return
  | some errand =>
    part.update fun e => e.land errand
    match ← worker? part errand.worker with
    | some w =>
      if w.isCurrent id then receive part write isShown errand w.lookup.targets result
    | none => return

/-! ## Starting and closing -/

/-- Start one worker: subscribe to what its lookup depends on, and look at the form. -/
def startWorker (owner : String → κ) (key : String) : Run κ σ Unit := do
  match ← worker? part key with
  | none => return
  | some w =>
    if w.ticket.isNone && !w.lookup.dependsOn.isEmpty then
      let ticket ← subscribe w.lookup.dependencyPaths (owner key)
      updateWorker part key fun w => { w with ticket := some ticket }
    evaluate part write isShown key

/-- Start all workers. -/
def start (owner : String → κ) : Run κ σ Unit := do
  (← part.read).workers.keys.forM (startWorker part write isShown owner)

/-- Close one worker: it gives up its subscription and its requests. -/
def closeWorker (key : String) : Run κ σ Unit := do
  match ← worker? part key with
  | none => return
  | some w =>
    match w.ticket with
    | some ticket => unsubscribe ticket
    | none => pure ()
    updateWorker part key fun w => { w with ticket := none, current := none }
    part.update fun e => e.callOff key

/-- Close all workers. -/
def close : Run κ σ Unit := do
  (← part.read).workers.keys.forM (closeWorker part)

/-- Forget what was said about the last answer of a worker. -/
def dismiss (key : String) : Run κ σ Unit := do
  match ← worker? part key with
  | none => return
  | some _ =>
    updateWorker part key fun w => { w with error := none }
    announce part key

end Engine

end DynamicForms
