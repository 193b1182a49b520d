import DynamicForms.Proofs.Lookup.Mirror
import DynamicForms.Proofs.Lookup.Step

/-!
# `DynamicForms.Proofs.Lookup.Journal` — a desk that keeps a journal

At a desk with a journal everything is done as at the desk itself, and three things are written down in
the order in which they happen: for which key a lookup was ready when its worker looked at the form,
which requests were asked for, and which answers to requests in flight came in. Requests are written
down by what they do to the engine, wherever in a run they are asked for; a look at the form is written
down just before it is taken, and an answer just before it lands.

A run goes on after a step that fails, with what that step has done.

## Contents
- `Record`, `Journal`, with `Record.saw?`, `Record.asked?`.
- **Steps.** `Journal.look`, `Journal.complete`, `Journal.start`, `Journal.step`.
- **Runs.** `Desk.carryOn`, `Journal.carryOn`.
- `Journal.mirrors_carryOn`: the journal changes nothing.
-/

namespace DynamicForms

/-- What is written down. -/
inductive Record where
  /-- A worker looked at the form; this is the key that its lookup was ready for, if it was. -/
  | saw (key : String) (found : Option String)
  /-- A request was asked for. -/
  | asked (errand : Errand)
  /-- A request in flight was answered. -/
  | answered (id : Nat) (result : LookupResult)

/-- A desk with its journal. -/
structure Journal where
  /-- The desk. -/
  desk : Desk
  /-- What was written down, in order. -/
  records : List Record

namespace Record

/-- What a worker saw when it looked at the form. -/
def saw? (key : String) : Record → Option (Option String)
  | .saw other found => if other = key then some found else none
  | _ => none

/-- The request that was asked for. -/
def errand? : Record → Option Errand
  | .asked errand => some errand
  | _ => none

/-- The request that a worker asked for. -/
def asked? (key : String) : Record → Option Errand
  | .asked errand => if errand.worker = key then some errand else none
  | _ => none

end Record

namespace Journal

/-- A run of a desk with a journal. -/
abbrev Shift := Run String Journal

/-- The lookups. Putting in an engine with more requests in flight writes the new ones down. -/
def enginePart : Part Journal Engine where
  get j := j.desk.engine
  set e j :=
    { desk := { j.desk with engine := e }
      records := j.records ++ (e.inFlight.drop j.desk.engine.inFlight.length).map .asked }
  get_set _ _ := rfl
  set_get j := by simp

/-- The hidden paths. -/
def hiddenPart : Part Journal (Option (List String)) where
  get j := j.desk.hidden
  set hidden j := { j with desk := { j.desk with hidden } }
  get_set _ _ := rfl
  set_get _ := rfl

/-- Whether a path is not hidden. -/
def isShown (j : Journal) (path : String) : Bool := j.desk.isShown path

/-- Write something down. -/
def note (r : Record) : Shift Unit :=
  modify fun w => { w with parts := { w.parts with records := w.parts.records ++ [r] } }

/-! ## Steps -/

/-- Write down what a worker will see if it looks at the form. -/
def noteSight (key : String) : Shift Unit := do
  match ← Engine.worker? enginePart key with
  | none => return
  | some worker =>
    match worker.lookup.requestKey? (← readData) with
    | .ok found => note (.saw key found)
    | .error _ => return

/-- A worker looks at the form. -/
def look (put : Writer String Journal) (key : String) : Shift Unit := do
  noteSight key
  Engine.evaluate enginePart put isShown key

/-- A worker that is told of a change looks at the form. -/
def react : React String Journal := fun put key _ => look put key

/-- Write to the form. -/
def put (wr : Write) : Shift Bool := write react wr

/-- Start one worker: it will look at the form. -/
def startWorker (key : String) : Shift Unit := do
  noteSight key
  Engine.startWorker enginePart put isShown id key

/-- Start all workers. -/
def start : Shift Unit := do
  (← enginePart.read).workers.keys.forM startWorker

/-- Write down the answer to a request in flight. -/
def noteAnswer (id : Nat) (result : LookupResult) : Shift Unit := do
  if (← enginePart.read).isInFlight id then
    note (.answered id result)

/-- A request is answered. -/
def complete (id : Nat) (result : LookupResult) : Shift Unit := do
  noteAnswer id result
  Engine.complete enginePart put isShown id result

/-- A step. -/
def step : Desk.Event → Shift Unit
  | .write wr => do
    let _ ← put wr
  | .evaluate key => look put key
  | .dismiss key => Engine.dismiss enginePart key
  | .hide path => hiddenPart.update fun hidden => hidden.map fun paths => path :: paths
  | .reveal path => hiddenPart.update fun hidden => hidden.map fun paths => paths.filter (· != path)
  | .complete id result => complete id result
  | .close key => Engine.closeWorker enginePart key

end Journal

/-! ## Runs -/

/-- The start and some steps, one after the other; a step that fails concerns no other. -/
def Desk.carryOn (events : List Desk.Event) : Desk.Shift Unit := do
  Agenda.attempt Desk.start
  events.forM fun e => Agenda.attempt (e.runWith Desk.put)

namespace Journal

/-- The same with a journal. -/
def carryOn (events : List Desk.Event) : Shift Unit := do
  Agenda.attempt start
  events.forM fun e => Agenda.attempt (step e)

/-- A desk over the data of a form before anything was started, with an empty journal. -/
def world (lookups : List Lookup) (channel : Channel) (wire : Wire) (hidden : Option (List String))
    (data : Value.Object) : World String Journal :=
  ⟨Store.ofData data, ⟨⟨.ofLookups lookups, .ofChannel channel wire, hidden, 0⟩, []⟩⟩

/-! ## The journal changes nothing -/

open Run (Mirrors mirrors_pure mirrors_bind mirrors_forM mirrors_of_note mirrors_attempt)

theorem agrees_enginePart : enginePart.Agrees Journal.desk Desk.enginePart :=
  ⟨fun _ => rfl, fun _ _ => rfl⟩

theorem agrees_hiddenPart : hiddenPart.Agrees Journal.desk Desk.hiddenPart :=
  ⟨fun _ => rfl, fun _ _ => rfl⟩

theorem mirrors_note (r : Record) : Mirrors Journal.desk (note r) (pure ()) := fun _ => rfl

theorem run_worker? (key : String) (w : World String Journal) :
    (Engine.worker? enginePart key : Shift (Option Worker)).run w
      = .ok (w.parts.desk.engine.workers.get? key) w := rfl

theorem run_note (r : Record) (w : World String Journal) :
    (note r).run w = .ok () ⟨w.store, { w.parts with records := w.parts.records ++ [r] }⟩ := rfl

/-- What is written down before a worker looks at the form. -/
theorem run_noteSight (key : String) (w : World String Journal) :
    (noteSight key).run w = .ok () (match w.parts.desk.engine.workers.get? key with
      | none => w
      | some worker => match worker.lookup.requestKey? w.store.data with
        | .ok found => ⟨w.store, { w.parts with records := w.parts.records ++ [.saw key found] }⟩
        | .error _ => w) := by
  simp only [noteSight, EStateM.run_bind, run_worker?]
  cases w.parts.desk.engine.workers.get? key with
  | none => rfl
  | some worker =>
    simp only [EStateM.run_bind, run_readData]
    cases worker.lookup.requestKey? w.store.data with
    | ok found => rfl
    | error fault => rfl

/-- What is written down before a request is answered. -/
theorem run_noteAnswer (id : Nat) (result : LookupResult) (w : World String Journal) :
    (noteAnswer id result).run w = .ok () (if w.parts.desk.engine.isInFlight id then
      ⟨w.store, { w.parts with records := w.parts.records ++ [.answered id result] }⟩ else w) := by
  show (if w.parts.desk.engine.isInFlight id then note (.answered id result)
    else pure () : Shift Unit).run w = _
  cases w.parts.desk.engine.isInFlight id <;> rfl

theorem mirrors_noteSight (key : String) :
    Mirrors Journal.desk (noteSight key) (pure ()) := by
  intro w
  rw [run_noteSight]
  cases w.parts.desk.engine.workers.get? key with
  | none => rfl
  | some worker =>
    dsimp only
    cases worker.lookup.requestKey? w.store.data <;> rfl

theorem mirrors_noteAnswer (id : Nat) (result : LookupResult) :
    Mirrors Journal.desk (noteAnswer id result) (pure ()) := by
  intro w
  rw [run_noteAnswer]
  cases w.parts.desk.engine.isInFlight id <;> rfl

theorem mirrors_look {put' : Writer String Journal} {put : Writer String Desk}
    (hput : ∀ wr, Mirrors Journal.desk (put' wr) (put wr)) (key : String) :
    Mirrors Journal.desk (look put' key)
      (Engine.evaluate Desk.enginePart put Desk.isShown key) :=
  mirrors_of_note (mirrors_noteSight key)
    (Engine.mirrors_evaluate hput (fun _ => rfl) agrees_enginePart key)

theorem mirrors_put (wr : Write) : Mirrors Journal.desk (put wr) (Desk.put wr) :=
  mirrors_write (fun _ _ h key _ => mirrors_look h key) wr

theorem mirrors_start : Mirrors Journal.desk start Desk.start :=
  mirrors_bind agrees_enginePart.read fun _ => mirrors_forM (fun key =>
    mirrors_of_note (mirrors_noteSight key)
      (Engine.mirrors_startWorker mirrors_put (fun _ => rfl) agrees_enginePart id key)) _

/-- **A step with a journal does what the step does.** -/
theorem mirrors_step (e : Desk.Event) :
    Mirrors Journal.desk (step e) (e.runWith Desk.put) := by
  cases e with
  | write wr => exact mirrors_bind (mirrors_put wr) fun _ => mirrors_pure ()
  | evaluate key => exact mirrors_look mirrors_put key
  | dismiss key => exact Engine.mirrors_dismiss agrees_enginePart key
  | hide path => exact agrees_hiddenPart.update _
  | reveal path => exact agrees_hiddenPart.update _
  | complete id result =>
    exact mirrors_of_note (mirrors_noteAnswer id result)
      (Engine.mirrors_complete mirrors_put (fun _ => rfl) agrees_enginePart id result)
  | close key => exact Engine.mirrors_closeWorker agrees_enginePart key

theorem mirrors_carryOn (events : List Desk.Event) :
    Mirrors Journal.desk (carryOn events) (Desk.carryOn events) :=
  mirrors_bind (mirrors_attempt mirrors_start) fun _ =>
    mirrors_forM (fun e => mirrors_attempt (mirrors_step e)) events

end Journal

end DynamicForms
