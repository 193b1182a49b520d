import DynamicForms.Lookup.Engine
import DynamicForms.Proofs.Store.Run

/-!
# `DynamicForms.Proofs.Lookup.Engine` — what an engine does, whatever it is a part of

An engine runs at a desk of its own, at a desk with a journal, and in a session among other parts. What its
programs do depends on the engine and the store only, so it is said here once, for any state that has an
engine: which program goes on after the worker under a key was looked up, and in which world.

## Contents
- **Looking at the form.** `run_enterPhase`, `run_evaluate`, `run_evaluate_of_error`.
- **Answers.** `run_complete_of_some`, `run_complete_of_gone`, `run_complete_of_none`.
- **Starting and closing.** `run_startWorker`, `run_closeWorker`, `run_dismiss`, each with what happens
  where no worker has the key.
-/

namespace DynamicForms.Engine

variable {κ σ : Type} (part : Part σ Engine) {write : Writer κ σ} {isShown : σ → String → Bool}
  {w : World κ σ} {key : String} {worker : Worker}

/-- A world after its engine has changed. -/
def changed (w : World κ σ) (change : Engine → Engine) : World κ σ :=
  { w with parts := part.set (change (part.get w.parts)) w.parts }

theorem run_update (change : Engine → Engine) (w : World κ σ) :
    (part.update change : Run κ σ Unit).run w = .ok () (changed part w change) := rfl

theorem run_worker? (key : String) (w : World κ σ) :
    (worker? part key : Run κ σ (Option Worker)).run w = .ok ((part.get w.parts).workers.get? key) w :=
  rfl

/-! ## Looking at the form -/

theorem run_enterPhase_of_none (h : (part.get w.parts).workers.get? key = none) (phase : Phase) :
    (enterPhase part key phase : Run κ σ Unit).run w = .ok () w := by
  simp only [enterPhase, EStateM.run_bind, run_worker?, h]
  rfl

/-- A worker enters a phase if it is in another one. -/
theorem run_enterPhase (h : (part.get w.parts).workers.get? key = some worker) (phase : Phase) :
    (enterPhase part key phase : Run κ σ Unit).run w
      = (if worker.phase != phase then do
          updateWorker part key fun worker => { worker with phase }
          announce part key
        else pure () : Run κ σ Unit).run w := by
  simp only [enterPhase, EStateM.run_bind, run_worker?, h]

theorem run_evaluate_of_none (h : (part.get w.parts).workers.get? key = none) :
    (evaluate part write isShown key).run w = .ok () w := by
  simp only [evaluate, EStateM.run_bind, run_worker?, h]
  rfl

/-- A worker whose key cannot be written is at fault. -/
theorem run_evaluate_of_error (h : (part.get w.parts).workers.get? key = some worker) {fault : Fault}
    (hkey : worker.lookup.requestKey? w.store.data = .error fault) :
    (evaluate part write isShown key).run w = .error fault w := by
  simp only [evaluate, EStateM.run_bind, run_worker?, h, run_readData, hkey]
  rfl

/-- A worker that looks at the form makes a request or stands by. -/
theorem run_evaluate (h : (part.get w.parts).workers.get? key = some worker) {found : Option String}
    (hkey : worker.lookup.requestKey? w.store.data = .ok found) :
    (evaluate part write isShown key).run w
      = (match found with
        | some requestKey => request part key worker requestKey
        | none => standBy part write isShown key worker w.store.data : Run κ σ Unit).run w := by
  simp only [evaluate, EStateM.run_bind, run_worker?, h, run_readData, hkey]
  cases found <;> rfl

/-! ## Answers -/

theorem run_complete_of_none {id : Nat} (h : (part.get w.parts).errand? id = none)
    (result : LookupResult) : (complete part write isShown id result).run w = .ok () w := by
  simp only [complete, EStateM.run_bind, Part.run_read, h]
  rfl

/-- An answer to a worker that is not there lands without a trace. -/
theorem run_complete_of_gone {id : Nat} {errand : Errand}
    (h : (part.get w.parts).errand? id = some errand)
    (hworker : (part.get (changed part w (·.land errand)).parts).workers.get? errand.worker = none)
    (result : LookupResult) :
    (complete part write isShown id result).run w = .ok () (changed part w (·.land errand)) := by
  simp only [complete, EStateM.run_bind, Part.run_read, h, run_update, run_worker?, hworker]
  rfl

/-- An answer lands, and it is taken if it is that to the current request of its worker. -/
theorem run_complete_of_some {id : Nat} {errand : Errand}
    (h : (part.get w.parts).errand? id = some errand)
    (hworker : (part.get (changed part w (·.land errand)).parts).workers.get? errand.worker
      = some worker) (result : LookupResult) :
    (complete part write isShown id result).run w
      = (if worker.isCurrent id then receive part write isShown errand worker.lookup.targets result
        else pure () : Run κ σ Unit).run (changed part w (·.land errand)) := by
  simp only [complete, EStateM.run_bind, Part.run_read, h, run_update, run_worker?, hworker]

/-! ## Starting and closing -/

/-- A world after a worker got a ticket. -/
def opened (w : World κ σ) (owner : κ) (key : String) (worker : Worker) : World κ σ :=
  ⟨(w.store.subscribe worker.lookup.dependencyPaths owner).2,
    (changed part w (·.changeWorker key fun worker =>
      { worker with ticket := some w.store.nextTicket })).parts⟩

theorem run_startWorker_of_none (h : (part.get w.parts).workers.get? key = none) (owner : String → κ) :
    (startWorker part write isShown owner key).run w = .ok () w := by
  simp only [startWorker, EStateM.run_bind, run_worker?, h]
  rfl

/-- A worker that is started gets a ticket if it needs one, and looks at the form. -/
theorem run_startWorker (h : (part.get w.parts).workers.get? key = some worker) (owner : String → κ) :
    (startWorker part write isShown owner key).run w
      = if worker.ticket.isNone && !worker.lookup.dependsOn.isEmpty then
          (evaluate part write isShown key).run (opened part w (owner key) key worker)
        else (evaluate part write isShown key).run w := by
  simp only [startWorker, EStateM.run_bind, run_worker?, h]
  split <;> rfl

/-- A world after a worker was closed. -/
def closed (w : World κ σ) (key : String) (worker : Worker) : World κ σ :=
  ⟨match worker.ticket with
    | some ticket => w.store.unsubscribe ticket
    | none => w.store,
  (changed part (changed part w (·.changeWorker key fun worker =>
    { worker with ticket := none, current := none })) (·.callOff key)).parts⟩

theorem run_closeWorker_of_none (h : (part.get w.parts).workers.get? key = none) :
    (closeWorker part key : Run κ σ Unit).run w = .ok () w := by
  simp only [closeWorker, EStateM.run_bind, run_worker?, h]
  rfl

/-- A worker that is closed gives up its ticket and its requests. -/
theorem run_closeWorker (h : (part.get w.parts).workers.get? key = some worker) :
    (closeWorker part key : Run κ σ Unit).run w = .ok () (closed part w key worker) := by
  simp only [closeWorker, EStateM.run_bind, run_worker?, h, closed]
  cases worker.ticket <;> rfl

theorem run_dismiss_of_none (h : (part.get w.parts).workers.get? key = none) :
    (dismiss part key : Run κ σ Unit).run w = .ok () w := by
  simp only [dismiss, EStateM.run_bind, run_worker?, h]
  rfl

/-- What was said about the last answer is forgotten. -/
theorem run_dismiss (h : (part.get w.parts).workers.get? key = some worker) :
    (dismiss part key : Run κ σ Unit).run w = (do
      updateWorker part key fun worker => { worker with error := none }
      announce part key : Run κ σ Unit).run w := by
  simp only [dismiss, EStateM.run_bind, run_worker?, h]

end DynamicForms.Engine
