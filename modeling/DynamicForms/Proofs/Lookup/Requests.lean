import DynamicForms.Proofs.Lookup.Keep
import DynamicForms.Proofs.Lookup.Ledger
import DynamicForms.Proofs.Lookup.Start

/-!
# `DynamicForms.Proofs.Lookup.Requests` — what a worker asks for

Whatever is done at a desk with a journal, its ledger changes only in the ways that ledgers do, also if
a program fails: a look at the form is one change of the ledger together with what is written down just
before, and what follows it changes the ledger only by further looks. So the requests of a worker are
the keys that it has seen, without repetitions, at any moment of any run.

## Contents
- **Changes of an engine.** `ledger_changeWorker`, `ledger_ask`, `ledger_land`.
- `Journal.Reaches`; `keeps_look`, `keeps_put`, `keeps_start`.
- **Answers and closing.** `reaches_complete`, `ledger_shut`; `keeps_step`.
- `Desk.requests_of_run`.
-/

namespace DynamicForms

open Run (Keeps keeps_pure keeps_bind keeps_forM keeps_attempt)

namespace Journal

/-! ## Changes of an engine -/

section

variable {j : Journal} {key : String} {f : Worker → Worker} {worker : Worker}

theorem current?_changeWorker (e : Engine) (key : String) (f : Worker → Worker) :
    (fun other => ((e.changeWorker key f).workers.get? other).bind (·.current))
      = Function.update (fun other => (e.workers.get? other).bind (·.current)) key
          ((e.workers.get? key).bind fun worker => (f worker).current) := by
  funext other
  show ((e.workers.change key f).get? other).bind _ = _
  by_cases ho : other = key
  · subst ho
    rw [Entries.get?_change_self, Function.update_self]
    cases e.workers.get? other <;> rfl
  · rw [Entries.get?_change_of_ne ho, Function.update_of_ne ho]

/-- What a ledger has of a worker that is there. -/
theorem ledger_current? (hworker : j.desk.engine.workers.get? key = some worker) :
    j.ledger.current? key = worker.current := by
  show (j.desk.engine.workers.get? key).bind _ = _
  rw [hworker]
  rfl

theorem ledger_lookup? (hworker : j.desk.engine.workers.get? key = some worker) :
    j.ledger.lookup? key = some worker.lookup := by
  show (j.desk.engine.workers.get? key).map _ = _
  rw [hworker]
  rfl

/-- Nothing is written down if there are no more requests in flight. -/
theorem records_set {e : Engine} (h : e.inFlight.length ≤ j.desk.engine.inFlight.length) :
    (enginePart.set e j).records = j.records := by
  show j.records ++ (e.inFlight.drop j.desk.engine.inFlight.length).map Record.asked = j.records
  rw [List.drop_eq_nil_of_le h, List.map_nil, List.append_nil]

/-- A change of a worker changes its current request and nothing else. -/
theorem ledger_changeWorker (hf : ∀ worker, (f worker).lookup = worker.lookup) (j : Journal)
    (key : String) :
    (enginePart.set (j.desk.engine.changeWorker key f) j).ledger
      = j.ledger.setCurrent key
          ((j.desk.engine.workers.get? key).bind fun worker => (f worker).current) := by
  show (⟨_, _, _, _, _⟩ : Ledger) = ⟨_, _, _, _, _⟩
  rw [Ledger.mk.injEq]
  exact ⟨records_set (Nat.le_refl _), rfl, rfl,
    funext (Engine.lookup?_changeWorker hf _), current?_changeWorker _ key f⟩

/-- A change of a worker that leaves its current request alone changes nothing. -/
theorem ledger_of_quiet (hf : ∀ worker, (f worker).lookup = worker.lookup)
    (hcurrent : ∀ worker, (f worker).current = worker.current) (j : Journal) (key : String) :
    (enginePart.set (j.desk.engine.changeWorker key f) j).ledger = j.ledger := by
  rw [ledger_changeWorker hf]
  simp only [hcurrent]
  exact congrArg (fun current? => { j.ledger with current? })
    (Function.update_eq_self key j.ledger.current?)

theorem ledger_ask (hworker : j.desk.engine.workers.get? key = some worker) (requestKey : String) :
    (enginePart.set (j.desk.engine.ask key worker requestKey) j).ledger
      = j.ledger.ask key requestKey worker.lookup := by
  let request : CurrentRequest := ⟨j.desk.engine.nextId, requestKey, false⟩
  have hcurrent := current?_changeWorker j.desk.engine key fun w => { w with current := some request }
  rw [hworker] at hcurrent
  show (⟨_, _, _, _, _⟩ : Ledger) = ⟨_, _, _, _, _⟩
  rw [Ledger.mk.injEq]
  refine ⟨?_, rfl, rfl, funext ?_, hcurrent⟩
  · exact congrArg (fun more : List Errand => j.records ++ more.map Record.asked) List.drop_left
  · exact Engine.lookup?_changeWorker (f := fun w => { w with current := some request }) (fun _ => rfl) _

theorem ledger_land (j : Journal) (errand : Errand) :
    (enginePart.set (j.desk.engine.land errand) j).ledger
      = { j.ledger.setCurrent errand.worker
            ((j.ledger.current? errand.worker).map (Ledger.marked errand.id)) with
          inFlight := j.desk.engine.inFlight.filter fun other => other.id != errand.id } := by
  have hcurrent := current?_changeWorker j.desk.engine errand.worker
    fun worker => worker.noteAnswered errand.id
  have hmarked : ((j.desk.engine.workers.get? errand.worker).bind fun worker =>
      (worker.noteAnswered errand.id).current)
      = (j.ledger.current? errand.worker).map (Ledger.marked errand.id) := by
    show _ = ((j.desk.engine.workers.get? errand.worker).bind (·.current)).map _
    cases j.desk.engine.workers.get? errand.worker <;> rfl
  show (⟨_, _, _, _, _⟩ : Ledger) = ⟨_, _, _, _, _⟩
  rw [Ledger.mk.injEq]
  exact ⟨records_set (List.length_filter_le _ _), rfl, rfl,
    funext (Engine.lookup?_changeWorker (f := fun worker => worker.noteAnswered errand.id)
      (fun _ => rfl) _), hcurrent.trans (by rw [hmarked]; rfl)⟩

theorem ledger_callOff (j : Journal) (key : String) :
    (enginePart.set (j.desk.engine.callOff key) j).ledger
      = { j.ledger with
          inFlight := j.desk.engine.inFlight.filter fun errand => errand.worker != key } := by
  show (⟨_, _, _, _, _⟩ : Ledger) = ⟨_, _, _, _, _⟩
  rw [Ledger.mk.injEq]
  exact ⟨records_set (List.length_filter_le _ _), rfl, rfl, rfl, rfl⟩

end

/-! ## Looks -/

/-- The ledger of a world has come from an earlier one. -/
def Reaches (R : Ledger → Ledger → Prop) (b : Ledger) (w : World String Journal) : Prop :=
  Relation.ReflTransGen R b w.parts.ledger

section

variable {R : Ledger → Ledger → Prop} {b : Ledger} {put : Writer String Journal}

theorem Reaches.of_ledger {w w' : World String Journal} (h : Reaches R b w)
    (hledger : w'.parts.ledger = w.parts.ledger) : Reaches R b w' := by
  rw [Reaches, hledger]
  exact h

theorem Reaches.step {w w' : World String Journal} (h : Reaches R b w)
    (hstep : R w.parts.ledger w'.parts.ledger) : Reaches R b w' := Relation.ReflTransGen.tail h hstep

theorem keeps_update {change : Engine → Engine}
    (h : ∀ j : Journal, (enginePart.set (change j.desk.engine) j).ledger = j.ledger) :
    Keeps (Reaches R b) (enginePart.update change : Shift Unit) :=
  fun w hw => hw.of_ledger (h w.parts)

theorem keeps_updateWorker {f : Worker → Worker} (hf : ∀ worker, (f worker).lookup = worker.lookup)
    (hcurrent : ∀ worker, (f worker).current = worker.current) (key : String) :
    Keeps (Reaches R b) (Engine.updateWorker enginePart key f : Shift Unit) :=
  keeps_update fun j => ledger_of_quiet hf hcurrent j key

theorem keeps_announce (key : String) :
    Keeps (Reaches R b) (Engine.announce enginePart key : Shift Unit) := by
  refine keeps_update fun j => ?_
  show (⟨_, _, _, _, _⟩ : Ledger) = ⟨_, _, _, _, _⟩
  rw [Ledger.mk.injEq]
  exact ⟨records_set (Nat.le_refl _), rfl, rfl, rfl, rfl⟩

theorem keeps_worker? (key : String) :
    Keeps (Reaches R b) (Engine.worker? enginePart key : Shift (Option Worker)) := fun _ => id

theorem keeps_enterPhase (key : String) (phase : Phase) :
    Keeps (Reaches R b) (Engine.enterPhase enginePart key phase : Shift Unit) := by
  refine keeps_bind (keeps_worker? key) fun found => ?_
  cases found with
  | none => exact keeps_pure ()
  | some worker =>
    dsimp only
    split
    · exact keeps_bind (keeps_updateWorker (f := fun worker => { worker with phase })
        (fun _ => rfl) (fun _ => rfl) key) fun _ => keeps_announce key
    · exact keeps_pure ()

theorem keeps_writeTargets (hput : ∀ wr, Keeps (Reaches R b) (put wr)) (targets : List Reference)
    (content : Reference → Option Value) :
    Keeps (Reaches R b) (Engine.writeTargets put isShown targets content) := by
  refine keeps_forM fun target _ => ?_
  refine keeps_bind (fun _ => id) fun w => ?_
  dsimp only
  split
  · cases content target with
    | none => exact keeps_pure ()
    | some v => exact keeps_bind (hput _) fun _ => keeps_pure ()
  · exact keeps_pure ()

/-- What a worker does whose lookup is not ready, once its request is given up. -/
theorem keeps_standBy_rest (hput : ∀ wr, Keeps (Reaches R b) (put wr)) (key : String)
    (worker : Worker) (data : Value.Object) :
    Keeps (Reaches R b) (do
      if worker.wasReady && !worker.lookup.isUnregistered data then
        Engine.clearTargets put isShown worker.lookup.targets
      Engine.updateWorker enginePart key fun w => { w with wasReady := false }
      Engine.enterPhase enginePart key
        (if worker.lookup.dependsOn.isEmpty then .idle else .waiting) : Shift Unit) := by
  have hend : Keeps (Reaches R b) (do
      Engine.updateWorker enginePart key fun w => { w with wasReady := false }
      Engine.enterPhase enginePart key
        (if worker.lookup.dependsOn.isEmpty then .idle else .waiting) : Shift Unit) :=
    keeps_bind (keeps_updateWorker (f := fun worker => { worker with wasReady := false })
      (fun _ => rfl) (fun _ => rfl) key) fun _ => keeps_enterPhase key _
  cases worker.wasReady && !worker.lookup.isUnregistered data with
  | false => exact hend
  | true => exact keeps_bind (keeps_writeTargets hput _ _) fun _ => hend

theorem outcome_congr {m m' : Shift Unit} {w w' : World String Journal}
    (h : m.run w = m'.run w') : m.outcome w = m'.outcome w' := by
  rw [Run.outcome, h, Run.outcome]

/-- The ledger after a look at the form was written down. -/
theorem ledger_sight (j : Journal) (key : String) (found : Option String) :
    ({ j with records := j.records ++ [.saw key found] } : Journal).ledger
      = j.ledger.sight key found := rfl

theorem exists_of_hasAskedFor {worker : Worker} {requestKey : String}
    (h : worker.hasAskedFor requestKey = true) :
    ∃ request, worker.current = some request ∧ request.key = requestKey := by
  unfold Worker.hasAskedFor at h
  cases hcurrent : worker.current with
  | none => simp [hcurrent] at h
  | some request => exact ⟨request, rfl, by simpa [hcurrent] using h⟩

theorem key_ne_of_not_asked {worker : Worker} {requestKey : String}
    (h : worker.hasAskedFor requestKey = false) :
    worker.current.map (·.key) ≠ some requestKey := by
  unfold Worker.hasAskedFor at h
  cases hcurrent : worker.current with
  | none => simp
  | some request => simpa [hcurrent] using h

variable (hR : ∀ {b b'}, Ledger.Look b b' → R b b')

include hR

/-- A worker that has seen that its lookup is not ready gives its request up. -/
theorem reaches_standBy (hput : ∀ wr, Keeps (Reaches R b) (put wr)) {b₀ : Ledger}
    (hb₀ : Relation.ReflTransGen R b b₀) {w : World String Journal} {key : String}
    (hsight : w.parts.ledger = b₀.sight key none) (worker : Worker) (data : Value.Object) :
    Reaches R b ((Engine.standBy enginePart put isShown key worker data).outcome w) := by
  let free (worker : Worker) : Worker := { worker with current := none }
  let w₁ : World String Journal :=
    ⟨w.store, enginePart.set (w.parts.desk.engine.changeWorker key free) w.parts⟩
  have hledger : w₁.parts.ledger = (b₀.setCurrent key none).sight key none := by
    show (enginePart.set (w.parts.desk.engine.changeWorker key free) w.parts).ledger = _
    rw [ledger_changeWorker (f := free) (fun _ => rfl), hsight]
    cases w.parts.desk.engine.workers.get? key <;> rfl
  have hfree : (Engine.invalidate enginePart key : Shift Unit).run w = .ok () w₁ := rfl
  rw [Engine.standBy, Run.outcome_bind_of_ok hfree]
  refine keeps_standBy_rest hput key worker data w₁ ?_
  rw [Reaches, hledger]
  exact hb₀.tail (hR (.rest b₀ key))

/-- A worker that has seen another key than that of its request asks for an answer under it. -/
theorem reaches_ask {b₀ : Ledger} (hb₀ : Relation.ReflTransGen R b b₀)
    {w : World String Journal} {key requestKey : String} {worker : Worker}
    (hsight : w.parts.ledger = b₀.sight key (some requestKey))
    (hworker : w.parts.desk.engine.workers.get? key = some { worker with wasReady := true })
    (hneeds : worker.lookup.dependsOn ≠ []) (hnew : worker.hasAskedFor requestKey = false) :
    Reaches R b (((enginePart.update fun e => e.ask key worker requestKey) >>= fun _ =>
      Engine.enterPhase enginePart key .loading : Shift Unit).outcome w) := by
  let asked : World String Journal :=
    ⟨w.store, enginePart.set (w.parts.desk.engine.ask key worker requestKey) w.parts⟩
  have hledger : asked.parts.ledger
      = (b₀.sight key (some requestKey)).ask key requestKey worker.lookup := by
    rw [← hsight]
    exact ledger_ask hworker requestKey
  have hrun : (enginePart.update fun e => e.ask key worker requestKey : Shift Unit).run w
      = .ok () asked := rfl
  have hcurrent := ledger_current? hworker
  have hlookup := ledger_lookup? hworker
  rw [hsight] at hcurrent hlookup
  rw [Run.outcome_bind_of_ok hrun]
  refine keeps_enterPhase key .loading asked ?_
  rw [Reaches, hledger]
  refine hb₀.tail (hR (.ask hlookup hneeds ?_))
  exact fun hkey => key_ne_of_not_asked hnew ((congrArg _ hcurrent).symm.trans hkey)

/-- A worker that has seen what its lookup is ready for asks for it, unless it has. -/
theorem reaches_request {b₀ : Ledger} (hb₀ : Relation.ReflTransGen R b b₀)
    {w : World String Journal} {key requestKey : String} {worker : Worker}
    (hsight : w.parts.ledger = b₀.sight key (some requestKey))
    (hworker : w.parts.desk.engine.workers.get? key = some worker)
    (hneeds : worker.lookup.dependsOn ≠ []) :
    Reaches R b ((Engine.request enginePart key worker requestKey : Shift Unit).outcome w) := by
  -- first it notes that it is ready
  let ready (worker : Worker) : Worker := { worker with wasReady := true }
  let noted : World String Journal :=
    ⟨w.store, enginePart.set (w.parts.desk.engine.changeWorker key ready) w.parts⟩
  have hledger : noted.parts.ledger = b₀.sight key (some requestKey) :=
    (ledger_of_quiet (f := ready) (fun _ => rfl) (fun _ => rfl) w.parts key).trans hsight
  have hready : (Engine.updateWorker enginePart key ready : Shift Unit).run w = .ok () noted := rfl
  rw [Engine.request, Run.outcome_bind_of_ok hready]
  cases hasked : worker.hasAskedFor requestKey with
  | true =>
    obtain ⟨request, hrequest, rfl⟩ := exists_of_hasAskedFor hasked
    have hcurrent := ledger_current? hworker
    rw [hsight] at hcurrent
    show Relation.ReflTransGen R b noted.parts.ledger
    rw [hledger]
    exact hb₀.tail (hR (.stay (hcurrent.trans hrequest)))
  | false =>
    have hnoted : noted.parts.desk.engine.workers.get? key = some (ready worker) := by
      show (w.parts.desk.engine.workers.change key ready).get? key = _
      rw [Entries.get?_change_self, hworker]
      rfl
    exact reaches_ask hR hb₀ hledger hnoted hneeds hasked

/-- What a worker does once it was written down what it sees. -/
theorem reaches_evaluate (hput : ∀ wr, Keeps (Reaches R b) (put wr)) {b₀ : Ledger}
    (hb₀ : Relation.ReflTransGen R b b₀) {w : World String Journal} {key : String}
    {found : Option String} {worker : Worker} (hsight : w.parts.ledger = b₀.sight key found)
    (hworker : w.parts.desk.engine.workers.get? key = some worker)
    (hkey : worker.lookup.requestKey? w.store.data = .ok found) :
    Reaches R b ((Engine.evaluate enginePart put isShown key).outcome w) := by
  rw [outcome_congr (Engine.run_evaluate enginePart hworker hkey)]
  cases found with
  | none => exact reaches_standBy hR hput hb₀ hsight worker _
  | some requestKey =>
    -- a lookup that depends on nothing is never ready
    refine reaches_request hR hb₀ hsight hworker fun hnothing => ?_
    rw [Lookup.requestKey?_of_no_dependencies hnothing] at hkey
    cases hkey

/-- **A look at the form** changes the ledger as looks do, whatever follows from it. -/
theorem keeps_look (hput : ∀ wr, Keeps (Reaches R b) (put wr)) (key : String) :
    Keeps (Reaches R b) (look put key) := by
  intro w hw
  rw [look, Run.outcome_bind_of_ok (run_noteSight key w)]
  cases hworker : w.parts.desk.engine.workers.get? key with
  | none =>
    dsimp only
    rw [Run.outcome_of_ok (Engine.run_evaluate_of_none enginePart hworker)]
    exact hw
  | some worker =>
    dsimp only
    cases hkey : worker.lookup.requestKey? w.store.data with
    | error fault =>
      dsimp only
      rw [Run.outcome_of_error (Engine.run_evaluate_of_error enginePart hworker hkey)]
      exact hw
    | ok found => exact reaches_evaluate hR hput hw (ledger_sight w.parts key found) hworker hkey

theorem keeps_put (wr : Write) : Keeps (Reaches R b) (Journal.put wr) :=
  keeps_write (fun _ _ => id) (fun _ hput key _ => keeps_look hR hput key) wr

omit hR in
/-- A worker that is started gets a ticket if it needs one, and looks at the form. -/
theorem exists_run_startWorker (put : Writer String Journal) {w : World String Journal}
    {key : String} {worker : Worker}
    (hworker : w.parts.desk.engine.workers.get? key = some worker) :
    ∃ w₁ : World String Journal, ∃ worker₁ : Worker,
      (Engine.startWorker enginePart put isShown id key).run w
        = (Engine.evaluate enginePart put isShown key).run w₁ ∧
      w₁.parts.ledger = w.parts.ledger ∧ w₁.store.data = w.store.data ∧
      w₁.parts.desk.engine.workers.get? key = some worker₁ ∧ worker₁.lookup = worker.lookup := by
  rw [Engine.run_startWorker enginePart hworker id]
  split
  · let opened (worker : Worker) : Worker := { worker with ticket := some w.store.nextTicket }
    refine ⟨Engine.opened enginePart w key key worker, opened worker, rfl,
      ledger_of_quiet (f := opened) (fun _ => rfl) (fun _ => rfl) w.parts key, rfl, ?_, rfl⟩
    show (w.parts.desk.engine.workers.change key opened).get? key = _
    rw [Entries.get?_change_self, hworker]
    rfl
  · exact ⟨w, worker, rfl, rfl, rfl, hworker, rfl⟩

/-- A worker looks at the form when it is started. -/
theorem keeps_startWorker (key : String) : Keeps (Reaches R b) (startWorker key) := by
  intro w hw
  rw [startWorker, Run.outcome_bind_of_ok (run_noteSight key w)]
  cases hworker : w.parts.desk.engine.workers.get? key with
  | none =>
    dsimp only
    rw [Run.outcome_of_ok (Engine.run_startWorker_of_none enginePart hworker id)]
    exact hw
  | some worker =>
    dsimp only
    cases hkey : worker.lookup.requestKey? w.store.data with
    | error fault =>
      dsimp only
      -- the worker has its ticket, but it sees no key
      obtain ⟨w₁, worker₁, hrun, hledger, hdata, hworker₁, hlookup⟩ :=
        exists_run_startWorker Journal.put hworker
      rw [← hlookup, ← hdata] at hkey
      rw [outcome_congr hrun,
        Run.outcome_of_error (Engine.run_evaluate_of_error enginePart hworker₁ hkey)]
      exact hw.of_ledger hledger
    | ok found =>
      let w' : World String Journal :=
        ⟨w.store, { w.parts with records := w.parts.records ++ [.saw key found] }⟩
      obtain ⟨w₁, worker₁, hrun, hledger, hdata, hworker₁, hlookup⟩ :=
        exists_run_startWorker (w := w') Journal.put hworker
      show Reaches R b ((Engine.startWorker enginePart Journal.put isShown id key).outcome w')
      rw [outcome_congr hrun]
      refine reaches_evaluate hR (keeps_put hR) hw (hledger.trans (ledger_sight w.parts key found))
        hworker₁ ?_
      rw [hlookup, hdata]
      exact hkey

theorem keeps_start : Keeps (Reaches R b) start := by
  refine keeps_bind (fun _ => id) fun e => keeps_forM fun key _ => ?_
  exact keeps_startWorker hR key

end

/-! ## Steps -/

section

variable {closed : String → Prop} {b : Ledger}

theorem keeps_dismiss {R : Ledger → Ledger → Prop} (key : String) :
    Keeps (Reaches R b) (Engine.dismiss enginePart key : Shift Unit) := by
  refine keeps_bind (keeps_worker? key) fun found => ?_
  cases found with
  | none => exact keeps_pure ()
  | some worker =>
    exact keeps_bind (keeps_updateWorker (f := fun worker => { worker with error := none })
      (fun _ => rfl) (fun _ => rfl) key) fun _ => keeps_announce key

theorem keeps_receive {R : Ledger → Ledger → Prop} {put : Writer String Journal}
    (hput : ∀ wr, Keeps (Reaches R b) (put wr)) (errand : Errand) (targets : List Reference)
    (result : LookupResult) :
    Keeps (Reaches R b) (Engine.receive enginePart put isShown errand targets result) := by
  have hend : Keeps (Reaches R b) (do
      Engine.updateWorker enginePart errand.worker fun w => { w with lastKey := some errand.key }
      Engine.announce enginePart errand.worker : Shift Unit) :=
    keeps_bind (keeps_updateWorker (f := fun worker => { worker with lastKey := some errand.key })
      (fun _ => rfl) (fun _ => rfl) _) fun _ => keeps_announce _
  unfold Engine.receive
  cases result.verdict with
  | ok data =>
    refine keeps_bind (keeps_bind (keeps_updateWorker (f := fun worker => { worker with error := none })
      (fun _ => rfl) (fun _ => rfl) _) fun _ => ?_) fun _ => hend
    exact keeps_bind (keeps_enterPhase _ _) fun _ => keeps_writeTargets hput _ _
  | error message =>
    refine keeps_bind (keeps_bind (keeps_updateWorker
      (f := fun worker => { worker with error := some message }) (fun _ => rfl) (fun _ => rfl) _)
      fun _ => ?_) fun _ => hend
    exact keeps_bind (keeps_enterPhase _ _) fun _ => keeps_writeTargets hput _ _

theorem run_complete_of_none {w : World String Journal} {id : Nat}
    (h : w.parts.desk.engine.errand? id = none) (result : LookupResult) :
    (complete id result).run w = .ok () w := by
  have hnot : w.parts.desk.engine.isInFlight id = false := by
    rw [Engine.isInFlight, h]
    rfl
  rw [complete, Run.run_bind_of_ok (run_noteAnswer id result w), hnot]
  exact Engine.run_complete_of_none enginePart h result

/-- A world in which an answer was written down. -/
def notedAnswer (w : World String Journal) (id : Nat) (result : LookupResult) : World String Journal :=
  ⟨w.store, { w.parts with records := w.parts.records ++ [.answered id result] }⟩

/-- A world in which an answer was written down and landed. -/
def answered (w : World String Journal) (errand : Errand) (result : LookupResult) :
    World String Journal :=
  ⟨w.store, enginePart.set (w.parts.desk.engine.land errand)
    { w.parts with records := w.parts.records ++ [.answered errand.id result] }⟩

theorem ledger_answered (w : World String Journal) (errand : Errand) (result : LookupResult) :
    (answered w errand result).parts.ledger = w.parts.ledger.land errand result :=
  ledger_land { w.parts with records := w.parts.records ++ [.answered errand.id result] } errand

section

variable {w : World String Journal} {errand : Errand} {result : LookupResult}

/-- An answer to a request in flight is written down, and then it lands. -/
theorem run_complete (h : w.parts.desk.engine.errand? errand.id = some errand) :
    (complete errand.id result).run w
      = (Engine.complete enginePart put isShown errand.id result).run
          (notedAnswer w errand.id result) := by
  have hflies : w.parts.desk.engine.isInFlight errand.id = true := by
    rw [Engine.isInFlight, h]
    rfl
  rw [complete, Run.run_bind_of_ok (run_noteAnswer errand.id result w), hflies]
  rfl

/-- The answer is taken if it is that to the current request of its worker. -/
theorem run_complete_of_some {worker : Worker}
    (h : w.parts.desk.engine.errand? errand.id = some errand)
    (hworker : (answered w errand result).parts.desk.engine.workers.get? errand.worker
      = some worker) :
    (complete errand.id result).run w
      = (if worker.isCurrent errand.id then
          Engine.receive enginePart put isShown errand worker.lookup.targets result
        else pure () : Shift Unit).run (answered w errand result) := by
  rw [run_complete h]
  exact Engine.run_complete_of_some enginePart (w := notedAnswer w errand.id result) h hworker result

/-- An answer to a worker that is not there lands, and that is all. -/
theorem run_complete_of_gone (h : w.parts.desk.engine.errand? errand.id = some errand)
    (hworker : (answered w errand result).parts.desk.engine.workers.get? errand.worker = none) :
    (complete errand.id result).run w = .ok () (answered w errand result) := by
  rw [run_complete h]
  exact Engine.run_complete_of_gone enginePart (w := notedAnswer w errand.id result) h hworker result

/-- **An answer** lands, and then there are looks. -/
theorem reaches_complete (h : w.parts.desk.engine.errand? errand.id = some errand) :
    Reaches Ledger.Look (w.parts.ledger.land errand result)
      ((complete errand.id result).outcome w) := by
  have hlanded : Reaches Ledger.Look (w.parts.ledger.land errand result)
      (answered w errand result) := by
    rw [Reaches, ledger_answered]
  cases hworker : (answered w errand result).parts.desk.engine.workers.get? errand.worker with
  | none =>
    rw [Run.outcome_of_ok (run_complete_of_gone h hworker)]
    exact hlanded
  | some worker =>
    rw [outcome_congr (run_complete_of_some h hworker)]
    split
    · exact keeps_receive (keeps_put id) errand _ result _ hlanded
    · exact hlanded

end

theorem keeps_complete (id : Nat) (result : LookupResult) :
    Keeps (Reaches (Ledger.Step closed) b) (complete id result) := by
  intro w hw
  cases herrand : w.parts.desk.engine.errand? id with
  | none =>
    rw [Run.outcome_of_ok (run_complete_of_none herrand result)]
    exact hw
  | some errand =>
    obtain rfl : errand.id = id := by simpa using List.find?_some herrand
    have hin : errand ∈ w.parts.desk.engine.inFlight := List.mem_of_find?_eq_some herrand
    have hlands : Ledger.Step closed w.parts.ledger (w.parts.ledger.land errand result) :=
      .land hin result
    exact (Relation.ReflTransGen.tail hw hlands).trans
      (Relation.ReflTransGen.mono (fun _ _ => Ledger.Step.look) _ _ (reaches_complete herrand))

/-- A journal at whose desk a worker has no ticket and no request any more. -/
def free (j : Journal) (key : String) : Journal :=
  enginePart.set (j.desk.engine.changeWorker key fun worker =>
    { worker with ticket := none, current := none }) j

/-- A journal at whose desk a worker was closed. -/
def shut (j : Journal) (key : String) : Journal :=
  enginePart.set ((free j key).desk.engine.callOff key) (free j key)

theorem ledger_shut {worker : Worker} (hworker : j.desk.engine.workers.get? key = some worker) :
    (shut j key).ledger = j.ledger.shut key := by
  have hfree : (free j key).ledger = j.ledger.setCurrent key none := by
    refine (ledger_changeWorker
      (f := fun worker => { worker with ticket := none, current := none }) (fun _ => rfl) j key).trans ?_
    rw [hworker]
    rfl
  refine (ledger_callOff _ key).trans ?_
  rw [hfree]
  rfl

theorem exists_run_closeWorker {w : World String Journal} {worker : Worker}
    (hworker : w.parts.desk.engine.workers.get? key = some worker) :
    ∃ store, (Engine.closeWorker enginePart key : Shift Unit).run w
      = .ok () ⟨store, shut w.parts key⟩ :=
  ⟨_, Engine.run_closeWorker enginePart hworker⟩

/-- Closing a worker gives its request up. -/
theorem keeps_closeWorker (hclosed : closed key) :
    Keeps (Reaches (Ledger.Step closed) b) (Engine.closeWorker enginePart key : Shift Unit) := by
  intro w hw
  cases hworker : w.parts.desk.engine.workers.get? key with
  | none =>
    rw [Run.outcome_of_ok (Engine.run_closeWorker_of_none enginePart hworker)]
    exact hw
  | some worker =>
    obtain ⟨store, hrun⟩ := exists_run_closeWorker hworker
    rw [Run.outcome_of_ok hrun]
    refine hw.step ?_
    rw [ledger_shut hworker]
    exact .shut _ hclosed

/-- **A step** changes the ledger as ledgers change. -/
theorem keeps_step {e : Desk.Event} (he : ∀ key, e = .close key → closed key) :
    Keeps (Reaches (Ledger.Step closed) b) (step e) := by
  cases e with
  | write wr => exact keeps_bind (keeps_put .look wr) fun _ => keeps_pure ()
  | evaluate key => exact keeps_look .look (keeps_put .look) key
  | dismiss key => exact keeps_dismiss key
  | hide path => exact fun _ => id
  | reveal path => exact fun _ => id
  | complete id result => exact keeps_complete id result
  | close key => exact keeps_closeWorker (he key rfl)

end

/-! ## Runs -/

/-- **A run with a journal** changes the ledger as ledgers change. -/
theorem keeps_carryOn (events : List Desk.Event) (b : Ledger) :
    Keeps (Reaches (Ledger.Step fun key => .close key ∈ events) b) (carryOn events) := by
  refine keeps_bind (keeps_attempt (keeps_start .look)) fun _ => keeps_forM fun e he => ?_
  refine keeps_attempt (keeps_step fun key hclose => ?_)
  rw [← hclose]
  exact he

theorem exists_run_carryOn (events : List Desk.Event) (w : World String Journal) :
    ∃ w', (carryOn events).run w = .ok () w' := by
  have hattempt : ∀ (m : Shift Unit) w, (Agenda.attempt m).Yields w fun _ => True :=
    fun m w => ⟨(), _, Run.run_attempt m w, trivial⟩
  obtain ⟨⟨⟩, w', hrun, -⟩ : (carryOn events).Yields w fun _ => True :=
    (hattempt start w).bind fun _ w₁ _ => Run.yields_forM (I := fun _ _ => True)
      (fun e _ w _ => hattempt (step e) w) trivial
  exact ⟨w', hrun⟩

section

variable (table : List Lookup) (channel : Channel) (wire : Wire) (hidden : Option (List String))
  (data : Value.Object)

theorem current?_world (key : String) :
    (world table channel wire hidden data).parts.ledger.current? key = none := by
  show ((Engine.ofLookups table).workers.get? key).bind _ = none
  cases hworker : (Engine.ofLookups table).workers.get? key with
  | none => rfl
  | some worker =>
    obtain ⟨l, -, hpair⟩ := List.mem_map.mp (Entries.mem_ofPairs (Entries.mem_of_get? hworker))
    rw [← show Worker.ofLookup l = worker from congrArg Prod.snd hpair]
    rfl

theorem sound_world : (world table channel wire hidden data).parts.ledger.Sound where
  asked_of_inFlight := nofun
  asked_lt := nofun
  asked_inj := nofun
  placed := nofun
  answered_lt := nofun
  landed := nofun
  answered_once := nofun
  current_last hcurrent := by rw [current?_world] at hcurrent; cases hcurrent
  answered_iff hcurrent := by rw [current?_world] at hcurrent; cases hcurrent

theorem traced_world (closed : String → Prop) :
    (world table channel wire hidden data).parts.ledger.Traced closed where
  keys_eq _ := rfl
  last_eq _ := by rw [current?_world]; rfl

theorem inOrder_world (closed : String → Prop) :
    (world table channel wire hidden data).parts.ledger.InOrder (Desk.roster table) closed := by
  refine ⟨sound_world .., traced_world .., fun front _ _ _ _ hsplit => ?_, rfl⟩
  cases front <;> cases hsplit

end

end Journal

/-- What was asked for at a desk, as far as workers were not closed. -/
structure Ledger.Requested (table : List Lookup) (closed : String → Prop) (b : Ledger) : Prop where
  /-- A worker has asked for the keys that it has seen, without repetitions. -/
  keys_eq : ∀ {key}, ¬ closed key → (b.asked key).map (·.key) = b.due key
  /-- A request goes where its lookup says, with the parameters that its key is the document of. -/
  placed : ∀ {key errand}, errand ∈ b.asked key → ∃ l, Desk.roster table key = some l ∧
    errand.endpoint = l.endpoint ∧ errand.params = keyParams errand.key
  /-- Nothing else is in flight. -/
  inFlight : ∀ {errand}, errand ∈ b.inFlight → errand ∈ b.asked errand.worker
  /-- After an answer a worker asks for nothing as long as it sees the same key. -/
  settled : b.Settled closed

/-- **Each key is asked for once.** At any moment of any run, a worker that was not closed has asked for
just the keys that it has seen when it looked at the form, without repetitions, each where its lookup
says. -/
theorem Desk.requests_of_run (table : List Lookup) (channel : Channel) (wire : Wire)
    (hidden : Option (List String)) (data : Value.Object) (events : List Desk.Event) :
    ∃ w : World String Journal,
      (Journal.carryOn events).run (Journal.world table channel wire hidden data) = .ok () w ∧
      (Desk.carryOn events).run (Desk.world table channel wire hidden data)
        = .ok () (w.mapParts Journal.desk) ∧
      w.parts.ledger.Requested table fun key => .close key ∈ events := by
  obtain ⟨w, hrun⟩ :=
    Journal.exists_run_carryOn events (Journal.world table channel wire hidden data)
  refine ⟨w, hrun, ?_, ?_⟩
  · show (Desk.carryOn events).run
      ((Journal.world table channel wire hidden data).mapParts Journal.desk) = _
    rw [Journal.mirrors_carryOn events, hrun]
    rfl
  · let b := (Journal.world table channel wire hidden data).parts.ledger
    have hreaches : Relation.ReflTransGen (Ledger.Step fun key => .close key ∈ events) b
        w.parts.ledger := by
      have hkeeps := Journal.keeps_carryOn events b _ Relation.ReflTransGen.refl
      rwa [Run.outcome_of_ok hrun] at hkeeps
    obtain ⟨hsound, htraced, hsettled, hlookup⟩ :=
      (Journal.inOrder_world table channel wire hidden data fun key =>
        .close key ∈ events).of_reaches hreaches
    refine ⟨htraced.keys_eq, fun {key errand} hasked => ?_, fun hin => ?_, hsettled⟩
    · obtain ⟨hrecord, rfl⟩ := Ledger.mem_asked.mp hasked
      obtain ⟨l, hl, -, hendpoint, hparams⟩ := hsound.placed hrecord
      exact ⟨l, hlookup ▸ hl, hendpoint, hparams⟩
    · exact Ledger.mem_asked.mpr ⟨hsound.asked_of_inFlight hin, rfl⟩

end DynamicForms
