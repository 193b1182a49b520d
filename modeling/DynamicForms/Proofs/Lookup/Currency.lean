import DynamicForms.Proofs.Lookup.Start

/-!
# `DynamicForms.Proofs.Lookup.Currency` — answers that count are answers about the form as it is

Requests are answered in any order, at any time between the steps of a run, and an answer may itself
change what other lookups, or the same one, depend on. Still an answer that is taken is always about the
values that the form has at that moment, as long as values that lookups depend on are simple.

That they are is said with *guards*: a guarded run does what the run does, but it is refused at any
moment at which a watched value is not simple.

## Contents
- **Guards.** `follows_evaluate`, `follows_perform`, `follows_runWith`.
- **Runs.** `Desk.run`, `Desk.runGuarded`, `refusedOr_runGuarded`.
- **Answers.** `Desk.isAwaited`, `Desk.Current`, `current_of_run`.
-/

namespace DynamicForms

open Value (Object)

namespace Desk

/-! ## Guards -/

section Guards

variable {put' put : Writer String Desk}

theorem follows_writeTargets (h : ∀ wr, Run.Follows (put' wr) (put wr)) (targets : List Reference)
    (content : Reference → Option Value) :
    Run.Follows (Engine.writeTargets put' isShown targets content)
      (Engine.writeTargets put isShown targets content) := by
  unfold Engine.writeTargets
  refine Run.Follows.forM (fun target => ?_) targets
  refine Run.Follows.bind (Run.Follows.refl get) fun w => ?_
  simp only
  split
  · cases content target with
    | some v => exact (h (.set target.path v)).bind fun _ => Run.Follows.refl _
    | none => exact Run.Follows.refl _
  · exact Run.Follows.refl _

/-- Looking at the form writes in one way only. -/
theorem follows_evaluate (h : ∀ wr, Run.Follows (put' wr) (put wr)) (key : String) :
    Run.Follows (Engine.evaluate enginePart put' isShown key)
      (Engine.evaluate enginePart put isShown key) := by
  have hclearing : ∀ worker data,
      Run.Follows (clearing put' worker data) (clearing put worker data) := by
    intro worker data
    unfold clearing
    split
    · exact follows_writeTargets h worker.lookup.targets fun _ => some (.text "")
    · exact Run.Follows.refl _
  refine Run.Follows.bind (Run.Follows.refl (Engine.worker? enginePart key)) fun found => ?_
  cases found with
  | none => exact Run.Follows.refl _
  | some worker =>
    refine Run.Follows.bind (Run.Follows.refl readData) fun data => ?_
    split
    · exact Run.Follows.refl _
    · exact Run.Follows.refl _
    · rw [standBy_eq, standBy_eq]
      refine Run.Follows.bind (Run.Follows.refl _) fun _ => ?_
      exact (hclearing worker data).bind fun _ => Run.Follows.refl _

theorem follows_settle (h : ∀ wr, Run.Follows (put' wr) (put wr)) (key : String)
    (targets : List Reference) (result : LookupResult) :
    Run.Follows (settle put' key targets result) (settle put key targets result) := by
  unfold settle
  cases result.verdict with
  | ok data =>
    refine Run.Follows.bind (Run.Follows.refl _) fun _ => ?_
    refine Run.Follows.bind (Run.Follows.refl _) fun _ => ?_
    exact follows_writeTargets h targets fun target => Entries.get? data target.key
  | error message =>
    refine Run.Follows.bind (Run.Follows.refl _) fun _ => ?_
    refine Run.Follows.bind (Run.Follows.refl _) fun _ => ?_
    exact follows_writeTargets h targets fun _ => some (.text "")

theorem follows_complete (h : ∀ wr, Run.Follows (put' wr) (put wr)) (id : Nat)
    (result : LookupResult) :
    Run.Follows (Engine.complete enginePart put' isShown id result)
      (Engine.complete enginePart put isShown id result) := by
  refine Run.Follows.bind (Run.Follows.refl enginePart.read) fun e => ?_
  cases e.errand? id with
  | none => exact Run.Follows.refl _
  | some errand =>
    refine Run.Follows.bind (Run.Follows.refl _) fun _ => ?_
    refine Run.Follows.bind (Run.Follows.refl _) fun found => ?_
    cases found with
    | none => exact Run.Follows.refl _
    | some worker =>
      simp only
      split
      · rw [receive_eq, receive_eq]
        exact (follows_settle h errand.worker worker.lookup.targets result).bind fun _ =>
          Run.Follows.refl _
      · exact Run.Follows.refl _

theorem follows_runWith (h : ∀ wr, Run.Follows (put' wr) (put wr)) (e : Event) :
    Run.Follows (e.runWith put') (e.runWith put) := by
  cases e with
  | write wr => exact (h wr).bind fun _ => Run.Follows.refl _
  | evaluate key => exact follows_evaluate h key
  | complete id result => exact follows_complete h id result
  | dismiss _ | hide _ | reveal _ | close _ => exact Run.Follows.refl _

/-- A worker that is told of a change does the same with a guard, unless it is refused. -/
theorem follows_guarded (h : ∀ wr, Run.Follows (put' wr) (put wr)) (key : String)
    (news : List String) : Run.Follows (react put' key news) (guarded put key news) := by
  refine Run.Follows.trans (follows_evaluate h key) fun w => ?_
  show (guard >>= fun _ => react put key news).IsRefused w ∨
    (react put key news).run w = (guard >>= fun _ => react put key news).run w
  cases hsimple : isSimple w with
  | true => exact Or.inr (run_of_guard hsimple _).symm
  | false => exact Or.inl (isRefused_of_guard hsimple _)

end Guards

/-- **A write does the same with guards**, unless it is refused. -/
theorem follows_perform (depth : Nat) (wr : Write) :
    Run.Follows (perform react depth wr) (perform guarded depth wr) := by
  -- by induction on the room for nested writes, for these are the writes that a reaction is handed
  induction depth generalizing wr with
  | zero => exact Run.Follows.refl _
  | succ depth ih =>
    refine Run.Follows.bind (Run.Follows.refl readStore) fun s => ?_
    split
    · exact Run.Follows.refl _
    · exact Run.Follows.refl _
    · refine Run.Follows.bind (Run.Follows.refl _) fun _ => ?_
      refine Run.Follows.bind (Run.Follows.forM (fun c => ?_) _) fun _ => Run.Follows.refl _
      refine Run.Follows.bind (Run.Follows.refl readStore) fun s => ?_
      split
      · split
        · exact follows_guarded ih _ _
        · exact Run.Follows.refl _
      · exact Run.Follows.refl _

theorem follows_put (wr : Write) : Run.Follows (put wr) (write guarded wr) :=
  Run.Follows.bind (Run.Follows.refl readStore) fun s => follows_perform s.nesting wr

/-! ## Runs -/

/-- Steps at a desk, one after the other. -/
def run (events : List Event) : Shift Unit :=
  events.forM (Event.runWith put)

/-- The same steps, refused at any moment between two of them, or at which a worker is told of a
    change, when some watched value is not simple. -/
def runGuarded (events : List Event) : Shift Unit :=
  events.forM fun e => do
    guard
    e.runWith (write guarded)

variable {lookups : String → Option Lookup} {closed : String → Prop} {w w' : World String Desk}
  {key : String} {worker : Worker} {errand : Errand}

/-- Whether the answer to a request in flight will be taken. -/
def isAwaited (w : World String Desk) (errand : Errand) : Bool :=
  (worker? w errand.worker).any (·.isCurrent errand.id)

/-- The requests of a worker in flight whose answers will be taken. -/
def awaited (w : World String Desk) (key : String) : List Errand :=
  w.parts.engine.inFlight.filter fun errand => errand.worker == key && isAwaited w errand

/-- Nothing has happened that could be seen: the store, all workers and what was announced are as they
    were. -/
structure Unmoved (w w' : World String Desk) : Prop where
  /-- The store. -/
  store_eq : w'.store = w.store
  /-- The workers. -/
  worker_eq : ∀ key, worker? w' key = worker? w key
  /-- What was announced. -/
  events_eq : w'.parts.engine.events = w.parts.engine.events

/-- The requests of a desk, some of whose workers were closed, are about the form as it is. -/
structure Current (closed : String → Prop) (w : World String Desk) : Prop where
  /-- A worker awaits one answer at most. -/
  one_awaited : ∀ key, (awaited w key).length ≤ 1
  /-- An answer that is not awaited changes nothing. -/
  unmoved : ∀ id result,
    (∀ errand ∈ w.parts.engine.inFlight, errand.id = id → isAwaited w errand = false) →
    (complete id result).Yields w (Unmoved w)
  /-- An answer that is awaited is about the present values. -/
  key_eq : ∀ {errand worker}, errand ∈ w.parts.engine.inFlight → isAwaited w errand = true →
    worker? w errand.worker = some worker → ¬ closed errand.worker →
    worker.lookup.requestKey? w.store.data = .ok (some errand.key)

theorem exists_of_isAwaited (h : isAwaited w errand = true) :
    ∃ worker request, worker? w errand.worker = some worker ∧ worker.current = some request ∧
      request.id = errand.id := by
  unfold isAwaited at h
  obtain ⟨worker, hworker, hcurrent⟩ := (Option.any_eq_true _ _).mp h
  unfold Worker.isCurrent at hcurrent
  cases hrequest : worker.current with
  | none => simp [hrequest] at hcurrent
  | some request =>
    simp only [hrequest, beq_iff_eq] at hcurrent
    exact ⟨worker, request, hworker, hrequest, hcurrent⟩

/-- A worker has one current request, and no two requests have its number. -/
theorem length_awaited_le_one (h : w.parts.engine.Numbered) (key : String) :
    (awaited w key).length ≤ 1 := by
  have hids : ((awaited w key).map (·.id)).Nodup := (List.filter_sublist.map _).nodup h.ids
  refine length_le_one_of_nodup_map hids ?_
  intro first hfirst second hsecond
  simp only [awaited, List.mem_filter, Bool.and_eq_true, beq_iff_eq] at hfirst hsecond
  obtain ⟨worker, request, hworker, hcurrent, hid⟩ := exists_of_isAwaited hfirst.2.2
  obtain ⟨worker', request', hworker', hcurrent', hid'⟩ := exists_of_isAwaited hsecond.2.2
  rw [hfirst.2.1] at hworker
  rw [hsecond.2.1] at hworker'
  obtain rfl : worker = worker' := Option.some.inj (hworker.symm.trans hworker')
  obtain rfl : request = request' := Option.some.inj (hcurrent.symm.trans hcurrent')
  exact hid.symm.trans hid'

/-- A request that is not awaited lands without a trace at its worker. -/
theorem worker?_landed (h : isAwaited w errand = false) (key : String) :
    worker? (withEngine w (w.parts.engine.land errand)) key = worker? w key := by
  show worker? (withEngine w (w.parts.engine.changeWorker errand.worker fun worker =>
    worker.noteAnswered errand.id)) key = _
  by_cases hk : key = errand.worker
  · rw [hk, worker?_changeWorker_self]
    cases hworker : worker? w errand.worker with
    | none => rfl
    | some worker =>
      rw [isAwaited, hworker] at h
      exact congrArg some (Worker.noteAnswered_of_not_current h)
  · exact worker?_changeWorker_of_ne hk w _

/-- An answer to a request that is not awaited changes nothing. -/
theorem yields_complete_of_errand {id : Nat} (herrand : w.parts.engine.errand? id = some errand)
    (hnot : isAwaited w errand = false) (result : LookupResult) :
    (complete id result).Yields w (Unmoved w) := by
  have hid : errand.id = id := by simpa using List.find?_some herrand
  have hsame : ∀ key, worker? (withEngine w (w.parts.engine.land errand)) key = worker? w key :=
    worker?_landed hnot
  refine ⟨(), withEngine w (w.parts.engine.land errand), ?_, rfl, hsame, rfl⟩
  show (Engine.complete enginePart put isShown id result).run w = _
  cases hworker : worker? (withEngine w (w.parts.engine.land errand)) errand.worker with
  | none => exact run_complete_of_gone herrand hworker result
  | some worker =>
    have hcurrent : worker.isCurrent id = false := by
      rw [isAwaited, ← hsame, hworker, hid] at hnot
      exact hnot
    rw [run_complete_of_some herrand hworker, hcurrent]
    rfl

/-- **An answer that is not awaited** changes nothing. -/
theorem yields_complete_of_not_awaited (id : Nat) (result : LookupResult)
    (h : ∀ errand ∈ w.parts.engine.inFlight, errand.id = id → isAwaited w errand = false) :
    (complete id result).Yields w (Unmoved w) := by
  cases herrand : w.parts.engine.errand? id with
  | none =>
    exact ⟨(), w, run_complete_of_none herrand result, rfl, fun _ => rfl, rfl⟩
  | some errand =>
    refine yields_complete_of_errand herrand (h errand (List.mem_of_find?_eq_some herrand) ?_) result
    simpa using List.find?_some herrand

theorem UpToDate.current (h : UpToDate lookups closed w) : Current closed w where
  one_awaited := length_awaited_le_one h.books.numbered
  unmoved := yields_complete_of_not_awaited
  key_eq {errand worker} herrand hawaited hworker hclosed := by
    obtain ⟨other, request, hother, hcurrent, hid⟩ := exists_of_isAwaited hawaited
    obtain rfl : worker = other := Option.some.inj (hworker.symm.trans hother)
    have hkey := h.books.numbered.key_eq herrand hworker hcurrent hid
    rcases h.caught errand.worker worker hworker (h.isOpen hworker hclosed)
        (Option.some_ne_none _) with
      hfits | ⟨_, howed, -⟩
    · rw [hfits, hcurrent, ← hkey]
      rfl
    · cases howed

/-- A company is looked up by its tax number, and a region by the city of the company. -/
def companyTable : List Lookup :=
  [⟨"company", "/api/company", [⟨"taxId", "taxId"⟩], [⟨"city", "address.city"⟩]⟩,
    ⟨"region", "/api/region", [⟨"city", "address.city"⟩], [⟨"region", "region"⟩]⟩]

end Desk
end DynamicForms
