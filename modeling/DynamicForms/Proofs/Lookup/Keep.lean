import DynamicForms.Lookup.Dispatch
import DynamicForms.Proofs.Store.Keep

/-!
# `DynamicForms.Proofs.Lookup.Keep` — what an engine keeps

An engine changes its own component and writes to the form, and does nothing else to it but subscribe
and unsubscribe its workers. So it keeps, also when it fails, whatever these few things keep. The lookups
of its workers never change, and a request that was given up does not come back. The tickets change only
when workers start and when they close.

## Contents
- `Engine.Precedes`, `Engine.Advances`: what all changes of an engine have in common;
  `Engine.IsSteady`: those that leave the tickets as they are.
- `Engine.keeps_evaluate`, `keeps_complete`, `keeps_dismiss`, and the programs that they are made of.
- `Engine.keeps_start`, `Engine.keeps_close`.
- `Dispatch.keeps_setUp`, `Dispatch.keeps_answer`.
-/

namespace DynamicForms

open Run (keeps_pure keeps_throw keeps_bind keeps_forM keeps_attempt)

/-- A change of a worker that leaves its lookup as it is and brings no other request. -/
structure Worker.IsModest (f : Worker → Worker) : Prop where
  /-- The lookup stays. -/
  lookup_eq : ∀ worker, (f worker).lookup = worker.lookup
  /-- The request stays, if it is not given up. -/
  current : ∀ worker request, (f worker).current = some request →
    ∃ old, worker.current = some old ∧ old.id = request.id

theorem Worker.isModest_of_eq {f : Worker → Worker}
    (hf : ∀ worker, (f worker).lookup = worker.lookup ∧ (f worker).current = worker.current) :
    IsModest f :=
  ⟨fun worker => (hf worker).1, fun worker request h => ⟨request, (hf worker).2 ▸ h, rfl⟩⟩

theorem Worker.isModest_of_none {f : Worker → Worker}
    (hf : ∀ worker, (f worker).lookup = worker.lookup ∧ (f worker).current = none) : IsModest f :=
  ⟨fun worker => (hf worker).1, fun worker request h => by cases (hf worker).2.symm.trans h⟩

theorem Worker.isModest_noteAnswered (id : Nat) : IsModest (·.noteAnswered id) where
  lookup_eq _ := rfl
  current worker request h := by
    obtain ⟨old, hold, rfl⟩ := Option.map_eq_some_iff.mp h
    refine ⟨old, hold, ?_⟩
    split <;> rfl

namespace Engine

/-- The ticket of the worker under a key. -/
def ticket? (e : Engine) (key : String) : Option Nat :=
  (e.workers.get? key).bind (·.ticket)

/-- The lookup of the worker under a key. -/
def lookup? (e : Engine) (key : String) : Option Lookup :=
  (e.workers.get? key).map (·.lookup)

/-- The current request of the worker under a key. -/
def current? (e : Engine) (key : String) : Option CurrentRequest :=
  (e.workers.get? key).bind (·.current)

/-- One engine comes before another one. -/
structure Precedes (e e' : Engine) : Prop where
  /-- The lookups stay. -/
  lookup_eq : ∀ key, e'.lookup? key = e.lookup? key
  /-- Numbers go up. -/
  nextId_le : e.nextId ≤ e'.nextId
  /-- A request that becomes current has a new number. -/
  current : ∀ {key request}, e'.current? key = some request →
    e.nextId ≤ request.id ∨ ∃ old, e.current? key = some old ∧ old.id = request.id
  /-- A request that goes out has been numbered. -/
  id_lt : ∀ {errand}, errand ∈ e'.inFlight → errand ∈ e.inFlight ∨ errand.id < e'.nextId

theorem Precedes.refl (e : Engine) : Precedes e e :=
  ⟨fun _ => rfl, Nat.le_refl _, fun h => Or.inr ⟨_, h, rfl⟩, Or.inl⟩

theorem Precedes.trans {e e' e'' : Engine} (h : Precedes e e') (h' : Precedes e' e'') :
    Precedes e e'' where
  lookup_eq key := (h'.lookup_eq key).trans (h.lookup_eq key)
  nextId_le := Nat.le_trans h.nextId_le h'.nextId_le
  current hrequest := by
    rcases h'.current hrequest with hnew | ⟨old, hold, hid⟩
    · exact Or.inl (Nat.le_trans h.nextId_le hnew)
    · rw [← hid]
      exact h.current hold
  id_lt herrand := by
    rcases h'.id_lt herrand with hold | hnew
    · exact (h.id_lt hold).imp_right fun hlt => Nat.lt_of_lt_of_le hlt h'.nextId_le
    · exact Or.inr hnew

/-- A change of an engine that goes forward. -/
def Advances (f : Engine → Engine) : Prop := ∀ e, Precedes e (f e)

/-- A change of an engine that goes forward and leaves the tickets of its workers as they are. -/
structure IsSteady (f : Engine → Engine) : Prop where
  /-- It goes forward. -/
  advances : Advances f
  /-- The tickets stay. -/
  ticket_eq : ∀ e key, (f e).ticket? key = e.ticket? key

theorem ticket?_changeWorker_of_ne {key other : String} (h : other ≠ key) (e : Engine)
    (f : Worker → Worker) : (e.changeWorker key f).ticket? other = e.ticket? other :=
  congrArg (Option.bind · _) (Entries.get?_change_of_ne h e.workers f)

theorem ticket?_changeWorker_self (e : Engine) (key : String) (f : Worker → Worker) :
    (e.changeWorker key f).ticket? key = ((e.workers.get? key).map f).bind (·.ticket) :=
  congrArg (Option.bind · _) (Entries.get?_change_self e.workers key f)

theorem ticket?_changeWorker {key : String} {f : Worker → Worker}
    (hf : ∀ worker, (f worker).ticket = worker.ticket) (e : Engine) (other : String) :
    (e.changeWorker key f).ticket? other = e.ticket? other := by
  by_cases h : other = key
  · subst h
    rw [ticket?_changeWorker_self, ticket?]
    cases e.workers.get? other with
    | none => rfl
    | some worker => exact hf worker
  · exact ticket?_changeWorker_of_ne h e f

theorem lookup?_changeWorker {key : String} {f : Worker → Worker}
    (hf : ∀ worker, (f worker).lookup = worker.lookup) (e : Engine) (other : String) :
    (e.changeWorker key f).lookup? other = e.lookup? other := by
  show ((e.workers.change key f).get? other).map _ = (e.workers.get? other).map _
  by_cases h : other = key
  · subst h
    rw [Entries.get?_change_self]
    cases e.workers.get? other with
    | none => rfl
    | some worker => exact congrArg some (hf worker)
  · rw [Entries.get?_change_of_ne h]

theorem advances_changeWorker (key : String) {f : Worker → Worker} (hf : Worker.IsModest f) :
    Advances (changeWorker · key f) := by
  refine fun e => ⟨lookup?_changeWorker hf.lookup_eq e, Nat.le_refl _, fun {other request} h => ?_,
    Or.inl⟩
  right
  replace h : ((e.workers.change key f).get? other).bind (·.current) = some request := h
  by_cases ho : other = key
  · subst ho
    rw [Entries.get?_change_self] at h
    cases hworker : e.workers.get? other with
    | none => simp [hworker] at h
    | some worker =>
      rw [hworker] at h
      obtain ⟨old, hold, hid⟩ := hf.current worker request h
      exact ⟨old, by rw [current?, hworker]; exact hold, hid⟩
  · rw [Entries.get?_change_of_ne ho] at h
    exact ⟨request, h, rfl⟩

/-- A change that leaves the workers as they are, and numbers no request. -/
theorem advances_of_workers {f : Engine → Engine} (hf : ∀ e, (f e).workers = e.workers ∧
    (f e).nextId = e.nextId ∧ ∀ errand ∈ (f e).inFlight, errand ∈ e.inFlight) : Advances f := by
  intro e
  obtain ⟨hworkers, hnext, hflight⟩ := hf e
  refine ⟨fun key => by rw [lookup?, hworkers, lookup?], Nat.le_of_eq hnext.symm, fun h => ?_,
    fun herrand => Or.inl (hflight _ herrand)⟩
  rw [current?, hworkers] at h
  exact Or.inr ⟨_, h, rfl⟩

theorem isSteady_changeWorker (key : String) {f : Worker → Worker} (hmodest : Worker.IsModest f)
    (hf : ∀ worker, (f worker).ticket = worker.ticket) : IsSteady (changeWorker · key f) :=
  ⟨advances_changeWorker key hmodest, ticket?_changeWorker hf⟩

theorem isSteady_land (errand : Errand) : IsSteady (land · errand) := by
  have h := isSteady_changeWorker errand.worker (Worker.isModest_noteAnswered errand.id)
    fun _ => rfl
  refine ⟨fun e => ?_, h.ticket_eq⟩
  have hsame := h.advances e
  exact ⟨hsame.lookup_eq, hsame.nextId_le, hsame.current,
    fun herrand => Or.inl (List.mem_filter.mp herrand).1⟩

theorem isSteady_ask (key : String) (worker : Worker) (request : String) :
    IsSteady (ask · key worker request) := by
  refine ⟨fun e => ⟨?_, Nat.le_succ _, fun {other asked} h => ?_, fun {errand} herrand => ?_⟩,
    fun e => ?_⟩
  · exact lookup?_changeWorker (f := fun w => { w with current := some ⟨e.nextId, request, false⟩ })
      (fun _ => rfl) e
  · replace h : ((e.workers.change key fun w =>
        { w with current := some ⟨e.nextId, request, false⟩ }).get? other).bind (·.current)
          = some asked := h
    by_cases ho : other = key
    · subst ho
      rw [Entries.get?_change_self] at h
      obtain ⟨changed, hchanged, hcurrent⟩ := Option.bind_eq_some_iff.mp h
      obtain ⟨old, -, rfl⟩ := Option.map_eq_some_iff.mp hchanged
      cases hcurrent
      exact Or.inl (Nat.le_refl _)
    · rw [Entries.get?_change_of_ne ho] at h
      exact Or.inr ⟨asked, h, rfl⟩
  · rcases List.mem_append.mp herrand with hold | hnew
    · exact Or.inl hold
    · rw [List.mem_singleton.mp hnew]
      exact Or.inr (Nat.lt_succ_self _)
  · exact ticket?_changeWorker (f := fun w => { w with current := some ⟨e.nextId, request, false⟩ })
      (fun _ => rfl) e

variable {κ σ : Type} {I : World κ σ → Prop} {part : Part σ Engine} {write : Writer κ σ}
  {isShown : σ → String → Bool}

section

variable (hpart : ∀ f, IsSteady f → (part.update f : Run κ σ Unit).Keeps I)

include hpart

/-- A change of a worker that concerns neither its lookup, nor its request, nor its ticket. -/
theorem keeps_updateWorker (key : String) {f : Worker → Worker}
    (hf : ∀ worker, ((f worker).lookup = worker.lookup ∧ (f worker).current = worker.current) ∧
      (f worker).ticket = worker.ticket) :
    (updateWorker part key f : Run κ σ Unit).Keeps I :=
  hpart _ (isSteady_changeWorker key (Worker.isModest_of_eq fun worker => (hf worker).1)
    fun worker => (hf worker).2)

theorem keeps_announce (key : String) : (announce part key : Run κ σ Unit).Keeps I :=
  hpart _ ⟨advances_of_workers fun _ => ⟨rfl, rfl, fun _ => id⟩, fun _ _ => rfl⟩

theorem keeps_enterPhase (key : String) (phase : Phase) :
    (enterPhase part key phase : Run κ σ Unit).Keeps I := by
  refine keeps_bind (fun _ => id) fun found => ?_
  cases found with
  | none => exact keeps_pure ()
  | some worker =>
    dsimp only
    split
    · exact keeps_bind (keeps_updateWorker hpart key fun _ => ⟨⟨rfl, rfl⟩, rfl⟩) fun _ => keeps_announce hpart key
    · exact keeps_pure ()

theorem keeps_request (key : String) (worker : Worker) (requestKey : String) :
    (request part key worker requestKey : Run κ σ Unit).Keeps I := by
  refine keeps_bind (keeps_updateWorker hpart key fun _ => ⟨⟨rfl, rfl⟩, rfl⟩) fun _ => ?_
  cases worker.hasAskedFor requestKey with
  | true => exact keeps_pure ()
  | false =>
    exact keeps_bind (hpart _ (isSteady_ask key worker requestKey)) fun _ =>
      keeps_enterPhase hpart key .loading

theorem keeps_dismiss (key : String) : (dismiss part key : Run κ σ Unit).Keeps I := by
  refine keeps_bind (fun _ => id) fun found => ?_
  cases found with
  | none => exact keeps_pure ()
  | some worker =>
    exact keeps_bind (keeps_updateWorker hpart key fun _ => ⟨⟨rfl, rfl⟩, rfl⟩) fun _ => keeps_announce hpart key

end

section

variable (hwrite : ∀ path v, (write (.set path v)).Keeps I)

include hwrite

theorem keeps_writeTargets (targets : List Reference) (content : Reference → Option Value) :
    (writeTargets write isShown targets content).Keeps I := by
  refine keeps_forM fun target _ => keeps_bind (fun _ => id) fun w => ?_
  dsimp only
  split
  · cases content target with
    | none => exact keeps_pure ()
    | some v => exact keeps_bind (hwrite _ _) fun _ => keeps_pure ()
  · exact keeps_pure ()

variable (hpart : ∀ f, IsSteady f → (part.update f : Run κ σ Unit).Keeps I)

include hpart

theorem keeps_standBy (key : String) (worker : Worker) (data : Value.Object) :
    (standBy part write isShown key worker data).Keeps I := by
  have hend : (updateWorker part key (fun w => { w with wasReady := false }) >>= fun _ =>
      enterPhase part key (if worker.lookup.dependsOn.isEmpty then .idle else .waiting) :
      Run κ σ Unit).Keeps I :=
    keeps_bind (keeps_updateWorker hpart key fun _ => ⟨⟨rfl, rfl⟩, rfl⟩) fun _ => keeps_enterPhase hpart key _
  have hinvalidate : (invalidate part key : Run κ σ Unit).Keeps I :=
    hpart _ (isSteady_changeWorker key (f := fun w => { w with current := none })
      (Worker.isModest_of_none fun _ => ⟨rfl, rfl⟩) fun _ => rfl)
  refine keeps_bind hinvalidate fun _ => ?_
  cases worker.wasReady && !worker.lookup.isUnregistered data with
  | false => exact hend
  | true => exact keeps_bind (keeps_writeTargets hwrite _ _) fun _ => hend

/-- **Looking at the form.** -/
theorem keeps_evaluate (key : String) : (evaluate part write isShown key).Keeps I := by
  refine keeps_bind (fun _ => id) fun found => ?_
  cases found with
  | none => exact keeps_pure ()
  | some worker =>
    refine keeps_bind (fun _ => id) fun data => ?_
    cases worker.lookup.requestKey? data with
    | error fault => exact keeps_throw fault
    | ok found =>
      cases found with
      | none => exact keeps_standBy hwrite hpart key worker data
      | some requestKey => exact keeps_request hpart key worker requestKey

theorem keeps_receive (errand : Errand) (targets : List Reference) (result : LookupResult) :
    (receive part write isShown errand targets result).Keeps I := by
  have hend : (updateWorker part errand.worker (fun w => { w with lastKey := some errand.key })
      >>= fun _ => announce part errand.worker : Run κ σ Unit).Keeps I :=
    keeps_bind (keeps_updateWorker hpart _ fun _ => ⟨⟨rfl, rfl⟩, rfl⟩) fun _ => keeps_announce hpart _
  unfold receive
  cases result.verdict with
  | ok data =>
    refine keeps_bind (keeps_bind (keeps_updateWorker hpart _ fun _ => ⟨⟨rfl, rfl⟩, rfl⟩) fun _ => ?_) fun _ => hend
    exact keeps_bind (keeps_enterPhase hpart _ _) fun _ => keeps_writeTargets hwrite _ _
  | error message =>
    refine keeps_bind (keeps_bind (keeps_updateWorker hpart _ fun _ => ⟨⟨rfl, rfl⟩, rfl⟩) fun _ => ?_) fun _ => hend
    exact keeps_bind (keeps_enterPhase hpart _ _) fun _ => keeps_writeTargets hwrite _ _

/-- **Answers.** -/
theorem keeps_complete (id : Nat) (result : LookupResult) :
    (complete part write isShown id result).Keeps I := by
  refine keeps_bind (fun _ h => h) fun e => ?_
  cases e.errand? id with
  | none => exact keeps_pure ()
  | some errand =>
    refine keeps_bind (hpart _ (isSteady_land errand)) fun _ =>
      keeps_bind (fun _ h => h) fun found => ?_
    cases found with
    | none => exact keeps_pure ()
    | some worker =>
      dsimp only
      split
      · exact keeps_receive hwrite hpart errand _ result
      · exact keeps_pure ()

/-! ## Starting -/

/-- A property is kept when a worker that has no ticket gets one. -/
def GivesTickets (part : Part σ Engine) (owner : String → κ) (I : World κ σ → Prop) : Prop :=
  ∀ key worker w, I w → (part.get w.parts).workers.get? key = some worker →
    worker.ticket = none → I ((do
      let ticket ← subscribe worker.lookup.dependencyPaths (owner key)
      updateWorker part key fun worker => { worker with ticket := some ticket } :
        Run κ σ Unit).outcome w)

theorem keeps_startWorker {owner : String → κ} (hgives : GivesTickets part owner I) (key : String) :
    (startWorker part write isShown owner key).Keeps I := by
  have hlook : (evaluate part write isShown key).Keeps I := keeps_evaluate hwrite hpart key
  intro w hw
  have hworker : (worker? part key : Run κ σ (Option Worker)).run w
      = .ok ((part.get w.parts).workers.get? key) w := rfl
  rw [startWorker, Run.outcome_bind_of_ok hworker]
  cases hfound : (part.get w.parts).workers.get? key with
  | none => exact hw
  | some worker =>
    dsimp only
    split
    · next hnone =>
      rw [Bool.and_eq_true, Option.isNone_iff_eq_none] at hnone
      exact hlook _ (hgives key worker w hw hfound hnone.1)
    · exact hlook w hw

theorem keeps_start {owner : String → κ} (hgives : GivesTickets part owner I) :
    (start part write isShown owner).Keeps I :=
  keeps_bind (fun _ => id) fun _ => keeps_forM fun key _ =>
    keeps_startWorker hwrite hpart hgives key

end

/-! ## Closing -/

section

variable (hpart : ∀ f, Advances f → (part.update f : Run κ σ Unit).Keeps I)
  (hunsubscribe : ∀ ticket, (unsubscribe ticket : Run κ σ Unit).Keeps I)

include hpart hunsubscribe

theorem keeps_closeWorker (key : String) : (closeWorker part key : Run κ σ Unit).Keeps I := by
  refine keeps_bind (fun _ => id) fun found => ?_
  cases found with
  | none => exact keeps_pure ()
  | some worker =>
    have hend : (updateWorker part key (fun w => { w with ticket := none, current := none })
        >>= fun _ => part.update fun e => e.callOff key : Run κ σ Unit).Keeps I :=
      keeps_bind (hpart _ (advances_changeWorker key (Worker.isModest_of_none fun _ => ⟨rfl, rfl⟩)))
        fun _ => hpart _ (advances_of_workers fun _ =>
          ⟨rfl, rfl, fun _ herrand => (List.mem_filter.mp herrand).1⟩)
    dsimp only
    cases worker.ticket with
    | none => exact hend
    | some ticket => exact keeps_bind (hunsubscribe ticket) fun _ => hend

theorem keeps_close : (close part : Run κ σ Unit).Keeps I :=
  keeps_bind (fun _ => id) fun _ => keeps_forM fun key _ => keeps_closeWorker hpart hunsubscribe key

end

end Engine

namespace Dispatch

variable {κ σ : Type} {I : World κ σ → Prop} {part : Part σ Dispatch} {engine : Part σ Engine}
  {now : Part σ Nat} {complete : Nat → LookupResult → Run κ σ Unit}

theorem keeps_setUp (hpart : ∀ f, (part.update f : Run κ σ Unit).Keeps I) :
    (setUp part engine now : Run κ σ Bool).Keeps I := by
  refine keeps_bind (fun _ => id) fun d => keeps_bind (fun _ => id) fun e => ?_
  cases d.unsent? e with
  | none => exact keeps_pure false
  | some errand =>
    exact keeps_bind (fun _ => id) fun _ => keeps_bind (hpart _) fun _ => keeps_pure true

theorem keeps_answer (hcomplete : ∀ id result, (complete id result).Keeps I) (id : Nat)
    (result : LookupResult) : (answer engine complete id result).Keeps I := by
  refine keeps_bind (fun _ h => h) fun e => ?_
  cases e.isInFlight id with
  | true => exact keeps_bind (keeps_attempt (hcomplete id result)) fun _ => keeps_pure true
  | false => exact keeps_pure false

end Dispatch

end DynamicForms
