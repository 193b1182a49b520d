import DynamicForms.Proofs.Lookup.Engine
import DynamicForms.Proofs.Lookup.Fade

/-!
# `DynamicForms.Proofs.Lookup.Turn` — what a worker does when it is its turn

A worker that looks at the form first sees to its request: it asks for another one, or gives up the one
it has. From then on it fits the data, and it is just one of those that are kept informed while it
writes. It writes only in order to clear its targets. What is needed of the way to write is said once,
as `Desk.Clears`: as long as there is room, clearing a place keeps everything in order and lets values
fade.

## Contents
- `Desk.Orderly`: books in order, simple values, and nobody behind.
- **Quiet changes.** `Desk.Quiet`: nothing happens that matters; `yields_enterPhase`.
- `Desk.Clears`, `refusedOr_writeTargets`, `refusedOr_clearTargets`.
- **Turns.** `Desk.Turn`, `refusedOr_standBy`, `refusedOr_evaluate`, `yields_evaluate_of_fresh`.
-/

namespace DynamicForms

open Value (Object)
open Path (IsWhole)

namespace Desk

/-- The books are in order, watched values are simple, and every open worker, one aside perhaps, fits
    the data or is owed news. -/
structure Orderly (lookups : String → Option Lookup) (owed : String → Object → Prop)
    (aside : Option String) (w : World String Desk) : Prop where
  /-- The books. -/
  books : Books lookups w
  /-- The watched values. -/
  simple : isSimple w = true
  /-- The workers. -/
  caught : Caught owed aside w

variable {lookups : String → Option Lookup} {w w' w'' : World String Desk}
  {owed : String → Object → Prop} {aside : Option String} {key : String} {worker : Worker}
  {put : Writer String Desk} {room : World String Desk → Prop}

theorem isSimple_eq (hsubs : w'.store.subscriptions = w.store.subscriptions)
    (hdata : w'.store.data = w.store.data) : isSimple w' = isSimple w := by
  unfold isSimple Store.get
  rw [watchings_eq hsubs, hdata]

theorem Orderly.carry (h : Orderly lookups owed aside w) (hc : Carries w w')
    (hdata : w'.store.data = w.store.data) : Orderly lookups owed aside w' where
  books := h.books.carry hc
  simple := (isSimple_eq hc.subscriptions_eq hdata).trans h.simple
  caught := h.caught.carry hc hdata

/-! ## Quiet changes -/

/-- Nothing has happened to the store, to tickets and requests, or to which workers are ready. -/
structure Quiet (w w' : World String Desk) : Prop where
  /-- Tickets and requests. -/
  carries : Carries w w'
  /-- The store. -/
  store_eq : w'.store = w.store
  /-- Which workers are ready. -/
  ready_eq : ∀ key, wasReady w' key = wasReady w key

theorem Quiet.refl (w : World String Desk) : Quiet w w := ⟨.refl w, rfl, fun _ => rfl⟩

theorem Quiet.trans (h : Quiet w w') (h' : Quiet w' w'') : Quiet w w'' where
  carries := h.carries.trans h'.carries
  store_eq := h'.store_eq.trans h.store_eq
  ready_eq key := (h'.ready_eq key).trans (h.ready_eq key)

theorem Quiet.orderly (h : Quiet w w') (hw : Orderly lookups owed aside w) :
    Orderly lookups owed aside w' :=
  hw.carry h.carries (congrArg Store.data h.store_eq)

theorem Quiet.fades (h : Quiet w w') : Fades w w' where
  subscriptions_eq := congrArg Store.subscriptions h.store_eq
  ready {key} hready := h.ready_eq key ▸ hready
  value _ := Or.inl (by rw [h.store_eq])

theorem quiet_changeWorker {f : Worker → Worker} (hf : ∀ worker, (f worker).Matches worker)
    (hready : ∀ worker, (f worker).wasReady = worker.wasReady) (w : World String Desk)
    (key : String) : Quiet w (withEngine w (w.parts.engine.changeWorker key f)) where
  carries := carries_changeWorker hf w key
  store_eq := rfl
  ready_eq other := by
    unfold wasReady
    by_cases ho : other = key
    · subst ho
      rw [worker?_changeWorker_self]
      cases worker? w other with
      | none => rfl
      | some worker => simp [hready]
    · rw [worker?_changeWorker_of_ne ho]

theorem quiet_announce (w : World String Desk) (key : String) :
    Quiet w (withEngine w
      { w.parts.engine with events := w.parts.engine.events ++ [key] }) where
  carries := ⟨rfl, rfl, rfl, List.Sublist.refl _, fun {_ worker} h => ⟨worker, h, .refl worker⟩,
    fun {_ worker} h => ⟨worker, h, .refl worker⟩⟩
  store_eq := rfl
  ready_eq _ := rfl

theorem run_updateWorker (key : String) (f : Worker → Worker) (w : World String Desk) :
    (Engine.updateWorker enginePart key f : Shift Unit).run w
      = .ok () (withEngine w (w.parts.engine.changeWorker key f)) := rfl

theorem run_announce (key : String) (w : World String Desk) :
    (Engine.announce enginePart key : Shift Unit).run w
      = .ok () (withEngine w
          { w.parts.engine with events := w.parts.engine.events ++ [key] }) := rfl

theorem yields_announce (key : String) (w : World String Desk) :
    (Engine.announce enginePart key : Shift Unit).Yields w (Quiet w) :=
  ⟨(), _, run_announce key w, quiet_announce w key⟩

theorem yields_updateWorker {f : Worker → Worker} (hf : ∀ worker, (f worker).Matches worker)
    (hready : ∀ worker, (f worker).wasReady = worker.wasReady) (key : String)
    (w : World String Desk) :
    (Engine.updateWorker enginePart key f : Shift Unit).Yields w (Quiet w) :=
  ⟨(), _, run_updateWorker key f w, quiet_changeWorker hf hready w key⟩

theorem yields_enterPhase (key : String) (phase : Phase) (w : World String Desk) :
    (Engine.enterPhase enginePart key phase : Shift Unit).Yields w (Quiet w) := by
  cases hworker : worker? w key with
  | none => exact ⟨(), w, Engine.run_enterPhase_of_none enginePart hworker phase, .refl w⟩
  | some worker =>
    rw [Run.Yields, Engine.run_enterPhase enginePart hworker]
    split
    · have hphase : (Engine.updateWorker enginePart key fun worker => { worker with phase } :
          Shift Unit).Yields w (Quiet w) :=
        yields_updateWorker (f := fun worker => { worker with phase }) (fun _ => ⟨rfl, rfl, rfl⟩)
          (fun _ => rfl) key w
      exact hphase.bind fun _ w' hw' => (yields_announce key w').mono fun _ h => hw'.trans h
    · exact ⟨(), w, rfl, .refl w⟩

/-! ## Clearing -/

/-- As long as there is room, a way to write clears places in an orderly way. -/
structure Clears (lookups : String → Option Lookup) (put : Writer String Desk)
    (room : World String Desk → Prop) : Prop where
  /-- There is room still after values have faded. -/
  fades : ∀ {w w'}, room w → Fades w w' → room w'
  /-- A place is cleared. -/
  clear : ∀ {w path owed}, room w → IsWhole path → Orderly lookups owed none w →
    (put (.set path (.text ""))).RefusedOr w fun w' => Orderly lookups owed none w' ∧ Fades w w'

/-- Writing to targets keeps what each of the writes keeps. -/
theorem refusedOr_writeTargets {targets : List Reference} {content : Reference → Option Value}
    {I : World String Desk → Prop}
    (hwrite : ∀ target ∈ targets, ∀ v w, content target = some v → I w →
      (put (.set target.path v)).RefusedOr w I) (h : I w) :
    (Engine.writeTargets put isShown targets content).RefusedOr w I := by
  unfold Engine.writeTargets
  refine (Run.refusedOr_forM (I := fun rest w => (∀ target ∈ rest, target ∈ targets) ∧ I w) ?_
    ⟨fun _ => id, h⟩).mono fun _ h => h.2
  rintro target rest w ⟨hmem, hI⟩
  have hrest : ∀ other ∈ rest, other ∈ targets := fun other ho =>
    hmem other (List.mem_cons_of_mem _ ho)
  have hnothing : (pure () : Shift Unit).RefusedOr w
      fun w' => (∀ target ∈ rest, target ∈ targets) ∧ I w' := Or.inr ⟨(), w, rfl, hrest, hI⟩
  show (if isShown w.parts target.path = true then _ else _ : Shift Unit).RefusedOr w _
  split
  · cases hcontent : content target with
    | none => exact hnothing
    | some v =>
      exact (hwrite target (hmem target List.mem_cons_self) v w hcontent hI).bind
        fun _ w' hw' => Or.inr ⟨(), w', rfl, hrest, hw'⟩
  · exact hnothing

/-- Clearing targets is orderly if clearing a place is. -/
theorem refusedOr_clearTargets (hput : Clears lookups put room) {targets : List Reference}
    (htargets : ∀ target ∈ targets, IsWhole target.path) (hroom : room w)
    (hw : Orderly lookups owed none w) :
    (Engine.clearTargets put isShown targets).RefusedOr w
      fun w' => Orderly lookups owed none w' ∧ Fades w w' := by
  unfold Engine.clearTargets
  refine refusedOr_writeTargets ?_ ⟨hw, .refl w⟩
  rintro target htarget v w' hv ⟨hw', hfades⟩
  cases hv
  exact (hput.clear (hput.fades hroom hfades) (htargets target htarget) hw').mono
    fun _ h => ⟨h.1, hfades.trans h.2⟩

/-! ## Turns -/

/-- What has happened to a desk when it was the turn of a worker. If its lookup was not ready, values
    have faded. If something that it depends on was not there, or it was not ready before, the data is
    as it was. -/
structure Turn (key : String) (w w' : World String Desk) : Prop where
  /-- The subscriptions. -/
  subscriptions_eq : w'.store.subscriptions = w.store.subscriptions
  /-- A lookup that was not ready. -/
  fades : ∀ {worker}, worker? w key = some worker →
    worker.lookup.requestKey? w.store.data = .ok none → Fades w w' ∧ wasReady w' key = false
  /-- Nothing was written for want of a value or a reason. -/
  data_eq : ∀ {worker}, worker? w key = some worker →
    worker.lookup.isUnregistered w.store.data = true ∨ worker.wasReady = false →
    w'.store.data = w.store.data
  /-- No other worker has become ready. -/
  ready : ∀ {other}, other ≠ key → wasReady w' other = true → wasReady w other = true

theorem Orderly.caught_of_none (h : Orderly lookups owed (some key) w)
    (hnone : worker? w key = none) : Orderly lookups owed none w where
  books := h.books
  simple := h.simple
  caught other worker hworker hopen _ := by
    refine h.caught other worker hworker hopen fun hsame => ?_
    rw [Option.some.inj hsame, hnone] at hworker
    cases hworker

theorem run_invalidate (key : String) (w : World String Desk) :
    (Engine.invalidate enginePart key : Shift Unit).run w
      = .ok () (withEngine w
          (w.parts.engine.changeWorker key fun worker => { worker with current := none })) := rfl

/-- Giving up the current request of a worker whose lookup is not ready. -/
theorem yields_invalidate (hw : Orderly lookups owed (some key) w)
    (hworker : worker? w key = some worker)
    (hkey : worker.lookup.requestKey? w.store.data = .ok none) :
    (Engine.invalidate enginePart key : Shift Unit).Yields w
      fun w' => Orderly lookups owed none w' ∧ Fades w w' ∧ w'.store = w.store := by
  refine ⟨(), _, run_invalidate key w, ⟨hw.books.invalidate key, hw.simple, ?_⟩, ?_, rfl⟩
  · exact hw.caught.changeRequest none rfl hworker hkey
  · refine ⟨rfl, fun {other} hready => ?_, fun _ => Or.inl rfl⟩
    unfold wasReady at hready ⊢
    by_cases ho : other = key
    · subst ho
      rw [worker?_changeWorker_self, hworker] at hready
      rw [hworker]
      exact hready
    · rwa [worker?_changeWorker_of_ne ho] at hready

/-- Noting that the lookup of a worker is not ready. -/
theorem yields_noteNotReady (hw : Orderly lookups owed none w) (key : String) :
    (Engine.updateWorker enginePart key fun worker => { worker with wasReady := false } :
      Shift Unit).Yields w fun w' =>
        Orderly lookups owed none w' ∧ Fades w w' ∧ wasReady w' key = false ∧ w'.store = w.store := by
  have hcarries := carries_changeWorker (f := fun worker => { worker with wasReady := false })
    (fun _ => ⟨rfl, rfl, rfl⟩) w key
  refine ⟨(), _, run_updateWorker key _ w, hw.carry hcarries rfl,
    ⟨rfl, fun {other} hready => ?_, fun _ => Or.inl rfl⟩, ?_, rfl⟩
  · unfold wasReady at hready ⊢
    by_cases ho : other = key
    · subst ho
      rw [worker?_changeWorker_self] at hready
      cases hold : worker? w other with
      | none => simp [hold] at hready
      | some worker => simp [hold] at hready
    · rwa [worker?_changeWorker_of_ne ho] at hready
  · unfold wasReady
    rw [worker?_changeWorker_self]
    cases worker? w key <;> rfl

/-- The end of a turn of a worker whose lookup is not ready. -/
theorem yields_retire (hw : Orderly lookups owed none w) (key : String) (phase : Phase) :
    (Engine.updateWorker enginePart key (fun worker => { worker with wasReady := false }) >>=
        fun _ => Engine.enterPhase enginePart key phase : Shift Unit).Yields w fun w' =>
      Orderly lookups owed none w' ∧ Fades w w' ∧ wasReady w' key = false ∧ w'.store = w.store := by
  refine (yields_noteNotReady hw key).bind fun _ w₁ ⟨h₁, hfades, hready, hstore⟩ => ?_
  refine (yields_enterPhase key phase w₁).mono fun w₂ hquiet => ?_
  refine ⟨hquiet.orderly h₁, hfades.trans hquiet.fades, ?_, hquiet.store_eq.trans hstore⟩
  rw [hquiet.ready_eq]
  exact hready

/-- Clearing at the turn of a worker whose lookup is not ready. -/
def clearing (put : Writer String Desk) (worker : Worker) (data : Object) : Shift Unit :=
  if worker.wasReady && !worker.lookup.isUnregistered data then
    Engine.clearTargets put isShown worker.lookup.targets
  else pure ()

theorem standBy_eq (put : Writer String Desk) (key : String) (worker : Worker) (data : Object) :
    Engine.standBy enginePart put isShown key worker data
      = Engine.invalidate enginePart key >>= fun _ => clearing put worker data >>= fun _ =>
        Engine.updateWorker enginePart key (fun worker => { worker with wasReady := false }) >>=
        fun _ => Engine.enterPhase enginePart key
          (if worker.lookup.dependsOn.isEmpty then .idle else .waiting) := by
  unfold Engine.standBy clearing
  cases worker.wasReady && !worker.lookup.isUnregistered data <;> rfl

theorem refusedOr_clearing (hput : Clears lookups put room) {data : Object}
    (htargets : ∀ target ∈ worker.lookup.targets, IsWhole target.path)
    (hw : Orderly lookups owed none w)
    (hroom : worker.wasReady = true → worker.lookup.isUnregistered data = false → room w) :
    (clearing put worker data).RefusedOr w fun w' => Orderly lookups owed none w' ∧ Fades w w' ∧
      (worker.lookup.isUnregistered data = true ∨ worker.wasReady = false →
        w'.store.data = w.store.data) := by
  unfold clearing
  split
  · next hclear =>
    rw [Bool.and_eq_true, Bool.not_eq_true'] at hclear
    refine (refusedOr_clearTargets hput htargets (hroom hclear.1 hclear.2) hw).mono ?_
    rintro w' ⟨hw', hfades⟩
    refine ⟨hw', hfades, fun hidle => ?_⟩
    rw [hclear.1, hclear.2] at hidle
    simp at hidle
  · exact Or.inr ⟨(), w, rfl, hw, .refl w, fun _ => rfl⟩

/-- A worker whose lookup is not ready gives up its request, clears its targets unless a value that it
    depends on is not there, and is not ready from then on. -/
theorem refusedOr_standBy (hput : Clears lookups put room) (hw : Orderly lookups owed (some key) w)
    (hworker : worker? w key = some worker)
    (hkey : worker.lookup.requestKey? w.store.data = .ok none)
    (hroom : worker.wasReady = true → worker.lookup.isUnregistered w.store.data = false → room w) :
    (Engine.standBy enginePart put isShown key worker w.store.data).RefusedOr w fun w' =>
      Orderly lookups owed none w' ∧ Fades w w' ∧ wasReady w' key = false ∧
        (worker.lookup.isUnregistered w.store.data = true ∨ worker.wasReady = false →
          w'.store.data = w.store.data) := by
  rw [standBy_eq]
  refine Run.RefusedOr.bind (Or.inr (yields_invalidate hw hworker hkey)) ?_
  rintro - w₁ ⟨hw₁, hfades₁, hstore₁⟩
  refine (refusedOr_clearing hput (hw.books.whole hworker).targets hw₁ fun hready hthere =>
    hput.fades (hroom hready hthere) hfades₁).bind ?_
  rintro - w₂ ⟨hw₂, hfades₂, hsame⟩
  refine Or.inr ((yields_retire hw₂ key _).mono ?_)
  rintro w₃ ⟨hw₃, hfades₃, hready, hstore₃⟩
  refine ⟨hw₃, (hfades₁.trans hfades₂).trans hfades₃, hready, fun hidle => ?_⟩
  rw [hstore₃, hsame hidle, hstore₁]

/-- A worker that was not ready before clears nothing. -/
theorem yields_standBy_of_fresh (hw : Orderly lookups owed (some key) w)
    (hworker : worker? w key = some worker)
    (hkey : worker.lookup.requestKey? w.store.data = .ok none) (hfresh : worker.wasReady = false) :
    (Engine.standBy enginePart put isShown key worker w.store.data).Yields w fun w' =>
      Orderly lookups owed none w' ∧ Fades w w' ∧ wasReady w' key = false ∧
        w'.store = w.store := by
  have hnothing : clearing put worker w.store.data = pure () := by
    unfold clearing
    rw [hfresh]
    rfl
  rw [standBy_eq, hnothing]
  refine (yields_invalidate hw hworker hkey).bind ?_
  rintro - w₁ ⟨hw₁, hfades₁, hstore₁⟩
  refine (yields_retire hw₁ key _).mono ?_
  rintro w₂ ⟨hw₂, hfades₂, hready, hstore₂⟩
  exact ⟨hw₂, hfades₁.trans hfades₂, hready, hstore₂.trans hstore₁⟩

/-- A worker that was aside is caught once it fits. -/
theorem Orderly.settle (h : Orderly lookups owed (some key) w)
    (hworker : worker? w key = some worker) (hfits : worker.Fits w.store.data) :
    Orderly lookups owed none w where
  books := h.books
  simple := h.simple
  caught other worker' hworker' hopen _ := by
    by_cases ho : other = key
    · subst ho
      obtain rfl : worker = worker' := Option.some.inj (hworker.symm.trans hworker')
      exact Or.inl hfits
    · exact h.caught other worker' hworker' hopen fun heq => ho (Option.some.inj heq)

/-- A worker whose lookup is ready under a key has its request under that key afterwards. -/
theorem yields_request (hw : Orderly lookups owed (some key) w)
    (hworker : worker? w key = some worker) {requestKey : String}
    (hkey : worker.lookup.requestKey? w.store.data = .ok (some requestKey)) :
    (Engine.request enginePart key worker requestKey : Shift Unit).Yields w
      fun w' => Orderly lookups owed none w' ∧ w'.store = w.store ∧
        ∀ other, other ≠ key → wasReady w' other = wasReady w other := by
  let w₁ := withEngine w
    (w.parts.engine.changeWorker key fun worker => { worker with wasReady := true })
  have hcarries : Carries w w₁ :=
    carries_changeWorker (f := fun worker => { worker with wasReady := true })
      (fun _ => ⟨rfl, rfl, rfl⟩) w key
  have hw₁ : Orderly lookups owed (some key) w₁ := hw.carry hcarries rfl
  have hworker₁ : worker? w₁ key = some { worker with wasReady := true } := by
    show worker? (withEngine w _) key = _
    rw [worker?_changeWorker_self, hworker]
    rfl
  have hothers₁ : ∀ other, other ≠ key → wasReady w₁ other = wasReady w other := by
    intro other hne
    unfold wasReady
    rw [show worker? w₁ other = worker? w other from worker?_changeWorker_of_ne hne w _]
  cases hasked : worker.hasAskedFor requestKey with
  | true =>
    -- the current request has the key already
    refine ⟨(), w₁, ?_, hw₁.settle hworker₁ ?_, rfl, hothers₁⟩
    · simp only [Engine.request, EStateM.run_bind, run_updateWorker, hasked, if_true]
      rfl
    · unfold Worker.hasAskedFor at hasked
      cases hcurrent : worker.current with
      | none => simp [hcurrent] at hasked
      | some request =>
        simp only [hcurrent, beq_iff_eq] at hasked
        show worker.lookup.requestKey? w.store.data = .ok (some request.key)
        rw [hkey, hasked]
  | false =>
    let w₂ := withEngine w₁ (w₁.parts.engine.ask key worker requestKey)
    have hw₂ : Orderly lookups owed none w₂ := by
      refine ⟨hw₁.books.ask key worker requestKey, hw₁.simple, ?_⟩
      exact hw₁.caught.changeRequest (some ⟨w₁.parts.engine.nextId, requestKey, false⟩)
        rfl hworker₁ hkey
    obtain ⟨⟨⟩, w₃, hphase, hquiet⟩ := yields_enterPhase key .loading w₂
    refine ⟨(), w₃, ?_, hquiet.orderly hw₂, hquiet.store_eq, fun other hne => ?_⟩
    · rw [← hphase]
      simp only [Engine.request, EStateM.run_bind, run_updateWorker, hasked]
      rfl
    · rw [hquiet.ready_eq, ← hothers₁ other hne]
      unfold wasReady
      rw [show worker? w₂ other = worker? w₁ other from
        worker?_changeWorker_of_ne hne w₁ fun worker =>
          { worker with current := some ⟨w₁.parts.engine.nextId, requestKey, false⟩ }]

/-- A worker that asks for an answer, or has asked for it, has had its turn. -/
theorem turn_of_request (hworker : worker? w key = some worker) {requestKey : String}
    (hkey : worker.lookup.requestKey? w.store.data = .ok (some requestKey))
    (hstore : w'.store = w.store)
    (hothers : ∀ other, other ≠ key → wasReady w' other = wasReady w other) : Turn key w w' where
  subscriptions_eq := congrArg Store.subscriptions hstore
  fades {other} h hnone := by
    obtain rfl : worker = other := Option.some.inj (hworker.symm.trans h)
    rw [hkey] at hnone
    cases hnone
  data_eq _ _ := congrArg Store.data hstore
  ready {other} hne h := hothers other hne ▸ h

/-- A worker that does not ask for anything has had its turn. -/
theorem turn_of_standBy (hworker : worker? w key = some worker) (hfades : Fades w w')
    (hready : wasReady w' key = false)
    (hsame : worker.lookup.isUnregistered w.store.data = true ∨ worker.wasReady = false →
      w'.store.data = w.store.data) : Turn key w w' where
  subscriptions_eq := hfades.subscriptions_eq
  fades _ _ := ⟨hfades, hready⟩
  data_eq {other} h hidle := by
    obtain rfl : worker = other := Option.some.inj (hworker.symm.trans h)
    exact hsame hidle
  ready _ := hfades.ready

/-- A worker that has its turn makes a request or stands by, unless its key cannot be written. -/
theorem refusedOr_evaluate_of_found {Q : World String Desk → Prop}
    (hnone : worker? w key = none → Q w)
    (hfound : ∀ {worker found}, worker? w key = some worker →
      worker.lookup.requestKey? w.store.data = .ok found →
      (match found with
        | some requestKey => Engine.request enginePart key worker requestKey
        | none => Engine.standBy enginePart put isShown key worker w.store.data :
        Shift Unit).RefusedOr w Q) :
    (Engine.evaluate enginePart put isShown key).RefusedOr w Q := by
  cases hworker : worker? w key with
  | none => exact Or.inr ⟨(), w, Engine.run_evaluate_of_none enginePart hworker, hnone hworker⟩
  | some worker =>
    cases hkey : worker.lookup.requestKey? w.store.data with
    | error fault =>
      -- a key that cannot be written is the only fault of a lookup
      left
      have hfault : fault = .notWritable := by
        unfold Lookup.requestKey? at hkey
        split at hkey
        · split at hkey <;> cases hkey
          rfl
        · cases hkey
      subst hfault
      exact ⟨w, Engine.run_evaluate_of_error enginePart hworker hkey⟩
    | ok found =>
      have hturn := hfound hworker hkey
      rw [Run.RefusedOr, Run.IsRefused, Run.Yields, Engine.run_evaluate enginePart hworker hkey]
      cases found <;> exact hturn

/-- **The turn of a worker** that is aside keeps everything in order and leaves nobody aside. -/
theorem refusedOr_evaluate (hput : Clears lookups put room) (hw : Orderly lookups owed (some key) w)
    (hroom : ∀ {worker}, worker? w key = some worker →
      worker.lookup.requestKey? w.store.data = .ok none → worker.wasReady = true →
      worker.lookup.isUnregistered w.store.data = false → room w) :
    (Engine.evaluate enginePart put isShown key).RefusedOr w
      fun w' => Orderly lookups owed none w' ∧ Turn key w w' := by
  refine refusedOr_evaluate_of_found (fun hnone => ?_) fun {worker found} hworker hkey => ?_
  · refine ⟨hw.caught_of_none hnone, rfl, fun h => ?_, fun _ _ => rfl, fun _ => id⟩
    rw [hnone] at h
    cases h
  · cases found with
    | some requestKey =>
      refine Or.inr ((yields_request hw hworker hkey).mono ?_)
      rintro w' ⟨hw', hstore, hothers⟩
      exact ⟨hw', turn_of_request hworker hkey hstore hothers⟩
    | none =>
      refine (refusedOr_standBy hput hw hworker hkey (hroom hworker hkey)).mono ?_
      rintro w' ⟨hw', hfades, hready, hsame⟩
      exact ⟨hw', turn_of_standBy hworker hfades hready hsame⟩

/-- The first turn of a worker. It has nothing to clear, and so it is not refused. -/
theorem yields_evaluate_of_fresh (hw : Orderly lookups owed (some key) w)
    (hworker : worker? w key = some worker) (hfresh : worker.wasReady = false)
    {found : Option String} (hkey : worker.lookup.requestKey? w.store.data = .ok found) :
    (Engine.evaluate enginePart put isShown key).Yields w
      fun w' => Orderly lookups owed none w' ∧ Turn key w w' := by
  rw [Run.Yields, Engine.run_evaluate enginePart hworker hkey]
  cases found with
  | some requestKey =>
    refine (yields_request hw hworker hkey).mono ?_
    rintro w' ⟨hw', hstore, hothers⟩
    exact ⟨hw', turn_of_request hworker hkey hstore hothers⟩
  | none =>
    refine (yields_standBy_of_fresh hw hworker hkey hfresh).mono ?_
    rintro w' ⟨hw', hfades, hready, hstore⟩
    exact ⟨hw', turn_of_standBy hworker hfades hready fun _ => congrArg Store.data hstore⟩

end Desk
end DynamicForms
