import DynamicForms.Proofs.Lookup.Step

/-!
# `DynamicForms.Proofs.Lookup.Steady` — where a lookup stands between turns

The current request of a worker, its phase, and what was said about its last answer are changed one
after the other. In the middle of a turn they may disagree, and just then the worker may write, so that
others have their turns, and perhaps the worker itself has another one. A worker is *steady* if its phase
is that of its current request. However the turns are nested, a turn leaves its worker steady, and every
other one that was steady before.

Only the end of a turn in which a lookup was found not ready takes an argument, for the phase is entered
after the targets were cleared. But values fade while they are being cleared, so that the lookup is not
ready then either. And a worker that nobody owes any news fits the data; so it has not got another
request in the meantime.

## Contents
- `LookupResult.bringsData`, `Worker.Reflects`, `Worker.Steady`.
- `Desk.Steady`, `Desk.KeepsSteady`.
- **Changes of one worker.** `Desk.Spares`, `Desk.Alters`.
- **Turns.** `steady_request`, `steady_standBy`, `steady_evaluate`.
- **Writes.** `steady_telling`, `clearsSteadily_perform`, `steady_write`.
-/

namespace DynamicForms

open Value (Object)
open Path (IsWhole)

namespace LookupResult

/-- Whether a result is a success that carries data. -/
def bringsData (o : LookupResult) : Bool :=
  o.response?.any fun response => response.success && response.data.isSome

theorem verdict_cases (o : LookupResult) :
    (o.bringsData = true ∧ ∃ data, o.verdict = .ok data) ∨
      (o.bringsData = false ∧ o.verdict = .error (complaint o.response?)) := by
  unfold bringsData verdict
  rcases o.response? with _ | ⟨_ | _, _ | data, error⟩ <;> simp

end LookupResult

namespace Worker

variable {answers answers' : Nat → LookupResult → Prop} {worker other : Worker}

/-- The phase of a worker that has no request. -/
def restPhase (worker : Worker) : Phase :=
  if worker.lookup.dependsOn.isEmpty then .idle else .waiting

/-- A worker shows what a result has brought. What was said about it may have been dismissed. -/
structure Reflects (worker : Worker) (result : LookupResult) : Prop where
  /-- The phase. -/
  phase_eq : worker.phase = if result.bringsData then .success else .error
  /-- What was said. -/
  error_eq : ∀ {message}, worker.error = some message →
    result.bringsData = false ∧ message = LookupResult.complaint result.response?

/-- The phase of a worker is that of its current request, given the answers that came in. -/
inductive Steady (answers : Nat → LookupResult → Prop) (worker : Worker) : Prop where
  /-- It has none. -/
  | rest (hcurrent : worker.current = none) (hphase : worker.phase = worker.restPhase)
  /-- It awaits the answer. -/
  | awaits {request : CurrentRequest} (hcurrent : worker.current = some request)
      (hopen : request.answered = false) (hphase : worker.phase = .loading)
  /-- The answer came in. -/
  | settled {request : CurrentRequest} {result : LookupResult}
      (hcurrent : worker.current = some request) (hdone : request.answered = true)
      (hanswer : answers request.id result) (hreflects : worker.Reflects result)

theorem Reflects.phase_cases {result : LookupResult} (h : worker.Reflects result) :
    worker.phase = .success ∨ worker.phase = .error := by
  rw [h.phase_eq]
  cases result.bringsData with
  | true => exact Or.inl rfl
  | false => exact Or.inr rfl

theorem restPhase_eq_waiting_iff : worker.restPhase = .waiting ↔ worker.lookup.dependsOn ≠ [] := by
  unfold restPhase
  cases worker.lookup.dependsOn <;> simp

theorem restPhase_ne_loading : worker.restPhase ≠ .loading := by
  unfold restPhase
  split <;> nofun

theorem Steady.phase_eq_restPhase (h : worker.Steady answers) (hnone : worker.current = none) :
    worker.phase = worker.restPhase := by
  cases h with
  | rest _ hphase => exact hphase
  | awaits hcurrent => simp [hnone] at hcurrent
  | settled hcurrent => simp [hnone] at hcurrent

/-- A steady worker waits exactly if it has no request although its lookup depends on something. -/
theorem Steady.phase_eq_waiting_iff (h : worker.Steady answers) :
    worker.phase = .waiting ↔ worker.current = none ∧ worker.lookup.dependsOn ≠ [] := by
  cases h with
  | rest hcurrent hphase => simp only [hphase, hcurrent, true_and, restPhase_eq_waiting_iff]
  | awaits hcurrent _ hphase => simp [hphase, hcurrent]
  | settled hcurrent _ _ hreflects =>
    rcases hreflects.phase_cases with hphase | hphase <;> simp [hphase, hcurrent]

/-- A steady worker is loading exactly if it awaits an answer. -/
theorem Steady.isLoading_iff (h : worker.Steady answers) :
    worker.isLoading = true ↔ worker.phase = .loading := by
  unfold isLoading
  cases h with
  | rest hcurrent hphase => simp [hcurrent, hphase, restPhase_ne_loading]
  | awaits hcurrent hopen hphase => simp [hcurrent, hopen, hphase]
  | settled hcurrent hdone _ hreflects =>
    rcases hreflects.phase_cases with hphase | hphase <;> simp [hphase, hcurrent, hdone]

/-- A steady worker whose request was answered shows what the answer has brought. -/
theorem Steady.reflects (h : worker.Steady answers) {request : CurrentRequest}
    (hcurrent : worker.current = some request) (hdone : worker.isLoading = false) :
    request.answered = true ∧ ∃ result, answers request.id result ∧ worker.Reflects result := by
  unfold isLoading at hdone
  rw [hcurrent] at hdone
  cases h with
  | rest hnone => simp [hcurrent] at hnone
  | awaits hsome hopen =>
    obtain rfl := Option.some.inj (hcurrent.symm.trans hsome)
    simp [hopen] at hdone
  | settled hsome hanswered hanswer hreflects =>
    obtain rfl := Option.some.inj (hcurrent.symm.trans hsome)
    exact ⟨hanswered, _, hanswer, hreflects⟩

theorem Steady.mono (h : worker.Steady answers)
    (himp : ∀ id result, answers id result → answers' id result) : worker.Steady answers' := by
  cases h with
  | rest hcurrent hphase => exact .rest hcurrent hphase
  | awaits hcurrent hopen hphase => exact .awaits hcurrent hopen hphase
  | settled hcurrent hdone hanswer hreflects =>
    exact .settled hcurrent hdone (himp _ _ hanswer) hreflects

/-- A worker stays steady if only what was said is dismissed, or what does not show changes. -/
theorem Steady.of_same (h : other.Steady answers) (hlookup : worker.lookup = other.lookup)
    (hcurrent : worker.current = other.current) (hphase : worker.phase = other.phase)
    (herror : worker.error = none ∨ worker.error = other.error) : worker.Steady answers := by
  cases h with
  | rest hnone hrest =>
    refine .rest (hcurrent.trans hnone) (hphase.trans (hrest.trans ?_))
    rw [restPhase, restPhase, hlookup]
  | awaits hsome hopen hloading =>
    exact .awaits (hcurrent.trans hsome) hopen (hphase.trans hloading)
  | settled hsome hdone hanswer hreflects =>
    refine .settled (hcurrent.trans hsome) hdone hanswer
      ⟨hphase.trans hreflects.phase_eq, fun hmessage => hreflects.error_eq ?_⟩
    rcases herror with hdismissed | hkept
    · rw [hdismissed] at hmessage
      cases hmessage
    · rw [← hkept, hmessage]

end Worker

namespace Desk

variable {answers : Nat → LookupResult → Prop} {lookups : String → Option Lookup}
  {w w' w'' : World String Desk} {owed : String → Object → Prop} {key other : String}
  {worker : Worker} {f g : Worker → Worker} {put : Writer String Desk}
  {room : World String Desk → Prop} {data : Object}

/-- A worker is steady if it is open. -/
def Steady (answers : Nat → LookupResult → Prop) (w : World String Desk) (key : String) : Prop :=
  ∀ worker, worker? w key = some worker → worker.isOpen = true → worker.Steady answers

theorem Steady.mono {answers' : Nat → LookupResult → Prop} (h : Steady answers w key)
    (himp : ∀ id result, answers id result → answers' id result) : Steady answers' w key :=
  fun worker hworker hopen => (h worker hworker hopen).mono himp

/-- Who was steady is steady. -/
def KeepsSteady (answers : Nat → LookupResult → Prop) (w w' : World String Desk) : Prop :=
  ∀ key, Steady answers w key → Steady answers w' key

theorem KeepsSteady.refl (w : World String Desk) : KeepsSteady answers w w := fun _ => id

theorem KeepsSteady.trans (h : KeepsSteady answers w w') (h' : KeepsSteady answers w' w'') :
    KeepsSteady answers w w'' := fun key hkey => h' key (h key hkey)

/-! ## Changes of one worker -/

/-- No worker but one has changed. -/
def Spares (key : String) (w w' : World String Desk) : Prop :=
  ∀ other, other ≠ key → worker? w' other = worker? w other

theorem Spares.trans (h : Spares key w w') (h' : Spares key w' w'') : Spares key w w'' :=
  fun other hne => (h' other hne).trans (h other hne)

theorem steady_congr (h : worker? w' key = worker? w key) (hw : Steady answers w key) :
    Steady answers w' key := by
  unfold Steady
  rw [h]
  exact hw

theorem Spares.keepsSteady (h : Spares key w w')
    (hown : Steady answers w key → Steady answers w' key) : KeepsSteady answers w w' := by
  intro other hother
  by_cases ho : other = key
  · subst ho
    exact hown hother
  · exact steady_congr (h other ho) hother

/-- One worker has changed in one way, and no other. -/
structure Alters (key : String) (f : Worker → Worker) (w w' : World String Desk) : Prop where
  /-- The one. -/
  self : worker? w' key = (worker? w key).map f
  /-- The others. -/
  spares : Spares key w w'

theorem Alters.trans (h : Alters key f w w') (h' : Alters key g w' w'') :
    Alters key (fun worker => g (f worker)) w w'' where
  self := by
    rw [h'.self, h.self, Option.map_map]
    rfl
  spares := h.spares.trans h'.spares

theorem Alters.steady (h : Alters key f w w')
    (hf : ∀ worker, worker? w key = some worker → (f worker).isOpen = true →
      (f worker).Steady answers) : Steady answers w' key := by
  intro worker' hworker' hopen
  rw [h.self] at hworker'
  obtain ⟨worker, hworker, rfl⟩ := Option.map_eq_some_iff.mp hworker'
  exact hf worker hworker hopen

/-- A change that does not show. -/
theorem Alters.keepsSteady (h : Alters key f w w')
    (hf : ∀ worker, (f worker).isOpen = worker.isOpen ∧ (f worker).lookup = worker.lookup ∧
      (f worker).current = worker.current ∧ (f worker).phase = worker.phase ∧
      ((f worker).error = none ∨ (f worker).error = worker.error)) : KeepsSteady answers w w' := by
  refine h.spares.keepsSteady fun hown => h.steady fun worker hworker hopen => ?_
  obtain ⟨hsame, hlookup, hcurrent, hphase, herror⟩ := hf worker
  exact (hown worker hworker (hsame ▸ hopen)).of_same hlookup hcurrent hphase herror

theorem alters_updateWorker (key : String) (f : Worker → Worker) (w : World String Desk) :
    (Engine.updateWorker enginePart key f : Shift Unit).Yields w (Alters key f w) :=
  ⟨(), _, run_updateWorker key f w, worker?_changeWorker_self w key f,
    fun _ hne => worker?_changeWorker_of_ne hne w f⟩

theorem alters_ask (key : String) (worker : Worker) (requestKey : String) (w : World String Desk) :
    (enginePart.update fun e => e.ask key worker requestKey : Shift Unit).Yields w
      (Alters key (fun worker =>
        { worker with current := some ⟨w.parts.engine.nextId, requestKey, false⟩ }) w) :=
  let f (worker : Worker) : Worker :=
    { worker with current := some ⟨w.parts.engine.nextId, requestKey, false⟩ }
  ⟨(), withEngine w (w.parts.engine.ask key worker requestKey), rfl,
    worker?_changeWorker_self w key f, fun _ hne => worker?_changeWorker_of_ne hne w f⟩

theorem alters_enterPhase (key : String) (phase : Phase) (w : World String Desk) :
    (Engine.enterPhase enginePart key phase : Shift Unit).Yields w
      (Alters key (fun worker => { worker with phase }) w) := by
  cases hworker : worker? w key with
  | none =>
    refine ⟨(), w, Engine.run_enterPhase_of_none enginePart hworker phase, ?_, fun _ _ => rfl⟩
    rw [hworker]
    rfl
  | some worker =>
    rw [Run.Yields, Engine.run_enterPhase enginePart hworker]
    split
    · exact (alters_updateWorker key (fun worker => { worker with phase }) w).bind
        fun _ w' hw' => ⟨(), _, run_announce key w', hw'.self, hw'.spares⟩
    · next hsame =>
      obtain rfl : worker.phase = phase := by simpa using hsame
      exact ⟨(), w, rfl, by rw [hworker]; rfl, fun _ _ => rfl⟩

/-! ## Turns -/

/-- A worker that makes its request is steady, if it was before or had none. -/
theorem steady_request (answers : Nat → LookupResult → Prop) (key : String) (worker : Worker)
    (requestKey : String) (w : World String Desk) :
    (Engine.request enginePart key worker requestKey : Shift Unit).Yields w
      fun w' => Spares key w w' ∧ (worker.current = none ∨ Steady answers w key →
        Steady answers w' key) := by
  have hnote := alters_updateWorker key (fun worker => { worker with wasReady := true }) w
  unfold Engine.request
  cases hasked : worker.hasAskedFor requestKey with
  | true =>
    -- nothing is done but the note, which does not show
    refine hnote.bind fun _ w₁ h₁ => ⟨(), w₁, rfl, h₁.spares, fun hbefore => ?_⟩
    rcases hbefore with hnone | hsteady
    · unfold Worker.hasAskedFor at hasked
      rw [hnone] at hasked
      cases hasked
    · exact h₁.keepsSteady (fun _ => ⟨rfl, rfl, rfl, rfl, Or.inr rfl⟩) key hsteady
  | false =>
    -- whatever the worker was before, it awaits the new request in the end
    refine hnote.bind fun _ w₁ h₁ => ?_
    refine (alters_ask key worker requestKey w₁).bind fun _ w₂ h₂ => ?_
    refine (alters_enterPhase key .loading w₂).mono fun w₃ h₃ => ?_
    have hall := (h₁.trans h₂).trans h₃
    exact ⟨hall.spares, fun _ => hall.steady fun _ _ _ => .awaits rfl rfl rfl⟩

/-- A worker that was not ready before and is not ready now is steady. -/
theorem steady_standBy_of_fresh (hworker : worker? w key = some worker)
    (hfresh : worker.wasReady = false) :
    (Engine.standBy enginePart put isShown key worker w.store.data).Yields w
      fun w' => Spares key w w' ∧ Steady answers w' key := by
  have hnothing : clearing put worker w.store.data = pure () := by
    unfold clearing
    rw [hfresh]
    rfl
  rw [standBy_eq, hnothing]
  refine (alters_updateWorker key (fun worker => { worker with current := none }) w).bind
    fun _ w₁ h₁ => Run.Yields.bind (Q := fun w₂ => w₂ = w₁) ⟨(), w₁, rfl, rfl⟩ ?_
  rintro - w₁ rfl
  refine (alters_updateWorker key (fun worker => { worker with wasReady := false }) w₁).bind
    fun _ w₂ h₂ => ?_
  refine (alters_enterPhase key _ w₂).mono fun w₃ h₃ => ?_
  have hall := (h₁.trans h₂).trans h₃
  refine ⟨hall.spares, hall.steady fun other hother _ => ?_⟩
  obtain rfl : worker = other := Option.some.inj (hworker.symm.trans hother)
  exact .rest rfl rfl

/-- What is owed to all but one worker. -/
def owedToOthers (key : String) (owed : String → Object → Prop) : String → Object → Prop :=
  fun other data => other ≠ key ∧ owed other data

/-- A worker that is aside is owed nothing. -/
theorem Orderly.owedToOthers (h : Orderly lookups owed (some key) w) :
    Orderly lookups (owedToOthers key owed) (some key) w where
  books := h.books
  simple := h.simple
  caught other worker hworker hopen hne := by
    refine (h.caught other worker hworker hopen hne).imp_right fun ⟨old, howed, hfits⟩ => ?_
    exact ⟨old, ⟨fun heq => hne (congrArg some heq), howed⟩, hfits⟩

/-- The lookup of a worker is what it was. -/
theorem Books.lookup_eq (h : Books lookups w) (h' : Books lookups w') {worker' : Worker}
    (hworker : worker? w key = some worker) (hworker' : worker? w' key = some worker') :
    worker'.lookup = worker.lookup := by
  have hroster := (h'.roster key).trans (h.roster key).symm
  rw [hworker, hworker'] at hroster
  exact Option.some.inj hroster

/-- A lookup that is not ready does not become ready while values fade. -/
theorem Fades.requestKey?_eq_none (h : Fades w w') (hbooks : Books lookups w)
    (hbooks' : Books lookups w') {worker' : Worker} (hworker : worker? w key = some worker)
    (hkey : worker.lookup.requestKey? w.store.data = .ok none)
    (hworker' : worker? w' key = some worker') (hopen : worker'.isOpen = true) :
    worker'.lookup.requestKey? w'.store.data = .ok none := by
  rw [hbooks.lookup_eq hbooks' hworker hworker']
  obtain ⟨old, hold, himp⟩ := exists_open hbooks' hbooks h.subscriptions_eq.symm hworker
  obtain rfl : worker' = old := Option.some.inj (hworker'.symm.trans hold)
  replace hopen := himp hopen
  rcases Lookup.exists_not_filledIn (Lookup.requestKey?_eq_none_iff.mp hkey) with
    hnothing | ⟨path, hpath, hempty⟩
  · exact Lookup.requestKey?_of_no_dependencies hnothing _
  · -- what is not filled in fades to something that is not filled in, if it is watched
    cases hticket : worker.ticket with
    | none =>
      refine Lookup.requestKey?_of_no_dependencies ?_ _
      simpa [Worker.isOpen, hticket] using hopen
    | some ticket =>
      have hwatch : (key, path) ∈ w.store.watchings :=
        hbooks.mem_watchings (hbooks.subscribed hworker hticket) hworker hpath
      refine Lookup.requestKey?_of_not_filledIn hpath ?_
      show (w'.store.get path).isFilledIn = false
      rcases h.value hwatch with hsame | hcleared | ⟨hgone, -⟩
      · rw [hsame]
        exact hempty
      · rw [hcleared]
        rfl
      · rw [hgone]
        rfl

/-- As long as there is room, clearing a place with a way to write leaves everybody steady. -/
def ClearsSteadily (answers : Nat → LookupResult → Prop) (lookups : String → Option Lookup)
    (put : Writer String Desk) (room : World String Desk → Prop) : Prop :=
  ∀ {w path owed}, room w → IsWhole path → Orderly lookups owed none w →
    (put (.set path (.text ""))).RefusedOr w (KeepsSteady answers w)

theorem steady_clearing (hput : Clears lookups put room)
    (hsteady : ClearsSteadily answers lookups put room)
    (htargets : ∀ target ∈ worker.lookup.targets, IsWhole target.path)
    (hw : Orderly lookups owed none w)
    (hroom : worker.wasReady = true → worker.lookup.isUnregistered data = false → room w) :
    (clearing put worker data).RefusedOr w (KeepsSteady answers w) := by
  unfold clearing
  split
  · next hclear =>
    rw [Bool.and_eq_true, Bool.not_eq_true'] at hclear
    refine (refusedOr_writeTargets (I := fun w' => (Orderly lookups owed none w' ∧ Fades w w') ∧
      KeepsSteady answers w w') ?_ ⟨⟨hw, .refl w⟩, .refl w⟩).mono fun _ h => h.2
    rintro target htarget v w' hv ⟨⟨hw', hfades⟩, hkeeps⟩
    cases hv
    -- the room for the first target is there for each of them, as values only fade
    have hroom' : room w' := hput.fades (hroom hclear.1 hclear.2) hfades
    have htarget' := htargets target htarget
    refine ((hput.clear hroom' htarget' hw').and (hsteady hroom' htarget' hw')).mono ?_
    rintro w'' ⟨⟨hw'', hfades'⟩, hkeeps'⟩
    exact ⟨⟨hw'', hfades.trans hfades'⟩, hkeeps.trans hkeeps'⟩
  · exact Or.inr ⟨(), w, rfl, .refl w⟩

/-- The end of the turn of a worker that has cleared its targets because its lookup was not ready. -/
theorem steady_retire (answers : Nat → LookupResult → Prop)
    (hw : Orderly lookups (owedToOthers key owed) none w) {l : Lookup}
    (hlookup : ∀ worker, worker? w key = some worker → worker.lookup = l)
    (hkey : ∀ worker, worker? w key = some worker → worker.isOpen = true →
      worker.lookup.requestKey? w.store.data = .ok none) :
    (Engine.updateWorker enginePart key (fun worker => { worker with wasReady := false }) >>=
        fun _ => Engine.enterPhase enginePart key
          (if l.dependsOn.isEmpty then .idle else .waiting) : Shift Unit).Yields w
      fun w' => Spares key w w' ∧ Steady answers w' key := by
  refine (alters_updateWorker key (fun worker => { worker with wasReady := false }) w).bind
    fun _ w₁ h₁ => ?_
  refine (alters_enterPhase key _ w₁).mono fun w₂ h₂ => ?_
  have hall := h₁.trans h₂
  refine ⟨hall.spares, hall.steady fun worker hworker hopen => ?_⟩
  obtain rfl := hlookup worker hworker
  -- it is owed nothing, so its request is the one that its lookup is ready for, and that is none
  rcases hw.caught key worker hworker hopen (Option.some_ne_none key) with
    hfits | ⟨_, ⟨hne, -⟩, -⟩
  · refine .rest ?_ rfl
    have hcurrent := hfits.symm.trans (hkey worker hworker hopen)
    simpa using hcurrent
  · exact absurd rfl hne

/-- **A worker whose lookup is not ready** is steady after its turn, and so are those that were. -/
theorem steady_standBy (hput : Clears lookups put room)
    (hsteady : ClearsSteadily answers lookups put room) (hw : Orderly lookups owed (some key) w)
    (hworker : worker? w key = some worker)
    (hkey : worker.lookup.requestKey? w.store.data = .ok none)
    (hroom : worker.wasReady = true → worker.lookup.isUnregistered w.store.data = false → room w) :
    (Engine.standBy enginePart put isShown key worker w.store.data).RefusedOr w
      (KeepsSteady answers w) := by
  rw [standBy_eq]
  have halters := alters_updateWorker key (fun worker => { worker with current := none }) w
  have hfree := yields_invalidate hw.owedToOthers hworker hkey
  refine Run.RefusedOr.bind (Run.RefusedOr.and (Or.inr hfree) (Or.inr halters)) ?_
  rintro - w₁ ⟨⟨hw₁, hfades₁, -⟩, halters₁⟩
  -- the others are steady again after the clearing, the worker itself after its last steps
  have htargets := (hw.books.whole hworker).targets
  have hroom₁ : worker.wasReady = true → worker.lookup.isUnregistered w.store.data = false →
      room w₁ := fun hready hthere => hput.fades (hroom hready hthere) hfades₁
  refine ((refusedOr_clearing hput htargets hw₁ hroom₁).and
    (steady_clearing hput hsteady htargets hw₁ hroom₁)).bind ?_
  rintro - w₂ ⟨⟨hw₂, hfades₂, -⟩, hkeeps₂⟩
  refine Or.inr ((steady_retire answers hw₂ (fun _ => hw.books.lookup_eq hw₂.books hworker)
    fun _ hworker₂ hopen => (hfades₁.trans hfades₂).requestKey?_eq_none hw.books hw₂.books hworker
      hkey hworker₂ hopen).mono ?_)
  rintro w₃ ⟨hspares₃, hsteady₃⟩ other hother
  by_cases ho : other = key
  · subst ho
    exact hsteady₃
  · exact steady_congr (hspares₃ other ho)
      (hkeeps₂ other (steady_congr (halters₁.spares other ho) hother))

/-- **The turn of a worker** that is aside leaves steady whoever was. -/
theorem steady_evaluate (hput : Clears lookups put room)
    (hsteady : ClearsSteadily answers lookups put room) (hw : Orderly lookups owed (some key) w)
    (hroom : ∀ {worker}, worker? w key = some worker →
      worker.lookup.requestKey? w.store.data = .ok none → worker.wasReady = true →
      worker.lookup.isUnregistered w.store.data = false → room w) :
    (Engine.evaluate enginePart put isShown key).RefusedOr w (KeepsSteady answers w) := by
  refine refusedOr_evaluate_of_found (fun _ => .refl w) fun {worker found} hworker hkey => ?_
  cases found with
  | none => exact steady_standBy hput hsteady hw hworker hkey (hroom hworker hkey)
  | some requestKey =>
    refine Or.inr ((steady_request answers key worker requestKey w).mono ?_)
    rintro w' ⟨hspares, hown⟩
    exact hspares.keepsSteady fun hsteady => hown (Or.inr hsteady)

/-! ## Writes -/

variable {wr : Write} {sub : Subscription String} {rest : List (Subscription String)}
  {K : List (Subscription String) → World String Desk → Prop}

/-- One subscription is told. -/
theorem steady_tell (hput : Clears lookups put room)
    (hsteady : ClearsSteadily answers lookups put room) (hK : Course lookups data room K)
    (hsub : sub ∈ w.store.subscriptions)
    (hw : Orderly lookups (pending data (sub :: rest) owed) none w) (h : K (sub :: rest) w) :
    (tell (guarded put) wr (sub.capture data)).RefusedOr w (KeepsSteady answers w) := by
  obtain ⟨worker, hworker, -, -⟩ := hw.books.owner hsub
  rcases run_tell_cases put wr data hw.books hw.simple hsub hworker with
    ⟨-, hrun⟩ | ⟨path, hpath, hchanged, hrun⟩
  · exact Or.inr ⟨(), w, hrun, .refl w⟩
  · rw [Run.RefusedOr, Run.IsRefused, Run.Yields, hrun]
    refine steady_evaluate hput hsteady hw.putAside fun {other} hother _ hready hthere => ?_
    obtain rfl : worker = other := Option.some.inj (hworker.symm.trans hother)
    exact hK.clears hw.books hsub hworker hpath hchanged h hready hthere

/-- All are told. -/
theorem steady_telling (hput : Clears lookups put room)
    (hsteady : ClearsSteadily answers lookups put room) (hK : Course lookups data room K)
    {subs : List (Subscription String)} (hsubs : ∀ sub ∈ subs, sub ∈ w.store.subscriptions)
    (hw : Orderly lookups (pending data subs owed) none w) (h : K subs w) :
    ((subs.map fun sub => sub.capture data).forM (tell (guarded put) wr)).RefusedOr w
      (KeepsSteady answers w) := by
  induction subs generalizing w with
  | nil => exact Or.inr ⟨(), w, rfl, .refl w⟩
  | cons sub rest ih =>
    show (tell (guarded put) wr (sub.capture data) >>= fun _ =>
      (rest.map fun sub => sub.capture data).forM (tell (guarded put) wr)).RefusedOr w _
    have hsub := hsubs sub List.mem_cons_self
    refine ((refusedOr_tell hput hK hsub hw h).and (steady_tell hput hsteady hK hsub hw h)).bind ?_
    rintro - w' ⟨⟨hw', hK', hsame⟩, hkeeps⟩
    refine (ih (fun other ho => ?_) hw' hK').mono fun w'' hkeeps' => hkeeps.trans hkeeps'
    rw [hsame]
    exact hsubs other (List.mem_cons_of_mem _ ho)

/-- A write with all that follows from it, if there is a course to be kept while it is told of. -/
theorem steady_perform {depth : Nat} (hput : Clears lookups (perform guarded depth) room)
    (hsteady : ClearsSteadily answers lookups (perform guarded depth) room) (hwr : wr.IsWhole)
    (hw : Orderly lookups owed none w)
    (hcourse : isSimple (w.withData (wr.after w.store.data)) = true →
      ∃ K, Course lookups w.store.data room K ∧
        K (w.store.concerned wr) (w.withData (wr.after w.store.data))) :
    (perform guarded (depth + 1) wr).RefusedOr w (KeepsSteady answers w) := by
  refine refusedOr_perform_of_telling hwr hw (.refl w) fun hplaced => ?_
  obtain ⟨K, hK, hstart⟩ := hcourse hplaced.simple
  have hsubs : ∀ sub ∈ w.store.concerned wr,
      sub ∈ (w.withData (wr.after w.store.data)).store.subscriptions :=
    (concerned_sublist w.store wr).subset
  exact steady_telling hput hsteady hK hsubs hplaced hstart

/-- **Nested clearings** leave steady whoever was. -/
theorem clearsSteadily_perform (depth : Nat) :
    ClearsSteadily answers lookups (perform guarded depth) fun w => uncleared w < depth := by
  induction depth with
  | zero => exact fun h => absurd h (Nat.not_lt_zero _)
  | succ depth ih =>
    -- the clearings nested in this one have one level less, and less is left to be cleared
    intro w path owed hroom hpath hw
    refine steady_perform (clears_perform depth) ih (isWhole_set hpath _) hw fun hafter => ?_
    obtain ⟨K, hK, hstart, -⟩ := exists_course_clear hw hpath (Nat.le_of_lt_succ hroom) hafter
    exact ⟨K, hK, hstart⟩

/-- **A write at a desk** leaves steady whoever was. -/
theorem steady_write (answers : Nat → LookupResult → Prop) (hwr : wr.IsWhole)
    (hw : Orderly lookups owed none w) :
    (write guarded wr).RefusedOr w (KeepsSteady answers w) := by
  have hroom : w.store.watchings.length < 188 + w.store.watchings.length + 1 := by omega
  have hrun := run_write guarded wr w
  rw [nesting_eq] at hrun
  rw [Run.RefusedOr, Run.IsRefused, Run.Yields, hrun]
  exact steady_perform (clears_perform _) (clearsSteadily_perform _) hwr hw fun _ =>
    ⟨_, course_of_room w _ hroom, rfl⟩

theorem clearsSteadily_write : ClearsSteadily answers lookups (write guarded) fun _ => True :=
  fun _ hpath hw => steady_write answers (isWhole_set hpath _) hw

end Desk
end DynamicForms
