import DynamicForms.Proofs.Lookup.Disjoint
import DynamicForms.Proofs.Lookup.Status

/-!
# `DynamicForms.Proofs.Lookup.Effect` — what an answer does to the form

The answer to the current request of a worker either brings data or a message. Data goes to those shown
targets that it names; a message clears all shown targets. Many things that can come back stand for a
message, and all that stand for the same one do the same.

If the lookups are disjoint, nobody is told of these writes, so that they are all that happens to the form:
each target reads what was written to it, and everything apart from those targets reads what it read.

## Contents
- **What comes back.** `LookupResult.Carries`, `LookupResult.Brings`, `LookupResult.Says`;
  `verdict_of_brings`, `verdict_of_says`.
- **What is done with it.** `LookupResult.content`, `Worker.conclude`; `Desk.Leads`, `leads_receive`,
  `leads_complete`.
- `Desk.Effect`, `effect_of_complete`.
-/

namespace DynamicForms

open Value (Object Indistinct)
open Path (Apart HasPlainNames IsWhole segments)

/-! ## What comes back -/

namespace LookupResult

/-- The forms in which a response comes back: as such, or as a dictionary that is read as it. -/
inductive Carries : LookupResult → Response → Prop
  /-- As such. -/
  | answered (response : Response) : Carries (.answered (some response)) response
  /-- As a dictionary. -/
  | document {fields : Object} {response : Response} (h : Response.decode fields = .ok response) :
    Carries (.document (.object fields)) response

/-- A success that carries data. -/
def Brings (result : LookupResult) (found : Object) : Prop :=
  ∃ error, result.Carries ⟨true, some found, error⟩

/-- What comes back without data, and what is said about it. -/
inductive Says (result : LookupResult) : String → Prop
  /-- An exception with a text. -/
  | exception {kind text : String} (h : result = .failed kind text) (htext : text ≠ "") :
    Says result text
  /-- A failure with a text. -/
  | failure {data : Option Object} {text : String} (h : result.Carries ⟨false, data, some text⟩)
    (htext : text ≠ "") : Says result text
  /-- A failure without a text. -/
  | noText {data : Option Object} {error : Option String} (h : result.Carries ⟨false, data, error⟩)
    (herror : error = none ∨ error = some "") : Says result usualMessage
  /-- A success that carries no data, and no text either. -/
  | noData {error : Option String} (h : result.Carries ⟨true, none, error⟩)
    (herror : error = none ∨ error = some "") : Says result usualMessage
  /-- A dictionary that is no response. -/
  | malformed {fields : Object} {misfit : Decode.Misfit} (h : result = .document (.object fields))
    (hread : Response.decode fields = .error misfit) : Says result usualMessage
  /-- Nothing. -/
  | nothing (h : result = .answered none ∨ result = .document .null) : Says result usualMessage

variable {result : LookupResult} {response : Response} {found : Object} {message : String}

theorem response?_of_carries (h : result.Carries response) : result.response? = some response := by
  cases h with
  | answered => rfl
  | document h => simp only [response?, ofDocument, h]

theorem verdict_of_brings (h : result.Brings found) : result.verdict = .ok found := by
  obtain ⟨error, hcarries⟩ := h
  rw [verdict, response?_of_carries hcarries]

theorem complaint_of_text {success : Bool} {data : Option Object} {text : String} (h : text ≠ "") :
    complaint (some ⟨success, data, some text⟩) = text := by
  have hempty : text.isEmpty = false := by simpa [String.isEmpty_iff] using h
  simp only [complaint, hempty, Bool.false_eq_true, if_false]

theorem complaint_of_no_text {success : Bool} {data : Option Object} {error : Option String}
    (h : error = none ∨ error = some "") : complaint (some ⟨success, data, error⟩) = usualMessage := by
  rcases h with rfl | rfl <;> rfl

/-- **What is said about an answer without data.** -/
theorem verdict_of_says (h : result.Says message) : result.verdict = .error message := by
  cases h with
  | exception h htext =>
    have hempty : message.isEmpty = false := by simpa [String.isEmpty_iff] using htext
    subst h
    simp only [verdict, response?, hempty, Bool.false_eq_true, if_false, Response.failed]
    rw [complaint_of_text htext]
  | failure h htext =>
    rw [verdict, response?_of_carries h]
    exact congrArg Except.error (complaint_of_text htext)
  | noText h herror =>
    rw [verdict, response?_of_carries h]
    exact congrArg Except.error (complaint_of_no_text herror)
  | noData h herror =>
    rw [verdict, response?_of_carries h]
    exact congrArg Except.error (complaint_of_no_text herror)
  | malformed h hread =>
    subst h
    simp only [verdict, response?, ofDocument, hread]
    rfl
  | nothing h => rcases h with rfl | rfl <;> rfl

/-- What is written to a target: what the data has for it, or the empty text. -/
def content (result : LookupResult) (target : Reference) : Option Value :=
  match result.verdict with
  | .ok found => Entries.get? found target.key
  | .error _ => some (.text "")

end LookupResult

/-- A worker after the answer to its current request was taken. -/
def Worker.conclude (worker : Worker) (key : String) (result : LookupResult) : Worker :=
  match result.verdict with
  | .ok _ => { worker with phase := .success, error := none, lastKey := some key }
  | .error message => { worker with phase := .error, error := some message, lastKey := some key }

namespace Desk

variable {table : List Lookup} {w w' w'' : World String Desk} {put : Writer String Desk}
  {after later : Object} {key : String} {f g : Worker → Worker} {worker : Worker} {errand : Errand}
  {targets : List Reference} {result : LookupResult}

/-! ## What is done with it -/

/-- One worker has changed in one way, the data is what is said, and nothing else has happened to the
    store or to what is hidden. -/
structure Leads (key : String) (f : Worker → Worker) (after : Object) (w w' : World String Desk) :
    Prop extends Alters key f w w' where
  /-- The store. -/
  store_eq : w'.store = { w.store with data := after }
  /-- What is hidden. -/
  hidden_eq : w'.parts.hidden = w.parts.hidden

theorem Leads.trans (h : Leads key f after w w') (h' : Leads key g later w' w'') :
    Leads key (fun worker => g (f worker)) later w w'' where
  toAlters := h.toAlters.trans h'.toAlters
  store_eq := by rw [h'.store_eq, h.store_eq]
  hidden_eq := h'.hidden_eq.trans h.hidden_eq

theorem Leads.isShown_eq (h : Leads key f after w w') : w'.parts.isShown = w.parts.isShown := by
  funext path
  rw [isShown, isShown, h.hidden_eq]

theorem Leads.filled_eq (h : Leads key f after w w') (targets : List Reference)
    (content : Reference → Option Value) : filled w'.parts targets content = filled w.parts targets content := by
  unfold filled filledOne
  rw [h.isShown_eq]

theorem Leads.proper (h : Leads key f after w w') (hf : ∀ worker, (f worker).lookup = worker.lookup)
    (hafter : HasPlainNames after) (hw : Proper table w) : Proper table w' where
  plain := by rw [h.store_eq]; exact hafter
  known {other worker'} hworker' := by
    by_cases ho : other = key
    · rw [ho, h.self] at hworker'
      obtain ⟨worker, hworker, rfl⟩ := Option.map_eq_some_iff.mp hworker'
      rw [hf]
      exact hw.known hworker
    · rw [h.spares other ho] at hworker'
      exact hw.known hworker'
  watched hsub := by
    rw [h.store_eq] at hsub
    exact hw.watched hsub

theorem leads_updateWorker (key : String) (f : Worker → Worker) (w : World String Desk) :
    (Engine.updateWorker enginePart key f : Shift Unit).Yields w (Leads key f w.store.data w) :=
  ⟨(), _, run_updateWorker key f w,
    ⟨worker?_changeWorker_self w key f, fun _ hne => worker?_changeWorker_of_ne hne w f⟩, rfl, rfl⟩

theorem leads_announce (key : String) (w : World String Desk) :
    (Engine.announce enginePart key : Shift Unit).Yields w (Leads key id w.store.data w) :=
  ⟨(), _, run_announce key w, ⟨Option.map_id_apply.symm, fun _ _ => rfl⟩, rfl, rfl⟩

theorem leads_enterPhase (key : String) (phase : Phase) (w : World String Desk) :
    (Engine.enterPhase enginePart key phase : Shift Unit).Yields w
      (Leads key (fun worker => { worker with phase }) w.store.data w) := by
  obtain ⟨⟨⟩, w', hrun, halters⟩ := alters_enterPhase key phase w
  have hquiet := (yields_enterPhase key phase w).of_run hrun
  have hhidden : w'.parts.hidden = w.parts.hidden := by
    have hkeeps : (Engine.enterPhase enginePart key phase : Shift Unit).Keeps
        fun w' => w'.parts.hidden = w.parts.hidden :=
      Engine.keeps_enterPhase (fun _ _ _ => id) key phase
    have hkept := hkeeps w rfl
    rwa [Run.outcome_of_ok hrun] at hkept
  exact ⟨(), w', hrun, halters, hquiet.store_eq, hhidden⟩

theorem leads_writeTargets (hw : Proper table w) (hput : HasRoom react put)
    (hwhole : ∀ target ∈ targets, IsWhole target.path)
    (hunwatched : ∀ target ∈ targets, IsUnwatched table target.path)
    (content : Reference → Option Value) (key : String) :
    (Engine.writeTargets put isShown targets content).Yields w
      (Leads key id (filled w.parts targets content w.store.data) w) :=
  ⟨(), _, hw.run_writeTargets hput hwhole hunwatched content,
    ⟨Option.map_id_apply.symm, fun _ _ => rfl⟩, rfl, rfl⟩

/-- A worker says how an answer is to be taken, enters a phase and writes to its targets. -/
theorem leads_take (hw : Proper table w) (hput : HasRoom react put)
    (hwhole : ∀ target ∈ targets, IsWhole target.path)
    (hunwatched : ∀ target ∈ targets, IsUnwatched table target.path)
    (content : Reference → Option Value) (key : String) (error : Option String) (phase : Phase) :
    (Engine.updateWorker enginePart key (fun worker => { worker with error }) >>= fun _ =>
        Engine.enterPhase enginePart key phase >>= fun _ =>
        Engine.writeTargets put isShown targets content : Shift Unit).Yields w
      (Leads key (fun worker => { worker with error, phase })
        (filled w.parts targets content w.store.data) w) := by
  refine (leads_updateWorker key (fun worker => { worker with error }) w).bind fun _ w₁ h₁ => ?_
  refine (leads_enterPhase key phase w₁).bind fun _ w₂ h₂ => ?_
  have hboth := h₁.trans h₂
  have hdata : w₁.store.data = w.store.data := by rw [h₁.store_eq]
  rw [hdata] at hboth
  have hw₂ : Proper table w₂ := hboth.proper (fun _ => rfl) hw.plain hw
  refine (leads_writeTargets hw₂ hput hwhole hunwatched content key).mono fun w₃ h₃ => ?_
  have hall := hboth.trans h₃
  rwa [hboth.filled_eq, show w₂.store.data = w.store.data by rw [hboth.store_eq]] at hall

/-- **Taking an answer** fills the shown targets, and the worker says how it was taken. -/
theorem leads_receive (hw : Proper table w) (hput : HasRoom react put)
    (hwhole : ∀ target ∈ targets, IsWhole target.path)
    (hunwatched : ∀ target ∈ targets, IsUnwatched table target.path)
    (errand : Errand) (result : LookupResult) :
    (Engine.receive enginePart put isShown errand targets result).Yields w
      (Leads errand.worker (·.conclude errand.key result)
        (filled w.parts targets result.content w.store.data) w) := by
  have hsettle : (settle put errand.worker targets result).Yields w
      (Leads errand.worker
        (fun worker => { worker.conclude errand.key result with lastKey := worker.lastKey })
        (filled w.parts targets result.content w.store.data) w) := by
    unfold settle LookupResult.content Worker.conclude
    cases result.verdict with
    | ok found => exact leads_take hw hput hwhole hunwatched _ errand.worker none .success
    | error message => exact leads_take hw hput hwhole hunwatched _ errand.worker (some message) .error
  rw [receive_eq]
  refine hsettle.bind fun _ w₁ h₁ => ?_
  refine (leads_updateWorker errand.worker
    (fun worker => { worker with lastKey := some errand.key }) w₁).bind fun _ w₂ h₂ => ?_
  refine (leads_announce errand.worker w₂).mono fun w₃ h₃ => ?_
  have hall := (h₁.trans h₂).trans h₃
  have hdata : w₂.store.data = filled w.parts targets result.content w.store.data := by
    rw [h₂.store_eq, h₁.store_eq]
  have hconclude : (fun worker : Worker => id
      { ({ worker.conclude errand.key result with lastKey := worker.lastKey } : Worker) with
        lastKey := some errand.key }) = (·.conclude errand.key result) := by
    funext worker
    unfold Worker.conclude
    cases result.verdict <;> rfl
  rwa [hdata, hconclude] at hall

/-- **An answer to the current request** lands and is taken. -/
theorem leads_complete (htable : Lookup.AreDisjoint table) (hw : Proper table w)
    (herrand : w.parts.engine.errand? errand.id = some errand)
    (hworker : worker? w errand.worker = some worker) (hcurrent : worker.isCurrent errand.id = true)
    (result : LookupResult) :
    (complete errand.id result).Yields w
      (Leads errand.worker (fun worker => (worker.noteAnswered errand.id).conclude errand.key result)
        (filled w.parts worker.lookup.targets result.content w.store.data) w) := by
  have hlands : Leads errand.worker (·.noteAnswered errand.id) w.store.data w
      (withEngine w (w.parts.engine.land errand)) := ⟨alters_land errand w, rfl, rfl⟩
  have hlanded : worker? (withEngine w (w.parts.engine.land errand)) errand.worker
      = some (worker.noteAnswered errand.id) := by
    rw [hlands.self, hworker]
    rfl
  have hknown := hw.known hworker
  have hreceive := leads_receive (hlands.proper (fun _ => rfl) hw.plain hw) (hasRoom_write react)
    (htable.whole _ hknown).targets
    (fun target htarget l hl path hpath => htable.dependencies _ hknown l hl target htarget path hpath)
    errand result
  rw [Run.Yields, show (complete errand.id result).run w = _ from
    run_complete_of_some herrand hlanded result, Worker.isCurrent_noteAnswered, hcurrent]
  exact hreceive.mono fun _ h => hlands.trans h

/-! ## The effect -/

/-- What the answer to the current request of a worker has done. -/
structure Effect (errand : Errand) (worker : Worker) (result : LookupResult)
    (w w' : World String Desk) : Prop where
  /-- Data is read at the shown targets that it names. -/
  filled : ∀ {found}, result.verdict = .ok found → ∀ target ∈ worker.lookup.targets,
    w.parts.isShown target.path = true → ∀ v, Entries.get? found target.key = some v →
      Indistinct (w'.store.get target.path) v
  /-- Everything apart from those is as it was. -/
  untouched : ∀ {found}, result.verdict = .ok found → ∀ path, IsWhole path →
    (∀ target ∈ worker.lookup.targets, w.parts.isShown target.path = true →
      Entries.contains found target.key = true → Apart (segments target.path) (segments path)) →
    w'.store.get path = w.store.get path
  /-- Without data the shown targets read the empty text. -/
  cleared : ∀ {message}, result.verdict = .error message → ∀ target ∈ worker.lookup.targets,
    w.parts.isShown target.path = true → w'.store.get target.path = .text ""
  /-- Everything apart from those is as it was. -/
  spared : ∀ {message}, result.verdict = .error message → ∀ path, IsWhole path →
    (∀ target ∈ worker.lookup.targets, w.parts.isShown target.path = true →
      Apart (segments target.path) (segments path)) →
    w'.store.get path = w.store.get path
  /-- The subscriptions are as they were. -/
  subscriptions_eq : w'.store.subscriptions = w.store.subscriptions
  /-- The worker says how the answer was taken. -/
  worker_eq : worker? w' errand.worker
    = some ((worker.noteAnswered errand.id).conclude errand.key result)
  /-- The other workers are as they were. -/
  spares : Spares errand.worker w w'

theorem indistinct_text_iff {v : Value} {s : String} : Indistinct v (.text s) ↔ v = .text s := by
  refine ⟨fun h => h.elim id fun hsame => ?_, Or.inl⟩
  rcases Value.sameValue_cases hsame with ⟨rfl, hnone⟩ | ⟨-, -, hkind, halike, -⟩
  · cases hnone
  · cases v with
    | text s' => simpa [Value.alike] using halike
    | absent | null | bool _ | int _ | double _ | list _ | object _ | foreign => cases hkind

theorem Effect.of_leads (htable : Lookup.AreDisjoint table) (hw : Proper table w)
    (hworker : worker? w errand.worker = some worker)
    (h : Leads errand.worker
      (fun worker => (worker.noteAnswered errand.id).conclude errand.key result)
      (Desk.filled w.parts worker.lookup.targets result.content w.store.data) w w') :
    Effect errand worker result w w' := by
  have hknown := hw.known hworker
  have hget : ∀ path, w'.store.get path = Path.read (.object
      (Desk.filled w.parts worker.lookup.targets result.content w.store.data)) path := by
    intro path
    rw [h.store_eq]
    rfl
  -- what is written to a shown target is read there
  have hreads : ∀ target ∈ worker.lookup.targets, w.parts.isShown target.path = true → ∀ v,
      result.content target = some v → Indistinct (w'.store.get target.path) v := by
    intro target htarget hshown v hcontent
    rw [hget]
    exact indistinct_read_filled hw.plain (htable.whole _ hknown).targets (htable.targets _ hknown)
      htarget hshown hcontent
  have hkept : ∀ path, IsWhole path → (∀ target ∈ worker.lookup.targets,
      w.parts.isShown target.path = true → result.content target ≠ none →
        Apart (segments target.path) (segments path)) → w'.store.get path = w.store.get path := by
    intro path hpath hapart
    rw [hget]
    exact read_filled_of_apart hpath hapart w.store.data
  refine ⟨fun hverdict target htarget hshown v hv => ?_, fun hverdict path hpath hapart => ?_,
    fun hverdict target htarget hshown => ?_, fun hverdict path hpath hapart => ?_,
    by rw [h.store_eq], by rw [h.self, hworker]; rfl, h.spares⟩
  · refine hreads target htarget hshown v ?_
    rw [LookupResult.content, hverdict]
    exact hv
  · refine hkept path hpath fun target htarget hshown hsome => hapart target htarget hshown ?_
    rw [LookupResult.content, hverdict] at hsome
    exact Option.isSome_iff_ne_none.mpr hsome
  · refine indistinct_text_iff.mp (hreads target htarget hshown _ ?_)
    rw [LookupResult.content, hverdict]
  · exact hkept path hpath fun target htarget hshown _ => hapart target htarget hshown

/-- Answers that stand for the same do the same. -/
theorem complete_congr {other : LookupResult} (h : other.verdict = result.verdict) (id : Nat) :
    complete id other = complete id result := by
  unfold complete Engine.complete Engine.receive
  simp only [h]

/-- **The effect of an answer.** At any moment of the life of a desk whose lookups are disjoint, the answer
    to the current request of a worker is taken to the end. If it brings data, the shown targets that the
    data names read it; if it does not, all shown targets read the empty text. Everything apart from those
    is as it was. Whatever stands for the same message leads to the same. -/
theorem effect_of_complete (htable : Lookup.AreDisjoint table) {data : Object}
    (hdata : HasPlainNames data) {stints : List (List Event)}
    (hstints : ∀ events ∈ stints, ∀ e ∈ events, e.LeavesPlain) (channel : Channel) (wire : Wire)
    (hidden : Option (List String)) :
    ∃ w, (stints.forM carryOn).run (world table channel wire hidden data) = .ok () w ∧
      (∀ errand worker, w.parts.engine.errand? errand.id = some errand →
        worker? w errand.worker = some worker → worker.isCurrent errand.id = true →
        ∀ result : LookupResult, ∃ w', Effect errand worker result w w' ∧
          ∀ other : LookupResult, other.verdict = result.verdict →
            (complete errand.id other).run w = .ok () w') ∧
      ∀ result : LookupResult, (∀ found, result.Brings found → result.verdict = .ok found) ∧
        ∀ message, result.Says message → result.verdict = .error message := by
  have hproper : (stints.forM carryOn).Yields (world table channel wire hidden data) (Proper table) :=
    yields_stints_proper hdata hstints channel wire hidden
  obtain ⟨⟨⟩, w, hrun, hw⟩ := hproper
  refine ⟨w, hrun, fun errand worker herrand hworker hcurrent result => ?_, fun result =>
    ⟨fun _ => LookupResult.verdict_of_brings, fun _ => LookupResult.verdict_of_says⟩⟩
  obtain ⟨⟨⟩, w', hcomplete, hleads⟩ := leads_complete htable hw herrand hworker hcurrent result
  refine ⟨w', .of_leads htable hw hworker hleads, fun other hother => ?_⟩
  rw [complete_congr hother]
  exact hcomplete

/-- The name and the size of a company are looked up by its number. -/
def numberLookup : Lookup :=
  ⟨"number", "/company", [⟨"number", "number"⟩],
    [⟨"name", "company.name"⟩, ⟨"size", "company.size"⟩]⟩

/-- The number is filled in, and the size is hidden. -/
def numberEvents : List Event :=
  [.write (.set "number" (.text "1")), .hide "company.size"]

theorem effect_of_complete_number :
    ∃ w, ([numberEvents].forM carryOn).run (world [numberLookup] .manual ⟨[], []⟩ (some []) [])
        = .ok () w ∧
      ∃ errand worker, w.parts.engine.errand? errand.id = some errand ∧
        worker? w errand.worker = some worker ∧ worker.isCurrent errand.id = true ∧
        ∀ result : LookupResult, ∃ w', Effect errand worker result w w' := by
  have htable : Lookup.AreDisjoint [numberLookup] := by decide +kernel
  have hdata : HasPlainNames [] := by decide
  have hstints : ∀ events ∈ [numberEvents], ∀ e ∈ events, e.LeavesPlain := by decide +kernel
  obtain ⟨w, hrun, heffect, -⟩ :=
    effect_of_complete htable hdata hstints .manual ⟨[], []⟩ (some [])
  -- the run leaves one request in flight, and it is the current one
  have hfound : (([numberEvents].forM carryOn).outcome
      (world [numberLookup] .manual ⟨[], []⟩ (some []) [])).parts.engine.inFlight.map
        (fun errand => (errand.id, errand.worker)) = [(0, "number")] ∧
      ((([numberEvents].forM carryOn).outcome (world [numberLookup] .manual ⟨[], []⟩ (some [])
        [])).parts.engine.workers.get? "number").any (·.isCurrent 0) = true := by decide +kernel
  rw [Run.outcome_of_ok hrun, Option.any_eq_true] at hfound
  obtain ⟨hflight, worker, hworker, hcurrent⟩ := hfound
  obtain ⟨errand, hone, hasked⟩ := List.map_eq_singleton_iff.mp hflight
  injection hasked with hid hkey
  have herrand : w.parts.engine.errand? errand.id = some errand := by
    rw [Engine.errand?, hone]
    simp
  rw [← hkey] at hworker
  rw [← hid] at hcurrent
  refine ⟨w, hrun, errand, worker, herrand, hworker, hcurrent, fun result => ?_⟩
  obtain ⟨w', hw', -⟩ := heffect errand worker herrand hworker hcurrent result
  exact ⟨w', hw'⟩

end Desk
end DynamicForms
