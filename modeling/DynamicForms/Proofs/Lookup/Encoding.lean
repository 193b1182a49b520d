import DynamicForms.Lookup.Desk
import DynamicForms.Proofs.Json.RoundTrip
import DynamicForms.Proofs.Lookup.Engine

/-!
# `DynamicForms.Proofs.Lookup.Encoding` — the key of a request tells its parameters

The key of a request is the text of its parameters, and a text is read back as what it was written from:
the same names in the same order at every level, the same kinds of values. So the key stands for the
parameters; two requests with one key ask about the same. A worker sends what it reads in the key, which
is what it saw in the form.

## Contents
- `exists_requestKey?_of_legible`, `eq_of_requestKey?`, `keyParams_of_requestKey?`.
- **In an engine.** `yields_enterPhase_inFlight`, `yields_request_inFlight`, `run_evaluate_of_isReady`.
- `requestKey?_faithful`.
-/

namespace DynamicForms

open Json (Legible)
open Value (Object)

/-! ## The key by itself -/

variable {params other : Object} {key : String}

/-- Legible parameters have a key, and the key is read as the parameters. -/
theorem exists_requestKey?_of_legible (h : Legible (.object params)) :
    ∃ key, requestKey? params = some key ∧ Json.read key = .ok (.object params) :=
  h.exists_text? Json.Style.compact_spaced

theorem read_of_requestKey? (h : Legible (.object params)) (hkey : requestKey? params = some key) :
    Json.read key = .ok (.object params) := by
  obtain ⟨text, htext, hread⟩ := exists_requestKey?_of_legible h
  obtain rfl : key = text := Option.some.inj (hkey.symm.trans htext)
  exact hread

/-- The parameters that a worker takes from a key are those that the key was made of. -/
theorem keyParams_of_requestKey? (h : Legible (.object params)) (hkey : requestKey? params = some key) :
    keyParams key = params := by
  rw [keyParams, read_of_requestKey? h hkey]

/-- **One key, one request.** -/
theorem eq_of_requestKey? (h : Legible (.object params)) (hother : Legible (.object other))
    (hkey : requestKey? params = some key) (hsame : requestKey? other = some key) : other = params :=
  (keyParams_of_requestKey? hother hsame).symm.trans (keyParams_of_requestKey? h hkey)

/-! ## In an engine -/

namespace Engine

variable {κ σ : Type} {part : Part σ Engine} {write : Writer κ σ} {isShown : σ → String → Bool}
  {w : World κ σ} {name : String} {worker : Worker}

/-- The requests in flight in a running form. -/
def inFlightIn (part : Part σ Engine) (w : World κ σ) : List Errand :=
  (part.get w.parts).inFlight

/-- A change that concerns no request. -/
theorem yields_update_inFlight (change : Engine → Engine) (h : ∀ e, (change e).inFlight = e.inFlight)
    (w : World κ σ) : (part.update change : Run κ σ Unit).Yields w fun w' =>
      inFlightIn part w' = inFlightIn part w := by
  refine ⟨(), _, part.run_update change w, ?_⟩
  simp only [inFlightIn, part.get_set]
  exact h _

theorem yields_updateWorker_inFlight (name : String) (f : Worker → Worker) (w : World κ σ) :
    (updateWorker part name f : Run κ σ Unit).Yields w fun w' =>
      inFlightIn part w' = inFlightIn part w :=
  yields_update_inFlight (fun e => e.changeWorker name f) (fun _ => rfl) w

/-- No request goes out when a phase is entered. -/
theorem yields_enterPhase_inFlight (name : String) (phase : Phase) (w : World κ σ) :
    (enterPhase part name phase : Run κ σ Unit).Yields w fun w' =>
      inFlightIn part w' = inFlightIn part w := by
  have hread : (worker? part name : Run κ σ (Option Worker)).Yields w fun w' => w' = w :=
    ⟨_, w, rfl, rfl⟩
  refine hread.bind fun found w₁ hw₁ => ?_
  subst hw₁
  cases found with
  | none => exact ⟨(), _, rfl, rfl⟩
  | some worker =>
    dsimp only
    split
    · have hannounce : ∀ w₂, (announce part name : Run κ σ Unit).Yields w₂
          fun w' => inFlightIn part w' = inFlightIn part w₂ :=
        yields_update_inFlight (fun e => { e with events := e.events ++ [name] }) fun _ => rfl
      exact (yields_updateWorker_inFlight name _ w₁).bind fun _ w₂ hw₂ =>
        (hannounce w₂).mono fun _ h => h.trans hw₂
    · exact ⟨(), _, rfl, rfl⟩

/-- A worker whose current request has another key sends one with this key, about what it reads in it. -/
theorem yields_request_inFlight (name : String) (worker : Worker) (key : String) (w : World κ σ) :
    (request part name worker key : Run κ σ Unit).Yields w fun w' =>
      inFlightIn part w' = inFlightIn part w ++
        if worker.hasAskedFor key then []
        else [⟨(part.get w.parts).nextId, name, key, worker.lookup.endpoint, keyParams key⟩] := by
  -- noting that the lookup was ready changes no number either
  refine Run.Yields.bind ⟨(), _, part.run_update _ w, rfl⟩ fun _ w₁ hw₁ => ?_
  have hengine : part.get w₁.parts
      = (part.get w.parts).changeWorker name fun w => { w with wasReady := true } := by
    rw [← hw₁]
    exact part.get_set _ _
  cases hasked : worker.hasAskedFor key with
  | true =>
    refine ⟨(), w₁, rfl, ?_⟩
    simp only [inFlightIn, hengine, if_true, List.append_nil]
    rfl
  | false =>
    refine Run.Yields.bind ⟨(), _, part.run_update _ w₁, rfl⟩ fun _ w₂ hw₂ => ?_
    refine (yields_enterPhase_inFlight name .loading w₂).mono fun w₃ hw₃ => ?_
    rw [hw₃, ← hw₂]
    simp only [inFlightIn, part.get_set, hengine]
    rfl

/-- A worker whose lookup is ready asks under the key of what it sees. -/
theorem run_evaluate_of_isReady (hworker : (part.get w.parts).workers.get? name = some worker)
    (hready : worker.lookup.isReady w.store.data = true)
    (hkey : requestKey? (worker.lookup.params w.store.data) = some key) :
    (evaluate part write isShown name).run w = (request part name worker key : Run κ σ Unit).run w := by
  have hfound : worker.lookup.requestKey? w.store.data = .ok (some key) := by
    rw [Lookup.requestKey?, if_pos hready, hkey]
  exact run_evaluate part hworker hfound

end Engine

/-- **The key of a request tells its parameters.** Legible parameters have a key, which is read as just
    these parameters; other parameters have another key. And wherever a worker looks at a form in which
    its lookup is ready with these parameters, it asks its endpoint about just these, unless its current
    request has the key already; and that is what the channel is asked. -/
theorem requestKey?_faithful (h : Legible (.object params)) :
    ∃ key, requestKey? params = some key ∧
      Json.read key = .ok (.object params) ∧
      (∀ other, Legible (.object other) → requestKey? other = some key → other = params) ∧
      ∀ {κ σ : Type} (part : Part σ Engine) (write : Writer κ σ) (isShown : σ → String → Bool)
        (w : World κ σ) (name : String) (worker : Worker),
        (part.get w.parts).workers.get? name = some worker →
        worker.lookup.isReady w.store.data = true →
        worker.lookup.params w.store.data = params →
        ∃ errand : Errand, errand.key = key ∧ errand.params = params ∧
          ((Engine.evaluate part write isShown name).Yields w fun w' =>
            (part.get w'.parts).inFlight = (part.get w.parts).inFlight ++
              if worker.hasAskedFor key then [] else [errand]) ∧
          ∀ (d : Dispatch) (moment : Nat), (d.send moment errand).wire =
            (d.channel.request d.wire worker.lookup.endpoint params).2 := by
  obtain ⟨key, hkey, hread⟩ := exists_requestKey?_of_legible h
  refine ⟨key, hkey, hread, fun other hother hsame => eq_of_requestKey? h hother hkey hsame, ?_⟩
  intro κ σ part write isShown w name worker hworker hready hparams
  subst hparams
  refine ⟨⟨(part.get w.parts).nextId, name, key, worker.lookup.endpoint, keyParams key⟩, rfl,
    keyParams_of_requestKey? h hkey, ?_, fun d moment => ?_⟩
  · rw [Run.Yields, Engine.run_evaluate_of_isReady hworker hready hkey]
    exact Engine.yields_request_inFlight name worker key w
  · rw [Dispatch.send, keyParams_of_requestKey? h hkey]

/-- A parcel with its sizes and a label. -/
def parcel : Object :=
  [("parcel", .object [("sizes", .list [.int (-12), .bool true, .null]), ("label", .text "\"é\"\n")])]

/-- The price of a parcel is looked up. -/
def priceLookup : Lookup := ⟨"price", "/price", [⟨"parcel", "parcel"⟩], []⟩

theorem legible_parcel : Legible (.object parcel) := by
  have hsizes : Legible (.list [.int (-12), .bool true, .null]) := by
    refine .list fun v hv => ?_
    simp only [List.mem_cons, List.not_mem_nil, or_false] at hv
    rcases hv with rfl | rfl | rfl
    · exact .int ((by decide : 12 < 10 ^ 2).trans (Nat.pow_lt_pow_right (by decide) (by decide)))
    · exact .bool true
    · exact .null
  refine .object (by decide) fun entry hentry => ?_
  obtain rfl := List.mem_singleton.mp hentry
  refine .object (by decide) fun entry hentry => ?_
  simp only [List.mem_cons, List.not_mem_nil, or_false] at hentry
  rcases hentry with rfl | rfl
  · exact hsizes
  · exact .text _

theorem requestKey?_faithful_parcel :
    ∃ key, requestKey? parcel = some key ∧ Json.read key = .ok (.object parcel) ∧
      ∃ errand : Errand, errand.key = key ∧ errand.params = parcel ∧
        (Desk.evaluate "price").Yields (Desk.world [priceLookup] .manual ⟨[], []⟩ none parcel) fun w' =>
          w'.parts.engine.inFlight = [errand] := by
  obtain ⟨key, hkey, hread, -, hasks⟩ := requestKey?_faithful legible_parcel
  obtain ⟨errand, herrand, hparams, hflight, -⟩ := hasks Desk.enginePart Desk.put Desk.isShown
    (Desk.world [priceLookup] .manual ⟨[], []⟩ none parcel) "price" (.ofLookup priceLookup)
    rfl (by decide +kernel) rfl
  exact ⟨key, hkey, hread, errand, herrand, hparams, hflight⟩

end DynamicForms
