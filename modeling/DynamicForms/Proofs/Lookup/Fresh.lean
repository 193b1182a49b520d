import DynamicForms.Lookup.Engine
import DynamicForms.Proofs.Json.Serialisable
import DynamicForms.Proofs.Lookup.Key
import DynamicForms.Proofs.Store.Keep

/-!
# `DynamicForms.Proofs.Lookup.Fresh` — an engine starts without writing

A worker clears its targets only if its lookup was ready when it last looked. When an engine is started its
workers look for the first time, so none of them clears anything: all they do is to take their tickets and to
ask for answers. And they come through if whatever they find in the data has a text, for then the key of a
request can be written.

## Contents
- **Keys.** `Json.Serialisable.find?`, `Lookup.exists_requestKey?_of_serialisable`.
- **Workers that have never been ready.** `Engine.IsFreshAt`, `Engine.Unready`.
- **The first look.** `yields_request`, `yields_standBy_of_fresh`, `yields_evaluate_of_fresh`.
- `yields_startWorker_of_fresh`, `Engine.yields_start_of_fresh`.
-/

namespace DynamicForms

open Value (Object)

/-! ## Keys -/

namespace Json

variable {v found : Value} {data : Object}

/-- What lies in a value that has a text has one. -/
theorem Serialisable.descend? (h : Serialisable v) {way : List String}
    (hfound : Path.descend? v way = some found) : Serialisable found := by
  induction way generalizing v with
  | nil =>
    rw [Path.descend?_nil] at hfound
    exact Option.some.inj hfound ▸ h
  | cons name rest ih =>
    cases hv : v.isObject with
    | false =>
      rw [Path.descend?_cons_of_not_object hv] at hfound
      cases hfound
    | true =>
      obtain ⟨fields, rfl⟩ := (Value.isObject_iff v).mp hv
      rw [Path.descend?_cons] at hfound
      obtain ⟨child, hchild, hbelow⟩ := Option.bind_eq_some_iff.mp hfound
      exact ih (h.of_get? hchild) hbelow

theorem Serialisable.find? (h : Serialisable (.object data)) {path : String}
    (hfound : Path.find? (.object data) path = some found) : Serialisable found := by
  unfold Path.find? at hfound
  split at hfound
  · cases hfound
  · dsimp only at hfound
    split at hfound
    · next flat hget => exact Option.some.inj hfound ▸ h.of_get? hget
    · exact h.descend? hfound

end Json

/-- The key of a request can be written if what it asks about has a text. -/
theorem Lookup.exists_requestKey?_of_serialisable (l : Lookup) {data : Object}
    (h : Json.Serialisable (.object data)) : ∃ found, l.requestKey? data = .ok found := by
  unfold requestKey?
  cases hready : l.isReady data with
  | false => exact ⟨none, rfl⟩
  | true =>
    have hparams : Json.Serialisable (.object (l.params data)) := by
      refine .object (Entries.nodup_keys_ofPairs _) fun entry hentry => ?_
      obtain ⟨r, hr, rfl⟩ := List.mem_map.mp (Entries.mem_ofPairs hentry)
      rw [isReady, Bool.and_eq_true, List.all_eq_true] at hready
      have hfilled := hready.2 _ (mem_values (List.mem_map_of_mem hr) data)
      show Json.Serialisable (Path.read (.object data) r.path)
      unfold Path.read at hfilled ⊢
      cases hfound : Path.find? (.object data) r.path with
      | none =>
        rw [hfound] at hfilled
        cases hfilled
      | some found => exact h.find? hfound
    obtain ⟨text, htext, -⟩ := hparams.exists_text? Json.Style.compact_spaced
    refine ⟨some text, ?_⟩
    rw [if_pos rfl, DynamicForms.requestKey?, htext]

/-! ## Workers that have never been ready -/

namespace Engine

/-- None of the workers under some keys has ever been ready. -/
def IsFreshAt (e : Engine) (keys : List String) : Prop :=
  ∀ key ∈ keys, ∀ worker, e.workers.get? key = some worker → worker.wasReady = false

theorem IsFreshAt.changeWorker {e : Engine} {keys : List String} {key : String} {f : Worker → Worker}
    (h : e.IsFreshAt keys) (hf : key ∈ keys → ∀ worker, (f worker).wasReady = worker.wasReady) :
    (e.changeWorker key f).IsFreshAt keys := by
  intro other hother worker hworker
  replace hworker : (e.workers.change key f).get? other = some worker := hworker
  by_cases hsame : other = key
  · subst hsame
    rw [Entries.get?_change_self] at hworker
    obtain ⟨old, hold, rfl⟩ := Option.map_eq_some_iff.mp hworker
    rw [hf hother]
    exact h other hother old hold
  · rw [Entries.get?_change_of_ne hsame] at hworker
    exact h other hother worker hworker

variable {κ σ : Type} {part : Part σ Engine} {put : Writer κ σ} {isShown : σ → String → Bool}
  {J : World κ σ → Prop} {w : World κ σ} {key : String} {keys rest : List String} {worker : Worker}

/-- A world of some kind in which none of the workers under some keys has ever been ready. -/
structure Unready (part : Part σ Engine) (J : World κ σ → Prop) (keys : List String) (w : World κ σ) :
    Prop where
  /-- The world is of the kind. -/
  kept : J w
  /-- The workers have never been ready. -/
  fresh : (part.get w.parts).IsFreshAt keys

/-! ## The first look -/

section

variable (hpart : ∀ f, (part.update f : Run κ σ Unit).Keeps J)

include hpart

theorem yields_update {f : Engine → Engine} (hf : ∀ e : Engine, e.IsFreshAt keys → (f e).IsFreshAt keys)
    (hw : Unready part J keys w) : (part.update f : Run κ σ Unit).Yields w (Unready part J keys) := by
  refine ⟨(), _, Part.run_update part f w, hpart f w hw.kept, ?_⟩
  show (part.get (part.set _ w.parts)).IsFreshAt keys
  rw [part.get_set]
  exact hf _ hw.fresh

theorem yields_updateWorker {f : Worker → Worker}
    (hf : key ∈ keys → ∀ worker, (f worker).wasReady = worker.wasReady) (hw : Unready part J keys w) :
    (updateWorker part key f : Run κ σ Unit).Yields w (Unready part J keys) :=
  yields_update hpart (fun _ h => h.changeWorker hf) hw

theorem yields_enterPhase (phase : Phase) (hw : Unready part J keys w) :
    (enterPhase part key phase : Run κ σ Unit).Yields w (Unready part J keys) := by
  have hread : (worker? part key : Run κ σ _).run w = .ok ((part.get w.parts).workers.get? key) w := rfl
  rw [Run.Yields, enterPhase, Run.run_bind_of_ok hread]
  cases (part.get w.parts).workers.get? key with
  | none => exact ⟨(), w, rfl, hw⟩
  | some worker =>
    dsimp only
    split
    · refine Run.Yields.bind (yields_updateWorker hpart (fun _ _ => rfl) hw) fun _ w' hw' => ?_
      exact yields_update hpart (f := fun e => { e with events := e.events ++ [key] }) (fun _ h => h) hw'
    · exact ⟨(), w, rfl, hw⟩

/-- A worker whose lookup is ready asks for an answer. -/
theorem yields_request (hkey : key ∉ rest) (requestKey : String) (hw : Unready part J rest w) :
    (request part key worker requestKey : Run κ σ Unit).Yields w (Unready part J rest) := by
  refine Run.Yields.bind (yields_updateWorker hpart (fun hmem => absurd hmem hkey) hw) fun _ w₁ hw₁ => ?_
  cases worker.hasAskedFor requestKey with
  | true => exact ⟨(), w₁, rfl, hw₁⟩
  | false =>
    refine Run.Yields.bind (yields_update hpart (fun e h => ?_) hw₁) fun _ w₂ hw₂ =>
      yields_enterPhase hpart .loading hw₂
    exact h.changeWorker (f := fun worker => { worker with current := some ⟨e.nextId, requestKey, false⟩ })
      fun hmem => absurd hmem hkey

/-- A worker whose lookup is not ready has nothing to clear if it has never been. -/
theorem yields_standBy_of_fresh (hfresh : worker.wasReady = false) (hkey : key ∉ rest) (data : Object)
    (hw : Unready part J rest w) :
    (standBy part put isShown key worker data).Yields w (Unready part J rest) := by
  refine Run.Yields.bind (yields_updateWorker hpart (fun _ _ => rfl) hw) fun _ w₁ hw₁ => ?_
  rw [hfresh, Bool.false_and]
  exact Run.Yields.bind (yields_updateWorker hpart (f := fun worker => { worker with wasReady := false })
    (fun hmem => absurd hmem hkey) hw₁) fun _ w₂ hw₂ => yields_enterPhase hpart _ hw₂

/-- The first look of a worker. -/
theorem yields_evaluate_of_fresh
    (hkeys : ∀ w, J w → ∀ l : Lookup, ∃ found, l.requestKey? w.store.data = .ok found)
    (hkey : key ∉ rest) (hw : Unready part J (key :: rest) w) :
    (evaluate part put isShown key).Yields w (Unready part J rest) := by
  have hrest : Unready part J rest w :=
    ⟨hw.kept, fun other hother => hw.fresh other (List.mem_cons_of_mem _ hother)⟩
  have hread : (worker? part key : Run κ σ _).run w = .ok ((part.get w.parts).workers.get? key) w := rfl
  rw [Run.Yields, evaluate, Run.run_bind_of_ok hread]
  cases hworker : (part.get w.parts).workers.get? key with
  | none => exact ⟨(), w, rfl, hrest⟩
  | some worker =>
    dsimp only
    rw [Run.run_bind_of_ok (run_readData w)]
    obtain ⟨found, hfound⟩ := hkeys w hw.kept worker.lookup
    rw [hfound]
    cases found with
    | none =>
      exact yields_standBy_of_fresh hpart (hw.fresh key List.mem_cons_self worker hworker) hkey _ hrest
    | some requestKey => exact yields_request hpart hkey requestKey hrest

variable {owner : String → κ} (hsubscribe : ∀ paths owner, (subscribe paths owner : Run κ σ Nat).Keeps J)
  (hkeys : ∀ w, J w → ∀ l : Lookup, ∃ found, l.requestKey? w.store.data = .ok found)

include hsubscribe hkeys

/-- A worker is started: it takes its ticket and looks at the form. -/
theorem yields_startWorker_of_fresh (hkey : key ∉ rest) (hw : Unready part J (key :: rest) w) :
    (startWorker part put isShown owner key).Yields w (Unready part J rest) := by
  have hread : (worker? part key : Run κ σ _).run w = .ok ((part.get w.parts).workers.get? key) w := rfl
  rw [Run.Yields, startWorker, Run.run_bind_of_ok hread]
  cases (part.get w.parts).workers.get? key with
  | none =>
    exact ⟨(), w, rfl, hw.kept, fun other ho => hw.fresh other (List.mem_cons_of_mem _ ho)⟩
  | some worker =>
    dsimp only
    split
    · refine Run.Yields.bind (Q := Unready part J (key :: rest))
        ⟨_, _, rfl, hsubscribe worker.lookup.dependencyPaths (owner key) w hw.kept, hw.fresh⟩
        fun ticket w₁ hw₁ => ?_
      exact Run.Yields.bind (yields_updateWorker hpart
        (f := fun worker => { worker with ticket := some ticket }) (fun _ _ => rfl) hw₁)
        fun _ w₂ hw₂ => yields_evaluate_of_fresh hpart hkeys hkey hw₂
    · exact yields_evaluate_of_fresh hpart hkeys hkey hw

/-- **An engine none of whose workers has ever been ready starts without writing**: what its own changes and
    the tickets of its workers leave alone is kept. It comes through if the keys of its requests can be
    written. -/
theorem yields_start_of_fresh (hnodup : (part.get w.parts).workers.keys.Nodup)
    (hfresh : ∀ entry ∈ (part.get w.parts).workers, entry.2.wasReady = false) (hw : J w) :
    (start part put isShown owner).Yields w J := by
  have hread : (part.read : Run κ σ _).run w = .ok (part.get w.parts) w := rfl
  rw [Run.Yields, start, Run.run_bind_of_ok hread]
  refine Run.Yields.mono (Run.yields_forM (I := fun rest w' => rest.Nodup ∧ Unready part J rest w')
    (fun key rest w' h => ?_) ⟨hnodup, hw, fun key _ worker hworker => ?_⟩) fun _ h => h.2.kept
  · obtain ⟨hkey, hrest⟩ := List.nodup_cons.mp h.1
    exact (yields_startWorker_of_fresh hpart hsubscribe hkeys hkey h.2).mono fun _ hw' => ⟨hrest, hw'⟩
  · exact hfresh _ (Entries.mem_of_get? hworker)

end

end Engine
end DynamicForms
