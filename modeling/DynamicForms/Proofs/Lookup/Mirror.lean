import DynamicForms.Lookup.Engine
import DynamicForms.Proofs.Store.Mirror

/-!
# `DynamicForms.Proofs.Lookup.Mirror` — an engine inside a larger state

What an engine does is said for any state that has one as a component. So if the state grows, by notes
that are taken for instance, everything that an engine does stays as it was, as far as it is seen
without what was added.

## Contents
- `Engine.mirrors_evaluate`, `Engine.mirrors_complete`, and the programs that they are made of.
- `Engine.mirrors_startWorker`, `Engine.mirrors_closeWorker`, `Engine.mirrors_dismiss`.
-/

namespace DynamicForms

namespace Engine

open Run (Mirrors mirrors_pure mirrors_throw mirrors_bind mirrors_get mirrors_forM)

variable {κ σ σ' : Type} {f : σ' → σ} {part' : Part σ' Engine} {part : Part σ Engine}
  {write' : Writer κ σ'} {write : Writer κ σ} {isShown' : σ' → String → Bool}
  {isShown : σ → String → Bool}

section

variable (hpart : part'.Agrees f part)

include hpart

theorem mirrors_worker? (key : String) :
    Mirrors f (worker? part' key : Run κ σ' (Option Worker)) (worker? part key) :=
  mirrors_bind hpart.read fun e => mirrors_pure (e.workers.get? key)

theorem mirrors_updateWorker (key : String) (change : Worker → Worker) :
    Mirrors f (updateWorker part' key change : Run κ σ' Unit) (updateWorker part key change) :=
  hpart.update _

theorem mirrors_announce (key : String) :
    Mirrors f (announce part' key : Run κ σ' Unit) (announce part key) :=
  hpart.update _

theorem mirrors_enterPhase (key : String) (phase : Phase) :
    Mirrors f (enterPhase part' key phase : Run κ σ' Unit) (enterPhase part key phase) := by
  refine mirrors_bind (mirrors_worker? hpart key) fun found => ?_
  cases found with
  | none => exact mirrors_pure ()
  | some worker =>
    dsimp only
    split
    · exact mirrors_bind (mirrors_updateWorker hpart key _) fun _ => mirrors_announce hpart key
    · exact mirrors_pure ()

theorem mirrors_invalidate (key : String) :
    Mirrors f (invalidate part' key : Run κ σ' Unit) (invalidate part key) :=
  mirrors_updateWorker hpart key _

theorem mirrors_request (key : String) (worker : Worker) (requestKey : String) :
    Mirrors f (request part' key worker requestKey : Run κ σ' Unit)
      (request part key worker requestKey) := by
  refine mirrors_bind (mirrors_updateWorker hpart key _) fun _ => ?_
  cases worker.hasAskedFor requestKey with
  | true => exact mirrors_pure ()
  | false =>
    exact mirrors_bind (hpart.update _) fun _ => mirrors_enterPhase hpart key .loading

theorem mirrors_closeWorker (key : String) :
    Mirrors f (closeWorker part' key : Run κ σ' Unit) (closeWorker part key) := by
  refine mirrors_bind (mirrors_worker? hpart key) fun found => ?_
  cases found with
  | none => exact mirrors_pure ()
  | some worker =>
    have hend : Mirrors f
        (updateWorker part' key (fun w => { w with ticket := none, current := none }) >>= fun _ =>
          part'.update fun e => e.callOff key : Run κ σ' Unit)
        (updateWorker part key (fun w => { w with ticket := none, current := none }) >>= fun _ =>
          part.update fun e => e.callOff key) :=
      mirrors_bind (mirrors_updateWorker hpart key _) fun _ => hpart.update _
    dsimp only
    cases worker.ticket with
    | none => exact hend
    | some ticket => exact mirrors_bind (Run.mirrors_unsubscribe ticket) fun _ => hend

theorem mirrors_dismiss (key : String) :
    Mirrors f (dismiss part' key : Run κ σ' Unit) (dismiss part key) := by
  refine mirrors_bind (mirrors_worker? hpart key) fun found => ?_
  cases found with
  | none => exact mirrors_pure ()
  | some worker =>
    exact mirrors_bind (mirrors_updateWorker hpart key _) fun _ => mirrors_announce hpart key

end

section

variable (hwrite : ∀ wr, Mirrors f (write' wr) (write wr))
  (hshown : ∀ s, isShown' s = isShown (f s))

include hwrite hshown

theorem mirrors_writeTargets (targets : List Reference) (content : Reference → Option Value) :
    Mirrors f (writeTargets write' isShown' targets content)
      (writeTargets write isShown targets content) := by
  refine mirrors_forM (fun target => mirrors_get fun w => ?_) targets
  have hsame : isShown (w.mapParts f).parts target.path = isShown' w.parts target.path := by
    rw [hshown]
    rfl
  dsimp only
  rw [hsame]
  cases isShown' w.parts target.path with
  | false => exact mirrors_pure ()
  | true =>
    cases content target with
    | none => exact mirrors_pure ()
    | some v => exact mirrors_bind (hwrite _) fun _ => mirrors_pure ()

variable (hpart : part'.Agrees f part)

include hpart

theorem mirrors_standBy (key : String) (worker : Worker) (data : Value.Object) :
    Mirrors f (standBy part' write' isShown' key worker data)
      (standBy part write isShown key worker data) := by
  refine mirrors_bind (mirrors_invalidate hpart key) fun _ => ?_
  have hend : Mirrors f
      (updateWorker part' key (fun w => { w with wasReady := false }) >>= fun _ =>
        enterPhase part' key (if worker.lookup.dependsOn.isEmpty then .idle else .waiting) :
        Run κ σ' Unit)
      (updateWorker part key (fun w => { w with wasReady := false }) >>= fun _ =>
        enterPhase part key (if worker.lookup.dependsOn.isEmpty then .idle else .waiting)) :=
    mirrors_bind (mirrors_updateWorker hpart key _) fun _ => mirrors_enterPhase hpart key _
  cases worker.wasReady && !worker.lookup.isUnregistered data with
  | false => exact hend
  | true => exact mirrors_bind (mirrors_writeTargets hwrite hshown _ _) fun _ => hend

/-- **Looking at the form.** -/
theorem mirrors_evaluate (key : String) :
    Mirrors f (evaluate part' write' isShown' key) (evaluate part write isShown key) := by
  refine mirrors_bind (mirrors_worker? hpart key) fun found => ?_
  cases found with
  | none => exact mirrors_pure ()
  | some worker =>
    refine mirrors_bind Run.mirrors_readData fun data => ?_
    cases worker.lookup.requestKey? data with
    | error fault => exact mirrors_throw fault
    | ok found =>
      cases found with
      | none => exact mirrors_standBy hwrite hshown hpart key worker data
      | some requestKey => exact mirrors_request hpart key worker requestKey

theorem mirrors_receive (errand : Errand) (targets : List Reference) (result : LookupResult) :
    Mirrors f (receive part' write' isShown' errand targets result)
      (receive part write isShown errand targets result) := by
  have hend : Mirrors f
      (updateWorker part' errand.worker (fun w => { w with lastKey := some errand.key }) >>=
        fun _ => announce part' errand.worker : Run κ σ' Unit)
      (updateWorker part errand.worker (fun w => { w with lastKey := some errand.key }) >>=
        fun _ => announce part errand.worker) :=
    mirrors_bind (mirrors_updateWorker hpart _ _) fun _ => mirrors_announce hpart _
  unfold receive
  cases result.verdict with
  | ok data =>
    refine mirrors_bind (mirrors_bind (mirrors_updateWorker hpart _ _) fun _ => ?_) fun _ => hend
    exact mirrors_bind (mirrors_enterPhase hpart _ _) fun _ => mirrors_writeTargets hwrite hshown _ _
  | error message =>
    refine mirrors_bind (mirrors_bind (mirrors_updateWorker hpart _ _) fun _ => ?_) fun _ => hend
    exact mirrors_bind (mirrors_enterPhase hpart _ _) fun _ => mirrors_writeTargets hwrite hshown _ _

/-- **Answers.** -/
theorem mirrors_complete (id : Nat) (result : LookupResult) :
    Mirrors f (complete part' write' isShown' id result)
      (complete part write isShown id result) := by
  refine mirrors_bind hpart.read fun e => ?_
  cases e.errand? id with
  | none => exact mirrors_pure ()
  | some errand =>
    refine mirrors_bind (hpart.update _) fun _ => ?_
    refine mirrors_bind (mirrors_worker? hpart _) fun found => ?_
    cases found with
    | none => exact mirrors_pure ()
    | some worker =>
      dsimp only
      split
      · exact mirrors_receive hwrite hshown hpart errand _ result
      · exact mirrors_pure ()

theorem mirrors_startWorker (owner : String → κ) (key : String) :
    Mirrors f (startWorker part' write' isShown' owner key)
      (startWorker part write isShown owner key) := by
  refine mirrors_bind (mirrors_worker? hpart key) fun found => ?_
  cases found with
  | none => exact mirrors_pure ()
  | some worker =>
    dsimp only
    split
    · refine mirrors_bind (Run.mirrors_subscribe _ _) fun ticket => ?_
      exact mirrors_bind (mirrors_updateWorker hpart key _) fun _ =>
        mirrors_evaluate hwrite hshown hpart key
    · exact mirrors_evaluate hwrite hshown hpart key

end

end Engine

end DynamicForms
