import DynamicForms.Proofs.Lookup.Telling
import Mathlib.Data.List.Nodup

/-!
# `DynamicForms.Proofs.Lookup.Step` — what can happen at a desk

Between the steps of a run nobody is behind: every open worker fits the data. A step is a write to the
form, a worker that is made to look at it, an answer to any request in flight, or one of the small
things that can be done at a desk. A worker that is open stays so until it is closed.

## Contents
- `Desk.Event`, `Event.runWith`.
- `Desk.UpToDate`: what holds between the steps.
- **Answers.** `carries_land`, `refusedOr_complete`.
- **Closing.** `Books.close`, `yields_closeWorker`.
- **One step.** `refusedOr_event`.
-/

namespace DynamicForms

open Value (Object)
open Path (IsWhole)

namespace Desk

/-- A step at a desk. -/
inductive Event where
  /-- A write to the form. -/
  | write (wr : Write)
  /-- A worker is made to look at the form. -/
  | evaluate (key : String)
  /-- What was said about the last answer of a worker is forgotten. -/
  | dismiss (key : String)
  /-- A path is hidden. -/
  | hide (path : String)
  /-- A path is shown. -/
  | reveal (path : String)
  /-- A request is answered. -/
  | complete (id : Nat) (result : LookupResult)
  /-- A worker is closed. -/
  | close (key : String)
  deriving Repr, Inhabited

namespace Event

/-- What a step does, with a way to write. -/
def runWith (put : Writer String Desk) : Event → Shift Unit
  | .write wr => do
    let _ ← put wr
  | .evaluate key => Engine.evaluate enginePart put isShown key
  | .dismiss key => Desk.dismiss key
  | .hide path => Desk.hide path
  | .reveal path => Desk.reveal path
  | .complete id result => Engine.complete enginePart put isShown id result
  | .close key => Engine.closeWorker enginePart key

/-- Writes are at whole paths. -/
def IsWhole : Event → Prop
  | .write wr => wr.IsWhole
  | _ => True

instance (e : Event) : Decidable e.IsWhole :=
  match e with
  | .write wr => inferInstanceAs (Decidable wr.IsWhole)
  | .evaluate _ | .dismiss _ | .hide _ | .reveal _ | .complete _ _ | .close _ =>
    inferInstanceAs (Decidable True)

end Event

/-- What holds between the steps of a run: every open worker fits the data, and those are open that
    were not closed. -/
structure UpToDate (lookups : String → Option Lookup) (closed : String → Prop)
    (w : World String Desk) : Prop where
  /-- The books are in order. -/
  books : Books lookups w
  /-- Nobody is behind. -/
  caught : Caught nothingOwed none w
  /-- Workers that were not closed are open. -/
  isOpen : ∀ {key worker}, worker? w key = some worker → ¬ closed key → worker.isOpen = true

/-- Everything is in order, and nobody has come or gone. -/
structure Kept (lookups : String → Option Lookup) (subs : List (Subscription String))
    (w : World String Desk) : Prop where
  /-- Everything is in order. -/
  orderly : Orderly lookups nothingOwed none w
  /-- The subscriptions. -/
  subscriptions_eq : w.store.subscriptions = subs

variable {lookups : String → Option Lookup} {closed : String → Prop} {w w' : World String Desk}
  {subs : List (Subscription String)} {key : String} {worker : Worker} {put : Writer String Desk}

theorem UpToDate.kept (h : UpToDate lookups closed w) (hsimple : isSimple w = true) :
    Kept lookups w.store.subscriptions w :=
  ⟨⟨h.books, hsimple, h.caught⟩, rfl⟩

/-- As long as nobody comes or goes, who is open stays open. -/
theorem exists_open (h : Books lookups w) (h' : Books lookups w')
    (hsubs : w'.store.subscriptions = w.store.subscriptions) {worker' : Worker}
    (hworker' : worker? w' key = some worker') :
    ∃ worker, worker? w key = some worker ∧ (worker.isOpen = true → worker'.isOpen = true) := by
  have hroster := h'.roster key
  rw [hworker', ← h.roster key] at hroster
  obtain ⟨worker, hworker, hlookup⟩ := Option.map_eq_some_iff.mp hroster.symm
  replace hlookup : worker.lookup = worker'.lookup := hlookup
  refine ⟨worker, hworker, fun hopen => ?_⟩
  unfold Worker.isOpen at hopen ⊢
  rw [Bool.or_eq_true] at hopen ⊢
  rcases hopen with hticket | hnothing
  · -- its subscription is still there, and whoever owns one has a ticket
    left
    obtain ⟨ticket, hticket⟩ := Option.isSome_iff_exists.mp hticket
    have hsub := h.subscribed hworker hticket
    rw [← hsubs] at hsub
    obtain ⟨other, hother, hsame, -⟩ := h'.owner hsub
    obtain rfl : worker' = other := Option.some.inj (hworker'.symm.trans hother)
    rw [hsame]
    rfl
  · rw [← hlookup]
    exact Or.inr hnothing

theorem Kept.upToDate (h : Kept lookups w.store.subscriptions w')
    (hw : UpToDate lookups closed w) : UpToDate lookups closed w' where
  books := h.orderly.books
  caught := h.orderly.caught
  isOpen {key worker'} hworker' hclosed := by
    obtain ⟨worker, hworker, hopen⟩ :=
      exists_open hw.books h.orderly.books h.subscriptions_eq hworker'
    exact hopen (hw.isOpen hworker hclosed)

theorem UpToDate.mono {closed' : String → Prop} (h : UpToDate lookups closed w)
    (himp : ∀ key, closed key → closed' key) : UpToDate lookups closed' w :=
  ⟨h.books, h.caught, fun hworker hclosed => h.isOpen hworker fun hc => hclosed (himp _ hc)⟩

theorem Quiet.kept (h : Quiet w w') (hw : Kept lookups subs w) : Kept lookups subs w' :=
  ⟨h.orderly hw.orderly, h.fades.subscriptions_eq.trans hw.subscriptions_eq⟩

theorem yields_kept {m : Shift Unit} (hm : ∀ w, m.Yields w (Quiet w)) (hw : Kept lookups subs w) :
    m.RefusedOr w (Kept lookups subs) :=
  Or.inr ((hm w).mono fun _ hquiet => hquiet.kept hw)

/-! ## Answers -/

theorem carries_land (w : World String Desk) (errand : Errand) :
    Carries w (withEngine w (w.parts.engine.land errand)) := by
  have h := carries_changeWorker (f := fun worker => worker.noteAnswered errand.id)
    (fun worker => worker.matches_noteAnswered errand.id) w errand.worker
  exact ⟨rfl, rfl, rfl, List.filter_sublist, h.forth, h.back⟩

/-- Writing an answer to the targets keeps everything in order. -/
theorem refusedOr_writeAll {targets : List Reference} {content : Reference → Option Value}
    (htargets : ∀ target ∈ targets, IsWhole target.path) (hw : Kept lookups subs w) :
    (Engine.writeTargets (write guarded) isShown targets content).RefusedOr w
      (Kept lookups subs) := by
  refine refusedOr_writeTargets (fun target htarget v w' _ hw' => ?_) hw
  refine (refusedOr_write (isWhole_set (htargets target htarget) v) hw'.orderly).mono ?_
  rintro w'' ⟨hw'', hsubs⟩
  exact ⟨hw'', hsubs.trans hw'.subscriptions_eq⟩

theorem quiet_updateWorker {f : Worker → Worker} (hf : ∀ worker, (f worker).Matches worker)
    (hready : ∀ worker, (f worker).wasReady = worker.wasReady) (key : String)
    (hw : Kept lookups subs w) :
    (Engine.updateWorker enginePart key f : Shift Unit).RefusedOr w (Kept lookups subs) :=
  yields_kept (yields_updateWorker hf hready key) hw

/-- What is done with what an answer brings. -/
def settle (put : Writer String Desk) (key : String) (targets : List Reference)
    (result : LookupResult) : Shift Unit :=
  match result.verdict with
  | .ok data => Engine.accept enginePart put isShown key targets data
  | .error message => Engine.reject enginePart put isShown key targets message

theorem receive_eq (put : Writer String Desk) (errand : Errand) (targets : List Reference)
    (result : LookupResult) :
    Engine.receive enginePart put isShown errand targets result
      = settle put errand.worker targets result >>= fun _ =>
        Engine.updateWorker enginePart errand.worker
          (fun worker => { worker with lastKey := some errand.key }) >>= fun _ =>
        Engine.announce enginePart errand.worker := by
  unfold Engine.receive settle
  cases result.verdict <;> rfl

theorem refusedOr_settle {targets : List Reference}
    (htargets : ∀ target ∈ targets, IsWhole target.path) (key : String) (result : LookupResult)
    (hw : Kept lookups subs w) :
    (settle (write guarded) key targets result).RefusedOr w (Kept lookups subs) := by
  unfold settle
  cases result.verdict with
  | ok data =>
    refine (quiet_updateWorker (f := fun worker => { worker with error := none })
      (fun _ => ⟨rfl, rfl, rfl⟩) (fun _ => rfl) key hw).bind fun _ w₁ h₁ => ?_
    refine (yields_kept (yields_enterPhase key .success) h₁).bind fun _ w₂ h₂ => ?_
    exact refusedOr_writeAll htargets h₂
  | error message =>
    refine (quiet_updateWorker (f := fun worker => { worker with error := some message })
      (fun _ => ⟨rfl, rfl, rfl⟩) (fun _ => rfl) key hw).bind fun _ w₁ h₁ => ?_
    refine (yields_kept (yields_enterPhase key .error) h₁).bind fun _ w₂ h₂ => ?_
    exact refusedOr_writeAll htargets h₂

/-- Taking an answer keeps everything in order. -/
theorem refusedOr_receive {errand : Errand} {targets : List Reference} {result : LookupResult}
    (htargets : ∀ target ∈ targets, IsWhole target.path) (hw : Kept lookups subs w) :
    (Engine.receive enginePart (write guarded) isShown errand targets result).RefusedOr w
      (Kept lookups subs) := by
  rw [receive_eq]
  refine (refusedOr_settle htargets errand.worker result hw).bind fun _ w₁ h₁ => ?_
  refine (quiet_updateWorker (f := fun worker => { worker with lastKey := some errand.key })
    (fun _ => ⟨rfl, rfl, rfl⟩) (fun _ => rfl) errand.worker h₁).bind fun _ w₂ h₂ => ?_
  exact yields_kept (yields_announce errand.worker) h₂

theorem run_complete_of_none {id : Nat} (h : w.parts.engine.errand? id = none)
    (result : LookupResult) :
    (Engine.complete enginePart put isShown id result).run w = .ok () w :=
  Engine.run_complete_of_none enginePart h result

/-- An answer lands, and it is taken if it is that to the current request of its worker. -/
theorem run_complete_of_some {id : Nat} {errand : Errand}
    (h : w.parts.engine.errand? id = some errand)
    (hworker : worker? (withEngine w (w.parts.engine.land errand)) errand.worker = some worker)
    (result : LookupResult) :
    (Engine.complete enginePart put isShown id result).run w
      = (if worker.isCurrent id then
          Engine.receive enginePart put isShown errand worker.lookup.targets result
        else pure () : Shift Unit).run (withEngine w (w.parts.engine.land errand)) :=
  Engine.run_complete_of_some enginePart h hworker result

/-- An answer to a worker that is not there lands without a trace. -/
theorem run_complete_of_gone {id : Nat} {errand : Errand}
    (h : w.parts.engine.errand? id = some errand)
    (hworker : worker? (withEngine w (w.parts.engine.land errand)) errand.worker = none)
    (result : LookupResult) :
    (Engine.complete enginePart put isShown id result).run w
      = .ok () (withEngine w (w.parts.engine.land errand)) :=
  Engine.run_complete_of_gone enginePart h hworker result

/-- An answer is taken or passed over; everything is in order afterwards. -/
theorem refusedOr_complete (id : Nat) (result : LookupResult) (hw : Kept lookups subs w) :
    (Engine.complete enginePart (write guarded) isShown id result).RefusedOr w
      (Kept lookups subs) := by
  cases herrand : w.parts.engine.errand? id with
  | none => exact Or.inr ⟨(), w, run_complete_of_none herrand result, hw⟩
  | some errand =>
    have hlanded : Kept lookups subs (withEngine w (w.parts.engine.land errand)) :=
      ⟨hw.orderly.carry (carries_land w errand) rfl, hw.subscriptions_eq⟩
    cases hworker : worker? (withEngine w (w.parts.engine.land errand)) errand.worker with
    | none => exact Or.inr ⟨(), _, run_complete_of_gone herrand hworker result, hlanded⟩
    | some worker =>
      rw [Run.RefusedOr, Run.IsRefused, Run.Yields, run_complete_of_some herrand hworker]
      split
      · exact refusedOr_receive (hlanded.orderly.books.whole hworker).targets hlanded
      · exact Or.inr ⟨(), _, rfl, hlanded⟩

/-! ## Closing -/

/-- An engine after a worker was closed. -/
def shut (e : Engine) (key : String) : Engine :=
  (e.changeWorker key fun worker => { worker with ticket := none, current := none }).callOff key

theorem shut_cases {e : Engine} {other : String}
    (h : (shut e key).workers.get? other = some worker) :
    (other = key ∧ ∃ old, e.workers.get? key = some old ∧
      worker = { old with ticket := none, current := none }) ∨
      (other ≠ key ∧ e.workers.get? other = some worker) :=
  changeWorker_cases (f := fun worker => { worker with ticket := none, current := none }) h

/-- A world after a worker was closed. -/
def closedWorld (w : World String Desk) (key : String) (worker : Worker) : World String Desk :=
  ⟨match worker.ticket with
    | some ticket => w.store.unsubscribe ticket
    | none => w.store,
  { w.parts with engine := shut w.parts.engine key }⟩

theorem worker?_closedWorld_self (w : World String Desk) (key : String) (worker : Worker) :
    worker? (closedWorld w key worker) key
      = (worker? w key).map fun worker => { worker with ticket := none, current := none } :=
  worker?_changeWorker_self w key fun worker => { worker with ticket := none, current := none }

theorem worker?_closedWorld_of_ne {other : String} (h : other ≠ key) (w : World String Desk)
    (worker : Worker) : worker? (closedWorld w key worker) other = worker? w other :=
  worker?_changeWorker_of_ne h w fun worker => { worker with ticket := none, current := none }

theorem run_closeWorker (hworker : worker? w key = some worker) :
    (Engine.closeWorker enginePart key : Shift Unit).run w = .ok () (closedWorld w key worker) :=
  Engine.run_closeWorker enginePart hworker

theorem data_closedWorld (w : World String Desk) (key : String) (worker : Worker) :
    (closedWorld w key worker).store.data = w.store.data := by
  unfold closedWorld
  cases worker.ticket <;> rfl

theorem nextTicket_closedWorld (w : World String Desk) (key : String) (worker : Worker) :
    (closedWorld w key worker).store.nextTicket = w.store.nextTicket := by
  unfold closedWorld
  cases worker.ticket <;> rfl

theorem sublist_closedWorld (w : World String Desk) (key : String) (worker : Worker) :
    (closedWorld w key worker).store.subscriptions.Sublist w.store.subscriptions := by
  unfold closedWorld
  cases worker.ticket with
  | none => exact List.Sublist.refl _
  | some ticket => exact List.filter_sublist

/-- Closing a worker takes its own subscription away and no other. -/
theorem Books.mem_closedWorld (h : Books lookups w) (hworker : worker? w key = some worker)
    {sub : Subscription String} :
    sub ∈ (closedWorld w key worker).store.subscriptions ↔
      sub ∈ w.store.subscriptions ∧ sub.owner ≠ key := by
  cases hticket : worker.ticket with
  | none =>
    have hsame : (closedWorld w key worker).store.subscriptions = w.store.subscriptions := by
      simp only [closedWorld, hticket]
    rw [hsame]
    refine ⟨fun hsub => ⟨hsub, ?_⟩, And.left⟩
    rintro rfl
    obtain ⟨other, hother, hsome, -⟩ := h.owner hsub
    obtain rfl : worker = other := Option.some.inj (hworker.symm.trans hother)
    rw [hticket] at hsome
    cases hsome
  | some ticket =>
    have hfilter : (closedWorld w key worker).store.subscriptions
        = w.store.subscriptions.filter (·.ticket != ticket) := by
      simp only [closedWorld, hticket]
      rfl
    have hown := h.subscribed hworker hticket
    rw [hfilter, List.mem_filter]
    -- tickets are distinct, so the subscription with this one is the worker's own
    refine and_congr_right fun hsub => ?_
    rw [bne_iff_ne]
    refine not_congr ⟨fun hsame => ?_, ?_⟩
    · have heq : sub = worker.subscription key ticket :=
        List.inj_on_of_nodup_map h.tickets hsub hown hsame
      rw [heq]
      rfl
    · rintro rfl
      obtain ⟨other, hother, hsome, -⟩ := h.owner hsub
      obtain rfl : worker = other := Option.some.inj (hworker.symm.trans hother)
      exact Option.some.inj (hsome.symm.trans hticket)

theorem numbered_shut {e : Engine} (h : e.Numbered) (key : String) : (shut e key).Numbered := by
  refine h.of_current List.filter_sublist rfl fun {other worker request} hworker hcurrent => ?_
  rcases shut_cases hworker with ⟨rfl, old, hold, rfl⟩ | ⟨-, hold⟩
  · cases hcurrent
  · exact ⟨worker, request, hold, hcurrent, rfl, rfl⟩

/-- Closing a worker keeps the books in order. -/
theorem Books.close (h : Books lookups w) (hworker : worker? w key = some worker) :
    Books lookups (closedWorld w key worker) where
  roster other := by
    rw [← h.roster other]
    by_cases ho : other = key
    · subst ho
      rw [worker?_closedWorld_self, Option.map_map]
      rfl
    · rw [worker?_closedWorld_of_ne ho]
  whole {other worker'} hworker' := by
    rcases shut_cases hworker' with ⟨rfl, old, hold, rfl⟩ | ⟨-, hold⟩
    · show old.lookup.IsWhole
      exact h.whole hold
    · exact h.whole hold
  owner {sub} hsub := by
    obtain ⟨hsub, hne⟩ := (h.mem_closedWorld hworker).mp hsub
    obtain ⟨other, hother, hticket, heq⟩ := h.owner hsub
    exact ⟨other, (worker?_closedWorld_of_ne hne w worker).trans hother, hticket, heq⟩
  subscribed {other worker' ticket} hworker' hticket := by
    rcases shut_cases hworker' with ⟨rfl, old, hold, rfl⟩ | ⟨hne, hold⟩
    · cases hticket
    · exact (h.mem_closedWorld hworker).mpr ⟨h.subscribed hold hticket, hne⟩
  tickets := ((sublist_closedWorld w key worker).map _).nodup h.tickets
  ticket_lt hsub := by
    rw [nextTicket_closedWorld]
    exact h.ticket_lt ((sublist_closedWorld w key worker).subset hsub)
  numbered := numbered_shut h.numbered key

/-- Closing a worker leaves the others as they were. -/
theorem yields_closeWorker (hw : UpToDate lookups closed w) (key : String) :
    (Engine.closeWorker enginePart key : Shift Unit).Yields w
      (UpToDate lookups fun other => closed other ∨ other = key) := by
  cases hworker : worker? w key with
  | none =>
    exact ⟨(), w, Engine.run_closeWorker_of_none enginePart hworker, hw.mono fun _ => Or.inl⟩
  | some worker =>
    refine ⟨(), _, run_closeWorker hworker, hw.books.close hworker, ?_, ?_⟩
    · intro other worker' hworker' hopen hne
      rw [data_closedWorld]
      rcases shut_cases hworker' with ⟨rfl, old, hold, rfl⟩ | ⟨-, hold⟩
      · -- without a ticket it is open only if it depends on nothing
        left
        have hnothing : old.lookup.dependsOn = [] := by simpa [Worker.isOpen] using hopen
        exact Lookup.requestKey?_of_no_dependencies hnothing w.store.data
      · exact hw.caught other worker' hold hopen hne
    · intro other worker' hworker' hclosed
      rcases shut_cases hworker' with ⟨rfl, old, hold, rfl⟩ | ⟨-, hold⟩
      · exact absurd (Or.inr rfl) hclosed
      · exact hw.isOpen hold fun hc => hclosed (Or.inl hc)

/-! ## One step -/

theorem Orderly.weaken {owed : String → Object → Prop} (h : Orderly lookups owed none w)
    (key : String) : Orderly lookups owed (some key) w :=
  ⟨h.books, h.simple, fun other worker hworker hopen _ =>
    h.caught other worker hworker hopen (Option.some_ne_none other)⟩

/-- A worker that is made to look at the form. -/
theorem refusedOr_evaluate_kept (hw : Kept lookups subs w) (key : String) :
    (Engine.evaluate enginePart (write guarded) isShown key).RefusedOr w (Kept lookups subs) := by
  refine (refusedOr_evaluate clears_write (hw.orderly.weaken key) fun _ _ _ _ => trivial).mono ?_
  rintro w' ⟨hw', hturn⟩
  exact ⟨hw', hturn.subscriptions_eq.trans hw.subscriptions_eq⟩

theorem yields_dismiss (key : String) (w : World String Desk) :
    (dismiss key).Yields w (Quiet w) := by
  cases hworker : worker? w key with
  | none => exact ⟨(), w, Engine.run_dismiss_of_none enginePart hworker, .refl w⟩
  | some worker =>
    have hforget : (Engine.updateWorker enginePart key fun worker => { worker with error := none } :
        Shift Unit).Yields w (Quiet w) :=
      yields_updateWorker (f := fun worker => { worker with error := none })
        (fun _ => ⟨rfl, rfl, rfl⟩) (fun _ => rfl) key w
    rw [Run.Yields, dismiss, Engine.run_dismiss enginePart hworker]
    exact hforget.bind fun _ w' hw' => (yields_announce key w').mono fun _ h => hw'.trans h

/-- Which paths are hidden does not matter to the books. -/
theorem quiet_hidden (f : Option (List String) → Option (List String)) (w : World String Desk) :
    (hiddenPart.update f : Shift Unit).Yields w (Quiet w) :=
  ⟨(), _, rfl, ⟨rfl, rfl, rfl, List.Sublist.refl _, fun {_ worker} h => ⟨worker, h, .refl worker⟩,
    fun {_ worker} h => ⟨worker, h, .refl worker⟩⟩, rfl, fun _ => rfl⟩

/-- **A step that is not refused leaves nobody behind.** -/
theorem refusedOr_event {e : Event} (he : e.IsWhole) (hw : UpToDate lookups closed w)
    (hsimple : isSimple w = true) :
    (e.runWith (write guarded)).RefusedOr w
      (UpToDate lookups fun key => closed key ∨ e = .close key) := by
  have hkept := hw.kept hsimple
  -- all steps but one keep who is there
  have hstays : ∀ {m : Shift Unit}, m.RefusedOr w (Kept lookups w.store.subscriptions) →
      m.RefusedOr w (UpToDate lookups fun key => closed key ∨ e = .close key) := fun hm =>
    hm.mono fun w' h => (h.upToDate hw).mono fun _ => Or.inl
  cases e with
  | write wr =>
    refine hstays ((refusedOr_write he hkept.orderly).bind fun _ w' h => ?_)
    exact Or.inr ⟨(), w', rfl, h.1, h.2⟩
  | evaluate key => exact hstays (refusedOr_evaluate_kept hkept key)
  | dismiss key => exact hstays (yields_kept (yields_dismiss key) hkept)
  | hide path => exact hstays (yields_kept (quiet_hidden _) hkept)
  | reveal path => exact hstays (yields_kept (quiet_hidden _) hkept)
  | complete id result => exact hstays (refusedOr_complete id result hkept)
  | close key =>
    refine Or.inr ((yields_closeWorker hw key).mono fun w' h => h.mono fun other hc => ?_)
    rcases hc with hc | rfl
    · exact Or.inl hc
    · exact Or.inr rfl

end Desk
end DynamicForms
