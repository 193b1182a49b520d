import DynamicForms.Proofs.Lookup.Step

/-!
# `DynamicForms.Proofs.Lookup.Start` — how the workers of a desk are started

The workers are started one after the other. One that depends on anything gets a ticket, and then it has
its first turn, in which it may ask for an answer but has nothing to clear. So the data stays as it is
during the start, and afterwards every worker is open and none is behind.

## Contents
- **Tickets.** `Desk.openedWorld`, `Books.openWorker`.
- `Desk.Starting`: what holds while workers are being started.
- `yields_startWorker`, `yields_start`.
-/

namespace DynamicForms

open Value (Object)

namespace Desk

variable {lookups : String → Option Lookup} {w w' : World String Desk} {key : String}
  {worker : Worker} {put : Writer String Desk} {data : Object} {rest : List String}

/-! ## Tickets -/

/-- A world after a worker got a ticket. -/
def openedWorld (w : World String Desk) (key : String) (worker : Worker) : World String Desk :=
  ⟨(w.store.subscribe worker.lookup.dependencyPaths key).2,
  { w.parts with
    engine := w.parts.engine.changeWorker key fun worker =>
      { worker with ticket := some w.store.nextTicket } }⟩

theorem worker?_openedWorld_cases {other : String} {worker' : Worker}
    (h : worker? (openedWorld w key worker) other = some worker') :
    (other = key ∧ ∃ old, worker? w key = some old ∧
      worker' = { old with ticket := some w.store.nextTicket }) ∨
      (other ≠ key ∧ worker? w other = some worker') :=
  changeWorker_cases (f := fun worker => { worker with ticket := some w.store.nextTicket }) h

theorem worker?_openedWorld_self (w : World String Desk) (key : String) (worker : Worker) :
    worker? (openedWorld w key worker) key
      = (worker? w key).map fun worker => { worker with ticket := some w.store.nextTicket } :=
  worker?_changeWorker_self w key fun worker => { worker with ticket := some w.store.nextTicket }

theorem worker?_openedWorld_of_ne {other : String} (h : other ≠ key) (w : World String Desk)
    (worker : Worker) : worker? (openedWorld w key worker) other = worker? w other :=
  worker?_changeWorker_of_ne h w fun worker => { worker with ticket := some w.store.nextTicket }

theorem mem_openedWorld (w : World String Desk) (key : String) (worker : Worker)
    (sub : Subscription String) :
    sub ∈ (openedWorld w key worker).store.subscriptions ↔
      sub ∈ w.store.subscriptions ∨ sub = worker.subscription key w.store.nextTicket := by
  show sub ∈ w.store.subscriptions ++ [worker.subscription key w.store.nextTicket] ↔ _
  rw [List.mem_append, List.mem_singleton]

theorem numbered_openedWorld (h : w.parts.engine.Numbered) (key : String) (worker : Worker) :
    (openedWorld w key worker).parts.engine.Numbered := by
  refine h.of_current (List.Sublist.refl _) rfl fun {other worker' request} hworker' hcurrent => ?_
  rcases worker?_openedWorld_cases hworker' with ⟨rfl, old, hold, rfl⟩ | ⟨-, hold⟩
  · exact ⟨old, request, hold, hcurrent, rfl, rfl⟩
  · exact ⟨worker', request, hold, hcurrent, rfl, rfl⟩

/-- A worker that has no ticket gets one. -/
theorem Books.openWorker (h : Books lookups w) (hworker : worker? w key = some worker)
    (hnone : worker.ticket = none) : Books lookups (openedWorld w key worker) where
  roster other := by
    rw [← h.roster other]
    by_cases ho : other = key
    · subst ho
      rw [worker?_openedWorld_self, Option.map_map]
      rfl
    · rw [worker?_openedWorld_of_ne ho]
  whole {other worker'} hworker' := by
    rcases worker?_openedWorld_cases hworker' with ⟨rfl, old, hold, rfl⟩ | ⟨-, hold⟩
    · show old.lookup.IsWhole
      exact h.whole hold
    · exact h.whole hold
  owner {sub} hsub := by
    rcases (mem_openedWorld w key worker sub).mp hsub with hold | rfl
    · obtain ⟨other, hother, hticket, heq⟩ := h.owner hold
      -- it is not the worker's, for that one had no ticket
      have hne : sub.owner ≠ key := by
        rintro hsame
        rw [hsame, hworker] at hother
        cases hother
        rw [hnone] at hticket
        cases hticket
      exact ⟨other, (worker?_openedWorld_of_ne hne w worker).trans hother, hticket, heq⟩
    · refine ⟨{ worker with ticket := some w.store.nextTicket }, ?_, rfl, rfl⟩
      show worker? (openedWorld w key worker) key = _
      rw [worker?_openedWorld_self, hworker]
      rfl
  subscribed {other worker' ticket} hworker' hticket := by
    rw [mem_openedWorld]
    rcases worker?_openedWorld_cases hworker' with ⟨rfl, old, hold, rfl⟩ | ⟨hne, hold⟩
    · obtain rfl : worker = old := Option.some.inj (hworker.symm.trans hold)
      cases hticket
      exact Or.inr rfl
    · exact Or.inl (h.subscribed hold hticket)
  tickets := by
    show ((w.store.subscriptions ++ [worker.subscription key w.store.nextTicket]).map
      (·.ticket)).Nodup
    rw [List.map_append, List.map_singleton, List.nodup_append]
    refine ⟨h.tickets, List.pairwise_singleton _ _, fun ticket hticket other hother hsame => ?_⟩
    obtain ⟨sub, hsub, rfl⟩ := List.mem_map.mp hticket
    have hnew : sub.ticket = w.store.nextTicket := hsame.trans (List.mem_singleton.mp hother)
    have hold : sub.ticket < w.store.nextTicket := h.ticket_lt hsub
    omega
  ticket_lt {sub} hsub := by
    show sub.ticket < w.store.nextTicket + 1
    rcases (mem_openedWorld w key worker sub).mp hsub with hold | rfl
    · exact Nat.lt_succ_of_lt (h.ticket_lt hold)
    · exact Nat.lt_succ_self _
  numbered := numbered_openedWorld h.numbered key worker

/-! ## Workers one after the other -/

/-- All that lookups depend on is simple in some data. -/
def SimpleIn (lookups : String → Option Lookup) (data : Object) : Prop :=
  ∀ key l, lookups key = some l → ∀ path ∈ l.dependencyPaths,
    (Path.read (.object data) path).isSimple = true

/-- Watched values are simple if everything is that the lookups depend on. -/
theorem Books.isSimple_of_data (h : Books lookups w) (hdata : SimpleIn lookups w.store.data) :
    isSimple w = true := by
  rw [isSimple_iff]
  intro entry hentry
  obtain ⟨-, worker, -, -, hworker, hpath⟩ := h.exists_of_mem_watchings hentry
  have hlookup : lookups entry.1 = some worker.lookup := by
    rw [← h.roster entry.1, hworker]
    rfl
  exact hdata entry.1 worker.lookup hlookup _ hpath

/-- What holds while workers are being started: some are still to be started and have never been ready,
    and the others are open. -/
structure Starting (lookups : String → Option Lookup) (data : Object) (rest : List String)
    (w : World String Desk) : Prop where
  /-- Everything is in order. -/
  orderly : Orderly lookups nothingOwed none w
  /-- The data. -/
  data_eq : w.store.data = data
  /-- Each worker is started once. -/
  nodup : rest.Nodup
  /-- Those that are still to be started. -/
  fresh : ∀ key ∈ rest, wasReady w key = false
  /-- Those that have been started. -/
  isOpen : ∀ {key worker}, worker? w key = some worker → key ∈ rest ∨ worker.isOpen = true

/-- A worker with its ticket has its first turn. -/
theorem yields_firstTurn (hw : Orderly lookups nothingOwed (some key) w)
    (hdata : SimpleIn lookups data) (hsame : w.store.data = data) (hnodup : (key :: rest).Nodup)
    (hfresh : ∀ other ∈ key :: rest, wasReady w other = false)
    (hworker : worker? w key = some worker)
    (hopen : ∀ {other worker}, worker? w other = some worker →
      other ∈ rest ∨ worker.isOpen = true) :
    (Engine.evaluate enginePart put isShown key).Yields w (Starting lookups data rest) := by
  have hnot : worker.wasReady = false := by
    have hnot := hfresh key List.mem_cons_self
    unfold wasReady at hnot
    rw [hworker] at hnot
    exact hnot
  obtain ⟨found, hkey⟩ : ∃ found, worker.lookup.requestKey? w.store.data = .ok found := by
    refine Lookup.exists_requestKey? ?_
    rw [hsame]
    exact hdata key worker.lookup (by rw [← hw.books.roster key, hworker]; rfl)
  refine (yields_evaluate_of_fresh hw hworker hnot hkey).mono ?_
  rintro w' ⟨hw', hturn⟩
  refine ⟨hw', (hturn.data_eq hworker (Or.inr hnot)).trans hsame, (List.nodup_cons.mp hnodup).2,
    fun other ho => ?_, fun {other worker'} hworker' => ?_⟩
  · have hne : other ≠ key := by
      rintro rfl
      exact (List.nodup_cons.mp hnodup).1 ho
    cases hready : wasReady w' other with
    | false => rfl
    | true =>
      have hbefore := hturn.ready hne hready
      rw [hfresh other (List.mem_cons_of_mem _ ho)] at hbefore
      cases hbefore
  · obtain ⟨old, hold, himp⟩ := exists_open hw.books hw'.books hturn.subscriptions_eq hworker'
    exact (hopen hold).imp_right himp

theorem run_startWorker (hworker : worker? w key = some worker) :
    (Engine.startWorker enginePart put isShown id key).run w
      = if worker.ticket.isNone && !worker.lookup.dependsOn.isEmpty then
          (Engine.evaluate enginePart put isShown key).run (openedWorld w key worker)
        else (Engine.evaluate enginePart put isShown key).run w :=
  Engine.run_startWorker enginePart hworker id

theorem wasReady_openedWorld (hworker : worker? w key = some worker) (other : String) :
    wasReady (openedWorld w key worker) other = wasReady w other := by
  unfold wasReady
  by_cases ho : other = key
  · subst ho
    rw [worker?_openedWorld_self, hworker]
    rfl
  · rw [worker?_openedWorld_of_ne ho]

/-- A worker that has just got its ticket has its first turn. -/
theorem yields_firstTurn_opened (hdata : SimpleIn lookups data)
    (hw : Starting lookups data (key :: rest) w) (hworker : worker? w key = some worker)
    (hnone : worker.ticket = none) :
    (Engine.evaluate enginePart put isShown key).Yields (openedWorld w key worker)
      (Starting lookups data rest) := by
  have hbooks := hw.orderly.books.openWorker hworker hnone
  have hsame : (openedWorld w key worker).store.data = data := hw.data_eq
  have hsimple : isSimple (openedWorld w key worker) = true := by
    refine hbooks.isSimple_of_data ?_
    rw [hsame]
    exact hdata
  have hopened : worker? (openedWorld w key worker) key
      = some { worker with ticket := some w.store.nextTicket } := by
    rw [worker?_openedWorld_self, hworker]
    rfl
  -- the others are as they were, and so is the data
  have hcaught : Caught nothingOwed (some key) (openedWorld w key worker) := by
    intro other worker' h hopen hne
    rcases worker?_openedWorld_cases h with ⟨rfl, -⟩ | ⟨-, hold⟩
    · exact absurd rfl hne
    · exact hw.orderly.caught other worker' hold hopen (Option.some_ne_none _)
  refine yields_firstTurn ⟨hbooks, hsimple, hcaught⟩ hdata hsame hw.nodup (fun other ho => ?_)
    hopened fun {other worker'} h => ?_
  · rw [wasReady_openedWorld hworker]
    exact hw.fresh other ho
  · rcases worker?_openedWorld_cases h with ⟨rfl, old, -, rfl⟩ | ⟨hne, hold⟩
    · exact Or.inr rfl
    · refine (hw.isOpen hold).imp_left fun hmem => ?_
      exact (List.mem_cons.mp hmem).resolve_left hne

/-- Once the next worker is open, every worker is or comes later. -/
theorem Starting.isOpen_of_next (hw : Starting lookups data (key :: rest) w)
    (hnext : ∀ {worker}, worker? w key = some worker → worker.isOpen = true) {other : String}
    (h : worker? w other = some worker) : other ∈ rest ∨ worker.isOpen = true := by
  rcases hw.isOpen h with hmem | hopen
  · rcases List.mem_cons.mp hmem with rfl | hrest
    · exact Or.inr (hnext h)
    · exact Or.inl hrest
  · exact Or.inr hopen

/-- **One worker is started.** -/
theorem yields_startWorker (hdata : SimpleIn lookups data)
    (hw : Starting lookups data (key :: rest) w) :
    (Engine.startWorker enginePart put isShown id key).Yields w (Starting lookups data rest) := by
  cases hworker : worker? w key with
  | none =>
    refine ⟨(), w, Engine.run_startWorker_of_none enginePart hworker id, hw.orderly, hw.data_eq,
      (List.nodup_cons.mp hw.nodup).2, fun other ho => hw.fresh other (List.mem_cons_of_mem _ ho),
      hw.isOpen_of_next fun h => ?_⟩
    rw [hworker] at h
    cases h
  | some worker =>
    rw [Run.Yields, run_startWorker hworker]
    split
    · next hneeds =>
      rw [Bool.and_eq_true, Option.isNone_iff_eq_none] at hneeds
      exact yields_firstTurn_opened hdata hw hworker hneeds.1
    · next hneeds =>
      refine yields_firstTurn (hw.orderly.weaken key) hdata hw.data_eq hw.nodup hw.fresh hworker
        (hw.isOpen_of_next fun {worker'} h => ?_)
      -- it has a ticket already, or needs none
      obtain rfl : worker = worker' := Option.some.inj (hworker.symm.trans h)
      unfold Worker.isOpen
      cases hticket : worker.ticket with
      | some ticket => rfl
      | none => simpa [hticket] using hneeds

/-! ## The start -/

/-- A worker of a desk that has not started looks after one of its lookups. -/
theorem exists_of_worker?_world {table : List Lookup} {channel : Channel} {wire : Wire}
    {hidden : Option (List String)}
    (h : worker? (world table channel wire hidden data) key = some worker) :
    ∃ l ∈ table, worker = .ofLookup l := by
  obtain ⟨l, hl, hpair⟩ := List.mem_map.mp (Entries.mem_ofPairs (Entries.mem_of_get? h))
  exact ⟨l, hl, (congrArg Prod.snd hpair).symm⟩

/-- The lookups of a desk by the keys of their workers. -/
def roster (table : List Lookup) (key : String) : Option Lookup :=
  ((Engine.ofLookups table).workers.get? key).map (·.lookup)

theorem mem_of_roster {table : List Lookup} {l : Lookup} (h : roster table key = some l) :
    l ∈ table := by
  obtain ⟨worker, hworker, rfl⟩ := Option.map_eq_some_iff.mp h
  obtain ⟨l, hl, hpair⟩ := List.mem_map.mp (Entries.mem_ofPairs (Entries.mem_of_get? hworker))
  rw [← show Worker.ofLookup l = worker from congrArg Prod.snd hpair]
  exact hl

theorem key_of_roster {table : List Lookup} {l : Lookup} (h : roster table key = some l) :
    l.key = key := by
  obtain ⟨worker, hworker, rfl⟩ := Option.map_eq_some_iff.mp h
  obtain ⟨l, -, hpair⟩ := List.mem_map.mp (Entries.mem_ofPairs (Entries.mem_of_get? hworker))
  rw [← show Worker.ofLookup l = worker from congrArg Prod.snd hpair]
  exact congrArg Prod.fst hpair

/-- The books of a desk that has not started. -/
theorem books_world {table : List Lookup} (hwhole : ∀ l ∈ table, l.IsWhole) (channel : Channel)
    (wire : Wire) (hidden : Option (List String)) (data : Object) :
    Books (roster table) (world table channel wire hidden data) where
  roster _ := rfl
  whole h := by
    obtain ⟨l, hl, rfl⟩ := exists_of_worker?_world h
    exact hwhole l hl
  owner h := by cases h
  subscribed h hticket := by
    obtain ⟨l, -, rfl⟩ := exists_of_worker?_world h
    cases hticket
  tickets := List.nodup_nil
  ticket_lt h := by cases h
  numbered := by
    refine ⟨List.nodup_nil, ?_, ?_, ?_⟩
    · intro errand herrand
      cases herrand
    · intro key worker request hworker hcurrent
      replace hworker : worker? (world table channel wire hidden data) key = some worker := hworker
      obtain ⟨l, -, rfl⟩ := exists_of_worker?_world hworker
      cases hcurrent
    · intro errand worker request herrand
      cases herrand

/-- Before the start everybody is still to be started. -/
theorem starting_world {table : List Lookup} (hwhole : ∀ l ∈ table, l.IsWhole) (channel : Channel)
    (wire : Wire) (hidden : Option (List String)) (data : Object) :
    Starting (roster table) data (Engine.ofLookups table).workers.keys
      (world table channel wire hidden data) := by
  refine ⟨⟨books_world hwhole channel wire hidden data, rfl, ?_⟩, rfl,
    Entries.nodup_keys_ofPairs _, ?_, ?_⟩
  · intro key worker hworker hopen _
    obtain ⟨l, -, rfl⟩ := exists_of_worker?_world hworker
    have hnothing : l.dependsOn = [] := by simpa [Worker.isOpen, Worker.ofLookup] using hopen
    exact Or.inl (Lookup.requestKey?_of_no_dependencies hnothing _)
  · intro key _
    unfold wasReady
    cases hworker : worker? (world table channel wire hidden data) key with
    | none => rfl
    | some worker =>
      obtain ⟨l, -, rfl⟩ := exists_of_worker?_world hworker
      rfl
  · intro key worker hworker
    left
    by_contra hnot
    rw [← Entries.get?_eq_none_iff] at hnot
    cases hnot.symm.trans hworker

/-- **The start** of a desk at which everything is simple that lookups depend on leaves every worker
    open and nobody behind. -/
theorem yields_start {table : List Lookup} (hwhole : ∀ l ∈ table, l.IsWhole)
    (hdata : ∀ l ∈ table, ∀ path ∈ l.dependencyPaths,
      (Path.read (.object data) path).isSimple = true)
    (channel : Channel) (wire : Wire) (hidden : Option (List String)) :
    start.Yields (world table channel wire hidden data)
      (UpToDate (roster table) fun _ => False) := by
  have hloop : ((Engine.ofLookups table).workers.keys.forM
      (Engine.startWorker enginePart put isShown id)).Yields (world table channel wire hidden data)
        (Starting (roster table) data []) := by
    refine Run.yields_forM (I := Starting (roster table) data) (fun key rest w h => ?_)
      (starting_world hwhole channel wire hidden data)
    exact yields_startWorker (fun _ l hl => hdata l (mem_of_roster hl)) h
  refine hloop.mono fun w hw => ⟨hw.orderly.books, hw.orderly.caught, fun hworker _ => ?_⟩
  rcases hw.isOpen hworker with hmem | hopen
  · cases hmem
  · exact hopen

end Desk
end DynamicForms
