import DynamicForms.Lookup.Desk
import DynamicForms.Proofs.Entries
import DynamicForms.Proofs.Lookup.Key
import DynamicForms.Proofs.Store.News
import DynamicForms.Proofs.Store.Run

/-!
# `DynamicForms.Proofs.Lookup.Books` — the books that a desk keeps

Two things are written down at a desk. The store has the subscriptions of the workers, one for each
worker with a ticket, to the paths that its lookup depends on. The engine numbers the requests, never
two alike, and a request in flight that is still the current one of its worker is known there by the
same key. Whatever happens at a desk keeps these books in order.

What a worker is asking for may fall behind the data only while the worker is still to be told of a
write that is being made. Such a worker is *owed* the news of what has changed since some earlier data,
and it fits that data.

## Contents
- `Desk.Books`: the books are in order.
- `Desk.Caught`: every open worker fits the data or is owed news.
- **Numbers.** `Engine.Numbered.of_current`: requests stay numbered while none goes out.
- **Small changes.** `Worker.Matches`, `Desk.Carries`: nothing happens to tickets and requests.
- **Requests.** `Books.invalidate`, `Books.ask`, `Caught.changeRequest`.
-/

namespace DynamicForms

open Value (Object)

/-- All paths of a lookup are whole. -/
structure Lookup.IsWhole (l : Lookup) : Prop where
  /-- The paths that it depends on. -/
  dependencies : ∀ path ∈ l.dependencyPaths, Path.IsWhole path
  /-- The paths of its targets. -/
  targets : ∀ r ∈ l.targets, Path.IsWhole r.path

instance (l : Lookup) : Decidable l.IsWhole :=
  decidable_of_iff ((∀ path ∈ l.dependencyPaths, Path.IsWhole path) ∧
      ∀ r ∈ l.targets, Path.IsWhole r.path)
    ⟨fun h => ⟨h.1, h.2⟩, fun h => ⟨h.dependencies, h.targets⟩⟩

/-- The subscription of a worker. -/
def Worker.subscription (worker : Worker) (key : String) (ticket : Nat) : Subscription String :=
  ⟨ticket, some worker.lookup.dependencyPaths.eraseDups, key⟩

/-- Whether a worker has a ticket as far as it needs one. -/
def Worker.isOpen (worker : Worker) : Bool :=
  worker.ticket.isSome || worker.lookup.dependsOn.isEmpty

/-- A worker has the lookup, the ticket and the request of another one. -/
structure Worker.Matches (worker other : Worker) : Prop where
  /-- The lookup. -/
  lookup_eq : worker.lookup = other.lookup
  /-- The ticket. -/
  ticket_eq : worker.ticket = other.ticket
  /-- The request, answered or not. -/
  current_eq : worker.current.map (fun request => (request.id, request.key))
    = other.current.map (fun request => (request.id, request.key))

theorem Worker.Matches.refl (worker : Worker) : worker.Matches worker := ⟨rfl, rfl, rfl⟩

theorem Worker.Matches.trans {worker other third : Worker} (h : worker.Matches other)
    (h' : other.Matches third) : worker.Matches third :=
  ⟨h.lookup_eq.trans h'.lookup_eq, h.ticket_eq.trans h'.ticket_eq,
    h.current_eq.trans h'.current_eq⟩

theorem Worker.Matches.subscription_eq {worker other : Worker} (h : worker.Matches other)
    (key : String) (ticket : Nat) : worker.subscription key ticket = other.subscription key ticket := by
  unfold Worker.subscription
  rw [h.lookup_eq]

theorem Worker.Matches.isOpen_eq {worker other : Worker} (h : worker.Matches other) :
    worker.isOpen = other.isOpen := by
  unfold Worker.isOpen
  rw [h.ticket_eq, h.lookup_eq]

theorem Worker.Matches.fits {worker other : Worker} (h : worker.Matches other) {data : Object}
    (hfits : other.Fits data) : worker.Fits data := by
  have hkey : worker.current.map (·.key) = other.current.map (·.key) := by
    have hsecond := congrArg (Option.map Prod.snd) h.current_eq
    rw [Option.map_map, Option.map_map] at hsecond
    exact hsecond
  unfold Worker.Fits
  rw [h.lookup_eq, hkey]
  exact hfits

theorem Worker.Matches.exists_current {worker other : Worker} (h : worker.Matches other)
    {request : CurrentRequest} (hcurrent : worker.current = some request) :
    ∃ old, other.current = some old ∧ old.id = request.id ∧ old.key = request.key := by
  have heq := h.current_eq
  rw [hcurrent] at heq
  obtain ⟨old, hold, hpair⟩ := Option.map_eq_some_iff.mp heq.symm
  exact ⟨old, hold, congrArg Prod.fst hpair, congrArg Prod.snd hpair⟩

/-- Noting an answer changes neither the number nor the key of a request. -/
theorem Worker.matches_noteAnswered (worker : Worker) (id : Nat) :
    (worker.noteAnswered id).Matches worker := by
  refine ⟨rfl, rfl, ?_⟩
  unfold Worker.noteAnswered
  cases worker.current with
  | none => rfl
  | some request =>
    simp only [Option.map_some]
    split <;> rfl

theorem Worker.noteAnswered_of_not_current {worker : Worker} {id : Nat}
    (h : worker.isCurrent id = false) : worker.noteAnswered id = worker := by
  have hsame : (worker.noteAnswered id).current = worker.current := by
    unfold Worker.isCurrent at h
    unfold Worker.noteAnswered
    cases hcurrent : worker.current with
    | none => rfl
    | some request =>
      rw [hcurrent] at h
      simp only [beq_eq_false_iff_ne] at h
      simp only [Option.map_some, if_neg h]
  calc worker.noteAnswered id
      = { worker with current := (worker.noteAnswered id).current } := rfl
    _ = worker := by rw [hsame]

namespace Desk

/-- The worker under a key. -/
abbrev worker? (w : World String Desk) (key : String) : Option Worker :=
  w.parts.engine.workers.get? key

/-- A world with another engine. -/
def withEngine (w : World String Desk) (engine : Engine) : World String Desk :=
  ⟨w.store, { w.parts with engine }⟩

end Desk

/-- The requests of an engine are numbered well. -/
structure Engine.Numbered (e : Engine) : Prop where
  /-- No two requests in flight have the same number. -/
  ids : (e.inFlight.map (·.id)).Nodup
  /-- The next number is a new one. -/
  id_lt : ∀ {errand}, errand ∈ e.inFlight → errand.id < e.nextId
  /-- Current requests have been numbered. -/
  current_lt : ∀ {key worker request}, e.workers.get? key = some worker →
    worker.current = some request → request.id < e.nextId
  /-- A current request in flight has one key. -/
  key_eq : ∀ {errand worker request}, errand ∈ e.inFlight →
    e.workers.get? errand.worker = some worker → worker.current = some request →
    request.id = errand.id → request.key = errand.key

/-- Requests stay numbered well while none goes out and each current one is, by number and key, one that
    its worker had. -/
theorem Engine.Numbered.of_current {e e' : Engine} (h : e.Numbered)
    (hinFlight : e'.inFlight.Sublist e.inFlight) (hnext : e'.nextId = e.nextId)
    (hcurrent : ∀ {key worker request}, e'.workers.get? key = some worker →
      worker.current = some request →
      ∃ old before, e.workers.get? key = some old ∧ old.current = some before ∧
        before.id = request.id ∧ before.key = request.key) : e'.Numbered where
  ids := (hinFlight.map _).nodup h.ids
  id_lt herrand := by
    rw [hnext]
    exact h.id_lt (hinFlight.subset herrand)
  current_lt hworker hrequest := by
    obtain ⟨old, before, hold, hbefore, hid, -⟩ := hcurrent hworker hrequest
    rw [hnext, ← hid]
    exact h.current_lt hold hbefore
  key_eq herrand hworker hrequest hsame := by
    obtain ⟨old, before, hold, hbefore, hid, hkey⟩ := hcurrent hworker hrequest
    rw [← hkey]
    exact h.key_eq (hinFlight.subset herrand) hold hbefore (hid.trans hsame)

namespace Desk

/-- The books are in order. -/
structure Books (lookups : String → Option Lookup) (w : World String Desk) : Prop where
  /-- The lookups of the workers. -/
  roster : ∀ key, (worker? w key).map (·.lookup) = lookups key
  /-- The paths of all lookups are whole. -/
  whole : ∀ {key worker}, worker? w key = some worker → worker.lookup.IsWhole
  /-- A subscription is that of a worker. -/
  owner : ∀ {sub}, sub ∈ w.store.subscriptions → ∃ worker, worker? w sub.owner = some worker ∧
    worker.ticket = some sub.ticket ∧ sub = worker.subscription sub.owner sub.ticket
  /-- A worker with a ticket has a subscription. -/
  subscribed : ∀ {key worker ticket}, worker? w key = some worker → worker.ticket = some ticket →
    worker.subscription key ticket ∈ w.store.subscriptions
  /-- No ticket was given twice. -/
  tickets : (w.store.subscriptions.map (·.ticket)).Nodup
  /-- The next ticket is a new one. -/
  ticket_lt : ∀ {sub}, sub ∈ w.store.subscriptions → sub.ticket < w.store.nextTicket
  /-- The requests are numbered. -/
  numbered : w.parts.engine.Numbered

/-- Every open worker, one aside perhaps, fits the data, or it is owed news of what has changed since
    some data that it fits. -/
def Caught (owed : String → Object → Prop) (aside : Option String) (w : World String Desk) : Prop :=
  ∀ key worker, worker? w key = some worker → worker.isOpen = true → some key ≠ aside →
    worker.Fits w.store.data ∨ ∃ data, owed key data ∧ worker.Fits data

/-- Nobody is owed any news. -/
def nothingOwed : String → Object → Prop := fun _ _ => False

variable {lookups : String → Option Lookup} {w w' : World String Desk}
  {owed : String → Object → Prop} {aside : Option String} {key : String} {worker : Worker}
  {engine : Engine}

/-! ## Small changes -/

/-- One world comes from another one by changes that concern neither tickets nor requests, except that
    requests may have landed. -/
structure Carries (w w' : World String Desk) : Prop where
  /-- The subscriptions. -/
  subscriptions_eq : w'.store.subscriptions = w.store.subscriptions
  /-- The next ticket. -/
  nextTicket_eq : w'.store.nextTicket = w.store.nextTicket
  /-- The next number. -/
  nextId_eq : w'.parts.engine.nextId = w.parts.engine.nextId
  /-- No request has gone out. -/
  inFlight : w'.parts.engine.inFlight.Sublist w.parts.engine.inFlight
  /-- The workers that were there match those that are. -/
  forth : ∀ {key worker}, worker? w key = some worker →
    ∃ worker', worker? w' key = some worker' ∧ worker'.Matches worker
  /-- The workers that are there match those that were. -/
  back : ∀ {key worker'}, worker? w' key = some worker' →
    ∃ worker, worker? w key = some worker ∧ worker'.Matches worker

theorem Carries.refl (w : World String Desk) : Carries w w where
  subscriptions_eq := rfl
  nextTicket_eq := rfl
  nextId_eq := rfl
  inFlight := List.Sublist.refl _
  forth {_ worker} h := ⟨worker, h, .refl worker⟩
  back {_ worker} h := ⟨worker, h, .refl worker⟩

theorem Carries.trans {w'' : World String Desk} (h : Carries w w') (h' : Carries w' w'') :
    Carries w w'' where
  subscriptions_eq := h'.subscriptions_eq.trans h.subscriptions_eq
  nextTicket_eq := h'.nextTicket_eq.trans h.nextTicket_eq
  nextId_eq := h'.nextId_eq.trans h.nextId_eq
  inFlight := h'.inFlight.trans h.inFlight
  forth hworker := by
    obtain ⟨worker', hworker', hmatch⟩ := h.forth hworker
    obtain ⟨worker'', hworker'', hmatch'⟩ := h'.forth hworker'
    exact ⟨worker'', hworker'', hmatch'.trans hmatch⟩
  back hworker := by
    obtain ⟨worker', hworker', hmatch'⟩ := h'.back hworker
    obtain ⟨worker, hworker, hmatch⟩ := h.back hworker'
    exact ⟨worker, hworker, hmatch'.trans hmatch⟩

theorem worker?_changeWorker_self (w : World String Desk) (key : String) (f : Worker → Worker) :
    worker? (withEngine w (w.parts.engine.changeWorker key f)) key = (worker? w key).map f :=
  Entries.get?_change_self _ key f

theorem worker?_changeWorker_of_ne {other : String} (h : other ≠ key) (w : World String Desk)
    (f : Worker → Worker) :
    worker? (withEngine w (w.parts.engine.changeWorker key f)) other = worker? w other :=
  Entries.get?_change_of_ne h _ f

theorem carries_changeWorker {f : Worker → Worker} (hf : ∀ worker, (f worker).Matches worker)
    (w : World String Desk) (key : String) :
    Carries w (withEngine w (w.parts.engine.changeWorker key f)) where
  subscriptions_eq := rfl
  nextTicket_eq := rfl
  nextId_eq := rfl
  inFlight := List.Sublist.refl _
  forth {other worker} h := by
    by_cases ho : other = key
    · subst ho
      exact ⟨f worker, by rw [worker?_changeWorker_self, h]; rfl, hf worker⟩
    · exact ⟨worker, by rw [worker?_changeWorker_of_ne ho, h], .refl worker⟩
  back {other worker'} h := by
    by_cases ho : other = key
    · subst ho
      rw [worker?_changeWorker_self] at h
      obtain ⟨worker, hworker, rfl⟩ := Option.map_eq_some_iff.mp h
      exact ⟨worker, hworker, hf worker⟩
    · rw [worker?_changeWorker_of_ne ho] at h
      exact ⟨worker', h, .refl worker'⟩

theorem carries_withData (w : World String Desk) (data : Object) : Carries w (w.withData data) :=
  ⟨rfl, rfl, rfl, List.Sublist.refl _, fun {_ worker} h => ⟨worker, h, .refl worker⟩,
    fun {_ worker} h => ⟨worker, h, .refl worker⟩⟩

theorem numbered_carry (h : w.parts.engine.Numbered) (hc : Carries w w') :
    w'.parts.engine.Numbered := by
  refine h.of_current hc.inFlight hc.nextId_eq fun {key worker' request'} hworker hcurrent => ?_
  obtain ⟨worker, hold, hmatch⟩ := hc.back hworker
  obtain ⟨request, hrequest, hid, hkey⟩ := hmatch.exists_current hcurrent
  exact ⟨worker, request, hold, hrequest, hid, hkey⟩

theorem Books.carry (h : Books lookups w) (hc : Carries w w') : Books lookups w' where
  roster key := by
    rw [← h.roster key]
    cases hnew : worker? w' key with
    | some worker' =>
      obtain ⟨worker, hold, hmatch⟩ := hc.back hnew
      rw [hold, Option.map_some, Option.map_some, hmatch.lookup_eq]
    | none =>
      cases hold : worker? w key with
      | none => rfl
      | some worker =>
        obtain ⟨worker', hworker', -⟩ := hc.forth hold
        rw [hnew] at hworker'
        cases hworker'
  whole hworker := by
    obtain ⟨worker, hold, hmatch⟩ := hc.back hworker
    rw [hmatch.lookup_eq]
    exact h.whole hold
  owner hsub := by
    rw [hc.subscriptions_eq] at hsub
    obtain ⟨worker, hold, hticket, heq⟩ := h.owner hsub
    obtain ⟨worker', hworker', hmatch⟩ := hc.forth hold
    exact ⟨worker', hworker', hmatch.ticket_eq.trans hticket,
      heq.trans (hmatch.subscription_eq _ _).symm⟩
  subscribed hworker hticket := by
    obtain ⟨worker, hold, hmatch⟩ := hc.back hworker
    rw [hc.subscriptions_eq, hmatch.subscription_eq]
    exact h.subscribed hold (hmatch.ticket_eq.symm.trans hticket)
  tickets := by rw [hc.subscriptions_eq]; exact h.tickets
  ticket_lt hsub := by
    rw [hc.nextTicket_eq]
    exact h.ticket_lt (hc.subscriptions_eq ▸ hsub)
  numbered := numbered_carry h.numbered hc

theorem Caught.carry (h : Caught owed aside w) (hc : Carries w w')
    (hdata : w'.store.data = w.store.data) : Caught owed aside w' := by
  intro key worker' hworker' hopen hne
  obtain ⟨worker, hworker, hmatch⟩ := hc.back hworker'
  rw [hmatch.isOpen_eq] at hopen
  rw [hdata]
  rcases h key worker hworker hopen hne with hfits | ⟨data, howed, hfits⟩
  · exact Or.inl (hmatch.fits hfits)
  · exact Or.inr ⟨data, howed, hmatch.fits hfits⟩

/-! ## Requests -/

/-- The worker under a key after one worker has changed. -/
theorem changeWorker_cases {e : Engine} {f : Worker → Worker} {other : String}
    (h : (e.changeWorker key f).workers.get? other = some worker) :
    (other = key ∧ ∃ old, e.workers.get? key = some old ∧ worker = f old) ∨
      (other ≠ key ∧ e.workers.get? other = some worker) := by
  replace h : (e.workers.change key f).get? other = some worker := h
  by_cases ho : other = key
  · subst ho
    rw [Entries.get?_change_self] at h
    obtain ⟨old, hold, rfl⟩ := Option.map_eq_some_iff.mp h
    exact Or.inl ⟨rfl, old, hold, rfl⟩
  · rw [Entries.get?_change_of_ne ho] at h
    exact Or.inr ⟨ho, h⟩

/-- A request may change with everything else in order. -/
theorem Books.changeRequest {f : Worker → Worker} (h : Books lookups w)
    (hf : ∀ worker, (f worker).lookup = worker.lookup ∧ (f worker).ticket = worker.ticket)
    (hworkers : engine.workers = (w.parts.engine.changeWorker key f).workers)
    (hn : engine.Numbered) :
    Books lookups (withEngine w engine) where
  -- only the worker under the key has changed, and neither its lookup nor its ticket
  roster other := by
    show (engine.workers.get? other).map (·.lookup) = lookups other
    rw [hworkers, ← h.roster other]
    by_cases ho : other = key
    · subst ho
      show ((w.parts.engine.workers.change other f).get? other).map _ = _
      rw [Entries.get?_change_self, Option.map_map]
      exact congrArg (fun g => (worker? w other).map g) (funext fun worker => (hf worker).1)
    · show ((w.parts.engine.workers.change key f).get? other).map _ = _
      rw [Entries.get?_change_of_ne ho]
  whole {other worker} hworker := by
    replace hworker : (w.parts.engine.changeWorker key f).workers.get? other = some worker :=
      hworkers ▸ hworker
    rcases changeWorker_cases hworker with ⟨rfl, old, hold, rfl⟩ | ⟨-, hold⟩
    · rw [(hf old).1]; exact h.whole hold
    · exact h.whole hold
  owner {sub} hsub := by
    obtain ⟨worker, hworker, hticket, heq⟩ := h.owner hsub
    show ∃ worker, engine.workers.get? sub.owner = some worker ∧ _
    rw [hworkers]
    by_cases ho : sub.owner = key
    · refine ⟨f worker, ?_, (hf worker).2.trans hticket, ?_⟩
      · rw [ho] at hworker ⊢
        exact (worker?_changeWorker_self w key f).trans (by rw [hworker]; rfl)
      · unfold Worker.subscription
        rw [(hf worker).1]
        exact heq
    · exact ⟨worker, (worker?_changeWorker_of_ne ho w f).trans hworker, hticket, heq⟩
  subscribed {other worker ticket} hworker hticket := by
    replace hworker : (w.parts.engine.changeWorker key f).workers.get? other = some worker :=
      hworkers ▸ hworker
    rcases changeWorker_cases hworker with ⟨rfl, old, hold, rfl⟩ | ⟨-, hold⟩
    · have hmem := h.subscribed hold ((hf old).2.symm.trans hticket)
      unfold Worker.subscription at hmem ⊢
      rw [(hf old).1]
      exact hmem
    · exact h.subscribed hold hticket
  tickets := h.tickets
  ticket_lt := h.ticket_lt
  numbered := hn

theorem numbered_invalidate {e : Engine} (h : e.Numbered) (key : String) :
    (e.changeWorker key fun worker => { worker with current := none }).Numbered := by
  refine h.of_current (List.Sublist.refl _) rfl fun {other worker request} hworker hcurrent => ?_
  rcases changeWorker_cases hworker with ⟨rfl, old, hold, rfl⟩ | ⟨-, hold⟩
  · cases hcurrent
  · exact ⟨worker, request, hold, hcurrent, rfl, rfl⟩

theorem numbered_ask {e : Engine} (h : e.Numbered) (key : String) (worker : Worker)
    (request : String) : (e.ask key worker request).Numbered where
  ids := by
    show ((e.inFlight ++ [(⟨e.nextId, key, request, worker.lookup.endpoint, keyParams request⟩ :
      Errand)]).map (·.id)).Nodup
    rw [List.map_append, List.map_singleton, List.nodup_append]
    refine ⟨h.ids, List.pairwise_singleton _ _, fun id hid other hother hsame => ?_⟩
    -- the new number is larger than those in flight
    obtain ⟨errand, herrand, rfl⟩ := List.mem_map.mp hid
    have hnew : errand.id = e.nextId := hsame.trans (List.mem_singleton.mp hother)
    have hold : errand.id < e.nextId := h.id_lt herrand
    omega
  id_lt {errand} herrand := by
    show errand.id < e.nextId + 1
    rcases List.mem_append.mp herrand with hold | hnew
    · exact Nat.lt_succ_of_lt (h.id_lt hold)
    · rw [List.mem_singleton.mp hnew]
      exact Nat.lt_succ_self _
  current_lt {other worker' current} hworker hcurrent := by
    show current.id < e.nextId + 1
    replace hworker : (e.changeWorker key fun w =>
      { w with current := some ⟨e.nextId, request, false⟩ }).workers.get? other
        = some worker' := hworker
    rcases changeWorker_cases hworker with ⟨rfl, old, hold, rfl⟩ | ⟨-, hold⟩
    · cases hcurrent
      exact Nat.lt_succ_self _
    · exact Nat.lt_succ_of_lt (h.current_lt hold hcurrent)
  key_eq {errand worker' current} herrand hworker hcurrent hid := by
    replace hworker : (e.changeWorker key fun w =>
      { w with current := some ⟨e.nextId, request, false⟩ }).workers.get? errand.worker
        = some worker' := hworker
    rcases List.mem_append.mp herrand with hin | hnew
    · rcases changeWorker_cases hworker with ⟨hkey, old, hold, rfl⟩ | ⟨-, hold⟩
      · -- what was in flight before does not have the new number
        cases hcurrent
        exact absurd (h.id_lt hin) (by rw [← hid]; exact Nat.lt_irrefl _)
      · exact h.key_eq hin hold hcurrent hid
    · cases List.mem_singleton.mp hnew
      rcases changeWorker_cases hworker with ⟨hkey, old, hold, rfl⟩ | ⟨hne, -⟩
      · cases hcurrent; rfl
      · exact absurd rfl hne

theorem Books.invalidate (h : Books lookups w) (key : String) :
    Books lookups (withEngine w
      (w.parts.engine.changeWorker key fun worker => { worker with current := none })) :=
  h.changeRequest (f := fun worker => { worker with current := none }) (fun _ => ⟨rfl, rfl⟩) rfl
    (numbered_invalidate h.numbered key)

theorem Books.ask (h : Books lookups w) (key : String) (worker : Worker) (request : String) :
    Books lookups (withEngine w (w.parts.engine.ask key worker request)) :=
  h.changeRequest (f := fun worker =>
      { worker with current := some ⟨w.parts.engine.nextId, request, false⟩ })
    (fun _ => ⟨rfl, rfl⟩) rfl (numbered_ask h.numbered key worker request)

/-- A worker that was aside is caught once its request is the one that its lookup is ready for. -/
theorem Caught.changeRequest (h : Caught owed (some key) w) (current : Option CurrentRequest)
    (hworkers : engine.workers
      = (w.parts.engine.changeWorker key fun worker => { worker with current }).workers)
    (hworker : worker? w key = some worker)
    (hkey : worker.lookup.requestKey? w.store.data = .ok (current.map (·.key))) :
    Caught owed none (withEngine w engine) := by
  intro other worker' hworker' hopen _
  replace hworker' : (w.parts.engine.changeWorker key fun worker =>
    { worker with current }).workers.get? other = some worker' := hworkers ▸ hworker'
  rcases changeWorker_cases hworker' with ⟨rfl, old, hold, rfl⟩ | ⟨hne, hold⟩
  · obtain rfl : worker = old := Option.some.inj (hworker.symm.trans hold)
    exact Or.inl hkey
  · exact h other worker' hold hopen fun heq => hne (Option.some.inj heq)

end Desk
end DynamicForms
