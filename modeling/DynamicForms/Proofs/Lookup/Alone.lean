import DynamicForms.Proofs.Lookup.Effect
import DynamicForms.Proofs.Lookup.Start

/-!
# `DynamicForms.Proofs.Lookup.Alone` — a worker by itself

If a lookup depends on none of its targets and there is no other one, its worker is not told of what it
writes. So whatever happens at such a desk, the worker looks at the form once at most, and what comes of
that look can be said in full: whether the lookup was ready when it last looked, and whether it is now,
decides if targets are cleared.

## Contents
- `Lookup.IsSimple`, `Lookup.FindsSame`.
- `Desk.Alone`: a desk with one worker.
- **Looks.** `Desk.cleared`, `Desk.Looks`, `Alone.yields_evaluate_looks`.
- **Steps.** `Desk.Watches`: the worker is started and up to date; `Watches.yields_put`,
  `Alone.yields_event_still`, `Alone.yields_start`.
-/

namespace DynamicForms

open Value (Object)
open Path (HasPlainNames)

namespace Lookup

/-- All that a lookup depends on is simple, or it is not there. -/
def IsSimple (l : Lookup) (data : Object) : Prop :=
  ∀ path ∈ l.dependencyPaths, (Path.read (.object data) path).isSimple = true

instance (l : Lookup) (data : Object) : Decidable (l.IsSimple data) :=
  inferInstanceAs (Decidable (∀ path ∈ l.dependencyPaths,
    (Path.read (.object data) path).isSimple = true))

/-- A lookup finds the same in two forms. -/
def FindsSame (l : Lookup) (data other : Object) : Prop :=
  ∀ path ∈ l.dependencyPaths, Path.read (.object data) path = Path.read (.object other) path

variable {l : Lookup} {data other : Object}

theorem FindsSame.isReady_eq (h : l.FindsSame data other) : l.isReady data = l.isReady other := by
  unfold isReady
  rw [values_congr h]

theorem FindsSame.isSimple (h : l.FindsSame data other) (hother : l.IsSimple other) :
    l.IsSimple data := fun path hpath => by
  rw [h path hpath]
  exact hother path hpath

theorem isReady_of_no_dependencies (h : l.dependsOn = []) (data : Object) :
    l.isReady data = false :=
  requestKey?_eq_none_iff.mp (requestKey?_of_no_dependencies h data)

end Lookup

namespace Desk

variable {l : Lookup} {ticket : Option Nat} {w w' : World String Desk} {put : Writer String Desk}
  {data : Object} {wr : Write} {key : String} {f : Worker → Worker}

/-! ## A desk with one worker -/

/-- A desk with one lookup, whose worker has a ticket or none. -/
structure Alone (l : Lookup) (ticket : Option Nat) (w : World String Desk) : Prop
    extends Proper [l] w where
  /-- There is no other lookup. -/
  lookup_eq : ∀ key, w.parts.engine.lookup? key = if key = l.key then some l else none
  /-- The ticket. -/
  ticket_eq : w.parts.engine.ticket? l.key = ticket
  /-- There is no subscription but that of the worker. -/
  subscriptions_eq : w.store.subscriptions
    = ticket.toList.map fun ticket => ⟨ticket, some l.dependencyPaths.eraseDups, l.key⟩

theorem Alone.exists_worker (h : Alone l ticket w) :
    ∃ worker, worker? w l.key = some worker ∧ worker.lookup = l ∧ worker.ticket = ticket := by
  have hlookup := h.lookup_eq l.key
  rw [if_pos rfl] at hlookup
  obtain ⟨worker, hworker, heq⟩ := Option.map_eq_some_iff.mp hlookup
  have hticket := h.ticket_eq
  rw [Engine.ticket?, hworker] at hticket
  exact ⟨worker, hworker, heq, hticket⟩

theorem Alone.worker?_of_ne (h : Alone l ticket w) (hne : key ≠ l.key) : worker? w key = none := by
  have hlookup := h.lookup_eq key
  rw [if_neg hne] at hlookup
  exact Option.map_eq_none_iff.mp hlookup

theorem Alone.withEngine (h : Alone l ticket w) {engine : Engine}
    (hlookup : ∀ key, engine.lookup? key = w.parts.engine.lookup? key)
    (hticket : engine.ticket? l.key = w.parts.engine.ticket? l.key) :
    Alone l ticket (withEngine w engine) where
  toProper := h.toProper.withEngine hlookup
  lookup_eq key := (hlookup key).trans (h.lookup_eq key)
  ticket_eq := hticket.trans h.ticket_eq
  subscriptions_eq := h.subscriptions_eq

theorem keeps_update_alone {f : Engine → Engine} (hf : Engine.IsSteady f) :
    (enginePart.update f : Shift Unit).Keeps (Alone l ticket) :=
  fun w hw => hw.withEngine (hf.advances _).lookup_eq (hf.ticket_eq w.parts.engine l.key)

theorem Alone.withData (h : Alone l ticket w) (hwr : wr.LeavesPlain) {after : Object}
    (hchange : wr.change? w.store.data = .ok (some after)) : Alone l ticket (w.withData after) :=
  ⟨h.toProper.withData hwr hchange, h.lookup_eq, h.ticket_eq, h.subscriptions_eq⟩

theorem keeps_put_alone (hwr : wr.LeavesPlain) : (Desk.put wr).Keeps (Alone l ticket) :=
  keeps_put_of (fun hwr hchange hw => hw.withData hwr hchange) (fun _ _ => trivial)
    (fun _ => keeps_update_alone) hwr

/-- A step that does not close the worker leaves it its ticket. -/
theorem keeps_event_alone {e : Event} (he : e.LeavesPlain) (hopen : e ≠ .close l.key) :
    (e.runWith Desk.put).Keeps (Alone l ticket) := by
  refine keeps_event_of (P := Write.LeavesPlain) (fun hwr hchange hw => hw.withData hwr hchange)
    (fun _ _ => trivial) (fun _ => keeps_update_alone)
    (fun _ _ hw => ⟨⟨hw.plain, hw.known, hw.watched⟩, hw.lookup_eq, hw.ticket_eq,
      hw.subscriptions_eq⟩) (fun wr hwrite => ?_) fun key hclose w hw => ?_
  · subst hwrite
    exact he
  · have hnone : worker? w key = none := hw.worker?_of_ne fun hsame => hopen (hsame ▸ hclose)
    rwa [Run.outcome_of_ok (Engine.run_closeWorker_of_none enginePart hnone)]

/-- Clearing, or filling, the targets changes nothing that the lookup depends on. -/
theorem findsSame_filled (htable : Lookup.AreDisjoint [l]) (d : Desk)
    (content : Reference → Option Value) (data : Object) :
    l.FindsSame (filled d l.targets content data) data := by
  have hl : l ∈ [l] := List.mem_singleton_self l
  exact fun path hpath => read_filled_of_apart ((htable.whole l hl).dependencies path hpath)
    (fun target htarget _ _ => htable.dependencies l hl l hl target htarget path hpath) data

/-! ## Looks -/

/-- The data after the worker of a lookup has looked at the form: its targets are cleared if the lookup is
    not ready any more, unless something that it depends on is not there. -/
def cleared (l : Lookup) (w : World String Desk) : Object :=
  if wasReady w l.key && !l.isReady w.store.data && !l.isUnregistered w.store.data then
    filled w.parts l.targets (fun _ => some (.text "")) w.store.data
  else w.store.data

/-- The worker of a lookup has looked at the form. -/
structure Looks (l : Lookup) (w w' : World String Desk) : Prop where
  /-- The store. -/
  store_eq : w'.store = { w.store with data := cleared l w }
  /-- What is hidden. -/
  hidden_eq : w'.parts.hidden = w.parts.hidden
  /-- It has noted whether the lookup is ready. -/
  ready_eq : wasReady w' l.key = l.isReady w.store.data
  /-- It has given its request up if the lookup is not. -/
  current_eq : l.isReady w.store.data = false → w'.parts.engine.current? l.key = none

theorem findsSame_cleared (htable : Lookup.AreDisjoint [l]) (w : World String Desk) :
    l.FindsSame (cleared l w) w.store.data := by
  unfold cleared
  split
  · exact findsSame_filled htable _ _ _
  · exact fun _ _ => rfl

theorem cleared_of_wasReady_eq (h : wasReady w l.key = l.isReady w.store.data) :
    cleared l w = w.store.data := by
  unfold cleared
  rw [h]
  cases l.isReady w.store.data <;> rfl

theorem Leads.wasReady_eq {after : Object} (h : Leads key f after w w') {worker : Worker}
    (hworker : worker? w key = some worker) : wasReady w' key = (f worker).wasReady := by
  unfold wasReady
  rw [h.self, hworker]
  rfl

theorem Leads.current?_eq {after : Object} (h : Leads key f after w w') {worker : Worker}
    (hworker : worker? w key = some worker) :
    w'.parts.engine.current? key = (f worker).current := by
  unfold Engine.current?
  rw [show w'.parts.engine.workers.get? key = _ from h.self, hworker]
  rfl

theorem leads_ask (key : String) (worker : Worker) (requestKey : String) (w : World String Desk) :
    (enginePart.update fun e => e.ask key worker requestKey : Shift Unit).Yields w
      (Leads key (fun worker =>
        { worker with current := some ⟨w.parts.engine.nextId, requestKey, false⟩ }) w.store.data w) := by
  obtain ⟨⟨⟩, w', hrun, halters⟩ := alters_ask key worker requestKey w
  obtain rfl : withEngine w (w.parts.engine.ask key worker requestKey) = w' := by
    injection (show _ = _ from hrun)
  exact ⟨(), _, hrun, halters, rfl, rfl⟩

/-- A worker that finds its lookup ready writes nothing. -/
theorem leads_request (key : String) (worker : Worker) (requestKey : String)
    (w : World String Desk) :
    (Engine.request enginePart key worker requestKey : Shift Unit).Yields w fun w' =>
      ∃ f : Worker → Worker, Leads key f w.store.data w w' ∧ ∀ worker, (f worker).wasReady = true := by
  unfold Engine.request
  refine (leads_updateWorker key (fun worker => { worker with wasReady := true }) w).bind
    fun _ w₁ h₁ => ?_
  cases worker.hasAskedFor requestKey with
  | true => exact ⟨(), w₁, rfl, _, h₁, fun _ => rfl⟩
  | false =>
    refine (leads_ask key worker requestKey w₁).bind fun _ w₂ h₂ => ?_
    refine (leads_enterPhase key .loading w₂).mono fun w₃ h₃ => ?_
    have hall := (h₁.trans h₂).trans h₃
    rw [show w₂.store.data = w.store.data by rw [h₂.store_eq, h₁.store_eq]] at hall
    exact ⟨_, hall, fun _ => rfl⟩

/-- Clearing what there is to clear. -/
theorem leads_clearing (htable : Lookup.AreDisjoint [l]) (hw : Proper [l] w)
    (hput : HasRoom react put) {worker : Worker} (hlookup : worker.lookup = l) (key : String) :
    (clearing put worker w.store.data).Yields w (Leads key id
      (if worker.wasReady && !l.isUnregistered w.store.data then
        filled w.parts l.targets (fun _ => some (.text "")) w.store.data
      else w.store.data) w) := by
  have hl : l ∈ [l] := List.mem_singleton_self l
  unfold clearing
  rw [hlookup]
  split
  · exact leads_writeTargets hw hput (htable.whole l hl).targets
      (fun target htarget l' hl' path hpath => htable.dependencies l hl l' hl' target htarget path
        hpath) _ key
  · exact ⟨(), w, rfl, ⟨Option.map_id_apply.symm, fun _ _ => rfl⟩, rfl, rfl⟩

/-- A worker that finds its lookup not ready gives up its request and clears what there is to clear. -/
theorem leads_standBy (htable : Lookup.AreDisjoint [l]) (hw : Proper [l] w)
    (hput : HasRoom react put) {worker : Worker} (hlookup : worker.lookup = l) (key : String) :
    (Engine.standBy enginePart put isShown key worker w.store.data).Yields w fun w' =>
      ∃ f : Worker → Worker, Leads key f
        (if worker.wasReady && !l.isUnregistered w.store.data then
          filled w.parts l.targets (fun _ => some (.text "")) w.store.data
        else w.store.data) w w' ∧
        ∀ worker, (f worker).wasReady = false ∧ (f worker).current = none := by
  rw [standBy_eq]
  refine (leads_updateWorker key (fun worker => { worker with current := none }) w).bind
    fun _ w₁ h₁ => ?_
  have hsame : w₁.store.data = w.store.data := by rw [h₁.store_eq]
  have hclears := leads_clearing htable (h₁.proper (fun _ => rfl) hw.plain hw) hput hlookup key
  rw [hsame, h₁.filled_eq] at hclears
  refine hclears.bind fun _ w₂ h₂ => ?_
  refine (leads_updateWorker key (fun worker => { worker with wasReady := false }) w₂).bind
    fun _ w₃ h₃ => ?_
  refine (leads_enterPhase key _ w₃).mono fun w₄ h₄ => ?_
  have hall := ((h₁.trans h₂).trans h₃).trans h₄
  rw [show w₃.store.data = w₂.store.data by rw [h₃.store_eq], h₂.store_eq] at hall
  exact ⟨_, hall, fun _ => ⟨rfl, rfl⟩⟩

/-- **A look at the form.** -/
theorem Alone.yields_evaluate_looks (htable : Lookup.AreDisjoint [l]) (hw : Alone l ticket w)
    (hsimple : l.IsSimple w.store.data) (hput : HasRoom react put) :
    (Engine.evaluate enginePart put isShown l.key).Yields w (Looks l w) := by
  obtain ⟨worker, hworker, hlookup, -⟩ := hw.exists_worker
  obtain ⟨found, hkey⟩ := Lookup.exists_requestKey? hsimple
  have hwas : wasReady w l.key = worker.wasReady := by
    unfold wasReady
    rw [hworker]
    rfl
  rw [Run.Yields, Engine.run_evaluate enginePart hworker (by rw [hlookup]; exact hkey)]
  cases found with
  | some requestKey =>
    have hready : l.isReady w.store.data = true := by
      by_contra hnot
      rw [Lookup.requestKey?_eq_none_iff.mpr (by simpa using hnot)] at hkey
      cases hkey
    have hdata : cleared l w = w.store.data := by
      unfold cleared
      rw [hready, Bool.not_true, Bool.and_false, Bool.false_and]
      rfl
    refine (leads_request l.key worker requestKey w).mono ?_
    rintro w' ⟨f, hleads, hf⟩
    exact ⟨by rw [hdata]; exact hleads.store_eq, hleads.hidden_eq,
      by rw [hleads.wasReady_eq hworker, hf, hready], fun hnot => by simp [hready] at hnot⟩
  | none =>
    have hready : l.isReady w.store.data = false := Lookup.requestKey?_eq_none_iff.mp hkey
    refine (leads_standBy htable hw.toProper hput hlookup l.key).mono ?_
    rintro w' ⟨f, hleads, hf⟩
    refine ⟨?_, hleads.hidden_eq, by rw [hleads.wasReady_eq hworker, (hf worker).1, hready],
      fun _ => by rw [hleads.current?_eq hworker, (hf worker).2]⟩
    rw [hleads.store_eq]
    unfold cleared
    rw [hwas, hready, Bool.not_false, Bool.and_true]

/-! ## Steps -/

/-- A desk whose worker is started and up to date. -/
structure Watches (l : Lookup) (w : World String Desk) : Prop where
  /-- The desk. -/
  alone : ∃ ticket, Alone l ticket w ∧ (ticket.isSome = true ∨ l.dependsOn = [])
  /-- All that the lookup depends on is simple. -/
  simple : l.IsSimple w.store.data
  /-- The worker knows whether it is ready. -/
  ready_eq : wasReady w l.key = l.isReady w.store.data

/-- What a write does at a desk whose worker is started. -/
structure Follows (l : Lookup) (wr : Write) (w w' : World String Desk) : Prop where
  /-- The worker is up to date. -/
  watches : Watches l w'
  /-- The targets are cleared if there is a reason. -/
  data_eq : w'.store.data = cleared l (w.withData (wr.after w.store.data))
  /-- The request is given up if the lookup is not ready any more. -/
  current_eq : l.isReady w.store.data = true → l.isReady (wr.after w.store.data) = false →
    w'.parts.engine.current? l.key = none

/-- A write at which the worker does not look finds it up to date. -/
theorem Watches.follows_of_same (h : Watches l w) (hticket : ∃ ticket,
    Alone l ticket (w.withData (wr.after w.store.data)) ∧ (ticket.isSome = true ∨ l.dependsOn = []))
    (hsimple : l.IsSimple (wr.after w.store.data))
    (hready : l.isReady (wr.after w.store.data) = l.isReady w.store.data) :
    Follows l wr w (w.withData (wr.after w.store.data)) := by
  have hknows : wasReady (w.withData (wr.after w.store.data)) l.key
      = l.isReady (w.withData (wr.after w.store.data)).store.data :=
    h.ready_eq.trans hready.symm
  exact ⟨⟨hticket, hsimple, hknows⟩, (cleared_of_wasReady_eq hknows).symm,
    fun hbefore hafter => by rw [hready, hbefore] at hafter; cases hafter⟩

/-- A world after its worker has looked at the form is up to date. -/
theorem Looks.watches (h : Looks l w w') (htable : Lookup.AreDisjoint [l])
    (hticket : ∃ ticket, Alone l ticket w' ∧ (ticket.isSome = true ∨ l.dependsOn = []))
    (hsimple : l.IsSimple w.store.data) : Watches l w' := by
  have hsame : l.FindsSame w'.store.data w.store.data := by
    rw [h.store_eq]
    exact findsSame_cleared htable w
  exact ⟨hticket, hsame.isSimple hsimple, h.ready_eq.trans hsame.isReady_eq.symm⟩

/-- The one who is told of a write is the worker, and without a ticket it is not. -/
theorem Alone.concerned_cases (h : Alone l ticket w) (wr : Write) :
    w.store.concerned wr = [] ∨ ∃ sub : Subscription String, w.store.subscriptions = [sub] ∧
      w.store.concerned wr = [sub] ∧ sub.owner = l.key ∧
        sub.paths = some l.dependencyPaths.eraseDups := by
  have hsublist := concerned_sublist w.store wr
  have hsubs := h.subscriptions_eq
  cases ticket with
  | none =>
    rw [hsubs] at hsublist
    exact Or.inl (List.sublist_nil.mp hsublist)
  | some ticket =>
    replace hsubs : w.store.subscriptions
      = [⟨ticket, some l.dependencyPaths.eraseDups, l.key⟩] := hsubs
    rw [hsubs] at hsublist
    exact (List.sublist_singleton.mp hsublist).imp_right fun hone => ⟨_, hsubs, hone, rfl, rfl⟩

/-- A write that does not concern the worker of a lookup leaves its lookup as ready as it was. -/
theorem Alone.isReady_eq_of_nobody (h : Alone l ticket w) (hl : l.IsWhole)
    (hopen : ticket.isSome = true ∨ l.dependsOn = []) (hwr : wr.IsWhole)
    (hnobody : w.store.concerned wr = []) :
    l.isReady (wr.after w.store.data) = l.isReady w.store.data := by
  rcases hopen with hsome | hnothing
  · obtain ⟨number, rfl⟩ := Option.isSome_iff_exists.mp hsome
    have hsub : ⟨number, some l.dependencyPaths.eraseDups, l.key⟩ ∈ w.store.subscriptions := by
      rw [h.subscriptions_eq]
      exact List.mem_singleton_self _
    refine Lookup.FindsSame.isReady_eq fun path hpath => ?_
    refine read_after_of_not_concerned hwr hsub rfl (fun c hc => ?_)
      (by rw [hnobody]; exact List.not_mem_nil) w.store.data path (List.mem_eraseDups.mpr hpath)
    exact hl.dependencies c (List.mem_eraseDups.mp hc)
  · rw [Lookup.isReady_of_no_dependencies hnothing, Lookup.isReady_of_no_dependencies hnothing]

/-- **A write** is told to the worker at most once: either the lookup is as ready as it was, or the worker
    looks at the form. -/
theorem Alone.run_put_cases (h : Alone l ticket w) (hl : l.IsWhole)
    (hopen : ticket.isSome = true ∨ l.dependsOn = []) (hwr : wr.IsWhole)
    (hsimple : l.IsSimple (wr.after w.store.data))
    (hsome : wr.change? w.store.data = .ok (some (wr.after w.store.data))) :
    (l.isReady (wr.after w.store.data) = l.isReady w.store.data ∧
      (Desk.put wr).run w = .ok true (w.withData (wr.after w.store.data))) ∨
    ∃ put, HasRoom react put ∧ (Desk.put wr).run w
      = (Engine.evaluate enginePart put isShown l.key >>= fun _ => pure true).run
          (w.withData (wr.after w.store.data)) := by
  have hroom : (Desk.put wr).run w
      = (perform react (188 + w.store.watchings.length + 1 + 1) wr).run w := by
    show (write react wr).run w = _
    rw [run_write, nesting_eq]
  rw [hroom]
  rcases h.concerned_cases wr with hnobody | ⟨sub, hsubs, hone, howner, hpaths⟩
  · refine Or.inl ⟨h.isReady_eq_of_nobody hl hopen hwr hnobody, ?_⟩
    exact run_perform_of_nobody react _ hsome (by rw [captureFor_eq, hnobody, List.map_nil])
  · have hcapture : w.store.captureFor wr = [sub.capture w.store.data] := by
      rw [captureFor_eq, hone, List.map_singleton]
    rw [run_perform_of_one react _ hsome hcapture]
    cases hnews : (sub.capture w.store.data).news? (wr.after w.store.data) wr with
    | none =>
      refine Or.inl ⟨Eq.symm (Lookup.FindsSame.isReady_eq fun path hpath => ?_), ?_⟩
      · -- simple values that are taken for the same are the same
        exact Value.eq_of_sameValue
          ((news?_eq_none_iff hpaths).mp hnews path (List.mem_eraseDups.mpr hpath)) (hsimple path hpath)
      · rw [tell_bind_of_no_news (w := w.withData (wr.after w.store.data)) hnews]
        rfl
    | some news =>
      refine Or.inr ⟨perform react (188 + w.store.watchings.length + 1), hasRoom_perform react _, ?_⟩
      have hactive : (w.withData (wr.after w.store.data)).store.isActive sub.ticket = true := by
        refine isActive_of_mem ?_
        show sub ∈ w.store.subscriptions
        rw [hsubs]
        exact List.mem_singleton_self sub
      rw [tell_bind_of_news (c := sub.capture w.store.data) hactive hnews]
      show (Engine.evaluate enginePart _ isShown sub.owner >>= fun _ => pure true).run _ = _
      rw [howner]

/-- **A write at a desk whose worker is started.** -/
theorem Watches.yields_put (h : Watches l w) (htable : Lookup.AreDisjoint [l]) (hwr : wr.IsWhole)
    (hplain : wr.LeavesPlain) (hsimple : l.IsSimple (wr.after w.store.data)) :
    (Desk.put wr).Yields w (Follows l wr w) := by
  obtain ⟨ticket, halone, hopen⟩ := h.alone
  rcases Write.change?_cases hwr.isPlaced w.store.data with ⟨hnone, hsame⟩ | hsome
  · have hfollows : Follows l wr w (w.withData (wr.after w.store.data)) :=
      h.follows_of_same ⟨ticket, by rw [hsame]; exact halone, hopen⟩ hsimple (by rw [hsame])
    rw [hsame] at hfollows
    exact ⟨false, w, (hasRoom_write react).run_of_none react hnone, hfollows⟩
  · have halone' := halone.withData hplain hsome
    rcases halone.run_put_cases (htable.whole l (List.mem_singleton_self l)) hopen hwr hsimple hsome
      with ⟨hready, hrun⟩ | ⟨put, hput, hrun⟩
    · exact ⟨true, _, hrun, h.follows_of_same ⟨ticket, halone', hopen⟩ hsimple hready⟩
    · obtain ⟨⟨⟩, w', hlook, hlooks⟩ := halone'.yields_evaluate_looks htable hsimple hput
      have hend : (Desk.put wr).run w = .ok true w' := hrun.trans (Run.run_bind_of_ok hlook)
      have hkept := keeps_put_alone hplain w halone
      rw [Run.outcome_of_ok hend] at hkept
      exact ⟨true, w', hend, hlooks.watches htable ⟨ticket, hkept, hopen⟩ hsimple,
        by rw [hlooks.store_eq], fun _ => hlooks.current_eq⟩

/-- Nothing has happened to what a lookup depends on, and its worker knows whether it is ready as well as
    before, or better. -/
structure Still (l : Lookup) (w w' : World String Desk) : Prop where
  /-- The lookup finds the same. -/
  same : l.FindsSame w'.store.data w.store.data
  /-- What the worker knows. -/
  knows : wasReady w' l.key = wasReady w l.key ∨ wasReady w' l.key = l.isReady w.store.data

theorem Still.refl (l : Lookup) (w : World String Desk) : Still l w w := ⟨fun _ _ => rfl, Or.inl rfl⟩

theorem Looks.still (h : Looks l w w') (htable : Lookup.AreDisjoint [l]) : Still l w w' :=
  ⟨by rw [h.store_eq]; exact findsSame_cleared htable w, Or.inr h.ready_eq⟩

theorem Leads.still {after : Object} (h : Leads key f after w w')
    (hf : ∀ worker, (f worker).wasReady = worker.wasReady)
    (hsame : l.FindsSame after w.store.data) : Still l w w' := by
  refine ⟨by rw [h.store_eq]; exact hsame, Or.inl ?_⟩
  unfold wasReady
  by_cases hkey : l.key = key
  · rw [hkey, h.self]
    cases worker? w key with
    | none => rfl
    | some worker => exact hf worker
  · rw [h.spares l.key hkey]

theorem wasReady_conclude (worker : Worker) (key : String) (result : LookupResult) :
    (worker.conclude key result).wasReady = worker.wasReady := by
  unfold Worker.conclude
  cases result.verdict <;> rfl

/-- Dismissing what was said. -/
theorem leads_dismiss (key : String) (w : World String Desk) :
    (dismiss key).Yields w (Leads key (fun worker => { worker with error := none }) w.store.data w) := by
  cases hworker : worker? w key with
  | none =>
    refine ⟨(), w, Engine.run_dismiss_of_none enginePart hworker, ⟨?_, fun _ _ => rfl⟩, rfl, rfl⟩
    rw [hworker]
    rfl
  | some worker =>
    rw [Run.Yields, dismiss, Engine.run_dismiss enginePart hworker]
    refine (leads_updateWorker key _ w).bind fun _ w₁ h₁ => ?_
    refine (leads_announce key w₁).mono fun w₂ h₂ => ?_
    have hboth := h₁.trans h₂
    rwa [show w₁.store.data = w.store.data by rw [h₁.store_eq]] at hboth

/-- An answer changes nothing that the lookup depends on. -/
theorem Alone.yields_complete_still (h : Alone l ticket w) (htable : Lookup.AreDisjoint [l]) (id : Nat)
    (result : LookupResult) : (complete id result).Yields w (Still l w) := by
  cases herrand : w.parts.engine.errand? id with
  | none => exact ⟨(), w, run_complete_of_none herrand result, .refl l w⟩
  | some errand =>
    obtain rfl : errand.id = id := by simpa using List.find?_some herrand
    cases hawaited : isAwaited w errand with
    | false =>
      refine (yields_complete_of_errand herrand hawaited result).mono fun w' hunmoved => ?_
      refine ⟨fun path _ => by rw [hunmoved.store_eq], Or.inl ?_⟩
      unfold wasReady
      rw [hunmoved.worker_eq]
    | true =>
      obtain ⟨worker, hworker, hcurrent⟩ := (Option.any_eq_true _ _).mp hawaited
      have hlookup : worker.lookup = l := by simpa using h.known hworker
      refine (leads_complete htable h.toProper herrand hworker hcurrent result).mono fun w' hleads => ?_
      refine hleads.still (fun worker => wasReady_conclude _ _ _) ?_
      rw [hlookup]
      exact findsSame_filled htable _ _ _

/-- **A step that neither writes nor closes the worker** leaves alone what the lookup depends on. -/
theorem Alone.yields_event_still (h : Alone l ticket w) (htable : Lookup.AreDisjoint [l])
    (hsimple : l.IsSimple w.store.data) {e : Event} (he : ∀ wr, e ≠ .write wr)
    (hopen : e ≠ .close l.key) : (e.runWith Desk.put).Yields w (Still l w) := by
  cases e with
  | write wr => exact absurd rfl (he wr)
  | evaluate key =>
    by_cases hkey : key = l.key
    · rw [hkey]
      exact (h.yields_evaluate_looks htable hsimple (hasRoom_write react)).mono
        fun _ hlooks => hlooks.still htable
    · exact ⟨(), w, Engine.run_evaluate_of_none enginePart (h.worker?_of_ne hkey), .refl l w⟩
  | dismiss key =>
    exact (leads_dismiss key w).mono fun _ hleads => hleads.still (fun _ => rfl) fun _ _ => rfl
  | hide path => exact ⟨(), _, rfl, fun _ _ => rfl, Or.inl rfl⟩
  | reveal path => exact ⟨(), _, rfl, fun _ _ => rfl, Or.inl rfl⟩
  | complete id result => exact h.yields_complete_still htable id result
  | close key =>
    have hne : key ≠ l.key := fun hsame => hopen (hsame ▸ rfl)
    exact ⟨(), w, Engine.run_closeWorker_of_none enginePart (h.worker?_of_ne hne), .refl l w⟩

/-! ## The start -/

/-- A worker that has just got its ticket. -/
theorem Alone.opened (h : Alone l none w) {worker : Worker} (hworker : worker? w l.key = some worker)
    (hlookup : worker.lookup = l) (hnone : worker.ticket = none) :
    Alone l (some w.store.nextTicket) (openedWorld w l.key worker) where
  toProper := givesTickets_proper l.key worker w h.toProper hworker hnone
  lookup_eq key := (Engine.lookup?_changeWorker
    (f := fun worker => { worker with ticket := some w.store.nextTicket }) (fun _ => rfl)
    w.parts.engine key).trans (h.lookup_eq key)
  ticket_eq := by
    show (w.parts.engine.changeWorker l.key fun worker =>
      { worker with ticket := some w.store.nextTicket }).ticket? l.key = _
    rw [Engine.ticket?_changeWorker_self, show w.parts.engine.workers.get? l.key = _ from hworker]
    rfl
  subscriptions_eq := by
    show w.store.subscriptions ++ [worker.subscription l.key w.store.nextTicket] = _
    rw [h.subscriptions_eq, Worker.subscription, hlookup]
    rfl

/-- **A worker is started.** -/
theorem Alone.yields_startWorker (h : Alone l ticket w) (htable : Lookup.AreDisjoint [l])
    (hsimple : l.IsSimple w.store.data) :
    (Engine.startWorker enginePart Desk.put isShown id l.key).Yields w (Watches l) := by
  obtain ⟨worker, hworker, hlookup, hticket⟩ := h.exists_worker
  -- wherever it looks, it keeps its ticket
  have hlook : ∀ {ticket w}, Alone l ticket w → (ticket.isSome = true ∨ l.dependsOn = []) →
      l.IsSimple w.store.data →
      (Engine.evaluate enginePart Desk.put isShown l.key).Yields w (Watches l) := by
    intro ticket w halone hopen hdata
    have hroom : HasRoom react Desk.put := hasRoom_write react
    obtain ⟨⟨⟩, w', hrun, hlooks⟩ := halone.yields_evaluate_looks htable hdata hroom
    have hkeeps : (Engine.evaluate enginePart Desk.put isShown l.key).Keeps (Alone l ticket) :=
      Engine.keeps_evaluate (fun _ _ => keeps_put_alone trivial) (fun _ => keeps_update_alone) l.key
    have hkept := hkeeps w halone
    rw [Run.outcome_of_ok hrun] at hkept
    exact ⟨(), w', hrun, hlooks.watches htable ⟨ticket, hkept, hopen⟩ hdata⟩
  rw [Run.Yields, run_startWorker hworker]
  split
  · next hneeds =>
    rw [Bool.and_eq_true, Option.isNone_iff_eq_none, hticket] at hneeds
    obtain rfl : ticket = none := hneeds.1
    exact hlook (h.opened hworker hlookup hticket) (Or.inl rfl) hsimple
  · next hneeds =>
    refine hlook h ?_ hsimple
    -- it has a ticket already, or needs none
    rw [hticket, hlookup] at hneeds
    cases ticket with
    | some number => exact Or.inl rfl
    | none => exact Or.inr (by simpa using hneeds)

/-- **The start.** -/
theorem Alone.yields_start (h : Alone l ticket w) (htable : Lookup.AreDisjoint [l])
    (hsimple : l.IsSimple w.store.data) : start.Yields w (Watches l) := by
  have hround : ∀ key rest w, ((∃ ticket, Alone l ticket w) ∧ l.IsSimple w.store.data ∧
      (l.key ∈ key :: rest ∨ Watches l w)) →
      (Engine.startWorker enginePart Desk.put isShown id key).Yields w fun w' =>
        (∃ ticket, Alone l ticket w') ∧ l.IsSimple w'.store.data ∧ (l.key ∈ rest ∨ Watches l w') := by
    rintro key rest w ⟨⟨ticket, halone⟩, hdata, hdone⟩
    by_cases hkey : key = l.key
    · rw [hkey]
      refine (halone.yields_startWorker htable hdata).mono fun w' hw' => ?_
      obtain ⟨ticket, halone', -⟩ := hw'.alone
      exact ⟨⟨ticket, halone'⟩, hw'.simple, Or.inr hw'⟩
    · refine ⟨(), w, Engine.run_startWorker_of_none enginePart (halone.worker?_of_ne hkey) id,
        ⟨ticket, halone⟩, hdata, hdone.imp_left fun hmem => ?_⟩
      exact (List.mem_cons.mp hmem).resolve_left (Ne.symm hkey)
  obtain ⟨worker, hworker, -⟩ := h.exists_worker
  have hkeys : l.key ∈ w.parts.engine.workers.keys :=
    Entries.mem_keys_of_mem (Entries.mem_of_get? hworker)
  have hall : (w.parts.engine.workers.keys.forM
      (Engine.startWorker enginePart Desk.put isShown id)).Yields w fun w' =>
        (∃ ticket, Alone l ticket w') ∧ l.IsSimple w'.store.data ∧ (l.key ∈ [] ∨ Watches l w') :=
    Run.yields_forM (I := fun rest w => (∃ ticket, Alone l ticket w) ∧ l.IsSimple w.store.data ∧
      (l.key ∈ rest ∨ Watches l w)) hround ⟨⟨ticket, h⟩, hsimple, Or.inl hkeys⟩
  exact hall.mono fun w' hw' => hw'.2.2.resolve_left List.not_mem_nil

end Desk
end DynamicForms
