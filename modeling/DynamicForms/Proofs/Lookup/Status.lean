import DynamicForms.Proofs.Lookup.Currency
import DynamicForms.Proofs.Lookup.Requests
import DynamicForms.Proofs.Lookup.Steady

/-!
# `DynamicForms.Proofs.Lookup.Status` — what a form shows of its lookups

A worker that takes an answer enters the phase that the answer leads to before it writes anything. So it
is steady when it writes, and the turns that follow leave it steady. With that every step of a run leaves
every worker steady that was not closed.

Between the steps every such worker fits the data besides, and its current request is the last one that
the journal has of it. Together this says that the status of a lookup describes what the lookup depends
on now: it is idle, it waits, it loads, or it shows what the answer to the last request has brought.

## Contents
- **Answers.** `steady_take`, `steady_receive`, `steady_complete`.
- **Steps.** `steady_event`.
- **The start.** `Desk.Begun`, `steady_start`.
- **Runs with a journal.** `Ledger.answers`, `Journal.Tidy`, `Tidy.step`, `exists_tidy_start`,
  `exists_tidy_run`.
- `Worker.Describes`, `Desk.status_of_run`.
-/

namespace DynamicForms

open Value (Object)
open Path (IsWhole)

/-- A request that is current after it was answered is marked as answered. -/
theorem Worker.exists_answered {worker : Worker} {id : Nat}
    (h : (worker.noteAnswered id).isCurrent id = true) :
    ∃ request, (worker.noteAnswered id).current = some request ∧ request.id = id ∧
      request.answered = true := by
  unfold Worker.isCurrent Worker.noteAnswered at h
  unfold Worker.noteAnswered
  cases hcurrent : worker.current with
  | none => simp [hcurrent] at h
  | some request =>
    simp only [hcurrent, Option.map_some, beq_iff_eq] at h ⊢
    by_cases hid : request.id = id
    · exact ⟨_, rfl, by simp [hid], by simp [hid]⟩
    · rw [if_neg hid] at h
      exact absurd h hid

theorem Worker.isCurrent_noteAnswered (worker : Worker) (id : Nat) :
    (worker.noteAnswered id).isCurrent id = worker.isCurrent id := by
  unfold Worker.isCurrent Worker.noteAnswered
  cases worker.current with
  | none => rfl
  | some request =>
    simp only [Option.map_some]
    split <;> rfl

namespace Desk

variable {answers : Nat → LookupResult → Prop} {lookups : String → Option Lookup}
  {closed : String → Prop} {w w' : World String Desk} {subs : List (Subscription String)}
  {key : String} {worker : Worker} {put : Writer String Desk} {data : Object} {rest : List String}
  {targets : List Reference} {content : Reference → Option Value} {result : LookupResult}

/-! ## Answers -/

theorem keepsSteady_announce (answers : Nat → LookupResult → Prop) (key : String)
    (w : World String Desk) :
    (Engine.announce enginePart key : Shift Unit).Yields w (KeepsSteady answers w) :=
  ⟨(), _, run_announce key w, fun _ => id⟩

theorem steady_writeAll (answers : Nat → LookupResult → Prop)
    (htargets : ∀ target ∈ targets, IsWhole target.path)
    (hw : Kept lookups subs w) :
    (Engine.writeTargets (write guarded) isShown targets content).RefusedOr w
      (KeepsSteady answers w) := by
  refine (refusedOr_writeTargets (I := fun w' => Kept lookups subs w' ∧ KeepsSteady answers w w')
    (fun target htarget v w' _ h => ?_) ⟨hw, .refl w⟩).mono fun _ h => h.2
  have hwhole := isWhole_set (htargets target htarget) v
  refine ((refusedOr_write hwhole h.1.orderly).and (steady_write answers hwhole h.1.orderly)).mono ?_
  rintro w'' ⟨⟨hw'', hsubs⟩, hkeeps⟩
  exact ⟨⟨hw'', hsubs.trans h.1.subscriptions_eq⟩, h.2.trans hkeeps⟩

/-- A worker that shows what an answer has brought is steady, and stays so while it writes. -/
theorem steady_take (hw : Kept lookups subs w) (htargets : ∀ target ∈ targets, IsWhole target.path)
    (error : Option String) (phase : Phase)
    (hshows : ∀ worker, worker? w key = some worker →
      ({ worker with error, phase } : Worker).Steady answers) :
    (Engine.updateWorker enginePart key (fun worker => { worker with error }) >>= fun _ =>
        Engine.enterPhase enginePart key phase >>= fun _ =>
        Engine.writeTargets (write guarded) isShown targets content : Shift Unit).RefusedOr w
      fun w' => KeepsSteady answers w w' ∧ Steady answers w' key := by
  have hsay := alters_updateWorker key (fun worker => { worker with error }) w
  refine ((quiet_updateWorker (f := fun worker => { worker with error }) (fun _ => ⟨rfl, rfl, rfl⟩)
    (fun _ => rfl) key hw).and (Or.inr hsay)).bind ?_
  rintro - w₁ ⟨hw₁, h₁⟩
  refine ((yields_kept (yields_enterPhase key phase) hw₁).and
    (Or.inr (alters_enterPhase key phase w₁))).bind ?_
  rintro - w₂ ⟨hw₂, h₂⟩
  have hall := h₁.trans h₂
  have hown : Steady answers w₂ key := hall.steady fun worker hworker _ => hshows worker hworker
  refine (steady_writeAll answers htargets hw₂).mono fun w₃ hkeeps => ?_
  exact ⟨(hall.spares.keepsSteady fun _ => hown).trans hkeeps, hkeeps key hown⟩

/-- Taking the answer to the current request leaves the worker steady, and whoever was. -/
theorem steady_receive {errand : Errand} (hw : Kept lookups subs w)
    (htargets : ∀ target ∈ targets, IsWhole target.path)
    (hanswered : ∀ worker, worker? w errand.worker = some worker → ∃ request,
      worker.current = some request ∧ request.answered = true ∧ answers request.id result) :
    (Engine.receive enginePart (write guarded) isShown errand targets result).RefusedOr w
      fun w' => KeepsSteady answers w w' ∧ Steady answers w' errand.worker := by
  have hsettle : (settle (write guarded) errand.worker targets result).RefusedOr w
      fun w' => KeepsSteady answers w w' ∧ Steady answers w' errand.worker := by
    unfold settle
    -- the phase and what is said are settled before anything is written
    rcases result.verdict_cases with ⟨hbrings, found, hverdict⟩ | ⟨hbrings, hverdict⟩
    · rw [hverdict]
      refine steady_take hw htargets none .success fun worker hworker => ?_
      obtain ⟨request, hcurrent, hdone, hanswer⟩ := hanswered worker hworker
      exact .settled hcurrent hdone hanswer ⟨by simp [hbrings], nofun⟩
    · rw [hverdict]
      refine steady_take hw htargets _ .error fun worker hworker => ?_
      obtain ⟨request, hcurrent, hdone, hanswer⟩ := hanswered worker hworker
      refine .settled hcurrent hdone hanswer ⟨by simp [hbrings], fun hmessage => ?_⟩
      exact ⟨hbrings, (Option.some.inj hmessage).symm⟩
  rw [receive_eq]
  refine hsettle.bind fun _ w₁ h₁ => Or.inr ?_
  refine (alters_updateWorker errand.worker
    (fun worker => { worker with lastKey := some errand.key }) w₁).bind fun _ w₂ h₂ => ?_
  have hkeeps₂ : KeepsSteady answers w₁ w₂ :=
    h₂.keepsSteady fun _ => ⟨rfl, rfl, rfl, rfl, Or.inr rfl⟩
  refine (keepsSteady_announce answers errand.worker w₂).mono fun w₃ hkeeps₃ => ?_
  have hkeeps := hkeeps₂.trans hkeeps₃
  exact ⟨h₁.1.trans hkeeps, hkeeps _ h₁.2⟩

theorem alters_land (errand : Errand) (w : World String Desk) :
    Alters errand.worker (·.noteAnswered errand.id) w (withEngine w (w.parts.engine.land errand)) :=
  ⟨worker?_changeWorker_self w _ (·.noteAnswered errand.id),
    fun _ hne => worker?_changeWorker_of_ne hne w (·.noteAnswered errand.id)⟩

/-- An answer that is taken leaves its worker steady, and whoever was before it came. -/
theorem steady_receive_landed {errand : Errand} {old : Worker} (hw : Kept lookups subs w)
    (hold : worker? w errand.worker = some old)
    (hcurrent : (old.noteAnswered errand.id).isCurrent errand.id = true)
    (hanswers : answers errand.id result) :
    (Engine.receive enginePart (write guarded) isShown errand
      (old.noteAnswered errand.id).lookup.targets result).RefusedOr
      (withEngine w (w.parts.engine.land errand)) (KeepsSteady answers w) := by
  have halters := alters_land errand w
  have hworker : worker? (withEngine w (w.parts.engine.land errand)) errand.worker
      = some (old.noteAnswered errand.id) := by
    rw [halters.self, hold]
    rfl
  have hlanded : Kept lookups subs (withEngine w (w.parts.engine.land errand)) :=
    ⟨hw.orderly.carry (carries_land w errand) rfl, hw.subscriptions_eq⟩
  have hanswered : ∀ worker, worker? (withEngine w (w.parts.engine.land errand)) errand.worker
      = some worker → ∃ request, worker.current = some request ∧ request.answered = true ∧
        answers request.id result := by
    intro worker hsome
    obtain rfl := Option.some.inj (hworker.symm.trans hsome)
    obtain ⟨request, hrequest, hid, hdone⟩ := Worker.exists_answered hcurrent
    exact ⟨request, hrequest, hdone, hid ▸ hanswers⟩
  refine (steady_receive hlanded (hlanded.orderly.books.whole hworker).targets hanswered).mono ?_
  intro w' hw' other hother
  by_cases ho : other = errand.worker
  · rw [ho]
    exact hw'.2
  · exact hw'.1 other (steady_congr (halters.spares other ho) hother)

/-- **An answer** leaves steady whoever was, once it is counted among the answers. -/
theorem steady_complete (hw : Kept lookups subs w) (id : Nat) (result : LookupResult)
    (hanswers : w.parts.engine.isInFlight id = true → answers id result) :
    (Engine.complete enginePart (write guarded) isShown id result).RefusedOr w
      (KeepsSteady answers w) := by
  cases herrand : w.parts.engine.errand? id with
  | none => exact Or.inr ⟨(), w, run_complete_of_none herrand result, .refl w⟩
  | some errand =>
    obtain rfl : errand.id = id := by simpa using List.find?_some herrand
    have halters := alters_land errand w
    cases hworker : worker? (withEngine w (w.parts.engine.land errand)) errand.worker with
    | none =>
      refine Or.inr ⟨(), _, run_complete_of_gone herrand hworker result, ?_⟩
      refine halters.spares.keepsSteady fun _ worker hsome => ?_
      cases hworker.symm.trans hsome
    | some worker =>
      obtain ⟨old, hold, rfl⟩ := Option.map_eq_some_iff.mp (halters.self.symm.trans hworker)
      rw [Run.RefusedOr, Run.IsRefused, Run.Yields, run_complete_of_some herrand hworker]
      cases hcurrent : (old.noteAnswered errand.id).isCurrent errand.id with
      | false =>
        -- an answer that comes too late marks nothing
        refine Or.inr ⟨(), _, rfl, halters.spares.keepsSteady (steady_congr ?_)⟩
        rw [Worker.isCurrent_noteAnswered] at hcurrent
        rw [hworker, hold]
        exact congrArg some (Worker.noteAnswered_of_not_current hcurrent)
      | true =>
        refine steady_receive_landed hw hold hcurrent (hanswers ?_)
        rw [Engine.isInFlight, herrand]
        rfl

/-! ## Steps -/

theorem keepsSteady_dismiss (key : String) (w : World String Desk) :
    (dismiss key).Yields w (KeepsSteady answers w) := by
  cases hworker : worker? w key with
  | none => exact ⟨(), w, Engine.run_dismiss_of_none enginePart hworker, .refl w⟩
  | some worker =>
    have hforget := alters_updateWorker key (fun worker => { worker with error := none }) w
    rw [Run.Yields, dismiss, Engine.run_dismiss enginePart hworker]
    exact hforget.bind fun _ w₁ h₁ => (keepsSteady_announce answers key w₁).mono fun _ h =>
      (h₁.keepsSteady fun _ => ⟨rfl, rfl, rfl, rfl, Or.inl rfl⟩).trans h

theorem spares_closeWorker (key : String) (w : World String Desk) :
    (Engine.closeWorker enginePart key : Shift Unit).Yields w (Spares key w) := by
  cases hworker : worker? w key with
  | none => exact ⟨(), w, Engine.run_closeWorker_of_none enginePart hworker, fun _ _ => rfl⟩
  | some worker =>
    exact ⟨(), _, run_closeWorker hworker, fun _ hne => worker?_closedWorld_of_ne hne w worker⟩

/-- **A step that is not refused** leaves steady whoever was and was not closed. -/
theorem steady_event (answers : Nat → LookupResult → Prop) {e : Event} (he : e.IsWhole)
    (hw : UpToDate lookups closed w) (hsimple : isSimple w = true)
    (hanswers : ∀ id result, e = .complete id result → w.parts.engine.isInFlight id = true →
      answers id result) :
    (e.runWith (write guarded)).RefusedOr w fun w' =>
      ∀ key, e ≠ .close key → Steady answers w key → Steady answers w' key := by
  have hkept := hw.kept hsimple
  -- all steps but one leave everybody steady
  have hall : ∀ {m : Shift Unit}, m.RefusedOr w (KeepsSteady answers w) → m.RefusedOr w fun w' =>
      ∀ key, e ≠ .close key → Steady answers w key → Steady answers w' key := fun hm =>
    hm.mono fun _ hkeeps key _ => hkeeps key
  cases e with
  | write wr =>
    exact hall ((steady_write answers he hkept.orderly).bind fun _ w' h => Or.inr ⟨(), w', rfl, h⟩)
  | evaluate key =>
    exact hall (steady_evaluate clears_write clearsSteadily_write (hkept.orderly.weaken key)
      fun _ _ _ _ => trivial)
  | dismiss key => exact hall (Or.inr (keepsSteady_dismiss key w))
  | hide path => exact hall (Or.inr ⟨(), _, rfl, fun _ => id⟩)
  | reveal path => exact hall (Or.inr ⟨(), _, rfl, fun _ => id⟩)
  | complete id result => exact hall (steady_complete hkept id result (hanswers id result rfl))
  | close key =>
    refine Or.inr ((spares_closeWorker key w).mono fun w' hspares other hne => ?_)
    exact steady_congr (hspares other fun hsame => hne (hsame ▸ rfl))

/-! ## The start -/

/-- What holds while workers are being started: some are still to be started and have done nothing, and
    the others are steady. -/
structure Begun (answers : Nat → LookupResult → Prop) (rest : List String) (w : World String Desk) :
    Prop where
  /-- Those that are still to be started. -/
  fresh : ∀ {key worker}, key ∈ rest → worker? w key = some worker →
    worker.wasReady = false ∧ worker.current = none
  /-- Those that have been started. -/
  steady : ∀ {key}, key ∉ rest → Steady answers w key

/-- A worker is steady after its first turn, and no other has changed. -/
theorem steady_evaluate_of_fresh (answers : Nat → LookupResult → Prop)
    (hworker : worker? w key = some worker) (hfresh : worker.wasReady = false)
    (hnone : worker.current = none) {found : Option String}
    (hkey : worker.lookup.requestKey? w.store.data = .ok found) :
    (Engine.evaluate enginePart put isShown key).Yields w
      fun w' => Spares key w w' ∧ Steady answers w' key := by
  rw [Run.Yields, Engine.run_evaluate enginePart hworker hkey]
  cases found with
  | none => exact steady_standBy_of_fresh hworker hfresh
  | some requestKey =>
    exact (steady_request answers key worker requestKey w).mono fun _ h => ⟨h.1, h.2 (Or.inl hnone)⟩

/-- One more worker is steady when it was started. -/
theorem Begun.next (h : Begun answers (key :: rest) w) (hnodup : (key :: rest).Nodup)
    (hspares : Spares key w w') (hsteady : Steady answers w' key) : Begun answers rest w' where
  fresh {other worker} ho hworker := by
    have hne : other ≠ key := by
      rintro rfl
      exact (List.nodup_cons.mp hnodup).1 ho
    exact h.fresh (List.mem_cons_of_mem _ ho) ((hspares other hne).symm.trans hworker)
  steady {other} ho := by
    by_cases hsame : other = key
    · rw [hsame]
      exact hsteady
    · refine steady_congr (hspares other hsame) (h.steady fun hmem => ?_)
      exact (List.mem_cons.mp hmem).elim hsame ho

/-- **One worker is started.** -/
theorem begun_startWorker (hdata : SimpleIn lookups data)
    (hw : Starting lookups data (key :: rest) w) (h : Begun answers (key :: rest) w) :
    (Engine.startWorker enginePart put isShown id key).Yields w (Begun answers rest) := by
  cases hworker : worker? w key with
  | none =>
    refine ⟨(), w, Engine.run_startWorker_of_none enginePart hworker id, ?_⟩
    refine h.next hw.nodup (fun _ _ => rfl) fun worker hsome => ?_
    cases hworker.symm.trans hsome
  | some worker =>
    obtain ⟨hfresh, hnone⟩ := h.fresh List.mem_cons_self hworker
    obtain ⟨found, hkey⟩ : ∃ found, worker.lookup.requestKey? w.store.data = .ok found := by
      refine Lookup.exists_requestKey? ?_
      rw [hw.data_eq]
      exact hdata key worker.lookup (by rw [← hw.orderly.books.roster key, hworker]; rfl)
    rw [Run.Yields, run_startWorker hworker]
    split
    · have hopened : worker? (openedWorld w key worker) key
          = some { worker with ticket := some w.store.nextTicket } := by
        rw [worker?_openedWorld_self, hworker]
        rfl
      refine (steady_evaluate_of_fresh answers hopened hfresh hnone hkey).mono ?_
      rintro w' ⟨hspares, hsteady⟩
      have hopens : Spares key w (openedWorld w key worker) :=
        fun other hne => worker?_openedWorld_of_ne hne w worker
      exact h.next hw.nodup (hopens.trans hspares) hsteady
    · refine (steady_evaluate_of_fresh answers hworker hfresh hnone hkey).mono ?_
      rintro w' ⟨hspares, hsteady⟩
      exact h.next hw.nodup hspares hsteady

/-- **The start** leaves every worker steady. -/
theorem steady_start (answers : Nat → LookupResult → Prop) {table : List Lookup}
    (hwhole : ∀ l ∈ table, l.IsWhole)
    (hdata : ∀ l ∈ table, ∀ path ∈ l.dependencyPaths,
      (Path.read (.object data) path).isSimple = true)
    (channel : Channel) (wire : Wire) (hidden : Option (List String)) :
    start.Yields (world table channel wire hidden data) fun w => ∀ key, Steady answers w key := by
  have hbegun : Begun answers (Engine.ofLookups table).workers.keys
      (world table channel wire hidden data) := by
    refine ⟨fun {key worker} _ hworker => ?_, fun {key} hnot worker hworker => ?_⟩
    · obtain ⟨l, -, rfl⟩ := exists_of_worker?_world hworker
      exact ⟨rfl, rfl⟩
    · rw [← Entries.get?_eq_none_iff] at hnot
      cases hnot.symm.trans hworker
  have hsimple : SimpleIn (roster table) data := fun _ l hl => hdata l (mem_of_roster hl)
  have hloop : ((Engine.ofLookups table).workers.keys.forM
      (Engine.startWorker enginePart put isShown id)).Yields (world table channel wire hidden data)
        fun w => Starting (roster table) data [] w ∧ Begun answers [] w := by
    refine Run.yields_forM (I := fun rest w => Starting (roster table) data rest w ∧
      Begun answers rest w) (fun key rest w h => ?_)
      ⟨starting_world hwhole channel wire hidden data, hbegun⟩
    obtain ⟨⟨⟩, w', hrun, hstarting⟩ := yields_startWorker hsimple h.1
    exact ⟨(), w', hrun, hstarting, (begun_startWorker hsimple h.1 h.2).of_run hrun⟩
  exact hloop.mono fun w hw key => hw.2.steady List.not_mem_nil

end Desk

/-! ## Runs with a journal -/

namespace Ledger

variable {b b' : Ledger} {closed : String → Prop} {r : Record}

/-- The answers that came in. -/
def answers (b : Ledger) (id : Nat) (result : LookupResult) : Prop :=
  .answered id result ∈ b.records

theorem Step.mem_records (h : Step closed b b') (hr : r ∈ b.records) : r ∈ b'.records := by
  cases h with
  | look hlook =>
    cases hlook with
    | rest key => exact List.mem_append_left _ hr
    | stay hcurrent => exact List.mem_append_left _ hr
    | ask hlookup hneeds hnew => exact List.mem_append_left _ (List.mem_append_left _ hr)
  | land hin result => exact List.mem_append_left _ hr
  | shut hclosed => exact hr

/-- What was written down stays. -/
theorem mem_records_of_reaches (h : Relation.ReflTransGen (Step closed) b b')
    (hr : r ∈ b.records) : r ∈ b'.records := by
  induction h with
  | refl => exact hr
  | tail _ hstep ih => exact hstep.mem_records ih

end Ledger

namespace Journal

/-- Steps at a desk with a journal, one after the other. -/
def run (events : List Desk.Event) : Shift Unit := events.forM step

theorem mirrors_run (events : List Desk.Event) :
    Run.Mirrors Journal.desk (run events) (Desk.run events) :=
  Run.mirrors_forM mirrors_step events

/-- What holds between the steps of a run with a journal, as far as workers are not closed: every worker
    fits the data, the ledger is in order, and every worker is steady. -/
structure Tidy (table : List Lookup) (closed : String → Prop) (v : World String Journal) : Prop where
  /-- Nobody is behind. -/
  upToDate : Desk.UpToDate (Desk.roster table) closed (v.mapParts Journal.desk)
  /-- The ledger. -/
  inOrder : v.parts.ledger.InOrder (Desk.roster table) closed
  /-- Where lookups stand. -/
  steady : ∀ {key}, ¬ closed key →
    Desk.Steady v.parts.ledger.answers (v.mapParts Journal.desk) key

variable {table : List Lookup} {closed : String → Prop} {v v' : World String Journal}
  {e : Desk.Event} {events : List Desk.Event} {data : Object}

/-- The answer to a request in flight is written down. -/
theorem answers_of_complete {id : Nat} {result : LookupResult}
    (hrun : (complete id result).run v = .ok () v')
    (hflies : v.parts.desk.engine.isInFlight id = true) : v'.parts.ledger.answers id result := by
  obtain ⟨errand, herrand⟩ := Option.isSome_iff_exists.mp hflies
  obtain rfl : errand.id = id := by simpa using List.find?_some herrand
  have hreaches : Journal.Reaches Ledger.Look (v.parts.ledger.land errand result)
      ((complete errand.id result).outcome v) := reaches_complete herrand
  rw [Run.outcome_of_ok hrun] at hreaches
  have hsteps : Relation.ReflTransGen (Ledger.Step fun _ => False)
      (v.parts.ledger.land errand result) v'.parts.ledger :=
    Relation.ReflTransGen.mono (fun _ _ => Ledger.Step.look) _ _ hreaches
  exact Ledger.mem_records_of_reaches hsteps (List.mem_append_right _ List.mem_cons_self)

/-- **A step that is not refused** leaves everything tidy. -/
theorem Tidy.step (h : Tidy table closed v) (he : e.IsWhole)
    (hclosed : ∀ key, e = .close key → closed key)
    (hrefused : ¬ (Desk.guard >>= fun _ => e.runWith (write Desk.guarded)).IsRefused
      (v.mapParts Journal.desk)) :
    ∃ v', (Journal.step e).run v = .ok () v' ∧
      (Desk.guard >>= fun _ => e.runWith (write Desk.guarded)).run (v.mapParts Journal.desk)
        = .ok () (v'.mapParts Journal.desk) ∧ Tidy table closed v' := by
  cases hsimple : Desk.isSimple (v.mapParts Journal.desk) with
  | false => exact absurd (Desk.isRefused_of_guard hsimple _) hrefused
  | true =>
    rw [Run.IsRefused, Desk.run_of_guard hsimple] at hrefused
    rw [Desk.run_of_guard hsimple]
    obtain ⟨⟨⟩, w', hrun, huptodate⟩ :=
      (Desk.refusedOr_event he h.upToDate hsimple).resolve_left hrefused
    -- without guards the same happens, and with the journal as well
    have hsame := (Desk.follows_runWith Desk.follows_put e _).resolve_left hrefused
    obtain ⟨v', hstep, rfl⟩ := (mirrors_step e).run_eq_ok (hsame.trans hrun)
    have hreaches : Relation.ReflTransGen (Ledger.Step closed) v.parts.ledger v'.parts.ledger := by
      have hkeeps := keeps_step hclosed v Relation.ReflTransGen.refl
      rwa [Run.outcome_of_ok hstep] at hkeeps
    refine ⟨v', hstep, hrun, huptodate.mono ?_, h.inOrder.of_reaches hreaches, fun {key} hopen => ?_⟩
    · rintro key (hc | hclose)
      · exact hc
      · exact hclosed key hclose
    · have hsteady := (Desk.steady_event v'.parts.ledger.answers he h.upToDate hsimple
        ?_).resolve_left hrefused
      · refine hsteady.of_run hrun key (fun hclose => hopen (hclosed key hclose)) ?_
        exact (h.steady hopen).mono fun id result => Ledger.mem_records_of_reaches hreaches
      · rintro id result rfl hflies
        exact answers_of_complete hstep hflies

/-- **The start** leaves everything tidy. -/
theorem exists_tidy_start (hwhole : ∀ l ∈ table, l.IsWhole)
    (hdata : ∀ l ∈ table, ∀ path ∈ l.dependencyPaths,
      (Path.read (.object data) path).isSimple = true)
    (channel : Channel) (wire : Wire) (hidden : Option (List String)) (closed : String → Prop) :
    ∃ v, start.run (world table channel wire hidden data) = .ok () v ∧
      Desk.start.run (Desk.world table channel wire hidden data)
        = .ok () (v.mapParts Journal.desk) ∧ Tidy table closed v := by
  obtain ⟨⟨⟩, w, hrun, huptodate⟩ := Desk.yields_start hwhole hdata channel wire hidden
  obtain ⟨v, hstart, rfl⟩ := mirrors_start.run_eq_ok
    (w := world table channel wire hidden data) hrun
  have hreaches : Relation.ReflTransGen (Ledger.Step closed)
      (world table channel wire hidden data).parts.ledger v.parts.ledger := by
    have hkeeps := keeps_start (R := Ledger.Step closed) .look
      (world table channel wire hidden data) Relation.ReflTransGen.refl
    rwa [Run.outcome_of_ok hstart] at hkeeps
  refine ⟨v, hstart, hrun, huptodate.mono fun _ => False.elim,
    (inOrder_world table channel wire hidden data closed).of_reaches hreaches, fun {key} _ => ?_⟩
  exact (Desk.steady_start v.parts.ledger.answers hwhole hdata channel wire hidden).of_run hrun key

/-- **Steps that are not refused** leave everything tidy. -/
theorem exists_tidy_run (h : Tidy table closed v) (hevents : ∀ e ∈ events, e.IsWhole)
    (hclosed : ∀ key, .close key ∈ events → closed key)
    (hrefused : ¬ (Desk.runGuarded events).IsRefused (v.mapParts Journal.desk)) :
    ∃ v', (run events).run v = .ok () v' ∧ Tidy table closed v' := by
  induction events generalizing v with
  | nil => exact ⟨v, rfl, h⟩
  | cons e rest ih =>
    let first : Desk.Shift Unit := Desk.guard >>= fun _ => e.runWith (write Desk.guarded)
    replace hrefused : ¬ (first >>= fun _ => Desk.runGuarded rest).IsRefused
      (v.mapParts Journal.desk) := hrefused
    obtain ⟨v₁, hstep, hfirst, h₁⟩ := h.step (hevents e List.mem_cons_self)
      (fun key hclose => hclosed key (hclose ▸ List.mem_cons_self))
      fun hfirst => hrefused (hfirst.bind _)
    rw [Run.IsRefused, EStateM.run_bind, hfirst] at hrefused
    obtain ⟨v₂, hrest, h₂⟩ := ih h₁ (fun other ho => hevents other (List.mem_cons_of_mem _ ho))
      (fun key hkey => hclosed key (List.mem_cons_of_mem _ hkey)) hrefused
    refine ⟨v₂, ?_, h₂⟩
    show (Journal.step e >>= fun _ => run rest).run v = _
    rw [EStateM.run_bind, hstep]
    exact hrest

end Journal

/-! ## The status -/

/-- What a form shows of a lookup describes what the lookup depends on now, by what a ledger has of its
    worker. -/
structure Worker.Describes (worker : Worker) (data : Object) (b : Ledger) (key : String) : Prop where
  /-- A lookup that depends on nothing is idle, and nothing was asked for. -/
  idle : worker.lookup.dependsOn = [] → (worker.status data).phase = .idle ∧ b.asked key = []
  /-- It waits exactly if it depends on something and is not ready. -/
  waiting_iff : (worker.status data).phase = .waiting ↔
    worker.lookup.dependsOn ≠ [] ∧ worker.lookup.isReady data = false
  /-- Then it has no current request. -/
  current_eq_none : worker.lookup.isReady data = false → worker.current = none
  /-- If it is ready, the request that it asked for last is its current one, under the present key. -/
  current_eq_last : worker.lookup.isReady data = true → ∃ errand answered,
    (b.asked key).getLast? = some errand ∧
      worker.current = some ⟨errand.id, errand.key, answered⟩ ∧
      worker.lookup.requestKey? data = .ok (some errand.key)
  /-- If it is ready, it is loading exactly as long as that request was not answered. -/
  phase_eq_loading_iff : worker.lookup.isReady data = true → ∀ {errand},
    (b.asked key).getLast? = some errand →
    ((worker.status data).phase = .loading ↔ ∀ result, ¬ b.answers errand.id result)
  /-- It is said to be loading exactly if it is. -/
  loading_iff : (worker.status data).loading = true ↔ (worker.status data).phase = .loading
  /-- If it is ready and the request was answered, it shows what the answer has brought. -/
  phase_eq_of_answers : worker.lookup.isReady data = true → ∀ {errand result},
    (b.asked key).getLast? = some errand → b.answers errand.id result →
    (worker.status data).phase = if result.bringsData then .success else .error
  /-- Something is said only about an answer that brought no data, and it is what that answer says. -/
  error_eq : ∀ {message}, (worker.status data).error = some message →
    (worker.status data).phase = .error ∧ ∃ errand result,
      (b.asked key).getLast? = some errand ∧ b.answers errand.id result ∧
      result.bringsData = false ∧ message = LookupResult.complaint result.response?

section

variable {table : List Lookup} {closed : String → Prop} {v : World String Journal} {key : String}
  {worker : Worker}

/-- Nothing was asked for where nothing is depended on. -/
theorem Ledger.Sound.asked_eq_nil {b : Ledger} (h : b.Sound) {l : Lookup}
    (hlookup : b.lookup? key = some l) (hnothing : l.dependsOn = []) : b.asked key = [] := by
  refine List.eq_nil_iff_forall_not_mem.mpr fun errand hasked => ?_
  obtain ⟨hrecord, rfl⟩ := Ledger.mem_asked.mp hasked
  obtain ⟨other, hother, hneeds, -⟩ := h.placed hrecord
  obtain rfl := Option.some.inj (hlookup.symm.trans hother)
  exact hneeds hnothing

namespace Journal

theorem Tidy.fits (h : Tidy table closed v) (hclosed : ¬ closed key)
    (hworker : Desk.worker? (v.mapParts Journal.desk) key = some worker) :
    worker.Fits v.store.data := by
  have hopen : worker.isOpen = true := h.upToDate.isOpen hworker hclosed
  rcases h.upToDate.caught key worker hworker hopen (Option.some_ne_none key) with
    hfits | ⟨_, howed, -⟩
  · exact hfits
  · cases howed

theorem Tidy.steady_worker (h : Tidy table closed v) (hclosed : ¬ closed key)
    (hworker : Desk.worker? (v.mapParts Journal.desk) key = some worker) :
    worker.Steady v.parts.ledger.answers :=
  h.steady hclosed worker hworker (h.upToDate.isOpen hworker hclosed)

/-- Once a lookup is ready there is a current request, and that is the last one. -/
theorem Tidy.exists_last (h : Tidy table closed v) (hclosed : ¬ closed key)
    (hworker : Desk.worker? (v.mapParts Journal.desk) key = some worker)
    (hready : worker.lookup.isReady v.store.data = true) :
    ∃ errand request, (v.parts.ledger.asked key).getLast? = some errand ∧
      worker.current = some request ∧ errand.id = request.id ∧ errand.key = request.key := by
  cases hsome : worker.current with
  | none =>
    rw [(h.fits hclosed hworker).current_eq_none_iff.mp hsome] at hready
    cases hready
  | some request =>
    obtain ⟨errand, hlast, hid, hkey⟩ :=
      h.inOrder.sound.current_last ((ledger_current? hworker).trans hsome)
    exact ⟨errand, request, hlast, rfl, hid, hkey⟩

/-- So the answers to the last request are the answers to the current one. -/
theorem Tidy.isLoading_eq_false_iff (h : Tidy table closed v) (hclosed : ¬ closed key)
    (hworker : Desk.worker? (v.mapParts Journal.desk) key = some worker)
    (hready : worker.lookup.isReady v.store.data = true) {errand : Errand}
    (hlast : (v.parts.ledger.asked key).getLast? = some errand) :
    worker.isLoading = false ↔ ∃ result, v.parts.ledger.answers errand.id result := by
  obtain ⟨other, request, hother, hsome, hid, -⟩ := h.exists_last hclosed hworker hready
  obtain rfl := Option.some.inj (hlast.symm.trans hother)
  have hanswered := h.inOrder.sound.answered_iff ((ledger_current? hworker).trans hsome)
  refine Iff.trans ?_ (hid ▸ hanswered)
  simp [Worker.isLoading, hsome]

/-- A worker whose last request was answered shows what the answer has brought. -/
theorem Tidy.exists_reflects (h : Tidy table closed v) (hclosed : ¬ closed key)
    (hworker : Desk.worker? (v.mapParts Journal.desk) key = some worker)
    (hready : worker.lookup.isReady v.store.data = true) (hdone : worker.isLoading = false) :
    ∃ errand result, (v.parts.ledger.asked key).getLast? = some errand ∧
      v.parts.ledger.answers errand.id result ∧ worker.Reflects result := by
  obtain ⟨errand, request, hlast, hsome, hid, -⟩ := h.exists_last hclosed hworker hready
  obtain ⟨-, result, hanswer, hresult⟩ := (h.steady_worker hclosed hworker).reflects hsome hdone
  exact ⟨errand, result, hlast, hid ▸ hanswer, hresult⟩

/-- **Where everything is tidy** the status of a worker describes what its lookup depends on. -/
theorem Tidy.describes (h : Tidy table closed v) (hclosed : ¬ closed key)
    (hworker : Desk.worker? (v.mapParts Journal.desk) key = some worker) :
    worker.Describes v.store.data v.parts.ledger key where
  idle hnothing := by
    have hnone : worker.current = none := by
      refine (h.fits hclosed hworker).current_eq_none_iff.mpr (Lookup.requestKey?_eq_none_iff.mp ?_)
      exact Lookup.requestKey?_of_no_dependencies hnothing v.store.data
    refine ⟨?_, h.inOrder.sound.asked_eq_nil (ledger_lookup? hworker) hnothing⟩
    refine ((h.steady_worker hclosed hworker).phase_eq_restPhase hnone).trans ?_
    rw [Worker.restPhase, hnothing]
    rfl
  waiting_iff := by
    refine (h.steady_worker hclosed hworker).phase_eq_waiting_iff.trans ?_
    rw [(h.fits hclosed hworker).current_eq_none_iff, and_comm]
  current_eq_none := (h.fits hclosed hworker).current_eq_none_iff.mpr
  current_eq_last hready := by
    obtain ⟨errand, request, hlast, hsome, hid, hkey⟩ := h.exists_last hclosed hworker hready
    refine ⟨errand, request.answered, hlast, by rw [hsome, hid, hkey], ?_⟩
    rw [h.fits hclosed hworker, hsome, hkey]
    rfl
  phase_eq_loading_iff hready {errand} hlast := by
    rw [← not_exists, ← h.isLoading_eq_false_iff hclosed hworker hready hlast, Bool.not_eq_false]
    exact (h.steady_worker hclosed hworker).isLoading_iff.symm
  loading_iff := (h.steady_worker hclosed hworker).isLoading_iff
  phase_eq_of_answers hready {errand result} hlast hanswer := by
    have hdone : worker.isLoading = false :=
      (h.isLoading_eq_false_iff hclosed hworker hready hlast).mpr ⟨result, hanswer⟩
    obtain ⟨other, found, hother, hfound, hresult⟩ :=
      h.exists_reflects hclosed hworker hready hdone
    obtain rfl := Option.some.inj (hlast.symm.trans hother)
    obtain rfl := h.inOrder.sound.answered_once hanswer hfound
    exact hresult.phase_eq
  error_eq {message} hmessage := by
    simp only [Worker.status, Option.ite_none_right_eq_some, Bool.and_eq_true,
      Bool.not_eq_true'] at hmessage
    obtain ⟨⟨hready, hdone⟩, herror⟩ := hmessage
    obtain ⟨errand, result, hlast, hanswer, hresult⟩ :=
      h.exists_reflects hclosed hworker hready hdone
    obtain ⟨hbrings, hsaid⟩ := hresult.error_eq herror
    refine ⟨?_, errand, result, hlast, hanswer, hbrings, hsaid⟩
    refine hresult.phase_eq.trans ?_
    rw [hbrings]
    rfl

end Journal

end

namespace Desk

/-- **The status describes the present.** After any run in which values that lookups depend on stay
    simple, what a form shows of a lookup that was not closed is what its dependencies, its last request
    and the answer to that request make of it. -/
theorem status_of_run {table : List Lookup} {events : List Event} {data : Object}
    (hwhole : ∀ l ∈ table, l.IsWhole) (hevents : ∀ e ∈ events, e.IsWhole)
    (hdata : ∀ l ∈ table, ∀ path ∈ l.dependencyPaths,
      (Path.read (.object data) path).isSimple = true)
    (channel : Channel) (wire : Wire) (hidden : Option (List String))
    (hsimple : ¬ (start >>= fun _ => runGuarded events).IsRefused
      (world table channel wire hidden data)) :
    ∃ v : World String Journal,
      (Journal.start >>= fun _ => Journal.run events).run
        (Journal.world table channel wire hidden data) = .ok () v ∧
      (start >>= fun _ => run events).run (world table channel wire hidden data)
        = .ok () (v.mapParts Journal.desk) ∧
      ∀ key worker, .close key ∉ events →
        worker? (v.mapParts Journal.desk) key = some worker →
        worker.Describes v.store.data v.parts.ledger key := by
  obtain ⟨started, hstart, hdesk, hready⟩ := Journal.exists_tidy_start hwhole hdata channel wire
    hidden fun key => .close key ∈ events
  rw [Run.IsRefused, EStateM.run_bind, hdesk] at hsimple
  -- workers that no step closes are told of everything to the end
  obtain ⟨v, hrun, htidy⟩ := Journal.exists_tidy_run hready hevents (fun _ => id) hsimple
  have hall : (Journal.start >>= fun _ => Journal.run events).run
      (Journal.world table channel wire hidden data) = .ok () v := by
    rw [EStateM.run_bind, hstart]
    exact hrun
  have hmirrors : Run.Mirrors Journal.desk (Journal.start >>= fun _ => Journal.run events)
      (start >>= fun _ => run events) :=
    Run.mirrors_bind Journal.mirrors_start fun _ => Journal.mirrors_run events
  refine ⟨v, hall, ?_, fun key worker hopen hworker => htidy.describes hopen hworker⟩
  show (start >>= fun _ => run events).run
    ((Journal.world table channel wire hidden data).mapParts Journal.desk) = _
  rw [hmirrors, hall]
  rfl

/-- A company is looked up in vain, its tax number is taken away while it is looked up again, and a
    third time its city is found. -/
def searchEvents : List Event :=
  [.write (.set "taxId" (.text "911")), .complete 0 (.failed "Timeout" ""),
    .write (.set "taxId" (.text "912")), .write (.set "taxId" (.text "")),
    .complete 1 (.answered (some ⟨true, some [("city", .text "Oslo")], none⟩)), .dismiss "company",
    .write (.set "taxId" (.int 913)),
    .complete 2 (.answered (some ⟨true, some [("city", .text "Bergen")], none⟩)),
    .complete 3 (.failed "Timeout" "")]

theorem status_company :
    ∃ v : World String Journal,
      (Journal.start >>= fun _ => Journal.run searchEvents).run
        (Journal.world companyTable .manual ⟨[], []⟩ (some []) [("taxId", .null)]) = .ok () v ∧
      (start >>= fun _ => run searchEvents).run
        (world companyTable .manual ⟨[], []⟩ (some []) [("taxId", .null)])
        = .ok () (v.mapParts Journal.desk) ∧
      ∀ key worker, .close key ∉ searchEvents →
        worker? (v.mapParts Journal.desk) key = some worker →
        worker.Describes v.store.data v.parts.ledger key :=
  status_of_run (by decide +kernel) (by decide +kernel) (by decide +kernel) .manual ⟨[], []⟩
    (some []) (by decide +kernel)

end Desk

end DynamicForms
