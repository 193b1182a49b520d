import DynamicForms.Proofs.Lookup.Journal
import DynamicForms.Proofs.Lookup.Keep
import DynamicForms.Proofs.Lookup.Steady
import DynamicForms.Proofs.Visibility.Visible

/-!
# `DynamicForms.Proofs.Lookup.Disjoint` — lookups that write where nobody looks

If no target of a lookup lies at, above or below anything that a lookup depends on, then nobody is told
when a worker writes to its targets. So these writes come to nothing but what they make of the data, one
after the other, and no turn of a worker is nested in another one.

That nobody but the workers has a subscription, to nothing but what their lookups depend on, holds at any
moment of the life of a desk, whatever is done there and whether it fails or not.

## Contents
- `Lookup.AreDisjoint`: the tables of lookups considered.
- `Desk.keeps_event_of`: what steps at a desk keep.
- `Desk.Proper`: what holds at any moment; `keeps_event_proper`, `yields_stints_proper`.
- **Writes that nobody watches.** `run_put_of_nobody`, `run_put_of_unwatched`.
- **Targets.** `Desk.filled`, `run_writeTargets`, `read_filled_of_apart`, `indistinct_read_filled`.
-/

namespace DynamicForms

open Value (Object Indistinct)
open Path (Apart HasPlainNames IsWhole segments)
open Run (keeps_pure keeps_bind keeps_forM keeps_attempt)

/-- Lookups with whole paths whose targets lie apart from each other and from all that any of them
    depends on. -/
@[mk_iff]
structure Lookup.AreDisjoint (table : List Lookup) : Prop where
  /-- The paths are whole. -/
  whole : ∀ l ∈ table, l.IsWhole
  /-- The targets of a lookup lie apart from each other. -/
  targets : ∀ l ∈ table, l.targets.Pairwise fun target other =>
    Apart (segments target.path) (segments other.path)
  /-- No target has to do with what a lookup depends on. -/
  dependencies : ∀ l ∈ table, ∀ l' ∈ table, ∀ target ∈ l.targets, ∀ path ∈ l'.dependencyPaths,
    Apart (segments target.path) (segments path)

instance (table : List Lookup) : Decidable (Lookup.AreDisjoint table) :=
  decidable_of_iff' _ (Lookup.areDisjoint_iff table)

namespace Write

/-- A write that puts no name with dots at the top: if it replaces all data, the new data has none. -/
def LeavesPlain : Write → Prop
  | .reset data => HasPlainNames data
  | _ => True

instance (wr : Write) : Decidable wr.LeavesPlain :=
  match wr with
  | .set _ _ | .unregister _ => inferInstanceAs (Decidable True)
  | .reset data => inferInstanceAs (Decidable (HasPlainNames data))

variable {wr : Write} {data after : Object} {path : String} {v : Value}

theorem hasPlainNames_of_change? (hwr : wr.LeavesPlain) (h : wr.change? data = .ok (some after))
    (hdata : HasPlainNames data) : HasPlainNames after := by
  obtain ⟨path, v, rfl, -, rfl⟩ | ⟨path, rfl, rfl⟩ | rfl := change?_eq_some_cases h
  · exact Path.hasPlainNames_place hdata path v
  · exact Path.hasPlainNames_delete hdata path
  · exact hwr

theorem hasPlainNames_after (hwr : wr.LeavesPlain) (hdata : HasPlainNames data) :
    HasPlainNames (wr.after data) := by
  unfold after
  split
  · next h => exact hasPlainNames_of_change? hwr h hdata
  · exact hdata

/-- What was set is read, up to what counts as the same. -/
theorem indistinct_read_after_set (hdata : HasPlainNames data) (hp : Path.IsWhole path) (v : Value) :
    Indistinct (Path.read (.object ((set path v).after data)) path) v := by
  rw [after_set (Path.segments_ne_nil hp)]
  split
  · next hsame => exact Or.inr hsame
  · exact Or.inl (Path.read_place_self hdata hp v)

end Write

namespace Desk

/-- A step that puts no name with dots at the top of the form. -/
def Event.LeavesPlain : Event → Prop
  | .write wr => wr.LeavesPlain
  | _ => True

instance (e : Event) : Decidable e.LeavesPlain :=
  match e with
  | .write wr => inferInstanceAs (Decidable wr.LeavesPlain)
  | .evaluate _ | .dismiss _ | .hide _ | .reveal _ | .complete _ _ | .close _ =>
    inferInstanceAs (Decidable True)

/-- What holds at any moment of the life of a desk. -/
structure Proper (table : List Lookup) (w : World String Desk) : Prop where
  /-- No name at the top of the form has dots. -/
  plain : HasPlainNames w.store.data
  /-- The lookups of the workers are in the table. -/
  known : ∀ {key worker}, worker? w key = some worker → worker.lookup ∈ table
  /-- Nobody watches anything that no lookup depends on. -/
  watched : ∀ {sub}, sub ∈ w.store.subscriptions → ∃ paths, sub.paths = some paths ∧
    ∀ path ∈ paths, ∃ l ∈ table, path ∈ l.dependencyPaths

variable {table : List Lookup} {w w' : World String Desk} {put : Writer String Desk}
  {data : Object} {wr : Write} {path : String} {target : Reference} {targets : List Reference}
  {content : Reference → Option Value}

/-! ## What holds at any moment -/

theorem Proper.withEngine (h : Proper table w) {engine : Engine}
    (hlookup : ∀ key, engine.lookup? key = w.parts.engine.lookup? key) :
    Proper table (withEngine w engine) where
  plain := h.plain
  known {key worker} hworker := by
    have hsame := hlookup key
    unfold Engine.lookup? at hsame
    rw [show engine.workers.get? key = some worker from hworker] at hsame
    obtain ⟨old, hold, heq⟩ := Option.map_eq_some_iff.mp hsame.symm
    exact (show old.lookup = worker.lookup from heq) ▸ h.known hold
  watched := h.watched

theorem keeps_update_proper {f : Engine → Engine} (hf : Engine.Advances f) :
    (enginePart.update f : Shift Unit).Keeps (Proper table) :=
  fun _ hw => hw.withEngine (hf _).lookup_eq

section

variable {I : World String Desk → Prop} {P : Write → Prop}
  (hdata : ∀ {wr w after}, P wr → wr.change? w.store.data = .ok (some after) → I w →
    I (w.withData after))
  (hset : ∀ path v, P (.set path v))
  (hpart : ∀ f, Engine.IsSteady f → (enginePart.update f : Shift Unit).Keeps I)

include hdata hset hpart

/-- A write keeps what writes of its kind and the turns of workers keep. -/
theorem keeps_put_of (hwr : P wr) : (Desk.put wr).Keeps I := by
  refine keeps_bind (fun _ => id) fun s => keeps_perform_of hdata (fun put hput key _ => ?_)
    s.nesting hwr
  exact Engine.keeps_evaluate (fun _ _ => hput _ (hset _ _)) hpart key

/-- **What a step keeps**, also if it fails. -/
theorem keeps_event_of (hhidden : ∀ w hidden, I w → I ⟨w.store, { w.parts with hidden }⟩) {e : Event}
    (he : ∀ wr, e = .write wr → P wr)
    (hclose : ∀ key, e = .close key → (Engine.closeWorker enginePart key : Shift Unit).Keeps I) :
    (e.runWith Desk.put).Keeps I := by
  have hsets : ∀ path v, (Desk.put (.set path v)).Keeps I := fun path v =>
    keeps_put_of hdata hset hpart (hset path v)
  cases e with
  | write wr =>
    exact keeps_bind (keeps_put_of hdata hset hpart (he wr rfl)) fun _ => keeps_pure ()
  | evaluate key => exact Engine.keeps_evaluate hsets hpart key
  | dismiss key => exact Engine.keeps_dismiss hpart key
  | hide path => exact fun w hw => hhidden w _ hw
  | reveal path => exact fun w hw => hhidden w _ hw
  | complete id result => exact Engine.keeps_complete hsets hpart id result
  | close key => exact hclose key rfl

end

theorem Proper.withData (h : Proper table w) (hwr : wr.LeavesPlain) {after : Object}
    (hchange : wr.change? w.store.data = .ok (some after)) : Proper table (w.withData after) :=
  ⟨Write.hasPlainNames_of_change? hwr hchange h.plain, h.known, h.watched⟩

theorem keeps_put_proper (hwr : wr.LeavesPlain) : (Desk.put wr).Keeps (Proper table) :=
  keeps_put_of (fun hwr hchange hw => hw.withData hwr hchange) (fun _ _ => trivial)
    (fun _ hf => keeps_update_proper hf.advances) hwr

/-- A worker subscribes to what its lookup depends on. -/
theorem givesTickets_proper : Engine.GivesTickets enginePart id (Proper table) := by
  intro key worker w hw hworker _
  let subscribed : World String Desk :=
    { w with store := (w.store.subscribe worker.lookup.dependencyPaths key).2 }
  have hsubscribed : Proper table subscribed := by
    refine ⟨hw.plain, hw.known, fun {sub} hsub => ?_⟩
    rcases List.mem_append.mp hsub with hold | hnew
    · exact hw.watched hold
    · refine ⟨worker.lookup.dependencyPaths.eraseDups, ?_, fun path hpath => ?_⟩
      · rw [List.mem_singleton.mp hnew]
      · exact ⟨worker.lookup, hw.known hworker, List.mem_eraseDups.mp hpath⟩
  exact hsubscribed.withEngine (Engine.lookup?_changeWorker
    (f := fun worker => { worker with ticket := some w.store.nextTicket }) (fun _ => rfl)
    w.parts.engine)

theorem keeps_start_proper : start.Keeps (Proper table) :=
  Engine.keeps_start (fun _ _ => keeps_put_proper trivial)
    (fun _ hf => keeps_update_proper hf.advances) givesTickets_proper

theorem keeps_unsubscribe_proper (ticket : Nat) :
    (unsubscribe ticket : Shift Unit).Keeps (Proper table) :=
  fun _ hw => ⟨hw.plain, hw.known, fun hsub => hw.watched (List.mem_filter.mp hsub).1⟩

/-- **A step keeps what holds at any moment**, also if it fails. -/
theorem keeps_event_proper {e : Event} (he : e.LeavesPlain) :
    (e.runWith Desk.put).Keeps (Proper table) := by
  refine keeps_event_of (P := Write.LeavesPlain) (fun hwr hchange hw => hw.withData hwr hchange)
    (fun _ _ => trivial) (fun _ hf => keeps_update_proper hf.advances)
    (fun _ _ hw => ⟨hw.plain, hw.known, hw.watched⟩) (fun wr hwrite => ?_) fun key _ => ?_
  · subst hwrite
    exact he
  · exact Engine.keeps_closeWorker (fun _ => keeps_update_proper) keeps_unsubscribe_proper key

/-- **So does a run**, in which steps may fail. -/
theorem keeps_carryOn_proper {events : List Event} (hevents : ∀ e ∈ events, e.LeavesPlain) :
    (carryOn events).Keeps (Proper table) :=
  keeps_bind (keeps_attempt keeps_start_proper) fun _ =>
    keeps_forM fun e he => keeps_attempt (keeps_event_proper (hevents e he))

/-- A run ends well, whatever fails on the way. -/
theorem yields_carryOn (events : List Event) (w : World String Desk) :
    (carryOn events).Yields w fun _ => True := by
  have hattempt : ∀ (m : Shift Unit) w, (Agenda.attempt m).Yields w fun _ => True :=
    fun m w => ⟨(), _, Run.run_attempt m w, trivial⟩
  exact (hattempt start w).bind fun _ _ _ => Run.yields_forM (I := fun _ _ => True)
    (fun e _ w _ => hattempt (e.runWith Desk.put) w) trivial

theorem proper_world (hdata : HasPlainNames data) (channel : Channel) (wire : Wire)
    (hidden : Option (List String)) : Proper table (world table channel wire hidden data) where
  plain := hdata
  known {key worker} hworker := by
    obtain ⟨l, hl, hpair⟩ := List.mem_map.mp (Entries.mem_ofPairs (Entries.mem_of_get? hworker))
    rw [← show Worker.ofLookup l = worker from congrArg Prod.snd hpair]
    exact hl
  watched hsub := by cases hsub

/-- **At any moment of the life of a desk** it is proper. -/
theorem yields_stints_proper (hdata : HasPlainNames data) {stints : List (List Event)}
    (hstints : ∀ events ∈ stints, ∀ e ∈ events, e.LeavesPlain) (channel : Channel) (wire : Wire)
    (hidden : Option (List String)) :
    (stints.forM carryOn).Yields (world table channel wire hidden data) (Proper table) := by
  obtain ⟨⟨⟩, w, hrun, -⟩ : (stints.forM carryOn).Yields (world table channel wire hidden data)
      fun _ => True :=
    Run.yields_forM (I := fun _ _ => True) (fun events _ w _ => yields_carryOn events w) trivial
  have hkeeps : (stints.forM carryOn).Keeps (Proper table) :=
    keeps_forM fun events hevents => keeps_carryOn_proper (hstints events hevents)
  have hend := hkeeps _ (proper_world hdata channel wire hidden)
  rw [Run.outcome_of_ok hrun] at hend
  exact ⟨(), w, hrun, hend⟩

/-! ## Writes that nobody watches -/

/-- A path that lies apart from all that any lookup depends on. -/
def IsUnwatched (table : List Lookup) (path : String) : Prop :=
  ∀ l ∈ table, ∀ dependency ∈ l.dependencyPaths, Apart (segments path) (segments dependency)

/-- A write to a path that nobody watches concerns nobody. -/
theorem Proper.concerned_eq_nil (h : Proper table w) (hpath : wr.path? = some path)
    (hunwatched : IsUnwatched table path) : w.store.concerned wr = [] := by
  simp only [Store.concerned, hpath]
  rw [List.filter_eq_nil_iff]
  intro sub hsub hwatches
  obtain ⟨paths, hpaths, hknown⟩ := h.watched hsub
  simp only [Subscription.watches, hpaths, List.any_eq_true] at hwatches
  obtain ⟨dependency, hdependency, hoverlaps⟩ := hwatches
  obtain ⟨l, hl, hmem⟩ := hknown dependency hdependency
  rw [Path.overlaps_of_apart (hunwatched l hl dependency hmem).symm] at hoverlaps
  cases hoverlaps

/-- A write that concerns nobody changes the data and does nothing else. -/
theorem run_put_of_nobody (hput : HasRoom react put) (hplaced : wr.IsPlaced)
    (hnobody : w.store.concerned wr = []) :
    ∃ changed, (put wr).run w = .ok changed (w.withData (wr.after w.store.data)) := by
  rcases Write.change?_cases hplaced w.store.data with ⟨hnone, hsame⟩ | hsome
  · refine ⟨false, ?_⟩
    rw [hput.run_of_none react hnone, hsame]
    rfl
  · obtain ⟨depth, hroom⟩ := hput wr w
    have hcaptured : w.store.captureFor wr = [] := by
      rw [captureFor_eq, hnobody, List.map_nil]
    exact ⟨true, hroom.trans (run_perform_of_nobody react depth hsome hcaptured)⟩

/-- **So does a write to a path that nobody watches.** -/
theorem Proper.run_put_of_unwatched (h : Proper table w) (hput : HasRoom react put)
    (hplaced : wr.IsPlaced) (hpath : wr.path? = some path) (hunwatched : IsUnwatched table path) :
    ∃ changed, (put wr).run w = .ok changed (w.withData (wr.after w.store.data)) :=
  run_put_of_nobody hput hplaced (h.concerned_eq_nil hpath hunwatched)

/-! ## Targets -/

/-- The data after something was written to a target, if it is shown. -/
def filledOne (d : Desk) (content : Reference → Option Value) (data : Object)
    (target : Reference) : Object :=
  if d.isShown target.path then
    match content target with
    | some v => (Write.set target.path v).after data
    | none => data
  else data

/-- The data after something was written to those of some targets that are shown. -/
def filled (d : Desk) (targets : List Reference) (content : Reference → Option Value)
    (data : Object) : Object :=
  targets.foldl (filledOne d content) data

theorem hasPlainNames_filledOne (d : Desk) (content : Reference → Option Value)
    (hdata : HasPlainNames data) (target : Reference) :
    HasPlainNames (filledOne d content data target) := by
  unfold filledOne
  split
  · cases content target with
    | some v => exact Write.hasPlainNames_after trivial hdata
    | none => exact hdata
  · exact hdata

theorem read_filledOne_of_apart {d : Desk} (hpath : IsWhole path)
    (h : d.isShown target.path = true → content target ≠ none →
      Apart (segments target.path) (segments path)) (data : Object) :
    Path.read (.object (filledOne d content data target)) path = Path.read (.object data) path := by
  unfold filledOne
  split
  · next hshown =>
    cases hcontent : content target with
    | none => rfl
    | some v => exact Write.read_after_of_apart rfl hpath (h hshown (by simp [hcontent])) data
  · rfl

/-- **What was not written to reads what it read.** -/
theorem read_filled_of_apart {d : Desk} (hpath : IsWhole path)
    (h : ∀ target ∈ targets, d.isShown target.path = true → content target ≠ none →
      Apart (segments target.path) (segments path)) (data : Object) :
    Path.read (.object (filled d targets content data)) path = Path.read (.object data) path := by
  induction targets generalizing data with
  | nil => rfl
  | cons first rest ih =>
    exact (ih (fun target htarget => h target (List.mem_cons_of_mem _ htarget)) _).trans
      (read_filledOne_of_apart hpath (h first List.mem_cons_self) data)

/-- **What was written to reads what was written**, up to what counts as the same. -/
theorem indistinct_read_filled {d : Desk} (hdata : HasPlainNames data)
    (hwhole : ∀ target ∈ targets, IsWhole target.path)
    (hapart : targets.Pairwise fun target other =>
      Apart (segments target.path) (segments other.path))
    (htarget : target ∈ targets) (hshown : d.isShown target.path = true) {v : Value}
    (hcontent : content target = some v) :
    Indistinct (Path.read (.object (filled d targets content data)) target.path) v := by
  induction targets generalizing data with
  | nil => cases htarget
  | cons first rest ih =>
    obtain ⟨hfirst, hrest⟩ := List.pairwise_cons.mp hapart
    rcases List.mem_cons.mp htarget with rfl | htarget
    · -- the further targets lie apart from this one
      have hlater : Path.read (.object (filled d (target :: rest) content data)) target.path
          = Path.read (.object (filledOne d content data target)) target.path :=
        read_filled_of_apart (hwhole target List.mem_cons_self)
          (fun other hother _ _ => (hfirst other hother).symm) _
      have hown : filledOne d content data target = (Write.set target.path v).after data := by
        simp only [filledOne, hshown, if_true, hcontent]
      rw [hlater, hown]
      exact Write.indistinct_read_after_set hdata (hwhole target List.mem_cons_self) v
    · exact ih (hasPlainNames_filledOne d content hdata first)
        (fun other hother => hwhole other (List.mem_cons_of_mem _ hother)) hrest htarget

/-- One target. -/
theorem Proper.run_writeTarget (h : Proper table w) (hput : HasRoom react put)
    (hwhole : IsWhole target.path) (hunwatched : IsUnwatched table target.path)
    (content : Reference → Option Value) :
    (do
      let parts := (← get).parts
      if isShown parts target.path then
        match content target with
        | some v =>
          let _ ← put (.set target.path v)
        | none => return : Shift Unit).run w
      = .ok () (w.withData (filledOne w.parts content w.store.data target)) := by
  show (if isShown w.parts target.path = true then _ else _ : Shift Unit).run w = _
  unfold filledOne
  cases isShown w.parts target.path with
  | false => rfl
  | true =>
    cases content target with
    | none => rfl
    | some v =>
      have hplaced : (Write.set target.path v).IsPlaced := Path.segments_ne_nil hwhole
      obtain ⟨changed, hrun⟩ := h.run_put_of_unwatched hput hplaced rfl hunwatched
      rw [if_pos rfl, if_pos rfl]
      dsimp only
      rw [EStateM.run_bind, hrun]
      rfl

/-- **Writing to targets that nobody watches** fills those that are shown, and does nothing else. -/
theorem Proper.run_writeTargets (h : Proper table w) (hput : HasRoom react put)
    (hwhole : ∀ target ∈ targets, IsWhole target.path)
    (hunwatched : ∀ target ∈ targets, IsUnwatched table target.path)
    (content : Reference → Option Value) :
    (Engine.writeTargets put isShown targets content).run w
      = .ok () (w.withData (filled w.parts targets content w.store.data)) := by
  unfold Engine.writeTargets
  induction targets generalizing w with
  | nil => rfl
  | cons first rest ih =>
    have hone := h.run_writeTarget hput (hwhole first List.mem_cons_self)
      (hunwatched first List.mem_cons_self) content
    have hnext : Proper table (w.withData (filledOne w.parts content w.store.data first)) :=
      ⟨hasPlainNames_filledOne _ content h.plain first, h.known, h.watched⟩
    exact (Run.run_bind_of_ok hone).trans
      (ih hnext (fun target htarget => hwhole target (List.mem_cons_of_mem _ htarget))
        fun target htarget => hunwatched target (List.mem_cons_of_mem _ htarget))

end Desk
end DynamicForms
