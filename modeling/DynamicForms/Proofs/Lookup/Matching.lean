import DynamicForms.Proofs.Lookup.Tandem

/-!
# `DynamicForms.Proofs.Lookup.Matching` — worlds that are the same to every worker

Two worlds match if all that is known of the workers is the same in both but for the numbers of requests,
and the data is the same but for the order of entries above the paths of the lookups. From matching worlds
every step that names no request by its number leads to matching worlds again. Where a step concerns one
worker alone, that is so because the worker goes by what it sees; a write from outside tells the same
workers the same news.

## Contents
- `Journal.Matches`; `Tandem.matches`, `relates_matches`.
- **Writes.** `changesAlike_of_matches`, `relates_put`.
- **Other steps.** `relates_closeWorker`, `relates_step`; `relates_start`.
- **Runs.** `Move`, `relates_move`; `proceed`, `relates_proceed`.
-/

namespace DynamicForms

open Value (Object Shuffles)
open Path (SameAt segments shuffles_delete shuffles_place sameAt_of_shuffles shuffled_read)
open Run (Relates relates_pure relates_bind relates_seq relates_forM relates_attempt)

namespace Journal

/-! ## Matching worlds -/

/-- The ways of the lookups: the paths as names at the top, and their segments. -/
def waysOf (lookups : String → Option Lookup) (way : List String) : Prop :=
  ∃ key l path, lookups key = some l ∧ path ∈ l.paths ∧ (way = [path] ∨ way = segments path)

/-- All that is known of the workers is the same in two worlds, and the data is the same but for the order
of entries above the paths of the lookups. -/
structure Matches (lookups : String → Option Lookup) (w w' : World String Journal) : Prop where
  /-- The first world is in order. -/
  ordered : Ordered lookups w
  /-- So is the second one. -/
  ordered' : Ordered lookups w'
  /-- The subscriptions. -/
  subscriptions_eq : w.store.subscriptions = w'.store.subscriptions
  /-- The next ticket. -/
  nextTicket_eq : w.store.nextTicket = w'.store.nextTicket
  /-- What is hidden. -/
  hidden_eq : w.parts.desk.hidden = w'.parts.desk.hidden
  /-- The keys of the workers. -/
  keys_eq : w.parts.desk.engine.workers.keys = w'.parts.desk.engine.workers.keys
  /-- What is known of the workers. -/
  sheet_eq : ∀ key, w.parts.sheet key = w'.parts.sheet key
  /-- The data. -/
  data : Shuffles (waysOf lookups) w.store.data w'.store.data

variable {lookups : String → Option Lookup} {key : String} {l : Lookup}
  {s s' w w' w'' : World String Journal}

namespace Matches

theorem refl (h : Ordered lookups w) : Matches lookups w w :=
  ⟨h, h, rfl, rfl, rfl, rfl, fun _ => rfl, .refl _ _⟩

theorem symm (h : Matches lookups w w') : Matches lookups w' w where
  ordered := h.ordered'
  ordered' := h.ordered
  subscriptions_eq := h.subscriptions_eq.symm
  nextTicket_eq := h.nextTicket_eq.symm
  hidden_eq := h.hidden_eq.symm
  keys_eq := h.keys_eq.symm
  sheet_eq key := (h.sheet_eq key).symm
  data := h.data.symm

theorem trans (h : Matches lookups w w') (h' : Matches lookups w' w'') : Matches lookups w w'' where
  ordered := h.ordered
  ordered' := h'.ordered'
  subscriptions_eq := h.subscriptions_eq.trans h'.subscriptions_eq
  nextTicket_eq := h.nextTicket_eq.trans h'.nextTicket_eq
  hidden_eq := h.hidden_eq.trans h'.hidden_eq
  keys_eq := h.keys_eq.trans h'.keys_eq
  sheet_eq key := (h.sheet_eq key).trans (h'.sheet_eq key)
  data := h.data.trans h'.data

/-- At the paths of the lookups everything is the same. -/
theorem sameAt (h : Matches lookups w w') (hl : lookups key = some l) {path : String}
    (hpath : path ∈ l.paths) : SameAt path w.store.data w'.store.data :=
  sameAt_of_shuffles h.data ⟨key, l, path, hl, hpath, Or.inl rfl⟩ ⟨key, l, path, hl, hpath, Or.inr rfl⟩

/-- So each worker goes by the same. -/
theorem sameFor (h : Matches lookups w w') (key : String) : SameFor lookups key w w' :=
  ⟨h.ordered, h.ordered', h.subscriptions_eq, h.hidden_eq, h.sheet_eq key, fun hl _ => h.sameAt hl⟩

end Matches

/-- **What one worker does in both worlds leaves them matching.** -/
theorem Tandem.matches (h : Tandem lookups key s s' w w') (hs : Matches lookups s s') :
    Matches lookups w w' where
  ordered := h.same.ordered
  ordered' := h.same.ordered'
  subscriptions_eq := h.same.subscriptions_eq
  nextTicket_eq := by rw [h.aside.nextTicket_eq, h.aside'.nextTicket_eq, hs.nextTicket_eq]
  hidden_eq := h.same.hidden_eq
  keys_eq := by rw [h.aside.keys_eq, h.aside'.keys_eq, hs.keys_eq]
  sheet_eq other := by
    by_cases hother : other = key
    · rw [hother]
      exact h.same.sheet_eq
    · rw [h.aside.sheet_eq other hother, h.aside'.sheet_eq other hother, hs.sheet_eq other]
  data := by
    obtain ⟨log, -, hdata, hdata'⟩ := h.wrote
    rw [hdata, hdata']
    exact Path.shuffles_placeAll hs.data log

theorem relates_matches {α α' : Type} {V : α → α' → Prop} {m : Shift α} {m' : Shift α'}
    (h : ∀ s s', Relates (Tandem lookups key s s') V m m') : Relates (Matches lookups) V m m' := by
  intro w w' hw
  have hend := h w w' w w' (hw.sameFor key).tandem
  revert hend
  generalize m.run w = found, m'.run w' = found'
  rintro (⟨hv, hlast⟩ | ⟨fault, hlast⟩)
  · exact .ok hv (hlast.matches hw)
  · exact .error fault (hlast.matches hw)

/-! ## Writes -/

theorem Matches.withData (h : Matches lookups w w') {data data' : Object}
    (hdata : Shuffles (waysOf lookups) data data') :
    Matches lookups (w.withData data) (w'.withData data') where
  ordered := ⟨h.ordered.lookup?_eq, h.ordered.numbered, h.ordered.owned⟩
  ordered' := ⟨h.ordered'.lookup?_eq, h.ordered'.numbered, h.ordered'.owned⟩
  subscriptions_eq := h.subscriptions_eq
  nextTicket_eq := h.nextTicket_eq
  hidden_eq := h.hidden_eq
  keys_eq := h.keys_eq
  sheet_eq := h.sheet_eq
  data := hdata

/-- Any write changes the same in both worlds. -/
theorem changesAlike_of_matches (hw : Matches lookups w w') (wr : Write) :
    Write.ChangesAlike (Matches lookups) w w' (wr.change? w.store.data)
      (wr.change? w'.store.data) := by
  cases wr with
  | set path v =>
    exact changesAlike_set ((shuffled_read hw.data path).sameValue_eq v)
      (hw.withData (shuffles_place hw.data _ v))
  | unregister path =>
    rw [Write.change?, Write.change?, (shuffled_read hw.data path).isAbsent_eq]
    split
    · exact .none
    · exact .some (hw.withData (shuffles_delete hw.data path))
  | reset data => exact .some (hw.withData (.refl _ data))

/-- Whoever is told of a write does the same in both worlds. -/
theorem relates_perform_any (hind : Independent lookups) (depth : Nat) (wr : Write) :
    Relates (Matches lookups) Eq (perform react depth wr) (perform react depth wr) := by
  cases depth with
  | zero => exact Run.relates_throw .tooDeep
  | succ depth =>
    refine relates_perform_succ (fun hw => changesAlike_of_matches hw wr) fun hw => ?_
    refine relates_told (P := fun _ => True) (fun _ _ hv => hv.subscriptions_eq)
      (fun _ _ hv => hv.ordered) (fun _ _ hv _ _ _ hl _ hpath => hv.sameAt hl hpath)
      (fun key _ _ => ?_) hw fun _ _ => trivial
    exact relates_matches fun _ _ => relates_look (writesAlike_perform hind depth)

/-- **A write from outside** does the same in both worlds. -/
theorem relates_put (hind : Independent lookups) (wr : Write) :
    Relates (Matches lookups) Eq (put wr) (put wr) := by
  refine relates_write (fun w w' hw => ?_) fun depth => relates_perform_any hind depth wr
  unfold Store.nesting Store.watchings
  rw [hw.subscriptions_eq]

/-! ## Other steps -/

theorem relates_dismiss : Relates (Tandem lookups key s s') Eq
    (Engine.dismiss enginePart key : Shift Unit) (Engine.dismiss enginePart key) := by
  refine relates_bind relates_worker? fun found found' hfound => ?_
  cases hfound.same with
  | none => exact relates_pure rfl
  | some _ =>
    exact relates_seq (relates_updateWorker (f := fun worker => { worker with error := none })
      (fun _ => rfl) (fun _ => rfl) (fun _ => rfl)) relates_announce

theorem relates_changeHidden (f : Option (List String) → Option (List String)) :
    Relates (Matches lookups) Eq (hiddenPart.update f : Shift Unit) (hiddenPart.update f) :=
  relates_update fun _ _ hw =>
    { ordered := ⟨hw.ordered.lookup?_eq, hw.ordered.numbered, hw.ordered.owned⟩
      ordered' := ⟨hw.ordered'.lookup?_eq, hw.ordered'.numbered, hw.ordered'.owned⟩
      subscriptions_eq := hw.subscriptions_eq
      nextTicket_eq := hw.nextTicket_eq
      hidden_eq := congrArg f hw.hidden_eq
      keys_eq := hw.keys_eq
      sheet_eq := hw.sheet_eq
      data := hw.data }

theorem Ordered.unsubscribe (h : Ordered lookups w) (ticket : Nat) :
    Ordered lookups ⟨w.store.unsubscribe ticket, w.parts⟩ :=
  ⟨h.lookup?_eq, h.numbered, fun sub hsub => h.owned sub (List.mem_of_mem_filter hsub)⟩

theorem relates_unsubscribe (ticket : Nat) : Relates (Matches lookups) Eq
    (unsubscribe ticket : Shift Unit) (unsubscribe ticket) :=
  fun _ _ hw => .ok rfl
    { ordered := hw.ordered.unsubscribe ticket
      ordered' := hw.ordered'.unsubscribe ticket
      subscriptions_eq := congrArg (List.filter _) hw.subscriptions_eq
      nextTicket_eq := hw.nextTicket_eq
      hidden_eq := hw.hidden_eq
      keys_eq := hw.keys_eq
      sheet_eq := hw.sheet_eq
      data := hw.data }

/-- A worker gives up its ticket and its request, and what it asked for is called off. -/
theorem relates_shut (hl : lookups key = some l) :
    Relates (Matches lookups) Eq
      (Engine.updateWorker enginePart key (fun w => { w with ticket := none, current := none })
        >>= fun _ => enginePart.update fun e => e.callOff key : Shift Unit)
      (Engine.updateWorker enginePart key (fun w => { w with ticket := none, current := none })
        >>= fun _ => enginePart.update fun e => e.callOff key) := by
  refine relates_matches fun s s' w w' (hw : Tandem lookups key s s' w w') => ?_
  obtain ⟨worker, hworker, -⟩ := hw.same.ordered.exists_worker hl
  obtain ⟨worker', hworker', -⟩ := hw.same.ordered'.exists_worker hl
  exact .ok rfl (hw.turn (turns_shut hw.same.ordered.numbered hworker)
    (turns_shut hw.same.ordered'.numbered hworker'))

theorem relates_closeWorker (key : String) : Relates (Matches lookups) Eq
    (Engine.closeWorker enginePart key : Shift Unit) (Engine.closeWorker enginePart key) := by
  refine relates_bind (relates_matches fun _ _ => relates_worker?) fun found found' hfound => ?_
  cases hfound.same with
  | none => exact relates_pure rfl
  | some hsame =>
    have hshut := relates_shut (hfound.lookup_eq rfl)
    dsimp only
    rw [← hsame.congr (f := Worker.ticket) fun _ => rfl]
    split
    · exact relates_seq (relates_unsubscribe _) hshut
    · exact hshut

/-- **A step that names no request by its number** does the same in both worlds. -/
theorem relates_step (hind : Independent lookups) {e : Desk.Event}
    (he : ∀ id result, e ≠ .complete id result) :
    Relates (Matches lookups) Eq (step e) (step e) := by
  cases e with
  | write wr => exact relates_seq (relates_put hind wr) (relates_pure rfl)
  | evaluate key => exact relates_matches fun _ _ => relates_look (writesAlike_put hind)
  | dismiss key => exact relates_matches fun _ _ => relates_dismiss
  | hide path => exact relates_changeHidden _
  | reveal path => exact relates_changeHidden _
  | complete id result => exact absurd rfl (he id result)
  | close key => exact relates_closeWorker key

/-! ## Starting -/

theorem Ordered.subscribe (h : Ordered lookups w) (hl : lookups key = some l) :
    Ordered lookups ⟨(w.store.subscribe l.dependencyPaths key).2, w.parts⟩ where
  lookup?_eq := h.lookup?_eq
  numbered := h.numbered
  owned sub hsub := by
    rcases List.mem_append.mp hsub with hold | hnew
    · exact h.owned sub hold
    · obtain rfl := List.mem_singleton.mp hnew
      exact ⟨l, _, hl, rfl, fun _ => List.mem_eraseDups.mp⟩

/-- A worker subscribes to what its lookup depends on. -/
theorem relates_subscribe (hl : lookups key = some l) : Relates (Matches lookups) Eq
    (DynamicForms.subscribe l.dependencyPaths key : Shift Nat)
    (DynamicForms.subscribe l.dependencyPaths key) := by
  intro w w' hw
  refine .ok hw.nextTicket_eq
    { ordered := hw.ordered.subscribe hl
      ordered' := hw.ordered'.subscribe hl
      subscriptions_eq := ?_
      nextTicket_eq := congrArg (· + 1) hw.nextTicket_eq
      hidden_eq := hw.hidden_eq
      keys_eq := hw.keys_eq
      sheet_eq := hw.sheet_eq
      data := hw.data }
  show w.store.subscriptions ++ [⟨w.store.nextTicket, _, _⟩]
    = w'.store.subscriptions ++ [⟨w'.store.nextTicket, _, _⟩]
  rw [hw.subscriptions_eq, hw.nextTicket_eq]

/-- A worker that is started does the same in both worlds. -/
theorem relates_startWorker (hind : Independent lookups) (key : String) :
    Relates (Matches lookups) Eq (startWorker key) (startWorker key) := by
  refine relates_seq (relates_matches fun _ _ => relates_noteSight) ?_
  refine relates_bind (relates_matches fun _ _ => relates_worker?) fun found found' hfound => ?_
  cases hfound.same with
  | none => exact relates_pure rfl
  | @some worker worker' hsame =>
    have hevaluate : Relates (Matches lookups) Eq
        (Engine.evaluate enginePart Journal.put isShown key)
        (Engine.evaluate enginePart Journal.put isShown key) :=
      relates_matches fun _ _ => relates_evaluate (writesAlike_put hind)
    dsimp only
    rw [← hsame.lookup_eq, ← hsame.congr (f := Worker.ticket) fun _ => rfl]
    split
    · refine relates_bind (relates_subscribe (hfound.lookup_eq rfl)) fun ticket _ hticket => ?_
      subst hticket
      exact relates_seq (relates_matches fun _ _ => relates_updateWorker
        (f := fun worker => { worker with ticket := some ticket })
        (fun _ => rfl) (fun _ => rfl) fun _ => rfl) hevaluate
    · exact hevaluate

/-- **Starting all workers** does the same in both worlds. -/
theorem relates_start (hind : Independent lookups) : Relates (Matches lookups) Eq start start := by
  refine relates_bind (relates_read (V := fun e e' => e.workers.keys = e'.workers.keys)
    fun _ _ hw => hw.keys_eq) fun e e' hkeys => ?_
  rw [hkeys]
  exact relates_forM (List.forall₂_same.mpr fun key _ => relates_startWorker hind key)

/-! ## Runs -/

/-- A step of a run in which requests are named by their workers. -/
inductive Move where
  /-- All workers are started. -/
  | start
  /-- A request is answered. -/
  | answer (c : Completion)
  /-- Anything else. -/
  | other (e : Desk.Event) (h : ∀ id result, e ≠ .complete id result)

/-- A step. -/
def move : Move → Shift Unit
  | .start => start
  | .answer c => conclude c
  | .other e _ => step e

/-- Some steps, one after the other; a step that fails concerns no other. -/
def proceed (moves : List Move) : Shift Unit :=
  moves.forM fun m => Agenda.attempt (move m)

theorem relates_move (hind : Independent lookups) (m : Move) :
    Relates (Matches lookups) Eq (move m) (move m) := by
  cases m with
  | start => exact relates_start hind
  | answer c => exact relates_matches fun _ _ => relates_conclude hind c
  | other e he => exact relates_step hind he

/-- **From matching worlds a run leads to matching worlds.** -/
theorem relates_proceed (hind : Independent lookups) (moves : List Move) :
    Relates (Matches lookups) Eq (proceed moves) (proceed moves) :=
  relates_forM (List.forall₂_same.mpr fun m _ => relates_attempt (relates_move hind m))

end Journal

end DynamicForms
