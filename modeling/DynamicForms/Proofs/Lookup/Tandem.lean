import DynamicForms.Proofs.Lookup.Sheet
import DynamicForms.Proofs.Path.Shuffle
import DynamicForms.Proofs.Store.Relate

/-!
# `DynamicForms.Proofs.Lookup.Tandem` — a worker goes by what it sees

Lookups are independent if no path of one lies at, above or below a path of another. Then what a worker
does is told by what it sees: its own sheet, the data at its own paths, what is hidden and who is
subscribed. In two worlds where all that is the same, one worker does the same, with the same writes to its
own targets, and everything that concerns the others stays as it was in each of the two worlds.

## Contents
- `Lookup.paths`, `Journal.Independent`, `Journal.Ordered`.
- `Journal.SameFor`: the same for one worker; `Aside`: untouched but for one worker.
- `Journal.Tandem`: one worker has done the same in two worlds, and nobody else anything.
- **Programs.** `relates_turn`, `relates_request`, `relates_look`, `writesAlike_put`, `relates_receive`.
- **Answers.** `Completion`, `Journal.conclude`, `relates_conclude`.
-/

namespace DynamicForms

open Value (Object)
open Path (Apart SameAt segments sameAt_place)
open Run (Relates relates_pure relates_throw relates_bind relates_seq relates_forM)

/-! ## Independent lookups -/

/-- The paths of a lookup: those that it depends on, and those of its targets. -/
def Lookup.paths (l : Lookup) : List String :=
  l.dependencyPaths ++ l.targets.map (·.path)

theorem Lookup.mem_paths_of_dependency {l : Lookup} {path : String} (h : path ∈ l.dependencyPaths) :
    path ∈ l.paths := List.mem_append_left _ h

theorem Lookup.mem_paths_of_target {l : Lookup} {path : String} (h : path ∈ l.targets.map (·.path)) :
    path ∈ l.paths := List.mem_append_right _ h

namespace Journal

/-- No path of a lookup lies at, above or below a path of another one. -/
def Independent (lookups : String → Option Lookup) : Prop :=
  ∀ {key key' l l'}, lookups key = some l → lookups key' = some l' → key ≠ key' →
    ∀ path ∈ l.paths, ∀ path' ∈ l'.paths, Apart (segments path) (segments path')

/-- The lookups are known, requests are numbered, and whoever is subscribed is told of some of the paths
that its lookup depends on. -/
structure Ordered (lookups : String → Option Lookup) (w : World String Journal) : Prop where
  /-- The lookups. -/
  lookup?_eq : w.parts.ledger.lookup? = lookups
  /-- Requests are numbered. -/
  numbered : w.parts.ledger.Numbered
  /-- Subscriptions are those of workers to what their lookups depend on. -/
  owned : ∀ sub ∈ w.store.subscriptions, ∃ l paths, lookups sub.owner = some l ∧
    sub.paths = some paths ∧ ∀ path ∈ paths, path ∈ l.dependencyPaths

/-- All that one worker goes by is the same in two worlds. -/
structure SameFor (lookups : String → Option Lookup) (key : String) (w w' : World String Journal) :
    Prop where
  /-- The first world is in order. -/
  ordered : Ordered lookups w
  /-- So is the second one. -/
  ordered' : Ordered lookups w'
  /-- The subscriptions. -/
  subscriptions_eq : w.store.subscriptions = w'.store.subscriptions
  /-- What is hidden. -/
  hidden_eq : w.parts.desk.hidden = w'.parts.desk.hidden
  /-- What is known of the worker. -/
  sheet_eq : w.parts.sheet key = w'.parts.sheet key
  /-- What lies at the paths of its lookup. -/
  sameAt : ∀ {l}, lookups key = some l → ∀ path ∈ l.paths, SameAt path w.store.data w'.store.data

/-- Apart from one worker and the data nothing is touched. -/
structure Aside (key : String) (w w' : World String Journal) : Prop where
  /-- What is known of the others. -/
  sheet_eq : ∀ other, other ≠ key → w'.parts.sheet other = w.parts.sheet other
  /-- Their requests, with the numbers. -/
  asked_eq : ∀ other, other ≠ key → w'.parts.ledger.asked other = w.parts.ledger.asked other
  /-- The subscriptions. -/
  subscriptions_eq : w'.store.subscriptions = w.store.subscriptions
  /-- What is hidden. -/
  hidden_eq : w'.parts.desk.hidden = w.parts.desk.hidden
  /-- The next ticket. -/
  nextTicket_eq : w'.store.nextTicket = w.store.nextTicket
  /-- The keys of the workers. -/
  keys_eq : w'.parts.desk.engine.workers.keys = w.parts.desk.engine.workers.keys

/-- From two worlds on one worker has done the same, with the same writes to its targets, and nobody else
anything. -/
structure Tandem (lookups : String → Option Lookup) (key : String) (s s' w w' : World String Journal) :
    Prop where
  /-- All that the worker goes by is still the same. -/
  same : SameFor lookups key w w'
  /-- The others are untouched in the first world. -/
  aside : Aside key s w
  /-- They are untouched in the second one. -/
  aside' : Aside key s' w'
  /-- The writes. -/
  wrote : ∃ log : List (String × Value),
    (∀ entry ∈ log, ∃ l, lookups key = some l ∧ entry.1 ∈ l.targets.map (·.path)) ∧
    w.store.data = Path.placeAll s.store.data log ∧ w'.store.data = Path.placeAll s'.store.data log

variable {lookups : String → Option Lookup} {key other : String} {l : Lookup}
  {s s' w w' : World String Journal} {put put' : Writer String Journal}

theorem Aside.refl (key : String) (w : World String Journal) : Aside key w w :=
  ⟨fun _ _ => rfl, fun _ _ => rfl, rfl, rfl, rfl, rfl⟩

theorem SameFor.tandem (h : SameFor lookups key s s') : Tandem lookups key s s' s s' :=
  ⟨h, .refl key s, .refl key s', [], fun _ h => absurd h List.not_mem_nil, rfl, rfl⟩

/-! ## Programs -/

/-- Both worlds go on with the same turn for the worker. -/
theorem Tandem.turn (h : Tandem lookups key s s' w w') {turn : Sheet → Sheet} {j j' : Journal}
    (hturns : Turns key turn w.parts j) (hturns' : Turns key turn w'.parts j') :
    Tandem lookups key s s' ⟨w.store, j⟩ ⟨w'.store, j'⟩ where
  same :=
    { ordered := ⟨hturns.lookup?_eq.trans h.same.ordered.lookup?_eq, hturns.numbered,
        h.same.ordered.owned⟩
      ordered' := ⟨hturns'.lookup?_eq.trans h.same.ordered'.lookup?_eq, hturns'.numbered,
        h.same.ordered'.owned⟩
      subscriptions_eq := h.same.subscriptions_eq
      hidden_eq := hturns.hidden_eq.trans (h.same.hidden_eq.trans hturns'.hidden_eq.symm)
      sheet_eq := by rw [hturns.sheet_eq, hturns'.sheet_eq, h.same.sheet_eq]
      sameAt := h.same.sameAt }
  aside := ⟨fun other hne => (hturns.others other hne).trans (h.aside.sheet_eq other hne),
    fun other hne => (hturns.asked_eq other hne).trans (h.aside.asked_eq other hne),
    h.aside.subscriptions_eq, hturns.hidden_eq.trans h.aside.hidden_eq, h.aside.nextTicket_eq,
    hturns.keys_eq.trans h.aside.keys_eq⟩
  aside' := ⟨fun other hne => (hturns'.others other hne).trans (h.aside'.sheet_eq other hne),
    fun other hne => (hturns'.asked_eq other hne).trans (h.aside'.asked_eq other hne),
    h.aside'.subscriptions_eq, hturns'.hidden_eq.trans h.aside'.hidden_eq, h.aside'.nextTicket_eq,
    hturns'.keys_eq.trans h.aside'.keys_eq⟩
  wrote := h.wrote

theorem relates_turn {change change' : Engine → Engine} (turn : Sheet → Sheet)
    (h : ∀ w w', Tandem lookups key s s' w w' →
      Turns key turn w.parts (enginePart.set (change w.parts.desk.engine) w.parts))
    (h' : ∀ w w', Tandem lookups key s s' w w' →
      Turns key turn w'.parts (enginePart.set (change' w'.parts.desk.engine) w'.parts)) :
    Relates (Tandem lookups key s s') Eq (enginePart.update change : Shift Unit)
      (enginePart.update change') :=
  fun w w' hw => .ok rfl (hw.turn (h w w' hw) (h' w w' hw))

theorem relates_updateWorker {f : Worker → Worker} (hlookup : ∀ worker, (f worker).lookup = worker.lookup)
    (hcurrent : ∀ worker, (f worker).current = worker.current)
    (hf : ∀ worker, (f worker).unnumbered = f worker.unnumbered) :
    Relates (Tandem lookups key s s') Eq (Engine.updateWorker enginePart key f : Shift Unit)
      (Engine.updateWorker enginePart key f) :=
  relates_turn _ (fun _ _ hw => turns_quiet hw.same.ordered.numbered hlookup hcurrent hf key)
    fun _ _ hw => turns_quiet hw.same.ordered'.numbered hlookup hcurrent hf key

theorem relates_announce : Relates (Tandem lookups key s s') Eq
    (Engine.announce enginePart key : Shift Unit) (Engine.announce enginePart key) :=
  relates_turn id (fun _ _ hw => turns_announce hw.same.ordered.numbered key)
    fun _ _ hw => turns_announce hw.same.ordered'.numbered key

theorem relates_note {r : Record} (hr : r.errand? = none) :
    Relates (Tandem lookups key s s') Eq (note r) (note r) :=
  fun _ _ hw => .ok rfl (hw.turn (turns_note hw.same.ordered.numbered hr key)
    (turns_note hw.same.ordered'.numbered hr key))

/-! ### The worker -/

/-- Two workers are the same but for the number of the request. -/
def SameWorker (worker worker' : Worker) : Prop :=
  worker.unnumbered = worker'.unnumbered

variable {worker worker' : Worker}

/-- What does not depend on the number is the same. -/
theorem SameWorker.congr {α : Type} (h : SameWorker worker worker') {f : Worker → α}
    (hf : ∀ worker, f worker.unnumbered = f worker) : f worker = f worker' := by
  rw [SameWorker] at h
  rw [← hf worker, h, hf worker']

theorem SameWorker.lookup_eq (h : SameWorker worker worker') : worker.lookup = worker'.lookup :=
  h.congr fun _ => rfl

theorem SameWorker.hasAskedFor_eq (h : SameWorker worker worker') (requestKey : String) :
    worker.hasAskedFor requestKey = worker'.hasAskedFor requestKey := by
  refine h.congr (f := (·.hasAskedFor requestKey)) fun worker => ?_
  unfold Worker.unnumbered Worker.hasAskedFor
  cases worker.current <;> rfl

/-- The same workers are there, or none. -/
theorem sameWorker_of_sheet (h : w.parts.sheet key = w'.parts.sheet key) :
    Option.Rel SameWorker (w.parts.desk.engine.workers.get? key)
      (w'.parts.desk.engine.workers.get? key) := by
  have hworker := congrArg Sheet.worker h
  simp only [sheet] at hworker
  revert hworker
  generalize w.parts.desk.engine.workers.get? key = found,
    w'.parts.desk.engine.workers.get? key = found'
  intro hworker
  cases found with
  | none =>
    cases found' with
    | none => exact .none
    | some worker' => cases hworker
  | some worker =>
    cases found' with
    | none => cases hworker
    | some worker' => exact .some (Option.some.inj hworker)

/-- The lookup of a worker that is there. -/
theorem Ordered.lookup_eq (h : Ordered lookups w) {worker : Worker}
    (hworker : w.parts.desk.engine.workers.get? key = some worker) :
    lookups key = some worker.lookup := by
  rw [← h.lookup?_eq]
  exact ledger_lookup? hworker

theorem Ordered.exists_worker (h : Ordered lookups w) (hl : lookups key = some l) :
    ∃ worker, w.parts.desk.engine.workers.get? key = some worker ∧ worker.lookup = l := by
  rw [← h.lookup?_eq] at hl
  exact Option.map_eq_some_iff.mp hl

/-- What is found is the same worker in both worlds, with its lookup, or nothing. -/
structure SameFound (lookups : String → Option Lookup) (key : String) (found found' : Option Worker) :
    Prop where
  /-- The worker. -/
  same : Option.Rel SameWorker found found'
  /-- Its lookup. -/
  lookup_eq : ∀ {worker}, found = some worker → lookups key = some worker.lookup

theorem relates_worker? : Relates (Tandem lookups key s s') (SameFound lookups key)
    (Engine.worker? enginePart key : Shift (Option Worker)) (Engine.worker? enginePart key) :=
  fun _ _ hw => .ok ⟨sameWorker_of_sheet hw.same.sheet_eq, hw.same.ordered.lookup_eq⟩ hw

theorem relates_enterPhase (phase : Phase) : Relates (Tandem lookups key s s') Eq
    (Engine.enterPhase enginePart key phase : Shift Unit) (Engine.enterPhase enginePart key phase) := by
  refine relates_bind relates_worker? fun found found' hfound => ?_
  cases hfound.same with
  | none => exact relates_pure rfl
  | some hworker =>
    dsimp only
    rw [hworker.congr (f := Worker.phase) fun _ => rfl]
    split
    · exact relates_seq (relates_updateWorker (f := fun worker => { worker with phase })
        (fun _ => rfl) (fun _ => rfl) (fun _ => rfl)) relates_announce
    · exact relates_pure rfl

/-! ### Writes -/

/-- A worker has written to one of its targets in both worlds. -/
theorem Tandem.write (h : Tandem lookups key s s' w w') (hl : lookups key = some l) {path : String}
    (hpath : path ∈ l.targets.map (·.path)) (v : Value) :
    Tandem lookups key s s' (w.withData (Path.place w.store.data (segments path) v))
      (w'.withData (Path.place w'.store.data (segments path) v)) where
  same :=
    { ordered := ⟨h.same.ordered.lookup?_eq, h.same.ordered.numbered, h.same.ordered.owned⟩
      ordered' := ⟨h.same.ordered'.lookup?_eq, h.same.ordered'.numbered, h.same.ordered'.owned⟩
      subscriptions_eq := h.same.subscriptions_eq
      hidden_eq := h.same.hidden_eq
      sheet_eq := h.same.sheet_eq
      sameAt := fun hl path hpath => sameAt_place (h.same.sameAt hl path hpath) _ v }
  aside := ⟨h.aside.sheet_eq, h.aside.asked_eq, h.aside.subscriptions_eq, h.aside.hidden_eq,
    h.aside.nextTicket_eq, h.aside.keys_eq⟩
  aside' := ⟨h.aside'.sheet_eq, h.aside'.asked_eq, h.aside'.subscriptions_eq, h.aside'.hidden_eq,
    h.aside'.nextTicket_eq, h.aside'.keys_eq⟩
  wrote := by
    obtain ⟨log, hlog, hdata, hdata'⟩ := h.wrote
    refine ⟨log ++ [(path, v)], fun entry hentry => ?_, ?_, ?_⟩
    · rcases List.mem_append.mp hentry with hold | hnew
      · exact hlog entry hold
      · rw [List.mem_singleton.mp hnew]
        exact ⟨l, hl, hpath⟩
    · rw [Path.placeAll_concat, ← hdata]
      rfl
    · rw [Path.placeAll_concat, ← hdata']
      rfl

/-- The news of a subscription are the same if the data is at all its paths. -/
theorem news?_congr {sub : Subscription String} {paths : List String} {before data data' : Object}
    (hpaths : sub.paths = some paths) (h : ∀ path ∈ paths, SameAt path data data') (wr : Write) :
    (sub.capture before).news? data wr = (sub.capture before).news? data' wr := by
  have hchanged : changedPaths data (paths.map fun path => (path, Path.read (.object before) path))
      = changedPaths data' (paths.map fun path => (path, Path.read (.object before) path)) := by
    unfold changedPaths
    refine congrArg (List.map _) (List.filter_congr fun entry hentry => ?_)
    obtain ⟨path, hpath, rfl⟩ := List.mem_map.mp hentry
    rw [(h path hpath).read_eq]
  simp only [Captured.news?, Subscription.capture, hpaths, Option.map_some, hchanged]

theorem capture_congr {sub : Subscription String} {paths : List String} {data data' : Object}
    (hpaths : sub.paths = some paths) (h : ∀ path ∈ paths, SameAt path data data') :
    sub.capture data = sub.capture data' := by
  have hread : paths.map (fun path => (path, Path.read (.object data) path))
      = paths.map fun path => (path, Path.read (.object data') path) :=
    List.map_congr_left fun path hpath => by rw [(h path hpath).read_eq]
  simp only [Subscription.capture, hpaths, Option.map_some, hread]

/-- **Those who are told of a write do related things** if each of them does and sees the same. -/
theorem relates_told {R : World String Journal → World String Journal → Prop} {P : String → Prop}
    {react react' : String → List String → Shift Unit} {wr : Write}
    (hsubs : ∀ w w', R w w' → w.store.subscriptions = w'.store.subscriptions)
    (howned : ∀ w w', R w w' → Ordered lookups w)
    (hsame : ∀ w w', R w w' → ∀ {key l}, P key → lookups key = some l →
      ∀ path ∈ l.paths, SameAt path w.store.data w'.store.data)
    (hreact : ∀ key, P key → ∀ news, Relates R Eq (react key news) (react' key news))
    (hw : R w w') (hmine : ∀ sub ∈ w.store.concerned wr, P sub.owner) :
    Relates R Eq ((w.store.captureFor wr).forM (tell react wr))
      ((w'.store.captureFor wr).forM (tell react' wr)) := by
  have hconcerned : w'.store.concerned wr = w.store.concerned wr := by
    unfold Store.concerned
    rw [hsubs w w' hw]
  have hsub : ∀ sub ∈ w.store.concerned wr, ∃ paths, sub.paths = some paths ∧
      ∀ v v', R v v' → ∀ path ∈ paths, SameAt path v.store.data v'.store.data := by
    intro sub hin
    obtain ⟨l, paths, hl, hpaths, hdependency⟩ :=
      (howned w w' hw).owned sub ((concerned_sublist _ _).subset hin)
    exact ⟨paths, hpaths, fun v v' hv path hpath => hsame v v' hv (hmine sub hin) hl path
      (Lookup.mem_paths_of_dependency (hdependency path hpath))⟩
  have hcaptured : w'.store.captureFor wr = w.store.captureFor wr := by
    rw [captureFor_eq, captureFor_eq, hconcerned]
    refine List.map_congr_left fun sub hin => ?_
    obtain ⟨paths, hpaths, hat⟩ := hsub sub hin
    exact (capture_congr hpaths (hat w w' hw)).symm
  rw [hcaptured, captureFor_eq]
  refine relates_forM (List.forall₂_same.mpr fun c hc => ?_)
  obtain ⟨sub, hin, rfl⟩ := List.mem_map.mp hc
  obtain ⟨paths, hpaths, hat⟩ := hsub sub hin
  refine relates_tell (fun v v' hv => ?_) (fun v v' hv => news?_congr hpaths (hat v v' hv) wr)
    (hreact sub.owner (hmine sub hin))
  unfold Store.isActive
  rw [hsubs v v' hv]

/-- A value that is set changes the same in two worlds. -/
theorem changesAlike_set {R : World String Journal → World String Journal → Prop} {path : String}
    {v : Value} (hsame : (Path.read (.object w.store.data) path).sameValue v
      = (Path.read (.object w'.store.data) path).sameValue v)
    (hplace : R (w.withData (Path.place w.store.data (segments path) v))
      (w'.withData (Path.place w'.store.data (segments path) v))) :
    Write.ChangesAlike R w w' ((Write.set path v).change? w.store.data)
      ((Write.set path v).change? w'.store.data) := by
  rw [Write.change?, Write.change?, hsame]
  split
  · exact .none
  · cases hs : segments path with
    | nil =>
      simp only [Path.write?, hs]
      exact .error _
    | cons name rest =>
      have hwritten : ∀ data, Path.write? data path v = some (Path.place data (segments path) v) :=
        fun data => Path.write?_of_segments (by rw [hs]; exact List.cons_ne_nil _ _) data v
      rw [hwritten, hwritten]
      exact .some hplace

/-- A write to a target changes the same in both worlds. -/
theorem changesAlike_target (hw : Tandem lookups key s s' w w') (hl : lookups key = some l)
    {path : String} (hpath : path ∈ l.targets.map (·.path)) (v : Value) :
    Write.ChangesAlike (Tandem lookups key s s') w w' ((Write.set path v).change? w.store.data)
      ((Write.set path v).change? w'.store.data) :=
  changesAlike_set (by rw [(hw.same.sameAt hl path (Lookup.mem_paths_of_target hpath)).read_eq])
    (hw.write hl hpath v)

/-- Only the worker itself is told of writes to its targets. -/
theorem owner_eq_of_target (hind : Independent lookups) (hw : Ordered lookups w)
    (hl : lookups key = some l) {path : String} (hpath : path ∈ l.targets.map (·.path)) {v : Value}
    {sub : Subscription String} (hsub : sub ∈ w.store.concerned (.set path v)) : sub.owner = key := by
  obtain ⟨hin, hwatch⟩ := List.mem_filter.mp hsub
  obtain ⟨l', paths, hl', hpaths, hdependency⟩ := hw.owned sub hin
  by_contra hne
  rw [Subscription.watches, hpaths, List.any_eq_true] at hwatch
  obtain ⟨watched, hwatched, hover⟩ := hwatch
  have hapart := hind hl' hl hne watched (Lookup.mem_paths_of_dependency (hdependency _ hwatched)) path
    (Lookup.mem_paths_of_target hpath)
  rw [Path.overlaps_of_apart hapart] at hover
  cases hover

/-- A way to write does the same to the targets of a lookup in both worlds. -/
def WritesAlike (lookups : String → Option Lookup) (key : String) (s s' : World String Journal)
    (put put' : Writer String Journal) : Prop :=
  ∀ {l path}, lookups key = some l → path ∈ l.targets.map (·.path) → ∀ v,
    Relates (Tandem lookups key s s') Eq (put (.set path v)) (put' (.set path v))

theorem isShown_eq (h : w.parts.desk.hidden = w'.parts.desk.hidden) (path : String) :
    isShown w.parts path = isShown w'.parts path := by
  rw [isShown, isShown, Desk.isShown, Desk.isShown, h]

theorem relates_writeTargets (hput : WritesAlike lookups key s s' put put')
    (hl : lookups key = some l) {targets : List Reference} (htargets : ∀ target ∈ targets, target ∈ l.targets)
    (content : Reference → Option Value) :
    Relates (Tandem lookups key s s') Eq (Engine.writeTargets put isShown targets content)
      (Engine.writeTargets put' isShown targets content) := by
  refine relates_forM (List.forall₂_same.mpr fun target htarget => ?_)
  have hwrite := hput hl (List.mem_map_of_mem (f := (·.path)) (htargets target htarget))
  refine relates_bind (relates_get fun w w' hw => isShown_eq hw.same.hidden_eq target.path)
    fun w w' hshown => ?_
  dsimp only
  rw [hshown]
  split
  · cases content target with
    | none => exact relates_pure rfl
    | some v => exact relates_seq (hwrite v) (relates_pure rfl)
  · exact relates_pure rfl

/-! ### Looking at the form -/

theorem requestKey?_congr {data data' : Object}
    (h : ∀ path ∈ l.dependencyPaths, SameAt path data data') :
    l.requestKey? data = l.requestKey? data' := by
  have hread : ∀ r ∈ l.dependsOn, Path.read (.object data) r.path = Path.read (.object data') r.path :=
    fun r hr => (h r.path (List.mem_map_of_mem hr)).read_eq
  have hvalues : l.values data = l.values data' := List.map_congr_left hread
  have hparams : l.params data = l.params data' :=
    congrArg Entries.ofPairs (List.map_congr_left fun r hr => by rw [hread r hr])
  unfold Lookup.requestKey? Lookup.isReady
  rw [hvalues, hparams]

theorem isUnregistered_congr {data data' : Object}
    (h : ∀ path ∈ l.dependencyPaths, SameAt path data data') :
    l.isUnregistered data = l.isUnregistered data' := by
  have hvalues : l.values data = l.values data' :=
    List.map_congr_left fun r hr => (h r.path (List.mem_map_of_mem hr)).read_eq
  simp only [Lookup.isUnregistered, hvalues]

/-- The data is the same at the paths that a lookup depends on. -/
def SameData (l : Lookup) (data data' : Object) : Prop :=
  ∀ path ∈ l.dependencyPaths, SameAt path data data'

theorem relates_readData_of (hl : lookups key = some l) :
    Relates (Tandem lookups key s s') (SameData l) (readData : Shift Object) readData :=
  relates_readData fun _ _ hw path hpath =>
    hw.same.sameAt hl path (Lookup.mem_paths_of_dependency hpath)

theorem relates_invalidate : Relates (Tandem lookups key s s') Eq
    (Engine.invalidate enginePart key : Shift Unit) (Engine.invalidate enginePart key) := by
  intro w w' hw
  exact .ok rfl (hw.turn
    (turns_giveUp (f := fun worker => { worker with current := none }) hw.same.ordered.numbered
      (fun _ => rfl) (fun _ => rfl) (fun _ => rfl) key)
    (turns_giveUp (f := fun worker => { worker with current := none }) hw.same.ordered'.numbered
      (fun _ => rfl) (fun _ => rfl) (fun _ => rfl) key))

/-- The worker asks for the same in both worlds. -/
theorem relates_ask (hl : lookups key = some l) (requestKey : String) {worker worker' : Worker}
    (hworker : worker.lookup = l) (hworker' : worker'.lookup = l) :
    Relates (Tandem lookups key s s') Eq
      (enginePart.update fun e => e.ask key worker requestKey : Shift Unit)
      (enginePart.update fun e => e.ask key worker' requestKey) := by
  -- of the worker only its lookup goes into what is asked for
  have hask : ∀ {w : World String Journal} {worker : Worker}, Ordered lookups w → worker.lookup = l →
      Turns key (fun s => ⟨s.worker.map fun w => { w with current := some ⟨0, requestKey, false⟩ },
        s.slips.map Slip.past ++ [⟨requestKey, l.endpoint, keyParams requestKey, true, true⟩]⟩)
        w.parts (enginePart.set (w.parts.desk.engine.ask key worker requestKey) w.parts) := by
    intro w worker hw hlookup
    obtain ⟨found, hfound, hsame⟩ := hw.exists_worker hl
    have hturns := turns_ask hw.numbered hfound requestKey
    rw [hsame] at hturns
    have hequal : w.parts.desk.engine.ask key worker requestKey
        = w.parts.desk.engine.ask key found requestKey := by
      rw [Engine.ask, Engine.ask, hlookup, hsame]
    rwa [hequal]
  exact relates_turn _ (fun w _ hw => hask hw.same.ordered hworker)
    fun _ w' hw => hask hw.same.ordered' hworker'

theorem relates_request (hl : lookups key = some l) (requestKey : String) {worker worker' : Worker}
    (hworker : worker.lookup = l) (hsame : SameWorker worker worker') :
    Relates (Tandem lookups key s s') Eq
      (Engine.request enginePart key worker requestKey : Shift Unit)
      (Engine.request enginePart key worker' requestKey) := by
  refine relates_seq (relates_updateWorker (f := fun worker => { worker with wasReady := true })
    (fun _ => rfl) (fun _ => rfl) (fun _ => rfl)) ?_
  rw [hsame.hasAskedFor_eq requestKey]
  cases worker'.hasAskedFor requestKey with
  | true => exact relates_pure rfl
  | false =>
    exact relates_seq (relates_ask hl requestKey hworker (hsame.lookup_eq.symm.trans hworker))
      (relates_enterPhase .loading)

theorem relates_standBy (hput : WritesAlike lookups key s s' put put') (hl : lookups key = some l)
    {worker worker' : Worker} (hworker : worker.lookup = l) (hsame : SameWorker worker worker')
    {data data' : Object} (hdata : SameData l data data') :
    Relates (Tandem lookups key s s') Eq (Engine.standBy enginePart put isShown key worker data)
      (Engine.standBy enginePart put' isShown key worker' data') := by
  have hlookup := hsame.lookup_eq
  have hend : Relates (Tandem lookups key s s') Eq
      (Engine.updateWorker enginePart key (fun w => { w with wasReady := false }) >>= fun _ =>
        Engine.enterPhase enginePart key (if worker.lookup.dependsOn.isEmpty then .idle else .waiting) :
        Shift Unit)
      (Engine.updateWorker enginePart key (fun w => { w with wasReady := false }) >>= fun _ =>
        Engine.enterPhase enginePart key
          (if worker'.lookup.dependsOn.isEmpty then .idle else .waiting)) := by
    rw [hlookup]
    exact relates_seq (relates_updateWorker (f := fun worker => { worker with wasReady := false })
      (fun _ => rfl) (fun _ => rfl) (fun _ => rfl)) (relates_enterPhase _)
  refine relates_seq relates_invalidate ?_
  have hclears : (worker.wasReady && !worker.lookup.isUnregistered data)
      = (worker'.wasReady && !worker'.lookup.isUnregistered data') := by
    rw [hsame.congr (f := Worker.wasReady) fun _ => rfl, ← hlookup, hworker,
      isUnregistered_congr hdata]
  rw [hclears]
  cases worker'.wasReady && !worker'.lookup.isUnregistered data' with
  | false => exact hend
  | true =>
    refine relates_seq (V := Eq) ?_ hend
    rw [← hlookup]
    exact relates_writeTargets hput hl (fun _ => by rw [hworker]; exact id) _

/-- **A worker that looks at the form** does the same where it sees the same. -/
theorem relates_evaluate (hput : WritesAlike lookups key s s' put put') :
    Relates (Tandem lookups key s s') Eq (Engine.evaluate enginePart put isShown key)
      (Engine.evaluate enginePart put' isShown key) := by
  refine relates_bind relates_worker? fun found found' hfound => ?_
  cases hfound.same with
  | none => exact relates_pure rfl
  | some hsame =>
    have hl := hfound.lookup_eq rfl
    refine relates_bind (relates_readData_of hl) fun data data' hdata => ?_
    rw [← hsame.lookup_eq, ← requestKey?_congr hdata]
    cases Lookup.requestKey? _ data with
    | error fault => exact relates_throw fault
    | ok found =>
      cases found with
      | none => exact relates_standBy hput hl rfl hsame hdata
      | some requestKey => exact relates_request hl requestKey rfl hsame

theorem relates_noteSight : Relates (Tandem lookups key s s') Eq (noteSight key) (noteSight key) := by
  refine relates_bind relates_worker? fun found found' hfound => ?_
  cases hfound.same with
  | none => exact relates_pure rfl
  | some hsame =>
    refine relates_bind (relates_readData_of (hfound.lookup_eq rfl)) fun data data' hdata => ?_
    rw [← hsame.lookup_eq, ← requestKey?_congr hdata]
    cases Lookup.requestKey? _ data with
    | error fault => exact relates_pure rfl
    | ok found => exact relates_note rfl

theorem relates_look (hput : WritesAlike lookups key s s' put put') :
    Relates (Tandem lookups key s s') Eq (look put key) (look put' key) :=
  relates_seq relates_noteSight (relates_evaluate hput)

/-- **Writes to targets with all that follows from them** are the same where a worker sees the same. -/
theorem writesAlike_perform (hind : Independent lookups) (depth : Nat) :
    WritesAlike lookups key s s' (perform react depth) (perform react depth) := by
  intro l path hl hpath v
  refine relates_perform (P := fun wr => ∃ path ∈ l.targets.map (·.path), ∃ v, wr = .set path v)
    (fun {wr w w'} hwr hw => ?_) (fun put put' hput {wr w w'} hwr hw => ?_) depth ⟨path, hpath, v, rfl⟩
  · obtain ⟨path, hpath, v, rfl⟩ := hwr
    exact changesAlike_target hw hl hpath v
  · obtain ⟨path, hpath, v, rfl⟩ := hwr
    have hputs : WritesAlike lookups key s s' put put' := by
      intro l' path' hl' hpath' v'
      obtain rfl : l = l' := Option.some.inj (hl.symm.trans hl')
      exact hput _ ⟨path', hpath', v', rfl⟩
    -- nobody but the worker itself is told
    refine relates_told (P := (· = key)) (fun _ _ hv => hv.same.subscriptions_eq)
      (fun _ _ hv => hv.same.ordered) ?_ ?_ hw fun sub hsub =>
        owner_eq_of_target hind hw.same.ordered hl hpath hsub
    · rintro v v' hv _ l' rfl hl' path hpath
      exact hv.same.sameAt hl' path hpath
    · rintro _ rfl news
      exact relates_look hputs

theorem writesAlike_put (hind : Independent lookups) :
    WritesAlike lookups key s s' Journal.put Journal.put := by
  intro l path hl hpath v
  refine relates_write (fun w w' hw => ?_) fun depth => writesAlike_perform hind depth hl hpath v
  unfold Store.nesting Store.watchings
  rw [hw.same.subscriptions_eq]

/-! ### Answers -/

theorem relates_receive (hput : WritesAlike lookups key s s' put put') (hl : lookups key = some l)
    {errand errand' : Errand} (hworker : errand.worker = key) (hworker' : errand'.worker = key)
    (hkey : errand.key = errand'.key) (result : LookupResult) :
    Relates (Tandem lookups key s s') Eq
      (Engine.receive enginePart put isShown errand l.targets result)
      (Engine.receive enginePart put' isShown errand' l.targets result) := by
  subst hworker
  unfold Engine.receive
  rw [hworker', hkey]
  have hend : Relates (Tandem lookups errand.worker s s') Eq
      (Engine.updateWorker enginePart errand.worker (fun w => { w with lastKey := some errand'.key })
        >>= fun _ => Engine.announce enginePart errand.worker : Shift Unit)
      (Engine.updateWorker enginePart errand.worker (fun w => { w with lastKey := some errand'.key })
        >>= fun _ => Engine.announce enginePart errand.worker) :=
    relates_seq (relates_updateWorker (f := fun worker => { worker with lastKey := some errand'.key })
      (fun _ => rfl) (fun _ => rfl) (fun _ => rfl)) relates_announce
  cases result.verdict with
  | ok data =>
    refine relates_seq (V := Eq) (relates_seq (relates_updateWorker
      (f := fun worker => { worker with error := none }) (fun _ => rfl) (fun _ => rfl) (fun _ => rfl)) ?_) hend
    exact relates_seq (relates_enterPhase .success) (relates_writeTargets hput hl (fun _ => id) _)
  | error message =>
    refine relates_seq (V := Eq) (relates_seq (relates_updateWorker
      (f := fun worker => { worker with error := some message }) (fun _ => rfl) (fun _ => rfl)
      (fun _ => rfl)) ?_) hend
    exact relates_seq (relates_enterPhase .error) (relates_writeTargets hput hl (fun _ => id) _)

/-- An answer to a request that is named by its worker, and by how many others that worker had asked for
before. -/
structure Completion where
  /-- The worker. -/
  worker : String
  /-- The place of the request among those of the worker. -/
  place : Nat
  /-- The answer. -/
  result : LookupResult

/-- A request that was asked for is answered. -/
def conclude (c : Completion) : Shift Unit := do
  match ((← get).parts.ledger.asked c.worker)[c.place]? with
  | some errand => complete errand.id c.result
  | none => return

theorem run_conclude_of_some {c : Completion} {errand : Errand}
    (h : (w.parts.ledger.asked c.worker)[c.place]? = some errand) :
    (conclude c).run w = (complete errand.id c.result).run w := by
  show (match (w.parts.ledger.asked c.worker)[c.place]? with
    | some errand => complete errand.id c.result
    | none => pure () : Shift Unit).run w = _
  rw [h]

theorem run_conclude_of_none {c : Completion} (h : (w.parts.ledger.asked c.worker)[c.place]? = none) :
    (conclude c).run w = .ok () w := by
  show (match (w.parts.ledger.asked c.worker)[c.place]? with
    | some errand => complete errand.id c.result
    | none => pure () : Shift Unit).run w = _
  rw [h]
  rfl

/-- A request in flight is found by its number. -/
theorem errand?_of_isInFlight {errand : Errand} (hn : w.parts.ledger.Numbered)
    (hin : errand ∈ w.parts.ledger.requests) (h : w.parts.ledger.isInFlight errand.id = true) :
    w.parts.desk.engine.errand? errand.id = some errand := by
  obtain ⟨found, hfound, hid⟩ := List.any_eq_true.mp h
  cases herrand : w.parts.desk.engine.errand? errand.id with
  | none => exact absurd hid (by simpa using List.find?_eq_none.mp herrand found hfound)
  | some other =>
    have hother : other.id = errand.id := by simpa using List.find?_some herrand
    rw [hn.eq_of_id (hn.mem_requests (List.mem_of_find?_eq_some herrand)) hin hother]

theorem errand?_of_not_isInFlight {id : Nat} (h : w.parts.ledger.isInFlight id = false) :
    w.parts.desk.engine.errand? id = none := by
  rw [Engine.errand?, List.find?_eq_none]
  exact List.any_eq_false.mp h

/-- The requests of a worker in one place are the same but for their numbers. -/
theorem sameSlip_of_sheet (h : w.parts.sheet key = w'.parts.sheet key) (place : Nat) :
    Option.Rel (fun errand errand' => w.parts.ledger.slip key errand = w'.parts.ledger.slip key errand')
      (w.parts.ledger.asked key)[place]? (w'.parts.ledger.asked key)[place]? := by
  have hslips : (w.parts.ledger.slips key)[place]? = (w'.parts.ledger.slips key)[place]? :=
    congrArg (fun sheet : Sheet => sheet.slips[place]?) h
  rw [Ledger.slips, Ledger.slips, List.getElem?_map, List.getElem?_map] at hslips
  revert hslips
  generalize (w.parts.ledger.asked key)[place]? = found, (w'.parts.ledger.asked key)[place]? = found'
  intro hslips
  cases found with
  | none =>
    cases found' with
    | none => exact .none
    | some errand' => cases hslips
  | some errand =>
    cases found' with
    | none => cases hslips
    | some errand' => exact .some (Option.some.inj hslips)

/-- Once an answer has landed, the worker takes it in both worlds or in neither. -/
theorem alike_landed (hind : Independent lookups) {errand errand' : Errand} {result : LookupResult}
    (hw : Tandem lookups key s s' (answered w errand result) (answered w' errand' result))
    (herrand : w.parts.desk.engine.errand? errand.id = some errand)
    (herrand' : w'.parts.desk.engine.errand? errand'.id = some errand')
    (hworker : errand.worker = key) (hworker' : errand'.worker = key) (hkey : errand.key = errand'.key)
    (hcurrent : (answered w errand result).parts.ledger.isCurrent key errand.id
      = (answered w' errand' result).parts.ledger.isCurrent key errand'.id) :
    Run.Alike (Tandem lookups key s s') Eq ((complete errand.id result).run w)
      ((complete errand'.id result).run w') := by
  -- the worker is there on both sides or on neither, and takes the answer on both or on neither
  have hsame := sameWorker_of_sheet hw.same.sheet_eq
  cases hfound : (answered w errand result).parts.desk.engine.workers.get? key with
  | none =>
    cases hfound' : (answered w' errand' result).parts.desk.engine.workers.get? key with
    | none =>
      rw [run_complete_of_gone herrand (hworker.symm ▸ hfound),
        run_complete_of_gone herrand' (hworker'.symm ▸ hfound')]
      exact .ok rfl hw
    | some worker' =>
      rw [hfound, hfound'] at hsame
      cases hsame
  | some worker =>
    cases hfound' : (answered w' errand' result).parts.desk.engine.workers.get? key with
    | none =>
      rw [hfound, hfound'] at hsame
      cases hsame
    | some worker' =>
      rw [hfound, hfound'] at hsame
      rw [run_complete_of_some herrand (hworker.symm ▸ hfound),
        run_complete_of_some herrand' (hworker'.symm ▸ hfound'), ← isCurrent_of_worker hfound,
        ← isCurrent_of_worker hfound', hcurrent]
      split
      · cases hsame with
        | some hsame =>
          have hl := hw.same.ordered.lookup_eq hfound
          rw [← hsame.lookup_eq]
          exact relates_receive (writesAlike_put hind) hl hworker hworker' hkey result _ _ hw
      · exact .ok rfl hw

/-- Answers to the same request of a worker do the same. -/
theorem alike_complete (hind : Independent lookups) (hw : Tandem lookups key s s' w w') {place : Nat}
    {errand errand' : Errand} (hplace : (w.parts.ledger.asked key)[place]? = some errand)
    (hplace' : (w'.parts.ledger.asked key)[place]? = some errand')
    (hslip : w.parts.ledger.slip key errand = w'.parts.ledger.slip key errand') (result : LookupResult) :
    Run.Alike (Tandem lookups key s s') Eq ((complete errand.id result).run w)
      ((complete errand'.id result).run w') := by
  obtain ⟨hrequest, hworker⟩ := Ledger.mem_asked_iff.mp (List.mem_of_getElem? hplace)
  obtain ⟨hrequest', hworker'⟩ := Ledger.mem_asked_iff.mp (List.mem_of_getElem? hplace')
  have hflight : w.parts.ledger.isInFlight errand.id = w'.parts.ledger.isInFlight errand'.id :=
    congrArg Slip.inFlight hslip
  cases hflies : w.parts.ledger.isInFlight errand.id with
  | false =>
    rw [run_complete_of_none (errand?_of_not_isInFlight hflies),
      run_complete_of_none (errand?_of_not_isInFlight (hflight.symm.trans hflies))]
    exact .ok rfl hw
  | true =>
    have herrand := errand?_of_isInFlight hw.same.ordered.numbered hrequest hflies
    have herrand' := errand?_of_isInFlight hw.same.ordered'.numbered hrequest' (hflight.symm.trans hflies)
    have hlanded : Tandem lookups key s s' (answered w errand result) (answered w' errand' result) :=
      hw.turn (turns_land hw.same.ordered.numbered hplace result)
        (turns_land hw.same.ordered'.numbered hplace' result)
    -- landing does not change which request is the current one
    refine alike_landed hind hlanded herrand herrand' hworker hworker' (congrArg Slip.key hslip) ?_
    rw [ledger_answered, ledger_answered, ← hworker, isCurrent_land, hworker, ← hworker',
      isCurrent_land, hworker']
    exact congrArg Slip.isCurrent hslip

/-- **An answer to a worker** does the same where the worker sees the same. -/
theorem relates_conclude (hind : Independent lookups) (c : Completion) :
    Relates (Tandem lookups c.worker s s') Eq (conclude c) (conclude c) := by
  intro w w' hw
  have hfound := sameSlip_of_sheet hw.same.sheet_eq c.place
  cases hplace : (w.parts.ledger.asked c.worker)[c.place]? with
  | none =>
    cases hplace' : (w'.parts.ledger.asked c.worker)[c.place]? with
    | none =>
      rw [run_conclude_of_none hplace, run_conclude_of_none hplace']
      exact .ok rfl hw
    | some errand' =>
      rw [hplace, hplace'] at hfound
      cases hfound
  | some errand =>
    cases hplace' : (w'.parts.ledger.asked c.worker)[c.place]? with
    | none =>
      rw [hplace, hplace'] at hfound
      cases hfound
    | some errand' =>
      rw [hplace, hplace'] at hfound
      rw [run_conclude_of_some hplace, run_conclude_of_some hplace']
      cases hfound with
      | some hslip => exact alike_complete hind hw hplace hplace' hslip c.result

end Journal

end DynamicForms
