import DynamicForms.Proofs.Lookup.Turn

/-!
# `DynamicForms.Proofs.Lookup.Telling` — a write at a desk with all that follows from it

While a write is being told of, the workers still to be told are owed news of what has changed since
the data before it. Each turn settles what one of them is owed, whatever that worker writes in its turn;
and when the last one was told nobody is owed anything by this write. Writes made in between add to
what is owed and settle it again, so this goes for nested writes as well.

Runs are *guarded* here: they are refused as soon as a worker is told of a change while some watched
value is not simple. In a run that is not refused all writes come to an end: clearings that follow from
one another leave ever fewer values that are not the empty text, and there is room for as many nested
writes as there are watched values.

## Contents
- `Desk.guard`, `Desk.guarded`.
- **What is owed.** `Desk.pending`, `caught_withData`.
- **Telling.** `Desk.Course`, `refusedOr_tell`, `refusedOr_telling`.
- **Nested clearings.** `clears_perform`.
- **Writes.** `clears_write`, `refusedOr_write`.
-/

namespace DynamicForms

open Value (Object)
open Path (IsWhole)

namespace Desk

/-- Refuse to go on while some watched value is not simple. -/
def guard : Shift Unit := do
  if isSimple (← get) then return
  throw .notWritable

/-- A worker that is told of a change looks at the form, provided that watched values are simple. -/
def guarded : React String Desk := fun write key news => do
  guard
  react write key news

variable {lookups : String → Option Lookup} {w w' : World String Desk}
  {owed : String → Object → Prop} {key : String} {worker : Worker} {put : Writer String Desk}
  {room : World String Desk → Prop} {wr : Write} {sub : Subscription String}
  {rest : List (Subscription String)} {data : Object}

theorem run_guard (w : World String Desk) :
    guard.run w = if isSimple w = true then .ok () w else .error .notWritable w := by
  have hrun : guard.run w = (if isSimple w = true then pure () else throw .notWritable :
      Shift Unit).run w := by
    unfold guard
    simp only [EStateM.run_bind]
    show (if isSimple w = true then _ else _ : Shift Unit).run w = _
    cases isSimple w <;> rfl
  rw [hrun]
  cases isSimple w <;> rfl

theorem isRefused_of_guard (h : isSimple w = false) (m : Shift Unit) :
    (guard >>= fun _ => m).IsRefused w := by
  refine Run.IsRefused.bind ⟨w, ?_⟩ _
  rw [run_guard, h]
  rfl

theorem run_of_guard (h : isSimple w = true) (m : Shift Unit) :
    (guard >>= fun _ => m).run w = m.run w := by
  rw [EStateM.run_bind, run_guard, if_pos h]

/-! ## What is owed -/

/-- What is owed while some subscriptions are still to be told what has changed since some data. -/
def pending (data : Object) (rest : List (Subscription String)) (owed : String → Object → Prop) :
    String → Object → Prop :=
  fun key old => (old = data ∧ ∃ sub ∈ rest, sub.owner = key) ∨ owed key old

theorem Books.paths_eq (h : Books lookups w) (hsub : sub ∈ w.store.subscriptions)
    (hworker : worker? w sub.owner = some worker) :
    sub.paths = some worker.lookup.dependencyPaths.eraseDups := by
  obtain ⟨other, hother, -, heq⟩ := h.owner hsub
  obtain rfl : worker = other := Option.some.inj (hworker.symm.trans hother)
  rw [heq]
  rfl

/-- The values that a subscription watches are watched. -/
theorem Books.mem_watchings (h : Books lookups w) (hsub : sub ∈ w.store.subscriptions)
    (hworker : worker? w sub.owner = some worker) {path : String}
    (hpath : path ∈ worker.lookup.dependencyPaths) :
    (sub.owner, path) ∈ w.store.watchings := by
  unfold Store.watchings
  rw [List.mem_flatMap]
  refine ⟨sub, hsub, ?_⟩
  rw [h.paths_eq hsub hworker, Option.getD_some]
  exact List.mem_map_of_mem (List.mem_eraseDups.mpr hpath)

/-- A watched value is one that the lookup of a worker depends on. -/
theorem Books.exists_of_mem_watchings (h : Books lookups w) {entry : String × String}
    (hentry : entry ∈ w.store.watchings) :
    ∃ sub worker, sub ∈ w.store.subscriptions ∧ sub.owner = entry.1 ∧
      worker? w entry.1 = some worker ∧ entry.2 ∈ worker.lookup.dependencyPaths := by
  unfold Store.watchings at hentry
  obtain ⟨sub, hsub, hpath⟩ := List.mem_flatMap.mp hentry
  obtain ⟨worker, hworker, -, -⟩ := h.owner hsub
  rw [h.paths_eq hsub hworker, Option.getD_some] at hpath
  obtain ⟨path, hmem, rfl⟩ := List.mem_map.mp hpath
  exact ⟨sub, worker, hsub, rfl, hworker, List.mem_eraseDups.mp hmem⟩

theorem Books.isWhole_of_mem_watchings (h : Books lookups w) {entry : String × String}
    (hentry : entry ∈ w.store.watchings) : IsWhole entry.2 := by
  obtain ⟨sub, worker, -, -, hworker, hpath⟩ := h.exists_of_mem_watchings hentry
  exact (h.whole hworker).dependencies _ hpath

theorem isSimple_iff : isSimple w = true ↔
    ∀ entry ∈ w.store.watchings, (Path.read (.object w.store.data) entry.2).isSimple = true := by
  unfold isSimple
  rw [List.all_eq_true]
  rfl

/-- Once new data is in place, those that the write concerns are owed news; what the others depend on
    is as it was. -/
theorem caught_withData (hw : Books lookups w) (hcaught : Caught owed none w) (hwr : wr.IsWhole) :
    Caught (pending w.store.data (w.store.concerned wr) owed) none
      (w.withData (wr.after w.store.data)) := by
  intro key worker hworker hopen hne
  rcases hcaught key worker hworker hopen hne with hfits | ⟨old, howed, hfits⟩
  · cases hticket : worker.ticket with
    | none =>
      -- it needs no ticket, for it depends on nothing
      left
      have hnothing : worker.lookup.dependsOn = [] := by
        simpa [Worker.isOpen, hticket] using hopen
      refine hfits.congr fun path hpath => ?_
      rw [Lookup.dependencyPaths, hnothing] at hpath
      cases hpath
    | some ticket =>
      have hsub := hw.subscribed hworker hticket
      by_cases hconcerned : worker.subscription key ticket ∈ w.store.concerned wr
      · exact Or.inr ⟨w.store.data, Or.inl ⟨rfl, _, hconcerned, rfl⟩, hfits⟩
      · left
        refine hfits.congr fun path hpath => ?_
        refine (read_after_of_not_concerned hwr hsub rfl (fun c hc => ?_) hconcerned _ path
          (List.mem_eraseDups.mpr hpath)).symm
        exact (hw.whole hworker).dependencies c (List.mem_eraseDups.mp hc)
  · exact Or.inr ⟨old, Or.inr howed, hfits⟩

/-- A subscription that sees no change is owed nothing. -/
theorem Orderly.skip (h : Orderly lookups (pending data (sub :: rest) owed) none w)
    (hsub : sub ∈ w.store.subscriptions) (hworker : worker? w sub.owner = some worker)
    (hsame : ∀ path ∈ worker.lookup.dependencyPaths,
      Path.read (.object data) path = Path.read (.object w.store.data) path) :
    Orderly lookups (pending data rest owed) none w where
  books := h.books
  simple := h.simple
  caught key other hother hopen hne := by
    rcases h.caught key other hother hopen hne with hfits | ⟨old, howed, hfits⟩
    · exact Or.inl hfits
    · rcases howed with ⟨rfl, waiting, hmem, rfl⟩ | howed
      · rcases List.mem_cons.mp hmem with rfl | hrest
        · obtain rfl : worker = other := Option.some.inj (hworker.symm.trans hother)
          exact Or.inl (hfits.congr hsame)
        · exact Or.inr ⟨old, Or.inl ⟨rfl, waiting, hrest, rfl⟩, hfits⟩
      · exact Or.inr ⟨old, Or.inr howed, hfits⟩

/-- When it is the turn of a worker, only the others are owed anything. -/
theorem Orderly.putAside (h : Orderly lookups (pending data (sub :: rest) owed) none w) :
    Orderly lookups (pending data rest owed) (some sub.owner) w where
  books := h.books
  simple := h.simple
  caught key worker hworker hopen hne := by
    rcases h.caught key worker hworker hopen (Option.some_ne_none key) with
      hfits | ⟨old, howed, hfits⟩
    · exact Or.inl hfits
    · refine Or.inr ⟨old, ?_, hfits⟩
      rcases howed with ⟨rfl, waiting, hmem, rfl⟩ | howed
      · rcases List.mem_cons.mp hmem with rfl | hrest
        · exact absurd rfl hne
        · exact Or.inl ⟨rfl, waiting, hrest, rfl⟩
      · exact Or.inr howed

/-! ## Telling -/

/-- A property of the subscriptions still to be told and the world that is kept while they are being
    told what has changed since some data, and says that there is room for clearing when there has to
    be. -/
structure Course (lookups : String → Option Lookup) (data : Object) (room : World String Desk → Prop)
    (K : List (Subscription String) → World String Desk → Prop) : Prop where
  /-- One that sees no change. -/
  skip : ∀ {sub rest w worker}, Books lookups w → sub ∈ w.store.subscriptions →
    worker? w sub.owner = some worker →
    (∀ path ∈ worker.lookup.dependencyPaths,
      Path.read (.object data) path = Path.read (.object w.store.data) path) →
    K (sub :: rest) w → K rest w
  /-- One that sees a change has its turn. -/
  turn : ∀ {sub rest w w' worker path}, Books lookups w → sub ∈ w.store.subscriptions →
    worker? w sub.owner = some worker → path ∈ worker.lookup.dependencyPaths →
    (Path.read (.object data) path).sameValue (Path.read (.object w.store.data) path) = false →
    K (sub :: rest) w → Turn sub.owner w w' → K rest w'
  /-- One that sees a change and will clear its targets. -/
  clears : ∀ {sub rest w worker path}, Books lookups w → sub ∈ w.store.subscriptions →
    worker? w sub.owner = some worker → path ∈ worker.lookup.dependencyPaths →
    (Path.read (.object data) path).sameValue (Path.read (.object w.store.data) path) = false →
    K (sub :: rest) w → worker.wasReady = true →
    worker.lookup.isUnregistered w.store.data = false → room w

variable {K : List (Subscription String) → World String Desk → Prop}

theorem isActive_of_mem (h : sub ∈ w.store.subscriptions) :
    w.store.isActive sub.ticket = true := by
  unfold Store.isActive
  rw [List.any_eq_true]
  exact ⟨sub, h, beq_self_eq_true _⟩

/-- A subscription that is told sees no change, or one of its values has changed and its worker has its
turn. -/
theorem run_tell_cases (put : Writer String Desk) (wr : Write) (data : Object)
    (hbooks : Books lookups w) (hsimple : isSimple w = true) (hsub : sub ∈ w.store.subscriptions)
    (hworker : worker? w sub.owner = some worker) :
    ((∀ path ∈ worker.lookup.dependencyPaths,
        Path.read (.object data) path = Path.read (.object w.store.data) path) ∧
      (tell (guarded put) wr (sub.capture data)).run w = .ok () w) ∨
    ∃ path ∈ worker.lookup.dependencyPaths,
      (Path.read (.object data) path).sameValue (Path.read (.object w.store.data) path) = false ∧
      (tell (guarded put) wr (sub.capture data)).run w
        = (Engine.evaluate enginePart put isShown sub.owner).run w := by
  have hpaths := hbooks.paths_eq hsub hworker
  cases hnews : (sub.capture data).news? w.store.data wr with
  | none =>
    -- simple values that are taken for the same are the same
    refine Or.inl ⟨fun path hpath => ?_, run_tell_of_no_news hnews⟩
    exact Value.eq_of_sameValue ((news?_eq_none_iff hpaths).mp hnews path
      (List.mem_eraseDups.mpr hpath))
      (isSimple_iff.mp hsimple _ (hbooks.mem_watchings hsub hworker hpath))
  | some news =>
    obtain ⟨path, hpath, hchanged⟩ : ∃ path ∈ worker.lookup.dependencyPaths,
        (Path.read (.object data) path).sameValue (Path.read (.object w.store.data) path)
          = false := by
      by_contra hnone
      have hall : (sub.capture data).news? w.store.data wr = none := by
        rw [news?_eq_none_iff hpaths]
        intro path hpath
        by_contra hne
        exact hnone ⟨path, List.mem_eraseDups.mp hpath, by simpa using hne⟩
      rw [hnews] at hall
      cases hall
    refine Or.inr ⟨path, hpath, hchanged, ?_⟩
    rw [run_tell_of_news (isActive_of_mem hsub) hnews]
    exact run_of_guard hsimple _

/-- **One subscription is told**: it is owed nothing any more. -/
theorem refusedOr_tell (hput : Clears lookups put room) (hK : Course lookups data room K)
    (hsub : sub ∈ w.store.subscriptions)
    (hw : Orderly lookups (pending data (sub :: rest) owed) none w)
    (h : K (sub :: rest) w) :
    (tell (guarded put) wr (sub.capture data)).RefusedOr w fun w' =>
      Orderly lookups (pending data rest owed) none w' ∧ K rest w' ∧
        w'.store.subscriptions = w.store.subscriptions := by
  obtain ⟨worker, hworker, -, -⟩ := hw.books.owner hsub
  rcases run_tell_cases put wr data hw.books hw.simple hsub hworker with
    ⟨hsame, hrun⟩ | ⟨path, hpath, hchanged, hrun⟩
  · exact Or.inr ⟨(), w, hrun, hw.skip hsub hworker hsame,
      hK.skip hw.books hsub hworker hsame h, rfl⟩
  · -- from now on the worker is aside, and its turn is like any other
    have hturn : (Engine.evaluate enginePart put isShown sub.owner).RefusedOr w fun w' =>
        Orderly lookups (pending data rest owed) none w' ∧ Turn sub.owner w w' := by
      refine refusedOr_evaluate hput hw.putAside fun {other} hother _ hready hthere => ?_
      obtain rfl : worker = other := Option.some.inj (hworker.symm.trans hother)
      exact hK.clears hw.books hsub hworker hpath hchanged h hready hthere
    rw [Run.RefusedOr, Run.IsRefused, Run.Yields, hrun]
    exact hturn.mono fun w' hw' => ⟨hw'.1,
      hK.turn hw.books hsub hworker hpath hchanged h hw'.2, hw'.2.subscriptions_eq⟩

/-- **All are told**: nobody is owed anything by this write. -/
theorem refusedOr_telling (hput : Clears lookups put room) (hK : Course lookups data room K)
    {subs : List (Subscription String)} (hsubs : ∀ sub ∈ subs, sub ∈ w.store.subscriptions)
    (hw : Orderly lookups (pending data subs owed) none w) (h : K subs w) :
    ((subs.map fun sub => sub.capture data).forM (tell (guarded put) wr)).RefusedOr w fun w' =>
      Orderly lookups owed none w' ∧ K [] w' := by
  induction subs generalizing w with
  | nil =>
    refine Or.inr ⟨(), w, rfl, ⟨hw.books, hw.simple, fun key worker hworker hopen hne => ?_⟩, h⟩
    rcases hw.caught key worker hworker hopen hne with
      hfits | ⟨old, ⟨-, sub, hmem, -⟩ | howed, hfits⟩
    · exact Or.inl hfits
    · cases hmem
    · exact Or.inr ⟨old, howed, hfits⟩
  | cons sub rest ih =>
    show (tell (guarded put) wr (sub.capture data) >>= fun _ =>
      (rest.map fun sub => sub.capture data).forM (tell (guarded put) wr)).RefusedOr w _
    refine (refusedOr_tell hput hK (hsubs sub List.mem_cons_self) hw h).bind fun _ w' h' => ?_
    refine ih (fun other ho => ?_) h'.1 h'.2.1
    rw [h'.2.2]
    exact hsubs other (List.mem_cons_of_mem _ ho)

/-- Telling is refused if somebody has news and watched values are not simple. -/
theorem isRefused_telling {subs : List (Subscription String)} (hsimple : isSimple w = false)
    (hsubs : ∀ sub ∈ subs, sub ∈ w.store.subscriptions)
    (hnews : ∃ sub ∈ subs, (sub.capture data).news? w.store.data wr ≠ none) :
    ((subs.map fun sub => sub.capture data).forM (tell (guarded put) wr)).IsRefused w := by
  induction subs with
  | nil =>
    obtain ⟨sub, hmem, -⟩ := hnews
    cases hmem
  | cons first rest ih =>
    show (tell (guarded put) wr (first.capture data) >>= fun _ =>
      (rest.map fun sub => sub.capture data).forM (tell (guarded put) wr)).IsRefused w
    -- nothing happens until the first who has news meets the guard
    cases hfirst : (first.capture data).news? w.store.data wr with
    | some news =>
      refine Run.IsRefused.bind ?_ _
      rw [Run.IsRefused,
        run_tell_of_news (isActive_of_mem (hsubs first List.mem_cons_self)) hfirst]
      exact isRefused_of_guard hsimple (react put first.owner news)
    | none =>
      have hrest : ∃ sub ∈ rest, (sub.capture data).news? w.store.data wr ≠ none := by
        obtain ⟨sub, hmem, hsome⟩ := hnews
        rcases List.mem_cons.mp hmem with rfl | hmem
        · exact absurd hfirst hsome
        · exact ⟨sub, hmem, hsome⟩
      obtain ⟨w', hrefused⟩ := ih (fun sub hsub => hsubs sub (List.mem_cons_of_mem _ hsub)) hrest
      refine ⟨w', ?_⟩
      rw [EStateM.run_bind, run_tell_of_no_news hfirst]
      exact hrefused

/-- Somebody has news if a watched value is not simple any more. -/
theorem exists_news (hw : Books lookups w) (hsimple : isSimple w = true) (hwr : wr.IsWhole)
    (hafter : isSimple (w.withData (wr.after w.store.data)) = false) :
    ∃ sub ∈ w.store.concerned wr,
      (sub.capture w.store.data).news? (wr.after w.store.data) wr ≠ none := by
  rw [← Bool.not_eq_true, isSimple_iff] at hafter
  obtain ⟨entry, hafter⟩ := Classical.not_forall.mp hafter
  obtain ⟨hentry, hvalue⟩ := Classical.not_imp.mp hafter
  replace hentry : entry ∈ w.store.watchings := hentry
  have hbefore := isSimple_iff.mp hsimple entry hentry
  obtain ⟨sub, worker, hsub, howner, hworker, hpath⟩ := hw.exists_of_mem_watchings hentry
  rw [← howner] at hworker
  have hpaths := hw.paths_eq hsub hworker
  have hwhole : ∀ c ∈ worker.lookup.dependencyPaths.eraseDups, IsWhole c := fun c hc =>
    (hw.whole hworker).dependencies c (List.mem_eraseDups.mp hc)
  refine ⟨sub, ?_, fun hnone => ?_⟩
  · -- whom the write does not concern sees what it saw before
    by_contra hnot
    have hsame := read_after_of_not_concerned hwr hsub hpaths hwhole hnot w.store.data entry.2
      (List.mem_eraseDups.mpr hpath)
    exact hvalue ((congrArg Value.isSimple hsame).trans hbefore)
  · have hsame := (news?_eq_none_iff hpaths).mp hnone entry.2 (List.mem_eraseDups.mpr hpath)
    exact hvalue ((Value.isSimple_eq_of_sameValue hsame).symm.trans hbefore)

/-- What comes of a write is what comes of telling those whom it concerns, with the new data in place. -/
theorem refusedOr_perform_of_telling {depth : Nat} {Q : World String Desk → Prop} (hwr : wr.IsWhole)
    (hw : Orderly lookups owed none w) (hsame : Q w)
    (htelling : Orderly lookups (pending w.store.data (w.store.concerned wr) owed) none
        (w.withData (wr.after w.store.data)) →
      (((w.store.concerned wr).map fun sub => sub.capture w.store.data).forM
        (tell (guarded (perform guarded depth)) wr)).RefusedOr
          (w.withData (wr.after w.store.data)) Q) :
    (perform guarded (depth + 1) wr).RefusedOr w Q := by
  rcases Write.change?_cases hwr.isPlaced w.store.data with ⟨hnone, -⟩ | hsome
  · exact Or.inr ⟨false, w, run_perform_of_none _ _ hnone, hsame⟩
  · rw [Run.RefusedOr, Run.IsRefused, Run.Yields, run_perform_of_some guarded depth hsome,
      captureFor_eq]
    -- either the guard stops the write at the first who is told of it, or all values are simple again
    cases hafter : isSimple (w.withData (wr.after w.store.data)) with
    | false =>
      exact Or.inl ((isRefused_telling hafter (concerned_sublist w.store wr).subset
        (exists_news hw.books hw.simple hwr hafter)).bind _)
    | true =>
      have hplaced : Orderly lookups (pending w.store.data (w.store.concerned wr) owed) none
          (w.withData (wr.after w.store.data)) :=
        ⟨hw.books.carry (carries_withData w _), hafter, caught_withData hw.books hw.caught hwr⟩
      exact (htelling hplaced).bind fun _ w' h' => Or.inr ⟨true, w', rfl, h'⟩

/-- **A write with all that follows from it**, if there is a course to be kept while it is told of. -/
theorem refusedOr_perform {depth : Nat} {Q : World String Desk → Prop}
    (hput : Clears lookups (perform guarded depth) room) (hwr : wr.IsWhole)
    (hw : Orderly lookups owed none w)
    (hsame : Q w)
    (hcourse : isSimple (w.withData (wr.after w.store.data)) = true →
      ∃ K, Course lookups w.store.data room K ∧
        K (w.store.concerned wr) (w.withData (wr.after w.store.data)) ∧ ∀ w', K [] w' → Q w') :
    (perform guarded (depth + 1) wr).RefusedOr w fun w' => Orderly lookups owed none w' ∧ Q w' := by
  refine refusedOr_perform_of_telling hwr hw ⟨hw, hsame⟩ fun hplaced => ?_
  obtain ⟨K, hK, hstart, hend⟩ := hcourse hplaced.simple
  have hsubs : ∀ sub ∈ w.store.concerned wr,
      sub ∈ (w.withData (wr.after w.store.data)).store.subscriptions :=
    (concerned_sublist w.store wr).subset
  exact (refusedOr_telling hput hK hsubs hplaced hstart).mono fun w' h' => ⟨h'.1, hend w' h'.2⟩

/-! ## Nested clearings -/

/-- While a clearing is told of that takes nothing away, values fade and there is less and less to
    clear. -/
theorem course_turned (hsimple : isSimple w = true) {depth : Nat} (hdepth : uncleared w ≤ depth) :
    Course lookups w.store.data (fun w' => uncleared w' < depth) fun _ w' => Fades w w' := by
  -- what has become of a value that has changed
  have hbecome : ∀ {sub w' worker path}, Books lookups w' → sub ∈ w'.store.subscriptions →
      worker? w' sub.owner = some worker → path ∈ worker.lookup.dependencyPaths →
      (Path.read (.object w.store.data) path).sameValue (Path.read (.object w'.store.data) path)
        = false → Fades w w' →
      (sub.owner, path) ∈ w.store.watchings ∧
        (w'.store.get path = .text "" ∨ w'.store.get path = .absent) := by
    intro sub w' worker path hbooks hsub hworker hpath hchanged hfades
    have hwatch : (sub.owner, path) ∈ w.store.watchings :=
      watchings_eq hfades.subscriptions_eq ▸ hbooks.mem_watchings hsub hworker hpath
    refine ⟨hwatch, ?_⟩
    rcases hfades.value hwatch with hsame | hempty | ⟨hgone, -⟩
    · replace hchanged : (w.store.get path).sameValue (w'.store.get path) = false := hchanged
      have hself : (w.store.get path).sameValue (w.store.get path) = true :=
        Value.sameValue_self (isSimple_iff.mp hsimple _ hwatch)
      rw [hsame, hself] at hchanged
      cases hchanged
    · exact Or.inl hempty
    · exact Or.inr hgone
  constructor
  · intro _ _ _ _ _ _ _ _ hfades
    exact hfades
  · intro sub rest w₁ w₂ worker path hbooks hsub hworker hpath hchanged hfades hturn
    -- what has changed is empty, so the lookup is not ready
    obtain ⟨-, hbecame⟩ := hbecome hbooks hsub hworker hpath hchanged hfades
    have hempty : (Path.read (.object w₁.store.data) path).isFilledIn = false := by
      rcases hbecame with h | h <;> rw [show Path.read (.object w₁.store.data) path = _ from h] <;>
        rfl
    have hkey := Lookup.requestKey?_of_not_filledIn hpath hempty
    exact hfades.trans (hturn.fades hworker hkey).1
  · intro sub rest w₁ worker path hbooks hsub hworker hpath hchanged hfades hready hthere
    obtain ⟨hwatch, hbecame⟩ := hbecome hbooks hsub hworker hpath hchanged hfades
    rcases hbecame with hempty | hgone
    · -- one more value has turned into the empty text
      have hwas : wasReady w₁ sub.owner = true := by
        unfold wasReady
        rw [hworker]
        exact hready
      have hbefore : (w.store.get path).sameValue (.text "") = false := by
        rw [← hempty]
        exact hchanged
      have hless := hfades.uncleared_lt hwatch hwas hbefore hempty
      omega
    · rw [Lookup.isUnregistered_of_absent hpath hgone] at hthere
      cases hthere

/-- A clearing that takes values away: the data stays as it is while the others are told, and whoever is
    still ready and has lost a value is still to be told. -/
structure Loses (w : World String Desk) (after : Object) (rest : List (Subscription String))
    (w' : World String Desk) : Prop where
  /-- The subscriptions. -/
  subscriptions_eq : w'.store.subscriptions = w.store.subscriptions
  /-- The data. -/
  data_eq : w'.store.data = after
  /-- No worker has become ready. -/
  ready : ∀ {key}, wasReady w' key = true → wasReady w key = true
  /-- Whoever is still ready has lost nothing or is still to be told. -/
  told : ∀ {key path}, (key, path) ∈ w.store.watchings → wasReady w' key = true →
    Path.read (.object after) path = w.store.get path ∨ ∃ sub ∈ rest, sub.owner = key

/-- While a clearing is told of that only takes values away, nobody clears anything. -/
theorem course_loses (hsimple : isSimple w = true) (room : World String Desk → Prop) {after : Object}
    (hgone : ∀ entry ∈ w.store.watchings,
      Path.read (.object after) entry.2 = Path.read (.object w.store.data) entry.2 ∨
      Path.read (.object after) entry.2 = .absent) :
    Course lookups w.store.data room (Loses w after) := by
  -- a value that has changed is gone
  have hlost : ∀ {sub rest w' worker path}, Books lookups w' → sub ∈ w'.store.subscriptions →
      worker? w' sub.owner = some worker → path ∈ worker.lookup.dependencyPaths →
      (Path.read (.object w.store.data) path).sameValue (Path.read (.object w'.store.data) path)
        = false → Loses w after rest w' → Path.read (.object w'.store.data) path = .absent := by
    intro sub rest w' worker path hbooks hsub hworker hpath hchanged hK
    have hwatch : (sub.owner, path) ∈ w.store.watchings :=
      watchings_eq hK.subscriptions_eq ▸ hbooks.mem_watchings hsub hworker hpath
    rw [hK.data_eq] at hchanged ⊢
    rcases hgone _ hwatch with hsame | habsent
    · have hself := Value.sameValue_self (isSimple_iff.mp hsimple _ hwatch)
      replace hsame : Path.read (.object after) path = Path.read (.object w.store.data) path := hsame
      rw [hsame, hself] at hchanged
      cases hchanged
    · exact habsent
  constructor
  · intro sub rest w' worker hbooks hsub hworker hsame hK
    refine ⟨hK.subscriptions_eq, hK.data_eq, hK.ready, fun {key path} hwatch hready => ?_⟩
    rcases hK.told hwatch hready with hkept | ⟨waiting, hmem, rfl⟩
    · exact Or.inl hkept
    · rcases List.mem_cons.mp hmem with rfl | hrest
      · left
        obtain ⟨other, otherWorker, -, howner, hother, hpath⟩ :=
          hbooks.exists_of_mem_watchings (watchings_eq hK.subscriptions_eq ▸ hwatch)
        obtain rfl : worker = otherWorker := Option.some.inj (hworker.symm.trans hother)
        rw [← hK.data_eq]
        exact (hsame path hpath).symm
      · exact Or.inr ⟨waiting, hrest, rfl⟩
  · intro sub rest w₁ w₂ worker path hbooks hsub hworker hpath hchanged hK hturn
    have habsent := hlost hbooks hsub hworker hpath hchanged hK
    have hkey := Lookup.requestKey?_of_not_filledIn hpath (by rw [habsent]; rfl)
    obtain ⟨hfades, hnot⟩ := hturn.fades hworker hkey
    have hdata := hturn.data_eq hworker
      (Or.inl (Lookup.isUnregistered_of_absent hpath habsent))
    refine ⟨hturn.subscriptions_eq.trans hK.subscriptions_eq, hdata.trans hK.data_eq,
      fun hready => hK.ready (hfades.ready hready), fun {key other} hwatch hready => ?_⟩
    rcases hK.told hwatch (hfades.ready hready) with hkept | ⟨waiting, hmem, rfl⟩
    · exact Or.inl hkept
    · rcases List.mem_cons.mp hmem with rfl | hrest
      · rw [hnot] at hready
        cases hready
      · exact Or.inr ⟨waiting, hrest, rfl⟩
  · intro sub rest w' worker path hbooks hsub hworker hpath hchanged hK _ hthere
    rw [Lookup.isUnregistered_of_absent hpath (hlost hbooks hsub hworker hpath hchanged hK)] at hthere
    cases hthere

theorem Loses.fades {after : Object} (h : Loses w after [] w')
    (hgone : ∀ entry ∈ w.store.watchings,
      Path.read (.object after) entry.2 = Path.read (.object w.store.data) entry.2 ∨
      Path.read (.object after) entry.2 = .absent) : Fades w w' where
  subscriptions_eq := h.subscriptions_eq
  ready := h.ready
  value {key path} hwatch := by
    have hget : w'.store.get path = Path.read (.object after) path := by rw [← h.data_eq]; rfl
    rw [hget]
    rcases hgone _ hwatch with hsame | habsent
    · exact Or.inl hsame
    · cases hready : wasReady w' key with
      | false => exact Or.inr (Or.inr ⟨habsent, rfl⟩)
      | true =>
        rcases h.told hwatch hready with hkept | ⟨sub, hmem, -⟩
        · exact Or.inl hkept
        · cases hmem

theorem isWhole_set {path : String} (hpath : IsWhole path) (v : Value) :
    (Write.set path v).IsWhole := by
  intro other hother
  cases hother
  exact hpath

/-- A clearing that leaves watched values simple turns some into the empty text or takes some away. -/
theorem after_clear_cases (hw : Books lookups w) (hsimple : isSimple w = true) {path : String}
    (hpath : IsWhole path)
    (hafter : isSimple (w.withData ((Write.set path (.text "")).after w.store.data)) = true) :
    (∀ entry ∈ w.store.watchings,
      Path.read (.object ((Write.set path (.text "")).after w.store.data)) entry.2
          = Path.read (.object w.store.data) entry.2 ∨
        Path.read (.object ((Write.set path (.text "")).after w.store.data)) entry.2 = .text "") ∨
    ∀ entry ∈ w.store.watchings,
      Path.read (.object ((Write.set path (.text "")).after w.store.data)) entry.2
          = Path.read (.object w.store.data) entry.2 ∨
        Path.read (.object ((Write.set path (.text "")).after w.store.data)) entry.2 = .absent := by
  replace hafter := isSimple_iff.mp hafter
  rw [Write.after_set (Path.segments_ne_nil hpath)]
  split
  · exact Or.inl fun entry _ => Or.inl rfl
  · next hnew =>
    rw [Write.after_set (Path.segments_ne_nil hpath), if_neg hnew] at hafter
    replace hafter : ∀ entry ∈ w.store.watchings,
        (Path.read (.object (Path.place w.store.data (Path.segments path) (.text ""))) entry.2).isSimple
          = true := hafter
    have hcases := Path.read_clear_cases hpath (w.store.watchings.map (·.2)) (s := "")
      (List.forall_mem_map.mpr fun _ => hw.isWhole_of_mem_watchings)
      (List.forall_mem_map.mpr (isSimple_iff.mp hsimple)) (List.forall_mem_map.mpr hafter)
    simp only [List.forall_mem_map] at hcases
    exact hcases

/-- While a clearing is told of there is a course to be kept: values fade. -/
theorem exists_course_clear (hw : Orderly lookups owed none w) {path : String} (hpath : IsWhole path)
    {depth : Nat} (hdepth : uncleared w ≤ depth)
    (hafter : isSimple (w.withData ((Write.set path (.text "")).after w.store.data)) = true) :
    ∃ K, Course lookups w.store.data (fun w' => uncleared w' < depth) K ∧
      K (w.store.concerned (.set path (.text "")))
        (w.withData ((Write.set path (.text "")).after w.store.data)) ∧
      ∀ w', K [] w' → Fades w w' := by
  have hwr : (Write.set path (.text "")).IsWhole := isWhole_set hpath _
  rcases after_clear_cases hw.books hw.simple hpath hafter with hturned | hgone
  · refine ⟨_, course_turned hw.simple hdepth, ⟨rfl, id, fun hwatch => ?_⟩, fun _ => id⟩
    rcases hturned _ hwatch with hsame | hempty
    · exact Or.inl hsame
    · exact Or.inr (Or.inl hempty)
  · refine ⟨_, course_loses hw.simple _ hgone, ⟨rfl, rfl, id, fun {key other} hwatch _ => ?_⟩,
      fun w' h => h.fades hgone⟩
    -- whoever has lost a value is concerned
    obtain ⟨sub, worker, hsub, rfl, hworker, hmem⟩ := hw.books.exists_of_mem_watchings hwatch
    by_cases hconcerned : sub ∈ w.store.concerned (.set path (.text ""))
    · exact Or.inr ⟨sub, hconcerned, rfl⟩
    · left
      refine read_after_of_not_concerned hwr hsub (hw.books.paths_eq hsub hworker)
        (fun c hc => ?_) hconcerned _ other (List.mem_eraseDups.mpr hmem)
      exact (hw.books.whole hworker).dependencies c (List.mem_eraseDups.mp hc)

/-- **Nested clearings come to an end** if there is room for more of them than there are watched values
    to be cleared. -/
theorem clears_perform (depth : Nat) :
    Clears lookups (perform guarded depth) fun w => uncleared w < depth := by
  -- each nested clearing follows from a value that has just turned into the empty text
  induction depth with
  | zero => exact ⟨fun h => absurd h (Nat.not_lt_zero _), fun h => absurd h (Nat.not_lt_zero _)⟩
  | succ depth ih =>
    refine ⟨fun h hfades => Nat.lt_of_le_of_lt hfades.uncleared_le h, ?_⟩
    intro w path owed hroom hpath hw
    exact refusedOr_perform ih (isWhole_set hpath _) hw (.refl w) fun hafter =>
      exists_course_clear hw hpath (Nat.le_of_lt_succ hroom) hafter

/-! ## Writes -/

/-- While any write is told of there is room if there is room for clearing all watched values. -/
theorem course_of_room (w : World String Desk) (data : Object) {depth : Nat}
    (h : w.store.watchings.length < depth) :
    Course lookups data (fun w' => uncleared w' < depth)
      fun _ w' => w'.store.subscriptions = w.store.subscriptions := by
  constructor
  · intro _ _ _ _ _ _ _ _ hsubs
    exact hsubs
  · intro _ _ _ _ _ _ _ _ _ _ _ hsubs hturn
    exact hturn.subscriptions_eq.trans hsubs
  · intro sub rest w' worker path _ _ _ _ _ hsubs _ _
    have hcount := uncleared_le_watchings w'
    rw [watchings_eq hsubs] at hcount
    omega

/-- **A write at a desk** that is not refused comes to an end with everything in order. -/
theorem refusedOr_write (hwr : wr.IsWhole) (hw : Orderly lookups owed none w) :
    (write guarded wr).RefusedOr w fun w' =>
      Orderly lookups owed none w' ∧ w'.store.subscriptions = w.store.subscriptions := by
  have hroom : w.store.watchings.length < 188 + w.store.watchings.length + 1 := by omega
  have hrun := run_write guarded wr w
  rw [nesting_eq] at hrun
  rw [Run.RefusedOr, Run.IsRefused, Run.Yields, hrun]
  exact refusedOr_perform (clears_perform _) hwr hw rfl fun _ =>
    ⟨_, course_of_room w _ hroom, rfl, fun _ => id⟩

/-- There is always room for clearing with an outermost write. -/
theorem clears_write : Clears lookups (write guarded) fun _ => True := by
  refine ⟨fun _ _ => trivial, ?_⟩
  intro w path owed _ hpath hw
  have hcount := uncleared_le_watchings w
  rw [Run.RefusedOr, Run.IsRefused, Run.Yields, run_write]
  refine (clears_perform w.store.nesting).clear ?_ hpath hw
  rw [nesting_eq]
  omega

end Desk
end DynamicForms
