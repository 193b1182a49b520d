import DynamicForms.Proofs.Store.News
import DynamicForms.Proofs.Store.Reaction
import DynamicForms.Proofs.Value.Alike
import DynamicForms.Proofs.Visibility.Visible

/-!
# `DynamicForms.Proofs.Store.Missed` — subscribers miss nothing

While a write is being told of, subscribers may write themselves, and those writes are told of at
once; they may undo what the first write did, and subscriptions come and go. Still nobody misses a
change: at the end every subscription to paths has last been shown just what is there.

The argument follows what a subscription has been shown. From one world of a run to a later one it is
either *up to date* in the later one, or nothing has happened to it: it was there before, has not been
told, and what it watches has come back to what it was. That is reflexive and transitive, so it is
enough to see it of the single steps. For a write it holds as soon as everybody it concerns has been
told, and until then a subscription may also be one of those that wait.

## Contents
- `Moment.IsWhole`, `Moment.IsNews`, `lastSeen`.
- `Informs`: the relation between two worlds of a run, with `refl` and `trans`.
- `leadsAlong_performNoted`, `Reaction.leadsAlong_runNoted`.
- `Reaction.nothing_missed`.
-/

namespace DynamicForms

open Value (Object Indistinct)

variable {κ σ : Type}

/-! ## What the notes say -/

/-- Change detection takes for the same what it takes for the same in two steps. -/
theorem Value.Indistinct.trans {u v w : Value} (h : Indistinct u v) (h' : Indistinct v w) :
    Indistinct u w := by
  rcases h with rfl | h
  · exact h'
  · rcases h' with rfl | h'
    · exact Or.inr h
    · exact Or.inr (Value.sameValue_trans h h')

/-- A value has not changed for change detection. A value that is not the same as itself, such as a
NaN, is the very value that was there. -/
def Value.Unchanged (seen now : Value) : Prop :=
  Indistinct seen now ∧ (now.isComparable = true → seen.sameValue now = true)

theorem Value.Indistinct.unchanged {seen now : Value} (h : Indistinct seen now) :
    Value.Unchanged seen now := by
  refine ⟨h, fun hnow => ?_⟩
  rcases h with rfl | hsame
  · exact Value.sameValue_self_of_isComparable hnow
  · exact hsame

/-- A subscription to whole paths. -/
def Subscription.IsWhole (sub : Subscription κ) : Prop :=
  ∀ p ∈ sub.paths.getD [], Path.IsWhole p

instance Subscription.decidableIsWhole (sub : Subscription κ) : Decidable sub.IsWhole :=
  inferInstanceAs (Decidable (∀ p ∈ sub.paths.getD [], Path.IsWhole p))

namespace Moment

/-- A moment at which nothing but whole paths is written or watched. -/
def IsWhole : Moment κ → Prop
  | .wrote wr => wr.IsWhole
  | .joined sub _ => sub.IsWhole
  | .told .. => True

instance : (m : Moment κ) → Decidable m.IsWhole
  | .wrote wr => inferInstanceAs (Decidable wr.IsWhole)
  | .joined sub _ => inferInstanceAs (Decidable sub.IsWhole)
  | .told .. => inferInstanceAs (Decidable True)

/-- Who is told at this moment learns some of its paths, each with another value than it had before
the write. -/
def IsNews : Moment κ → Prop
  | .told sub news before now => ∀ paths, sub.paths = some paths →
      news ≠ [] ∧ ∀ p ∈ news, p ∈ paths ∧
        (Path.read (.object before) p).sameValue (Path.read (.object now) p) = false
  | _ => True

/-- The data that a subscription gets to see at a moment. -/
def seenBy? (ticket : Nat) : Moment κ → Option Object
  | .wrote _ => none
  | .joined sub data => if sub.ticket = ticket then some data else none
  | .told sub _ _ now => if sub.ticket = ticket then some now else none

variable {sub : Subscription κ} {ticket : Nat} {data shown : Object}

/-- What a subscription gets to see is the data at that moment. -/
theorem eq_of_seenBy?_joined (h : (joined sub data).seenBy? ticket = some shown) : shown = data := by
  rw [seenBy?, Option.ite_none_right_eq_some] at h
  exact (Option.some.inj h.2).symm

theorem eq_of_seenBy?_told {news : List String} {before : Object}
    (h : (told sub news before data).seenBy? ticket = some shown) : shown = data := by
  rw [seenBy?, Option.ite_none_right_eq_some] at h
  exact (Option.some.inj h.2).symm

end Moment

/-- The data that a subscription has seen last: when it was told last, or else when it was added, or
else at the start. -/
def lastSeen (start : Object) (ticket : Nat) (moments : List (Moment κ)) : Object :=
  (moments.findSome? (·.seenBy? ticket)).getD start

section

variable {start : Object} {ticket : Nat} {m : Moment κ} {moments : List (Moment κ)}

theorem lastSeen_cons_of_none (h : m.seenBy? ticket = none) :
    lastSeen start ticket (m :: moments) = lastSeen start ticket moments := by
  rw [lastSeen, List.findSome?_cons, h, lastSeen]

theorem lastSeen_cons_of_some {data : Object} (h : m.seenBy? ticket = some data) :
    lastSeen start ticket (m :: moments) = data := by
  rw [lastSeen, List.findSome?_cons, h, Option.getD_some]

end

/-! ## From one world of a run to a later one -/

namespace World

variable (start : Object) {waiting : List (Captured κ)} {w w' w'' : World κ (Noted κ σ)}
  {sub : Subscription κ}

/-- All subscriptions are to whole paths. -/
def WatchesWhole (w : World κ σ) : Prop := ∀ sub ∈ w.store.subscriptions, sub.IsWhole

instance (w : World κ σ) : Decidable w.WatchesWhole :=
  inferInstanceAs (Decidable (∀ sub ∈ w.store.subscriptions, sub.IsWhole))

/-- Only whole paths have been written or watched. -/
def WentWhole (w : World κ (Noted κ σ)) : Prop := ∀ m ∈ w.parts.moments, m.IsWhole

/-- What the subscription with a ticket has seen last. -/
def seen (w : World κ (Noted κ σ)) (ticket : Nat) : Object :=
  lastSeen start ticket w.parts.moments

/-- What a subscription has seen last is what is there. -/
def IsShown (w : World κ (Noted κ σ)) (sub : Subscription κ) : Prop :=
  ∀ p ∈ sub.paths.getD [],
    Indistinct (Path.read (.object (w.seen start sub.ticket)) p) (w.store.get p)

/-- What a subscription watches is later what it was. -/
def IsSame (w w' : World κ σ) (sub : Subscription κ) : Prop :=
  ∀ p ∈ sub.paths.getD [], Indistinct (w.store.get p) (w'.store.get p)

/-- From one world to a later one, nobody misses anything but those that wait to be told. -/
structure Informs (waiting : List (Captured κ)) (w w' : World κ (Noted κ σ)) : Prop where
  /-- No note is lost. -/
  moments : w.parts.moments <:+ w'.parts.moments
  /-- Who is told, is told of changes. -/
  news : (∀ m ∈ w.parts.moments, m.IsNews) → ∀ m ∈ w'.parts.moments, m.IsNews
  /-- Whole paths are watched as before. -/
  whole : w'.WentWhole → w.WatchesWhole → w'.WatchesWhole
  /-- A subscription is shown what is there; or it was there before, has seen nothing since, and what
  it watches is what it was, if it does not wait to be told. -/
  informed : w'.WentWhole → w.WatchesWhole → ∀ sub ∈ w'.store.subscriptions,
    w'.IsShown start sub ∨
      sub ∈ w.store.subscriptions ∧ w'.seen start sub.ticket = w.seen start sub.ticket ∧
        (IsSame w w' sub ∨ sub.capture w.store.data ∈ waiting)

variable {start}

theorem IsSame.refl (w : World κ σ) (sub : Subscription κ) : IsSame w w sub :=
  fun _ _ => Indistinct.refl _

theorem isSame_of_data {w w' : World κ σ} (h : w'.store.data = w.store.data)
    (sub : Subscription κ) : IsSame w w' sub := by
  intro p _
  rw [Store.get, Store.get, h]
  exact Indistinct.refl _

theorem IsSame.trans {w w' w'' : World κ σ} (h : IsSame w w' sub) (h' : IsSame w' w'' sub) :
    IsSame w w'' sub := fun p hp => (h p hp).trans (h' p hp)

/-- Who was shown what is there, still is if it has not changed. -/
theorem IsShown.of_isSame (h : w.IsShown start sub)
    (hseen : w'.seen start sub.ticket = w.seen start sub.ticket) (hsame : IsSame w w' sub) :
    w'.IsShown start sub := by
  intro p hp
  rw [hseen]
  exact (h p hp).trans (hsame p hp)

theorem isShown_of_seen (h : w.seen start sub.ticket = w.store.data) : w.IsShown start sub := by
  intro p _
  rw [h]
  exact Indistinct.refl _

theorem WentWhole.of_suffix (h : w'.WentWhole) (hmoments : w.parts.moments <:+ w'.parts.moments) :
    w.WentWhole := fun m hm => h m (hmoments.subset hm)

theorem Informs.refl (w : World κ (Noted κ σ)) : Informs start [] w w where
  moments := List.suffix_refl _
  news := id
  whole _ := id
  informed _ _ sub hsub := Or.inr ⟨hsub, rfl, Or.inl (.refl w sub)⟩

theorem Informs.trans (h : Informs start waiting w w') (h' : Informs start [] w' w'') :
    Informs start waiting w w'' where
  moments := h.moments.trans h'.moments
  news := h'.news ∘ h.news
  whole hwent hwatch := h'.whole hwent (h.whole (hwent.of_suffix h'.moments) hwatch)
  informed := by
    intro hwent hwatch sub hsub
    have hwent' : w'.WentWhole := hwent.of_suffix h'.moments
    rcases h'.informed hwent (h.whole hwent' hwatch) sub hsub with
      hshown | ⟨hsub', hseen', hsame' | hwaits⟩
    · exact Or.inl hshown
    · rcases h.informed hwent' hwatch sub hsub' with hshown | ⟨hsub, hseen, hsame⟩
      · exact Or.inl (hshown.of_isSame hseen' hsame')
      · exact Or.inr ⟨hsub, hseen'.trans hseen, hsame.imp_left fun h => h.trans hsame'⟩
    · cases hwaits

/-- Nobody waits any longer who is shown what is there, or whose values are what they were. -/
theorem Informs.tail {c : Captured κ} (h : Informs start (c :: waiting) w w')
    (hc : ∀ sub ∈ w'.store.subscriptions, sub.capture w.store.data = c →
      w'.IsShown start sub ∨ IsSame w w' sub) : Informs start waiting w w' where
  moments := h.moments
  news := h.news
  whole := h.whole
  informed := by
    intro hwent hwatch sub hsub
    rcases h.informed hwent hwatch sub hsub with hshown | ⟨hsub', hseen, hsame | hwaits⟩
    · exact Or.inl hshown
    · exact Or.inr ⟨hsub', hseen, Or.inl hsame⟩
    · rcases List.mem_cons.mp hwaits with heq | hwaits
      · exact (hc sub hsub heq).imp_right fun hsame => ⟨hsub', hseen, Or.inl hsame⟩
      · exact Or.inr ⟨hsub', hseen, Or.inr hwaits⟩

/-! ## Single steps -/

/-- A step that changes no data and brings no new subscription to paths. -/
theorem informs_of_data (hdata : w'.store.data = w.store.data)
    (hmoments : w'.parts.moments = w.parts.moments)
    (hsubs : ∀ sub ∈ w'.store.subscriptions, sub ∈ w.store.subscriptions ∨ sub.paths = none) :
    Informs start [] w w' where
  moments := hmoments ▸ List.suffix_refl _
  news := by rw [hmoments]; exact id
  whole := by
    intro _ hwatch sub hsub
    rcases hsubs sub hsub with hold | hnone
    · exact hwatch sub hold
    · simp [Subscription.IsWhole, hnone]
  informed := by
    intro _ _ sub hsub
    rcases hsubs sub hsub with hold | hnone
    · exact Or.inr ⟨hold, by rw [seen, seen, hmoments], Or.inl (isSame_of_data hdata sub)⟩
    · exact Or.inl fun p hp => by simp [hnone] at hp

/-- A step that changes no data and shows what is there to some subscriptions, the new ones among
them. -/
theorem informs_of_note {m : Moment κ} (hdata : w'.store.data = w.store.data)
    (hmoments : w'.parts.moments = m :: w.parts.moments) (hm : m.IsNews)
    (hshows : ∀ ticket data, m.seenBy? ticket = some data → data = w.store.data)
    (hsubs : ∀ sub ∈ w'.store.subscriptions, sub ∈ w.store.subscriptions ∨
      (m.seenBy? sub.ticket).isSome ∧ (m.IsWhole → sub.IsWhole)) :
    Informs start [] w w' where
  moments := ⟨[m], hmoments.symm⟩
  news := by
    intro hnews
    rw [hmoments]
    exact List.forall_mem_cons.mpr ⟨hm, hnews⟩
  whole := by
    intro hwent hwatch sub hsub
    have hwhole : m.IsWhole := hwent m (by rw [hmoments]; exact List.mem_cons_self)
    rcases hsubs sub hsub with hold | ⟨-, hnew⟩
    · exact hwatch sub hold
    · exact hnew hwhole
  informed := by
    intro _ _ sub hsub
    cases hseen : m.seenBy? sub.ticket with
    | some data =>
      refine Or.inl (isShown_of_seen ?_)
      rw [seen, hmoments, lastSeen_cons_of_some hseen, hdata]
      exact hshows _ _ hseen
    | none =>
      have hold : sub ∈ w.store.subscriptions :=
        (hsubs sub hsub).resolve_right fun h => by simp [hseen] at h
      refine Or.inr ⟨hold, ?_, Or.inl (isSame_of_data hdata sub)⟩
      rw [seen, hmoments, lastSeen_cons_of_none hseen, seen]

/-- Just after a write those it concerns wait to be told. -/
theorem informs_of_write {wr : Write} {after : Object}
    (hchange : wr.change? w.store.data = .ok (some after))
    (hnoted : .wrote wr ∈ w.parts.moments) :
    Informs start (w.store.captureFor wr) w (w.withData after) where
  moments := List.suffix_refl _
  news := id
  whole _ hwatch := hwatch
  informed := by
    intro hwent hwatch sub hsub
    refine Or.inr ⟨hsub, rfl, ?_⟩
    by_cases hconcerned : sub ∈ w.store.concerned wr
    · rw [captureFor_eq]
      exact Or.inr (List.mem_map_of_mem hconcerned)
    · -- a write changes nothing at whole paths that it does not concern
      left
      have hafter : after = wr.after w.store.data := by rw [Write.after, hchange]
      intro p hp
      cases hpaths : sub.paths with
      | none => simp [hpaths] at hp
      | some paths =>
        rw [hpaths, Option.getD_some] at hp
        have hwhole : ∀ c ∈ paths, Path.IsWhole c := by
          have hsubWhole := hwatch sub hsub
          rwa [Subscription.IsWhole, hpaths, Option.getD_some] at hsubWhole
        have hread := read_after_of_not_concerned (hwent _ hnoted) hsub hpaths hwhole hconcerned
          w.store.data p hp
        left
        rw [Store.get, Store.get, ← hread, ← hafter]
        rfl

end World

/-! ## Runs -/

section

open Run (LeadsAlong leadsAlong_pure leadsAlong_throw leadsAlong_bind)
open World (Informs informs_of_data informs_of_note informs_of_write isShown_of_seen)

variable {start : Object} {put : Writer κ (Noted κ σ)} {subscribers : κ → List String → Reaction κ σ}

/-- Telling one of those that wait; who is told may do anything that informs the others. -/
theorem informs_of_tellNoted {react : κ → List String → Run κ (Noted κ σ) Unit}
    (hreact : ∀ owner news, LeadsAlong (Informs start []) (react owner news)) {wr : Write}
    {sub : Subscription κ} {waiting : List (Captured κ)} {w v v' : World κ (Noted κ σ)}
    (h : Informs start (sub.capture w.store.data :: waiting) w v)
    (hrun : (tellNoted react wr w.store.data (sub.capture w.store.data)).run v = .ok () v') :
    Informs start waiting w v' := by
  have hself : ∀ {other : Subscription κ},
      other.capture w.store.data = sub.capture w.store.data → other = sub :=
    fun heq => congrArg Captured.subscription heq
  rcases tellNoted_cases hrun with ⟨hgone, rfl⟩ | ⟨hnews, rfl⟩ | ⟨news, hnews, hrun⟩
  · -- it has been cancelled in the meantime
    refine h.tail fun other hother heq => ?_
    have hnot := List.any_eq_false.mp hgone other hother
    exact absurd (beq_iff_eq.mpr (congrArg Subscription.ticket (hself heq))) hnot
  · -- all its values are again what they were before the write
    refine h.tail fun other _ heq => Or.inr ?_
    rw [hself heq]
    intro p hp
    cases hpaths : sub.paths with
    | none => simp [hpaths] at hp
    | some paths =>
      rw [hpaths, Option.getD_some] at hp
      exact Or.inr ((news?_eq_none_iff hpaths).mp hnews p hp)
  · -- it is told, and what it does then informs the others
    have hseen : (Moment.told sub news w.store.data v.store.data).seenBy? sub.ticket
        = some v.store.data := if_pos rfl
    have hnoted : Informs start [] v (v.noting (.told sub news w.store.data v.store.data)) := by
      refine informs_of_note rfl rfl (fun paths hpaths => ?_) (fun _ _ => Moment.eq_of_seenBy?_told)
        fun sub hsub => Or.inl hsub
      exact mem_of_news?_eq_some hpaths hnews
    refine ((h.trans hnoted).tail fun other _ heq => Or.inl ?_).trans (hreact _ _ _ _ _ hrun)
    rw [hself heq]
    exact isShown_of_seen (lastSeen_cons_of_some hseen)

/-- Whoever can write so that nobody misses anything, can do all steps so. -/
theorem Reaction.leadsAlong_runNoted (hput : ∀ wr, LeadsAlong (Informs start []) (put wr))
    (r : Reaction κ σ) : LeadsAlong (Informs start []) (r.runNoted put) := by
  induction r with
  | done => exact leadsAlong_pure Informs.refl ()
  | look next ih => exact fun w => ih (w.mapParts Noted.parts) w
  | keep parts next ih =>
    refine leadsAlong_bind Informs.trans ?_ fun _ => ih
    rintro w _ _ ⟨⟩
    exact informs_of_data rfl rfl fun sub hsub => Or.inl hsub
  | write wr next ih => exact leadsAlong_bind Informs.trans (hput wr) ih
  | subscribe paths owner next ih =>
    intro w u w' hrun
    have hjoined : Informs start [] w
        ({ w with store := (w.store.subscribe paths owner).2 }.noting
          (.joined ⟨w.store.nextTicket, some paths.eraseDups, owner⟩ w.store.data)) := by
      refine informs_of_note rfl rfl trivial (fun _ _ => Moment.eq_of_seenBy?_joined)
        fun sub hsub => ?_
      rcases List.mem_append.mp hsub with hold | hnew
      · exact Or.inl hold
      · rw [List.mem_singleton.mp hnew]
        exact Or.inr ⟨by simp [Moment.seenBy?], id⟩
    exact hjoined.trans (ih _ _ _ _ hrun)
  | listen owner next ih =>
    refine leadsAlong_bind Informs.trans ?_ ih
    rintro w _ _ ⟨⟩
    refine informs_of_data rfl rfl fun sub hsub => ?_
    rcases List.mem_append.mp hsub with hold | hnew
    · exact Or.inl hold
    · rw [List.mem_singleton.mp hnew]
      exact Or.inr rfl
  | unsubscribe ticket next ih =>
    refine leadsAlong_bind Informs.trans ?_ fun _ => ih
    rintro w _ _ ⟨⟩
    exact informs_of_data rfl rfl fun sub hsub => Or.inl (List.mem_of_mem_filter hsub)
  | fail fault => exact leadsAlong_throw fault

/-- **Nobody misses anything in a write**, whatever those do who are told of it. -/
theorem leadsAlong_performNoted (depth : Nat) (wr : Write) :
    LeadsAlong (Informs start []) (performNoted subscribers depth wr) := by
  -- The nested writes are the induction hypothesis; the loop goes along those who still wait.
  induction depth generalizing wr with
  | zero => exact leadsAlong_throw .tooDeep
  | succ depth ih =>
    intro w changed w' hrun
    have hbegun : Informs start [] w (w.noting (.wrote wr)) :=
      informs_of_note rfl rfl trivial nofun fun sub hsub => Or.inl hsub
    rcases performNoted_cases hrun with rfl | ⟨after, hchange, hrun⟩
    · exact hbegun
    · refine hbegun.trans ?_
      have hwritten : Informs start ((w.noting (.wrote wr)).store.captureFor wr)
          (w.noting (.wrote wr)) ((w.noting (.wrote wr)).withData after) :=
        informs_of_write hchange List.mem_cons_self
      rw [captureFor_eq] at hwritten
      rw [captureFor_eq, List.forM_eq_forM, List.forM_map] at hrun
      let waiting (rest : List (Subscription κ)) : List (Captured κ) :=
        rest.map fun sub => sub.capture w.store.data
      refine Run.of_run_forM (I := fun rest v =>
        Informs start (waiting rest) (w.noting (.wrote wr)) v) ?_ hwritten hrun
      intro sub rest v v' hv hrun
      exact informs_of_tellNoted (w := w.noting (.wrote wr))
        (fun owner news => Reaction.leadsAlong_runNoted ih (subscribers owner news)) hv hrun

theorem leadsAlong_writeNoted (wr : Write) :
    LeadsAlong (Informs start []) (writeNoted subscribers wr) :=
  fun w => leadsAlong_performNoted w.store.nesting wr w

end

/-- **No subscriber misses a change.** Steps with outermost writes that end well leave every
subscription to paths with what it has seen last, and who was told was told of changes. -/
theorem Reaction.nothing_missed (subscribers : κ → List String → Reaction κ σ)
    (steps : Reaction κ σ) {w w' : World κ σ} (hwatched : w.WatchesWhole)
    (hwhole : ∀ m ∈ history subscribers steps w, m.IsWhole)
    (hrun : (steps.run (DynamicForms.write (react subscribers))).run w = .ok () w') :
    (∀ sub ∈ w'.store.subscriptions, ∀ p ∈ sub.paths.getD [],
      Value.Unchanged
        (Path.read (.object (lastSeen w.store.data sub.ticket (history subscribers steps w))) p)
        (w'.store.get p)) ∧
    ∀ m ∈ history subscribers steps w, m.IsNews := by
  -- The run with notes ends in the same world, and its notes are the history.
  obtain ⟨v, hnoted, rfl⟩ :=
    (mirrors_runNoted (mirrors_writeNoted subscribers) steps).run_eq_ok (w := w.noted) hrun
  have hhistory : history subscribers steps w = v.parts.moments := by rw [history, hnoted]
  rw [hhistory] at hwhole ⊢
  have hinforms : World.Informs w.store.data [] w.noted v :=
    leadsAlong_runNoted leadsAlong_writeNoted steps _ _ _ hnoted
  refine ⟨fun sub hsub p hp => ?_, hinforms.news nofun⟩
  rcases hinforms.informed hwhole hwatched sub hsub with hshown | ⟨-, hseen, hsame | hwaits⟩
  · exact (hshown p hp).unchanged
  · have hstart : lastSeen w.store.data sub.ticket v.parts.moments = w.store.data := hseen
    rw [hstart]
    exact (hsame p hp).unchanged
  · cases hwaits

/-- A field with two subscribers, the first of which undoes every change. -/
def undone : World Nat Unit :=
  ⟨⟨[("a", .int 0)], [⟨0, some ["a"], 0⟩, ⟨1, some ["a"], 1⟩], 2⟩, ()⟩

/-- What the two subscribers do. -/
def undoing (owner : Nat) (_ : List String) : Reaction Nat Unit :=
  if owner = 0 then .write (.set "a" (.int 0)) fun _ => .done else .done

/-- While the change is being undone, the second subscriber is told of the way back only. -/
theorem Reaction.nothing_missed_undone :
    (∀ sub ∈ undone.store.subscriptions, ∀ p ∈ sub.paths.getD [],
      Value.Unchanged
        (Path.read (.object (lastSeen undone.store.data sub.ticket
          (history undoing (.write (.set "a" (.int 1)) fun _ => .done) undone))) p)
        (undone.store.get p)) ∧
    ∀ m ∈ history undoing (.write (.set "a" (.int 1)) fun _ => .done) undone, m.IsNews :=
  nothing_missed undoing (.write (.set "a" (.int 1)) fun _ => .done) (by decide +kernel)
    (by decide +kernel) rfl

end DynamicForms
