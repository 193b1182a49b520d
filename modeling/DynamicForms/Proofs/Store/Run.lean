import DynamicForms.Store.Run

/-!
# `DynamicForms.Proofs.Store.Run` — what programs on a running form do

Every program on a running form is deterministic, so that what it does is an equation: from this
world it ends well, in that one. The equations of the basic programs are collected here, together
with the rule for loops and with what a write does apart from telling its subscribers.

## Contents
- `Run.Yields`: a program ends well, in a world with a property.
- **Basic programs.** `Part.run_read`, `Part.run_update` and their like.
- **Loops.** `Run.yields_forM`, `Run.run_forM_of_noop`.
- **Refusal.** `Run.RefusedOr`: a program is refused or ends well; `Run.Follows`: one program does what
  another one does, unless that is refused.
- **Writes.** `HasRoom`, `run_perform_of_none`, `run_perform_of_error`, `run_perform_of_some`,
  `run_tell_of_news`, `told_cases`.
-/

namespace DynamicForms

variable {κ σ α β ι : Type}

/-- A program ends well, in a world with a property. -/
def Run.Yields (m : Run κ σ α) (w : World κ σ) (Q : World κ σ → Prop) : Prop :=
  ∃ a w', m.run w = .ok a w' ∧ Q w'

/-! ## Basic programs -/

@[simp] theorem Part.run_read (part : Part σ α) (w : World κ σ) :
    (part.read : Run κ σ α).run w = .ok (part.get w.parts) w := rfl

@[simp] theorem Part.run_update (part : Part σ α) (f : α → α) (w : World κ σ) :
    (part.update f : Run κ σ Unit).run w
      = .ok () { w with parts := part.set (f (part.get w.parts)) w.parts } := rfl

@[simp] theorem Part.whole_get (s : σ) : (Part.whole : Part σ σ).get s = s := rfl

@[simp] theorem Part.whole_set (a s : σ) : (Part.whole : Part σ σ).set a s = a := rfl

@[simp] theorem run_readStore (w : World κ σ) :
    (readStore : Run κ σ (Store κ)).run w = .ok w.store w := rfl

@[simp] theorem run_readPath (path : String) (w : World κ σ) :
    (readPath path : Run κ σ Value).run w = .ok (w.store.get path) w := rfl

@[simp] theorem run_readData (w : World κ σ) :
    (readData : Run κ σ Value.Object).run w = .ok w.store.data w := rfl

/-! ## Sequences and loops -/

namespace Run

variable {w : World κ σ}

/-- The second part of a sequence goes on from where the first one ended. -/
theorem run_bind_of_ok {m : Run κ σ α} {f : α → Run κ σ β} {a : α} {w' : World κ σ}
    (h : m.run w = .ok a w') : (m >>= f).run w = (f a).run w' := by
  rw [EStateM.run_bind, h]

theorem Yields.mono {m : Run κ σ α} {Q R : World κ σ → Prop} (h : m.Yields w Q)
    (himp : ∀ w', Q w' → R w') : m.Yields w R := by
  obtain ⟨a, w', hrun, hq⟩ := h
  exact ⟨a, w', hrun, himp w' hq⟩

/-- What a program has done is what it yields. -/
theorem Yields.of_run {m : Run κ σ α} {Q : World κ σ → Prop} (h : m.Yields w Q) {a : α}
    {w' : World κ σ} (hrun : m.run w = .ok a w') : Q w' := by
  obtain ⟨b, w'', hrun', hq⟩ := h
  rw [hrun] at hrun'
  injection hrun' with _ hworld
  exact hworld ▸ hq

theorem Yields.bind {m : Run κ σ α} {f : α → Run κ σ β} {Q R : World κ σ → Prop}
    (h : m.Yields w Q) (hf : ∀ a w', Q w' → (f a).Yields w' R) : (m >>= f).Yields w R := by
  obtain ⟨a, w', hrun, hq⟩ := h
  obtain ⟨b, w'', hrun', hr⟩ := hf a w' hq
  refine ⟨b, w'', ?_, hr⟩
  rw [EStateM.run_bind, hrun]
  exact hrun'

/-- A loop keeps what each of its rounds keeps, said of the rounds still to come. -/
theorem yields_forM {body : ι → Run κ σ PUnit} {I : List ι → World κ σ → Prop}
    (hround : ∀ x rest w, I (x :: rest) w → (body x).Yields w (I rest)) {xs : List ι}
    (h : I xs w) : (xs.forM body).Yields w (I []) := by
  induction xs generalizing w with
  | nil => exact ⟨(), w, rfl, h⟩
  | cons x rest ih =>
    show (body x >>= fun _ => rest.forM body).Yields w (I [])
    exact (hround x rest w h).bind fun _ w' hw' => ih hw'

/-- A loop whose rounds do nothing does nothing. -/
theorem run_forM_of_noop {body : ι → Run κ σ PUnit} {xs : List ι}
    (h : ∀ x ∈ xs, (body x).run w = .ok () w) : (xs.forM body).run w = .ok () w := by
  induction xs with
  | nil => rfl
  | cons x rest ih =>
    show (body x >>= fun _ => rest.forM body).run w = .ok () w
    rw [EStateM.run_bind, h x List.mem_cons_self]
    exact ih fun y hy => h y (List.mem_cons_of_mem _ hy)

/-! ## Refusal -/

/-- A program is refused: it meets a value that cannot be written. -/
def IsRefused (m : Run κ σ α) (w : World κ σ) : Prop :=
  ∃ w', m.run w = .error .notWritable w'

instance (m : Run κ σ α) (w : World κ σ) : Decidable (m.IsRefused w) :=
  match h : m.run w with
  | .ok _ _ => .isFalse fun ⟨_, hrun⟩ => by cases h.symm.trans hrun
  | .error fault w' =>
    if hf : fault = .notWritable then .isTrue ⟨w', hf ▸ h⟩
    else .isFalse fun ⟨_, hrun⟩ => by cases h.symm.trans hrun; exact hf rfl

/-- A program is refused, or it ends well in a world with a property. -/
def RefusedOr (m : Run κ σ α) (w : World κ σ) (Q : World κ σ → Prop) : Prop :=
  m.IsRefused w ∨ m.Yields w Q

theorem IsRefused.bind {m : Run κ σ α} (h : m.IsRefused w) (f : α → Run κ σ β) :
    (m >>= f).IsRefused w := by
  obtain ⟨w', hrun⟩ := h
  refine ⟨w', ?_⟩
  rw [EStateM.run_bind, hrun]

theorem RefusedOr.mono {m : Run κ σ α} {Q R : World κ σ → Prop} (h : m.RefusedOr w Q)
    (himp : ∀ w', Q w' → R w') : m.RefusedOr w R :=
  h.imp_right fun hm => hm.mono himp

theorem RefusedOr.bind {m : Run κ σ α} {f : α → Run κ σ β} {Q R : World κ σ → Prop}
    (h : m.RefusedOr w Q) (hf : ∀ a w', Q w' → (f a).RefusedOr w' R) : (m >>= f).RefusedOr w R := by
  rcases h with hrefused | ⟨a, w', hrun, hq⟩
  · exact Or.inl (hrefused.bind f)
  · have hbind : (m >>= f).run w = (f a).run w' := by rw [EStateM.run_bind, hrun]
    rcases hf a w' hq with ⟨w'', hrefused⟩ | ⟨b, w'', hrun', hr⟩
    · exact Or.inl ⟨w'', hbind.trans hrefused⟩
    · exact Or.inr ⟨b, w'', hbind.trans hrun', hr⟩

/-- A program does one thing, so what is known of it in two ways holds at once. -/
theorem RefusedOr.and {m : Run κ σ α} {Q R : World κ σ → Prop} (h : m.RefusedOr w Q)
    (h' : m.RefusedOr w R) : m.RefusedOr w fun w' => Q w' ∧ R w' := by
  rcases h with hrefused | ⟨a, w', hrun, hq⟩
  · exact Or.inl hrefused
  · rcases h' with ⟨w'', hrefused⟩ | hyields
    · cases hrun.symm.trans hrefused
    · exact Or.inr ⟨a, w', hrun, hq, hyields.of_run hrun⟩

/-- A loop that is not refused keeps what each of its rounds keeps. -/
theorem refusedOr_forM {body : ι → Run κ σ PUnit} {I : List ι → World κ σ → Prop}
    (hround : ∀ x rest w, I (x :: rest) w → (body x).RefusedOr w (I rest)) {xs : List ι}
    (h : I xs w) : (xs.forM body).RefusedOr w (I []) := by
  induction xs generalizing w with
  | nil => exact Or.inr ⟨(), w, rfl, h⟩
  | cons x rest ih =>
    show (body x >>= fun _ => rest.forM body).RefusedOr w (I [])
    exact (hround x rest w h).bind fun _ w' hw' => ih hw'

/-- One program does what another one does, unless that is refused. -/
def Follows (m' m : Run κ σ α) : Prop :=
  ∀ w, m.IsRefused w ∨ m'.run w = m.run w

theorem Follows.refl (m : Run κ σ α) : Follows m m := fun _ => Or.inr rfl

theorem Follows.trans {m'' m' m : Run κ σ α} (h' : Follows m'' m') (h : Follows m' m) :
    Follows m'' m := by
  intro w
  rcases h w with hrefused | hsame
  · exact Or.inl hrefused
  · rcases h' w with ⟨w', hrefused⟩ | hsame'
    · exact Or.inl ⟨w', hsame.symm.trans hrefused⟩
    · exact Or.inr (hsame'.trans hsame)

theorem Follows.bind {m' m : Run κ σ α} {f' f : α → Run κ σ β} (hm : Follows m' m)
    (hf : ∀ a, Follows (f' a) (f a)) : Follows (m' >>= f') (m >>= f) := by
  intro w
  rcases hm w with hrefused | hsame
  · exact Or.inl (hrefused.bind f)
  · simp only [IsRefused, EStateM.run_bind, hsame]
    cases m.run w with
    | ok a w' => exact hf a w'
    | error fault w' => exact Or.inr rfl

theorem Follows.forM {body' body : ι → Run κ σ PUnit} (h : ∀ x, Follows (body' x) (body x))
    (xs : List ι) : Follows (xs.forM body') (xs.forM body) := by
  induction xs with
  | nil => exact Follows.refl _
  | cons x rest ih => exact (h x).bind fun _ => ih

theorem Follows.yields {m' m : Run κ σ α} {Q : World κ σ → Prop} (h : Follows m' m)
    (hm : m.RefusedOr w Q) (hnot : ¬ m.IsRefused w) : m'.Yields w Q := by
  obtain ⟨a, w', hrun, hq⟩ := hm.resolve_left hnot
  exact ⟨a, w', ((h w).resolve_left hnot).trans hrun, hq⟩

end Run

/-! ## Writes -/

/-- A way to write that has room for a write. -/
def HasRoom (react : React κ σ) (put : Writer κ σ) : Prop :=
  ∀ wr w, ∃ depth, (put wr).run w = (perform react (depth + 1) wr).run w

theorem hasRoom_perform (react : React κ σ) (depth : Nat) :
    HasRoom react (perform react (depth + 1)) := fun _ _ => ⟨depth, rfl⟩

theorem run_write (react : React κ σ) (wr : Write) (w : World κ σ) :
    (write react wr).run w = (perform react w.store.nesting wr).run w := rfl

/-- There is room for an outermost write and for another one while it is being told of. -/
theorem nesting_eq (s : Store κ) : s.nesting = 188 + s.watchings.length + 1 + 1 := by
  rw [Store.nesting, nestingLimit]
  omega

theorem hasRoom_write (react : React κ σ) : HasRoom react (write react) := by
  intro wr w
  rw [run_write, nesting_eq]
  exact ⟨_, rfl⟩

/-- A world with other data. -/
def World.withData (w : World κ σ) (data : Value.Object) : World κ σ :=
  { w with store := { w.store with data } }

section Writes

variable (react : React κ σ) (depth : Nat) {wr : Write} {w : World κ σ} {after : Value.Object}
  {c : Captured κ}

/-- A write that changes nothing is told to nobody. -/
theorem run_perform_of_none (h : wr.change? w.store.data = .ok none) :
    (perform react (depth + 1) wr).run w = .ok false w := by
  simp only [perform, EStateM.run_bind, run_readStore, h]
  rfl

theorem HasRoom.run_of_none {put : Writer κ σ} (hput : HasRoom react put)
    (h : wr.change? w.store.data = .ok none) : (put wr).run w = .ok false w := by
  obtain ⟨depth, hroom⟩ := hput wr w
  rw [hroom, run_perform_of_none react depth h]

/-- A write that has no place changes nothing. -/
theorem run_perform_of_error {fault : Fault} (h : wr.change? w.store.data = .error fault) :
    (perform react (depth + 1) wr).run w = .error fault w := by
  simp only [perform, EStateM.run_bind, run_readStore, h]
  rfl

/-- A write puts the new data in place and then tells those it concerns, one by one. -/
theorem run_perform_of_some (h : wr.change? w.store.data = .ok (some after)) :
    (perform react (depth + 1) wr).run w
      = ((w.store.captureFor wr).forM (tell (react (perform react depth)) wr)
          >>= fun _ => pure true).run (w.withData after) := by
  simp only [perform, EStateM.run_bind, run_readStore, h]
  rfl

theorem run_perform_of_nobody (h : wr.change? w.store.data = .ok (some after))
    (hnobody : w.store.captureFor wr = []) :
    (perform react (depth + 1) wr).run w = .ok true (w.withData after) := by
  rw [run_perform_of_some react depth h, hnobody]
  rfl

theorem run_perform_of_one (h : wr.change? w.store.data = .ok (some after))
    (hone : w.store.captureFor wr = [c]) :
    (perform react (depth + 1) wr).run w
      = (tell (react (perform react depth)) wr c >>= fun _ => pure true).run
          (w.withData after) := by
  rw [run_perform_of_some react depth h, hone]
  have hloop : [c].forM (tell (react (perform react depth)) wr)
      = tell (react (perform react depth)) wr c := bind_pure_unit
  rw [hloop]

/-- A subscription that is still there is told the news. -/
theorem run_tell_of_news {tellOne : κ → List String → Run κ σ Unit}
    (hactive : w.store.isActive c.subscription.ticket = true) {news : List String}
    (hnews : c.news? w.store.data wr = some news) :
    (tell tellOne wr c).run w = (tellOne c.subscription.owner news).run w := by
  simp only [tell, EStateM.run_bind, run_readStore, hactive, hnews, if_pos]

/-- Who does not listen any more is told nothing. -/
theorem run_tell_of_inactive {tellOne : κ → List String → Run κ σ Unit}
    (hactive : w.store.isActive c.subscription.ticket = false) :
    (tell tellOne wr c).run w = .ok () w := by
  simp only [tell, EStateM.run_bind, run_readStore, hactive]
  rfl

/-- Without news nothing is told. -/
theorem run_tell_of_no_news {tellOne : κ → List String → Run κ σ Unit}
    (hnews : c.news? w.store.data wr = none) : (tell tellOne wr c).run w = .ok () w := by
  simp only [tell, EStateM.run_bind, run_readStore, hnews]
  cases w.store.isActive c.subscription.ticket <;> rfl

/-- **A subscription is told nothing, or its news.** -/
theorem told_cases (tellOne : κ → List String → Run κ σ Unit) (wr : Write) (c : Captured κ)
    (w : World κ σ) : (tell tellOne wr c).run w = .ok () w ∨
      ∃ news, c.news? w.store.data wr = some news ∧
        (tell tellOne wr c).run w = (tellOne c.subscription.owner news).run w := by
  cases hactive : w.store.isActive c.subscription.ticket with
  | false => exact Or.inl (run_tell_of_inactive hactive)
  | true =>
    cases hnews : c.news? w.store.data wr with
    | none => exact Or.inl (run_tell_of_no_news hnews)
    | some news => exact Or.inr ⟨news, rfl, run_tell_of_news hactive hnews⟩

theorem tell_bind_of_news {tellOne : κ → List String → Run κ σ Unit} {f : Unit → Run κ σ α}
    (hactive : w.store.isActive c.subscription.ticket = true) {news : List String}
    (hnews : c.news? w.store.data wr = some news) :
    (tell tellOne wr c >>= f).run w = (tellOne c.subscription.owner news >>= f).run w := by
  rw [EStateM.run_bind, run_tell_of_news hactive hnews, ← EStateM.run_bind]

theorem tell_bind_of_no_news {tellOne : κ → List String → Run κ σ Unit} {f : Unit → Run κ σ α}
    (hnews : c.news? w.store.data wr = none) : (tell tellOne wr c >>= f).run w = (f ()).run w := by
  rw [EStateM.run_bind, run_tell_of_no_news hnews]

end Writes

end DynamicForms
