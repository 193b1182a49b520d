import DynamicForms.Proofs.Store.Keep
import DynamicForms.Proofs.Store.News
import Mathlib.Data.List.Forall2

/-!
# `DynamicForms.Proofs.Store.Relate` — two programs side by side

Two programs are run side by side, each on its own form. They are *related* along a relation of worlds
if from related worlds they end in the same way and in related worlds again, with results that are
related as well. The two forms need not have the same parts, nor the same subscribers: it is enough that
those who are told of a write do related things.

## Contents
- `Run.Alike`, `Run.Relates`.
- **Rules.** `relates_pure`, `relates_bind`, `relates_forM`, `relates_attempt` and the basic programs.
- **Writes.** `Write.ChangesAlike`, `relates_tell`, `relates_perform_succ`, `relates_perform`,
  `relates_write`.
-/

namespace DynamicForms

open Value (Object)

variable {κ σ κ' σ' α β α' β' ι ι' : Type}

namespace Run

/-- Two programs end in the same way, with related results and in related worlds. -/
inductive Alike (R : World κ σ → World κ' σ' → Prop) (V : α → α' → Prop) :
    EStateM.Result Fault (World κ σ) α → EStateM.Result Fault (World κ' σ') α' → Prop
  /-- Both end well. -/
  | ok {a a' w w'} (hv : V a a') (hw : R w w') : Alike R V (.ok a w) (.ok a' w')
  /-- Both fail for the same reason. -/
  | error {w w'} (fault : Fault) (hw : R w w') : Alike R V (.error fault w) (.error fault w')

/-- From related worlds two programs end alike. -/
def Relates (R : World κ σ → World κ' σ' → Prop) (V : α → α' → Prop) (m : Run κ σ α)
    (m' : Run κ' σ' α') : Prop :=
  ∀ w w', R w w' → Alike R V (m.run w) (m'.run w')

variable {R : World κ σ → World κ' σ' → Prop} {V : α → α' → Prop} {U : β → β' → Prop}
  {m : Run κ σ α} {m' : Run κ' σ' α'}

/-! ## Rules -/

theorem Alike.outcome {w : World κ σ} {w' : World κ' σ'} (h : Alike R V (m.run w) (m'.run w')) :
    R (m.outcome w) (m'.outcome w') := by
  unfold Run.outcome
  revert h
  generalize m.run w = found, m'.run w' = found'
  rintro (⟨-, hend⟩ | ⟨fault, hend⟩)
  · exact hend
  · exact hend

theorem relates_pure {a : α} {a' : α'} (h : V a a') :
    Relates R V (pure a : Run κ σ α) (pure a' : Run κ' σ' α') :=
  fun _ _ hw => .ok h hw

theorem relates_throw (fault : Fault) :
    Relates R V (throw fault : Run κ σ α) (throw fault : Run κ' σ' α') :=
  fun _ _ hw => .error fault hw

theorem relates_bind {next : α → Run κ σ β} {next' : α' → Run κ' σ' β'} (h : Relates R V m m')
    (hnext : ∀ a a', V a a' → Relates R U (next a) (next' a')) :
    Relates R U (m >>= next) (m' >>= next') := by
  intro w w' hw
  rw [EStateM.run_bind, EStateM.run_bind]
  have hfirst := h w w' hw
  revert hfirst
  generalize m.run w = found, m'.run w' = found'
  rintro (⟨hv, hend⟩ | ⟨fault, hend⟩)
  · exact hnext _ _ hv _ _ hend
  · exact .error fault hend

/-- Programs of which only the worlds they leave matter. -/
theorem relates_seq {next : Run κ σ β} {next' : Run κ' σ' β'} (h : Relates R V m m')
    (hnext : Relates R U next next') :
    Relates R U (m >>= fun _ => next) (m' >>= fun _ => next') :=
  relates_bind h fun _ _ _ => hnext

/-- Two loops over lists whose members belong together. -/
theorem relates_forM {body : ι → Run κ σ PUnit} {body' : ι' → Run κ' σ' PUnit} {xs : List ι}
    {ys : List ι'} (h : List.Forall₂ (fun x y => Relates R Eq (body x) (body' y)) xs ys) :
    Relates R Eq (xs.forM body) (ys.forM body') := by
  induction h with
  | nil => exact relates_pure rfl
  | cons hxy _ ih => exact relates_seq hxy ih

/-- A loop that is not seen on the other side. -/
theorem relates_forM_left {body : ι → Run κ σ PUnit} {xs : List ι}
    (h : ∀ x ∈ xs, Relates R Eq (body x) (pure PUnit.unit : Run κ' σ' PUnit)) :
    Relates R Eq (xs.forM body) (pure PUnit.unit : Run κ' σ' PUnit) := by
  induction xs with
  | nil => exact relates_pure rfl
  | cons x rest ih =>
    have hboth : Relates R Eq (body x >>= fun _ => rest.forM body)
        ((pure PUnit.unit : Run κ' σ' PUnit) >>= fun _ => pure PUnit.unit) :=
      relates_seq (h x List.mem_cons_self) (ih fun y hy => h y (List.mem_cons_of_mem _ hy))
    exact hboth

/-- A loop of which only the first part is seen on the other side. -/
theorem relates_forM_append {body : ι → Run κ σ PUnit} {xs unseen : List ι} {m' : Run κ' σ' PUnit}
    (h : Relates R Eq (xs.forM body) m')
    (hunseen : Relates R Eq (unseen.forM body) (pure PUnit.unit : Run κ' σ' PUnit)) :
    Relates R Eq ((xs ++ unseen).forM body) m' := by
  have hsplit : (xs ++ unseen).forM body = (xs.forM body >>= fun _ => unseen.forM body) :=
    List.forM_append
  have hboth := relates_seq h hunseen
  rwa [bind_pure_unit, ← hsplit] at hboth

/-- What is seen on the other side holds on this one. -/
theorem Relates.yields (h : Relates R V m m') {w : World κ σ} {w' : World κ' σ'} (hw : R w w')
    {Q : World κ' σ' → Prop} (hm : m'.Yields w' Q) :
    m.Yields w fun last => ∃ last', R last last' ∧ Q last' := by
  obtain ⟨a', last', hrun', hq⟩ := hm
  have hend := h w w' hw
  rw [hrun'] at hend
  generalize hrun : m.run w = found at hend
  cases hend with
  | ok _ hlast => exact ⟨_, _, hrun, last', hlast, hq⟩

theorem relates_attempt {m : Run κ σ Unit} {m' : Run κ' σ' Unit} {V : Unit → Unit → Prop}
    (h : Relates R V m m') :
    Relates R Eq (Agenda.attempt m) (Agenda.attempt m') := by
  intro w w' hw
  rw [run_attempt, run_attempt]
  exact .ok rfl (h w w' hw).outcome

end Run

open Run (Alike Relates relates_pure relates_throw relates_bind relates_seq relates_forM)

section

variable {R : World κ σ → World κ' σ' → Prop} {part : Part σ α} {part' : Part σ' α'}

theorem relates_read {V : α → α' → Prop}
    (h : ∀ w w', R w w' → V (part.get w.parts) (part'.get w'.parts)) :
    Relates R V (part.read : Run κ σ α) (part'.read : Run κ' σ' α') :=
  fun w w' hw => .ok (h w w' hw) hw

theorem relates_update {f : α → α} {f' : α' → α'}
    (h : ∀ w w', R w w' → R { w with parts := part.set (f (part.get w.parts)) w.parts }
      { w' with parts := part'.set (f' (part'.get w'.parts)) w'.parts }) :
    Relates R Eq (part.update f : Run κ σ Unit) (part'.update f' : Run κ' σ' Unit) :=
  fun w w' hw => .ok rfl (h w w' hw)

theorem relates_get {V : World κ σ → World κ' σ' → Prop} (h : ∀ w w', R w w' → V w w') :
    Relates R V (get : Run κ σ (World κ σ)) (get : Run κ' σ' (World κ' σ')) :=
  fun w w' hw => .ok (h w w' hw) hw

theorem relates_readData {V : Object → Object → Prop}
    (h : ∀ w w', R w w' → V w.store.data w'.store.data) :
    Relates R V (readData : Run κ σ Object) (readData : Run κ' σ' Object) :=
  fun w w' hw => .ok (h w w' hw) hw

theorem relates_readPath {V : Value → Value → Prop} {path : String}
    (h : ∀ w w', R w w' → V (w.store.get path) (w'.store.get path)) :
    Relates R V (readPath path : Run κ σ Value) (readPath path : Run κ' σ' Value) :=
  fun w w' hw => .ok (h w w' hw) hw

/-! ## Writes -/

/-- Two writes fail for the same reason, or change nothing, or lead to related worlds. -/
inductive Write.ChangesAlike (R : World κ σ → World κ' σ' → Prop) (w : World κ σ) (w' : World κ' σ') :
    Except Fault (Option Object) → Except Fault (Option Object) → Prop
  /-- Both fail. -/
  | error (fault : Fault) : ChangesAlike R w w' (.error fault) (.error fault)
  /-- Both change nothing. -/
  | none : ChangesAlike R w w' (.ok none) (.ok none)
  /-- Both change the data. -/
  | some {after after'} (h : R (w.withData after) (w'.withData after')) :
      ChangesAlike R w w' (.ok (some after)) (.ok (some after'))

/-- Two subscriptions that are both active and have the same news react alike. -/
theorem relates_tell {tellOne : κ → List String → Run κ σ Unit}
    {tellOne' : κ' → List String → Run κ' σ' Unit} {wr : Write} {c : Captured κ} {c' : Captured κ'}
    (hactive : ∀ w w', R w w' → w.store.isActive c.subscription.ticket
      = w'.store.isActive c'.subscription.ticket)
    (hnews : ∀ w w', R w w' → c.news? w.store.data wr = c'.news? w'.store.data wr)
    (hreact : ∀ news, Relates R Eq (tellOne c.subscription.owner news)
      (tellOne' c'.subscription.owner news)) :
    Relates R Eq (tell tellOne wr c) (tell tellOne' wr c') := by
  intro w w' hw
  have hsame := hactive w w' hw
  cases hon : w.store.isActive c.subscription.ticket with
  | false =>
    rw [hon] at hsame
    rw [run_tell_of_inactive hon, run_tell_of_inactive hsame.symm]
    exact .ok rfl hw
  | true =>
    rw [hon] at hsame
    cases hfound : c.news? w.store.data wr with
    | none =>
      rw [run_tell_of_no_news hfound, run_tell_of_no_news ((hnews w w' hw).symm.trans hfound)]
      exact .ok rfl hw
    | some news =>
      rw [run_tell_of_news hon hfound,
        run_tell_of_news hsame.symm ((hnews w w' hw).symm.trans hfound)]
      exact hreact news w w' hw

/-- A subscription whose reaction is not seen on the other side. -/
theorem relates_tell_left {tellOne : κ → List String → Run κ σ Unit} {wr : Write} {c : Captured κ}
    (hreact : ∀ news, Relates R Eq (tellOne c.subscription.owner news)
      (pure PUnit.unit : Run κ' σ' PUnit)) :
    Relates R Eq (tell tellOne wr c) (pure PUnit.unit : Run κ' σ' PUnit) := by
  intro w w' hw
  rcases told_cases tellOne wr c w with hrun | ⟨news, -, hrun⟩
  · rw [hrun]
    exact .ok rfl hw
  · rw [hrun]
    exact hreact news w w' hw

/-- A write is related to another one if what they make of the data is, and what those do who are told. -/
theorem relates_perform_succ {react : React κ σ} {react' : React κ' σ'} {depth : Nat} {wr : Write}
    (hchange : ∀ {w w'}, R w w' →
      Write.ChangesAlike R w w' (wr.change? w.store.data) (wr.change? w'.store.data))
    (htold : ∀ {w w'}, R w w' →
      Relates R Eq ((w.store.captureFor wr).forM (tell (react (perform react depth)) wr))
        ((w'.store.captureFor wr).forM (tell (react' (perform react' depth)) wr))) :
    Relates R Eq (perform react (depth + 1) wr) (perform react' (depth + 1) wr) := by
  intro w w' hw
  have hdata := hchange hw
  cases hwrite : wr.change? w.store.data with
  | error fault =>
    rw [hwrite] at hdata
    generalize hwrite' : wr.change? w'.store.data = change' at hdata
    cases hdata
    rw [run_perform_of_error _ _ hwrite, run_perform_of_error _ _ hwrite']
    exact .error fault hw
  | ok change =>
    rw [hwrite] at hdata
    generalize hwrite' : wr.change? w'.store.data = change' at hdata
    cases hdata with
    | none =>
      rw [run_perform_of_none _ _ hwrite, run_perform_of_none _ _ hwrite']
      exact .ok rfl hw
    | some hafter =>
      rw [run_perform_of_some _ _ hwrite, run_perform_of_some _ _ hwrite']
      exact relates_seq (htold hw) (relates_pure rfl) _ _ hafter

/-- **Writes are related** if what they make of the data is, and what those do who are told of them;
    said of one kind of writes, of which those are that they make. -/
theorem relates_perform {react : React κ σ} {react' : React κ' σ'} {P : Write → Prop}
    (hchange : ∀ {wr w w'}, P wr → R w w' →
      Write.ChangesAlike R w w' (wr.change? w.store.data) (wr.change? w'.store.data))
    (htold : ∀ put put', (∀ wr, P wr → Relates R Eq (put wr) (put' wr)) → ∀ {wr w w'}, P wr →
      R w w' → Relates R Eq ((w.store.captureFor wr).forM (tell (react put) wr))
        ((w'.store.captureFor wr).forM (tell (react' put') wr)))
    (depth : Nat) {wr : Write} (hwr : P wr) :
    Relates R Eq (perform react depth wr) (perform react' depth wr) := by
  induction depth generalizing wr with
  | zero => exact relates_throw .tooDeep
  | succ depth ih =>
    exact relates_perform_succ (hchange hwr) (htold _ _ (fun _ hwr => ih hwr) hwr)

theorem relates_write {react : React κ σ} {react' : React κ' σ'} {wr : Write}
    (hnesting : ∀ w w', R w w' → w.store.nesting = w'.store.nesting)
    (h : ∀ depth, Relates R Eq (perform react depth wr) (perform react' depth wr)) :
    Relates R Eq (write react wr) (write react' wr) := by
  intro w w' hw
  rw [run_write, run_write, hnesting w w' hw]
  exact h _ w w' hw

end

end DynamicForms
