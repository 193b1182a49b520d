import DynamicForms.Proofs.Store.Run
import DynamicForms.Timer.Agenda

/-!
# `DynamicForms.Proofs.Store.Keep` — what programs keep, also when they fail

A program that fails keeps what it has done, and a running form goes on from there. So a property of
every moment of a form has to hold of the world in which a program ends, well or not. It is enough that
the single steps keep it: sequences, loops and whole writes with all that follows from them keep it
then as well.

A program that may fail only in a way that shows in the world it leaves *comes through or escapes*: it
ends well with a property, or what it leaves has another one, which nothing that may follow takes away.

## Contents
- `Run.outcome`, `Run.Keeps`.
- **Rules.** `keeps_pure`, `keeps_throw`, `keeps_bind`, `keeps_forM`, `keeps_attempt`.
- **Coming through.** `Run.ThroughOr`, `ThroughOr.bind`, `throughOr_forM`.
- `keeps_tell`, `keeps_perform_of`, `keeps_perform`, `keeps_write`; `outcome_write_of_unchanged`;
  `keeps_go` for what happens by itself.
-/

namespace DynamicForms

variable {κ σ α β ι : Type}

namespace Run

/-- The world in which a program ends, well or not. -/
def outcome (m : Run κ σ α) (w : World κ σ) : World κ σ :=
  match m.run w with
  | .ok _ w' => w'
  | .error _ w' => w'

/-- A program keeps a property, also if it fails. -/
def Keeps (I : World κ σ → Prop) (m : Run κ σ α) : Prop :=
  ∀ w, I w → I (m.outcome w)

variable {I : World κ σ → Prop} {w w' : World κ σ} {m : Run κ σ α}

theorem outcome_of_ok {a : α} (h : m.run w = .ok a w') : m.outcome w = w' := by
  rw [outcome, h]

theorem outcome_of_error {fault : Fault} (h : m.run w = .error fault w') : m.outcome w = w' := by
  rw [outcome, h]

/-! ## Rules -/

theorem keeps_pure (a : α) : Keeps I (pure a : Run κ σ α) := fun _ => id

theorem keeps_throw (fault : Fault) : Keeps I (throw fault : Run κ σ α) := fun _ => id

/-- The second part of a sequence starts where the first one ended, if that ended well. -/
theorem outcome_bind_of_ok {next : α → Run κ σ β} {a : α} (h : m.run w = .ok a w') :
    (m >>= next).outcome w = (next a).outcome w' := by
  rw [outcome, EStateM.run_bind, h, outcome]

theorem outcome_bind_of_error {next : α → Run κ σ β} {fault : Fault}
    (h : m.run w = .error fault w') : (m >>= next).outcome w = w' := by
  rw [outcome, EStateM.run_bind, h]

/-- A result that is not used does not matter. -/
theorem outcome_discard (m : Run κ σ α) (w : World κ σ) :
    (m >>= fun _ => pure PUnit.unit).outcome w = m.outcome w := by
  cases hm : m.run w with
  | ok a w' =>
    rw [outcome_of_ok hm, outcome_bind_of_ok hm]
    rfl
  | error fault w' => rw [outcome_of_error hm, outcome_bind_of_error hm]

/-- A sequence keeps what its second part makes good from what its first part leaves. -/
theorem keeps_of_bind {next : α → Run κ σ β} (h : ∀ {a w'}, m.run w = .ok a w' →
    I ((next a).outcome w')) (hfault : ∀ {fault w'}, m.run w = .error fault w' → I w') :
    I ((m >>= next).outcome w) := by
  cases hm : m.run w with
  | ok a w' =>
    rw [outcome_bind_of_ok hm]
    exact h hm
  | error fault w' =>
    rw [outcome_bind_of_error hm]
    exact hfault hm

theorem keeps_bind {next : α → Run κ σ β} (h : Keeps I m) (hnext : ∀ a, Keeps I (next a)) :
    Keeps I (m >>= next) := by
  intro w hw
  have hend := h w hw
  refine keeps_of_bind (fun {a w'} hm => hnext a w' ?_) fun {fault w'} hm => ?_
  · rwa [outcome_of_ok hm] at hend
  · rwa [outcome_of_error hm] at hend

theorem keeps_forM {body : ι → Run κ σ PUnit} {xs : List ι} (h : ∀ x ∈ xs, Keeps I (body x)) :
    Keeps I (xs.forM body) := by
  induction xs with
  | nil => exact keeps_pure _
  | cons x rest ih =>
    exact keeps_bind (h x List.mem_cons_self) fun _ => ih fun y hy => h y (List.mem_cons_of_mem _ hy)

/-- An attempt ends well where what was attempted ends. -/
theorem run_attempt (m : Run κ σ Unit) (w : World κ σ) :
    (Agenda.attempt m).run w = .ok () (m.outcome w) := by
  unfold outcome Agenda.attempt EStateM.run
  simp only [bind, EStateM.bind, tryCatch, tryCatchThe, MonadExceptOf.tryCatch]
  unfold EStateM.tryCatch EStateM.bind
  cases m w <;> rfl

theorem keeps_attempt {m : Run κ σ Unit} (h : Keeps I m) : Keeps I (Agenda.attempt m) := by
  intro w hw
  rw [outcome_of_ok (run_attempt m w)]
  exact h w hw

/-! ## Coming through -/

/-- A program ends well in a world with one property, or it leaves one with another property. -/
def ThroughOr (E : World κ σ → Prop) (m : Run κ σ α) (w : World κ σ) (Q : World κ σ → Prop) : Prop :=
  m.Yields w Q ∨ E (m.outcome w)

variable {E Q R : World κ σ → Prop}

theorem ThroughOr.mono (h : m.ThroughOr E w Q) (himp : ∀ w', Q w' → R w') : m.ThroughOr E w R :=
  h.imp_left fun hm => hm.mono himp

/-- What has been done first is known. -/
theorem ThroughOr.after {next : α → Run κ σ β} {a : α} (hrun : m.run w = .ok a w')
    (h : (next a).ThroughOr E w' Q) : (m >>= next).ThroughOr E w Q := by
  unfold ThroughOr
  rw [Yields, EStateM.run_bind, hrun, outcome_bind_of_ok hrun]
  exact h

theorem ThroughOr.bind {next : α → Run κ σ β} (h : m.ThroughOr E w Q)
    (hkeeps : ∀ a, Keeps E (next a)) (hnext : ∀ a w', Q w' → (next a).ThroughOr E w' R) :
    (m >>= next).ThroughOr E w R := by
  rcases h with ⟨a, w', hrun, hw'⟩ | hescaped
  · exact (hnext a w' hw').after hrun
  · -- what has escaped stays so in whatever follows
    right
    cases hm : m.run w with
    | ok a w' =>
      rw [outcome_bind_of_ok hm]
      rw [outcome_of_ok hm] at hescaped
      exact hkeeps a w' hescaped
    | error fault w' =>
      rw [outcome_bind_of_error hm]
      rwa [outcome_of_error hm] at hescaped

/-- What escapes in any case has escaped in the end. -/
theorem ThroughOr.outcome_bind {next : α → Run κ σ β} (h : m.ThroughOr E w Q)
    (hkeeps : ∀ a, Keeps E (next a)) (hnext : ∀ a w', Q w' → E ((next a).outcome w')) :
    E ((m >>= next).outcome w) := by
  rcases h.bind (R := E) hkeeps fun a w' hw' => Or.inr (hnext a w' hw') with
    ⟨b, w', hrun, hw'⟩ | hescaped
  · rwa [outcome_of_ok hrun]
  · exact hescaped

/-- A loop comes through or escapes if each of its rounds does. -/
theorem throughOr_forM {body : ι → Run κ σ PUnit} {xs : List ι}
    (hkeeps : ∀ x ∈ xs, Keeps E (body x)) (h : ∀ x ∈ xs, ∀ w, Q w → (body x).ThroughOr E w Q)
    (hw : Q w) : (xs.forM body).ThroughOr E w Q := by
  induction xs generalizing w with
  | nil => exact Or.inl ⟨(), w, rfl, hw⟩
  | cons x rest ih =>
    have hrest : ∀ y ∈ rest, y ∈ x :: rest := fun y hy => List.mem_cons_of_mem _ hy
    exact (h x List.mem_cons_self w hw).bind
      (fun _ => keeps_forM fun y hy => hkeeps y (hrest y hy))
      fun _ w' hw' => ih (fun y hy => hkeeps y (hrest y hy)) (fun y hy => h y (hrest y hy)) hw'

end Run

/-! ## Writes -/

section

open Run (Keeps keeps_pure keeps_throw keeps_bind keeps_forM)

variable {I : World κ σ → Prop} {react : React κ σ}

/-- Telling keeps what the news are taken with. -/
theorem keeps_tell {tellOne : κ → List String → Run κ σ Unit} {wr : Write} {c : Captured κ}
    (h : ∀ news, Keeps I (tellOne c.subscription.owner news)) : Keeps I (tell tellOne wr c) := by
  intro w hw
  rcases told_cases tellOne wr c w with hrun | ⟨news, -, hrun⟩
  · rwa [Run.outcome_of_ok hrun]
  · rw [Run.outcome, hrun, ← Run.outcome]
    exact h news w hw

/-- **A write keeps what the data before and after it have in common**, if all those keep it who are told
    of it; said of one kind of writes, of which those are that they make. -/
theorem keeps_perform_of {P : Write → Prop}
    (hdata : ∀ {wr w after}, P wr → wr.change? w.store.data = .ok (some after) → I w →
      I (w.withData after))
    (hreact : ∀ put, (∀ wr, P wr → Keeps I (put wr)) → ∀ owner news, Keeps I (react put owner news))
    (depth : Nat) {wr : Write} (hwr : P wr) : Keeps I (perform react depth wr) := by
  induction depth generalizing wr with
  | zero => exact keeps_throw .tooDeep
  | succ depth ih =>
    intro w hw
    have htell : ∀ c : Captured κ, Keeps I (tell (react (perform react depth)) wr c) := fun c =>
      keeps_tell fun news => hreact _ (fun wr hwr => ih hwr) _ news
    cases hchange : wr.change? w.store.data with
    | error fault => rwa [Run.outcome_of_error (run_perform_of_error react depth hchange)]
    | ok change =>
      cases change with
      | none => rwa [Run.outcome_of_ok (run_perform_of_none react depth hchange)]
      | some after =>
        have hloop : Keeps I ((w.store.captureFor wr).forM (tell (react (perform react depth)) wr)) :=
          keeps_forM fun c _ => htell c
        have hall := keeps_bind hloop (fun _ => keeps_pure true) (w.withData after)
          (hdata hwr hchange hw)
        rwa [Run.outcome, run_perform_of_some react depth hchange]

/-- **A write keeps what does not depend on the data**, if all those keep it who are told of it. -/
theorem keeps_perform (hdata : ∀ w data, I w → I (w.withData data))
    (hreact : ∀ put, (∀ wr, Keeps I (put wr)) → ∀ owner news, Keeps I (react put owner news))
    (depth : Nat) (wr : Write) : Keeps I (perform react depth wr) :=
  keeps_perform_of (P := fun _ => True) (fun _ _ hw => hdata _ _ hw)
    (fun put hput => hreact put fun wr => hput wr trivial) depth trivial

theorem keeps_write (hdata : ∀ w data, I w → I (w.withData data))
    (hreact : ∀ put, (∀ wr, Keeps I (put wr)) → ∀ owner news, Keeps I (react put owner news))
    (wr : Write) : Keeps I (write react wr) :=
  keeps_bind (fun _ => id) fun s => keeps_perform hdata hreact s.nesting wr

/-- A write that changes nothing is as if it had not been made. -/
theorem outcome_write_of_unchanged (react : React κ σ) {wr : Write} {w : World κ σ}
    (h : ∀ after, wr.change? w.store.data ≠ .ok (some after)) : (write react wr).outcome w = w := by
  rw [Run.outcome, run_write, nesting_eq]
  cases hchange : wr.change? w.store.data with
  | error fault => rw [run_perform_of_error react _ hchange]
  | ok change =>
    cases change with
    | none => rw [run_perform_of_none react _ hchange]
    | some after => exact absurd hchange (h after)

end

/-! ## What happens by itself -/

theorem mem_of_earliest? {entries : List (Timer × α)} {entry : Timer × α}
    (h : earliest? entries = some entry) : entry ∈ entries := by
  induction entries with
  | nil => cases h
  | cons first rest ih =>
    rw [earliest?] at h
    cases hrest : earliest? rest with
    | none =>
      rw [hrest] at h
      cases h
      exact List.mem_cons_self
    | some best =>
      simp only [hrest] at h
      split at h
      · cases h
        exact List.mem_cons_of_mem _ (ih hrest)
      · cases h
        exact List.mem_cons_self

/-- If nothing is ready and nothing falls due, nothing happens. -/
theorem Agenda.run_go_of_nothing {a : Agenda κ σ} {w : World κ σ} (hready : a.setUp.run w = .ok false w)
    (hdue : a.upcoming w.parts = []) (may : σ → Nat → Bool) (count : Nat) :
    (a.go may count).run w = .ok () w := by
  cases count with
  | zero => rfl
  | succ count =>
    have hget : (get : Run κ σ (World κ σ)).run w = .ok w w := rfl
    rw [Agenda.go, EStateM.run_bind, hready]
    simp only [Bool.false_eq_true, if_false, EStateM.run_bind, hget, hdue, earliest?]
    rfl

/-- What happens by itself keeps what each of the things keeps that may happen. -/
theorem Agenda.keeps_go {I : World κ σ → Prop} {a : Agenda κ σ} (may : σ → Nat → Bool)
    (hsetUp : a.setUp.Keeps I) (hnow : ∀ f, (a.now.update f).Keeps I)
    (hdue : ∀ s, ∀ entry ∈ a.upcoming s, entry.2.Keeps I) (count : Nat) :
    (a.go may count).Keeps I := by
  induction count with
  | zero => exact Run.keeps_pure _
  | succ count ih =>
    refine Run.keeps_bind hsetUp fun wasReady => ?_
    cases wasReady with
    | true => exact ih
    | false =>
      refine Run.keeps_bind (fun _ => id) fun w => ?_
      dsimp only
      cases hnext : earliest? (a.upcoming w.parts) with
      | none => exact Run.keeps_pure _
      | some entry =>
        obtain ⟨timer, run⟩ := entry
        have hrun : run.Keeps I := hdue w.parts (timer, run) (mem_of_earliest? hnext)
        dsimp only
        split
        · exact Run.keeps_bind (hnow _) fun _ => Run.keeps_bind (Run.keeps_attempt hrun) fun _ => ih
        · exact Run.keeps_pure _

end DynamicForms
