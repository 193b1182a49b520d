import DynamicForms.Proofs.Store.Mirror

/-!
# `DynamicForms.Proofs.Store.Reaction` — subscribers that use the store

A subscriber may look at everything, change its own state, write, subscribe others and give
subscriptions up, as often as it likes and depending on all it sees. That is a tree of such steps. A
tree has no step that goes on after a fault, so a fault ends the whole run.

The same steps are run once more with notes: of every write when it is made, of every subscription
when it is added, and of every time that somebody is told, with the data before the write that is told
of and the data at that moment.

## Contents
- `Reaction`, `Reaction.run`, `Reaction.react`.
- `Moment`, `Noted`, `note`.
- **With notes.** `Reaction.runNoted`, `tellNoted`, `performNoted`, `writeNoted`.
- `Reaction.mirrors_runNoted`, `mirrors_performNoted`, `mirrors_writeNoted`: the notes change nothing.
- `Reaction.history`: the notes of a run.
-/

namespace DynamicForms

open Value (Object)

/-- What somebody does with a store, step by step. -/
inductive Reaction (κ σ : Type) where
  /-- Nothing more. -/
  | done
  /-- Look at everything. -/
  | look (next : World κ σ → Reaction κ σ)
  /-- Replace the state beside the store. -/
  | keep (parts : σ) (next : Reaction κ σ)
  /-- Make a write; one learns whether anything changed. -/
  | write (wr : Write) (next : Bool → Reaction κ σ)
  /-- Add a subscription to paths; one learns its ticket. -/
  | subscribe (paths : List String) (owner : κ) (next : Nat → Reaction κ σ)
  /-- Add a subscription to everything; one learns its ticket. -/
  | listen (owner : κ) (next : Nat → Reaction κ σ)
  /-- Give a subscription up. -/
  | unsubscribe (ticket : Nat) (next : Reaction κ σ)
  /-- Give up. -/
  | fail (fault : Fault)

/-- What happened at one moment of a run. -/
inductive Moment (κ : Type) where
  /-- A write was begun. -/
  | wrote (wr : Write)
  /-- A subscription was added; this was the data. -/
  | joined (sub : Subscription κ) (data : Object)
  /-- A subscription was told of news; this was the data before the write and at that moment. -/
  | told (sub : Subscription κ) (news : List String) (before now : Object)

/-- A state with notes, the last one first. -/
structure Noted (κ σ : Type) where
  /-- The state. -/
  parts : σ
  /-- What has happened. -/
  moments : List (Moment κ)

variable {κ σ : Type}

namespace Reaction

/-- Do all steps, with a way to write. -/
def run (put : Writer κ σ) : Reaction κ σ → Run κ σ Unit
  | .done => pure ()
  | .look next => do
    let w ← get
    (next w).run put
  | .keep parts next => do
    modify fun w => { w with parts }
    next.run put
  | .write wr next => do
    let changed ← put wr
    (next changed).run put
  | .subscribe paths owner next => do
    let ticket ← DynamicForms.subscribe paths owner
    (next ticket).run put
  | .listen owner next => do
    let ticket ← DynamicForms.listen owner
    (next ticket).run put
  | .unsubscribe ticket next => do
    DynamicForms.unsubscribe ticket
    next.run put
  | .fail fault => throw fault

/-- Subscribers that use the store react step by step. -/
def react (subscribers : κ → List String → Reaction κ σ) : React κ σ :=
  fun put owner news => (subscribers owner news).run put

end Reaction

/-! ## With notes -/

/-- Note what happens. -/
def note (moment : Moment κ) : Run κ (Noted κ σ) Unit :=
  modify fun w => { w with parts := { w.parts with moments := moment :: w.parts.moments } }

/-- Do all steps, with a way to write, and note new subscriptions. -/
def Reaction.runNoted (put : Writer κ (Noted κ σ)) : Reaction κ σ → Run κ (Noted κ σ) Unit
  | .done => pure ()
  | .look next => do
    let w ← get
    (next (w.mapParts Noted.parts)).runNoted put
  | .keep parts next => do
    modify fun w => { w with parts := { w.parts with parts } }
    next.runNoted put
  | .write wr next => do
    let changed ← put wr
    (next changed).runNoted put
  | .subscribe paths owner next => do
    let data ← readData
    let ticket ← DynamicForms.subscribe paths owner
    note (.joined ⟨ticket, some paths.eraseDups, owner⟩ data)
    (next ticket).runNoted put
  | .listen owner next => do
    let ticket ← DynamicForms.listen owner
    (next ticket).runNoted put
  | .unsubscribe ticket next => do
    DynamicForms.unsubscribe ticket
    next.runNoted put
  | .fail fault => throw fault

/-- Tell one subscription of a write and note it; `before` was the data before the write. -/
def tellNoted (react : κ → List String → Run κ (Noted κ σ) Unit) (wr : Write) (before : Object)
    (c : Captured κ) : Run κ (Noted κ σ) Unit := do
  let s ← readStore
  if s.isActive c.subscription.ticket then
    match c.news? s.data wr with
    | some news => do
      note (.told c.subscription news before s.data)
      react c.subscription.owner news
    | none => return

/-- Make a write, note it and tell the subscriptions it concerns. -/
def performNoted (subscribers : κ → List String → Reaction κ σ) :
    (depth : Nat) → Writer κ (Noted κ σ)
  | 0, _ => throw .tooDeep
  | depth + 1, wr => do
    note (.wrote wr)
    let s ← readStore
    match wr.change? s.data with
    | .error fault => throw fault
    | .ok none => return false
    | .ok (some after) =>
      updateStore fun s => { s with data := after }
      (s.captureFor wr).forM (tellNoted
        (fun owner news => (subscribers owner news).runNoted (performNoted subscribers depth)) wr
        s.data)
      return true

/-- Make an outermost write with notes. -/
def writeNoted (subscribers : κ → List String → Reaction κ σ) : Writer κ (Noted κ σ) := fun wr => do
  performNoted subscribers (← readStore).nesting wr

/-! ## The notes change nothing -/

section

open Run (Mirrors mirrors_pure mirrors_throw mirrors_bind mirrors_of_note mirrors_forM)

variable {subscribers : κ → List String → Reaction κ σ} {put : Writer κ σ}
  {put' : Writer κ (Noted κ σ)}

theorem mirrors_note (moment : Moment κ) :
    Mirrors Noted.parts (note moment : Run κ (Noted κ σ) Unit) (pure ()) := fun _ => rfl

theorem Reaction.mirrors_runNoted (hput : ∀ wr, Mirrors Noted.parts (put' wr) (put wr))
    (r : Reaction κ σ) : Mirrors Noted.parts (r.runNoted put') (r.run put) := by
  induction r with
  | done => exact mirrors_pure ()
  | look next ih => exact fun w => ih (w.mapParts Noted.parts) w
  | keep parts next ih =>
    exact mirrors_bind (fun _ => rfl) fun _ => ih
  | write wr next ih => exact mirrors_bind (hput wr) ih
  | subscribe paths owner next ih =>
    intro w
    exact mirrors_bind (Run.mirrors_subscribe paths owner) (fun ticket =>
      mirrors_of_note (mirrors_note (.joined ⟨ticket, some paths.eraseDups, owner⟩ w.store.data))
        (ih ticket)) w
  | listen owner next ih => exact mirrors_bind (Run.mirrors_listen owner) ih
  | unsubscribe ticket next ih => exact mirrors_bind (Run.mirrors_unsubscribe ticket) fun _ => ih
  | fail fault => exact mirrors_throw fault

theorem mirrors_tellNoted {reactNoted : κ → List String → Run κ (Noted κ σ) Unit}
    {react : κ → List String → Run κ σ Unit}
    (h : ∀ owner news, Mirrors Noted.parts (reactNoted owner news) (react owner news)) (wr : Write)
    (before : Object) (c : Captured κ) :
    Mirrors Noted.parts (tellNoted reactNoted wr before c) (tell react wr c) := by
  refine mirrors_bind Run.mirrors_readStore fun s => ?_
  cases s.isActive c.subscription.ticket with
  | false => exact mirrors_pure ()
  | true =>
    cases c.news? s.data wr with
    | none => exact mirrors_pure ()
    | some news => exact mirrors_of_note (mirrors_note _) (h _ _)

/-- **Writes with notes do what writes do.** -/
theorem mirrors_performNoted (subscribers : κ → List String → Reaction κ σ) (depth : Nat)
    (wr : Write) : Mirrors Noted.parts (performNoted subscribers depth wr)
      (perform (Reaction.react subscribers) depth wr) := by
  induction depth generalizing wr with
  | zero => exact mirrors_throw .tooDeep
  | succ depth ih =>
    refine mirrors_of_note (mirrors_note _) (mirrors_bind Run.mirrors_readStore fun s => ?_)
    cases wr.change? s.data with
    | error fault => exact mirrors_throw fault
    | ok change =>
      cases change with
      | none => exact mirrors_pure false
      | some after =>
        refine mirrors_bind (Run.mirrors_updateStore _) fun _ => ?_
        refine mirrors_bind (mirrors_forM (fun c => ?_) _) fun _ => mirrors_pure true
        exact mirrors_tellNoted (fun owner news => Reaction.mirrors_runNoted ih _) wr s.data c

theorem mirrors_writeNoted (subscribers : κ → List String → Reaction κ σ) (wr : Write) :
    Mirrors Noted.parts (writeNoted subscribers wr) (write (Reaction.react subscribers) wr) :=
  mirrors_bind Run.mirrors_readStore fun s => mirrors_performNoted subscribers s.nesting wr

end

/-! ## What a run with notes does -/

section

variable {subscribers : κ → List String → Reaction κ σ} {wr : Write} {w w' : World κ (Noted κ σ)}

/-- The world with one more note. -/
def World.noting (w : World κ (Noted κ σ)) (m : Moment κ) : World κ (Noted κ σ) :=
  { w with parts := { w.parts with moments := m :: w.parts.moments } }

@[simp] theorem run_note (m : Moment κ) (w : World κ (Noted κ σ)) :
    (note m).run w = .ok () (w.noting m) := rfl

/-- Nobody is told who has gone or sees nothing new; who is told may react. -/
theorem tellNoted_cases {react : κ → List String → Run κ (Noted κ σ) Unit} {before : Object}
    {c : Captured κ} (hrun : (tellNoted react wr before c).run w = .ok () w') :
    (w.store.isActive c.subscription.ticket = false ∧ w' = w) ∨
      (c.news? w.store.data wr = none ∧ w' = w) ∨
        ∃ news, c.news? w.store.data wr = some news ∧
          (react c.subscription.owner news).run
            (w.noting (.told c.subscription news before w.store.data)) = .ok () w' := by
  simp only [tellNoted, EStateM.run_bind, run_readStore] at hrun
  cases hactive : w.store.isActive c.subscription.ticket with
  | false =>
    rw [hactive] at hrun
    cases hrun
    exact Or.inl ⟨rfl, rfl⟩
  | true =>
    rw [hactive, if_pos rfl] at hrun
    cases hnews : c.news? w.store.data wr with
    | none =>
      rw [hnews] at hrun
      cases hrun
      exact Or.inr (Or.inl ⟨rfl, rfl⟩)
    | some news =>
      rw [hnews] at hrun
      exact Or.inr (Or.inr ⟨news, rfl, hrun⟩)

/-- A write that ends well changes nothing, or puts the new data in place and tells those it
concerns. -/
theorem performNoted_cases {depth : Nat} {changed : Bool}
    (hrun : (performNoted subscribers (depth + 1) wr).run w = .ok changed w') :
    w' = w.noting (.wrote wr) ∨
      ∃ after, wr.change? w.store.data = .ok (some after) ∧
        ((w.store.captureFor wr).forM (tellNoted
            (fun owner news => (subscribers owner news).runNoted (performNoted subscribers depth))
            wr w.store.data)).run ((w.noting (.wrote wr)).withData after) = .ok () w' := by
  have hstore : (w.noting (.wrote wr)).store = w.store := rfl
  simp only [performNoted, EStateM.run_bind, run_note, run_readStore, hstore] at hrun
  cases hchange : wr.change? w.store.data with
  | error fault =>
    rw [hchange] at hrun
    cases hrun
  | ok change =>
    rw [hchange] at hrun
    cases change with
    | none =>
      cases hrun
      exact Or.inl rfl
    | some after =>
      refine Or.inr ⟨after, rfl, ?_⟩
      obtain ⟨_, w₁, hupdate, hrun⟩ := Run.run_bind_eq_ok_iff.mp hrun
      cases hupdate
      obtain ⟨_, w₂, hloop, hrun⟩ := Run.run_bind_eq_ok_iff.mp hrun
      cases hrun
      exact hloop

end

/-! ## What a run has gone through -/

/-- The world with an empty list of notes. -/
def World.noted (w : World κ σ) : World κ (Noted κ σ) :=
  ⟨w.store, ⟨w.parts, []⟩⟩

/-- The notes of a run of some steps with outermost writes, the last one first. -/
def Reaction.history (subscribers : κ → List String → Reaction κ σ) (steps : Reaction κ σ)
    (w : World κ σ) : List (Moment κ) :=
  match (steps.runNoted (writeNoted subscribers)).run w.noted with
  | .ok _ w' => w'.parts.moments
  | .error _ w' => w'.parts.moments

end DynamicForms
