import DynamicForms.Proofs.Store.Keep

/-!
# `DynamicForms.Proofs.Store.Mirror` — programs that take notes

What a run goes through on its way is not in the world it ends in. To speak of it a program is run
over a larger state, in which it also takes notes. It *mirrors* the original program if forgetting the
notes turns each of its runs into one of the original. So nothing it notes can change what happens,
and what holds of its runs holds of those of the original.

What a run may do to the world is said by a relation between the world before and the one after it. A
program *leads along* a relation if every run that ends well does; a relation that is reflexive and
transitive goes through sequences and loops.

## Contents
- `World.mapParts`, `Run.mapResult`, `Run.Mirrors`.
- **Mirrors.** `mirrors_bind`, `mirrors_forM`, `mirrors_attempt`, `mirrors_of_note` and the basic
  programs; `Part.Agrees` for components; `mirrors_write` for writes.
- **Relations.** `Run.LeadsAlong`, `leadsAlong_bind`; `Run.of_run_forM` for loops.
-/

namespace DynamicForms

variable {κ σ σ' α β ι : Type}

/-- The world with its state seen through a function. -/
def World.mapParts (f : σ' → σ) (w : World κ σ') : World κ σ :=
  ⟨w.store, f w.parts⟩

namespace Run

/-- What comes of a run, with the state seen through a function. -/
def mapResult (f : σ' → σ) : EStateM.Result Fault (World κ σ') α →
    EStateM.Result Fault (World κ σ) α
  | .ok a w => .ok a (w.mapParts f)
  | .error fault w => .error fault (w.mapParts f)

/-- A program over a larger state does what another one does over what is seen of it. -/
def Mirrors (f : σ' → σ) (m' : Run κ σ' α) (m : Run κ σ α) : Prop :=
  ∀ w, m.run (w.mapParts f) = mapResult f (m'.run w)

variable {f : σ' → σ}

/-! ## Mirrors -/

theorem mirrors_pure (a : α) : Mirrors f (pure a : Run κ σ' α) (pure a) := fun _ => rfl

theorem mirrors_throw (fault : Fault) : Mirrors f (throw fault : Run κ σ' α) (throw fault) :=
  fun _ => rfl

theorem mirrors_bind {m' : Run κ σ' α} {m : Run κ σ α} {next' : α → Run κ σ' β}
    {next : α → Run κ σ β} (h : Mirrors f m' m) (hnext : ∀ a, Mirrors f (next' a) (next a)) :
    Mirrors f (m' >>= next') (m >>= next) := by
  intro w
  rw [EStateM.run_bind, EStateM.run_bind, h w]
  cases m'.run w with
  | ok a w' => exact hnext a w'
  | error fault w' => rfl

theorem mirrors_forM {body' : ι → Run κ σ' PUnit} {body : ι → Run κ σ PUnit}
    (h : ∀ x, Mirrors f (body' x) (body x)) (xs : List ι) :
    Mirrors f (xs.forM body') (xs.forM body) := by
  induction xs with
  | nil => exact mirrors_pure _
  | cons x rest ih => exact mirrors_bind (h x) fun _ => ih

/-- Something done before that is not seen makes no difference. -/
theorem mirrors_of_note {unseen : Run κ σ' PUnit} {m' : Run κ σ' α} {m : Run κ σ α}
    (hunseen : Mirrors f unseen (pure ())) (h : Mirrors f m' m) :
    Mirrors f (unseen >>= fun _ => m') m := by
  have hboth : Mirrors f (unseen >>= fun _ => m') (pure () >>= fun _ => m) :=
    mirrors_bind hunseen fun _ => h
  exact hboth

/-- What follows a reading of the world depends on what is seen of it. -/
theorem mirrors_get {next' : World κ σ' → Run κ σ' α} {next : World κ σ → Run κ σ α}
    (h : ∀ w, Mirrors f (next' w) (next (w.mapParts f))) :
    Mirrors f (get >>= next') (get >>= next) := fun w => h w w

theorem mirrors_readStore : Mirrors f (readStore : Run κ σ' (Store κ)) readStore := fun _ => rfl

theorem mirrors_readData : Mirrors f (readData : Run κ σ' Value.Object) readData := fun _ => rfl

theorem mirrors_updateStore (change : Store κ → Store κ) :
    Mirrors f (updateStore change : Run κ σ' Unit) (updateStore change) := fun _ => rfl

theorem mirrors_subscribe (paths : List String) (owner : κ) :
    Mirrors f (subscribe paths owner : Run κ σ' Nat) (subscribe paths owner) := fun _ => rfl

theorem mirrors_listen (owner : κ) :
    Mirrors f (listen owner : Run κ σ' Nat) (listen owner) := fun _ => rfl

theorem mirrors_unsubscribe (ticket : Nat) :
    Mirrors f (unsubscribe ticket : Run κ σ' Unit) (unsubscribe ticket) := fun _ => rfl

theorem mirrors_attempt {m' : Run κ σ' Unit} {m : Run κ σ Unit} (h : Mirrors f m' m) :
    Mirrors f (Agenda.attempt m') (Agenda.attempt m) := by
  intro w
  rw [run_attempt, run_attempt, mapResult, outcome, outcome, h w]
  cases m'.run w <;> rfl

/-- What a run with notes does, seen without them. -/
theorem Mirrors.run_eq_ok {m' : Run κ σ' α} {m : Run κ σ α} (h : Mirrors f m' m) {w : World κ σ'}
    {a : α} {w₁ : World κ σ} (hrun : m.run (w.mapParts f) = .ok a w₁) :
    ∃ w', m'.run w = .ok a w' ∧ w'.mapParts f = w₁ := by
  rw [h w] at hrun
  cases hm : m'.run w with
  | ok b w' =>
    rw [hm] at hrun
    cases hrun
    exact ⟨w', rfl, rfl⟩
  | error fault w' =>
    rw [hm] at hrun
    cases hrun

end Run

/-- A component of a state and one of what is seen of it are the same. -/
structure Part.Agrees (f : σ' → σ) (part' : Part σ' α) (part : Part σ α) : Prop where
  /-- They are read alike. -/
  get_eq : ∀ s, part.get (f s) = part'.get s
  /-- They are replaced alike. -/
  set_eq : ∀ a s, f (part'.set a s) = part.set a (f s)

section

open Run (Mirrors mirrors_pure mirrors_throw mirrors_bind mirrors_forM)

variable {f : σ' → σ} {part' : Part σ' α} {part : Part σ α}

theorem Part.Agrees.read (h : part'.Agrees f part) :
    Mirrors f (part'.read : Run κ σ' α) part.read := by
  intro w
  show EStateM.Result.ok (part.get (f w.parts)) _ = _
  rw [h.get_eq]
  rfl

theorem Part.Agrees.update (h : part'.Agrees f part) (change : α → α) :
    Mirrors f (part'.update change : Run κ σ' Unit) (part.update change) := by
  intro w
  show EStateM.Result.ok ()
      (⟨w.store, part.set (change (part.get (f w.parts))) (f w.parts)⟩ : World κ σ)
    = .ok () ⟨w.store, f (part'.set (change (part'.get w.parts)) w.parts)⟩
  rw [h.set_eq, h.get_eq]

/-- **Writes mirror each other** if those do who are told of them. -/
theorem mirrors_perform {react' : React κ σ'} {react : React κ σ}
    (hreact : ∀ put' put, (∀ wr, Mirrors f (put' wr) (put wr)) →
      ∀ owner news, Mirrors f (react' put' owner news) (react put owner news))
    (depth : Nat) (wr : Write) :
    Mirrors f (perform react' depth wr) (perform react depth wr) := by
  induction depth generalizing wr with
  | zero => exact mirrors_throw .tooDeep
  | succ depth ih =>
    refine mirrors_bind Run.mirrors_readStore fun s => ?_
    cases wr.change? s.data with
    | error fault => exact mirrors_throw fault
    | ok change =>
      cases change with
      | none => exact mirrors_pure false
      | some after =>
        refine mirrors_bind (Run.mirrors_updateStore _) fun _ => ?_
        refine mirrors_bind (mirrors_forM (fun c => ?_) _) fun _ => mirrors_pure true
        refine mirrors_bind Run.mirrors_readStore fun s => ?_
        cases s.isActive c.subscription.ticket with
        | false => exact mirrors_pure ()
        | true =>
          cases c.news? s.data wr with
          | none => exact mirrors_pure ()
          | some news => exact hreact _ _ ih _ _

theorem mirrors_write {react' : React κ σ'} {react : React κ σ}
    (hreact : ∀ put' put, (∀ wr, Mirrors f (put' wr) (put wr)) →
      ∀ owner news, Mirrors f (react' put' owner news) (react put owner news)) (wr : Write) :
    Mirrors f (write react' wr) (write react wr) :=
  mirrors_bind Run.mirrors_readStore fun s => mirrors_perform hreact s.nesting wr

end

namespace Run

/-! ## Relations -/

/-- A sequence ends well if its two parts do. -/
theorem run_bind_eq_ok_iff {m : Run κ σ α} {next : α → Run κ σ β} {w w'' : World κ σ} {b : β} :
    (m >>= next).run w = .ok b w'' ↔
      ∃ a w', m.run w = .ok a w' ∧ (next a).run w' = .ok b w'' := by
  rw [EStateM.run_bind]
  constructor
  · intro h
    cases hm : m.run w with
    | ok a w' => exact ⟨a, w', rfl, by rwa [hm] at h⟩
    | error fault w' => rw [hm] at h; cases h
  · rintro ⟨a, w', hm, h⟩
    rwa [hm]

/-- A loop that ends well keeps what each of its rounds keeps, said of the rounds still to come. -/
theorem of_run_forM {body : ι → Run κ σ PUnit} {I : List ι → World κ σ → Prop}
    (hround : ∀ x rest w w', I (x :: rest) w → (body x).run w = .ok () w' → I rest w')
    {xs : List ι} {w w' : World κ σ} (h : I xs w) (hrun : (xs.forM body).run w = .ok () w') :
    I [] w' := by
  induction xs generalizing w with
  | nil => cases hrun; exact h
  | cons x rest ih =>
    obtain ⟨⟨⟩, w₁, hx, hrest⟩ := run_bind_eq_ok_iff.mp hrun
    exact ih (hround x rest w w₁ h hx) hrest

/-- Every run that ends well leads from one world to another along a relation. -/
def LeadsAlong (R : World κ σ → World κ σ → Prop) (m : Run κ σ α) : Prop :=
  ∀ w a w', m.run w = .ok a w' → R w w'

variable {R : World κ σ → World κ σ → Prop}

theorem leadsAlong_pure (hrefl : ∀ w, R w w) (a : α) : LeadsAlong R (pure a : Run κ σ α) := by
  rintro w b w' ⟨⟩
  exact hrefl w

theorem leadsAlong_throw (fault : Fault) : LeadsAlong R (throw fault : Run κ σ α) :=
  fun _ _ _ hrun => by cases hrun

theorem leadsAlong_bind (htrans : ∀ {w w' w''}, R w w' → R w' w'' → R w w'') {m : Run κ σ α}
    {next : α → Run κ σ β} (h : LeadsAlong R m) (hnext : ∀ a, LeadsAlong R (next a)) :
    LeadsAlong R (m >>= next) := by
  intro w b w'' hrun
  obtain ⟨a, w', hm, hrest⟩ := run_bind_eq_ok_iff.mp hrun
  exact htrans (h w a w' hm) (hnext a w' b w'' hrest)

end Run

end DynamicForms
