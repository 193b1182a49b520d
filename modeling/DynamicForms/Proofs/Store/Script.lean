import DynamicForms.Proofs.Store.Reaction
import DynamicForms.Store.Script

/-!
# `DynamicForms.Proofs.Store.Script` — scripts are reactions

A scripted subscriber looks at the stage and then does one step after the other. So it is one of the
subscribers that use the store step by step, and what holds of their runs holds of every run of a stage.

## Contents
- `Stage.step`, `Stage.reaction`: a scripted subscriber, step by step.
- `Stage.run_step`, `Stage.react_eq`: it does what the script says.
-/

namespace DynamicForms

namespace Stage

/-- The stage with a new subscriber. -/
def entered (stage : Stage) (actor : Actor) (ticket : Nat) : Stage :=
  { stage with actors := stage.actors ++ [actor], tickets := stage.tickets.put actor.name ticket }

/-- One step of a script, and what follows. -/
def step (next : Reaction Nat Stage) : Step → Reaction Nat Stage
  | .write wr => .write wr fun _ => next
  | .get _ => next
  | .subscribe name paths script budget => .look fun w =>
      .subscribe paths w.parts.actors.length fun ticket =>
        .keep (w.parts.entered ⟨name, script, budget⟩ ticket) next
  | .listen name script budget => .look fun w =>
      .listen w.parts.actors.length fun ticket =>
        .keep (w.parts.entered ⟨name, script, budget⟩ ticket) next
  | .unsubscribe name => .look fun w =>
      match w.parts.tickets.get? name with
      | some ticket => .unsubscribe ticket next
      | none => .fail (.unknownSubscriber name)

/-- What a scripted subscriber does when it is told something. -/
def reaction (number : Nat) (news : List String) : Reaction Nat Stage :=
  .look fun w =>
    match w.parts.actors[number]? with
    | none => .done
    | some actor =>
      let noted := { w.parts with events := w.parts.events ++ [(actor.name, news)] }
      if 0 < actor.budget then
        let spent := { actor with budget := actor.budget - 1 }
        .keep { noted with actors := noted.actors.set number spent }
          (actor.script.foldr (fun s next => step next s) .done)
      else .keep noted .done

variable {put : Writer Nat Stage}

theorem run_step (s : Step) (next : Reaction Nat Stage) :
    (step next s).run put = act put s >>= fun _ => next.run put := by
  funext w
  cases s with
  | write wr =>
    show (put wr >>= fun _ => next.run put).run w = ((put wr >>= _) >>= _).run w
    simp only [EStateM.run_bind]
    cases (put wr).run w with
    | ok changed w' => rfl
    | error fault w' => rfl
  | get path => rfl
  | subscribe name paths script budget => rfl
  | listen name script budget => rfl
  | unsubscribe name =>
    show ((match w.parts.tickets.get? name with
        | some ticket => .unsubscribe ticket next
        | none => .fail (.unknownSubscriber name) : Reaction Nat Stage).run put).run w
      = (act put (.unsubscribe name) >>= fun _ => next.run put).run w
    rw [EStateM.run_bind]
    simp only [act, EStateM.run_bind, Part.run_read, Part.whole_get]
    cases w.parts.tickets.get? name with
    | some ticket => rfl
    | none => rfl

theorem run_steps (script : List Step) :
    (script.foldr (fun s next => step next s) .done).run put
      = script.forM (fun s => do let _ ← act put s) := by
  induction script with
  | nil => rfl
  | cons s rest ih =>
    rw [List.foldr_cons, run_step, ih]
    funext w
    show (act put s >>= fun _ => _).run w = ((act put s >>= fun _ => pure ()) >>= fun _ => _).run w
    simp only [EStateM.run_bind]
    cases (act put s).run w with
    | ok answer w' => rfl
    | error fault w' => rfl

/-- **Scripted subscribers use the store step by step.** -/
theorem react_eq : react = Reaction.react reaction := by
  funext put number news w
  show (react put number news).run w = ((reaction number news).run put).run w
  have hlook : ∀ next : World Nat Stage → Reaction Nat Stage,
      ((Reaction.look next).run put).run w = ((next w).run put).run w := fun _ => rfl
  simp only [react, reaction, hlook, EStateM.run_bind, Part.run_read, Part.whole_get]
  cases w.parts.actors[number]? with
  | none => rfl
  | some actor =>
    by_cases hbudget : 0 < actor.budget
    · simp only [if_pos hbudget, ← run_steps]
      rfl
    · simp only [if_neg hbudget]
      rfl

end Stage

end DynamicForms
