import DynamicForms.Store.Run

/-!
# `DynamicForms.Store.Script` — subscribers that follow a script

A subscriber may be given as data: a list of steps that it performs, in order, each time it is told of
a write, for a limited number of times. With scripts every run of a store with subscribers that
write, subscribe and unsubscribe is one value that can be computed with.

## Contents
- `Step`, `Answer`: what can be done, and what comes of it.
- `Actor`, `Stage`: scripted subscribers.
- `Stage.act`, `Stage.react`: one step, and a reaction.
-/

namespace DynamicForms

/-- A step on a store. -/
inductive Step where
  /-- A write. -/
  | write (w : Write)
  /-- Read a path. -/
  | get (path : String)
  /-- Add a subscriber to some paths, with its script and how often it follows it. -/
  | subscribe (name : String) (paths : List String) (script : List Step) (budget : Nat)
  /-- Add a subscriber to everything, with its script and how often it follows it. -/
  | listen (name : String) (script : List Step) (budget : Nat)
  /-- Give up the last subscription under a name. -/
  | unsubscribe (name : String)
  deriving Repr, Inhabited

/-- What comes of a step. -/
inductive Answer where
  /-- Nothing. -/
  | nothing
  /-- Whether anything changed. -/
  | flag (b : Bool)
  /-- A value. -/
  | value (v : Value)
  deriving Repr, Inhabited

/-- A scripted subscriber. -/
structure Actor where
  /-- Its name. -/
  name : String
  /-- What it does when it is told of a write. -/
  script : List Step
  /-- How often it will still do so. -/
  budget : Nat
  deriving Repr, Inhabited

/-- All scripted subscribers. -/
structure Stage where
  /-- The subscribers, by number. -/
  actors : List Actor
  /-- The last subscription under each name. -/
  tickets : Entries Nat
  /-- Who was told of what. -/
  events : List (String × List String)
  deriving Repr, Inhabited

namespace Stage

/-- A run of scripted subscribers; a subscription is owned by the number of its subscriber. -/
abbrev Play := Run Nat Stage

/-- Change the stage. -/
def update (f : Stage → Stage) : Play Unit :=
  Part.whole.update f

/-- Note a new subscription. -/
def enter (actor : Actor) (paths : Option (List String)) : Play Answer := do
  let stage ← (Part.whole : Part Stage Stage).read
  let number := stage.actors.length
  let ticket ← match paths with
    | some paths => DynamicForms.subscribe paths number
    | none => DynamicForms.listen number
  update fun s => { s with actors := s.actors ++ [actor], tickets := s.tickets.put actor.name ticket }
  return .nothing

/-- One step. -/
def act (write : Writer Nat Stage) : Step → Play Answer
  | .write w => do
    let changed ← write w
    return match w with
      | .reset _ => .nothing
      | _ => .flag changed
  | .get path => do
    return .value (← readPath path)
  | .subscribe name paths script budget => enter ⟨name, script, budget⟩ (some paths)
  | .listen name script budget => enter ⟨name, script, budget⟩ none
  | .unsubscribe name => do
    let stage ← (Part.whole : Part Stage Stage).read
    match stage.tickets.get? name with
    | some ticket =>
      DynamicForms.unsubscribe ticket
      return .nothing
    | none => throw (.unknownSubscriber name)

/-- A subscriber notes what it is told and, while it may, follows its script. -/
def react : React Nat Stage :=
  fun write number news => do
    let stage ← (Part.whole : Part Stage Stage).read
    match stage.actors[number]? with
    | none => return
    | some actor =>
      update fun s => { s with events := s.events ++ [(actor.name, news)] }
      if 0 < actor.budget then
        let spent := { actor with budget := actor.budget - 1 }
        update fun s => { s with actors := s.actors.set number spent }
        actor.script.forM fun step => do
          let _ ← act write step

/-- A stage without subscribers over some data. -/
def world (data : Value.Object) : World Nat Stage :=
  ⟨Store.ofData data, ⟨[], [], []⟩⟩

end Stage

end DynamicForms
