import DynamicForms.Store.Run
import DynamicForms.Visibility.Visible

/-!
# `DynamicForms.Visibility.Tracker` — keeping the visible part current

A tracker holds the visible part of a form whose data lives in a store. It subscribes to the paths
that conditions name. When one of them changes it computes the visible part anew, deletes the values
of items that became hidden and, if it registers fields, gives visible fields without a value their
initial one. Those writes may change what is visible, so it goes on until a pass has changed no
watched path, but at most one pass more than there are items.

While it works, its own writes only mark that another pass is due.

## Contents
- `Move`, `Tracker`, `Tracker.ofItems`.
- **One pass.** `Tracker.applyVisible`.
- **Until nothing changes.** `Tracker.passes`, `Tracker.refresh`.
- `Tracker.start`, `Tracker.close`.
-/

namespace DynamicForms

/-- What appeared and what went in one pass. -/
structure Move where
  /-- The paths that became visible. -/
  added : List String
  /-- The paths that became hidden. -/
  removed : List String
  deriving DecidableEq, Repr, Inhabited

/-- The visible part of a form, kept current. -/
structure Tracker where
  /-- The items of the form. -/
  items : List Item
  /-- Whether visible fields get an initial value. -/
  registers : Bool
  /-- The visible items by path. -/
  visible : Entries Item
  /-- The ticket of the subscription, while there is one. -/
  ticket : Option Nat
  /-- Whether passes are being made. -/
  refreshing : Bool
  /-- Whether another pass is due. -/
  dirty : Bool
  /-- What has happened, pass by pass. -/
  moves : List Move
  deriving Repr, Inhabited

namespace Tracker

/-- A tracker that has not started. -/
def ofItems (items : List Item) (registers : Bool) : Tracker :=
  ⟨items, registers, [], none, false, false, []⟩

/-- The paths that the conditions of the form name. -/
def watched (t : Tracker) : List String :=
  Item.conditionPaths ((Item.byPath t.items).map (·.2))

/-- The paths of the visible items. -/
def visiblePaths (t : Tracker) : List String :=
  t.visible.keys

/-- Whether the item at a path is visible. -/
def isVisible (t : Tracker) (path : String) : Bool :=
  t.visible.contains path

/-- What changes from one visible part to the next. -/
def moveBetween (before after : Entries Item) : Move where
  added := after.keys.filter fun path => !before.contains path
  removed := before.keys.filter fun path => !after.contains path

variable {κ σ : Type} (part : Part σ Tracker) (write : Writer κ σ)

/-- Give a visible field without a value its initial one. -/
def register (path : String) (item : Item) : Run κ σ Unit := do
  match item with
  | .field f =>
    if (← readPath path).isAbsent then
      let _ ← write (.set path f.initialValue)
  | .group _ _ => return

/-- Note a change of the visible part. -/
def noteMove (move : Move) : Run κ σ Unit :=
  if move.added.isEmpty && move.removed.isEmpty then pure ()
  else part.update fun t => { t with moves := t.moves ++ [move] }

/-- Make a visible part the current one. -/
def applyVisible (visible : Entries Item) : Run κ σ Unit := do
  let t ← part.read
  let move := moveBetween t.visible visible
  part.update fun t => { t with visible }
  move.removed.forM fun path => do
    let _ ← write (.unregister path)
  if t.registers then
    visible.forM fun entry => register write entry.1 entry.2
  noteMove part move

/-- Make passes until no watched path has changed, up to a count. -/
def passes : (count : Nat) → Run κ σ Unit
  | 0 => return
  | count + 1 => do
    part.update fun t => { t with dirty := false }
    let t ← part.read
    applyVisible part write (Item.visibleTable t.items (.object (← readData)))
    if (← part.read).dirty then
      passes count

/-- Run something and, whether it fails or not, say that no passes are being made any more. -/
def settling (run : Run κ σ Unit) : Run κ σ Unit := do
  try
    run
    part.update fun t => { t with refreshing := false }
  catch fault =>
    part.update fun t => { t with refreshing := false }
    throw fault

/-- Bring the visible part up to date. -/
def refresh : Run κ σ Unit := do
  let t ← part.read
  if t.refreshing then
    part.update fun t => { t with dirty := true }
  else
    part.update fun t => { t with refreshing := true }
    settling part (passes part write ((Item.byPath t.items).length + 1))

/-- Start: count every item as visible, so that the first pass deletes the values of all that are
not, and subscribe to the watched paths. -/
def start (owner : κ) : Run κ σ Unit := do
  part.update fun t => { t with visible := Item.byPath t.items }
  let t ← part.read
  if !t.watched.isEmpty && t.ticket.isNone then
    let ticket ← subscribe t.watched owner
    part.update fun t => { t with ticket := some ticket }
  refresh part write

/-- Give the subscription up. -/
def close : Run κ σ Unit := do
  match (← part.read).ticket with
  | some ticket =>
    unsubscribe ticket
    part.update fun t => { t with ticket := none }
  | none => return

end Tracker

end DynamicForms
