import DynamicForms.Visibility.Tracker

/-!
# `DynamicForms.Visibility.Prune` — form data without hidden values

Data that comes from outside may hold values of hidden items. Pruning deletes them as a tracker would
that registers nothing: it is run once over a store with the data, and nobody else listens.

## Contents
- `Tracker.react`: how a tracker that is all there is reacts.
- `Item.prune`.
-/

namespace DynamicForms

/-- A tracker with nothing beside it reacts to news by bringing itself up to date. -/
def Tracker.react : React Unit Tracker :=
  fun write _ _ => Tracker.refresh Part.whole write

/-- The store and the tracker after pruning. -/
def Item.pruneRun : Run Unit Tracker Unit := do
  Tracker.start Part.whole (write Tracker.react) ()
  Tracker.close Part.whole

/-- The world in which pruning starts. -/
def Item.pruneWorld (items : List Item) (data : Value.Object) : World Unit Tracker :=
  ⟨Store.ofData data, Tracker.ofItems items false⟩

/-- The data without the values of hidden items. -/
def Item.prune (items : List Item) (data : Value.Object) : Value.Object :=
  match Item.pruneRun.run (Item.pruneWorld items data) with
  | .ok _ w => w.store.data
  | .error _ w => w.store.data

end DynamicForms
