import DynamicForms.Visibility.Condition

/-!
# `DynamicForms.Visibility.Visible` — the visible part of a form

An item is visible while its own conditions and those of every group around it hold.

## Contents
- `Item.visible`, `Item.visibleList`: the visible nodes, in the order of the walk.
- `Item.visibleTable`: the visible items by path.
-/

namespace DynamicForms.Item

mutual

/-- An item and everything inside it, as far as it is visible. -/
def visible (data : Value) (parent : String) : Item → List Node
  | .field f =>
    if (Item.field f).isShown data then [⟨.field f, Path.join parent f.id, parent⟩] else []
  | .group g items =>
    if (Item.group g items).isShown data then
      ⟨.group g items, Path.join parent g.id, parent⟩
        :: visibleList data (Path.join parent g.id) items
    else []

/-- Items and everything inside them, as far as they are visible. -/
def visibleList (data : Value) (parent : String) : List Item → List Node
  | [] => []
  | item :: rest => visible data parent item ++ visibleList data parent rest

end

/-- The visible items of a form by path. -/
def visibleTable (items : List Item) (data : Value) : Entries Item :=
  Entries.ofPairs ((visibleList data "" items).map fun node => (node.path, node.item))

/-- The paths of the visible items of a form. -/
def visiblePaths (items : List Item) (data : Value) : List String :=
  (visibleTable items data).keys

end DynamicForms.Item
