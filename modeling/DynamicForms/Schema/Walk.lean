import DynamicForms.Path.Basic
import DynamicForms.Schema.Basic

/-!
# `DynamicForms.Schema.Walk` — the items of a form with their paths

Every item of a schema has a path: the identifiers of the groups around it and its own. The walk
lists all items, a group before its items, from left to right.

## Contents
- `Node`: an item with its path and the path of the group around it.
- `Item.walk`, `Item.walkList`: the nodes of a tree.
- `Item.pathsById`, `Item.byPath`: tables of the nodes.
-/

namespace DynamicForms

/-- An item of a schema and where it stands. -/
structure Node where
  /-- The item. -/
  item : Item
  /-- Its path. -/
  path : String
  /-- The path of the group around it, empty at the top. -/
  parent : String
  deriving Repr, Inhabited

namespace Item

mutual

/-- An item and everything inside it. -/
def walk (parent : String) : Item → List Node
  | .field f => [⟨.field f, Path.join parent f.id, parent⟩]
  | .group g items =>
    ⟨.group g items, Path.join parent g.id, parent⟩ :: walkList (Path.join parent g.id) items

/-- Items and everything inside them. -/
def walkList (parent : String) : List Item → List Node
  | [] => []
  | item :: rest => walk parent item ++ walkList parent rest

end

/-- The nodes of a form. -/
abbrev nodes (items : List Item) : List Node :=
  walkList "" items

/-- The count of nodes of a form. -/
def nodeCount (items : List Item) : Nat :=
  (nodes items).length

/-- The path of every identifier; of two items with one identifier the later counts. -/
def pathsById (items : List Item) : Entries String :=
  Entries.ofPairs ((nodes items).map fun node => (node.item.id, node.path))

/-- The items by path. -/
def byPath (items : List Item) : Entries Item :=
  Entries.ofPairs ((nodes items).map fun node => (node.path, node.item))

theorem walkList_append (parent : String) (front back : List Item) :
    walkList parent (front ++ back) = walkList parent front ++ walkList parent back := by
  induction front with
  | nil => rfl
  | cons item rest ih => simp [walkList, ih]

theorem walk_head (parent : String) (item : Item) :
    ∃ rest, walk parent item = ⟨item, Path.join parent item.id, parent⟩ :: rest := by
  cases item with
  | field f => exact ⟨[], rfl⟩
  | group g items => exact ⟨walkList (Path.join parent g.id) items, rfl⟩

end Item

end DynamicForms
