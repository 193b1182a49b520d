import DynamicForms.Proofs.Schema.Identifiers
import DynamicForms.Proofs.Visibility.Visible

/-!
# `DynamicForms.Proofs.Visibility.Surroundings` — shown with everything around it

The visible part of a form is found by going into those groups only that are shown. The same items come
from a walk through the whole form that remembers the groups around each item: the visible ones are those
that are shown in a place where everything around them is.

The items can be put into one table as the walk finds them, or the inside of every group can be gathered
in a table of its own that is then merged into the one around it. Both ways give one table, whatever the
identifiers are. Where these are distinct names, no two items meet in it, so that it has the visible items
in the order of the walk.

## Contents
- `Placed`: a node and the groups around it; `Item.placedList`, `Item.shownThroughout`.
- `Item.gather`, `Item.gatherList`: the visible items, gathered group by group.
- **The two walks.** `map_node_placedList`, `filter_placedList`, `visibleList_eq`.
- **The two tables.** `gatherList_eq`.
- **Parents.** `exists_around_of_mem_visibleList`, `parent_mem_visiblePaths`.
- `Item.VisibleThroughout`, `visible_throughout`; `Item.tradeForm`.
-/

namespace DynamicForms

/-- A node of a form and the groups around it, from the outermost one. -/
structure Placed where
  /-- The groups around it. -/
  around : List Item
  /-- The node. -/
  node : Node

/-- Whether the item and all groups around it are shown. -/
def Placed.isShown (data : Value) (place : Placed) : Bool :=
  place.around.all (·.isShown data) && place.node.item.isShown data

namespace Item

mutual

/-- An item and everything inside it, with the groups around. -/
def placed (around : List Item) (parent : String) : Item → List Placed
  | .field f => [⟨around, ⟨.field f, Path.join parent f.id, parent⟩⟩]
  | .group g items =>
    ⟨around, ⟨.group g items, Path.join parent g.id, parent⟩⟩
      :: placedList (around ++ [.group g items]) (Path.join parent g.id) items

/-- Items and everything inside them, with the groups around. -/
def placedList (around : List Item) (parent : String) : List Item → List Placed
  | [] => []
  | item :: rest => placed around parent item ++ placedList around parent rest

end

/-- The nodes of a form that are shown with all groups around them, in the order of the walk. -/
def shownThroughout (items : List Item) (data : Value) : List Node :=
  ((placedList [] "" items).filter (·.isShown data)).map (·.node)

mutual

/-- An item that is visible is written into a table, and after it a table of what is visible inside. -/
def gather (data : Value) (parent : String) (table : Entries Item) : Item → Entries Item
  | .field f =>
    if (Item.field f).isShown data then table.put (Path.join parent f.id) (.field f) else table
  | .group g items =>
    if (Item.group g items).isShown data then
      (table.put (Path.join parent g.id) (.group g items)).merge
        (gatherList data (Path.join parent g.id) [] items)
    else table

/-- Items are written into a table one by one. -/
def gatherList (data : Value) (parent : String) (table : Entries Item) : List Item → Entries Item
  | [] => table
  | item :: rest => gatherList data parent (gather data parent table item) rest

end

variable {parent path : String} {items : List Item} {node : Node} {data : Value}

/-! ## The two walks -/

theorem placedList_cons (around : List Item) (parent : String) (item : Item) (rest : List Item) :
    placedList around parent (item :: rest)
      = ⟨around, ⟨item, Path.join parent item.id, parent⟩⟩
        :: (placedList (around ++ [item]) (Path.join parent item.id) item.children
          ++ placedList around parent rest) := by
  cases item <;> rfl

/-- The walk that remembers the groups finds the nodes of the form. -/
theorem map_node_placedList (around : List Item) (parent : String) (items : List Item) :
    (placedList around parent items).map (·.node) = walkList parent items := by
  induction items using consInduction generalizing around parent with
  | nil => rfl
  | cons item rest ihInside ih =>
    rw [placedList_cons, walkList_cons, List.map_cons, List.map_append, ihInside, ih]

/-- Going only into groups that are shown finds what is shown throughout: everything of it if the groups
    around the walk are shown, and nothing otherwise. -/
theorem filter_placedList (data : Value) (around : List Item) (parent : String) (items : List Item) :
    ((placedList around parent items).filter (·.isShown data)).map (·.node)
      = if around.all (·.isShown data) then visibleList data parent items else [] := by
  induction items using consInduction generalizing around parent with
  | nil => cases around.all (·.isShown data) <;> rfl
  | cons item rest ihInside ih =>
    have hhead : Placed.isShown data ⟨around, ⟨item, Path.join parent item.id, parent⟩⟩
        = (around.all (·.isShown data) && item.isShown data) := rfl
    rw [placedList_cons, visibleList_cons, List.filter_cons, hhead, List.filter_append]
    cases haround : around.all (·.isShown data) <;> cases hitem : item.isShown data <;>
      simp [ihInside, ih, haround, hitem]

theorem visibleList_eq (items : List Item) (data : Value) :
    visibleList data "" items = shownThroughout items data :=
  (filter_placedList data [] "" items).symm

theorem shownThroughout_sublist (items : List Item) (data : Value) :
    (shownThroughout items data).Sublist (nodes items) := by
  rw [shownThroughout, nodes, ← map_node_placedList []]
  exact List.filter_sublist.map _

/-! ## The two tables -/

/-- Gathering writes the visible items into the table in the order of the walk. -/
theorem gatherList_eq (data : Value) (parent : String) (table : Entries Item) (items : List Item) :
    gatherList data parent table items
      = table.merge ((visibleList data parent items).map fun node => (node.path, node.item)) := by
  induction items using forestInduction generalizing parent table with
  | nil => rfl
  | field f rest ih =>
    rw [gatherList, gather, ih, visibleList_field]
    cases (Item.field f).isShown data <;> rfl
  | group g inner rest ihInner ih =>
    rw [gatherList, gather, ih, ihInner, visibleList_group]
    cases (Item.group g inner).isShown data with
    | false => rfl
    | true =>
      -- the table of the inside starts empty, so merging it is merging what is written into it
      have hempty : (Entries.keys ([] : Entries Item)).Nodup := List.nodup_nil
      rw [if_pos rfl, if_pos rfl, Entries.merge_merge hempty, List.map_append, Entries.merge_append]
      rfl

theorem gatherList_eq_visibleTable (items : List Item) (data : Value) :
    gatherList data "" [] items = visibleTable items data :=
  gatherList_eq data "" [] items

/-- Where no two items have one path, the table has an entry for every visible one. -/
theorem visibleTable_eq (h : ((nodes items).map (·.path)).Nodup) (data : Value) :
    visibleTable items data = (shownThroughout items data).map fun node => (node.path, node.item) := by
  rw [visibleTable, visibleList_eq, Entries.ofPairs_of_nodup]
  rw [List.map_map]
  exact h.sublist ((shownThroughout_sublist items data).map _)

theorem visiblePaths_eq (h : ((nodes items).map (·.path)).Nodup) (data : Value) :
    visiblePaths items data = (shownThroughout items data).map (·.path) := by
  rw [visiblePaths, visibleTable_eq h, Entries.keys, List.map_map]
  rfl

/-! ## Parents -/

/-- A visible item stands at the place of the walk itself, or right inside a visible group. -/
theorem exists_around_of_mem_visibleList (h : node ∈ visibleList data parent items) :
    node.parent = parent ∨ ∃ g ∈ visibleList data parent items, g.path = node.parent := by
  induction items using consInduction generalizing parent with
  | nil => cases h
  | cons item rest ihInside ih =>
    rcases mem_visibleList_cons.mp h with ⟨hshown, rfl | hinside⟩ | hrest
    · exact Or.inl rfl
    · -- the place of the inner walk is the first item, which is visible
      right
      rcases ihInside hinside with hparent | ⟨around, haround, hpath⟩
      · exact ⟨_, mem_visibleList_cons.mpr (Or.inl ⟨hshown, Or.inl rfl⟩), hparent.symm⟩
      · exact ⟨around, mem_visibleList_cons.mpr (Or.inl ⟨hshown, Or.inr haround⟩), hpath⟩
    · refine (ih hrest).imp_right ?_
      rintro ⟨around, haround, hpath⟩
      exact ⟨around, mem_visibleList_cons.mpr (Or.inr haround), hpath⟩

/-- With no dots in identifiers, the path before the last dot of a visible one is visible. -/
theorem parent_mem_visiblePaths (hdots : ∀ node ∈ nodes items, '.' ∉ node.item.id.toList)
    (h : path ∈ visiblePaths items data) :
    Path.parent path = "" ∨ Path.parent path ∈ visiblePaths items data := by
  rw [visiblePaths, visibleTable, Entries.mem_keys_ofPairs, List.map_map, List.mem_map] at h
  obtain ⟨node, hnode, rfl⟩ := h
  have hmem : node ∈ nodes items := (visibleList_sublist data "" items).subset hnode
  have hparent : Path.parent node.path = node.parent := by
    rw [path_eq_join_of_mem hmem, Path.parent_join _ (hdots node hmem)]
  refine (exists_around_of_mem_visibleList hnode).imp hparent.trans ?_
  rintro ⟨g, hg, hpath⟩
  rw [visiblePaths, visibleTable, Entries.mem_keys_ofPairs, List.map_map, List.mem_map]
  exact ⟨g, hg, hpath.trans hparent.symm⟩

/-! ## The visible part of a form -/

/-- The visible items of a form are those that are shown with everything around them. -/
structure VisibleThroughout (items : List Item) (data : Value) : Prop where
  /-- The visible paths are theirs, in the order of the walk, each once. -/
  paths_eq : visiblePaths items data = (shownThroughout items data).map (·.path)
  /-- The same table comes from gathering the inside of every group by itself. -/
  table_eq : visibleTable items data = gatherList data "" [] items
  /-- An item is visible exactly if everything in the form that governs it is shown. -/
  mem_iff : ∀ node ∈ nodes items, node.path ∈ visiblePaths items data ↔
    ∀ g ∈ nodes items, g.Governs node → g.item.isShown data = true
  /-- The path around a visible path is visible. -/
  parent_mem : ∀ path ∈ visiblePaths items data,
    Path.parent path = "" ∨ Path.parent path ∈ visiblePaths items data
  /-- The visible paths stand in the order of the walk. -/
  sublist : (visiblePaths items data).Sublist ((nodes items).map (·.path))

/-- **An item is visible exactly if it and every group around it are shown**, and the visible part has these
    items in the order of the walk. -/
theorem visible_throughout (h : Unambiguous items) (data : Value) : VisibleThroughout items data := by
  have hnamed : WellNamed items := h.wellNamed
  have hdots : ∀ node ∈ nodes items, '.' ∉ node.item.id.toList := by
    intro node hnode
    exact (hnamed.names node hnode).2
  constructor
  · exact visiblePaths_eq hnamed.distinct data
  · exact (gatherList_eq_visibleTable items data).symm
  · intro node hnode
    exact mem_keys_visibleTable_iff hnamed hnode
  · intro path hpath
    exact parent_mem_visiblePaths hdots hpath
  · rw [visiblePaths_eq hnamed.distinct]
    exact (shownThroughout_sublist items data).map _

/-- A form that asks businesses for a company, with a contact in it that has a telephone number if the company
    has a name. -/
def tradeForm : List Item :=
  [.field { (default : Field) with id := "kind" },
   .group { (default : GroupHeader) with id := "company", showWhen := some ⟨"kind", .text "business"⟩ }
    [.field { (default : Field) with id := "name" },
     .group { (default : GroupHeader) with id := "contact" }
      [.field { (default : Field) with
        id := "phone", visibility := some ⟨"company.name", .notEquals, .one ""⟩ }]],
   .field { (default : Field) with id := "note" }]

theorem unambiguous_tradeForm : Unambiguous tradeForm :=
  ⟨by decide +kernel, by decide +kernel⟩

/-- For a person the whole company is hidden, the telephone number with it, which would be shown alone. -/
theorem visible_throughout_trade :
    visiblePaths tradeForm (.object [("kind", .text "person")]) = ["kind", "note"] ∧
      VisibleThroughout tradeForm (.object [("kind", .text "person")]) :=
  ⟨by decide +kernel, visible_throughout unambiguous_tradeForm _⟩

end Item
end DynamicForms
