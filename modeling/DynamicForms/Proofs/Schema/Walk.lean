import DynamicForms.Proofs.Entries
import DynamicForms.Proofs.Path.Segments
import DynamicForms.Schema.Walk
import Mathlib.Data.List.Nodup

/-!
# `DynamicForms.Proofs.Schema.Walk` — paths and the tree of items

The walk of a form lists its items with their paths. If identifiers are names and paths are distinct,
then paths mirror the tree: the path of one item begins that of another exactly if the second is the
first or stands inside it. In particular nothing lies below the path of a field.

## Contents
- `Item.forestInduction`, `Item.consInduction`: induction over lists of items.
- `Item.walkInduction`: induction over the nodes of a walk.
- `Node.inside`, `Node.Governs`.
- **Names at a place.** `Item.NamedAt`, `Item.WellNamedAt`, and `Item.WellNamed` for whole forms.
- **Ways to nodes.** `NamedAt.exists_item`, `NamedAt.prefix_of_mem`, `NamedAt.isWhole`,
  `NamedAt.exists_parent`, `NamedAt.way_inside`, `WellNamedAt.way_behind`.
- **Paths mirror the tree.** `WellNamedAt.governs_of_prefix`, `WellNamed.eq_of_prefix_of_isField`.
- **Ways of identifiers.** `Item.Stands`, `Item.pathFrom`, `Stands.exists_node`, `Stands.cons_cases`,
  `alone_behind`, `alone_inside`.
- **Tables of nodes.** `byPath_eq`, `length_byPath`.
-/

namespace DynamicForms

open Path (IsName IsWhole)

namespace Item

/-- Induction over the items of a form: a field or a group in front of further items. -/
theorem forestInduction {P : List Item → Prop} (nil : P [])
    (field : ∀ f rest, P rest → P (.field f :: rest))
    (group : ∀ g inner rest, P inner → P rest → P (.group g inner :: rest)) :
    ∀ items, P items
  | [] => nil
  | .field f :: rest => field f rest (forestInduction nil field group rest)
  | .group g inner :: rest =>
    group g inner rest (forestInduction nil field group inner) (forestInduction nil field group rest)

/-- The same where fields are no special case: they are items with nothing inside. -/
theorem consInduction {P : List Item → Prop} (nil : P [])
    (cons : ∀ item rest, P item.children → P rest → P (item :: rest)) (items : List Item) : P items := by
  induction items using forestInduction with
  | nil => exact nil
  | field f rest ih => exact cons (.field f) rest nil ih
  | group g inner rest ihInner ih => exact cons (.group g inner) rest ihInner ih

variable {parent : String} {items rest inner : List Item} {item other : Item} {g : GroupHeader}
  {node x w : Node}

theorem walkList_field (parent : String) (f : Field) (rest : List Item) :
    walkList parent (.field f :: rest)
      = ⟨.field f, Path.join parent f.id, parent⟩ :: walkList parent rest := rfl

theorem walkList_group (parent : String) (g : GroupHeader) (inner rest : List Item) :
    walkList parent (.group g inner :: rest)
      = ⟨.group g inner, Path.join parent g.id, parent⟩
        :: (walkList (Path.join parent g.id) inner ++ walkList parent rest) := rfl

theorem walkList_cons (parent : String) (item : Item) (rest : List Item) :
    walkList parent (item :: rest) = ⟨item, Path.join parent item.id, parent⟩
      :: (walkList (Path.join parent item.id) item.children ++ walkList parent rest) := by
  cases item <;> rfl

theorem mem_walkList_cons : node ∈ walkList parent (item :: rest)
    ↔ node = ⟨item, Path.join parent item.id, parent⟩ ∨
      node ∈ walkList (Path.join parent item.id) item.children ∨ node ∈ walkList parent rest := by
  rw [walkList_cons, List.mem_cons, List.mem_append]

theorem mem_walkList_field {f : Field} : node ∈ walkList parent (.field f :: rest)
    ↔ node = ⟨.field f, Path.join parent f.id, parent⟩ ∨ node ∈ walkList parent rest := by
  rw [walkList_field, List.mem_cons]

theorem mem_walkList_group : node ∈ walkList parent (.group g inner :: rest)
    ↔ node = ⟨.group g inner, Path.join parent g.id, parent⟩ ∨
      node ∈ walkList (Path.join parent g.id) inner ∨ node ∈ walkList parent rest := by
  rw [walkList_group, List.mem_cons, List.mem_append]

theorem walkList_sublist_cons (parent : String) (item : Item) (rest : List Item) :
    (walkList parent rest).Sublist (walkList parent (item :: rest)) :=
  List.sublist_append_right _ _

/-- The walk of a group listed is a part of the walk. -/
theorem walkList_sublist_of_mem (h : .group g inner ∈ items) :
    (walkList (Path.join parent g.id) inner).Sublist (walkList parent items) := by
  induction items with
  | nil => cases h
  | cons first rest ih =>
    rcases List.mem_cons.mp h with rfl | h
    · rw [walkList_group]
      exact (List.sublist_append_left _ _).trans (List.sublist_cons_self _ _)
    · exact (ih h).trans (walkList_sublist_cons parent first rest)

/-- An item listed stands in the walk, right at its place. -/
theorem mem_walkList_of_mem (h : item ∈ items) :
    (⟨item, Path.join parent item.id, parent⟩ : Node) ∈ walkList parent items := by
  induction items with
  | nil => cases h
  | cons first rest ih =>
    rcases List.mem_cons.mp h with rfl | h
    · exact mem_walkList_cons.mpr (Or.inl rfl)
    · exact (walkList_sublist_cons parent first rest).subset (ih h)

theorem mem_paths_of_mem (h : item ∈ items) :
    Path.join parent item.id ∈ (walkList parent items).map (·.path) :=
  List.mem_map_of_mem (mem_walkList_of_mem h)

/-- Induction over the nodes of a walk: an item listed, or a node in the walk of a group listed. -/
theorem walkInduction
    {P : ∀ parent items node, node ∈ walkList parent items → Prop}
    (here : ∀ parent items item (hitem : item ∈ items),
      P parent items ⟨item, Path.join parent item.id, parent⟩ (mem_walkList_of_mem hitem))
    (inside : ∀ parent items g inner node (hg : .group g inner ∈ items)
      (hnode : node ∈ walkList (Path.join parent g.id) inner),
      P (Path.join parent g.id) inner node hnode →
        P parent items node ((walkList_sublist_of_mem hg).subset hnode))
    {parent : String} {items : List Item} {node : Node} (h : node ∈ walkList parent items) :
    P parent items node h := by
  -- by induction over the items, for every list that they are a part of
  suffices hpart : ∀ (part : List Item) parent items node (hsub : part ⊆ items)
      (hmem : node ∈ walkList parent items), node ∈ walkList parent part → P parent items node hmem from
    hpart items parent items node (List.Subset.refl _) h h
  intro part
  induction part using forestInduction with
  | nil => intro _ _ _ _ _ h; cases h
  | field f rest ih =>
    intro parent items node hsub hmem h
    rcases mem_walkList_field.mp h with rfl | h
    · exact here parent items (.field f) (hsub List.mem_cons_self)
    · exact ih parent items node (List.subset_of_cons_subset hsub) hmem h
  | group g inner rest ihInner ih =>
    intro parent items node hsub hmem h
    rcases mem_walkList_group.mp h with rfl | h | h
    · exact here parent items (.group g inner) (hsub List.mem_cons_self)
    · exact inside parent items g inner node (hsub List.mem_cons_self) h
        (ihInner _ inner node (List.Subset.refl _) h h)
    · exact ih parent items node (List.subset_of_cons_subset hsub) hmem h

/-- A node of a walk is an item listed, or stands in the walk of a group listed. -/
theorem mem_walkList_cases (h : node ∈ walkList parent items) :
    (∃ item ∈ items, node = ⟨item, Path.join parent item.id, parent⟩) ∨
      ∃ g inner, .group g inner ∈ items ∧ node ∈ walkList (Path.join parent g.id) inner := by
  induction h using walkInduction with
  | here parent items item hitem => exact Or.inl ⟨item, hitem, rfl⟩
  | inside parent items g inner node hg hnode _ => exact Or.inr ⟨g, inner, hg, hnode⟩

/-- The path of an item ends with its identifier. -/
theorem path_eq_join_of_mem (h : node ∈ walkList parent items) :
    node.path = Path.join node.parent node.item.id := by
  induction h using walkInduction with
  | here => rfl
  | inside _ _ _ _ _ _ _ ih => exact ih

end Item

namespace Node

/-- What stands inside an item. -/
def inside (node : Node) : List Node :=
  Item.walkList node.path node.item.children

/-- An item governs itself and everything inside it. -/
def Governs (node other : Node) : Prop :=
  other = node ∨ other ∈ node.inside

theorem Governs.refl (node : Node) : node.Governs node := Or.inl rfl

end Node

namespace Item

variable {parent : String} {items rest inner : List Item} {item other : Item} {g : GroupHeader}
  {node x w : Node}

theorem inside_eq_nil_of_isField (h : node.item.isField = true) : node.inside = [] := by
  obtain ⟨item, path, parent⟩ := node
  cases item with
  | field f => rfl
  | group g inner => cases h

/-- Only groups have something inside. -/
theorem exists_group_of_inside (h : node ∈ x.inside) : ∃ g inner, x.item = .group g inner := by
  obtain ⟨item, path, parent⟩ := x
  cases item with
  | field f => cases h
  | group g inner => exact ⟨g, inner, rfl⟩

theorem inside_subset (h : x ∈ walkList parent items) (hw : w ∈ x.inside) :
    w ∈ walkList parent items := by
  induction h using walkInduction with
  | here parent items item hitem =>
    obtain ⟨g, inner, hg⟩ := exists_group_of_inside hw
    obtain rfl : item = .group g inner := hg
    exact (walkList_sublist_of_mem hitem).subset hw
  | inside parent items g inner x hg _ ih => exact (walkList_sublist_of_mem hg).subset (ih hw)

/-- What a node of a walk governs is in the walk. -/
theorem mem_of_governs (h : x ∈ walkList parent items) (hw : x.Governs w) :
    w ∈ walkList parent items := by
  rcases hw with hw | hw
  · rw [hw]; exact h
  · exact inside_subset h hw

/-! ## Names at a place -/

/-- Items with names at a place: the place is the top or a whole path, and every identifier is a
    nonempty name without dots. -/
structure NamedAt (parent : String) (items : List Item) : Prop where
  /-- The place can be joined with names. -/
  place : parent = "" ∨ IsWhole parent
  /-- Identifiers are names. -/
  names : ∀ node ∈ walkList parent items, IsName node.item.id

/-- Items at a place that are known by their paths: they have names, and no two of them the same
    path. -/
structure WellNamedAt (parent : String) (items : List Item) : Prop extends NamedAt parent items where
  /-- Paths are distinct. -/
  distinct : ((walkList parent items).map (·.path)).Nodup

/-- A form whose items are known by their paths: every identifier is a nonempty name without dots,
    and no two items have the same path. -/
structure WellNamed (items : List Item) : Prop where
  /-- Identifiers are names. -/
  names : ∀ node ∈ nodes items, IsName node.item.id
  /-- Paths are distinct. -/
  distinct : ((nodes items).map (·.path)).Nodup

theorem namedAt_top (h : ∀ node ∈ nodes items, IsName node.item.id) : NamedAt "" items :=
  ⟨Or.inl rfl, h⟩

theorem WellNamed.atTop (h : WellNamed items) : WellNamedAt "" items :=
  ⟨namedAt_top h.names, h.distinct⟩

namespace NamedAt

theorem name (h : NamedAt parent items) (hitem : item ∈ items) : IsName item.id :=
  h.names _ (mem_walkList_of_mem hitem)

theorem isWhole_join (h : NamedAt parent items) (hitem : item ∈ items) :
    IsWhole (Path.join parent item.id) :=
  Path.isWhole_join h.place (h.name hitem)

theorem segments_join (h : NamedAt parent items) (hitem : item ∈ items) :
    Path.segments (Path.join parent item.id) = Path.segments parent ++ [item.id] :=
  Path.segments_join h.place (h.name hitem)

-- for fields and groups by themselves: unification does not find the item from its identifier

theorem segments_field {f : Field} (h : NamedAt parent items) (hf : .field f ∈ items) :
    Path.segments (Path.join parent f.id) = Path.segments parent ++ [f.id] := by
  have hseg := h.segments_join hf
  exact hseg

theorem segments_group (h : NamedAt parent items) (hg : .group g inner ∈ items) :
    Path.segments (Path.join parent g.id) = Path.segments parent ++ [g.id] := by
  have hseg := h.segments_join hg
  exact hseg

theorem isWhole_group (h : NamedAt parent items) (hg : .group g inner ∈ items) :
    IsWhole (Path.join parent g.id) := by
  have hwhole := h.isWhole_join hg
  exact hwhole

theorem behind (h : NamedAt parent (item :: rest)) : NamedAt parent rest :=
  ⟨h.place, fun node hnode => h.names node ((walkList_sublist_cons parent item rest).subset hnode)⟩

theorem inside (h : NamedAt parent items) (hg : .group g inner ∈ items) :
    NamedAt (Path.join parent g.id) inner :=
  ⟨Or.inr (h.isWhole_group hg),
    fun node hnode => h.names node ((walkList_sublist_of_mem hg).subset hnode)⟩

/-! ## Ways to nodes -/

/-- The way from a place to a node inside it begins with the name of one of the items there. -/
theorem exists_item (h : NamedAt parent items) (hnode : node ∈ walkList parent items) :
    ∃ item ∈ items, ∃ more, Path.segments node.path = Path.segments parent ++ item.id :: more := by
  induction hnode using walkInduction with
  | here parent items item hitem => exact ⟨item, hitem, [], h.segments_join hitem⟩
  | inside parent items g inner node hg _ ih =>
    obtain ⟨item, -, more, hway⟩ := ih (h.inside hg)
    refine ⟨.group g inner, hg, item.id :: more, ?_⟩
    rw [hway, h.segments_group hg, List.append_assoc]
    rfl

/-- The path of a node begins with the place around the walk and goes on. -/
theorem prefix_of_mem (h : NamedAt parent items) (hnode : node ∈ walkList parent items) :
    Path.segments parent <+: Path.segments node.path ∧
      Path.segments parent ≠ Path.segments node.path := by
  obtain ⟨item, -, more, hway⟩ := h.exists_item hnode
  rw [hway]
  exact ⟨List.prefix_append _ _, fun e => List.cons_ne_nil _ _ (List.self_eq_append_right.mp e)⟩

theorem isWhole (h : NamedAt parent items) (hnode : node ∈ walkList parent items) :
    IsWhole node.path := by
  induction hnode using walkInduction with
  | here parent items item hitem => exact h.isWhole_join hitem
  | inside parent items g inner node hg _ ih => exact ih (h.inside hg)

/-- A node stands at the place of the walk itself, or right inside a group of the walk. -/
theorem exists_parent (h : NamedAt parent items) (hnode : node ∈ walkList parent items) :
    Path.segments node.path = Path.segments parent ++ [node.item.id] ∨
      ∃ around ∈ walkList parent items, node ∈ around.inside ∧
        Path.segments node.path = Path.segments around.path ++ [node.item.id] := by
  induction hnode using walkInduction with
  | here parent items item hitem => exact Or.inl (h.segments_join hitem)
  | inside parent items g inner node hg hnode ih =>
    -- the place of the inner walk is that of the group
    right
    rcases ih (h.inside hg) with hseg | ⟨around, haround, hin⟩
    · exact ⟨_, mem_walkList_of_mem hg, hnode, hseg⟩
    · exact ⟨around, (walkList_sublist_of_mem hg).subset haround, hin⟩

/-- The way to a node inside a group goes through the group. -/
theorem segments_inside (h : NamedAt parent items) (hg : .group g inner ∈ items)
    (hnode : node ∈ walkList (Path.join parent g.id) inner) :
    ∃ more, more ≠ [] ∧ Path.segments node.path = Path.segments parent ++ g.id :: more ∧
      Path.segments node.path = Path.segments (Path.join parent g.id) ++ more := by
  obtain ⟨item, -, more, hway⟩ := (h.inside hg).exists_item hnode
  refine ⟨item.id :: more, List.cons_ne_nil _ _, ?_, hway⟩
  rw [hway, h.segments_group hg, List.append_assoc]
  rfl

/-- The same for a way that is known to lead to the node. -/
theorem way_inside (h : NamedAt parent items) (hg : .group g inner ∈ items)
    (hnode : node ∈ walkList (Path.join parent g.id) inner) {way : List String}
    (hway : Path.segments node.path = Path.segments parent ++ way) :
    ∃ more, way = g.id :: more ∧ more ≠ [] ∧
      Path.segments node.path = Path.segments (Path.join parent g.id) ++ more := by
  obtain ⟨more, hmore, hthrough, hinside⟩ := h.segments_inside hg hnode
  exact ⟨more, List.append_cancel_left (hway.symm.trans hthrough), hmore, hinside⟩

/-- The way to an item listed is its name. -/
theorem way_here (h : NamedAt parent items) (hitem : item ∈ items) {way : List String}
    (hway : Path.segments (Path.join parent item.id) = Path.segments parent ++ way) :
    way = [item.id] :=
  List.append_cancel_left (hway.symm.trans (h.segments_join hitem))

end NamedAt

namespace WellNamedAt

theorem behind (h : WellNamedAt parent (item :: rest)) : WellNamedAt parent rest :=
  ⟨h.toNamedAt.behind, h.distinct.sublist ((walkList_sublist_cons parent item rest).map _)⟩

theorem inside (h : WellNamedAt parent items) (hg : .group g inner ∈ items) :
    WellNamedAt (Path.join parent g.id) inner :=
  ⟨h.toNamedAt.inside hg, h.distinct.sublist ((walkList_sublist_of_mem hg).map _)⟩

theorem eq_of_path_eq (h : WellNamedAt parent items) (hx : x ∈ walkList parent items)
    (hw : w ∈ walkList parent items) (hpath : x.path = w.path) : x = w :=
  List.inj_on_of_nodup_map h.distinct hx hw hpath

/-- Siblings are known by their names. -/
theorem eq_of_id_eq (h : WellNamedAt parent items) (hitem : item ∈ items) (hother : other ∈ items)
    (hid : item.id = other.id) : item = other :=
  congrArg Node.item (h.eq_of_path_eq (mem_walkList_of_mem hitem) (mem_walkList_of_mem hother)
    (congrArg (Path.join parent) hid))

/-- Nothing inside an item or behind it has its path. -/
theorem fresh (h : WellNamedAt parent (item :: rest)) :
    Path.join parent item.id
        ∉ (walkList (Path.join parent item.id) item.children).map (·.path) ∧
      Path.join parent item.id ∉ (walkList parent rest).map (·.path) := by
  have hdistinct := h.distinct
  rw [walkList_cons, List.map_cons, List.map_append, List.nodup_cons, List.mem_append, not_or]
    at hdistinct
  exact hdistinct.1

/-- What stands behind an item has other paths than what is inside it. -/
theorem disjoint (h : WellNamedAt parent (item :: rest)) :
    List.Disjoint ((walkList (Path.join parent item.id) item.children).map (·.path))
      ((walkList parent rest).map (·.path)) := by
  have hdistinct := h.distinct
  rw [walkList_cons, List.map_cons, List.map_append, List.nodup_cons, List.nodup_append'] at hdistinct
  exact hdistinct.2.2.2

/-- Siblings have distinct names. -/
theorem id_ne (h : WellNamedAt parent (item :: rest)) (hother : other ∈ rest) :
    other.id ≠ item.id := by
  intro hid
  refine h.fresh.2 ?_
  rw [← hid]
  exact mem_paths_of_mem hother

/-- The way to a node behind an item begins with another name. -/
theorem way_behind (h : WellNamedAt parent (item :: rest)) (hnode : node ∈ walkList parent rest)
    {way : List String} (hway : Path.segments node.path = Path.segments parent ++ way) :
    ∃ name more, way = name :: more ∧ name ≠ item.id := by
  obtain ⟨other, hother, more, hmore⟩ := h.behind.exists_item hnode
  exact ⟨other.id, more, List.append_cancel_left (hway.symm.trans hmore), h.id_ne hother⟩

/-! ## Paths mirror the tree -/

/-- An item whose path begins that of another one governs it. -/
theorem governs_of_prefix (h : WellNamedAt parent items) (hx : x ∈ walkList parent items)
    (hw : w ∈ walkList parent items) (hpre : Path.segments x.path <+: Path.segments w.path) :
    x.Governs w := by
  -- both ways begin with the name of an item at the place, and it is the same item
  induction hx using walkInduction generalizing w with
  | here parent items item hitem =>
    rcases mem_walkList_cases hw with ⟨other, hother, rfl⟩ | ⟨g, inner, hg, hin⟩
    · rw [h.segments_join hitem, h.segments_join hother, List.prefix_append_right_inj,
        List.cons_prefix_cons] at hpre
      obtain rfl := h.eq_of_id_eq hitem hother hpre.1
      exact Node.Governs.refl _
    · obtain ⟨more, -, hway, -⟩ := h.segments_inside hg hin
      rw [h.segments_join hitem, hway, List.prefix_append_right_inj, List.cons_prefix_cons] at hpre
      obtain rfl := h.eq_of_id_eq hitem hg hpre.1
      exact Or.inr hin
  | inside parent items g inner x hg hx ih =>
    obtain ⟨more, hmore, hway, -⟩ := h.segments_inside hg hx
    rcases mem_walkList_cases hw with ⟨other, hother, rfl⟩ | ⟨g', inner', hg', hin⟩
    · -- the path of an item listed is too short
      rw [hway, h.segments_join hother, List.prefix_append_right_inj, List.cons_prefix_cons] at hpre
      exact absurd (List.prefix_nil.mp hpre.2) hmore
    · obtain ⟨more', -, hway', -⟩ := h.segments_inside hg' hin
      have hid : g.id = g'.id := by
        rw [hway, hway', List.prefix_append_right_inj, List.cons_prefix_cons] at hpre
        exact hpre.1
      cases h.eq_of_id_eq hg hg' hid
      exact ih (h.inside hg) hin hpre

end WellNamedAt

/-- **Paths mirror the tree**: an item whose path begins that of another one governs it. -/
theorem WellNamed.governs_of_prefix (h : WellNamed items) (hx : x ∈ nodes items)
    (hw : w ∈ nodes items) (hpre : Path.segments x.path <+: Path.segments w.path) :
    x.Governs w :=
  h.atTop.governs_of_prefix hx hw hpre

/-- Nothing lies below the path of a field. -/
theorem WellNamed.eq_of_prefix_of_isField (h : WellNamed items) (hx : x ∈ nodes items)
    (hw : w ∈ nodes items) (hfield : x.item.isField = true)
    (hpre : Path.segments x.path <+: Path.segments w.path) : w = x := by
  rcases h.governs_of_prefix hx hw hpre with he | hin
  · exact he
  · rw [inside_eq_nil_of_isField hfield] at hin; cases hin

theorem WellNamed.isWhole (h : WellNamed items) (hnode : node ∈ nodes items) :
    IsWhole node.path :=
  h.atTop.isWhole hnode

/-- The path of what stands inside a group goes on behind the path of the group. -/
theorem WellNamed.prefix_of_inside (h : WellNamed items) (hx : x ∈ nodes items)
    (hw : w ∈ x.inside) :
    Path.segments x.path <+: Path.segments w.path ∧ Path.segments x.path ≠ Path.segments w.path :=
  NamedAt.prefix_of_mem ⟨Or.inr (h.isWhole hx), fun n hn => h.names n (inside_subset hx hn)⟩ hw

theorem WellNamed.eq_of_path_eq (h : WellNamed items) (hx : x ∈ nodes items)
    (hw : w ∈ nodes items) (hpath : x.path = w.path) : x = w :=
  h.atTop.eq_of_path_eq hx hw hpath

/-- Of two groups around one node one stands in the other. -/
theorem WellNamed.governs_or_inside (h : WellNamed items) {y : Node} (hx : x ∈ nodes items)
    (hy : y ∈ nodes items) (hxw : w ∈ x.inside) (hyw : w ∈ y.inside) :
    x.Governs y ∨ x ∈ y.inside := by
  rcases List.prefix_or_prefix_of_prefix (h.prefix_of_inside hx hxw).1
    (h.prefix_of_inside hy hyw).1 with hpre | hpre
  · exact Or.inl (h.governs_of_prefix hx hy hpre)
  · rcases h.governs_of_prefix hy hx hpre with heq | hin
    · exact Or.inl (Or.inl heq.symm)
    · exact Or.inr hin

/-! ## Ways of identifiers -/

/-- Where an item stands in a form: the identifiers of the groups around it, from the outermost one,
    and its own. -/
inductive Stands : List Item → List String → Item → Prop
  /-- One of the items listed. -/
  | here {items : List Item} {item : Item} (h : item ∈ items) : Stands items [item.id] item
  /-- Something inside one of the groups listed. -/
  | inside {items inner : List Item} {g : GroupHeader} {way : List String} {item : Item}
      (hg : .group g inner ∈ items) (h : Stands inner way item) : Stands items (g.id :: way) item

theorem Stands.ne_nil {way : List String} {item : Item} (h : Stands items way item) : way ≠ [] := by
  cases h <;> exact List.cons_ne_nil _ _

theorem Stands.behind {way : List String} {item : Item} (first : Item)
    (h : Stands items way item) : Stands (first :: items) way item := by
  cases h with
  | here hitem => exact .here (List.mem_cons_of_mem _ hitem)
  | inside hg hstands => exact .inside (List.mem_cons_of_mem _ hg) hstands

/-- What is listed in a group stands in it. -/
theorem Stands.append {way : List String} {g : GroupHeader} (h : Stands items way (.group g inner))
    {item : Item} (hitem : item ∈ inner) : Stands items (way ++ [item.id]) item := by
  generalize hgroup : Item.group g inner = group at h
  induction h with
  | here hg =>
    subst hgroup
    exact .inside hg (.here hitem)
  | inside hg _ ih => exact .inside hg (ih hgroup)

theorem Stands.mem_of_dropLast {way : List String} {item : Item} (h : Stands items way item)
    (htop : way.dropLast = []) : item ∈ items := by
  cases h with
  | here hitem => exact hitem
  | inside hg hstands =>
    rw [List.dropLast_cons_of_ne_nil hstands.ne_nil] at htop
    cases htop

/-- The path at the end of a way of identifiers, from a place on. -/
def pathFrom (parent : String) (way : List String) : String :=
  way.foldl Path.join parent

/-- Items stand where the walk finds them. -/
theorem Stands.exists_node {way : List String} {item : Item} (hstands : Stands items way item)
    (h : NamedAt parent items) :
    ∃ node ∈ walkList parent items, node.item = item ∧ node.path = pathFrom parent way ∧
      Path.segments node.path = Path.segments parent ++ way := by
  induction hstands generalizing parent with
  | here hitem => exact ⟨_, mem_walkList_of_mem hitem, rfl, rfl, h.segments_join hitem⟩
  | @inside items inner g way item hg _ ih =>
    obtain ⟨node, hnode, hitem, hpath, hseg⟩ := ih (h.inside hg)
    refine ⟨node, (walkList_sublist_of_mem hg).subset hnode, hitem, hpath, ?_⟩
    rw [hseg, h.segments_group hg, List.append_assoc]
    rfl

/-- What stands among some items stands behind the first one, or is the first one, or is inside it. -/
theorem Stands.cons_cases {first item : Item} {way : List String} (h : Stands (first :: rest) way item) :
    Stands rest way item ∨ (way = [first.id] ∧ item = first) ∨
      ∃ g inner more, first = .group g inner ∧ way = g.id :: more ∧ Stands inner more item := by
  cases h with
  | here hitem =>
    rcases List.mem_cons.mp hitem with rfl | hrest
    · exact Or.inr (Or.inl ⟨rfl, rfl⟩)
    · exact Or.inl (.here hrest)
  | @inside _ inner g more _ hg hstands =>
    rcases List.mem_cons.mp hg with hfirst | hrest
    · exact Or.inr (Or.inr ⟨g, inner, more, hfirst.symm, rfl, hstands⟩)
    · exact Or.inl (.inside hrest hstands)

/-- The path at the end of the way to an item is that of a node. -/
theorem Stands.mem_paths {way : List String} {item : Item} (h : Stands items way item) (parent : String) :
    pathFrom parent way ∈ (walkList parent items).map (·.path) := by
  induction h generalizing parent with
  | here hitem => exact List.mem_map.mpr ⟨_, mem_walkList_of_mem hitem, rfl⟩
  | @inside items inner g way item hg _ ih =>
    obtain ⟨node, hnode, hpath⟩ := List.mem_map.mp (ih (Path.join parent g.id))
    exact List.mem_map.mpr ⟨node, (walkList_sublist_of_mem hg).subset hnode, hpath⟩

/-- A path that one node only has, and that behind the first item. -/
theorem alone_behind {first : Item} {path : String}
    (hmem : path ∈ (walkList parent rest).map (·.path))
    (halone : ((walkList parent (first :: rest)).map (·.path)).count path = 1) :
    path ∉ (walkList parent [first]).map (·.path) ∧
      ((walkList parent rest).map (·.path)).count path = 1 := by
  have hpos : 0 < ((walkList parent rest).map (·.path)).count path := List.count_pos_iff.mpr hmem
  rw [← List.singleton_append, walkList_append, List.map_append, List.count_append] at halone
  exact ⟨List.count_eq_zero.mp (by omega), by omega⟩

/-- A path that one node only has, and that inside the group in front. -/
theorem alone_inside {g : GroupHeader} {inner : List Item} {path : String}
    (hmem : path ∈ (walkList (Path.join parent g.id) inner).map (·.path))
    (halone : ((walkList parent (.group g inner :: rest)).map (·.path)).count path = 1) :
    ((walkList (Path.join parent g.id) inner).map (·.path)).count path = 1 := by
  have hpos := List.count_pos_iff.mpr hmem
  rw [walkList_group, List.map_cons, List.map_append, List.count_cons, List.count_append] at halone
  omega

/-! ## Tables of nodes -/

theorem byPath_eq (h : WellNamed items) :
    byPath items = (nodes items).map fun node => (node.path, node.item) := by
  rw [byPath, Entries.ofPairs_of_nodup]
  rw [List.map_map]
  exact h.distinct

theorem keys_byPath (h : WellNamed items) :
    Entries.keys (byPath items) = (nodes items).map (·.path) := by
  rw [byPath_eq h, Entries.keys, List.map_map]; rfl

theorem length_byPath (h : WellNamed items) : (byPath items).length = nodeCount items := by
  rw [byPath_eq h, List.length_map, nodeCount]

end Item
end DynamicForms
