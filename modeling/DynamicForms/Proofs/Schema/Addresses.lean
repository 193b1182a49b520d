import DynamicForms.Lookup.Engine
import DynamicForms.Proofs.Schema.Identifiers

/-!
# `DynamicForms.Proofs.Schema.Addresses` — identifiers and addresses

The shape of a form is checked by identifier, and everything behind the check goes by path: the table of
items, the watch over what is shown, the workers of the lookups. Distinct identifiers make distinct paths,
because the last segment of a path is the identifier — unless an identifier has dots itself. Then an item
beside a group can have the path of an item in it, and the later one takes the place of the earlier one in
every table.

## Contents
- `Node.IsDotted`: items whose path does not show how they stand.
- `Item.Addressed`: forms whose tables have an entry for every item.
- **Paths that meet.** `isWhole_parent_of_mem`, `id_eq_of_path_eq`, `pairwise_dotted_of_path_eq`.
- **Tables.** `pathsById_eq`, `map_key_lookups`, `addressed_of_distinct`.
- `Schema.addressed_of_parse`: items that share a path are dotted, and all others are addressed.
-/

namespace DynamicForms

open Path (IsName IsWhole)
open Item (nodes identifiers lookups pathsById byPath)

/-- The item, or a group around it, has an identifier with a dot. -/
def Node.IsDotted (items : List Item) (node : Node) : Prop :=
  ∃ x ∈ nodes items, x.Governs node ∧ '.' ∈ x.item.id.toList

/-- The nodes that declare a lookup. -/
def Item.declaring (items : List Item) : List Node :=
  (nodes items).filter (·.item.autoFill.isSome)

/-- Every item of a form has its own address, in the form and in the tables made of it. -/
structure Item.Addressed (items : List Item) : Prop where
  /-- Paths are distinct. -/
  distinct : ((nodes items).map (·.path)).Nodup
  /-- Every identifier has the path of its item. -/
  paths : pathsById items = (nodes items).map fun node => (node.item.id, node.path)
  /-- No two identifiers have the same path. -/
  injective : ∀ id other path, (pathsById items).get? id = some path →
    (pathsById items).get? other = some path → other = id
  /-- The table by path has one entry for every item. -/
  table : byPath items = (nodes items).map fun node => (node.path, node.item)
  /-- An engine for the form has one worker for every lookup, under the path that declares it. -/
  workers : (Engine.ofLookups (lookups items)).workers
    = (lookups items).map fun lookup => (lookup.key, Worker.ofLookup lookup)
  /-- The workers are those of the nodes that declare a lookup, in the order of the walk. -/
  workerKeys : (Engine.ofLookups (lookups items)).workers.keys = (declaring items).map (·.path)

namespace Item

variable {parent : String} {items : List Item} {node other : Node}

/-! ## Paths that meet -/

/-- The path around an item is whole, if the groups around it have names. -/
theorem isWhole_parent_of_mem (hparent : parent = "" ∨ IsWhole parent)
    (hnode : node ∈ walkList parent items)
    (hnames : ∀ x ∈ walkList parent items, x.Governs node → IsName x.item.id) :
    node.parent = "" ∨ IsWhole node.parent := by
  induction hnode using walkInduction with
  | here => exact hparent
  | inside parent items g inner node hg hnode ih =>
    -- the group listed is one of those around the item
    have hid : IsName g.id := hnames _ (mem_walkList_of_mem hg) (Or.inr hnode)
    exact ih (Or.inr (Path.isWhole_join hparent hid))
      fun x hx => hnames x ((walkList_sublist_of_mem hg).subset hx)

section

variable (hgiven : ∀ id ∈ identifiers items, id ≠ "")

include hgiven

/-- The path of an item that is not dotted ends with its identifier. -/
theorem getLast?_segments_of_not_dotted (hnode : node ∈ nodes items) (h : ¬ node.IsDotted items) :
    (Path.segments node.path).getLast? = some node.item.id := by
  have hnames : ∀ x ∈ nodes items, x.Governs node → IsName x.item.id := fun x hx hgoverns =>
    ⟨hgiven _ (List.mem_map_of_mem hx), fun hdot => h ⟨x, hx, hgoverns, hdot⟩⟩
  have hparent := isWhole_parent_of_mem (Or.inl rfl) hnode hnames
  rw [path_eq_join_of_mem hnode, Path.segments_join hparent (hnames node hnode (.refl node)),
    List.getLast?_concat]

/-- Items on one path that are not dotted have the same identifier. -/
theorem id_eq_of_path_eq (hnode : node ∈ nodes items) (hother : other ∈ nodes items)
    (h : ¬ node.IsDotted items) (h' : ¬ other.IsDotted items) (hpath : other.path = node.path) :
    other.item.id = node.item.id := by
  have hlast := getLast?_segments_of_not_dotted hgiven hother h'
  rw [hpath, getLast?_segments_of_not_dotted hgiven hnode h] at hlast
  exact (Option.some.inj hlast).symm

/-- Where two items with distinct identifiers share a path, one of them is dotted. -/
theorem pairwise_dotted_of_path_eq (hids : (identifiers items).Nodup) :
    (nodes items).Pairwise fun node other =>
      other.path = node.path → node.IsDotted items ∨ other.IsDotted items := by
  have hne : (nodes items).Pairwise fun node other => node.item.id ≠ other.item.id :=
    List.pairwise_map.mp hids
  refine hne.imp_of_mem fun {node other} hnode hother hid hpath => ?_
  by_contra hplain
  obtain ⟨h, h'⟩ := not_or.mp hplain
  exact hid (id_eq_of_path_eq hgiven hnode hother h h' hpath).symm

/-- Paths are distinct if no identifier has a dot. -/
theorem distinct_of_dotless (hids : (identifiers items).Nodup)
    (hdots : ∀ id ∈ identifiers items, '.' ∉ id.toList) : ((nodes items).map (·.path)).Nodup := by
  have hnone : ∀ node : Node, ¬ node.IsDotted items := by
    rintro node ⟨x, hx, -, hdot⟩
    exact hdots _ (List.mem_map_of_mem hx) hdot
  refine List.pairwise_map.mpr ((pairwise_dotted_of_path_eq hgiven hids).imp ?_)
  intro node other hdotted hpath
  exact (hdotted hpath.symm).elim (hnone node) (hnone other)

end

/-! ## Tables -/

theorem pathsById_eq (hids : (identifiers items).Nodup) :
    pathsById items = (nodes items).map fun node => (node.item.id, node.path) := by
  rw [pathsById, Entries.ofPairs_of_nodup]
  rw [List.map_map]
  exact hids

/-- Each lookup stands under the path of the node that declares it. -/
theorem map_key_lookups (items : List Item) :
    (lookups items).map (·.key) = (declaring items).map (·.path) := by
  rw [lookups, declaring]
  generalize pathsById items = table
  induction nodes items with
  | nil => rfl
  | cons node rest ih =>
    cases hfill : node.item.autoFill with
    | none =>
      rw [List.filterMap_cons_none (by rw [Node.lookup?, hfill]; rfl),
        List.filter_cons_of_neg (by simp [hfill]), ih]
    | some fill =>
      rw [List.filterMap_cons_some (by rw [Node.lookup?, hfill]; rfl),
        List.filter_cons_of_pos (by simp [hfill]), List.map_cons, List.map_cons, ih]

/-- Distinct paths give distinct addresses, for items with distinct identifiers. -/
theorem addressed_of_distinct (hids : (identifiers items).Nodup)
    (hpaths : ((nodes items).map (·.path)).Nodup) : Addressed items := by
  have hkeys : ((lookups items).map (·.key)).Nodup := by
    rw [map_key_lookups]
    exact hpaths.sublist (List.filter_sublist.map _)
  have hworkers : (Engine.ofLookups (lookups items)).workers
      = (lookups items).map fun lookup => (lookup.key, Worker.ofLookup lookup) := by
    rw [Engine.ofLookups, Entries.ofPairs_of_nodup]
    rw [List.map_map]
    exact hkeys
  refine ⟨hpaths, pathsById_eq hids, ?_, ?_, hworkers, ?_⟩
  · intro id other path hid hother
    rw [pathsById_eq hids] at hid hother
    obtain ⟨node, hnode, hentry⟩ := List.mem_map.mp (Entries.mem_of_get? hid)
    obtain ⟨node', hnode', hentry'⟩ := List.mem_map.mp (Entries.mem_of_get? hother)
    cases hentry
    obtain ⟨rfl, hpath⟩ := Prod.mk.inj hentry'
    rw [List.inj_on_of_nodup_map hpaths hnode' hnode hpath]
  · rw [byPath, Entries.ofPairs_of_nodup]
    rw [List.map_map]
    exact hpaths
  · rw [hworkers, Entries.keys, List.map_map, ← map_key_lookups]
    rfl

end Item

namespace Schema

variable {text : String} {schema : Schema}

/-- The identifiers of an accepted form are given and distinct. -/
theorem identifiers_of_parse (h : Schema.parse text = .ok schema) :
    (∀ id ∈ identifiers schema.items, id ≠ "") ∧ (identifiers schema.items).Nodup := by
  obtain ⟨document, -, hdocument⟩ := exists_document h
  obtain ⟨after, hopened⟩ := opened_of_ofValue hdocument
  constructor
  · rintro id hid rfl
    exact absurd (hopened.given "" hid) (by decide)
  · have hfresh := hopened.fresh List.nodup_nil
    rwa [hopened.after_eq, List.append_nil, List.nodup_reverse] at hfresh

/-- **Items of an accepted form share a path only where dots in identifiers make them**, and a form whose
    items do not has an address for every item in each of its tables. -/
theorem addressed_of_parse (h : Schema.parse text = .ok schema) :
    ((nodes schema.items).Pairwise fun node other =>
      other.path = node.path → node.IsDotted schema.items ∨ other.IsDotted schema.items) ∧
    (((nodes schema.items).map (·.path)).Nodup → Item.Addressed schema.items) ∧
    ((∀ id ∈ identifiers schema.items, '.' ∉ id.toList) → Item.Addressed schema.items) := by
  obtain ⟨hgiven, hids⟩ := identifiers_of_parse h
  refine ⟨Item.pairwise_dotted_of_path_eq hgiven hids, Item.addressed_of_distinct hids, fun hdots => ?_⟩
  exact Item.addressed_of_distinct hids (Item.distinct_of_dotless hgiven hids hdots)

/-! ## Crossing paths -/

theorem exists_of_parse {P : Schema → Prop} [DecidablePred P]
    (h : (Schema.parse text).toOption.any (fun schema => decide (P schema)) = true) :
    ∃ schema, Schema.parse text = .ok schema ∧ P schema := by
  cases hparse : Schema.parse text with
  | error e => simp [hparse, Except.toOption] at h
  | ok schema => exact ⟨schema, rfl, by simpa [hparse, Except.toOption] using h⟩

/-- A field that is filled by a lookup, as text. -/
def filledText (id : String) : String :=
  "\x7b\"id\":\"" ++ id ++ "\",\"type\":\"text\",\"label\":\"\",\"autoFill\":" ++
  "\x7b\"apiEndpoint\":\"/\",\"dependsOn\":[],\"targetFields\":[]\x7d\x7d"

/-- A group with such a field. -/
def addressText : String :=
  "\x7b\"id\":\"address\",\"type\":\"group\",\"title\":\"\",\"fields\":[" ++ filledText "city" ++ "]\x7d"

/-- A form of some items, as text. -/
def formText (items : String) : String :=
  "\x7b\"title\":\"\",\"fields\":[" ++ items ++ "]\x7d"

theorem addressed_of_parse_address :
    ∃ schema, Schema.parse (formText addressText) = .ok schema ∧
      (∀ id ∈ identifiers schema.items, '.' ∉ id.toList) ∧ Item.Addressed schema.items := by
  obtain ⟨schema, hparse, hdots⟩ : ∃ schema, Schema.parse (formText addressText) = .ok schema ∧
      ∀ id ∈ identifiers schema.items, '.' ∉ id.toList := exists_of_parse (by decide +kernel)
  exact ⟨schema, hparse, hdots, (addressed_of_parse hparse).2.2 hdots⟩

/-- **The parser accepts a form where two items share a path**: two identifiers lead there, the table by path
    has an item less than the form, and one worker serves two lookups. -/
theorem not_addressed_of_dot :
    ∃ schema, Schema.parse (formText (filledText "address.city" ++ "," ++ addressText)) = .ok schema ∧
      ¬ ((nodes schema.items).map (·.path)).Nodup ∧
      (pathsById schema.items).get? "address.city" = (pathsById schema.items).get? "city" ∧
      (byPath schema.items).length < Item.nodeCount schema.items ∧
      (Engine.ofLookups (lookups schema.items)).workers.length < (Item.declaring schema.items).length :=
  exists_of_parse (by decide +kernel)

end Schema
end DynamicForms
