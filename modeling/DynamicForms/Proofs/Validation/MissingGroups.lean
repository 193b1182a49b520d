import DynamicForms.Proofs.Validation.FirstPass

/-!
# `DynamicForms.Proofs.Validation.MissingGroups` — a missing group counts as an empty one

A group that cannot be hidden by a condition of its own and is missing is put in before the first
pass, so that its fields complain for themselves and nobody about the group. Completing stops,
however, at groups that can be hidden, given or not. A group is *sheltered* if it stands in such a
group. One that is sheltered, missing and not to be hidden itself is complained about under its own
path, as soon as the group around it is there.

Everywhere else an error at the path of a group means that the data holds something there that is no
object; and the errors of a missing group are those of the fields inside it.

## Contents
- `Node.IsSheltered`, `Node.CountsAsEmpty`.
- **Completed groups.** `descend?_complete_group`, `isOpen_complete`,
  `descend?_complete_of_isSheltered`.
- **Errors.** `Validator.ReportsGroup`, `not_object_or_sheltered`, `exists_field_of_error`,
  `mem_places_iff_of_empty`, `Validator.missing_groups`.
- **A group inside a group that can be hidden.** `not_reported_at_fields`.
-/

namespace DynamicForms

open Value (Object)
open Path (IsWhole IsName)

/-- An item stands in a group that can be hidden. -/
def Node.IsSheltered (items : List Item) (node : Node) : Prop :=
  ∃ around ∈ Item.nodes items, node ∈ around.inside ∧ around.item.isGated = true

/-- A place counts as empty: nothing stands there in the data, nor anything but objects around it, and
    it is in no group that can be hidden. -/
structure Node.CountsAsEmpty (items : List Item) (data : Object) (node : Node) : Prop where
  /-- No group around can be hidden. -/
  free : ¬ node.IsSheltered items
  /-- Nothing stands there. -/
  missing : Path.descend? (.object data) (Path.segments node.path) = none
  /-- What stands around is an object. -/
  around : ∀ around ∈ Item.nodes items, node ∈ around.inside →
    ∀ found, Path.descend? (.object data) (Path.segments around.path) = some found →
      found.isObject = true

namespace Item

variable {parent : String} {items inner : List Item} {node around : Node} {g : GroupHeader}

/-- Below a completed group that is an object, there is what completing leads to inside it. -/
theorem exists_fields_of_completeValue {found : Option Value} {fields : Object}
    (h : completeValue inner found = .object fields) {more : List String} (hmore : more ≠ []) :
    ∃ before, fields = complete before inner ∧
      Path.descend? (.object before) more = found.bind fun v => Path.descend? v more := by
  obtain ⟨next, rest, rfl⟩ := List.exists_cons_of_ne_nil hmore
  cases found with
  | none => exact ⟨[], (Value.object.inj h).symm, rfl⟩
  | some v =>
    cases v with
    | absent => exact ⟨[], (Value.object.inj h).symm, rfl⟩
    | object before => exact ⟨before, (Value.object.inj h).symm, rfl⟩
    | _ => cases h

/-! ## Completed groups -/

/-- **A group that cannot be hidden and stands in no group that can be is completed** as soon as
    everything around it is an object. -/
theorem descend?_complete_group (h : WellNamedAt parent items) (d : Object)
    (hnode : node ∈ walkList parent items) (hitem : node.item = .group g inner)
    (hg : g.showWhen.isSome = false)
    (hfree : ∀ around ∈ walkList parent items, node ∈ around.inside → around.item.isGated = false)
    {way : List String} (hway : Path.segments node.path = Path.segments parent ++ way)
    (hopen : Path.IsOpen (complete d items) way) :
    Path.descend? (.object (complete d items)) way
      = some (completeValue inner (Path.descend? (.object d) way)) := by
  have hget : ∀ {parent items k kinner d}, WellNamedAt parent items → .group k kinner ∈ items →
      k.showWhen.isSome = false →
      Entries.get? (complete d items) k.id = some (completeValue kinner (Entries.get? d k.id)) :=
    fun h hmem hk => (get?_complete_of_mem h hmem _).trans (get?_completeOne_self hk _)
  induction hnode using walkInduction generalizing d way with
  | here parent items item hmem =>
    -- the group itself
    cases hitem
    obtain rfl : way = [g.id] := List.append_cancel_left (hway.symm.trans (h.segments_group hmem))
    rw [descend?_singleton, descend?_singleton, hget h hmem hg]
  | inside parent items k kinner node hmem hnode ih =>
    -- inside a group, which is completed itself
    obtain ⟨more, rfl, hmore, hseg⟩ := h.way_inside hmem hnode hway
    have hk : k.showWhen.isSome = false := hfree _ (mem_walkList_of_mem hmem) hnode
    obtain ⟨fields, hfields, hopenInner⟩ := (Path.isOpen_cons hmore).mp hopen
    have hvalue : completeValue kinner (Entries.get? d k.id) = .object fields :=
      Option.some.inj ((hget h hmem hk).symm.trans hfields)
    obtain ⟨before, rfl, hbefore⟩ := exists_fields_of_completeValue hvalue hmore
    rw [Path.descend?_cons, hfields, Option.bind_some, Path.descend?_cons, ← hbefore]
    exact ih (h.inside hmem) before hitem
      (fun around haround => hfree around ((walkList_sublist_of_mem hmem).subset haround)) hseg
      hopenInner

/-- What is completed is an object, unless something else is there already. -/
theorem exists_fields_completeValue {found : Option Value}
    (h : ∀ v, found = some v → v.isObject = true) :
    ∃ fields, completeValue inner found = .object fields := by
  cases found with
  | none => exact ⟨_, rfl⟩
  | some v =>
    obtain ⟨fields, rfl⟩ := (Value.isObject_iff v).mp (h v rfl)
    exact ⟨_, rfl⟩

end Item

section

variable {items inner : List Item} {node around : Node} {g : GroupHeader} {data : Object}

theorem Node.IsSheltered.inside (h : around.IsSheltered items) (hin : node ∈ around.inside) :
    node.IsSheltered items := by
  obtain ⟨gate, hgate, haround, hgated⟩ := h
  exact ⟨gate, hgate, Item.inside_subset haround hin, hgated⟩

/-- A group around something that is not sheltered cannot be hidden. -/
theorem Node.isGated_of_not_isSheltered (h : ¬ node.IsSheltered items)
    (haround : around ∈ Item.nodes items) (hin : node ∈ around.inside) :
    around.item.isGated = false := by
  rw [← Bool.not_eq_true]
  intro hgated
  exact h ⟨around, haround, hin, hgated⟩

/-- A group that cannot be hidden and is not sheltered is completed, all around it being objects. -/
theorem Item.descend?_complete_of_not_isSheltered (h : Item.WellNamed items)
    (hnode : node ∈ Item.nodes items) (hitem : node.item = .group g inner)
    (hg : g.showWhen.isSome = false) (hfree : ¬ node.IsSheltered items)
    (hopen : Path.IsOpen (Item.complete data items) (Path.segments node.path)) :
    Path.descend? (.object (Item.complete data items)) (Path.segments node.path)
      = some (Item.completeValue inner
          (Path.descend? (.object data) (Path.segments node.path))) :=
  Item.descend?_complete_group h.atTop data hnode hitem hg
    (fun _ haround hin => Node.isGated_of_not_isSheltered hfree haround hin)
    (Path.segments_from_top node.path) hopen

/-- **Around what is not sheltered there are objects** in the completed data, unless the data holds
    something else there. -/
theorem Item.isOpen_complete (h : Item.WellNamed items) (hnode : node ∈ Item.nodes items)
    (hfree : ¬ node.IsSheltered items)
    (hthere : ∀ around ∈ Item.nodes items, node ∈ around.inside →
      ∀ v, Path.descend? (.object data) (Path.segments around.path) = some v → v.isObject = true) :
    Path.IsOpen (Item.complete data items) (Path.segments node.path) := by
  -- by induction on the depth of the node: the group right around it is completed to an object
  induction hdepth : (Path.segments node.path).length using Nat.strongRecOn
    generalizing node with
  | ind depth ih =>
    rcases h.atTop.exists_parent hnode with
      hseg | ⟨around, haround, hin, hseg⟩
    · rw [hseg, Path.segments_empty]
      exact Path.isOpen_singleton _ node.item.id
    · have hshorter : (Path.segments around.path).length < depth := by
        rw [← hdepth, hseg, List.length_append, List.length_singleton]
        omega
      have hopen : Path.IsOpen (Item.complete data items) (Path.segments around.path) := by
        refine ih _ hshorter haround (fun hs => hfree (hs.inside hin)) ?_ rfl
        intro outer houter hbetween
        exact hthere outer houter (Item.inside_subset hbetween hin)
      obtain ⟨g, inner, hitem⟩ := Item.exists_group_of_inside hin
      have hg : g.showWhen.isSome = false := by
        have hgated := Node.isGated_of_not_isSheltered hfree haround hin
        rw [hitem] at hgated
        exact hgated
      have hvalue := Item.descend?_complete_of_not_isSheltered h haround hitem hg
        (fun hs => hfree (hs.inside hin)) hopen
      obtain ⟨fields, hfields⟩ : ∃ fields, Item.completeValue inner
          (Path.descend? (.object data) (Path.segments around.path)) = .object fields :=
        Item.exists_fields_completeValue (hthere around haround hin)
      rw [hfields] at hvalue
      rw [hseg, Path.IsOpen, List.dropLast_concat]
      exact ⟨fields, hvalue⟩

/-- Inside a group that counts as empty there is nothing. -/
theorem Node.CountsAsEmpty.descend?_inside (hempty : node.CountsAsEmpty items data)
    (h : Item.WellNamed items) (hnode : node ∈ Item.nodes items) {u : Node}
    (hin : u ∈ node.inside) : Path.descend? (.object data) (Path.segments u.path) = none := by
  obtain ⟨⟨more, hmore⟩, -⟩ := h.prefix_of_inside hnode hin
  rw [← hmore, Path.descend?_append, hempty.missing, Option.bind_none]

/-- What stands in a group that counts as empty, but not in one that can be hidden, counts as empty. -/
theorem Node.CountsAsEmpty.inside (hempty : node.CountsAsEmpty items data)
    (h : Item.WellNamed items) (hnode : node ∈ Item.nodes items) {u : Node}
    (hin : u ∈ node.inside) (hfree : ¬ u.IsSheltered items) : u.CountsAsEmpty items data := by
  refine ⟨hfree, hempty.descend?_inside h hnode hin, ?_⟩
  intro around haround hu found hfound
  rcases h.governs_or_inside haround hnode hu hin with (heq | hbelow) | hinner
  · rw [← heq, hempty.missing] at hfound
    cases hfound
  · exact hempty.around around haround hbelow found hfound
  · rw [hempty.descend?_inside h hnode hinner] at hfound
    cases hfound

/-- **In a group that can be hidden nothing is completed.** -/
theorem Item.descend?_complete_of_isSheltered (h : Item.WellNamed items)
    (hsheltered : node.IsSheltered items) :
    Path.descend? (.object (Item.complete data items)) (Path.segments node.path)
      = Path.descend? (.object data) (Path.segments node.path) := by
  obtain ⟨gate, hgate, hin, hgated⟩ := hsheltered
  obtain ⟨⟨more, hmore⟩, -⟩ := h.prefix_of_inside hgate hin
  have hsame := Item.descend?_complete h.atTop data hgate (Or.inr hgated)
    (Path.segments_from_top gate.path)
  rw [← hmore, Path.descend?_append, Path.descend?_append, hsame]

end

/-! ## Errors -/

namespace Validator

/-- How a form reports on a group: what an error at the path of the group means, and what errors there
    are inside the group if it counts as empty. -/
structure ReportsGroup (v : Validator) (items : List Item) (data : Object) (node : Node)
    (g : GroupHeader) : Prop where
  /-- An error at the path of the group means that the data holds something there that is no object,
      unless the group is missing in a group that can be hidden and cannot be hidden itself. -/
  at_group : node.path ∈ Entries.keys (v.validate data).errors →
    (∃ found, Path.descend? (.object data) (Path.segments node.path) = some found ∧
      found.isObject = false) ∨
    (Path.descend? (.object data) (Path.segments node.path) = none ∧ g.showWhen = none ∧
      node.IsSheltered items)
  /-- If the group counts as empty and cannot be hidden, all errors at and below its path are those of
      fields inside it. -/
  at_fields : g.showWhen = none → node.CountsAsEmpty items data →
    ∀ path ∈ Entries.keys (v.validate data).errors,
      path = node.path ∨ Path.below path node.path = true →
        ∃ u ∈ node.inside, u.item.isField = true ∧ u.path = path
  /-- In that case the first pass complains about exactly those fields inside the group that may not be
      missing and stand in no group that can be hidden. -/
  as_empty : g.showWhen = none → node.CountsAsEmpty items data →
    ∀ u ∈ node.inside, ∀ f, u.item = .field f →
      (u.path ∈ (v.firstPass data).places ↔ f.isOptional = false ∧ ¬ u.IsSheltered items)

variable {v : Validator} {items inner : List Item} {data : Object} {node u : Node}
  {g : GroupHeader}

/-- The second pass speaks about fields. -/
theorem exists_field_of_secondPass (hbuild : build items = .ok v) {path : String}
    (h : path ∈ Entries.keys (v.secondPass data)) :
    ∃ u ∈ Item.nodes items, u.item.isField = true ∧ u.path = path := by
  rw [secondPass, Entries.mem_keys_ofPairs, List.map_map] at h
  obtain ⟨r, hr, rfl⟩ := List.mem_map.mp h
  obtain ⟨u, hu, f, hf, hpath, -⟩ := conditional_of_build hbuild (List.mem_filter.mp hr).1
  exact ⟨u, hu, by rw [hf]; rfl, hpath⟩

/-- Of something that is no field only the first pass can speak. -/
theorem mem_places_of_mem_errors (h : Item.WellNamed items) (hbuild : build items = .ok v)
    (hnode : node ∈ Item.nodes items) (hfield : node.item.isField = false)
    (herror : node.path ∈ Entries.keys (v.validate data).errors) :
    node.path ∈ (v.firstPass data).places := by
  rw [errors_validate, mem_keys_messages] at herror
  refine herror.resolve_right fun hsecond => ?_
  obtain ⟨u, hu, hisField, hpath⟩ := exists_field_of_secondPass hbuild hsecond
  rw [h.eq_of_path_eq hu hnode hpath, hfield] at hisField
  cases hisField

/-- A group complained about is no object in the data, or it is missing though it cannot be hidden,
    and sheltered. -/
theorem not_object_or_sheltered (h : Item.WellNamed items) (hbuild : build items = .ok v)
    (hnode : node ∈ Item.nodes items) (hitem : node.item = .group g inner)
    (herror : node.path ∈ Entries.keys (v.validate data).errors) :
    (∃ found, Path.descend? (.object data) (Path.segments node.path) = some found ∧
      found.isObject = false) ∨
    (Path.descend? (.object data) (Path.segments node.path) = none ∧ g.showWhen = none ∧
      node.IsSheltered items) := by
  have hplace := mem_places_of_mem_errors h hbuild hnode (by rw [hitem]; rfl) herror
  obtain ⟨hopen, hfaulty⟩ := (mem_places_firstPass_iff h hbuild data hnode).mp hplace
  rw [hitem] at hfaulty
  have hfound : ∀ found, (Item.group g inner).isFaulty (some found) = true →
      found.isObject = false := by
    intro found hf
    simp only [Item.isFaulty, Bool.not_eq_true', Bool.or_eq_false_iff] at hf
    exact hf.1
  -- where nothing is completed, the data is at fault as it is
  have hraw : Path.descend? (.object (Item.complete data items)) (Path.segments node.path)
        = Path.descend? (.object data) (Path.segments node.path) →
      (∃ found, Path.descend? (.object data) (Path.segments node.path) = some found ∧
        found.isObject = false) ∨
      (Path.descend? (.object data) (Path.segments node.path) = none ∧ g.showWhen = none) := by
    intro hsame
    rw [hsame] at hfaulty
    cases hdata : Path.descend? (.object data) (Path.segments node.path) with
    | none =>
      rw [hdata] at hfaulty
      exact Or.inr ⟨rfl, Option.isNone_iff_eq_none.mp hfaulty⟩
    | some found =>
      rw [hdata] at hfaulty
      exact Or.inl ⟨found, rfl, hfound found hfaulty⟩
  by_cases hsheltered : node.IsSheltered items
  · refine (hraw (Item.descend?_complete_of_isSheltered h hsheltered)).imp_right ?_
    rintro ⟨hnone, hg⟩
    exact ⟨hnone, hg, hsheltered⟩
  · left
    cases hg : g.showWhen with
    | some c =>
      have hgated : node.item.isGated = true := by rw [hitem, Item.isGated, hg]; rfl
      have hsame := Item.descend?_complete h.atTop data hnode
        (Or.inr hgated) (Path.segments_from_top node.path)
      refine (hraw hsame).resolve_right ?_
      rintro ⟨-, hnone⟩
      rw [hg] at hnone
      cases hnone
    | none =>
      -- a completed group is at fault only if the data holds something else
      rw [Item.descend?_complete_of_not_isSheltered h hnode hitem (by rw [hg]; rfl) hsheltered
        hopen] at hfaulty
      by_contra hnot
      obtain ⟨fields, hfields⟩ : ∃ fields, Item.completeValue inner
          (Path.descend? (.object data) (Path.segments node.path)) = .object fields := by
        refine Item.exists_fields_completeValue fun found hsome => ?_
        by_contra hobject
        exact hnot ⟨found, hsome, by simpa using hobject⟩
      rw [hfields] at hfaulty
      have hobject := hfound _ hfaulty
      cases hobject

/-- What can be hidden with a group around it, all in a group that counts as empty, is out of reach. -/
theorem not_isOpen_of_isSheltered (h : Item.WellNamed items) (hnode : node ∈ Item.nodes items)
    (hungated : node.item.isGated = false) (hempty : node.CountsAsEmpty items data)
    (hin : u ∈ node.inside) (hsheltered : u.IsSheltered items) :
    ¬ Path.IsOpen (Item.complete data items) (Path.segments u.path) := by
  obtain ⟨gate, hgate, hu, hgated⟩ := hsheltered
  -- the group that can be hidden is inside the empty one, and nothing is put in for it
  have hinner : gate ∈ node.inside := by
    rcases h.governs_or_inside hgate hnode hu hin with (heq | hbelow) | hinner
    · rw [heq, hgated] at hungated
      cases hungated
    · exact absurd ⟨gate, hgate, hbelow, hgated⟩ hempty.free
    · exact hinner
  have hnone : Path.descend? (.object (Item.complete data items)) (Path.segments gate.path)
      = none := by
    rw [Item.descend?_complete h.atTop data hgate (Or.inr hgated)
      (Path.segments_from_top gate.path)]
    exact hempty.descend?_inside h hnode hinner
  obtain ⟨hpre, hne⟩ := h.prefix_of_inside hgate hu
  refine Path.not_isOpen_of_prefix hpre hne fun fields hfields => ?_
  rw [hnone] at hfields
  cases hfields

/-- Every error is at an item. -/
theorem exists_node_of_error (hbuild : build items = .ok v) {path : String}
    (herror : path ∈ Entries.keys (v.validate data).errors) :
    ∃ u ∈ Item.nodes items, u.path = path := by
  rw [errors_validate, mem_keys_messages] at herror
  rcases herror with hfirst | hsecond
  · exact exists_node_of_mem_places hbuild hfirst
  · obtain ⟨u, hu, -, hpath⟩ := exists_field_of_secondPass hbuild hsecond
    exact ⟨u, hu, hpath⟩

/-- No group is complained about at or inside one that counts as empty: what is missing there is out of
    reach or was put in. -/
theorem not_mem_errors_of_group (h : Item.WellNamed items) (hbuild : build items = .ok v)
    (hnode : node ∈ Item.nodes items) (hungated : node.item.isGated = false)
    (hempty : node.CountsAsEmpty items data) (hgoverns : node.Governs u)
    (hitem : u.item = .group g inner) : u.path ∉ Entries.keys (v.validate data).errors := by
  intro herror
  have hu : u ∈ Item.nodes items := Item.mem_of_governs hnode hgoverns
  have hnone : Path.descend? (.object data) (Path.segments u.path) = none := by
    rcases hgoverns with rfl | hin
    · exact hempty.missing
    · exact hempty.descend?_inside h hnode hin
  rcases not_object_or_sheltered h hbuild hu hitem herror with
    ⟨found, hfound, -⟩ | ⟨-, -, hsheltered⟩
  · rw [hnone] at hfound
    cases hfound
  · rcases hgoverns with rfl | hin
    · exact hempty.free hsheltered
    · have hplace := mem_places_of_mem_errors h hbuild hu (by rw [hitem]; rfl) herror
      obtain ⟨hopen, -⟩ := (mem_places_firstPass_iff h hbuild data hu).mp hplace
      exact not_isOpen_of_isSheltered h hnode hungated hempty hin hsheltered hopen

/-- **The errors of a group that counts as empty are those of fields inside it.** -/
theorem exists_field_of_error (h : Item.WellNamed items) (hbuild : build items = .ok v)
    (hnode : node ∈ Item.nodes items) (hitem : node.item = .group g inner)
    (hungated : node.item.isGated = false) (hempty : node.CountsAsEmpty items data) {path : String}
    (herror : path ∈ Entries.keys (v.validate data).errors)
    (hwhere : path = node.path ∨ Path.below path node.path = true) :
    ∃ u ∈ node.inside, u.item.isField = true ∧ u.path = path := by
  obtain ⟨u, hu, rfl⟩ := exists_node_of_error hbuild herror
  have hgoverns : node.Governs u :=
    h.governs_of_prefix hnode hu ((Path.segments_prefix_iff (h.isWhole hnode) (h.isWhole hu)).mpr
      (hwhere.imp_left Eq.symm))
  cases hitemU : u.item with
  | field f =>
    rcases hgoverns with rfl | hin
    · rw [hitem] at hitemU
      cases hitemU
    · exact ⟨u, hin, by rw [hitemU]; rfl, rfl⟩
  | group k kinner =>
    exact absurd herror (not_mem_errors_of_group h hbuild hnode hungated hempty hgoverns hitemU)

/-- **In a group that counts as empty exactly the fields are complained about that may not be missing**
    and stand in no group that can be hidden. -/
theorem mem_places_iff_of_empty (h : Item.WellNamed items) (hbuild : build items = .ok v)
    (hnode : node ∈ Item.nodes items) (hungated : node.item.isGated = false)
    (hempty : node.CountsAsEmpty items data) (hin : u ∈ node.inside) {f : Field}
    (hf : u.item = .field f) :
    u.path ∈ (v.firstPass data).places ↔ f.isOptional = false ∧ ¬ u.IsSheltered items := by
  have hu : u ∈ Item.nodes items := Item.inside_subset hnode hin
  have hfield : u.item.isField = true := by rw [hf]; rfl
  have hnone : Path.descend? (.object (Item.complete data items)) (Path.segments u.path)
      = none := by
    rw [Item.descend?_complete h.atTop data hu (Or.inl hfield)
      (Path.segments_from_top u.path)]
    exact hempty.descend?_inside h hnode hin
  rw [mem_places_firstPass_iff h hbuild data hu, hnone, hf]
  constructor
  · rintro ⟨hopen, hfaulty⟩
    refine ⟨by simpa [Item.isFaulty, Field.isRefused] using hfaulty, fun hsheltered => ?_⟩
    exact not_isOpen_of_isSheltered h hnode hungated hempty hin hsheltered hopen
  · rintro ⟨hoptional, hfree⟩
    have hemptyU := hempty.inside h hnode hin hfree
    exact ⟨Item.isOpen_complete h hu hfree hemptyU.around,
      by simp [Item.isFaulty, Field.isRefused, hoptional]⟩

/-- **How errors at and in groups come about.** -/
theorem missing_groups (h : Item.WellNamed items) (hbuild : build items = .ok v) (data : Object)
    (hnode : node ∈ Item.nodes items) (hitem : node.item = .group g inner) :
    v.ReportsGroup items data node g := by
  have hungated : g.showWhen = none → node.item.isGated = false := by
    intro hg
    rw [hitem, Item.isGated, hg]
    rfl
  refine ⟨not_object_or_sheltered h hbuild hnode hitem, ?_, ?_⟩
  · intro hg hempty path herror hwhere
    exact exists_field_of_error h hbuild hnode hitem (hungated hg) hempty herror hwhere
  · intro hg hempty u hin f hf
    exact mem_places_iff_of_empty h hbuild hnode (hungated hg) hempty hin hf

/-- Of a missing address only the city is missed. -/
theorem missing_groups_address :
    Entries.keys (addressValidator.validate []).errors = ["address.city"] ∧
      addressValidator.ReportsGroup addressItems []
        ⟨.group addressGroup [.field cityField], "address", ""⟩ addressGroup :=
  ⟨by decide +kernel,
    missing_groups wellNamed_addressItems build_addressItems [] List.mem_cons_self rfl⟩

/-! ## A group inside a group that can be hidden -/

/-- A group with a required city, inside a group that is asked of businesses. -/
def nestedItems : List Item :=
  [.group billingGroup [.group addressGroup [.field cityField]]]

/-- The form made ready. -/
def nestedValidator : Validator :=
  (build nestedItems).toOption.getD default

theorem build_nestedItems : build nestedItems = .ok nestedValidator :=
  build_of_isSome (by decide +kernel)

/-- **An error at the path of a group need not mean that the data holds something there.** A group
    that is missing in a given group that can be hidden is complained about itself. -/
theorem not_reported_at_fields :
    ¬ ∀ (items : List Item) (v : Validator) (data : Object) (node : Node) (g : GroupHeader)
        (inner : List Item),
      Item.WellNamed items → build items = .ok v → node ∈ Item.nodes items →
      node.item = .group g inner → node.path ∈ Entries.keys (v.validate data).errors →
      ∃ found, Path.descend? (.object data) (Path.segments node.path) = some found ∧
        found.isObject = false := by
  intro h
  have herror : "billing.address" ∈ Entries.keys
      (nestedValidator.validate [("kind", .text "business"), ("billing", .object [])]).errors := by
    decide +kernel
  have hmissing : (Path.descend?
      (.object [("kind", .text "business"), ("billing", .object [])])
      (Path.segments "billing.address")).isNone = true := by
    decide +kernel
  obtain ⟨found, hfound, -⟩ := h nestedItems nestedValidator _
    ⟨.group addressGroup [.field cityField], "billing.address", "billing"⟩ addressGroup
    [.field cityField] ⟨by decide +kernel, by decide +kernel⟩ build_nestedItems
    (List.mem_cons_of_mem _ List.mem_cons_self) rfl herror
  rw [hfound] at hmissing
  cases hmissing

end Validator

end DynamicForms
