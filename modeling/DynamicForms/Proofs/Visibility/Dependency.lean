import DynamicForms.Proofs.Visibility.Passes
import Mathlib.Logic.Relation

/-!
# `DynamicForms.Proofs.Visibility.Dependency` — forms whose conditions are acyclic

An item depends on another one if a condition on it, or on a group around it, names a path that
overlaps the other's. Where no item depends on itself, every item has a rank: the number of items it
depends on, directly or not. An item's visibility is settled by the values at items of smaller rank.

So the passes of a tracker settle the form rank by rank. Before the pass with number `j`, the visible
part is right about items of rank below `j`, and visible fields among them have a value. The pass
then writes nothing that a condition on an item of rank `j` reads. Ranks are smaller than the number
of items, so the last pass finds nothing to do.

## Contents
- `Item.DependsOn`, `Item.Acyclic`, `Item.rank`, `acyclic_of_numbered`.
- **Ranks.** `rank_lt_of_dependsOn`, `rank_lt_nodeCount`.
- **What a pass leaves.** `hiddenAbsent_passed`, `Settled.read_passed`.
- `Tracker.Settled`, `progressOn_settled`, `progress_settled`.
-/

namespace DynamicForms

open Value (Object)
open Path (Sound Clear IsWhole Apart)

namespace Item

/-- An item depends on another one: a condition on something that governs it names a path that
    overlaps the other's. -/
def DependsOn (items : List Item) (u w : Node) : Prop :=
  u ∈ nodes items ∧ w ∈ nodes items ∧
    ∃ g ∈ nodes items, g.Governs u ∧ ∃ c ∈ g.item.ownPaths, Path.overlaps c w.path = true

/-- No item depends on itself, directly or through others. -/
def Acyclic (items : List Item) : Prop :=
  ∀ node, ¬ Relation.TransGen (DependsOn items) node node

variable {items : List Item} {u w : Node}

/-! ## Ranks -/

open Classical in
/-- How many items an item depends on, directly or through others. -/
noncomputable def rank (items : List Item) (node : Node) : Nat :=
  (nodes items).countP fun other => Relation.TransGen (DependsOn items) node other

theorem rank_lt_of_dependsOn (hacyclic : Acyclic items) (h : DependsOn items u w) :
    rank items w < rank items u := by
  classical
  refine countP_lt_countP (fun other _ hother => ?_) h.2.1 ?_ ?_
  · exact decide_eq_true (Relation.TransGen.head h (of_decide_eq_true hother))
  · exact decide_eq_true (Relation.TransGen.single h)
  · exact decide_eq_false (hacyclic w)

theorem rank_lt_nodeCount (hacyclic : Acyclic items) (h : w ∈ nodes items) :
    rank items w < nodeCount items := by
  classical
  rw [nodeCount, ← List.countP_true]
  exact countP_lt_countP (fun _ _ _ => rfl) h rfl (decide_eq_false (hacyclic w))

/-- A form is acyclic if its items can be numbered so that the conditions on an item, and on the groups
    around it, only name items of smaller number. -/
theorem acyclic_of_numbered (number : Node → Nat)
    (h : ∀ g ∈ nodes items, ∀ u ∈ g :: g.inside, ∀ c ∈ g.item.ownPaths, ∀ w ∈ nodes items,
      Path.overlaps c w.path = true → number w < number u) : Acyclic items := by
  have hstep : ∀ u w, DependsOn items u w → number w < number u := by
    rintro u w ⟨-, hw, g, hg, hgoverns, c, hc, hoverlaps⟩
    refine h g hg u ?_ c hc w hw hoverlaps
    rcases hgoverns with rfl | hinside
    · exact List.mem_cons_self
    · exact List.mem_cons_of_mem _ hinside
  intro node hcycle
  have hless : ∀ u w, Relation.TransGen (DependsOn items) u w → number w < number u := by
    intro u w hpath
    induction hpath with
    | single hdepends => exact hstep _ _ hdepends
    | tail _ hdepends ih => exact Nat.lt_trans (hstep _ _ hdepends) ih
  exact Nat.lt_irrefl _ (hless node node hcycle)

theorem acyclic_reasonForm : Acyclic reasonForm :=
  acyclic_of_numbered (fun node => ["choice", "extra", "reason"].idxOf node.path)
    (by decide +kernel)

end Item

namespace Tracker

variable {items : List Item} {before : Entries Item} {data : Object} {u w x : Node}

/-! ## What a pass leaves -/

/-- After a pass no hidden item has a value, if none had before it. -/
theorem hiddenAbsent_passed (hi : Item.Regular items) (hbefore : Listed items before)
    (hdata : Sound data) (h : HiddenAbsent items before data) :
    HiddenAbsent items (Item.visibleTable items (.object data))
      (passed true before (Item.visibleTable items (.object data)) data) := by
  intro w hw hhidden
  have hswept := hiddenAbsent_sweep hi hbefore hdata h w hw hhidden
  show (Path.read (.object (fill (Item.visibleTable items (.object data)) _)) w.path).isAbsent = true
  rw [read_fill_of_settled ((listed_visibleTable items _).isWhole hi.named)
    (unnested_visibleTable hi.named _) (hi.named.isWhole hw)]
  · exact hswept
  · intro p f hp
    obtain ⟨u, hu, rfl, huf⟩ := Item.exists_node_of_mem_visibleTable hp
    have hfield : u.item.isField = true := by rw [huf]; rfl
    exact Or.inl (apart_of_hidden_of_visible hi.named hw hu hfield hhidden (Entries.mem_keys_of_mem hp))

/-- What is known before the pass with a number: the visible part is right about the items of smaller
    rank, and the visible fields among them have a value. -/
structure Settled (items : List Item) (j : Nat) (before : Entries Item) (data : Object) : Prop where
  /-- The visible part is right. -/
  visible_iff : ∀ node ∈ Item.nodes items, Item.rank items node < j →
    (node.path ∈ before.keys ↔ node.path ∈ (Item.visibleTable items (.object data)).keys)
  /-- Visible fields have a value. -/
  filled : ∀ node ∈ Item.nodes items, Item.rank items node < j → node.item.isField = true →
    node.path ∈ before.keys → (Path.read (.object data) node.path).isAbsent = false

theorem Settled.zero (items : List Item) (before : Entries Item) (data : Object) :
    Settled items 0 before data :=
  ⟨nofun, nofun⟩

variable {j : Nat}

/-- What goes in a pass lies apart from what conditions on items of the next rank read. -/
theorem Settled.apart_of_removed (h : Settled items j before data) (hi : Item.Regular items)
    (hacyclic : Item.Acyclic items) (hbefore : Listed items before) (hw : w ∈ Item.nodes items)
    (hrank : Item.rank items w < j + 1) {g : Node} (hg : g ∈ Item.nodes items)
    (hgoverns : g.Governs w) {c : String} (hc : c ∈ g.item.ownPaths) (hwhole : IsWhole c)
    {path : String}
    (hpath : path ∈ (moveBetween before (Item.visibleTable items (.object data))).removed) :
    Apart (Path.segments path) (Path.segments c) := by
  obtain ⟨hwas, hgone⟩ := mem_removed_iff.mp hpath
  obtain ⟨x, hx, rfl⟩ := hbefore path hwas
  refine (Path.apart_of_not_overlaps hwhole (hi.named.isWhole hx) ?_).symm
  by_contra hoverlaps
  -- otherwise the item would depend on what goes, which is of a smaller rank and so was gone before
  have hdepends : Item.DependsOn items w x :=
    ⟨hw, hx, g, hg, hgoverns, c, hc, by simpa using hoverlaps⟩
  have hlt := Item.rank_lt_of_dependsOn hacyclic hdepends
  exact hgone ((h.visible_iff x hx (by omega)).mp hwas)

/-- **A pass writes nothing that decides about an item of the next rank.** -/
theorem Settled.read_passed (h : Settled items j before data) (hi : Item.Regular items)
    (hacyclic : Item.Acyclic items) (hbefore : Listed items before)
    (hw : w ∈ Item.nodes items) (hrank : Item.rank items w < j + 1) {g : Node}
    (hg : g ∈ Item.nodes items) (hgoverns : g.Governs w) {c : String} (hc : c ∈ g.item.ownPaths)
    (hwhole : IsWhole c) :
    Path.read (.object (passed true before (Item.visibleTable items (.object data)) data)) c
      = Path.read (.object data) c := by
  have hsweep := read_sweep_of_apart hwhole
    (fun path hpath => h.apart_of_removed hi hacyclic hbefore hw hrank hg hgoverns hc hwhole hpath)
    data
  rw [← hsweep]
  refine read_fill_of_settled ((listed_visibleTable items _).isWhole hi.named)
    (unnested_visibleTable hi.named _) hwhole fun p f hp => ?_
  obtain ⟨u, hu, rfl, huf⟩ := Item.exists_node_of_mem_visibleTable hp
  have hfield : u.item.isField = true := by rw [huf]; rfl
  have hvisible := Entries.mem_keys_of_mem hp
  cases hoverlaps : Path.overlaps c u.path with
  | false =>
    exact Or.inl (Path.apart_of_not_overlaps hwhole (hi.named.isWhole hu) hoverlaps).symm
  | true =>
    -- the field has a smaller rank, so it had a value, and nothing that went stood around it
    right
    have hlt := Item.rank_lt_of_dependsOn hacyclic
      (show Item.DependsOn items w u from ⟨hw, hu, g, hg, hgoverns, c, hc, hoverlaps⟩)
    have hwas := (h.visible_iff u hu (by omega)).mpr hvisible
    rw [read_sweep_of_apart (hi.named.isWhole hu)]
    · exact h.filled u hu (by omega) hfield hwas
    · intro path hpath
      obtain ⟨hxwas, hxgone⟩ := mem_removed_iff.mp hpath
      obtain ⟨x, hx, rfl⟩ := hbefore path hxwas
      exact (apart_of_hidden_of_visible hi.named hx hu hfield hxgone hvisible).symm

/-- A pass settles one more rank. -/
theorem Settled.passed (h : Settled items j before data) (hi : Item.Regular items)
    (hacyclic : Item.Acyclic items) (hbefore : Listed items before) (hdata : Clear data) :
    Settled items (j + 1) (Item.visibleTable items (.object data))
      (passed true before (Item.visibleTable items (.object data)) data) where
  visible_iff w hw hrank := by
    rw [Item.mem_keys_visibleTable_iff hi.named hw, Item.mem_keys_visibleTable_iff hi.named hw]
    -- whatever governs the item is decided by values that the pass leaves as they are
    have hshown : ∀ g ∈ Item.nodes items, g.Governs w →
        g.item.isShown (.object (Tracker.passed true before
          (Item.visibleTable items (.object data)) data)) = g.item.isShown (.object data) := by
      intro g hg hgoverns
      refine Item.isShown_congr fun c hc => Value.Indistinct.interchangeable (Or.inl ?_)
      by_cases hempty : c = ""
      · subst hempty; rfl
      · have hwhole : IsWhole c :=
          hi.whole c ((Item.mem_watchedPaths_iff hi.named).mpr ⟨hempty, g, hg, hc⟩)
        exact h.read_passed hi hacyclic hbefore hw hrank hg hgoverns hc hwhole
    constructor
    · exact fun hall g hg hgoverns => by rw [hshown g hg hgoverns]; exact hall g hg hgoverns
    · exact fun hall g hg hgoverns => by rw [← hshown g hg hgoverns]; exact hall g hg hgoverns
  filled w hw _ hfield hvisible := by
    obtain ⟨entry, hentry, hpath⟩ := List.mem_map.mp hvisible
    obtain ⟨u, hu, hup, hui⟩ := Item.exists_node_of_mem_visibleTable hentry
    have heq : u = w := hi.named.eq_of_path_eq hu hw (hup.trans hpath)
    obtain ⟨path, item⟩ := entry
    cases item with
    | field f =>
      -- a visible field has a value after the fill, whatever its rank
      obtain rfl : path = w.path := hpath
      exact isAbsent_fill_of_mem (clear_sweep hdata)
        ((listed_visibleTable items _).isWhole hi.named) (unnested_visibleTable hi.named _) hentry
    | group k inner =>
      rw [← heq, hui] at hfield
      cases hfield

/-- Once all ranks are settled there is nothing to do. -/
theorem Settled.atRest (h : Settled items (Item.nodeCount items) before data)
    (hacyclic : Item.Acyclic items) (hbefore : Listed items before) :
    AtRest true before (Item.visibleTable items (.object data)) data := by
  constructor
  · intro path hpath
    obtain ⟨hwas, hgone⟩ := mem_removed_iff.mp hpath
    obtain ⟨w, hw, rfl⟩ := hbefore path hwas
    exact absurd ((h.visible_iff w hw (Item.rank_lt_nodeCount hacyclic hw)).mp hwas) hgone
  · rintro - path f hentry
    obtain ⟨w, hw, rfl, hitem⟩ := Item.exists_node_of_mem_visibleTable hentry
    have hrank := Item.rank_lt_nodeCount hacyclic hw
    have hfield : w.item.isField = true := by rw [hitem]; rfl
    exact h.filled w hw hrank hfield
      ((h.visible_iff w hw hrank).mpr (Entries.mem_keys_of_mem hentry))

/-- **Passes settle an acyclic form in time.** -/
theorem progressOn_settled (hi : Item.Regular items) (hacyclic : Item.Acyclic items) :
    ProgressOn Clear items true (Settled items) where
  step hbefore hdata h _ := h.passed hi hacyclic hbefore hdata
  last hbefore _ h := h.atRest hacyclic hbefore

/-- So they do with sound data. Whether hidden items have no value, if so before, is
    kept beside it. -/
theorem progress_settled (hi : Item.Regular items) (hacyclic : Item.Acyclic items) (kept : Prop) :
    Progress items true fun j before data =>
      Settled items j before data ∧ (kept → HiddenAbsent items before data) :=
  ((progressOn_settled hi hacyclic).of_imp fun _ hdata => hdata.clear).beside
    fun hbefore hdata h hkept => hiddenAbsent_passed hi hbefore hdata (h hkept)

end Tracker
end DynamicForms
