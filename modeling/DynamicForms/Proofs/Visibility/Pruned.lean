import DynamicForms.Proofs.Store.Document
import DynamicForms.Proofs.Visibility.Prune

/-!
# `DynamicForms.Proofs.Visibility.Pruned` — nothing lies where an item is hidden

Data from outside may have names with dots at the top. What such a name holds is what is read at the
path of an item of a group, and no deletion takes it away; so after pruning a hidden item may still
have a value for the conditions. But pruning is about what lies where the ids lead, and there nothing
is left.

A pass that takes something away leaves fewer items with something where their ids lead. A pass that
takes nothing away changes nothing at all, and although the tracker may take it for a change, the pass
after it has nothing to do. So again one more pass than there are items is enough.

## Contents
- **Sweeping documents.** `descend?_sweep_of_mem`, `descend?_sweep`, `sweep_eq_self_of_bare`.
- `Tracker.heldCount`: how many items have something where their ids lead.
- **Passes.** `Tracker.Bare`, `Tracker.Clearing`, `Tracker.Due`.
- `Item.bare_prune`.
-/

namespace DynamicForms

open Value (Object)
open Path (IsWhole)

namespace Tracker

/-! ## Sweeping documents -/

section

variable {paths : List String} {data : Object} {path : String} {way : List String}

theorem isDocument_sweep (h : (Value.object data).isDocument = true) (paths : List String) :
    (Value.object (sweep paths data)).isDocument = true :=
  sweep_keeps (P := fun data => (Value.object data).isDocument = true)
    (fun path _ _ hdocument => Write.isDocument_after_unregister hdocument path) h

/-- Sweeping puts nothing where nothing lies. -/
theorem descend?_sweep (h : (Value.object data).isDocument = true) (paths : List String)
    (hnone : Path.descend? (.object data) way = none) :
    Path.descend? (.object (sweep paths data)) way = none := by
  refine (sweep_keeps (P := fun data => (Value.object data).isDocument = true ∧
    Path.descend? (.object data) way = none) ?_ ⟨h, hnone⟩).2
  rintro path - data ⟨hdocument, hnone⟩
  exact ⟨Write.isDocument_after_unregister hdocument path,
    Write.descend?_after_unregister hdocument path hnone⟩

/-- Nothing lies at the end of the way of a swept path. -/
theorem descend?_sweep_of_mem (h : (Value.object data).isDocument = true)
    (hpaths : ∀ path ∈ paths, IsWhole path) (hmem : path ∈ paths) :
    Path.descend? (.object (sweep paths data)) (Path.segments path) = none :=
  sweep_reaches (P := fun data => (Value.object data).isDocument = true)
    (Q := fun data => Path.descend? (.object data) (Path.segments path) = none)
    (fun p _ _ hdocument => Write.isDocument_after_unregister hdocument p)
    (fun p _ _ hdocument hnone => Write.descend?_after_unregister hdocument p hnone)
    hmem (fun _ hdocument => Write.descend?_after_unregister_self hdocument (hpaths path hmem)) h

/-- Sweeping where nothing lies does nothing, whatever is read there. -/
theorem sweep_eq_self_of_bare (hpaths : ∀ path ∈ paths, IsWhole path)
    (h : ∀ path ∈ paths, Path.descend? (.object data) (Path.segments path) = none) :
    sweep paths data = data := by
  induction paths with
  | nil => rfl
  | cons path rest ih =>
    show sweep rest ((Write.unregister path).after data) = data
    rw [Write.after_unregister_eq_self (hpaths path List.mem_cons_self) (h path List.mem_cons_self)]
    exact ih (fun p hp => hpaths p (List.mem_cons_of_mem _ hp))
      fun p hp => h p (List.mem_cons_of_mem _ hp)

end

/-! ## Items with something where their ids lead -/

variable {items : List Item} {before visible : Entries Item} {data : Object}
  {w : World Unit Tracker} {put : Writer Unit Tracker}

/-- Whether something lies where the ids of a node lead. -/
def isHeld (data : Object) (node : Node) : Bool :=
  (Path.descend? (.object data) (Path.segments node.path)).isSome

/-- How many items of a form have something where their ids lead. -/
def heldCount (items : List Item) (data : Object) : Nat :=
  (Item.nodes items).countP (isHeld data)

/-- A sweep of something leaves fewer items with something where their ids lead. -/
theorem heldCount_sweep_lt (hn : Item.WellNamed items) (hbefore : Listed items before)
    (hdata : (Value.object data).isDocument = true) {path : String}
    (hpath : path ∈ (moveBetween before visible).removed)
    (hheld : Path.descend? (.object data) (Path.segments path) ≠ none) :
    heldCount items (sweep (moveBetween before visible).removed data) < heldCount items data := by
  have hwhole : ∀ path ∈ (moveBetween before visible).removed, IsWhole path :=
    removed_isWhole hn hbefore
  obtain ⟨node, hnode, rfl⟩ := hbefore path (mem_removed_iff.mp hpath).1
  have hgone := descend?_sweep_of_mem hdata hwhole hpath
  refine countP_lt_countP (fun other _ h => ?_) hnode ?_ ?_
  · -- deletions bring nothing back
    by_contra hnone
    have hstill := descend?_sweep hdata (moveBetween before visible).removed
      (show Path.descend? (.object data) (Path.segments other.path) = none by
        simpa [isHeld] using hnone)
    rw [isHeld, hstill] at h
    cases h
  · rw [isHeld, Option.isSome_iff_ne_none]
    exact hheld
  · rw [isHeld, hgone]
    rfl

/-- Nothing lies where the ids of items lead that are not in the table. -/
def Bare (items : List Item) (visible : Entries Item) (data : Object) : Prop :=
  ∀ node ∈ Item.nodes items, node.path ∉ visible.keys →
    Path.descend? (.object data) (Path.segments node.path) = none

/-- After a sweep nothing lies where hidden items are. -/
theorem bare_sweep (hn : Item.WellNamed items) (hbefore : Listed items before)
    (hdata : (Value.object data).isDocument = true) (h : Bare items before data) :
    Bare items visible (sweep (moveBetween before visible).removed data) := by
  intro node hnode hhidden
  -- it went in this pass, or was hidden before
  by_cases hwas : node.path ∈ before.keys
  · exact descend?_sweep_of_mem hdata (removed_isWhole hn hbefore)
      (mem_removed_iff.mpr ⟨hwas, hhidden⟩)
  · exact descend?_sweep hdata _ (h node hnode hwas)

/-! ## Passes -/

/-- What holds between the passes of pruning: nothing lies where the items are that were found
    hidden. -/
structure Clearing (items : List Item) (w : World Unit Tracker) : Prop where
  /-- The tracker is alone, and registers nothing. -/
  lone : Lone items false w
  /-- It is making passes. -/
  refreshing : w.parts.refreshing = true
  /-- The data is a document. -/
  document : (Value.object w.store.data).isDocument = true
  /-- What is visible are items of the form. -/
  listed : Listed items w.parts.visible
  /-- Nothing lies where hidden items are. -/
  bare : Bare items w.parts.visible w.store.data

theorem Clearing.afterPass (hn : Item.WellNamed items) (h : Clearing items w) (dirty : Bool) :
    Clearing items (afterPass false (visibleNow items w) w dirty) where
  lone := h.lone.afterPass _ _
  refreshing := h.refreshing
  document := isDocument_sweep h.document _
  listed := listed_visibleNow items w
  bare := bare_sweep hn h.listed h.document h.bare

/-- The visible part is that of the data. -/
def IsCurrent (items : List Item) (w : World Unit Tracker) : Prop :=
  w.parts.visible = visibleNow items w

/-- A tracker whose visible part is current has nothing to write. -/
theorem IsCurrent.atRest (h : IsCurrent items w) :
    AtRest false w.parts.visible (visibleNow items w) w.store.data := by
  refine ⟨fun path hpath => ?_, nofun⟩
  obtain ⟨hwas, hgone⟩ := mem_removed_iff.mp hpath
  rw [← h] at hgone
  exact absurd hwas hgone

/-- What holds while so many more passes may follow: there are more of them than items to clear, or
    nothing is left to do. -/
def Due (items : List Item) (count : Nat) (w : World Unit Tracker) : Prop :=
  Clearing items w ∧ (heldCount items w.store.data < count ∨ IsCurrent items w)

/-- After a pass that clears no item the visible part is current. -/
theorem isCurrent_afterPass_of_bare (hn : Item.WellNamed items) (h : Clearing items w)
    (hnothing : ∀ path ∈ (moveBetween w.parts.visible (visibleNow items w)).removed,
      Path.descend? (.object w.store.data) (Path.segments path) = none) (dirty : Bool) :
    IsCurrent items (Tracker.afterPass false (visibleNow items w) w dirty) := by
  have hsame : sweep (moveBetween w.parts.visible (visibleNow items w)).removed w.store.data
      = w.store.data :=
    sweep_eq_self_of_bare (removed_isWhole hn h.listed) hnothing
  show visibleNow items w = Item.visibleTable items (.object (sweep _ w.store.data))
  rw [hsame]
  rfl

/-- One of the passes: either the visible part is current after it, or there is one item less to clear. -/
theorem Due.round (hi : Item.Regular items) (hput : HasRoom Tracker.react put) {count : Nat}
    (h : Due items (count + 1) w) :
    ∃ w', (Tracker.round put).run w = .ok () w' ∧
      if w'.parts.dirty then Due items count w' else Clearing items w' ∧ IsCurrent items w' := by
  obtain ⟨hclearing, hcost⟩ := h
  obtain ⟨dirty, hrun, hclean, hrest⟩ :=
    run_round hi.named hclearing.lone hclearing.refreshing hput hclearing.listed
  have hafter := hclearing.afterPass hi.named dirty
  refine ⟨_, hrun, ?_⟩
  show if dirty = true then _ else _
  cases dirty with
  | false =>
    -- nothing that a condition reads has changed
    rw [if_neg Bool.false_ne_true]
    exact ⟨hafter, (hclean rfl hi).symm⟩
  | true =>
    rw [if_pos rfl]
    refine ⟨hafter, ?_⟩
    rcases hcost with hcount | hcurrent
    · by_cases hnothing : ∀ path ∈ (moveBetween w.parts.visible (visibleNow items w)).removed,
          Path.descend? (.object w.store.data) (Path.segments path) = none
      · -- only names at the top were deleted at, in vain
        exact Or.inr (isCurrent_afterPass_of_bare hi.named hclearing hnothing true)
      · left
        simp only [not_forall] at hnothing
        obtain ⟨path, hpath, hheld⟩ := hnothing
        have hless := heldCount_sweep_lt hi.named hclearing.listed hclearing.document hpath hheld
        show heldCount items (sweep _ w.store.data) < count
        omega
    · -- with nothing to write the mark stays clear
      exact Bool.noConfusion (hrest hcurrent.atRest)

/-- When no more passes may follow nothing is left to do. -/
theorem Due.isCurrent (h : Due items 0 w) : Clearing items w ∧ IsCurrent items w :=
  ⟨h.1, h.2.resolve_left (Nat.not_lt_zero _)⟩

end Tracker

namespace Item

variable {items : List Item} {data : Object}

/-- **After pruning a document nothing lies where the ids of hidden items lead**, and pruning ends
    well. -/
theorem bare_prune (hi : Regular items) (hdata : (Value.object data).isDocument = true) :
    (∃ w, pruneRun.run (pruneWorld items data) = .ok () w ∧ w.store.data = prune items data) ∧
      (Value.object (prune items data)).isDocument = true ∧
      Tracker.Bare items (visibleTable items (.object (prune items data))) (prune items data) := by
  have hstart : (Tracker.start Part.whole (write Tracker.react) ()).Yields (pruneWorld items data)
      fun w => ∃ last, (Tracker.Clearing items last ∧ Tracker.IsCurrent items last) ∧
        w = Tracker.withRefreshing last false := by
    refine Tracker.yields_start_of fun w hw hidle hsame hvisible => ?_
    refine Tracker.yields_refresh_of hi.named hw hidle ?_
    have hlisted : Tracker.Listed items w.parts.visible :=
      hvisible ▸ Tracker.listed_byPath hi.named
    have hbare : Tracker.Bare items w.parts.visible w.store.data := by
      -- at first every item is taken as visible
      intro node hnode hhidden
      rw [hvisible, keys_byPath hi.named] at hhidden
      exact absurd (List.mem_map_of_mem hnode) hhidden
    have hclearing : Tracker.Clearing items (Tracker.withRefreshing w true) :=
      ⟨hw.withRefreshing true, rfl, hsame ▸ hdata, hlisted, hbare⟩
    have hcount : Tracker.heldCount items w.store.data < nodeCount items + 1 :=
      Nat.lt_succ_of_le List.countP_le_length
    exact Tracker.yields_passes_of (I := Tracker.Due items)
      (fun _ _ hdue => hdue.round hi (hasRoom_write _)) (fun _ hdue => hdue.isCurrent)
      ⟨hclearing, Or.inl hcount⟩
  obtain ⟨w, -, hrun, hsame, ⟨last, ⟨hclearing, hcurrent⟩, rfl⟩, hprune⟩ := run_pruneRun_of hstart
  refine ⟨⟨w, hrun, hsame⟩, ?_⟩
  have hlast : last.store.data = prune items data := hprune
  rw [← hlast]
  refine ⟨hclearing.document, ?_⟩
  have hvisible : last.parts.visible = visibleTable items (.object last.store.data) := hcurrent
  rw [← hvisible]
  exact hclearing.bare

end Item
end DynamicForms
