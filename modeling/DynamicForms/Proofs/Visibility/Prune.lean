import DynamicForms.Proofs.Visibility.Passes

/-!
# `DynamicForms.Proofs.Visibility.Prune` — pruning reaches a fixpoint

Visibility is not monotone: deleting a value can show an item again whose condition asks for a
difference. Still no pass of pruning is wasted. A pass that deletes something leaves fewer items with
a value, for deletions bring nothing back; and a pass that deletes nothing is the last. So one more
pass than there are items is enough, whatever the conditions.

What is hidden is judged by the data after the last pass, and by then every hidden item has lost its
value: it was hidden before the pass, and then it had none, or it went in this pass.

## Contents
- `Tracker.presentCount`: how many items have a value.
- `Item.prune_isFixpoint`.
-/

namespace DynamicForms

open Value (Object)
open Path (Sound IsWhole)

namespace Tracker

variable {items : List Item} {registers : Bool} {before visible : Entries Item}
  {data : Object}

/-- Whether there is a value at the path of a node. -/
def isPresent (data : Object) (node : Node) : Bool :=
  !(Path.read (.object data) node.path).isAbsent

/-- How many items of a form have a value. -/
def presentCount (items : List Item) (data : Object) : Nat :=
  (Item.nodes items).countP (isPresent data)

/-- A sweep of something leaves fewer items with a value. -/
theorem presentCount_sweep_lt (hi : Item.Regular items) (hbefore : Listed items before)
    (hdata : Sound data) {path : String} (hpath : path ∈ (moveBetween before visible).removed)
    (hpresent : (Path.read (.object data) path).isAbsent = false) :
    presentCount items (sweep (moveBetween before visible).removed data) < presentCount items data := by
  have hwhole : ∀ path ∈ (moveBetween before visible).removed, IsWhole path :=
    removed_isWhole hi.named hbefore
  obtain ⟨node, hnode, rfl⟩ := hbefore path (mem_removed_iff.mp hpath).1
  have habsent := isAbsent_sweep_of_mem hdata hwhole hpath
  refine countP_lt_countP (fun other hother h => ?_) hnode (by simp [isPresent, hpresent])
    (by simp [isPresent, habsent])
  -- deletions bring nothing back
  by_contra hgone
  have hsome := isAbsent_sweep hdata hwhole (hi.named.isWhole hother) (by simpa [isPresent] using hgone)
  simp [isPresent, hsome] at h

/-- What is kept from pass to pass: the data is the original data with values at some nodes deleted,
    what is hidden has no value, and every pass has cost a value. -/
structure Pruning (items : List Item) (original : Object) (j : Nat) (before : Entries Item)
    (data : Object) : Prop where
  /-- Only deletions have been made. -/
  deletes : ∃ deleted : List String, (∀ path ∈ deleted, ∃ node ∈ Item.nodes items, node.path = path) ∧
    data = deleted.foldl Path.delete original
  /-- What is hidden has no value. -/
  hidden : HiddenAbsent items before data
  /-- Every pass has cost a value. -/
  cost : presentCount items data + j ≤ Item.nodeCount items

theorem Pruning.deletes_sweep {original : Object} {j : Nat} (h : Pruning items original j before data)
    (hbefore : Listed items before) :
    ∃ deleted : List String, (∀ path ∈ deleted, ∃ node ∈ Item.nodes items, node.path = path) ∧
      sweep (moveBetween before visible).removed data = deleted.foldl Path.delete original := by
  obtain ⟨deleted, hdeleted, hdata⟩ := h.deletes
  obtain ⟨more, hsub, hsweep⟩ := exists_sweep_eq_deletes (moveBetween before visible).removed data
  refine ⟨deleted ++ more, fun path hpath => ?_, by rw [hsweep, hdata, List.foldl_append]⟩
  rcases List.mem_append.mp hpath with hpath | hpath
  · exact hdeleted path hpath
  · exact hbefore path (mem_removed_iff.mp (hsub.subset hpath)).1

/-- A pass has something to write exactly if something that goes has a value. -/
theorem exists_present_of_not_atRest (h : ¬ AtRest false before visible data) :
    ∃ path ∈ (moveBetween before visible).removed,
      (Path.read (.object data) path).isAbsent = false := by
  by_contra hnone
  refine h ⟨fun path hpath => ?_, nofun⟩
  by_contra hpresent
  exact hnone ⟨path, hpath, by simpa using hpresent⟩

theorem progress_pruning (hi : Item.Regular items) (original : Object) :
    Progress items false (Pruning items original) where
  step {j before data} hbefore hdata h hbusy := by
    obtain ⟨path, hpath, hpresent⟩ := exists_present_of_not_atRest hbusy
    have hcost := presentCount_sweep_lt hi hbefore hdata hpath hpresent
    have hbudget := h.cost
    refine ⟨h.deletes_sweep hbefore, hiddenAbsent_sweep hi hbefore hdata h.hidden, ?_⟩
    show presentCount items (sweep _ data) + (j + 1) ≤ Item.nodeCount items
    omega
  last {before data} hbefore hdata h := by
    -- as many passes as there are items have cost all the values there can be
    by_contra hbusy
    obtain ⟨path, hpath, hpresent⟩ := exists_present_of_not_atRest hbusy
    have hcost := presentCount_sweep_lt hi hbefore hdata hpath hpresent
    have hbudget := h.cost
    omega

theorem pruning_start (hi : Item.Regular items) (data : Object) :
    Pruning items data 0 (Item.byPath items) data where
  deletes := ⟨[], nofun, rfl⟩
  hidden node hnode hhidden := by
    rw [Item.keys_byPath hi.named] at hhidden
    exact absurd (List.mem_map_of_mem hnode) hhidden
  cost := by
    rw [Nat.add_zero, presentCount, Item.nodeCount]
    exact List.countP_le_length

/-- What is kept once nothing is left to delete: everything. -/
theorem progress_pruned (original : Object)
    (hhidden : HiddenAbsent items (Item.visibleTable items (.object original)) original) :
    Progress items false fun _ _ data => data = original := by
  have hrest : ∀ before, Listed items before →
      AtRest false before (Item.visibleTable items (.object original)) original := by
    refine fun before hbefore => ⟨fun path hpath => ?_, nofun⟩
    obtain ⟨hwas, hgone⟩ := mem_removed_iff.mp hpath
    obtain ⟨node, hnode, rfl⟩ := hbefore path hwas
    exact hhidden node hnode hgone
  constructor
  · rintro j before data hbefore - rfl hbusy
    exact absurd (hrest before hbefore) hbusy
  · rintro before data hbefore - rfl
    exact hrest before hbefore

theorem run_close (w : World Unit Tracker) :
    ∃ w', (close Part.whole : Run Unit Tracker Unit).run w = .ok () w' ∧
      w'.store.data = w.store.data := by
  simp only [close, EStateM.run_bind, Part.run_read, Part.whole_get]
  cases w.parts.ticket with
  | none => exact ⟨w, rfl, rfl⟩
  | some ticket => exact ⟨_, rfl, rfl⟩

end Tracker

namespace Item

variable {items : List Item} {data : Object}

/-- Pruning ends well if starting does, and leaves what that has left. -/
theorem run_pruneRun_of {Q : World Unit Tracker → Prop}
    (h : (Tracker.start Part.whole (write Tracker.react) ()).Yields (pruneWorld items data) Q) :
    ∃ w rest, pruneRun.run (pruneWorld items data) = .ok () w ∧ w.store.data = prune items data ∧
      Q rest ∧ rest.store.data = prune items data := by
  obtain ⟨⟨⟩, rest, hstart, hrest⟩ := h
  obtain ⟨w, hclose, hsame⟩ := Tracker.run_close rest
  have hrun : pruneRun.run (pruneWorld items data) = .ok () w := by
    rw [pruneRun, EStateM.run_bind, hstart]
    exact hclose
  have hprune : prune items data = w.store.data := by rw [prune, hrun]
  exact ⟨w, rest, hrun, hprune.symm, hrest, by rw [hprune, hsame]⟩

theorem run_pruneRun {P : Nat → Entries Item → Object → Prop} (hi : Regular items)
    (hP : Tracker.Progress items false P) (hdata : Sound data) (h : P 0 (byPath items) data) :
    ∃ w rest, pruneRun.run (pruneWorld items data) = .ok () w ∧ w.store.data = prune items data ∧
      Tracker.Rests items false P rest ∧ rest.store.data = prune items data := by
  have hstart : (Tracker.start Part.whole (write Tracker.react) ()).Yields (pruneWorld items data)
      fun rest => Tracker.Rests items false P rest ∧ rest.parts.refreshing = false :=
    Tracker.yields_start hi hP hdata h
  obtain ⟨w, rest, hrun, hsame, ⟨hrests, -⟩, hprune⟩ := run_pruneRun_of hstart
  exact ⟨w, rest, hrun, hsame, hrests, hprune⟩

/-- After pruning nothing that is hidden has a value. -/
theorem hiddenAbsent_prune (hi : Regular items) (hdata : Sound data) :
    Sound (prune items data) ∧ Tracker.HiddenAbsent items
      (visibleTable items (.object (prune items data))) (prune items data) := by
  obtain ⟨w, rest, -, -, hrests, hprune⟩ :=
    run_pruneRun hi (Tracker.progress_pruning hi data) hdata (Tracker.pruning_start hi data)
  obtain ⟨j, before, swept, hbefore, hswept, hP, hvisible, hlast⟩ := hrests.last
  rw [← hprune]
  refine ⟨hrests.sound, ?_⟩
  rw [← hrests.visible_eq, hvisible, hlast]
  exact Tracker.hiddenAbsent_sweep hi hbefore hswept hP.hidden

/-- Pruning leaves alone what has no value at a hidden item. -/
theorem prune_eq_self (hi : Regular items) (hdata : Sound data)
    (hhidden : Tracker.HiddenAbsent items (visibleTable items (.object data)) data) :
    prune items data = data := by
  -- the passes keep the data
  obtain ⟨w, rest, -, -, hrests, hprune⟩ :=
    run_pruneRun hi (Tracker.progress_pruned _ hhidden) hdata rfl
  obtain ⟨j, before, swept, hbefore, -, rfl, -, hlast⟩ := hrests.last
  rw [← hprune, hlast]
  refine Tracker.sweep_eq_self fun path hpath => ?_
  obtain ⟨hwas, hgone⟩ := Tracker.mem_removed_iff.mp hpath
  obtain ⟨node, hnode, rfl⟩ := hbefore path hwas
  exact hhidden node hnode hgone

/-- Pruning what has been pruned changes nothing. -/
theorem prune_prune (hi : Regular items) (hdata : Sound data) :
    prune items (prune items data) = prune items data := by
  obtain ⟨hsound, hhidden⟩ := hiddenAbsent_prune hi hdata
  exact prune_eq_self hi hsound hhidden

/-- **Pruning reaches a fixpoint**, whatever the conditions of the form. It ends well; no item that
    is hidden by the data it leaves has a value there; it has deleted values of items and changed
    nothing else; and pruning again changes nothing. -/
theorem prune_isFixpoint (hi : Regular items) (hdata : Sound data) :
    (∃ w, pruneRun.run (pruneWorld items data) = .ok () w ∧ w.store.data = prune items data) ∧
    (∀ node ∈ nodes items, node.path ∉ visiblePaths items (.object (prune items data)) →
      Path.read (.object (prune items data)) node.path = .absent) ∧
    (∃ deleted : List String, (∀ path ∈ deleted, ∃ node ∈ nodes items, node.path = path) ∧
      prune items data = deleted.foldl Path.delete data) ∧
    prune items (prune items data) = prune items data := by
  obtain ⟨w, rest, hrun, hsame, hrests, hprune⟩ :=
    run_pruneRun hi (Tracker.progress_pruning hi data) hdata (Tracker.pruning_start hi data)
  obtain ⟨j, before, swept, hbefore, hswept, hP, -, hlast⟩ := hrests.last
  refine ⟨⟨w, hrun, hsame⟩, fun node hnode hgone => ?_, ?_, prune_prune hi hdata⟩
  · exact (Value.isAbsent_iff _).mp ((hiddenAbsent_prune hi hdata).2 node hnode hgone)
  · rw [← hprune, hlast]
    exact hP.deletes_sweep hbefore

theorem prune_reasonForm :
    Regular reasonForm ∧ Sound [("choice", .text "no"), ("extra", .text "given")] ∧
    ∃ deleted : List String, (∀ path ∈ deleted, ∃ node ∈ nodes reasonForm, node.path = path) ∧
      prune reasonForm [("choice", .text "no"), ("extra", .text "given")]
        = deleted.foldl Path.delete [("choice", .text "no"), ("extra", .text "given")] := by
  have hi : Regular reasonForm := regular_reasonForm
  have hdata : Sound [("choice", .text "no"), ("extra", .text "given")] := by decide +kernel
  exact ⟨hi, hdata, (prune_isFixpoint hi hdata).2.2.1⟩

end Item
end DynamicForms
