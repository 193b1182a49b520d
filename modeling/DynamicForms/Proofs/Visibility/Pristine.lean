import DynamicForms.Proofs.Visibility.Registered

/-!
# `DynamicForms.Proofs.Visibility.Pristine` — data that nobody has touched

What a tracker writes by itself is an initial value, and it writes it at the field that it belongs to. So as
long as nobody else writes to a form, a field holds its initial value or nothing at all. That is so whatever
the conditions of the form are: passes that go round in circles until there are no more of them left take
values away and put the same ones back. Pruning takes away and puts nothing back.

## Contents
- `Tracker.Pristine`, `pristine_nil`.
- **One write.** `Pristine.unregister`, `Pristine.set`.
- **Passes.** `keptByPasses_pristine`, `yields_refresh_pristine`.
- `Item.pristine_prune`.
-/

namespace DynamicForms

open Json (Serialisable)
open Value (Object)
open Path (segments descend?)

/-- Taking something away leaves nothing or what was there, but above the place. -/
theorem Write.descend?_after_unregister_cases {data : Object} {path : String} {way : List String}
    (hdata : (Value.object data).hasDistinctNames = true) (hway : ¬ way <+: segments path) :
    descend? (.object ((unregister path).after data)) way = none ∨
      descend? (.object ((unregister path).after data)) way = descend? (.object data) way := by
  rw [after_unregister]
  split
  · exact Or.inr rfl
  · rcases Path.delete_cases data path with ⟨-, hsame⟩ | hremove
    · rw [hsame]
      exact Or.inr rfl
    · by_cases hbelow : segments path <+: way
      · obtain ⟨more, rfl⟩ := hbelow
        exact Or.inl (Path.descend?_remove_of_below hdata hremove more)
      · exact Or.inr (Path.descend?_remove_of_apart ⟨hbelow, hway⟩ hremove)

namespace Tracker

variable {items : List Item} {data : Object} {u : Node}

/-- Data in which every field holds its initial value or nothing, and which has a text. -/
structure Pristine (items : List Item) (data : Object) : Prop where
  /-- It has a text. -/
  hasText : Serialisable (.object data)
  /-- What a field holds is its initial value. -/
  initial : ∀ node ∈ Item.nodes items, ∀ f, node.item = .field f →
    ∀ v, descend? (.object data) (segments node.path) = some v → v = f.initialValue

/-- Where nothing is, nothing has been touched. -/
theorem pristine_nil (hn : Item.WellNamed items) : Pristine items [] where
  hasText := .object List.nodup_nil fun _ hentry => absurd hentry List.not_mem_nil
  initial node hnode f _ v hv := by
    obtain ⟨name, rest, hsegments⟩ :=
      List.exists_cons_of_ne_nil (Path.segments_ne_nil (hn.isWhole hnode))
    rw [hsegments, Path.descend?_cons] at hv
    cases hv

/-! ## One write -/

/-- What is taken away at an item leaves what a field holds, or takes it with it. -/
theorem Pristine.unregister (h : Pristine items data) (hn : Item.WellNamed items)
    (hu : u ∈ Item.nodes items) : Pristine items ((Write.unregister u.path).after data) where
  hasText := Write.serialisable_after trivial h.hasText
  initial node hnode f hf v hv := by
    have hfield : node.item.isField = true := by rw [hf]; rfl
    by_cases hpre : segments node.path <+: segments u.path
    · -- nothing stands below a field, so it is the field itself
      obtain rfl : u = node := hn.eq_of_prefix_of_isField hnode hu hfield hpre
      rw [Write.descend?_after_unregister_self h.hasText.isDocument (hn.isWhole hu)] at hv
      cases hv
    · rcases Write.descend?_after_unregister_cases
        (Value.hasDistinctNames_of_isDocument _ h.hasText.isDocument) hpre with hgone | hsame
      · rw [hgone] at hv
        cases hv
      · exact h.initial node hnode f hf v (hsame ▸ hv)

/-- An initial value at its field touches no other one. -/
theorem Pristine.set (h : Pristine items data) (hn : Item.WellNamed items) (hu : u ∈ Item.nodes items)
    {g : Field} (hg : u.item = .field g) :
    Pristine items ((Write.set u.path g.initialValue).after data) where
  hasText := Write.serialisable_after g.serialisable_initialValue h.hasText
  initial node hnode f hf v hv := by
    have hsegments := Path.segments_ne_nil (hn.isWhole hu)
    have hfield : node.item.isField = true := by rw [hf]; rfl
    have hfieldU : u.item.isField = true := by rw [hg]; rfl
    by_cases hsame : node = u
    · subst hsame
      obtain rfl : f = g := Item.field.inj (hf.symm.trans hg)
      rw [Write.after_set hsegments] at hv
      split at hv
      · exact h.initial node hnode f hf v hv
      · rw [Path.descend?_place data _ hsegments] at hv
        exact (Option.some.inj hv).symm
    · have hapart : Path.Apart (segments u.path) (segments node.path) :=
        ⟨fun hpre => hsame (hn.eq_of_prefix_of_isField hu hnode hfieldU hpre),
          fun hpre => hsame (hn.eq_of_prefix_of_isField hnode hu hfield hpre).symm⟩
      rw [Write.descend?_after_set_of_apart hapart] at hv
      exact h.initial node hnode f hf v hv

/-! ## Passes -/

theorem Pristine.sweep (h : Pristine items data) (hn : Item.WellNamed items) {paths : List String}
    (hpaths : ∀ path ∈ paths, ∃ node ∈ Item.nodes items, node.path = path) :
    Pristine items (sweep paths data) := by
  refine sweep_keeps (fun path hpath data h => ?_) h
  obtain ⟨node, hnode, rfl⟩ := hpaths path hpath
  exact h.unregister hn hnode

theorem Pristine.fill (h : Pristine items data) (hn : Item.WellNamed items) {visible : Entries Item}
    (hvisible : ∀ path f, (path, Item.field f) ∈ visible →
      ∃ node ∈ Item.nodes items, node.path = path ∧ node.item = .field f) :
    Pristine items (fill visible data) := by
  refine fill_keeps (fun path f hmem data _ h => ?_) h
  obtain ⟨node, hnode, rfl, hf⟩ := hvisible path f hmem
  exact h.set hn hnode hf

/-- **Passes leave data as nobody has touched it.** -/
theorem keptByPasses_pristine (hn : Item.WellNamed items) (registers : Bool) :
    KeptByPasses (Pristine items) items registers := by
  intro before data hbefore h
  have hswept : Pristine items
      (sweep (moveBetween before (Item.visibleTable items (.object data))).removed data) :=
    h.sweep hn fun path hpath => hbefore path (mem_removed_iff.mp hpath).1
  cases registers with
  | false => exact hswept
  | true =>
    refine hswept.fill hn fun path f hmem => ?_
    obtain ⟨node, hnode, hpath, hf⟩ := Item.exists_node_of_mem_visibleTable hmem
    exact ⟨node, hnode, hpath, hf⟩

/-- So does the refresh with which a tracker starts. -/
theorem yields_refresh_pristine (hn : Item.WellNamed items) {registers : Bool}
    {w : World Unit Tracker} (hw : Lone items registers w) (hidle : w.parts.refreshing = false)
    (hvisible : w.parts.visible = Item.byPath items) (hdata : Pristine items w.store.data) :
    (refresh Part.whole (write Tracker.react)).Yields w fun w' => Pristine items w'.store.data :=
  yields_refresh_keeping hn (keptByPasses_pristine hn registers) (hasRoom_write _) hw hidle
    (hvisible ▸ listed_byPath hn) hdata

end Tracker

/-- **Pruning leaves data as nobody has touched it.** -/
theorem Item.pristine_prune {items : List Item} (hn : Item.WellNamed items) {data : Object}
    (h : Tracker.Pristine items data) : Tracker.Pristine items (Item.prune items data) := by
  have hstart : (Tracker.start Part.whole (write Tracker.react) ()).Yields (Item.pruneWorld items data)
      fun w => Tracker.Pristine items w.store.data :=
    Tracker.yields_start_of fun w hw hidle hsame hvisible =>
      Tracker.yields_refresh_pristine hn hw hidle hvisible (hsame ▸ h)
  obtain ⟨-, last, -, -, hlast, hprune⟩ := Item.run_pruneRun_of hstart
  rwa [← hprune]

end DynamicForms
