import DynamicForms.Proofs.Path.Document
import DynamicForms.Proofs.Visibility.Dependency
import DynamicForms.Proofs.Visibility.Pruned

/-!
# `DynamicForms.Proofs.Visibility.Registered` — data that a tracker would leave as it is

A tracker that registers fields leaves data in which nothing lies where hidden items are and visible fields
have a value. If it starts anew with such data, it takes every item as visible at first, and its first pass
removes what is hidden and registers what is visible: there is nothing to remove and nothing to register.
So it leaves the data as it is, and also data that says the same.

## Contents
- `serialisable_passed`, `keptByPasses_serialisable`.
- `bare_passed`, `bare_after_set`: nothing lies where hidden items are.
- `Tracker.Complete`: nothing to remove and nothing to register; `Complete.of_sameDocument`.
- `Tracker.Registered`: what holds while only visible fields are set; `yields_refresh_registered`,
  `Registered.set`.
- `yields_refresh_complete`.
-/

namespace DynamicForms

open Json (Serialisable)
open Value (Object SameDocument)
open Path (Apart segments descend?)

theorem Field.serialisable_initialValue (f : Field) : Serialisable f.initialValue := by
  unfold Field.initialValue
  cases f.default with
  | some d =>
    cases d with
    | bool b => exact .bool b
    | text s => exact .text s
    | texts items => exact .list (List.forall_mem_map.mpr fun s _ => .text s)
  | none =>
    cases f.kind with
    | checkbox => exact .bool false
    | select | radio => exact .null
    | _ => exact .text ""

namespace Write

variable {data : Object} {path : String} {way : List String}

theorem descend?_after_set_of_apart (hapart : Apart (segments path) way) (data : Object) (v : Value) :
    descend? (.object ((set path v).after data)) way = descend? (.object data) way := by
  rw [after_set hapart.ne_nil.1]
  split
  · rfl
  · exact Path.descend?_place_of_apart hapart data v

end Write

namespace Tracker

variable {items : List Item} {before visible : Entries Item} {data : Object}

/-! ## Values with a text -/

theorem serialisable_fill (hdata : Serialisable (.object data)) :
    Serialisable (.object (fill visible data)) :=
  fill_keeps (P := fun data => Serialisable (.object data))
    (fun _ f _ _ _ h => Write.serialisable_after f.serialisable_initialValue h) hdata

theorem serialisable_sweep {paths : List String} (hdata : Serialisable (.object data)) :
    Serialisable (.object (sweep paths data)) :=
  sweep_keeps (P := fun data => Serialisable (.object data))
    (fun _ _ _ h => Write.serialisable_after trivial h) hdata

/-- A pass leaves data that has a text. -/
theorem serialisable_passed (hdata : Serialisable (.object data)) :
    Serialisable (.object (passed true before visible data)) :=
  serialisable_fill (serialisable_sweep hdata)

theorem keptByPasses_serialisable (items : List Item) :
    KeptByPasses (fun data => Serialisable (.object data)) items true :=
  fun _ hdata => serialisable_passed hdata

/-! ## Nothing where hidden items are -/

/-- At first every item counts as visible. -/
theorem bare_byPath (hn : Item.WellNamed items) (data : Object) :
    Bare items (Item.byPath items) data := by
  intro node hnode hgone
  rw [Item.keys_byPath hn] at hgone
  exact absurd (List.mem_map_of_mem hnode) hgone

theorem descend?_fill_of_apart {way : List String}
    (hapart : ∀ p f, (p, Item.field f) ∈ visible → Apart (segments p) way) (data : Object) :
    descend? (.object (fill visible data)) way = descend? (.object data) way :=
  fill_keeps (P := fun after => descend? (.object after) way = descend? (.object data) way)
    (fun path f hmem after _ h =>
      (Write.descend?_after_set_of_apart (hapart path f hmem) after _).trans h) rfl

/-- After a pass nothing lies where hidden items are. -/
theorem bare_passed (hi : Item.Regular items) (hbefore : Listed items before)
    (hdata : (Value.object data).isDocument = true) (h : Bare items before data) :
    Bare items (Item.visibleTable items (.object data))
      (passed true before (Item.visibleTable items (.object data)) data) := by
  intro node hnode hgone
  refine (descend?_fill_of_apart (fun p f hp => ?_) _).trans
    (bare_sweep hi.named hbefore hdata h node hnode hgone)
  obtain ⟨u, hu, rfl, huf⟩ := Item.exists_node_of_mem_visibleTable hp
  have hfield : u.item.isField = true := by rw [huf]; rfl
  exact apart_of_hidden_of_visible hi.named hnode hu hfield hgone (Entries.mem_keys_of_mem hp)

/-- Setting a visible field puts nothing where hidden items are. -/
theorem bare_after_set (hi : Item.Regular items) {u : Node} (hu : u ∈ Item.nodes items)
    (hfield : u.item.isField = true)
    (hshown : u.path ∈ (Item.visibleTable items (.object data)).keys) (v : Value)
    (h : Bare items (Item.visibleTable items (.object data)) data) :
    Bare items (Item.visibleTable items (.object data)) ((Write.set u.path v).after data) := by
  intro node hnode hgone
  rw [Write.descend?_after_set_of_apart
    (apart_of_hidden_of_visible hi.named hnode hu hfield hgone hshown)]
  exact h node hnode hgone

/-! ## Complete data -/

/-- Nothing lies where hidden items are, and visible fields have a value. -/
structure Complete (items : List Item) (data : Object) : Prop where
  /-- Nothing lies where hidden items are. -/
  hidden : Bare items (Item.visibleTable items (.object data)) data
  /-- Visible fields have a value. -/
  filled : ∀ path f, (path, Item.field f) ∈ Item.visibleTable items (.object data) →
    (Path.read (.object data) path).isAbsent = false

theorem fill_eq_self (h : ∀ path f, (path, Item.field f) ∈ visible →
    (Path.read (.object data) path).isAbsent = false) : fill visible data = data := by
  refine fill_keeps (P := fun after => after = data) (fun path f hmem after habsent heq => ?_) rfl
  rw [heq, h path f hmem] at habsent
  cases habsent

/-- A pass leaves complete data as it is, whatever was visible before. -/
theorem Complete.passed_eq (h : Complete items data) (hi : Item.Regular items)
    (hbefore : Listed items before) :
    passed true before (Item.visibleTable items (.object data)) data = data := by
  have hswept : sweep (moveBetween before (Item.visibleTable items (.object data))).removed data = data := by
    refine sweep_eq_self_of_bare (removed_isWhole hi.named hbefore) fun path hpath => ?_
    obtain ⟨hwas, hgone⟩ := mem_removed_iff.mp hpath
    obtain ⟨node, hnode, rfl⟩ := hbefore path hwas
    exact h.hidden node hnode hgone
  show fill _ (sweep _ data) = data
  rw [hswept]
  exact fill_eq_self h.filled

/-- Data that says the same is complete as well. -/
theorem Complete.of_sameDocument {data' : Object} (h : Complete items data) (hi : Item.WellNamed items)
    (hdata : Serialisable (.object data)) (hdata' : Serialisable (.object data'))
    (hsame : SameDocument (.object data) (.object data')) : Complete items data' := by
  have hvisible := Item.visibleTable_of_sameDocument hi hdata hdata' hsame
  refine ⟨fun node hnode hgone => ?_, fun path f hentry => ?_⟩
  · rw [← Path.descend?_eq_none_iff_of_sameDocument hdata hdata' hsame]
    exact h.hidden node hnode (hvisible ▸ hgone)
  · rw [← (Path.sameDocument_read hdata hdata' hsame path).isAbsent_eq]
    exact h.filled path f (hvisible ▸ hentry)

/-! ## While visible fields are set -/

variable {w : World Unit Tracker}

/-- A tracker between the steps of a run that sets visible fields: what it takes as visible is, and the
data is complete and has a text. -/
structure Registered (items : List Item) (w : World Unit Tracker) : Prop where
  /-- The tracker is alone. -/
  lone : Lone items true w
  /-- No passes are being made. -/
  idle : w.parts.refreshing = false
  /-- The visible part is that of the data. -/
  visible_eq : w.parts.visible = Item.visibleTable items (.object w.store.data)
  /-- The data is complete. -/
  complete : Complete items w.store.data
  /-- The data has a text. -/
  data : Serialisable (.object w.store.data)

/-- A refresh on an acyclic form leaves the data complete. -/
theorem yields_refresh_registered (hi : Item.Regular items) (hacyclic : Item.Acyclic items)
    {put : Writer Unit Tracker} (hput : HasRoom Tracker.react put) (hw : Lone items true w)
    (hidle : w.parts.refreshing = false) (hdata : Serialisable (.object w.store.data))
    (hlisted : Listed items w.parts.visible) (hbare : Bare items w.parts.visible w.store.data) :
    (Tracker.refresh Part.whole put).Yields w (Registered items) := by
  have hprogress := ((progressOn_settled hi hacyclic).of_imp
    (T := fun data => Serialisable (.object data)) fun _ => Path.clear_of_serialisable).beside
    (K := Bare items) fun hbefore hdata h => bare_passed hi hbefore hdata.isDocument h
  refine (yields_refresh_on hi (keptByPasses_serialisable items) hprogress hput hw hidle hdata hlisted
    ⟨Settled.zero items _ _, hbare⟩).mono fun w' h => ?_
  obtain ⟨j, before, last, hbefore, hlast, hP, hvisible, heq⟩ := h.1.last
  refine ⟨h.1.lone, h.2, h.1.visible_eq, ⟨?_, fun path f hentry => ?_⟩, h.1.sound⟩
  · rw [← h.1.visible_eq, hvisible, heq]
    exact bare_passed hi hbefore hlast.isDocument hP.2
  · rw [← h.1.visible_eq, hvisible] at hentry
    rw [heq]
    exact isAbsent_fill_of_mem (Path.clear_of_serialisable (serialisable_sweep hlast))
      ((listed_visibleTable items _).isWhole hi.named) (unnested_visibleTable hi.named _) hentry

/-- After setting a field to a value, what had a value has one. -/
theorem isAbsent_after_set_field (hi : Item.Regular items) {u x : Node} (hu : u ∈ Item.nodes items)
    (hfield : u.item.isField = true) (hx : x ∈ Item.nodes items) {v : Value} (hv : Serialisable v)
    (hpresent : (Path.read (.object data) x.path).isAbsent = false) :
    (Path.read (.object ((Write.set u.path v).after data)) x.path).isAbsent = false := by
  have hwhole := hi.named.isWhole hu
  by_cases hpre : segments u.path <+: segments x.path
  · obtain rfl : x = u := hi.named.eq_of_prefix_of_isField hu hx hfield hpre
    rw [Write.after_set (Path.segments_ne_nil hwhole)]
    split
    · exact hpresent
    · rcases Path.read_place_self_cases hwhole data v with hread | hread
      · rw [hread]
        exact Value.isAbsent_of_isDocument hv.isDocument
      · rw [hread]
        exact hpresent
  · exact Write.isAbsent_after_set hwhole (hi.named.isWhole hx) hpre hpresent v

/-- **Setting a visible field leaves the data complete.** -/
theorem Registered.set (hi : Item.Regular items) (hacyclic : Item.Acyclic items) (hw : Registered items w)
    {u : Node} (hu : u ∈ Item.nodes items) (hfield : u.item.isField = true)
    (hshown : u.path ∈ w.parts.visible.keys) {v : Value} (hv : Serialisable v) :
    (write Tracker.react (.set u.path v)).Yields w (Registered items) := by
  have hvisible := hw.visible_eq
  have hbare := bare_after_set hi hu hfield (hvisible ▸ hshown) v hw.complete.hidden
  have hdata : Serialisable (.object ((Write.set u.path v).after w.store.data)) :=
    Write.serialisable_after hv hw.data
  refine yields_write_of hi hw.lone (isWhole_set (hi.named.isWhole hu) v) (fun htable => ?_)
    fun put hput => ?_
  · -- the tracker is not told: what is visible stays so, and what had a value has one
    refine ⟨hw.lone.withData _, hw.idle, hvisible.trans htable.symm, ⟨?_, fun path f hentry => ?_⟩, hdata⟩
    · show Bare items (Item.visibleTable items
        (.object ((Write.set u.path v).after w.store.data))) _
      rw [htable]
      exact hbare
    · have hentry' : (path, Item.field f) ∈ Item.visibleTable items (.object w.store.data) :=
        htable ▸ hentry
      obtain ⟨x, hx, rfl, -⟩ := Item.exists_node_of_mem_visibleTable hentry'
      exact isAbsent_after_set_field hi hu hfield hx hv (hw.complete.filled x.path f hentry')
  · refine yields_refresh_registered hi hacyclic hput (hw.lone.withData _) hw.idle hdata ?_ ?_
    · show Listed items w.parts.visible
      rw [hvisible]
      exact listed_visibleTable items _
    · show Bare items w.parts.visible _
      rw [hvisible]
      exact hbare

/-! ## Starting anew -/

/-- **A tracker leaves complete data as it is**, whatever it took as visible. -/
theorem yields_refresh_complete (hi : Item.Regular items) (hacyclic : Item.Acyclic items)
    {put : Writer Unit Tracker} (hput : HasRoom Tracker.react put) (hw : Lone items true w)
    (hidle : w.parts.refreshing = false) (hdata : Serialisable (.object w.store.data))
    (hcomplete : Complete items w.store.data) (hlisted : Listed items w.parts.visible) :
    (Tracker.refresh Part.whole put).Yields w fun w' => w'.store.data = w.store.data ∧
      w'.parts.visible = Item.visibleTable items (.object w.store.data) := by
  have hprogress := ((progressOn_settled hi hacyclic).of_imp
    (T := fun data => Serialisable (.object data)) fun _ => Path.clear_of_serialisable).beside
    (K := fun _ data => data = w.store.data) fun hbefore _ hsame => by
      subst hsame
      exact hcomplete.passed_eq hi hbefore
  refine (yields_refresh_on hi (keptByPasses_serialisable items) hprogress hput hw hidle hdata hlisted
    ⟨Settled.zero items _ _, rfl⟩).mono fun w' h => ?_
  obtain ⟨j, before, last, hbefore, -, ⟨-, rfl⟩, hvisible, heq⟩ := h.1.last
  exact ⟨heq.trans (hcomplete.passed_eq hi hbefore), hvisible⟩

end Tracker
end DynamicForms
