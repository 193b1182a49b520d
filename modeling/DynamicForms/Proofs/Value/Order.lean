import DynamicForms.Json.Writer
import DynamicForms.Proofs.Value.Document
import Mathlib.Data.List.Sort
import Mathlib.Data.String.Basic

/-!
# `DynamicForms.Proofs.Value.Order` — values up to the order of names

An object is a table, and the order of its names is no part of what it says. Two values are the same but
for that order exactly if they are equal once all names are sorted. For objects with distinct names this
is so exactly if both have the same names, with values under each that are the same but for the order.

## Contents
- **Sorting.** `insertByName_perm`, `sortNamesFields_perm`, `pairwise_sortNamesFields`.
- `get?_sortNamesFields`, `sortNamesFields_eq_iff`.
- `Value.Reorders`: the same but for the order of names; `reorders_object_iff`.
-/

namespace DynamicForms

open Value (Object)

/-! ## Tables in another order -/

namespace Entries

variable {α : Type} {table more : Entries α}

theorem get?_eq_some_iff (hnodup : (keys table).Nodup) {name : String} {v : α} :
    get? table name = some v ↔ (name, v) ∈ table :=
  ⟨mem_of_get?, get?_of_mem hnodup⟩

/-- In a table with distinct names the order does not matter for what is found. -/
theorem get?_of_perm (hperm : table.Perm more) (hnodup : (keys table).Nodup) (name : String) :
    get? table name = get? more name := by
  have hmore : (keys more).Nodup := (hperm.map Prod.fst).nodup_iff.mp hnodup
  refine Option.ext fun v => ?_
  rw [get?_eq_some_iff hnodup, get?_eq_some_iff hmore]
  exact hperm.mem_iff

/-- Tables with distinct names in which the same is found hold the same entries. -/
theorem perm_of_get? (hnodup : (keys table).Nodup) (hmore : (keys more).Nodup)
    (h : ∀ name, get? table name = get? more name) : table.Perm more := by
  refine (List.perm_ext_iff_of_nodup hnodup.of_map hmore.of_map).mpr fun entry => ?_
  obtain ⟨name, v⟩ := entry
  rw [← get?_eq_some_iff hnodup, ← get?_eq_some_iff hmore, h name]

theorem get?_map (table : Entries α) {β : Type} (f : α → β) (name : String) :
    get? (table.map fun entry => (entry.1, f entry.2)) name = (get? table name).map f := by
  induction table with
  | nil => rfl
  | cons entry rest ih =>
    obtain ⟨other, v⟩ := entry
    by_cases hname : other = name
    · simp [get?, hname]
    · simpa [get?, hname] using ih

end Entries

/-! ## Sorting -/

namespace Json

variable {fields others : Object}

theorem insertByName_perm (entry : String × Value) (fields : Object) :
    (insertByName entry fields).Perm (entry :: fields) := by
  induction fields with
  | nil => exact List.Perm.refl _
  | cons other rest ih =>
    rw [insertByName]
    split
    · exact List.Perm.refl _
    · exact (ih.cons other).trans (List.Perm.swap entry other rest)

theorem sortNamesFields_perm (fields : Object) :
    (sortNamesFields fields).Perm (fields.map fun entry => (entry.1, sortNames entry.2)) := by
  induction fields with
  | nil => exact List.Perm.refl _
  | cons entry rest ih => exact (insertByName_perm _ _).trans (ih.cons _)

theorem keys_sortNamesFields_perm (fields : Object) :
    (Entries.keys (sortNamesFields fields)).Perm (Entries.keys fields) := by
  have h := (sortNamesFields_perm fields).map Prod.fst
  rwa [List.map_map] at h

theorem nodup_sortNamesFields (h : (Entries.keys fields).Nodup) :
    (Entries.keys (sortNamesFields fields)).Nodup :=
  (keys_sortNamesFields_perm fields).nodup_iff.mpr h

/-- An entry is put where its name belongs. -/
theorem pairwise_insertByName {entry : String × Value}
    (h : fields.Pairwise fun a b => a.1 ≤ b.1) :
    (insertByName entry fields).Pairwise fun a b => a.1 ≤ b.1 := by
  induction fields with
  | nil => exact List.pairwise_singleton _ _
  | cons other rest ih =>
    obtain ⟨hother, hrest⟩ := List.pairwise_cons.mp h
    rw [insertByName]
    split
    · next hlt =>
      refine List.pairwise_cons.mpr ⟨fun e he => ?_, h⟩
      rcases List.mem_cons.mp he with rfl | he
      · exact hlt.le
      · exact hlt.le.trans (hother e he)
    · next hge =>
      refine List.pairwise_cons.mpr ⟨fun e he => ?_, ih hrest⟩
      rcases List.mem_cons.mp ((insertByName_perm entry rest).mem_iff.mp he) with rfl | he
      · exact not_lt.mp hge
      · exact hother e he

theorem pairwise_sortNamesFields (fields : Object) :
    (sortNamesFields fields).Pairwise fun a b => a.1 ≤ b.1 := by
  induction fields with
  | nil => exact List.Pairwise.nil
  | cons entry rest ih => exact pairwise_insertByName ih

theorem get?_sortNamesFields (h : (Entries.keys fields).Nodup) (name : String) :
    Entries.get? (sortNamesFields fields) name = (Entries.get? fields name).map sortNames := by
  rw [Entries.get?_of_perm (sortNamesFields_perm fields) (nodup_sortNamesFields h),
    Entries.get?_map]

/-- Two lists of entries in order of their distinct names are the same if they hold the same. -/
theorem eq_of_perm_of_pairwise (hperm : fields.Perm others) (hnodup : (Entries.keys fields).Nodup)
    (hfields : fields.Pairwise fun a b => a.1 ≤ b.1) (hothers : others.Pairwise fun a b => a.1 ≤ b.1) :
    fields = others := by
  refine hperm.eq_of_pairwise (fun a b ha _ hab hba => ?_) hfields hothers
  exact List.inj_on_of_nodup_map hnodup ha (hperm.mem_iff.mpr ‹_›) (le_antisymm hab hba)

/-- Sorted by names, tables are equal exactly if the same is found in both. -/
theorem sortNamesFields_eq_iff (hfields : (Entries.keys fields).Nodup)
    (hothers : (Entries.keys others).Nodup) :
    sortNamesFields fields = sortNamesFields others ↔ ∀ name,
      (Entries.get? fields name).map sortNames = (Entries.get? others name).map sortNames := by
  constructor
  · intro h name
    rw [← get?_sortNamesFields hfields, ← get?_sortNamesFields hothers, h]
  · intro h
    refine eq_of_perm_of_pairwise (Entries.perm_of_get? (nodup_sortNamesFields hfields)
      (nodup_sortNamesFields hothers) fun name => ?_) (nodup_sortNamesFields hfields)
      (pairwise_sortNamesFields fields) (pairwise_sortNamesFields others)
    rw [get?_sortNamesFields hfields, get?_sortNamesFields hothers, h name]

theorem sortNamesList_eq_map (items : List Value) : sortNamesList items = items.map sortNames := by
  induction items with
  | nil => rfl
  | cons item rest ih => rw [sortNamesList, ih, List.map_cons]

end Json

/-! ## The same but for the order -/

namespace Value

variable {v w u : Value} {fields others : Object}

/-- The values are the same but for the order of names in their objects. -/
def Reorders (v w : Value) : Prop :=
  Json.sortNames v = Json.sortNames w

theorem Reorders.refl (v : Value) : Reorders v v := rfl

theorem Reorders.symm (h : Reorders v w) : Reorders w v := Eq.symm h

theorem Reorders.trans (h : Reorders v w) (hw : Reorders w u) : Reorders v u := Eq.trans h hw

theorem reorders_object_iff_sorted : Reorders (.object fields) (.object others) ↔
    Json.sortNamesFields fields = Json.sortNamesFields others := by
  rw [Reorders, Json.sortNames, Json.sortNames, Value.object.injEq]

/-- Objects are the same but for the order of names if the same, but for that order, is found in both. -/
theorem reorders_object_iff (hfields : (Entries.keys fields).Nodup)
    (hothers : (Entries.keys others).Nodup) : Reorders (.object fields) (.object others) ↔
    ∀ name, (Entries.get? fields name).map Json.sortNames =
      (Entries.get? others name).map Json.sortNames := by
  rw [reorders_object_iff_sorted, Json.sortNamesFields_eq_iff hfields hothers]

end Value
end DynamicForms
