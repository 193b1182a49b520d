import DynamicForms.Proofs.Json.Serialisable
import DynamicForms.Proofs.Visibility.Visible

/-!
# `DynamicForms.Proofs.Path.Document` — reading from data that says the same

Data that is the same but for the order of names and the marks of its NaNs gives at every path values that
are the same in that sense. No condition tells such values apart, so the same items are visible.

## Contents
- `Path.descend?_sortNames`, `descend?_unmarked`, `sameDocument_read`,
  `descend?_eq_none_iff_of_sameDocument`.
- `Value.SameDocument.interchangeable`, `SameDocument.isAbsent_eq`.
- `Item.visibleTable_of_sameDocument`.
-/

namespace DynamicForms

open Json (Serialisable)
open Value (Object SameDocument Interchangeable)

/-! ## Reading -/

namespace Path

variable {v : Value} {data data' : Object}

/-- Marks do not matter for where something is. -/
theorem descend?_unmarked (v : Value) (way : List String) :
    descend? v.unmarked way = (descend? v way).map Value.unmarked := by
  induction way generalizing v with
  | nil => rw [descend?_nil, descend?_nil, Option.map_some]
  | cons name rest ih =>
    cases v with
    | object fields =>
      rw [Value.unmarked, descend?_cons, descend?_cons, Value.get?_unmarkedFields]
      cases Entries.get? fields name with
      | none => rfl
      | some child => exact ih child
    | double d => cases d <;> rfl
    | _ => rfl

/-- The order of distinct names does not matter for where something is. -/
theorem descend?_sortNames (hv : v.hasDistinctNames = true) (way : List String) :
    descend? (Json.sortNames v) way = (descend? v way).map Json.sortNames := by
  induction way generalizing v with
  | nil => rw [descend?_nil, descend?_nil, Option.map_some]
  | cons name rest ih =>
    cases v with
    | object fields =>
      rw [Json.sortNames, descend?_cons, descend?_cons,
        Json.get?_sortNamesFields ((Value.hasDistinctNames_iff fields).mp hv).1]
      cases hchild : Entries.get? fields name with
      | none => rfl
      | some child => exact ih (Value.hasDistinctNames_of_get? hv hchild)
    | _ => rfl

theorem find?_unmarked (data : Object) (path : String) :
    find? (Value.object data).unmarked path = (find? (.object data) path).map Value.unmarked := by
  rw [Value.unmarked, find?, find?]
  split
  · rfl
  · simp only [Value.get?_unmarkedFields]
    cases Entries.get? data path with
    | some flat => rfl
    | none => exact descend?_unmarked (.object data) (segments path)

theorem find?_sortNames (hdata : (Value.object data).hasDistinctNames = true) (path : String) :
    find? (Json.sortNames (.object data)) path = (find? (.object data) path).map Json.sortNames := by
  rw [Json.sortNames, find?, find?]
  split
  · rfl
  · simp only [Json.get?_sortNamesFields ((Value.hasDistinctNames_iff data).mp hdata).1]
    cases Entries.get? data path with
    | some flat => rfl
    | none => exact descend?_sortNames hdata (segments path)

/-- What a value says, with its names in order and no marks. -/
theorem find?_canonical (hdata : Serialisable (.object data)) (path : String) :
    find? (Json.sortNames (Value.object data).unmarked) path =
      (find? (.object data) path).map fun v => Json.sortNames v.unmarked := by
  have hdistinct := Value.hasDistinctNames_of_isDocument _ hdata.unmarked.isDocument
  rw [Value.unmarked] at hdistinct ⊢
  rw [find?_sortNames hdistinct, ← Value.unmarked, find?_unmarked, Option.map_map]
  rfl

/-- **Data that says the same gives values that say the same.** -/
theorem sameDocument_read (hdata : Serialisable (.object data)) (hdata' : Serialisable (.object data'))
    (h : SameDocument (.object data) (.object data')) (path : String) :
    SameDocument (read (.object data) path) (read (.object data') path) := by
  have hfound : (find? (.object data) path).map (fun v => Json.sortNames v.unmarked) =
      (find? (.object data') path).map fun v => Json.sortNames v.unmarked := by
    rw [← find?_canonical hdata, ← find?_canonical hdata', h]
  unfold read
  cases hv : find? (.object data) path with
  | none =>
    rw [hv] at hfound
    rw [Option.map_eq_none_iff.mp hfound.symm]
    exact Value.Reorders.refl _
  | some v =>
    rw [hv] at hfound
    obtain ⟨w, hw, hsame⟩ := Option.map_eq_some_iff.mp hfound.symm
    rw [hw]
    exact hsame.symm

/-- Something stands at the same places in data that says the same. -/
theorem descend?_eq_none_iff_of_sameDocument (hdata : Serialisable (.object data))
    (hdata' : Serialisable (.object data')) (h : SameDocument (.object data) (.object data'))
    {way : List String} :
    descend? (.object data) way = none ↔ descend? (.object data') way = none := by
  have hcanonical : ∀ {v : Value}, Serialisable v → (descend? (Json.sortNames v.unmarked) way = none ↔
      descend? v way = none) := by
    intro v hv
    rw [descend?_sortNames (Value.hasDistinctNames_of_isDocument _ hv.unmarked.isDocument),
      descend?_unmarked, Option.map_eq_none_iff, Option.map_eq_none_iff]
  rw [← hcanonical hdata, ← hcanonical hdata', h]

/-- In a document nothing is marked as absent. -/
theorem clear_of_serialisable (hdata : Serialisable (.object data)) : Clear data := by
  intro name _ hget
  have habsent := Value.isAbsent_of_isDocument (hdata.of_get? hget).isDocument
  cases habsent

end Path

/-! ## Conditions -/

namespace Value

variable {u v w : Value}

theorem Interchangeable.symm (h : Interchangeable v w) : Interchangeable w v :=
  ⟨fun c => (h.strictlyEqual_eq c).symm, fun s => (h.containsText_eq s).symm⟩

theorem Interchangeable.trans (h : Interchangeable u v) (h' : Interchangeable v w) :
    Interchangeable u w :=
  ⟨fun c => (h.strictlyEqual_eq c).trans (h'.strictlyEqual_eq c),
    fun s => (h.containsText_eq s).trans (h'.containsText_eq s)⟩

/-- A list is compared with scalars by none of its elements, and contains the texts among them. -/
theorem interchangeable_list {items others : List Value}
    (h : ∀ s, occursIn (.text s) items = occursIn (.text s) others) :
    Interchangeable (.list items) (.list others) := by
  refine ⟨fun c => ?_, fun s => h s⟩
  cases c <;> simp [strictlyEqual, Scalar.toValue, equalOperands, alike, isBool, isText]

theorem alike_text_sortNames (v : Value) (s : String) :
    alike (Json.sortNames v) (.text s) = alike v (.text s) := by
  cases v <;> simp [Json.sortNames, alike]

theorem alike_text_unmarked (v : Value) (s : String) : alike v.unmarked (.text s) = alike v (.text s) := by
  cases v with
  | double d => cases d <;> simp [unmarked, alike]
  | _ => simp [unmarked, alike]

theorem interchangeable_sortNames (v : Value) : Interchangeable (Json.sortNames v) v := by
  cases v with
  | list items =>
    rw [Json.sortNames, Json.sortNamesList_eq_map]
    refine interchangeable_list fun s => ?_
    rw [occursIn, occursIn, List.any_map]
    exact List.any_congr rfl fun item => alike_text_sortNames item s
  | object fields => exact interchangeable_of_isHollow rfl rfl
  | _ => exact Interchangeable.refl _

theorem interchangeable_unmarked (v : Value) : Interchangeable v.unmarked v := by
  cases v with
  | list items =>
    rw [unmarked, unmarkedList_eq_map]
    refine interchangeable_list fun s => ?_
    rw [occursIn, occursIn, List.any_map]
    exact List.any_congr rfl fun item => alike_text_unmarked item s
  | object fields => exact interchangeable_of_isHollow rfl rfl
  | double d =>
    cases d with
    | nan mark =>
      -- a NaN equals nothing, whatever its mark
      refine ⟨fun c => ?_, fun s => rfl⟩
      simp [unmarked, strictlyEqual, equalOperands, isNaN]
    | _ => exact Interchangeable.refl _
  | _ => exact Interchangeable.refl _

/-- No condition tells values apart that say the same. -/
theorem SameDocument.interchangeable (h : SameDocument v w) : Interchangeable v w := by
  have hsorted := (interchangeable_sortNames v.unmarked).symm
  rw [h] at hsorted
  exact (interchangeable_unmarked v).symm.trans
    (hsorted.trans ((interchangeable_sortNames w.unmarked).trans (interchangeable_unmarked w)))

theorem isAbsent_canonical (v : Value) : (Json.sortNames v.unmarked).isAbsent = v.isAbsent := by
  cases v with
  | double d => cases d <;> rfl
  | _ => rfl

theorem SameDocument.isAbsent_eq (h : SameDocument v w) : v.isAbsent = w.isAbsent := by
  rw [← isAbsent_canonical v, ← isAbsent_canonical w, h]

end Value

/-- The same is visible of data that says the same. -/
theorem Item.visibleTable_of_sameDocument {items : List Item} (hi : Item.WellNamed items)
    {data data' : Object} (hdata : Serialisable (.object data)) (hdata' : Serialisable (.object data'))
    (h : SameDocument (.object data) (.object data')) :
    visibleTable items (.object data) = visibleTable items (.object data') :=
  visibleTable_congr hi fun c _ => (Path.sameDocument_read hdata hdata' h c).interchangeable

end DynamicForms
