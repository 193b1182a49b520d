import DynamicForms.Proofs.Value.Distinct

/-!
# `DynamicForms.Proofs.Value.Document` — values that documents express

A document expresses everything but the mark of absence and foreign values, and its objects have
distinct names. So do all values inside it. Writing such a value under a name and erasing a name keep
an object one that a document expresses.

## Contents
- `Value.isDocument`.
- `isDocument_object_iff`, `isAbsent_of_isDocument`, `hasDistinctNames_of_isDocument`.
- `isDocument_of_get?`, `isDocument_put`, `isDocument_erase`.
-/

namespace DynamicForms
namespace Value

mutual

/-- Whether a document expresses the value. -/
def isDocument : Value → Bool
  | .list items => areDocuments items
  | .object fields => decide (Entries.keys fields).Nodup && holdDocuments fields
  | .absent => false
  | .foreign => false
  | _ => true

/-- Whether a document expresses the values of a list. -/
def areDocuments : List Value → Bool
  | [] => true
  | v :: rest => isDocument v && areDocuments rest

/-- Whether a document expresses the values of some entries. -/
def holdDocuments : List (String × Value) → Bool
  | [] => true
  | (_, v) :: rest => isDocument v && holdDocuments rest

end

theorem areDocuments_iff (items : List Value) :
    areDocuments items = true ↔ ∀ v ∈ items, v.isDocument = true := by
  induction items with
  | nil => simp [areDocuments]
  | cons v rest ih => simp [areDocuments, ih]

theorem holdDocuments_iff (fields : Object) :
    holdDocuments fields = true ↔ ∀ entry ∈ fields, entry.2.isDocument = true := by
  induction fields with
  | nil => simp [holdDocuments]
  | cons entry rest ih => simp [holdDocuments, ih]

theorem isDocument_object_iff (fields : Object) :
    isDocument (.object fields) = true ↔
      (Entries.keys fields).Nodup ∧ ∀ entry ∈ fields, entry.2.isDocument = true := by
  rw [isDocument, Bool.and_eq_true, decide_eq_true_iff, holdDocuments_iff]

variable {fields : Object} {name : String} {v : Value}

theorem isAbsent_of_isDocument (h : v.isDocument = true) : v.isAbsent = false := by
  cases v with
  | absent => simp [isDocument] at h
  | _ => rfl

mutual

/-- The objects of a document have distinct names. -/
theorem hasDistinctNames_of_isDocument : ∀ v : Value, v.isDocument = true →
    v.hasDistinctNames = true
  | .object fields, h => by
    rw [isDocument, Bool.and_eq_true] at h
    rw [hasDistinctNames, h.1, Bool.true_and]
    exact allHaveDistinctNames_of_holdDocuments fields h.2
  | .null, _ | .bool _, _ | .int _, _ | .double _, _ | .text _, _ | .list _, _ | .absent, _
  | .foreign, _ => rfl

theorem allHaveDistinctNames_of_holdDocuments : ∀ fields : List (String × Value),
    holdDocuments fields = true → allHaveDistinctNames fields = true
  | [], _ => rfl
  | (_, v) :: rest, h => by
    rw [holdDocuments, Bool.and_eq_true] at h
    rw [allHaveDistinctNames, Bool.and_eq_true]
    exact ⟨hasDistinctNames_of_isDocument v h.1, allHaveDistinctNames_of_holdDocuments rest h.2⟩

end

theorem isDocument_of_get? (h : isDocument (.object fields) = true)
    (hv : Entries.get? fields name = some v) : v.isDocument = true :=
  ((isDocument_object_iff fields).mp h).2 (name, v) (Entries.mem_of_get? hv)

theorem isDocument_put (h : isDocument (.object fields) = true) (hv : v.isDocument = true)
    (name : String) : isDocument (.object (Entries.put fields name v)) = true := by
  rw [isDocument_object_iff] at h ⊢
  refine ⟨Entries.nodup_keys_put h.1 name v, fun entry hentry => ?_⟩
  rcases Entries.mem_put hentry with hold | hnew
  · exact h.2 entry hold
  · rw [hnew]
    exact hv

theorem isDocument_erase (h : isDocument (.object fields) = true) (name : String) :
    isDocument (.object (Entries.erase fields name)) = true := by
  rw [isDocument_object_iff] at h ⊢
  refine ⟨h.1.sublist (Entries.keys_erase_sublist fields name), fun entry hentry => ?_⟩
  exact h.2 entry ((Entries.erase_sublist fields name).subset hentry)

end Value
end DynamicForms
