import DynamicForms.Proofs.Entries
import DynamicForms.Value.Basic

/-!
# `DynamicForms.Proofs.Value.Distinct` — objects with distinct names

An object is the list of its entries, and what it stands for is a table in which every name stands
once. A value has *distinct names* if that is so for it and for every object inside it that can be
reached by names. Writing and erasing under a name keep it so.

## Contents
- `Value.hasDistinctNames`.
- `hasDistinctNames_iff`, `hasDistinctNames_of_get?`, `hasDistinctNames_put`,
  `hasDistinctNames_erase`.
-/

namespace DynamicForms
namespace Value

mutual

/-- Whether every object that names lead to has distinct names. -/
def hasDistinctNames : Value → Bool
  | .object fields => decide (Entries.keys fields).Nodup && allHaveDistinctNames fields
  | _ => true

/-- Whether the values of some entries have distinct names. -/
def allHaveDistinctNames : List (String × Value) → Bool
  | [] => true
  | (_, v) :: rest => hasDistinctNames v && allHaveDistinctNames rest

end

theorem allHaveDistinctNames_iff (fields : Object) :
    allHaveDistinctNames fields = true ↔ ∀ entry ∈ fields, entry.2.hasDistinctNames = true := by
  induction fields with
  | nil => simp [allHaveDistinctNames]
  | cons entry rest ih => simp [allHaveDistinctNames, ih]

theorem hasDistinctNames_iff (fields : Object) :
    hasDistinctNames (.object fields) = true ↔
      (Entries.keys fields).Nodup ∧ ∀ entry ∈ fields, entry.2.hasDistinctNames = true := by
  rw [hasDistinctNames, Bool.and_eq_true, decide_eq_true_iff, allHaveDistinctNames_iff]

variable {fields : Object} {name : String} {v : Value}

theorem hasDistinctNames_of_get? (h : hasDistinctNames (.object fields) = true)
    (hv : Entries.get? fields name = some v) : v.hasDistinctNames = true :=
  ((hasDistinctNames_iff fields).mp h).2 (name, v) (Entries.mem_of_get? hv)

theorem hasDistinctNames_put (h : hasDistinctNames (.object fields) = true)
    (hv : v.hasDistinctNames = true) (name : String) :
    hasDistinctNames (.object (Entries.put fields name v)) = true := by
  rw [hasDistinctNames_iff] at h ⊢
  refine ⟨Entries.nodup_keys_put h.1 name v, ?_⟩
  intro entry hentry
  rcases Entries.mem_put hentry with hold | hnew
  · exact h.2 entry hold
  · rw [hnew]; exact hv

theorem hasDistinctNames_erase (h : hasDistinctNames (.object fields) = true) (name : String) :
    hasDistinctNames (.object (Entries.erase fields name)) = true := by
  rw [hasDistinctNames_iff] at h ⊢
  refine ⟨h.1.sublist (Entries.keys_erase_sublist fields name), ?_⟩
  intro entry hentry
  exact h.2 entry ((Entries.erase_sublist fields name).subset hentry)

end Value
end DynamicForms
