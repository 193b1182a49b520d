import DynamicForms.Proofs.Store.Write
import DynamicForms.Proofs.Value.Document

/-!
# `DynamicForms.Proofs.Store.Document` — deleting from documents

Where a name at the top has dots, reading a path and deleting at it part ways: the name is read, and
what lies below its segments is deleted. So nothing can be concluded from what is read after a
deletion. Still nothing lies at the end of the way afterwards, if the data is a document: a document
has no mark of absence, and what has no value for reading lies nowhere.

## Contents
- **Documents.** `isDocument_of_descend?`, `isDocument_delete`, `descend?_of_isAbsent_read`.
- **Unregistering.** `isDocument_after_unregister`, `descend?_after_unregister_self`,
  `descend?_after_unregister`, `after_unregister_eq_self`.
-/

namespace DynamicForms

open Value (Object)

/-! ## Documents -/

namespace Path

variable {data : Object} {path : String} {way : List String} {v : Value}

/-- What lies in a document is a document. -/
theorem isDocument_of_descend? (h : v.isDocument = true) {found : Value}
    (hfound : descend? v way = some found) : found.isDocument = true := by
  induction way generalizing v with
  | nil =>
    rw [descend?_nil] at hfound
    rw [← Option.some.inj hfound]
    exact h
  | cons name rest ih =>
    cases hv : v.isObject with
    | false =>
      rw [descend?_cons_of_not_object hv] at hfound
      cases hfound
    | true =>
      obtain ⟨fields, rfl⟩ := (Value.isObject_iff v).mp hv
      rw [descend?_cons] at hfound
      obtain ⟨child, hchild, hbelow⟩ := Option.bind_eq_some_iff.mp hfound
      exact ih (Value.isDocument_of_get? h hchild) hbelow

theorem isDocument_remove {fields after : Object} (h : (Value.object fields).isDocument = true)
    (hafter : remove? fields way = some after) : (Value.object after).isDocument = true := by
  induction way generalizing fields after with
  | nil => cases fields <;> simp [remove?] at hafter
  | cons name rest ih =>
    cases rest with
    | nil =>
      rw [remove?_singleton] at hafter
      split at hafter
      · cases hafter
        exact Value.isDocument_erase h name
      · cases hafter
    | cons next more =>
      obtain ⟨inner, inner', hget, hinner, rfl⟩ := remove?_cons_eq_some hafter
      exact Value.isDocument_put h (ih (Value.isDocument_of_get? h hget) hinner) name

/-- Deleting keeps a document a document. -/
theorem isDocument_delete (h : (Value.object data).isDocument = true) (path : String) :
    (Value.object (delete data path)).isDocument = true := by
  rcases delete_cases data path with ⟨-, hsame⟩ | hremove
  · rwa [hsame]
  · exact isDocument_remove h hremove

/-- Where nothing is read in a document, nothing lies. -/
theorem descend?_of_isAbsent_read (h : (Value.object data).isDocument = true) (hp : IsWhole path)
    (habsent : (read (.object data) path).isAbsent = true) :
    descend? (.object data) (segments path) = none := by
  -- a document holds no mark of absence, neither under a name at the top nor below
  rw [read_object hp] at habsent
  cases hget : Entries.get? data path with
  | some flat =>
    have hflat := Value.isAbsent_of_isDocument (Value.isDocument_of_get? h hget)
    rw [hget, Option.some_or, Option.getD_some, hflat] at habsent
    cases habsent
  | none =>
    cases hfound : descend? (.object data) (segments path) with
    | none => rfl
    | some found =>
      have hthere := Value.isAbsent_of_isDocument (isDocument_of_descend? h hfound)
      rw [hget, Option.none_or, hfound, Option.getD_some, hthere] at habsent
      cases habsent

end Path

/-! ## Unregistering -/

namespace Write

variable {data : Object} {path : String} {way : List String}

theorem isDocument_after_unregister (h : (Value.object data).isDocument = true) (path : String) :
    (Value.object ((unregister path).after data)).isDocument = true := by
  rw [after_unregister]
  split
  · exact h
  · exact Path.isDocument_delete h path

/-- Nothing lies where something was unregistered. -/
theorem descend?_after_unregister_self (h : (Value.object data).isDocument = true)
    (hp : Path.IsWhole path) :
    Path.descend? (.object ((unregister path).after data)) (Path.segments path) = none := by
  rw [after_unregister]
  split
  · next habsent => exact Path.descend?_of_isAbsent_read h hp habsent
  · exact Path.descend?_delete_self (Value.hasDistinctNames_of_isDocument _ h)
      (Path.segments_ne_nil hp)

/-- Unregistering puts nothing where nothing lies. -/
theorem descend?_after_unregister (h : (Value.object data).isDocument = true) (path : String)
    (hnone : Path.descend? (.object data) way = none) :
    Path.descend? (.object ((unregister path).after data)) way = none := by
  rw [after_unregister]
  split
  · exact hnone
  · rcases Path.descend?_delete_cases (Value.hasDistinctNames_of_isDocument _ h) path way with
      hgone | hsame | ⟨inner, -, hinner, -⟩
    · exact hgone
    · rw [hsame, hnone]
    · rw [hnone] at hinner
      cases hinner

/-- Unregistering changes nothing if nothing lies at the end of the way, whatever is read. -/
theorem after_unregister_eq_self (hp : Path.IsWhole path)
    (hnone : Path.descend? (.object data) (Path.segments path) = none) :
    (unregister path).after data = data := by
  rw [after_unregister]
  split
  · rfl
  · -- a name at the top is read, but nothing is there to be taken out
    have hr : Path.remove? data (Path.segments path) = none :=
      (Path.remove?_eq_none_iff (Path.segments_ne_nil hp) data).mpr hnone
    rw [Path.delete, Path.delete?, hr, Option.getD_none]

end Write
end DynamicForms
