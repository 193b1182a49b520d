import DynamicForms.Proofs.Path.Shuffle
import DynamicForms.Proofs.Store.Document

/-!
# `DynamicForms.Proofs.Path.Lens` — the laws of reading, writing and deleting

What was written at a path is read there, what was deleted is gone, and neither shows at any path apart.
Paths may be spelled with dots at their ends and doubled dots: only their segments count, but for names at
the top of the data that have dots themselves. Such a name is read before any way down and never written or
deleted, so a path that is spelled like one is not *its own* in the data, and nothing is said of it.

## Contents
- `Path.Solid`: data in which nothing is marked as absent.
- **Own paths.** `Path.IsOwn`; `find?_of_isOwn`, `IsOwn.place`, `IsOwn.delete`.
- **Frames.** `sameAt_delete_of_apart`, beside `sameAt_place_of_apart`.
- **Laws.** `Path.IsLens`, `isLens`.
-/

namespace DynamicForms
namespace Path

open Value (Object)

variable {path other : String} {data after : Object}

/-- Nothing that names lead to is the mark of absence. -/
def Solid (data : Object) : Prop :=
  ∀ way, descend? (.object data) way ≠ some .absent

/-- A document marks nothing as absent. -/
theorem solid_of_isDocument (h : (Value.object data).isDocument = true) : Solid data := by
  intro way hway
  have habsent := Value.isAbsent_of_isDocument (isDocument_of_descend? h hway)
  cases habsent

/-! ## Own paths -/

/-- A path with segments that is not spelled like a name at the top with dots. -/
structure IsOwn (data : Object) (path : String) : Prop where
  /-- It names something. -/
  named : segments path ≠ []
  /-- If it has a dot, it is no name at the top. -/
  free : '.' ∈ path.toList → path ∉ Entries.keys data

instance (data : Object) (path : String) : Decidable (IsOwn data path) :=
  decidable_of_iff (segments path ≠ [] ∧ ('.' ∈ path.toList → path ∉ Entries.keys data))
    ⟨fun h => ⟨h.1, h.2⟩, fun h => ⟨h.named, h.free⟩⟩

namespace IsOwn

variable (h : IsOwn data path)

include h

theorem ne_empty : path ≠ "" := by
  rintro rfl
  exact h.named segments_empty

/-- Writing makes no name with dots. -/
theorem place (other : String) (v : Value) : IsOwn (place data (segments other) v) path := by
  refine ⟨h.named, fun hdot hmem => ?_⟩
  exact h.free hdot (mem_keys_of_get?_eq (get?_place_of_dot hdot data other v) hmem)

/-- Deleting makes no names. -/
theorem delete (other : String) : IsOwn (delete data other) path := by
  refine ⟨h.named, fun hdot hmem => ?_⟩
  exact h.free hdot (mem_keys_of_get?_eq (get?_delete_of_dot hdot data other) hmem)

end IsOwn

/-- At its own path data is read by going down. -/
theorem find?_of_isOwn (h : IsOwn data path) :
    find? (.object data) path = descend? (.object data) (segments path) := by
  rw [find?, if_neg (by simpa using h.ne_empty)]
  cases hget : Entries.get? data path with
  | none => rfl
  | some flat =>
    -- a name at the top that has no dot is its own only segment
    have hdot : '.' ∉ path.toList := fun hdot =>
      h.free hdot (Entries.contains_iff.mp (by rw [Entries.contains, hget]; rfl))
    rw [segments_of_no_dot hdot h.ne_empty, descend?_cons, hget, Option.bind_some, descend?_nil]

theorem read_of_isOwn (h : IsOwn data path) :
    read (.object data) path = (descend? (.object data) (segments path)).getD .absent := by
  rw [read, find?_of_isOwn h]

/-- Something is read at an own path exactly if something lies there. -/
theorem read_ne_absent_iff (h : IsOwn data path) (hsolid : Solid data) :
    read (.object data) path ≠ .absent ↔ (descend? (.object data) (segments path)).isSome = true := by
  rw [read_of_isOwn h]
  cases hlies : descend? (.object data) (segments path) with
  | none => simp
  | some v =>
    have hv : v ≠ .absent := fun habsent => hsolid _ (habsent ▸ hlies)
    simp [hv]

/-! ## Frames -/

/-- A deletion leaves what is at paths apart. -/
theorem sameAt_delete_of_apart (h : Apart (segments path) (segments other)) (data : Object) :
    SameAt other (delete data path) data := by
  rcases delete_cases data path with ⟨-, hsame⟩ | hremove
  · rw [hsame]
    exact .refl other data
  · obtain ⟨name, rest, hs⟩ := List.exists_cons_of_ne_nil h.ne_nil.1
    exact ⟨get?_remove_of_ne (ne_of_apart hs h) (hs ▸ hremove), descend?_remove_of_apart h hremove⟩

/-! ## Laws -/

/-- What a path promises in some data. -/
structure IsLens (data : Object) (path : String) : Prop where
  /-- Every value can be written, is read afterwards, and shows at no path apart. -/
  write : ∀ v, ∃ after, write? data path v = some after ∧ read (.object after) path = v ∧
    ∀ other, Apart (segments path) (segments other) →
      read (.object after) other = read (.object data) other
  /-- There is something to delete exactly if something is read. -/
  delete_iff : (delete? data path).isSome = true ↔ read (.object data) path ≠ .absent
  /-- What was deleted is gone. -/
  read_delete : read (.object (delete data path)) path = .absent
  /-- A deletion shows at no path apart. -/
  read_delete_apart : ∀ other, Apart (segments path) (segments other) →
    read (.object (delete data path)) other = read (.object data) other

/-- **Every own path keeps the laws**, in all data whose objects have distinct names and in which nothing is
    marked as absent. -/
theorem isLens (hdistinct : (Value.object data).hasDistinctNames = true) (hsolid : Solid data)
    (h : IsOwn data path) : IsLens data path where
  write v := by
    refine ⟨place data (segments path) v, write?_of_segments h.named data v, ?_, fun other hapart => ?_⟩
    · rw [read_of_isOwn (h.place path v), descend?_place data (segments path) h.named]
      rfl
    · exact (sameAt_place_of_apart hapart data v).read_eq
  delete_iff := by
    rw [read_ne_absent_iff h hsolid, delete?, remove?_isSome_iff h.named]
  read_delete := by
    rw [read_of_isOwn (h.delete path), descend?_delete_self hdistinct h.named]
    rfl
  read_delete_apart other hapart := (sameAt_delete_of_apart hapart data).read_eq

/-- Data with a text in the place of a group, and a name at the top that has a dot. -/
def mixedData : Object :=
  [("tax", .text "none"), ("tax.id", .int 7), ("address", .object [("city", .text "Ruse")])]

/-- A path with a doubled dot is written over the text on its way; the name with a dot stays. -/
theorem isLens_mixedData :
    IsOwn mixedData "tax..year" ∧ IsLens mixedData "tax..year" ∧
      read (.object mixedData) "tax.id" = .int 7 ∧
      Apart (segments "tax..year") (segments "tax.id") := by
  have hdocument : (Value.object mixedData).isDocument = true := by decide +kernel
  have hown : IsOwn mixedData "tax..year" := by decide +kernel
  exact ⟨hown, isLens (Value.hasDistinctNames_of_isDocument _ hdocument)
    (solid_of_isDocument hdocument) hown, rfl, by decide +kernel⟩

end Path
end DynamicForms
