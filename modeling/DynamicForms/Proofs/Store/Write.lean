import DynamicForms.Proofs.Path.Access
import DynamicForms.Store.Basic

/-!
# `DynamicForms.Proofs.Store.Write` — what a write makes of the data

Data is *sound* if its names at the top have no dots and every object in it has distinct names. Writes
at whole paths keep it so and never fail, and what is read at a place apart from the written one stays
the same.

## Contents
- `Path.Sound`: sound data; `Path.Clear`: data in which nothing hides what it does not have.
- `Write.IsWhole`, `Write.IsPlain`: writes at whole paths, and among them those of well-formed values;
  `Write.IsPlaced`: writes that do not fail.
- `Write.after`: the data after a write.
- `change?_cases`, `change?_eq_some_cases`, `sound_after`, `read_after_of_apart`, `isAbsent_after_unregister`.
-/

namespace DynamicForms

open Value (Object)

namespace Path

/-- Names at the top have no dots, and every object has distinct names. -/
structure Sound (data : Object) : Prop where
  /-- No name at the top has a dot. -/
  plain : HasPlainNames data
  /-- Every object has distinct names. -/
  distinct : Value.hasDistinctNames (.object data) = true

instance (data : Object) : Decidable (Sound data) :=
  decidable_of_iff (HasPlainNames data ∧ Value.hasDistinctNames (.object data) = true)
    ⟨fun h => ⟨h.1, h.2⟩, fun h => ⟨h.plain, h.distinct⟩⟩

/-- Nothing is marked as absent under a name at the top that has dots, and so hides what lies further
down. -/
def Clear (data : Object) : Prop :=
  ∀ name, '.' ∈ name.toList → Entries.get? data name ≠ some .absent

variable {data : Object}

theorem Sound.clear (h : Sound data) : Clear data := fun name hdot hget =>
  h.plain name (Entries.mem_keys_of_mem (Entries.mem_of_get? hget)) hdot

theorem Clear.place (h : Clear data) (path : String) (v : Value) :
    Clear (Path.place data (segments path) v) := by
  intro name hdot
  rw [get?_place_of_dot hdot]
  exact h name hdot

theorem Clear.delete (h : Clear data) (path : String) : Clear (Path.delete data path) := by
  intro name hdot
  rw [get?_delete_of_dot hdot]
  exact h name hdot

/-- What is written where nothing is found is read. -/
theorem Clear.read_place_self (h : Clear data) {path : String} (hp : IsWhole path)
    (habsent : (read (.object data) path).isAbsent = true) (v : Value) :
    read (.object (Path.place data (segments path) v)) path = v := by
  have hflat : '.' ∈ path.toList → Entries.get? data path = none := by
    intro hdot
    cases hget : Entries.get? data path with
    | none => rfl
    | some flat =>
      rw [read_object hp, hget, Option.some_or, Option.getD_some, Value.isAbsent_iff] at habsent
      exact absurd (habsent ▸ hget) (h path hdot)
  have hflat' : '.' ∈ path.toList → Entries.get? (Path.place data (segments path) v) path = none :=
    fun hdot => (get?_place_of_dot hdot data path v).trans (hflat hdot)
  rw [read_of_not_flat hp hflat', descend?_place data (segments path) (segments_ne_nil hp)]
  rfl

end Path

namespace Write

/-- A write at a whole path, or one that replaces all data. -/
def IsWhole (wr : Write) : Prop :=
  ∀ path, wr.path? = some path → Path.IsWhole path

instance (wr : Write) : Decidable wr.IsWhole :=
  match h : wr.path? with
  | none => isTrue fun path hpath => by simp [h] at hpath
  | some path =>
    if hp : Path.IsWhole path then
      isTrue fun other ho => by rw [h] at ho; exact Option.some.inj ho ▸ hp
    else isFalse fun hall => hp (hall path h)

/-- A write that has a place: not one that sets a value at a path without segments. -/
def IsPlaced : Write → Prop
  | .set path _ => Path.segments path ≠ []
  | .unregister _ => True
  | .reset _ => True

theorem IsWhole.isPlaced {wr : Write} (h : wr.IsWhole) : wr.IsPlaced := by
  cases wr with
  | set path v => exact Path.segments_ne_nil (h path rfl)
  | unregister path => trivial
  | reset data => trivial

/-- A write at a whole path, of a value that is well formed; if it replaces all data, of sound data. -/
def IsPlain : Write → Prop
  | .set path v => Path.IsWhole path ∧ v.hasDistinctNames = true
  | .unregister path => Path.IsWhole path
  | .reset data => Path.Sound data

instance (wr : Write) : Decidable wr.IsPlain :=
  match wr with
  | .set path v => inferInstanceAs (Decidable (Path.IsWhole path ∧ v.hasDistinctNames = true))
  | .unregister path => inferInstanceAs (Decidable (Path.IsWhole path))
  | .reset data => inferInstanceAs (Decidable (Path.Sound data))

theorem IsPlain.isWhole {wr : Write} (h : wr.IsPlain) : wr.IsWhole := by
  intro path hpath
  cases wr with
  | set p v => cases hpath; exact h.1
  | unregister p => cases hpath; exact h
  | reset data => cases hpath

/-- The data after a write. -/
def after (wr : Write) (data : Object) : Object :=
  match wr.change? data with
  | .ok (some changed) => changed
  | _ => data

variable {wr : Write} {data : Object} {path other : String} {v : Value}

theorem change?_set (h : Path.segments path ≠ []) (data : Object) (v : Value) :
    (set path v).change? data =
      if (Path.read (.object data) path).sameValue v then .ok none
      else .ok (some (Path.place data (Path.segments path) v)) := by
  rw [change?, Path.write?_of_segments h]

theorem after_set (h : Path.segments path ≠ []) (data : Object) (v : Value) :
    (set path v).after data =
      if (Path.read (.object data) path).sameValue v then data
      else Path.place data (Path.segments path) v := by
  rw [after, change?_set h]
  by_cases hsame : (Path.read (.object data) path).sameValue v = true
  · rw [if_pos hsame, if_pos hsame]
  · rw [if_neg hsame, if_neg hsame]

/-- What is set where nothing is found is read. -/
theorem read_after_set_of_absent (hdata : Path.Clear data) (hp : Path.IsWhole path)
    (habsent : (Path.read (.object data) path).isAbsent = true) (hv : v.isAbsent = false) :
    Path.read (.object ((set path v).after data)) path = v := by
  have hnew : (Path.read (.object data) path).sameValue v = false := by
    rw [(Value.isAbsent_iff _).mp habsent, Value.sameValue_absent_left, hv]
  rw [after_set (Path.segments_ne_nil hp), hnew]
  exact hdata.read_place_self hp habsent v

theorem after_unregister (data : Object) (path : String) :
    (unregister path).after data =
      if (Path.read (.object data) path).isAbsent then data else Path.delete data path := by
  rw [after, change?]
  by_cases habsent : (Path.read (.object data) path).isAbsent = true
  · rw [if_pos habsent, if_pos habsent]
  · rw [if_neg habsent, if_neg habsent]

/-- **What a write makes of the data, if it changes anything.** -/
theorem change?_eq_some_cases {changed : Object} (h : wr.change? data = .ok (some changed)) :
    (∃ path v, wr = .set path v ∧ Path.segments path ≠ [] ∧
      changed = Path.place data (Path.segments path) v) ∨
    (∃ path, wr = .unregister path ∧ changed = Path.delete data path) ∨ wr = .reset changed := by
  cases wr with
  | set path v =>
    by_cases hp : Path.segments path = []
    · have hnone : Path.write? data path v = none := by
        rw [Path.write?, hp]
      rw [change?, hnone] at h
      split at h <;> cases h
    · rw [change?_set hp] at h
      split at h
      · cases h
      · cases h
        exact Or.inl ⟨path, v, rfl, hp, rfl⟩
  | unregister path =>
    rw [change?] at h
    split at h
    · cases h
    · cases h
      exact Or.inr (Or.inl ⟨path, rfl, rfl⟩)
  | reset new =>
    cases h
    exact Or.inr (Or.inr rfl)

/-- A write that has a place changes nothing or makes new data; it does not fail. -/
theorem change?_cases (h : wr.IsPlaced) (data : Object) :
    (wr.change? data = .ok none ∧ wr.after data = data) ∨
      wr.change? data = .ok (some (wr.after data)) := by
  cases wr with
  | set path v =>
    rw [after_set h, change?_set h]
    split
    · exact Or.inl ⟨rfl, rfl⟩
    · exact Or.inr rfl
  | unregister path =>
    rw [after_unregister, change?]
    split
    · exact Or.inl ⟨rfl, rfl⟩
    · exact Or.inr rfl
  | reset new => exact Or.inr rfl

/-- Plain writes keep data sound. -/
theorem sound_after (h : wr.IsPlain) (hdata : Path.Sound data) : Path.Sound (wr.after data) := by
  cases wr with
  | set path v =>
    rw [after_set (Path.segments_ne_nil h.1)]
    split
    · exact hdata
    · exact ⟨Path.hasPlainNames_place hdata.plain path v,
        Path.hasDistinctNames_place hdata.distinct _ h.2⟩
  | unregister path =>
    rw [after_unregister]
    split
    · exact hdata
    · exact ⟨Path.hasPlainNames_delete hdata.plain path,
        Path.hasDistinctNames_delete hdata.distinct path⟩
  | reset new => exact h

/-- **A write changes nothing at places apart from its own.** -/
theorem read_after_of_apart (hwr : wr.path? = some path) (ho : Path.IsWhole other)
    (hapart : Path.Apart (Path.segments path) (Path.segments other)) (data : Object) :
    Path.read (.object (wr.after data)) other = Path.read (.object data) other := by
  cases wr with
  | set p v =>
    cases hwr
    rw [after_set hapart.ne_nil.1]
    split
    · rfl
    · exact Path.read_place_of_apart ho hapart data v
  | unregister p =>
    cases hwr
    rw [after_unregister]
    split
    · rfl
    · exact Path.read_delete_of_apart ho hapart data
  | reset new => cases hwr

/-- What was unregistered is absent. -/
theorem isAbsent_after_unregister_self (hdata : Path.Sound data) (hp : Path.IsWhole path) :
    (Path.read (.object ((unregister path).after data)) path).isAbsent = true := by
  rw [after_unregister]
  split
  · assumption
  · rw [Path.read_delete_self hdata.plain hdata.distinct hp]; rfl

/-- Unregistering brings nothing back. -/
theorem isAbsent_after_unregister (hdata : Path.Sound data) (ho : Path.IsWhole other)
    (path : String) (habsent : (Path.read (.object data) other).isAbsent = true) :
    (Path.read (.object ((unregister path).after data)) other).isAbsent = true := by
  rw [after_unregister]
  split
  · exact habsent
  · exact Path.isAbsent_read_delete hdata.plain hdata.distinct ho path habsent

/-- A set keeps a value present unless it is made at or above it. -/
theorem isAbsent_after_set (hp : Path.IsWhole path) (ho : Path.IsWhole other)
    (h : ¬ Path.segments path <+: Path.segments other)
    (hpresent : (Path.read (.object data) other).isAbsent = false) (v : Value) :
    (Path.read (.object ((set path v).after data)) other).isAbsent = false := by
  rw [after_set (Path.segments_ne_nil hp)]
  split
  · exact hpresent
  · exact Path.isAbsent_read_place hp ho h hpresent v

end Write
end DynamicForms
