import DynamicForms.Entries

/-!
# `DynamicForms.Proofs.Entries` — what a table holds

Membership, order and distinctness of names under the operations on tables.

## Contents
- **Entries and names.** `mem_of_get?`, `get?_of_mem`, `contains_iff`, `contains_eq_false_iff`.
- **After writing and erasing.** `mem_put`, `erase_sublist`, `mem_keys_put`, `put_of_get?`, `put_put_of_mem`.
- **Tables of pairs.** `mem_keys_ofPairs`, `mem_ofPairs`, `nodup_keys_ofPairs`, `merge_merge`,
  `ofPairs_of_nodup`.
- **Counting.** `countP_lt_countP`, `length_le_one_of_nodup_map`.
-/

namespace DynamicForms
namespace Entries

variable {α : Type} {table more : Entries α} {name key : String} {v : α}

/-! ## Entries and names -/

theorem mem_of_get? (h : get? table name = some v) : (name, v) ∈ table := by
  induction table with
  | nil => simp at h
  | cons entry rest ih =>
    obtain ⟨other, w⟩ := entry
    by_cases hn : other = name
    · subst hn
      rw [get?_cons_self, Option.some.injEq] at h
      rw [h]; exact List.mem_cons_self
    · rw [get?_cons_of_ne hn] at h
      exact List.mem_cons_of_mem _ (ih h)

/-- In a table with distinct names every entry is the one of its name. -/
theorem get?_of_mem (hnodup : (keys table).Nodup) (h : (name, v) ∈ table) :
    get? table name = some v := by
  induction table with
  | nil => cases h
  | cons entry rest ih =>
    obtain ⟨first, old⟩ := entry
    obtain ⟨hfresh, hnodup⟩ := List.nodup_cons.mp hnodup
    rcases List.mem_cons.mp h with heq | h
    · cases heq
      exact get?_cons_self name v rest
    · have hne : first ≠ name := by
        rintro rfl
        exact hfresh (List.mem_map.mpr ⟨_, h, rfl⟩)
      rw [get?_cons_of_ne hne]
      exact ih hnodup h

theorem contains_iff : contains table name = true ↔ name ∈ keys table := by
  rw [contains, Option.isSome_iff_ne_none, ne_eq, get?_eq_none_iff,
    Decidable.not_not]

theorem contains_eq_false_iff : contains table name = false ↔ name ∉ keys table := by
  rw [← contains_iff, Bool.not_eq_true]

theorem mem_keys_of_mem {entry : String × α} (h : entry ∈ table) : entry.1 ∈ keys table :=
  List.mem_map.mpr ⟨entry, h, rfl⟩

theorem get?_append (table more : Entries α) (key : String) :
    get? (table ++ more) key = (get? table key).or (get? more key) := by
  induction table with
  | nil => rfl
  | cons entry rest ih =>
    obtain ⟨name, v⟩ := entry
    by_cases hn : name = key
    · subst hn
      rw [List.cons_append, get?_cons_self, get?_cons_self, Option.some_or]
    · rw [List.cons_append, get?_cons_of_ne hn, get?_cons_of_ne hn, ih]

/-! ## After writing and erasing -/

theorem mem_put {entry : String × α} (h : entry ∈ put table name v) :
    entry ∈ table ∨ entry = (name, v) := by
  induction table with
  | nil => exact Or.inr (List.mem_singleton.mp h)
  | cons first rest ih =>
    obtain ⟨other, old⟩ := first
    by_cases hn : other = name
    · rw [put, if_pos hn, List.mem_cons] at h
      rcases h with h | h
      · exact Or.inr (by rw [h, hn])
      · exact Or.inl (List.mem_cons_of_mem _ h)
    · rw [put, if_neg hn, List.mem_cons] at h
      rcases h with h | h
      · exact Or.inl (h ▸ List.mem_cons_self)
      · exact (ih h).imp_left (List.mem_cons_of_mem _)

theorem mem_keys_put : key ∈ keys (put table name v) ↔ key ∈ keys table ∨ key = name := by
  by_cases h : name ∈ keys table
  · rw [keys_put_of_contains h]
    exact ⟨Or.inl, fun hk => hk.elim id fun e => e ▸ h⟩
  · rw [keys_put_of_not_contains h, List.mem_append, List.mem_singleton]

theorem put_of_not_mem (h : name ∉ keys table) : put table name v = table ++ [(name, v)] := by
  induction table with
  | nil => rfl
  | cons entry rest ih =>
    obtain ⟨other, old⟩ := entry
    simp only [keys, List.map_cons, List.mem_cons, not_or] at h
    rw [put, if_neg (Ne.symm h.1), ih h.2, List.cons_append]

/-- Writing what is there changes nothing. -/
theorem put_of_get? (h : get? table name = some v) : put table name v = table := by
  induction table with
  | nil => cases h
  | cons entry rest ih =>
    obtain ⟨other, old⟩ := entry
    by_cases hname : other = name
    · subst hname
      rw [get?_cons_self] at h
      cases h
      rw [put, if_pos rfl]
    · rw [get?_cons_of_ne hname] at h
      rw [put, if_neg hname, ih h]

theorem put_put_self (table : Entries α) (name : String) (v w : α) :
    put (put table name v) name w = put table name w := by
  induction table with
  | nil => simp [put]
  | cons entry rest ih =>
    obtain ⟨other, old⟩ := entry
    by_cases hname : other = name
    · simp [put, hname]
    · simp [put, hname, ih]

/-- Of two writes under different names the one under a name that is there can be made first. -/
theorem put_put_of_mem {w : α} (h : name ∈ keys table) (hne : key ≠ name) :
    put (put table key w) name v = put (put table name v) key w := by
  induction table with
  | nil => cases h
  | cons entry rest ih =>
    obtain ⟨other, old⟩ := entry
    by_cases hname : other = name
    · simp [put, hname, Ne.symm hne]
    · have hrest : name ∈ keys rest := (List.mem_cons.mp h).resolve_left (Ne.symm hname)
      by_cases hkey : other = key
      · simp [put, hkey, hne]
      · simp [put, hname, hkey, ih hrest]

theorem mem_keys_putNew : key ∈ keys (putNew table name v) ↔ key ∈ keys table ∨ key = name := by
  unfold putNew
  split
  · next h =>
    exact ⟨Or.inl, fun hk => hk.elim id fun e => e ▸ contains_iff.mp h⟩
  · exact mem_keys_put

theorem erase_sublist (table : Entries α) (name : String) : (erase table name).Sublist table := by
  induction table with
  | nil => exact List.Sublist.slnil
  | cons entry rest ih =>
    obtain ⟨other, v⟩ := entry
    by_cases hn : other = name
    · rw [erase, if_pos hn]; exact List.sublist_cons_self _ _
    · rw [erase, if_neg hn]; exact ih.cons_cons _

/-! ## Tables of pairs -/

theorem merge_cons (entry : String × α) :
    merge table (entry :: more) = merge (put table entry.1 entry.2) more := rfl

theorem merge_append (rest : Entries α) : merge table (more ++ rest) = merge (merge table more) rest :=
  List.foldl_append

theorem mem_keys_merge : key ∈ keys (merge table more) ↔ key ∈ keys table ∨ key ∈ keys more := by
  induction more generalizing table with
  | nil => simp [merge, keys]
  | cons entry rest ih =>
    rw [merge_cons, ih, mem_keys_put, or_assoc]
    simp [keys]

theorem nodup_keys_merge (h : (keys table).Nodup) : (keys (merge table more)).Nodup := by
  induction more generalizing table with
  | nil => exact h
  | cons entry rest ih =>
    rw [merge_cons]
    exact ih (nodup_keys_put h entry.1 entry.2)

theorem mem_merge {entry : String × α} (h : entry ∈ merge table more) :
    entry ∈ table ∨ entry ∈ more := by
  induction more generalizing table with
  | nil => exact Or.inl h
  | cons first rest ih =>
    rw [merge_cons] at h
    rcases ih h with h | h
    · rcases mem_put h with h | h
      · exact Or.inl h
      · exact Or.inr (by rw [h]; exact List.mem_cons_self)
    · exact Or.inr (List.mem_cons_of_mem _ h)

/-- A write under a name that is there can be made before the others. -/
theorem put_merge_of_mem (h : name ∈ keys table) (hfresh : name ∉ keys more) :
    put (merge table more) name v = merge (put table name v) more := by
  induction more generalizing table with
  | nil => rfl
  | cons entry rest ih =>
    have hne : entry.1 ≠ name := fun e => hfresh (by simp [keys, e])
    have hrest : name ∉ keys rest := fun hmem => hfresh (List.mem_cons_of_mem _ hmem)
    rw [merge_cons, merge_cons, ih (mem_keys_put.mpr (Or.inl h)) hrest, put_put_of_mem h hne]

theorem merge_put (hnodup : (keys more).Nodup) :
    merge table (put more name v) = put (merge table more) name v := by
  induction more generalizing table with
  | nil => rfl
  | cons entry rest ih =>
    obtain ⟨other, old⟩ := entry
    obtain ⟨hfresh, hnodup⟩ := List.nodup_cons.mp hnodup
    by_cases hname : other = name
    · subst hname
      rw [put, if_pos rfl, merge_cons, merge_cons,
        put_merge_of_mem (mem_keys_put.mpr (Or.inr rfl)) hfresh, put_put_self]
    · rw [put, if_neg hname, merge_cons, merge_cons, ih hnodup]

/-- Tables can be merged from either end. -/
theorem merge_merge (hnodup : (keys more).Nodup) (rest : Entries α) :
    merge table (merge more rest) = merge (merge table more) rest := by
  induction rest generalizing more with
  | nil => rfl
  | cons entry rest ih =>
    rw [merge_cons, ih (nodup_keys_put hnodup entry.1 entry.2), merge_put hnodup, merge_cons]

theorem merge_of_nodup (h : (keys table ++ keys more).Nodup) : merge table more = table ++ more := by
  induction more generalizing table with
  | nil => simp [merge]
  | cons entry rest ih =>
    have hfresh : entry.1 ∉ keys table := fun hmem =>
      (List.nodup_append.mp h).2.2 entry.1 hmem entry.1 (by simp [keys]) rfl
    have hput : put table entry.1 entry.2 = table ++ [entry] := put_of_not_mem hfresh
    rw [merge_cons, hput, ih (by simpa [keys] using h), List.append_assoc, List.singleton_append]

theorem mem_keys_ofPairs {pairs : List (String × α)} :
    key ∈ keys (ofPairs pairs) ↔ key ∈ pairs.map (·.1) := by
  rw [ofPairs, mem_keys_merge]
  simp [keys]

theorem mem_ofPairs {pairs : List (String × α)} {entry : String × α} (h : entry ∈ ofPairs pairs) :
    entry ∈ pairs :=
  (mem_merge h).resolve_left (by simp)

theorem ofPairs_eq_nil_iff {pairs : List (String × α)} : ofPairs pairs = [] ↔ pairs = [] := by
  refine ⟨fun h => ?_, fun h => by rw [h]; rfl⟩
  rw [← List.map_eq_nil_iff (f := (·.1)), List.eq_nil_iff_forall_not_mem]
  intro key hkey
  have hmem := mem_keys_ofPairs.mpr hkey
  rw [h] at hmem
  cases hmem

theorem nodup_keys_ofPairs (pairs : List (String × α)) : (keys (ofPairs pairs)).Nodup :=
  nodup_keys_merge (by simp [keys])

theorem ofPairs_of_nodup {pairs : List (String × α)} (h : (pairs.map (·.1)).Nodup) :
    ofPairs pairs = pairs := by
  rw [ofPairs, merge_of_nodup (by simpa [keys] using h), List.nil_append]

end Entries

/-! ## Counting -/

/-- Of two properties, one of which implies the other and is strictly stronger somewhere in a list, the
    stronger holds less often in it. -/
theorem countP_lt_countP {α : Type} {p q : α → Bool} {xs : List α} {x : α}
    (himp : ∀ y ∈ xs, p y = true → q y = true) (hx : x ∈ xs) (hq : q x = true) (hp : p x = false) :
    xs.countP p < xs.countP q := by
  obtain ⟨front, back, rfl⟩ := List.append_of_mem hx
  have hfront : front.countP p ≤ front.countP q :=
    List.countP_mono_left fun y hy => himp y (List.mem_append_left _ hy)
  have hback : back.countP p ≤ back.countP q :=
    List.countP_mono_left fun y hy =>
      himp y (List.mem_append_right _ (List.mem_cons_of_mem _ hy))
  rw [List.countP_append, List.countP_append, List.countP_cons_of_pos hq,
    List.countP_cons_of_neg (by simp [hp])]
  omega

/-- A list with distinct images has at most one element if they are all the same. -/
theorem length_le_one_of_nodup_map {α β : Type} {f : α → β} {xs : List α} (h : (xs.map f).Nodup)
    (hsame : ∀ x ∈ xs, ∀ y ∈ xs, f x = f y) : xs.length ≤ 1 := by
  cases xs with
  | nil => exact Nat.zero_le 1
  | cons x rest =>
    cases rest with
    | nil => exact Nat.le_refl 1
    | cons y rest =>
      exfalso
      rw [List.map_cons, List.nodup_cons] at h
      apply h.1
      rw [hsame x List.mem_cons_self y (List.mem_cons_of_mem _ List.mem_cons_self)]
      exact List.mem_map_of_mem List.mem_cons_self

end DynamicForms
