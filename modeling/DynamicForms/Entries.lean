/-!
# `DynamicForms.Entries` — tables that keep the order of insertion

A table from names to values, as the list of its entries. Writing a name that is there keeps its
place, a new name goes to the end, and removing one leaves the others in order. Objects, error maps,
worker tables and key-value stores are all such tables.

## Contents
- `Entries.get?`, `put`, `erase`, `contains`, `keys`, `merge`, `ofPairs`, `putNew`, `change`.
- **Reads after writes.** `get?_put_self`, `get?_put_of_ne`, `get?_erase_self`, `get?_erase_of_ne`,
  `get?_change_self`, `get?_change_of_ne`.
- **Order.** `keys_put_of_contains`, `keys_put_of_not_contains`, `keys_erase`.
-/

namespace DynamicForms

/-- A table from names to values in order of first insertion. -/
abbrev Entries (α : Type) := List (String × α)

namespace Entries

variable {α : Type}

/-- The value under a name. -/
def get? : Entries α → String → Option α
  | [], _ => none
  | (name, value) :: rest, key => if name = key then some value else get? rest key

/-- Write a value under a name: in place if the name is there, at the end otherwise. -/
def put : Entries α → String → α → Entries α
  | [], key, value => [(key, value)]
  | (name, old) :: rest, key, value =>
    if name = key then (name, value) :: rest else (name, old) :: put rest key value

/-- Remove a name. -/
def erase : Entries α → String → Entries α
  | [], _ => []
  | (name, value) :: rest, key => if name = key then rest else (name, value) :: erase rest key

/-- Whether a name is there. -/
def contains (table : Entries α) (key : String) : Bool :=
  (get? table key).isSome

/-- The names in order. -/
def keys (table : Entries α) : List String :=
  table.map (·.1)

/-- Write all entries of the second table into the first, in order. -/
def merge (table more : Entries α) : Entries α :=
  more.foldl (fun t entry => put t entry.1 entry.2) table

/-- The table of a list of pairs: the last value of a name, at the place of its first. -/
def ofPairs (pairs : List (String × α)) : Entries α :=
  merge [] pairs

/-- Write a value only if the name is not there. -/
def putNew (table : Entries α) (key : String) (value : α) : Entries α :=
  if contains table key then table else put table key value

/-- Change the value under a name, if the name is there. -/
def change (table : Entries α) (key : String) (f : α → α) : Entries α :=
  table.map fun entry => if entry.1 = key then (entry.1, f entry.2) else entry

/-! ## Reads after writes -/

@[simp] theorem get?_nil (key : String) : get? ([] : Entries α) key = none := rfl

theorem get?_cons_self (key : String) (value : α) (rest : Entries α) :
    get? ((key, value) :: rest) key = some value := by
  simp [get?]

theorem get?_cons_of_ne {name key : String} (h : name ≠ key) (value : α) (rest : Entries α) :
    get? ((name, value) :: rest) key = get? rest key := by
  simp [get?, h]

@[simp] theorem get?_put_self (table : Entries α) (key : String) (value : α) :
    get? (put table key value) key = some value := by
  induction table with
  | nil => simp [put, get?]
  | cons entry rest ih =>
    obtain ⟨name, old⟩ := entry
    by_cases h : name = key
    · simp [put, get?, h]
    · simp [put, get?, h, ih]

theorem get?_put_of_ne {key other : String} (h : other ≠ key) (table : Entries α) (value : α) :
    get? (put table key value) other = get? table other := by
  induction table with
  | nil => simp [put, get?, Ne.symm h]
  | cons entry rest ih =>
    obtain ⟨name, old⟩ := entry
    by_cases hk : name = key
    · have ho : name ≠ other := fun e => h (e.symm.trans hk)
      simp [put, get?, hk, Ne.symm h]
    · by_cases ho : name = other
      · simp [put, get?, ho, h]
      · simp [put, get?, hk, ho, ih]

theorem get?_erase_of_ne {key other : String} (h : other ≠ key) (table : Entries α) :
    get? (erase table key) other = get? table other := by
  induction table with
  | nil => rfl
  | cons entry rest ih =>
    obtain ⟨name, old⟩ := entry
    by_cases hk : name = key
    · simp [erase, get?, hk, Ne.symm h]
    · by_cases ho : name = other
      · simp [erase, get?, ho, h]
      · simp [erase, get?, hk, ho, ih]

theorem get?_eq_none_iff (table : Entries α) (key : String) :
    get? table key = none ↔ key ∉ keys table := by
  induction table with
  | nil => simp [keys]
  | cons entry rest ih =>
    obtain ⟨name, old⟩ := entry
    by_cases h : name = key
    · simp [get?, keys, h]
    · simpa [get?, keys, h, Ne.symm h] using ih

theorem get?_erase_self {table : Entries α} (h : (keys table).Nodup) (key : String) :
    get? (erase table key) key = none := by
  induction table with
  | nil => rfl
  | cons entry rest ih =>
    obtain ⟨name, old⟩ := entry
    simp only [keys, List.map_cons, List.nodup_cons] at h
    by_cases hk : name = key
    · rw [erase, if_pos hk, get?_eq_none_iff]
      exact hk ▸ h.1
    · simpa [erase, get?, hk] using ih h.2

theorem get?_change_self (table : Entries α) (key : String) (f : α → α) :
    get? (change table key f) key = (get? table key).map f := by
  induction table with
  | nil => rfl
  | cons entry rest ih =>
    obtain ⟨name, old⟩ := entry
    by_cases h : name = key
    · simp [change, get?, h]
    · simpa [change, get?, h] using ih

theorem get?_change_of_ne {key other : String} (h : other ≠ key) (table : Entries α) (f : α → α) :
    get? (change table key f) other = get? table other := by
  induction table with
  | nil => rfl
  | cons entry rest ih =>
    obtain ⟨name, old⟩ := entry
    by_cases hk : name = key
    · simpa [change, get?, hk, Ne.symm h] using ih
    · by_cases ho : name = other
      · simp [change, get?, ho, h]
      · simpa [change, get?, hk, ho] using ih

/-! ## Order -/

theorem keys_change (table : Entries α) (key : String) (f : α → α) :
    keys (change table key f) = keys table := by
  simp only [change, keys, List.map_map]
  refine List.map_congr_left fun entry _ => ?_
  by_cases h : entry.1 = key <;> simp [h]

theorem keys_put_of_contains {table : Entries α} {key : String} (h : key ∈ keys table) (value : α) :
    keys (put table key value) = keys table := by
  induction table with
  | nil => simp [keys] at h
  | cons entry rest ih =>
    obtain ⟨name, old⟩ := entry
    by_cases hk : name = key
    · simp [put, keys, hk]
    · have hr : key ∈ keys rest := by simpa [keys, Ne.symm hk] using h
      simpa [put, keys, hk] using ih hr

theorem keys_put_of_not_contains {table : Entries α} {key : String} (h : key ∉ keys table)
    (value : α) : keys (put table key value) = keys table ++ [key] := by
  induction table with
  | nil => simp [put, keys]
  | cons entry rest ih =>
    obtain ⟨name, old⟩ := entry
    simp only [keys, List.map_cons, List.mem_cons, not_or] at h
    have hk : name ≠ key := Ne.symm h.1
    simpa [put, keys, hk] using ih h.2

theorem nodup_keys_put {table : Entries α} (h : (keys table).Nodup) (key : String) (value : α) :
    (keys (put table key value)).Nodup := by
  by_cases hk : key ∈ keys table
  · rwa [keys_put_of_contains hk]
  · rw [keys_put_of_not_contains hk]
    exact List.nodup_append.mpr ⟨h, by simp, by simp; exact fun a ha e => hk (e ▸ ha)⟩

theorem keys_erase_sublist (table : Entries α) (key : String) :
    (keys (erase table key)).Sublist (keys table) := by
  induction table with
  | nil => simp [erase]
  | cons entry rest ih =>
    obtain ⟨name, old⟩ := entry
    by_cases hk : name = key
    · simp [erase, keys, hk]
    · simpa [erase, keys, hk] using ih

end Entries

end DynamicForms
