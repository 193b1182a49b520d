import DynamicForms.Proofs.Json.RoundTrip
import DynamicForms.Proofs.Store.Write
import DynamicForms.Proofs.Value.Order

/-!
# `DynamicForms.Proofs.Json.Serialisable` — what a text tells of a value

Besides the legible values, a NaN has a text as well. It is read as a NaN, but not as the one that was
written: which one it was is lost. So a text tells of a value what is left when every NaN loses its mark.
A text with sorted names tells that but for the order of names, and it tells nothing less: values with one
such text are the same, apart from that order and the marks.

## Contents
- `Value.unmarked`: a value whose NaNs have lost their marks.
- `Serialisable`: values with a text; `serialisable_of_read`, `Serialisable.put`, `Serialisable.place`.
- `Serialisable.exists_text?`: the text is read as the value without marks.
- `Value.SameDocument`: the same but for the order of names and the marks; `sameDocument_of_sortedText?`.
- `Write.IsSerialisable`: writes that leave data with a text; `serialisable_of_change?`,
  `serialisable_after`.
-/

namespace DynamicForms

open Value (Object)

/-! ## Marks -/

namespace Value

mutual

/-- The value with no mark on any NaN. -/
def unmarked : Value → Value
  | .double (.nan _) => .double (.nan 0)
  | .list items => .list (unmarkedList items)
  | .object fields => .object (unmarkedFields fields)
  | v => v

/-- `unmarked` on each element. -/
def unmarkedList : List Value → List Value
  | [] => []
  | item :: rest => unmarked item :: unmarkedList rest

/-- `unmarked` on the value of each entry. -/
def unmarkedFields : List (String × Value) → List (String × Value)
  | [] => []
  | (name, v) :: rest => (name, unmarked v) :: unmarkedFields rest

end

theorem unmarkedList_eq_map (items : List Value) : unmarkedList items = items.map unmarked := by
  induction items with
  | nil => rfl
  | cons item rest ih => rw [unmarkedList, ih, List.map_cons]

theorem unmarkedFields_eq_map (fields : Object) :
    unmarkedFields fields = fields.map fun entry => (entry.1, unmarked entry.2) := by
  induction fields with
  | nil => rfl
  | cons entry rest ih => rw [unmarkedFields, ih, List.map_cons]

theorem keys_unmarkedFields (fields : Object) :
    Entries.keys (unmarkedFields fields) = Entries.keys fields := by
  rw [unmarkedFields_eq_map, Entries.keys, List.map_map]
  rfl

theorem get?_unmarkedFields (fields : Object) (name : String) :
    Entries.get? (unmarkedFields fields) name = (Entries.get? fields name).map unmarked := by
  rw [unmarkedFields_eq_map, Entries.get?_map]

/-- The values say the same, but for the order of names and which NaN is which. -/
def SameDocument (v w : Value) : Prop :=
  Reorders v.unmarked w.unmarked

end Value

namespace Json

open Double (Canonical)

variable {style : Style} {v w : Value} {fields : Object} {name path : String}

mutual

theorem write?_unmarked : ∀ v : Value, write? style v.unmarked = write? style v
  | .list [] => rfl
  | .list (item :: rest) => by
    simp only [Value.unmarked, Value.unmarkedList, write?, write?_unmarked item,
      writeItems?_unmarked rest]
  | .object [] => rfl
  | .object ((name, v) :: rest) => by
    simp only [Value.unmarked, Value.unmarkedFields, write?, write?_unmarked v,
      writeFields?_unmarked rest]
  | .double (.nan _) => rfl
  | .double (.finite ..) | .double (.infinite _) | .null | .bool _ | .int _ | .text _ | .absent
  | .foreign => rfl

theorem writeItems?_unmarked : ∀ items : List Value,
    writeItems? style (Value.unmarkedList items) = writeItems? style items
  | [] => rfl
  | item :: rest => by
    simp only [Value.unmarkedList, writeItems?, write?_unmarked item, writeItems?_unmarked rest]

theorem writeFields?_unmarked : ∀ fields : List (String × Value),
    writeFields? style (Value.unmarkedFields fields) = writeFields? style fields
  | [] => rfl
  | (name, v) :: rest => by
    simp only [Value.unmarkedFields, writeFields?, write?_unmarked v, writeFields?_unmarked rest]

end

theorem text?_unmarked (v : Value) : text? style v.unmarked = text? style v := by
  rw [text?, write?_unmarked, text?]

mutual

theorem unmarked_unmarked : ∀ v : Value, v.unmarked.unmarked = v.unmarked
  | .list items => by rw [Value.unmarked, Value.unmarked, unmarkedList_unmarkedList items]
  | .object fields => by rw [Value.unmarked, Value.unmarked, unmarkedFields_unmarkedFields fields]
  | .double (.nan _) => rfl
  | .double (.finite ..) | .double (.infinite _) | .null | .bool _ | .int _ | .text _ | .absent
  | .foreign => rfl

theorem unmarkedList_unmarkedList : ∀ items : List Value,
    Value.unmarkedList (Value.unmarkedList items) = Value.unmarkedList items
  | [] => rfl
  | item :: rest => by
    simp only [Value.unmarkedList, unmarked_unmarked item, unmarkedList_unmarkedList rest]

theorem unmarkedFields_unmarkedFields : ∀ fields : List (String × Value),
    Value.unmarkedFields (Value.unmarkedFields fields) = Value.unmarkedFields fields
  | [] => rfl
  | (name, v) :: rest => by
    simp only [Value.unmarkedFields, unmarked_unmarked v, unmarkedFields_unmarkedFields rest]

end

/-- Losing the marks of its NaNs does not change what a value says. -/
theorem sameDocument_unmarked (v : Value) : Value.SameDocument v.unmarked v := by
  rw [Value.SameDocument, unmarked_unmarked]
  exact Value.Reorders.refl _

/-! ## Serialisable values -/

/-- A value that has a text: legible, or with a NaN in it. -/
inductive Serialisable : Value → Prop where
  /-- The null value. -/
  | null : Serialisable .null
  /-- Booleans. -/
  | bool (b : Bool) : Serialisable (.bool b)
  /-- Whole numbers of limited length. -/
  | int {n : ℤ} (h : n.natAbs < 10 ^ maxDigits) : Serialisable (.int n)
  /-- Doubles. -/
  | double {d : Double} (hcanonical : Canonical d) : Serialisable (.double d)
  /-- Texts. -/
  | text (s : String) : Serialisable (.text s)
  /-- Lists of such values. -/
  | list {items : List Value} (h : ∀ v ∈ items, Serialisable v) : Serialisable (.list items)
  /-- Objects of such values under distinct names. -/
  | object {fields : List (String × Value)} (hdistinct : (Entries.keys fields).Nodup)
      (h : ∀ entry ∈ fields, Serialisable entry.2) : Serialisable (.object fields)

theorem serialisable_object_iff : Serialisable (.object fields) ↔
    (Entries.keys fields).Nodup ∧ ∀ entry ∈ fields, Serialisable entry.2 :=
  ⟨fun h => by cases h with | object hdistinct h => exact ⟨hdistinct, h⟩, fun h => .object h.1 h.2⟩

theorem serialisable_list_iff {items : List Value} : Serialisable (.list items) ↔
    ∀ v ∈ items, Serialisable v :=
  ⟨fun h => by cases h with | list h => exact h, .list⟩

theorem built_serialisable : Built Serialisable where
  text := .text
  word := by
    intro entry hentry
    simp only [words, List.mem_cons, List.not_mem_nil, or_false] at hentry
    rcases hentry with rfl | rfl | rfl | rfl | rfl | rfl
    · exact .null
    · exact .bool true
    · exact .bool false
    · exact .double trivial
    · exact .double trivial
    · exact .double trivial
  int _ h := .int h
  double negative digits exponent := .double (Double.canonical_ofDecimal digits exponent)
  list _ h := .list h
  object _ h := .object (Entries.nodup_keys_ofPairs _) fun entry hentry =>
    h entry (Entries.mem_ofPairs hentry)

/-- What is read can be written. -/
theorem serialisable_of_read {s : String} (h : read s = .ok v) : Serialisable v :=
  built_serialisable.of_read h

theorem Serialisable.isDocument (h : Serialisable v) : v.isDocument = true := by
  induction h with
  | list _ ih => exact (Value.areDocuments_iff _).mpr ih
  | object hdistinct _ ih => exact (Value.isDocument_object_iff _).mpr ⟨hdistinct, ih⟩
  | _ => rfl

theorem Serialisable.unmarked (h : Serialisable v) : Serialisable v.unmarked := by
  induction h with
  | double hcanonical =>
    rename_i d
    cases d with
    | nan mark => exact .double trivial
    | _ => exact .double hcanonical
  | list _ ih =>
    rw [Value.unmarked, Value.unmarkedList_eq_map, serialisable_list_iff, List.forall_mem_map]
    exact ih
  | object hdistinct _ ih =>
    rw [Value.unmarked, serialisable_object_iff, Value.keys_unmarkedFields, Value.unmarkedFields_eq_map,
      List.forall_mem_map]
    exact ⟨hdistinct, ih⟩
  | null => exact .null
  | bool b => exact .bool b
  | int h => exact .int h
  | text s => exact .text s

theorem Serialisable.sortNames (h : Serialisable v) : Serialisable (sortNames v) := by
  induction h with
  | list _ ih =>
    rw [Json.sortNames, sortNamesList_eq_map, serialisable_list_iff, List.forall_mem_map]
    exact ih
  | object hdistinct _ ih =>
    rw [Json.sortNames, serialisable_object_iff]
    refine ⟨nodup_sortNamesFields hdistinct, fun entry hentry => ?_⟩
    obtain ⟨old, hold, rfl⟩ := List.mem_map.mp ((sortNamesFields_perm _).mem_iff.mp hentry)
    exact ih old hold
  | null => exact .null
  | bool b => exact .bool b
  | int h => exact .int h
  | double h => exact .double h
  | text s => exact .text s

/-! ## Texts -/

theorem rereads_nan : Rereads style (.double (.nan 0)) := by
  refine ⟨['N', 'a', 'N'], rfl, ⟨'N', _, rfl, by decide⟩, fun rest fuel _ hfuel => ?_⟩
  obtain ⟨fuel, rfl⟩ := Nat.exists_eq_succ_of_ne_zero (show fuel ≠ 0 by omega)
  rfl

theorem Serialisable.rereads (hstyle : style.Spaced) (h : Serialisable v) : Rereads style v.unmarked := by
  induction h with
  | null => exact rereads_null
  | bool b => exact rereads_bool b
  | int h => exact rereads_int h
  | double hcanonical =>
    rename_i d
    cases d with
    | nan mark => exact rereads_nan
    | finite => exact rereads_double hcanonical fun mark heq => by cases heq
    | infinite => exact rereads_double hcanonical fun mark heq => by cases heq
  | text s => exact rereads_text s
  | list _ ih =>
    rw [Value.unmarked, Value.unmarkedList_eq_map]
    exact rereads_list hstyle (List.forall_mem_map.mpr ih)
  | object hdistinct _ ih =>
    rw [Value.unmarked]
    refine rereads_object hstyle (by rwa [Value.keys_unmarkedFields]) ?_
    rw [Value.unmarkedFields_eq_map]
    exact List.forall_mem_map.mpr ih

/-- **The text of a value is read as that value, without the marks of NaNs.** -/
theorem Serialisable.exists_text? (hstyle : style.Spaced) (h : Serialisable v) :
    ∃ s, text? style v = some s ∧ read s = .ok v.unmarked := by
  rw [← text?_unmarked]
  exact (h.rereads hstyle).exists_text?

/-- Values with one text are the same, but for the marks of NaNs. -/
theorem unmarked_eq_of_text? (hstyle : style.Spaced) (hv : Serialisable v) (hw : Serialisable w)
    (h : text? style v = text? style w) : v.unmarked = w.unmarked := by
  obtain ⟨s, hs, hread⟩ := hv.exists_text? hstyle
  obtain ⟨t, ht, hread'⟩ := hw.exists_text? hstyle
  rw [hs, ht] at h
  cases h
  rw [hread] at hread'
  exact Except.ok.inj hread'

mutual

theorem sortNames_unmarked : ∀ v : Value, sortNames v.unmarked = (sortNames v).unmarked
  | .list items => by
    simp only [Value.unmarked, sortNames, sortNamesList_unmarked items]
  | .object fields => by
    simp only [Value.unmarked, sortNames, sortNamesFields_unmarked fields]
  | .double (.nan _) => rfl
  | .double (.finite ..) | .double (.infinite _) | .null | .bool _ | .int _ | .text _ | .absent
  | .foreign => rfl

theorem sortNamesList_unmarked : ∀ items : List Value,
    sortNamesList (Value.unmarkedList items) = Value.unmarkedList (sortNamesList items)
  | [] => rfl
  | item :: rest => by
    simp only [Value.unmarkedList, sortNamesList, sortNames_unmarked item, sortNamesList_unmarked rest]

theorem sortNamesFields_unmarked : ∀ fields : List (String × Value),
    sortNamesFields (Value.unmarkedFields fields) = Value.unmarkedFields (sortNamesFields fields)
  | [] => rfl
  | (name, v) :: rest => by
    simp only [Value.unmarkedFields, sortNamesFields, sortNames_unmarked v, sortNamesFields_unmarked rest,
      insertByName_unmarked]

theorem insertByName_unmarked : ∀ (name : String) (v : Value) (fields : List (String × Value)),
    insertByName (name, v.unmarked) (Value.unmarkedFields fields) =
      Value.unmarkedFields (insertByName (name, v) fields)
  | _, _, [] => rfl
  | name, v, (other, w) :: rest => by
    rw [Value.unmarkedFields, insertByName, insertByName]
    split
    · rfl
    · rw [insertByName_unmarked name v rest, Value.unmarkedFields]

end

theorem sortedText?_unmarked (v : Value) : sortedText? v.unmarked = sortedText? v := by
  rw [sortedText?, sortNames_unmarked, text?_unmarked, sortedText?]

theorem Serialisable.exists_sortedText? (h : Serialisable v) : ∃ s, sortedText? v = some s ∧ s ≠ "" := by
  obtain ⟨s, hs, hread⟩ := h.sortNames.exists_text? Style.spaced_spaced
  refine ⟨s, hs, ?_⟩
  rintro rfl
  cases hread

/-- **Values with one text in which names are sorted say the same**, but for the order of names and the
marks of NaNs. -/
theorem sameDocument_of_sortedText? (hv : Serialisable v) (hw : Serialisable w)
    (h : sortedText? v = sortedText? w) : Value.SameDocument v w := by
  rw [Value.SameDocument, Value.Reorders, sortNames_unmarked, sortNames_unmarked]
  exact unmarked_eq_of_text? Style.spaced_spaced hv.sortNames hw.sortNames h

/-! ## Writing -/

theorem Serialisable.put (h : Serialisable (.object fields)) (name : String) (hv : Serialisable v) :
    Serialisable (.object (Entries.put fields name v)) := by
  rw [serialisable_object_iff] at h ⊢
  refine ⟨Entries.nodup_keys_put h.1 name v, fun entry hentry => ?_⟩
  rcases Entries.mem_put hentry with hold | rfl
  · exact h.2 entry hold
  · exact hv

theorem Serialisable.erase (h : Serialisable (.object fields)) (name : String) :
    Serialisable (.object (Entries.erase fields name)) := by
  rw [serialisable_object_iff] at h ⊢
  exact ⟨h.1.sublist (Entries.keys_erase_sublist fields name),
    fun entry hentry => h.2 entry ((Entries.erase_sublist fields name).subset hentry)⟩

theorem Serialisable.of_get? (h : Serialisable (.object fields)) (hv : Entries.get? fields name = some v) :
    Serialisable v :=
  (serialisable_object_iff.mp h).2 (name, v) (Entries.mem_of_get? hv)

theorem Serialisable.childFields (h : Serialisable (.object fields)) (name : String) :
    Serialisable (.object (Path.childFields fields name)) := by
  unfold Path.childFields
  split
  · next hget => exact h.of_get? hget
  · exact .object List.nodup_nil fun _ hentry => by cases hentry

theorem Serialisable.place (h : Serialisable (.object fields)) (way : List String) (hv : Serialisable v) :
    Serialisable (.object (Path.place fields way v)) := by
  induction way generalizing fields with
  | nil => exact h
  | cons name rest ih =>
    cases rest with
    | nil => exact h.put name hv
    | cons next more =>
      rw [Path.place_cons_cons]
      exact h.put name (ih (h.childFields name))

theorem Serialisable.remove {after : Object} {way : List String} (h : Serialisable (.object fields))
    (hremove : Path.remove? fields way = some after) : Serialisable (.object after) := by
  induction way generalizing fields after with
  | nil => cases hremove
  | cons name rest ih =>
    cases rest with
    | nil =>
      rw [Path.remove?_singleton] at hremove
      split at hremove
      · cases hremove
        exact h.erase name
      · cases hremove
    | cons next more =>
      obtain ⟨inner, inner', hget, hinner, rfl⟩ := Path.remove?_cons_eq_some hremove
      exact h.put name (ih (h.of_get? hget) hinner)

theorem Serialisable.delete (h : Serialisable (.object fields)) (path : String) :
    Serialisable (.object (Path.delete fields path)) := by
  rcases Path.delete_cases fields path with ⟨-, hsame⟩ | hremove
  · rwa [hsame]
  · exact h.remove hremove

end Json

namespace Write

variable {wr : Write} {data after : Object} {path : String} {v : Value}

/-- What is written has a text. -/
def IsSerialisable : Write → Prop
  | .set _ v => Json.Serialisable v
  | .unregister _ => True
  | .reset data => Json.Serialisable (.object data)

theorem serialisable_of_change? (hwr : wr.IsSerialisable) (h : wr.change? data = .ok (some after))
    (hdata : Json.Serialisable (.object data)) : Json.Serialisable (.object after) := by
  obtain ⟨path, v, rfl, -, rfl⟩ | ⟨path, rfl, rfl⟩ | rfl := change?_eq_some_cases h
  · exact hdata.place _ hwr
  · exact hdata.delete path
  · exact hwr

/-- Data keeps having a text. -/
theorem serialisable_after (hwr : wr.IsSerialisable) (hdata : Json.Serialisable (.object data)) :
    Json.Serialisable (.object (wr.after data)) := by
  unfold after
  split
  · next h => exact serialisable_of_change? hwr h hdata
  · exact hdata

end Write

end DynamicForms
