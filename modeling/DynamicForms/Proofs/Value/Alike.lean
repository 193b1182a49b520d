import DynamicForms.Proofs.Value.Document
import DynamicForms.Proofs.Value.Equality

/-!
# `DynamicForms.Proofs.Value.Alike` — equality by content is transitive

Booleans, whole numbers and doubles are equal by value whatever their type, so what they are equal in
is best given a name: their *quantity*, a rational number, an infinity or a marked NaN. Numbers are
alike exactly if they have one quantity. From there transitivity goes up through lists and objects,
and what change detection takes for the same in two steps it takes for the same in one.

It takes a value for itself unless that is a NaN, or has a foreign value in it.

## Contents
- `Double.quantity`, `Value.quantity?`, `alike_iff_of_quantity?`.
- `Value.alike_trans`, `Value.sameValue_trans`.
- `Value.alike_self`, `Value.isComparable`, `sameValue_self_of_isComparable`.
-/

namespace DynamicForms

/-- What a number comes to. -/
inductive Quantity where
  /-- A rational number. -/
  | rational (q : ℚ)
  /-- An infinity. -/
  | infinite (negative : Bool)
  /-- No number, with its mark. -/
  | nan (mark : Nat)
  deriving DecidableEq

namespace Double

/-- What a double comes to. -/
def quantity : Double → Quantity
  | .finite s m e => .rational (signed s m * 2 ^ e)
  | .infinite s => .infinite s
  | .nan k => .nan k

theorem numEqInt_iff (d : Double) (n : Int) :
    d.numEqInt n = true ↔ d.quantity = .rational n := by
  cases d with
  | finite s m e => simp [numEqInt, compareInt, quantity, compareScaled_eq_iff]
  | infinite s => cases s <;> simp [numEqInt, compareInt, quantity]
  | nan k => simp [numEqInt, compareInt, quantity]

/-- Doubles are equal by value exactly if they come to the same and are numbers. -/
theorem numEq_iff (d e : Double) :
    d.numEq e = true ↔ d.quantity = e.quantity ∧ ∀ k, d ≠ .nan k := by
  cases d with
  | nan k => simp [numEq, compareTo]
  | infinite s =>
    cases e with
    | infinite t => cases s <;> cases t <;> simp [numEq, compareTo, quantity, compare, compareOfLessAndEq]
    | _ => cases s <;> simp [numEq, compareTo, quantity]
  | finite s m e' =>
    cases e with
    | finite t n f => simp [numEq, compareTo, quantity, compareScaled_eq_iff]
    | infinite t => cases t <;> simp [numEq, compareTo, quantity]
    | nan k => simp [numEq, compareTo, quantity]

end Double

namespace Value

/-- What a boolean or a number comes to; none for anything else. -/
def quantity? : Value → Option Quantity
  | .bool b => some (.rational (if b then 1 else 0))
  | .int n => some (.rational n)
  | .double d => some d.quantity
  | _ => none

theorem alike_double_iff (d e : Double) :
    alike (.double d) (.double e) = true ↔ d.quantity = e.quantity := by
  have hnumber : ∀ {d e : Double}, (∀ k, d ≠ .nan k) →
      (d.numEq e = true ↔ d.quantity = e.quantity) :=
    fun {d e} hd => (Double.numEq_iff d e).trans (and_iff_left hd)
  cases d with
  | nan k => cases e <;> simp [alike, Double.numEq, Double.compareTo, Double.quantity]
  | infinite s => cases e <;> exact hnumber fun _ => Double.noConfusion
  | finite s m f => cases e <;> exact hnumber fun _ => Double.noConfusion

theorem boolEqInt_iff (b : Bool) (n : Int) :
    boolEqInt b n = true ↔ (n : ℚ) = if b then 1 else 0 := by
  cases b <;> simp only [boolEqInt, beq_iff_eq, Bool.false_eq_true, if_true, if_false] <;>
    rw [eq_comm] <;> norm_cast

theorem numEqInt_bool_iff (d : Double) (b : Bool) :
    d.numEqInt (if b then 1 else 0) = true ↔ d.quantity = .rational (if b then 1 else 0) := by
  rw [Double.numEqInt_iff]
  cases b <;> simp

/-- **Numbers are alike what comes to the same.** -/
theorem alike_iff_of_quantity? {v : Value} {q : Quantity} (h : v.quantity? = some q) (w : Value) :
    alike v w = true ↔ w.quantity? = some q := by
  cases v with
  | bool b =>
    cases h
    cases w with
    | bool c => cases b <;> cases c <;> simp [alike, quantity?]
    | int n => simp [alike, quantity?, boolEqInt_iff]
    | double d => simp [alike, quantity?, numEqInt_bool_iff]
    | _ => simp [alike, quantity?]
  | int n =>
    cases h
    cases w with
    | bool c =>
      rw [alike, boolEqInt_iff, quantity?, Option.some.injEq, Quantity.rational.injEq]
      exact eq_comm
    | int m =>
      rw [alike, beq_iff_eq, quantity?, Option.some.injEq, Quantity.rational.injEq, Rat.intCast_inj]
      exact eq_comm
    | double d => simp [alike, quantity?, Double.numEqInt_iff]
    | _ => simp [alike, quantity?]
  | double d =>
    cases h
    cases w with
    | bool c =>
      rw [alike, numEqInt_bool_iff, quantity?, Option.some.injEq]
      exact eq_comm
    | int n =>
      rw [alike, Double.numEqInt_iff, quantity?, Option.some.injEq]
      exact eq_comm
    | double e =>
      rw [alike_double_iff, quantity?, Option.some.injEq]
      exact eq_comm
    | _ => simp [alike, quantity?]
  | _ => cases h

theorem alikeFields_cons {name : String} {x : Value} {rest gs : List (String × Value)} :
    alikeFields ((name, x) :: rest) gs = true ↔
      ∃ y, Entries.get? gs name = some y ∧ alike x y = true ∧ alikeFields rest gs = true := by
  rw [alikeFields]
  cases hget : Entries.get? gs name with
  | none => simp
  | some y => simp

/-- Entries that all have like ones have a like one each. -/
theorem exists_of_alikeFields {fs gs : List (String × Value)} (h : alikeFields fs gs = true)
    {name : String} {x : Value} (hx : (name, x) ∈ fs) :
    ∃ y, Entries.get? gs name = some y ∧ alike x y = true := by
  induction fs with
  | nil => cases hx
  | cons entry rest ih =>
    obtain ⟨first, v⟩ := entry
    obtain ⟨y, hy, hvy, hrest⟩ := alikeFields_cons.mp h
    rcases List.mem_cons.mp hx with heq | hx
    · cases heq
      exact ⟨y, hy, hvy⟩
    · exact ih hrest hx

mutual

/-- **Equality by content is transitive.** -/
theorem alike_trans : ∀ {u v w : Value}, alike u v = true → alike v w = true → alike u w = true
  | .list xs, v, w, huv, hvw => by
    cases v with
    | list ys =>
      cases w with
      | list zs =>
        rw [alike] at huv hvw ⊢
        exact alikeList_trans huv hvw
      | _ => simp [alike] at hvw
    | _ => simp [alike] at huv
  | .object fs, v, w, huv, hvw => by
    cases v with
    | object gs =>
      cases w with
      | object hs =>
        rw [alike, Bool.and_eq_true, beq_iff_eq] at huv hvw ⊢
        exact ⟨huv.1.trans hvw.1, alikeFields_trans huv.2 hvw.2⟩
      | _ => simp [alike] at hvw
    | _ => simp [alike] at huv
  | .bool b, v, w, huv, hvw => by
    rw [alike_iff_of_quantity? rfl] at huv ⊢
    exact (alike_iff_of_quantity? huv w).mp hvw
  | .int n, v, w, huv, hvw => by
    rw [alike_iff_of_quantity? rfl] at huv ⊢
    exact (alike_iff_of_quantity? huv w).mp hvw
  | .double d, v, w, huv, hvw => by
    rw [alike_iff_of_quantity? rfl] at huv ⊢
    exact (alike_iff_of_quantity? huv w).mp hvw
  | .text s, v, w, huv, hvw => by
    cases v <;> simp [alike] at huv
    exact huv ▸ hvw
  | .null, v, w, huv, hvw => by
    cases v <;> simp [alike] at huv
    exact hvw
  | .absent, v, w, huv, hvw => by
    cases v <;> simp [alike] at huv
    exact hvw
  | .foreign, v, _, huv, _ => by
    cases v <;> simp [alike] at huv

theorem alikeList_trans : ∀ {xs ys zs : List Value},
    alikeList xs ys = true → alikeList ys zs = true → alikeList xs zs = true
  | [], ys, zs, hxy, hyz => by
    cases ys with
    | nil => exact hyz
    | cons y ys => cases hxy
  | x :: xs, ys, zs, hxy, hyz => by
    cases ys with
    | nil => cases hxy
    | cons y ys =>
      cases zs with
      | nil => cases hyz
      | cons z zs =>
        rw [alikeList, Bool.and_eq_true] at hxy hyz ⊢
        exact ⟨alike_trans hxy.1 hyz.1, alikeList_trans hxy.2 hyz.2⟩

theorem alikeFields_trans : ∀ {fs gs hs : List (String × Value)},
    alikeFields fs gs = true → alikeFields gs hs = true → alikeFields fs hs = true
  | [], _, _, _, _ => rfl
  | (name, x) :: rest, gs, hs, hfg, hgh => by
    obtain ⟨y, hy, hxy, hrest⟩ := alikeFields_cons.mp hfg
    obtain ⟨z, hz, hyz⟩ := exists_of_alikeFields hgh (Entries.mem_of_get? hy)
    exact alikeFields_cons.mpr ⟨z, hz, alike_trans hxy hyz, alikeFields_trans hrest hgh⟩

end

/-! ## Change detection -/

variable {u v w : Value}

theorem sameValue_iff : sameValue v w = true ↔
    (v = .absent ∧ w = .absent) ∨
      (v.isAbsent = false ∧ w.isAbsent = false ∧ v.kind = w.kind ∧ alike v w = true
        ∧ v.isNaN = false) := by
  refine ⟨sameValue_cases, ?_⟩
  rintro (⟨rfl, rfl⟩ | ⟨hv, hw, hkind, halike, hnan⟩)
  · rfl
  · simp [sameValue, equalOperands, hv, hw, hkind, halike, hnan]

/-- **What change detection takes for the same in two steps it takes for the same in one.** -/
theorem sameValue_trans (h : sameValue u v = true) (h' : sameValue v w = true) :
    sameValue u w = true := by
  rcases sameValue_iff.mp h with ⟨rfl, rfl⟩ | ⟨hu, hv, hkind, halike, hnan⟩
  · exact h'
  · rcases sameValue_iff.mp h' with ⟨rfl, -⟩ | ⟨-, hw, hkind', halike', -⟩
    · cases hv
    · exact sameValue_iff.mpr (Or.inr
        ⟨hu, hw, hkind.trans hkind', alike_trans halike halike', hnan⟩)

/-! ## Values that are the same as themselves -/

theorem alikeFields_of_forall {fs gs : List (String × Value)}
    (h : ∀ entry ∈ fs, ∃ y, Entries.get? gs entry.1 = some y ∧ alike entry.2 y = true) :
    alikeFields fs gs = true := by
  induction fs with
  | nil => rfl
  | cons entry rest ih =>
    obtain ⟨y, hy, halike⟩ := h entry List.mem_cons_self
    exact alikeFields_cons.mpr
      ⟨y, hy, halike, ih fun e he => h e (List.mem_cons_of_mem _ he)⟩

mutual

/-- What a document expresses is alike itself. -/
theorem alike_self : ∀ v : Value, v.isDocument = true → alike v v = true
  | .list xs, h => by
    rw [isDocument] at h
    rw [alike]
    exact alikeList_self xs h
  | .object fs, h => by
    rw [isDocument, Bool.and_eq_true, decide_eq_true_iff] at h
    rw [alike, beq_self_eq_true, Bool.true_and]
    refine alikeFields_of_forall fun entry hentry => ?_
    exact ⟨entry.2, Entries.get?_of_mem h.1 hentry, alike_entries_self fs h.2 entry hentry⟩
  | .bool b, _ => (alike_iff_of_quantity? rfl _).mpr rfl
  | .int n, _ => (alike_iff_of_quantity? rfl _).mpr rfl
  | .double d, _ => (alike_iff_of_quantity? rfl _).mpr rfl
  | .text s, _ => by simp [alike]
  | .null, _ => rfl
  | .absent, _ => rfl
  | .foreign, h => by cases h

theorem alikeList_self : ∀ xs : List Value, areDocuments xs = true → alikeList xs xs = true
  | [], _ => rfl
  | x :: xs, h => by
    rw [areDocuments, Bool.and_eq_true] at h
    rw [alikeList, Bool.and_eq_true]
    exact ⟨alike_self x h.1, alikeList_self xs h.2⟩

theorem alike_entries_self : ∀ fs : List (String × Value), holdDocuments fs = true →
    ∀ entry ∈ fs, alike entry.2 entry.2 = true
  | (_, x) :: rest, h, entry, hentry => by
    rw [holdDocuments, Bool.and_eq_true] at h
    rcases List.mem_cons.mp hentry with heq | hentry
    · rw [heq]
      exact alike_self x h.1
    · exact alike_entries_self rest h.2 entry hentry

end

/-- Whether a value is nothing, or one that a document expresses and no NaN. -/
def isComparable (v : Value) : Bool :=
  v.isAbsent || v.isDocument && !v.isNaN

/-- **Comparable values are the same as themselves** for change detection. -/
theorem sameValue_self_of_isComparable (h : v.isComparable = true) : sameValue v v = true := by
  cases habsent : v.isAbsent with
  | true =>
    rw [(isAbsent_iff v).mp habsent]
    rfl
  | false =>
    rw [isComparable, habsent, Bool.false_or, Bool.and_eq_true, Bool.not_eq_true'] at h
    exact sameValue_iff.mpr (Or.inr ⟨habsent, habsent, rfl, alike_self v h.1, h.2⟩)

end Value
end DynamicForms
