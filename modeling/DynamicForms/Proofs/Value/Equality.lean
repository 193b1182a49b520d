import DynamicForms.Schema.Basic
import Mathlib.Algebra.GroupWithZero.Units.Basic
import Mathlib.Algebra.Order.Field.Rat

/-!
# `DynamicForms.Proofs.Value.Equality` — what change detection does not see

Two values that change detection takes for the same need not be the same: zeros of either sign are
taken so, and objects with their names in another order. It takes no two different *simple* values for
the same, that is null, booleans, whole numbers, texts and nothing; and no condition can tell values
apart that it takes for the same.
The one point with arithmetic in it is that doubles that are equal by value compare alike with every
number.

## Contents
- **Doubles.** `compareScaled_eq_iff`, `numEq_congr`, `numEqInt_congr`.
- **Texts.** `alike_text_congr`, `occursIn_text_congr`.
- **Simple values.** `Value.isSimple`, `eq_of_sameValue`, `isSimple_eq_of_sameValue`,
  `sameValue_self`.
- **Conditions.** `strictlyEqual_congr`.
-/

namespace DynamicForms

/-! ## Doubles -/

namespace Double

/-- Numbers given by significand and exponent compare equal exactly if they are one rational. -/
theorem compareScaled_eq_iff (a e b f : Int) :
    compareScaled a e b f = .eq ↔ (a : ℚ) * 2 ^ e = (b : ℚ) * 2 ^ f := by
  have h2 : (2 : ℚ) ≠ 0 := by decide
  have hpow : ∀ n low : Int, low ≤ n →
      (2 : ℚ) ^ n = (Nat.pow 2 (n - low).toNat : ℕ) * 2 ^ low := by
    intro n low hle
    have hn : n = ((n - low).toNat : Int) + low := by omega
    conv_lhs => rw [hn, zpow_add₀ h2, zpow_natCast]
    norm_cast
  unfold compareScaled
  rw [Int.compare_eq_eq, hpow e (min e f) (Int.min_le_left e f),
    hpow f (min e f) (Int.min_le_right e f), ← mul_assoc, ← mul_assoc,
    mul_left_inj' (zpow_ne_zero _ h2)]
  norm_cast

theorem compareScaled_congr {a e b f : Int} (h : compareScaled a e b f = .eq) (c g : Int) :
    compareScaled a e c g = .eq ↔ compareScaled b f c g = .eq := by
  rw [compareScaled_eq_iff] at h ⊢
  rw [compareScaled_eq_iff, h]

theorem beq_congr {o p : Ordering} (h : o = .eq ↔ p = .eq) : (o == .eq) = (p == .eq) := by
  cases o <;> cases p <;> simp_all

/-- Doubles that are equal by value compare alike with whole numbers. -/
theorem numEqInt_congr {d e : Double} (h : d.numEq e = true) (n : Int) :
    d.numEqInt n = e.numEqInt n := by
  cases d with
  | nan k => cases h
  | infinite s =>
    cases e with
    | nan k => cases h
    | finite t m f => cases s <;> cases h
    | infinite t => cases s <;> cases t <;> rfl
  | finite s m f =>
    cases e with
    | nan k => cases h
    | infinite t => cases t <;> cases h
    | finite t n' g =>
      have heq : compareScaled (signed s m) f (signed t n') g = .eq := by
        simpa [numEq, compareTo] using h
      simpa [numEqInt, compareInt] using beq_congr (compareScaled_congr heq n 0)

/-- Doubles that are equal by value compare alike with doubles. -/
theorem numEq_congr {d e : Double} (h : d.numEq e = true) (c : Double) :
    d.numEq c = e.numEq c := by
  cases d with
  | nan k => cases h
  | infinite s =>
    cases e with
    | nan k => cases h
    | finite t m f => cases s <;> cases h
    | infinite t => cases s <;> cases t <;> first | rfl | cases h
  | finite s m f =>
    cases e with
    | nan k => cases h
    | infinite t => cases t <;> cases h
    | finite t n g =>
      cases c with
      | nan k => rfl
      | infinite r => rfl
      | finite r o i =>
        have heq : compareScaled (signed s m) f (signed t n) g = .eq := by
          simpa [numEq, compareTo] using h
        simpa [numEq, compareTo] using beq_congr (compareScaled_congr heq (signed r o) i)

end Double

namespace Value

/-! ## Texts -/

theorem alike_text_iff (v : Value) (s : String) : alike v (.text s) = true ↔ v = .text s := by
  cases v <;> simp [alike]

/-- Values that are alike are alike the same texts. -/
theorem alike_text_congr {v w : Value} (h : alike v w = true) (s : String) :
    alike v (.text s) = alike w (.text s) := by
  rw [Bool.eq_iff_iff, alike_text_iff, alike_text_iff]
  constructor
  · rintro rfl
    cases w <;> simp_all [alike]
  · rintro rfl
    exact (alike_text_iff v s).mp h

/-- Lists that are alike have the same texts as elements. -/
theorem occursIn_text_congr {xs ys : List Value} (h : alikeList xs ys = true) (s : String) :
    occursIn (.text s) xs = occursIn (.text s) ys := by
  induction xs generalizing ys with
  | nil => cases ys with
    | nil => rfl
    | cons y ys => simp [alikeList] at h
  | cons x xs ih =>
    cases ys with
    | nil => simp [alikeList] at h
    | cons y ys =>
      rw [alikeList, Bool.and_eq_true] at h
      have hrest := ih h.2
      unfold occursIn at hrest ⊢
      rw [List.any_cons, List.any_cons, alike_text_congr h.1, hrest]

/-! ## Simple values -/

/-- Apart from two absent values, the same for change detection means alike and of one type. -/
theorem sameValue_cases {v w : Value} (h : sameValue v w = true) :
    (v = .absent ∧ w = .absent) ∨
      (v.isAbsent = false ∧ w.isAbsent = false ∧ v.kind = w.kind ∧ alike v w = true
        ∧ v.isNaN = false) := by
  unfold sameValue at h
  split at h
  · rw [Bool.and_eq_true, isAbsent_iff, isAbsent_iff] at h
    exact Or.inl h
  · next hne =>
    right
    simp only [Bool.or_eq_true, not_or, Bool.not_eq_true] at hne
    simp only [Bool.and_eq_true, beq_iff_eq, equalOperands, Bool.not_eq_true'] at h
    exact ⟨hne.1, hne.2, h.1, h.2.1, h.2.2⟩

/-- Whether a value is null, a boolean, a whole number or a text, or nothing at all. -/
def isSimple : Value → Bool
  | .absent => true
  | .null => true
  | .bool _ => true
  | .int _ => true
  | .text _ => true
  | .double _ => false
  | .list _ => false
  | .object _ => false
  | .foreign => false

variable {v w : Value}

/-- No simple value is taken for another one. -/
theorem eq_of_sameValue (h : sameValue v w = true) (hw : w.isSimple = true) : v = w := by
  rcases sameValue_cases h with ⟨rfl, rfl⟩ | ⟨-, -, hkind, halike, -⟩
  · rfl
  · cases w with
    | null => cases v <;> first | rfl | cases hkind
    | bool b =>
      cases v with
      | bool a => rw [show a = b by simpa [alike] using halike]
      | _ => cases hkind
    | int b =>
      cases v with
      | int a => rw [show a = b by simpa [alike] using halike]
      | _ => cases hkind
    | text b =>
      cases v with
      | text a => rw [show a = b by simpa [alike] using halike]
      | _ => cases hkind
    | absent => cases v <;> first | rfl | cases hkind
    | _ => cases hw

/-- A value taken for a simple one is simple. -/
theorem isSimple_eq_of_sameValue (h : sameValue v w = true) : v.isSimple = w.isSimple := by
  rcases sameValue_cases h with ⟨rfl, rfl⟩ | ⟨-, -, hkind, -, -⟩
  · rfl
  · cases v <;> cases w <;> first | rfl | cases hkind

theorem sameValue_self (h : v.isSimple = true) : sameValue v v = true := by
  cases v with
  | bool b => cases b <;> rfl
  | int n => simp [sameValue, isAbsent, equalOperands, alike, isNaN]
  | text s => rw [sameValue_text, beq_self_eq_true]
  | _ => first | rfl | cases h

/-! ## Conditions -/

theorem strictlyEqual_double_congr {d e : Double} (h : d.numEq e = true) (c : Scalar) :
    strictlyEqual (.double d) c.toValue = strictlyEqual (.double e) c.toValue := by
  have hd : (Value.double d).isNaN = false := by
    cases d with
    | nan k => cases h
    | _ => rfl
  have he : (Value.double e).isNaN = false := by
    cases e with
    | nan k => rw [Double.numEq_nan_right] at h; cases h
    | _ => rfl
  cases c with
  | bool b => rfl
  | text s => rfl
  | int n =>
    simp [strictlyEqual, equalOperands, Scalar.toValue, isAbsent, isBool, isText, alike, hd, he,
      Double.numEqInt_congr h]
  | double c =>
    have hdc : alike (.double d) (.double c) = d.numEq c := by
      cases d <;> cases c <;> simp_all [alike, isNaN]
    have hec : alike (.double e) (.double c) = e.numEq c := by
      cases e <;> cases c <;> simp_all [alike, isNaN]
    simp [strictlyEqual, equalOperands, Scalar.toValue, isAbsent, isBool, isText, hd, he, hdc, hec,
      Double.numEq_congr h]

/-- **No comparison with a scalar tells values apart that change detection takes for the same.** -/
theorem strictlyEqual_congr {v w : Value} (h : sameValue v w = true) (c : Scalar) :
    strictlyEqual v c.toValue = strictlyEqual w c.toValue := by
  cases hsimple : w.isSimple with
  | true => rw [eq_of_sameValue h hsimple]
  | false =>
    rcases sameValue_cases h with ⟨rfl, rfl⟩ | ⟨-, -, hkind, halike, hnan⟩
    · rfl
    · cases w with
      | double e =>
        cases v with
        | double d =>
          have hnum : d.numEq e = true := by
            cases d <;> cases e <;> simp_all [alike, isNaN]
          exact strictlyEqual_double_congr hnum c
        | _ => cases hkind
      | list ys =>
        -- no scalar is a list or an object
        cases v with
        | list xs => cases c <;> rfl
        | _ => cases hkind
      | object gs =>
        cases v with
        | object fs => cases c <;> rfl
        | _ => cases hkind
      | foreign => cases v <;> first | rfl | cases hkind
      | _ => cases hsimple

end Value
end DynamicForms
