/-!
# `DynamicForms.Number.Double` — binary floating point numbers, exactly

A double is a sign, a whole significand of at most 53 bits and a power of two between -1074 and 971,
or an infinity, or no number at all. Values come in by rounding a quotient of whole numbers to the
nearest double, a tie going to the even significand; they are compared exactly, with each other and
with whole numbers. Nothing is ever added or multiplied, so all of it is whole-number arithmetic.

A NaN carries a mark. It is equal to no number, but a container that holds it is equal to a copy of
itself, and the mark is what tells the copy from another NaN.

## Contents
- `Double`, `Double.Canonical`.
- **Rounding.** `roundDiv`, `ofRatio`, `ofDecimal`.
- **Comparison.** `compareTo`, `compareInt`, `numEq`, `numEqInt`.
-/

namespace DynamicForms

/-- A number in binary floating point with 53 bits of significand. -/
inductive Double where
  /-- The number `mantissa * 2 ^ exponent`, negated if `negative`. -/
  | finite (negative : Bool) (mantissa : Nat) (exponent : Int)
  /-- An infinity. -/
  | infinite (negative : Bool)
  /-- Not a number; the mark tells one from another. -/
  | nan (mark : Nat)
  deriving DecidableEq, Repr, Inhabited

namespace Double

/-- The least power of two of a significand. -/
def minExponent : Int := -1074

/-- The greatest power of two of a significand. -/
def maxExponent : Int := 971

/-- The one way a finite double is written: 53 bits, or fewer at the least exponent. -/
def Canonical : Double → Prop
  | .finite _ m e =>
    m < Nat.pow 2 53 ∧ minExponent ≤ e ∧ e ≤ maxExponent ∧ (Nat.pow 2 52 ≤ m ∨ e = minExponent)
  | _ => True

/-- Zero of either sign. -/
def zero (negative : Bool) : Double := .finite negative 0 minExponent

/-! ## Rounding -/

/-- The whole number nearest to `num / den`; a tie goes to the even one. -/
def roundDiv (num den : Nat) : Nat :=
  let q := num / den
  let r := num % den
  if 2 * r < den then q
  else if den < 2 * r then q + 1
  else if q % 2 = 0 then q else q + 1

/-- `num * 2 ^ (-shift)` as a quotient of whole numbers. -/
def scaleDown (num den : Nat) (shift : Int) : Nat × Nat :=
  if 0 ≤ shift then (num, den * Nat.pow 2 shift.toNat) else (num * Nat.pow 2 (-shift).toNat, den)

/-- The power of two at which the significand of `num / den` has 53 bits, but never below the
least. -/
def exponentFor (num den : Nat) : Int :=
  let estimate : Int := (num.log2 : Int) - den.log2 - 52
  let (n, d) := scaleDown num den estimate
  let exact := if n < d * Nat.pow 2 52 then estimate - 1 else estimate
  max exact minExponent

/-- The double nearest to `num / den`, a tie going to the even significand; beyond the greatest
finite double it is an infinity. -/
def ofRatio (negative : Bool) (num den : Nat) : Double :=
  if num = 0 then zero negative
  else
    let e := exponentFor num den
    let (n, d) := scaleDown num den e
    let m := roundDiv n d
    let (m, e) := if m = Nat.pow 2 53 then (Nat.pow 2 52, e + 1) else (m, e)
    if e > maxExponent then .infinite negative else .finite negative m e

/-- The count of decimal digits of a number, at least one. -/
def decimalLength (n : Nat) : Nat :=
  (Nat.toDigits 10 n).length

/-- The double nearest to `digits * 10 ^ exponent`. Numbers far outside the range are decided by
their count of digits alone. -/
def ofDecimal (negative : Bool) (digits : Nat) (exponent : Int) : Double :=
  let magnitude := (decimalLength digits : Int) + exponent
  if digits = 0 then zero negative
  else if magnitude > 400 then .infinite negative
  else if magnitude < -400 then zero negative
  else if 0 ≤ exponent then ofRatio negative (digits * Nat.pow 10 exponent.toNat) 1
  else ofRatio negative digits (Nat.pow 10 (-exponent).toNat)

/-! ## Comparison -/

/-- The double nearest to a whole number. -/
def ofInt (n : Int) : Double :=
  ofDecimal (n < 0) n.natAbs 0

/-- A significand with its sign. -/
def signed (negative : Bool) (mantissa : Nat) : Int :=
  if negative then -mantissa else mantissa

/-- Which of two numbers given by significand and exponent is greater. -/
def compareScaled (a : Int) (e : Int) (b : Int) (f : Int) : Ordering :=
  let low := min e f
  compare (a * Nat.pow 2 (e - low).toNat) (b * Nat.pow 2 (f - low).toNat)

/-- The order of two doubles; none if one is not a number. -/
def compareTo : Double → Double → Option Ordering
  | .nan _, _ => none
  | _, .nan _ => none
  | .infinite s, .infinite t => some (compare t.toNat s.toNat)
  | .infinite s, .finite .. => some (if s then .lt else .gt)
  | .finite .., .infinite t => some (if t then .gt else .lt)
  | .finite s m e, .finite t n f => some (compareScaled (signed s m) e (signed t n) f)

/-- The order of a double and a whole number; none if the double is not a number. -/
def compareInt : Double → Int → Option Ordering
  | .nan _, _ => none
  | .infinite s, _ => some (if s then .lt else .gt)
  | .finite s m e, i => some (compareScaled (signed s m) e i 0)

/-- Equality of value: both zeros are equal, a NaN equals nothing. -/
def numEq (a b : Double) : Bool :=
  compareTo a b == some .eq

/-- Equality of value with a whole number. -/
def numEqInt (a : Double) (i : Int) : Bool :=
  compareInt a i == some .eq

/-- Whether the double is a whole number. -/
def isWhole : Double → Bool
  | .finite _ m e => 0 ≤ e || m % Nat.pow 2 (-e).toNat == 0
  | _ => false

/-- Whether the double is below zero, or is the negative zero. -/
def isNegative : Double → Bool
  | .finite s _ _ => s
  | .infinite s => s
  | .nan _ => false

theorem numEq_nan_left (k : Nat) (b : Double) : numEq (.nan k) b = false := rfl

theorem numEq_nan_right (a : Double) (k : Nat) : numEq a (.nan k) = false := by
  cases a <;> rfl

theorem compareScaled_self (a e : Int) : compareScaled a e a e = .eq := by
  simp [compareScaled, compare, compareOfLessAndEq]

theorem numEq_self_finite (s : Bool) (m : Nat) (e : Int) :
    numEq (.finite s m e) (.finite s m e) = true := by
  simp [numEq, compareTo, compareScaled_self]

end Double

end DynamicForms
