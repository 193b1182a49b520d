import DynamicForms.Number.Double
import Mathlib.Algebra.Order.Field.Power
import Mathlib.Tactic.FieldSimp
import Mathlib.Tactic.Linarith
import Mathlib.Tactic.Positivity
import Mathlib.Tactic.Ring

/-!
# `DynamicForms.Proofs.Number.Rounding` — what rounds to a double

The fractions that round to a double lie between the middles to its two neighbours, the middles
included if the significand is even. Below a power of two the neighbour is nearer by half. Rounding
does give the double for all of them: the power of two is found from the lengths of numerator and
denominator, and the whole number nearest to the scaled fraction is the significand, or, just below a
power of two, twice the significand at an exponent less by one.

So the double depends on the fraction alone and not on how it is written.

## Contents
- `RoundsTo`: what rounds to a significand and an exponent.
- **Scaling and rounding.** `scaleDown_div`, `roundDiv_eq`.
- **The exponent.** `exists_binade`, `exponentFor_eq`.
- **Doubles.** `ofRatio_of_roundsTo`, `ofDecimal_of_roundsTo`, `canonical_ofDecimal`.
-/

namespace DynamicForms.Double

/-- How far the numbers reach down that round to a significand, in units of its last place. -/
def reachBelow (m : ℕ) (e : ℤ) : ℚ :=
  if m = Nat.pow 2 52 ∧ e ≠ minExponent then 1 / 4 else 1 / 2

/-- A number rounds to a significand at an exponent: in units of the last place it is at most halfway
    to either neighbour, and halfway only if the significand is even. -/
structure RoundsTo (x : ℚ) (m : ℕ) (e : ℤ) : Prop where
  /-- Not too small. -/
  low : m - reachBelow m e ≤ x / 2 ^ e
  /-- Not too large. -/
  high : x / 2 ^ e ≤ m + 1 / 2
  /-- Ties go to even significands. -/
  tie : x / 2 ^ e = m - reachBelow m e ∨ x / 2 ^ e = m + 1 / 2 → m % 2 = 0

theorem reachBelow_le (m : ℕ) (e : ℤ) : reachBelow m e ≤ 1 / 2 := by
  unfold reachBelow
  split <;> norm_num

/-! ## Scaling and rounding -/

variable {num den : ℕ}

theorem scaleDown_div (num : ℕ) {den : ℕ} (hden : 0 < den) (shift : ℤ) :
    0 < (scaleDown num den shift).2 ∧
      ((scaleDown num den shift).1 : ℚ) / (scaleDown num den shift).2 = num / den / 2 ^ shift := by
  have hden' : (den : ℚ) ≠ 0 := by exact_mod_cast hden.ne'
  unfold scaleDown
  split
  · next h =>
    obtain ⟨k, rfl⟩ := Int.eq_ofNat_of_zero_le h
    refine ⟨by simp only [Nat.pow_eq]; positivity, ?_⟩
    simp only [Int.toNat_natCast, Nat.pow_eq, zpow_natCast]
    push_cast
    field_simp
  · next h =>
    obtain ⟨k, hk⟩ := Int.eq_ofNat_of_zero_le (show 0 ≤ -shift by omega)
    refine ⟨hden, ?_⟩
    rw [← neg_neg shift, hk, zpow_neg, zpow_natCast, neg_neg, Int.toNat_natCast, Nat.pow_eq]
    push_cast
    field_simp

/-- The whole number that is at most half away from a fraction, a tie going to the even one. -/
theorem roundDiv_eq {q : ℕ} (hden : 0 < den) (hlow : (q : ℚ) - 1 / 2 ≤ num / den)
    (hhigh : (num / den : ℚ) ≤ q + 1 / 2)
    (htie : (num / den : ℚ) = q - 1 / 2 ∨ (num / den : ℚ) = q + 1 / 2 → q % 2 = 0) :
    roundDiv num den = q := by
  have hden' : (0 : ℚ) < den := by exact_mod_cast hden
  -- the same over whole numbers
  have hlow' : 2 * (q * den) ≤ 2 * num + den := by
    rw [le_div_iff₀ hden'] at hlow
    have : (2 * (q * den) : ℚ) ≤ 2 * num + den := by linarith
    exact_mod_cast this
  have hhigh' : 2 * num ≤ 2 * (q * den) + den := by
    rw [div_le_iff₀ hden'] at hhigh
    have : (2 * num : ℚ) ≤ 2 * (q * den) + den := by linarith
    exact_mod_cast this
  have htieLow : 2 * (q * den) = 2 * num + den → q % 2 = 0 := fun h => htie <| Or.inl <| by
    have h' : (2 * (q * den) : ℚ) = 2 * num + den := by exact_mod_cast h
    rw [div_eq_iff hden'.ne']
    linarith
  have htieHigh : 2 * num = 2 * (q * den) + den → q % 2 = 0 := fun h => htie <| Or.inr <| by
    have h' : (2 * num : ℚ) = 2 * (q * den) + den := by exact_mod_cast h
    rw [div_eq_iff hden'.ne']
    linarith
  -- the quotient is the number or the one before
  have hsplit : num = num / den * den + num % den := by
    rw [Nat.mul_comm, Nat.div_add_mod]
  have hrest : num % den < den := Nat.mod_lt _ hden
  have hle : num / den ≤ q := by
    by_contra h
    have := Nat.mul_le_mul_right den (show q + 1 ≤ num / den by omega)
    rw [Nat.add_mul] at this
    omega
  have hge : q ≤ num / den + 1 := by
    by_contra h
    have := Nat.mul_le_mul_right den (show num / den + 2 ≤ q by omega)
    rw [Nat.add_mul] at this
    omega
  unfold roundDiv
  dsimp only
  obtain rfl | hq : q = num / den ∨ q = num / den + 1 := by omega
  · split
    · rfl
    · split
      · omega
      · rw [if_pos (htieHigh (by omega))]
  · rw [hq, Nat.add_mul] at hlow' hhigh' htieLow htieHigh
    rw [hq]
    split
    · omega
    · split
      · rfl
      · have := htieLow (by omega)
        rw [if_neg (by omega)]

/-! ## The exponent -/

/-- A number that is not zero lies between two powers of two that its length tells. -/
theorem log2_bounds {n : ℕ} (hn : n ≠ 0) :
    (2 : ℚ) ^ (n.log2 : ℤ) ≤ n ∧ (n : ℚ) < 2 ^ ((n.log2 : ℤ) + 1) := by
  constructor
  · rw [zpow_natCast]
    exact_mod_cast Nat.log2_self_le hn
  · have h : ((n.log2 : ℤ) + 1) = ((n.log2 + 1 : ℕ) : ℤ) := by push_cast; rfl
    rw [h, zpow_natCast]
    exact_mod_cast Nat.lt_log2_self

/-- The lengths of numerator and denominator tell a fraction up to a factor of two either way. -/
theorem log2_div_bounds (hnum : num ≠ 0) (hden : den ≠ 0) :
    (2 : ℚ) ^ ((num.log2 : ℤ) - den.log2 - 1) < num / den ∧
      (num / den : ℚ) < 2 ^ ((num.log2 : ℤ) - den.log2 + 1) := by
  obtain ⟨hnumLow, hnumHigh⟩ := log2_bounds hnum
  obtain ⟨hdenLow, hdenHigh⟩ := log2_bounds hden
  have hden' : (0 : ℚ) < den := by exact_mod_cast Nat.pos_of_ne_zero hden
  have htwo : (2 : ℚ) ≠ 0 := two_ne_zero
  constructor
  · rw [lt_div_iff₀ hden']
    calc (2 : ℚ) ^ ((num.log2 : ℤ) - den.log2 - 1) * den
        < 2 ^ ((num.log2 : ℤ) - den.log2 - 1) * 2 ^ ((den.log2 : ℤ) + 1) := by gcongr
      _ = 2 ^ (num.log2 : ℤ) := by rw [← zpow_add₀ htwo]; congr 1; ring
      _ ≤ num := hnumLow
  · rw [div_lt_iff₀ hden']
    calc (num : ℚ) < 2 ^ ((num.log2 : ℤ) + 1) := hnumHigh
      _ = 2 ^ ((num.log2 : ℤ) - den.log2 + 1) * 2 ^ (den.log2 : ℤ) := by
        rw [← zpow_add₀ htwo]; congr 1; ring
      _ ≤ 2 ^ ((num.log2 : ℤ) - den.log2 + 1) * den := by gcongr

/-- The exponent is the one at which the significand has 53 bits, unless that is below the least. -/
theorem exists_binade (hnum : num ≠ 0) (hden : 0 < den) :
    ∃ e : ℤ, exponentFor num den = max e minExponent ∧
      (2 : ℚ) ^ (52 + e) ≤ num / den ∧ (num / den : ℚ) < 2 ^ (53 + e) := by
  obtain ⟨hlow, hhigh⟩ := log2_div_bounds hnum hden.ne'
  have htwo : (2 : ℚ) ≠ 0 := two_ne_zero
  unfold exponentFor
  dsimp only
  generalize hest : (num.log2 : ℤ) - den.log2 - 52 = estimate
  obtain ⟨hpos, hscaled⟩ := scaleDown_div num hden estimate
  have hpos' : (0 : ℚ) < (scaleDown num den estimate).2 := by exact_mod_cast hpos
  -- the scaled fraction is compared with 2 ^ 52 over whole numbers
  have hcompare : (scaleDown num den estimate).1 < (scaleDown num den estimate).2 * Nat.pow 2 52 ↔
      (num / den : ℚ) < 2 ^ (52 + estimate) := by
    have hcast : (scaleDown num den estimate).1 < (scaleDown num den estimate).2 * Nat.pow 2 52 ↔
        ((scaleDown num den estimate).1 : ℚ) / (scaleDown num den estimate).2 < 2 ^ (52 : ℤ) := by
      rw [div_lt_iff₀ hpos', mul_comm, Nat.pow_eq]
      norm_cast
    rw [hcast, hscaled, div_lt_iff₀ (by positivity), ← zpow_add₀ htwo]
  split
  · next h =>
    refine ⟨estimate - 1, rfl, ?_, ?_⟩
    · refine le_of_lt (lt_of_eq_of_lt ?_ hlow)
      congr 1
      omega
    · refine lt_of_lt_of_eq (hcompare.mp h) ?_
      congr 1
      omega
  · next h =>
    refine ⟨estimate, rfl, not_lt.mp (fun hlt => h (hcompare.mpr hlt)), ?_⟩
    refine lt_of_lt_of_eq hhigh ?_
    congr 1
    omega

/-- The exponent is the one at which the significand has 53 bits, or the least one, at which it may
    have fewer. -/
theorem exponentFor_eq {e : ℤ} (hnum : num ≠ 0) (hden : 0 < den) (hmin : minExponent ≤ e)
    (hlow : (2 : ℚ) ^ 52 ≤ num / den / 2 ^ e ∨ e = minExponent)
    (hhigh : (num / den / 2 ^ e : ℚ) < 2 ^ 53) : exponentFor num den = e := by
  obtain ⟨exact, heq, hexactLow, hexactHigh⟩ := exists_binade hnum hden
  have hone : (1 : ℚ) < 2 := one_lt_two
  have htwo : (2 : ℚ) ≠ 0 := two_ne_zero
  have hle : exact ≤ e := by
    rw [div_lt_iff₀ (by positivity), ← zpow_natCast, ← zpow_add₀ htwo] at hhigh
    have := (zpow_lt_zpow_iff_right₀ hone).mp (lt_of_le_of_lt hexactLow hhigh)
    omega
  rw [heq]
  rcases hlow with hlow | rfl
  · rw [le_div_iff₀ (by positivity), ← zpow_natCast, ← zpow_add₀ htwo] at hlow
    have := (zpow_lt_zpow_iff_right₀ hone).mp (lt_of_le_of_lt hlow hexactHigh)
    omega
  · omega

/-! ## Doubles -/

variable {negative : Bool} {m : ℕ} {e : ℤ}

/-- The double of a fraction, from the nearest significand at the exponent: if that has one bit too
    many, it is a power of two and goes to the next exponent. -/
theorem ofRatio_eq {rounded : ℕ} {shift : ℤ} (hnum : num ≠ 0) (hexponent : exponentFor num den = shift)
    (hround : roundDiv (scaleDown num den shift).1 (scaleDown num den shift).2 = rounded)
    (hcarry : (if rounded = Nat.pow 2 53 then (Nat.pow 2 52, shift + 1) else (rounded, shift)) = (m, e)) :
    ofRatio negative num den = if e > maxExponent then .infinite negative else .finite negative m e := by
  rw [ofRatio, if_neg hnum, hexponent]
  -- only the bindings: a step into the matches would compare significands by counting
  dsimp -iota only
  split
  next n d hscale =>
  rw [hscale] at hround
  rw [show roundDiv n d = rounded from hround, hcarry]

/-- What rounds to a significand that is not zero is positive. -/
theorem RoundsTo.pos {x : ℚ} (h : RoundsTo x m e) (hm : m ≠ 0) : 0 < x := by
  have hone : (1 : ℚ) ≤ m := by exact_mod_cast Nat.one_le_iff_ne_zero.mpr hm
  have hscaled : 0 < x / 2 ^ e := by linarith [h.low, reachBelow_le m e]
  exact (div_pos_iff_of_pos_right (by positivity)).mp hscaled

/-- **A fraction that rounds to a double is rounded to it.** -/
theorem ofRatio_of_roundsTo (hcanonical : Canonical (.finite negative m e)) (hm : m ≠ 0)
    (hden : 0 < den) (h : RoundsTo (num / den) m e) :
    ofRatio negative num den = .finite negative m e := by
  obtain ⟨hbits, hmin, hmax, hnormal⟩ := hcanonical
  have hnum : num ≠ 0 := by
    rintro rfl
    simpa using h.pos hm
  have hbits' : (m : ℚ) + 1 ≤ 2 ^ 53 := by exact_mod_cast hbits
  obtain ⟨hlow, hhigh, htie⟩ := h
  obtain ⟨hpos, hscaled⟩ := scaleDown_div num hden e
  by_cases hcarry : (m = Nat.pow 2 52 ∧ e ≠ minExponent) ∧ (num / den / 2 ^ e : ℚ) < 2 ^ 52
  · -- just below a power of two the exponent is less by one
    obtain ⟨⟨rfl, he⟩, hbelow⟩ := hcarry
    rw [reachBelow, if_pos ⟨rfl, he⟩] at hlow
    have hdouble : (num / den / 2 ^ (e - 1) : ℚ) = 2 * (num / den / 2 ^ e) := by
      rw [zpow_sub_one₀ two_ne_zero]
      field_simp
    obtain ⟨hpos, hscaled⟩ := scaleDown_div num hden (e - 1)
    rw [hdouble] at hscaled
    push_cast [Nat.pow_eq] at hlow
    have hexponent : exponentFor num den = e - 1 := by
      refine exponentFor_eq hnum hden (by omega) (Or.inl ?_) ?_ <;> rw [hdouble] <;> linarith
    have hround : roundDiv (scaleDown num den (e - 1)).1 (scaleDown num den (e - 1)).2 = Nat.pow 2 53 := by
      refine roundDiv_eq hpos ?_ ?_ fun _ => by decide
      · rw [hscaled]
        push_cast [Nat.pow_eq]
        linarith
      · rw [hscaled]
        push_cast [Nat.pow_eq]
        linarith
    refine (ofRatio_eq hnum hexponent hround ?_).trans (if_neg (not_lt.mpr hmax))
    rw [if_pos rfl, Int.sub_add_cancel]
  · have hreach : (m : ℚ) - 1 / 2 ≤ num / den / 2 ^ e := by linarith [reachBelow_le m e]
    have hexponent : exponentFor num den = e := by
      refine exponentFor_eq hnum hden hmin ?_ (by linarith)
      by_cases he : e = minExponent
      · exact Or.inr he
      · refine Or.inl ?_
        have hm52 : Nat.pow 2 52 ≤ m := hnormal.resolve_right he
        by_cases heq : m = Nat.pow 2 52
        · exact not_lt.mp fun hlt => hcarry ⟨⟨heq, he⟩, hlt⟩
        · have : (2 : ℚ) ^ 52 + 1 ≤ m := by exact_mod_cast lt_of_le_of_ne hm52 (Ne.symm heq)
          linarith
    have hround : roundDiv (scaleDown num den e).1 (scaleDown num den e).2 = m := by
      refine roundDiv_eq hpos ?_ ?_ ?_ <;> rw [hscaled]
      · exact hreach
      · exact hhigh
      · rintro (heq | heq)
        · -- halfway down is in reach only where the neighbour is no nearer
          refine htie (Or.inl ?_)
          linarith [reachBelow_le m e]
        · exact htie (Or.inr heq)
    exact (ofRatio_eq hnum hexponent hround (if_neg hbits.ne)).trans (if_neg (not_lt.mpr hmax))

/-- The count of digits tells a number up to a factor of ten. -/
theorem decimalLength_bounds {n : ℕ} (hn : n ≠ 0) :
    (10 : ℚ) ^ ((decimalLength n : ℤ) - 1) ≤ n ∧ (n : ℚ) < 10 ^ (decimalLength n : ℤ) := by
  obtain ⟨k, hk⟩ := Nat.exists_eq_succ_of_ne_zero (Nat.length_toDigits_pos (b := 10) (n := n)).ne'
  have hlength : decimalLength n = k + 1 := hk
  rw [hlength]
  push_cast
  rw [add_sub_cancel_right, zpow_natCast]
  constructor
  · rcases Nat.eq_zero_or_pos k with rfl | hpos
    · exact_mod_cast Nat.one_le_iff_ne_zero.mpr hn
    · have hnot : ¬n < 10 ^ k := fun hlt => by
        have := (Nat.length_toDigits_le_iff (by decide) hpos).mpr hlt
        omega
      exact_mod_cast not_lt.mp hnot
  · have hlt : n < 10 ^ (k + 1) := (Nat.length_toDigits_le_iff (by decide) k.succ_pos).mp hk.le
    exact_mod_cast hlt

/-- A decimal number lies between two powers of ten that its digits and its exponent tell. -/
theorem decimal_bounds {digits : ℕ} (hdigits : digits ≠ 0) (exponent : ℤ) :
    (10 : ℚ) ^ ((decimalLength digits : ℤ) + exponent - 1) ≤ digits * 10 ^ exponent ∧
      (digits * 10 ^ exponent : ℚ) < 10 ^ ((decimalLength digits : ℤ) + exponent) := by
  obtain ⟨hlow, hhigh⟩ := decimalLength_bounds hdigits
  have hten : (10 : ℚ) ≠ 0 := by norm_num
  constructor
  · rw [show (decimalLength digits : ℤ) + exponent - 1 = (decimalLength digits - 1) + exponent by ring,
      zpow_add₀ hten]
    gcongr
  · rw [zpow_add₀ hten]
    gcongr

/-- What rounds to a double is far from where the count of digits alone decides. -/
theorem RoundsTo.bounds {x : ℚ} (hcanonical : Canonical (.finite negative m e)) (hm : m ≠ 0)
    (h : RoundsTo x m e) : (10 : ℚ) ^ (-401 : ℤ) ≤ x ∧ x < 10 ^ (400 : ℤ) := by
  obtain ⟨hbits, hmin, hmax, -⟩ := hcanonical
  have hpow : (0 : ℚ) < 2 ^ e := by positivity
  have height : ∀ k : ℕ, ((2 : ℚ) ^ (3 * k : ℤ)) ≤ 10 ^ (k : ℤ) := fun k => by
    rw [zpow_mul, zpow_natCast, zpow_natCast]
    exact pow_le_pow_left₀ (by norm_num) (by norm_num) k
  constructor
  · have hone : (1 : ℚ) ≤ m := by exact_mod_cast Nat.one_le_iff_ne_zero.mpr hm
    have hhalf : (1 / 2 : ℚ) ≤ x / 2 ^ e := by linarith [h.low, reachBelow_le m e]
    calc (10 : ℚ) ^ (-401 : ℤ) = (10 ^ ((401 : ℕ) : ℤ))⁻¹ := zpow_neg _ _
      _ ≤ (2 ^ (3 * (401 : ℕ) : ℤ))⁻¹ := by gcongr; exact height 401
      _ = 2 ^ (-(3 * (401 : ℕ)) : ℤ) := (zpow_neg _ _).symm
      _ ≤ 2 ^ (e - 1) := zpow_le_zpow_right₀ one_le_two (by unfold minExponent at hmin; omega)
      _ = 1 / 2 * 2 ^ e := by rw [zpow_sub_one₀ two_ne_zero]; ring
      _ ≤ x := (le_div_iff₀ hpow).mp hhalf
  · have hbits' : (m : ℚ) + 1 ≤ 2 ^ (53 : ℤ) := by exact_mod_cast hbits
    calc x ≤ (m + 1 / 2) * 2 ^ e := (div_le_iff₀ hpow).mp h.high
      _ < 2 ^ (53 : ℤ) * 2 ^ e := by gcongr; linarith
      _ = 2 ^ (53 + e) := (zpow_add₀ two_ne_zero _ _).symm
      _ ≤ 2 ^ (3 * (400 : ℕ) : ℤ) :=
        zpow_le_zpow_right₀ one_le_two (by unfold maxExponent at hmax; omega)
      _ ≤ 10 ^ (400 : ℤ) := height 400

/-- **A decimal number that rounds to a double is read as that double**, however it is split into
    digits and an exponent. -/
theorem ofDecimal_of_roundsTo {digits : ℕ} {exponent : ℤ} (hcanonical : Canonical (.finite negative m e))
    (hm : m ≠ 0) (h : RoundsTo (digits * 10 ^ exponent) m e) :
    ofDecimal negative digits exponent = .finite negative m e := by
  have hdigits : digits ≠ 0 := by
    rintro rfl
    simpa using h.pos hm
  obtain ⟨hlow, hhigh⟩ := decimal_bounds hdigits exponent
  obtain ⟨hleast, hgreatest⟩ := h.bounds hcanonical hm
  have hone : (1 : ℚ) < 10 := by norm_num
  have hsmall : (decimalLength digits : ℤ) + exponent - 1 < 400 :=
    (zpow_lt_zpow_iff_right₀ hone).mp (hlow.trans_lt hgreatest)
  have hlarge : -401 < (decimalLength digits : ℤ) + exponent :=
    (zpow_lt_zpow_iff_right₀ hone).mp (hleast.trans_lt hhigh)
  unfold ofDecimal
  rw [if_neg hdigits, if_neg (by omega), if_neg (by omega)]
  split
  · next hexponent =>
    obtain ⟨k, rfl⟩ := Int.eq_ofNat_of_zero_le hexponent
    refine ofRatio_of_roundsTo hcanonical hm Nat.one_pos ?_
    rw [zpow_natCast] at h
    simpa [Nat.pow_eq] using h
  · next hexponent =>
    obtain ⟨k, hk⟩ := Int.eq_ofNat_of_zero_le (show 0 ≤ -exponent by omega)
    refine ofRatio_of_roundsTo hcanonical hm (by rw [Nat.pow_eq]; positivity) ?_
    rw [← neg_neg exponent, hk, zpow_neg, zpow_natCast, ← div_eq_mul_inv] at h
    simpa [hk, Nat.pow_eq] using h

/-! ## What rounding gives -/

theorem roundDiv_le {k : ℕ} (hden : 0 < den) (h : (num / den : ℚ) ≤ k) : roundDiv num den ≤ k := by
  have h : num ≤ k * den := by
    rw [div_le_iff₀ (by exact_mod_cast hden)] at h
    exact_mod_cast h
  have hle : num / den ≤ k := Nat.div_le_of_le_mul (by rwa [Nat.mul_comm])
  have hlt : 0 < num % den → num / den < k := fun hpos => by
    rw [Nat.div_lt_iff_lt_mul hden]
    refine lt_of_le_of_ne h ?_
    rintro rfl
    simp at hpos
  unfold roundDiv
  dsimp only
  split
  · exact hle
  · have := hlt (by omega)
    split
    · omega
    · split <;> omega

theorem le_roundDiv {k : ℕ} (hden : 0 < den) (h : (k : ℚ) ≤ num / den) : k ≤ roundDiv num den := by
  have h : k * den ≤ num := by
    rw [le_div_iff₀ (by exact_mod_cast hden)] at h
    exact_mod_cast h
  have hle : k ≤ num / den := (Nat.le_div_iff_mul_le hden).mpr h
  unfold roundDiv
  dsimp only
  split
  · exact hle
  · split
    · omega
    · split <;> omega

theorem canonical_zero : Canonical (zero negative) :=
  ⟨by decide, le_rfl, by decide, Or.inr rfl⟩

/-- Rounding gives a double in the one way there is to write it. -/
theorem canonical_ofRatio (hden : 0 < den) : Canonical (ofRatio negative num den) := by
  by_cases hnum : num = 0
  · rw [ofRatio, if_pos hnum]
    exact canonical_zero
  · obtain ⟨exact, hexponent, hlow, hhigh⟩ := exists_binade hnum hden
    generalize hshift : max exact minExponent = shift at hexponent
    obtain ⟨hpos, hscaled⟩ := scaleDown_div num hden shift
    generalize hround : roundDiv (scaleDown num den shift).1 (scaleDown num den shift).2 = rounded
    have htwo : (2 : ℚ) ≠ 0 := two_ne_zero
    have hle : rounded ≤ Nat.pow 2 53 := by
      rw [← hround]
      refine roundDiv_le hpos ?_
      rw [hscaled, div_le_iff₀ (by positivity)]
      calc (num / den : ℚ) ≤ 2 ^ (53 + exact) := hhigh.le
        _ ≤ 2 ^ (53 + shift) := zpow_le_zpow_right₀ one_le_two (by omega)
        _ = (Nat.pow 2 53 : ℕ) * 2 ^ shift := by rw [zpow_add₀ htwo, Nat.pow_eq]; norm_cast
    have hnormal : Nat.pow 2 52 ≤ rounded ∨ shift = minExponent := by
      rcases le_total exact minExponent with hmin | hmin
      · exact Or.inr (by omega)
      · refine Or.inl ?_
        rw [← hround]
        refine le_roundDiv hpos ?_
        rw [hscaled, le_div_iff₀ (by positivity)]
        calc ((Nat.pow 2 52 : ℕ) : ℚ) * 2 ^ shift = 2 ^ (52 + shift) := by
              rw [zpow_add₀ htwo, Nat.pow_eq]; norm_cast
          _ = 2 ^ (52 + exact) := by rw [← hshift, max_eq_left hmin]
          _ ≤ num / den := hlow
    have hmin : minExponent ≤ shift := by omega
    by_cases hfull : rounded = Nat.pow 2 53
    · rw [ofRatio_eq hnum hexponent hround (if_pos hfull)]
      split
      · trivial
      · exact ⟨by decide, by omega, by omega, Or.inl le_rfl⟩
    · rw [ofRatio_eq hnum hexponent hround (if_neg hfull)]
      split
      · trivial
      · exact ⟨lt_of_le_of_ne hle hfull, hmin, by omega, hnormal⟩

theorem canonical_ofDecimal (digits : ℕ) (exponent : ℤ) :
    Canonical (ofDecimal negative digits exponent) := by
  unfold ofDecimal
  dsimp only
  split
  · exact canonical_zero
  · split
    · trivial
    · split
      · exact canonical_zero
      · split
        · exact canonical_ofRatio Nat.one_pos
        · exact canonical_ofRatio (by rw [Nat.pow_eq]; positivity)

end DynamicForms.Double
