import DynamicForms.Number.Shortest
import DynamicForms.Proofs.Number.Rounding
import Mathlib.Algebra.Order.Floor.Semifield
import Mathlib.Data.Rat.Floor

/-!
# `DynamicForms.Proofs.Number.Shortest` — the shortest digits read back

The digits found for a double are in its interval, so they are read as the double again. They are
found after at most seventeen grids: on the grid of seventeen digits a step is less than the part
`10 ^ -16` of the value, which is less than twice the way to the nearer end of the interval.

The search starts at the count of digits before the point. That is estimated from the lengths of
numerator and denominator with a fraction just below the logarithm of two, and never too high.

## Contents
- **Intervals.** `interval_holds_iff`, `roundsTo_of_near`.
- **Grids.** `gridPoint_div`, `holds_of_gridHit?`, `gridHit?_isSome`.
- **The search.** `magnitude_le`, `shortestFrom_eq`.
- `shortest_roundsTo`: what is found rounds to the double.
-/

namespace DynamicForms.Double

variable {m num den : ℕ} {e power : ℤ}

/-! ## Intervals -/

/-- Powers above and below the line of a fraction. -/
theorem pow_div_pow (base : ℕ) (shift : ℤ) :
    ((Nat.pow base shift.toNat : ℕ) : ℚ) / (Nat.pow base (-shift).toNat : ℕ) = (base : ℚ) ^ shift := by
  rcases le_total 0 shift with h | h
  · obtain ⟨k, rfl⟩ := Int.eq_ofNat_of_zero_le h
    simp [Nat.pow_eq]
  · obtain ⟨k, hk⟩ := Int.eq_ofNat_of_zero_le (show 0 ≤ -shift by omega)
    obtain rfl : shift = -(k : ℤ) := by omega
    simp [Nat.pow_eq]

theorem interval_den_pos (m : ℕ) (e : ℤ) : 0 < (interval m e).den := by
  simp only [interval, Nat.pow_eq]
  positivity

/-- Four times a number over the denominator of the interval, in units of the last place. -/
theorem quarter_div_den (n m : ℕ) (e : ℤ) :
    ((n * Nat.pow 2 (e - 2).toNat : ℕ) : ℚ) / (interval m e).den = n / 4 * 2 ^ e := by
  have hscale := pow_div_pow 2 (e - 2)
  rw [neg_sub] at hscale
  rw [interval, Nat.cast_mul, mul_div_assoc, hscale, Nat.cast_ofNat, zpow_sub₀ two_ne_zero]
  ring

theorem interval_value (m : ℕ) (e : ℤ) :
    ((interval m e).value : ℚ) / (interval m e).den = m * 2 ^ e :=
  (quarter_div_den (4 * m) m e).trans (by push_cast; ring)

theorem interval_high (m : ℕ) (e : ℤ) :
    ((interval m e).high : ℚ) / (interval m e).den = (m + 1 / 2) * 2 ^ e :=
  (quarter_div_den (4 * m + 2) m e).trans (by push_cast; ring)

theorem interval_low (hm : m ≠ 0) (e : ℤ) :
    ((interval m e).low : ℚ) / (interval m e).den = (m - reachBelow m e) * 2 ^ e := by
  refine (quarter_div_den _ m e).trans ?_
  rw [reachBelow]
  by_cases h : m = Nat.pow 2 52 ∧ e ≠ minExponent
  · rw [if_pos (by simpa using h), if_pos h, Nat.cast_sub (by omega)]
    push_cast
    ring
  · rw [if_neg (by simpa using h), if_neg h, Nat.cast_sub (by omega)]
    push_cast
    ring

/-- The interval of a significand is what rounds to it. -/
theorem interval_holds_iff (hm : m ≠ 0) (hden : 0 < den) :
    (interval m e).holds num den = true ↔ RoundsTo (num / den) m e := by
  have hpow : (0 : ℚ) < 2 ^ e := by positivity
  have hden' : (0 : ℚ) < den := by exact_mod_cast hden
  have hden'' : (0 : ℚ) < (interval m e).den := by exact_mod_cast interval_den_pos m e
  have hlow : (interval m e).low * den ≤ num * (interval m e).den ↔
      (m : ℚ) - reachBelow m e ≤ num / den / 2 ^ e := by
    rw [le_div_iff₀ hpow, ← interval_low hm, div_le_div_iff₀ hden'' hden']
    norm_cast
  have hlow' : (interval m e).low * den < num * (interval m e).den ↔
      (m : ℚ) - reachBelow m e < num / den / 2 ^ e := by
    rw [lt_div_iff₀ hpow, ← interval_low hm, div_lt_div_iff₀ hden'' hden']
    norm_cast
  have hhigh : num * (interval m e).den ≤ (interval m e).high * den ↔
      (num / den / 2 ^ e : ℚ) ≤ m + 1 / 2 := by
    rw [div_le_iff₀ hpow, ← interval_high, div_le_div_iff₀ hden' hden'']
    norm_cast
  have hhigh' : num * (interval m e).den < (interval m e).high * den ↔
      (num / den / 2 ^ e : ℚ) < m + 1 / 2 := by
    rw [div_lt_iff₀ hpow, ← interval_high, div_lt_div_iff₀ hden' hden'']
    norm_cast
  have hclosed : (interval m e).closed = true ↔ m % 2 = 0 := by simp [interval]
  unfold Interval.holds
  split
  · next h =>
    rw [Bool.and_eq_true, decide_eq_true_eq, decide_eq_true_eq, hlow, hhigh]
    exact ⟨fun ⟨hl, hh⟩ => ⟨hl, hh, fun _ => hclosed.mp h⟩, fun h => ⟨h.low, h.high⟩⟩
  · next h =>
    rw [Bool.and_eq_true, decide_eq_true_eq, decide_eq_true_eq, hlow', hhigh']
    rw [hclosed] at h
    refine ⟨fun ⟨hl, hh⟩ => ⟨hl.le, hh.le, ?_⟩, fun hround => ⟨?_, ?_⟩⟩
    · rintro (heq | heq)
      · exact absurd heq hl.ne'
      · exact absurd heq hh.ne
    · exact lt_of_le_of_ne hround.low fun heq => h (hround.tie (Or.inl heq.symm))
    · exact lt_of_le_of_ne hround.high fun heq => h (hround.tie (Or.inr heq))

/-- A number that is at most half a step away from the value rounds to it, if the step is one of
    seventeen digits. -/
theorem roundsTo_of_near {x step : ℚ} (hm : m ≠ 0) (hbits : m < Nat.pow 2 53)
    (hstep : step * 10 ^ 16 ≤ m * 2 ^ e) (hbelow : m * 2 ^ e - x ≤ step / 2)
    (habove : x - m * 2 ^ e ≤ step / 2) : RoundsTo x m e := by
  have hpow : (0 : ℚ) < 2 ^ e := by positivity
  have hone : (1 : ℚ) ≤ m := by exact_mod_cast Nat.one_le_iff_ne_zero.mpr hm
  have hbits' : (m : ℚ) + 1 ≤ 2 ^ 53 := by exact_mod_cast hbits
  -- the same in units of the last place
  have hstep' : step / 2 ^ e * 10 ^ 16 ≤ m := by
    rw [div_mul_eq_mul_div, div_le_iff₀ hpow]
    exact hstep
  have hbelow' : m - x / 2 ^ e ≤ step / 2 ^ e / 2 := by
    have : m - x / 2 ^ e = (m * 2 ^ e - x) / 2 ^ e := by field_simp
    rw [this, div_right_comm]
    gcongr
  have habove' : x / 2 ^ e - m ≤ step / 2 ^ e / 2 := by
    have : x / 2 ^ e - m = (x - m * 2 ^ e) / 2 ^ e := by field_simp
    rw [this, div_right_comm]
    gcongr
  have hlow : (m : ℚ) - reachBelow m e < x / 2 ^ e := by
    unfold reachBelow
    split
    · next h =>
      have hm52 : (m : ℚ) = 2 ^ 52 := by exact_mod_cast congrArg (Nat.cast (R := ℚ)) h.1
      linarith
    · linarith
  have hhigh : x / 2 ^ e < m + 1 / 2 := by linarith
  refine ⟨hlow.le, hhigh.le, ?_⟩
  rintro (heq | heq)
  · exact absurd heq hlow.ne'
  · exact absurd heq hhigh.ne

/-! ## Grids -/

theorem gridPoint_div (count : ℕ) (power : ℤ) :
    0 < (gridPoint count power).2 ∧
      ((gridPoint count power).1 : ℚ) / (gridPoint count power).2 = count * 10 ^ power := by
  refine ⟨by simp only [gridPoint, Nat.pow_eq]; positivity, ?_⟩
  have hscale := pow_div_pow 10 power
  rw [gridPoint, Nat.cast_mul, mul_div_assoc, hscale, Nat.cast_ofNat]

/-- The step of a grid. -/
theorem gridStep_div (power : ℤ) :
    ((gridPoint 1 power).1 : ℚ) / (gridPoint 1 power).2 = 10 ^ power := by
  rw [(gridPoint_div 1 power).2, Nat.cast_one, one_mul]

/-- What is found on a grid is in the interval. -/
theorem holds_of_gridHit? {i : Interval} {n : ℕ} (h : gridHit? i power = some n) :
    i.holds (gridPoint n power).1 (gridPoint n power).2 = true := by
  unfold gridHit? at h
  dsimp only at h
  split at h
  · next hdown hup =>
    rw [Bool.and_eq_true] at hdown
    split at h
    · cases h
      exact hdown.1
    · split at h
      · cases h
        exact hup
      · split at h
        · cases h
          exact hdown.1
        · cases h
          exact hup
  · next hdown _ =>
    rw [Bool.and_eq_true] at hdown
    cases h
    exact hdown.1
  · next hup =>
    cases h
    exact hup
  · cases h

/-- A grid is hit if one of the two neighbours of the value is in the interval. -/
theorem gridHit?_isSome_of {i : Interval} {down : ℕ}
    (hdown : down = i.value * (gridPoint 1 power).2 / (i.den * (gridPoint 1 power).1))
    (h : i.holds (gridPoint down power).1 (gridPoint down power).2 = true ∧ down ≠ 0 ∨
      i.holds (gridPoint (down + 1) power).1 (gridPoint (down + 1) power).2 = true) :
    (gridHit? i power).isSome = true := by
  subst hdown
  unfold gridHit?
  dsimp only
  split
  · split
    · rfl
    · split
      · rfl
      · split <;> rfl
  · rfl
  · rfl
  · next hnotDown hnotUp =>
    exfalso
    rcases h with ⟨hholds, hne⟩ | hholds
    · simp [hholds, hne] at hnotDown
    · simp [hholds] at hnotUp

/-- **On a grid of seventeen digits there is a number that rounds to the double.** -/
theorem gridHit?_isSome (hm : m ≠ 0) (hbits : m < Nat.pow 2 53)
    (hstep : (10 : ℚ) ^ power * 10 ^ 16 ≤ m * 2 ^ e) :
    (gridHit? (interval m e) power).isSome = true := by
  have hpower : (0 : ℚ) < 10 ^ power := by positivity
  generalize hdown : (interval m e).value * (gridPoint 1 power).2 /
    ((interval m e).den * (gridPoint 1 power).1) = down
  -- the value over the step lies between the two neighbours
  have hquotient : (((interval m e).value * (gridPoint 1 power).2 : ℕ) : ℚ) /
      ((interval m e).den * (gridPoint 1 power).1 : ℕ) = m * 2 ^ e / 10 ^ power := by
    rw [← interval_value, ← gridStep_div, div_div_div_eq, Nat.cast_mul, Nat.cast_mul]
  have hfloor : ⌊(m * 2 ^ e / 10 ^ power : ℚ)⌋₊ = down := by
    rw [← hdown, ← hquotient, Nat.floor_div_eq_div]
  have hle : (down : ℚ) * 10 ^ power ≤ m * 2 ^ e := by
    rw [← le_div_iff₀ hpower, ← hfloor]
    exact Nat.floor_le (by positivity)
  have hlt : m * 2 ^ e < ((down + 1 : ℕ) : ℚ) * 10 ^ power := by
    rw [← div_lt_iff₀ hpower, ← hfloor]
    exact_mod_cast Nat.lt_floor_add_one _
  have hholds : ∀ n : ℕ, RoundsTo (n * 10 ^ power) m e →
      (interval m e).holds (gridPoint n power).1 (gridPoint n power).2 = true := fun n h => by
    rw [interval_holds_iff hm (gridPoint_div n power).1, (gridPoint_div n power).2]
    exact h
  push_cast at hlt
  refine gridHit?_isSome_of hdown.symm ?_
  -- the nearer of the two is at most half a step away
  rcases le_total (m * 2 ^ e - down * 10 ^ power : ℚ) (10 ^ power / 2) with hnear | hnear
  · refine Or.inl ⟨hholds _ (roundsTo_of_near hm hbits hstep hnear (by linarith)), ?_⟩
    rintro rfl
    norm_num at hlt
    linarith
  · refine Or.inr (hholds _ (roundsTo_of_near hm hbits hstep ?_ ?_)) <;> push_cast <;> linarith

/-! ## The search -/

/-- The estimate of the power of ten below a power of two is not too high. -/
theorem ten_pow_estimate {k : ℤ} (hlow : -40000 ≤ k) (hhigh : k ≤ 40000) :
    (10 : ℚ) ^ (k * 1233 / 4096 - 2) ≤ 2 ^ k := by
  generalize hpower : k * 1233 / 4096 - 2 = power
  rcases le_total 0 k with hk | hk
  · -- 59 / 196 is just below the logarithm of two
    have hroot : ((10 : ℚ) ^ power) ^ 196 ≤ (2 ^ k) ^ 196 := by
      calc ((10 : ℚ) ^ power) ^ 196 = 10 ^ (power * 196) := by rw [zpow_mul]; norm_cast
        _ ≤ 10 ^ (59 * k) := zpow_le_zpow_right₀ (by norm_num) (by omega)
        _ = (10 ^ 59) ^ k := by rw [zpow_mul]; norm_cast
        _ ≤ (2 ^ 196) ^ k := zpow_le_zpow_left₀ hk (by norm_num) (by norm_num)
        _ = (2 ^ k) ^ 196 := by rw [← zpow_natCast, ← zpow_natCast, ← zpow_mul, ← zpow_mul, mul_comm]
    exact (pow_le_pow_iff_left₀ (by positivity) (by positivity) (by norm_num)).mp hroot
  · -- 28 / 93 is just above it
    obtain ⟨n, hn⟩ := Int.eq_ofNat_of_zero_le (show 0 ≤ -k by omega)
    obtain rfl : k = -(n : ℤ) := by omega
    have hroot : ((10 : ℚ) ^ power) ^ 93 ≤ (2 ^ (-(n : ℤ))) ^ 93 := by
      calc ((10 : ℚ) ^ power) ^ 93 = 10 ^ (power * 93) := by rw [zpow_mul]; norm_cast
        _ ≤ 10 ^ (-(28 * n : ℕ) : ℤ) := zpow_le_zpow_right₀ (by norm_num) (by push_cast; omega)
        _ = ((10 ^ 28) ^ n)⁻¹ := by rw [zpow_neg, zpow_natCast, pow_mul]
        _ ≤ ((2 ^ 93) ^ n)⁻¹ := by gcongr; norm_num
        _ = (2 ^ (-(n : ℤ))) ^ 93 := by rw [zpow_neg, zpow_natCast, inv_pow, ← pow_mul, ← pow_mul, mul_comm]
    exact (pow_le_pow_iff_left₀ (by positivity) (by positivity) (by norm_num)).mp hroot

/-- Going up from below, the power of ten stays at most one above the value. -/
theorem magnitudeFrom_le (hden : 0 < den) (steps : ℕ) {start : ℤ}
    (hstart : (10 : ℚ) ^ (start - 1) ≤ num / den) :
    (10 : ℚ) ^ (magnitudeFrom num den steps start - 1) ≤ num / den := by
  induction steps generalizing start with
  | zero => exact hstart
  | succ steps ih =>
    unfold magnitudeFrom
    dsimp only
    split
    · exact hstart
    · next hnot =>
      refine ih ?_
      rw [add_sub_cancel_right, ← gridStep_div,
        div_le_div_iff₀ (by exact_mod_cast (gridPoint_div 1 start).1) (by exact_mod_cast hden)]
      exact_mod_cast not_lt.mp hnot

/-- What the search finds is on one of the grids it tries, if one of them is hit at all. -/
theorem shortestFrom_eq {i : Interval} {top : ℤ} (left tried : ℕ) {j : ℕ} (hj : tried ≤ j)
    (hleft : j < tried + left) (hhit : (gridHit? i (top - j - 1)).isSome = true) :
    gridHit? i (shortestFrom i top left tried).2 = some (shortestFrom i top left tried).1 := by
  induction left generalizing tried with
  | zero => omega
  | succ left ih =>
    unfold shortestFrom
    split
    · next n hn => exact hn
    · next hnone =>
      have hne : tried ≠ j := by
        rintro rfl
        simp [hnone] at hhit
      exact ih (tried + 1) (by omega) (by omega)

/-- **The count of digits before the point is not taken too high.** -/
theorem magnitude_le {negative : Bool} (hcanonical : Canonical (.finite negative m e)) (hm : m ≠ 0) :
    (10 : ℚ) ^ (magnitude (interval m e).value (interval m e).den - 1) ≤ m * 2 ^ e := by
  obtain ⟨hbits, hmin, hmax, -⟩ := hcanonical
  have hpos := interval_den_pos m e
  have hvalue : (interval m e).value ≠ 0 := by
    simp only [interval, Nat.pow_eq]
    positivity
  obtain ⟨hlow, hhigh⟩ := log2_div_bounds hvalue hpos.ne'
  rw [interval_value] at hlow hhigh
  generalize hk : ((interval m e).value.log2 : ℤ) - (interval m e).den.log2 - 1 = k at *
  have hone : (1 : ℚ) ≤ m := by exact_mod_cast Nat.one_le_iff_ne_zero.mpr hm
  have hbits' : (m : ℚ) ≤ 2 ^ (53 : ℤ) := by exact_mod_cast hbits.le
  have hkLow : -40000 ≤ k := by
    have hle : (2 : ℚ) ^ e ≤ m * 2 ^ e := le_mul_of_one_le_left (by positivity) hone
    have := (zpow_lt_zpow_iff_right₀ one_lt_two).mp (hle.trans_lt hhigh)
    unfold minExponent at hmin
    omega
  have hkHigh : k ≤ 40000 := by
    have hle : m * 2 ^ e ≤ (2 : ℚ) ^ (53 + e) := by
      rw [zpow_add₀ two_ne_zero]
      gcongr
    have := (zpow_lt_zpow_iff_right₀ one_lt_two).mp (hlow.trans_le hle)
    unfold maxExponent at hmax
    omega
  rw [← interval_value]
  refine magnitudeFrom_le hpos 4 ?_
  rw [interval_value, hk, sub_sub]
  exact (ten_pow_estimate hkLow hkHigh).trans hlow.le

/-- **The shortest digits of a double round to it.** -/
theorem shortest_roundsTo {negative : Bool} (hcanonical : Canonical (.finite negative m e)) (hm : m ≠ 0) :
    RoundsTo ((shortest m e).1 * 10 ^ (shortest m e).2) m e := by
  obtain ⟨hpos, hpoint⟩ := gridPoint_div (shortest m e).1 (shortest m e).2
  rw [← hpoint, ← interval_holds_iff hm hpos]
  refine holds_of_gridHit? (shortestFrom_eq 17 0 (Nat.zero_le 16) (by omega) ?_)
  refine gridHit?_isSome hm hcanonical.1 ?_
  refine le_of_eq_of_le ?_ (magnitude_le hcanonical hm)
  rw [← zpow_natCast, ← zpow_add₀ (by norm_num)]
  congr 1
  push_cast
  ring

end DynamicForms.Double
