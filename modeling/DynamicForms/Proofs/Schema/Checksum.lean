import DynamicForms.Schema.FormId
import Mathlib.Data.Nat.Digits.Lemmas

/-!
# `DynamicForms.Proofs.Schema.Checksum` — checksums and their numerals

The name of a form ends with a checksum in base 36. The digits of a number are the remainders of repeated
division, the last one first: the library's `Nat.digits` from the other end. So the laws of those say that
every number has exactly one numeral, and how many digits it has.

Every step of the checksum cuts the running value to 32 bits and combines it with a code point, which has
fewer, so no running value ever has more, and a checksum has at most seven digits. Two forms get one name
only if the checksums of their documents are the same.

## Contents
- `IsNumeral`: the texts that write a number in base 36.
- `CodePoint`, `stir`, `runningSums`, `sumOfPoints`: the checksum of a text that is given by code points.
- **Digits.** `base36DigitValue_base36Digit`, `base36Digits_of_ne_zero`, `base36Value_eq`,
  `length_base36Digits_le`.
- **Numerals.** `isNumeral_base36`, `digits_base36Value`, `IsNumeral.eq_base36`, `base36_injective`.
- **Running values.** `stir_lt`, `lt_of_mem_runningSums`, `sumOfPoints_lt`, `scanl_checksumStep`,
  `checksum_eq`, `formId_eq_iff`.
- `Summed`, `summed_numerals`.
-/

namespace DynamicForms

/-- A text that writes a number in base 36. -/
structure IsNumeral (n : Nat) (text : String) : Prop where
  /-- Its characters are digits. -/
  digits : ∀ c ∈ text.toList, ∃ d < 36, base36Digit d = c
  /-- There is a digit. -/
  ne_empty : text ≠ ""
  /-- It reads as the number. -/
  value : base36Value text.toList = n
  /-- Only the numeral of zero has a zero in front. -/
  leading : text.toList.head? = some '0' → text = "0" ∧ n = 0

/-- A point of the code space, which may be half of a surrogate pair. -/
structure CodePoint where
  /-- Its number. -/
  value : Nat
  /-- It lies in the code space. -/
  value_lt : value < 0x110000

/-- The code point of a character. -/
def CodePoint.ofChar (c : Char) : CodePoint where
  value := c.toNat
  value_lt := by
    have hvalid : c.toNat.isValidChar := c.valid
    unfold Nat.isValidChar at hvalid
    omega

/-- The code points of a text. -/
def codePoints (s : String) : List CodePoint :=
  s.toList.map .ofChar

/-- One step of the checksum, with any code point. -/
def stir (running : Nat) (p : CodePoint) : Nat :=
  (running * 33 % Nat.pow 2 32) ^^^ p.value

/-- The running values of the checksum, before the first code point and after each. -/
def runningSums (points : List CodePoint) : List Nat :=
  points.scanl stir 5381

/-- The checksum of a text that is given by its code points. -/
def sumOfPoints (points : List CodePoint) : Nat :=
  points.foldl stir 5381

variable {n d k : Nat} {text : String}

/-! ## Digits -/

theorem base36DigitValue_base36Digit (h : d < 36) : base36DigitValue (base36Digit d) = d := by
  decide +revert

theorem eq_zero_of_base36Digit (h : d < 36) (hzero : base36Digit d = '0') : d = 0 := by
  rw [← base36DigitValue_base36Digit h, hzero]
  rfl

theorem base36_zero : base36 0 = "0" := by
  rw [base36, base36Digits, if_pos (by decide)]
  rfl

/-- The digits of a number are those of the library from the other end. -/
theorem base36Digits_of_ne_zero (h : n ≠ 0) :
    base36Digits n = ((Nat.digits 36 n).map base36Digit).reverse := by
  fun_induction base36Digits n with
  | case1 n hsmall =>
    rw [Nat.digits_of_lt 36 n h hsmall]
    rfl
  | case2 n hlarge ih =>
    have hmore : n / 36 ≠ 0 := by omega
    rw [ih hmore, Nat.digits_def' (by decide) (Nat.pos_of_ne_zero h), List.map_cons, List.reverse_cons]

/-- Digits are read as the library reads them from the other end. -/
theorem base36Value_eq (digits : List Char) :
    base36Value digits = Nat.ofDigits 36 (digits.map base36DigitValue).reverse := by
  rw [Nat.ofDigits_eq_foldr, List.foldr_reverse, List.foldl_map, base36Value]
  congr
  funext m c
  exact Nat.add_comm _ _

/-- A number below a power of 36 has at most as many digits as the exponent says. -/
theorem length_base36Digits_le (hk : 0 < k) (h : n < 36 ^ k) : (base36Digits n).length ≤ k := by
  by_cases hzero : n = 0
  · rw [hzero, base36Digits, if_pos (by decide)]
    exact hk
  · rw [base36Digits_of_ne_zero hzero, List.length_reverse, List.length_map]
    exact (Nat.digits_length_le_iff (by decide) n).mpr h

theorem map_base36DigitValue_map {ds : List Nat} (h : ∀ d ∈ ds, d < 36) :
    (ds.map base36Digit).map base36DigitValue = ds := by
  have hback : ∀ d ∈ ds, (base36DigitValue ∘ base36Digit) d = id d := by
    intro d hd
    exact base36DigitValue_base36Digit (h d hd)
  rw [List.map_map, List.map_congr_left hback, List.map_id]

theorem map_base36Digit_map {cs : List Char} (h : ∀ c ∈ cs, ∃ d < 36, base36Digit d = c) :
    (cs.map base36DigitValue).map base36Digit = cs := by
  have hback : ∀ c ∈ cs, (base36Digit ∘ base36DigitValue) c = id c := by
    intro c hc
    obtain ⟨d, hd, rfl⟩ := h c hc
    exact congrArg base36Digit (base36DigitValue_base36Digit hd)
  rw [List.map_map, List.map_congr_left hback, List.map_id]

/-! ## Numerals -/

theorem isNumeral_zero : IsNumeral 0 "0" where
  digits c hc := ⟨0, by decide, by simpa [base36Digit, eq_comm] using hc⟩
  ne_empty := by decide
  value := by decide
  leading _ := ⟨rfl, rfl⟩

/-- What is written for a number is a numeral of it. -/
theorem isNumeral_base36 (n : Nat) : IsNumeral n (base36 n) := by
  by_cases hzero : n = 0
  · rw [hzero, base36_zero]
    exact isNumeral_zero
  · have hlt : ∀ d ∈ Nat.digits 36 n, d < 36 := by
      intro d hd
      exact Nat.digits_lt_base (by decide) hd
    have hsome : Nat.digits 36 n ≠ [] := Nat.digits_ne_nil_iff_ne_zero.mpr hzero
    have hlist : (base36 n).toList = ((Nat.digits 36 n).map base36Digit).reverse := by
      rw [base36, String.toList_ofList, base36Digits_of_ne_zero hzero]
    constructor
    · intro c hc
      rw [hlist, List.mem_reverse, List.mem_map] at hc
      obtain ⟨d, hd, rfl⟩ := hc
      exact ⟨d, hlt d hd, rfl⟩
    · intro hempty
      rw [hempty] at hlist
      exact hsome (by simpa using hlist.symm)
    · rw [hlist, base36Value_eq, List.map_reverse, List.reverse_reverse, map_base36DigitValue_map hlt,
        Nat.ofDigits_digits]
    · -- the digit in front is the last remainder, which is not zero
      intro hhead
      rw [hlist, List.head?_reverse, List.getLast?_map, List.getLast?_eq_some_getLast hsome,
        Option.map_some, Option.some.injEq] at hhead
      exact absurd (eq_zero_of_base36Digit (hlt _ (List.getLast_mem hsome)) hhead)
        (Nat.getLast_digit_ne_zero 36 hzero)

/-- The values of digits that do not start with a zero are the digits of what they read as. -/
theorem digits_base36Value {cs : List Char} (hdigits : ∀ c ∈ cs, ∃ d < 36, base36Digit d = c)
    (hhead : cs.head? ≠ some '0') :
    Nat.digits 36 (base36Value cs) = (cs.map base36DigitValue).reverse := by
  rw [base36Value_eq]
  apply Nat.digits_ofDigits 36 (by decide)
  · intro v hv
    obtain ⟨c, hc, rfl⟩ := List.mem_map.mp (List.mem_reverse.mp hv)
    obtain ⟨d, hd, rfl⟩ := hdigits c hc
    rwa [base36DigitValue_base36Digit hd]
  · -- the last value is that of the character in front
    intro hsome hzero
    cases cs with
    | nil => exact hsome rfl
    | cons c rest =>
      obtain ⟨d, hd, rfl⟩ := hdigits c List.mem_cons_self
      have hlast : d = 0 := by simpa [base36DigitValue_base36Digit hd] using hzero
      exact hhead (by rw [hlast]; rfl)

/-- A number has no other numeral. -/
theorem IsNumeral.eq_base36 (h : IsNumeral n text) : text = base36 n := by
  by_cases hhead : text.toList.head? = some '0'
  · obtain ⟨rfl, rfl⟩ := h.leading hhead
    exact base36_zero.symm
  · have hdigits : Nat.digits 36 n = (text.toList.map base36DigitValue).reverse := by
      rw [← h.value, digits_base36Value h.digits hhead]
    have hsome : text.toList ≠ [] := by
      intro hnil
      exact h.ne_empty (String.toList_injective hnil)
    have hne : n ≠ 0 := by
      rw [← Nat.digits_ne_nil_iff_ne_zero (b := 36), hdigits]
      simpa using hsome
    rw [base36, base36Digits_of_ne_zero hne, hdigits, ← List.map_reverse, List.reverse_reverse,
      map_base36Digit_map h.digits, String.ofList_toList]

theorem base36_injective {m : Nat} (h : base36 m = base36 n) : m = n := by
  rw [← (isNumeral_base36 m).value, h, (isNumeral_base36 n).value]

/-! ## Running values -/

/-- A step leaves no more than 32 bits, whatever it starts from. -/
theorem stir_lt (running : Nat) (p : CodePoint) : stir running p < 2 ^ 32 := by
  have hcut : running * 33 % Nat.pow 2 32 < 2 ^ 32 := Nat.mod_lt _ (by decide)
  have hpoint : p.value < 2 ^ 32 := p.value_lt.trans (by decide)
  exact Nat.xor_lt_two_pow hcut hpoint

theorem lt_of_mem_scanl {points : List CodePoint} {first running : Nat} (hfirst : first < 2 ^ 32)
    (h : running ∈ points.scanl stir first) : running < 2 ^ 32 := by
  induction points generalizing first with
  | nil =>
    rw [List.scanl_nil, List.mem_singleton] at h
    exact h ▸ hfirst
  | cons p rest ih =>
    rw [List.scanl_cons, List.mem_cons] at h
    rcases h with rfl | h
    · exact hfirst
    · exact ih (stir_lt first p) h

theorem lt_of_mem_runningSums {points : List CodePoint} {running : Nat} (h : running ∈ runningSums points) :
    running < 2 ^ 32 :=
  lt_of_mem_scanl (by decide) h

theorem getLast?_runningSums (points : List CodePoint) :
    (runningSums points).getLast? = some (sumOfPoints points) :=
  List.getLast?_scanl

theorem sumOfPoints_lt (points : List CodePoint) : sumOfPoints points < 2 ^ 32 :=
  lt_of_mem_runningSums (List.mem_of_getLast? (getLast?_runningSums points))

/-- The checksum of a text goes through the running values of its code points. -/
theorem scanl_checksumStep (s : String) :
    s.toList.scanl checksumStep 5381 = runningSums (codePoints s) := by
  rw [runningSums, codePoints, List.scanl_map]
  rfl

theorem checksum_eq (s : String) : checksum s = sumOfPoints (codePoints s) := by
  rw [sumOfPoints, codePoints, List.foldl_map]
  rfl

theorem formId_eq_iff (s t : Schema) :
    s.formId = t.formId ↔ checksum s.documentText = checksum t.documentText := by
  constructor
  · intro h
    have hlist := congrArg String.toList h
    simp only [Schema.formId, String.toList_append] at hlist
    exact base36_injective (String.toList_injective (List.append_cancel_left hlist))
  · intro h
    rw [Schema.formId, Schema.formId, checksumText, checksumText, h]

/-! ## Texts and numbers -/

/-- What holds of the checksum of a text. -/
structure Summed (points : List CodePoint) : Prop where
  /-- No running value has more than 32 bits. -/
  running_lt : ∀ running ∈ runningSums points, running < 2 ^ 32
  /-- The last one is the checksum. -/
  last_eq : (runningSums points).getLast? = some (sumOfPoints points)
  /-- It is written with at most seven digits. -/
  length_le : (base36 (sumOfPoints points)).length ≤ 7
  /-- A text whose checksum is written alike has the same one. -/
  sum_eq : ∀ other : List CodePoint, base36 (sumOfPoints other) = base36 (sumOfPoints points) →
    sumOfPoints other = sumOfPoints points

/-- Checksums are below the seventh power of 36, and no two are written alike. -/
theorem summed (points : List CodePoint) : Summed points where
  running_lt _ := lt_of_mem_runningSums
  last_eq := getLast?_runningSums points
  length_le := by
    have hlt : sumOfPoints points < 36 ^ 7 := (sumOfPoints_lt points).trans (by decide)
    rw [base36, String.length_ofList]
    exact length_base36Digits_le (by decide) hlt
  sum_eq _ := base36_injective

/-- **Every number has one numeral, and checksums are numbers of 32 bits.** The running values of a text are
    those of its code points, no two checksums are written alike, and forms have one name exactly if their
    documents have one checksum. -/
theorem summed_numerals :
    (∀ n text, IsNumeral n text ↔ text = base36 n) ∧ (∀ points, Summed points) ∧
      (∀ s : String, s.toList.scanl checksumStep 5381 = runningSums (codePoints s) ∧
        checksumText s = base36 (sumOfPoints (codePoints s))) ∧
      ∀ s t : Schema, s.formId = t.formId ↔ checksum s.documentText = checksum t.documentText := by
  refine ⟨?_, summed, ?_, formId_eq_iff⟩
  · intro n text
    constructor
    · exact IsNumeral.eq_base36
    · rintro rfl
      exact isNumeral_base36 n
  · intro s
    rw [checksumText, checksum_eq]
    exact ⟨scanl_checksumStep s, rfl⟩

example : checksumText "" = "45h" ∧ checksumText "a" = "3t1g" := by decide +kernel

end DynamicForms
