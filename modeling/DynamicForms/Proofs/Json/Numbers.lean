import DynamicForms.Json.Reader
import DynamicForms.Json.Writer
import DynamicForms.Proofs.Number.Shortest
import Mathlib.Data.List.TakeWhile

/-!
# `DynamicForms.Proofs.Json.Numbers` — numbers are read back

A number as it is written is read as itself, if nothing behind it could belong to a number. For a whole
number that is the value of its digits. For a double the digits of the text, whatever zeros were dropped
or added and wherever the point went, stand for the same fraction as the shortest digits, and that
fraction rounds to the double.

## Contents
- **Digits.** `NoDigit`, `digits_append`, `digitsValue_append`, `head?_toDigits`, `trimZeros_eq`.
- **Parts of a number.** `wholePart_append`, `fractionPart_append`, `exponentPart_exponentText`.
- **Texts of doubles.** `EndsNumber`, `Denotes`, `denotes_positional`, `denotes_scientific`,
  `number?_unsignedText`.
- **Numbers.** `simple_integer`, `simple_double`.
-/

namespace DynamicForms.Json

open Double (Canonical)

/-! ## Digits -/

/-- What follows does not go on with a digit. -/
def NoDigit (rest : List Char) : Prop :=
  ∀ c ∈ rest.head?, c.isDigit = false

/-- Only digits. -/
def AllDigits (ds : List Char) : Prop :=
  ∀ c ∈ ds, c.isDigit = true

variable {ds whole fraction rest : List Char} {negative : Bool}

theorem AllDigits.append {more : List Char} (h : AllDigits ds) (hmore : AllDigits more) :
    AllDigits (ds ++ more) := fun c hc => (List.mem_append.mp hc).elim (h c) (hmore c)

theorem allDigits_zeros (count : ℕ) : AllDigits (List.replicate count '0') := fun c hc => by
  rw [List.eq_of_mem_replicate hc]
  rfl

theorem allDigits_toDigits (n : ℕ) : AllDigits (Nat.toDigits 10 n) := fun _ hc =>
  Nat.isDigit_of_mem_toDigits (by decide) (by decide) hc

theorem noDigit_cons {c : Char} (h : c.isDigit = false) : NoDigit (c :: rest) := fun _ hc => by
  cases hc
  exact h

theorem digits_append (hds : AllDigits ds) (hrest : NoDigit rest) : digits (ds ++ rest) = (ds, rest) := by
  unfold digits
  rw [List.takeWhile_append_of_pos hds, List.dropWhile_append_of_pos hds]
  cases rest with
  | nil => simp
  | cons c rest =>
    have hc : c.isDigit = false := hrest c rfl
    simp [hc]

theorem digitsValue_eq (ds : List Char) : digitsValue ds = Nat.ofDigitChars 10 ds 0 := rfl

theorem digitsValue_append (ds more : List Char) :
    digitsValue (ds ++ more) = 10 ^ more.length * digitsValue ds + digitsValue more := by
  rw [digitsValue_eq, Nat.ofDigitChars_append, Nat.ofDigitChars_eq_ofDigitChars_zero]
  rfl

theorem digitsValue_zeros (count : ℕ) : digitsValue (List.replicate count '0') = 0 := by
  rw [digitsValue_eq, Nat.ofDigitChars_replicate_zero, Nat.mul_zero]

theorem digitsValue_toDigits (n : ℕ) : digitsValue (Nat.toDigits 10 n) = n :=
  Nat.ofDigitChars_ten_toDigits

theorem digitsValue_lt (h : AllDigits ds) : digitsValue ds < 10 ^ ds.length := by
  induction ds using List.reverseRecOn with
  | nil => decide
  | append_singleton ds c ih =>
    have hall : AllDigits ds := fun c hc => h c (List.mem_append_left _ hc)
    have hlast : digitsValue [c] < 10 := by
      have hc := h c (List.mem_append_right _ List.mem_cons_self)
      simp only [Char.isDigit, Bool.and_eq_true, decide_eq_true_eq] at hc
      have hnine : c.toNat ≤ 57 := hc.2
      simp only [digitsValue, List.foldl_cons, List.foldl_nil]
      omega
    have := ih hall
    rw [digitsValue_append, List.length_append, List.length_singleton, Nat.pow_succ]
    omega

/-- The first digit of a number that is not zero is not a zero. -/
theorem head?_toDigits {n : ℕ} (hn : n ≠ 0) : (Nat.toDigits 10 n).head? ≠ some '0' := by
  induction n using Nat.strongRecOn with
  | ind n ih =>
    rw [Nat.toDigits_eq_if (by decide)]
    split
    · next hlt =>
      rw [List.head?_cons, ne_eq, Option.some.injEq, Nat.digitChar_eq_zero]
      exact hn
    · next hge =>
      rw [List.head?_append_of_ne_nil _ Nat.toDigits_ne_nil]
      exact ih (n / 10) (by omega) (by omega)

open Double (trimZeros) in
/-- Digits that do not start with a zero are the trimmed digits and some zeros. -/
theorem trimZeros_eq (hne : ds ≠ []) (hhead : ds.head? ≠ some '0') :
    ∃ count, ds = trimZeros ds ++ List.replicate count '0' ∧ trimZeros ds ≠ [] ∧
      (trimZeros ds).head? = ds.head? := by
  have hsplit : ds = (ds.reverse.dropWhile (· == '0')).reverse ++
      (ds.reverse.takeWhile (· == '0')).reverse := by
    rw [← List.reverse_append, List.takeWhile_append_dropWhile, List.reverse_reverse]
  have hzeros : (ds.reverse.takeWhile (· == '0')).reverse =
      List.replicate (ds.reverse.takeWhile (· == '0')).length '0' := by
    rw [List.eq_replicate_iff, List.length_reverse]
    exact ⟨rfl, fun c hc => by simpa using List.mem_takeWhile_imp (List.mem_reverse.mp hc)⟩
  rw [hzeros] at hsplit
  generalize (ds.reverse.takeWhile (· == '0')).length = count at hsplit
  have hkept : (ds.reverse.dropWhile (· == '0')).reverse ≠ [] := by
    intro hnil
    rw [hnil, List.nil_append] at hsplit
    cases count with
    | zero => exact hne hsplit
    | succ count => exact hhead (by rw [hsplit]; rfl)
  have htrim : trimZeros ds = (ds.reverse.dropWhile (· == '0')).reverse := by
    unfold trimZeros
    split
    · next hnil => exact absurd hnil hkept
    · rfl
  rw [← htrim] at hsplit hkept
  refine ⟨count, hsplit, hkept, ?_⟩
  conv_rhs => rw [hsplit, List.head?_append_of_ne_nil _ hkept]

/-! ## Parts of a number -/

/-- The digits before a point: a zero alone, or digits that do not start with one. -/
structure IsWhole (whole : List Char) : Prop where
  /-- Only digits. -/
  digits : AllDigits whole
  /-- At least one. -/
  nonempty : whole ≠ []
  /-- No zero before others. -/
  head : whole = ['0'] ∨ whole.head? ≠ some '0'

theorem isWhole_toDigits (n : ℕ) : IsWhole (Nat.toDigits 10 n) := by
  refine ⟨allDigits_toDigits n, Nat.toDigits_ne_nil, ?_⟩
  by_cases hn : n = 0
  · exact Or.inl (by rw [hn]; rfl)
  · exact Or.inr (head?_toDigits hn)

theorem wholePart_append (h : IsWhole whole) (hrest : NoDigit rest) :
    wholePart (whole ++ rest) = (whole, rest) := by
  rcases h.head with rfl | hhead
  · rfl
  · rw [← digits_append h.digits hrest]
    cases whole with
    | nil => exact absurd rfl h.nonempty
    | cons c whole =>
      have hc : c ≠ '0' := fun heq => hhead (by rw [heq]; rfl)
      rw [List.cons_append, wholePart.eq_def]
      split
      · next heq => exact absurd (List.cons.inj heq).1 hc
      · rfl

theorem allDigits_wholePart (cs : List Char) : AllDigits (wholePart cs).1 := by
  rw [wholePart.eq_def]
  split
  · exact allDigits_zeros 1
  · exact fun c hc => List.mem_takeWhile_imp hc

theorem fractionPart_append (hds : AllDigits fraction) (hne : fraction ≠ []) (hrest : NoDigit rest) :
    fractionPart ('.' :: (fraction ++ rest)) = (fraction, rest) := by
  have hread := digits_append hds hrest
  cases fraction with
  | nil => exact absurd rfl hne
  | cons c fraction => simp only [fractionPart, hread]

theorem fractionPart_of_ne (h : ∀ c ∈ rest.head?, c ≠ '.') : fractionPart rest = ([], rest) := by
  unfold fractionPart
  split
  · exact absurd rfl (h '.' rfl)
  · rfl

theorem exponentPart_of_ne (h : ∀ c ∈ rest.head?, c ≠ 'e' ∧ c ≠ 'E') :
    exponentPart rest = (none, rest) := by
  cases rest with
  | nil => rfl
  | cons c rest =>
    obtain ⟨he, hE⟩ := h c rfl
    simp [exponentPart, he, hE]

open Double (exponentText digitText) in
/-- An exponent is read back. -/
theorem exponentPart_exponentText (exponent : ℤ) (hrest : NoDigit rest) :
    exponentPart ('e' :: (exponentText exponent ++ rest)) = (some exponent, rest) := by
  -- two digits at least, with the value of the number
  obtain ⟨ds, hds, hne, hvalue, htext⟩ : ∃ ds, AllDigits ds ∧ ds ≠ [] ∧
      digitsValue ds = exponent.natAbs ∧
        exponentText exponent = (if exponent < 0 then '-' else '+') :: ds := by
    have hall := allDigits_toDigits exponent.natAbs
    by_cases hshort : (digitText exponent.natAbs).length < 2
    · refine ⟨'0' :: digitText exponent.natAbs, (allDigits_zeros 1).append hall, List.cons_ne_nil _ _,
        digitsValue_toDigits exponent.natAbs, ?_⟩
      simp only [exponentText, if_pos hshort]
    · refine ⟨digitText exponent.natAbs, hall, Nat.toDigits_ne_nil, digitsValue_toDigits _, ?_⟩
      simp only [exponentText, if_neg hshort]
  have hread := digits_append hds hrest
  rw [htext]
  cases ds with
  | nil => exact absurd rfl hne
  | cons c ds =>
    rw [List.cons_append] at hread
    by_cases hneg : exponent < 0
    · have hsigned : -(digitsValue (c :: ds) : ℤ) = exponent := by omega
      simp [exponentPart, hneg, hread, hsigned]
    · have hsigned : (digitsValue (c :: ds) : ℤ) = exponent := by omega
      simp [exponentPart, hneg, hread, hsigned]

/-! ## Texts of doubles -/

/-- What follows cannot belong to a number. -/
def EndsNumber (rest : List Char) : Prop :=
  ∀ c ∈ rest.head?, c.isDigit = false ∧ c ≠ '.' ∧ c ≠ 'e' ∧ c ≠ 'E'

theorem EndsNumber.noDigit (h : EndsNumber rest) : NoDigit rest := fun c hc => (h c hc).1

/-- A number with digits after the point or with an exponent is a double. -/
theorem number?_eq {cs behindWhole behindFraction : List Char} {exponent : Option ℤ} {power : ℤ}
    (hwhole : wholePart cs = (whole, behindWhole)) (hne : whole ≠ [])
    (hfraction : fractionPart behindWhole = (fraction, behindFraction))
    (hexponent : exponentPart behindFraction = (exponent, rest))
    (hdouble : fraction ≠ [] ∨ exponent ≠ none) (hpower : exponent.getD 0 - fraction.length = power) :
    number? negative cs =
      some (.ok (.double (Double.ofDecimal negative (digitsValue (whole ++ fraction)) power), rest)) := by
  have hpart : (fraction.isEmpty && exponent.isNone) = false := by
    rw [Bool.and_eq_false_iff, List.isEmpty_eq_false_iff, Option.isNone_eq_false_iff,
      Option.isSome_iff_ne_none]
    exact hdouble
  have hwhole' : whole.isEmpty = false := List.isEmpty_eq_false_iff.mpr hne
  simp only [number?, hwhole, hwhole', hfraction, hexponent, hpart, hpower, Bool.false_eq_true, if_false]

/-- A text is read as a double whose digits and exponent stand for a certain fraction. -/
def Denotes (cs : List Char) (x : ℚ) : Prop :=
  ∀ (negative : Bool) (rest : List Char), EndsNumber rest →
    ∃ (n : ℕ) (exponent : ℤ), (n * 10 ^ exponent : ℚ) = x ∧
      number? negative (cs ++ rest) = some (.ok (.double (Double.ofDecimal negative n exponent), rest))

theorem Denotes.of_eq {cs : List Char} {x y : ℚ} (h : Denotes cs x) (heq : x = y) : Denotes cs y :=
  heq ▸ h

theorem denotes_point (hwhole : IsWhole whole) (hfraction : AllDigits fraction) (hne : fraction ≠ []) :
    Denotes (whole ++ '.' :: fraction)
      (digitsValue (whole ++ fraction) * 10 ^ (-(fraction.length : ℤ))) := by
  intro negative rest hrest
  refine ⟨digitsValue (whole ++ fraction), 0 - (fraction.length : ℤ), by rw [zero_sub], ?_⟩
  rw [List.append_assoc, List.cons_append]
  exact number?_eq (wholePart_append hwhole (noDigit_cons (by decide))) hwhole.nonempty
    (fractionPart_append hfraction hne hrest.noDigit)
    (exponentPart_of_ne fun c hc => (hrest c hc).2.2) (Or.inl hne) rfl

open Double (exponentText) in
theorem denotes_exponent (hwhole : IsWhole whole) (exponent : ℤ) :
    Denotes (whole ++ 'e' :: exponentText exponent) (digitsValue whole * 10 ^ exponent) := by
  intro negative rest hrest
  refine ⟨digitsValue (whole ++ []), exponent, by rw [List.append_nil], ?_⟩
  rw [List.append_assoc, List.cons_append]
  refine number?_eq (wholePart_append hwhole (noDigit_cons (by decide))) hwhole.nonempty
    (fractionPart_of_ne ?_) (exponentPart_exponentText exponent hrest.noDigit) (Or.inr (Option.some_ne_none _)) (by simp)
  intro c hc
  cases hc
  decide

open Double (exponentText) in
theorem denotes_point_exponent (hwhole : IsWhole whole) (hfraction : AllDigits fraction)
    (hne : fraction ≠ []) (exponent : ℤ) :
    Denotes (whole ++ '.' :: (fraction ++ 'e' :: exponentText exponent))
      (digitsValue (whole ++ fraction) * 10 ^ (exponent - fraction.length)) := by
  intro negative rest hrest
  refine ⟨digitsValue (whole ++ fraction), exponent - (fraction.length : ℤ), rfl, ?_⟩
  rw [List.append_assoc, List.cons_append, List.append_assoc, List.cons_append]
  exact number?_eq (wholePart_append hwhole (noDigit_cons (by decide))) hwhole.nonempty
    (fractionPart_append hfraction hne (noDigit_cons (by decide)))
    (exponentPart_exponentText exponent hrest.noDigit) (Or.inr (Option.some_ne_none _)) rfl

/-- Digits that make up a number of their own: at least one, and the first is not a zero. -/
structure Significant (ds : List Char) : Prop where
  /-- Only digits. -/
  digits : AllDigits ds
  /-- At least one. -/
  nonempty : ds ≠ []
  /-- No zero before others. -/
  head : ds.head? ≠ some '0'

open Double (positional) in
/-- In positional notation the digits stand for themselves with the point where it is asked for. -/
theorem denotes_positional (h : Significant ds) (before : ℤ) :
    Denotes (positional ds before) (digitsValue ds * 10 ^ (before - ds.length)) := by
  have hzero : IsWhole ['0'] := ⟨allDigits_zeros 1, List.cons_ne_nil _ _, Or.inl rfl⟩
  unfold positional
  split
  · next hbefore =>
    -- zeros between the point and the digits
    refine (denotes_point hzero ((allDigits_zeros (-before).toNat).append h.digits)
      (List.append_ne_nil_of_right_ne_nil _ h.nonempty)).of_eq ?_
    rw [digitsValue_append, digitsValue_append, digitsValue_zeros, List.length_append,
      List.length_replicate]
    congr 2
    · simp [digitsValue]
    · push_cast
      omega
  · next hbefore =>
    obtain ⟨count, rfl⟩ := Int.eq_ofNat_of_zero_le (show 0 ≤ before by omega)
    have hcount : count ≠ 0 := by omega
    have hwhole : ∀ zeros, IsWhole (ds.take count ++ List.replicate zeros '0') := fun zeros => by
      have htake : ds.take count ≠ [] := by simpa using ⟨hcount, h.nonempty⟩
      refine ⟨AllDigits.append (fun c hc => h.digits c (List.mem_of_mem_take hc)) (allDigits_zeros _),
        List.append_ne_nil_of_left_ne_nil htake _, Or.inr ?_⟩
      rw [List.head?_append_of_ne_nil _ htake, List.head?_take, if_neg hcount]
      exact h.head
    rw [Int.toNat_natCast]
    dsimp only
    split
    · next hdrop =>
      -- zeros up to the point, and one behind it
      have hlength : ds.length ≤ count := List.drop_eq_nil_iff.mp hdrop
      refine (denotes_point (hwhole _) (allDigits_zeros 1) (List.cons_ne_nil _ _)).of_eq ?_
      rw [digitsValue_append, digitsValue_append, digitsValue_zeros, List.take_of_length_le hlength,
        List.length_replicate, List.length_replicate]
      have hcast : (count : ℤ) - ds.length = ((count - ds.length : ℕ) : ℤ) := by omega
      rw [hcast, zpow_natCast]
      push_cast
      rw [show digitsValue ['0'] = 0 from rfl, zpow_neg_one]
      push_cast
      ring
    · next hdrop =>
      -- the point stands among the digits
      have hlength : count < ds.length := by
        by_contra hle
        exact hdrop (List.drop_eq_nil_iff.mpr (by omega))
      have hzeros : count - ds.length = 0 := by omega
      have hwhole := hwhole 0
      rw [List.replicate_zero, List.append_nil] at hwhole
      rw [hzeros, List.replicate_zero, List.append_nil]
      refine (denotes_point hwhole (fun c hc => h.digits c (List.mem_of_mem_drop hc)) hdrop).of_eq ?_
      rw [List.take_append_drop, List.length_drop]
      congr 2
      omega

open Double (scientific exponentText) in
/-- In scientific notation the first digit stands at the exponent. -/
theorem denotes_scientific (h : Significant ds) (first : ℤ) :
    Denotes (scientific ds first) (digitsValue ds * 10 ^ (first + 1 - ds.length)) := by
  cases ds with
  | nil => exact absurd rfl h.nonempty
  | cons d more =>
    have hwhole : IsWhole [d] := by
      refine ⟨fun c hc => h.digits c ?_, List.cons_ne_nil _ _, Or.inr h.head⟩
      rw [List.mem_singleton.mp hc]
      exact List.mem_cons_self
    cases more with
    | nil =>
      refine (denotes_exponent hwhole first).of_eq ?_
      congr 2
      simp
    | cons d' more =>
      refine (denotes_point_exponent hwhole (fun c hc => h.digits c (List.mem_cons_of_mem _ hc))
        (List.cons_ne_nil _ _) first).of_eq ?_
      congr 2
      simp

open Double (trimZeros digitText) in
/-- The trimmed digits of a number, standing where they stood, are the number. -/
theorem exists_significant {n : ℕ} (hn : n ≠ 0) (power : ℤ) :
    Significant (trimZeros (digitText n)) ∧
      (digitsValue (trimZeros (digitText n)) *
        10 ^ (power + (digitText n).length - (trimZeros (digitText n)).length) : ℚ) = n * 10 ^ power := by
  obtain ⟨count, hsplit, hne, hhead⟩ := trimZeros_eq (Nat.toDigits_ne_nil (b := 10)) (head?_toDigits hn)
  have hall : AllDigits (trimZeros (digitText n)) := fun c hc =>
    allDigits_toDigits n c (by rw [hsplit]; exact List.mem_append_left _ hc)
  refine ⟨⟨hall, hne, by rw [digitText, hhead]; exact head?_toDigits hn⟩, ?_⟩
  have hvalue : n = 10 ^ count * digitsValue (trimZeros (digitText n)) := by
    conv_lhs => rw [← digitsValue_toDigits n, hsplit]
    rw [digitsValue_append, digitsValue_zeros, List.length_replicate, Nat.add_zero]
    rfl
  have hlength : ((digitText n).length : ℤ) = (trimZeros (digitText n)).length + count := by
    have := congrArg List.length hsplit
    rw [List.length_append, List.length_replicate] at this
    exact_mod_cast this
  have hpower : power + (digitText n).length - (trimZeros (digitText n)).length = power + count := by omega
  rw [hpower, zpow_add₀ (by norm_num), zpow_natCast]
  conv_rhs => rw [hvalue]
  push_cast
  ring

open Double (unsignedText) in
/-- **The text of a double is read as the double.** -/
theorem number?_unsignedText {m : ℕ} {e : ℤ} (hcanonical : Canonical (.finite negative m e))
    (hrest : EndsNumber rest) :
    number? negative (unsignedText m e ++ rest) = some (.ok (.double (.finite negative m e), rest)) := by
  unfold unsignedText
  by_cases hm : m = 0
  · rw [if_pos hm]
    obtain ⟨-, -, -, hnormal⟩ := hcanonical
    obtain rfl : e = Double.minExponent := hnormal.resolve_left (by rw [hm]; decide)
    subst hm
    have hzero : IsWhole ['0'] := ⟨allDigits_zeros 1, List.cons_ne_nil _ _, Or.inl rfl⟩
    exact number?_eq (wholePart_append hzero (noDigit_cons (by decide))) hzero.nonempty
      (fractionPart_append (allDigits_zeros 1) (List.cons_ne_nil _ _) hrest.noDigit)
      (exponentPart_of_ne fun c hc => (hrest c hc).2.2) (Or.inl (List.cons_ne_nil _ _)) rfl
  · rw [if_neg hm]
    have hround := Double.shortest_roundsTo hcanonical hm
    generalize Double.shortest m e = found at hround
    obtain ⟨number, power⟩ := found
    have hnumber : number ≠ 0 := by
      rintro rfl
      simpa using hround.pos hm
    obtain ⟨hsignificant, hvalue⟩ := exists_significant hnumber power
    -- both notations stand for the same fraction
    have hdenotes : ∀ cs, Denotes cs (number * 10 ^ power) → number? negative (cs ++ rest) =
        some (.ok (.double (.finite negative m e), rest)) := fun cs h => by
      obtain ⟨n, exponent, heq, hread⟩ := h negative rest hrest
      rw [hread, Double.ofDecimal_of_roundsTo hcanonical hm (by rw [heq]; exact hround)]
    dsimp only
    split
    · refine hdenotes _ ((denotes_positional hsignificant _).of_eq ?_)
      rw [← hvalue]
      congr 2
      omega
    · refine hdenotes _ ((denotes_scientific hsignificant _).of_eq ?_)
      rw [← hvalue]
      congr 2
      omega

/-! ## Numbers -/

/-- A number starts with a digit. -/
theorem isDigit_of_number? {cs : List Char} {found : Reading (Value × List Char)}
    (h : number? negative cs = some found) : ∃ c more, cs = c :: more ∧ c.isDigit = true := by
  cases cs with
  | nil => cases h
  | cons c more =>
    refine ⟨c, more, rfl, ?_⟩
    by_contra hc
    have hwhole : wholePart (c :: more) = ([], c :: more) := by
      rw [wholePart.eq_def]
      split
      · next heq =>
        cases heq
        exact absurd rfl hc
      · simp [digits, hc]
    simp [number?, hwhole] at h

/-- No word starts with a digit, with or without a minus before it. -/
theorem word?_of_isDigit {c : Char} {cs : List Char} (h : c.isDigit = true) :
    word? (c :: cs) = none ∧ word? ('-' :: c :: cs) = none := by
  have hne : ∀ w : Char, w.isDigit = false → (w == c) = false := fun w hw => by
    rw [beq_eq_false_iff_ne]
    rintro rfl
    rw [hw] at h
    cases h
  constructor <;> simp [word?, words, afterWord?, hne]

/-- Where no word stands, a number is read. -/
theorem simple_of_number? {cs : List Char} {found : Reading (Value × List Char)}
    (h : number? false cs = some found) : simple cs = found := by
  obtain ⟨c, more, rfl, hc⟩ := isDigit_of_number? h
  rw [simple, (word?_of_isDigit hc).1]
  · dsimp only
    rw [h, Option.getD_some]
  · -- a minus is not a digit
    rintro _ ⟨⟩
    cases hc

/-- A minus before a number belongs to it. -/
theorem simple_of_minus {cs : List Char} {found : Reading (Value × List Char)}
    (h : number? true cs = some found) : simple ('-' :: cs) = found := by
  obtain ⟨c, more, rfl, hc⟩ := isDigit_of_number? h
  rw [simple, (word?_of_isDigit hc).2]
  dsimp only
  rw [h, Option.getD_some]

theorem number?_toDigits {n : ℕ} (hlength : (Nat.toDigits 10 n).length ≤ maxDigits)
    (hrest : EndsNumber rest) : number? negative (Nat.toDigits 10 n ++ rest) =
      some (.ok (.int (if negative then -n else n), rest)) := by
  have hwhole := wholePart_append (isWhole_toDigits n) hrest.noDigit
  have hfraction := fractionPart_of_ne fun c hc => (hrest c hc).2.1
  have hexponent := exponentPart_of_ne fun c hc => (hrest c hc).2.2
  have hne : (Nat.toDigits 10 n).isEmpty = false := List.isEmpty_eq_false_iff.mpr Nat.toDigits_ne_nil
  simp [number?, hwhole, hne, hfraction, hexponent, hlength, digitsValue_toDigits]

/-- **A whole number is read back**, if it has not too many digits. -/
theorem simple_integer {n : ℤ} (hlength : (Nat.toDigits 10 n.natAbs).length ≤ maxDigits)
    (hrest : EndsNumber rest) : simple (integer n ++ rest) = .ok (.int n, rest) := by
  unfold integer
  split
  · next hn =>
    rw [List.cons_append, simple_of_minus (number?_toDigits hlength hrest), if_pos rfl]
    congr 3
    omega
  · next hn =>
    rw [simple_of_number? (number?_toDigits hlength hrest), if_neg (by decide)]
    congr 3
    omega

/-- **A double is read back**, if it is a number. -/
theorem simple_double {d : Double} (hcanonical : Canonical d) (hnan : ∀ mark, d ≠ .nan mark)
    (hrest : EndsNumber rest) :
    simple ((d.textWith spelling).toList ++ rest) = .ok (.double d, rest) := by
  cases d with
  | finite negative m e =>
    rw [Double.textWith, String.toList_ofList]
    cases negative with
    | true => exact simple_of_minus (number?_unsignedText hcanonical hrest)
    | false => exact simple_of_number? (number?_unsignedText hcanonical hrest)
  | infinite negative =>
    cases negative with
    | true =>
      have htext : ((Double.infinite true).textWith spelling).toList =
          ['-', 'I', 'n', 'f', 'i', 'n', 'i', 't', 'y'] := by decide
      rw [htext]
      rfl
    | false =>
      have htext : ((Double.infinite false).textWith spelling).toList =
          ['I', 'n', 'f', 'i', 'n', 'i', 't', 'y'] := by decide
      rw [htext]
      rfl
  | nan mark => exact absurd rfl (hnan mark)

end DynamicForms.Json
