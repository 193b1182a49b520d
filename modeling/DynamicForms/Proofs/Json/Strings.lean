import DynamicForms.Json.Reader
import DynamicForms.Json.Writer
import Mathlib.Data.Nat.Notation
import Mathlib.Tactic.Common

/-!
# `DynamicForms.Proofs.Json.Strings` — strings are read back

Every character of a string is written in one of four ways: as itself, with a letter after a backslash,
by its number, or as a pair of surrogates. Each is read as that character, whatever comes behind it; an
escape by number needs one more character, and there always is the quote that closes the string.

## Contents
- **Escapes.** `hexValue?_hexDigit`, `codeUnit?_hexDigits`, `stringBody_unit`, `stringBody_pair`.
- `stringBody_escapeChar`: one character; `quoted_string`: a whole string.
-/

namespace DynamicForms.Json

open Text (hexDigit hexDigits)

/-! ## Escapes -/

theorem hexValue?_hexDigit : ∀ n < 16, hexValue? (hexDigit n) = some n := by
  decide

/-- Four hexadecimal digits stand for the number they are taken from. -/
theorem exists_hexDigits {n : ℕ} (hn : n < 0x10000) :
    ∃ a b c d, hexDigits 4 n = [a, b, c, d] ∧ codeUnit? a b c d = some n := by
  refine ⟨hexDigit (n / 4096), hexDigit (n / 256 % 16), hexDigit (n / 16 % 16), hexDigit (n % 16), ?_, ?_⟩
  · have hfirst : n / 16 / 16 / 16 % 16 = n / 4096 := by omega
    have hsecond : n / 16 / 16 % 16 = n / 256 % 16 := by omega
    simp [hexDigits, hfirst, hsecond]
  · rw [codeUnit?, hexValue?_hexDigit _ (by omega), hexValue?_hexDigit _ (by omega),
      hexValue?_hexDigit _ (by omega), hexValue?_hexDigit _ (by omega)]
    simp only [Option.bind_eq_bind, Option.bind_some, Option.pure_def, Option.some.injEq]
    omega

variable {opened unit low : ℕ} {a b c d e f : Char} {a' b' c' d' : Char} {more rest : List Char}

/-- One more character before what is read of a string. -/
def before (c : Char) (found : Reading (List Char × List Char)) : Reading (List Char × List Char) :=
  found.map fun part => (c :: part.1, part.2)

/-- A character is escaped by its number. -/
theorem stringBody_unit (hunit : codeUnit? a b c d = some unit) (hhigh : isHighSurrogate unit = false) :
    stringBody opened ('\\' :: 'u' :: a :: b :: c :: d :: e :: rest) =
      before (unitChar unit) (stringBody opened (e :: rest)) := by
  rw [stringBody]
  simp only [hunit, hhigh, Bool.false_eq_true, if_false]
  cases stringBody opened (e :: rest) <;> rfl

/-- A character is escaped as a pair of surrogates. -/
theorem stringBody_pair (hunit : codeUnit? a b c d = some unit) (hhigh : isHighSurrogate unit = true)
    (hpair : codeUnit? a' b' c' d' = some low) (hlow : isLowSurrogate low = true) :
    stringBody opened ('\\' :: 'u' :: a :: b :: c :: d :: '\\' :: 'u' :: a' :: b' :: c' :: d' :: f :: rest) =
      before (joinSurrogates unit low) (stringBody opened (f :: rest)) := by
  rw [stringBody]
  simp only [hunit, hhigh, hpair, hlow, if_true]
  cases stringBody opened (f :: rest) <;> rfl

/-- A character is escaped by a letter. -/
theorem stringBody_letter {escaped : Char} (hu : c ≠ 'u') (h : escapeValue? c = some escaped) :
    stringBody opened ('\\' :: c :: rest) = before escaped (stringBody opened rest) := by
  rw [stringBody]
  · simp only [h]
    cases stringBody opened rest <;> rfl
  · rintro _ _ _ _ _ _ heq -
    exact hu heq
  · rintro heq
    exact hu heq

/-- A character stands for itself. -/
theorem stringBody_self (hquote : c ≠ '"') (hbackslash : c ≠ '\\') (hcontrol : ¬c.toNat < 32) :
    stringBody opened (c :: rest) = before c (stringBody opened rest) := by
  rw [stringBody]
  · simp only [hcontrol, if_false]
    cases stringBody opened rest <;> rfl
  · exact hquote
  -- every other pattern starts with a backslash
  all_goals
    intros
    exact hbackslash ‹_›

/-! ## Characters -/

/-- The number of a character is no surrogate. -/
theorem toNat_lt_or_ge (c : Char) : c.toNat < 0xD800 ∨ 0xE000 ≤ c.toNat ∧ c.toNat < 0x110000 := by
  rcases c.valid with h | ⟨h, h'⟩
  · exact Or.inl h
  · exact Or.inr ⟨h, h'⟩

theorem unitChar_toNat (c : Char) : unitChar c.toNat = c := by
  unfold unitChar
  rw [if_neg (by have := toNat_lt_or_ge c; simp; omega), Char.ofNat_toNat]

/-- A character below 65536 escaped by its number. -/
theorem stringBody_unicodeEscape (hlow : c.toNat < 0x10000) :
    stringBody opened (unicodeEscape c.toNat ++ e :: rest) = before c (stringBody opened (e :: rest)) := by
  obtain ⟨h1, h2, h3, h4, hdigits, hunit⟩ := exists_hexDigits hlow
  have hhigh : isHighSurrogate c.toNat = false := by
    have := toNat_lt_or_ge c
    simp [isHighSurrogate]
    omega
  rw [unicodeEscape, hdigits]
  refine (stringBody_unit hunit hhigh).trans ?_
  rw [unitChar_toNat]

/-- A character escaped by its number, as one or as a pair of surrogates. -/
theorem stringBody_numericEscape :
    stringBody opened (numericEscape c ++ e :: rest) = before c (stringBody opened (e :: rest)) := by
  unfold numericEscape
  split
  · next hlow => exact stringBody_unicodeEscape hlow
  · next hlow =>
    have hrange := toNat_lt_or_ge c
    obtain ⟨h1, h2, h3, h4, hdigits, hunit⟩ :=
      exists_hexDigits (show 0xD800 + (c.toNat - 0x10000) / 0x400 < 0x10000 by omega)
    obtain ⟨l1, l2, l3, l4, hdigits', hpair⟩ :=
      exists_hexDigits (show 0xDC00 + (c.toNat - 0x10000) % 0x400 < 0x10000 by omega)
    have hhigh : isHighSurrogate (0xD800 + (c.toNat - 0x10000) / 0x400) = true := by
      simp [isHighSurrogate]
      omega
    have hlow : isLowSurrogate (0xDC00 + (c.toNat - 0x10000) % 0x400) = true := by
      simp [isLowSurrogate]
      omega
    have hjoin : joinSurrogates (0xD800 + (c.toNat - 0x10000) / 0x400)
        (0xDC00 + (c.toNat - 0x10000) % 0x400) = c := by
      have hnumber : 0x10000 + (0xD800 + (c.toNat - 0x10000) / 0x400 - 0xD800) * 0x400 +
          (0xDC00 + (c.toNat - 0x10000) % 0x400 - 0xDC00) = c.toNat := by omega
      rw [joinSurrogates, hnumber, Char.ofNat_toNat]
    dsimp only
    rw [unicodeEscape, unicodeEscape, hdigits, hdigits']
    refine (stringBody_pair hunit hhigh hpair hlow).trans ?_
    rw [hjoin]

/-- **A character is read back**, if something comes behind it. -/
theorem stringBody_escapeChar (asciiOnly : Bool) (c : Char) :
    stringBody opened (escapeChar asciiOnly c ++ e :: rest) =
      before c (stringBody opened (e :: rest)) := by
  have hnumber : ∀ n : ℕ, (c.toNat == n) = true → c = Char.ofNat n := fun n h => by
    rw [← eq_of_beq h, Char.ofNat_toNat]
  unfold escapeChar
  split
  · next h => rw [eq_of_beq h]; exact stringBody_letter (by decide) rfl
  next hquote =>
  split
  · next h => rw [eq_of_beq h]; exact stringBody_letter (by decide) rfl
  next hbackslash =>
  split
  · next h => rw [eq_of_beq h]; exact stringBody_letter (by decide) rfl
  split
  · next h => rw [eq_of_beq h]; exact stringBody_letter (by decide) rfl
  split
  · next h => rw [eq_of_beq h]; exact stringBody_letter (by decide) rfl
  split
  · next h => rw [hnumber 8 h]; exact stringBody_letter (by decide) rfl
  split
  · next h => rw [hnumber 12 h]; exact stringBody_letter (by decide) rfl
  split
  · exact stringBody_unicodeEscape (by omega)
  next hcontrol =>
  split
  · exact stringBody_numericEscape
  · exact stringBody_self (by simpa using hquote) (by simpa using hbackslash) hcontrol

theorem stringBody_flatMap (asciiOnly : Bool) (cs : List Char) :
    stringBody opened (cs.flatMap (escapeChar asciiOnly) ++ '"' :: rest) = .ok (cs, rest) := by
  induction cs with
  | nil => rw [List.flatMap_nil, List.nil_append, stringBody]
  | cons c cs ih =>
    -- what comes behind the character is not empty
    obtain ⟨e, more, hmore⟩ := List.exists_cons_of_ne_nil
      (List.append_ne_nil_of_right_ne_nil (cs.flatMap (escapeChar asciiOnly)) (List.cons_ne_nil '"' rest))
    rw [List.flatMap_cons, List.append_assoc, hmore, stringBody_escapeChar, ← hmore, ih]
    rfl

/-- **A string is read back.** -/
theorem quoted_string (style : Style) (s : String) (rest : List Char) :
    ∃ body, string style s ++ rest = '"' :: body ∧ quoted body = .ok (s, rest) := by
  refine ⟨s.toList.flatMap (escapeChar style.asciiOnly) ++ '"' :: rest, ?_, ?_⟩
  · rw [string, List.cons_append, List.cons_append, List.append_assoc, List.singleton_append]
  · rw [quoted, stringBody_flatMap]
    exact congrArg (fun text => Except.ok (text, rest)) String.ofList_toList

end DynamicForms.Json
