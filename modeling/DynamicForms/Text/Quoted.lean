import DynamicForms.Text.Printable

/-!
# `DynamicForms.Text.Quoted` — texts in quotes

A quoted text stands in single quotes, or in double quotes if it holds a single quote and no double
one. Inside, a backslash and the quote are escaped, tab and line ends have letters of their own, and
every character that is not printable is given by its code point in two, four or eight hexadecimal
digits.

## Contents
- `hexDigits`: a number in a fixed count of hexadecimal digits.
- `quote`: the quoted form of a text.
- `quoteMark_eq`: when double quotes are used.
-/

namespace DynamicForms.Text

/-- One lower-case hexadecimal digit. -/
def hexDigit (n : Nat) : Char :=
  if n < 10 then Char.ofNat (48 + n) else Char.ofNat (87 + n)

/-- The last `count` hexadecimal digits of a number. -/
def hexDigits : (count : Nat) → Nat → List Char
  | 0, _ => []
  | count + 1, n => hexDigits count (n / 16) ++ [hexDigit (n % 16)]

/-- The quote that surrounds a text. -/
def quoteMark (cs : List Char) : Char :=
  if cs.contains '\'' && !cs.contains '"' then '"' else '\''

/-- A character as it stands between quotes. -/
def escapeQuoted (mark c : Char) : List Char :=
  if c == mark || c == '\\' then ['\\', c]
  else if c == '\t' then ['\\', 't']
  else if c == '\n' then ['\\', 'n']
  else if c == '\r' then ['\\', 'r']
  else if isPrintable c then [c]
  else if c.toNat < 0x100 then '\\' :: 'x' :: hexDigits 2 c.toNat
  else if c.toNat < 0x10000 then '\\' :: 'u' :: hexDigits 4 c.toNat
  else '\\' :: 'U' :: hexDigits 8 c.toNat

/-- A text in quotes. -/
def quote (s : String) : String :=
  let cs := s.toList
  let mark := quoteMark cs
  String.ofList (mark :: cs.flatMap (escapeQuoted mark) ++ [mark])

theorem hexDigits_length (count n : Nat) : (hexDigits count n).length = count := by
  induction count generalizing n with
  | zero => rfl
  | succ count ih => simp [hexDigits, ih]

theorem quoteMark_eq (cs : List Char) :
    quoteMark cs = '"' ↔ '\'' ∈ cs ∧ '"' ∉ cs := by
  unfold quoteMark
  by_cases h1 : '\'' ∈ cs <;> by_cases h2 : '"' ∈ cs <;> simp [h1, h2]

end DynamicForms.Text
