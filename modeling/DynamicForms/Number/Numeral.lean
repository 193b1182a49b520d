import DynamicForms.Number.Double
import DynamicForms.Text.Blank
import DynamicForms.Text.Digit

/-!
# `DynamicForms.Number.Numeral` — numbers typed by people

Numbers in settings may have white space around them, a sign, single underscores between digits, and
digits of any script. A number with a fraction or exponent is read as the nearest double; infinity
and NaN are spelled in words of either case.

## Contents
- `digitRun`: the longest run of digits with single underscores between them.
- `readInt?`, `readDouble?`.
-/

namespace DynamicForms.Numeral

open Text

/-- The greatest count of digits a whole number may have. -/
def maxIntDigits : Nat := 4300

/-- Replace every decimal digit by its ASCII form. -/
def asciiDigits (cs : List Char) : List Char :=
  cs.map fun c => match digitValue? c with
    | some v => Char.ofNat (48 + v)
    | none => c

mutual

/-- The digits at the front, single underscores between digits skipped, and what follows. -/
def digitRun : List Char → List Char × List Char
  | [] => ([], [])
  | c :: rest =>
    if c.isDigit then
      let (digits, after) := moreDigits rest
      (c :: digits, after)
    else ([], c :: rest)

/-- The digits that go on after a digit. -/
def moreDigits : List Char → List Char × List Char
  | [] => ([], [])
  | c :: rest =>
    if c.isDigit then
      let (digits, after) := moreDigits rest
      (c :: digits, after)
    else if c == '_' then
      match digitRun rest with
      | ([], _) => ([], c :: rest)
      | found => found
    else ([], c :: rest)

end

/-- The sign at the front: whether it is a minus, and what follows. -/
def sign : List Char → Bool × List Char
  | '-' :: rest => (true, rest)
  | '+' :: rest => (false, rest)
  | rest => (false, rest)

/-- The value of a list of ASCII digits. -/
def digitsValue (digits : List Char) : Nat :=
  digits.foldl (fun n c => 10 * n + (c.toNat - 48)) 0

/-- A whole number. -/
def readInt? (s : String) : Option Int :=
  let (negative, body) := sign (asciiDigits (stripChars s.toList))
  match digitRun body with
  | ([], _) => none
  | (digits, []) =>
    if digits.length > maxIntDigits then none
    else some (if negative then -(digitsValue digits : Int) else digitsValue digits)
  | _ => none

/-- An exponent part, or nothing. -/
def exponentPart? (cs : List Char) : Option Int :=
  match cs with
  | [] => some 0
  | c :: rest =>
    if c == 'e' || c == 'E' then
      let (negative, body) := sign rest
      match digitRun body with
      | ([], _) => none
      | (digits, []) => some (if negative then -(digitsValue digits : Int) else digitsValue digits)
      | _ => none
    else none

/-- A decimal fraction without its sign. -/
def readUnsigned? (negative : Bool) (cs : List Char) : Option Double :=
  let (whole, rest) := digitRun cs
  let (fraction, rest) := match rest with
    | '.' :: more => digitRun more
    | _ => ([], rest)
  if whole.isEmpty && fraction.isEmpty then none
  else (exponentPart? rest).map fun exponent =>
    Double.ofDecimal negative (digitsValue (whole ++ fraction)) (exponent - fraction.length)

/-- A double. -/
def readDouble? (s : String) : Option Double :=
  let (negative, body) := sign (asciiDigits (stripChars s.toList))
  let word := String.ofList (body.map Char.toLower)
  if word == "inf" || word == "infinity" then some (.infinite negative)
  else if word == "nan" then some (.nan 0)
  else readUnsigned? negative body

end DynamicForms.Numeral
