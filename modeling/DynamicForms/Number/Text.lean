import DynamicForms.Number.Shortest

/-!
# `DynamicForms.Number.Text` — the text of a double

The shortest digits that read back, with a point and at least one digit after it, or with an
exponent of at least two digits when the first digit stands left of the fourth place after the point
or beyond the sixteenth before it.

## Contents
- `Layout`: where positional notation ends.
- `Double.text`.
-/

namespace DynamicForms.Double

/-- Where positional notation ends: the least and greatest exponent of the first digit written
without an exponent part. -/
structure Layout where
  /-- The least exponent written positionally. -/
  least : Int
  /-- The greatest exponent written positionally. -/
  greatest : Int

/-- Doubles are written positionally from `0.0001` up to sixteen digits before the point. -/
def layout : Layout := ⟨-4, 15⟩

/-- The decimal digits of a number. -/
def digitText (n : Nat) : List Char :=
  Nat.toDigits 10 n

/-- Drop the zeros at the end of a list of digits, but keep one digit. -/
def trimZeros (digits : List Char) : List Char :=
  match (digits.reverse.dropWhile (· == '0')).reverse with
  | [] => ['0']
  | trimmed => trimmed

/-- An exponent with its sign and at least two digits. -/
def exponentText (e : Int) : List Char :=
  let digits := digitText e.natAbs
  (if e < 0 then '-' else '+') :: (if digits.length < 2 then '0' :: digits else digits)

/-- Digits with a point after the first `before` of them, filled up with zeros. -/
def positional (digits : List Char) (before : Int) : List Char :=
  if before ≤ 0 then '0' :: '.' :: (List.replicate (-before).toNat '0' ++ digits)
  else
    let count := before.toNat
    let whole := digits.take count ++ List.replicate (count - digits.length) '0'
    match digits.drop count with
    | [] => whole ++ ['.', '0']
    | fraction => whole ++ '.' :: fraction

/-- Digits with an exponent part. -/
def scientific (digits : List Char) (exponent : Int) : List Char :=
  match digits with
  | [] => []
  | [d] => d :: 'e' :: exponentText exponent
  | d :: rest => d :: '.' :: rest ++ 'e' :: exponentText exponent

/-- The text of a finite double without its sign. -/
def unsignedText (mantissa : Nat) (exponent : Int) : List Char :=
  if mantissa = 0 then ['0', '.', '0']
  else
    let (number, power) := shortest mantissa exponent
    let all := digitText number
    let first : Int := power + all.length - 1
    let digits := trimZeros all
    if layout.least ≤ first && first ≤ layout.greatest then positional digits (first + 1)
    else scientific digits first

/-- How infinities and NaN are spelled. -/
structure Spelling where
  /-- The word for infinity, after the sign. -/
  infinity : String
  /-- The word for NaN. -/
  nan : String

/-- A double as text, with a given spelling of infinity and NaN. -/
def textWith (spelling : Spelling) : Double → String
  | .nan _ => spelling.nan
  | .infinite s => (if s then "-" else "") ++ spelling.infinity
  | .finite s m e => String.ofList ((if s then ['-'] else []) ++ unsignedText m e)

/-- A double as text. -/
def text : Double → String :=
  textWith ⟨"inf", "nan"⟩

end DynamicForms.Double
