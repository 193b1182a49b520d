import DynamicForms.Pattern.Syntax
import DynamicForms.Text.Blank
import DynamicForms.Text.Case
import DynamicForms.Text.Digit
import DynamicForms.Text.WordChar

/-!
# `DynamicForms.Pattern.Character` — which characters a part of a pattern takes

A character is taken by a set if it equals, lies in or has the kind of one of its members. When case
does not matter, the character is folded to lower case first, and two lower-case letters with one
upper case, such as the two Greek sigmas, count as one. Beyond the first 65536 code points a member
of a set is compared as it stands.

## Contents
- `categoryHolds`, `isWordAt`.
- `fold`, `cousins`: folding to lower case.
- `pointHolds`, `memberHolds`, `setHolds`.
-/

namespace DynamicForms.Pattern

/-- Whether a character has a kind. -/
def categoryHolds (f : Flags) (c : Category) (ch : Char) : Bool :=
  match c with
  | .digit => if f.ascii then ch.isDigit else Text.isDigit ch
  | .space => if f.ascii then Text.isAsciiBlank ch else Text.isBlank ch
  | .word => if f.ascii then Text.isAsciiWordChar ch else Text.isWordChar ch

/-- The lower case of a code point. -/
def fold (f : Flags) (p : Nat) : Nat :=
  if f.ascii then Text.asciiLowerPoint p else Text.lowerPoint p

/-- Whether a code point has another form in the other case. -/
def isCased (f : Flags) (p : Nat) : Bool :=
  if f.ascii then p < 128 && (Char.ofNat p).isAlpha else Text.isCased p

/-- The other lower-case code points with the same upper case. -/
def cousins (f : Flags) (p : Nat) : List Nat :=
  if f.ascii then [] else Text.sameUpper p

/-- The code points that fold to a given one. -/
def foldSources (f : Flags) (p : Nat) : List Nat :=
  if f.ascii then
    (if Text.asciiLowerPoint p = p then [p] else [])
      ++ (if 97 ≤ p && p ≤ 122 then [p - 32] else [])
  else Text.lowerSources p

/-- The first code point that sets compare as it stands. -/
def planeEnd : Nat := 0x10000

/-- Whether a character is a given one. -/
def pointHolds (f : Flags) (point : Nat) (ch : Char) : Bool :=
  if f.ignoreCase && isCased f point then
    let low := fold f point
    let got := fold f ch.toNat
    got == low || (cousins f low).contains got
  else ch.toNat == point

/-- Whether a folded character lies in a range, up to case. -/
def foldedRangeHolds (f : Flags) (low high got : Nat) : Bool :=
  let inRange (p : Nat) : Bool := low ≤ p && p ≤ high
  let folded := (got :: cousins f got).any fun p =>
    (foldSources f p).any fun source => inRange source && source < planeEnd
  folded || (planeEnd ≤ high && (inRange got || inRange (Text.upperPoint got)))

/-- Whether a member of a set takes a character, which has been folded if case does not matter. -/
def memberHolds (f : Flags) (got : Nat) : Member → Bool
  | .point p =>
    if f.ignoreCase then
      let low := fold f p
      if low < planeEnd then got == low || (cousins f low).contains got else got == p
    else got == p
  | .range low high =>
    if f.ignoreCase then foldedRangeHolds f low high got else low ≤ got && got ≤ high
  | .category negated c => categoryHolds f c (Char.ofNat got) != negated

/-- Whether a set takes a character. -/
def setHolds (f : Flags) (negated : Bool) (members : List Member) (ch : Char) : Bool :=
  let got := if f.ignoreCase then fold f ch.toNat else ch.toNat
  members.any (memberHolds f got) != negated

/-- Whether the point takes a character. -/
def anyHolds (f : Flags) (ch : Char) : Bool :=
  f.dotAll || ch != '\n'

end DynamicForms.Pattern
