import DynamicForms.Number.Numeral
import DynamicForms.Pattern.Source
import DynamicForms.Text.CharName

/-!
# `DynamicForms.Pattern.Escape` — what a backslash means

A backslash with a letter names a character, a kind of characters or a place; with digits it names a
character by number or refers to a group; with anything else it is that character. Inside a set there
are neither places nor references.

## Contents
- **Tables.** `controlPoint?`, `category?`, `place?`.
- **Numbers.** `hexEscape`, `namedEscape`.
- **References.** `checkReference`.
- `inSet`, `outside`: what an escape means in a set and elsewhere.
-/

namespace DynamicForms.Pattern

/-- What an escape in a set stands for. -/
inductive SetEscape where
  /-- One character. -/
  | point (p : Nat)
  /-- A kind of characters. -/
  | category (negated : Bool) (c : Category)

namespace Escape

open Reader

/-! ## Tables -/

/-- Letters that name a control character. -/
def controlPoint? : Char → Option Nat
  | 'a' => some 7
  | 'b' => some 8
  | 'f' => some 12
  | 'n' => some 10
  | 'r' => some 13
  | 't' => some 9
  | 'v' => some 11
  | '\\' => some 92
  | _ => none

/-- Letters that name a kind of characters. -/
def category? : Char → Option (Bool × Category)
  | 'd' => some (false, .digit)
  | 'D' => some (true, .digit)
  | 's' => some (false, .space)
  | 'S' => some (true, .space)
  | 'w' => some (false, .word)
  | 'W' => some (true, .word)
  | _ => none

/-- Letters that name a place. -/
def place? : Char → Option Anchor
  | 'A' => some .textStart
  | 'Z' => some .textEnd
  | 'b' => some .wordEdge
  | 'B' => some .noWordEdge
  | _ => none

/-- An octal digit. -/
def isOctal (c : Char) : Bool :=
  '0' ≤ c && c ≤ '7'

/-- The value of a hexadecimal digit. -/
def hexValue? (c : Char) : Option Nat :=
  if c.isDigit then some (c.toNat - 48)
  else if 'a' ≤ c && c ≤ 'f' then some (c.toNat - 87)
  else if 'A' ≤ c && c ≤ 'F' then some (c.toNat - 55)
  else none

/-- The number that digits in a base stand for. -/
def numberIn (base : Nat) (digits : List Char) : Nat :=
  digits.foldl (fun n c => base * n + (hexValue? c).getD 0) 0

/-- An escape as it is written. -/
def written (c : Char) (more : List Char) : String :=
  String.ofList ('\\' :: c :: more)

/-! ## Numbers -/

/-- A character by a fixed count of hexadecimal digits. -/
def hexEscape (c : Char) (count : Nat) : Reader Nat := do
  let digits ← takeWhile (fun d => (hexValue? d).isSome) count
  if digits.length != count then
    failBack (.incompleteEscape (written c digits)) (digits.length + 2)
  else
    let point := numberIn 16 digits
    if point ≥ 0x110000 then failBack (.badEscape (written c digits)) (digits.length + 2)
    else return point

/-- A character by name. -/
def namedEscape : Reader Nat := do
  if ← accept '\x7b' then
    let name ← takeUntil '\x7d' "character name"
    match Text.namedPoint? (String.ofList name) with
    | some point => return point
    | none => failBack (.undefinedCharacter (String.ofList name)) (name.length + 4)
  else
    fail .missingBrace

/-- A character by an octal number. -/
def octalPoint (digits : List Char) (c : Char) (more : List Char) : Reader Nat :=
  let point := numberIn 8 digits
  if point > 0o377 then
    failBack (.octalTooLarge (written c more)) (more.length + 2)
  else
    return point

/-! ## References -/

/-- Whether a group is there and closed. -/
def isClosed (s : State) (number : Nat) : Bool :=
  ((s.spans[number]?).join).isSome

/-- Inside a look behind, a reference must be to a group that was closed before it started. -/
def checkBehind (number : Nat) : Reader Unit := do
  let s ← get
  match s.behindFrom with
  | none => return
  | some start =>
    if !isClosed s number then fail .openGroup
    else if number ≥ start then fail .sameLookBehind

/-- A reference by number to a closed group. -/
def reference (number length : Nat) : Reader Node := do
  let s ← get
  if number < s.spans.length then
    if !isClosed s number then
      failBack .openGroup length
    checkBehind number
    return .backref number
  else
    failBack (.noGroup number) (length - 1)

/-! ## Meaning -/

/-- A letter, digit or other character that stands for itself after a backslash, or nothing. -/
def plain (c : Char) : Reader Nat :=
  if c.isAlpha || c.isDigit then failBack (.badEscape (written c [])) 2 else return c.toNat

/-- An escape in a set. -/
def inSet (c : Char) : Reader SetEscape := do
  match controlPoint? c, category? c with
  | some point, _ => return .point point
  | _, some (negated, kind) => return .category negated kind
  | none, none =>
    if c == 'x' then return .point (← hexEscape c 2)
    else if c == 'u' then return .point (← hexEscape c 4)
    else if c == 'U' then return .point (← hexEscape c 8)
    else if c == 'N' then return .point (← namedEscape)
    else if isOctal c then
      let more ← takeWhile isOctal 2
      return .point (← octalPoint (c :: more) c more)
    else return .point (← plain c)

/-- An escape by digits outside of a set: three octal digits are a character, anything else a
reference. -/
def digits (c : Char) : Reader Node := do
  let second ← takeWhile Char.isDigit 1
  let third ←
    if isOctal c && !second.isEmpty && second.all isOctal then takeWhile isOctal 1 else pure []
  if third.isEmpty then
    reference (numberIn 10 (c :: second)) (second.length + 2)
  else
    let more := second ++ third
    return .char false (← octalPoint (c :: more) c more)

/-- An escape outside of a set. -/
def outside (c : Char) : Reader Node := do
  match place? c, category? c, controlPoint? c with
  | some a, _, _ => return .anchor a
  | _, some (negated, kind), _ => return .set false [.category negated kind]
  | _, _, some point => return .char false point
  | none, none, none =>
    if c == 'x' then return .char false (← hexEscape c 2)
    else if c == 'u' then return .char false (← hexEscape c 4)
    else if c == 'U' then return .char false (← hexEscape c 8)
    else if c == 'N' then return .char false (← namedEscape)
    else if c == '0' then
      let more ← takeWhile isOctal 2
      return .char false (numberIn 8 (c :: more))
    else if c.isDigit then digits c
    else return .char false (← plain c)

end Escape

end DynamicForms.Pattern
