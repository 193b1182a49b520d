import DynamicForms.Number.Text
import DynamicForms.Text.Quoted
import DynamicForms.Value.Basic

/-!
# `DynamicForms.Json.Writer` — values as documents

A document is written on one line in one of three styles: *compact* without blanks and with every
character as it is, *spaced* with a blank after commas and colons and ASCII only, and spaced with
the names of every object sorted. Doubles keep their type by a point or an exponent; infinities and
NaN are words of their own. An absent or a foreign value cannot be written.

## Contents
- `Style`, with `Style.compact` and `Style.spaced`.
- **Strings.** `escapeChar`, `string`.
- **Values.** `write?`, `text?`, `sortNames`, `sortedText?`.
-/

namespace DynamicForms.Json

/-- How a document is laid out. -/
structure Style where
  /-- Whether only ASCII characters are written. -/
  asciiOnly : Bool
  /-- What stands between two elements. -/
  comma : List Char
  /-- What stands between a name and its value. -/
  colon : List Char

/-- No blanks, and every character as it is. -/
def Style.compact : Style := ⟨false, [','], [':']⟩

/-- A blank after commas and colons, and ASCII only. -/
def Style.spaced : Style := ⟨true, [',', ' '], [':', ' ']⟩

/-! ## Strings -/

/-- The escape of a code point below 65536 by number. -/
def unicodeEscape (point : Nat) : List Char :=
  '\\' :: 'u' :: Text.hexDigits 4 point

/-- The escape of a character by number, a pair of surrogates beyond 65535. -/
def numericEscape (c : Char) : List Char :=
  if c.toNat < 0x10000 then unicodeEscape c.toNat
  else
    let offset := c.toNat - 0x10000
    unicodeEscape (0xD800 + offset / 0x400) ++ unicodeEscape (0xDC00 + offset % 0x400)

/-- A character as it stands in a string. -/
def escapeChar (asciiOnly : Bool) (c : Char) : List Char :=
  if c == '"' then ['\\', '"']
  else if c == '\\' then ['\\', '\\']
  else if c == '\n' then ['\\', 'n']
  else if c == '\r' then ['\\', 'r']
  else if c == '\t' then ['\\', 't']
  else if c.toNat == 8 then ['\\', 'b']
  else if c.toNat == 12 then ['\\', 'f']
  else if c.toNat < 32 then unicodeEscape c.toNat
  else if asciiOnly && 126 < c.toNat then numericEscape c
  else [c]

/-- A text as a string. -/
def string (style : Style) (s : String) : List Char :=
  '"' :: s.toList.flatMap (escapeChar style.asciiOnly) ++ ['"']

/-! ## Values -/

/-- The spelling of infinities and NaN in documents. -/
def spelling : Double.Spelling := ⟨"Infinity", "NaN"⟩

/-- A whole number in decimal digits. -/
def integer (n : Int) : List Char :=
  if n < 0 then '-' :: Nat.toDigits 10 n.natAbs else Nat.toDigits 10 n.natAbs

mutual

/-- A value as a document. -/
def write? (style : Style) : Value → Option (List Char)
  | .null => some ['n', 'u', 'l', 'l']
  | .bool true => some ['t', 'r', 'u', 'e']
  | .bool false => some ['f', 'a', 'l', 's', 'e']
  | .int n => some (integer n)
  | .double d => some (d.textWith spelling).toList
  | .text s => some (string style s)
  | .list [] => some ['[', ']']
  | .list (item :: rest) => do
    let first ← write? style item
    let more ← writeItems? style rest
    return '[' :: first ++ more ++ [']']
  | .object [] => some ['\x7b', '\x7d']
  | .object ((name, value) :: rest) => do
    let first ← write? style value
    let more ← writeFields? style rest
    return '\x7b' :: string style name ++ style.colon ++ first ++ more ++ ['\x7d']
  | .absent => none
  | .foreign => none

/-- The further elements of a list, each after a comma. -/
def writeItems? (style : Style) : List Value → Option (List Char)
  | [] => some []
  | item :: rest => do
    let first ← write? style item
    let more ← writeItems? style rest
    return style.comma ++ first ++ more

/-- The further entries of an object, each after a comma. -/
def writeFields? (style : Style) : List (String × Value) → Option (List Char)
  | [] => some []
  | (name, value) :: rest => do
    let first ← write? style value
    let more ← writeFields? style rest
    return style.comma ++ string style name ++ style.colon ++ first ++ more

end

/-- A value as the text of a document. -/
def text? (style : Style) (v : Value) : Option String :=
  (write? style v).map String.ofList

/-- Insert an entry into a list of entries sorted by name. -/
def insertByName (entry : String × Value) : List (String × Value) → List (String × Value)
  | [] => [entry]
  | other :: rest =>
    if entry.1 < other.1 then entry :: other :: rest else other :: insertByName entry rest

mutual

/-- The value with the names of every object in order of their code points. -/
def sortNames : Value → Value
  | .list items => .list (sortNamesList items)
  | .object fields => .object (sortNamesFields fields)
  | v => v

/-- `sortNames` on each element. -/
def sortNamesList : List Value → List Value
  | [] => []
  | item :: rest => sortNames item :: sortNamesList rest

/-- The entries in order of their names, each with its own names in order. -/
def sortNamesFields : List (String × Value) → List (String × Value)
  | [] => []
  | (name, value) :: rest => insertByName (name, sortNames value) (sortNamesFields rest)

end

/-- A value as a spaced document with sorted names: one text for all orders of names. -/
def sortedText? (v : Value) : Option String :=
  text? Style.spaced (sortNames v)

end DynamicForms.Json
