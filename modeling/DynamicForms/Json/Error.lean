/-!
# `DynamicForms.Json.Error` — why a text is not a document

A text that is not a document breaks off at one character; the message says what is wrong there and
gives the place as line, column and offset, all counted in characters. A whole number of very many
digits is refused for its length, without a place.

## Contents
- `Flaw` and `Flaw.message`: what can be wrong.
- `Error`, `Error.message`.
-/

namespace DynamicForms.Json

/-- What is wrong at a place of the text. -/
inductive Flaw where
  /-- A value should start here. -/
  | noValue
  /-- The name of an entry should start here. -/
  | noName
  /-- A colon should stand here. -/
  | noColon
  /-- A comma should stand here. -/
  | noComma
  /-- The text goes on after the document. -/
  | extraData
  /-- The string that starts here does not end. -/
  | unterminated
  /-- A control character stands in a string. -/
  | controlCharacter
  /-- A backslash starts no known escape. -/
  | badEscape
  /-- The escape of a code point is not four hexadecimal digits. -/
  | badUnicodeEscape
  /-- The text starts with a byte order mark. -/
  | byteOrderMark
  deriving DecidableEq, Repr

/-- The words for what is wrong. -/
def Flaw.message : Flaw → String
  | .noValue => "Expecting value"
  | .noName => "Expecting property name enclosed in double quotes"
  | .noColon => "Expecting ':' delimiter"
  | .noComma => "Expecting ',' delimiter"
  | .extraData => "Extra data"
  | .unterminated => "Unterminated string starting at"
  | .controlCharacter => "Invalid control character at"
  | .badEscape => "Invalid \\escape"
  | .badUnicodeEscape => "Invalid \\uXXXX escape"
  | .byteOrderMark => "Unexpected UTF-8 BOM (decode using utf-8-sig)"

/-- A place in a text. -/
structure Place where
  /-- The line, from one. -/
  line : Nat
  /-- The column, from one. -/
  column : Nat
  /-- The count of characters before it. -/
  offset : Nat
  deriving DecidableEq, Repr

/-- The place after the given characters. -/
def Place.after (before : List Char) : Place where
  line := before.count '\n' + 1
  column := (before.reverse.takeWhile (· != '\n')).length + 1
  offset := before.length

/-- Why a text is not a document. -/
inductive Error where
  /-- Something is wrong at one place. -/
  | flawed (flaw : Flaw) (place : Place)
  /-- A whole number has too many digits. -/
  | tooManyDigits (count : Nat)
  deriving DecidableEq, Repr

/-- The message of an error. -/
def Error.message : Error → String
  | .flawed flaw place =>
    flaw.message ++ ": line " ++ toString place.line ++ " column " ++ toString place.column
      ++ " (char " ++ toString place.offset ++ ")"
  | .tooManyDigits count =>
    "Exceeds the limit (4300 digits) for integer string conversion: value has " ++ toString count
      ++ " digits; use sys.set_int_max_str_digits() to increase the limit"

end DynamicForms.Json
