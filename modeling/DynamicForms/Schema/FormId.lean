import DynamicForms.Json.Writer
import DynamicForms.Schema.Document

/-!
# `DynamicForms.Schema.FormId` — a name computed from a schema

Drafts are kept under the name of their form. The name is a checksum of the schema's compact
document: the running value is multiplied by 33, cut to 32 bits and combined with the next code
point; the result is written in base 36.

## Contents
- `base36`, `base36Value`: numbers in base 36, written and read.
- `checksum`, `checksumText`.
- `Schema.formId`.
-/

namespace DynamicForms

/-- The digit of a value below 36. -/
def base36Digit (n : Nat) : Char :=
  if n < 10 then Char.ofNat (48 + n) else Char.ofNat (87 + n)

/-- The digits of a number in base 36. -/
def base36Digits (n : Nat) : List Char :=
  if n < 36 then [base36Digit n] else base36Digits (n / 36) ++ [base36Digit (n % 36)]

/-- A number in base 36. -/
def base36 (n : Nat) : String :=
  String.ofList (base36Digits n)

/-- The value of a digit in base 36. -/
def base36DigitValue (c : Char) : Nat :=
  if c.toNat < 58 then c.toNat - 48 else c.toNat - 87

/-- The number that digits in base 36 stand for. -/
def base36Value (digits : List Char) : Nat :=
  digits.foldl (fun n c => 36 * n + base36DigitValue c) 0

/-- One step of the checksum. -/
def checksumStep (running : Nat) (c : Char) : Nat :=
  (running * 33 % Nat.pow 2 32) ^^^ c.toNat

/-- The checksum of a text. -/
def checksum (s : String) : Nat :=
  s.toList.foldl checksumStep 5381

/-- The checksum of a text in base 36. -/
def checksumText (s : String) : String :=
  base36 (checksum s)

/-- What every form name starts with. -/
def formIdPrefix : String := "dynamic-form"

/-- The compact document of a schema. Every schema can be written, so there always is one. -/
def Schema.documentText (s : Schema) : String :=
  (Json.text? Json.Style.compact s.toValue).getD ""

/-- The name of the form that a schema describes. -/
def Schema.formId (s : Schema) : String :=
  formIdPrefix ++ ":" ++ checksumText s.documentText

end DynamicForms
