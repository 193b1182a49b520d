import DynamicForms.Json.Error
import DynamicForms.Value.Basic

/-!
# `DynamicForms.Json.Reader` — documents as values

The reader takes the whole text or names the first place that is wrong. White space is blank, tab,
line feed and carriage return. Beside the usual values it knows the words for NaN and the two
infinities. Of two entries with one name the last value stays, at the place of the first.

While it reads it keeps only what is left of the text; a place is given by the count of characters
that are left there, and turned into line and column at the end.

## Contents
- `Stop`: where and why reading ended.
- **Strings.** `codeUnit?`, `stringBody`, `quoted`.
- **Numbers.** `number?`.
- **Values.** `value`, `document`, `read`.
-/

namespace DynamicForms.Json

/-- Why reading ended, with the count of characters left at that place. -/
inductive Stop where
  /-- Something is wrong where that many characters are left. -/
  | flawed (flaw : Flaw) (left : Nat)
  /-- A whole number has too many digits. -/
  | tooManyDigits (count : Nat)
  deriving DecidableEq, Repr

/-- Something read, or why reading ended. -/
abbrev Reading := Except Stop

/-- White space between the parts of a document. -/
def isSpace (c : Char) : Bool :=
  c == ' ' || c == '\t' || c == '\n' || c == '\r'

/-- Skip white space. -/
def skipSpace (cs : List Char) : List Char :=
  cs.dropWhile isSpace

/-! ## Strings -/

/-- The value of a hexadecimal digit of either case. -/
def hexValue? (c : Char) : Option Nat :=
  if '0' ≤ c && c ≤ '9' then some (c.toNat - 48)
  else if 'a' ≤ c && c ≤ 'f' then some (c.toNat - 87)
  else if 'A' ≤ c && c ≤ 'F' then some (c.toNat - 55)
  else none

/-- The number that four hexadecimal digits stand for. -/
def codeUnit? (a b c d : Char) : Option Nat := do
  let a ← hexValue? a
  let b ← hexValue? b
  let c ← hexValue? c
  let d ← hexValue? d
  return ((a * 16 + b) * 16 + c) * 16 + d

/-- Whether a number is the first half of a pair of surrogates. -/
def isHighSurrogate (unit : Nat) : Bool :=
  0xD800 ≤ unit && unit < 0xDC00

/-- Whether a number is the second half of a pair of surrogates. -/
def isLowSurrogate (unit : Nat) : Bool :=
  0xDC00 ≤ unit && unit < 0xE000

/-- The character that a pair of surrogates stands for. -/
def joinSurrogates (high low : Nat) : Char :=
  Char.ofNat (0x10000 + (high - 0xD800) * 0x400 + (low - 0xDC00))

/-- The character of a number; a surrogate without its other half becomes the replacement
character. -/
def unitChar (unit : Nat) : Char :=
  if 0xD800 ≤ unit && unit < 0xE000 then '\uFFFD' else Char.ofNat unit

/-- The character that a letter after a backslash stands for. -/
def escapeValue? : Char → Option Char
  | '"' => some '"'
  | '\\' => some '\\'
  | '/' => some '/'
  | 'b' => some '\x08'
  | 'f' => some '\x0c'
  | 'n' => some '\n'
  | 'r' => some '\r'
  | 't' => some '\t'
  | _ => none

/-- The rest of a string after its opening quote, which stood where `opened` characters were left.
An escape by number must be followed by at least one more character. -/
def stringBody (opened : Nat) : List Char → Reading (List Char × List Char)
  | [] => .error (.flawed .unterminated opened)
  | '"' :: rest => .ok ([], rest)
  | ['\\'] => .error (.flawed .unterminated opened)
  | '\\' :: 'u' :: a :: b :: c :: d :: e :: rest =>
    let broken := rest.length + 6
    match codeUnit? a b c d with
    | none => .error (.flawed .badUnicodeEscape broken)
    | some unit =>
      let single := do
        let (more, left) ← stringBody opened (e :: rest)
        return (unitChar unit :: more, left)
      if isHighSurrogate unit then
        match e, rest with
        | '\\', 'u' :: a :: b :: c :: d :: f :: rest =>
          match codeUnit? a b c d with
          | none => .error (.flawed .badUnicodeEscape (rest.length + 6))
          | some low =>
            if isLowSurrogate low then do
              let (more, left) ← stringBody opened (f :: rest)
              return (joinSurrogates unit low :: more, left)
            else single
        | _, _ => single
      else single
  | '\\' :: 'u' :: rest => .error (.flawed .badUnicodeEscape (rest.length + 1))
  | '\\' :: c :: rest =>
    match escapeValue? c with
    | none => .error (.flawed .badEscape (rest.length + 2))
    | some escaped => do
      let (more, left) ← stringBody opened rest
      return (escaped :: more, left)
  | c :: rest =>
    if c.toNat < 32 then .error (.flawed .controlCharacter (rest.length + 1))
    else do
      let (more, left) ← stringBody opened rest
      return (c :: more, left)

/-- A string after its opening quote. -/
def quoted (rest : List Char) : Reading (String × List Char) := do
  let (body, left) ← stringBody (rest.length + 1) rest
  return (String.ofList body, left)

/-! ## Numbers -/

/-- The longest run of digits at the front, and what follows. -/
def digits (cs : List Char) : List Char × List Char :=
  (cs.takeWhile Char.isDigit, cs.dropWhile Char.isDigit)

/-- The value of a list of digits. -/
def digitsValue (ds : List Char) : Nat :=
  ds.foldl (fun n c => 10 * n + (c.toNat - 48)) 0

/-- The whole part of a number: a zero, or digits that do not start with one. -/
def wholePart : List Char → List Char × List Char
  | '0' :: rest => (['0'], rest)
  | cs => digits cs

/-- The digits after the point, if a point and a digit follow. -/
def fractionPart (cs : List Char) : List Char × List Char :=
  match cs with
  | '.' :: rest =>
    match digits rest with
    | ([], _) => ([], cs)
    | found => found
  | _ => ([], cs)

/-- The exponent, if a complete one follows. -/
def exponentPart (cs : List Char) : Option Int × List Char :=
  match cs with
  | c :: rest =>
    if c == 'e' || c == 'E' then
      let (negative, body) := match rest with
        | '-' :: more => (true, more)
        | '+' :: more => (false, more)
        | more => (false, more)
      match digits body with
      | ([], _) => (none, cs)
      | (ds, left) => (some (if negative then -(digitsValue ds : Int) else digitsValue ds), left)
    else (none, cs)
  | [] => (none, cs)

/-- The greatest count of digits a whole number may have. -/
def maxDigits : Nat := 4300

/-- A number without its sign; none if no digit is here. -/
def number? (negative : Bool) (cs : List Char) : Option (Reading (Value × List Char)) :=
  let (whole, rest) := wholePart cs
  if whole.isEmpty then none
  else
    let (fraction, rest) := fractionPart rest
    let (exponent, rest) := exponentPart rest
    if fraction.isEmpty && exponent.isNone then
      if whole.length > maxDigits then some (.error (.tooManyDigits whole.length))
      else
        let n : Int := digitsValue whole
        some (.ok (.int (if negative then -n else n), rest))
    else
      let d := Double.ofDecimal negative (digitsValue (whole ++ fraction))
        (exponent.getD 0 - fraction.length)
      some (.ok (.double d, rest))

/-! ## Values -/

/-- What follows a word, if the text starts with it. -/
def afterWord? : (word cs : List Char) → Option (List Char)
  | [], cs => some cs
  | w :: word, c :: cs => if w == c then afterWord? word cs else none
  | _ :: _, [] => none

/-- The values that are words. -/
def words : List (List Char × Value) := [
  (['n', 'u', 'l', 'l'], .null),
  (['t', 'r', 'u', 'e'], .bool true),
  (['f', 'a', 'l', 's', 'e'], .bool false),
  (['N', 'a', 'N'], .double (.nan 0)),
  (['I', 'n', 'f', 'i', 'n', 'i', 't', 'y'], .double (.infinite false)),
  (['-', 'I', 'n', 'f', 'i', 'n', 'i', 't', 'y'], .double (.infinite true))]

/-- A value that is a word. -/
def word? (cs : List Char) : Option (Value × List Char) :=
  words.findSome? fun (word, value) => (afterWord? word cs).map (value, ·)

/-- A value that is neither string, list nor object. -/
def simple (cs : List Char) : Reading (Value × List Char) :=
  match word? cs with
  | some found => .ok found
  | none =>
    let found := match cs with
      | '-' :: rest => number? true rest
      | _ => number? false cs
    found.getD (.error (.flawed .noValue cs.length))

mutual

/-- The value at the front of the text. -/
def value : (fuel : Nat) → List Char → Reading (Value × List Char)
  | 0, cs => .error (.flawed .noValue cs.length)
  | _ + 1, '"' :: rest => do
    let (s, left) ← quoted rest
    return (.text s, left)
  | fuel + 1, '[' :: rest =>
    match skipSpace rest with
    | ']' :: left => .ok (.list [], left)
    | rest => do
      let (items, left) ← items fuel rest
      return (.list items, left)
  | fuel + 1, '\x7b' :: rest =>
    match skipSpace rest with
    | '\x7d' :: left => .ok (.object [], left)
    | rest => do
      let (fields, left) ← fields fuel rest
      return (.object (Entries.ofPairs fields), left)
  | _ + 1, cs => simple cs

/-- One or more elements and the bracket that closes them. -/
def items : (fuel : Nat) → List Char → Reading (List Value × List Char)
  | 0, cs => .error (.flawed .noValue cs.length)
  | fuel + 1, cs => do
    let (item, rest) ← value fuel cs
    match skipSpace rest with
    | ']' :: left => return ([item], left)
    | ',' :: more => do
      let (rest, left) ← items fuel (skipSpace more)
      return (item :: rest, left)
    | rest => .error (.flawed .noComma rest.length)

/-- One or more entries and the brace that closes them. -/
def fields : (fuel : Nat) → List Char → Reading (List (String × Value) × List Char)
  | 0, cs => .error (.flawed .noName cs.length)
  | fuel + 1, '"' :: rest => do
    let (name, rest) ← quoted rest
    match skipSpace rest with
    | ':' :: rest => do
      let (v, rest) ← value fuel (skipSpace rest)
      match skipSpace rest with
      | '\x7d' :: left => return ([(name, v)], left)
      | ',' :: more => do
        let (rest, left) ← fields fuel (skipSpace more)
        return ((name, v) :: rest, left)
      | rest => .error (.flawed .noComma rest.length)
    | rest => .error (.flawed .noColon rest.length)
  | _ + 1, cs => .error (.flawed .noName cs.length)

end

/-- A whole text. Each step of the reader takes a character at least every second time, so twice the
length is fuel enough. -/
def document (cs : List Char) : Except Stop Value :=
  match cs with
  | '\uFEFF' :: _ => .error (.flawed .byteOrderMark cs.length)
  | _ => do
    let (v, rest) ← value (2 * cs.length + 1) (skipSpace cs)
    match skipSpace rest with
    | [] => return v
    | rest => .error (.flawed .extraData rest.length)

/-- The error of a text that stopped reading. -/
def Stop.error (cs : List Char) : Stop → Error
  | .flawed flaw left => .flawed flaw (Place.after (cs.take (cs.length - left)))
  | .tooManyDigits count => .tooManyDigits count

/-- The value of a document. -/
def read (s : String) : Except Error Value :=
  (document s.toList).mapError (Stop.error s.toList)

end DynamicForms.Json
