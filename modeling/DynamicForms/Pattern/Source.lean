import DynamicForms.Pattern.Error
import DynamicForms.Pattern.Syntax

/-!
# `DynamicForms.Pattern.Source` — a pattern as a row of tokens

A token is one character, or a backslash with the character after it. The reader always looks one
token ahead, so a backslash at the end of the pattern is found as soon as the token before it is
taken.

## Contents
- `Source`, `State`, `Reader`: what is left of the pattern, and what has been learnt from it.
- `peek`, `take?`, `accept`, `failBack`: the steps of a reader.
- `takeWhile`, `takeUntil`: several tokens at once.
- `Source.rest_length_lt`: a step forward leaves fewer characters.
-/

namespace DynamicForms.Pattern

/-- One character, or a backslash and one more. -/
abbrev Token := List Char

/-- What is left of a pattern. -/
structure Source where
  /-- The next token; none at the end. -/
  next : Option Token
  /-- What follows the next token. -/
  rest : List Char
  /-- How many characters lie before the next token. -/
  position : Nat
  deriving Repr, Inhabited

/-- The source that starts with a list of characters at a position. -/
def Source.at (position : Nat) : List Char → Except Error Source
  | [] => .ok ⟨none, [], position⟩
  | ['\\'] => .error (.flawed .loneBackslash position)
  | '\\' :: c :: rest => .ok ⟨some ['\\', c], rest, position⟩
  | c :: rest => .ok ⟨some [c], rest, position⟩

/-- The source after the next token. -/
def Source.step (s : Source) : Except Error Source :=
  match s.next with
  | none => .ok s
  | some token => Source.at (s.position + token.length) s.rest

/-- What has been learnt while reading a pattern. -/
structure State where
  /-- What is left to read. -/
  source : Source
  /-- The flags for the whole pattern. -/
  flags : Flags
  /-- The numbers of the named groups. -/
  names : List (String × Nat)
  /-- The span of every group by number; none for group zero and for groups still open. -/
  spans : List (Option Span)
  /-- How many groups there were when the outermost look behind started. -/
  behindFrom : Option Nat
  /-- The numbers that conditional groups ask for, with the places. -/
  asked : List (Nat × Nat)
  deriving Repr, Inhabited

/-- A step of reading a pattern. -/
abbrev Reader := StateT State (Except Error)

namespace Reader

/-- The next token. -/
def peek : Reader (Option Token) := do
  return (← get).source.next

/-- The count of characters before the next token. -/
def position : Reader Nat := do
  return (← get).source.position

/-- Take the next token. -/
def take? : Reader (Option Token) := do
  let s ← get
  let source ← s.source.step
  set { s with source }
  return s.source.next

/-- Take the next token if it is one character. -/
def accept (c : Char) : Reader Bool := do
  if (← peek) == some [c] then
    let _ ← take?
    return true
  else
    return false

/-- Fail at a place before the next token. -/
def failBack {α : Type} (flaw : Flaw) (back : Nat) : Reader α := do
  throw (.flawed flaw ((← position) - back))

/-- Fail at the next token. -/
def fail {α : Type} (flaw : Flaw) : Reader α :=
  failBack flaw 0

/-- Fail at a place. -/
def failAt {α : Type} (flaw : Flaw) (place : Nat) : Reader α :=
  throw (.flawed flaw place)

/-- Take up to a count of one-character tokens of a kind. -/
def takeWhile (keep : Char → Bool) : (count : Nat) → Reader (List Char)
  | 0 => return []
  | count + 1 => do
    match ← peek with
    | some [c] =>
      if keep c then
        let _ ← take?
        return c :: (← takeWhile keep count)
      else return []
    | _ => return []

/-- Take tokens up to a terminator, which is taken too; at least one must come before it. The fuel
is the count of characters left. -/
def takeUntilFrom (terminator : Char) (what : String) : (fuel : Nat) → List Char →
    Reader (List Char)
  | 0, found => failBack (.unterminatedName terminator) found.length
  | fuel + 1, found => do
    match ← take? with
    | none =>
      if found.isEmpty then fail (.missingName what)
      else failBack (.unterminatedName terminator) found.length
    | some token =>
      if token == [terminator] then
        if found.isEmpty then failBack (.missingName what) 1 else return found
      else takeUntilFrom terminator what fuel (found ++ token)

/-- Take a name up to its terminator. -/
def takeUntil (terminator : Char) (what : String) : Reader (List Char) := do
  takeUntilFrom terminator what ((← get).source.rest.length + 3) []

end Reader

end DynamicForms.Pattern
