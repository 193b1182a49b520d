import DynamicForms.Text.Quoted

/-!
# `DynamicForms.Pattern.Error` — why a pattern cannot be read

Most problems are named with their place, counted in characters from zero; if the pattern has several
lines, with line and column too.

## Contents
- `Flaw`, `Flaw.message`: what can be wrong.
- `Error`, `Error.message`.
-/

namespace DynamicForms.Pattern

/-- What is wrong with a pattern. -/
inductive Flaw where
  /-- A backslash ends the pattern. -/
  | loneBackslash
  /-- An escape has too few digits. -/
  | incompleteEscape (written : String)
  /-- There is no such escape. -/
  | badEscape (written : String)
  /-- An octal escape is too large. -/
  | octalTooLarge (written : String)
  /-- A brace should follow. -/
  | missingBrace
  /-- A name should stand here. -/
  | missingName (what : String)
  /-- A name does not end. -/
  | unterminatedName (terminator : Char)
  /-- No character has this name. -/
  | undefinedCharacter (name : String)
  /-- A reference to a group that is still open. -/
  | openGroup
  /-- A reference to a group that is not there. -/
  | noGroup (number : Nat)
  /-- A reference to a group of the same look behind. -/
  | sameLookBehind
  /-- A set does not end. -/
  | unterminatedSet
  /-- A range that is none. -/
  | badRange (low high : String)
  /-- A repeat whose least count is above its greatest. -/
  | countsReversed
  /-- A repeat of nothing. -/
  | nothingToRepeat
  /-- A repeat of a repeat. -/
  | multipleRepeat
  /-- The pattern ends too early. -/
  | unexpectedEnd
  /-- There is no such extension. -/
  | unknownExtension (written : String)
  /-- A comment does not end. -/
  | unterminatedComment
  /-- A group does not end. -/
  | unterminatedGroup
  /-- A name of a group has a wrong character. -/
  | badGroupName (name : String)
  /-- No group has this name. -/
  | unknownGroupName (name : String)
  /-- Group zero is asked for. -/
  | groupZero
  /-- Two groups have one name. -/
  | groupRedefined (name : String) (number old : Nat)
  /-- A conditional group has more than two branches. -/
  | tooManyBranches
  /-- Flags for the whole pattern do not stand at its start. -/
  | misplacedFlags
  /-- The locale flag is not for texts. -/
  | localeFlag
  /-- Two alphabets are chosen at once. -/
  | alphabetsCombined
  /-- A flag is not known. -/
  | unknownFlag
  /-- Something that ends the flags should follow. -/
  | flagsUnended
  /-- A flag should follow. -/
  | missingFlag
  /-- A colon should follow. -/
  | missingColon
  /-- A flag for the whole pattern is turned on in a group. -/
  | globalFlagOn
  /-- An alphabet is turned off. -/
  | alphabetOff
  /-- A flag for the whole pattern is turned off in a group. -/
  | globalFlagOff
  /-- A flag is turned on and off. -/
  | flagOnAndOff
  /-- A parenthesis closes nothing. -/
  | unbalanced
  /-- A look behind can take different counts of characters. -/
  | lookBehindWidth
  /-- A look behind is too long. -/
  | lookBehindTooLong
  /-- A repeat in a template. -/
  | repeatInTemplate (kind : String)
  deriving DecidableEq, Repr

/-- The words for what is wrong. -/
def Flaw.message : Flaw → String
  | .loneBackslash => "bad escape (end of pattern)"
  | .incompleteEscape written => "incomplete escape " ++ written
  | .badEscape written => "bad escape " ++ written
  | .octalTooLarge written => "octal escape value " ++ written ++ " outside of range 0-0o377"
  | .missingBrace => "missing \x7b"
  | .missingName what => "missing " ++ what
  | .unterminatedName terminator =>
    "missing " ++ String.singleton terminator ++ ", unterminated name"
  | .undefinedCharacter name => "undefined character name " ++ Text.quote name
  | .openGroup => "cannot refer to an open group"
  | .noGroup number => "invalid group reference " ++ toString number
  | .sameLookBehind => "cannot refer to group defined in the same lookbehind subpattern"
  | .unterminatedSet => "unterminated character set"
  | .badRange low high => "bad character range " ++ low ++ "-" ++ high
  | .countsReversed => "min repeat greater than max repeat"
  | .nothingToRepeat => "nothing to repeat"
  | .multipleRepeat => "multiple repeat"
  | .unexpectedEnd => "unexpected end of pattern"
  | .unknownExtension written => "unknown extension ?" ++ written
  | .unterminatedComment => "missing ), unterminated comment"
  | .unterminatedGroup => "missing ), unterminated subpattern"
  | .badGroupName name => "bad character in group name " ++ Text.quote name
  | .unknownGroupName name => "unknown group name " ++ Text.quote name
  | .groupZero => "bad group number"
  | .groupRedefined name number old =>
    "redefinition of group name " ++ Text.quote name ++ " as group " ++ toString number
      ++ "; was group " ++ toString old
  | .tooManyBranches => "conditional backref with more than two branches"
  | .misplacedFlags => "global flags not at the start of the expression"
  | .localeFlag => "bad inline flags: cannot use 'L' flag with a str pattern"
  | .alphabetsCombined => "bad inline flags: flags 'a', 'u' and 'L' are incompatible"
  | .unknownFlag => "unknown flag"
  | .flagsUnended => "missing -, : or )"
  | .missingFlag => "missing flag"
  | .missingColon => "missing :"
  | .globalFlagOn => "bad inline flags: cannot turn on global flag"
  | .alphabetOff => "bad inline flags: cannot turn off flags 'a', 'u' and 'L'"
  | .globalFlagOff => "bad inline flags: cannot turn off global flag"
  | .flagOnAndOff => "bad inline flags: flag turned on and off"
  | .unbalanced => "unbalanced parenthesis"
  | .lookBehindWidth => "look-behind requires fixed-width pattern"
  | .lookBehindTooLong => "looks too much behind"
  | .repeatInTemplate kind => "internal: unsupported template operator " ++ kind

/-- Why a pattern cannot be read. -/
inductive Error where
  /-- Something is wrong at a place. -/
  | flawed (flaw : Flaw) (position : Nat)
  /-- Something is wrong with the pattern as a whole. -/
  | flawedOverall (flaw : Flaw)
  /-- A count of repeats is too large. -/
  | countTooLarge
  /-- A count of repeats has too many digits. -/
  | countTooLong (digits : Nat)
  /-- The pattern as a whole asks for two alphabets. -/
  | alphabetConflict
  deriving DecidableEq, Repr

/-- The place of a problem, with line and column if the pattern has several lines. -/
def placeText (pattern : List Char) (position : Nat) : String :=
  let base := " at position " ++ toString position
  if pattern.contains '\n' then
    let before := pattern.take position
    let line := before.count '\n' + 1
    let column := (before.reverse.takeWhile (· != '\n')).length + 1
    base ++ " (line " ++ toString line ++ ", column " ++ toString column ++ ")"
  else base

/-- The message of an error in a pattern. -/
def Error.message (pattern : String) : Error → String
  | .flawed flaw position => flaw.message ++ placeText pattern.toList position
  | .flawedOverall flaw => flaw.message
  | .countTooLarge => "the repetition number is too large"
  | .countTooLong digits =>
    "Exceeds the limit (4300 digits) for integer string conversion: value has " ++ toString digits
      ++ " digits; use sys.set_int_max_str_digits() to increase the limit"
  | .alphabetConflict => "ASCII and UNICODE flags are incompatible"

end DynamicForms.Pattern
