import DynamicForms.Pattern.Escape
import DynamicForms.Text.Identifier

/-!
# `DynamicForms.Pattern.Parse` — from texts to patterns

A pattern is alternatives separated by bars, each a row of parts, each part perhaps repeated. Groups
may be numbered, named, remembered or not, looked at ahead or behind, made to depend on another
group, and may turn flags on and off. Flags for the whole pattern stand at its start.

After reading, the whole is checked once more: look behinds must have a fixed length.

## Contents
- **Flags.** `flagOf?`, `flagsOn`, `flagsOff`, `flagGroup`.
- **Sets.** `setMembers`, `setNode`.
- **Repeats.** `bounds?`, `repeatLast`.
- **Groups.** `closeParen`, `capture`, `look`, `conditional`, `group`.
- **Rows and alternatives.** `row`, `alternatives`.
- `Pattern`, `Pattern.parse`.
-/

namespace DynamicForms.Pattern

open Reader

namespace Parse

/-! ## Flags -/

/-- The flag of a letter. The locale flag has a letter too, but none of its own here. -/
def flagOf? : Char → Option Flags
  | 'i' => some { ignoreCase := true }
  | 'm' => some { multiline := true }
  | 's' => some { dotAll := true }
  | 'x' => some { verbose := true }
  | 'a' => some { ascii := true }
  | 'u' => some { unicode := true }
  | 't' => some { template := true }
  | _ => none

/-- Whether a letter is a flag. -/
def isFlag (c : Char) : Bool :=
  c == 'L' || (flagOf? c).isSome

/-- The one character of a token that is a flag. -/
def flagToken? : Token → Option Char
  | [c] => if isFlag c then some c else none
  | _ => none

/-- What to say of a token that should be a flag: a letter is an unknown flag, anything else lacks
what was expected. -/
def noFlag {α : Type} (token : Token) (expected : Flaw) : Reader α :=
  let letters := !token.isEmpty && token.all Text.isLetter
  failBack (if letters then .unknownFlag else expected) token.length

/-- Flags to turn on, from a first one; the answer has the token that ends them. -/
def flagsOn : (fuel : Nat) → Char → Flags → Reader (Flags × Char)
  | 0, _, _ => fail .flagsUnended
  | fuel + 1, c, on => do
    match flagOf? c with
    | none => fail .localeFlag
    | some flag =>
      let on := on.union flag
      if flag.choosesAlphabet && on.ascii && on.unicode then
        fail .alphabetsCombined
      match ← take? with
      | none => fail .flagsUnended
      | some token =>
        match token with
        | [')'] => return (on, ')')
        | ['-'] => return (on, '-')
        | [':'] => return (on, ':')
        | _ =>
          match flagToken? token with
          | some next => flagsOn fuel next on
          | none => noFlag token .flagsUnended

/-- Flags to turn off, from a first one, up to the colon. -/
def flagsOff : (fuel : Nat) → Char → Flags → Reader Flags
  | 0, _, _ => fail .missingColon
  | fuel + 1, c, off => do
    match flagOf? c with
    | none => fail .alphabetOff
    | some flag =>
      if flag.choosesAlphabet then
        fail .alphabetOff
      let off := off.union flag
      match ← take? with
      | none => fail .missingColon
      | some token =>
        if token == [':'] then return off
        else
          match flagToken? token with
          | some next => flagsOff fuel next off
          | none => noFlag token .missingColon

/-- A bound for the count of tokens left. -/
def lengthLeft : Reader Nat := do
  return (← get).source.rest.length + 3

/-- The flags that a group turns off, after the minus. -/
def flagsOffFirst : Reader Flags := do
  match ← take? with
  | none => fail .missingFlag
  | some token =>
    match flagToken? token with
    | some c => flagsOff (← lengthLeft) c {}
    | none => noFlag token .missingFlag

/-- The flags at the start of a group: those turned on and off inside it; none if the flags are for
the whole pattern. -/
def flagGroup (c : Char) : Reader (Option (Flags × Flags)) := do
  let (on, ending) ← if c == '-' then pure ({}, '-') else flagsOn (← lengthLeft) c {}
  if ending == ')' then
    modify fun s => { s with flags := s.flags.union on }
    return none
  else
    if on.template then
      failBack .globalFlagOn 1
    let off ← if ending == '-' then flagsOffFirst else pure {}
    if off.template then
      failBack .globalFlagOff 1
    if on.overlap off then
      failBack .flagOnAndOff 1
    return some (on, off)

/-! ## Sets -/

/-- What a token in a set stands for. -/
def setItem : Token → Reader SetEscape
  | ['\\', c] => Escape.inSet c
  | [c] => return .point c.toNat
  | _ => fail .unterminatedSet

/-- What one item adds to a set. -/
def SetEscape.member : SetEscape → Member
  | .point p => .point p
  | .category negated c => .category negated c

/-- The members of a set up to its closing bracket, which is a member if it comes first. -/
def setMembers (start : Nat) : (fuel : Nat) → List Member → Reader (List Member)
  | 0, _ => failAt .unterminatedSet start
  | fuel + 1, members => do
    match ← take? with
    | none => failAt .unterminatedSet start
    | some token =>
      if token == [']'] && !members.isEmpty then return members
      else
        let low ← setItem token
        if ← accept '-' then
          match ← take? with
          | none => failAt .unterminatedSet start
          | some other =>
            if other == [']'] then
              return members ++ [SetEscape.member low, .point '-'.toNat]
            else
              let high ← setItem other
              let bad : Reader (List Member) :=
                failBack (.badRange (String.ofList token) (String.ofList other))
                  (token.length + 1 + other.length)
              match low, high with
              | .point a, .point b =>
                if b < a then bad else setMembers start fuel (members ++ [.range a b])
              | _, _ => bad
        else setMembers start fuel (members ++ [SetEscape.member low])

/-- A set, whose opening bracket stood at a place; a set of one character is that character. -/
def setNode (start : Nat) : Reader Node := do
  let negated ← accept '^'
  let members ← setMembers start (← lengthLeft) []
  match members.eraseDups with
  | [.point p] => return .char negated p
  | members => return .set negated members

/-! ## Repeats -/

/-- The least count that is too large for a repeat. -/
def countLimit : Nat := 4294967295

/-- A count of repeats. -/
def countOf (digits : List Char) : Reader Nat :=
  if digits.length > Numeral.maxIntDigits then throw (.countTooLong digits.length)
  else
    let n := Numeral.digitsValue digits
    if n ≥ countLimit then throw .countTooLarge else return n

/-- The digits that come next. -/
def digitTokens : Reader (List Char) := do
  takeWhile Char.isDigit ((← get).source.rest.length + 2)

/-- The counts between braces, whose opening one has been taken; none if what follows is not of
that form, and then nothing is taken. -/
def bounds? : Reader (Option (Nat × Option Nat)) := do
  let opened ← get
  let low ← digitTokens
  let comma ← accept ','
  let high ← if comma then digitTokens else pure low
  if ← accept '\x7d' then
    let least ← if low.isEmpty then pure 0 else countOf low
    let most ← if high.isEmpty then pure none else (do return some (← countOf high))
    if most.any (· < least) then
      failAt .countsReversed opened.source.position
    return some (least, most)
  else
    set opened
    return none

/-- How the repeat chooses its count. -/
def repeatMode : Reader Mode := do
  if ← accept '?' then return .lazy
  else if ← accept '+' then return .possessive
  else return .greedy

/-- Repeat the last part of a row; the sign of the repeat stood at a place. -/
def repeatLast (place least : Nat) (most : Option Nat) (done : List Node) : Reader (List Node) := do
  match done with
  | [] => failAt .nothingToRepeat place
  | .anchor _ :: _ => failAt .nothingToRepeat place
  | .repeated .. :: _ => failAt .multipleRepeat place
  | node :: rest => return .repeated (← repeatMode) least most node :: rest

/-! ## Groups -/

/-- What a parenthesis brings. -/
inductive Piece where
  /-- A part. -/
  | part (node : Node)
  /-- Nothing: a comment. -/
  | nothing
  /-- New flags for the whole pattern. -/
  | flags

/-- A number past which there are no groups. -/
def groupLimit : Nat := 1073741823

/-- Take the closing parenthesis of a group that was opened at a place. -/
def closeParen (start : Nat) : Reader Unit := do
  if !(← accept ')') then
    failAt .unterminatedGroup start

/-- A name of a group up to a terminator. -/
def groupName (terminator : Char) : Reader String := do
  let name ← takeUntil terminator "group name"
  if Text.isIdentifier name then return String.ofList name
  else failBack (.badGroupName (String.ofList name)) (name.length + 1)

/-- The number of the group with a name. -/
def numberOf (name : String) : Reader Nat := do
  match (← get).names.lookup name with
  | some number => return number
  | none => failBack (.unknownGroupName name) (name.length + 1)

/-- Open a group, with a name if it has one. -/
def openGroup (name : Option String) : Reader Nat := do
  let s ← get
  let number := s.spans.length
  match name with
  | none => set { s with spans := s.spans ++ [none] }
  | some name =>
    match s.names.lookup name with
    | some old => failBack (.groupRedefined name number old) (name.length + 1)
    | none => set { s with spans := s.spans ++ [none], names := (name, number) :: s.names }
  return number

/-- Close a group. -/
def closeGroup (number : Nat) (body : Node) : Reader Unit :=
  modify fun s => { s with spans := s.spans.set number (some (body.span s.spans)) }

/-- A group that is remembered. -/
def capture (start : Nat) (name : Option String) (body : Reader Node) : Reader Piece := do
  let number ← openGroup name
  let node ← body
  closeParen start
  closeGroup number node
  return .part (.group (some number) {} {} node)

/-- A group that is not remembered. -/
def enclosed (start : Nat) (wrap : Node → Node) (body : Reader Node) : Reader Piece := do
  let node ← body
  closeParen start
  return .part (wrap node)

/-- A look ahead. -/
def lookAhead (start : Nat) (negated : Bool) (body : Reader Node) : Reader Piece :=
  enclosed start (.look true negated) body

/-- A look behind. -/
def lookBehind (start : Nat) (negated : Bool) (body : Reader Node) : Reader Piece := do
  let before := (← get).behindFrom
  if before.isNone then
    modify fun s => { s with behindFrom := some s.spans.length }
  let node ← body
  if before.isNone then
    modify fun s => { s with behindFrom := none }
  closeParen start
  return .part (.look false negated node)

/-- A reference by name to a closed group. -/
def namedReference : Reader Piece := do
  let name ← groupName ')'
  let number ← numberOf name
  if !Escape.isClosed (← get) number then
    failBack .openGroup (name.length + 1)
  Escape.checkBehind number
  return .part (.backref number)

/-- The group that a conditional group depends on, by name or number. -/
def conditionGroup : Reader Nat := do
  let name ← takeUntil ')' "group name"
  let s := String.ofList name
  if Text.isIdentifier name then numberOf s
  else
    match Numeral.readInt? s with
    | some (.ofNat 0) => failBack .groupZero (name.length + 1)
    | some (.ofNat number) =>
      if number ≥ groupLimit then failBack (.noGroup number) (name.length + 1)
      else
        let place := (← position) - name.length - 1
        modify fun s =>
          if s.asked.any (·.1 == number) then s else { s with asked := s.asked ++ [(number, place)] }
        return number
    | _ => failBack (.badGroupName s) (name.length + 1)

/-- A group that depends on whether another one has matched. -/
def conditional (start : Nat) (branch : Reader Node) : Reader Piece := do
  let number ← conditionGroup
  Escape.checkBehind number
  let yes ← branch
  let no ←
    if ← accept '|' then do
      let no ← branch
      if (← peek) == some ['|'] then
        fail .tooManyBranches
      pure no
    else pure .empty
  closeParen start
  return .part (.ifGroup number yes no)

/-- Skip a comment, which ends at the next closing parenthesis. -/
def comment (start : Nat) : (fuel : Nat) → Reader Piece
  | 0 => failAt .unterminatedComment start
  | fuel + 1 => do
    match ← take? with
    | none => failAt .unterminatedComment start
    | some token => if token == [')'] then return .nothing else comment start fuel

/-- What follows a parenthesis at a place, a question mark and the letter for extensions. -/
def extension (start : Nat) (body : Reader Node) : Reader Piece := do
  if ← accept '<' then
    let name ← groupName '>'
    capture start (some name) body
  else if ← accept '=' then namedReference
  else
    match ← take? with
    | none => fail .unexpectedEnd
    | some token =>
      failBack (.unknownExtension (String.ofList ('P' :: token))) (token.length + 2)

/-- What follows a parenthesis, a question mark and the sign of a look behind. -/
def behind (start : Nat) (body : Reader Node) : Reader Piece := do
  match ← take? with
  | none => fail .unexpectedEnd
  | some ['='] => lookBehind start false body
  | some ['!'] => lookBehind start true body
  | some token => failBack (.unknownExtension (String.ofList ('<' :: token))) (token.length + 2)

/-- What follows an opening parenthesis at a place. The body of a group is read as alternatives,
with white space skipped or not; the branch of a conditional group as a row. -/
def group (start : Nat) (verbose atStart : Bool) (body : Bool → Reader Node)
    (branch : Reader Node) : Reader Piece := do
  if ← accept '?' then
    match ← take? with
    | none => fail .unexpectedEnd
    | some token =>
      match token with
      | ['P'] => extension start (body verbose)
      | [':'] => enclosed start (.group none {} {}) (body verbose)
      | ['>'] => enclosed start .atomic (body verbose)
      | ['#'] => comment start (← lengthLeft)
      | ['='] => lookAhead start false (body verbose)
      | ['!'] => lookAhead start true (body verbose)
      | ['<'] => behind start (body verbose)
      | ['('] => conditional start branch
      | [c] =>
        if c == '-' || isFlag c then
          match ← flagGroup c with
          | none => if atStart then return .flags else failAt .misplacedFlags start
          | some (on, off) =>
            enclosed start (.group none on off) (body ((verbose || on.verbose) && !off.verbose))
        else failBack (.unknownExtension (String.ofList token)) (token.length + 1)
      | _ => failBack (.unknownExtension (String.ofList token)) (token.length + 1)
  else
    capture start none (body verbose)

/-! ## Rows and alternatives -/

/-- White space that a verbose pattern skips. -/
def isSkipped (c : Char) : Bool :=
  c == ' ' || (9 ≤ c.toNat && c.toNat ≤ 13)

/-- Skip the rest of a line. -/
def skipLine : (fuel : Nat) → Reader Unit
  | 0 => return
  | fuel + 1 => do
    match ← take? with
    | none => return
    | some token => if token == ['\n'] then return else skipLine fuel

mutual

/-- Alternatives, the first of which may start with flags if these are the outermost. -/
def alternatives (outermost first verbose : Bool) : (fuel : Nat) → Reader Node
  | 0 => fail .unexpectedEnd
  | fuel + 1 => do
    let node ← row outermost (outermost && first) verbose fuel []
    if ← accept '|' then
      let s ← get
      let verbose := if outermost then s.flags.verbose else verbose
      return .alt node (← alternatives outermost false verbose fuel)
    else
      return node

/-- The parts of one alternative; those already read are in `done`, the last one first. -/
def row (outermost first verbose : Bool) : (fuel : Nat) → List Node → Reader Node
  | 0, _ => fail .unexpectedEnd
  | fuel + 1, done => do
    let go (done : List Node) : Reader Node := row outermost first verbose fuel done
    let ended := Node.ofList done.reverse
    match ← peek with
    | none => return ended
    | some token =>
      if token == ['|'] || token == [')'] then return ended
      else
        let place ← position
        let _ ← take?
        match token with
        | ['\\', c] => go ((← Escape.outside c) :: done)
        | [c] =>
          let again (least : Nat) (most : Option Nat) : Reader Node := do
            go (← repeatLast place least most done)
          if verbose && isSkipped c then go done
          else if verbose && c == '#' then
            skipLine (← lengthLeft)
            go done
          else if c == '[' then go ((← setNode place) :: done)
          else if c == '?' then again 0 (some 1)
          else if c == '*' then again 0 none
          else if c == '+' then again 1 none
          else if c == '\x7b' then
            if (← peek) == some ['\x7d'] then go (.char false c.toNat :: done)
            else
              match ← bounds? with
              | none => go (.char false c.toNat :: done)
              | some (least, most) => again least most
          else if c == '.' then go (.any :: done)
          else if c == '^' then go (.anchor .lineStart :: done)
          else if c == '$' then go (.anchor .lineEnd :: done)
          else if c == '(' then
            let body (verbose : Bool) : Reader Node := alternatives false false verbose fuel
            let branch : Reader Node := row false false verbose fuel []
            match ← group place verbose (first && done.isEmpty) body branch with
            | .part node => go (node :: done)
            | .nothing => go done
            | .flags =>
              let s ← get
              row outermost first s.flags.verbose fuel done
          else go (.char false c.toNat :: done)
        | _ => return ended

end

/-! ## Checks on the whole -/

/-- The longest look behind. -/
def behindLimit : Nat := 4294967295

/-- The name of a repeat in a message. -/
def modeName : Mode → String
  | .greedy => "MAX_REPEAT"
  | .lazy => "MIN_REPEAT"
  | .possessive => "POSSESSIVE_REPEAT"

/-- Look behinds have a fixed length, and a template repeats nothing. -/
def checkNode (template : Bool) (groups : List (Option Span)) : Node → Except Error Unit
  | .seq a b => do
    checkNode template groups a
    checkNode template groups b
  | .alt a b => do
    checkNode template groups a
    checkNode template groups b
  | .group _ _ _ body => checkNode template groups body
  | .atomic body => checkNode template groups body
  | .look ahead _ body => do
    if !ahead then
      let span := body.span groups
      if span.least > behindLimit then
        throw (.flawedOverall .lookBehindTooLong)
      if span.least != span.most then
        throw (.flawedOverall .lookBehindWidth)
    checkNode template groups body
  | .repeated mode _ _ body => do
    if template then
      throw (.flawedOverall (.repeatInTemplate (modeName mode)))
    checkNode template groups body
  | .ifGroup _ yes no => do
    checkNode template groups yes
    checkNode template groups no
  | _ => .ok ()

/-- The whole pattern. -/
def whole (length : Nat) : Reader Node := do
  let node ← alternatives true true false (4 * length + 8)
  let s ← get
  if s.flags.ascii && s.flags.unicode then
    throw .alphabetConflict
  if s.source.next.isSome then
    fail .unbalanced
  match s.asked.find? (·.1 ≥ s.spans.length) with
  | some (number, place) => failAt (.noGroup number) place
  | none =>
    checkNode s.flags.template s.spans node
    return node

end Parse

end DynamicForms.Pattern

namespace DynamicForms

/-- A pattern that has been read. -/
structure Pattern where
  /-- What it says. -/
  node : Pattern.Node
  /-- The flags for the whole of it. -/
  flags : Pattern.Flags
  /-- The spans of its groups by number. -/
  spans : List (Option Pattern.Span)
  deriving DecidableEq, Repr, Inhabited

/-- Read a pattern. -/
def Pattern.parse (s : String) : Except Pattern.Error Pattern := do
  let source ← Pattern.Source.at 0 s.toList
  let (node, state) ← (Pattern.Parse.whole s.length).run ⟨source, {}, [], [none], none, []⟩
  return ⟨node, state.flags, state.spans⟩

end DynamicForms
