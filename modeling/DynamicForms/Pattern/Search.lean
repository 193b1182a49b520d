import DynamicForms.Pattern.Character
import DynamicForms.Pattern.Parse

/-!
# `DynamicForms.Pattern.Search` — whether a text has a match

A match is looked for at every place of the text, from left to right. At one place the parts of a
pattern are tried in order: the left alternative before the right one, more repeats before fewer (or
fewer before more, if lazy), and each choice is taken back if what follows it fails. A repeat that
took no character is not repeated again at the same place once its least count is reached.

What follows a part is handed to it as a function, so that each part alone decides in which order its
choices are tried.

## Contents
- `Progress`: how far a match has come, and what its groups have taken.
- **Places.** `anchorHolds`.
- **Groups.** `Progress.opened`, `Progress.closed`, `Progress.taken?`.
- **Repeats.** `greedy`, `lazily`, `possessively`.
- `run`, `search`, `Pattern.matches`.
-/

namespace DynamicForms.Pattern

/-- How far a match has come. -/
structure Progress where
  /-- How many characters lie before the place reached. -/
  position : Nat
  /-- Where each group was entered last, by number. -/
  starts : List (Nat × Nat)
  /-- Where each group was left last, by number. -/
  stops : List (Nat × Nat)
  deriving Repr, Inhabited

/-- What is to follow: it gets the progress and says how the match ends, if it does. -/
abbrev Follow := Progress → Option Progress

/-! ## Places -/

/-- Whether the character at a place counts as part of a word. -/
def isWordAt (text : Array Char) (f : Flags) (i : Nat) : Bool :=
  match text[i]? with
  | some ch => categoryHolds f .word ch
  | none => false

/-- Whether the characters on both sides of a place differ in being part of a word. -/
def isEdge (text : Array Char) (f : Flags) (i : Nat) : Bool :=
  (0 < i && isWordAt text f (i - 1)) != isWordAt text f i

/-- Whether a place is the one asked for. No place of the empty text counts as an edge of a word,
nor as none. -/
def anchorHolds (text : Array Char) (f : Flags) (a : Anchor) (i : Nat) : Bool :=
  match a with
  | .textStart => i == 0
  | .textEnd => i == text.size
  | .lineStart => i == 0 || (f.multiline && text[i - 1]? == some '\n')
  | .lineEnd =>
    i == text.size || (text[i]? == some '\n' && (f.multiline || i + 1 == text.size))
  | .wordEdge => text.size != 0 && isEdge text f i
  | .noWordEdge => text.size != 0 && !isEdge text f i

/-- Take one character that satisfies a test. -/
def takeChar (text : Array Char) (holds : Char → Bool) (p : Progress) (follow : Follow) :
    Option Progress :=
  match text[p.position]? with
  | some ch => if holds ch then follow { p with position := p.position + 1 } else none
  | none => none

/-! ## Groups -/

namespace Progress

/-- A group is entered here. -/
def opened (p : Progress) : Option Nat → Progress
  | none => p
  | some n => { p with starts := (n, p.position) :: p.starts.filter (·.1 != n) }

/-- A group is left here. -/
def closed (p : Progress) : Option Nat → Progress
  | none => p
  | some n => { p with stops := (n, p.position) :: p.stops.filter (·.1 != n) }

/-- Where what a group has taken starts and stops; none if the group has not matched. -/
def taken? (p : Progress) (n : Nat) : Option (Nat × Nat) :=
  match p.starts.lookup n, p.stops.lookup n with
  | some start, some stop => if start ≤ stop then some (start, stop) else none
  | _, _ => none

end Progress

/-- Whether two characters are the same for a reference. -/
def sameForReference (f : Flags) (a b : Char) : Bool :=
  if f.ignoreCase then fold f a.toNat == fold f b.toNat else a == b

/-- Whether a stretch of the text comes again at a place. -/
def comesAgain (text : Array Char) (f : Flags) (start place : Nat) : (count : Nat) → Bool
  | 0 => true
  | count + 1 =>
    match text[start]?, text[place]? with
    | some a, some b => sameForReference f a b && comesAgain text f (start + 1) (place + 1) count
    | _, _ => false

/-- Take again what a group has taken. -/
def takeAgain (text : Array Char) (f : Flags) (n : Nat) (p : Progress) (follow : Follow) :
    Option Progress :=
  match p.taken? n with
  | some (start, stop) =>
    if comesAgain text f start p.position (stop - start) then
      follow { p with position := p.position + (stop - start) }
    else none
  | none => none

/-! ## Repeats -/

/-- Whether a repeat may go on after a count. -/
def mayGoOn (most : Option Nat) (count : Nat) : Bool :=
  most.all (count < ·)

/-- Repeat as often as possible. `last` is where the last voluntary repeat started. -/
def greedy (body : Progress → Follow → Option Progress) (least : Nat) (most : Option Nat)
    (follow : Follow) : (fuel count : Nat) → (last : Option Nat) → Progress → Option Progress
  | 0, _, _, _ => none
  | fuel + 1, count, last, p =>
    if count < least then body p (greedy body least most follow fuel (count + 1) last)
    else
      let more :=
        if mayGoOn most count && last != some p.position then
          body p (greedy body least most follow fuel (count + 1) (some p.position))
        else none
      match more with
      | some found => some found
      | none => follow p

/-- Repeat as seldom as possible. -/
def lazily (body : Progress → Follow → Option Progress) (least : Nat) (most : Option Nat)
    (follow : Follow) : (fuel count : Nat) → (last : Option Nat) → Progress → Option Progress
  | 0, _, _, _ => none
  | fuel + 1, count, last, p =>
    if count < least then body p (lazily body least most follow fuel (count + 1) last)
    else
      match follow p with
      | some found => some found
      | none =>
        if mayGoOn most count && last != some p.position then
          body p (lazily body least most follow fuel (count + 1) (some p.position))
        else none

/-- Repeat as often as possible, each time once and for all. -/
def possessively (body : Progress → Follow → Option Progress) (least : Nat) (most : Option Nat)
    (follow : Follow) : (fuel count : Nat) → (last : Option Nat) → Progress → Option Progress
  | 0, _, _, _ => none
  | fuel + 1, count, last, p =>
    if count < least then
      match body p some with
      | some q => possessively body least most follow fuel (count + 1) last q
      | none => none
    else if mayGoOn most count && last != some p.position then
      match body p some with
      | some q => possessively body least most follow fuel (count + 1) (some p.position) q
      | none => follow p
    else follow p

/-- Repeat in one of the modes. A voluntary repeat starts at a new place each time, which bounds
their count. -/
def repeats (mode : Mode) (size : Nat) (body : Progress → Follow → Option Progress) (least : Nat)
    (most : Option Nat) (p : Progress) (follow : Follow) : Option Progress :=
  let fuel := least + (size - p.position) + 3
  match mode with
  | .greedy => greedy body least most follow fuel 0 none p
  | .lazy => lazily body least most follow fuel 0 none p
  | .possessive => possessively body least most follow fuel 0 none p

/-! ## The whole -/

/-- Go on after a look around: a positive one keeps what its groups have taken. -/
def afterLook (negated : Bool) (p : Progress) (found : Option Progress) (follow : Follow) :
    Option Progress :=
  match found with
  | some q => if negated then none else follow { q with position := p.position }
  | none => if negated then follow p else none

/-- Match a part and what follows it. -/
def run (text : Array Char) (spans : List (Option Span)) :
    Node → Flags → Progress → Follow → Option Progress
  | .empty, _, p, follow => follow p
  | .char negated point, f, p, follow =>
    takeChar text (fun ch => pointHolds f point ch != negated) p follow
  | .any, f, p, follow => takeChar text (anyHolds f) p follow
  | .set negated members, f, p, follow => takeChar text (setHolds f negated members) p follow
  | .anchor a, f, p, follow => if anchorHolds text f a p.position then follow p else none
  | .seq a b, f, p, follow => run text spans a f p fun q => run text spans b f q follow
  | .alt a b, f, p, follow =>
    match run text spans a f p follow with
    | some found => some found
    | none => run text spans b f p follow
  | .group number on off body, f, p, follow =>
    run text spans body (f.inGroup on off) (p.opened number) fun q => follow (q.closed number)
  | .atomic body, f, p, follow =>
    match run text spans body f p some with
    | some q => follow q
    | none => none
  | .look ahead negated body, f, p, follow =>
    let back := if ahead then 0 else (body.span spans).least
    let found :=
      if p.position < back then none
      else run text spans body f { p with position := p.position - back } some
    afterLook negated p found follow
  | .repeated mode least most body, f, p, follow =>
    repeats mode text.size (fun q k => run text spans body f q k) least most p follow
  | .backref n, f, p, follow => takeAgain text f n p follow
  | .ifGroup n yes no, f, p, follow =>
    if (p.taken? n).isSome then run text spans yes f p follow else run text spans no f p follow

/-- Look for a match at the last places of the text, the given count and one more. -/
def searchFrom (pattern : Pattern) (text : Array Char) : (left : Nat) → Bool
  | 0 => matchesAt text.size
  | left + 1 => matchesAt (text.size - (left + 1)) || searchFrom pattern text left
where
  /-- Whether a match starts at a place. -/
  matchesAt (place : Nat) : Bool :=
    (run text pattern.spans pattern.node pattern.flags ⟨place, [], []⟩ some).isSome

/-- Whether a text has a match of a pattern. -/
def search (pattern : Pattern) (s : String) : Bool :=
  let text := s.toList.toArray
  searchFrom pattern text text.size

end DynamicForms.Pattern
