/-!
# `DynamicForms.Pattern.Syntax` — what a pattern says

A pattern is a tree of characters, sets, anchors, groups, repeats, choices, references and looks
around. Characters are code points, since a pattern may name points that no text holds.

## Contents
- `Flags`: what changes how a pattern is taken.
- `Category`, `Member`: what a set is made of.
- `Anchor`, `Mode`, `Node`.
- `Span`, `Node.span`: how many characters a pattern can take.
-/

namespace DynamicForms.Pattern

/-- What changes how a pattern is taken. -/
structure Flags where
  /-- The case of letters does not matter. -/
  ignoreCase : Bool := false
  /-- Line anchors hold at every line. -/
  multiline : Bool := false
  /-- The point takes line ends too. -/
  dotAll : Bool := false
  /-- White space and comments in the pattern are skipped. -/
  verbose : Bool := false
  /-- Only ASCII characters count as letters, digits and white space. -/
  ascii : Bool := false
  /-- All characters count; this is so unless `ascii` is set. -/
  unicode : Bool := false
  /-- The pattern is a template, which may not repeat anything. -/
  template : Bool := false
  deriving DecidableEq, Repr, Inhabited

namespace Flags

/-- The flags of either. -/
def union (f g : Flags) : Flags where
  ignoreCase := f.ignoreCase || g.ignoreCase
  multiline := f.multiline || g.multiline
  dotAll := f.dotAll || g.dotAll
  verbose := f.verbose || g.verbose
  ascii := f.ascii || g.ascii
  unicode := f.unicode || g.unicode
  template := f.template || g.template

/-- The flags of the first that the second lacks. -/
def without (f g : Flags) : Flags where
  ignoreCase := f.ignoreCase && !g.ignoreCase
  multiline := f.multiline && !g.multiline
  dotAll := f.dotAll && !g.dotAll
  verbose := f.verbose && !g.verbose
  ascii := f.ascii && !g.ascii
  unicode := f.unicode && !g.unicode
  template := f.template && !g.template

/-- Whether the two share a flag. -/
def overlap (f g : Flags) : Bool :=
  f.ignoreCase && g.ignoreCase || f.multiline && g.multiline || f.dotAll && g.dotAll
    || f.verbose && g.verbose || f.ascii && g.ascii || f.unicode && g.unicode
    || f.template && g.template

/-- Whether an alphabet is chosen. -/
def choosesAlphabet (f : Flags) : Bool :=
  f.ascii || f.unicode

/-- The flags inside a group that turns some on and some off; an alphabet replaces the one
before. -/
def inGroup (f on off : Flags) : Flags :=
  let f := if on.choosesAlphabet then { f with ascii := false, unicode := false } else f
  (f.union on).without off

end Flags

/-- Kinds of characters. -/
inductive Category where
  /-- Decimal digits. -/
  | digit
  /-- White space. -/
  | space
  /-- Letters, digits and the underscore. -/
  | word
  deriving DecidableEq, Repr, Inhabited

/-- What a set is made of. -/
inductive Member where
  /-- One character. -/
  | point (p : Nat)
  /-- All characters between two. -/
  | range (low high : Nat)
  /-- All characters of a kind, or all others. -/
  | category (negated : Bool) (c : Category)
  deriving DecidableEq, Repr, Inhabited

/-- Places that take no character. -/
inductive Anchor where
  /-- The start of the text, or of a line. -/
  | lineStart
  /-- The end of the text, the place before a line end that ends it, or the end of a line. -/
  | lineEnd
  /-- The start of the text. -/
  | textStart
  /-- The end of the text. -/
  | textEnd
  /-- An edge of a word. -/
  | wordEdge
  /-- Anywhere but at an edge of a word. -/
  | noWordEdge
  deriving DecidableEq, Repr, Inhabited

/-- How a repeat chooses its count. -/
inductive Mode where
  /-- As many as possible first. -/
  | greedy
  /-- As few as possible first. -/
  | lazy
  /-- As many as possible, once and for all. -/
  | possessive
  deriving DecidableEq, Repr, Inhabited

/-- A part of a pattern. -/
inductive Node where
  /-- Nothing. -/
  | empty
  /-- One character, or any but one. -/
  | char (negated : Bool) (point : Nat)
  /-- Any character, line ends perhaps excepted. -/
  | any
  /-- One character of a set, or one outside of it. -/
  | set (negated : Bool) (members : List Member)
  /-- A place. -/
  | anchor (a : Anchor)
  /-- One part after the other. -/
  | seq (first second : Node)
  /-- The first part, or else the second. -/
  | alt (first second : Node)
  /-- A group, remembered under its number if it has one, with flags turned on and off. -/
  | group (number : Option Nat) (on off : Flags) (body : Node)
  /-- A group that is not tried again once it has matched. -/
  | atomic (body : Node)
  /-- A look ahead or behind, which must succeed or fail. -/
  | look (ahead negated : Bool) (body : Node)
  /-- A part again and again. -/
  | repeated (mode : Mode) (least : Nat) (most : Option Nat) (body : Node)
  /-- What a group has matched. -/
  | backref (number : Nat)
  /-- One part if a group has matched, another if not. -/
  | ifGroup (number : Nat) (yes no : Node)
  deriving DecidableEq, Repr, Inhabited

/-- Parts one after the other. -/
def Node.ofList : List Node → Node
  | [] => .empty
  | [node] => node
  | node :: rest => .seq node (ofList rest)

/-! ## Lengths -/

/-- The least and greatest count of characters that a part takes. -/
structure Span where
  /-- The least count. -/
  least : Nat
  /-- The greatest count. -/
  most : Nat
  deriving DecidableEq, Repr, Inhabited

namespace Span

/-- A count that stands for no bound. -/
def unbounded : Nat := Nat.pow 2 64

/-- Cut both counts at the unbounded one. -/
def cut (s : Span) : Span := ⟨min s.least unbounded, min s.most unbounded⟩

/-- One after the other. -/
def add (s t : Span) : Span := ⟨s.least + t.least, s.most + t.most⟩

/-- One or the other. -/
def join (s t : Span) : Span := ⟨min s.least t.least, max s.most t.most⟩

/-- Again and again. -/
def times (s : Span) (least : Nat) (most : Option Nat) : Span where
  least := s.least * least
  most := match most with
    | some n => s.most * n
    | none => if s.most = 0 then 0 else unbounded

end Span

/-- The span of a part, given the spans of the groups by number. -/
def Node.span (groups : List (Option Span)) : Node → Span
  | .empty => ⟨0, 0⟩
  | .char .. => ⟨1, 1⟩
  | .any => ⟨1, 1⟩
  | .set .. => ⟨1, 1⟩
  | .anchor _ => ⟨0, 0⟩
  | .seq a b => ((a.span groups).add (b.span groups)).cut
  | .alt a b => (a.span groups).join (b.span groups)
  | .group _ _ _ body => body.span groups
  | .atomic body => body.span groups
  | .look .. => ⟨0, 0⟩
  | .repeated _ least most body => ((body.span groups).times least most).cut
  | .backref n => ((groups[n]?).join).getD ⟨0, 0⟩
  | .ifGroup _ yes no => (yes.span groups).join (no.span groups)

end DynamicForms.Pattern
