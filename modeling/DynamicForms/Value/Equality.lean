import DynamicForms.Value.Basic

/-!
# `DynamicForms.Value.Equality` — when two values are the same

Three equalities, from the coarsest to the finest use. `alike` is equality by content: booleans and
numbers are equal by value whatever their type, objects whatever the order of their names, a NaN is
alike only to itself, and a foreign value to nothing. `strictlyEqual` is what conditions compare
with: content, but a boolean never equals a number, a text only a text, and an absent value nothing.
`sameValue` is what change detection compares with: content and type, with absence equal to itself.
At the top neither takes a NaN as equal to itself.

## Contents
- `Value.alike`, `strictlyEqual`, `sameValue`.
- `occursIn`: membership of a list by content.
-/

namespace DynamicForms.Value

/-- Equality of the number zero or one that a boolean stands for, with a whole number. -/
def boolEqInt (b : Bool) (n : Int) : Bool :=
  (if b then 1 else 0) == n

mutual

/-- Equality by content. -/
def alike : Value → Value → Bool
  | .null, .null => true
  | .bool a, .bool b => a == b
  | .bool a, .int n => boolEqInt a n
  | .bool a, .double d => d.numEqInt (if a then 1 else 0)
  | .int n, .bool b => boolEqInt b n
  | .int n, .int m => n == m
  | .int n, .double d => d.numEqInt n
  | .double d, .bool b => d.numEqInt (if b then 1 else 0)
  | .double d, .int n => d.numEqInt n
  | .double (.nan k), .double (.nan l) => k == l
  | .double d, .double e => d.numEq e
  | .text s, .text t => s == t
  | .list xs, .list ys => alikeList xs ys
  | .object fs, .object gs => fs.length == gs.length && alikeFields fs gs
  | .absent, .absent => true
  | _, _ => false

/-- Equality of lists, element by element. -/
def alikeList : List Value → List Value → Bool
  | [], [] => true
  | x :: xs, y :: ys => alike x y && alikeList xs ys
  | _, _ => false

/-- Whether every entry has a like one under the same name. -/
def alikeFields : List (String × Value) → List (String × Value) → Bool
  | [], _ => true
  | (name, x) :: rest, gs =>
    match Entries.get? gs name with
    | some y => alike x y && alikeFields rest gs
    | none => false

end

/-- Whether the value is a NaN. -/
def isNaN : Value → Bool
  | .double (.nan _) => true
  | _ => false

/-- Equality of two operands: by content, but a NaN is not equal to itself. -/
def equalOperands (a b : Value) : Bool :=
  alike a b && !a.isNaN

/-- The equality of conditions: no boolean equals a number, no text anything else, and nothing is
equal to an absent value. -/
def strictlyEqual (actual expected : Value) : Bool :=
  !actual.isAbsent && !expected.isAbsent
    && actual.isBool == expected.isBool && actual.isText == expected.isText
    && equalOperands actual expected

/-- The type of a value. -/
inductive Kind where
  /-- The type of null. -/
  | null
  /-- The type of booleans. -/
  | bool
  /-- The type of whole numbers. -/
  | int
  /-- The type of doubles. -/
  | double
  /-- The type of texts. -/
  | text
  /-- The type of lists. -/
  | list
  /-- The type of objects. -/
  | object
  /-- The type of the absent value. -/
  | absent
  /-- The type of foreign values. -/
  | foreign
  deriving DecidableEq, Repr

/-- The type of a value. -/
def kind : Value → Kind
  | .null => .null
  | .bool _ => .bool
  | .int _ => .int
  | .double _ => .double
  | .text _ => .text
  | .list _ => .list
  | .object _ => .object
  | .absent => .absent
  | .foreign => .foreign

/-- The equality of change detection: the same type and the same content, or both absent. -/
def sameValue (first second : Value) : Bool :=
  if first.isAbsent || second.isAbsent then first.isAbsent && second.isAbsent
  else first.kind == second.kind && equalOperands first second

/-- Whether a list has an element with the content of a value. -/
def occursIn (needle : Value) (items : List Value) : Bool :=
  items.any fun item => alike item needle

@[simp] theorem sameValue_absent_absent : sameValue .absent .absent = true := rfl

theorem sameValue_absent_left (v : Value) : sameValue .absent v = v.isAbsent := by
  simp [sameValue]

theorem sameValue_absent_right (v : Value) : sameValue v .absent = v.isAbsent := by
  simp [sameValue]

theorem strictlyEqual_absent_left (v : Value) : strictlyEqual .absent v = false := rfl

theorem sameValue_text (s t : String) : sameValue (.text s) (.text t) = (s == t) := by
  rw [sameValue]
  simp [kind, equalOperands, alike, isNaN, isAbsent]

end DynamicForms.Value
