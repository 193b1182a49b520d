/-!
# `DynamicForms.Text.CharSet` — sets of characters given by their boundaries

A set of code points is written as the ascending list of the points at which membership flips:
the set starts out, is in from the first point on, out again from the second on, and so forth.
A property of characters with seven hundred ranges is then one flat list of numbers.

## Contents
- `CharSet` and `CharSet.contains`.
- `contains_nil`, `contains_of_lt`: no flip point, or only later ones, means outside.
-/

namespace DynamicForms.Text

/-- A set of characters, as the ascending code points at which membership flips. -/
structure CharSet where
  /-- The points, in ascending order: in from the first, out from the second, in from the third. -/
  flips : List Nat

namespace CharSet

/-- Membership of a code point: an odd number of flips lies at or below it. -/
def containsPoint : List Nat → Nat → Bool
  | [], _ => false
  | flip :: rest, point => if flip ≤ point then !containsPoint rest point else false

/-- Membership of a character. -/
def contains (set : CharSet) (c : Char) : Bool :=
  containsPoint set.flips c.toNat

theorem containsPoint_nil (point : Nat) : containsPoint [] point = false := rfl

theorem containsPoint_of_lt {flip point : Nat} (rest : List Nat) (h : point < flip) :
    containsPoint (flip :: rest) point = false := by
  simp [containsPoint, Nat.not_le.mpr h]

theorem containsPoint_of_le {flip point : Nat} (rest : List Nat) (h : flip ≤ point) :
    containsPoint (flip :: rest) point = !containsPoint rest point := by
  simp [containsPoint, h]

end CharSet

end DynamicForms.Text
