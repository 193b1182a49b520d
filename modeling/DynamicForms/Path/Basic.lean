/-!
# `DynamicForms.Path.Basic` — dotted paths

A place in a form is named by a path: the identifiers on the way to it with dots between them. Dots
at the ends and doubled dots name nothing, so a path stands for its nonempty segments.

## Contents
- `Path.join`, `Path.segments`, `Path.parent`.
- `Path.overlaps`: whether one path equals, contains or is contained by the other.
-/

namespace DynamicForms.Path

/-- A name inside the place that a path names; the empty path is the whole form. -/
def join (parent child : String) : String :=
  if parent.isEmpty then child else parent ++ "." ++ child

/-- The pieces between the dots, empty ones included. -/
def pieces : List Char → List (List Char)
  | [] => [[]]
  | c :: rest =>
    if c == '.' then [] :: pieces rest
    else
      match pieces rest with
      | [] => [[c]]
      | piece :: more => (c :: piece) :: more

/-- The nonempty segments of a path. -/
def segments (path : String) : List String :=
  ((pieces path.toList).filter (!·.isEmpty)).map String.ofList

/-- The path before the last dot; empty if there is no dot. -/
def parent (path : String) : String :=
  String.ofList ((path.toList.reverse.dropWhile (· != '.')).drop 1).reverse

/-- Whether a path lies below another one. -/
def below (path above : String) : Bool :=
  (above.toList ++ ['.']).isPrefixOf path.toList

/-- Whether one path equals, contains or is contained by the other. -/
def overlaps (first second : String) : Bool :=
  first == second || below first second || below second first

theorem join_empty (child : String) : join "" child = child := by
  simp [join]

theorem pieces_ne_nil (cs : List Char) : pieces cs ≠ [] := by
  cases cs with
  | nil => simp [pieces]
  | cons c rest =>
    by_cases h : c = '.'
    · simp [pieces, h]
    · cases hp : pieces rest <;> simp [pieces, h, hp]

theorem pieces_of_no_dot {cs : List Char} (h : '.' ∉ cs) : pieces cs = [cs] := by
  induction cs with
  | nil => rfl
  | cons c rest ih =>
    simp only [List.mem_cons, not_or] at h
    have hc : (c == '.') = false := by simpa using Ne.symm h.1
    simp [pieces, hc, ih h.2]

theorem pieces_append_dot (front back : List Char) :
    pieces (front ++ '.' :: back) = pieces front ++ pieces back := by
  induction front with
  | nil => simp [pieces]
  | cons c rest ih =>
    by_cases h : c = '.'
    · simp [pieces, h, ih]
    · have hc : (c == '.') = false := by simpa using h
      cases hp : pieces rest with
      | nil => exact absurd hp (pieces_ne_nil rest)
      | cons piece more => simp [pieces, hc, ih, hp]

theorem overlaps_refl (path : String) : overlaps path path = true := by
  simp [overlaps]

theorem overlaps_comm (first second : String) : overlaps first second = overlaps second first := by
  unfold overlaps
  rw [Bool.or_assoc, Bool.or_assoc, Bool.or_comm (below first second), Bool.beq_comm]

end DynamicForms.Path
