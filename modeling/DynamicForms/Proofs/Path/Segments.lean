import DynamicForms.Path.Basic

/-!
# `DynamicForms.Proofs.Path.Segments` — paths and their segments

A path is *whole* if every piece between its dots names something. Whole paths and nonempty lists of
nonempty names without dots are the same thing, and two whole paths overlap exactly if the segments
of one are the first segments of the other. So everything that is said about places in a form can
be said about lists of segments.

## Contents
- **Pieces.** `pieces_eq_splitOn`, `pieces_injective`, `dot_not_mem_piece`.
- **Whole paths.** `IsWhole`, `segments_of_isWhole`, `segments_inj`.
- **Overlap.** `below_iff`, `overlaps_iff`.
- **Names inside a place.** `IsName`, `segments_join`, `isWhole_join`, `parent_join`.
-/

namespace DynamicForms
namespace Path

/-! ## Pieces

The pieces of a text are those of the library's `List.splitOn`, whose laws give that a text is known
from its pieces. -/

theorem pieces_eq_splitOn (cs : List Char) : pieces cs = cs.splitOn '.' := by
  induction cs with
  | nil => rfl
  | cons c rest ih =>
    rw [List.splitOn_cons_eq_if_modifyHead, pieces, ih]
    by_cases hc : (c == '.') = true
    · rw [if_pos hc, if_pos hc]
    · rw [if_neg hc, if_neg hc]
      cases hs : rest.splitOn '.' with
      | nil => exact absurd hs (List.splitOn_ne_nil _ _)
      | cons piece more => rfl

theorem pieces_injective {cs ds : List Char} (h : pieces cs = pieces ds) : cs = ds := by
  rw [pieces_eq_splitOn, pieces_eq_splitOn] at h
  calc cs = ['.'].intercalate (cs.splitOn '.') := (List.intercalate_splitOn '.').symm
    _ = ['.'].intercalate (ds.splitOn '.') := by rw [h]
    _ = ds := List.intercalate_splitOn '.'

theorem dot_not_mem_piece {cs piece : List Char} (h : piece ∈ pieces cs) : '.' ∉ piece := by
  induction cs generalizing piece with
  | nil =>
    have hp : piece = [] := by simpa [pieces] using h
    subst hp; simp
  | cons c rest ih =>
    rw [pieces] at h
    by_cases hc : (c == '.') = true
    · rw [if_pos hc, List.mem_cons] at h
      rcases h with h | h
      · subst h; simp
      · exact ih h
    · rw [if_neg hc] at h
      have hne : '.' ≠ c := by simpa using fun e : '.' = c => hc (by simp [← e])
      cases hs : pieces rest with
      | nil => exact absurd hs (pieces_ne_nil rest)
      | cons first more =>
        rw [hs, List.mem_cons] at h
        rcases h with h | h
        · subst h
          have hfirst : '.' ∉ first := ih (by rw [hs]; exact List.mem_cons_self)
          simp [hne, hfirst]
        · exact ih (by rw [hs]; exact List.mem_cons_of_mem _ h)

theorem intercalate_append {front : List (List Char)} (h : front ≠ []) (next : List Char)
    (rest : List (List Char)) :
    ['.'].intercalate (front ++ next :: rest)
      = ['.'].intercalate front ++ '.' :: ['.'].intercalate (next :: rest) := by
  induction front with
  | nil => exact absurd rfl h
  | cons piece front ih =>
    cases front with
    | nil => simp
    | cons piece' front =>
      have htail := ih (by simp)
      rw [List.cons_append, List.cons_append, List.intercalate_cons_cons,
        List.intercalate_cons_cons, ← List.cons_append, htail]
      simp

/-- The pieces of one text begin with all those of another one exactly if the text goes on with a dot
    after it, or is the same. -/
theorem pieces_prefix_iff {cs ds : List Char} :
    pieces cs <+: pieces ds ↔ cs = ds ∨ (cs ++ ['.']) <+: ds := by
  constructor
  · rintro ⟨more, hmore⟩
    cases more with
    | nil => exact Or.inl (pieces_injective (by simpa using hmore))
    | cons next rest =>
      right
      refine ⟨['.'].intercalate (next :: rest), ?_⟩
      have hsplit : ds = ['.'].intercalate (cs.splitOn '.' ++ next :: rest) := by
        rw [← pieces_eq_splitOn, hmore, pieces_eq_splitOn, List.intercalate_splitOn]
      rw [hsplit, intercalate_append (List.splitOn_ne_nil _ _), List.intercalate_splitOn]
      simp
  · rintro (h | ⟨rest, h⟩)
    · exact ⟨[], by rw [h, List.append_nil]⟩
    · refine ⟨pieces rest, ?_⟩
      rw [← h, List.append_assoc]
      exact (pieces_append_dot cs rest).symm

/-! ## Whole paths -/

/-- Every piece between the dots of a path names something. -/
def IsWhole (path : String) : Prop :=
  ∀ piece ∈ pieces path.toList, piece ≠ []

instance (path : String) : Decidable (IsWhole path) :=
  inferInstanceAs (Decidable (∀ piece ∈ pieces path.toList, piece ≠ []))

variable {path first second : String}

theorem IsWhole.ne_empty (h : IsWhole path) : path ≠ "" := by
  rintro rfl
  exact h [] (by simp [pieces]) rfl

theorem IsWhole.isEmpty_eq_false (h : IsWhole path) : path.isEmpty = false := by
  simpa using h.ne_empty

/-- The segments of a whole path are all its pieces. -/
theorem segments_of_isWhole (h : IsWhole path) :
    segments path = (pieces path.toList).map String.ofList := by
  have hall : (pieces path.toList).filter (!·.isEmpty) = pieces path.toList := by
    rw [List.filter_eq_self]
    intro piece hpiece
    simpa using h piece hpiece
  rw [segments, hall]

theorem segments_ne_nil (h : IsWhole path) : segments path ≠ [] := by
  rw [segments_of_isWhole h]
  simpa using pieces_ne_nil path.toList

theorem dot_not_mem_segment {name : String} (h : name ∈ segments path) : '.' ∉ name.toList := by
  obtain ⟨piece, hpiece, hname⟩ := List.mem_map.mp h
  rw [← hname, String.toList_ofList]
  exact dot_not_mem_piece (List.mem_filter.mp hpiece).1

theorem segments_inj (hf : IsWhole first) (hs : IsWhole second)
    (h : segments first = segments second) : first = second := by
  rw [segments_of_isWhole hf, segments_of_isWhole hs] at h
  have hpieces := (List.map_inj_right fun _ _ => String.ofList_injective).mp h
  exact String.toList_injective (pieces_injective hpieces)

theorem segments_empty : segments "" = [] := by
  simp [segments, pieces]

/-- The way to a path from the top is the whole path. -/
theorem segments_from_top (path : String) : segments path = segments "" ++ segments path := by
  rw [segments_empty, List.nil_append]

/-- A path without a dot is its only segment. -/
theorem segments_of_no_dot (h : '.' ∉ path.toList) (hne : path ≠ "") : segments path = [path] := by
  have hlist : path.toList ≠ [] := fun e => hne (String.toList_injective (by simpa using e))
  rw [segments, pieces_of_no_dot h]
  simp [hlist, String.ofList_toList]

/-! ## Overlap -/

theorem below_iff (path above : String) :
    below path above = true ↔ (above.toList ++ ['.']) <+: path.toList := by
  rw [below, List.isPrefixOf_iff_prefix]

/-- One whole path lies at or below another exactly if it begins with the other's segments. -/
theorem segments_prefix_iff (hf : IsWhole first) (hs : IsWhole second) :
    segments first <+: segments second ↔ first = second ∨ below second first = true := by
  rw [segments_of_isWhole hf, segments_of_isWhole hs,
    List.prefix_map_iff_of_injective fun _ _ => String.ofList_injective, pieces_prefix_iff,
    below_iff]
  constructor
  · rintro (h | h)
    · exact Or.inl (String.toList_injective h)
    · exact Or.inr h
  · rintro (h | h)
    · exact Or.inl (h ▸ rfl)
    · exact Or.inr h

/-- **Whole paths overlap exactly if the segments of one begin those of the other.** -/
theorem overlaps_iff (hf : IsWhole first) (hs : IsWhole second) :
    overlaps first second = true ↔
      segments first <+: segments second ∨ segments second <+: segments first := by
  rw [segments_prefix_iff hf hs, segments_prefix_iff hs hf]
  simp only [overlaps, Bool.or_eq_true, beq_iff_eq]
  constructor
  · rintro ((h | h) | h)
    · exact Or.inl (Or.inl h)
    · exact Or.inr (Or.inr h)
    · exact Or.inl (Or.inr h)
  · rintro ((h | h) | (h | h))
    · exact Or.inl (Or.inl h)
    · exact Or.inr h
    · exact Or.inl (Or.inl h.symm)
    · exact Or.inl (Or.inr h)

/-! ## Names inside a place -/

/-- A text that can stand between two dots. -/
def IsName (name : String) : Prop :=
  name ≠ "" ∧ '.' ∉ name.toList

instance (name : String) : Decidable (IsName name) :=
  inferInstanceAs (Decidable (name ≠ "" ∧ '.' ∉ name.toList))

variable {parent name : String}

theorem IsName.toList_ne_nil (h : IsName name) : name.toList ≠ [] :=
  fun e => h.1 (String.toList_injective (by simpa using e))

/-- The pieces of a path inside another one. -/
theorem pieces_join_path (hparent : parent ≠ "") (path : String) :
    pieces (join parent path).toList = pieces parent.toList ++ pieces path.toList := by
  have hjoin : (join parent path).toList = parent.toList ++ '.' :: path.toList := by
    simp [join, hparent, String.toList_append]
  rw [hjoin, pieces_append_dot]

/-- The pieces of a name inside a path. -/
theorem pieces_join (hparent : parent ≠ "") (hname : IsName name) :
    pieces (join parent name).toList = pieces parent.toList ++ [name.toList] := by
  rw [pieces_join_path hparent, pieces_of_no_dot hname.2]

/-- A whole path inside a whole path is whole, and its segments are those of both. -/
theorem isWhole_join_path (hparent : IsWhole parent) (hpath : IsWhole path) :
    IsWhole (join parent path) := by
  intro piece hpiece
  rw [pieces_join_path hparent.ne_empty, List.mem_append] at hpiece
  exact hpiece.elim (hparent piece) (hpath piece)

theorem segments_join_path (hparent : IsWhole parent) (hpath : IsWhole path) :
    segments (join parent path) = segments parent ++ segments path := by
  rw [segments_of_isWhole (isWhole_join_path hparent hpath), segments_of_isWhole hparent,
    segments_of_isWhole hpath, pieces_join_path hparent.ne_empty, List.map_append]

theorem isWhole_name (hname : IsName name) : IsWhole name := by
  intro piece hpiece
  rw [pieces_of_no_dot hname.2, List.mem_singleton] at hpiece
  exact hpiece ▸ hname.toList_ne_nil

theorem isWhole_join (hparent : parent = "" ∨ IsWhole parent) (hname : IsName name) :
    IsWhole (join parent name) := by
  rcases hparent with rfl | hparent
  · rw [join_empty]; exact isWhole_name hname
  · intro piece hpiece
    rw [pieces_join hparent.ne_empty hname, List.mem_append, List.mem_singleton] at hpiece
    rcases hpiece with hpiece | hpiece
    · exact hparent piece hpiece
    · exact hpiece ▸ hname.toList_ne_nil

/-- A name inside a place adds one segment. -/
theorem segments_join (hparent : parent = "" ∨ IsWhole parent) (hname : IsName name) :
    segments (join parent name) = segments parent ++ [name] := by
  rcases hparent with rfl | hparent
  · rw [join_empty, segments_of_no_dot hname.2 hname.1, segments_empty, List.nil_append]
  · rw [segments_of_isWhole (isWhole_join (Or.inr hparent) hname), segments_of_isWhole hparent,
      pieces_join hparent.ne_empty hname]
    simp [String.ofList_toList]

/-- The place that a name stands in is found again before its last dot. -/
theorem parent_join (parent : String) (hname : '.' ∉ name.toList) : Path.parent (join parent name) = parent := by
  have hrest : ∀ c ∈ name.toList.reverse, (c != '.') = true := by
    intro c hc
    simpa using fun e : c = '.' => hname (e ▸ List.mem_reverse.mp hc)
  by_cases hparent : parent = ""
  · rw [hparent, join_empty, Path.parent, ← List.append_nil name.toList.reverse,
      List.dropWhile_append_of_pos hrest]
    rfl
  · have hjoin : (join parent name).toList.reverse
        = name.toList.reverse ++ '.' :: parent.toList.reverse := by
      simp [join, hparent, String.toList_append]
    rw [Path.parent, hjoin, List.dropWhile_append_of_pos hrest]
    simp [String.ofList_toList]

end Path
end DynamicForms
