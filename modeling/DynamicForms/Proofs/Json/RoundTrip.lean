import DynamicForms.Proofs.Json.Document
import DynamicForms.Proofs.Json.Strings

/-!
# `DynamicForms.Proofs.Json.RoundTrip` — documents are read back

A value that a document expresses, whose whole numbers are not too long and whose doubles are numbers in
their one way to be written, has a text, and the text is read as that value. The styles may differ in the
blanks after commas and colons.

The reader is given twice as many steps as the text has characters. Each element takes one step and has
at least a character, and with it a comma or a bracket; so the steps last.

## Contents
- `Value.holdsNan`; `Legible`: values with a text that is read back; `Style.Spaced`.
- **Beginnings.** `Opens`: how a text of a value can begin.
- **Values.** `Rereads`, `rereads_of_simple`, `rereads_list`, `rereads_object`, `Legible.rereads`.
- `Legible.exists_text?`: a text is read back; `legible_of_read`: what is read is legible.
-/

namespace DynamicForms

namespace Value

mutual

/-- Whether a NaN stands in the value. -/
def holdsNan : Value → Bool
  | .double (.nan _) => true
  | .list items => anyHoldsNan items
  | .object fields => someHoldsNan fields
  | _ => false

/-- Whether a NaN stands in one of the values of a list. -/
def anyHoldsNan : List Value → Bool
  | [] => false
  | v :: rest => holdsNan v || anyHoldsNan rest

/-- Whether a NaN stands in the value of some entry. -/
def someHoldsNan : List (String × Value) → Bool
  | [] => false
  | (_, v) :: rest => holdsNan v || someHoldsNan rest

end

theorem anyHoldsNan_eq_false_iff (items : List Value) :
    anyHoldsNan items = false ↔ ∀ v ∈ items, v.holdsNan = false := by
  induction items with
  | nil => simp [anyHoldsNan]
  | cons v rest ih => simp [anyHoldsNan, ih]

theorem someHoldsNan_eq_false_iff (fields : List (String × Value)) :
    someHoldsNan fields = false ↔ ∀ entry ∈ fields, entry.2.holdsNan = false := by
  induction fields with
  | nil => simp [someHoldsNan]
  | cons entry rest ih => simp [someHoldsNan, ih]

end Value

namespace Json

open Double (Canonical)

/-- A value whose text is read back. -/
inductive Legible : Value → Prop where
  /-- The null value. -/
  | null : Legible .null
  /-- Booleans. -/
  | bool (b : Bool) : Legible (.bool b)
  /-- Whole numbers of limited length. -/
  | int {n : ℤ} (h : n.natAbs < 10 ^ maxDigits) : Legible (.int n)
  /-- Doubles that are numbers. -/
  | double {d : Double} (hcanonical : Canonical d) (hnan : ∀ mark, d ≠ .nan mark) : Legible (.double d)
  /-- Texts. -/
  | text (s : String) : Legible (.text s)
  /-- Lists of such values. -/
  | list {items : List Value} (h : ∀ v ∈ items, Legible v) : Legible (.list items)
  /-- Objects of such values under distinct names. -/
  | object {fields : List (String × Value)} (hdistinct : (Entries.keys fields).Nodup)
      (h : ∀ entry ∈ fields, Legible entry.2) : Legible (.object fields)

/-- What is read is legible unless a NaN stands in it. -/
theorem built_legible : Built fun v => v.holdsNan = false → Legible v where
  text s _ := .text s
  word := by
    intro entry hentry hnan
    simp only [words, List.mem_cons, List.not_mem_nil, or_false] at hentry
    rcases hentry with rfl | rfl | rfl | rfl | rfl | rfl
    · exact .null
    · exact .bool true
    · exact .bool false
    · cases hnan
    · exact .double trivial fun mark heq => by cases heq
    · exact .double trivial fun mark heq => by cases heq
  int n h _ := .int h
  double negative digits exponent hnan :=
    .double (Double.canonical_ofDecimal digits exponent) fun mark heq => by
      rw [heq] at hnan
      cases hnan
  list items h hnan := .list fun v hv => h v hv ((Value.anyHoldsNan_eq_false_iff items).mp hnan v hv)
  object fields h hnan := .object (Entries.nodup_keys_ofPairs fields) fun entry hentry =>
    h entry (Entries.mem_ofPairs hentry) ((Value.someHoldsNan_eq_false_iff _).mp hnan entry hentry)

theorem legible_of_read {s : String} {v : Value} (h : read s = .ok v) (hnan : v.holdsNan = false) :
    Legible v :=
  built_legible.of_read h hnan

/-- A style that puts only blanks after commas and colons. -/
structure Style.Spaced (style : Style) : Prop where
  /-- A comma and blanks. -/
  comma : ∃ blanks, style.comma = ',' :: blanks ∧ ∀ c ∈ blanks, isSpace c = true
  /-- A colon and blanks. -/
  colon : ∃ blanks, style.colon = ':' :: blanks ∧ ∀ c ∈ blanks, isSpace c = true

theorem Style.spaced_spaced : Style.spaced.Spaced :=
  ⟨⟨[' '], rfl, List.forall_mem_singleton.mpr rfl⟩, ⟨[' '], rfl, List.forall_mem_singleton.mpr rfl⟩⟩

theorem Style.compact_spaced : Style.compact.Spaced :=
  ⟨⟨[], rfl, fun _ h => absurd h List.not_mem_nil⟩, ⟨[], rfl, fun _ h => absurd h List.not_mem_nil⟩⟩

/-! ## Beginnings -/

/-- A text of a value begins with something that is neither blank nor the end of a list nor a byte order
    mark. -/
def Opens (cs : List Char) : Prop :=
  ∃ c rest, cs = c :: rest ∧ isSpace c = false ∧ c ≠ ']' ∧ c ≠ '\uFEFF'

theorem Opens.append {cs : List Char} (h : Opens cs) (more : List Char) : Opens (cs ++ more) := by
  obtain ⟨c, rest, rfl, hc⟩ := h
  exact ⟨c, rest ++ more, rfl, hc⟩

theorem skipSpace_of_head {c : Char} {rest : List Char} (h : isSpace c = false) :
    skipSpace (c :: rest) = c :: rest := by
  rw [skipSpace, List.dropWhile_cons_of_neg (by simp [h])]

theorem skipSpace_blanks {blanks rest : List Char} (h : ∀ c ∈ blanks, isSpace c = true) :
    skipSpace (blanks ++ rest) = skipSpace rest := by
  rw [skipSpace, List.dropWhile_append_of_pos h]
  rfl

theorem Opens.skipSpace {cs : List Char} (h : Opens cs) : skipSpace cs = cs := by
  obtain ⟨c, rest, rfl, hc, -⟩ := h
  exact skipSpace_of_head hc

/-- A number or a word begins with a digit, a minus or a letter. -/
def OpensSimple (cs : List Char) : Prop :=
  ∃ c rest, cs = c :: rest ∧ (c.isDigit = true ∨ c ∈ ['-', 'n', 't', 'f', 'I'])

theorem OpensSimple.opens {cs : List Char} (h : OpensSimple cs) : Opens cs := by
  obtain ⟨c, rest, rfl, hc⟩ := h
  refine ⟨c, rest, rfl, ?_, ?_, ?_⟩
  · by_contra hspace
    simp only [isSpace, Bool.or_eq_false_iff, beq_eq_false_iff_ne, not_and_or, not_not] at hspace
    rcases hspace with ((rfl | rfl) | rfl) | rfl <;> revert hc <;> decide
  · rintro rfl
    revert hc
    decide
  · rintro rfl
    revert hc
    decide

variable {style : Style} {v : Value} {rest left : List Char}

theorem value_of_opensSimple {cs : List Char} (h : OpensSimple cs) (fuel : ℕ) :
    value (fuel + 1) cs = simple cs := by
  obtain ⟨c, more, rfl, hc⟩ := h
  rw [value] <;>
  · rintro _ heq
    cases heq
    revert hc
    decide

theorem endsNumber_cons {c : Char} (hdigit : c.isDigit = false) (hpoint : c ≠ '.') (he : c ≠ 'e')
    (hE : c ≠ 'E') (rest : List Char) : EndsNumber (c :: rest) := fun _ hc => by
  cases hc
  exact ⟨hdigit, hpoint, he, hE⟩

/-! ## Values -/

/-- A value has a text that is read back, where it is clear that a number ends. -/
def Rereads (style : Style) (v : Value) : Prop :=
  ∃ text, write? style v = some text ∧ Opens text ∧
    ∀ rest fuel, EndsNumber rest → 2 * text.length < fuel → value fuel (text ++ rest) = .ok (v, rest)

theorem rereads_of_simple {text : List Char} (hwrite : write? style v = some text)
    (hopens : OpensSimple text)
    (hsimple : ∀ rest, EndsNumber rest → simple (text ++ rest) = .ok (v, rest)) : Rereads style v := by
  refine ⟨text, hwrite, hopens.opens, fun rest fuel hrest hfuel => ?_⟩
  obtain ⟨fuel, rfl⟩ := Nat.exists_eq_succ_of_ne_zero (show fuel ≠ 0 by omega)
  have hall : OpensSimple (text ++ rest) := by
    obtain ⟨c, more, rfl, hc⟩ := hopens
    exact ⟨c, more ++ rest, rfl, hc⟩
  rw [value_of_opensSimple hall, hsimple rest hrest]

theorem rereads_null : Rereads style .null :=
  rereads_of_simple rfl ⟨'n', _, rfl, by decide⟩ fun _ _ => rfl

theorem rereads_bool (b : Bool) : Rereads style (.bool b) := by
  cases b with
  | true => exact rereads_of_simple rfl ⟨'t', _, rfl, by decide⟩ fun _ _ => rfl
  | false => exact rereads_of_simple rfl ⟨'f', _, rfl, by decide⟩ fun _ _ => rfl

theorem rereads_int {n : ℤ} (h : n.natAbs < 10 ^ maxDigits) : Rereads style (.int n) := by
  have hlength : (Nat.toDigits 10 n.natAbs).length ≤ maxDigits :=
    (Nat.length_toDigits_le_iff (by decide) (by decide)).mpr h
  refine rereads_of_simple rfl ?_ fun rest hrest => simple_integer hlength hrest
  obtain ⟨c, more, htext⟩ := List.exists_cons_of_ne_nil (Nat.toDigits_ne_nil (n := n.natAbs) (b := 10))
  have hc : c.isDigit = true := allDigits_toDigits n.natAbs c (by rw [htext]; exact List.mem_cons_self)
  unfold integer
  split
  · exact ⟨'-', _, rfl, Or.inr (by decide)⟩
  · exact ⟨c, more, htext, Or.inl hc⟩

theorem rereads_double {d : Double} (hcanonical : Canonical d) (hnan : ∀ mark, d ≠ .nan mark) :
    Rereads style (.double d) := by
  refine rereads_of_simple rfl ?_ fun rest hrest => simple_double hcanonical hnan hrest
  cases d with
  | finite negative m e =>
    rw [Double.textWith, String.toList_ofList]
    cases negative with
    | true => exact ⟨'-', _, rfl, Or.inr (by decide)⟩
    | false =>
      have hread := number?_unsignedText hcanonical (show EndsNumber [] from fun _ hc => by cases hc)
      obtain ⟨c, more, htext, hc⟩ := isDigit_of_number? hread
      rw [List.append_nil] at htext
      exact ⟨c, more, htext, Or.inl hc⟩
  | infinite negative => cases negative <;> exact ⟨_, _, rfl, by decide⟩
  | nan mark => exact absurd rfl (hnan mark)

theorem rereads_text (s : String) : Rereads style (.text s) := by
  refine ⟨string style s, rfl, ⟨'"', _, rfl, by decide⟩, fun rest fuel _ hfuel => ?_⟩
  obtain ⟨fuel, rfl⟩ := Nat.exists_eq_succ_of_ne_zero (show fuel ≠ 0 by omega)
  obtain ⟨body, hbody, hread⟩ := quoted_string style s rest
  rw [hbody, value, hread]
  rfl

/-- Elements are read back, up to the bracket behind them. -/
theorem items_rereads (hstyle : style.Spaced) {item : Value} {others : List Value}
    (hitem : Rereads style item) (hothers : ∀ v ∈ others, Rereads style v) :
    ∃ first more, write? style item = some first ∧ writeItems? style others = some more ∧ Opens first ∧
      ∀ left fuel, 2 * (first.length + more.length) + 1 < fuel →
        items fuel (first ++ (more ++ ']' :: left)) = .ok (item :: others, left) := by
  induction others generalizing item with
  | nil =>
    obtain ⟨first, hwrite, hopens, hread⟩ := hitem
    refine ⟨first, [], hwrite, rfl, hopens, fun left fuel hfuel => ?_⟩
    obtain ⟨fuel, rfl⟩ := Nat.exists_eq_succ_of_ne_zero (show fuel ≠ 0 by omega)
    have hvalue := hread (']' :: left) fuel
      (endsNumber_cons (by decide) (by decide) (by decide) (by decide) left)
      (by simp at hfuel; omega)
    rw [List.nil_append, items, hvalue]
    simp only [bind, Except.bind]
    rw [skipSpace_of_head (by decide)]
    rfl
  | cons next others ih =>
    obtain ⟨first, hwrite, hopens, hread⟩ := hitem
    obtain ⟨second, more, hsecond, hmore, hopens', hreadMore⟩ :=
      ih (hothers next List.mem_cons_self) fun v hv => hothers v (List.mem_cons_of_mem _ hv)
    obtain ⟨blanks, hcomma, hblanks⟩ := hstyle.comma
    refine ⟨first, style.comma ++ second ++ more, hwrite, ?_, hopens, fun left fuel hfuel => ?_⟩
    · rw [writeItems?, hsecond, hmore]
      rfl
    · obtain ⟨fuel, rfl⟩ := Nat.exists_eq_succ_of_ne_zero (show fuel ≠ 0 by omega)
      rw [hcomma] at hfuel ⊢
      simp only [List.length_append, List.length_cons] at hfuel
      have hvalue := hread (',' :: (blanks ++ (second ++ (more ++ ']' :: left)))) fuel
        (endsNumber_cons (by decide) (by decide) (by decide) (by decide) _) (by omega)
      have hskip : skipSpace (blanks ++ (second ++ (more ++ ']' :: left))) =
          second ++ (more ++ ']' :: left) := by
        rw [skipSpace_blanks hblanks, (hopens'.append _).skipSpace]
      have hitems := hreadMore left fuel (by omega)
      simp only [List.cons_append, List.append_assoc] at hvalue ⊢
      rw [items, hvalue]
      simp only [bind, Except.bind]
      rw [skipSpace_of_head (by decide)]
      simp only [hskip, hitems]
      rfl

theorem rereads_list (hstyle : style.Spaced) {elements : List Value}
    (h : ∀ v ∈ elements, Rereads style v) : Rereads style (.list elements) := by
  cases elements with
  | nil =>
    refine ⟨['[', ']'], rfl, ⟨'[', _, rfl, by decide⟩, fun rest fuel _ hfuel => ?_⟩
    obtain ⟨fuel, rfl⟩ := Nat.exists_eq_succ_of_ne_zero (show fuel ≠ 0 by omega)
    rfl
  | cons item others =>
    obtain ⟨first, more, hfirst, hmore, hopens, hread⟩ := items_rereads hstyle
      (h item List.mem_cons_self) fun v hv => h v (List.mem_cons_of_mem _ hv)
    refine ⟨'[' :: first ++ more ++ [']'], ?_, ⟨'[', _, rfl, by decide⟩, fun rest fuel _ hfuel => ?_⟩
    · rw [write?, hfirst, hmore]
      rfl
    · obtain ⟨fuel, rfl⟩ := Nat.exists_eq_succ_of_ne_zero (show fuel ≠ 0 by omega)
      simp only [List.length_append, List.length_cons, List.length_nil] at hfuel
      have hitems := hread rest fuel (by omega)
      simp only [List.cons_append, List.append_assoc, List.nil_append] at hitems ⊢
      have hall := hopens.append (more ++ ']' :: rest)
      rw [value, hall.skipSpace]
      split
      · next heq =>
        obtain ⟨c, cs, hcs, -, hne, -⟩ := hall
        rw [hcs] at heq
        exact absurd (List.cons.inj heq).1 hne
      · rw [hitems]
        rfl

section

variable {name : String} {first behind more : List Char} {fuel : ℕ} {others : List (String × Value)}

/-- The last entry of an object. -/
theorem fields_last (hstyle : style.Spaced) (hopens : Opens first)
    (hvalue : value fuel (first ++ '\x7d' :: left) = .ok (v, '\x7d' :: left)) :
    fields (fuel + 1) (string style name ++ (style.colon ++ (first ++ '\x7d' :: left))) =
      .ok ([(name, v)], left) := by
  obtain ⟨blanks, hcolon, hblanks⟩ := hstyle.colon
  obtain ⟨body, hbody, hquoted⟩ := quoted_string style name (style.colon ++ (first ++ '\x7d' :: left))
  have hskip : skipSpace (blanks ++ (first ++ '\x7d' :: left)) = first ++ '\x7d' :: left := by
    rw [skipSpace_blanks hblanks, (hopens.append _).skipSpace]
  rw [hbody, fields, hquoted, hcolon]
  simp only [bind, Except.bind, List.cons_append]
  rw [skipSpace_of_head (by decide)]
  simp only [hskip, hvalue]
  rw [skipSpace_of_head (by decide)]
  rfl

/-- An entry with others behind it. -/
theorem fields_more (hstyle : style.Spaced) (hopens : Opens first)
    (hvalue : value fuel (first ++ ',' :: behind) = .ok (v, ',' :: behind))
    (hbehind : fields fuel (skipSpace behind) = .ok (others, left)) :
    fields (fuel + 1) (string style name ++ (style.colon ++ (first ++ ',' :: behind))) =
      .ok ((name, v) :: others, left) := by
  obtain ⟨blanks, hcolon, hblanks⟩ := hstyle.colon
  obtain ⟨body, hbody, hquoted⟩ := quoted_string style name (style.colon ++ (first ++ ',' :: behind))
  have hskip : skipSpace (blanks ++ (first ++ ',' :: behind)) = first ++ ',' :: behind := by
    rw [skipSpace_blanks hblanks, (hopens.append _).skipSpace]
  rw [hbody, fields, hquoted, hcolon]
  simp only [bind, Except.bind, List.cons_append]
  rw [skipSpace_of_head (by decide)]
  simp only [hskip, hvalue]
  rw [skipSpace_of_head (by decide)]
  simp only [hbehind]
  rfl

end

/-- Entries are read back, up to the brace behind them. -/
theorem fields_rereads (hstyle : style.Spaced) {name : String} {others : List (String × Value)}
    (hv : Rereads style v) (hothers : ∀ entry ∈ others, Rereads style entry.2) :
    ∃ first more, write? style v = some first ∧ writeFields? style others = some more ∧
      ∀ left fuel, 2 * (first.length + more.length) + 1 < fuel →
        fields fuel (string style name ++ (style.colon ++ (first ++ (more ++ '\x7d' :: left)))) =
          .ok ((name, v) :: others, left) := by
  induction others generalizing name v with
  | nil =>
    obtain ⟨first, hwrite, hopens, hread⟩ := hv
    refine ⟨first, [], hwrite, rfl, fun left fuel hfuel => ?_⟩
    obtain ⟨fuel, rfl⟩ := Nat.exists_eq_succ_of_ne_zero (show fuel ≠ 0 by omega)
    refine fields_last hstyle hopens (hread _ fuel ?_ (by simp at hfuel; omega))
    exact endsNumber_cons (by decide) (by decide) (by decide) (by decide) left
  | cons next others ih =>
    obtain ⟨first, hwrite, hopens, hread⟩ := hv
    obtain ⟨next, w⟩ := next
    obtain ⟨second, more, hsecond, hmore, hreadMore⟩ :=
      ih (hothers _ List.mem_cons_self) fun entry hentry => hothers entry (List.mem_cons_of_mem _ hentry)
    obtain ⟨blanks, hcomma, hblanks⟩ := hstyle.comma
    refine ⟨first, style.comma ++ string style next ++ style.colon ++ second ++ more, hwrite, ?_,
      fun left fuel hfuel => ?_⟩
    · rw [writeFields?, hsecond, hmore]
      rfl
    · obtain ⟨fuel, rfl⟩ := Nat.exists_eq_succ_of_ne_zero (show fuel ≠ 0 by omega)
      rw [hcomma] at hfuel ⊢
      simp only [List.length_append, List.length_cons] at hfuel
      have hskip : skipSpace (blanks ++ (string style next ++
          (style.colon ++ (second ++ (more ++ '\x7d' :: left))))) =
          string style next ++ (style.colon ++ (second ++ (more ++ '\x7d' :: left))) := by
        rw [skipSpace_blanks hblanks, string, List.cons_append, List.cons_append,
          skipSpace_of_head (by decide)]
      simp only [List.cons_append, List.append_assoc]
      refine fields_more hstyle hopens (hread _ fuel ?_ (by omega)) ?_
      · exact endsNumber_cons (by decide) (by decide) (by decide) (by decide) _
      · rw [hskip]
        exact hreadMore left fuel (by omega)

theorem rereads_object (hstyle : style.Spaced) {entries : List (String × Value)}
    (hdistinct : (Entries.keys entries).Nodup) (h : ∀ entry ∈ entries, Rereads style entry.2) :
    Rereads style (.object entries) := by
  cases entries with
  | nil =>
    refine ⟨['\x7b', '\x7d'], rfl, ⟨'\x7b', _, rfl, by decide⟩, fun rest fuel _ hfuel => ?_⟩
    obtain ⟨fuel, rfl⟩ := Nat.exists_eq_succ_of_ne_zero (show fuel ≠ 0 by omega)
    rfl
  | cons entry others =>
    obtain ⟨name, w⟩ := entry
    obtain ⟨first, more, hfirst, hmore, hread⟩ := fields_rereads hstyle (h _ List.mem_cons_self)
      fun entry hentry => h entry (List.mem_cons_of_mem _ hentry)
    refine ⟨'\x7b' :: string style name ++ style.colon ++ first ++ more ++ ['\x7d'], ?_,
      ⟨'\x7b', _, rfl, by decide⟩, fun rest fuel _ hfuel => ?_⟩
    · rw [write?, hfirst, hmore]
      rfl
    · obtain ⟨fuel, rfl⟩ := Nat.exists_eq_succ_of_ne_zero (show fuel ≠ 0 by omega)
      simp only [List.length_append, List.length_cons, List.length_nil] at hfuel
      have hfields := hread rest fuel (by omega)
      obtain ⟨body, hbody, -⟩ := quoted_string style name
        (style.colon ++ (first ++ (more ++ '\x7d' :: rest)))
      simp only [List.cons_append, List.append_assoc, List.nil_append]
      rw [hbody] at hfields ⊢
      rw [value, skipSpace_of_head (by decide)]
      split
      · next heq => exact absurd (List.cons.inj heq).1 (by decide)
      · rw [hfields]
        exact congrArg (fun fields => Except.ok (Value.object fields, rest))
          (Entries.ofPairs_of_nodup hdistinct)

/-- **A legible value has a text that is read back.** -/
theorem Legible.rereads (hstyle : style.Spaced) (h : Legible v) : Rereads style v := by
  induction h with
  | null => exact rereads_null
  | bool b => exact rereads_bool b
  | int h => exact rereads_int h
  | double hcanonical hnan => exact rereads_double hcanonical hnan
  | text s => exact rereads_text s
  | list _ ih => exact rereads_list hstyle ih
  | object hdistinct _ ih => exact rereads_object hstyle hdistinct ih

theorem Rereads.exists_text? (h : Rereads style v) : ∃ s, text? style v = some s ∧ read s = .ok v := by
  obtain ⟨text, hwrite, hopens, hread⟩ := h
  refine ⟨String.ofList text, by rw [text?, hwrite]; rfl, ?_⟩
  have hvalue := hread [] (2 * text.length + 1) (fun _ hc => by cases hc) (by omega)
  rw [List.append_nil] at hvalue
  have hskip := hopens.skipSpace
  obtain ⟨c, rest, rfl, -, -, hmark⟩ := hopens
  rw [read, String.toList_ofList, document]
  · rw [hskip, hvalue]
    rfl
  · rintro _ heq
    exact hmark (List.cons.inj heq).1

/-- **The text of a legible value is read as that value.** -/
theorem Legible.exists_text? (hstyle : style.Spaced) (h : Legible v) :
    ∃ s, text? style v = some s ∧ read s = .ok v :=
  (h.rereads hstyle).exists_text?

end Json
end DynamicForms
