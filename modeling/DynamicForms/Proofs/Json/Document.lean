import DynamicForms.Proofs.Json.Numbers
import DynamicForms.Proofs.Value.Document

/-!
# `DynamicForms.Proofs.Json.Document` — what the reader reads

The reader makes values out of few things: texts, words, whole numbers of limited length, doubles rounded
from decimal numbers, lists, and objects that keep one of two entries with one name. A property that all
of these pass on is one of everything that is read.

So whatever the reader makes of a text is a value that a document expresses.

## Contents
- `Reads`: what a reader of parts finds; `Built`: properties that the reader passes on.
- `Built.of_read`: they hold of what is read; `isDocument_of_read`.
-/

namespace DynamicForms.Json

/-- Whatever a reader of parts finds has a property. -/
def Reads {α : Type} (P : α → Prop) (found : Reading (α × List Char)) : Prop :=
  ∀ a left, found = .ok (a, left) → P a

section

variable {α β : Type} {P : α → Prop} {Q : β → Prop}

theorem reads_error (e : Stop) : Reads P (.error e : Reading (α × List Char)) :=
  nofun

theorem reads_ok {a : α} {left : List Char} (h : P a) :
    Reads P (.ok (a, left) : Reading (α × List Char)) := by
  rintro _ _ ⟨⟩
  exact h

/-- What is found next may build on what was found. -/
theorem reads_bind {found : Reading (α × List Char)} {next : α × List Char → Reading (β × List Char)}
    (h : Reads P found) (hnext : ∀ a left, P a → Reads Q (next (a, left))) :
    Reads Q (found >>= next) := by
  cases found with
  | error e => exact reads_error e
  | ok part => exact hnext part.1 part.2 (h _ _ rfl)

theorem reads_of_true (found : Reading (α × List Char)) : Reads (fun _ => True) found :=
  fun _ _ _ => trivial

end

/-- A property that the simple values of the reader have, and that lists and objects have if their parts
    do. -/
structure Built (P : Value → Prop) : Prop where
  /-- Texts. -/
  text : ∀ s, P (.text s)
  /-- Values that are words. -/
  word : ∀ entry ∈ words, P entry.2
  /-- Whole numbers of limited length. -/
  int : ∀ n : ℤ, n.natAbs < 10 ^ maxDigits → P (.int n)
  /-- Doubles. -/
  double : ∀ negative digits exponent, P (.double (Double.ofDecimal negative digits exponent))
  /-- Lists. -/
  list : ∀ items : List Value, (∀ v ∈ items, P v) → P (.list items)
  /-- Objects, the last value of each name. -/
  object : ∀ fields : List (String × Value), (∀ entry ∈ fields, P entry.2) →
    P (.object (Entries.ofPairs fields))

namespace Built

variable {P : Value → Prop}

theorem of_word? (h : Built P) {cs left : List Char} {v : Value} (hword : word? cs = some (v, left)) :
    P v := by
  obtain ⟨entry, hentry, hfound⟩ := List.exists_of_findSome?_eq_some hword
  obtain ⟨_, -, heq⟩ := Option.map_eq_some_iff.mp hfound
  cases heq
  exact h.word entry hentry

theorem reads_number? (h : Built P) {negative : Bool} {cs : List Char}
    {found : Reading (Value × List Char)} (hnumber : number? negative cs = some found) :
    Reads P found := by
  have hdigits : AllDigits (wholePart cs).1 := allDigits_wholePart cs
  simp only [number?] at hnumber
  split at hnumber
  · cases hnumber
  · split at hnumber
    · split at hnumber
      · cases hnumber
        exact reads_error _
      · next hlength =>
        cases hnumber
        refine reads_ok (h.int _ ?_)
        have hlt : digitsValue (wholePart cs).1 < 10 ^ maxDigits :=
          (digitsValue_lt hdigits).trans_le (Nat.pow_le_pow_right (by decide) (by omega))
        split
        · simpa using hlt
        · simpa using hlt
    · cases hnumber
      exact reads_ok (h.double _ _ _)

theorem reads_simple (h : Built P) (cs : List Char) : Reads P (simple cs) := by
  have hnumber : ∀ found : Option (Reading (Value × List Char)),
      (∀ reading, found = some reading → Reads P reading) →
      Reads P (found.getD (.error (.flawed .noValue cs.length))) := by
    intro found hfound
    cases found with
    | none => exact reads_error _
    | some reading => exact hfound reading rfl
  unfold simple
  split
  · next found hword => exact reads_ok (h.of_word? hword)
  · refine hnumber _ fun reading hreading => ?_
    split at hreading
    · exact h.reads_number? hreading
    · exact h.reads_number? hreading

end Built

/-- The readers of values, elements and entries read what has a property. -/
structure ReadsAll (P : Value → Prop) (fuel : Nat) : Prop where
  /-- A value. -/
  value : ∀ cs, Reads P (Json.value fuel cs)
  /-- Elements. -/
  items : ∀ cs, Reads (fun vs => ∀ v ∈ vs, P v) (Json.items fuel cs)
  /-- Entries. -/
  fields : ∀ cs, Reads (fun es => ∀ entry ∈ es, P entry.2) (Json.fields fuel cs)

theorem Built.readsAll {P : Value → Prop} (h : Built P) (fuel : Nat) : ReadsAll P fuel := by
  induction fuel with
  | zero => exact ⟨fun _ => reads_error _, fun _ => reads_error _, fun _ => reads_error _⟩
  | succ fuel ih =>
    refine ⟨fun cs => ?_, fun cs => ?_, fun cs => ?_⟩
    · unfold Json.value
      split
      · exact reads_error _
      · -- a string
        exact reads_bind (reads_of_true _) fun s left _ => reads_ok (h.text s)
      · -- a list
        next inner rest heq =>
        obtain rfl := Nat.succ.inj heq
        split
        · exact reads_ok (h.list [] (List.forall_mem_nil _))
        · exact reads_bind (ih.items _) fun vs left hvs => reads_ok (h.list vs hvs)
      · -- an object
        next inner rest heq =>
        obtain rfl := Nat.succ.inj heq
        split
        · exact reads_ok (h.object [] (List.forall_mem_nil _))
        · exact reads_bind (ih.fields _) fun es left hes => reads_ok (h.object es hes)
      · exact h.reads_simple _
    · unfold Json.items
      refine reads_bind (ih.value cs) fun v left hv => ?_
      dsimp only
      split
      · exact reads_ok (List.forall_mem_singleton.mpr hv)
      · refine reads_bind (ih.items _) fun vs left hvs => ?_
        exact reads_ok (List.forall_mem_cons.mpr ⟨hv, hvs⟩)
      · exact reads_error _
    · unfold Json.fields
      split
      · exact reads_error _
      · next inner rest heq =>
        obtain rfl := Nat.succ.inj heq
        refine reads_bind (reads_of_true _) fun name left _ => ?_
        dsimp only
        split
        · refine reads_bind (ih.value _) fun v left hv => ?_
          dsimp only
          split
          · exact reads_ok (List.forall_mem_singleton.mpr hv)
          · refine reads_bind (ih.fields _) fun es left hes => ?_
            exact reads_ok (List.forall_mem_cons.mpr ⟨hv, hes⟩)
          · exact reads_error _
        · exact reads_error _
      · exact reads_error _

theorem Built.of_document {P : Value → Prop} (h : Built P) {cs : List Char} {v : Value}
    (hdocument : document cs = .ok v) : P v := by
  unfold document at hdocument
  split at hdocument
  · cases hdocument
  · cases hvalue : value (2 * cs.length + 1) (skipSpace cs) with
    | error e =>
      rw [hvalue] at hdocument
      cases hdocument
    | ok found =>
      have hfound : P found.1 := (h.readsAll _).value _ _ _ hvalue
      rw [hvalue] at hdocument
      simp only [bind, Except.bind] at hdocument
      split at hdocument
      · cases hdocument
        exact hfound
      · cases hdocument

/-- **A property that the reader passes on holds of what is read from a text.** -/
theorem Built.of_read {P : Value → Prop} (h : Built P) {s : String} {v : Value} (hread : read s = .ok v) :
    P v := by
  unfold read at hread
  cases hdocument : document s.toList with
  | error e =>
    rw [hdocument] at hread
    cases hread
  | ok found =>
    rw [hdocument] at hread
    cases hread
    exact h.of_document hdocument

theorem built_isDocument : Built fun v => v.isDocument = true where
  text _ := rfl
  word := by decide
  int _ _ := rfl
  double _ _ _ := rfl
  list items h := (Value.areDocuments_iff items).mpr h
  object fields h := by
    rw [Value.isDocument_object_iff]
    exact ⟨Entries.nodup_keys_ofPairs fields, fun entry hentry => h entry (Entries.mem_ofPairs hentry)⟩

/-- **What is read from a text is what a document expresses.** -/
theorem isDocument_of_read {s : String} {v : Value} (h : read s = .ok v) : v.isDocument = true :=
  built_isDocument.of_read h

end DynamicForms.Json
