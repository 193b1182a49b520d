import DynamicForms.Proofs.Value.Order
import DynamicForms.Value.Equality

/-!
# `DynamicForms.Proofs.Value.Shuffle` — the same entries in another order

Two objects are shuffled into each other if one comes from the other by moving entries past entries with
other names, at the top or in the objects inside. What an object is asked for does not depend on that,
nor do writes and deletions. Some ways through an object may be kept: at and below their ends nothing is
moved, so what lies there is the same in both to the last entry.

Names need not be distinct: entries with the same name stay in order.

## Contents
- `Value.Shuffles`, `Value.Shuffled`; `Shuffles.eq_of_kept`, `Shuffles.mono`.
- **Tables.** `Shuffles.get?`, `Shuffles.put`, `shuffles_put_object`, `shuffles_put_put`,
  `Shuffles.erase`.
- **Change detection.** `Shuffled.sameValue_eq`.
- `Shuffles.reorders`: what is shuffled is the same but for the order of names.
-/

namespace DynamicForms
namespace Value

/-- The ways that are kept inside the object under a name. -/
def keptUnder (kept : List String → Prop) (name : String) : List String → Prop :=
  fun way => kept (name :: way)

/-- Two objects are shuffled into each other, and nothing is moved at or below the ends of the ways that
are kept. -/
inductive Shuffles : (List String → Prop) → Object → Object → Prop
  /-- Nothing is there. -/
  | nil (kept) : Shuffles kept [] []
  /-- The first entry stays where it is. -/
  | cons {kept fields others} (entry : String × Value) (h : Shuffles kept fields others) :
      Shuffles kept (entry :: fields) (entry :: others)
  /-- Inside the first entry something is moved. -/
  | inside {kept name inner inner'} (hopen : ¬ kept []) (h : Shuffles (keptUnder kept name) inner inner')
      (fields : Object) : Shuffles kept ((name, .object inner) :: fields) ((name, .object inner') :: fields)
  /-- The first entry is moved past the second one. -/
  | swap {kept} {first second : String × Value} (hopen : ¬ kept []) (hne : first.1 ≠ second.1)
      (fields : Object) : Shuffles kept (first :: second :: fields) (second :: first :: fields)
  /-- One after the other. -/
  | trans {kept fields others more} (h : Shuffles kept fields others) (h' : Shuffles kept others more) :
      Shuffles kept fields more

/-- Two values are the same, or objects that are shuffled into each other. -/
inductive Shuffled (kept : List String → Prop) : Value → Value → Prop
  /-- They are the same. -/
  | refl (v : Value) : Shuffled kept v v
  /-- They are shuffled into each other. -/
  | object {fields others : Object} (h : Shuffles kept fields others) :
      Shuffled kept (.object fields) (.object others)

variable {kept kept' : List String → Prop} {fields others more inner inner' : Object}
  {v w u : Value} {name other : String}

namespace Shuffles

theorem refl (kept : List String → Prop) (fields : Object) : Shuffles kept fields fields := by
  induction fields with
  | nil => exact .nil kept
  | cons entry rest ih => exact .cons entry ih

theorem symm (h : Shuffles kept fields others) : Shuffles kept others fields := by
  induction h with
  | nil kept => exact .nil kept
  | cons entry _ ih => exact .cons entry ih
  | inside hopen _ fields ih => exact .inside hopen ih fields
  | swap hopen hne fields => exact .swap hopen hne.symm fields
  | trans _ _ ih ih' => exact .trans ih' ih

/-- An object that is kept as a whole is not shuffled. -/
theorem eq_of_kept (h : Shuffles kept fields others) (hkept : kept []) : fields = others := by
  induction h with
  | nil kept => rfl
  | cons entry _ ih => rw [ih hkept]
  | inside hopen _ fields => exact absurd hkept hopen
  | swap hopen _ fields => exact absurd hkept hopen
  | trans _ _ ih ih' => exact (ih hkept).trans (ih' hkept)

/-- Fewer ways may be kept. -/
theorem mono (h : Shuffles kept fields others) (hfewer : ∀ way, kept' way → kept way) :
    Shuffles kept' fields others := by
  induction h generalizing kept' with
  | nil kept => exact .nil kept'
  | cons entry _ ih => exact .cons entry (ih hfewer)
  | inside hopen _ fields ih =>
    exact .inside (fun hkept => hopen (hfewer [] hkept)) (ih fun way hway => hfewer _ hway) fields
  | swap hopen hne fields => exact .swap (fun hkept => hopen (hfewer [] hkept)) hne fields
  | trans _ _ ih ih' => exact .trans (ih hfewer) (ih' hfewer)

end Shuffles

namespace Shuffled

theorem trans (h : Shuffled kept v w) (h' : Shuffled kept w u) : Shuffled kept v u := by
  cases h with
  | refl => exact h'
  | object h =>
    cases h' with
    | refl => exact .object h
    | object h' => exact .object (h.trans h')

theorem eq_of_kept (h : Shuffled kept v w) (hkept : kept []) : v = w := by
  cases h with
  | refl => rfl
  | object h => rw [h.eq_of_kept hkept]

theorem mono (h : Shuffled kept v w) (hfewer : ∀ way, kept' way → kept way) : Shuffled kept' v w := by
  cases h with
  | refl => exact .refl v
  | object h => exact .object (h.mono hfewer)

theorem isAbsent_eq (h : Shuffled kept v w) : v.isAbsent = w.isAbsent := by
  cases h <;> rfl

theorem option_refl (kept : List String → Prop) (found : Option Value) :
    Option.Rel (Shuffled kept) found found := by
  cases found with
  | none => exact .none
  | some v => exact .some (.refl v)

theorem option_trans {found found' found'' : Option Value} (h : Option.Rel (Shuffled kept) found found')
    (h' : Option.Rel (Shuffled kept) found' found'') : Option.Rel (Shuffled kept) found found'' := by
  cases h with
  | none => exact h'
  | some h =>
    cases h' with
    | some h' => exact .some (h.trans h')

end Shuffled

/-! ## Tables -/

namespace Shuffles

/-- Under a name the same is found, but for what is moved inside. -/
theorem get? (h : Shuffles kept fields others) (name : String) :
    Option.Rel (Shuffled (keptUnder kept name)) (Entries.get? fields name)
      (Entries.get? others name) := by
  induction h with
  | nil kept => exact .none
  | cons entry _ ih =>
    obtain ⟨first, v⟩ := entry
    by_cases hname : first = name
    · rw [hname, Entries.get?_cons_self, Entries.get?_cons_self]
      exact .some (.refl v)
    · rw [Entries.get?_cons_of_ne hname, Entries.get?_cons_of_ne hname]
      exact ih
  | @inside _ first inner inner' hopen h fields =>
    by_cases hname : first = name
    · subst hname
      rw [Entries.get?_cons_self, Entries.get?_cons_self]
      exact .some (.object h)
    · rw [Entries.get?_cons_of_ne hname, Entries.get?_cons_of_ne hname]
      exact Shuffled.option_refl _ _
  | @swap _ first second hopen hne fields =>
    obtain ⟨first, v⟩ := first
    obtain ⟨second, w⟩ := second
    by_cases hname : first = name
    · subst hname
      rw [Entries.get?_cons_self, Entries.get?_cons_of_ne (Ne.symm hne), Entries.get?_cons_self]
      exact Shuffled.option_refl _ _
    · rw [Entries.get?_cons_of_ne hname]
      by_cases hname' : second = name
      · subst hname'
        rw [Entries.get?_cons_self, Entries.get?_cons_self]
        exact Shuffled.option_refl _ _
      · rw [Entries.get?_cons_of_ne hname', Entries.get?_cons_of_ne hname',
          Entries.get?_cons_of_ne hname]
        exact Shuffled.option_refl _ _
  | trans _ _ ih ih' => exact Shuffled.option_trans ih ih'

/-- The same is written under a name of both. -/
theorem put (h : Shuffles kept fields others) (name : String) (v : Value) :
    Shuffles kept (Entries.put fields name v) (Entries.put others name v) := by
  induction h with
  | nil kept => exact refl kept _
  | cons entry h ih =>
    rw [Entries.put, Entries.put]
    split
    · exact .cons _ h
    · exact .cons _ ih
  | inside hopen h fields =>
    rw [Entries.put, Entries.put]
    split
    · exact refl _ _
    · exact .inside hopen h _
  | @swap _ first second hopen hne fields =>
    obtain ⟨first, v⟩ := first
    obtain ⟨second, w⟩ := second
    replace hne : first ≠ second := hne
    by_cases hname : first = name
    · have hother : second ≠ name := fun hsecond => hne (hname.trans hsecond.symm)
      simp only [Entries.put, if_pos hname, if_neg hother]
      exact .swap hopen hne fields
    · by_cases hother : second = name
      · simp only [Entries.put, if_neg hname, if_pos hother]
        exact .swap hopen hne fields
      · simp only [Entries.put, if_neg hname, if_neg hother]
        exact .swap hopen hne _
  | trans _ _ ih ih' => exact .trans ih ih'

/-- The same name is erased from both. -/
theorem erase (h : Shuffles kept fields others) (name : String) :
    Shuffles kept (Entries.erase fields name) (Entries.erase others name) := by
  induction h with
  | nil kept => exact refl kept _
  | cons entry h ih =>
    rw [Entries.erase, Entries.erase]
    split
    · exact h
    · exact .cons _ ih
  | inside hopen h fields =>
    rw [Entries.erase, Entries.erase]
    split
    · exact refl _ _
    · exact .inside hopen h _
  | @swap _ first second hopen hne fields =>
    obtain ⟨first, v⟩ := first
    obtain ⟨second, w⟩ := second
    replace hne : first ≠ second := hne
    by_cases hname : first = name
    · have hother : second ≠ name := fun hsecond => hne (hname.trans hsecond.symm)
      simp only [Entries.erase, if_pos hname, if_neg hother]
      exact refl _ _
    · by_cases hother : second = name
      · simp only [Entries.erase, if_neg hname, if_pos hother]
        exact refl _ _
      · simp only [Entries.erase, if_neg hname, if_neg hother]
        exact .swap hopen hne _
  | trans _ _ ih ih' => exact .trans ih ih'

end Shuffles

/-- Objects that are shuffled into each other are written under a name. -/
theorem shuffles_put_object (hopen : ¬ kept []) (h : Shuffles (keptUnder kept name) inner inner')
    (fields : Object) :
    Shuffles kept (Entries.put fields name (.object inner)) (Entries.put fields name (.object inner')) := by
  induction fields with
  | nil => exact .inside hopen h []
  | cons entry rest ih =>
    rw [Entries.put, Entries.put]
    split
    · next hname =>
      rw [hname]
      exact .inside hopen h rest
    · exact .cons _ ih

/-- The second of two writes under a name takes the place of the first one. -/
theorem put_put_self (fields : Object) (name : String) (v w : Value) :
    Entries.put (Entries.put fields name v) name w = Entries.put fields name w := by
  induction fields with
  | nil => simp only [Entries.put, if_true]
  | cons entry rest ih =>
    obtain ⟨first, old⟩ := entry
    by_cases hname : first = name
    · simp only [Entries.put, if_pos hname]
    · simp only [Entries.put, if_neg hname, ih]

/-- The order of two writes under different names does not matter. -/
theorem shuffles_put_put (hopen : ¬ kept []) (hne : name ≠ other) (fields : Object) (v w : Value) :
    Shuffles kept (Entries.put (Entries.put fields name v) other w)
      (Entries.put (Entries.put fields other w) name v) := by
  induction fields with
  | nil =>
    simp only [Entries.put, if_neg hne, if_neg hne.symm]
    exact .swap hopen hne []
  | cons entry rest ih =>
    obtain ⟨first, old⟩ := entry
    by_cases hname : first = name
    · have hother : first ≠ other := fun h => hne (hname.symm.trans h)
      simp only [Entries.put, if_pos hname, if_neg hother]
      exact .refl _ _
    · by_cases hother : first = other
      · simp only [Entries.put, if_neg hname, if_pos hother]
        exact .refl _ _
      · simp only [Entries.put, if_neg hname, if_neg hother]
        exact .cons _ ih

/-! ## Change detection -/

theorem Shuffles.length_eq (h : Shuffles kept fields others) : fields.length = others.length := by
  induction h with
  | nil kept => rfl
  | cons entry _ ih => rw [List.length_cons, List.length_cons, ih]
  | inside _ _ fields => rfl
  | swap _ _ fields => rfl
  | trans _ _ ih ih' => exact ih.trans ih'

/-- Shuffling does not matter for equality by content. -/
theorem Shuffles.alikeFields_eq (h : Shuffles kept fields others) (gs : Object) :
    alikeFields fields gs = alikeFields others gs := by
  induction h generalizing gs with
  | nil kept => rfl
  | cons entry _ ih => rw [alikeFields, alikeFields, ih gs]
  | inside _ h fields ih =>
    -- what is compared with the inner objects is an object, or else like neither
    have hinner : ∀ v, alike (.object _) v = alike (.object _) v := fun v => by
      cases v with
      | object hs => exact congrArg₂ (· && ·) (congrArg (· == hs.length) h.length_eq) (ih hs)
      | _ => rfl
    rw [alikeFields, alikeFields]
    cases Entries.get? gs _ with
    | none => rfl
    | some v => exact congrArg (· && alikeFields fields gs) (hinner v)
  | @swap _ first second _ _ fields =>
    obtain ⟨first, v⟩ := first
    obtain ⟨second, w⟩ := second
    simp only [alikeFields]
    cases Entries.get? gs first <;> cases Entries.get? gs second <;> simp [Bool.and_left_comm]
  | trans _ _ ih ih' => exact (ih gs).trans (ih' gs)

/-- **Shuffling does not matter for change detection.** -/
theorem Shuffled.sameValue_eq (h : Shuffled kept v w) (u : Value) : sameValue v u = sameValue w u := by
  cases h with
  | refl => rfl
  | @object fields others h =>
    have halike : alike (.object fields) u = alike (.object others) u := by
      cases u with
      | object gs =>
        rw [alike, alike, h.length_eq, h.alikeFields_eq gs]
      | _ => rfl
    rw [sameValue, sameValue, equalOperands, equalOperands, halike]
    rfl

end Value

/-! ## The order of names -/

namespace Json

theorem insertByName_comm {first second : String × Value} (hne : first.1 ≠ second.1)
    (fields : List (String × Value)) :
    insertByName first (insertByName second fields) = insertByName second (insertByName first fields) := by
  induction fields with
  | nil =>
    rcases lt_or_gt_of_ne hne with hlt | hgt
    · simp only [insertByName, if_pos hlt, if_neg (not_lt_of_gt hlt)]
    · simp only [insertByName, if_pos hgt, if_neg (not_lt_of_gt hgt)]
  | cons entry rest ih =>
    by_cases hfirst : first.1 < entry.1
    · by_cases hsecond : second.1 < entry.1
      · rcases lt_or_gt_of_ne hne with hlt | hgt
        · simp only [insertByName, if_pos hfirst, if_pos hsecond, if_pos hlt,
            if_neg (not_lt_of_gt hlt)]
        · simp only [insertByName, if_pos hfirst, if_pos hsecond, if_pos hgt,
            if_neg (not_lt_of_gt hgt)]
      · have hlt : ¬ second.1 < first.1 := fun h => hsecond (h.trans hfirst)
        simp only [insertByName, if_pos hfirst, if_neg hsecond, if_neg hlt]
    · by_cases hsecond : second.1 < entry.1
      · have hlt : ¬ first.1 < second.1 := fun h => hfirst (h.trans hsecond)
        simp only [insertByName, if_neg hfirst, if_pos hsecond, if_neg hlt]
      · simp only [insertByName, if_neg hfirst, if_neg hsecond, ih]

end Json

open Json in
/-- What is shuffled is the same once names are sorted. -/
theorem Value.Shuffles.reorders {kept : List String → Prop} {fields others : Value.Object}
    (h : Shuffles kept fields others) : Reorders (.object fields) (.object others) := by
  rw [reorders_object_iff_sorted]
  induction h with
  | nil kept => rfl
  | cons entry _ ih => rw [sortNamesFields, sortNamesFields, ih]
  | inside _ _ fields ih => rw [sortNamesFields, sortNamesFields, sortNames, sortNames, ih]
  | swap _ hne fields =>
    simp only [sortNamesFields]
    refine insertByName_comm ?_ _
    exact hne
  | trans _ _ ih ih' => exact ih.trans ih'

end DynamicForms
