import DynamicForms.Proofs.Store.Write
import DynamicForms.Visibility.Tracker

/-!
# `DynamicForms.Proofs.Visibility.Sweep` — what sweeping and filling make of the data

A pass of a tracker deletes the values of items that went and gives initial values to fields that
have none. Here both are functions on the data. Sweeping brings nothing back and leaves nothing at the
swept paths; filling leaves a value at every field. Neither touches what lies apart from all its
paths.

## Contents
- `Field.Retains`.
- `Tracker.sweep`, `Tracker.fill`, `Tracker.passed`, `Tracker.AtRest`.
- **Sweeping.** `sweep_keeps`, `sweep_reaches`, `isAbsent_sweep`, `isAbsent_sweep_of_mem`, `read_sweep_of_apart`, `sweep_eq_self`.
- **Filling.** `fill_keeps`, `isAbsent_fill`, `isAbsent_fill_of_mem`, `read_fill_of_settled`.
- **Retaining.** `retains_fill`.
-/

namespace DynamicForms

open Value (Object)
open Path (Sound Clear IsWhole Apart)

theorem Field.hasDistinctNames_initialValue (f : Field) :
    f.initialValue.hasDistinctNames = true := by
  unfold Field.initialValue
  cases f.default with
  | some d => cases d <;> rfl
  | none => cases f.kind <;> rfl

/-- An initial value is a value. -/
theorem Field.isAbsent_initialValue (f : Field) : f.initialValue.isAbsent = false := by
  unfold Field.initialValue
  cases f.default with
  | some d => cases d <;> rfl
  | none => cases f.kind <;> rfl

/-- What is found at a field is retained: it is the same, or there was nothing and it is the initial
    value. -/
def Field.Retains (f : Field) (before after : Value) : Prop :=
  after = before ∨ (before.isAbsent = true ∧ after = f.initialValue)

theorem Field.Retains.refl (f : Field) (v : Value) : f.Retains v v := Or.inl rfl

theorem Field.Retains.trans {f : Field} {v v' v'' : Value} (h : f.Retains v v')
    (h' : f.Retains v' v'') : f.Retains v v'' := by
  rcases h with rfl | ⟨habsent, rfl⟩
  · exact h'
  · -- an initial value is one that stays
    rcases h' with rfl | ⟨hinitial, -⟩
    · exact Or.inr ⟨habsent, rfl⟩
    · rw [f.isAbsent_initialValue] at hinitial
      cases hinitial

namespace Tracker

/-- The data after the values at some paths have been deleted. -/
def sweep (paths : List String) (data : Object) : Object :=
  paths.foldl (fun data path => (Write.unregister path).after data) data

/-- The data after a visible item has been registered. -/
def fillOne (entry : String × Item) (data : Object) : Object :=
  match entry.2 with
  | .field f =>
    if (Path.read (.object data) entry.1).isAbsent then
      (Write.set entry.1 f.initialValue).after data
    else data
  | .group _ _ => data

/-- The data after visible items have been registered. -/
def fill (visible : Entries Item) (data : Object) : Object :=
  visible.foldl (fun data entry => fillOne entry data) data

/-- The data after a pass from one visible part to the next. -/
def passed (registers : Bool) (before visible : Entries Item) (data : Object) : Object :=
  let swept := sweep (moveBetween before visible).removed data
  if registers then fill visible swept else swept

/-- A pass has nothing to write: what goes has no value, and what gets one has one. -/
def AtRest (registers : Bool) (before visible : Entries Item) (data : Object) : Prop :=
  (∀ path ∈ (moveBetween before visible).removed, (Path.read (.object data) path).isAbsent = true) ∧
    (registers = true → ∀ path f, (path, Item.field f) ∈ visible →
      (Path.read (.object data) path).isAbsent = false)

variable {paths : List String} {data : Object} {path other : String} {visible : Entries Item}

/-! ## Sweeping -/

/-- A sweep keeps what every deletion of it keeps. -/
theorem sweep_keeps {P : Object → Prop}
    (hkeeps : ∀ path ∈ paths, ∀ data, P data → P ((Write.unregister path).after data))
    (h : P data) : P (sweep paths data) := by
  induction paths generalizing data with
  | nil => exact h
  | cons path rest ih =>
    exact ih (fun p hp => hkeeps p (List.mem_cons_of_mem _ hp))
      (hkeeps path List.mem_cons_self data h)

/-- A sweep brings about what one deletion of it brings about and all of them keep. -/
theorem sweep_reaches {P Q : Object → Prop}
    (hkeeps : ∀ path ∈ paths, ∀ data, P data → P ((Write.unregister path).after data))
    (hstays : ∀ path ∈ paths, ∀ data, P data → Q data → Q ((Write.unregister path).after data))
    (hmem : path ∈ paths) (hself : ∀ data, P data → Q ((Write.unregister path).after data))
    (h : P data) : Q (sweep paths data) := by
  induction paths generalizing data with
  | nil => cases hmem
  | cons first rest ih =>
    have hfirst := hkeeps first List.mem_cons_self data h
    have hkeepsRest : ∀ p ∈ rest, ∀ data, P data → P ((Write.unregister p).after data) :=
      fun p hp => hkeeps p (List.mem_cons_of_mem _ hp)
    have hstaysRest : ∀ p ∈ rest, ∀ data, P data → Q data → Q ((Write.unregister p).after data) :=
      fun p hp => hstays p (List.mem_cons_of_mem _ hp)
    rcases List.mem_cons.mp hmem with rfl | hmem
    · -- brought about by the first deletion, it is kept by the others
      have hboth : P (sweep rest _) ∧ Q (sweep rest _) :=
        sweep_keeps (P := fun data => P data ∧ Q data)
          (fun p hp data hpq => ⟨hkeepsRest p hp data hpq.1, hstaysRest p hp data hpq.1 hpq.2⟩)
          ⟨hfirst, hself data h⟩
      exact hboth.2
    · exact ih hkeepsRest hstaysRest hmem hfirst

theorem clear_sweep (hdata : Clear data) : Clear (sweep paths data) := by
  refine sweep_keeps (fun path _ data hclear => ?_) hdata
  rw [Write.after_unregister]
  split
  · exact hclear
  · exact hclear.delete path

theorem sound_sweep (hdata : Sound data) (hpaths : ∀ path ∈ paths, IsWhole path) :
    Sound (sweep paths data) := by
  refine sweep_keeps (fun path hpath data hsound => ?_) hdata
  have hplain : (Write.unregister path).IsPlain := hpaths path hpath
  exact Write.sound_after hplain hsound

/-- Sweeping brings nothing back. -/
theorem isAbsent_sweep (hdata : Sound data) (hpaths : ∀ path ∈ paths, IsWhole path)
    (ho : IsWhole other) (habsent : (Path.read (.object data) other).isAbsent = true) :
    (Path.read (.object (sweep paths data)) other).isAbsent = true := by
  refine (sweep_keeps (P := fun data =>
    Sound data ∧ (Path.read (.object data) other).isAbsent = true) ?_ ⟨hdata, habsent⟩).2
  rintro path hpath data ⟨hsound, hnone⟩
  have hplain : (Write.unregister path).IsPlain := hpaths path hpath
  exact ⟨Write.sound_after hplain hsound, Write.isAbsent_after_unregister hsound ho path hnone⟩

/-- Nothing is left at a swept path. -/
theorem isAbsent_sweep_of_mem (hdata : Sound data) (hpaths : ∀ path ∈ paths, IsWhole path)
    (hmem : path ∈ paths) : (Path.read (.object (sweep paths data)) path).isAbsent = true := by
  have hkeeps : ∀ p ∈ paths, ∀ data, Sound data → Sound ((Write.unregister p).after data) := by
    intro p hp data hsound
    have hplain : (Write.unregister p).IsPlain := hpaths p hp
    exact Write.sound_after hplain hsound
  exact sweep_reaches (Q := fun data => (Path.read (.object data) path).isAbsent = true) hkeeps
    (fun p _ _ hsound hnone => Write.isAbsent_after_unregister hsound (hpaths path hmem) p hnone)
    hmem (fun _ hsound => Write.isAbsent_after_unregister_self hsound (hpaths path hmem)) hdata

theorem read_sweep_of_apart (ho : IsWhole other)
    (hapart : ∀ path ∈ paths, Apart (Path.segments path) (Path.segments other)) (data : Object) :
    Path.read (.object (sweep paths data)) other = Path.read (.object data) other := by
  induction paths generalizing data with
  | nil => rfl
  | cons path rest ih =>
    have hfirst : Path.read (.object ((Write.unregister path).after data)) other
        = Path.read (.object data) other :=
      Write.read_after_of_apart rfl ho (hapart path List.mem_cons_self) data
    exact (ih (fun p hp => hapart p (List.mem_cons_of_mem _ hp)) _).trans hfirst

/-- Sweeping where nothing is does nothing. -/
theorem sweep_eq_self (h : ∀ path ∈ paths, (Path.read (.object data) path).isAbsent = true) :
    sweep paths data = data := by
  induction paths with
  | nil => rfl
  | cons path rest ih =>
    show sweep rest ((Write.unregister path).after data) = data
    rw [Write.after_unregister, if_pos (h path List.mem_cons_self)]
    exact ih fun p hp => h p (List.mem_cons_of_mem _ hp)

/-- Sweeping deletes values at some of the paths and does nothing else. -/
theorem exists_sweep_eq_deletes (paths : List String) (data : Object) :
    ∃ deleted : List String, deleted.Sublist paths ∧ sweep paths data = deleted.foldl Path.delete data := by
  induction paths generalizing data with
  | nil => exact ⟨[], List.Sublist.slnil, rfl⟩
  | cons path rest ih =>
    obtain ⟨deleted, hsub, heq⟩ := ih ((Write.unregister path).after data)
    by_cases habsent : (Path.read (.object data) path).isAbsent = true
    · refine ⟨deleted, hsub.cons _, heq.trans ?_⟩
      rw [Write.after_unregister, if_pos habsent]
    · refine ⟨path :: deleted, hsub.cons_cons _, heq.trans ?_⟩
      rw [Write.after_unregister, if_neg habsent]
      rfl

/-! ## Filling -/

/-- No field of a table stands above another one. -/
def Unnested (visible : Entries Item) : Prop :=
  ∀ p f q g, (p, Item.field f) ∈ visible → (q, Item.field g) ∈ visible →
    Path.segments p <+: Path.segments q → p = q

theorem fillOne_of_present {f : Field} (h : (Path.read (.object data) path).isAbsent = false) :
    fillOne (path, .field f) data = data := by
  simp only [fillOne, h, Bool.false_eq_true, if_false]

theorem fillOne_of_absent {f : Field} (h : (Path.read (.object data) path).isAbsent = true) :
    fillOne (path, .field f) data = (Write.set path f.initialValue).after data := by
  simp only [fillOne, h, if_true]

/-- An entry changes nothing, or it is a field that has no value and now has its initial one. -/
theorem fillOne_cases (entry : String × Item) (data : Object) :
    fillOne entry data = data ∨
      ∃ f, entry.2 = .field f ∧ (Path.read (.object data) entry.1).isAbsent = true ∧
        fillOne entry data = (Write.set entry.1 f.initialValue).after data := by
  obtain ⟨path, item⟩ := entry
  cases item with
  | group g inner => exact Or.inl rfl
  | field f =>
    by_cases habsent : (Path.read (.object data) path).isAbsent = true
    · exact Or.inr ⟨f, rfl, habsent, fillOne_of_absent habsent⟩
    · exact Or.inl (fillOne_of_present (Bool.not_eq_true _ ▸ habsent))

/-- What is kept when a field is given its initial value, filling keeps. -/
theorem fill_keeps {P : Object → Prop}
    (hkeeps : ∀ path f, (path, Item.field f) ∈ visible → ∀ data,
      (Path.read (.object data) path).isAbsent = true → P data →
      P ((Write.set path f.initialValue).after data))
    (h : P data) : P (fill visible data) := by
  induction visible generalizing data with
  | nil => exact h
  | cons entry rest ih =>
    have hfirst : P (fillOne entry data) := by
      rcases fillOne_cases entry data with hsame | ⟨f, hf, habsent, hset⟩
      · rwa [hsame]
      · rw [hset]
        exact hkeeps entry.1 f (hf ▸ List.mem_cons_self) data habsent h
    exact ih (fun path f hmem => hkeeps path f (List.mem_cons_of_mem _ hmem)) hfirst

/-- Filling leaves what has a value with one, unless a field stands above it. -/
theorem isAbsent_fill (hpaths : ∀ path ∈ visible.keys, IsWhole path)
    (ho : IsWhole other)
    (habove : ∀ p f, (p, Item.field f) ∈ visible → Path.segments p <+: Path.segments other →
      p = other)
    (hpresent : (Path.read (.object data) other).isAbsent = false) :
    (Path.read (.object (fill visible data)) other).isAbsent = false := by
  refine fill_keeps (P := fun data => (Path.read (.object data) other).isAbsent = false)
    (fun path f hmem data habsent hpresent => ?_) hpresent
  refine Write.isAbsent_after_set (hpaths path (Entries.mem_keys_of_mem hmem)) ho (fun hpre => ?_)
    hpresent _
  obtain rfl : path = other := habove path f hmem hpre
  rw [habsent] at hpresent
  cases hpresent

theorem clear_fill (hdata : Clear data) (hpaths : ∀ path ∈ visible.keys, IsWhole path) :
    Clear (fill visible data) := by
  refine fill_keeps (fun path f hmem data _ h => ?_) hdata
  rw [Write.after_set (Path.segments_ne_nil (hpaths path (Entries.mem_keys_of_mem hmem)))]
  split
  · exact h
  · exact h.place path _

/-- A field that was given its initial value has a value. -/
theorem isAbsent_fillOne_self (hdata : Clear data) (hpath : IsWhole path) (f : Field) :
    (Path.read (.object (fillOne (path, .field f) data)) path).isAbsent = false := by
  cases habsent : (Path.read (.object data) path).isAbsent with
  | false => rw [fillOne_of_present habsent]; exact habsent
  | true =>
    rw [fillOne_of_absent habsent,
      Write.read_after_set_of_absent hdata hpath habsent f.isAbsent_initialValue,
      f.isAbsent_initialValue]

/-- After filling every field has a value. -/
theorem isAbsent_fill_of_mem (hdata : Clear data) (hpaths : ∀ path ∈ visible.keys, IsWhole path)
    (hnested : Unnested visible) {f : Field} (hmem : (path, Item.field f) ∈ visible) :
    (Path.read (.object (fill visible data)) path).isAbsent = false := by
  have hwhole : IsWhole path := hpaths path (Entries.mem_keys_of_mem hmem)
  -- the field is given a value at its turn, and what comes later does not stand above it
  obtain ⟨front, back, rfl⟩ := List.append_of_mem hmem
  have hfront : ∀ p ∈ Entries.keys front, IsWhole p := fun p hp =>
    hpaths p (((List.sublist_append_left front _).map Prod.fst).subset hp)
  have hback : ∀ p ∈ Entries.keys back, IsWhole p := fun p hp =>
    hpaths p ((((List.sublist_cons_self _ back).trans (List.sublist_append_right front _)).map
      Prod.fst).subset hp)
  rw [fill, List.foldl_append, List.foldl_cons]
  refine isAbsent_fill hback hwhole (fun p g hp hpre => ?_)
    (isAbsent_fillOne_self (clear_fill hdata hfront) hwhole f)
  exact hnested p g path f (List.mem_append_right _ (List.mem_cons_of_mem _ hp)) hmem hpre

/-- **Filling changes nothing at a place** if every field has a value already or lies apart from it. -/
theorem read_fill_of_settled (hpaths : ∀ path ∈ visible.keys, IsWhole path)
    (hnested : Unnested visible) (ho : IsWhole other)
    (hsettled : ∀ p f, (p, Item.field f) ∈ visible →
      Apart (Path.segments p) (Path.segments other) ∨
        (Path.read (.object data) p).isAbsent = false) :
    Path.read (.object (fill visible data)) other = Path.read (.object data) other := by
  have hwhole : ∀ p f, (p, Item.field f) ∈ visible → IsWhole p := fun p f hp =>
    hpaths p (Entries.mem_keys_of_mem hp)
  refine (fill_keeps (P := fun after =>
    Path.read (.object after) other = Path.read (.object data) other ∧
      ∀ p f, (p, Item.field f) ∈ visible → Apart (Path.segments p) (Path.segments other) ∨
        (Path.read (.object after) p).isAbsent = false) ?_ ⟨rfl, hsettled⟩).1
  rintro path f hmem after habsent ⟨hsame, hkept⟩
  refine ⟨?_, fun p g hp => (hkept p g hp).imp_right fun hpresent => ?_⟩
  · -- a field without a value lies apart
    rcases hkept path f hmem with hapart | hpresent
    · exact (Write.read_after_of_apart rfl ho hapart after).trans hsame
    · rw [habsent] at hpresent
      cases hpresent
  · -- no field stands above another one, so what has a value keeps one
    refine Write.isAbsent_after_set (hwhole path f hmem) (hwhole p g hp) (fun hpre => ?_) hpresent _
    obtain rfl : path = p := hnested path f p g hmem hp hpre
    rw [habsent] at hpresent
    cases hpresent

theorem sound_fill (hdata : Sound data) (hpaths : ∀ path ∈ visible.keys, IsWhole path) :
    Sound (fill visible data) := by
  refine fill_keeps (fun path f hmem data _ h => ?_) hdata
  have hplain : (Write.set path f.initialValue).IsPlain :=
    ⟨hpaths path (Entries.mem_keys_of_mem hmem), f.hasDistinctNames_initialValue⟩
  exact Write.sound_after hplain h

/-- A pass keeps data sound. -/
theorem sound_passed (registers : Bool) {before : Entries Item} (hdata : Sound data)
    (hremoved : ∀ path ∈ (moveBetween before visible).removed, IsWhole path)
    (hvisible : ∀ path ∈ visible.keys, IsWhole path) :
    Sound (passed registers before visible data) := by
  have hswept : Sound (sweep (moveBetween before visible).removed data) := sound_sweep hdata hremoved
  cases registers with
  | false => exact hswept
  | true => exact sound_fill hswept hvisible

/-! ## Retaining -/

/-- Giving a field its initial value retains what is found at it, if there is nothing. -/
theorem retains_set (hpath : IsWhole path) (f : Field)
    (habsent : (Path.read (.object data) path).isAbsent = true) :
    f.Retains (Path.read (.object data) path)
      (Path.read (.object ((Write.set path f.initialValue).after data)) path) := by
  rw [Write.after_set (Path.segments_ne_nil hpath)]
  split
  · exact Field.Retains.refl f _
  · rcases Path.read_place_self_cases hpath data f.initialValue with hread | hread
    · exact Or.inr ⟨habsent, hread⟩
    · exact Or.inl hread

/-- Filling retains what is found at a field that is one of those filled or lies apart from them. -/
theorem retains_fill {f : Field} (ho : IsWhole other)
    (hplaces : ∀ p g, (p, Item.field g) ∈ visible →
      Apart (Path.segments p) (Path.segments other) ∨ (p = other ∧ g = f)) (data : Object) :
    f.Retains (Path.read (.object data) other) (Path.read (.object (fill visible data)) other) := by
  refine fill_keeps
    (P := fun after => f.Retains (Path.read (.object data) other) (Path.read (.object after) other))
    (fun path g hmem after habsent h => ?_) (Field.Retains.refl f _)
  rcases hplaces path g hmem with hapart | ⟨rfl, rfl⟩
  · rwa [Write.read_after_of_apart rfl ho hapart]
  · exact h.trans (retains_set ho g habsent)

end Tracker
end DynamicForms
