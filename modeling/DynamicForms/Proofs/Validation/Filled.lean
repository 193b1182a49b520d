import DynamicForms.Proofs.Validation.Again
import DynamicForms.Proofs.Visibility.Visible

/-!
# `DynamicForms.Proofs.Validation.Filled` — what is let through, to the eyes of a condition

What the judge lets through is the data it was given, rearranged along the items, with empty groups in
it where groups were missing. So where a way leads, there is what was there before, or an object
in the place of nothing or of an object. No condition tells an object from nothing.

A condition of a rule looks inside the group of its field if it finds nothing at its path. It may now
find an object at its path and look no further. But then the path begins with the identifier of an
item at the top; identifiers being distinct, there was nothing to be found inside the group either.

## Contents
- `Value.Fills`, `Path.Filled`.
- **What is let through.** `filled_complete`, `filled_restrict`.
- **Conditions.** `visibleTable_eq_of_filled`, `RuleCondition.holds_eq_of_filled`,
  `Item.descend?_around_of_top`.
-/

namespace DynamicForms

open Value (Object)
open Path (IsWhole)

namespace Value

variable {a b c : Option Value}

/-- What is found at a place is what was found there, or an object where nothing or an object was. -/
def Fills (before after : Option Value) : Prop :=
  after = before ∨ (∃ fields, after = some (.object fields)) ∧ (before.getD .absent).isHollow = true

theorem Fills.refl (a : Option Value) : Fills a a := Or.inl rfl

theorem Fills.trans (h : Fills a b) (h' : Fills b c) : Fills a c := by
  rcases h' with rfl | ⟨hobject, hhollow⟩
  · exact h
  · rcases h with rfl | ⟨-, hbefore⟩
    · exact Or.inr ⟨hobject, hhollow⟩
    · exact Or.inr ⟨hobject, hbefore⟩

theorem Fills.interchangeable (h : Fills a b) :
    Interchangeable (a.getD .absent) (b.getD .absent) := by
  rcases h with rfl | ⟨⟨fields, rfl⟩, hhollow⟩
  · exact Interchangeable.refl _
  · exact interchangeable_of_isHollow hhollow (isHollow_object fields)

end Value

open Value (Fills Interchangeable)

/-- Wherever a way leads in the first data, the second fills what is there. -/
def Path.Filled (before after : Object) : Prop :=
  ∀ way, Fills (descend? (.object before) way) (descend? (.object after) way)

open Path (Filled)

theorem Path.Filled.trans {first second third : Object} (h : Filled first second)
    (h' : Filled second third) : Filled first third :=
  fun way => (h way).trans (h' way)

theorem Path.filled_put {d : Object} {name : String} {v : Value}
    (h : ∀ more, Fills ((d.get? name).bind fun child => descend? child more) (descend? v more)) :
    Filled d (d.put name v) := by
  intro way
  cases way with
  | nil => exact Or.inr ⟨⟨_, Path.descend?_nil _⟩, by rw [Path.descend?_nil]; rfl⟩
  | cons first more =>
    rw [Path.descend?_cons, Path.descend?_cons]
    by_cases hname : first = name
    · rw [hname, Entries.get?_put_self]
      exact h more
    · rw [Entries.get?_put_of_ne hname]
      exact Fills.refl _

/-! ## What is let through -/

namespace Item

variable {items inner : List Item} {d o : Object}

/-- What a missing group is completed to fills nothing. -/
theorem fills_of_missing {inner : List Item} (h : Filled [] (complete [] inner)) {found : Option Value}
    (hfound : found = none ∨ found = some .absent) (more : List String) :
    Fills (found.bind fun child => Path.descend? child more)
      (Path.descend? (.object (complete [] inner)) more) := by
  cases more with
  | nil =>
    refine Or.inr ⟨⟨_, Path.descend?_nil _⟩, ?_⟩
    rcases hfound with rfl | rfl <;> rfl
  | cons name rest =>
    have hnothing : (found.bind fun child => Path.descend? child (name :: rest))
        = Path.descend? (.object []) (name :: rest) := by
      rcases hfound with rfl | rfl <;> rfl
    rw [hnothing]
    exact h _

/-- **Putting missing groups in fills the data.** -/
theorem filled_complete (d : Object) (items : List Item) : Filled d (complete d items) := by
  induction items using forestInduction generalizing d with
  | nil => exact fun _ => Fills.refl _
  | field f rest ih => exact ih d
  | group g inner rest ihInner ih =>
    have hfirst : Filled d (completeOne d (.group g inner)) := by
      rcases completeOne_group_cases g inner d with hsame | ⟨before, hput, ⟨rfl, hmissing⟩ | hget⟩
      · rw [hsame]
        exact fun _ => Fills.refl _
      · rw [hput]
        exact Path.filled_put fun more => fills_of_missing (ihInner []) hmissing more
      · rw [hput]
        refine Path.filled_put fun more => ?_
        rw [hget, Option.bind_some]
        exact ihInner before more
    exact hfirst.trans (ih _)

/-- **What the items know of data that they know fills it.** -/
theorem filled_restrict (hun : Unambiguous items) (h : knows items d = true) :
    Filled d (restrict d items) := by
  intro way
  induction way generalizing items d with
  | nil => exact Or.inr ⟨⟨_, Path.descend?_nil _⟩, by rw [Path.descend?_nil]; rfl⟩
  | cons name more ih =>
    rw [Path.descend?_cons, Path.descend?_cons]
    by_cases hname : ∃ item ∈ items, item.id = name
    · obtain ⟨item, hitem, rfl⟩ := hname
      have hshown := shows_restrict hun d item hitem
      cases item with
      | field f =>
        have hsame : Entries.get? (restrict d items) f.id = d.get? f.id :=
          hshown.trans (get?_restrictOne_field d f)
        rw [show (Item.field f).id = f.id from rfl, hsame]
        exact Fills.refl _
      | group g inner =>
        have hgroup : Entries.get? (restrict d items) g.id = (d.get? g.id).map (restrictValue inner) :=
          hshown.trans (get?_restrictOne_group d g inner)
        rw [show (Item.group g inner).id = g.id from rfl, hgroup]
        cases hget : d.get? g.id with
        | none => exact Fills.refl _
        | some v =>
          cases v with
          | object fields => exact ih (hun.inside hitem) (knows_group h hitem hget)
          | _ => exact Fills.refl _
    · -- a name that no item has is neither in the data nor in what is known of it
      have hbefore : d.get? name = none := by
        rw [Option.eq_none_iff_forall_ne_some]
        exact fun v hv => hname (exists_item_of_get? h hv)
      have hafter : Entries.get? (restrict d items) name = none := by
        rw [Option.eq_none_iff_forall_ne_some]
        exact fun v hv => hname (exists_item_of_get?_restrict hv)
      rw [hbefore, hafter]
      exact Fills.refl _

/-! ## Conditions -/

theorem interchangeable_read (hd : Path.HasPlainNames d) (ho : Path.HasPlainNames o)
    (h : Filled d o) {path : String} (hpath : IsWhole path) :
    Interchangeable (Path.read (.object d) path) (Path.read (.object o) path) := by
  rw [Path.read_of_plain hd hpath, Path.read_of_plain ho hpath]
  exact (h _).interchangeable

/-- **What is visible does not change when data is filled.** -/
theorem visibleTable_eq_of_filled (hi : Regular items) (hd : Path.HasPlainNames d)
    (ho : Path.HasPlainNames o) (h : Filled d o) :
    visibleTable items (.object o) = visibleTable items (.object d) :=
  (visibleTable_congr hi.named fun c hc => interchangeable_read hd ho h (hi.whole c hc)).symm

/-- Inside a group nothing is found on a way that begins with the identifier of an item at the top. -/
theorem descend?_around_of_top (hun : Unambiguous items) (h : knows items d = true)
    {way more : List String} {g : GroupHeader} (hstands : Stands items way (.group g inner))
    {item : Item} (hitem : item ∈ items) :
    Path.descend? (.object d) (way ++ item.id :: more) = none := by
  rw [Path.descend?_append]
  cases hfound : Path.descend? (.object d) way with
  | none => rfl
  | some v =>
    rw [Option.bind_some]
    cases v with
    | object fields =>
      rw [Path.descend?_cons]
      cases hget : Entries.get? fields item.id with
      | none => rfl
      | some child =>
        -- an item of the group would have the identifier too
        obtain ⟨twin, htwin, hid⟩ := exists_item_of_get? (knows_of_stands h hstands hfound) hget
        exact absurd hid (hun.id_ne_of_stands hstands htwin hitem)
    | _ => exact Path.descend?_cons_of_not_object rfl _ _

end Item

namespace RuleCondition

variable {c : RuleCondition} {data : Value} {parent : String} {d o : Object}

theorem operand_of_absent (h : Path.read data c.field = .absent) :
    c.operand data parent = if Path.join parent c.field == c.field then .absent
      else Path.read data (Path.join parent c.field) := by
  rw [operand, h]

theorem operand_of_present (h : Path.read data c.field ≠ .absent) :
    c.operand data parent = Path.read data c.field := by
  rw [operand]
  split
  · next habsent => exact absurd habsent h
  · rfl

/-- If the path of a condition leads to the same in both, the way inside the group decides. -/
theorem interchangeable_operand
    (hread : Path.read (.object o) c.field = Path.read (.object d) c.field)
    (hinside : Interchangeable (Path.read (.object d) (Path.join parent c.field))
      (Path.read (.object o) (Path.join parent c.field))) :
    Interchangeable (c.operand (.object d) parent) (c.operand (.object o) parent) := by
  by_cases habsent : Path.read (.object d) c.field = .absent
  · rw [operand_of_absent habsent, operand_of_absent (hread.trans habsent)]
    split
    · exact Interchangeable.refl _
    · exact hinside
  · rw [operand_of_present habsent, operand_of_present (hread ▸ habsent), hread]
    exact Interchangeable.refl _

/-- A condition reads nothing but hollow values, if its path leads to one and nothing is found on the
    way inside the group. -/
theorem isHollow_operand (hd : Path.HasPlainNames d) (hfield : IsWhole c.field)
    (hparent : parent = "" ∨ IsWhole parent)
    (hhollow : ((Path.descend? (.object d) (Path.segments c.field)).getD .absent).isHollow = true)
    (hnone : parent ≠ "" →
      Path.descend? (.object d) (Path.segments parent ++ Path.segments c.field) = none) :
    (c.operand (.object d) parent).isHollow = true := by
  by_cases habsent : Path.read (.object d) c.field = .absent
  · rw [operand_of_absent habsent]
    split
    · rfl
    · next hne =>
      have hbelow : parent ≠ "" := by
        rintro rfl
        exact hne (by rw [Path.join_empty, beq_self_eq_true])
      have hwhole : IsWhole parent := hparent.resolve_left hbelow
      rw [Path.read_of_plain hd (Path.isWhole_join_path hwhole hfield),
        Path.segments_join_path hwhole hfield, hnone hbelow]
      rfl
  · rw [operand_of_present habsent, Path.read_of_plain hd hfield]
    exact hhollow

/-- **A condition of a rule comes out the same when data is filled**, unless a way inside the group of
    the field led to something and one from the top leads to something now. -/
theorem holds_eq_of_filled (hd : Path.HasPlainNames d) (ho : Path.HasPlainNames o) (h : Filled d o)
    (hfield : IsWhole c.field) (hparent : parent = "" ∨ IsWhole parent)
    (halone : parent ≠ "" → Path.descend? (.object o) (Path.segments c.field) ≠ none →
      Path.descend? (.object d) (Path.segments parent ++ Path.segments c.field) = none) :
    c.holds (.object o) parent = c.holds (.object d) parent := by
  suffices hoperand : Interchangeable (c.operand (.object d) parent) (c.operand (.object o) parent) by
    unfold holds
    simp only [hoperand.strictlyEqual_eq c.value]
  have hafter := Path.read_of_plain ho hfield
  rcases h (Path.segments c.field) with hsame | ⟨⟨fields, hobject⟩, hhollow⟩
  · -- the path leads to the same in both
    refine interchangeable_operand (by rw [hafter, hsame, Path.read_of_plain hd hfield]) ?_
    refine Item.interchangeable_read hd ho h ?_
    rcases hparent with rfl | hparent
    · rwa [Path.join_empty]
    · exact Path.isWhole_join_path hparent hfield
  · -- the path leads to an object now
    have hnow : Path.read (.object o) c.field = .object fields := by rw [hafter, hobject]; rfl
    have hpresent : Path.read (.object o) c.field ≠ .absent := by
      rw [hnow]
      exact Value.noConfusion
    rw [operand_of_present hpresent, hnow]
    refine Value.interchangeable_of_isHollow ?_ (Value.isHollow_object fields)
    exact isHollow_operand hd hfield hparent hhollow fun hbelow =>
      halone hbelow (by rw [hobject]; exact Option.some_ne_none _)

end RuleCondition

/-- No check of a rule fails an object. -/
theorem RuleCheck.passes_object (check : RuleCheck) (fields : Object) :
    check.passes (.object fields) = true := by
  cases check <;> rfl

/-- **A rule with a condition that is broken now was broken before**, its condition coming out the
    same. -/
theorem ConditionalRule.isBroken_of_filled {r : ConditionalRule} {d o : Object}
    (hd : Path.HasPlainNames d) (ho : Path.HasPlainNames o) (h : Filled d o) (hpath : IsWhole r.path)
    (hholds : r.condition.holds (.object o) r.parent = r.condition.holds (.object d) r.parent)
    (hbroken : r.isBroken (.object o) = true) : r.isBroken (.object d) = true := by
  rw [isBroken, applies, Path.read_of_plain ho hpath] at hbroken
  rw [isBroken, applies, Path.read_of_plain hd hpath, ← hholds]
  rcases h (Path.segments r.path) with hsame | ⟨⟨fields, hobject⟩, -⟩
  · rwa [hsame] at hbroken
  · rw [hobject, Option.getD_some, r.check.passes_object] at hbroken
    simp at hbroken

end DynamicForms
