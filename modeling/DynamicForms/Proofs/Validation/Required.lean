import DynamicForms.Proofs.Path.Access
import DynamicForms.Proofs.Validation.Fits

/-!
# `DynamicForms.Proofs.Validation.Required` — required fields of accepted data

A field with an unconditional `required` rule asks for a true tick box, for one of its options, or for
a text with at least one character. What the first pass accepts has such a value at every required
field, with one exception that is there by design: a field or group that can be hidden may also be
missing or null. So the statement is about fields on whose way everything that can be hidden is given.

Before the first pass missing groups are put in. That adds no field, and no group that can be hidden.

## Contents
- `Field.isRequired`, `Field.isSatisfiedBy`, `Item.isGated`, `Node.IsGiven`.
- **One field.** `isSatisfiedBy_of_complaint?`.
- **The first pass.** `required_of_runAll`.
- **Missing groups.** `Item.completeValue`, `get?_complete_of_mem`, `descend?_complete`.
- **Verdicts.** `Validator.required_of_valid`.
-/

namespace DynamicForms

open Value (Object)
open Path (IsWhole IsName)

/-! ## One field -/

namespace Field

/-- Whether an unconditional rule requires the field. -/
def isRequired (f : Field) : Bool :=
  f.unconditionalRules.any (·.kind == .required)

/-- Whether a value is what a required field asks for: true for a tick box, one of the options for a
    choice, and some text for anything else; never an empty text. -/
def isSatisfiedBy (f : Field) (v : Value) : Bool :=
  if f.kind == .checkbox then
    match v with
    | .bool b => b
    | _ => false
  else
    match v with
    | .text s => !s.isEmpty && (!f.hasChoices || f.optionValues.contains s)
    | _ => false

variable {f : Field} {shown : List String} {rules : List ReadyRule} {v : Value}

theorem exists_required (hreq : f.isRequired = true)
    (hrules : rules.map (·.rule) = f.unconditionalRules) :
    ∃ r ∈ rules, (r.rule.kind == .required) = true := by
  rw [isRequired, ← hrules, List.any_map, List.any_eq_true] at hreq
  exact hreq

theorem requiredMessages_ne_nil (hreq : f.isRequired = true)
    (hrules : rules.map (·.rule) = f.unconditionalRules) : requiredMessages rules ≠ [] := by
  obtain ⟨r, hr, hkind⟩ := exists_required hreq hrules
  have hmem : r.rule.message ∈ requiredMessages rules :=
    List.mem_map.mpr ⟨r, List.mem_filter.mpr ⟨hr, hkind⟩, rfl⟩
  exact List.ne_nil_of_mem hmem

/-- **A value that nothing is said about is what a required field asks for.** -/
theorem isSatisfiedBy_of_complaint? (hreq : f.isRequired = true)
    (hrules : rules.map (·.rule) = f.unconditionalRules)
    (h : (f.baseCheck shown rules).complaint? v = none) : f.isSatisfiedBy v = true := by
  have hmessages := requiredMessages_ne_nil hreq hrules
  unfold baseCheck at h
  unfold isSatisfiedBy
  by_cases hbox : (f.kind == .checkbox) = true
  · -- a tick box: a box that is not ticked meets the message of the rule
    rw [if_pos hbox] at h ⊢
    cases v with
    | bool b =>
      cases b with
      | true => rfl
      | false =>
        simp only [BaseCheck.complaint?, Option.map_eq_none_iff, List.head?_eq_none_iff] at h
        exact absurd h hmessages
    | _ => cases h
  · rw [if_neg hbox] at h ⊢
    by_cases hchoices : f.hasChoices = true
    · -- a choice: with the message of the rule at hand, nothing chosen is complained about
      rw [if_pos hchoices] at h
      obtain ⟨message, hlast⟩ : ∃ message, (requiredMessages rules).getLast? = some message :=
        ⟨_, List.getLast?_eq_some_getLast hmessages⟩
      simp only [BaseCheck.complaint?, hlast] at h
      cases hunchosen : isUnchosen v with
      | true => simp [hunchosen] at h
      | false =>
        simp only [hunchosen] at h
        cases hone : isOneOf f.distinctOptions v with
        | false => simp [hone] at h
        | true =>
          cases v with
          | text s =>
            have hmem : s ∈ f.optionValues := by
              simpa [isOneOf, distinctOptions, List.mem_eraseDups] using hone
            have hne : s.isEmpty = false := hunchosen
            simp [hne, hmem]
          | _ => cases hone
    · -- a text: the rule itself is one of those that the text has passed
      rw [if_neg hchoices] at h
      cases v with
      | text s =>
        simp only [BaseCheck.complaint?, textComplaint?, Option.map_eq_none_iff,
          List.find?_eq_none] at h
        obtain ⟨r, hr, hkind⟩ := exists_required hreq hrules
        have hpass := h r.textRule (List.mem_map_of_mem hr)
        simp only [ReadyRule.textRule, hkind, if_true, TextRule.passes] at hpass
        have hne : s.isEmpty = false := by simpa using hpass
        simp [hne, hchoices]
      | _ => cases h

/-- A required field may be missing only if it can be hidden. -/
theorem isConditional_of_isOptional (hreq : f.isRequired = true) (h : f.isOptional = true) :
    f.isConditional = true := by
  unfold isRequired at hreq
  unfold isOptional at h
  by_cases hcond : f.isConditional = true
  · exact hcond
  · rw [if_neg hcond, if_pos hreq] at h
    cases h

end Field

/-- Whether an item can be hidden by a condition of its own. -/
def Item.isGated : Item → Bool
  | .field f => f.isConditional
  | .group g _ => g.showWhen.isSome

/-! ## The first pass -/

namespace Check

/-- The name that a check looks under. -/
def id : Check → String
  | .field f => f.id
  | .group g _ => g.id

variable {d : Object} {check : Check} {checks : List Check}

theorem id_of_mem_checkEntry {id path : String} {optional : Bool} {found : Value → Outcome}
    (hfound : ∀ v, ∀ entry ∈ (found v).output, entry.1 = id) {entry : String × Value}
    (h : entry ∈ (checkEntry d id path optional found).output) : entry.1 = id := by
  unfold checkEntry at h
  split at h
  · split at h <;> cases h
  · split at h
    · rw [List.mem_singleton.mp h]
    · exact hfound _ entry h

/-- All that a check lets through stands under its name. -/
theorem id_of_mem_output {entry : String × Value} (h : entry ∈ (Check.run d check).output) :
    entry.1 = check.id := by
  cases check with
  | field f =>
    rw [Check.run] at h
    refine id_of_mem_checkEntry (fun v entry hentry => ?_) h
    split at hentry
    · cases hentry
    · rw [List.mem_singleton.mp hentry]; rfl
  | group g inner =>
    rw [Check.run] at h
    refine id_of_mem_checkEntry (fun v entry hentry => ?_) h
    split at hentry
    · rw [List.mem_singleton.mp hentry]; rfl
    · cases hentry

/-- Below a name of its own a check that follows others is alone. -/
theorem descend?_output_cons_of_ne {name : String} (h : name ≠ check.id) (more : List String) :
    Path.descend? (.object (Check.runAll d (check :: checks)).output) (name :: more)
      = Path.descend? (.object (Check.runAll d checks).output) (name :: more) := by
  have hnone : Entries.get? (Check.run d check).output name = none := by
    rw [Entries.get?_eq_none_iff]
    intro hmem
    obtain ⟨entry, hentry, hname⟩ := List.mem_map.mp hmem
    exact h (hname.symm.trans (id_of_mem_output hentry))
  have hget : Entries.get? (Check.runAll d (check :: checks)).output name
      = Entries.get? (Check.runAll d checks).output name := by
    show Entries.get? ((Check.run d check).output ++ _) name = _
    rw [Entries.get?_append, hnone, Option.none_or]
  rw [Path.descend?_cons, Path.descend?_cons, hget]

/-- Below its own name the first check lets through what it has let through. -/
theorem descend?_output_cons_self {name : String} {v : Value}
    (h : (Check.run d check).output = [(name, v)]) (more : List String) :
    Path.descend? (.object (Check.runAll d (check :: checks)).output) (name :: more)
      = Path.descend? v more := by
  have hget : Entries.get? (Check.runAll d (check :: checks)).output name = some v := by
    show Entries.get? ((Check.run d check).output ++ _) name = _
    rw [h, Entries.get?_append, Entries.get?_cons_self, Option.some_or]
  rw [Path.descend?_cons, hget, Option.bind_some]

theorem complaints_cons (h : (Check.runAll d (check :: checks)).complaints = []) :
    (Check.run d check).complaints = [] ∧ (Check.runAll d checks).complaints = [] :=
  List.append_eq_nil_iff.mp h

end Check

/-- A place about which nothing is said: it is missing or null as it may be, or its value is checked
    and nothing is said about that. -/
theorem checkEntry_cases {d : Object} {id path : String} {optional : Bool}
    {found : Value → Outcome} (h : (checkEntry d id path optional found).complaints = []) :
    (optional = true ∧ ∀ v, d.get? id = some v → v.isNull = true) ∨
      ∃ v, d.get? id = some v ∧ checkEntry d id path optional found = found v := by
  unfold checkEntry at h ⊢
  cases hget : d.get? id with
  | none =>
    cases optional with
    | true => exact Or.inl ⟨rfl, nofun⟩
    | false => simp [hget, Outcome.refused] at h
  | some v =>
    by_cases hnull : (optional && v.isNull) = true
    · rw [Bool.and_eq_true] at hnull
      exact Or.inl ⟨hnull.1, fun w hw => by cases hw; exact hnull.2⟩
    · exact Or.inr ⟨v, rfl, by simp only [if_neg hnull]⟩

variable {parent : String} {items : List Item} {node : Node} {f : Field}

/-- Everything on the way to a node that can be hidden is given in the data at a place: it is there,
    and it is not null. -/
def Node.IsGivenIn (parent : String) (items : List Item) (d : Object) (node : Node) : Prop :=
  ∀ g ∈ Item.walkList parent items, g.Governs node → g.item.isGated = true →
    ∀ way, Path.segments g.path = Path.segments parent ++ way →
      ∃ v, Path.descend? (.object d) way = some v ∧ v.isNull = false

/-- At a required field that is given nothing is said only about a value that satisfies it, and that
    value is let through. -/
theorem required_of_run {check : FieldCheck} {d : Object} (hfit : FieldCheck.Fits parent f check)
    (hreq : f.isRequired = true)
    (hgiven : f.isConditional = true → ∃ v, d.get? f.id = some v ∧ v.isNull = false)
    (hclean : (check.run d).complaints = []) :
    ∃ v, (check.run d).output = [(f.id, v)] ∧ f.isSatisfiedBy v = true := by
  rcases checkEntry_cases hclean with ⟨hoptional, hmissing⟩ | ⟨v, -, hfound⟩
  · rw [hfit.optional_eq] at hoptional
    obtain ⟨v, hv, hnull⟩ := hgiven (Field.isConditional_of_isOptional hreq hoptional)
    rw [hmissing v (by rw [hfit.id_eq]; exact hv)] at hnull
    cases hnull
  · obtain ⟨shown, rules, hbase, ⟨hrules, -⟩⟩ := hfit.base_eq
    rw [FieldCheck.run, hfound] at hclean ⊢
    cases hcomplaint : check.base.complaint? v with
    | some c => simp [hcomplaint, Outcome.refused] at hclean
    | none =>
      refine ⟨v, ?_, Field.isSatisfiedBy_of_complaint? hreq hrules (hbase ▸ hcomplaint)⟩
      rw [← hfit.id_eq]
      rfl

theorem descend?_singleton (d : Object) (name : String) :
    Path.descend? (.object d) [name] = Entries.get? d name := by
  rw [Path.descend?_cons]
  cases Entries.get? d name with
  | none => rfl
  | some v => exact Path.descend?_nil v

/-- What is given on the way to a node is given also if the first item is not looked at. -/
theorem Node.IsGivenIn.behind {item : Item} {d : Object}
    (h : node.IsGivenIn parent (item :: items) d) : node.IsGivenIn parent items d :=
  fun k hk => h k ((Item.walkList_sublist_cons parent item items).subset hk)

/-- What is given on the way to a node below a group is given inside the group. -/
theorem Node.IsGivenIn.below {g : GroupHeader} {inner : List Item} {d fields : Object}
    (h : node.IsGivenIn parent (.group g inner :: items) d)
    (hseg : Path.segments (Path.join parent g.id) = Path.segments parent ++ [g.id])
    (hfields : d.get? g.id = some (.object fields)) :
    node.IsGivenIn (Path.join parent g.id) inner fields := by
  intro k hk hgoverns hgated way hway
  have hmem : k ∈ Item.walkList parent (.group g inner :: items) :=
    Item.mem_walkList_group.mpr (Or.inr (Or.inl hk))
  have hpath : Path.segments k.path = Path.segments parent ++ g.id :: way := by
    rw [hway, hseg, List.append_assoc]
    rfl
  obtain ⟨v, hv, hnull⟩ := h k hmem hgoverns hgated (g.id :: way) hpath
  rw [Path.descend?_cons, hfields, Option.bind_some] at hv
  exact ⟨v, hv, hnull⟩

/-- A first item that governs a node and can be hidden has a value. -/
theorem Node.IsGivenIn.exists_first {first : Node} {name : String} {d : Object}
    (h : node.IsGivenIn parent items d) (hfirst : first ∈ Item.walkList parent items)
    (hgoverns : first.Governs node) (hgated : first.item.isGated = true)
    (hseg : Path.segments first.path = Path.segments parent ++ [name]) :
    ∃ v, d.get? name = some v ∧ v.isNull = false := by
  obtain ⟨v, hv, hnull⟩ := h first hfirst hgoverns hgated [name] hseg
  exact ⟨v, (descend?_singleton d name).symm.trans hv, hnull⟩

/-- A group that is given, and about which nothing is said, is an object; what is found in it is let
    through under its name. -/
theorem exists_fields_of_run {d : Object} {id path : String} {optional : Bool} {checks : List Check}
    (hgiven : optional = true → ∃ v, d.get? id = some v ∧ v.isNull = false)
    (hclean : (Check.run d (.group ⟨id, path, optional⟩ checks)).complaints = []) :
    ∃ fields, d.get? id = some (.object fields) ∧
      Check.run d (.group ⟨id, path, optional⟩ checks)
        = ⟨(Check.runAll fields checks).complaints,
            [(id, .object (Check.runAll fields checks).output)]⟩ := by
  rw [Check.run] at hclean ⊢
  rcases checkEntry_cases hclean with ⟨hoptional, hmissing⟩ | ⟨v, hv, hfound⟩
  · obtain ⟨v, hv, hnull⟩ := hgiven hoptional
    rw [hmissing v hv] at hnull
    cases hnull
  · rw [hfound] at hclean
    cases v with
    | object fields => exact ⟨fields, hv, hfound⟩
    | _ => cases hclean

/-- **What the first pass accepts satisfies every required field** that is given in the data. -/
theorem required_of_runAll {checks : List Check} (hfit : Check.FitAll parent items checks)
    (h : Item.WellNamedAt parent items) {d : Object} (hclean : (Check.runAll d checks).complaints = [])
    (hnode : node ∈ Item.walkList parent items) (hf : node.item = .field f)
    (hreq : f.isRequired = true) (hgiven : node.IsGivenIn parent items d) {way : List String}
    (hway : Path.segments node.path = Path.segments parent ++ way) :
    ∃ v, Path.descend? (.object (Check.runAll d checks).output) way = some v ∧
      f.isSatisfiedBy v = true := by
  -- by induction on the fit of checks to items; the way is taken name by name, and the output of the
  -- first check is out of the way of all nodes but its own
  induction hfit generalizing d node way with
  | nil => cases hnode
  | @field parent f' check rest checks hfits hrest ih =>
    obtain ⟨hcleanHead, hcleanRest⟩ := Check.complaints_cons hclean
    rcases Item.mem_walkList_field.mp hnode with rfl | hnode
    · cases hf
      have hseg := h.segments_field List.mem_cons_self
      obtain rfl : way = [f.id] := List.append_cancel_left (hway.symm.trans hseg)
      have hhere : f.isConditional = true → ∃ v, d.get? f.id = some v ∧ v.isNull = false :=
        fun hcond => hgiven.exists_first (Item.mem_walkList_of_mem List.mem_cons_self)
          (Node.Governs.refl _) hcond hseg
      obtain ⟨v, hout, hsat⟩ := required_of_run hfits hreq hhere hcleanHead
      have hout' : (Check.run d (.field check)).output = [(f.id, v)] := hout
      exact ⟨v, by rw [Check.descend?_output_cons_self hout', Path.descend?_nil], hsat⟩
    · obtain ⟨name, more, rfl, hname⟩ := h.way_behind hnode hway
      have hne : name ≠ (Check.field check).id := fun e => hname (e.trans hfits.id_eq)
      rw [Check.descend?_output_cons_of_ne hne]
      exact ih h.behind hcleanRest hnode hf hgiven.behind hway
  | @group parent g inner innerChecks rest checks hinner hrest ihInner ih =>
    obtain ⟨hcleanHead, hcleanRest⟩ := Check.complaints_cons hclean
    have hseg := h.segments_group List.mem_cons_self
    rcases Item.mem_walkList_group.mp hnode with rfl | hnode | hnode
    · cases hf
    · obtain ⟨more, rfl, -, hmore⟩ := h.way_inside List.mem_cons_self hnode hway
      -- the group is there, for it governs the node
      have hhere : g.showWhen.isSome = true → ∃ v, d.get? g.id = some v ∧ v.isNull = false :=
        fun hgated => hgiven.exists_first (Item.mem_walkList_of_mem List.mem_cons_self)
          (Or.inr hnode) hgated hseg
      obtain ⟨fields, hfields, hfound⟩ := exists_fields_of_run hhere hcleanHead
      have hcleanInner : (Check.runAll fields innerChecks).complaints = [] := by
        rw [hfound] at hcleanHead; exact hcleanHead
      obtain ⟨v, hv, hsat⟩ := ihInner (h.inside List.mem_cons_self) hcleanInner hnode hf
        (hgiven.below hseg hfields) hmore
      exact ⟨v, by rw [Check.descend?_output_cons_self (by rw [hfound]), hv], hsat⟩
    · obtain ⟨name, more, rfl, hname⟩ := h.way_behind hnode hway
      rw [Check.descend?_output_cons_of_ne hname]
      exact ih h.behind hcleanRest hnode hf hgiven.behind hway

/-! ## Missing groups -/

namespace Item

/-- Completing a group leaves the data or puts the group in, completed from nothing or from what there
    is of it. -/
theorem completeOne_group_cases (g : GroupHeader) (inner : List Item) (d : Object) :
    completeOne d (.group g inner) = d ∨ ∃ before,
      completeOne d (.group g inner) = d.put g.id (.object (complete before inner)) ∧
        (before = [] ∧ (d.get? g.id = none ∨ d.get? g.id = some .absent) ∨
          d.get? g.id = some (.object before)) := by
  rw [completeOne]
  split
  · exact Or.inl rfl
  · split
    · next hget => exact Or.inr ⟨[], rfl, Or.inl ⟨rfl, Or.inl hget⟩⟩
    · next hget => exact Or.inr ⟨[], rfl, Or.inl ⟨rfl, Or.inr hget⟩⟩
    · next before hget => exact Or.inr ⟨before, rfl, Or.inr hget⟩
    · exact Or.inl rfl

theorem get?_completeOne_of_ne {item : Item} {name : String} (h : name ≠ item.id) (d : Object) :
    Entries.get? (completeOne d item) name = Entries.get? d name := by
  cases item with
  | field f => rfl
  | group g inner =>
    rcases completeOne_group_cases g inner d with hsame | ⟨before, hput, -⟩
    · rw [hsame]
    · rw [hput]
      exact Entries.get?_put_of_ne h _ _

theorem complete_cons (d : Object) (item : Item) (rest : List Item) :
    complete d (item :: rest) = complete (completeOne d item) rest := rfl

theorem get?_complete_of_ne {name : String} (h : ∀ item ∈ items, name ≠ item.id) (d : Object) :
    Entries.get? (complete d items) name = Entries.get? d name := by
  induction items generalizing d with
  | nil => rfl
  | cons item rest ih =>
    rw [complete_cons, ih fun i hi => h i (List.mem_cons_of_mem _ hi)]
    exact get?_completeOne_of_ne (h item List.mem_cons_self) d

/-- What a group that cannot be hidden is completed to. -/
def completeValue (inner : List Item) : Option Value → Value
  | none | some .absent => .object (complete [] inner)
  | some (.object fields) => .object (complete fields inner)
  | some v => v

theorem get?_completeOne_self {g : GroupHeader} {inner : List Item} (hg : g.showWhen.isSome = false)
    (d : Object) : Entries.get? (completeOne d (.group g inner)) g.id
      = some (completeValue inner (Entries.get? d g.id)) := by
  rw [completeOne, hg, if_neg Bool.false_ne_true]
  cases hget : Entries.get? d g.id with
  | none => rw [Entries.get?_put_self]; rfl
  | some v =>
    cases v with
    | absent => rw [Entries.get?_put_self]; rfl
    | object fields => rw [Entries.get?_put_self]; rfl
    | _ => exact hget

theorem completeOne_of_fixed {item : Item} (h : item.isField = true ∨ item.isGated = true) (d : Object) :
    completeOne d item = d := by
  cases item with
  | field f => rfl
  | group g inner =>
    have hgated : g.showWhen.isSome = true := h.resolve_left Bool.false_ne_true
    rw [completeOne, if_pos hgated]

/-- What is completed under the name of an item depends on what stands there. -/
theorem get?_completeOne_congr {item : Item} {d o : Object}
    (h : Entries.get? d item.id = Entries.get? o item.id) :
    Entries.get? (completeOne d item) item.id = Entries.get? (completeOne o item) item.id := by
  by_cases hfixed : item.isField = true ∨ item.isGated = true
  · rw [completeOne_of_fixed hfixed, completeOne_of_fixed hfixed, h]
  · cases item with
    | field f => exact absurd (Or.inl rfl) hfixed
    | group g inner =>
      have hg : g.showWhen.isSome = false := Bool.eq_false_iff.mpr fun hg => hfixed (Or.inr hg)
      have hget : Entries.get? d g.id = Entries.get? o g.id := h
      show Entries.get? (completeOne d (.group g inner)) g.id
        = Entries.get? (completeOne o (.group g inner)) g.id
      rw [get?_completeOne_self hg, get?_completeOne_self hg, hget]

/-- Under the name of an item at a place only the item matters for what is completed there. -/
theorem get?_complete_of_mem {item : Item} (h : WellNamedAt parent items) (hitem : item ∈ items)
    (d : Object) :
    Entries.get? (complete d items) item.id = Entries.get? (completeOne d item) item.id := by
  induction items generalizing d with
  | nil => cases hitem
  | cons first rest ih =>
    rw [complete_cons]
    rcases List.mem_cons.mp hitem with rfl | hrest
    · exact get?_complete_of_ne (fun other hother => (h.id_ne hother).symm) _
    · rw [ih h.behind hrest]
      exact get?_completeOne_congr (get?_completeOne_of_ne (h.id_ne hrest) d)

/-- Completing a group changes nothing at a place inside it where completing its items does not. -/
theorem descend?_completeOne {g : GroupHeader} {inner : List Item} {more : List String}
    (hmore : more ≠ [])
    (hsame : ∀ fields,
      Path.descend? (.object (complete fields inner)) more = Path.descend? (.object fields) more)
    (d : Object) :
    Path.descend? (.object (completeOne d (.group g inner))) (g.id :: more)
      = Path.descend? (.object d) (g.id :: more) := by
  cases hgated : g.showWhen.isSome with
  | true => rw [completeOne, if_pos hgated]
  | false =>
    obtain ⟨next, rest, rfl⟩ := List.exists_cons_of_ne_nil hmore
    have hempty : Path.descend? (.object (complete [] inner)) (next :: rest) = none :=
      (hsame []).trans rfl
    rw [Path.descend?_cons, get?_completeOne_self hgated, Option.bind_some, Path.descend?_cons]
    cases Entries.get? d g.id with
    | none => exact hempty
    | some v =>
      cases v with
      | absent => exact hempty
      | object fields => exact hsame fields
      | _ => rfl

/-- **Only groups that cannot be hidden are put in**: what stands at a field, or at a group that can be
    hidden, is as it was. -/
theorem descend?_complete (h : WellNamedAt parent items) (d : Object)
    (hnode : node ∈ walkList parent items)
    (hkind : node.item.isField = true ∨ node.item.isGated = true) {way : List String}
    (hway : Path.segments node.path = Path.segments parent ++ way) :
    Path.descend? (.object (complete d items)) way = Path.descend? (.object d) way := by
  induction hnode using walkInduction generalizing d way with
  | here parent items item hitem =>
    obtain rfl := h.way_here hitem hway
    rw [descend?_singleton, descend?_singleton, get?_complete_of_mem h hitem,
      completeOne_of_fixed hkind]
  | inside parent items g inner node hg hnode ih =>
    obtain ⟨more, rfl, hmore, hseg⟩ := h.way_inside hg hnode hway
    have hget : Entries.get? (complete d items) g.id
        = Entries.get? (completeOne d (.group g inner)) g.id := get?_complete_of_mem h hg d
    rw [Path.descend?_cons, hget, ← Path.descend?_cons]
    exact descend?_completeOne hmore (fun fields => ih (h.inside hg) fields hkind hseg) d

end Item

/-! ## Verdicts -/

/-- Everything on the way to a node that can be hidden is given in form data. -/
def Node.IsGiven (items : List Item) (data : Object) (node : Node) : Prop :=
  ∀ g ∈ Item.nodes items, g.Governs node → g.item.isGated = true →
    ∃ v, Path.descend? (.object data) (Path.segments g.path) = some v ∧ v.isNull = false

namespace Validator

/-- **There is a message about a place exactly if a pass has something to say about it.** -/
theorem mem_keys_messages {first : List (String × Complaint)} {second : Entries String}
    {path : String} :
    path ∈ Entries.keys (messages first second)
      ↔ path ∈ first.map (·.1) ∨ path ∈ Entries.keys second := by
  have hkeys : ∀ (entries : List (String × String)) (table : Entries String),
      path ∈ Entries.keys (entries.foldl (fun errors entry => errors.putNew entry.1 entry.2) table)
        ↔ path ∈ Entries.keys table ∨ path ∈ entries.map (·.1) := by
    intro entries
    induction entries with
    | nil => simp
    | cons entry rest ih =>
      intro table
      rw [List.foldl_cons, ih, Entries.mem_keys_putNew, List.map_cons, List.mem_cons, or_assoc]
  rw [messages, hkeys, List.map_append, List.mem_append, List.map_map]
  simp [Entries.keys]

variable {v : Validator} {data output : Object}

theorem messages_eq_nil_iff {first : List (String × Complaint)} {second : Entries String} :
    messages first second = [] ↔ first = [] ∧ second = [] := by
  have hkeys : messages first second = [] ↔
      ∀ path, path ∉ first.map (·.1) ∧ path ∉ Entries.keys second := by
    simp only [← not_or, ← mem_keys_messages]
    rw [← List.eq_nil_iff_forall_not_mem, Entries.keys, List.map_eq_nil_iff]
  rw [hkeys, forall_and, ← List.eq_nil_iff_forall_not_mem, ← List.eq_nil_iff_forall_not_mem,
    List.map_eq_nil_iff, Entries.keys, List.map_eq_nil_iff]

/-- The second pass has nothing to say exactly if no rule is broken. -/
theorem secondPass_eq_nil_iff :
    v.secondPass data = [] ↔ ∀ r ∈ v.conditional, r.isBroken (.object data) = false := by
  rw [secondPass, Entries.ofPairs_eq_nil_iff, List.map_eq_nil_iff, List.filter_eq_nil_iff]
  simp only [Bool.not_eq_true]

/-- **Data is accepted exactly if neither pass has anything to say.** -/
theorem validate_eq_valid_iff :
    v.validate data = .valid output ↔
      (v.firstPass data).complaints = [] ∧
      (∀ r ∈ v.conditional, r.isBroken (.object data) = false) ∧
      (v.firstPass data).output = output := by
  rw [← secondPass_eq_nil_iff, ← and_assoc, ← messages_eq_nil_iff]
  simp only [validate]
  split
  · next hnone => rw [Verdict.valid.injEq, and_iff_right hnone]
  · next hsome => exact ⟨nofun, fun h => absurd h.1 hsome⟩

theorem firstPass_of_valid (h : v.validate data = .valid output) :
    (v.firstPass data).complaints = [] ∧ (v.firstPass data).output = output :=
  (validate_eq_valid_iff.mp h).imp_right And.right

theorem hasPlainNames_runAll {checks : List Check} (hfit : Check.FitAll parent items checks)
    (hnames : ∀ item ∈ items, IsName item.id) (d : Object) :
    Path.HasPlainNames (Check.runAll d checks).output := by
  have hids : ∀ entry ∈ (Check.runAll d checks).output, ∃ item ∈ items, entry.1 = item.id := by
    induction hfit with
    | nil => nofun
    | field hfits hrest ih =>
      intro entry hentry
      rcases List.mem_append.mp hentry with h | h
      · exact ⟨_, List.mem_cons_self, (Check.id_of_mem_output h).trans hfits.id_eq⟩
      · obtain ⟨item, hitem, hid⟩ := ih (fun i hi => hnames i (List.mem_cons_of_mem _ hi)) entry h
        exact ⟨item, List.mem_cons_of_mem _ hitem, hid⟩
    | group hinner hrest ihInner ih =>
      intro entry hentry
      rcases List.mem_append.mp hentry with h | h
      · exact ⟨_, List.mem_cons_self, Check.id_of_mem_output h⟩
      · obtain ⟨item, hitem, hid⟩ := ih (fun i hi => hnames i (List.mem_cons_of_mem _ hi)) entry h
        exact ⟨item, List.mem_cons_of_mem _ hitem, hid⟩
  intro name hname
  obtain ⟨entry, hentry, rfl⟩ := List.mem_map.mp hname
  obtain ⟨item, hitem, hid⟩ := hids entry hentry
  rw [hid]
  exact (hnames item hitem).2

/-- **Accepted data satisfies every required field** that is given. -/
theorem required_of_valid (h : Item.WellNamed items) (hbuild : build items = .ok v)
    (hvalid : v.validate data = .valid output) (hnode : node ∈ Item.nodes items)
    (hf : node.item = .field f) (hreq : f.isRequired = true) (hgiven : node.IsGiven items data) :
    f.isSatisfiedBy (Path.read (.object output) node.path) = true := by
  obtain ⟨hitems, hfit⟩ := fitAll_of_build hbuild
  obtain ⟨hclean, houtput⟩ := firstPass_of_valid hvalid
  rw [firstPass, hitems] at hclean houtput
  have hgivenIn : node.IsGivenIn "" items (Item.complete data items) := by
    intro g hg hgoverns hgated way hway
    rw [Item.descend?_complete h.atTop data hg (Or.inr hgated) hway]
    rw [Path.segments_empty, List.nil_append] at hway
    exact hway ▸ hgiven g hg hgoverns hgated
  obtain ⟨w, hw, hsat⟩ := required_of_runAll hfit h.atTop hclean hnode hf hreq hgivenIn
    (show Path.segments node.path = Path.segments "" ++ Path.segments node.path by
      rw [Path.segments_empty]; rfl)
  have hnames : ∀ item ∈ items, IsName item.id :=
    fun item hitem => h.names _ (Item.mem_walkList_of_mem hitem)
  have hplain := hasPlainNames_runAll hfit hnames (Item.complete data items)
  rw [houtput] at hplain hw
  rw [Path.read_of_plain hplain (h.isWhole hnode), hw]
  exact hsat

end Validator

end DynamicForms
