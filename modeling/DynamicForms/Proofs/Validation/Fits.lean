import DynamicForms.Proofs.Schema.Identifiers
import DynamicForms.Validation.Validator

/-!
# `DynamicForms.Proofs.Validation.Fits` — the checks of a form mirror its items

The checks of a form are made in one walk over its items, which also collects the rules with a
condition. What is said about the checks themselves needs none of that: a check *fits* an item if it
has its name and path, may be left out exactly if the item may, and asks what the unconditional rules
of the field say.

## Contents
- `FieldCheck.Fits`, `Check.FitAll`.
- `made_of_readyRules`, `exists_ready_of_buildField`, `exists_plan_of_build`: what the parts are made of;
  `fitAll_of_buildItems`.
- **Rules with a condition.** `ConditionalRule.IsOf`, `conditional_of_buildItems`.
-/

namespace DynamicForms

/-- Rules made ready for the unconditional rules of a field. -/
structure ReadyFor (f : Field) (rules : List ReadyRule) : Prop where
  /-- They are the rules, in order. -/
  rules_eq : rules.map (·.rule) = f.unconditionalRules
  /-- Each has the check that its rule asks for. -/
  check_eq : ∀ r ∈ rules, r.rule.check? = .ok r.check

/-- The check of a field inside a place asks what the unconditional rules of the field say. -/
structure FieldCheck.Fits (parent : String) (f : Field) (check : FieldCheck) : Prop where
  /-- The name of the field. -/
  id_eq : check.id = f.id
  /-- The path of the field. -/
  path_eq : check.path = Path.join parent f.id
  /-- Whether the field may be missing. -/
  optional_eq : check.optional = f.isOptional
  /-- What is asked. -/
  base_eq : ∃ shown rules, check.base = f.baseCheck shown rules ∧ ReadyFor f rules

/-- The checks of some items inside a place, one by one. -/
inductive Check.FitAll : String → List Item → List Check → Prop
  /-- No items, no checks. -/
  | nil {parent} : FitAll parent [] []
  /-- A field first. -/
  | field {parent f check rest checks} (h : FieldCheck.Fits parent f check)
      (hrest : FitAll parent rest checks) :
      FitAll parent (.field f :: rest) (.field check :: checks)
  /-- A group first. -/
  | group {parent g inner innerChecks rest checks}
      (hinner : FitAll (Path.join parent g.id) inner innerChecks)
      (hrest : FitAll parent rest checks) :
      FitAll parent (.group g inner :: rest)
        (.group ⟨g.id, Path.join parent g.id, g.showWhen.isSome⟩ innerChecks :: checks)

/-- How a first rule is made ready. -/
theorem readyRules_cons {path : String} {index : Nat} {rule : Rule} {rest : List Rule}
    {ready : List ReadyRule} (h : readyRules path index (rule :: rest) = .ok ready) :
    ∃ check more, rule.check? = .ok check ∧ readyRules path (index + 1) rest = .ok more ∧
      ready = ⟨rule, check⟩ :: more := by
  obtain ⟨check, hcheck, h⟩ := bind_eq_ok_iff.mp h
  obtain ⟨more, hmore, h⟩ := bind_eq_ok_iff.mp h
  cases h
  cases hrule : rule.check? with
  | error e =>
    rw [hrule] at hcheck
    cases hcheck
  | ok found =>
    rw [hrule] at hcheck
    cases hcheck
    exact ⟨check, more, rfl, hmore, rfl⟩

/-- **Rules are made ready** one by one, each with the check that it asks for. -/
theorem made_of_readyRules {path : String} {index : Nat} {rules : List Rule}
    {ready : List ReadyRule} (h : readyRules path index rules = .ok ready) :
    ready.map (·.rule) = rules ∧ ∀ r ∈ ready, r.rule.check? = .ok r.check := by
  induction rules generalizing index ready with
  | nil =>
    cases h
    exact ⟨rfl, List.forall_mem_nil _⟩
  | cons rule rest ih =>
    obtain ⟨check, more, hcheck, hmore, rfl⟩ := readyRules_cons h
    obtain ⟨hrules, hchecks⟩ := ih hmore
    exact ⟨congrArg (rule :: ·) hrules, List.forall_mem_cons.mpr ⟨hcheck, hchecks⟩⟩

section

variable {parent : String} {gated : Bool} {plan plan' : Plan} {f : Field} {check : FieldCheck}

/-- What is made of a field: its rules are made ready, those without a condition are for its check, and
    the others are kept aside. -/
theorem exists_ready_of_buildField (h : buildField parent gated plan f = .ok (check, plan')) :
    ∃ ready, readyRules (Path.join parent f.id) 0 f.ruleList = .ok ready ∧
      (∃ shown, check = ⟨f.id, Path.join parent f.id, f.isOptional,
        f.baseCheck shown (ready.filter (·.rule.condition.isNone))⟩) ∧
      plan'.conditional = plan.conditional
        ++ conditionalRules (Path.join parent f.id) parent (gated || f.isConditional) ready := by
  obtain ⟨ready, hready, h⟩ := bind_eq_ok_iff.mp h
  cases h
  exact ⟨ready, hready, ⟨_, rfl⟩, rfl⟩

theorem fits_of_buildField (h : buildField parent gated plan f = .ok (check, plan')) :
    FieldCheck.Fits parent f check := by
  obtain ⟨ready, hready, ⟨shown, rfl⟩, -⟩ := exists_ready_of_buildField h
  obtain ⟨hrules, hchecks⟩ := made_of_readyRules hready
  refine ⟨rfl, rfl, rfl, shown, _, rfl, ?_, fun r hr => hchecks r (List.mem_filter.mp hr).1⟩
  rw [Field.unconditionalRules, ← hrules, List.filter_map]
  rfl

end

section

variable {parent : String} {gated : Bool} {plan plan' : Plan} {rest : List Item}
  {checks : List Check}

/-- How the checks of a field and what follows it are made. -/
theorem buildItems_field {f : Field}
    (h : buildItems parent gated plan (.field f :: rest) = .ok (checks, plan')) :
    ∃ check between more, buildField parent gated plan f = .ok (check, between) ∧
      buildItems parent gated between rest = .ok (more, plan') ∧ checks = .field check :: more := by
  obtain ⟨⟨first, between⟩, hfirst, h⟩ := bind_eq_ok_iff.mp h
  obtain ⟨⟨more, last⟩, hrest, h⟩ := bind_eq_ok_iff.mp h
  obtain ⟨⟨check, after⟩, hfield, hcheck⟩ := bind_eq_ok_iff.mp hfirst
  cases hcheck
  cases h
  exact ⟨check, between, more, hfield, hrest, rfl⟩

/-- How the checks of a group and what follows it are made. -/
theorem buildItems_group {g : GroupHeader} {inner : List Item}
    (h : buildItems parent gated plan (.group g inner :: rest) = .ok (checks, plan')) :
    ∃ inside between more,
      buildItems (Path.join parent g.id) (gated || g.showWhen.isSome) plan inner
        = .ok (inside, between) ∧
      buildItems parent gated between rest = .ok (more, plan') ∧
      checks = .group ⟨g.id, Path.join parent g.id, g.showWhen.isSome⟩ inside :: more := by
  obtain ⟨⟨first, between⟩, hfirst, h⟩ := bind_eq_ok_iff.mp h
  obtain ⟨⟨more, last⟩, hrest, h⟩ := bind_eq_ok_iff.mp h
  obtain ⟨⟨inside, after⟩, hinner, hcheck⟩ := bind_eq_ok_iff.mp hfirst
  cases hcheck
  cases h
  exact ⟨inside, between, more, hinner, hrest, rfl⟩

/-- **The checks that are made fit the items.** -/
theorem fitAll_of_buildItems {items : List Item}
    (h : buildItems parent gated plan items = .ok (checks, plan')) :
    Check.FitAll parent items checks := by
  -- the plan grows from item to item, and no check depends on it
  induction items using Item.forestInduction generalizing parent gated plan plan' checks with
  | nil =>
    simp only [buildItems, Except.ok.injEq, Prod.mk.injEq] at h
    rw [← h.1]
    exact Check.FitAll.nil
  | field f rest ih =>
    obtain ⟨check, between, more, hfield, hrest, rfl⟩ := buildItems_field h
    exact Check.FitAll.field (fits_of_buildField hfield) (ih hrest)
  | group g inner rest ihInner ih =>
    obtain ⟨inside, between, more, hinner, hrest, rfl⟩ := buildItems_group h
    exact Check.FitAll.group (ihInner hinner) (ih hrest)

end

/-- What a validator is made of. -/
theorem exists_plan_of_build {items : List Item} {v : Validator} (h : Validator.build items = .ok v) :
    ∃ plan, buildItems "" false ⟨[], []⟩ items = .ok (v.checks, plan) ∧ v.items = items ∧
      v.conditional = plan.conditional := by
  obtain ⟨⟨checks, plan⟩, hbuild, h⟩ := bind_eq_ok_iff.mp h
  cases h
  exact ⟨plan, hbuild, rfl, rfl⟩

theorem fitAll_of_build {items : List Item} {v : Validator} (h : Validator.build items = .ok v) :
    v.items = items ∧ Check.FitAll "" items v.checks := by
  obtain ⟨plan, hbuild, hitems, -⟩ := exists_plan_of_build h
  exact ⟨hitems, fitAll_of_buildItems hbuild⟩

/-! ## Rules with a condition -/

/-- A rule with a condition is one of the rules of a field, and knows where the field stands. -/
def ConditionalRule.IsOf (r : ConditionalRule) (node : Node) : Prop :=
  ∃ f, node.item = .field f ∧ node.path = r.path ∧ node.parent = r.parent ∧
    ∃ rule ∈ f.ruleList, rule.condition = some r.condition

theorem isOf_of_mem_conditionalRules {parent : String} {gated : Bool} {f : Field}
    {rules : List ReadyRule} (hrules : rules.map (·.rule) = f.ruleList) {r : ConditionalRule}
    (h : r ∈ conditionalRules (Path.join parent f.id) parent gated rules) :
    r.IsOf ⟨.field f, Path.join parent f.id, parent⟩ := by
  obtain ⟨ready, hready, hr⟩ := List.mem_filterMap.mp h
  obtain ⟨c, hc, rfl⟩ := Option.map_eq_some_iff.mp hr
  exact ⟨f, rfl, rfl, rfl, ready.rule, hrules ▸ List.mem_map_of_mem hready, hc⟩

/-- The rules with a condition that a field adds to a plan are its own. -/
theorem conditional_of_buildField {parent : String} {gated : Bool} {plan plan' : Plan} {f : Field}
    {check : FieldCheck} (h : buildField parent gated plan f = .ok (check, plan'))
    {r : ConditionalRule} (hr : r ∈ plan'.conditional) :
    r ∈ plan.conditional ∨ r.IsOf ⟨.field f, Path.join parent f.id, parent⟩ := by
  obtain ⟨ready, hready, -, hplan⟩ := exists_ready_of_buildField h
  rw [hplan] at hr
  exact (List.mem_append.mp hr).imp_right (isOf_of_mem_conditionalRules (made_of_readyRules hready).1)

/-- **The rules with a condition are rules of the fields** of the walk. -/
theorem conditional_of_buildItems {parent : String} {gated : Bool} {plan plan' : Plan}
    {items : List Item} {checks : List Check}
    (h : buildItems parent gated plan items = .ok (checks, plan')) {r : ConditionalRule}
    (hr : r ∈ plan'.conditional) :
    r ∈ plan.conditional ∨ ∃ node ∈ Item.walkList parent items, r.IsOf node := by
  induction items using Item.forestInduction generalizing parent gated plan plan' checks with
  | nil =>
    simp only [buildItems, Except.ok.injEq, Prod.mk.injEq] at h
    rw [h.2]
    exact Or.inl hr
  | field f rest ih =>
    obtain ⟨check, between, more, hfield, hrest, -⟩ := buildItems_field h
    rcases ih hrest hr with hplan | ⟨node, hnode, hof⟩
    · exact (conditional_of_buildField hfield hplan).imp_right
        fun hof => ⟨_, Item.mem_walkList_field.mpr (Or.inl rfl), hof⟩
    · exact Or.inr ⟨node, Item.mem_walkList_field.mpr (Or.inr hnode), hof⟩
  | group g inner rest ihInner ih =>
    obtain ⟨inside, between, more, hinner, hrest, -⟩ := buildItems_group h
    rcases ih hrest hr with hplan | ⟨node, hnode, hof⟩
    · refine (ihInner hinner hplan).imp_right ?_
      rintro ⟨node, hnode, hof⟩
      exact ⟨node, Item.mem_walkList_group.mpr (Or.inr (Or.inl hnode)), hof⟩
    · exact Or.inr ⟨node, Item.mem_walkList_group.mpr (Or.inr (Or.inr hnode)), hof⟩

theorem conditional_of_build {items : List Item} {v : Validator} (h : Validator.build items = .ok v)
    {r : ConditionalRule} (hr : r ∈ v.conditional) : ∃ node ∈ Item.nodes items, r.IsOf node := by
  obtain ⟨plan, hbuild, -, hplan⟩ := exists_plan_of_build h
  rw [hplan] at hr
  exact (conditional_of_buildItems hbuild hr).resolve_left List.not_mem_nil

end DynamicForms
