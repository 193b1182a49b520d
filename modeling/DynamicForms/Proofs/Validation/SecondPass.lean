import DynamicForms.Proofs.Validation.MissingGroups
import DynamicForms.Proofs.Value.Order

/-!
# `DynamicForms.Proofs.Validation.SecondPass` — what the second pass says, without its rules made ready

The rules with a condition are collected while the checks are made, each with its place and a flag that is
passed down from group to group, and looked at later against the whole data. Here the same is said directly
of the items and the data. A rule of a field *is broken* if its condition is met, its field is not merely
missing though it or a group around it can be hidden, and it does not pass what stands at the field.

What the first pass complains about keeps its first complaint. Everywhere else there is a message exactly if
a rule with a condition is broken that stands on the field there, and the last such rule speaks.

## Contents
- **Tables of messages.** `Entries.get?_ofPairs`, `Validator.get?_messages`.
- **Conditions.** `RuleCondition.compared`, `RuleCondition.IsMet`, `holds_iff`.
- **One field.** `Rule.IsBroken`; `isBroken_iff`, `filter_isBroken`.
- **All fields.** `filter_conditional_of_not_mem`, `Node.IsShelteredIn`, `filter_conditional_of_mem`.
- **The second pass.** `get?_secondPass`, `Validator.SecondPassReads`, `Validator.secondPass_reads`.
-/

namespace DynamicForms

open Value (Object)

/-! ## Tables of messages -/

namespace Entries

variable {α : Type}

theorem get?_merge (table more : Entries α) (key : String) :
    get? (merge table more) key
      = (((more.filter (·.1 == key)).getLast?).map (·.2)).or (get? table key) := by
  induction more generalizing table with
  | nil => rfl
  | cons entry rest ih =>
    obtain ⟨name, v⟩ := entry
    rw [merge_cons, ih]
    by_cases hname : name = key
    · subst hname
      rw [get?_put_self, List.filter_cons_of_pos (by simp), List.getLast?_cons]
      cases (rest.filter (·.1 == name)).getLast? <;> rfl
    · rw [get?_put_of_ne (Ne.symm hname), List.filter_cons_of_neg (by simpa using hname)]

/-- **In a table of pairs the last pair of a name counts.** -/
theorem get?_ofPairs (pairs : List (String × α)) (key : String) :
    get? (ofPairs pairs) key = ((pairs.filter (·.1 == key)).getLast?).map (·.2) := by
  rw [ofPairs, get?_merge, get?_nil, Option.or_none]

theorem get?_putNew (table : Entries α) (name key : String) (v : α) :
    get? (putNew table name v) key = (get? table key).or (if name = key then some v else none) := by
  unfold putNew
  split
  · next hthere =>
    split
    · next heq =>
      subst heq
      obtain ⟨old, hold⟩ := Option.isSome_iff_exists.mp hthere
      rw [hold, Option.some_or]
    · rw [Option.or_none]
  · next hfresh =>
    have hnone : get? table name = none := by simpa [contains] using hfresh
    by_cases heq : name = key
    · subst heq
      rw [get?_put_self, hnone, if_pos rfl, Option.none_or]
    · rw [get?_put_of_ne (Ne.symm heq), if_neg heq, Option.or_none]

theorem get?_foldl_putNew (entries : List (String × α)) (table : Entries α) (key : String) :
    get? (entries.foldl (fun t entry => t.putNew entry.1 entry.2) table) key
      = (get? table key).or (get? entries key) := by
  induction entries generalizing table with
  | nil => rw [List.foldl_nil, get?_nil, Option.or_none]
  | cons entry rest ih =>
    obtain ⟨name, v⟩ := entry
    rw [List.foldl_cons, ih, get?_putNew, Option.or_assoc]
    by_cases heq : name = key
    · subst heq
      rw [if_pos rfl, get?_cons_self, Option.some_or]
    · rw [if_neg heq, get?_cons_of_ne heq, Option.none_or]

end Entries

/-- **The first complaint about a path is its message**; a path without complaints has the message of the
second pass, if any. -/
theorem Validator.get?_messages (first : List (String × Complaint)) (second : Entries String)
    (path : String) :
    Entries.get? (messages first second) path
      = ((Entries.get? first path).map Complaint.message).or (Entries.get? second path) := by
  rw [messages, Entries.get?_foldl_putNew, Entries.get?_nil, Option.none_or, Entries.get?_append,
    Entries.get?_map]

/-! ## Conditions -/

namespace RuleCondition

/-- The value that the condition of a rule compares: what stands at its path, or, only if that is missing,
what stands at its path inside the group of the rule's field. -/
def compared (c : RuleCondition) (data : Value) (parent : String) : Value :=
  if (Path.read data c.field).isAbsent then Path.read data (Path.join parent c.field)
  else Path.read data c.field

/-- What is compared is, or is not, strictly equal to the value of the condition. -/
def IsMet (c : RuleCondition) (data : Value) (parent : String) : Prop :=
  match c.operator with
  | .equals => (c.compared data parent).strictlyEqual c.value.toValue = true
  | .notEquals => (c.compared data parent).strictlyEqual c.value.toValue = false

variable {c : RuleCondition} {data : Value} {parent : String}

theorem operand_eq_compared : c.operand data parent = c.compared data parent := by
  unfold operand compared
  cases hread : Path.read data c.field with
  | absent =>
    simp only [Value.isAbsent, if_true]
    split
    · next hsame => rw [beq_iff_eq.mp hsame, hread]
    · rfl
  | _ => rfl

theorem holds_iff : c.holds data parent = true ↔ c.IsMet data parent := by
  rw [holds, IsMet, operand_eq_compared]
  cases c.operator <;> simp

end RuleCondition

/-! ## One field -/

/-- A rule with a condition that stands on a field is broken by some data. -/
structure Rule.IsBroken (items : List Item) (data : Object) (node : Node) (f : Field) (rule : Rule) :
    Prop where
  /-- Its condition is met. -/
  active : ∃ c, rule.condition = some c ∧ c.IsMet (.object data) node.parent
  /-- The field is not missing, unless neither it nor a group around it can be hidden. -/
  considered : ¬ (Path.read (.object data) node.path = .absent ∧
    (f.isConditional = true ∨ node.IsSheltered items))
  /-- The rule does not pass what stands at the field. -/
  fails : rule.passes (Path.read (.object data) node.path) = false

/-- Rules made ready for all the rules of a field. -/
structure Field.MadeReady (f : Field) (ready : List ReadyRule) : Prop where
  /-- They are the rules, in order. -/
  rules_eq : ready.map (·.rule) = f.ruleList
  /-- Each has the check that its rule asks for. -/
  check_eq : ∀ r ∈ ready, r.rule.check? = .ok r.check

section

variable {items : List Item} {data : Object} {node : Node} {f : Field} {hidden : Bool}
  {ready : List ReadyRule}

/-- A rule kept aside is broken exactly if the rule of the field is. -/
theorem isBroken_iff (hhidden : hidden = true ↔ f.isConditional = true ∨ node.IsSheltered items)
    {r : ReadyRule} (hr : r.rule.check? = .ok r.check) {c : RuleCondition}
    (hc : r.rule.condition = some c) :
    ConditionalRule.isBroken ⟨node.path, node.parent, r.rule, c, r.check, hidden⟩ (.object data) = true
      ↔ r.rule.IsBroken items data node f := by
  have hpasses : r.rule.passes (Path.read (.object data) node.path)
      = r.check.passes (Path.read (.object data) node.path) := by
    rw [Rule.passes, hr]
  simp only [ConditionalRule.isBroken, ConditionalRule.applies, Bool.and_eq_true, Bool.not_eq_true',
    RuleCondition.holds_iff, Bool.and_eq_false_iff]
  constructor
  · rintro ⟨⟨hmet, hconsidered⟩, hfails⟩
    refine ⟨⟨c, hc, hmet⟩, ?_, hpasses.trans hfails⟩
    rintro ⟨habsent, hcan⟩
    rw [hhidden.mpr hcan, habsent] at hconsidered
    simp [Value.isAbsent] at hconsidered
  · rintro ⟨⟨c', hc', hmet⟩, hconsidered, hfails⟩
    obtain rfl : c = c' := Option.some.inj (hc.symm.trans hc')
    refine ⟨⟨hmet, ?_⟩, hpasses.symm.trans hfails⟩
    rw [← Bool.not_eq_true, ← Bool.not_eq_true, hhidden, ← not_and_or, Value.isAbsent_iff, and_comm]
    exact hconsidered

open scoped Classical in
/-- **Of the rules kept aside for a field exactly the broken rules of the field are broken**, in the order
in which the field has them. -/
theorem filter_isBroken (hhidden : hidden = true ↔ f.isConditional = true ∨ node.IsSheltered items)
    (hready : f.MadeReady ready) :
    ((conditionalRules node.path node.parent hidden ready).filter
        (·.isBroken (.object data))).map (·.rule)
      = f.ruleList.filter fun rule => rule.IsBroken items data node f := by
  obtain ⟨hrules, hchecks⟩ := hready
  rw [← hrules]
  clear hrules
  induction ready with
  | nil => rfl
  | cons r rest ih =>
    have hrest := ih fun r' hr' => hchecks r' (List.mem_cons_of_mem _ hr')
    rw [List.map_cons]
    cases hc : r.rule.condition with
    | none =>
      have hnot : ¬ r.rule.IsBroken items data node f := by
        rintro ⟨⟨c, hc', -⟩, -, -⟩
        rw [hc] at hc'
        cases hc'
      rw [List.filter_cons_of_neg (by simpa using hnot), ← hrest, conditionalRules,
        List.filterMap_cons_none (by rw [hc]; rfl), conditionalRules]
    | some c =>
      have hiff : ConditionalRule.isBroken ⟨node.path, node.parent, r.rule, c, r.check, hidden⟩
          (.object data) = true ↔ r.rule.IsBroken items data node f :=
        isBroken_iff hhidden (hchecks r List.mem_cons_self) hc
      rw [conditionalRules, List.filterMap_cons_some (by rw [hc]; rfl), ← conditionalRules]
      by_cases hbroken : r.rule.IsBroken items data node f
      · rw [List.filter_cons, if_pos (hiff.mpr hbroken), List.map_cons, hrest, List.filter_cons,
          if_pos (decide_eq_true hbroken)]
      · rw [List.filter_cons, if_neg (fun h => hbroken (hiff.mp h)), hrest, List.filter_cons,
          if_neg (by simpa using hbroken)]

end

/-! ## All fields -/

section

variable {parent : String} {gated : Bool} {plan plan' : Plan} {items : List Item} {checks : List Check}

/-- What a field adds to the rules kept aside. -/
theorem conditional_of_buildField_eq {f : Field} {check : FieldCheck}
    (h : buildField parent gated plan f = .ok (check, plan')) :
    ∃ ready, f.MadeReady ready ∧ plan'.conditional = plan.conditional
      ++ conditionalRules (Path.join parent f.id) parent (gated || f.isConditional) ready := by
  obtain ⟨ready, hready, -, hplan⟩ := exists_ready_of_buildField h
  obtain ⟨hrules, hchecks⟩ := made_of_readyRules hready
  exact ⟨ready, ⟨hrules, hchecks⟩, hplan⟩

/-- The rules kept aside for a field stand at its path. -/
theorem filter_conditionalRules (path parent : String) (hidden : Bool) (ready : List ReadyRule)
    (place : String) :
    (conditionalRules path parent hidden ready).filter (·.path == place)
      = if path = place then conditionalRules path parent hidden ready else [] := by
  have hpath : ∀ r ∈ conditionalRules path parent hidden ready, r.path = path := by
    intro r hr
    obtain ⟨ready, -, hr⟩ := List.mem_filterMap.mp hr
    obtain ⟨c, -, rfl⟩ := Option.map_eq_some_iff.mp hr
    rfl
  split
  · next heq =>
    rw [List.filter_eq_self]
    intro r hr
    rw [hpath r hr, heq, beq_self_eq_true]
  · next hne =>
    rw [List.filter_eq_nil_iff]
    intro r hr
    rw [hpath r hr, beq_iff_eq]
    exact hne

/-- Where no item stands no rules are kept aside. -/
theorem filter_conditional_of_not_mem (h : buildItems parent gated plan items = .ok (checks, plan'))
    {path : String} (hpath : path ∉ (Item.walkList parent items).map (·.path)) :
    plan'.conditional.filter (·.path == path) = plan.conditional.filter (·.path == path) := by
  induction items using Item.forestInduction generalizing parent gated plan plan' checks with
  | nil =>
    simp only [buildItems, Except.ok.injEq, Prod.mk.injEq] at h
    rw [h.2]
  | field f rest ih =>
    obtain ⟨check, between, more, hfield, hrest, -⟩ := buildItems_field h
    obtain ⟨ready, -, hbetween⟩ := conditional_of_buildField_eq hfield
    rw [Item.walkList_field, List.map_cons, List.mem_cons, not_or] at hpath
    rw [ih hrest hpath.2, hbetween, List.filter_append, filter_conditionalRules,
      if_neg (Ne.symm hpath.1), List.append_nil]
  | group g inner rest ihInner ih =>
    obtain ⟨inside, between, more, hinner, hrest, -⟩ := buildItems_group h
    rw [Item.walkList_group, List.map_cons, List.map_append, List.mem_cons, List.mem_append, not_or,
      not_or] at hpath
    rw [ih hrest hpath.2.2, ihInner hinner hpath.2.1]

/-- Something that can be hidden stands around a node, among some items inside a place. -/
def Node.IsShelteredIn (parent : String) (items : List Item) (node : Node) : Prop :=
  ∃ around ∈ Item.walkList parent items, node ∈ around.inside ∧ around.item.isGated = true

namespace Node.IsShelteredIn

variable {rest inner : List Item} {node : Node} {f : Field} {g : GroupHeader}

theorem mem_paths (h : node.IsShelteredIn parent items) :
    node.path ∈ (Item.walkList parent items).map (·.path) := by
  obtain ⟨around, haround, hin, -⟩ := h
  exact List.mem_map_of_mem (Item.inside_subset haround hin)

/-- What can be hidden around a node is a first item it stands in, or inside that item, or behind it. -/
theorem cons_iff {item : Item} :
    node.IsShelteredIn parent (item :: rest) ↔
      (node ∈ Item.walkList (Path.join parent item.id) item.children ∧ item.isGated = true) ∨
      node.IsShelteredIn (Path.join parent item.id) item.children ∨ node.IsShelteredIn parent rest := by
  simp only [Node.IsShelteredIn, Item.mem_walkList_cons, or_and_right, exists_or, exists_eq_left]
  rfl

/-- Nothing stands in a field. -/
theorem field_iff :
    node.IsShelteredIn parent (.field f :: rest) ↔ node.IsShelteredIn parent rest := by
  have hnone : ∀ x : Node, x ∉ Item.walkList (Path.join parent f.id) (Item.field f).children :=
    fun _ => List.not_mem_nil
  rw [cons_iff]
  constructor
  · rintro (⟨hin, -⟩ | ⟨around, haround, -⟩ | hrest)
    · exact absurd hin (hnone node)
    · exact absurd haround (hnone around)
    · exact hrest
  · exact fun hrest => Or.inr (Or.inr hrest)

theorem group_iff :
    node.IsShelteredIn parent (.group g inner :: rest) ↔
      (node ∈ Item.walkList (Path.join parent g.id) inner ∧ g.showWhen.isSome = true) ∨
      node.IsShelteredIn (Path.join parent g.id) inner ∨ node.IsShelteredIn parent rest :=
  cons_iff

end Node.IsShelteredIn

/-- **For a field its own rules are kept aside**, with whether it or anything around it can be hidden. -/
theorem filter_conditional_of_mem (hbuild : buildItems parent gated plan items = .ok (checks, plan'))
    (h : Item.WellNamedAt parent items) {node : Node} (hnode : node ∈ Item.walkList parent items)
    {f : Field} (hf : node.item = .field f) :
    ∃ ready hidden, f.MadeReady ready ∧
      (hidden = true ↔ gated = true ∨ f.isConditional = true ∨ node.IsShelteredIn parent items) ∧
      plan'.conditional.filter (·.path == node.path) = plan.conditional.filter (·.path == node.path)
        ++ conditionalRules node.path node.parent hidden ready := by
  -- by induction over the forest: where the node does not stand, nothing is added at its path
  induction items using Item.forestInduction generalizing parent gated plan plan' checks with
  | nil => cases hnode
  | field k rest ih =>
    obtain ⟨check, between, more, hfield, hrest, -⟩ := buildItems_field hbuild
    obtain ⟨ready, hready, hbetween⟩ := conditional_of_buildField_eq hfield
    have hfresh : Path.join parent k.id ∉ (Item.walkList parent rest).map (·.path) := h.fresh.2
    rcases Item.mem_walkList_field.mp hnode with rfl | hnode
    · -- the field itself, which nothing behind it is around
      cases hf
      have hfree : ¬ Node.IsShelteredIn parent (.field f :: rest)
          ⟨.field f, Path.join parent f.id, parent⟩ :=
        fun hs => hfresh (Node.IsShelteredIn.field_iff.mp hs).mem_paths
      refine ⟨ready, gated || f.isConditional, hready, ?_, ?_⟩
      · rw [Bool.or_eq_true]
        simp only [hfree, or_false]
      · rw [filter_conditional_of_not_mem hrest hfresh, hbetween, List.filter_append,
          filter_conditionalRules, if_pos rfl]
    · -- behind a field, which adds nothing at another path
      obtain ⟨ready', hidden, hready', hhidden, hfilter⟩ := ih hrest h.behind hnode
      have hne : Path.join parent k.id ≠ node.path :=
        fun heq => hfresh (List.mem_map.mpr ⟨node, hnode, heq.symm⟩)
      refine ⟨ready', hidden, hready', by rw [Node.IsShelteredIn.field_iff]; exact hhidden, ?_⟩
      rw [hfilter, hbetween, List.filter_append, filter_conditionalRules, if_neg hne, List.append_nil]
  | group g inner rest ihInner ih =>
    obtain ⟨inside, between, more, hinner, hrest, -⟩ := buildItems_group hbuild
    rcases Item.mem_walkList_group.mp hnode with rfl | hnode | hnode
    · cases hf
    · -- inside the group, which is around it and can be hidden or not
      have hfresh : node.path ∉ (Item.walkList parent rest).map (·.path) :=
        h.disjoint (List.mem_map_of_mem hnode)
      have hfree : ¬ node.IsShelteredIn parent rest := fun hs => hfresh hs.mem_paths
      obtain ⟨ready, hidden, hready, hhidden, hfilter⟩ :=
        ihInner hinner (h.inside List.mem_cons_self) hnode
      refine ⟨ready, hidden, hready, ?_, ?_⟩
      · rw [hhidden, Node.IsShelteredIn.group_iff, Bool.or_eq_true, or_assoc,
          or_left_comm (a := f.isConditional = true)]
        simp only [hnode, true_and, hfree, or_false]
      · rw [filter_conditional_of_not_mem hrest hfresh, hfilter]
    · -- behind the group, which adds nothing at another path and is not around it
      have hfresh : node.path ∉ (Item.walkList (Path.join parent g.id) inner).map (·.path) :=
        fun hmem => h.disjoint hmem (List.mem_map_of_mem hnode)
      have hfree : ¬ node.IsShelteredIn (Path.join parent g.id) inner := fun hs =>
        hfresh hs.mem_paths
      have houtside : node ∉ Item.walkList (Path.join parent g.id) inner := fun hin =>
        hfresh (List.mem_map_of_mem hin)
      obtain ⟨ready, hidden, hready, hhidden, hfilter⟩ := ih hrest h.behind hnode
      refine ⟨ready, hidden, hready, ?_, ?_⟩
      · rw [hhidden, Node.IsShelteredIn.group_iff]
        simp only [houtside, false_and, hfree, false_or]
      · rw [hfilter, filter_conditional_of_not_mem hinner hfresh]

end

/-! ## The second pass -/

namespace Validator

/-- What the verdict on some data says, read off the first pass, the items of the form and the data. -/
structure SecondPassReads (v : Validator) (items : List Item) (data : Object) : Prop where
  /-- What the first pass complains about has its first complaint as its message. -/
  first : ∀ front path complaint back,
    (v.firstPass data).complaints = front ++ (path, complaint) :: back → path ∉ front.map (·.1) →
    Entries.get? (v.validate data).errors path = some complaint.message
  /-- Any other path has a message exactly if a rule with a condition is broken that stands on the field
  there. -/
  mem_iff : ∀ path, path ∉ (v.firstPass data).places →
    (path ∈ Entries.keys (v.validate data).errors ↔
      ∃ node ∈ Item.nodes items, node.path = path ∧ ∃ f, node.item = .field f ∧
        ∃ rule ∈ f.ruleList, rule.IsBroken items data node f)
  /-- The last such rule speaks. -/
  last : ∀ node ∈ Item.nodes items, node.path ∉ (v.firstPass data).places →
    ∀ f, node.item = .field f → ∀ front rule back, f.ruleList = front ++ rule :: back →
      rule.IsBroken items data node f → (∀ later ∈ back, ¬ later.IsBroken items data node f) →
      Entries.get? (v.validate data).errors node.path = some rule.message
  /-- The data is in order exactly if there are no messages. -/
  valid_iff : (v.validate data).isValid = true ↔ (v.validate data).errors = []

variable {v : Validator} {items : List Item} {data : Object} {node : Node} {f : Field}

/-- The rules kept aside for a field of a form. -/
theorem filter_conditional_of_build (h : Item.WellNamed items) (hbuild : build items = .ok v)
    (hnode : node ∈ Item.nodes items) (hf : node.item = .field f) :
    ∃ ready hidden, f.MadeReady ready ∧
      (hidden = true ↔ f.isConditional = true ∨ node.IsSheltered items) ∧
      v.conditional.filter (·.path == node.path)
        = conditionalRules node.path node.parent hidden ready := by
  obtain ⟨plan, hitems, -, hplan⟩ := exists_plan_of_build hbuild
  obtain ⟨ready, hidden, hready, hhidden, hfilter⟩ :=
    filter_conditional_of_mem hitems h.atTop hnode hf
  refine ⟨ready, hidden, hready, ?_, by rw [hplan, hfilter]; rfl⟩
  rw [hhidden]
  simp only [Bool.false_eq_true, false_or]
  rfl

open scoped Classical in
/-- **The last broken rule of a field speaks in the second pass.** -/
theorem get?_secondPass (h : Item.WellNamed items) (hbuild : build items = .ok v) (data : Object)
    (hnode : node ∈ Item.nodes items) (hf : node.item = .field f) :
    Entries.get? (v.secondPass data) node.path
      = ((f.ruleList.filter fun rule => rule.IsBroken items data node f).getLast?).map (·.message) := by
  obtain ⟨ready, hidden, hready, hhidden, hfilter⟩ := filter_conditional_of_build h hbuild hnode hf
  have hbroken : (v.conditional.filter (·.isBroken (.object data))).filter (·.path == node.path)
      = (conditionalRules node.path node.parent hidden ready).filter (·.isBroken (.object data)) := by
    rw [List.filter_comm, hfilter]
  rw [secondPass, Entries.get?_ofPairs, List.filter_map]
  show ((((v.conditional.filter (·.isBroken (.object data))).filter (·.path == node.path)).map
    fun r => (r.path, r.rule.message)).getLast?).map (·.2) = _
  rw [hbroken, ← filter_isBroken hhidden hready, List.getLast?_map, List.getLast?_map, Option.map_map,
    Option.map_map]
  rfl

/-- Where the first pass is silent the second one speaks. -/
theorem get?_errors_of_silent {path : String} (hsilent : path ∉ (v.firstPass data).places) :
    Entries.get? (v.validate data).errors path = Entries.get? (v.secondPass data) path := by
  rw [errors_validate, get?_messages, (Entries.get?_eq_none_iff _ _).mpr hsilent, Option.map_none,
    Option.none_or]

/-- **The second pass is what the items of the form say about the data.** -/
theorem secondPass_reads (h : Item.WellNamed items) (hbuild : build items = .ok v) (data : Object) :
    v.SecondPassReads items data := by
  classical
  refine ⟨?_, ?_, ?_, ?_⟩
  · -- of what the first pass says about a place, the first stays, whatever the second pass says
    intro front path complaint back hcomplaints hfresh
    have hget : Entries.get? (v.firstPass data).complaints path = some complaint := by
      rw [hcomplaints, Entries.get?_append, (Entries.get?_eq_none_iff front path).mpr hfresh,
        Option.none_or, Entries.get?_cons_self]
    rw [errors_validate, get?_messages, hget, Option.map_some, Option.some_or]
  · -- elsewhere there is a message exactly where a rule is broken
    intro path hsilent
    rw [errors_validate, mem_keys_messages, or_iff_right (by exact hsilent)]
    constructor
    · intro hsecond
      obtain ⟨node, hnode, hfield, rfl⟩ := exists_field_of_secondPass hbuild hsecond
      obtain ⟨f, hf⟩ : ∃ f, node.item = .field f := by
        cases hitem : node.item with
        | field f => exact ⟨f, rfl⟩
        | group g inner =>
          rw [hitem] at hfield
          cases hfield
      have hsome : Entries.get? (v.secondPass data) node.path ≠ none := fun hnone =>
        (Entries.get?_eq_none_iff _ _).mp hnone hsecond
      rw [get?_secondPass h hbuild data hnode hf, Ne, Option.map_eq_none_iff, List.getLast?_eq_none_iff]
        at hsome
      obtain ⟨rule, hrule⟩ := List.exists_mem_of_ne_nil _ hsome
      obtain ⟨hmem, hbroken⟩ := List.mem_filter.mp hrule
      exact ⟨node, hnode, rfl, f, hf, rule, hmem, of_decide_eq_true hbroken⟩
    · rintro ⟨node, hnode, rfl, f, hf, rule, hmem, hbroken⟩
      have hrule : rule ∈ f.ruleList.filter fun rule => rule.IsBroken items data node f :=
        List.mem_filter.mpr ⟨hmem, decide_eq_true hbroken⟩
      by_contra hnone
      rw [← Entries.get?_eq_none_iff, get?_secondPass h hbuild data hnode hf, Option.map_eq_none_iff,
        List.getLast?_eq_none_iff] at hnone
      rw [hnone] at hrule
      cases hrule
  · -- and it is that of the last one
    intro node hnode hsilent f hf front rule back hrules hbroken hlater
    have hback : back.filter (fun rule => decide (rule.IsBroken items data node f)) = [] := by
      rw [List.filter_eq_nil_iff]
      intro later hmem
      simpa using hlater later hmem
    rw [get?_errors_of_silent hsilent, get?_secondPass h hbuild data hnode hf, hrules,
      List.filter_append, List.filter_cons, if_pos (decide_eq_true hbroken), hback,
      List.getLast?_concat, Option.map_some]
  · cases hverdict : v.validate data with
    | valid output => simp [Verdict.isValid, Verdict.errors]
    | invalid errors =>
      have hne : errors ≠ [] := by
        rintro rfl
        have herrors : (v.validate data).errors = [] := by rw [hverdict]; rfl
        rw [validate_of_errors_eq_nil herrors] at hverdict
        cases hverdict
      simp [Verdict.isValid, Verdict.errors, hne]

/-! ## A form with rules that have conditions -/

/-- A tax number, which is longer for businesses, and longer still in Germany. -/
def taxField : Field :=
  { (default : Field) with
    id := "taxId"
    rules := some [
      ⟨.minLength, some (.int 5), "At least five characters", some ⟨"kind", .equals, .text "business"⟩⟩,
      ⟨.minLength, some (.int 9), "At least nine characters", some ⟨"country", .equals, .text "de"⟩⟩] }

/-- The country and the tax number of a company. -/
def taxItems : List Item :=
  [.group { (default : GroupHeader) with id := "company" }
    [.field { (default : Field) with id := "country" }, .field taxField]]

/-- The form made ready. -/
def taxValidator : Validator :=
  (build taxItems).toOption.getD default

/-- A German business: both conditions are met, the second inside the group, and the second rule speaks. -/
theorem secondPass_reads_tax :
    (taxValidator.validate [("kind", .text "business"),
      ("company", .object [("country", .text "de"), ("taxId", .text "1234")])]).errors
        = [("company.taxId", "At least nine characters")] ∧
      taxValidator.SecondPassReads taxItems [("kind", .text "business"),
        ("company", .object [("country", .text "de"), ("taxId", .text "1234")])] :=
  ⟨by decide +kernel, secondPass_reads ⟨by decide +kernel, by decide +kernel⟩
    (build_of_isSome (by decide +kernel)) _⟩

end Validator

end DynamicForms
