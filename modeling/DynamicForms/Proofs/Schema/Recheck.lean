import DynamicForms.Proofs.Schema.Reread

/-!
# `DynamicForms.Proofs.Schema.Recheck` — the value of an accepted schema has the right shape

The check of a document's shape and the reader go over the same items in the same order. Most of what the
check asks for a value of a schema has by its form: labels, titles and messages are texts, kinds and
operators go by their names, lists are lists. Two things it has because the document was accepted: every
identifier is new when it is met, and a choice has options. So the check goes over the value with the same
list of identifiers met as over the document.

## Contents
- **Parts.** What the value of each part passes: `rules_of_get?`, `showWhen_of_get?`, …, `field_of_entered`,
  `group_of_entered`.
- **Items.** `item_field`, `item_group`, `Accepted.itemsFrom_toValues`; `Schema.document_toValue`.
-/

namespace DynamicForms

open Value (Object)

namespace Shape

variable {fields : Object} {name path : String} {v : Value}

/-! ## Parts -/

theorem entryOf_of_get? (h : fields.get? name = some v) : entryOf fields name = v := by
  rw [entryOf, h, Option.getD_some]

theorem entryOf_of_map {α : Type} {toValue : α → Value} {part : Option α}
    (h : fields.get? name = part.map toValue) : entryOf fields name = (part.map toValue).getD .null := by
  rw [entryOf, h]

theorem hasText_of_get? {s : String} (h : fields.get? name = some (.text s)) :
    hasText fields name = true := by
  rw [hasText, entryOf_of_get? h]
  rfl

theorem hasOneOf_of_get? {s : String} {texts : List String} (h : fields.get? name = some (.text s))
    (hs : s ∈ texts) : hasOneOf fields name texts = true := by
  simp only [hasOneOf, entryOf_of_get? h, List.contains_iff_mem, hs]

theorem contains_of_get? (h : fields.get? name = some v) : fields.contains name = true := by
  rw [Entries.contains, h]
  rfl

theorem demand_of_true {holds : Bool} {flaw : ShapeFlaw} (h : holds = true) :
    demand holds path flaw = .ok () := by
  rw [demand, if_pos h]

theorem eachFrom_map {α : Type} {toValue : α → Value} {check : Nat → Value → Checked Unit} {as : List α}
    (h : ∀ index, ∀ a ∈ as, check index (toValue a) = .ok ()) (index : Nat) :
    eachFrom check index (as.map toValue) = .ok () := by
  induction as generalizing index with
  | nil => rfl
  | cons a as ih =>
    have hrest := ih (fun i b hb => h i b (List.mem_cons_of_mem _ hb)) (index + 1)
    rw [List.map_cons, eachFrom, h index a List.mem_cons_self]
    exact hrest

theorem isOption_toValue (o : FieldOption) : isOption o.toValue = true := by
  rw [FieldOption.toValue, isOption, hasText_of_get? (s := o.label) (by simp [Entries.get?_append]),
    hasText_of_get? (s := o.value) (by simp [Entries.get?_append])]
  rfl

theorem isRuleCondition_toValue (c : RuleCondition) : isRuleCondition c.toValue = true := by
  have hname : c.operator.name ∈ RuleOperator.all.map RuleOperator.name := by
    cases c.operator <;> decide
  rw [RuleCondition.toValue, isRuleCondition, hasText_of_get? (s := c.field) (by simp [Entries.get?_append]),
    hasOneOf_of_get? (by simp [Entries.get?_append]) hname]
  rfl

theorem rule_toValue (r : Rule) : rule path r.toValue = .ok () := by
  have hname : r.kind.name ∈ RuleKind.all.map RuleKind.name := by
    cases r.kind <;> decide
  rw [Rule.toValue, rule]
  generalize hfields : entry "type" (.text r.kind.name) ++ entry? "value" (r.value.map RuleValue.toValue) ++
    entry "message" (.text r.message) ++ entry? "condition" (r.condition.map RuleCondition.toValue) = fields
  have hkind : hasOneOf fields "type" (RuleKind.all.map RuleKind.name) = true :=
    hasOneOf_of_get? (by simp [← hfields, Entries.get?_append]) hname
  have hmessage : hasText fields "message" = true :=
    hasText_of_get? (s := r.message) (by simp [← hfields, Entries.get?_append])
  have hcondition : isRuleCondition (entryOf fields "condition") = true := by
    have hget : fields.get? "condition" = r.condition.map RuleCondition.toValue := by
      simp [← hfields, Entries.get?_append]
    rw [entryOf_of_map hget]
    cases r.condition with
    | none => rfl
    | some c => exact isRuleCondition_toValue c
  rw [demand_of_true hkind, demand_of_true hmessage, demand_of_true hcondition]
  rfl

theorem rules_of_get? {rs : Option (List Rule)}
    (h : fields.get? "validations" = rs.map fun rs => .list (rs.map Rule.toValue)) :
    rules path fields = .ok () := by
  rw [rules, entryOf_of_map h]
  cases rs with
  | none => rfl
  | some rs => exact eachFrom_map (fun i r _ => rule_toValue r) 0

theorem showWhen_of_get? {part : Option ShowWhen}
    (h : fields.get? "showWhen" = part.map ShowWhen.toValue) : showWhen path fields = .ok () := by
  refine demand_of_true ?_
  rw [entryOf_of_map h]
  cases part with
  | none => rfl
  | some c =>
    rw [Option.map_some, Option.getD_some, ShowWhen.toValue, isShowWhen,
      hasText_of_get? (s := c.field) (by simp [Entries.get?_append]),
      contains_of_get? (v := c.equals.toValue) (by simp [Entries.get?_append])]
    rfl

theorem visibility_of_get? {part : Option VisibilityCondition}
    (h : fields.get? "visibilityCondition" = part.map VisibilityCondition.toValue) :
    visibility path fields = .ok () := by
  refine demand_of_true ?_
  rw [entryOf_of_map h]
  cases part with
  | none => rfl
  | some c =>
    have hname : c.operator.name ∈ VisibilityOperator.all.map VisibilityOperator.name := by
      cases c.operator <;> decide
    rw [Option.map_some, Option.getD_some, VisibilityCondition.toValue, isVisibility,
      hasText_of_get? (s := c.field) (by simp [Entries.get?_append]),
      hasOneOf_of_get? (by simp [Entries.get?_append]) hname,
      contains_of_get? (v := c.value.toValue) (by simp [Entries.get?_append])]
    rfl

theorem isTextList_texts (texts : List String) : isTextList (Value.texts texts) = true := by
  simp [isTextList, Value.texts, Value.isText]

theorem autoFill_of_get? {part : Option AutoFill}
    (h : fields.get? "autoFill" = part.map AutoFill.toValue) : autoFill path fields = .ok () := by
  rw [autoFill, entryOf_of_map h]
  cases part with
  | none => rfl
  | some fill =>
    rw [Option.map_some, Option.getD_some, AutoFill.toValue]
    dsimp only
    rw [demand_of_true (hasText_of_get? (s := fill.endpoint) (by simp [Entries.get?_append])),
      entryOf_of_get? (v := Value.texts fill.dependsOn) (by simp [Entries.get?_append]),
      entryOf_of_get? (v := Value.texts fill.targets) (by simp [Entries.get?_append]),
      isTextList_texts, isTextList_texts]
    rfl

theorem options_of_get? {kind : FieldKind} {o : FieldOption} {os : List FieldOption}
    (h : fields.get? "options" = some (.list ((o :: os).map FieldOption.toValue))) :
    options kind path fields = .ok () := by
  have heach : ∀ path, eachFrom (fun i v => demand (isOption v) (elementPath path i) .badOption) 0
      ((o :: os).map FieldOption.toValue) = .ok () := fun path =>
    eachFrom_map (fun i o _ => demand_of_true (isOption_toValue o)) 0
  rw [options, entryOf_of_get? h]
  exact heach _

theorem field_of_entered {f : Field} (h : f.Entered fields) (hoptions : OffersOptions f) :
    field path f.kind.name fields = .ok () := by
  rw [field, demand_of_true (hasText_of_get? h.label), FieldKind.ofName?_name]
  simp only [bind, Except.bind, rules_of_get? h.rules, showWhen_of_get? h.showWhen,
    visibility_of_get? h.visibility, autoFill_of_get? h.autoFill]
  split
  · next hkind =>
    obtain ⟨o, os, hos⟩ := hoptions hkind
    have hget : fields.get? "options" = some (.list ((o :: os).map FieldOption.toValue)) := by
      rw [h.options, hos]
      rfl
    rw [options_of_get? hget]
  · rfl

theorem group_of_entered {g : GroupHeader} {values : List Value} (h : g.Entered values fields) :
    group path fields = .ok () := by
  rw [group, demand_of_true (hasText_of_get? h.title), entryOf_of_get? h.items, showWhen_of_get? h.showWhen,
    autoFill_of_get? h.autoFill]
  rfl

/-- An item with a new identifier that is not blank may be opened. -/
theorem openItem_of_get? {id type : String} {seen : List String} (hid : fields.get? "id" = some (.text id))
    (htype : fields.get? "type" = some (.text type)) (hblank : Text.isBlankText id = false)
    (hnew : id ∉ seen) : openItem path seen fields = .ok (id, type) := by
  have hgiven : (!Text.isBlankText id) = true := by rw [hblank]; rfl
  have hseen : seen.contains id = false := by simpa using hnew
  rw [openItem, textOf, entryOf_of_get? hid]
  simp only [bind, Except.bind, demand_of_true hgiven, hseen, Bool.false_eq_true, if_false, textOf,
    entryOf_of_get? htype]
  rfl

/-! ## Items -/

/-- The check of a group's items looks at the entry that they are under. -/
theorem children_eq (h : fields.get? "fields" = some v) (path : String) (seen : List String) :
    children path seen fields = items path seen v := by
  induction fields with
  | nil => cases h
  | cons entry rest ih =>
    obtain ⟨name, child⟩ := entry
    rw [children]
    by_cases hname : name = "fields"
    · subst hname
      rw [Entries.get?_cons_self] at h
      cases h
      rfl
    · rw [Entries.get?_cons_of_ne hname] at h
      rw [if_neg (by simpa using hname), ih h]

/-- The value of a field is checked. -/
theorem item_field {f : Field} {seen : List String} (hoptions : OffersOptions f)
    (hblank : Text.isBlankText f.id = false) (hnew : f.id ∉ seen) :
    item path seen f.toValue = .ok (f.id :: seen) := by
  obtain ⟨entries, hvalue, hentered⟩ := f.exists_entered
  have hgroup : (f.kind.name == groupTypeName) = false := by cases f.kind <;> decide
  rw [hvalue, item, openItem_of_get? hentered.id hentered.kind hblank hnew]
  simp only [bind, Except.bind, hgroup, Bool.false_eq_true, if_false, field_of_entered hentered hoptions]
  rfl

/-- The value of a group is checked if its items are. -/
theorem item_group {g : GroupHeader} {values : List Value} {seen after : List String}
    (hinside : itemsFrom (path ++ ".fields") 0 (g.id :: seen) values = .ok after)
    (hblank : Text.isBlankText g.id = false) (hnew : g.id ∉ seen) :
    item path seen (g.toValue values) = .ok after := by
  obtain ⟨entries, hvalue, hentered⟩ := g.exists_entered values
  rw [hvalue, item, openItem_of_get? hentered.id hentered.kind hblank hnew]
  simp only [bind, Except.bind, beq_self_eq_true, if_true, group_of_entered hentered]
  rw [children_eq hentered.items, items, hinside]

/-- **The values of accepted items are checked**, with the same identifiers met. -/
theorem Accepted.itemsFrom_toValues {seen after : List String} {its : List Item}
    (h : Accepted seen after its) (path : String) (index : Nat) :
    itemsFrom path index seen (Item.toValues its) = .ok after := by
  induction h generalizing path index with
  | nil => rfl
  | field hblank hnew hoptions _ ih =>
    rw [Item.toValues, Item.toValue, itemsFrom, item_field hoptions hblank hnew]
    exact ih path (index + 1)
  | group hblank hnew _ _ ihInside ih =>
    rw [Item.toValues, Item.toValue, itemsFrom, item_group (ihInside _ 0) hblank hnew]
    exact ih path (index + 1)

end Shape

/-- **The value of an accepted schema has the shape of a schema.** -/
theorem Schema.document_toValue {document : Value} {schema : Schema}
    (h : Schema.ofValue document = .ok schema) : Shape.document schema.toValue = .ok schema.toObject := by
  obtain ⟨after, haccepted, hne⟩ := accepted_of_ofValue h
  obtain ⟨title, description, items⟩ := schema
  obtain ⟨first, more, rfl⟩ := List.exists_cons_of_ne_nil hne
  have hagain := haccepted.itemsFrom_toValues "fields" 0
  have htitle : Shape.hasText (Schema.toObject ⟨title, description, first :: more⟩) "title" = true :=
    Shape.hasText_of_get? (s := title) (by simp [Schema.toObject, Entries.get?_append])
  have hlist : Shape.entryOf (Schema.toObject ⟨title, description, first :: more⟩) "fields" =
      .list (first.toValue :: Item.toValues more) :=
    Shape.entryOf_of_get? (by simp [Schema.toObject, Entries.get?_append, Item.toValues])
  rw [Item.toValues] at hagain
  rw [Schema.toValue, Shape.document]
  simp only [htitle, hlist, Bool.not_true, Bool.false_eq_true, if_false, bind, Except.bind, pure, Except.pure,
    hagain]

/-- **The value of an accepted schema is accepted, and describes the same schema.** -/
theorem Schema.ofValue_toValue {document : Value} {schema : Schema}
    (h : Schema.ofValue document = .ok schema) : Schema.ofValue schema.toValue = .ok schema := by
  rw [Schema.ofValue, Schema.document_toValue h]
  simp only [bind, Except.bind, Decode.schema_toObject]
  rfl

end DynamicForms
