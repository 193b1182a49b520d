import DynamicForms.Proofs.Schema.Identifiers
import DynamicForms.Schema.Document

/-!
# `DynamicForms.Proofs.Schema.Reread` — a schema is read back from its own value

Every part of a schema, made a value, is read as that part: each entry stands under the first of the names
it goes by, a part that is not there leaves no entry, and no part is null. Nothing is asked of the schema;
where a reader takes one type for another, the value already has the type that is kept.

## Contents
- **Entries.** `get?_entry`, `get?_entry?`.
- **Building blocks.** `required_of_get?`, `optional_of_get?`, `optionalList_of_get?`, `list_map`.
- **Parts.** One lemma for every part of a schema, such as `rule_toValue`.
- **Items.** `Field.Entered`, `GroupHeader.Entered`; `item_field`, `item_group`, `itemsFrom_toValues`.
- `schema_toObject`: the whole schema.
-/

namespace DynamicForms

open Value (Object)

/-! ## Entries -/

variable {fields : Object} {name : String} {others : List String} {v : Value}

@[simp] theorem get?_entry (name key : String) (v : Value) :
    Entries.get? (entry name v) key = if name = key then some v else none := by
  by_cases h : name = key <;> simp [entry, Entries.get?, h]

@[simp] theorem get?_entry? (name key : String) (v : Option Value) :
    Entries.get? ( entry? name v) key = if name = key then v else none := by
  cases v <;> by_cases h : name = key <;> simp [ entry?, Entries.get?, h]

namespace Decode

variable {α : Type} {read : Value → Decoded α} {toValue : α → Value} {a : α} {as : List α}

/-! ## Building blocks -/

theorem named?_of_get?_none {names : List String} (h : ∀ name ∈ names, fields.get? name = none) :
    named? fields names = none := by
  rw [named?, List.findSome?_eq_none_iff]
  intro name hname
  rw [h name hname]
  rfl

theorem required_of_get? (h : fields.get? name = some v) (hread : read v = .ok a) :
    required fields (name :: others) read = .ok a := by
  rw [required, named?_of_get? h]
  simp only [under, hread]
  rfl

/-- A part that may be missing is read back if its value is not null. -/
theorem optional_of_get? {part : Option α} (h : fields.get? name = part.map toValue)
    (hothers : ∀ other ∈ others, fields.get? other = none)
    (hread : ∀ a, part = some a → read (toValue a) = .ok a ∧ (toValue a).isNull = false) :
    optional fields (name :: others) read = .ok part := by
  cases part with
  | none =>
    rw [optional, named?_of_get?_none (List.forall_mem_cons.mpr ⟨h, hothers⟩)]
  | some a =>
    obtain ⟨hread, hnull⟩ := hread a rfl
    rw [optional, named?_of_get? h]
    simp only [hnull, Bool.false_eq_true, if_false, under, hread]
    rfl

theorem optional_text {part : Option String} (h : fields.get? name = part.map .text) :
    optional fields [name] text = .ok part :=
  optional_of_get? h (List.forall_mem_nil _) fun _ _ => ⟨rfl, rfl⟩

theorem optionalList_of_get? (h : fields.get? name = some v) (hread : list read v = .ok as) :
    optionalList fields (name :: others) read = .ok as := by
  rw [optionalList, named?_of_get? h]
  simp only [under, hread]
  rfl

theorem listFrom_map (position : Nat) (h : ∀ a ∈ as, read (toValue a) = .ok a) :
    listFrom read position (as.map toValue) = .ok as := by
  induction as generalizing position with
  | nil => rfl
  | cons a as ih =>
    have hfirst := h a List.mem_cons_self
    have hrest := ih (position + 1) fun b hb => h b (List.mem_cons_of_mem _ hb)
    rw [List.map_cons, listFrom, hfirst, hrest]
    rfl

theorem list_map (h : ∀ a ∈ as, read (toValue a) = .ok a) : list read (.list (as.map toValue)) = .ok as :=
  listFrom_map 0 h

theorem list_texts (texts : List String) : list text (Value.texts texts) = .ok texts :=
  list_map fun _ _ => rfl

theorem allTexts?_map (texts : List String) : allTexts? (texts.map .text) = some texts := by
  induction texts with
  | nil => rfl
  | cons s texts ih => rw [List.map_cons, allTexts?, ih]; rfl

theorem choice_name {all : List α} {name : α → String} (h : all.find? (name · == name a) = some a) :
    choice all name (.text (name a)) = .ok a := by
  simp only [choice, h]

/-! ## Parts -/

theorem scalar_toValue (s : Scalar) : scalar s.toValue = .ok s := by
  cases s <;> rfl

theorem ruleValue_toValue (value : RuleValue) : ruleValue value.toValue = .ok value := by
  cases value <;> rfl

theorem comparand_toValue (c : Comparand) : comparand c.toValue = .ok c := by
  cases c with
  | one s => rfl
  | many texts => simp only [comparand, Comparand.toValue, Value.texts, allTexts?_map]

theorem defaultValue_toValue (d : DefaultValue) : defaultValue d.toValue = .ok d := by
  cases d with
  | bool b => rfl
  | text s => rfl
  | texts items => simp only [defaultValue, DefaultValue.toValue, Value.texts, allTexts?_map]

theorem fieldOption_toValue (o : FieldOption) : fieldOption o.toValue = .ok o := by
  rw [fieldOption, FieldOption.toValue, object]
  generalize hfields : entry "label" (.text o.label) ++ entry "value" (.text o.value) = fields
  have hlabel : required fields ["label"] text = .ok o.label :=
    required_of_get? (v := .text o.label) (by simp [← hfields, Entries.get?_append]) rfl
  have hvalue : required fields ["value"] text = .ok o.value :=
    required_of_get? (v := .text o.value) (by simp [← hfields, Entries.get?_append]) rfl
  simp only [bind, Except.bind, hlabel, hvalue]
  rfl

theorem showWhen_toValue (c : ShowWhen) : showWhen c.toValue = .ok c := by
  rw [showWhen, ShowWhen.toValue, object]
  generalize hfields : entry "field" (.text c.field) ++ entry "equals" c.equals.toValue = fields
  have hfield : required fields ["field"] text = .ok c.field :=
    required_of_get? (v := .text c.field) (by simp [← hfields, Entries.get?_append]) rfl
  have hequals : required fields ["equals"] scalar = .ok c.equals :=
    required_of_get? (by simp [← hfields, Entries.get?_append]) (scalar_toValue c.equals)
  simp only [bind, Except.bind, hfield, hequals]
  rfl

theorem visibilityCondition_toValue (c : VisibilityCondition) :
    visibilityCondition c.toValue = .ok c := by
  have hname : VisibilityOperator.all.find? (·.name == c.operator.name) = some c.operator := by
    cases c.operator <;> decide
  rw [visibilityCondition, VisibilityCondition.toValue, object]
  generalize hfields : entry "field" (.text c.field) ++ entry "operator" (.text c.operator.name) ++
    entry "value" c.value.toValue = fields
  have hfield : required fields ["field"] text = .ok c.field :=
    required_of_get? (v := .text c.field) (by simp [← hfields, Entries.get?_append]) rfl
  have hoperator : required fields ["operator"] (choice VisibilityOperator.all VisibilityOperator.name) =
      .ok c.operator :=
    required_of_get? (by simp [← hfields, Entries.get?_append]) (choice_name hname)
  have hvalue : required fields ["value"] comparand = .ok c.value :=
    required_of_get? (by simp [← hfields, Entries.get?_append]) (comparand_toValue c.value)
  simp only [bind, Except.bind, hfield, hoperator, hvalue]
  rfl

theorem ruleCondition_toValue (c : RuleCondition) : ruleCondition c.toValue = .ok c := by
  have hname : RuleOperator.all.find? (·.name == c.operator.name) = some c.operator := by
    cases c.operator <;> decide
  rw [ruleCondition, RuleCondition.toValue, object]
  generalize hfields : entry "field" (.text c.field) ++ entry "operator" (.text c.operator.name) ++
    entry "value" c.value.toValue = fields
  have hfield : required fields ["field"] text = .ok c.field :=
    required_of_get? (v := .text c.field) (by simp [← hfields, Entries.get?_append]) rfl
  have hoperator : required fields ["operator"] (choice RuleOperator.all RuleOperator.name) =
      .ok c.operator :=
    required_of_get? (by simp [← hfields, Entries.get?_append]) (choice_name hname)
  have hvalue : required fields ["value"] scalar = .ok c.value :=
    required_of_get? (by simp [← hfields, Entries.get?_append]) (scalar_toValue c.value)
  simp only [bind, Except.bind, hfield, hoperator, hvalue]
  rfl

theorem rule_toValue (r : Rule) : rule r.toValue = .ok r := by
  rw [rule, Rule.toValue, object]
  generalize hfields : entry "type" (.text r.kind.name) ++ entry? "value" (r.value.map RuleValue.toValue) ++
    entry "message" (.text r.message) ++ entry? "condition" (r.condition.map RuleCondition.toValue) = fields
  have hkind : required fields ["type"] (choice RuleKind.all RuleKind.name) = .ok r.kind :=
    required_of_get? (by simp [← hfields, Entries.get?_append]) (choice_name (RuleKind.ofName?_name r.kind))
  have hvalue : optional fields ["value"] ruleValue = .ok r.value :=
    optional_of_get? (by simp [← hfields, Entries.get?_append]) (List.forall_mem_nil _)
      fun value _ => ⟨ruleValue_toValue value, by cases value <;> rfl⟩
  have hmessage : required fields ["message"] text = .ok r.message :=
    required_of_get? (v := .text r.message) (by simp [← hfields, Entries.get?_append]) rfl
  have hcondition : optional fields ["condition"] ruleCondition = .ok r.condition :=
    optional_of_get? (by simp [← hfields, Entries.get?_append]) (List.forall_mem_nil _)
      fun condition _ => ⟨ruleCondition_toValue condition, rfl⟩
  simp only [bind, Except.bind, hkind, hvalue, hmessage, hcondition]
  rfl

theorem autoFill_toValue (fill : AutoFill) : autoFill fill.toValue = .ok fill := by
  rw [autoFill, AutoFill.toValue, object]
  generalize hfields : entry "apiEndpoint" (.text fill.endpoint) ++
    entry "dependsOn" (Value.texts fill.dependsOn) ++ entry "targetFields" (Value.texts fill.targets) = fields
  have hendpoint : required fields ["apiEndpoint", "api_endpoint"] text = .ok fill.endpoint :=
    required_of_get? (v := .text fill.endpoint) (by simp [← hfields, Entries.get?_append]) rfl
  have hdependsOn : optionalList fields ["dependsOn", "depends_on"] text = .ok fill.dependsOn :=
    optionalList_of_get? (by simp [← hfields, Entries.get?_append]) (list_texts fill.dependsOn)
  have htargets : optionalList fields ["targetFields", "target_fields"] text = .ok fill.targets :=
    optionalList_of_get? (by simp [← hfields, Entries.get?_append]) (list_texts fill.targets)
  simp only [bind, Except.bind, hendpoint, hdependsOn, htargets]
  rfl

end Decode

/-! ## Items -/

/-- Some entries hold every part of a field under its name, and nothing under another name of a part. -/
structure Field.Entered (f : Field) (fields : Object) : Prop where
  /-- The identifier. -/
  id : fields.get? "id" = some (.text f.id)
  /-- The kind, by its name. -/
  kind : fields.get? "type" = some (.text f.kind.name)
  /-- The label. -/
  label : fields.get? "label" = some (.text f.label)
  /-- The placeholder, if there is one. -/
  placeholder : fields.get? "placeholder" = f.placeholder.map .text
  /-- The default, if there is one. -/
  default : fields.get? "defaultValue" = f.default.map DefaultValue.toValue
  /-- The options, if there are any. -/
  options : fields.get? "options" = f.options.map fun os => .list (os.map FieldOption.toValue)
  /-- The rules, if there are any. -/
  rules : fields.get? "validations" = f.rules.map fun rs => .list (rs.map Rule.toValue)
  /-- The visibility condition, if there is one. -/
  visibility : fields.get? "visibilityCondition" = f.visibility.map VisibilityCondition.toValue
  /-- The lookup declaration, if there is one. -/
  autoFill : fields.get? "autoFill" = f.autoFill.map AutoFill.toValue
  /-- The `showWhen` condition, if there is one. -/
  showWhen : fields.get? "showWhen" = f.showWhen.map ShowWhen.toValue
  /-- Nothing under the other names. -/
  others : ∀ name ∈ ["default_value", "visibility_condition", "auto_fill", "show_when"],
    fields.get? name = none

theorem Field.exists_entered (f : Field) : ∃ fields : Object, f.toValue = .object fields ∧ f.Entered fields := by
  refine ⟨_, rfl, ?_⟩
  constructor <;> simp [Entries.get?_append]

/-- Some entries hold every part of a group under its name, and nothing under another name of a part. -/
structure GroupHeader.Entered (g : GroupHeader) (values : List Value) (fields : Object) : Prop where
  /-- The identifier. -/
  id : fields.get? "id" = some (.text g.id)
  /-- The type of all groups. -/
  kind : fields.get? "type" = some (.text groupTypeName)
  /-- The heading. -/
  title : fields.get? "title" = some (.text g.title)
  /-- The text under the heading, if there is one. -/
  description : fields.get? "description" = g.description.map .text
  /-- The items. -/
  items : fields.get? "fields" = some (.list values)
  /-- The `showWhen` condition, if there is one. -/
  showWhen : fields.get? "showWhen" = g.showWhen.map ShowWhen.toValue
  /-- The lookup declaration, if there is one. -/
  autoFill : fields.get? "autoFill" = g.autoFill.map AutoFill.toValue
  /-- Nothing under the other names. -/
  others : ∀ name ∈ ["show_when", "auto_fill"], fields.get? name = none

theorem GroupHeader.exists_entered (g : GroupHeader) (values : List Value) :
    ∃ fields : Object, g.toValue values = .object fields ∧ g.Entered values fields := by
  refine ⟨_, rfl, ?_⟩
  constructor <;> simp [Entries.get?_append]

namespace Decode

/-- The entries of a field are read back. -/
theorem fieldEntries_of_entered {f : Field} (h : f.Entered fields) : fieldEntries fields = .ok f := by
  have hothers : ∀ name ∈ ["default_value", "visibility_condition", "auto_fill", "show_when"],
      ∀ other ∈ [name], fields.get? other = none := fun name hname other hother => by
    rw [List.mem_singleton.mp hother]
    exact h.others name hname
  have hid : required fields ["id"] text = .ok f.id := required_of_get? h.id rfl
  have hkind : required fields ["type"] (choice FieldKind.all FieldKind.name) = .ok f.kind :=
    required_of_get? h.kind (choice_name (FieldKind.ofName?_name f.kind))
  have hlabel : required fields ["label"] text = .ok f.label := required_of_get? h.label rfl
  have hplaceholder : optional fields ["placeholder"] text = .ok f.placeholder :=
    optional_text h.placeholder
  have hdefault : optional fields ["defaultValue", "default_value"] defaultValue = .ok f.default :=
    optional_of_get? h.default (hothers _ (by decide))
      fun d _ => ⟨defaultValue_toValue d, by cases d <;> rfl⟩
  have hoptions : optional fields ["options"] (list fieldOption) = .ok f.options :=
    optional_of_get? h.options (List.forall_mem_nil _)
      fun os _ => ⟨list_map fun o _ => fieldOption_toValue o, rfl⟩
  have hrules : optional fields ["validations"] (list rule) = .ok f.rules :=
    optional_of_get? h.rules (List.forall_mem_nil _) fun rs _ => ⟨list_map fun r _ => rule_toValue r, rfl⟩
  have hvisibility : optional fields ["visibilityCondition", "visibility_condition"]
      visibilityCondition = .ok f.visibility :=
    optional_of_get? h.visibility (hothers _ (by decide)) fun c _ => ⟨visibilityCondition_toValue c, rfl⟩
  have hautoFill : optional fields autoFillNames autoFill = .ok f.autoFill :=
    optional_of_get? h.autoFill (hothers _ (by decide)) fun fill _ => ⟨autoFill_toValue fill, rfl⟩
  have hshowWhen : optional fields showWhenNames showWhen = .ok f.showWhen :=
    optional_of_get? h.showWhen (hothers _ (by decide)) fun c _ => ⟨showWhen_toValue c, rfl⟩
  simp only [fieldEntries, bind, Except.bind, hid, hkind, hlabel, hplaceholder, hdefault, hoptions, hrules,
    hvisibility, hautoFill, hshowWhen]
  rfl

/-- A field is read back. -/
theorem item_field (f : Field) : item f.toValue = .ok (.field f) := by
  obtain ⟨fields, hvalue, h⟩ := f.exists_entered
  have hgroup : describesGroup fields = false := by
    rw [Shape.describesGroup_eq h.kind]
    cases f.kind <;> decide
  rw [hvalue, item, hgroup, fieldEntries_of_entered h]
  rfl

/-- A group is read back if its items are. -/
theorem item_group (g : GroupHeader) {values : List Value} {inner : List Item}
    (hinner : itemsFrom 0 values = .ok inner) : item (g.toValue values) = .ok (.group g inner) := by
  obtain ⟨fields, hvalue, h⟩ := g.exists_entered values
  have hothers : ∀ name ∈ ["show_when", "auto_fill"],
      ∀ other ∈ [name], fields.get? other = none := fun name hname other hother => by
    rw [List.mem_singleton.mp hother]
    exact h.others name hname
  have hgroup : describesGroup fields = true := by
    rw [Shape.describesGroup_eq h.kind]
    decide
  have hid : required fields ["id"] text = .ok g.id := required_of_get? h.id rfl
  have htitle : required fields ["title"] text = .ok g.title := required_of_get? h.title rfl
  have hdescription : optional fields ["description"] text = .ok g.description :=
    optional_text h.description
  have hchildren : children fields = .ok inner := by
    rw [Schema.children_eq h.items, items, hinner]
    rfl
  have hshowWhen : optional fields showWhenNames showWhen = .ok g.showWhen :=
    optional_of_get? h.showWhen (hothers _ (by decide)) fun c _ => ⟨showWhen_toValue c, rfl⟩
  have hautoFill : optional fields autoFillNames autoFill = .ok g.autoFill :=
    optional_of_get? h.autoFill (hothers _ (by decide)) fun fill _ => ⟨autoFill_toValue fill, rfl⟩
  rw [hvalue, item]
  simp only [hgroup, if_true, bind, Except.bind, hid, htitle, hdescription, hchildren, hshowWhen, hautoFill]
  rfl

/-- The items of a form are read back. -/
theorem itemsFrom_toValues (items : List Item) (position : Nat) :
    itemsFrom position (Item.toValues items) = .ok items := by
  induction items using Item.forestInduction generalizing position with
  | nil => rfl
  | field f rest ih =>
    rw [Item.toValues, Item.toValue, itemsFrom, item_field, ih]
    rfl
  | group g inner rest ihInner ih =>
    rw [Item.toValues, Item.toValue, itemsFrom, item_group g (ihInner 0), ih]
    rfl

/-- **A schema is read back from its own value.** -/
theorem schema_toObject (s : Schema) : schema s.toObject = .ok s := by
  rw [Schema.toObject]
  generalize hfields : entry "title" (.text s.title) ++ entry? "description" (s.description.map .text) ++
    entry "fields" (.list (Item.toValues s.items)) = fields
  have htitle : required fields ["title"] text = .ok s.title :=
    required_of_get? (v := .text s.title) (by simp [← hfields, Entries.get?_append]) rfl
  have hdescription : optional fields ["description"] text = .ok s.description :=
    optional_text (by simp [← hfields, Entries.get?_append])
  have hchildren : children fields = .ok s.items := by
    rw [Schema.children_eq (v := .list (Item.toValues s.items)) (by simp [← hfields, Entries.get?_append]),
      items, itemsFrom_toValues]
    rfl
  simp only [schema, bind, Except.bind, htitle, hdescription, hchildren]
  rfl

end Decode
end DynamicForms
