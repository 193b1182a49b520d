import DynamicForms.Proofs.Schema.Recheck

/-!
# `DynamicForms.Proofs.Schema.Grammar` — what a document must say about one item

The grammar of a schema's document, item by item: an item is an object with an identifier that is not
blank, and with the entries of a field or of a group. Items inside a group are not its concern, and
neither is whether an identifier is used twice.

The check of a single item accepts exactly what the grammar does. If it complains, it names the place of
the item, or of the first option or rule of the item that is not well formed.

## Contents
- **The grammar.** `HoldsText`, `Optionally`, `IsOption`, `IsRule`, …, `FieldFits`, `GroupFits`, `ItemFits`,
  `IsItem`.
- **Parts.** `isOption_iff`, `rule_eq_ok_iff`, `showWhen_eq_ok_iff`, …
- **Where a complaint is.** `Complaint`, `PinsOption`, `PinsRule`.
- **Items.** `itemAlone`, `itemAlone_eq_ok_iff`, `itemAlone_eq_error`.
-/

namespace DynamicForms.Shape

open Value (Object)

/-! ## The grammar -/

/-- There is a text under a name. -/
def HoldsText (fields : Object) (name : String) : Prop :=
  ∃ s, fields.get? name = some (.text s)

/-- What is under a name, if it is there and not null, has a property. -/
def Optionally (fields : Object) (name : String) (p : Value → Prop) : Prop :=
  ∀ v, fields.get? name = some v → v ≠ .null → p v

/-- An option has a label and a value. -/
def IsOption (v : Value) : Prop :=
  ∃ fields : Object, v = .object fields ∧ HoldsText fields "label" ∧ HoldsText fields "value"

/-- The condition of a rule names a place and one of its operators. -/
def IsRuleCondition (v : Value) : Prop :=
  ∃ fields : Object, v = .object fields ∧ HoldsText fields "field" ∧
    ∃ operator : RuleOperator, fields.get? "operator" = some (.text operator.name)

/-- A rule has a known type, a message and, perhaps, a condition. -/
def IsRule (v : Value) : Prop :=
  ∃ fields : Object, v = .object fields ∧ (∃ kind : RuleKind, fields.get? "type" = some (.text kind.name)) ∧
    HoldsText fields "message" ∧ Optionally fields "condition" IsRuleCondition

/-- A `showWhen` condition names a place and has a value. -/
def IsShowWhen (v : Value) : Prop :=
  ∃ fields : Object, v = .object fields ∧ HoldsText fields "field" ∧ ∃ w, fields.get? "equals" = some w

/-- A visibility condition names a place and one of its operators and has a value. -/
def IsVisibility (v : Value) : Prop :=
  ∃ fields : Object, v = .object fields ∧ HoldsText fields "field" ∧
    (∃ operator : VisibilityOperator, fields.get? "operator" = some (.text operator.name)) ∧
    ∃ w, fields.get? "value" = some w

/-- A lookup declaration has an endpoint and two lists of references. -/
def IsAutoFill (v : Value) : Prop :=
  ∃ fields : Object, v = .object fields ∧ HoldsText fields "apiEndpoint" ∧
    (∃ refs, fields.get? "dependsOn" = some (Value.texts refs)) ∧
    ∃ refs, fields.get? "targetFields" = some (Value.texts refs)

/-- The entries of a field, given what an option and what a rule is. -/
structure FieldFits (option rule : Value → Prop) (fields : Object) : Prop where
  /-- It has a label. -/
  label : HoldsText fields "label"
  /-- It has a known type, and options if it is a choice. -/
  kind : ∃ kind : FieldKind, fields.get? "type" = some (.text kind.name) ∧
    (kind.isChoice = true →
      ∃ os, fields.get? "options" = some (.list os) ∧ os ≠ [] ∧ ∀ o ∈ os, option o)
  /-- Its rules are a list. -/
  rules : Optionally fields "validations" fun v => ∃ rs, v = .list rs ∧ ∀ r ∈ rs, rule r
  /-- Its conditions are complete. -/
  showWhen : Optionally fields "showWhen" IsShowWhen
  /-- Its conditions are complete. -/
  visibility : Optionally fields "visibilityCondition" IsVisibility
  /-- Its lookup is complete. -/
  autoFill : Optionally fields "autoFill" IsAutoFill

/-- The entries of a group. -/
structure GroupFits (fields : Object) : Prop where
  /-- It has a heading. -/
  title : HoldsText fields "title"
  /-- It has a list of items. -/
  items : ∃ vs, fields.get? "fields" = some (.list vs)
  /-- Its condition is complete. -/
  showWhen : Optionally fields "showWhen" IsShowWhen
  /-- Its lookup is complete. -/
  autoFill : Optionally fields "autoFill" IsAutoFill

/-- The entries of an item, given what an option and what a rule is. -/
structure ItemFits (option rule : Value → Prop) (fields : Object) : Prop where
  /-- It has an identifier that is not blank. -/
  id : ∃ id, fields.get? "id" = some (.text id) ∧ Text.isBlankText id = false
  /-- It is a group or a field. -/
  kind : ∃ type, fields.get? "type" = some (.text type) ∧
    (type = groupTypeName → GroupFits fields) ∧ (type ≠ groupTypeName → FieldFits option rule fields)

/-- What a document says of an item is well formed. -/
def IsItem (v : Value) : Prop :=
  ∃ fields : Object, v = .object fields ∧ ItemFits IsOption IsRule fields

/-- What a document says of an item is well formed, single options and rules aside. -/
def IsItemOutline (v : Value) : Prop :=
  ∃ fields : Object, v = .object fields ∧ ItemFits (fun _ => True) (fun _ => True) fields

/-- The identifier of an item, if it has one. -/
def idOf? : Value → Option String
  | .object fields => (Entries.get? fields "id").bind Value.text?
  | _ => none

variable {fields : Object} {name path type : String} {v : Value} {error : SchemaError}

/-! ## Parts -/

theorem get?_of_entryOf (h : entryOf fields name = v) (hnull : v ≠ .null) : fields.get? name = some v := by
  unfold entryOf at h
  cases hget : fields.get? name with
  | none => exact absurd (by simpa [hget] using h.symm) hnull
  | some w => simpa [hget] using h

theorem demand_eq_ok_iff {holds : Bool} {flaw : ShapeFlaw} {u : Unit} :
    demand holds path flaw = .ok u ↔ holds = true := by
  cases holds <;> simp [demand]

theorem hasText_iff : hasText fields name = true ↔ HoldsText fields name := by
  unfold hasText entryOf HoldsText
  cases fields.get? name with
  | none => simp [Value.isText]
  | some v => cases v <;> simp [Value.isText]

theorem hasOneOf_iff {texts : List String} :
    hasOneOf fields name texts = true ↔ ∃ s ∈ texts, fields.get? name = some (.text s) := by
  unfold hasOneOf entryOf
  cases fields.get? name with
  | none => simp
  | some v => cases v <;> simp

theorem contains_iff : Entries.contains fields name = true ↔ ∃ w, fields.get? name = some w :=
  Option.isSome_iff_exists

theorem isOption_iff : isOption v = true ↔ IsOption v := by
  cases v <;> simp [isOption, IsOption, hasText_iff]

theorem ruleOperator_iff : hasOneOf fields "operator" (RuleOperator.all.map RuleOperator.name) = true ↔
    ∃ operator : RuleOperator, fields.get? "operator" = some (.text operator.name) := by
  rw [hasOneOf_iff]
  constructor
  · rintro ⟨s, hs, hget⟩
    obtain ⟨operator, -, rfl⟩ := List.mem_map.mp hs
    exact ⟨operator, hget⟩
  · rintro ⟨operator, hget⟩
    exact ⟨_, List.mem_map_of_mem (by cases operator <;> decide), hget⟩

theorem visibilityOperator_iff :
    hasOneOf fields "operator" (VisibilityOperator.all.map VisibilityOperator.name) = true ↔
      ∃ operator : VisibilityOperator, fields.get? "operator" = some (.text operator.name) := by
  rw [hasOneOf_iff]
  constructor
  · rintro ⟨s, hs, hget⟩
    obtain ⟨operator, -, rfl⟩ := List.mem_map.mp hs
    exact ⟨operator, hget⟩
  · rintro ⟨operator, hget⟩
    exact ⟨_, List.mem_map_of_mem (by cases operator <;> decide), hget⟩

theorem ruleKind_iff : hasOneOf fields "type" (RuleKind.all.map RuleKind.name) = true ↔
    ∃ kind : RuleKind, fields.get? "type" = some (.text kind.name) := by
  rw [hasOneOf_iff]
  constructor
  · rintro ⟨s, hs, hget⟩
    obtain ⟨kind, -, rfl⟩ := List.mem_map.mp hs
    exact ⟨kind, hget⟩
  · rintro ⟨kind, hget⟩
    exact ⟨_, List.mem_map_of_mem (by cases kind <;> decide), hget⟩

/-- A check that lets null pass is one of an optional entry. -/
theorem optionally_iff {check : Value → Bool} {p : Value → Prop} (hnull : check .null = true)
    (hcheck : ∀ v, v ≠ .null → (check v = true ↔ p v)) :
    check (entryOf fields name) = true ↔ Optionally fields name p := by
  unfold entryOf Optionally
  cases hget : fields.get? name with
  | none => simp [hnull]
  | some v =>
    rw [Option.getD_some]
    by_cases hv : v = .null
    · subst hv
      exact ⟨fun _ w hw hne => absurd (Option.some.inj hw).symm hne, fun _ => hnull⟩
    · rw [hcheck v hv]
      exact ⟨fun hp w hw _ => Option.some.inj hw ▸ hp, fun h => h v rfl hv⟩

theorem isRuleCondition_iff (h : v ≠ .null) : isRuleCondition v = true ↔ IsRuleCondition v := by
  cases v with
  | null => exact absurd rfl h
  | object fields => simp [isRuleCondition, IsRuleCondition, hasText_iff, ruleOperator_iff]
  | _ => simp [isRuleCondition, IsRuleCondition]

theorem isShowWhen_iff (h : v ≠ .null) : isShowWhen v = true ↔ IsShowWhen v := by
  cases v with
  | null => exact absurd rfl h
  | object fields => simp [isShowWhen, IsShowWhen, hasText_iff, contains_iff]
  | _ => simp [isShowWhen, IsShowWhen]

theorem isVisibility_iff (h : v ≠ .null) : isVisibility v = true ↔ IsVisibility v := by
  cases v with
  | null => exact absurd rfl h
  | object fields =>
    simp [isVisibility, IsVisibility, hasText_iff, visibilityOperator_iff, contains_iff, and_assoc]
  | _ => simp [isVisibility, IsVisibility]

theorem isTextList_iff : isTextList (entryOf fields name) = true ↔
    ∃ refs, fields.get? name = some (Value.texts refs) := by
  unfold entryOf
  cases hget : fields.get? name with
  | none => simp [isTextList]
  | some v =>
    rw [Option.getD_some]
    constructor
    · intro h
      cases v with
      | list vs =>
        have htexts : ∀ w ∈ vs, ∃ s, w = .text s := by
          intro w hw
          have htext := List.all_eq_true.mp h w hw
          cases w <;> simp_all [Value.isText]
        choose! s hs using htexts
        refine ⟨vs.map s, ?_⟩
        rw [Value.texts, List.map_map]
        exact congrArg (fun l => some (Value.list l))
          ((List.map_id vs).symm.trans (List.map_congr_left fun w hw => hs w hw))
      | _ => simp [isTextList] at h
    · rintro ⟨refs, hrefs⟩
      rw [Option.some.inj hrefs]
      exact isTextList_texts refs

theorem rule_eq_ok_iff {u : Unit} : rule path v = .ok u ↔ IsRule v := by
  cases v with
  | object fields =>
    have hcondition : isRuleCondition (entryOf fields "condition") = true ↔
        Optionally fields "condition" IsRuleCondition :=
      optionally_iff rfl fun _ => isRuleCondition_iff
    simp [rule, IsRule, bind_eq_ok_iff, demand_eq_ok_iff, ruleKind_iff, hasText_iff, hcondition]
  | _ => simp [rule, IsRule]

theorem showWhen_eq_ok_iff {u : Unit} :
    showWhen path fields = .ok u ↔ Optionally fields "showWhen" IsShowWhen :=
  demand_eq_ok_iff.trans (optionally_iff rfl fun _ => isShowWhen_iff)

theorem visibility_eq_ok_iff {u : Unit} :
    visibility path fields = .ok u ↔ Optionally fields "visibilityCondition" IsVisibility :=
  demand_eq_ok_iff.trans (optionally_iff rfl fun _ => isVisibility_iff)

theorem autoFill_eq_ok_iff {u : Unit} :
    autoFill path fields = .ok u ↔ Optionally fields "autoFill" IsAutoFill := by
  unfold autoFill Optionally
  cases hget : fields.get? "autoFill" with
  | none => simp [entryOf, hget]
  | some v =>
    rw [entryOf_of_get? hget]
    cases v with
    | null => simp
    | object inner =>
      simp [IsAutoFill, bind_eq_ok_iff, demand_eq_ok_iff, hasText_iff, isTextList_iff]
    | _ => simp [IsAutoFill]

theorem eachFrom_eq_ok_iff {check : Nat → Value → Checked Unit} {p : Value → Prop}
    (hcheck : ∀ index v, check index v = .ok () ↔ p v) (index : Nat) (vs : List Value) :
    eachFrom check index vs = .ok () ↔ ∀ v ∈ vs, p v := by
  induction vs generalizing index with
  | nil => simp [eachFrom]
  | cons v vs ih => simp [eachFrom, bind_eq_ok_iff, hcheck, ih]

theorem options_eq_ok_iff {kind : FieldKind} {u : Unit} : options kind path fields = .ok u ↔
    ∃ os, fields.get? "options" = some (.list os) ∧ os ≠ [] ∧ ∀ o ∈ os, IsOption o := by
  have heach : ∀ (path : String) (vs : List Value),
      eachFrom (fun i v => demand (isOption v) (elementPath path i) .badOption) 0 vs = .ok () ↔
        ∀ v ∈ vs, IsOption v := fun path vs =>
    eachFrom_eq_ok_iff (p := IsOption) (fun _ _ => demand_eq_ok_iff.trans isOption_iff) 0 vs
  unfold options
  cases hget : fields.get? "options" with
  | none => simp [entryOf, hget]
  | some v =>
    rw [entryOf_of_get? hget]
    cases v with
    | list vs =>
      cases vs with
      | nil => simp
      | cons first rest => simp [heach]
    | _ => simp

theorem rules_eq_ok_iff {u : Unit} : rules path fields = .ok u ↔
    Optionally fields "validations" fun v => ∃ rs, v = .list rs ∧ ∀ r ∈ rs, IsRule r := by
  unfold rules Optionally
  cases hget : fields.get? "validations" with
  | none => simp [entryOf, hget]
  | some v =>
    rw [entryOf_of_get? hget]
    cases v with
    | null => simp
    | list vs => simp [eachFrom_eq_ok_iff (p := IsRule) (fun _ _ => rule_eq_ok_iff)]
    | _ => simp

theorem group_eq_ok_iff {u : Unit} : group path fields = .ok u ↔ GroupFits fields := by
  have hitems : (entryOf fields "fields").list?.isSome = true ↔
      ∃ vs, fields.get? "fields" = some (.list vs) := by
    unfold entryOf
    cases fields.get? "fields" with
    | none => simp [Value.list?]
    | some v => cases v <;> simp [Value.list?]
  simp only [group, bind_eq_ok_iff, demand_eq_ok_iff, hasText_iff, hitems, showWhen_eq_ok_iff,
    autoFill_eq_ok_iff]
  constructor
  · rintro ⟨_, htitle, _, hvs, _, hshow, hfill⟩
    exact ⟨htitle, hvs, hshow, hfill⟩
  · rintro ⟨htitle, hvs, hshow, hfill⟩
    exact ⟨(), htitle, (), hvs, (), hshow, hfill⟩

theorem ofName?_eq_some_iff {kind : FieldKind} :
    FieldKind.ofName? type = some kind ↔ kind.name = type := by
  constructor
  · intro h
    simpa using List.find?_some h
  · rintro rfl
    exact FieldKind.ofName?_name kind

/-- What is checked of a field of a known type, one thing after the other. -/
theorem field_of_kind {kind : FieldKind} (h : FieldKind.ofName? type = some kind) :
    field path type fields =
      demand (hasText fields "label") path .noLabel >>= fun _ =>
      (if kind.isChoice = true then options kind path fields else .ok ()) >>= fun _ =>
      rules path fields >>= fun _ => showWhen path fields >>= fun _ =>
      visibility path fields >>= fun _ => autoFill path fields := by
  rw [field, h]
  cases hchoice : kind.isChoice with
  | false =>
    simp only [hchoice, Bool.false_eq_true, if_false]
    rfl
  | true => simp [hchoice]

theorem field_eq_ok_iff (htype : fields.get? "type" = some (.text type)) :
    field path type fields = .ok () ↔ FieldFits IsOption IsRule fields := by
  cases hkind : FieldKind.ofName? type with
  | none =>
    have hunknown : ∀ kind : FieldKind, fields.get? "type" ≠ some (.text kind.name) := by
      intro kind hget
      obtain rfl : type = kind.name := by simpa [htype] using hget
      rw [FieldKind.ofName?_name] at hkind
      cases hkind
    constructor
    · intro h
      simp [field, hkind, bind_eq_ok_iff] at h
    · intro h
      obtain ⟨kind, hget, -⟩ := h.kind
      exact absurd hget (hunknown kind)
  | some kind =>
    obtain rfl := ofName?_eq_some_iff.mp hkind
    have hif : ∀ u : Unit, (if kind.isChoice = true then options kind path fields else .ok ()) = .ok u ↔
        (kind.isChoice = true →
          ∃ os, fields.get? "options" = some (.list os) ∧ os ≠ [] ∧ ∀ o ∈ os, IsOption o) := by
      intro u
      by_cases hchoice : kind.isChoice = true
      · simp [hchoice, options_eq_ok_iff]
      · simp [hchoice]
    rw [field_of_kind hkind]
    simp only [bind_eq_ok_iff, demand_eq_ok_iff, hasText_iff, hif, rules_eq_ok_iff, showWhen_eq_ok_iff,
      visibility_eq_ok_iff, autoFill_eq_ok_iff]
    constructor
    · rintro ⟨_, hlabel, _, hoptions, _, hrules, _, hshow, _, hvisibility, hfill⟩
      exact ⟨hlabel, ⟨kind, htype, hoptions⟩, hrules, hshow, hvisibility, hfill⟩
    · rintro ⟨hlabel, ⟨kind', htype', hoptions⟩, hrules, hshow, hvisibility, hfill⟩
      obtain rfl : kind' = kind := by
        rw [htype, Option.some.injEq, Value.text.injEq] at htype'
        simpa [htype', FieldKind.ofName?_name] using hkind
      exact ⟨(), hlabel, (), hoptions, (), hrules, (), hshow, (), hvisibility, hfill⟩

/-! ## Where a complaint is -/

/-- An error is a complaint about the shape at some place. -/
structure Complaint (error : SchemaError) (place : String) : Prop where
  /-- It is about the shape. -/
  code : error.code = "schema_shape_error"
  /-- It names the place. -/
  path : error.path = place

/-- The first of the options of an item that is not well formed. -/
def PinsOption (v : Value) (index : Nat) : Prop :=
  ∃ (fields : Object) (before : List Value) (o : Value) (after : List Value), v = .object fields ∧
    fields.get? "options" = some (.list (before ++ o :: after)) ∧ before.length = index ∧
    (∀ x ∈ before, IsOption x) ∧ ¬ IsOption o

/-- The first of the rules of an item that is not well formed. -/
def PinsRule (v : Value) (index : Nat) : Prop :=
  ∃ (fields : Object) (before : List Value) (r : Value) (after : List Value), v = .object fields ∧
    fields.get? "validations" = some (.list (before ++ r :: after)) ∧ before.length = index ∧
    (∀ x ∈ before, IsRule x) ∧ ¬ IsRule r

theorem complaint_flawed (path : String) (flaw : ShapeFlaw) : Complaint (.flawed path flaw) path :=
  ⟨rfl, rfl⟩

theorem bind_eq_error_iff {α β : Type} {first : Checked α} {second : α → Checked β} :
    first >>= second = .error error ↔
      first = .error error ∨ ∃ a, first = .ok a ∧ second a = .error error := by
  cases first <;> simp [bind, Except.bind]

theorem demand_eq_error {holds : Bool} {flaw : ShapeFlaw} (h : demand holds path flaw = .error error) :
    Complaint error path := by
  cases holds with
  | true => cases h
  | false =>
    cases h
    exact complaint_flawed path flaw

theorem rule_eq_error (h : rule path v = .error error) : Complaint error path := by
  cases v with
  | object fields =>
    simp only [rule, bind_eq_error_iff] at h
    rcases h with h | ⟨_, -, h | ⟨_, -, h⟩⟩ <;> exact demand_eq_error h
  | _ =>
    cases h
    exact complaint_flawed path _

theorem autoFill_eq_error (h : autoFill path fields = .error error) : Complaint error path := by
  unfold autoFill at h
  split at h
  · cases h
  · simp only [bind_eq_error_iff] at h
    rcases h with h | ⟨_, -, h | ⟨_, -, h⟩⟩ <;> exact demand_eq_error h
  · cases h
    exact complaint_flawed path _

/-- A check of the elements of a list complains about the first that does not pass. -/
theorem eachFrom_eq_error {check : Nat → Value → Checked Unit} {p : Value → Prop}
    (hcheck : ∀ index v, check index v = .ok () ↔ p v) {index : Nat} {vs : List Value}
    (h : eachFrom check index vs = .error error) :
    ∃ before v after, vs = before ++ v :: after ∧ (∀ w ∈ before, p w) ∧ ¬ p v ∧
      check (index + before.length) v = .error error := by
  induction vs generalizing index with
  | nil => cases h
  | cons v vs ih =>
    rw [eachFrom, bind_eq_error_iff] at h
    rcases h with h | ⟨_, hv, h⟩
    · refine ⟨[], v, vs, rfl, fun w hw => absurd hw List.not_mem_nil, fun hp => ?_, h⟩
      rw [(hcheck index v).mpr hp] at h
      cases h
    · obtain ⟨before, w, after, rfl, hbefore, hw, hat⟩ := ih h
      refine ⟨v :: before, w, after, rfl, ?_, hw, ?_⟩
      · exact fun x hx => (List.mem_cons.mp hx).elim (fun e => e ▸ (hcheck index v).mp hv) (hbefore x)
      · rwa [List.length_cons, Nat.add_comm before.length, ← Nat.add_assoc]

theorem options_eq_error {kind : FieldKind} (h : options kind path fields = .error error) :
    (Complaint error path ∧ ¬ ∃ os, fields.get? "options" = some (.list os) ∧ os ≠ []) ∨
      ∃ index, PinsOption (.object fields) index ∧
        Complaint error (elementPath (path ++ ".options") index) := by
  unfold options at h
  split at h
  · next first rest hentry =>
    obtain ⟨before, o, after, hos, hbefore, ho, hat⟩ :=
      eachFrom_eq_error (p := IsOption) (fun _ _ => demand_eq_ok_iff.trans isOption_iff) h
    rw [Nat.zero_add] at hat
    refine Or.inr ⟨before.length, ⟨fields, before, o, after, rfl, ?_, rfl, hbefore, ho⟩, demand_eq_error hat⟩
    rw [← hos]
    exact get?_of_entryOf hentry nofun
  · next hne =>
    cases h
    refine Or.inl ⟨complaint_flawed path _, ?_⟩
    rintro ⟨os, hos, hnil⟩
    obtain ⟨first, rest, rfl⟩ := List.exists_cons_of_ne_nil hnil
    exact hne first rest (entryOf_of_get? hos)

theorem rules_eq_error (h : rules path fields = .error error) :
    (Complaint error path ∧ ¬ Optionally fields "validations" fun v => ∃ rs, v = .list rs) ∨
      ∃ index, PinsRule (.object fields) index ∧
        Complaint error (elementPath (path ++ ".validations") index) := by
  unfold rules at h
  split at h
  · cases h
  · next vs hentry =>
    obtain ⟨before, r, after, rfl, hbefore, hr, hat⟩ :=
      eachFrom_eq_error (p := IsRule) (fun _ _ => rule_eq_ok_iff) h
    rw [Nat.zero_add] at hat
    exact Or.inr ⟨before.length,
      ⟨fields, before, r, after, rfl, get?_of_entryOf hentry nofun, rfl, hbefore, hr⟩, rule_eq_error hat⟩
  · next hnull hlist =>
    cases h
    refine Or.inl ⟨complaint_flawed path _, fun hoptional => ?_⟩
    obtain ⟨rs, hrs⟩ := hoptional _ (get?_of_entryOf rfl hnull) hnull
    exact hlist rs hrs

/-- A field that is complained about is so at its own place, unless an option or a rule is the reason. -/
theorem field_eq_error (htype : fields.get? "type" = some (.text type))
    (h : field path type fields = .error error) :
    (Complaint error path ∧ ¬ FieldFits (fun _ => True) (fun _ => True) fields) ∨
      (∃ index, PinsOption (.object fields) index ∧
        Complaint error (elementPath (path ++ ".options") index)) ∨
      ∃ index, PinsRule (.object fields) index ∧
        Complaint error (elementPath (path ++ ".validations") index) := by
  cases hkind : FieldKind.ofName? type with
  | none =>
    simp only [field, hkind, bind_eq_error_iff] at h
    refine Or.inl ⟨?_, fun hfits => ?_⟩
    · rcases h with h | ⟨_, -, h⟩
      · exact demand_eq_error h
      · cases h
        exact complaint_flawed path _
    · obtain ⟨kind, hget, -⟩ := hfits.kind
      obtain rfl : type = kind.name := by simpa [htype] using hget
      rw [FieldKind.ofName?_name] at hkind
      cases hkind
  | some kind =>
    obtain rfl := ofName?_eq_some_iff.mp hkind
    simp only [field_of_kind hkind, bind_eq_error_iff] at h
    -- whichever of the checks it is that fails, an entry that fits would have passed it
    rcases h with hlabel | ⟨_, -, hoptions | ⟨_, -, hrules | ⟨_, -, hshow | ⟨_, -, hvisibility | ⟨_, -, hfill⟩⟩⟩⟩⟩
    · refine Or.inl ⟨demand_eq_error hlabel, fun hfits => ?_⟩
      rw [demand_of_true (hasText_iff.mpr hfits.label)] at hlabel
      cases hlabel
    · split at hoptions
      · next hchoice =>
        refine (options_eq_error hoptions).imp (And.imp_right fun hnone hfits => hnone ?_) Or.inl
        obtain ⟨kind', htype', hoffer⟩ := hfits.kind
        obtain rfl : kind' = kind := by
          rw [htype, Option.some.injEq, Value.text.injEq] at htype'
          simpa [htype', FieldKind.ofName?_name] using hkind
        obtain ⟨os, hos, hne, -⟩ := hoffer hchoice
        exact ⟨os, hos, hne⟩
      · cases hoptions
    · refine (rules_eq_error hrules).imp (And.imp_right fun hnone hfits => hnone ?_) Or.inr
      exact fun v hv hnull => (hfits.rules v hv hnull).imp fun _ => And.left
    · refine Or.inl ⟨demand_eq_error hshow, fun hfits => ?_⟩
      rw [showWhen_eq_ok_iff (u := ()) |>.mpr hfits.showWhen] at hshow
      cases hshow
    · refine Or.inl ⟨demand_eq_error hvisibility, fun hfits => ?_⟩
      rw [visibility_eq_ok_iff (u := ()) |>.mpr hfits.visibility] at hvisibility
      cases hvisibility
    · refine Or.inl ⟨autoFill_eq_error hfill, fun hfits => ?_⟩
      rw [autoFill_eq_ok_iff (u := ()) |>.mpr hfits.autoFill] at hfill
      cases hfill

theorem group_eq_error (h : group path fields = .error error) :
    Complaint error path ∧ ¬ GroupFits fields := by
  refine ⟨?_, fun hfits => ?_⟩
  · simp only [group, bind_eq_error_iff] at h
    rcases h with h | ⟨_, -, h | ⟨_, -, h | ⟨_, -, h⟩⟩⟩
    · exact demand_eq_error h
    · exact demand_eq_error h
    · exact demand_eq_error h
    · exact autoFill_eq_error h
  · rw [group_eq_ok_iff (u := ()) |>.mpr hfits] at h
    cases h

/-! ## Items -/

/-- The entries of an item, apart from the items of a group. -/
def entriesAlone (path type : String) (fields : Object) : Checked Unit :=
  if type == groupTypeName then group path fields else field path type fields

/-- The check of one item without what is inside it: its identifier, if it passes. -/
def itemAlone (path : String) (seen : List String) : Value → Checked String
  | .object fields => do
    let (id, type) ← openItem path seen fields
    entriesAlone path type fields
    return id
  | _ => .error (.flawed path .notObject)

variable {seen : List String} {id : String}

theorem entriesAlone_eq_ok_iff (htype : fields.get? "type" = some (.text type)) {u : Unit} :
    entriesAlone path type fields = .ok u ↔
      (type = groupTypeName → GroupFits fields) ∧
        (type ≠ groupTypeName → FieldFits IsOption IsRule fields) := by
  unfold entriesAlone
  by_cases hgroup : type = groupTypeName
  · simp [hgroup, group_eq_ok_iff]
  · simp [hgroup, field_eq_ok_iff htype]

theorem itemAlone_eq_ok_iff :
    itemAlone path seen v = .ok id ↔ IsItem v ∧ idOf? v = some id ∧ id ∉ seen := by
  cases v with
  | object fields =>
    simp only [itemAlone, bind_eq_ok_iff]
    constructor
    · rintro ⟨⟨id', type⟩, hopen, _, hentries, hid⟩
      obtain ⟨⟨hget, hblank, hnew⟩, htype⟩ := of_openItem hopen
      cases hid
      exact ⟨⟨fields, rfl, ⟨id', hget, hblank⟩, type, htype, (entriesAlone_eq_ok_iff htype).mp hentries⟩,
        by simp [idOf?, hget, Value.text?], hnew⟩
    · rintro ⟨⟨fields', hfields, ⟨id', hget, hblank⟩, type, htype, hentries⟩, hid, hnew⟩
      cases hfields
      obtain rfl : id = id' := by simpa [idOf?, hget, Value.text?] using hid.symm
      exact ⟨(id, type), openItem_of_get? hget htype hblank hnew, (), (entriesAlone_eq_ok_iff htype).mpr hentries,
        rfl⟩
  | _ => simp [itemAlone, IsItem]

theorem openItem_eq_error (h : openItem path seen fields = .error error) :
    Complaint error path ∧
      (¬ IsItemOutline (.object fields) ∨ ∃ id ∈ seen, idOf? (.object fields) = some id) := by
  refine ⟨?_, ?_⟩
  · have htext : ∀ {name : String} {flaw : ShapeFlaw}, textOf fields name path flaw = .error error →
        Complaint error path := by
      intro name flaw h
      unfold textOf at h
      split at h
      · cases h
      · cases h
        exact complaint_flawed path flaw
    simp only [openItem, bind_eq_error_iff] at h
    rcases h with h | ⟨id, -, h | ⟨_, -, h⟩⟩
    · exact htext h
    · exact demand_eq_error h
    · split at h
      · cases h
        exact ⟨rfl, rfl⟩
      · rcases bind_eq_error_iff.mp h with h | ⟨_, -, h⟩
        · exact htext h
        · cases h
  · by_contra hfine
    rw [not_or, not_not] at hfine
    obtain ⟨⟨fields', hfields, ⟨id, hget, hblank⟩, type, htype, -⟩, hfresh⟩ := hfine
    cases hfields
    have hnew : id ∉ seen := fun hmem => hfresh ⟨id, hmem, by simp [idOf?, hget, Value.text?]⟩
    rw [openItem_of_get? hget htype hblank hnew] at h
    cases h

/-- An item that is complained about is so at its own place, unless an option or a rule is the reason. -/
theorem itemAlone_eq_error (h : itemAlone path seen v = .error error) :
    (Complaint error path ∧ (¬ IsItemOutline v ∨ ∃ id ∈ seen, idOf? v = some id)) ∨
      (∃ index, PinsOption v index ∧ Complaint error (elementPath (path ++ ".options") index)) ∨
      ∃ index, PinsRule v index ∧ Complaint error (elementPath (path ++ ".validations") index) := by
  cases v with
  | object fields =>
    simp only [itemAlone, bind_eq_error_iff] at h
    rcases h with h | ⟨⟨id, type⟩, hopen, h | ⟨_, -, h⟩⟩
    · exact Or.inl (openItem_eq_error h)
    · obtain ⟨-, htype⟩ := of_openItem hopen
      unfold entriesAlone at h
      split at h
      · next hgroup =>
        obtain ⟨hat, hfits⟩ := group_eq_error h
        refine Or.inl ⟨hat, Or.inl ?_⟩
        rintro ⟨fields', hfields, -, type', htype', hgroup', -⟩
        cases hfields
        obtain rfl : type' = type := by simpa [htype'] using htype
        exact hfits (hgroup' (by simpa using hgroup))
      · next hgroup =>
        refine (field_eq_error htype h).imp_left (And.imp_right fun hfits => Or.inl ?_)
        rintro ⟨fields', hfields, -, type', htype', -, hfield'⟩
        cases hfields
        obtain rfl : type' = type := by simpa [htype'] using htype
        exact hfits (hfield' (by simpa using hgroup))
    · cases h
  | _ =>
    cases h
    refine Or.inl ⟨complaint_flawed path _, Or.inl ?_⟩
    rintro ⟨_, hobject, _⟩
    cases hobject

end DynamicForms.Shape
