import DynamicForms.Proofs.Validation.Required

/-!
# `DynamicForms.Proofs.Validation.FirstPass` — what the first pass says, without its checks

The checks of a form are made once and then run over the data. Here the same is said directly of the
items and the data. A field is *refused* if it is missing or null although it may not be, or if its
value is not of the base type of the field or breaks an unconditional rule. A group is *faulty* if it
is no object, unless it can be hidden and is missing or null.

The first pass complains about a place exactly if an item stands there that is faulty and everything
around it is an object. Nothing else is complained about. What is let through, if there is no
complaint, is the data restricted to the items of the form on every level.

## Contents
- **One field.** `Field.isOfBaseType`, `Field.keeps`, `Field.accepts`, `Field.isRefused`,
  `complaint?_eq_none_iff`.
- **One item.** `Outcome.places`, `Item.isFaulty`, `mem_places_field_iff`, `mem_places_group_iff`.
- **All items.** `Path.IsOpen`, `places_subset`, `mem_places_iff`.
- **What is let through.** `Item.restrict`, `descend?_restrict_of_none`, `output_eq_restrict`.
- **The first pass.** `Node.IsReached`, `Validator.FirstPassReads`, `silent_of_missing`,
  `validate_eq_restrict`, `Validator.firstPass_reads`.
-/

namespace DynamicForms

open Value (Object)
open Path (IsWhole IsName)

/-! ## One field -/

/-- Whether a value is what `required` asks for: true, or a text that is not empty. -/
def Value.isFilled : Value → Bool
  | .bool b => b
  | .text s => !s.isEmpty
  | _ => false

/-- Whether a rule passes a value. -/
def Rule.passes (r : Rule) (v : Value) : Bool :=
  match r.check? with
  | .ok check => check.passes v
  | .error _ => false

namespace Field

/-- Whether a value is of the base type of the field: a boolean for a tick box, one of the options
    for a choice that has some, and a text for anything else. -/
def isOfBaseType (f : Field) (v : Value) : Bool :=
  if f.kind == .checkbox then v.isBool
  else if f.hasChoices then v.text?.any fun s => f.optionValues.contains s
  else v.isText

/-- Whether a value of the base type keeps a rule. Only `required` applies to every kind of field; the
    other rules apply to texts. -/
def keeps (f : Field) (r : Rule) (v : Value) : Bool :=
  if r.kind == .required then v.isFilled
  else f.kind == .checkbox || f.hasChoices || r.passes v

/-- Whether a value is of the base type and keeps all unconditional rules. -/
def accepts (f : Field) (v : Value) : Bool :=
  f.isOfBaseType v && f.unconditionalRules.all fun r => f.keeps r v

/-- Whether what stands at the field is refused. -/
def isRefused (f : Field) : Option Value → Bool
  | none => !f.isOptional
  | some v => if v.isNull then !f.isOptional else !f.accepts v

variable {f : Field} {shown : List String} {rules : List ReadyRule} {v : Value}

theorem requiredMessages_eq_nil_iff (h : ReadyFor f rules) :
    requiredMessages rules = [] ↔ f.isRequired = false := by
  constructor
  · intro hnone
    by_contra hreq
    exact requiredMessages_ne_nil (by simpa using hreq) h.rules_eq hnone
  · intro hreq
    rw [isRequired, ← h.rules_eq, List.any_map, List.any_eq_false] at hreq
    have hnone : rules.filter (·.rule.kind == .required) = [] := by
      rw [List.filter_eq_nil_iff]
      intro r hr
      exact hreq r hr
    rw [requiredMessages, hnone, List.map_nil]

/-- Of a tick box or a choice only `required` rules ask anything. -/
theorem all_keeps_of_not_text (h : (f.kind == .checkbox || f.hasChoices) = true) (v : Value) :
    (f.unconditionalRules.all fun r => f.keeps r v) = (!f.isRequired || v.isFilled) := by
  rw [isRequired]
  generalize f.unconditionalRules = always
  induction always with
  | nil => rfl
  | cons r rest ih =>
    rw [List.all_cons, List.any_cons, ih, keeps, h, Bool.true_or]
    cases r.kind == .required <;> cases v.isFilled <;> simp

theorem keeps_text_iff (hbox : (f.kind == .checkbox) = false) (hchoices : f.hasChoices = false)
    {r : ReadyRule} (hr : r.rule.check? = .ok r.check) (s : String) :
    f.keeps r.rule (.text s) = r.textRule.1.passes s := by
  rw [keeps, hbox, hchoices, Bool.false_or, Bool.false_or, ReadyRule.textRule, Rule.passes, hr]
  cases r.rule.kind == .required <;> rfl

/-- **Nothing is said about a value exactly if the field accepts it.** -/
theorem complaint?_eq_none_iff (h : ReadyFor f rules) :
    (f.baseCheck shown rules).complaint? v = none ↔ f.accepts v = true := by
  have hmessages := requiredMessages_eq_nil_iff h
  unfold baseCheck accepts isOfBaseType
  cases hbox : f.kind == .checkbox with
  | true =>
    rw [if_pos rfl, if_pos rfl, all_keeps_of_not_text (by rw [hbox, Bool.true_or])]
    cases v with
    | bool b =>
      cases b with
      | true => simp [BaseCheck.complaint?, Value.isBool, Value.isFilled]
      | false => simp [BaseCheck.complaint?, Value.isBool, Value.isFilled, hmessages]
    | _ => simp [BaseCheck.complaint?, Value.isBool]
  | false =>
    rw [if_neg Bool.false_ne_true, if_neg Bool.false_ne_true]
    cases hchoices : f.hasChoices with
    | true =>
      rw [if_pos rfl, if_pos rfl, all_keeps_of_not_text (by rw [hchoices, Bool.or_true])]
      cases hreq : f.isRequired with
      | true =>
        -- with the message of a rule at hand, an empty choice is complained about in any case
        have hsome := requiredMessages_ne_nil hreq h.rules_eq
        obtain ⟨message, hlast⟩ : ∃ message, (requiredMessages rules).getLast? = some message :=
          ⟨_, List.getLast?_eq_some_getLast hsome⟩
        cases v with
        | text s =>
          cases hs : s.isEmpty <;>
            simp [BaseCheck.complaint?, hlast, isUnchosen, hs, isOneOf, Value.text?,
              Value.isFilled, distinctOptions, List.mem_eraseDups]
        | _ => simp [BaseCheck.complaint?, hlast, isUnchosen, isOneOf, Value.text?]
      | false =>
        have hnone : requiredMessages rules = [] := hmessages.mpr hreq
        cases v <;> simp [BaseCheck.complaint?, hnone, isOneOf, Value.text?, distinctOptions,
          List.mem_eraseDups]
    | false =>
      rw [if_neg Bool.false_ne_true, if_neg Bool.false_ne_true]
      cases v with
      | text s =>
        have hrules : (f.unconditionalRules.all fun r => f.keeps r (.text s))
            = rules.all fun r => r.textRule.1.passes s := by
          rw [← h.rules_eq, List.all_map, Bool.eq_iff_iff, List.all_eq_true, List.all_eq_true]
          refine forall₂_congr fun r hr => ?_
          rw [Function.comp_apply, keeps_text_iff hbox hchoices (h.check_eq r hr)]
        rw [hrules]
        simp [BaseCheck.complaint?, textComplaint?, Value.isText]
      | _ => simp [BaseCheck.complaint?, Value.isText]

/-- No field accepts null. -/
theorem accepts_null (f : Field) : f.accepts .null = false := by
  unfold accepts isOfBaseType
  split
  · rfl
  · split <;> rfl

end Field

/-! ## One item -/

namespace Outcome

/-- The places that something is said about. -/
def places (o : Outcome) : List String :=
  o.complaints.map (·.1)

@[simp] theorem places_none : none.places = [] := rfl

@[simp] theorem places_accepted (id : String) (v : Value) : (accepted id v).places = [] := rfl

@[simp] theorem places_refused (path : String) (c : Complaint) :
    (refused path c).places = [path] := rfl

@[simp] theorem places_append (a b : Outcome) : (a.append b).places = a.places ++ b.places :=
  List.map_append

end Outcome

/-- Whether what stands at an item is at fault itself: a field is refused, and a group is no object,
    unless it can be hidden and is missing or null. -/
def Item.isFaulty : Item → Option Value → Bool
  | .field f, found => f.isRefused found
  | .group g _, none => g.showWhen.isNone
  | .group g _, some v => !(v.isObject || g.showWhen.isSome && v.isNull)

namespace Check

variable {parent path : String} {f : Field} {check : FieldCheck} {g : GroupHeader}
  {inner : List Check} {d : Object}

/-- **The check of a field complains about its own place**, exactly if the field is refused. -/
theorem mem_places_field_iff (h : FieldCheck.Fits parent f check) :
    path ∈ (Check.run d (.field check)).places
      ↔ path = Path.join parent f.id ∧ f.isRefused (d.get? f.id) = true := by
  obtain ⟨shown, rules, hbase, hready⟩ := h.base_eq
  rw [Check.run, FieldCheck.run, checkEntry, h.id_eq, h.path_eq, h.optional_eq, hbase]
  cases hget : d.get? f.id with
  | none => cases hoptional : f.isOptional <;> simp [Field.isRefused, hoptional]
  | some v =>
    cases hnull : v.isNull with
    | true =>
      cases hoptional : f.isOptional with
      | true => simp [Field.isRefused, hnull, hoptional]
      | false =>
        -- a null that may not be left out meets the check, which no null passes
        have hsome : (f.baseCheck shown rules).complaint? v ≠ none := by
          rw [Ne, Field.complaint?_eq_none_iff hready, (Value.isNull_iff v).mp hnull,
            Field.accepts_null]
          exact Bool.false_ne_true
        obtain ⟨c, hc⟩ := Option.ne_none_iff_exists'.mp hsome
        simp [Field.isRefused, hnull, hoptional, hc]
    | false =>
      have hnone : (f.baseCheck shown rules).complaint? v = none ↔ f.accepts v = true :=
        Field.complaint?_eq_none_iff hready
      cases hcomplaint : (f.baseCheck shown rules).complaint? v with
      | none =>
        have haccepts : f.accepts v = true := hnone.mp hcomplaint
        simp [Field.isRefused, hnull, hcomplaint, haccepts]
      | some c =>
        have hrefuses : f.accepts v = false := by
          rw [← Bool.not_eq_true, ← hnone, hcomplaint]
          exact Option.some_ne_none c
        simp [Field.isRefused, hnull, hcomplaint, hrefuses]

/-- In a group that is an object it is the checks inside that complain. -/
theorem places_group_of_object {fields : Object} {optional : Bool}
    (h : d.get? g.id = some (.object fields)) :
    (Check.run d (.group ⟨g.id, path, optional⟩ inner)).places
      = (Check.runAll fields inner).places := by
  rw [Check.run, checkEntry, h]
  simp [Value.isNull, Outcome.places]

/-- The check of a group that is no object complains about its own place or not at all. -/
theorem mem_places_group_iff (items : List Item) {place : String}
    (h : ∀ fields, d.get? g.id ≠ some (.object fields)) :
    place ∈ (Check.run d (.group ⟨g.id, path, g.showWhen.isSome⟩ inner)).places
      ↔ place = path ∧ (Item.group g items).isFaulty (d.get? g.id) = true := by
  rw [Check.run, checkEntry]
  cases hget : d.get? g.id with
  | none => cases hgated : g.showWhen <;> simp [Item.isFaulty, hgated]
  | some v =>
    have hobject : v.isObject = false := by
      rw [← Bool.not_eq_true, Value.isObject_iff]
      rintro ⟨fields, rfl⟩
      exact h fields hget
    cases hnull : v.isNull <;> cases hgated : g.showWhen <;> cases v <;>
      simp_all [Item.isFaulty, Value.isObject, Value.isNull]

end Check

/-! ## All items -/

/-- What stands around the end of a way is an object. -/
def Path.IsOpen (d : Object) (way : List String) : Prop :=
  ∃ fields, Path.descend? (.object d) way.dropLast = some (.object fields)

theorem Path.isOpen_singleton (d : Object) (name : String) : Path.IsOpen d [name] :=
  ⟨d, Path.descend?_nil _⟩

/-- A way into something is open exactly if that is an object in which the rest of the way is. -/
theorem Path.isOpen_cons {d : Object} {name : String} {more : List String} (hmore : more ≠ []) :
    Path.IsOpen d (name :: more)
      ↔ ∃ fields, d.get? name = some (.object fields) ∧ Path.IsOpen fields more := by
  obtain ⟨next, rest, rfl⟩ := List.exists_cons_of_ne_nil hmore
  unfold Path.IsOpen
  rw [List.dropLast_cons_cons, Path.descend?_cons]
  constructor
  · rintro ⟨fields, h⟩
    obtain ⟨child, hchild, hbelow⟩ := Option.bind_eq_some_iff.mp h
    obtain ⟨inner, rfl⟩ := (Value.isObject_iff child).mp (Path.isObject_of_descend? hbelow)
    exact ⟨inner, hchild, fields, hbelow⟩
  · rintro ⟨inner, hchild, fields, hbelow⟩
    exact ⟨fields, by rw [hchild, Option.bind_some, hbelow]⟩

section

variable {parent : String} {items : List Item} {checks : List Check} {node : Node}

/-- Only items are complained about. -/
theorem Check.places_subset (hfit : Check.FitAll parent items checks) {d : Object} {path : String}
    (h : path ∈ (Check.runAll d checks).places) :
    path ∈ (Item.walkList parent items).map (·.path) := by
  induction hfit generalizing d with
  | nil => cases h
  | @field parent f check rest checks hfits hrest ih =>
    rw [Item.walkList_field, List.map_cons]
    rw [Check.runAll, Outcome.places_append] at h
    rcases List.mem_append.mp h with h | h
    · rw [((Check.mem_places_field_iff hfits).mp h).1]
      exact List.mem_cons_self
    · exact List.mem_cons_of_mem _ (ih h)
  | @group parent g inner innerChecks rest checks hinner hrest ihInner ih =>
    rw [Item.walkList_group, List.map_cons, List.map_append]
    rw [Check.runAll, Outcome.places_append] at h
    rcases List.mem_append.mp h with h | h
    · by_cases hobject : ∃ fields, d.get? g.id = some (.object fields)
      · obtain ⟨fields, hfields⟩ := hobject
        rw [Check.places_group_of_object hfields] at h
        exact List.mem_cons_of_mem _ (List.mem_append_left _ (ihInner h))
      · rw [not_exists] at hobject
        rw [((Check.mem_places_group_iff inner hobject).mp h).1]
        exact List.mem_cons_self
    · exact List.mem_cons_of_mem _ (List.mem_append_right _ (ih h))

/-- Of what the check of a group says, exactly what is not about the group itself comes from inside. -/
theorem Check.mem_places_inside_iff {g : GroupHeader} {inner : List Check} {d : Object}
    {path place : String} (hne : place ≠ path) :
    place ∈ (Check.run d (.group ⟨g.id, path, g.showWhen.isSome⟩ inner)).places
      ↔ ∃ fields, d.get? g.id = some (.object fields) ∧
          place ∈ (Check.runAll fields inner).places := by
  by_cases hobject : ∃ fields, d.get? g.id = some (.object fields)
  · obtain ⟨fields, hfields⟩ := hobject
    rw [Check.places_group_of_object hfields, hfields]
    simp
  · have hclosed : ¬ ∃ fields, d.get? g.id = some (.object fields) ∧
        place ∈ (Check.runAll fields inner).places :=
      fun ⟨fields, hfields, _⟩ => hobject ⟨fields, hfields⟩
    rw [not_exists] at hobject
    rw [Check.mem_places_group_iff [] hobject]
    simp only [hne, false_and, hclosed]

/-- The check of a group says that the group itself is at fault exactly if it is. -/
theorem Check.mem_places_self_iff {g : GroupHeader} {inner : List Item} {d : Object}
    (hfit : Check.FitAll (Path.join parent g.id) inner checks)
    (hfresh : Path.join parent g.id ∉ (Item.walkList (Path.join parent g.id) inner).map (·.path)) :
    Path.join parent g.id ∈ (Check.run d (.group
        ⟨g.id, Path.join parent g.id, g.showWhen.isSome⟩ checks)).places
      ↔ (Item.group g inner).isFaulty (d.get? g.id) = true := by
  by_cases hobject : ∃ fields, d.get? g.id = some (.object fields)
  · obtain ⟨fields, hfields⟩ := hobject
    have hinside : Path.join parent g.id ∉ (Check.runAll fields checks).places :=
      fun h => hfresh (Check.places_subset hfit h)
    rw [Check.places_group_of_object hfields, hfields]
    simp [hinside, Item.isFaulty, Value.isObject]
  · rw [not_exists] at hobject
    rw [Check.mem_places_group_iff inner hobject]
    simp only [true_and]

/-- **An item is complained about exactly if it is at fault and everything around it is an object.** -/
theorem Check.mem_places_iff (hfit : Check.FitAll parent items checks)
    (h : Item.WellNamedAt parent items) {d : Object}
    (hnode : node ∈ Item.walkList parent items) {way : List String}
    (hway : Path.segments node.path = Path.segments parent ++ way) :
    node.path ∈ (Check.runAll d checks).places
      ↔ Path.IsOpen d way ∧ node.item.isFaulty (Path.descend? (.object d) way) = true := by
  -- by induction on the fit of checks to items; since paths are distinct, only one of the checks
  -- at a place can speak about the node
  induction hfit generalizing d node way with
  | nil => cases hnode
  | @field parent f check rest checks hfits hrest ih =>
    rw [Check.runAll, Outcome.places_append, List.mem_append, Check.mem_places_field_iff hfits]
    rcases Item.mem_walkList_field.mp hnode with rfl | hnode
    · obtain rfl : way = [f.id] :=
        List.append_cancel_left (hway.symm.trans (h.segments_field List.mem_cons_self))
      have hbehind : Path.join parent f.id ∉ (Check.runAll d checks).places :=
        fun hplace => h.fresh.2 (Check.places_subset hrest hplace)
      rw [descend?_singleton]
      simp only [hbehind, or_false, true_and, Path.isOpen_singleton, Item.isFaulty]
    · have hne : node.path ≠ Path.join parent f.id :=
        fun e => h.fresh.2 (List.mem_map.mpr ⟨node, hnode, e⟩)
      simp only [hne, false_and, false_or]
      exact ih h.behind hnode hway
  | @group parent g inner innerChecks rest checks hinner hrest ihInner ih =>
    obtain ⟨hfreshInner, hfreshRest⟩ := h.fresh
    rw [Check.runAll, Outcome.places_append, List.mem_append]
    rcases Item.mem_walkList_group.mp hnode with rfl | hnode | hnode
    · -- the group itself
      obtain rfl : way = [g.id] :=
        List.append_cancel_left (hway.symm.trans (h.segments_group List.mem_cons_self))
      have hbehind : Path.join parent g.id ∉ (Check.runAll d checks).places :=
        fun hplace => hfreshRest (Check.places_subset hrest hplace)
      rw [descend?_singleton, Check.mem_places_self_iff hinner hfreshInner]
      simp only [hbehind, or_false, Path.isOpen_singleton, true_and]
    · -- something inside the group
      obtain ⟨more, rfl, hmore, hseg⟩ := h.way_inside List.mem_cons_self hnode hway
      have hbehind : node.path ∉ (Check.runAll d checks).places := fun hplace =>
        h.disjoint (List.mem_map_of_mem hnode) (Check.places_subset hrest hplace)
      have hne : node.path ≠ Path.join parent g.id :=
        fun e => hfreshInner (List.mem_map.mpr ⟨node, hnode, e⟩)
      have hinside : ∀ fields, node.path ∈ (Check.runAll fields innerChecks).places
          ↔ Path.IsOpen fields more ∧
              node.item.isFaulty (Path.descend? (.object fields) more) = true :=
        fun fields => ihInner (h.inside List.mem_cons_self) hnode hseg
      rw [Check.mem_places_inside_iff hne, Path.isOpen_cons hmore, Path.descend?_cons]
      simp only [hbehind, or_false, hinside]
      constructor
      · rintro ⟨fields, hfields, hopen, hfaulty⟩
        refine ⟨⟨fields, hfields, hopen⟩, ?_⟩
        rw [hfields, Option.bind_some]
        exact hfaulty
      · rintro ⟨⟨fields, hfields, hopen⟩, hfaulty⟩
        rw [hfields, Option.bind_some] at hfaulty
        exact ⟨fields, hfields, hopen, hfaulty⟩
    · -- something behind the group
      have hne : node.path ≠ Path.join parent g.id :=
        fun e => hfreshRest (List.mem_map.mpr ⟨node, hnode, e⟩)
      have hhead : ¬ ∃ fields, d.get? g.id = some (.object fields) ∧
          node.path ∈ (Check.runAll fields innerChecks).places := fun ⟨fields, _, hplace⟩ =>
        h.disjoint (Check.places_subset hinner hplace) (List.mem_map_of_mem hnode)
      rw [Check.mem_places_inside_iff hne]
      simp only [hhead, false_or]
      exact ih h.behind hnode hway

/-! ## What is let through -/

mutual

/-- The entries of some data that some items know, in their order, and of groups again only what
    their items know. -/
def Item.restrict (d : Object) : List Item → Object
  | [] => []
  | item :: rest => Item.restrictOne d item ++ Item.restrict d rest

/-- The entry of some data that an item knows. -/
def Item.restrictOne (d : Object) : Item → Object
  | .field f =>
    match d.get? f.id with
    | some v => [(f.id, v)]
    | none => []
  | .group g inner =>
    match d.get? g.id with
    | some (.object fields) => [(g.id, .object (Item.restrict fields inner))]
    | some v => [(g.id, v)]
    | none => []

end

/-- The entry that an item knows is the one of the data, or of a group that is an object what its
    items know. -/
theorem Item.get?_restrictOne_cases {d : Object} {item : Item} {name : String} {child : Value}
    (h : Entries.get? (Item.restrictOne d item) name = some child) :
    d.get? name = some child ∨
      ∃ g inner fields, item = .group g inner ∧ d.get? name = some (.object fields) ∧
        child = .object (Item.restrict fields inner) := by
  have hsingle : ∀ {id : String} {v : Value}, Entries.get? [(id, v)] name = some child →
      id = name ∧ v = child := by
    intro id v hget
    have hmem := Entries.mem_of_get? hget
    rw [List.mem_singleton, Prod.mk.injEq] at hmem
    exact ⟨hmem.1.symm, hmem.2.symm⟩
  cases item with
  | field f =>
    rw [Item.restrictOne] at h
    split at h
    · next v hget =>
      obtain ⟨rfl, rfl⟩ := hsingle h
      exact Or.inl hget
    · cases h
  | group g inner =>
    rw [Item.restrictOne] at h
    split at h
    · next fields hget =>
      obtain ⟨rfl, rfl⟩ := hsingle h
      exact Or.inr ⟨g, inner, fields, rfl, hget, rfl⟩
    · next v _ hget =>
      obtain ⟨rfl, rfl⟩ := hsingle h
      exact Or.inl hget
    · cases h

/-- What is known of some data by an item in front of others comes from it or from them. -/
theorem Item.descend?_restrict_cons {d : Object} {item : Item} {rest : List Item} {name : String}
    {more : List String}
    (hhead : ∀ child, Entries.get? (Item.restrictOne d item) name = some child →
      Path.descend? child more = none)
    (hrest : Path.descend? (.object (Item.restrict d rest)) (name :: more) = none) :
    Path.descend? (.object (Item.restrict d (item :: rest))) (name :: more) = none := by
  rw [Path.descend?_cons] at hrest ⊢
  rw [Item.restrict, Entries.get?_append]
  cases hget : Entries.get? (Item.restrictOne d item) name with
  | none => exact hrest
  | some child => exact hhead child hget

/-- **Where nothing lies in some data, nothing lies in what the items know of it.** -/
theorem Item.descend?_restrict_of_none {d : Object} {way : List String}
    (hnone : Path.descend? (.object d) way = none) :
    Path.descend? (.object (Item.restrict d items)) way = none := by
  obtain ⟨name, more, rfl⟩ : ∃ name more, way = name :: more := by
    cases way with
    | nil => cases hnone
    | cons name more => exact ⟨name, more, rfl⟩
  induction items using Item.forestInduction generalizing d name more with
  | nil => rfl
  | field f rest ih =>
    refine Item.descend?_restrict_cons (fun child hchild => ?_) (ih _ _ hnone)
    rw [Path.descend?_cons] at hnone
    rcases Item.get?_restrictOne_cases hchild with hsame | ⟨g, inner, fields, hitem, -⟩
    · rw [hsame] at hnone
      exact hnone
    · cases hitem
  | group g inner rest ihInner ih =>
    refine Item.descend?_restrict_cons (fun child hchild => ?_) (ih _ _ hnone)
    rw [Path.descend?_cons] at hnone
    rcases Item.get?_restrictOne_cases hchild with hsame | ⟨g', inner', fields, hitem, hsame, rfl⟩
    · rw [hsame] at hnone
      exact hnone
    · -- a group that is an object: what its items know of it
      cases hitem
      rw [hsame] at hnone
      cases more with
      | nil => cases hnone
      | cons next more => exact ihInner _ _ hnone

/-- A field about which nothing is said lets through what stands there. -/
theorem Check.output_field_eq {f : Field} {check : FieldCheck} (h : FieldCheck.Fits parent f check)
    {d : Object} (hclean : (Check.run d (.field check)).complaints = []) :
    (Check.run d (.field check)).output = Item.restrictOne d (.field f) := by
  rw [Check.run, FieldCheck.run, checkEntry, h.id_eq] at hclean ⊢
  rw [Item.restrictOne]
  cases hget : d.get? f.id with
  | none => cases hoptional : check.optional <;> rfl
  | some v =>
    simp only [hget] at hclean ⊢
    split
    · rfl
    · next hgiven =>
      rw [if_neg hgiven] at hclean
      cases hcomplaint : check.base.complaint? v with
      | none => rfl
      | some c => simp [hcomplaint, Outcome.refused] at hclean

/-- **What is let through without complaint is the data restricted to the items.** -/
theorem Check.output_eq_restrict (hfit : Check.FitAll parent items checks) {d : Object}
    (hclean : (Check.runAll d checks).complaints = []) :
    (Check.runAll d checks).output = Item.restrict d items := by
  induction hfit generalizing d with
  | nil => rfl
  | field hfits hrest ih =>
    obtain ⟨hhead, hbehind⟩ := Check.complaints_cons hclean
    rw [Item.restrict, ← Check.output_field_eq hfits hhead, ← ih hbehind]
    rfl
  | @group parent g inner innerChecks rest checks hinner hrest ihInner ih =>
    obtain ⟨hhead, hbehind⟩ := Check.complaints_cons hclean
    have houtput : (Check.run d (.group ⟨g.id, Path.join parent g.id, g.showWhen.isSome⟩
        innerChecks)).output = Item.restrictOne d (.group g inner) := by
      rw [Check.run, checkEntry] at hhead ⊢
      rw [Item.restrictOne]
      cases hget : d.get? g.id with
      | none => cases g.showWhen <;> rfl
      | some v =>
        simp only [hget] at hhead ⊢
        split
        · next hnull =>
          rw [Bool.and_eq_true] at hnull
          rw [(Value.isNull_iff v).mp hnull.2]
          rfl
        · next hgiven =>
          rw [if_neg hgiven] at hhead
          cases v with
          | object fields =>
            have hinside := ihInner (show (Check.runAll fields innerChecks).complaints = [] from hhead)
            show [(g.id, Value.object (Check.runAll fields innerChecks).output)] = _
            rw [hinside]
          | _ => cases hhead
    rw [Item.restrict, ← houtput, ← ih hbehind]
    rfl

end

/-! ## The first pass -/

/-- Everything around a node is an object in some data. -/
def Node.IsReached (items : List Item) (d : Object) (node : Node) : Prop :=
  ∀ around ∈ Item.nodes items, node ∈ around.inside →
    ∃ fields, Path.descend? (.object d) (Path.segments around.path) = some (.object fields)

theorem Node.IsReached.isOpen {items : List Item} (h : Item.WellNamed items) {d : Object}
    {node : Node} (hnode : node ∈ Item.nodes items) (hreached : node.IsReached items d) :
    Path.IsOpen d (Path.segments node.path) := by
  rcases h.atTop.exists_parent hnode with
    hseg | ⟨around, haround, hin, hseg⟩
  · rw [hseg, Path.segments_empty]
    exact Path.isOpen_singleton d node.item.id
  · rw [hseg, Path.IsOpen, List.dropLast_concat]
    exact hreached around haround hin

/-- Nothing is an object inside what is none. -/
theorem Path.not_isOpen_of_prefix {d : Object} {way front : List String} (hpre : front <+: way)
    (hne : front ≠ way)
    (hnone : ∀ fields, Path.descend? (.object d) front ≠ some (.object fields)) :
    ¬ Path.IsOpen d way := by
  rintro ⟨fields, hfields⟩
  obtain ⟨more, rfl⟩ := hpre
  have hmore : more ≠ [] := by
    rintro rfl
    exact hne (List.append_nil front).symm
  rw [List.dropLast_append_of_ne_nil hmore, Path.descend?_append] at hfields
  obtain ⟨v, hv, hbelow⟩ := Option.bind_eq_some_iff.mp hfields
  obtain ⟨inner, rfl⟩ := (Value.isObject_iff v).mp (Path.isObject_of_descend? hbelow)
  exact hnone inner hv

/-- A group that can be hidden and is missing or null is not at fault. -/
theorem Item.isFaulty_of_missing {g : GroupHeader} {inner : List Item} {found : Option Value}
    (hgated : g.showWhen.isSome = true) (hmissing : found = none ∨ found = some .null) :
    (Item.group g inner).isFaulty found = false := by
  rcases hmissing with rfl | rfl
  · cases hg : g.showWhen with
    | none => rw [hg] at hgated; cases hgated
    | some c => simp [Item.isFaulty, hg]
  · simp [Item.isFaulty, hgated, Value.isNull]

namespace Validator

/-- What the first pass finds in some data, read off the items of the form and the completed data. -/
structure FirstPassReads (v : Validator) (items : List Item) (data : Object) : Prop where
  /-- A field inside objects only is complained about exactly if it is refused. -/
  field_iff : ∀ node ∈ Item.nodes items, ∀ f, node.item = .field f →
    node.IsReached items (Item.complete data items) →
    (node.path ∈ (v.firstPass data).places
      ↔ f.isRefused (Path.descend? (.object (Item.complete data items))
          (Path.segments node.path)) = true)
  /-- At a group that can be hidden and is missing or null, and below it, nothing is complained
      about. -/
  silent : ∀ node ∈ Item.nodes items, ∀ g inner, node.item = .group g inner →
    g.showWhen.isSome = true →
    (Path.descend? (.object (Item.complete data items)) (Path.segments node.path) = none ∨
      Path.descend? (.object (Item.complete data items)) (Path.segments node.path)
        = some .null) →
    ∀ path ∈ (v.firstPass data).places, path ≠ node.path ∧ Path.below path node.path = false
  /-- All complaints are among the messages. -/
  reported : ∀ path ∈ (v.firstPass data).places, path ∈ Entries.keys (v.validate data).errors
  /-- Without messages the data is accepted, and what is let through is the completed data
      restricted to the items. -/
  output_eq : (v.validate data).errors = [] →
    v.validate data = .valid (Item.restrict (Item.complete data items) items)

variable {v : Validator} {items : List Item}

theorem errors_validate (v : Validator) (data : Object) :
    (v.validate data).errors = messages (v.firstPass data).complaints (v.secondPass data) := by
  simp only [validate]
  split
  · next hnone => exact hnone.symm
  · rfl

/-- Data without messages is accepted. -/
theorem validate_of_errors_eq_nil {data : Object} (h : (v.validate data).errors = []) :
    v.validate data = .valid (v.firstPass data).output := by
  rw [errors_validate] at h
  simp only [validate, h]

theorem firstPass_eq (hbuild : build items = .ok v) (data : Object) :
    v.firstPass data = Check.runAll (Item.complete data items) v.checks := by
  rw [firstPass, (fitAll_of_build hbuild).1]

/-- The first pass complains about an item exactly if that is at fault in the completed data and
    everything around it is an object there. -/
theorem mem_places_firstPass_iff (h : Item.WellNamed items) (hbuild : build items = .ok v)
    (data : Object) {node : Node} (hnode : node ∈ Item.nodes items) :
    node.path ∈ (v.firstPass data).places
      ↔ Path.IsOpen (Item.complete data items) (Path.segments node.path) ∧
        node.item.isFaulty (Path.descend? (.object (Item.complete data items))
          (Path.segments node.path)) = true := by
  rw [firstPass_eq hbuild]
  exact Check.mem_places_iff (fitAll_of_build hbuild).2 h.atTop hnode
    (Path.segments_from_top node.path)

theorem exists_node_of_mem_places (hbuild : build items = .ok v) {data : Object} {path : String}
    (h : path ∈ (v.firstPass data).places) : ∃ node ∈ Item.nodes items, node.path = path := by
  rw [firstPass_eq hbuild] at h
  exact List.mem_map.mp (Check.places_subset (fitAll_of_build hbuild).2 h)

/-- **At a group that can be hidden and is missing or null, and below it, nothing is complained
    about.** -/
theorem silent_of_missing (h : Item.WellNamed items) (hbuild : build items = .ok v) {data : Object}
    {node : Node} (hnode : node ∈ Item.nodes items) {g : GroupHeader} {inner : List Item}
    (hitem : node.item = .group g inner) (hgated : g.showWhen.isSome = true)
    (hmissing : Path.descend? (.object (Item.complete data items)) (Path.segments node.path) = none ∨
      Path.descend? (.object (Item.complete data items)) (Path.segments node.path) = some .null)
    {path : String} (hpath : path ∈ (v.firstPass data).places) :
    path ≠ node.path ∧ Path.below path node.path = false := by
  have hnone : ∀ fields, Path.descend? (.object (Item.complete data items))
      (Path.segments node.path) ≠ some (.object fields) := by
    intro fields hfields
    rcases hmissing with hm | hm <;> rw [hm] at hfields <;> cases hfields
  obtain ⟨w, hw, rfl⟩ := exists_node_of_mem_places hbuild hpath
  obtain ⟨hopen, hfaulty⟩ := (mem_places_firstPass_iff h hbuild data hw).mp hpath
  have hne : w.path ≠ node.path := by
    intro heq
    have hnodes : w = node := h.eq_of_path_eq hw hnode heq
    rw [hnodes, hitem, Item.isFaulty_of_missing hgated hmissing] at hfaulty
    cases hfaulty
  refine ⟨hne, ?_⟩
  -- a place below the group is that of something inside it, which is out of reach
  by_contra hbelow
  have hpre : Path.segments node.path <+: Path.segments w.path :=
    (Path.segments_prefix_iff (h.isWhole hnode) (h.isWhole hw)).mpr
      (Or.inr (by simpa using hbelow))
  have hway : Path.segments node.path ≠ Path.segments w.path :=
    fun e => hne (Path.segments_inj (h.isWhole hw) (h.isWhole hnode) e.symm)
  exact Path.not_isOpen_of_prefix hpre hway hnone hopen

/-- Without messages the data is accepted, and what is let through is the completed data restricted to
    the items. -/
theorem validate_eq_restrict (hbuild : build items = .ok v) {data : Object}
    (hnone : (v.validate data).errors = []) :
    v.validate data = .valid (Item.restrict (Item.complete data items) items) := by
  have hvalid := validate_of_errors_eq_nil hnone
  obtain ⟨hclean, -⟩ := firstPass_of_valid hvalid
  rw [firstPass_eq hbuild] at hclean hvalid
  rw [hvalid, Check.output_eq_restrict (fitAll_of_build hbuild).2 hclean]

/-- **The first pass is what the items of the form say about the completed data.** -/
theorem firstPass_reads (h : Item.WellNamed items) (hbuild : build items = .ok v) (data : Object) :
    v.FirstPassReads items data := by
  refine ⟨?_, ?_, ?_, fun hnone => validate_eq_restrict hbuild hnone⟩
  · intro node hnode f hf hreached
    rw [mem_places_firstPass_iff h hbuild data hnode, hf]
    exact and_iff_right (hreached.isOpen h hnode)
  · intro node hnode g inner hitem hgated hmissing path hpath
    exact silent_of_missing h hbuild hnode hitem hgated hmissing hpath
  · intro path hpath
    rw [errors_validate]
    exact mem_keys_messages.mpr (Or.inl hpath)

/-! ## A form with groups -/

/-- A form that can be made ready is the one made ready. -/
theorem build_of_isSome (h : (build items).toOption.isSome = true) :
    build items = .ok ((build items).toOption.getD default) := by
  cases hbuild : build items with
  | error e => rw [hbuild] at h; cases h
  | ok v => rfl

/-- A city, which must be given. -/
def cityField : Field :=
  { (default : Field) with id := "city", rules := some [⟨.required, none, "City is required", none⟩] }

/-- An address. -/
def addressGroup : GroupHeader :=
  { (default : GroupHeader) with id := "address" }

/-- An address for the bill, asked of businesses. -/
def billingGroup : GroupHeader :=
  { (default : GroupHeader) with
    id := "billing", showWhen := some ⟨"kind", .text "business"⟩ }

/-- An address with a city, and for businesses one more. -/
def addressItems : List Item :=
  [.group addressGroup [.field cityField], .group billingGroup [.field cityField]]

/-- The form made ready. -/
def addressValidator : Validator :=
  (build addressItems).toOption.getD default

theorem build_addressItems : build addressItems = .ok addressValidator :=
  build_of_isSome (by decide +kernel)

theorem wellNamed_addressItems : Item.WellNamed addressItems :=
  ⟨by decide +kernel, by decide +kernel⟩

/-- Nothing given at all, only the city of the group that is always there is missing. -/
theorem firstPass_reads_address :
    (addressValidator.firstPass []).places = ["address.city"] ∧
      addressValidator.FirstPassReads addressItems [] :=
  ⟨by decide +kernel, firstPass_reads wellNamed_addressItems build_addressItems []⟩

end Validator

end DynamicForms
