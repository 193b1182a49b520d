import DynamicForms.Value.Equality

/-!
# `DynamicForms.Schema.Basic` — the description of a form

A schema is a tree of items: fields, which hold one value each, and groups, which hold items. A field
may carry rules for its value, a default, options to choose from, conditions under which it is shown,
and a declaration that its neighbours are filled in by a lookup.

## Contents
- `FieldKind`, `RuleKind`: the kinds of fields and rules, and their names in a document.
- `Scalar`, `ShowWhen`, `VisibilityCondition`, `RuleCondition`, `Rule`, `AutoFill`: what a field may
  carry.
- `Field`, `Item`, `Schema`.
- `Field.isOptional`, `Field.initialValue`.
-/

namespace DynamicForms

/-! ## Kinds -/

/-- The kinds of fields. -/
inductive FieldKind where
  /-- One line of text. -/
  | text
  /-- Several lines of text. -/
  | textarea
  /-- A choice from a list. -/
  | select
  /-- A box to tick. -/
  | checkbox
  /-- A choice from buttons. -/
  | radio
  /-- A text that is checked while it is typed. -/
  | checkedText
  deriving DecidableEq, Repr, Inhabited

namespace FieldKind

/-- All kinds, in the order of messages. -/
def all : List FieldKind := [text, textarea, select, checkbox, radio, checkedText]

/-- The name of a kind in a document. -/
def name : FieldKind → String
  | text => "text"
  | textarea => "textarea"
  | select => "select"
  | checkbox => "checkbox"
  | radio => "radio"
  | checkedText => "text-with-validation"

/-- The kind with a name. -/
def ofName? (s : String) : Option FieldKind :=
  all.find? (·.name == s)

/-- Whether the field offers options to choose from. -/
def isChoice : FieldKind → Bool
  | select | radio => true
  | _ => false

theorem ofName?_name (kind : FieldKind) : ofName? kind.name = some kind := by
  cases kind <;> decide

end FieldKind

/-- The name that a group has as its type. -/
def groupTypeName : String := "group"

/-- The kinds of rules. -/
inductive RuleKind where
  /-- There must be a value. -/
  | required
  /-- The text must match a pattern. -/
  | pattern
  /-- The text must have a least length. -/
  | minLength
  /-- The text must have a greatest length. -/
  | maxLength
  /-- The text must match a pattern of the form's own. -/
  | custom
  deriving DecidableEq, Repr, Inhabited

namespace RuleKind

/-- All kinds, in the order of messages. -/
def all : List RuleKind := [required, pattern, minLength, maxLength, custom]

/-- The name of a kind in a document. -/
def name : RuleKind → String
  | required => "required"
  | pattern => "pattern"
  | minLength => "minLength"
  | maxLength => "maxLength"
  | custom => "custom"

/-- The kind with a name. -/
def ofName? (s : String) : Option RuleKind :=
  all.find? (·.name == s)

/-- Whether the value of the rule is a pattern. -/
def isPattern : RuleKind → Bool
  | pattern | custom => true
  | _ => false

theorem ofName?_name (kind : RuleKind) : ofName? kind.name = some kind := by
  cases kind <;> decide

end RuleKind

/-! ## What a field may carry -/

/-- A value that a condition compares with. -/
inductive Scalar where
  /-- A boolean. -/
  | bool (b : Bool)
  /-- A whole number. -/
  | int (n : Int)
  /-- A double. -/
  | double (d : Double)
  /-- A text. -/
  | text (s : String)
  deriving DecidableEq, Repr, Inhabited

/-- A scalar as a value. -/
def Scalar.toValue : Scalar → Value
  | .bool b => .bool b
  | .int n => .int n
  | .double d => .double d
  | .text s => .text s

/-- One of the options of a choice. -/
structure FieldOption where
  /-- What the reader of the form sees. -/
  label : String
  /-- What the form holds when the option is chosen. -/
  value : String
  deriving DecidableEq, Repr, Inhabited

/-- Show an item only while another place holds one value. -/
structure ShowWhen where
  /-- The path of the other place. -/
  field : String
  /-- The value it must hold. -/
  equals : Scalar
  deriving DecidableEq, Repr, Inhabited

/-- How a visibility condition compares. -/
inductive VisibilityOperator where
  /-- The place holds the value, or one of the values. -/
  | equals
  /-- The place does not. -/
  | notEquals
  /-- The text or list at the place contains one of the values. -/
  | contains
  deriving DecidableEq, Repr, Inhabited

/-- All visibility operators, in the order of messages. -/
def VisibilityOperator.all : List VisibilityOperator := [.equals, .notEquals, .contains]

/-- The name of an operator in a document. -/
def VisibilityOperator.name : VisibilityOperator → String
  | .equals => "equals"
  | .notEquals => "notEquals"
  | .contains => "contains"

/-- What a visibility condition compares with. -/
inductive Comparand where
  /-- One text. -/
  | one (s : String)
  /-- Any of several texts. -/
  | many (texts : List String)
  deriving DecidableEq, Repr, Inhabited

/-- The texts to compare with. -/
def Comparand.texts : Comparand → List String
  | .one s => [s]
  | .many texts => texts

/-- Show a field only while another place compares in a certain way. -/
structure VisibilityCondition where
  /-- The path of the other place. -/
  field : String
  /-- How to compare. -/
  operator : VisibilityOperator
  /-- What to compare with. -/
  value : Comparand
  deriving DecidableEq, Repr, Inhabited

/-- How the condition of a rule compares. -/
inductive RuleOperator where
  /-- The place holds the value. -/
  | equals
  /-- The place does not. -/
  | notEquals
  deriving DecidableEq, Repr, Inhabited

/-- All operators of rule conditions, in the order of messages. -/
def RuleOperator.all : List RuleOperator := [.equals, .notEquals]

/-- The name of an operator in a document. -/
def RuleOperator.name : RuleOperator → String
  | .equals => "equals"
  | .notEquals => "notEquals"

/-- Apply a rule only while another place compares in a certain way. -/
structure RuleCondition where
  /-- The path of the other place, absolute or inside the group of the rule's field. -/
  field : String
  /-- How to compare. -/
  operator : RuleOperator
  /-- What to compare with. -/
  value : Scalar
  deriving DecidableEq, Repr, Inhabited

/-- The value of a rule: a length or a pattern. -/
inductive RuleValue where
  /-- A whole number. -/
  | int (n : Int)
  /-- A double. -/
  | double (d : Double)
  /-- A text. -/
  | text (s : String)
  deriving DecidableEq, Repr, Inhabited

/-- The value of a rule as a value. -/
def RuleValue.toValue : RuleValue → Value
  | .int n => .int n
  | .double d => .double d
  | .text s => .text s

/-- A rule for the value of a field. -/
structure Rule where
  /-- What kind of rule it is. -/
  kind : RuleKind
  /-- The length or pattern of the rule. -/
  value : Option RuleValue
  /-- What to say when the rule is broken. -/
  message : String
  /-- When the rule applies; always, if there is no condition. -/
  condition : Option RuleCondition
  deriving DecidableEq, Repr, Inhabited

/-- A declaration that fields are filled in by a lookup, with references as written. -/
structure AutoFill where
  /-- Where the lookup is asked for. -/
  endpoint : String
  /-- The fields whose values are sent. -/
  dependsOn : List String
  /-- The fields that receive the answer. -/
  targets : List String
  deriving DecidableEq, Repr, Inhabited

/-- The default of a field. -/
inductive DefaultValue where
  /-- Ticked or not. -/
  | bool (b : Bool)
  /-- A text. -/
  | text (s : String)
  /-- Several texts. -/
  | texts (items : List String)
  deriving DecidableEq, Repr, Inhabited

/-- A default as a value. -/
def DefaultValue.toValue : DefaultValue → Value
  | .bool b => .bool b
  | .text s => .text s
  | .texts items => Value.texts items

/-! ## Items -/

/-- A field of a form. -/
structure Field where
  /-- The name of the field inside its group. -/
  id : String
  /-- What kind of field it is. -/
  kind : FieldKind
  /-- The text beside the field. -/
  label : String
  /-- The text inside the empty field. -/
  placeholder : Option String
  /-- What the field holds at first. -/
  default : Option DefaultValue
  /-- What can be chosen. -/
  options : Option (List FieldOption)
  /-- What the value must satisfy. -/
  rules : Option (List Rule)
  /-- When the field is shown. -/
  visibility : Option VisibilityCondition
  /-- The lookup that starts at this field. -/
  autoFill : Option AutoFill
  /-- When the field is shown. -/
  showWhen : Option ShowWhen
  deriving DecidableEq, Repr, Inhabited

/-- A group of items, apart from the items. -/
structure GroupHeader where
  /-- The name of the group inside the group around it. -/
  id : String
  /-- The heading. -/
  title : String
  /-- The text under the heading. -/
  description : Option String
  /-- When the group is shown. -/
  showWhen : Option ShowWhen
  /-- The lookup that starts at this group. -/
  autoFill : Option AutoFill
  deriving DecidableEq, Repr, Inhabited

/-- A field, or a group with its items. -/
inductive Item where
  /-- A field. -/
  | field (f : Field)
  /-- A group. -/
  | group (g : GroupHeader) (items : List Item)
  deriving Repr, Inhabited

namespace Item

/-- The name of an item inside its group. -/
def id : Item → String
  | .field f => f.id
  | .group g _ => g.id

/-- When the item is shown. -/
def showWhen : Item → Option ShowWhen
  | .field f => f.showWhen
  | .group g _ => g.showWhen

/-- The condition that fields have beside `showWhen`. -/
def visibility : Item → Option VisibilityCondition
  | .field f => f.visibility
  | .group _ _ => none

/-- The lookup that starts at the item. -/
def autoFill : Item → Option AutoFill
  | .field f => f.autoFill
  | .group g _ => g.autoFill

/-- Whether the item is a field. -/
def isField : Item → Bool
  | .field _ => true
  | .group _ _ => false

/-- The field, if the item is one. -/
def field? : Item → Option Field
  | .field f => some f
  | .group _ _ => none

/-- The items of a group; none for a field. -/
def children : Item → List Item
  | .field _ => []
  | .group _ items => items

end Item

/-- A form: a heading and items. -/
structure Schema where
  /-- The heading. -/
  title : String
  /-- The text under the heading. -/
  description : Option String
  /-- The items. -/
  items : List Item
  deriving Repr, Inhabited

/-! ## Fields -/

namespace Field

/-- The rules of a field. -/
def ruleList (f : Field) : List Rule :=
  f.rules.getD []

/-- The rules that always apply. -/
def unconditionalRules (f : Field) : List Rule :=
  f.ruleList.filter (·.condition.isNone)

/-- Whether the field can be hidden by a condition of its own. -/
def isConditional (f : Field) : Bool :=
  f.showWhen.isSome || f.visibility.isSome

/-- Whether the field may be missing: one that can be hidden may; otherwise an unconditional
`required` rule forbids it, and so does any unconditional rule on a checkbox. -/
def isOptional (f : Field) : Bool :=
  if f.isConditional then true
  else if f.unconditionalRules.any (·.kind == .required) then false
  else !(f.kind == .checkbox && !f.unconditionalRules.isEmpty)

/-- What the field holds when it appears. -/
def initialValue (f : Field) : Value :=
  match f.default with
  | some d => d.toValue
  | none =>
    match f.kind with
    | .checkbox => .bool false
    | .select | .radio => .null
    | _ => .text ""

/-- The values of the options, empty if there are none. -/
def optionValues (f : Field) : List String :=
  (f.options.getD []).map (·.value)

end Field

end DynamicForms
