import DynamicForms.Schema.Basic

/-!
# `DynamicForms.Schema.Document` — schemas as values

A schema as the value that its document decodes to: every part under its name in a fixed order, and
nothing for a part that is not there.

## Contents
- `entry?`: an entry that is left out when there is no value.
- `toValue` for every part of a schema; `Schema.toValue`.
-/

namespace DynamicForms

/-- An entry of an object. -/
def entry (name : String) (v : Value) : Value.Object :=
  [(name, v)]

/-- An entry that is left out when there is no value. -/
def entry? (name : String) (v : Option Value) : Value.Object :=
  match v with
  | some v => [(name, v)]
  | none => []

/-- An option as a value. -/
def FieldOption.toValue (o : FieldOption) : Value :=
  .object (entry "label" (.text o.label) ++ entry "value" (.text o.value))

/-- A `showWhen` condition as a value. -/
def ShowWhen.toValue (c : ShowWhen) : Value :=
  .object (entry "field" (.text c.field) ++ entry "equals" c.equals.toValue)

/-- What a visibility condition compares with, as a value. -/
def Comparand.toValue : Comparand → Value
  | .one s => .text s
  | .many texts => Value.texts texts

/-- A visibility condition as a value. -/
def VisibilityCondition.toValue (c : VisibilityCondition) : Value :=
  .object (entry "field" (.text c.field) ++ entry "operator" (.text c.operator.name)
    ++ entry "value" c.value.toValue)

/-- The condition of a rule as a value. -/
def RuleCondition.toValue (c : RuleCondition) : Value :=
  .object (entry "field" (.text c.field) ++ entry "operator" (.text c.operator.name)
    ++ entry "value" c.value.toValue)

/-- A rule as a value. -/
def Rule.toValue (r : Rule) : Value :=
  .object (entry "type" (.text r.kind.name) ++ entry? "value" (r.value.map RuleValue.toValue)
    ++ entry "message" (.text r.message)
    ++ entry? "condition" (r.condition.map RuleCondition.toValue))

/-- A lookup declaration as a value. -/
def AutoFill.toValue (a : AutoFill) : Value :=
  .object (entry "apiEndpoint" (.text a.endpoint) ++ entry "dependsOn" (Value.texts a.dependsOn)
    ++ entry "targetFields" (Value.texts a.targets))

/-- A field as a value. -/
def Field.toValue (f : Field) : Value :=
  .object (entry "id" (.text f.id) ++ entry "type" (.text f.kind.name)
    ++ entry "label" (.text f.label) ++ entry? "placeholder" (f.placeholder.map .text)
    ++ entry? "defaultValue" (f.default.map DefaultValue.toValue)
    ++ entry? "options" (f.options.map fun os => .list (os.map FieldOption.toValue))
    ++ entry? "validations" (f.rules.map fun rs => .list (rs.map Rule.toValue))
    ++ entry? "visibilityCondition" (f.visibility.map VisibilityCondition.toValue)
    ++ entry? "autoFill" (f.autoFill.map AutoFill.toValue)
    ++ entry? "showWhen" (f.showWhen.map ShowWhen.toValue))

/-- A group as a value, given its items as values. -/
def GroupHeader.toValue (g : GroupHeader) (items : List Value) : Value :=
  .object (entry "id" (.text g.id) ++ entry "type" (.text groupTypeName)
    ++ entry "title" (.text g.title) ++ entry? "description" (g.description.map .text)
    ++ entry "fields" (.list items) ++ entry? "showWhen" (g.showWhen.map ShowWhen.toValue)
    ++ entry? "autoFill" (g.autoFill.map AutoFill.toValue))

mutual

/-- An item as a value. -/
def Item.toValue : Item → Value
  | .field f => f.toValue
  | .group g items => g.toValue (Item.toValues items)

/-- Items as values. -/
def Item.toValues : List Item → List Value
  | [] => []
  | item :: rest => Item.toValue item :: Item.toValues rest

end

/-- The entries of a schema's document. -/
def Schema.toObject (s : Schema) : Value.Object :=
  entry "title" (.text s.title) ++ entry? "description" (s.description.map .text)
    ++ entry "fields" (.list (Item.toValues s.items))

/-- A schema as a value. -/
def Schema.toValue (s : Schema) : Value :=
  .object s.toObject

end DynamicForms
