import DynamicForms.Json.Error
import DynamicForms.Schema.Decode
import DynamicForms.Text.Quoted

/-!
# `DynamicForms.Schema.Error` — why a text is not a schema

A text may fail to be a document, its value may not have the shape of a schema, or a rule may hold a
pattern that cannot be read. Every problem but the first names the place in the document.

## Contents
- `ShapeFlaw`: what can be wrong with the shape, and its words.
- `SchemaError`, `SchemaError.message`, `SchemaError.path`.
-/

namespace DynamicForms

/-- Which kinds of fields and rules there are, as a message lists them. -/
def listed (names : List String) : String :=
  ", ".intercalate names

/-- What is wrong with a part of a schema. -/
inductive ShapeFlaw where
  /-- An item or rule is no object. -/
  | notObject
  /-- An item has no identifier. -/
  | noId
  /-- The identifier is blank. -/
  | blankId
  /-- An item has no type. -/
  | noType
  /-- A group has no heading. -/
  | groupTitle
  /-- A group has no items. -/
  | groupFields
  /-- A field has no label. -/
  | noLabel
  /-- There is no such type of field. -/
  | unknownType (name : String)
  /-- A choice has no options. -/
  | noOptions (kind : FieldKind)
  /-- An option lacks its label or value. -/
  | badOption
  /-- The rules are no list. -/
  | rulesNotList
  /-- There is no such type of rule. -/
  | unknownRule (shown : String)
  /-- A rule has no message. -/
  | ruleMessage
  /-- The condition of a rule is incomplete. -/
  | ruleCondition
  /-- A `showWhen` condition is incomplete. -/
  | showWhen
  /-- A visibility condition is incomplete. -/
  | visibility
  /-- A lookup has no endpoint. -/
  | autoFillEndpoint
  /-- References of a lookup are no list of texts. -/
  | autoFillReferences (name : String)
  /-- A value does not fit. -/
  | misfit (fault : Decode.Fault)
  /-- A pattern cannot be read. -/
  | badPattern (pattern reason : String)
  deriving DecidableEq, Repr

/-- The words for what is wrong. -/
def ShapeFlaw.message : ShapeFlaw → String
  | .notObject => "Must be an object"
  | .noId => "Missing or invalid \"id\" field"
  | .blankId => "Field \"id\" cannot be empty"
  | .noType => "Missing or invalid \"type\" field"
  | .groupTitle => "Group must have a \"title\" field"
  | .groupFields => "Group must have a \"fields\" array"
  | .noLabel => "Field must have a \"label\""
  | .unknownType name =>
    "Invalid field type \"" ++ name ++ "\". Must be one of: "
      ++ listed (FieldKind.all.map FieldKind.name)
  | .noOptions kind => kind.name ++ " field must have \"options\" array"
  | .badOption => "Option must have string \"label\" and \"value\""
  | .rulesNotList => "\"validations\" must be an array"
  | .unknownRule shown =>
    "Invalid validation type \"" ++ shown ++ "\". Must be one of: "
      ++ listed (RuleKind.all.map RuleKind.name)
  | .ruleMessage => "Validation must have a \"message\""
  | .ruleCondition =>
    "\"condition\" needs a \"field\" and an \"equals\" or \"notEquals\" operator"
  | .showWhen => "\"showWhen\" needs a \"field\" and an \"equals\" value"
  | .visibility => "\"visibilityCondition\" needs a \"field\", an \"operator\" and a \"value\""
  | .autoFillEndpoint => "\"autoFill\" must have an \"apiEndpoint\""
  | .autoFillReferences name => "\"autoFill." ++ name ++ "\" must be an array of field ids"
  | .misfit fault => fault.message
  | .badPattern pattern reason => "Invalid pattern " ++ Text.quote pattern ++ ": " ++ reason

/-- Why a text is not a schema. -/
inductive SchemaError where
  /-- The text is no document. -/
  | noDocument (flaw : Json.Flaw) (place : Json.Place)
  /-- A whole number in the text has too many digits. -/
  | tooManyDigits (count : Nat)
  /-- The document is no object. -/
  | notObject
  /-- There is no heading. -/
  | noTitle
  /-- There is no list of items. -/
  | noFields
  /-- The list of items is empty. -/
  | emptyFields
  /-- Two items have one identifier. -/
  | duplicateId (id : String) (path : String)
  /-- Something is wrong at a place. -/
  | flawed (path : String) (flaw : ShapeFlaw)
  deriving DecidableEq, Repr

namespace SchemaError

/-- The message of an error. -/
def message : SchemaError → String
  | .noDocument flaw place => "Invalid JSON syntax: " ++ (Json.Error.flawed flaw place).message
  | .tooManyDigits count => (Json.Error.tooManyDigits count).message
  | .notObject => "Schema must be a JSON object"
  | .noTitle => "Schema must have a \"title\" field (string)"
  | .noFields => "Schema must have a \"fields\" array"
  | .emptyFields => "Schema must have at least one field"
  | .duplicateId id path => "Duplicate field ID \"" ++ id ++ "\" found at " ++ path
  | .flawed path flaw => path ++ ": " ++ flaw.message

/-- The place that an error names; empty if it names none. -/
def path : SchemaError → String
  | .noTitle => "title"
  | .noFields => "fields"
  | .emptyFields => "fields"
  | .duplicateId _ path => path
  | .flawed path _ => path
  | _ => ""

/-- The code of an error: whether it concerns the text or what the text describes. -/
def code : SchemaError → String
  | .noDocument _ _ => "schema_syntax_error"
  | _ => "schema_shape_error"

/-- The error of a text that is no document. -/
def ofJson : Json.Error → SchemaError
  | .flawed flaw place => .noDocument flaw place
  | .tooManyDigits count => .tooManyDigits count

end SchemaError

end DynamicForms
