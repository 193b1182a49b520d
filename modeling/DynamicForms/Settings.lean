import DynamicForms.Entries
import DynamicForms.Number.Numeral
import DynamicForms.Timer.Debouncer
import DynamicForms.Lookup.Channel

/-!
# `DynamicForms.Settings` — what can be set from outside

Settings come from named texts. A number that is blank or cannot be read is taken to be the usual one.

## Contents
- `Settings`, `Settings.usual`.
- `Settings.ofTexts`.
-/

namespace DynamicForms

/-- What can be set from outside. -/
structure Settings where
  /-- How long to wait before the text of a schema is read. -/
  schemaDelay : Int
  /-- How long to wait before a draft is saved. -/
  draftDelay : Int
  /-- How long the built-in lookups take. -/
  builtinDelay : Int
  /-- What endpoints are relative to. -/
  baseUrl : String
  /-- How many seconds to wait for a remote service. -/
  timeout : Double
  /-- The file that drafts are kept in, if they are. -/
  draftPath : Option String
  deriving Repr, Inhabited

namespace Settings

/-- The settings when nothing is said. -/
def usual : Settings where
  schemaDelay := Debouncer.usualDelay
  draftDelay := Debouncer.usualDelay
  builtinDelay := Builtin.usualDelay
  baseUrl := ""
  timeout := .ofInt 10
  draftPath := none

/-- A number among the named texts, or the usual one. -/
def number {α : Type} (given : Entries String) (name : String) (usual : α)
    (read? : String → Option α) : α :=
  ((given.get? name).bind read?).getD usual

/-- The settings that named texts give. -/
def ofTexts (given : Entries String) : Settings where
  schemaDelay := number given "FORM_SCHEMA_DEBOUNCE_MS" usual.schemaDelay Numeral.readInt?
  draftDelay := number given "FORM_DRAFT_DEBOUNCE_MS" usual.draftDelay Numeral.readInt?
  builtinDelay := number given "AUTOFILL_MOCK_DELAY_MS" usual.builtinDelay Numeral.readInt?
  baseUrl := (given.get? "AUTOFILL_BASE_URL").getD usual.baseUrl
  timeout := number given "AUTOFILL_HTTP_TIMEOUT" usual.timeout Numeral.readDouble?
  draftPath := (given.get? "FORM_DRAFT_PATH").filter (!·.isEmpty)

/-- The channel that settings describe. -/
def channel (s : Settings) : Channel :=
  .client s.builtinDelay (some ⟨s.baseUrl, .double s.timeout⟩)

end Settings

end DynamicForms
