import DynamicForms.Json.Writer
import DynamicForms.Text.Blank

/-!
# `DynamicForms.Lookup.Request` — when a lookup is asked for, and under which key

A lookup is asked for once every value it depends on is filled in. The request is known by its key,
the compact document of those values by name; two requests are the same exactly if their keys are.

## Contents
- `Value.isFilledIn`.
- `requestKey?`.
-/

namespace DynamicForms

/-- Whether a field is filled in: neither absent nor null, no blank text, no empty list. -/
def Value.isFilledIn : Value → Bool
  | .absent => false
  | .null => false
  | .text s => !Text.isBlankText s
  | .list items => !items.isEmpty
  | _ => true

/-- The key of a request; none if a value cannot be written. -/
def requestKey? (params : Value.Object) : Option String :=
  Json.text? Json.Style.compact (.object params)

end DynamicForms
