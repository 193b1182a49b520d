import DynamicForms.Draft.Storage

/-!
# `DynamicForms.Draft.Drafts` — unfinished forms

A draft is the data of an unfinished form, kept in a storage under the name of the form within a
namespace. What is kept is a record: the name once more, the data and the time. A draft is found only in
a record that names the form asked for. Failures of the storage, and data that cannot be written, are
passed over in silence.

## Contents
- `Drafts`, `Drafts.key`.
- `Drafts.load?`, `Drafts.save`, `Drafts.clear`.
-/

namespace DynamicForms

/-- The drafts of a namespace. -/
structure Drafts where
  /-- Where they are kept. -/
  storage : Storage
  /-- The namespace. -/
  space : String
  /-- The time that is put on records, in milliseconds. -/
  time : Int
  deriving Repr, Inhabited

namespace Drafts

/-- The namespace if no other is chosen. -/
def usualSpace : String := "form-draft"

/-- The key of the draft of a form. -/
def key (d : Drafts) (formId : String) : String :=
  d.space ++ ":" ++ formId

/-- The record of a draft. -/
def record (d : Drafts) (formId : String) (data : Value) : Value :=
  .object [("formId", .text formId), ("data", data), ("timestamp", .int d.time)]

/-- The data in a record of a form. -/
def recordData? (formId : String) : Value → Option Value.Object
  | .object fields =>
    match Entries.get? fields "formId" with
    | some (.text named) =>
      if named = formId then (Entries.get? fields "data").bind Value.object? else none
    | _ => none
  | _ => none

/-- The draft of a form. -/
def load? (d : Drafts) (formId : String) : Option Value.Object :=
  match d.storage.get? (d.key formId) with
  | .ok (some text) =>
    match Json.read text with
    | .ok v => recordData? formId v
    | .error _ => none
  | _ => none

/-- The drafts after a change of the storage, or as they were if it fails. -/
def after (d : Drafts) (change : Except StorageError Storage) : Drafts :=
  match change with
  | .ok storage => { d with storage }
  | .error _ => d

/-- Save the draft of a form. -/
def save (d : Drafts) (formId : String) (data : Value) : Drafts :=
  match Json.text? Json.Style.spaced (d.record formId data) with
  | some text => d.after (d.storage.put (d.key formId) text)
  | none => d

/-- Throw the draft of a form away. -/
def clear (d : Drafts) (formId : String) : Drafts :=
  d.after (d.storage.remove (d.key formId))

end Drafts

end DynamicForms
