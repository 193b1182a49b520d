import DynamicForms.Json.Reader
import DynamicForms.Json.Writer

/-!
# `DynamicForms.Draft.Storage` — texts kept by key

Texts are kept by key in one of three places: in memory; in a file, as one document with all keys,
which is written anew on every change; or in a place that cannot be written. A file that is not there
yet holds nothing, and neither does a document that is no object. A text that is no document is never
touched: every operation on it fails. Entries of the document that are no texts are kept but not seen.

## Contents
- `Storage`, `StorageError`.
- **Files.** `Storage.fileEntries`, `Storage.fileText`.
- **Operations.** `Storage.get?`, `Storage.put`, `Storage.remove`.
-/

namespace DynamicForms

/-- Where texts are kept by key. -/
inductive Storage where
  /-- In memory. -/
  | memory (entries : Entries String)
  /-- In a file; none if it is not there yet. -/
  | file (content : Option String)
  /-- Where nothing is and nothing can be written. -/
  | blocked
  deriving DecidableEq, Repr, Inhabited

/-- Why a storage fails. -/
inductive StorageError where
  /-- The text of the file is no document. -/
  | unreadable
  /-- The place cannot be written. -/
  | unwritable
  deriving DecidableEq, Repr, Inhabited

namespace Storage

/-! ## Files -/

/-- The entries of the document in a file. -/
def fileEntries : Option String → Except StorageError Value.Object
  | none => .ok []
  | some text =>
    match Json.read text with
    | .ok (.object fields) => .ok fields
    | .ok _ => .ok []
    | .error _ => .error .unreadable

/-- The text of a file with some entries. They come from a document, so they can be written. -/
def fileText (entries : Value.Object) : String :=
  (Json.text? Json.Style.spaced (.object entries)).getD ""

/-! ## Operations -/

/-- The text under a key. -/
def get? (s : Storage) (key : String) : Except StorageError (Option String) :=
  match s with
  | .memory entries => .ok (entries.get? key)
  | .file content => (fileEntries content).map fun entries =>
      (Entries.get? entries key).bind Value.text?
  | .blocked => .ok none

/-- Keep a text under a key. -/
def put (s : Storage) (key text : String) : Except StorageError Storage :=
  match s with
  | .memory entries => .ok (.memory (entries.put key text))
  | .file content => (fileEntries content).map fun entries =>
      .file (some (fileText (Entries.put entries key (.text text))))
  | .blocked => .error .unwritable

/-- Keep nothing under a key. A file in which nothing but null stands there stays as it is. -/
def remove (s : Storage) (key : String) : Except StorageError Storage :=
  match s with
  | .memory entries => .ok (.memory (entries.erase key))
  | .file content => (fileEntries content).map fun entries =>
      match Entries.get? entries key with
      | none => .file content
      | some Value.null => .file content
      | some _ => .file (some (fileText (Entries.erase entries key)))
  | .blocked => .ok .blocked

end Storage

end DynamicForms
