import DynamicForms.Draft.Autosaver
import DynamicForms.Proofs.Json.Serialisable

/-!
# `DynamicForms.Proofs.Draft.Record` — what is kept of a draft

In memory, and in a file that can be read, a text is kept as it was put. So what is loaded after saving is
what was saved, apart from the marks of its NaNs; and whatever is loaded has a text again. The text by
which an autosaver compares data tells, of data that has one, what it says.

## Contents
- `Storage.IsWritable`; `exists_put`, `exists_remove`.
- `Drafts.IsWritable`; `load?_save`, `serialisable_of_load?`.
- `snapshotText_ne_empty`, `sameDocument_of_snapshotText`.
- `Autosaver.exists_notice_eq`: what noticing an edit concerns.
- `Autosaver.IsFaithful`: what an autosaver believes to be saved is kept; `IsFaithful.notice`, `fire`,
  `restore`, `clearDraft`.
-/

namespace DynamicForms

open Json (Serialisable)
open Value (Object SameDocument)

/-! ## Storages -/

namespace Storage

variable {s : Storage} {content : Option String} {entries : Object} {key text : String}

/-- A storage in which texts can be put: in memory, or in a file that can be read. -/
def IsWritable : Storage → Prop
  | .memory _ => True
  | .file content => ∃ entries, fileEntries content = .ok entries
  | .blocked => False

/-- The entries of a file have a text. -/
theorem serialisable_of_fileEntries (h : fileEntries content = .ok entries) :
    Serialisable (.object entries) := by
  have hnone : Serialisable (.object []) := .object List.nodup_nil fun _ hentry => by cases hentry
  unfold fileEntries at h
  split at h
  · cases h
    exact hnone
  · split at h
    · next hread =>
      cases h
      exact Json.serialisable_of_read hread
    · cases h
      exact hnone
    · cases h

/-- A file is read as it was written, apart from the marks of NaNs. -/
theorem fileEntries_fileText (h : Serialisable (.object entries)) :
    fileEntries (some (fileText entries)) = .ok (Value.unmarkedFields entries) := by
  obtain ⟨text, htext, hread⟩ := h.exists_text? Json.Style.spaced_spaced
  rw [fileText, htext, Option.getD_some, fileEntries, hread]
  rfl

/-- **What is put is kept.** -/
theorem exists_put (h : s.IsWritable) (key text : String) :
    ∃ s', s.put key text = .ok s' ∧ s'.IsWritable ∧ s'.get? key = .ok (some text) := by
  cases s with
  | memory entries => exact ⟨_, rfl, trivial, congrArg Except.ok (Entries.get?_put_self entries key text)⟩
  | blocked => exact h.elim
  | file content =>
    obtain ⟨entries, hentries⟩ := h
    have hread := fileEntries_fileText
      ((serialisable_of_fileEntries hentries).put key (.text text))
    refine ⟨.file (some (fileText (Entries.put entries key (.text text)))), ?_, ⟨_, hread⟩, ?_⟩
    · rw [put, hentries]
      rfl
    · rw [get?, hread, Except.map, Value.get?_unmarkedFields, Entries.get?_put_self]
      rfl

theorem exists_remove (h : s.IsWritable) (key : String) :
    ∃ s', s.remove key = .ok s' ∧ s'.IsWritable := by
  cases s with
  | memory entries => exact ⟨_, rfl, trivial⟩
  | blocked => exact h.elim
  | file content =>
    obtain ⟨entries, hentries⟩ := h
    have hread := fileEntries_fileText ((serialisable_of_fileEntries hentries).erase key)
    rw [remove, hentries, Except.map]
    split
    · exact ⟨_, rfl, _, hentries⟩
    · exact ⟨_, rfl, _, hentries⟩
    · exact ⟨_, rfl, _, hread⟩

end Storage

/-! ## Drafts -/

namespace Drafts

variable {d : Drafts} {formId : String} {data : Object}

/-- Drafts can be put where they are kept, and their time has a text. -/
structure IsWritable (d : Drafts) : Prop where
  /-- Drafts can be put. -/
  storage : d.storage.IsWritable
  /-- The time is no number that is too long to be read. -/
  time : d.time.natAbs < 10 ^ Json.maxDigits

theorem IsWritable.save (h : d.IsWritable) (formId : String) (v : Value) :
    (d.save formId v).IsWritable := by
  unfold Drafts.save
  split
  · next text _ =>
    obtain ⟨storage, hput, hwritable, -⟩ := Storage.exists_put h.storage (d.key formId) text
    rw [hput]
    exact ⟨hwritable, h.time⟩
  · exact h

theorem IsWritable.clear (h : d.IsWritable) (formId : String) : (d.clear formId).IsWritable := by
  obtain ⟨storage, hremove, hwritable⟩ := Storage.exists_remove h.storage (d.key formId)
  rw [Drafts.clear, hremove]
  exact ⟨hwritable, h.time⟩

theorem serialisable_record (htime : d.time.natAbs < 10 ^ Json.maxDigits)
    (hdata : Serialisable (.object data)) : Serialisable (d.record formId (.object data)) := by
  refine .object (by simp [Entries.keys]) fun entry hentry => ?_
  simp only [List.mem_cons, List.not_mem_nil, or_false] at hentry
  rcases hentry with rfl | rfl | rfl
  · exact .text formId
  · exact hdata
  · exact .int htime

theorem recordData?_unmarked (formId : String) (data : Object) :
    recordData? formId (d.record formId (.object data)).unmarked = some (Value.unmarkedFields data) := by
  simp [record, Value.unmarked, Value.unmarkedFields, recordData?, Entries.get?, Value.object?]

/-- **What was saved is loaded**, apart from the marks of NaNs. -/
theorem load?_save (h : d.IsWritable) (hdata : Serialisable (.object data)) :
    (d.save formId (.object data)).load? formId = some (Value.unmarkedFields data) := by
  have hrecord : Serialisable (d.record formId (.object data)) := serialisable_record h.time hdata
  obtain ⟨text, htext, hread⟩ := hrecord.exists_text? Json.Style.spaced_spaced
  obtain ⟨storage, hput, -, hget⟩ := Storage.exists_put h.storage (d.key formId) text
  have hsaved : d.save formId (.object data) = { d with storage } := by
    rw [Drafts.save, htext]
    simp only [hput]
    rfl
  have hkey : ({ d with storage } : Drafts).key formId = d.key formId := rfl
  rw [hsaved, load?, hkey, hget]
  simp only [hread]
  exact recordData?_unmarked formId data

/-- Whatever is loaded was read, so it can be written. -/
theorem serialisable_of_load? (h : d.load? formId = some data) : Serialisable (.object data) := by
  unfold load? at h
  split at h
  · split at h
    · next v hread =>
      unfold recordData? at h
      split at h
      · split at h
        · split at h
          · obtain ⟨w, hget, hobject⟩ := Option.bind_eq_some_iff.mp h
            have hw := (Json.serialisable_of_read hread).of_get? hget
            cases w with
            | object fields =>
              cases hobject
              exact hw
            | _ => cases hobject
          · cases h
        · cases h
      · cases h
    · cases h
  · cases h

end Drafts

/-! ## Comparing data -/

variable {data other : Object}

theorem snapshotText_ne_empty (h : Serialisable (.object data)) : snapshotText data ≠ "" := by
  obtain ⟨s, hs, hne⟩ := h.exists_sortedText?
  rwa [snapshotText, hs]

theorem snapshotText_unmarkedFields (data : Object) :
    snapshotText (Value.unmarkedFields data) = snapshotText data :=
  congrArg (fun text : Option String => text.getD "") (Json.sortedText?_unmarked (.object data))

/-- Data with one text says the same. -/
theorem sameDocument_of_snapshotText (hdata : Serialisable (.object data))
    (hother : Serialisable (.object other)) (h : snapshotText data = snapshotText other) :
    SameDocument (.object data) (.object other) := by
  obtain ⟨s, hs, -⟩ := hdata.exists_sortedText?
  obtain ⟨t, ht, -⟩ := hother.exists_sortedText?
  refine Json.sameDocument_of_sortedText? hdata hother ?_
  rw [snapshotText, snapshotText, hs, ht] at h
  rw [hs, ht]
  exact congrArg some h

/-! ## What an autosaver believes -/

namespace Autosaver

variable {a : Autosaver}

/-- What an autosaver believes to be saved, if anything, is what is kept. -/
structure IsFaithful (a : Autosaver) : Prop where
  /-- Drafts can be saved. -/
  writable : a.drafts.IsWritable
  /-- What was last saved or restored is the draft, if there was anything. -/
  believes : a.lastSaved = "" ∨ ∃ kept, a.draft? = some kept ∧ snapshotText kept = a.lastSaved

/-- Noticing an edit concerns nothing but the timer and whether the next edit counts. -/
theorem exists_notice_eq (a : Autosaver) (data : Object) (now mark : Nat) :
    ∃ debouncer skipNext, a.notice data now mark = { a with debouncer, skipNext } := by
  unfold Autosaver.notice
  split
  · exact ⟨_, _, rfl⟩
  · dsimp only
    split
    · exact ⟨_, _, rfl⟩
    · exact ⟨_, _, rfl⟩

theorem ticket_notice (a : Autosaver) (data : Object) (now mark : Nat) :
    (a.notice data now mark).ticket = a.ticket := by
  obtain ⟨debouncer, skipNext, hnotice⟩ := a.exists_notice_eq data now mark
  rw [hnotice]

theorem formId_notice (a : Autosaver) (data : Object) (now mark : Nat) :
    (a.notice data now mark).formId = a.formId := by
  obtain ⟨debouncer, skipNext, hnotice⟩ := a.exists_notice_eq data now mark
  rw [hnotice]

theorem drafts_notice (a : Autosaver) (data : Object) (now mark : Nat) :
    (a.notice data now mark).drafts = a.drafts := by
  obtain ⟨debouncer, skipNext, hnotice⟩ := a.exists_notice_eq data now mark
  rw [hnotice]

theorem isFaithful_ofDrafts {formId : String} {drafts : Drafts} (h : drafts.IsWritable) (delay : Int) :
    (ofDrafts formId drafts delay).IsFaithful :=
  ⟨h, Or.inl rfl⟩

theorem IsFaithful.notice (h : a.IsFaithful) (data : Object) (now mark : Nat) :
    (a.notice data now mark).IsFaithful := by
  obtain ⟨debouncer, skipNext, hnotice⟩ := a.exists_notice_eq data now mark
  rw [hnotice]
  exact ⟨h.writable, h.believes⟩

theorem draft?_fire (h : a.drafts.IsWritable) (hdata : Serialisable (.object data)) :
    (a.fire data).draft? = some (Value.unmarkedFields data) :=
  Drafts.load?_save h hdata

theorem IsFaithful.fire (h : a.IsFaithful) (hdata : Serialisable (.object data)) :
    (a.fire data).IsFaithful :=
  ⟨h.writable.save _ _, Or.inr ⟨_, draft?_fire h.writable hdata, snapshotText_unmarkedFields data⟩⟩

theorem IsFaithful.restore (h : a.IsFaithful) : a.restore.IsFaithful := by
  refine ⟨h.writable, ?_⟩
  rw [Autosaver.restore]
  cases hdraft : a.draft? with
  | none => exact Or.inl rfl
  | some kept => exact Or.inr ⟨kept, hdraft, rfl⟩

theorem IsFaithful.clearDraft (h : a.IsFaithful) : a.clearDraft.IsFaithful :=
  ⟨h.writable.clear _, Or.inl rfl⟩

/-- **What is believed to be saved is kept**: if the data has the text of what was saved last, the draft
says what the data says. -/
theorem IsFaithful.exists_draft? (h : a.IsFaithful) (hdata : Serialisable (.object data))
    (hsaved : a.lastSaved = snapshotText data) :
    ∃ kept, a.draft? = some kept ∧ SameDocument (.object kept) (.object data) := by
  obtain hnothing | ⟨kept, hdraft, hkept⟩ := h.believes
  · exact absurd (hsaved.symm.trans hnothing) (snapshotText_ne_empty hdata)
  · exact ⟨kept, hdraft, sameDocument_of_snapshotText (Drafts.serialisable_of_load? hdraft) hdata
      (hkept.trans hsaved)⟩

end Autosaver

end DynamicForms
