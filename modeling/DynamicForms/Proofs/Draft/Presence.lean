import DynamicForms.Proofs.Draft.Autosaving

/-!
# `DynamicForms.Proofs.Draft.Presence` — whether there is a draft

An autosaver says whether there is a draft without looking. It looks once, when it is made; from then on it
goes by what it does itself: it has thrown the draft away, or it has saved. Throwing the draft away leaves
none in any storage, because one that cannot be read shows none either.

Saving is another matter. It may come to nothing, because the data has no text or because nothing can be put
into the storage, and nobody is told. The data need not be that of the edit that set the timer: one that has
no text sets no timer, but stops none. So what is said is true as long as every save comes to something or
leaves a draft that was there before, and not beyond that.

## Contents
- `Storage.IsTable`: each key stands once; `IsTable.put`, `get?_of_remove`.
- `Drafts.load?_clear`: what was thrown away is not found; `save_eq_self`.
- `Autosaver.LeavesDraft`: a save leaves a draft.
- `Autosaver.Truthful`: what is said about the draft is so; one lemma for each thing that can be done.
- `Notebook.Event.saves`, `SavesWell`; `tells_event`, `tells_events`.
- `Notebook.hasDraft_eq_of_run`; `not_hasDraft_eq_of_run`.
-/

namespace DynamicForms

open Json (Serialisable)
open Run (keeps_pure keeps_bind)
open Value (Object)

/-! ## Storages -/

namespace Storage

variable {s s' : Storage} {key text : String}

/-- Each key stands once. The document in a file sees to that itself. -/
def IsTable : Storage → Prop
  | .memory entries => (Entries.keys entries).Nodup
  | .file _ => True
  | .blocked => True

instance (s : Storage) : Decidable s.IsTable :=
  match s with
  | .memory entries => inferInstanceAs (Decidable (Entries.keys entries).Nodup)
  | .file _ | .blocked => inferInstanceAs (Decidable True)

theorem IsTable.put (h : s.IsTable) (hput : s.put key text = .ok s') : s'.IsTable := by
  cases s with
  | memory entries =>
    cases hput
    exact Entries.nodup_keys_put h key text
  | file content =>
    rw [Storage.put] at hput
    cases hentries : fileEntries content with
    | error e =>
      rw [hentries] at hput
      cases hput
    | ok entries =>
      rw [hentries] at hput
      cases hput
      trivial
  | blocked => cases hput

/-- What was removed is gone. -/
theorem get?_of_remove (h : s.IsTable) (hremove : s.remove key = .ok s') :
    s'.IsTable ∧ s'.get? key = .ok none := by
  cases s with
  | memory entries =>
    cases hremove
    exact ⟨List.Nodup.sublist (Entries.keys_erase_sublist entries key) h,
      congrArg Except.ok (Entries.get?_erase_self h key)⟩
  | blocked =>
    cases hremove
    exact ⟨trivial, rfl⟩
  | file content =>
    rw [remove] at hremove
    cases hentries : fileEntries content with
    | error e =>
      rw [hentries] at hremove
      cases hremove
    | ok entries =>
      have hserialisable := serialisable_of_fileEntries hentries
      rw [hentries, Except.map, Except.ok.injEq] at hremove
      subst hremove
      -- a file in which there is nothing to remove stays as it is
      cases hget : Entries.get? entries key with
      | none => exact ⟨trivial, by simp only [get?, hentries, Except.map, hget, Option.bind_none]⟩
      | some v =>
        cases v with
        | null => exact ⟨trivial, by simp only [get?, hentries, Except.map, hget]; rfl⟩
        | _ =>
          refine ⟨trivial, ?_⟩
          have hnodup := (Json.serialisable_object_iff.mp hserialisable).1
          simp only [get?, fileEntries_fileText (hserialisable.erase key), Except.map,
            Value.get?_unmarkedFields, Entries.get?_erase_self hnodup, Option.map_none, Option.bind_none]

end Storage

/-! ## Drafts -/

namespace Drafts

variable {d : Drafts}

theorem isTable_save (h : d.storage.IsTable) (formId : String) (v : Value) :
    (d.save formId v).storage.IsTable := by
  unfold Drafts.save
  split
  · next text _ =>
    cases hput : d.storage.put (d.key formId) text with
    | error e => exact h
    | ok storage => exact h.put hput
  · exact h

theorem isTable_clear (h : d.storage.IsTable) (formId : String) : (d.clear formId).storage.IsTable := by
  unfold Drafts.clear
  cases hremove : d.storage.remove (d.key formId) with
  | error e => exact h
  | ok storage => exact (Storage.get?_of_remove h hremove).1

/-- A storage from which nothing can be removed has nothing to show. -/
theorem get?_of_remove_error {s : Storage} {key : String} {e : StorageError}
    (h : s.remove key = .error e) : s.get? key = .error e := by
  cases s with
  | memory entries => cases h
  | blocked => cases h
  | file content =>
    rw [Storage.remove] at h
    rw [Storage.get?]
    cases hentries : Storage.fileEntries content with
    | error e' =>
      rw [hentries] at h
      cases h
      rfl
    | ok entries =>
      rw [hentries] at h
      cases h

/-- **What was thrown away is not found**, whatever the storage. -/
theorem load?_clear (h : d.storage.IsTable) (formId : String) : (d.clear formId).load? formId = none := by
  unfold Drafts.clear
  cases hremove : d.storage.remove (d.key formId) with
  | error e =>
    show d.load? formId = none
    rw [load?, get?_of_remove_error hremove]
  | ok storage =>
    have hkey : ({ d with storage } : Drafts).key formId = d.key formId := rfl
    show ({ d with storage } : Drafts).load? formId = none
    rw [load?, hkey, (Storage.get?_of_remove h hremove).2]

/-- Data without a text changes nothing. -/
theorem save_eq_self {v : Value} (h : Json.text? Json.Style.spaced v = none) (formId : String) :
    d.save formId v = d := by
  have hwrite : Json.write? Json.Style.spaced v = none := by
    rwa [Json.text?, Option.map_eq_none_iff] at h
  have hrecord : Json.text? Json.Style.spaced (d.record formId v) = none := by
    simp [Json.text?, record, Json.write?, Json.writeFields?, hwrite]
  rw [Drafts.save, hrecord]

end Drafts

/-! ## What an autosaver says -/

namespace Autosaver

variable {a : Autosaver} {data : Object}

/-- What an autosaver says about its draft is so. -/
structure Truthful (a : Autosaver) : Prop where
  /-- Each key of the storage stands once. -/
  table : a.drafts.storage.IsTable
  /-- There is a draft exactly if it says so. -/
  tells : a.hasDraft = a.draft?.isSome

/-- It is enough to look at the drafts and at what is said. -/
theorem Truthful.of_same {a' : Autosaver} (h : a.Truthful) (hid : a'.formId = a.formId)
    (hdrafts : a'.drafts = a.drafts) (htold : a'.hasDraft = a.hasDraft) : a'.Truthful := by
  refine ⟨hdrafts ▸ h.table, ?_⟩
  rw [htold, h.tells, draft?, draft?, hid, hdrafts]

theorem truthful_ofDrafts {drafts : Drafts} (h : drafts.storage.IsTable) (formId : String) (delay : Int) :
    (ofDrafts formId drafts delay).Truthful :=
  ⟨h, rfl⟩

theorem Truthful.notice (h : a.Truthful) (data : Object) (now mark : Nat) :
    (a.notice data now mark).Truthful := by
  obtain ⟨debouncer, skipNext, hnotice⟩ := a.exists_notice_eq data now mark
  rw [hnotice]
  exact h.of_same rfl rfl rfl

theorem Truthful.clearDraft (h : a.Truthful) : a.clearDraft.Truthful := by
  refine ⟨Drafts.isTable_clear h.table a.formId, ?_⟩
  have hnone : a.clearDraft.draft? = none := Drafts.load?_clear h.table a.formId
  rw [hnone]
  rfl

/-- A save leaves a draft: drafts can be put where they are kept, and the data has a text, or it has none and
there is a draft already. -/
structure LeavesDraft (a : Autosaver) (data : Object) : Prop where
  /-- Drafts can be put. -/
  writable : a.drafts.IsWritable
  /-- There is something to put, or something was put before. -/
  leaves : Serialisable (.object data) ∨
    Json.text? Json.Style.spaced (.object data) = none ∧ a.draft?.isSome = true

theorem draft?_isSome_fire (h : a.LeavesDraft data) : (a.fire data).draft?.isSome = true := by
  rcases h.leaves with hdata | ⟨hnone, hdraft⟩
  · rw [draft?_fire h.writable hdata]
    rfl
  · show ((a.drafts.save a.formId (.object data)).load? a.formId).isSome = true
    rwa [Drafts.save_eq_self hnone]

theorem LeavesDraft.fire (h : a.LeavesDraft data) : (a.fire data).LeavesDraft data :=
  ⟨h.writable.save _ _, h.leaves.imp id fun ⟨hnone, _⟩ => ⟨hnone, draft?_isSome_fire h⟩⟩

/-- **A save that leaves a draft makes it true that there is one.** -/
theorem Truthful.fire (h : a.Truthful) (hleaves : a.LeavesDraft data) : (a.fire data).Truthful := by
  refine ⟨Drafts.isTable_save h.table a.formId (.object data), ?_⟩
  rw [draft?_isSome_fire hleaves]
  rfl

end Autosaver

/-! ## Runs -/

namespace Notebook

variable {w : World Unit Notebook}

/-- What the autosaver says is so. -/
def Tells (w : World Unit Notebook) : Prop :=
  w.parts.autosaver.Truthful

/-- Whether a step saves the data: the timer is set, and it is told not to wait or the timer runs out. -/
def Event.saves (w : World Unit Notebook) : Event → Bool
  | .flush => w.parts.autosaver.debouncer.pending
  | .drain => w.parts.autosaver.debouncer.timer.any fun timer => timer.due ≤ w.parts.now
  | .advance ms => w.parts.autosaver.debouncer.timer.any fun timer => timer.due ≤ w.parts.now + ms
  | _ => false

/-- A save of the data leaves a draft. -/
def CanSave (w : World Unit Notebook) : Prop :=
  w.parts.autosaver.LeavesDraft w.store.data

/-- Every save of some steps leaves a draft. -/
def SavesWell : World Unit Notebook → List Event → Prop
  | _, [] => True
  | w, e :: rest => (e.saves w = true → CanSave w) ∧ SavesWell (e.run.outcome w) rest

/-- Writing changes nothing about what is said, whatever is written. -/
theorem keeps_put_tells (wr : Write) : (put wr).Keeps Tells :=
  keeps_write (fun _ _ h => h) (fun _ _ _ _ => keeps_bind (fun _ => id) fun data =>
    keeps_bind (fun _ => id) fun now => fun _ h => h.notice data now 0) wr

theorem keeps_start_tells : (start : Page Unit).Keeps Tells := by
  refine keeps_bind (fun _ => id) fun a => ?_
  unfold Autosaver.start
  split
  · exact keeps_bind (fun _ => id) fun ticket => fun _ h => h.of_same rfl rfl rfl
  · exact keeps_pure ()

theorem keeps_close_tells : (close : Page Unit).Keeps Tells := by
  refine keeps_bind (fun _ => id) fun a => ?_
  unfold Autosaver.close
  have hend : (autosaverPart.update fun a =>
      { a with debouncer := a.debouncer.cancel, ticket := none } : Page Unit).Keeps Tells :=
    fun _ h => Autosaver.Truthful.of_same h rfl rfl rfl
  cases a.ticket with
  | none => exact hend
  | some ticket => exact keeps_bind (fun _ => id) fun _ => hend

/-- A save, and with it what happens by itself, leaves the data and the storage fit for another one. -/
theorem keeps_fire_tells : fire.Keeps fun w => Tells w ∧ CanSave w :=
  fun _ ⟨h, hcan⟩ => ⟨Autosaver.Truthful.fire h hcan, Autosaver.LeavesDraft.fire hcan⟩

/-- Nothing happens by itself as long as the timer does not run out. -/
theorem run_go_of_not_due {may : Notebook → Nat → Bool}
    (h : ∀ timer, w.parts.autosaver.debouncer.timer = some timer → may w.parts timer.due = false)
    (count : Nat) : (agenda.go may count).run w = .ok () w := by
  cases count with
  | zero => rfl
  | succ count =>
    cases htimer : w.parts.autosaver.debouncer.timer with
    | none => simp [Agenda.go, agenda, Autosaver.upcoming, htimer, earliest?]
    | some timer => simp [Agenda.go, agenda, Autosaver.upcoming, htimer, earliest?, h timer htimer]

/-- **A step leaves what is said true**, if a save leaves a draft in case there is one. -/
theorem tells_event (h : Tells w) {e : Event} (hsaves : e.saves w = true → CanSave w) :
    Tells (e.run.outcome w) := by
  have hgo : ∀ (may : Notebook → Nat → Bool) count, CanSave w → Tells ((agenda.go may count).outcome w) :=
    fun may count hcan => (keeps_go keeps_fire_tells (fun _ _ h => h) may count w ⟨h, hcan⟩).1
  cases e with
  | start => exact keeps_start_tells w h
  | close => exact keeps_close_tells w h
  | flush =>
    rw [Event.run, outcome_flush]
    split
    · next hpending => exact (keeps_fire_tells w ⟨h, hsaves hpending⟩).1
    · exact h
  | restore => exact h.of_same rfl rfl rfl
  | clearDraft => exact h.clearDraft
  | write wr =>
    rw [outcome_write]
    exact keeps_put_tells wr w h
  | drain =>
    cases hdue : Event.drain.saves w with
    | true => exact hgo _ _ (hsaves hdue)
    | false =>
      -- nothing falls due, so that nothing happens
      have hnothing : (agenda.drain).run w = .ok () w := by
        refine run_go_of_not_due (fun timer htimer => ?_) _
        rw [Event.saves, htimer] at hdue
        exact hdue
      rwa [Event.run, Run.outcome_of_ok hnothing]
  | advance ms =>
    cases hdue : (Event.advance ms).saves w with
    | true =>
      exact (keeps_advance keeps_fire_tells (fun _ _ h => h) ms w ⟨h, hsaves hdue⟩).1
    | false =>
      have hnothing : (agenda.go (fun _ due => due ≤ w.parts.now + ms) Agenda.limit).run w = .ok () w := by
        refine run_go_of_not_due (fun timer htimer => ?_) _
        rw [Event.saves, htimer] at hdue
        exact hdue
      have hadvance : (agenda.advance ms).run w =
          (agenda.go (fun _ due => due ≤ w.parts.now + ms) Agenda.limit >>= fun _ =>
            agenda.now.update fun _ => w.parts.now + ms).run w := rfl
      rw [Run.run_bind_of_ok hnothing] at hadvance
      rw [Event.run, Run.outcome_of_ok hadvance]
      exact h

theorem tells_events (h : Tells w) {events : List Event} (hsaves : SavesWell w events) :
    Tells (carryOn w events) := by
  induction events generalizing w with
  | nil => exact h
  | cons e rest ih => exact ih (tells_event h hsaves.1) hsaves.2

/-- **There is a draft exactly if the autosaver says so**, whatever is written and wherever drafts are kept,
as long as every save leaves one. -/
theorem hasDraft_eq_of_run (formId : String) {drafts : Drafts} (hdrafts : drafts.storage.IsTable)
    (delay : Int) (data : Object) {events : List Event}
    (hsaves : SavesWell (world (Autosaver.ofDrafts formId drafts delay) data) events) :
    let w := carryOn (world (Autosaver.ofDrafts formId drafts delay) data) events
    w.parts.autosaver.hasDraft = w.parts.autosaver.draft?.isSome := by
  have hworld : Tells (world (Autosaver.ofDrafts formId drafts delay) data) :=
    Autosaver.truthful_ofDrafts hdrafts formId delay
  exact (tells_events hworld hsaves).tells

/-- The name is saved; what is saved next has no text, and the name stays. -/
theorem hasDraft_eq_of_run_name :
    let w := carryOn (world (Autosaver.ofDrafts "form" ⟨.memory [], Drafts.usualSpace, 0⟩ 500) [])
      [.start, .write (.set "name" (.text "Ada")), .advance 500, .write (.set "name" (.text "Eve")),
        .write (.set "photo" .foreign), .flush]
    w.parts.autosaver.hasDraft = w.parts.autosaver.draft?.isSome := by
  have hwritable : (⟨.memory [], Drafts.usualSpace, 0⟩ : Drafts).IsWritable :=
    ⟨trivial, Nat.pow_pos (by decide)⟩
  have hname : Serialisable (.object [("name", .text "Ada")]) :=
    .object (by simp [Entries.keys]) fun entry hentry => by
      rw [List.mem_singleton.mp hentry]
      exact .text _
  have hidle : ∀ {w : World Unit Notebook}, false = true → CanSave w :=
    fun hsaves => absurd hsaves Bool.false_ne_true
  refine hasDraft_eq_of_run "form" (by decide) 500 [] ⟨hidle, hidle, fun _ => ⟨hwritable, Or.inl hname⟩,
    hidle, hidle, fun _ => ⟨?_, Or.inr ⟨by decide +kernel, by decide +kernel⟩⟩, trivial⟩
  exact Drafts.IsWritable.save hwritable "form" (.object [("name", .text "Ada")])

/-- A photo that has no text is there before the name is saved: nothing is saved, and yet there is said to be
a draft. -/
theorem not_hasDraft_eq_of_run :
    let w := carryOn (world (Autosaver.ofDrafts "form" ⟨.memory [], Drafts.usualSpace, 0⟩ 500) [])
      [.start, .write (.set "name" (.text "Ada")), .write (.set "photo" .foreign), .advance 500]
    w.parts.autosaver.hasDraft = true ∧ w.parts.autosaver.draft? = none := by
  decide +kernel

end Notebook
end DynamicForms
