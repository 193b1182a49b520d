import DynamicForms.Proofs.Draft.Record
import DynamicForms.Proofs.Lookup.Keep
import DynamicForms.Proofs.Path.Access
import DynamicForms.Proofs.Visibility.Refresh
import DynamicForms.Session.Life

/-!
# `DynamicForms.Proofs.Session.Keep` — what a session keeps

Much can happen to a session, and every step of it may fail half-way. What is said of all its moments is
proved from what the parts of a session do to it: each changes its own component, and apart from that
they write to the form, and a write concerns them all again.

Data is *grounded* if nothing is marked as absent under a name without segments. What is found at such a
path is then the data itself, so that a tracker never sets a value there.

## Contents
- `Session.Event`, `Event.run`, `Session.carryOn`: what can happen to a session.
- `Path.Grounded`, `Write.IsProper`.
- `Session.ticketOf`: the tickets that a session knows of.
- `Session.ReactionsKeep`, `ReactionsKeep.put`: writes.
- `mem_upcoming`: what falls due; `keeps_restore`.
- `Session.Holds`, `Holds.keeps`: all steps but mounting, closing and submitting.
- `Session.Withdrawn`, `holds_withdrawn`; `holds_refreshing`; `holds_mounted`.
-/

namespace DynamicForms

open Value (Object)
open Run (keeps_pure keeps_bind)

/-! ## Grounded data -/

namespace Path

variable {data after : Object} {path : String} {v : Value}

/-- Nothing is marked as absent under a name without segments. -/
def Grounded (data : Object) : Prop :=
  ∀ entry ∈ data, segments entry.1 = [] → entry.2.isAbsent = false

instance (data : Object) : Decidable (Grounded data) :=
  inferInstanceAs (Decidable (∀ entry ∈ data, segments entry.1 = [] → entry.2.isAbsent = false))

theorem grounded_of_all (h : ∀ entry ∈ data, entry.2.isAbsent = false) : Grounded data :=
  fun entry hentry _ => h entry hentry

theorem Grounded.put (h : Grounded data) {name : String} (hname : segments name ≠ [])
    (v : Value) : Grounded (Entries.put data name v) := by
  intro entry hentry hnone
  rcases Entries.mem_put hentry with hold | rfl
  · exact h entry hold hnone
  · exact absurd hnone hname

theorem Grounded.place (h : Grounded data) (way : List String)
    (hway : ∀ name ∈ way, segments name ≠ []) (v : Value) : Grounded (place data way v) := by
  cases way with
  | nil => exact h
  | cons name rest =>
    have hname := hway name List.mem_cons_self
    cases rest with
    | nil => exact h.put hname v
    | cons next more =>
      rw [place_cons_cons]
      exact h.put hname _

theorem Grounded.remove (h : Grounded data) {way : List String}
    (hway : ∀ name ∈ way, segments name ≠ []) (hrun : remove? data way = some after) :
    Grounded after := by
  cases way with
  | nil => cases hrun
  | cons name rest =>
    cases rest with
    | nil =>
      rw [remove?_singleton] at hrun
      split at hrun
      · cases hrun
        exact fun entry hentry => h entry ((Entries.erase_sublist _ _).subset hentry)
      · cases hrun
    | cons next more =>
      obtain ⟨inner, -, removed, -, rfl⟩ := remove?_cons_eq_some hrun
      exact h.put (hway name List.mem_cons_self) _

/-- A segment is its own and only segment. -/
theorem segments_segment {name : String} (h : name ∈ segments path) : segments name ≠ [] := by
  have hdot := dot_not_mem_segment h
  have hne : name ≠ "" := by
    rintro rfl
    simp [segments] at h
  rw [segments_of_no_dot hdot hne]
  exact List.cons_ne_nil _ _

theorem Grounded.delete (h : Grounded data) (path : String) : Grounded (Path.delete data path) := by
  rcases delete_cases data path with ⟨-, hsame⟩ | hremove
  · rwa [hsame]
  · exact h.remove (fun _ => segments_segment) hremove

/-- At a path without segments the data itself is found. -/
theorem Grounded.isAbsent_read (h : Grounded data) (hpath : path ≠ "") (hnone : segments path = []) :
    (read (.object data) path).isAbsent = false := by
  have hempty : path.isEmpty = false := by simpa using hpath
  simp only [read, find?, hempty, Bool.false_eq_true, if_false, hnone]
  cases hget : Entries.get? data path with
  | none => rfl
  | some flat => exact h _ (Entries.mem_of_get? hget) hnone

end Path

namespace Write

variable {wr : Write} {data after : Object}

/-- A write that leaves data grounded: whole new data is. -/
def IsProper : Write → Prop
  | .reset data => Path.Grounded data
  | _ => True

instance (wr : Write) : Decidable wr.IsProper :=
  match wr with
  | .set _ _ | .unregister _ => inferInstanceAs (Decidable True)
  | .reset data => inferInstanceAs (Decidable (Path.Grounded data))

/-- Proper writes keep data grounded. -/
theorem grounded_of_change? (hwr : wr.IsProper) (h : wr.change? data = .ok (some after))
    (hdata : Path.Grounded data) : Path.Grounded after := by
  obtain ⟨path, v, rfl, -, rfl⟩ | ⟨path, rfl, rfl⟩ | rfl := change?_eq_some_cases h
  · exact hdata.place _ (fun _ => Path.segments_segment) v
  · exact hdata.delete path
  · exact hwr

end Write

namespace Session

/-! ## Steps -/

/-- What can happen to a session. -/
inductive Event where
  /-- The form is mounted. -/
  | mount
  /-- The form is closed. -/
  | close
  /-- The form is written to. -/
  | put (wr : Write)
  /-- The form is submitted. -/
  | submit
  /-- A request is answered by hand. -/
  | answer (id : Nat) (result : LookupResult)
  /-- What was said about the last answer of a worker is forgotten. -/
  | dismiss (key : String)
  /-- The draft is thrown away. -/
  | clearDraft
  /-- What is ready or due happens. -/
  | drain
  /-- Some milliseconds pass. -/
  | advance (ms : Nat)
  /-- Time passes until no answer is awaited. -/
  | settle
  deriving Repr, Inhabited

namespace Event

/-- What a step does. -/
def run : Event → Visit Unit
  | .mount => Session.mount
  | .close => Session.close
  | .put wr => do
    let _ ← Session.put wr
  | .submit => do
    let _ ← Session.submit
  | .answer id result => do
    let _ ← Session.answer id result
  | .dismiss key => Session.dismiss key
  | .clearDraft => Session.clearDraft
  | .drain => agenda.drain
  | .advance ms => agenda.advance ms
  | .settle => agenda.settle

/-- Writes are proper. -/
def IsProper : Event → Prop
  | .put wr => wr.IsProper
  | _ => True

instance (e : Event) : Decidable e.IsProper :=
  match e with
  | .put wr => inferInstanceAs (Decidable wr.IsProper)
  | .mount | .close | .submit | .answer _ _ | .dismiss _ | .clearDraft | .drain | .advance _
  | .settle => inferInstanceAs (Decidable True)

/-- A step in the life of a mounted form, short of submitting it. -/
def IsInner : Event → Prop
  | .mount | .close | .submit => False
  | _ => True

theorem eq_or_isInner (e : Event) : e = .mount ∨ e = .close ∨ e = .submit ∨ e.IsInner := by
  cases e <;> simp [IsInner]

end Event

/-- The world after some steps. One that fails keeps what it has done, and the session goes on. -/
def carryOn (w : World Owner Session) (events : List Event) : World Owner Session :=
  events.foldl (fun w e => e.run.outcome w) w

theorem carryOn_append (w : World Owner Session) (events more : List Event) :
    carryOn w (events ++ more) = carryOn (carryOn w events) more :=
  List.foldl_append

/-- What every step keeps a run keeps. -/
theorem carryOn_keeps {I : World Owner Session → Prop} {events : List Event}
    (h : ∀ e ∈ events, e.run.Keeps I) {w : World Owner Session} (hw : I w) :
    I (carryOn w events) := by
  induction events generalizing w with
  | nil => exact hw
  | cons e rest ih =>
    exact ih (fun e' he' => h e' (List.mem_cons_of_mem _ he')) (h e List.mem_cons_self w hw)

/-! ## What the parts keep -/

/-- The ticket of an owner, as far as the session knows of one. -/
def ticketOf (s : Session) : Owner → Option Nat
  | .visibility => s.tracker.ticket
  | .edits => s.ticket
  | .worker key => s.engine.ticket? key
  | .drafts => s.autosaver.bind (·.ticket)

variable {I : World Owner Session → Prop}

/-- The lookups and the drafts keep a property, as long as no subscription is made or given up. -/
structure PartsKeep (I : World Owner Session → Prop) : Prop where
  /-- The lookups. -/
  engine : ∀ f, Engine.IsSteady f → (enginePart.update f : Visit Unit).Keeps I
  /-- The drafts. -/
  autosaver : ∀ f, (∀ a, (f a).ticket = a.ticket) → (updateAutosaver f).Keeps I

theorem PartsKeep.noticeEdit (h : PartsKeep I) : noticeEdit.Keeps I :=
  keeps_bind (fun _ => id) fun data => keeps_bind (fun _ => id) fun now =>
    keeps_bind (fun _ => id) fun e =>
      h.autosaver (fun a => a.notice data now e.nextId) fun a => a.ticket_notice data now e.nextId

/-- Whoever is told of a write keeps a property, if the writes do that are made then. -/
structure ReactionsKeep (I : World Owner Session → Prop) : Prop extends PartsKeep I where
  /-- What decides what is visible. -/
  refresh : ∀ {put : Writer Owner Session}, (∀ path v, (put (.set path v)).Keeps I) →
    (∀ path, (put (.unregister path)).Keeps I) → (Tracker.refresh trackerPart put).Keeps I
  /-- What withdraws the outcome of a submission. -/
  withdraw : withdraw.Keeps I

namespace ReactionsKeep

variable (h : ReactionsKeep I)

include h

theorem react {put : Writer Owner Session} (hset : ∀ path v, (put (.set path v)).Keeps I)
    (hunregister : ∀ path, (put (.unregister path)).Keeps I) (owner : Owner) (news : List String) :
    (react put owner news).Keeps I := by
  cases owner with
  | visibility => exact h.refresh hset hunregister
  | edits => exact h.withdraw
  | worker key => exact Engine.keeps_evaluate hset h.engine key
  | drafts => exact h.noticeEdit

/-- Writes inside other writes. -/
theorem perform (hdata : ∀ {wr : Write} {w after}, wr.IsProper →
      wr.change? w.store.data = .ok (some after) → I w → I (w.withData after))
    (depth : Nat) {wr : Write} (hwr : wr.IsProper) : (perform Session.react depth wr).Keeps I :=
  keeps_perform_of hdata (fun _ hput => h.react (fun path v => hput (.set path v) trivial)
    fun path => hput (.unregister path) trivial) depth hwr

/-- **Writes**, if the data keeps the property as well. -/
theorem put (hdata : ∀ {wr : Write} {w after}, wr.IsProper →
      wr.change? w.store.data = .ok (some after) → I w → I (w.withData after))
    {wr : Write} (hwr : wr.IsProper) : (Session.put wr).Keeps I :=
  keeps_bind (fun _ => id) fun s => h.perform hdata s.nesting hwr

end ReactionsKeep

/-- What falls due is the draft that is saved, or an answer. -/
theorem mem_upcoming {s : Session} {entry : Timer × Visit Unit} (h : entry ∈ upcoming s) :
    entry.2 = saveDraft ∨ ∃ id result, entry.2 = complete id result := by
  rcases List.mem_append.mp h with hsave | harrival
  · cases hautosaver : s.autosaver with
    | none =>
      rw [hautosaver] at hsave
      cases hsave
    | some a =>
      simp only [hautosaver, Option.map_some, Option.getD_some, Autosaver.upcoming,
        Option.mem_toList, Option.map_eq_some_iff] at hsave
      obtain ⟨timer, -, rfl⟩ := hsave
      exact Or.inl rfl
  · obtain ⟨arrival, -, rfl⟩ := List.mem_map.mp harrival
    exact Or.inr ⟨arrival.id, arrival.result, rfl⟩

/-- Putting in the draft is kept by what marks it as restored and what writes it. -/
theorem keeps_restore (hsaver : (updateAutosaver Autosaver.restore).Keeps I)
    (hput : ∀ draft, (Session.put (.reset draft)).Keeps I) : restore.Keeps I := by
  refine keeps_bind (fun _ => id) fun saver => ?_
  cases saver with
  | none => exact keeps_pure ()
  | some a =>
    refine keeps_bind hsaver fun _ => ?_
    split
    · exact keeps_pure ()
    · exact keeps_bind (hput _) fun _ => keeps_pure ()
    · exact keeps_pure ()

/-- What a session keeps as long as it is neither mounted nor closed nor submitted. -/
structure Holds (I : World Owner Session → Prop) : Prop extends PartsKeep I where
  /-- Writes. -/
  put : ∀ {wr : Write}, wr.IsProper → (Session.put wr).Keeps I
  /-- The requests on their way. -/
  dispatch : ∀ f, (dispatchPart.update f : Visit Unit).Keeps I
  /-- The moment. -/
  now : ∀ f, (nowPart.update f : Visit Unit).Keeps I

namespace Holds

variable (h : Holds I)

include h

theorem set (path : String) (v : Value) : (Session.put (.set path v)).Keeps I :=
  h.put trivial

theorem complete (id : Nat) (result : LookupResult) : (Session.complete id result).Keeps I :=
  Engine.keeps_complete h.set h.engine id result

theorem saveDraft : saveDraft.Keeps I :=
  keeps_bind (fun _ => id) fun data => h.autosaver (fun a => a.fire data) fun _ => rfl

theorem upcoming (s : Session) {entry : Timer × Visit Unit} (hentry : entry ∈ upcoming s) :
    entry.2.Keeps I := by
  obtain hsave | ⟨id, result, hanswer⟩ := mem_upcoming hentry
  · rw [hsave]
    exact h.saveDraft
  · rw [hanswer]
    exact h.complete id result

theorem go (may : Session → Nat → Bool) (count : Nat) : (agenda.go may count).Keeps I :=
  Agenda.keeps_go may (Dispatch.keeps_setUp h.dispatch) h.now (fun s _ => h.upcoming s) count

/-- **Every step in the life of a mounted form keeps the property.** -/
theorem keeps {e : Event} (hinner : e.IsInner) (hproper : e.IsProper) : e.run.Keeps I := by
  cases e with
  | mount | close | submit => exact hinner.elim
  | put wr => exact keeps_bind (h.put hproper) fun _ => keeps_pure ()
  | answer id result =>
    exact keeps_bind (Dispatch.keeps_answer h.complete id result) fun _ => keeps_pure ()
  | dismiss key => exact Engine.keeps_dismiss h.engine key
  | clearDraft => exact h.autosaver Autosaver.clearDraft fun _ => rfl
  | drain => exact h.go _ _
  | advance ms => exact keeps_bind (fun _ => id) fun _ => keeps_bind (h.go _ _) fun _ => h.now _
  | settle => exact h.go _ _

end Holds

/-! ## A withdrawn submission -/

/-- No submission is shown. -/
def Withdrawn (w : World Owner Session) : Prop :=
  w.parts.submission = .blank

theorem reactionsKeep_withdrawn : ReactionsKeep Withdrawn where
  engine _ _ _ := id
  autosaver _ _ _ := id
  refresh := Tracker.keeps_refresh fun _ _ _ => id
  withdraw _ _ := rfl

/-- Once withdrawn, a submission is not shown again by any write. -/
theorem keeps_perform_withdrawn (depth : Nat) (wr : Write) :
    (perform react depth wr).Keeps Withdrawn :=
  keeps_perform (fun _ _ => id) (fun _ hput => reactionsKeep_withdrawn.react (fun _ _ => hput _)
    fun _ => hput _) depth wr

/-- **A withdrawn submission is not shown again** unless the form is submitted. -/
theorem holds_withdrawn : Holds Withdrawn where
  toPartsKeep := reactionsKeep_withdrawn.toPartsKeep
  put := reactionsKeep_withdrawn.put fun _ _ => id
  dispatch _ _ := id
  now _ _ := id

/-! ## Whether passes are being made, and whether the form is mounted -/

/-- Between two steps it is the same whether passes are being made. -/
theorem holds_refreshing (b : Bool) : Holds fun w => w.parts.tracker.refreshing = b := by
  have hkeep : ReactionsKeep fun w : World Owner Session => w.parts.tracker.refreshing = b :=
    { engine := fun _ _ _ => id
      autosaver := fun _ _ _ => id
      refresh := fun {put} _ _ w hw => by
        have hsame : (trackerPart.get ((Tracker.refresh trackerPart put).outcome w).parts).refreshing
            = (trackerPart.get w.parts).refreshing := Tracker.refreshing_outcome put w
        exact hsame.trans hw
      withdraw := fun _ => id }
  exact ⟨hkeep.toPartsKeep, hkeep.put fun _ _ => id, fun _ _ => id, fun _ _ => id⟩

theorem holds_mounted (b : Bool) : Holds fun w => w.parts.mounted = b := by
  have hkeep : ReactionsKeep fun w : World Owner Session => w.parts.mounted = b :=
    { engine := fun _ _ _ => id
      autosaver := fun _ _ _ => id
      refresh := Tracker.keeps_refresh fun _ _ _ => id
      withdraw := fun _ => id }
  exact ⟨hkeep.toPartsKeep, hkeep.put fun _ _ => id, fun _ _ => id, fun _ _ => id⟩

end Session
end DynamicForms
