import DynamicForms.Draft.Notebook
import DynamicForms.Proofs.Draft.Record
import DynamicForms.Proofs.Store.Keep

/-!
# `DynamicForms.Proofs.Draft.Autosaving` — an autosaver loses no edit

An autosaver compares the data it is told of with what it saved or restored last, and it compares texts.
So two things have to go together at every moment. What it believes to be saved must be what is kept, if
it believes anything; throwing the draft away makes it forget. And once it was told of an edit, it is going
to save, or what is kept says what the data says. The first makes the second hold: an edit after which it
does not set its timer has left the data as it was saved.

The second holds from an edit on, until the autosaver is closed or the draft thrown away. After that an
edit has to be told of anew, and the first one after throwing the draft away does not count.

## Contents
- `Notebook.Event`, `Event.run`, `Notebook.carryOn`: what can happen to a form with an autosaver.
- `Notebook.Sound`, `Sound.run`: what holds at every moment.
- `Notebook.Attends`, `Attends.run`: what holds once an edit was told of; `Delivers`.
- `Notebook.saved_of_run`.
-/

namespace DynamicForms

open Json (Serialisable)
open Run (keeps_bind keeps_pure)
open Value (Object SameDocument)

namespace Notebook

/-! ## Steps -/

/-- What can happen to a form with an autosaver. -/
inductive Event where
  /-- The autosaver starts. -/
  | start
  /-- It is closed. -/
  | close
  /-- It saves what it was going to save. -/
  | flush
  /-- Its draft is asked for, to be put into the form. -/
  | restore
  /-- Its draft is thrown away. -/
  | clearDraft
  /-- The form is written to. -/
  | write (wr : Write)
  /-- What is due happens. -/
  | drain
  /-- Some milliseconds pass. -/
  | advance (ms : Nat)

namespace Event

/-- What happens. -/
def run : Event → Page Unit
  | .start => Notebook.start
  | .close => Notebook.close
  | .flush => Notebook.flush
  | .restore => update Autosaver.restore
  | .clearDraft => update Autosaver.clearDraft
  | .write wr => do
    let _ ← put wr
  | .drain => agenda.drain
  | .advance ms => agenda.advance ms

/-- What is written has a text. -/
def IsSerialisable : Event → Prop
  | .write wr => wr.IsSerialisable
  | _ => True

/-- The autosaver is neither closed nor is its draft thrown away. -/
def isCalm : Event → Bool
  | .close | .clearDraft => false
  | _ => true

end Event

/-- The world after some steps. One that fails keeps what it has done, and the others follow. -/
def carryOn (w : World Unit Notebook) (events : List Event) : World Unit Notebook :=
  events.foldl (fun w e => e.run.outcome w) w

theorem carryOn_keeps {I : World Unit Notebook → Prop} {events : List Event}
    (h : ∀ e ∈ events, e.run.Keeps I) {w : World Unit Notebook} (hw : I w) : I (carryOn w events) := by
  induction events generalizing w with
  | nil => exact hw
  | cons e rest ih =>
    exact ih (fun e' he' => h e' (List.mem_cons_of_mem _ he')) (h e List.mem_cons_self w hw)

variable {w : World Unit Notebook} {wr : Write} {after : Object}

/-- The world with another autosaver. -/
def withAutosaver (w : World Unit Notebook) (a : Autosaver) : World Unit Notebook :=
  { w with parts := { w.parts with autosaver := a } }

/-- The autosaver was told of the data. -/
def noticed (w : World Unit Notebook) : World Unit Notebook :=
  withAutosaver w (w.parts.autosaver.notice w.store.data w.parts.now 0)

/-! ## What holds at every moment -/

/-- The autosaver is told of every write while it is started, and what it believes to be saved is what is
kept. -/
structure Sound (w : World Unit Notebook) : Prop where
  /-- Its subscription is the only one. -/
  listens : w.store.subscriptions =
    (w.parts.autosaver.ticket.map fun ticket => ⟨ticket, none, ()⟩).toList
  /-- What the autosaver believes to be saved is kept. -/
  faithful : w.parts.autosaver.IsFaithful
  /-- The data has a text. -/
  data : Serialisable (.object w.store.data)

/-- The draft says what the data says. -/
def IsSaved (w : World Unit Notebook) : Prop :=
  ∃ kept, w.parts.autosaver.draft? = some kept ∧ SameDocument (.object kept) (.object w.store.data)

/-- The autosaver is started and counts writes, and it is going to save, or the data is saved. -/
structure Attends (w : World Unit Notebook) : Prop where
  /-- It is started. -/
  started : w.parts.autosaver.ticket.isSome = true
  /-- It counts the next write. -/
  counts : w.parts.autosaver.skipNext = false
  /-- It is going to save, or the data is saved. -/
  kept : w.parts.autosaver.debouncer.pending = true ∨ IsSaved w

theorem Sound.at (h : Sound w) {now : Nat} : Sound { w with parts := { w.parts with now } } :=
  ⟨h.listens, h.faithful, h.data⟩

theorem Attends.at (h : Attends w) {now : Nat} : Attends { w with parts := { w.parts with now } } :=
  ⟨h.started, h.counts, h.kept⟩

theorem Sound.withAutosaver (h : Sound w) {a : Autosaver} (hticket : a.ticket = w.parts.autosaver.ticket)
    (hfaithful : a.IsFaithful) : Sound (withAutosaver w a) :=
  ⟨h.listens.trans (by rw [← hticket]; rfl), hfaithful, h.data⟩

/-! ## Saving -/

theorem Sound.fire (h : Sound w) :
    Sound (Notebook.withAutosaver w (w.parts.autosaver.fire w.store.data)) :=
  h.withAutosaver rfl (h.faithful.fire h.data)

theorem isSaved_fire (h : Sound w) :
    IsSaved (withAutosaver w (w.parts.autosaver.fire w.store.data)) :=
  ⟨_, Autosaver.draft?_fire h.faithful.writable h.data, Json.sameDocument_unmarked (.object w.store.data)⟩

theorem keeps_fire : fire.Keeps Sound := fun _ h => h.fire

theorem keeps_fire_attends : fire.Keeps fun w => Sound w ∧ Attends w :=
  fun _ h => ⟨h.1.fire, h.2.started, h.2.counts, Or.inr (isSaved_fire h.1)⟩

/-- Whatever holds of the autosaver and the data whatever the moment is kept by what happens by itself, if
saving keeps it. -/
theorem keeps_go {I : World Unit Notebook → Prop} (hfire : fire.Keeps I)
    (hnow : ∀ w now, I w → I { w with parts := { w.parts with now } }) (may : Notebook → Nat → Bool)
    (count : Nat) : (agenda.go may count).Keeps I := by
  refine Agenda.keeps_go may (keeps_pure false) (fun f w => hnow w _) (fun n entry hentry => ?_) count
  obtain ⟨timer, -, rfl⟩ := Option.map_eq_some_iff.mp (Option.mem_toList.mp hentry)
  exact hfire

theorem keeps_advance {I : World Unit Notebook → Prop} (hfire : fire.Keeps I)
    (hnow : ∀ w now, I w → I { w with parts := { w.parts with now } }) (ms : Nat) :
    (agenda.advance ms).Keeps I :=
  keeps_bind (fun _ => id) fun _ => keeps_bind (keeps_go hfire hnow _ _) fun _ w h => hnow w _ h

/-! ## Writing -/

/-- A write that changes something and that the autosaver is told of and counts. -/
def Delivers (w : World Unit Notebook) (wr : Write) : Prop :=
  w.parts.autosaver.ticket.isSome = true ∧ w.parts.autosaver.skipNext = false ∧
    ∃ after, wr.change? w.store.data = .ok (some after)

theorem captureFor_of_listens {ticket : Nat} (h : w.store.subscriptions = [⟨ticket, none, ()⟩])
    (wr : Write) : w.store.captureFor wr = [⟨⟨ticket, none, ()⟩, none⟩] := by
  unfold Store.captureFor
  cases wr.path? <;> simp [h, Subscription.watches, Subscription.capture]

/-- A write changes the data, and a started autosaver is told of it. -/
theorem outcome_put_of_some (h : Sound w) (hchange : wr.change? w.store.data = .ok (some after)) :
    (put wr).outcome w =
      if w.parts.autosaver.ticket.isSome then noticed (w.withData after) else w.withData after := by
  have hwrite : (put wr).run w = (perform react w.store.nesting wr).run w := run_write react wr w
  rw [nesting_eq] at hwrite
  have hlistens := h.listens
  cases hticket : w.parts.autosaver.ticket with
  | none =>
    rw [hticket] at hlistens
    have hnobody : w.store.captureFor wr = [] := by
      unfold Store.captureFor
      cases wr.path? <;> simp [hlistens]
    exact Run.outcome_of_ok (hwrite.trans (run_perform_of_nobody react _ hchange hnobody))
  | some ticket =>
    rw [hticket] at hlistens
    rw [run_perform_of_one react _ hchange (captureFor_of_listens hlistens wr)] at hwrite
    have hactive : (w.withData after).store.isActive ticket = true := by
      rw [Store.isActive, World.withData, hlistens]
      simp
    refine Run.outcome_of_ok (a := true) (hwrite.trans ?_)
    rw [tell_bind_of_news hactive rfl]
    rfl

theorem outcome_write (wr : Write) : (Event.write wr).run.outcome w = (put wr).outcome w :=
  Run.outcome_discard (put wr) w

theorem Sound.withData (h : Sound w) (hwr : wr.IsSerialisable)
    (hchange : wr.change? w.store.data = .ok (some after)) : Sound (w.withData after) :=
  ⟨h.listens, h.faithful, Write.serialisable_of_change? hwr hchange h.data⟩

section Notice

variable {a : Autosaver} {data : Object} {now mark : Nat}

theorem notice_of_same (hcounts : a.skipNext = false) (hsame : snapshotText data = a.lastSaved) :
    a.notice data now mark = a := by
  simp [Autosaver.notice, hcounts, hsame]

theorem notice_of_ne (hcounts : a.skipNext = false) (hne : snapshotText data ≠ "")
    (hchanged : snapshotText data ≠ a.lastSaved) :
    a.notice data now mark = { a with debouncer := a.debouncer.trigger now mark } := by
  simp [Autosaver.notice, hcounts, hne, hchanged]

end Notice

theorem Sound.noticed (h : Sound w) : Sound (noticed w) :=
  h.withAutosaver (Autosaver.ticket_notice _ _ _ _) (h.faithful.notice _ _ _)

theorem Sound.put (h : Sound w) (hwr : wr.IsSerialisable) : Sound ((put wr).outcome w) := by
  by_cases hchange : ∃ after, wr.change? w.store.data = .ok (some after)
  · obtain ⟨after, hchange⟩ := hchange
    rw [outcome_put_of_some h hchange]
    split
    · exact (h.withData hwr hchange).noticed
    · exact h.withData hwr hchange
  · rwa [Notebook.put, outcome_write_of_unchanged react fun after hafter => hchange ⟨after, hafter⟩]

/-- **Told of data, an autosaver is going to save, or the data is saved**: if it does not set its timer,
the data has the text of what was saved last. -/
theorem attends_noticed (h : Sound w) (hstarted : w.parts.autosaver.ticket.isSome = true)
    (hcounts : w.parts.autosaver.skipNext = false) : Attends (noticed w) := by
  unfold Notebook.noticed
  by_cases hsame : snapshotText w.store.data = w.parts.autosaver.lastSaved
  · rw [notice_of_same hcounts hsame]
    exact ⟨hstarted, hcounts, Or.inr (h.faithful.exists_draft? h.data hsame.symm)⟩
  · rw [notice_of_ne hcounts (snapshotText_ne_empty h.data) hsame]
    exact ⟨hstarted, hcounts, Or.inl rfl⟩

theorem attends_of_delivers (h : Sound w) (hwr : wr.IsSerialisable) (hdelivers : Delivers w wr) :
    Attends ((put wr).outcome w) := by
  obtain ⟨hstarted, hcounts, after, hchange⟩ := hdelivers
  rw [outcome_put_of_some h hchange, if_pos hstarted]
  exact attends_noticed (h.withData hwr hchange) hstarted hcounts

theorem Attends.put (hattends : Attends w) (h : Sound w) (hwr : wr.IsSerialisable) :
    Attends ((put wr).outcome w) := by
  by_cases hchange : ∃ after, wr.change? w.store.data = .ok (some after)
  · exact attends_of_delivers h hwr ⟨hattends.started, hattends.counts, hchange⟩
  · rwa [Notebook.put, outcome_write_of_unchanged react fun after hafter => hchange ⟨after, hafter⟩]

/-! ## Starting and closing -/

theorem run_start_of_started {ticket : Nat} (hticket : w.parts.autosaver.ticket = some ticket) :
    (start : Page Unit).run w = .ok () w := by
  simp [start, Autosaver.start, EStateM.run_bind, autosaverPart, hticket]

theorem run_start_of_closed (hticket : w.parts.autosaver.ticket = none) :
    (start : Page Unit).run w = .ok () (withAutosaver { w with store := (w.store.listen ()).2 }
      { w.parts.autosaver with ticket := some w.store.nextTicket }) := by
  simp [start, Autosaver.start, EStateM.run_bind, autosaverPart, hticket, listen]
  rfl

theorem keeps_start : (start : Page Unit).Keeps Sound := by
  intro w h
  cases hticket : w.parts.autosaver.ticket with
  | some ticket => rwa [Run.outcome_of_ok (run_start_of_started hticket)]
  | none =>
    have hlistens := h.listens
    rw [hticket] at hlistens
    rw [Run.outcome_of_ok (run_start_of_closed hticket)]
    refine ⟨?_, ⟨h.faithful.writable, h.faithful.believes⟩, h.data⟩
    simp [withAutosaver, Store.listen, Store.add, hlistens]

theorem keeps_close : (close : Page Unit).Keeps Sound := by
  intro w h
  have hlistens := h.listens
  have hclosed : ∃ store : Store Unit, store.subscriptions = [] ∧ store.data = w.store.data ∧
      (close : Page Unit).run w = .ok () (withAutosaver { w with store }
        { w.parts.autosaver with debouncer := w.parts.autosaver.debouncer.cancel, ticket := none }) := by
    cases hticket : w.parts.autosaver.ticket with
    | none =>
      refine ⟨w.store, by rw [hlistens, hticket]; rfl, rfl, ?_⟩
      simp [close, Autosaver.close, EStateM.run_bind, autosaverPart, hticket]
      rfl
    | some ticket =>
      refine ⟨w.store.unsubscribe ticket, by simp [Store.unsubscribe, hlistens, hticket], rfl, ?_⟩
      simp [close, Autosaver.close, EStateM.run_bind, autosaverPart, hticket, unsubscribe, updateStore]
      rfl
  obtain ⟨store, hsubscriptions, hdata, hrun⟩ := hclosed
  rw [Run.outcome_of_ok hrun]
  exact ⟨hsubscriptions, ⟨h.faithful.writable, h.faithful.believes⟩, by rw [withAutosaver, hdata]; exact h.data⟩

/-! ## Runs -/

theorem outcome_flush (w : World Unit Notebook) : (flush : Page Unit).outcome w =
    if w.parts.autosaver.debouncer.pending then
      withAutosaver w (w.parts.autosaver.fire w.store.data) else w := by
  have hrun : (flush : Page Unit).run w =
      .ok () (withAutosaver w (w.parts.autosaver.flush w.store.data)) := rfl
  rw [Run.outcome_of_ok hrun, Autosaver.flush]
  split <;> rfl

/-- What holds at every moment, every step keeps. -/
theorem keeps_sound {e : Event} (he : e.IsSerialisable) : e.run.Keeps Sound := by
  cases e with
  | start => exact keeps_start
  | close => exact keeps_close
  | flush =>
    intro w h
    rw [Event.run, outcome_flush]
    split
    · exact h.fire
    · exact h
  | restore => exact fun w h => h.withAutosaver rfl h.faithful.restore
  | clearDraft => exact fun w h => h.withAutosaver rfl h.faithful.clearDraft
  | write wr =>
    intro w h
    rw [outcome_write]
    exact h.put he
  | drain => exact keeps_go keeps_fire (fun _ _ h => h.at) _ _
  | advance ms => exact keeps_advance keeps_fire (fun _ _ h => h.at) ms

/-- What holds once an edit was told of, every step keeps that neither closes the autosaver nor throws its
draft away. -/
theorem keeps_attends {e : Event} (he : e.IsSerialisable) (hcalm : e.isCalm = true) :
    e.run.Keeps fun w => Sound w ∧ Attends w := by
  intro w ⟨h, hattends⟩
  refine ⟨keeps_sound he w h, ?_⟩
  cases e with
  | close | clearDraft => cases hcalm
  | start =>
    obtain ⟨ticket, hticket⟩ := Option.isSome_iff_exists.mp hattends.started
    rwa [Event.run, Run.outcome_of_ok (run_start_of_started hticket)]
  | flush =>
    rw [Event.run, outcome_flush]
    split
    · exact (keeps_fire_attends w ⟨h, hattends⟩).2
    · exact hattends
  | restore => exact ⟨hattends.started, hattends.counts, hattends.kept⟩
  | write wr =>
    rw [outcome_write]
    exact hattends.put h he
  | drain => exact (keeps_go keeps_fire_attends (fun _ _ h => ⟨h.1.at, h.2.at⟩) _ _ w ⟨h, hattends⟩).2
  | advance ms =>
    exact (keeps_advance keeps_fire_attends (fun _ _ h => ⟨h.1.at, h.2.at⟩) ms w ⟨h, hattends⟩).2

theorem sound_world (formId : String) {drafts : Drafts} (hdrafts : drafts.IsWritable) (delay : Int)
    {data : Object} (hdata : Serialisable (.object data)) :
    Sound (world (Autosaver.ofDrafts formId drafts delay) data) :=
  ⟨rfl, Autosaver.isFaithful_ofDrafts hdrafts delay, hdata⟩

/-- **An autosaver loses no edit.** Once it was told of an edit that counts, and as long as it is neither
closed nor its draft thrown away, it is going to save, or its draft says what the data says. -/
theorem saved_of_run (formId : String) {drafts : Drafts} (hdrafts : drafts.IsWritable) (delay : Int)
    {data : Object} (hdata : Serialisable (.object data)) {before after : List Event} {wr : Write}
    (hbefore : ∀ e ∈ before, e.IsSerialisable) (hwr : wr.IsSerialisable)
    (hafter : ∀ e ∈ after, e.IsSerialisable ∧ e.isCalm = true)
    (hdelivers : Delivers (carryOn (world (Autosaver.ofDrafts formId drafts delay) data) before) wr) :
    let w := carryOn (world (Autosaver.ofDrafts formId drafts delay) data) (before ++ .write wr :: after)
    w.parts.autosaver.debouncer.pending = true ∨
      ∃ kept, w.parts.autosaver.draft? = some kept ∧
        SameDocument (.object kept) (.object w.store.data) := by
  intro w
  have hsound := carryOn_keeps (fun e he => keeps_sound (hbefore e he))
    (sound_world formId hdrafts delay hdata)
  have hw : w = carryOn ((Event.write wr).run.outcome
      (carryOn (world (Autosaver.ofDrafts formId drafts delay) data) before)) after := List.foldl_append
  rw [hw, outcome_write]
  exact (carryOn_keeps (fun e he => keeps_attends (hafter e he).1 (hafter e he).2)
    ⟨hsound.put hwr, attends_of_delivers hsound hwr hdelivers⟩).2.kept

/-- The second edit comes after the first was saved, and the clock saves it. -/
theorem saved_of_run_name :
    let w := carryOn (world (Autosaver.ofDrafts "form" ⟨.memory [], Drafts.usualSpace, 0⟩ 500) [])
      ([.start, .write (.set "name" (.text "Ada")), .flush] ++
        .write (.set "member" (.bool true)) :: [.advance 500])
    w.parts.autosaver.debouncer.pending = true ∨
      ∃ kept, w.parts.autosaver.draft? = some kept ∧
        SameDocument (.object kept) (.object w.store.data) := by
  have hdrafts : (⟨.memory [], Drafts.usualSpace, 0⟩ : Drafts).IsWritable :=
    ⟨trivial, Nat.pow_pos (by decide)⟩
  refine saved_of_run "form" hdrafts 500 ?_ ?_ (.bool true) ?_
    ⟨by decide +kernel, by decide +kernel, ⟨[("name", .text "Ada"), ("member", .bool true)], ?_⟩⟩
  · exact .object (by simp [Entries.keys]) fun _ hentry => by cases hentry
  · simp [Event.IsSerialisable, Write.IsSerialisable, Serialisable.text]
  · simp [Event.IsSerialisable, Event.isCalm]
  · rfl

end Notebook
end DynamicForms
