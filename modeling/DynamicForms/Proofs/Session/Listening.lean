import DynamicForms.Proofs.Session.Keep
import DynamicForms.Proofs.Store.News

/-!
# `DynamicForms.Proofs.Session.Listening` — every change withdraws a submission

While a form is mounted, what withdraws a submission is told of every write, and the only one that is
told before it is what decides what is visible. That one may write in its turn; but then it is busy and
does nothing else when it is told of its own writes, so that the first of them that changes anything
withdraws the submission. Whatever else goes wrong in a write comes later.

## Contents
- `Session.Listening`, `Session.Upheld`, `holds_upheld`.
- **While passes are made.** `Session.Busy`, `yields_tell_busy`, `manages`.
- `withdrawn_perform`: telling of a change withdraws a submission.
- `withdrawn_put`: every write that changes the data does so.
-/

namespace DynamicForms.Session

open Value (Object)
open Run (ThroughOr keeps_pure keeps_bind keeps_forM throughOr_forM)

variable {form : Form} {heard : List (Subscription Owner) → Prop} {w : World Owner Session}
  {front back subs : List (Subscription Owner)} {ticket depth : Nat} {wr : Write}

/-! ## What holds of a session -/

/-- What withdraws a submission is told of every write, and before it only what decides what is
    visible. -/
def Listening (subs : List (Subscription Owner)) : Prop :=
  ∃ front ticket back, subs = front ++ ⟨ticket, none, .edits⟩ :: back ∧
    ∀ sub ∈ front, sub.owner = .visibility

theorem Listening.add (h : Listening subs) (sub : Subscription Owner) : Listening (subs ++ [sub]) := by
  obtain ⟨front, ticket, back, rfl, hfront⟩ := h
  exact ⟨front, ticket, back ++ [sub], by simp, hfront⟩

/-- A session with a form, whose subscriptions are as described: it knows the tickets of all of them. -/
structure Upheld (form : Form) (heard : List (Subscription Owner) → Prop)
    (w : World Owner Session) : Prop where
  /-- The form. -/
  form_eq : w.parts.form = form
  /-- The tracker is that of the form. -/
  items_eq : w.parts.tracker.items = form.schema.items
  /-- It gives visible fields an initial value. -/
  registers_eq : w.parts.tracker.registers = true
  /-- Nothing is marked as absent under a name without segments. -/
  grounded : Path.Grounded w.store.data
  /-- The session knows the ticket of every subscription. -/
  held : ∀ sub ∈ w.store.subscriptions, w.parts.ticketOf sub.owner = some sub.ticket
  /-- The subscriptions. -/
  heard : heard w.store.subscriptions

/-- Nothing of it changes with the parts of a session that are not concerned. -/
theorem Upheld.of_parts (h : Upheld form heard w) {s : Session} (hform : s.form = w.parts.form)
    (hitems : s.tracker.items = w.parts.tracker.items)
    (hregisters : s.tracker.registers = w.parts.tracker.registers)
    (htickets : ∀ owner, s.ticketOf owner = w.parts.ticketOf owner) :
    Upheld form heard { w with parts := s } where
  form_eq := hform.trans h.form_eq
  items_eq := hitems.trans h.items_eq
  registers_eq := hregisters.trans h.registers_eq
  grounded := h.grounded
  held sub hsub := (htickets _).trans (h.held sub hsub)
  heard := h.heard

theorem Upheld.mono {heard' : List (Subscription Owner) → Prop} (h : Upheld form heard w)
    (hheard : heard' w.store.subscriptions) : Upheld form heard' w :=
  { h with heard := hheard }

theorem keeps_upheld_tracker {f : Tracker → Tracker} (hf : Tracker.IsInner f) :
    (trackerPart.update f : Visit Unit).Keeps (Upheld form heard) := by
  intro w hw
  obtain ⟨hitems, hregisters, hticket⟩ := hf w.parts.tracker
  refine hw.of_parts rfl hitems hregisters fun owner => ?_
  cases owner with
  | visibility => exact hticket
  | edits | worker key | drafts => rfl

theorem reactionsKeep_upheld : ReactionsKeep (Upheld form heard) where
  engine f hf w hw := by
    refine hw.of_parts rfl rfl rfl fun owner => ?_
    cases owner with
    | worker key => exact hf.ticket_eq w.parts.engine key
    | visibility | edits | drafts => rfl
  autosaver f hf w hw := by
    refine hw.of_parts rfl rfl rfl fun owner => ?_
    cases owner with
    | drafts =>
      show (w.parts.autosaver.map f).bind (·.ticket) = w.parts.autosaver.bind (·.ticket)
      cases w.parts.autosaver with
      | none => rfl
      | some a => exact hf a
    | visibility | edits | worker key => rfl
  refresh := Tracker.keeps_refresh fun _ => keeps_upheld_tracker
  withdraw w hw := hw.of_parts rfl rfl rfl fun owner => by cases owner <;> rfl

/-- Changed data, by a proper write. -/
theorem Upheld.withData (h : Upheld form heard w) {after : Object} (hwr : wr.IsProper)
    (hchange : wr.change? w.store.data = .ok (some after)) : Upheld form heard (w.withData after) :=
  { h with grounded := wr.grounded_of_change? hwr hchange h.grounded }

theorem holds_upheld : Holds (Upheld form heard) where
  toPartsKeep := reactionsKeep_upheld.toPartsKeep
  put := reactionsKeep_upheld.put fun hwr hchange h => h.withData hwr hchange
  dispatch _ w hw := hw.of_parts rfl rfl rfl fun owner => by cases owner <;> rfl
  now _ w hw := hw.of_parts rfl rfl rfl fun owner => by cases owner <;> rfl

/-! ## While passes are made -/

/-- A session whose tracker is making passes. -/
structure Busy (form : Form) (heard : List (Subscription Owner) → Prop)
    (w : World Owner Session) : Prop extends Upheld form heard w where
  /-- Passes are being made. -/
  refreshing : w.parts.tracker.refreshing = true

/-- Told of a write of its own, a tracker only marks that another pass is due. -/
theorem yields_tell_busy {put : Writer Owner Session} {c : Captured Owner}
    (howner : c.subscription.owner = .visibility) (hw : Busy form heard w) :
    (tell (react put) wr c).Yields w (Busy form heard) := by
  rcases told_cases (react put) wr c w with hquiet | ⟨news, -, htold⟩
  · exact ⟨(), w, hquiet, hw⟩
  · have hbusy : (trackerPart.get w.parts).refreshing = true := hw.refreshing
    have hmark : (Tracker.refresh trackerPart put).run w = _ := Tracker.run_refresh_of_busy hbusy
    rw [Run.Yields, htold, howner]
    refine ⟨(), _, hmark, ?_, hw.refreshing⟩
    exact hw.toUpheld.of_parts rfl rfl rfl fun owner => by cases owner <;> rfl

/-- A tracker comes through if the writes that have a place come through or escape. -/
theorem manages {E : World Owner Session → Prop} {put : Writer Owner Session}
    (hpaths : ∀ node ∈ Item.nodes form.schema.items, node.path ≠ "")
    (hput : ∀ wr w, wr.IsProper → wr.IsPlaced → Busy form heard w →
      (put wr).ThroughOr E w (Busy form heard))
    (hparts : ∀ f, (trackerPart.update f : Visit Unit).Keeps E)
    (hkeeps : ∀ wr, (put wr).Keeps E) :
    Tracker.Manages trackerPart form.schema.items true put E (Busy form heard) where
  items_eq hw := hw.items_eq
  registers_eq hw := hw.registers_eq
  update {w t} hw hitems hregisters hticket hrefreshing := by
    refine ⟨hw.toUpheld.of_parts rfl (hitems.trans hw.items_eq.symm)
      (hregisters.trans hw.registers_eq.symm) fun owner => ?_, hrefreshing.trans hw.refreshing⟩
    cases owner with
    | visibility => exact hticket
    | edits | worker key | drafts => rfl
  unregister path w hw := hput (.unregister path) w trivial trivial hw
  set _ w node v hw hnode habsent := by
    refine hput (.set node.path v) w trivial (fun hnone => ?_) hw
    have hthere := hw.grounded.isAbsent_read (hpaths node hnode) hnone
    rw [Store.get, hthere] at habsent
    cases habsent
  keeps_update := hparts
  keeps_put := hkeeps

/-! ## A change is told -/

/-- Those who are concerned by a write, if what withdraws a submission listens. -/
theorem exists_concerned {s : Store Owner}
    (hsubs : s.subscriptions = front ++ ⟨ticket, none, .edits⟩ :: back) (wr : Write) :
    ∃ first last, s.concerned wr = first ++ ⟨ticket, none, .edits⟩ :: last ∧ first.Sublist front := by
  unfold Store.concerned
  rw [hsubs]
  cases wr.path? with
  | none => exact ⟨front, back, rfl, List.Sublist.refl _⟩
  | some path =>
    refine ⟨front.filter (·.watches path), back.filter (·.watches path), ?_, List.filter_sublist⟩
    dsimp only
    rw [List.filter_append, List.filter_cons_of_pos rfl]

theorem isActive_of_mem {s : Store Owner} {sub : Subscription Owner}
    (h : sub ∈ s.subscriptions) : s.isActive sub.ticket = true :=
  List.any_eq_true.mpr ⟨sub, h, by simp⟩

/-- **Telling of a change withdraws a submission** if those come through or escape who are told
    first. -/
theorem withdrawn_perform {I : World Owner Session → Prop} {after : Object}
    (hsubs : w.store.subscriptions = front ++ ⟨ticket, none, .edits⟩ :: back)
    (hchange : wr.change? w.store.data = .ok (some after)) (hw : I (w.withData after))
    (hkeep : ∀ w', I w' → w'.store.subscriptions = w.store.subscriptions)
    (hfront : ∀ sub ∈ front, ∀ w', I w' → (tell (react (perform react depth)) wr
      (sub.capture w.store.data)).ThroughOr Withdrawn w' I) :
    Withdrawn ((perform react (depth + 1) wr).outcome w) := by
  obtain ⟨first, last, hconcerned, hfirst⟩ := exists_concerned hsubs wr
  have hquiet : ∀ c : Captured Owner, (tell (react (perform react depth)) wr c).Keeps Withdrawn :=
    fun c => keeps_tell fun news =>
      reactionsKeep_withdrawn.react (fun _ _ => keeps_perform_withdrawn depth _)
        (fun _ => keeps_perform_withdrawn depth _) c.subscription.owner news
  -- what is told first, then what withdraws, then the others
  have hfirstTold : ((first.map fun sub => sub.capture w.store.data).forM
      (tell (react (perform react depth)) wr)).ThroughOr Withdrawn (w.withData after) I := by
    refine throughOr_forM (fun c _ => hquiet c) (fun c hc w' hw' => ?_) hw
    obtain ⟨sub, hsub, rfl⟩ := List.mem_map.mp hc
    exact hfront sub (hfirst.subset hsub) w' hw'
  let edits : Subscription Owner := ⟨ticket, none, .edits⟩
  have hrun : (perform react (depth + 1) wr).outcome w
      = ((first.map fun sub => sub.capture w.store.data).forM (tell (react (perform react depth)) wr)
        >>= fun _ => tell (react (perform react depth)) wr (edits.capture w.store.data)
        >>= fun _ => (last.map fun sub => sub.capture w.store.data).forM
          (tell (react (perform react depth)) wr) >>= fun _ => pure true).outcome
            (w.withData after) := by
    rw [Run.outcome, run_perform_of_some react depth hchange, ← Run.outcome, captureFor_eq, hconcerned,
      List.map_append, List.map_cons]
    simp only [List.forM_eq_forM, List.forM_append, List.forM_cons, bind_assoc]
    rfl
  have hlast : ((last.map fun sub => sub.capture w.store.data).forM
      (tell (react (perform react depth)) wr) >>= fun _ => pure true).Keeps Withdrawn :=
    keeps_bind (keeps_forM fun c _ => hquiet c) fun _ => keeps_pure true
  rw [hrun]
  refine hfirstTold.outcome_bind (fun _ => keeps_bind (hquiet _) fun _ => hlast) fun _ w' hw' => ?_
  have hactive : w'.store.isActive ticket = true := by
    have hmem : edits ∈ w'.store.subscriptions := by
      rw [hkeep w' hw', hsubs]
      exact List.mem_append_right _ List.mem_cons_self
    exact isActive_of_mem hmem
  have htold : (tell (react (perform react depth)) wr (edits.capture w.store.data)).run w'
      = .ok () { w' with parts := { w'.parts with submission := .blank } } :=
    run_tell_of_news (c := edits.capture w.store.data) hactive rfl
  rw [Run.outcome_bind_of_ok htold]
  exact hlast _ rfl

/-! ## Every change withdraws a submission -/

/-- A write of a tracker that is making passes changes nothing, or it withdraws the submission. -/
theorem throughOr_perform_busy (hsubs : subs = front ++ ⟨ticket, none, .edits⟩ :: back)
    (hfront : ∀ sub ∈ front, sub.owner = .visibility) (hwr : wr.IsProper) (hplaced : wr.IsPlaced)
    (hw : Busy form (· = subs) w) :
    (perform react (depth + 1) wr).ThroughOr Withdrawn w (Busy form (· = subs)) := by
  rcases Write.change?_cases hplaced w.store.data with ⟨hnone, -⟩ | hsome
  · exact Or.inl ⟨false, w, run_perform_of_none _ _ hnone, hw⟩
  · right
    exact withdrawn_perform (I := Busy form (· = subs)) (hw.heard.trans hsubs) hsome
      ⟨hw.toUpheld.withData hwr hsome, hw.refreshing⟩ (fun w' hw' => hw'.heard.trans hw.heard.symm)
      fun sub hsub w' hw' => Or.inl (yields_tell_busy (hfront sub hsub) hw')

/-- What decides what is visible is told of a change while it is idle. -/
theorem throughOr_tell_idle (hpaths : ∀ node ∈ Item.nodes form.schema.items, node.path ≠ "")
    (hsubs : subs = front ++ ⟨ticket, none, .edits⟩ :: back)
    (hfront : ∀ sub ∈ front, sub.owner = .visibility) {c : Captured Owner}
    (howner : c.subscription.owner = .visibility) (hw : Upheld form (· = subs) w)
    (hidle : w.parts.tracker.refreshing = false) :
    (tell (react (perform react (depth + 1))) wr c).ThroughOr Withdrawn w fun w' =>
      Upheld form (· = subs) w' ∧ w'.parts.tracker.refreshing = false := by
  rcases told_cases (react (perform react (depth + 1))) wr c w with hquiet | ⟨news, -, htold⟩
  · exact Or.inl ⟨(), w, hquiet, hw, hidle⟩
  · have hmanages : Tracker.Manages trackerPart form.schema.items true (perform react (depth + 1))
        Withdrawn (Busy form (· = subs)) :=
      manages hpaths (fun wr w hwr hplaced hw => throughOr_perform_busy hsubs hfront hwr hplaced hw)
        (fun _ _ => id) (keeps_perform_withdrawn (depth + 1))
    have hbusy : Busy form (· = subs) (Tracker.busied trackerPart w) :=
      ⟨hw.of_parts rfl rfl rfl fun owner => by cases owner <;> rfl, rfl⟩
    have hrefresh := hmanages.refresh hidle hbusy
    unfold ThroughOr at hrefresh ⊢
    rw [Run.Yields, Run.outcome, htold, howner]
    refine hrefresh.imp_left fun hdone => hdone.mono ?_
    rintro w' ⟨last, hlast, rfl⟩
    exact ⟨hlast.toUpheld.of_parts rfl rfl rfl fun owner => by cases owner <;> rfl, rfl⟩

/-- **Every write that changes the data withdraws the submission**, whether it ends well or not. -/
theorem withdrawn_put (hpaths : ∀ node ∈ Item.nodes form.schema.items, node.path ≠ "")
    (hw : Upheld form heard w) (hlistening : Listening w.store.subscriptions)
    (hidle : w.parts.tracker.refreshing = false) (hwr : wr.IsProper) {after : Object}
    (hchange : wr.change? w.store.data = .ok (some after)) :
    Withdrawn ((put wr).outcome w) := by
  obtain ⟨front, ticket, back, hsubs, hfront⟩ := hlistening
  have hput : (put wr).outcome w
      = (perform react (188 + w.store.watchings.length + 1 + 1) wr).outcome w := by
    rw [Run.outcome, put, run_write, nesting_eq, ← Run.outcome]
  rw [hput]
  let I : World Owner Session → Prop := fun w' =>
    Upheld form (· = w.store.subscriptions) w' ∧ w'.parts.tracker.refreshing = false
  have hnow : Upheld form (· = w.store.subscriptions) w := hw.mono rfl
  exact withdrawn_perform (I := I) hsubs hchange ⟨hnow.withData hwr hchange, hidle⟩
    (fun _ hw' => hw'.1.heard) fun sub hsub w' hw' =>
      throughOr_tell_idle hpaths hsubs hfront (hfront sub hsub) hw'.1 hw'.2

end DynamicForms.Session
