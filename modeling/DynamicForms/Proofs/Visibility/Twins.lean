import DynamicForms.Proofs.Store.Relate
import DynamicForms.Proofs.Visibility.Refresh

/-!
# `DynamicForms.Proofs.Visibility.Twins` — one tracker in two forms

What a tracker does depends on its own state and on the data alone. So if the same tracker stands in two
forms with the same data, and what it writes is related in the two, all that it does is.

## Contents
- `Tracker.Twins`: the same tracker in two forms.
- `Twins.applyVisible`, `Twins.passes`, `Twins.refresh`.
-/

namespace DynamicForms.Tracker

open Run (Relates relates_pure relates_bind relates_seq relates_forM)

variable {κ σ κ' σ' : Type}

/-- The same tracker in two forms with the same data. -/
structure Twins (R : World κ σ → World κ' σ' → Prop) (part : Part σ Tracker) (part' : Part σ' Tracker)
    (put : Writer κ σ) (put' : Writer κ' σ') : Prop where
  /-- The data is the same. -/
  data_eq : ∀ {w w'}, R w w' → w.store.data = w'.store.data
  /-- So is the tracker. -/
  tracker_eq : ∀ {w w'}, R w w' → part.get w.parts = part'.get w'.parts
  /-- The trackers can be changed alike. -/
  change : ∀ {w w'} (t : Tracker), R w w' →
    R { w with parts := part.set t w.parts } { w' with parts := part'.set t w'.parts }
  /-- What is written is related. -/
  put : ∀ wr, Relates R Eq (put wr) (put' wr)

namespace Twins

variable {R : World κ σ → World κ' σ' → Prop} {part : Part σ Tracker} {part' : Part σ' Tracker}
  {put : Writer κ σ} {put' : Writer κ' σ'} (h : Twins R part part' put put')

include h

theorem update (f : Tracker → Tracker) :
    Relates R Eq (part.update f : Run κ σ Unit) (part'.update f : Run κ' σ' Unit) :=
  relates_update fun w w' hw => by
    rw [h.tracker_eq hw]
    exact h.change _ hw

theorem read : Relates R Eq (part.read : Run κ σ Tracker) (part'.read : Run κ' σ' Tracker) :=
  relates_read fun _ _ hw => h.tracker_eq hw

theorem discard (wr : Write) : Relates R Eq (put wr >>= fun _ => pure PUnit.unit)
    (put' wr >>= fun _ => pure PUnit.unit) :=
  relates_seq (h.put wr) (relates_pure rfl)

theorem register (path : String) (item : Item) :
    Relates R Eq (Tracker.register put path item) (Tracker.register put' path item) := by
  cases item with
  | group g inner => exact relates_pure rfl
  | field f =>
    refine relates_bind (relates_readPath (V := Eq) fun w w' hw => ?_) fun v v' hv => ?_
    · rw [Store.get, Store.get, h.data_eq hw]
    · subst hv
      cases v.isAbsent with
      | false => exact relates_pure rfl
      | true => exact h.discard _

theorem noteMove (move : Move) :
    Relates R Eq (Tracker.noteMove part move : Run κ σ Unit)
      (Tracker.noteMove part' move : Run κ' σ' Unit) := by
  unfold Tracker.noteMove
  split
  · exact relates_pure rfl
  · exact h.update _

theorem applyVisible (visible : Entries Item) :
    Relates R Eq (Tracker.applyVisible part put visible) (Tracker.applyVisible part' put' visible) := by
  refine relates_bind h.read fun t t' ht => ?_
  subst ht
  refine relates_seq (h.update _) ?_
  have hsweep : Relates R Eq ((moveBetween t.visible visible).removed.forM fun path => do
        let _ ← put (.unregister path)) ((moveBetween t.visible visible).removed.forM fun path => do
        let _ ← put' (.unregister path)) :=
    relates_forM (List.forall₂_same.mpr fun path _ => h.discard _)
  refine relates_seq hsweep ?_
  cases t.registers with
  | false => exact h.noteMove _
  | true =>
    exact relates_seq (relates_forM (List.forall₂_same.mpr fun entry _ => h.register _ _))
      (h.noteMove _)

theorem passes (count : Nat) :
    Relates R Eq (Tracker.passes part put count) (Tracker.passes part' put' count) := by
  induction count with
  | zero => exact relates_pure rfl
  | succ count ih =>
    refine relates_seq (h.update _) (relates_bind h.read fun t t' ht => ?_)
    subst ht
    refine relates_bind (relates_readData (V := Eq) fun _ _ hw => h.data_eq hw) fun data data' hdata => ?_
    subst hdata
    refine relates_seq (h.applyVisible _) (relates_bind h.read fun t t' ht => ?_)
    subst ht
    cases t.dirty with
    | false => exact relates_pure rfl
    | true => exact ih

theorem settling {m : Run κ σ Unit} {m' : Run κ' σ' Unit} (hm : Relates R Eq m m') :
    Relates R Eq (Tracker.settling part m) (Tracker.settling part' m') := by
  intro w w' hw
  have hidled : ∀ {w w'}, R w w' → R (idled part w) (idled part' w') := by
    intro w w' hw
    rw [idled, idled, h.tracker_eq hw]
    exact h.change _ hw
  rw [run_settling_eq, run_settling_eq]
  have hend := hm w w' hw
  revert hend
  generalize m.run w = found, m'.run w' = found'
  rintro (⟨-, hend⟩ | ⟨fault, hend⟩)
  · exact .ok rfl (hidled hend)
  · exact .error fault (hidled hend)

/-- **A refresh does the same in both forms.** -/
theorem refresh : Relates R Eq (Tracker.refresh part put) (Tracker.refresh part' put') := by
  refine relates_bind h.read fun t t' ht => ?_
  subst ht
  cases t.refreshing with
  | true => exact h.update fun t => { t with dirty := true }
  | false => exact relates_seq (h.update _) (h.settling (h.passes _))

end Twins
end DynamicForms.Tracker
