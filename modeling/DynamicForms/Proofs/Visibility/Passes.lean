import DynamicForms.Proofs.Visibility.Pass

/-!
# `DynamicForms.Proofs.Visibility.Passes` — the passes of a tracker, one after the other

A tracker makes passes until one leaves its mark clear, but at most one more than there are items. So
whatever a pass makes of a world, said of the number of passes still to come, holds when they have
ended; refreshing and starting are a few steps around that.

Whether the passes end because nothing is left to do depends on the form. They do so if some property,
kept from pass to pass, leaves nothing to do in the last one.

## Contents
- **The loop.** `Tracker.round`, `run_round`, `yields_passes_of`, `yields_refresh_of`, `run_start`,
  `yields_start_of`.
- **Coming to rest.** `Tracker.ProgressOn`, `Progress`, `ProgressOn.beside`, `KeptByPasses`,
  `yields_refresh_keeping`, `Tracker.RestsOn`, `Rests`, `yields_refresh_on`, `yields_refresh`,
  `yields_start`.
-/

namespace DynamicForms

open Value (Object)
open Path (Sound)

namespace Tracker

variable {items : List Item} {registers : Bool} {w : World Unit Tracker}
  {put : Writer Unit Tracker}

/-! ## The loop -/

/-- One of the passes. -/
def round (put : Writer Unit Tracker) : Run Unit Tracker Unit := do
  (Part.whole : Part Tracker Tracker).update fun t => { t with dirty := false }
  let t ← (Part.whole : Part Tracker Tracker).read
  applyVisible Part.whole put (Item.visibleTable t.items (.object (← readData)))

/-- The visible part of the data of a world. -/
def visibleNow (items : List Item) (w : World Unit Tracker) : Entries Item :=
  Item.visibleTable items (.object w.store.data)

theorem listed_visibleNow (items : List Item) (w : World Unit Tracker) :
    Listed items (visibleNow items w) :=
  listed_visibleTable items _

/-- **One of the passes.** If the mark is clear after it, and conditions name whole paths, no item has
    appeared or gone; and at rest it leaves the mark clear. -/
theorem run_round (hn : Item.WellNamed items) (hw : Lone items registers w)
    (href : w.parts.refreshing = true) (hput : HasRoom Tracker.react put)
    (hlisted : Listed items w.parts.visible) :
    ∃ dirty, (round put).run w = .ok () (afterPass registers (visibleNow items w) w dirty) ∧
      (dirty = false → Item.Regular items →
        visibleNow items (afterPass registers (visibleNow items w) w dirty) = visibleNow items w) ∧
      (AtRest registers w.parts.visible (visibleNow items w) w.store.data → dirty = false) := by
  let cleared : World Unit Tracker := { w with parts := { w.parts with dirty := false } }
  have hcleared : Lone items registers cleared :=
    ⟨hw.items_eq, hw.registers_eq, hw.alone, hw.hears⟩
  obtain ⟨dirty, hrun, hclean, hrest⟩ := run_applyVisible hcleared href hput
    (hlisted.isWhole hn) ((listed_visibleNow items w).isWhole hn)
  have hround : (round put).run w = (applyVisible Part.whole put
      (Item.visibleTable w.parts.items (.object w.store.data))).run cleared := rfl
  refine ⟨dirty, ?_, hclean, hrest⟩
  rw [hround, hw.items_eq]
  exact hrun

/-- The mark says whether another pass follows. -/
theorem run_passes_succ {w' : World Unit Tracker} (count : Nat)
    (h : (round put).run w = .ok () w') :
    (passes Part.whole put (count + 1)).run w
      = (if w'.parts.dirty then passes Part.whole put count else pure ()).run w' := by
  have hround : passes Part.whole put (count + 1) = (round put >>= fun _ => do
      if (← (Part.whole : Part Tracker Tracker).read).dirty then
        passes Part.whole put count) := by
    rw [passes, round]
    simp only [bind_assoc]
  rw [hround, EStateM.run_bind, h]
  rfl

/-- **Passes keep what each of them keeps**, said of the number of passes that may follow. -/
theorem yields_passes_of {I : Nat → World Unit Tracker → Prop} {Q : World Unit Tracker → Prop}
    (hround : ∀ count w, I (count + 1) w → ∃ w', (round put).run w = .ok () w' ∧
      if w'.parts.dirty then I count w' else Q w')
    (hout : ∀ w, I 0 w → Q w) {count : Nat} (h : I count w) :
    (passes Part.whole put count).Yields w Q := by
  induction count generalizing w with
  | zero => exact ⟨(), w, rfl, hout w h⟩
  | succ count ih =>
    obtain ⟨w', hrun, hnext⟩ := hround count w h
    rw [Run.Yields, run_passes_succ count hrun]
    cases hdirty : w'.parts.dirty with
    | true =>
      rw [hdirty, if_pos rfl] at hnext
      exact ih hnext
    | false =>
      rw [hdirty, if_neg Bool.false_ne_true] at hnext
      exact ⟨(), w', rfl, hnext⟩

/-- A program that ends well settles with nothing else done. -/
theorem run_settling {m : Run Unit Tracker Unit} {w' : World Unit Tracker}
    (h : m.run w = .ok () w') :
    (settling Part.whole m).run w = .ok () (withRefreshing w' false) := by
  have hbody : (m >>= fun _ => (Part.whole : Part Tracker Tracker).update fun t =>
      { t with refreshing := false } : Run Unit Tracker Unit) w = .ok () (withRefreshing w' false) := by
    show EStateM.run _ w = _
    rw [EStateM.run_bind, h]
    rfl
  show EStateM.tryCatch _ _ w = _
  simp only [EStateM.tryCatch, hbody]

/-- **A refresh makes passes**, and says so as long as it does. -/
theorem yields_refresh_of {Q : World Unit Tracker → Prop} (hn : Item.WellNamed items)
    (hw : Lone items registers w) (hidle : w.parts.refreshing = false)
    (h : (passes Part.whole put (Item.nodeCount items + 1)).Yields (withRefreshing w true) Q) :
    (refresh Part.whole put).Yields w fun w' => ∃ last, Q last ∧ w' = withRefreshing last false := by
  obtain ⟨⟨⟩, last, hrun, hlast⟩ := h
  refine ⟨(), withRefreshing last false, ?_, last, hlast, rfl⟩
  rw [refresh]
  simp only [EStateM.run_bind, Part.run_read, Part.run_update, Part.whole_get, Part.whole_set, hidle,
    Bool.false_eq_true, if_false, hw.items_eq, Item.length_byPath hn]
  simp only [withRefreshing, hw.items_eq] at hrun
  exact run_settling hrun

section

variable {κ σ : Type} (part : Part σ Tracker)

/-- A world in which a tracker takes every item as visible. -/
def readied (w : World κ σ) : World κ σ :=
  { w with parts := part.set { part.get w.parts with
      visible := Item.byPath (part.get w.parts).items } w.parts }

/-- A world in which a tracker listens to what its conditions read. -/
def listening (owner : κ) (w : World κ σ) : World κ σ :=
  ⟨(w.store.subscribe (part.get w.parts).watched owner).2,
    part.set { part.get w.parts with ticket := some w.store.nextTicket } w.parts⟩

/-- A world in which a tracker takes every item as visible, and listens if there is something to hear. -/
def started (owner : κ) (w : World κ σ) : World κ σ :=
  if !(part.get (readied part w).parts).watched.isEmpty
      && (part.get (readied part w).parts).ticket.isNone then
    listening part owner (readied part w)
  else readied part w

/-- **Starting is a refresh** once everything is taken as visible. -/
theorem run_start (put : Writer κ σ) (owner : κ) (w : World κ σ) :
    (start part put owner).run w = (refresh part put).run (started part owner w) := by
  have hrun : (start part put owner).run w
      = (if !(part.get (readied part w).parts).watched.isEmpty
          && (part.get (readied part w).parts).ticket.isNone then do
          let ticket ← subscribe (part.get (readied part w).parts).watched owner
          part.update fun t => { t with ticket := some ticket }
          refresh part put
        else refresh part put : Run κ σ Unit).run (readied part w) := rfl
  rw [hrun, started]
  split <;> rfl

end

/-- A tracker that is alone starts as it refreshes. -/
theorem yields_start_of {Q : World Unit Tracker → Prop} {data : Object}
    (h : ∀ w, Lone items registers w → w.parts.refreshing = false → w.store.data = data →
      w.parts.visible = Item.byPath items → (refresh Part.whole (write Tracker.react)).Yields w Q) :
    (start Part.whole (write Tracker.react) ()).Yields
      ⟨Store.ofData data, ofItems items registers⟩ Q := by
  rw [Run.Yields, run_start, started]
  split
  · exact h (listening Part.whole () (readied Part.whole _))
      ⟨rfl, rfl, rfl, fun hnone => absurd hnone (Option.some_ne_none _)⟩ rfl rfl rfl
  · next hdeaf =>
    -- it has no ticket yet, so there is nothing to hear
    have hnothing : Item.watchedPaths items = [] := by
      replace hdeaf : ¬ (!(Item.watchedPaths items).isEmpty && true) = true := hdeaf
      simpa using hdeaf
    exact h (readied Part.whole _) ⟨rfl, rfl, rfl, fun _ => hnothing⟩ rfl rfl rfl

/-! ## Coming to rest -/

/-- A property of the passes made so far, the visible part and the data that is kept from pass to
    pass and leaves nothing to do once as many passes have been made as there are items. -/
structure ProgressOn (S : Object → Prop) (items : List Item) (registers : Bool)
    (P : Nat → Entries Item → Object → Prop) : Prop where
  /-- A pass that has something to do keeps the property. -/
  step : ∀ {j before data}, Listed items before → S data → P j before data →
    ¬ AtRest registers before (Item.visibleTable items (.object data)) data →
    P (j + 1) (Item.visibleTable items (.object data))
      (passed registers before (Item.visibleTable items (.object data)) data)
  /-- The last pass has nothing to do. -/
  last : ∀ {before data}, Listed items before → S data →
    P (Item.nodeCount items) before data →
    AtRest registers before (Item.visibleTable items (.object data)) data

/-- Progress with sound data. -/
abbrev Progress := ProgressOn Sound

section

variable {S T : Object → Prop}

theorem ProgressOn.of_imp {P : Nat → Entries Item → Object → Prop} (h : ProgressOn S items registers P)
    (himp : ∀ data, T data → S data) : ProgressOn T items registers P where
  step hbefore hdata := h.step hbefore (himp _ hdata)
  last hbefore hdata := h.last hbefore (himp _ hdata)

/-- Beside a property that leaves nothing to do, another one may be kept from pass to pass. -/
theorem ProgressOn.beside {P : Nat → Entries Item → Object → Prop} (h : ProgressOn S items registers P)
    {K : Entries Item → Object → Prop}
    (hK : ∀ {before data}, Listed items before → S data → K before data →
      K (Item.visibleTable items (.object data))
        (passed registers before (Item.visibleTable items (.object data)) data)) :
    ProgressOn S items registers fun j before data => P j before data ∧ K before data where
  step hbefore hdata hP hbusy := ⟨h.step hbefore hdata hP.1 hbusy, hK hbefore hdata hP.2⟩
  last hbefore hdata hP := h.last hbefore hdata hP.1

/-- A property of the data that is kept by passes. -/
def KeptByPasses (S : Object → Prop) (items : List Item) (registers : Bool) : Prop :=
  ∀ {before data}, Listed items before → S data →
    S (passed registers before (Item.visibleTable items (.object data)) data)

/-- **What passes keep a refresh keeps**, and it ends well, whether the passes come to rest or not. -/
theorem yields_refresh_keeping (hn : Item.WellNamed items) (hS : KeptByPasses S items registers)
    (hput : HasRoom Tracker.react put) (hw : Lone items registers w) (hidle : w.parts.refreshing = false)
    (hlisted : Listed items w.parts.visible) (hdata : S w.store.data) :
    (refresh Part.whole put).Yields w fun w' => S w'.store.data := by
  have hpasses : (passes Part.whole put (Item.nodeCount items + 1)).Yields (withRefreshing w true)
      fun last => S last.store.data := by
    refine yields_passes_of
      (I := fun _ now => now.parts.refreshing = true ∧ Lone items registers now ∧
        Listed items now.parts.visible ∧ S now.store.data)
      ?_ (fun _ hout => hout.2.2.2) ⟨rfl, hw.withRefreshing true, hlisted, hdata⟩
    rintro count now ⟨href, hnow, hlistedNow, hdataNow⟩
    obtain ⟨dirty, hrun, -, -⟩ := run_round hn hnow href hput hlistedNow
    have hnext := hS hlistedNow hdataNow
    refine ⟨_, hrun, ?_⟩
    split
    · exact ⟨href, hnow.afterPass _ _, listed_visibleNow items now, hnext⟩
    · exact hnext
  refine (yields_refresh_of hn hw hidle hpasses).mono ?_
  rintro _ ⟨last, hlast, rfl⟩
  exact hlast

theorem keptByPasses_sound (hi : Item.Regular items) : KeptByPasses Sound items registers :=
  fun hbefore hdata => sound_passed registers hdata (removed_isWhole hi.named hbefore)
    ((listed_visibleTable items _).isWhole hi.named)

/-- What holds after the last pass: the visible part is that of the data, and the data is what a pass
    has made of some data with the property. -/
structure RestsOn (S : Object → Prop) (items : List Item) (registers : Bool)
    (P : Nat → Entries Item → Object → Prop) (w : World Unit Tracker) : Prop where
  /-- The tracker is still alone. -/
  lone : Lone items registers w
  /-- No other pass is due. -/
  clean : w.parts.dirty = false
  /-- The data is of the kind that passes keep. -/
  sound : S w.store.data
  /-- The visible part is that of the data. -/
  visible_eq : w.parts.visible = Item.visibleTable items (.object w.store.data)
  /-- The last pass. -/
  last : ∃ j before data, Listed items before ∧ S data ∧ P j before data ∧
    w.parts.visible = Item.visibleTable items (.object data) ∧
    w.store.data = passed registers before (Item.visibleTable items (.object data)) data

/-- What holds after the last pass over sound data. -/
abbrev Rests := RestsOn Sound

theorem RestsOn.mono {P P' : Nat → Entries Item → Object → Prop} (h : RestsOn S items registers P w)
    (himp : ∀ j before data, P j before data → P' j before data) : RestsOn S items registers P' w :=
  { h with
    last := by
      obtain ⟨j, before, data, hbefore, hdata, hP, hvisible, hlast⟩ := h.last
      exact ⟨j, before, data, hbefore, hdata, himp j before data hP, hvisible, hlast⟩ }

/-- What holds while passes are being made and so many more may follow. -/
def Pending (S : Object → Prop) (items : List Item) (registers : Bool)
    (P : Nat → Entries Item → Object → Prop) : Nat → World Unit Tracker → Prop
  | 0, _ => False
  | count + 1, w => Lone items registers w ∧ w.parts.refreshing = true ∧ S w.store.data ∧
      Listed items w.parts.visible ∧
      ∃ j, j + count = Item.nodeCount items ∧ P j w.parts.visible w.store.data

variable {P : Nat → Entries Item → Object → Prop}

/-- One of the passes: either it was the last one, or it had something to do, and the property was
    kept. -/
theorem Pending.round (hi : Item.Regular items) (hS : KeptByPasses S items registers)
    (hP : ProgressOn S items registers P) (hput : HasRoom Tracker.react put) {count : Nat}
    (h : Pending S items registers P (count + 1) w) :
    ∃ w', (Tracker.round put).run w = .ok () w' ∧
      if w'.parts.dirty then Pending S items registers P count w'
      else RestsOn S items registers P w' := by
  obtain ⟨hw, href, hdata, hlisted, j, hcount, hj⟩ := h
  have htable := listed_visibleNow items w
  have hsound := hS hlisted hdata
  obtain ⟨dirty, hrun, hclean, hrest⟩ := run_round hi.named hw href hput hlisted
  refine ⟨_, hrun, ?_⟩
  show if dirty = true then _ else _
  cases dirty with
  | false =>
    rw [if_neg Bool.false_ne_true]
    exact ⟨hw.afterPass _ _, rfl, hsound, (hclean rfl hi).symm, j, w.parts.visible, w.store.data,
      hlisted, hdata, hj, rfl, rfl⟩
  | true =>
    rw [if_pos rfl]
    have hbusy : ¬ AtRest registers w.parts.visible (visibleNow items w) w.store.data :=
      fun hr => Bool.noConfusion (hrest hr)
    cases count with
    | zero =>
      -- before the last pass the property leaves nothing to do
      obtain rfl : j = Item.nodeCount items := by omega
      exact hbusy (hP.last hlisted hdata hj)
    | succ count =>
      exact ⟨hw.afterPass _ _, href, hsound, htable, j + 1, by omega,
        hP.step hlisted hdata hj hbusy⟩

/-- **A refresh comes to rest**, over data of any kind that passes keep. -/
theorem yields_refresh_on (hi : Item.Regular items) (hS : KeptByPasses S items registers)
    (hP : ProgressOn S items registers P) (hput : HasRoom Tracker.react put)
    (hw : Lone items registers w) (hidle : w.parts.refreshing = false) (hdata : S w.store.data)
    (hlisted : Listed items w.parts.visible) (h : P 0 w.parts.visible w.store.data) :
    (refresh Part.whole put).Yields w
      fun w' => RestsOn S items registers P w' ∧ w'.parts.refreshing = false := by
  have hpending : Pending S items registers P (Item.nodeCount items + 1) (withRefreshing w true) :=
    ⟨hw.withRefreshing true, rfl, hdata, hlisted, 0, Nat.zero_add _, h⟩
  have hpasses := yields_passes_of (I := Pending S items registers P)
    (fun _ _ hround => hround.round hi hS hP hput) (fun _ hnone => hnone.elim) hpending
  refine (yields_refresh_of hi.named hw hidle hpasses).mono ?_
  rintro _ ⟨last, hrests, rfl⟩
  exact ⟨⟨hrests.lone.withRefreshing false, hrests.clean, hrests.sound, hrests.visible_eq,
    hrests.last⟩, rfl⟩

/-- So it does over sound data. -/
theorem yields_refresh (hi : Item.Regular items) (hP : Progress items registers P)
    (hput : HasRoom Tracker.react put) (hw : Lone items registers w)
    (hidle : w.parts.refreshing = false) (hdata : Sound w.store.data)
    (hlisted : Listed items w.parts.visible) (h : P 0 w.parts.visible w.store.data) :
    (refresh Part.whole put).Yields w
      fun w' => Rests items registers P w' ∧ w'.parts.refreshing = false :=
  yields_refresh_on hi (keptByPasses_sound hi) hP hput hw hidle hdata hlisted h

/-- **Starting comes to rest**, if the property holds with every item taken as visible. -/
theorem yields_start (hi : Item.Regular items) (hP : Progress items registers P) {data : Object}
    (hdata : Sound data) (h : P 0 (Item.byPath items) data) :
    (start Part.whole (write Tracker.react) ()).Yields ⟨Store.ofData data, ofItems items registers⟩
      fun w' => Rests items registers P w' ∧ w'.parts.refreshing = false := by
  refine yields_start_of fun w hw hidle hsame hvisible => ?_
  subst hsame
  exact yields_refresh hi hP (hasRoom_write _) hw hidle hdata (hvisible ▸ listed_byPath hi.named)
    (hvisible ▸ h)

end

end Tracker
end DynamicForms
