import DynamicForms.Proofs.Visibility.Dependency

/-!
# `DynamicForms.Proofs.Visibility.Consistency` — a tracker stays consistent over whole runs

Between the steps of a run a tracker is *steady*: no pass is due, and the visible part is that of the
data. A step is a write to the store or a refresh that somebody asks for. A write either changes
nothing the conditions can tell apart, or it is told to the tracker, which then makes its passes; on
an acyclic form these come to rest in time. So every step ends well and leaves the tracker steady.

Hidden items have no value, for as long as the steps themselves give them none.

## Contents
- `Tracker.Event`, `Event.run`, `Event.Spares`, `SparesAll`.
- `Tracker.Steady`: what holds between the steps.
- **One step.** `hiddenAbsent_after`, `Steady.event`.
- **Whole runs.** `steady_start`, `Steady.events`, `consistent_of_acyclic`.
-/

namespace DynamicForms

open Value (Object)
open Path (Sound)

namespace Tracker

/-- A step on a store that a tracker follows. -/
inductive Event where
  /-- A write to the store. -/
  | write (wr : Write)
  /-- The tracker is asked to bring itself up to date. -/
  | refresh
  deriving Repr, Inhabited

namespace Event

/-- What a step does. -/
def run : Event → Run Unit Tracker Unit
  | .write wr => do
    let _ ← DynamicForms.write Tracker.react wr
  | .refresh => Tracker.refresh Part.whole (DynamicForms.write Tracker.react)

/-- Writes are at whole paths, of well-formed values. -/
def IsPlain : Event → Prop
  | .write wr => wr.IsPlain
  | .refresh => True

instance (e : Event) : Decidable e.IsPlain :=
  match e with
  | .write wr => inferInstanceAs (Decidable wr.IsPlain)
  | .refresh => inferInstanceAs (Decidable True)

/-- A step itself gives no value to an item that is hidden at that moment: it sets nothing at a path
    that overlaps one, and new data has nothing there. Deletions and refreshes never do. -/
def Spares (items : List Item) (w : World Unit Tracker) : Event → Prop
  | .write (.set path _) => ∀ node ∈ Item.nodes items, node.path ∉ w.parts.visiblePaths →
      Path.overlaps path node.path = false
  | .write (.reset data) => ∀ node ∈ Item.nodes items, node.path ∉ w.parts.visiblePaths →
      (Path.read (.object data) node.path).isAbsent = true
  | .write (.unregister _) => True
  | .refresh => True

end Event

/-- Every step of a run spares what is hidden when it is made. -/
def SparesAll (items : List Item) : World Unit Tracker → List Event → Prop
  | _, [] => True
  | w, e :: rest => e.Spares items w ∧ ∀ w', e.run.run w = .ok () w' → SparesAll items w' rest

variable {items : List Item} {w : World Unit Tracker} {kept : Prop} {data : Object}

/-- What holds between the steps of a run. Whether hidden items have no value is one of it if the
    steps so far have `kept` it so. -/
structure Steady (items : List Item) (kept : Prop) (w : World Unit Tracker) : Prop where
  /-- The tracker is alone. -/
  lone : Lone items true w
  /-- No passes are being made. -/
  idle : w.parts.refreshing = false
  /-- No pass is due. -/
  clean : w.parts.dirty = false
  /-- The data is sound. -/
  sound : Sound w.store.data
  /-- The visible part is that of the data. -/
  visible_eq : w.parts.visible = Item.visibleTable items (.object w.store.data)
  /-- Hidden items have no value. -/
  hidden : kept → HiddenAbsent items w.parts.visible w.store.data

/-- What the passes leave is steady. -/
theorem RestsOn.steady (hi : Item.Regular items)
    (h : Rests items true (fun j before data =>
      Settled items j before data ∧ (kept → HiddenAbsent items before data)) w)
    (hidle : w.parts.refreshing = false) : Steady items kept w where
  lone := h.lone
  idle := hidle
  clean := h.clean
  sound := h.sound
  visible_eq := h.visible_eq
  hidden hkept := by
    obtain ⟨j, before, data, hbefore, hdata, hP, hvisible, hlast⟩ := h.last
    rw [hvisible, hlast]
    exact hiddenAbsent_passed hi hbefore hdata (hP.2 hkept)

/-! ## One step -/

/-- A refresh from any visible part of the form ends well and leaves the tracker steady. -/
theorem yields_refresh_steady (hi : Item.Regular items) (hacyclic : Item.Acyclic items)
    {put : Writer Unit Tracker} (hput : HasRoom Tracker.react put) (hw : Lone items true w)
    (hidle : w.parts.refreshing = false) (hdata : Sound w.store.data)
    (hlisted : Listed items w.parts.visible)
    (hhidden : kept → HiddenAbsent items w.parts.visible w.store.data) :
    (Tracker.refresh Part.whole put).Yields w (Steady items kept) :=
  (yields_refresh hi (progress_settled hi hacyclic kept) hput hw hidle hdata hlisted
    ⟨Settled.zero items _ _, hhidden⟩).mono fun _ h => h.1.steady hi h.2

/-- A write that spares what is hidden gives no value to it. -/
theorem hiddenAbsent_after (hi : Item.Regular items) {wr : Write} (hwr : wr.IsPlain)
    (hw : Steady items kept w) (hkept : kept) (hspares : (Event.write wr).Spares items w) :
    HiddenAbsent items w.parts.visible (wr.after w.store.data) := by
  intro node hnode hgone
  have habsent := hw.hidden hkept node hnode hgone
  have hwhole := hi.named.isWhole hnode
  cases wr with
  | set path v =>
    have hapart := Path.apart_of_not_overlaps hwr.1 hwhole (hspares node hnode hgone)
    rw [Write.read_after_of_apart rfl hwhole hapart]
    exact habsent
  | unregister path => exact Write.isAbsent_after_unregister hw.sound hwhole path habsent
  | reset new => exact hspares node hnode hgone

/-- **A step ends well and leaves the tracker steady.** -/
theorem Steady.event (hi : Item.Regular items) (hacyclic : Item.Acyclic items) {e : Event}
    (hplain : e.IsPlain) (hw : Steady items kept w) :
    e.run.Yields w (Steady items (kept ∧ e.Spares items w)) := by
  have hlisted : Listed items w.parts.visible := by
    rw [hw.visible_eq]; exact listed_visibleTable items _
  cases e with
  | refresh =>
    exact yields_refresh_steady hi hacyclic (hasRoom_write _) hw.lone hw.idle hw.sound hlisted
      fun h => hw.hidden h.1
  | write wr =>
    have hsound : Sound (wr.after w.store.data) := Write.sound_after hplain hw.sound
    have hhidden : kept ∧ (Event.write wr).Spares items w →
        HiddenAbsent items w.parts.visible (wr.after w.store.data) :=
      fun h => hiddenAbsent_after hi hplain hw h.1 h.2
    have hwrite : (DynamicForms.write Tracker.react wr).Yields w
        (Steady items (kept ∧ (Event.write wr).Spares items w)) := by
      refine yields_write_of hi hw.lone hplain.isWhole (fun htable => ?_) fun put hput => ?_
      · -- the tracker is not told: it is up to date as it is
        exact ⟨hw.lone.withData _, hw.idle, hw.clean, hsound, hw.visible_eq.trans htable.symm, hhidden⟩
      · -- the tracker is told, and refreshes with the writes that are left for it
        exact yields_refresh_steady hi hacyclic hput (hw.lone.withData (wr.after w.store.data)) hw.idle
          hsound hlisted hhidden
    exact hwrite.bind fun _ w' hw' => ⟨(), w', rfl, hw'⟩

/-! ## Whole runs -/

/-- Starting leaves the tracker steady, with no value at hidden items. -/
theorem steady_start (hi : Item.Regular items) (hacyclic : Item.Acyclic items)
    (hdata : Sound data) :
    (start Part.whole (write Tracker.react) ()).Yields
      ⟨Store.ofData data, ofItems items true⟩ (Steady items True) := by
  have hhidden : True → HiddenAbsent items (Item.byPath items) data := by
    intro _ node hnode hgone
    rw [Item.keys_byPath hi.named] at hgone
    exact absurd (List.mem_map_of_mem hnode) hgone
  exact (yields_start hi (progress_settled hi hacyclic True) hdata
    ⟨Settled.zero items _ _, hhidden⟩).mono fun _ h => h.1.steady hi h.2

/-- A run from a steady tracker ends well and leaves it steady. -/
theorem Steady.events (hi : Item.Regular items) (hacyclic : Item.Acyclic items)
    {events : List Event} (hplain : ∀ e ∈ events, e.IsPlain) (hw : Steady items kept w) :
    (events.forM Event.run).Yields w (Steady items (kept ∧ SparesAll items w events)) := by
  induction events generalizing w kept with
  | nil =>
    refine ⟨(), w, rfl, ?_⟩
    exact ⟨hw.lone, hw.idle, hw.clean, hw.sound, hw.visible_eq, fun h => hw.hidden h.1⟩
  | cons e rest ih =>
    obtain ⟨⟨⟩, w', hrun, hw'⟩ := hw.event hi hacyclic (hplain e List.mem_cons_self)
    obtain ⟨⟨⟩, w'', hrest, hw''⟩ := ih (fun e he => hplain e (List.mem_cons_of_mem _ he)) hw'
    refine ⟨(), w'', ?_, hw''.lone, hw''.idle, hw''.clean, hw''.sound, hw''.visible_eq,
      fun h => hw''.hidden ⟨⟨h.1, h.2.1⟩, h.2.2 w' hrun⟩⟩
    show (e.run >>= fun _ => rest.forM Event.run).run w = _
    rw [EStateM.run_bind, hrun]
    exact hrest

/-- **A tracker that registers fields stays consistent over whole runs** on a form whose conditions
    are acyclic. Starting it and every list of steps after that end well, the visible part is that of
    the data, no pass is due, and if every step spares what is hidden when it is made, hidden items
    have no value. -/
theorem consistent_of_acyclic (hi : Item.Regular items) (hacyclic : Item.Acyclic items)
    (hdata : Sound data)
    {events : List Event} (hplain : ∀ e ∈ events, e.IsPlain) :
    ∃ started w,
      (start Part.whole (write Tracker.react) ()).run ⟨Store.ofData data, ofItems items true⟩
        = .ok () started ∧
      (events.forM Event.run).run started = .ok () w ∧
      w.parts.visiblePaths = Item.visiblePaths items (.object w.store.data) ∧
      w.parts.dirty = false ∧
      (SparesAll items started events → ∀ node ∈ Item.nodes items,
        node.path ∉ w.parts.visiblePaths → Path.read (.object w.store.data) node.path = .absent) := by
  obtain ⟨⟨⟩, started, hstart, hsteady⟩ := steady_start hi hacyclic hdata
  obtain ⟨⟨⟩, w, hrun, hw⟩ := hsteady.events hi hacyclic hplain
  refine ⟨started, w, hstart, hrun, ?_, hw.clean, fun hspares node hnode hgone => ?_⟩
  · rw [visiblePaths, hw.visible_eq, Item.visiblePaths]
  · exact (Value.isAbsent_iff _).mp (hw.hidden ⟨trivial, hspares⟩ node hnode hgone)

theorem consistent_reasonForm :
    ∃ started w,
      (start Part.whole (write Tracker.react) ()).run
        ⟨Store.ofData [("choice", .text "yes"), ("extra", .text "given")],
          ofItems Item.reasonForm true⟩ = .ok () started ∧
      ([.write (.set "choice" (.text "no")), .refresh, .write (.unregister "reason")].forM
        Event.run).run started = .ok () w ∧
      w.parts.visiblePaths = Item.visiblePaths Item.reasonForm (.object w.store.data) := by
  have hdata : Sound [("choice", .text "yes"), ("extra", .text "given")] := by decide +kernel
  have hplain : ∀ e ∈ [Event.write (.set "choice" (.text "no")), .refresh,
      .write (.unregister "reason")], e.IsPlain := by decide +kernel
  obtain ⟨started, w, hstart, hrun, hvisible, -⟩ :=
    consistent_of_acyclic Item.regular_reasonForm Item.acyclic_reasonForm hdata hplain
  exact ⟨started, w, hstart, hrun, hvisible⟩

end Tracker
end DynamicForms
