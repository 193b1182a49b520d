import DynamicForms.Proofs.Visibility.Consistency
import DynamicForms.Proofs.Visibility.Prune

/-!
# `DynamicForms.Proofs.Visibility.Veiled` — conditions that see nothing of what is hidden

Pruning takes the values of hidden items away, and a condition that reads one of them may then come out
differently. So what is visible before pruning need not be what is visible after it. But a value at or
below a hidden item counts only if a condition can tell it from none: no condition tells an object from
an absent value, so it does not matter that there are groups.

Data is *veiled* if no condition reads anything at or below a hidden item that it could tell from an
absent value. The passes of a tracker keep data veiled, and pruning veiled data leaves the visible part
as it is.

## Contents
- `Tracker.Veiled`.
- **Keeping.** `veiled_after_set`, `veiled_sweep`, `veiled_passed`.
- **Whole runs.** `Tracker.Poised`, `yields_refresh_poised`, `Poised.set`.
- `Item.visibleTable_prune`: what is visible after pruning.
-/

namespace DynamicForms

open Value (Object Interchangeable interchangeable_of_isHollow)
open Path (Sound IsWhole Apart)

namespace Path

variable {data : Object} {path other : String}

/-- What lies below a place apart from another one lies apart from that, too. -/
theorem Apart.of_below {way place below : List String} (h : Apart way place) (hpre : place <+: below) :
    Apart way below := by
  refine ⟨fun hway => ?_, fun hway => h.2 (hpre.trans hway)⟩
  rcases List.prefix_or_prefix_of_prefix hway hpre with hle | hle
  · exact h.1 hle
  · exact h.2 hle

/-- Where there is no value there is none below. -/
theorem isAbsent_read_below (hdata : HasPlainNames data) (hp : IsWhole path) (ho : IsWhole other)
    (hpre : segments path <+: segments other) (habsent : (read (.object data) path).isAbsent = true) :
    (read (.object data) other).isAbsent = true := by
  obtain ⟨more, hmore⟩ := hpre
  rw [read_of_plain hdata hp] at habsent
  rw [read_of_plain hdata ho, ← hmore, descend?_append]
  cases hfound : descend? (.object data) (segments path) with
  | none => rfl
  | some v =>
    rw [hfound, Option.getD_some, Value.isAbsent_iff] at habsent
    subst habsent
    rw [Option.bind_some]
    cases more with
    | nil => rfl
    | cons name rest => rfl

/-- Where there is nothing, or an object, a deletion leaves nothing or an object. -/
theorem isHollow_delete (hdata : Sound data) (ho : IsWhole other)
    (hhollow : (read (.object data) other).isHollow = true) :
    (read (.object (delete data path)) other).isHollow = true := by
  rw [read_of_plain hdata.plain ho] at hhollow
  rw [read_of_plain (hasPlainNames_delete hdata.plain path) ho]
  rcases descend?_delete_cases hdata.distinct path (segments other) with
    hnone | hsame | ⟨-, inner, -, hinner⟩
  · rw [hnone]
    rfl
  · rw [hsame]
    exact hhollow
  · rw [hinner]
    rfl

/-- A deletion changes nothing that a condition can tell, unless it is made at or above the place that the
    condition names. -/
theorem interchangeable_delete (hdata : Sound data) (ho : IsWhole other)
    (hbelow : segments path <+: segments other → (read (.object data) other).isHollow = true) :
    Interchangeable (read (.object (delete data path)) other) (read (.object data) other) := by
  by_cases hpre : segments path <+: segments other
  · exact interchangeable_of_isHollow (isHollow_delete hdata ho (hbelow hpre)) (hbelow hpre)
  · by_cases habove : segments other <+: segments path
    · obtain ⟨more, hmore⟩ := habove
      have hmore_ne : more ≠ [] := fun e => hpre ⟨[], by rw [← hmore, e]; simp⟩
      rcases delete_cases data path with ⟨-, hsame⟩ | hremove
      · rw [hsame]
        exact Interchangeable.refl _
      · obtain ⟨inner, inner', hinner, hinner'⟩ := descend?_remove_of_above hmore_ne (hmore ▸ hremove)
        rw [read_of_plain (hasPlainNames_delete hdata.plain path) ho, read_of_plain hdata.plain ho,
          hinner, hinner']
        exact interchangeable_of_isHollow rfl rfl
    · rw [read_delete_of_apart ho ⟨hpre, habove⟩]
      exact Interchangeable.refl _

end Path

namespace Write

variable {data : Object} {path other : String}

theorem interchangeable_after_unregister (hdata : Sound data) (ho : Path.IsWhole other)
    (hbelow : Path.segments path <+: Path.segments other →
      (Path.read (.object data) other).isHollow = true) :
    Interchangeable (Path.read (.object ((unregister path).after data)) other)
      (Path.read (.object data) other) := by
  rw [after_unregister]
  split
  · exact Interchangeable.refl _
  · exact Path.interchangeable_delete hdata ho hbelow

theorem isHollow_after_unregister (hdata : Sound data) (ho : Path.IsWhole other)
    (hhollow : (Path.read (.object data) other).isHollow = true) :
    (Path.read (.object ((unregister path).after data)) other).isHollow = true := by
  rw [after_unregister]
  split
  · exact hhollow
  · exact Path.isHollow_delete hdata ho hhollow

end Write

namespace Tracker

variable {items : List Item} {before visible : Entries Item} {data : Object}

/-- No condition reads anything at or below an item that is not in the table. -/
def Veiled (items : List Item) (visible : Entries Item) (data : Object) : Prop :=
  ∀ node ∈ Item.nodes items, node.path ∉ visible.keys → ∀ c ∈ Item.watchedPaths items,
    Path.segments node.path <+: Path.segments c → (Path.read (.object data) c).isHollow = true

/-- At first every item counts as visible. -/
theorem veiled_byPath (hn : Item.WellNamed items) (data : Object) :
    Veiled items (Item.byPath items) data := by
  intro node hnode hgone
  rw [Item.keys_byPath hn] at hgone
  exact absurd (List.mem_map_of_mem hnode) hgone

/-- **Setting a field keeps data veiled** if the field is visible, or if no condition reads it. -/
theorem veiled_after_set (hi : Item.Regular items)
    (h : Veiled items (Item.visibleTable items (.object data)) data) {u : Node}
    (hu : u ∈ Item.nodes items) (hfield : u.item.isField = true) (v : Value)
    (hspares : u.path ∉ (Item.visibleTable items (.object data)).keys →
      ∀ c ∈ Item.watchedPaths items, ¬ Path.segments u.path <+: Path.segments c) :
    Veiled items (Item.visibleTable items (.object data)) ((Write.set u.path v).after data) := by
  intro node hnode hgone c hc hpre
  have hhollow := h node hnode hgone c hc hpre
  have hwhole := hi.whole c hc
  rw [Write.after_set (Path.segments_ne_nil (hi.named.isWhole hu))]
  split
  · exact hhollow
  · rcases Path.read_place_cases (hi.named.isWhole hu) hwhole data v with
      hsame | ⟨more, hmore, -, -⟩ | ⟨inner, hinner⟩
    · rw [hsame]
      exact hhollow
    · -- the field would stand at or above what is read, as the hidden item does
      have hbelow : Path.segments u.path <+: Path.segments c := ⟨more, hmore.symm⟩
      by_cases hvisible : u.path ∈ (Item.visibleTable items (.object data)).keys
      · have hapart := apart_of_hidden_of_visible hi.named hnode hu hfield hgone hvisible
        exact absurd hbelow (hapart.of_below hpre).1
      · exact absurd hbelow (hspares hvisible c hc)
    · rw [hinner]
      rfl

/-- Sweeping lets no condition see anything where it saw nothing. -/
theorem isHollow_sweep {paths : List String} {c : String} (hdata : Sound data)
    (hpaths : ∀ path ∈ paths, IsWhole path) (hc : IsWhole c)
    (hhollow : (Path.read (.object data) c).isHollow = true) :
    (Path.read (.object (sweep paths data)) c).isHollow = true := by
  refine (sweep_keeps (P := fun data => Sound data ∧ (Path.read (.object data) c).isHollow = true) ?_
    ⟨hdata, hhollow⟩).2
  rintro path hpath data ⟨hsound, hhollow⟩
  have hplain : (Write.unregister path).IsPlain := hpaths path hpath
  exact ⟨Write.sound_after hplain hsound, Write.isHollow_after_unregister hsound hc hhollow⟩

/-- After a sweep no condition reads anything at or below an item that went, or was hidden before. -/
theorem veiled_sweep (hi : Item.Regular items) (hbefore : Listed items before) (hdata : Sound data)
    (h : Veiled items before data) :
    Veiled items visible (sweep (moveBetween before visible).removed data) := by
  intro node hnode hgone c hc hpre
  have hwholes : ∀ path ∈ (moveBetween before visible).removed, IsWhole path :=
    removed_isWhole hi.named hbefore
  have hwhole := hi.whole c hc
  by_cases hwas : node.path ∈ before.keys
  · have habsent := isAbsent_sweep_of_mem hdata hwholes (mem_removed_iff.mpr ⟨hwas, hgone⟩)
    have hnone := Path.isAbsent_read_below (sound_sweep hdata hwholes).plain
      (hi.named.isWhole hnode) hwhole hpre habsent
    rw [(Value.isAbsent_iff _).mp hnone]
    rfl
  · exact isHollow_sweep hdata hwholes hwhole (h node hnode hwas c hc hpre)

/-- **A pass keeps data veiled**: what it fills lies apart from all that is hidden. -/
theorem veiled_passed (hi : Item.Regular items) (hbefore : Listed items before) (hdata : Sound data)
    (h : Veiled items before data) :
    Veiled items (Item.visibleTable items (.object data))
      (passed true before (Item.visibleTable items (.object data)) data) := by
  intro node hnode hgone c hc hpre
  have hswept := veiled_sweep hi hbefore hdata h node hnode hgone c hc hpre
  show (Path.read (.object (fill (Item.visibleTable items (.object data)) _)) c).isHollow = true
  rw [read_fill_of_settled ((listed_visibleTable items _).isWhole hi.named)
    (unnested_visibleTable hi.named _) (hi.whole c hc)]
  · exact hswept
  · intro p f hp
    obtain ⟨u, hu, rfl, huf⟩ := Item.exists_node_of_mem_visibleTable hp
    have hfield : u.item.isField = true := by rw [huf]; rfl
    exact Or.inl ((apart_of_hidden_of_visible hi.named hnode hu hfield hgone
      (Entries.mem_keys_of_mem hp)).of_below hpre)

/-! ## Whole runs -/

/-- A tracker between the steps of a run that sets fields: it is steady, and the data is veiled if the
    steps so far have `kept` it so. -/
structure Poised (items : List Item) (kept : Prop) (w : World Unit Tracker) : Prop where
  /-- The tracker is steady. -/
  steady : Steady items False w
  /-- The data is veiled. -/
  veiled : kept → Veiled items w.parts.visible w.store.data

variable {kept : Prop} {w : World Unit Tracker}

/-- A refresh on an acyclic form ends well and leaves the tracker poised. -/
theorem yields_refresh_poised (hi : Item.Regular items) (hacyclic : Item.Acyclic items)
    {put : Writer Unit Tracker} (hput : HasRoom Tracker.react put) (hw : Lone items true w)
    (hidle : w.parts.refreshing = false) (hdata : Sound w.store.data)
    (hlisted : Listed items w.parts.visible)
    (hveiled : kept → Veiled items w.parts.visible w.store.data) :
    (Tracker.refresh Part.whole put).Yields w (Poised items kept) := by
  have hprogress := (progress_settled hi hacyclic False).beside
    (K := fun before data => kept → Veiled items before data)
    fun hbefore hdata hK hkept => veiled_passed hi hbefore hdata (hK hkept)
  refine (yields_refresh hi hprogress hput hw hidle hdata hlisted
    ⟨⟨Settled.zero items _ _, nofun⟩, hveiled⟩).mono fun w' h => ⟨?_, fun hkept => ?_⟩
  · exact (h.1.mono fun _ _ _ hP => hP.1).steady hi h.2
  · obtain ⟨j, before, data, hbefore, hdata, hP, hvisible, hlast⟩ := h.1.last
    rw [hvisible, hlast]
    exact veiled_passed hi hbefore hdata (hP.2 hkept)

/-- **Setting a field leaves the tracker poised.** -/
theorem Poised.set (hi : Item.Regular items) (hacyclic : Item.Acyclic items) (hw : Poised items kept w)
    {u : Node} (hu : u ∈ Item.nodes items) (hfield : u.item.isField = true) {v : Value}
    (hv : v.hasDistinctNames = true) :
    (write Tracker.react (.set u.path v)).Yields w (Poised items (kept ∧ (u.path ∉ w.parts.visible.keys →
      ∀ c ∈ Item.watchedPaths items, ¬ Path.segments u.path <+: Path.segments c))) := by
  have hplain : (Write.set u.path v).IsPlain := ⟨hi.named.isWhole hu, hv⟩
  have hsound := Write.sound_after hplain hw.steady.sound
  have hvisible := hw.steady.visible_eq
  have hveiled : kept ∧ (u.path ∉ w.parts.visible.keys →
      ∀ c ∈ Item.watchedPaths items, ¬ Path.segments u.path <+: Path.segments c) →
      Veiled items w.parts.visible ((Write.set u.path v).after w.store.data) := by
    rintro ⟨hkept, hspares⟩
    have hbefore := hw.veiled hkept
    rw [hvisible] at hbefore hspares ⊢
    exact veiled_after_set hi hbefore hu hfield v hspares
  refine yields_write_of hi hw.steady.lone hplain.isWhole (fun htable => ?_) fun put hput => ?_
  · exact ⟨⟨hw.steady.lone.withData _, hw.steady.idle, hw.steady.clean, hsound,
      hvisible.trans htable.symm, nofun⟩, hveiled⟩
  · refine yields_refresh_poised hi hacyclic hput (hw.steady.lone.withData _) hw.steady.idle hsound ?_
      hveiled
    show Listed items w.parts.visible
    rw [hvisible]
    exact listed_visibleTable items _

/-! ## Pruning -/

/-- Sweeping what is hidden from veiled data leaves the visible part as it is. -/
theorem visibleTable_sweep (hi : Item.Regular items) {paths : List String} (hdata : Sound data)
    (hwholes : ∀ path ∈ paths, IsWhole path)
    (hhidden : ∀ path ∈ paths, ∀ c ∈ Item.watchedPaths items,
      Path.segments path <+: Path.segments c → (Path.read (.object data) c).isHollow = true) :
    Item.visibleTable items (.object (sweep paths data)) = Item.visibleTable items (.object data) := by
  induction paths generalizing data with
  | nil => rfl
  | cons path rest ih =>
    have hplain : (Write.unregister path).IsPlain := hwholes path List.mem_cons_self
    have hrest := ih (Write.sound_after hplain hdata)
      (fun p hp => hwholes p (List.mem_cons_of_mem _ hp)) fun p hp c hc hpre =>
        Write.isHollow_after_unregister hdata (hi.whole c hc)
          (hhidden p (List.mem_cons_of_mem _ hp) c hc hpre)
    refine hrest.trans (Item.visibleTable_congr hi.named fun c hc => ?_)
    exact Write.interchangeable_after_unregister hdata (hi.whole c hc)
      (hhidden path List.mem_cons_self c hc)

/-- What is kept while veiled data is pruned: the visible part is the one it was at first, and the data
    is veiled. -/
structure Unveiling (items : List Item) (table : Entries Item) (data : Object) : Prop where
  /-- The visible part stays as it is. -/
  visible_eq : Item.visibleTable items (.object data) = table
  /-- No condition reads anything hidden. -/
  veiled : Veiled items table data

theorem Unveiling.sweep {table : Entries Item} (hi : Item.Regular items) (hbefore : Listed items before)
    (hdata : Sound data) (h : Unveiling items table data) :
    Unveiling items table (sweep (moveBetween before table).removed data) := by
  have hwholes : ∀ path ∈ (moveBetween before table).removed, IsWhole path :=
    removed_isWhole hi.named hbefore
  refine ⟨?_, ?_⟩
  · refine (visibleTable_sweep hi hdata hwholes fun path hpath => ?_).trans h.visible_eq
    obtain ⟨hwas, hgone⟩ := mem_removed_iff.mp hpath
    obtain ⟨node, hnode, rfl⟩ := hbefore path hwas
    exact h.veiled node hnode hgone
  · intro node hnode hgone c hc hpre
    exact isHollow_sweep hdata hwholes (hi.whole c hc) (h.veiled node hnode hgone c hc hpre)

/-- The first pass sweeps all that is hidden, and the visible part stays; so the next one has nothing to
    do. -/
theorem progress_unveiling (hi : Item.Regular items) (table : Entries Item) :
    Progress items false fun j before data =>
      Unveiling items table data ∧ (1 ≤ j → before = table) where
  step hbefore hdata h _ := by
    obtain ⟨hunveiling, -⟩ := h
    rw [hunveiling.visible_eq]
    exact ⟨hunveiling.sweep hi hbefore hdata, fun _ => rfl⟩
  last {before data} hbefore hdata h := by
    obtain ⟨hunveiling, hlater⟩ := h
    rw [hunveiling.visible_eq]
    refine ⟨fun path hpath => ?_, nofun⟩
    obtain ⟨hwas, hgone⟩ := mem_removed_iff.mp hpath
    obtain ⟨node, hnode, rfl⟩ := hbefore path hwas
    -- there is an item, so a pass has been made
    have hsome : 1 ≤ Item.nodeCount items := List.length_pos_of_mem hnode
    exact absurd (hlater hsome ▸ hwas) hgone

end Tracker

namespace Item

variable {items : List Item} {data : Object}

/-- **Pruning veiled data leaves the visible part as it is.** -/
theorem visibleTable_prune (hi : Regular items) (hdata : Sound data)
    (h : Tracker.Veiled items (visibleTable items (.object data)) data) :
    visibleTable items (.object (prune items data)) = visibleTable items (.object data) := by
  obtain ⟨w, rest, -, -, hrests, hprune⟩ :=
    run_pruneRun hi (Tracker.progress_unveiling hi (visibleTable items (.object data))) hdata
      ⟨⟨rfl, h⟩, nofun⟩
  obtain ⟨j, before, swept, hbefore, hswept, ⟨hunveiling, -⟩, -, hlast⟩ := hrests.last
  rw [← hprune, hlast, hunveiling.visible_eq]
  exact (hunveiling.sweep hi hbefore hswept).visible_eq

end Item
end DynamicForms
