import DynamicForms.Proofs.Visibility.Prune

/-!
# `DynamicForms.Proofs.Visibility.Monotone` — pruning where no condition asks for a difference

A deletion leaves at every path what was there, or nothing, or an object where an object was. No condition
is met by nothing or by an object unless it asks for a difference. So in a form in which none does,
deletions only ever hide items, whether they are made at the path of a condition, above it or below it;
and it does not matter which conditions depend on which.

What a pass of pruning takes away was hidden when the pass was made. Nothing that the later passes take
away can show it again, so in the end all that is gone is what is hidden in the end. A field that is
still visible then lies apart from all of it; a visible group has lost what lay at hidden items inside
it, and nothing else.

## Contents
- **Taking something out of a value.** `Value.cut`, `Value.without`, `read_delete_of_above`,
  `exists_without_of_deletes`.
- **Fading.** `Path.Fades`, `fades_delete`, `fades_deletes`.
- **Conditions that ask for no difference.** `Item.IsPositive`, `isShown_of_fades`,
  `visiblePaths_of_fades`.
- `Tracker.Shedding`: what the passes of pruning keep.
- `Item.prune_of_isPositive`.
-/

namespace DynamicForms

open Value (Object)
open Path (Sound HasPlainNames IsWhole Apart segments descend? remove? read delete)

/-! ## Taking something out of a value -/

namespace Value

/-- An object without what lies at the end of a way; anything else as it is. -/
def cut : Value → List String → Value
  | .object fields, way => .object ((remove? fields way).getD fields)
  | v, _ => v

/-- A value without what lies at the ends of some ways. -/
def without (v : Value) (ways : List (List String)) : Value :=
  ways.foldl cut v

variable {v : Value} {way : List String}

theorem cut_object (fields : Object) (way : List String) :
    cut (.object fields) way = .object ((remove? fields way).getD fields) := rfl

theorem cut_of_not_object (h : v.isObject = false) (way : List String) : v.cut way = v := by
  cases v <;> first | rfl | cases h

theorem isAbsent_cut (v : Value) (way : List String) : (v.cut way).isAbsent = v.isAbsent := by
  cases v <;> rfl

theorem without_cons (v : Value) (way : List String) (ways : List (List String)) :
    v.without (way :: ways) = (v.cut way).without ways := rfl

/-- A value that loses something is still there. -/
theorem isAbsent_without (v : Value) (ways : List (List String)) :
    (v.without ways).isAbsent = v.isAbsent := by
  induction ways generalizing v with
  | nil => rfl
  | cons way rest ih => rw [without_cons, ih, isAbsent_cut]

end Value

namespace Path

variable {data : Object} {path other : String} {more : List String}

/-- Taking something out from below a name takes it out of what lies under the name. -/
theorem get?_remove_cons_cons (fields : Object) (name next : String) (rest : List String) :
    Entries.get? ((remove? fields (name :: next :: rest)).getD fields) name
      = (Entries.get? fields name).map (·.cut (next :: rest)) := by
  cases hremove : remove? fields (name :: next :: rest) with
  | some after =>
    obtain ⟨inner, inner', hget, hinner, rfl⟩ := remove?_cons_eq_some hremove
    rw [Option.getD_some, Entries.get?_put_self, hget, Option.map_some, Value.cut_object, hinner]
    rfl
  | none =>
    rw [Option.getD_none]
    cases hget : Entries.get? fields name with
    | none => rfl
    | some child =>
      cases hobject : child.isObject with
      | false => rw [Option.map_some, Value.cut_of_not_object hobject]
      | true =>
        obtain ⟨inner, rfl⟩ := (Value.isObject_iff child).mp hobject
        rw [remove?_cons_cons, hget] at hremove
        rw [Option.map_some, Value.cut_object, Option.map_eq_none_iff.mp hremove]
        rfl

/-- Above the place where something is taken out lies what was there, without it. -/
theorem descend?_cut_of_above (hmore : more ≠ []) (v : Value) (way : List String) :
    descend? (v.cut (way ++ more)) way = (descend? v way).map (·.cut more) := by
  induction way generalizing v with
  | nil => rw [List.nil_append, descend?_nil, descend?_nil]; rfl
  | cons name rest ih =>
    cases hobject : v.isObject with
    | false =>
      rw [Value.cut_of_not_object hobject, descend?_cons_of_not_object hobject]
      rfl
    | true =>
      obtain ⟨fields, rfl⟩ := (Value.isObject_iff v).mp hobject
      obtain ⟨next, behind, hbehind⟩ : ∃ next behind, rest ++ more = next :: behind :=
        List.exists_cons_of_ne_nil (by simp [hmore])
      rw [List.cons_append, Value.cut_object, descend?_cons, descend?_cons, hbehind,
        get?_remove_cons_cons, ← hbehind]
      cases Entries.get? fields name with
      | none => rfl
      | some child => exact ih child

/-- **Above a deletion a path reads what it read, without what was deleted.** -/
theorem read_delete_of_above (hdata : HasPlainNames data) (ho : IsWhole other) (hmore : more ≠ [])
    (hpath : segments path = segments other ++ more) :
    read (.object (delete data path)) other = (read (.object data) other).cut more := by
  have hdelete : Value.object (delete data path)
      = (Value.object data).cut (segments other ++ more) := by
    rw [Value.cut_object, ← hpath]
    rfl
  rw [read_of_plain (hasPlainNames_delete hdata path) ho, read_of_plain hdata ho, hdelete,
    descend?_cut_of_above hmore]
  cases descend? (.object data) (segments other) <;> rfl

/-- **Deletions below a path and apart from it** take out what lies at the ends of ways below it. -/
theorem exists_without_of_deletes (hdata : HasPlainNames data) (ho : IsWhole other)
    {deleted : List String}
    (hdeleted : ∀ path ∈ deleted, Apart (segments path) (segments other) ∨
      ∃ more, more ≠ [] ∧ segments path = segments other ++ more) :
    ∃ ways : List (List String),
      (∀ way ∈ ways, way ≠ [] ∧ ∃ path ∈ deleted, segments path = segments other ++ way) ∧
      read (.object (deleted.foldl delete data)) other = (read (.object data) other).without ways := by
  induction deleted generalizing data with
  | nil => exact ⟨[], nofun, rfl⟩
  | cons path rest ih =>
    obtain ⟨ways, hways, hread⟩ := ih (hasPlainNames_delete hdata path)
      fun p hp => hdeleted p (List.mem_cons_of_mem _ hp)
    have hways' : ∀ way ∈ ways,
        way ≠ [] ∧ ∃ p ∈ path :: rest, segments p = segments other ++ way := by
      intro way hway
      obtain ⟨hne, p, hp, hsegments⟩ := hways way hway
      exact ⟨hne, p, List.mem_cons_of_mem _ hp, hsegments⟩
    rcases hdeleted path List.mem_cons_self with hapart | ⟨more, hmore, hpath⟩
    · refine ⟨ways, hways', ?_⟩
      rw [List.foldl_cons, hread, read_delete_of_apart ho hapart]
    · refine ⟨more :: ways, ?_, ?_⟩
      · intro way hway
        rcases List.mem_cons.mp hway with rfl | hway
        · exact ⟨hmore, path, List.mem_cons_self, hpath⟩
        · exact hways' way hway
      · rw [List.foldl_cons, hread, read_delete_of_above hdata ho hmore hpath, Value.without_cons]

/-! ## Fading -/

/-- Every path reads what it read before, or nothing, or an object. -/
def Fades (data after : Object) : Prop :=
  ∀ path, read (.object after) path = read (.object data) path ∨
    (read (.object after) path).isHollow = true

theorem Fades.refl (data : Object) : Fades data data := fun _ => Or.inl rfl

theorem Fades.trans {data after later : Object} (h : Fades data after) (h' : Fades after later) :
    Fades data later := by
  intro path
  rcases h' path with hsame | hhollow
  · rw [hsame]
    exact h path
  · exact Or.inr hhollow

/-- Where names have no dots every nonempty path is read by going down, whole or not. -/
theorem read_of_plain_of_ne_empty (hdata : HasPlainNames data) (hpath : path ≠ "") :
    read (.object data) path = (descend? (.object data) (segments path)).getD .absent := by
  have hempty : path.isEmpty = false := by simpa [String.isEmpty_iff] using hpath
  rw [read, find?, if_neg (by rw [hempty]; exact Bool.false_ne_true)]
  cases hget : Entries.get? data path with
  | none => simp only
  | some flat =>
    have hmem : path ∈ Entries.keys data := by
      rw [← Entries.contains_iff, Entries.contains, hget]
      rfl
    rw [segments_of_no_dot (hdata path hmem) hpath, descend?_cons, hget, Option.bind_some,
      descend?_nil]

/-- **A deletion lets values fade**, and does nothing else to any path. -/
theorem fades_delete (hdata : Sound data) (deleted : String) : Fades data (delete data deleted) := by
  intro path
  by_cases hempty : path = ""
  · subst hempty
    exact Or.inl rfl
  · rw [read_of_plain_of_ne_empty (hasPlainNames_delete hdata.plain deleted) hempty,
      read_of_plain_of_ne_empty hdata.plain hempty]
    rcases descend?_delete_cases hdata.distinct deleted (segments path) with
      hnone | hsame | ⟨-, inner, -, hinner⟩
    · rw [hnone]
      exact Or.inr rfl
    · rw [hsame]
      exact Or.inl rfl
    · rw [hinner]
      exact Or.inr rfl

theorem sound_delete (hdata : Sound data) (path : String) : Sound (delete data path) :=
  ⟨hasPlainNames_delete hdata.plain path, hasDistinctNames_delete hdata.distinct path⟩

theorem fades_deletes (hdata : Sound data) (deleted : List String) :
    Sound (deleted.foldl delete data) ∧ Fades data (deleted.foldl delete data) := by
  induction deleted generalizing data with
  | nil => exact ⟨hdata, Fades.refl data⟩
  | cons path rest ih =>
    obtain ⟨hsound, hfades⟩ := ih (sound_delete hdata path)
    exact ⟨hsound, (fades_delete hdata path).trans hfades⟩

end Path

/-! ## Conditions that ask for no difference -/

variable {items : List Item} {data after : Object}

/-- What has faded is equal only to what it was equal to before. -/
theorem ShowWhen.holds_of_fades {c : ShowWhen} (h : Path.Fades data after)
    (hholds : c.holds (.object after) = true) : c.holds (.object data) = true := by
  rcases h c.field with hsame | hhollow
  · rw [ShowWhen.holds, ← hsame]
    exact hholds
  · rw [ShowWhen.holds, Value.strictlyEqual_of_isHollow hhollow] at hholds
    cases hholds

/-- What has faded is no longer equal to anything and contains nothing. -/
theorem VisibilityCondition.holds_of_fades {c : VisibilityCondition} (hop : c.operator ≠ .notEquals)
    (h : Path.Fades data after) (hholds : c.holds (.object after) = true) :
    c.holds (.object data) = true := by
  rcases h c.field with hsame | hhollow
  · rw [VisibilityCondition.holds, ← hsame]
    exact hholds
  · have hequal : ∀ s : String,
        (read (.object after) c.field).strictlyEqual (.text s) = false :=
      fun s => Value.strictlyEqual_of_isHollow hhollow (.text s)
    have hcontains : ∀ s : String, containsText (read (.object after) c.field) s = false :=
      Value.containsText_of_isHollow hhollow
    have hfails : c.holds (.object after) = false := by
      unfold VisibilityCondition.holds
      cases hcase : c.operator with
      | contains => simp [hcontains]
      | equals => simp [hequal]
      | notEquals => exact absurd hcase hop
    rw [hfails] at hholds
    cases hholds

namespace Item

/-- No condition of the form asks for a difference. -/
def IsPositive (items : List Item) : Prop :=
  ∀ node ∈ nodes items, ∀ c ∈ node.item.visibility, c.operator ≠ .notEquals

instance (items : List Item) : Decidable (IsPositive items) :=
  inferInstanceAs (Decidable (∀ node ∈ nodes items, ∀ c ∈ node.item.visibility,
    c.operator ≠ .notEquals))

/-- An item that is shown after values have faded was shown before. -/
theorem isShown_of_fades {item : Item} (hop : ∀ c ∈ item.visibility, c.operator ≠ .notEquals)
    (h : Path.Fades data after) (hshown : item.isShown (.object after) = true) :
    item.isShown (.object data) = true := by
  rw [isShown, Bool.and_eq_true] at hshown ⊢
  obtain ⟨hshow, hvis⟩ := hshown
  constructor
  · cases hc : item.showWhen with
    | none => rfl
    | some c =>
      rw [hc] at hshow
      exact ShowWhen.holds_of_fades h hshow
  · cases hc : item.visibility with
    | none => rfl
    | some c =>
      rw [hc] at hvis
      exact VisibilityCondition.holds_of_fades (hop c hc) h hvis

/-- **Values that fade show no item again** where no condition asks for a difference. -/
theorem visiblePaths_of_fades (hn : WellNamed items) (hpositive : IsPositive items)
    (h : Path.Fades data after) {path : String}
    (hpath : path ∈ visiblePaths items (.object after)) :
    path ∈ visiblePaths items (.object data) := by
  obtain ⟨node, hnode, rfl⟩ := Tracker.listed_visibleTable items _ path hpath
  rw [visiblePaths, mem_keys_visibleTable_iff hn hnode] at hpath ⊢
  intro g hg hgoverns
  exact isShown_of_fades (hpositive g hg) h (hpath g hg hgoverns)

end Item

/-! ## Passes -/

namespace Tracker

variable {w : World Unit Tracker} {put : Writer Unit Tracker} {original : Object}

/-- What holds between the passes of pruning: all that has been taken away is hidden. -/
structure Shedding (items : List Item) (original : Object) (w : World Unit Tracker) : Prop where
  /-- The tracker is alone, and registers nothing. -/
  lone : Lone items false w
  /-- What is visible is part of the form. -/
  listed : Listed items w.parts.visible
  /-- The data is sound. -/
  sound : Sound w.store.data
  /-- The data is the original data with values deleted at items that it hides. -/
  deletes : ∃ deleted : List String,
    (∀ path ∈ deleted, (∃ node ∈ Item.nodes items, node.path = path) ∧
      path ∉ Item.visiblePaths items (.object w.store.data)) ∧
    w.store.data = deleted.foldl delete original

/-- **A pass takes away only what stays hidden**, and what was hidden before stays so. -/
theorem Shedding.afterPass (hn : Item.WellNamed items) (hpositive : Item.IsPositive items)
    (h : Shedding items original w) (dirty : Bool) :
    Shedding items original (Tracker.afterPass false (visibleNow items w) w dirty) := by
  obtain ⟨deleted, hdeleted, hdata⟩ := h.deletes
  obtain ⟨more, hsub, hsweep⟩ := exists_sweep_eq_deletes
    (moveBetween w.parts.visible (visibleNow items w)).removed w.store.data
  obtain ⟨hsound, hfades⟩ := Path.fades_deletes h.sound more
  rw [← hsweep] at hsound hfades
  refine ⟨h.lone.afterPass _ _, listed_visibleNow items w, hsound, deleted ++ more, ?_, ?_⟩
  · intro path hpath
    rcases List.mem_append.mp hpath with hpath | hpath
    · obtain ⟨hnode, hhidden⟩ := hdeleted path hpath
      exact ⟨hnode, fun hshown => hhidden (Item.visiblePaths_of_fades hn hpositive hfades hshown)⟩
    · obtain ⟨hwas, hgone⟩ := mem_removed_iff.mp (hsub.subset hpath)
      exact ⟨h.listed path hwas,
        fun hshown => hgone (Item.visiblePaths_of_fades hn hpositive hfades hshown)⟩
  · show sweep _ w.store.data = _
    rw [hsweep, List.foldl_append, ← hdata]

end Tracker

namespace Item

/-- **What pruning deletes is hidden in the end** where no condition asks for a difference; and pruning
    ends well. -/
theorem exists_deletes_prune (hn : WellNamed items) (hpositive : IsPositive items)
    (hdata : Sound data) :
    (∃ w, pruneRun.run (pruneWorld items data) = .ok () w ∧ w.store.data = prune items data) ∧
    ∃ deleted : List String,
      (∀ path ∈ deleted, (∃ node ∈ nodes items, node.path = path) ∧
        path ∉ visiblePaths items (.object (prune items data))) ∧
      prune items data = deleted.foldl delete data := by
  have hstart : (Tracker.start Part.whole (write Tracker.react) ()).Yields (pruneWorld items data)
      fun w => Tracker.Shedding items data w := by
    refine (Tracker.yields_start_of (Q := Tracker.Shedding items data) ?_)
    intro w hw hidle hsame hvisible
    have hshedding : Tracker.Shedding items data (Tracker.withRefreshing w true) :=
      ⟨hw.withRefreshing true, hvisible ▸ Tracker.listed_byPath hn, hsame ▸ hdata,
        [], nofun, hsame⟩
    have hpasses : (Tracker.passes Part.whole (write Tracker.react) (nodeCount items + 1)).Yields
        (Tracker.withRefreshing w true) (Tracker.Shedding items data) := by
      refine Tracker.yields_passes_of
        (I := fun _ now => now.parts.refreshing = true ∧ Tracker.Shedding items data now)
        ?_ (fun _ hout => hout.2) ⟨rfl, hshedding⟩
      rintro count now ⟨href, hnow⟩
      obtain ⟨dirty, hrun, -, -⟩ :=
        Tracker.run_round hn hnow.lone href (hasRoom_write _) hnow.listed
      have hnext := hnow.afterPass hn hpositive dirty
      refine ⟨_, hrun, ?_⟩
      split
      · exact ⟨href, hnext⟩
      · exact hnext
    refine (Tracker.yields_refresh_of hn hw hidle hpasses).mono ?_
    rintro _ ⟨last, hlast, rfl⟩
    exact ⟨hlast.lone.withRefreshing false, hlast.listed, hlast.sound, hlast.deletes⟩
  obtain ⟨w, last, hrun, hsame, hlast, hprune⟩ := run_pruneRun_of hstart
  refine ⟨⟨w, hrun, hsame⟩, ?_⟩
  rw [← hprune]
  exact hlast.deletes

/-- A deleted item that is hidden lies apart from a visible item or inside it. -/
theorem apart_or_inside_of_hidden (hn : WellNamed items) {hidden shown : Node} {data : Value}
    (hhidden : hidden ∈ nodes items) (hshown : shown ∈ nodes items)
    (hgone : hidden.path ∉ visiblePaths items data) (hthere : shown.path ∈ visiblePaths items data) :
    Apart (segments hidden.path) (segments shown.path) ∨
      ∃ more, more ≠ [] ∧ segments hidden.path = segments shown.path ++ more := by
  by_cases hbelow : segments shown.path <+: segments hidden.path
  · obtain ⟨more, hmore⟩ := hbelow
    refine Or.inr ⟨more, ?_, hmore.symm⟩
    rintro rfl
    rw [List.append_nil] at hmore
    exact hgone (Path.segments_inj (hn.isWhole hshown) (hn.isWhole hhidden) hmore ▸ hthere)
  · refine Or.inl ⟨fun habove => hgone ?_, hbelow⟩
    exact mem_keys_visibleTable_of_governs hn hhidden hshown
      (hn.governs_of_prefix hhidden hshown habove) hthere

/-- **Without conditions that ask for a difference, pruning removes hidden values and nothing else.** It
    ends well; what is visible after it was visible before; and a node that is visible after it reads what
    it read before. A field does so without any change; a group lacks only what lay at items inside it
    that are hidden. -/
theorem prune_of_isPositive (hn : WellNamed items) (hpositive : IsPositive items)
    (hdata : Sound data) :
    (∃ w, pruneRun.run (pruneWorld items data) = .ok () w ∧ w.store.data = prune items data) ∧
    (∀ path ∈ visiblePaths items (.object (prune items data)),
      path ∈ visiblePaths items (.object data)) ∧
    ∀ node ∈ nodes items, node.path ∈ visiblePaths items (.object (prune items data)) →
      ((read (.object (prune items data)) node.path).isAbsent
        = (read (.object data) node.path).isAbsent) ∧
      (node.item.isField = true →
        read (.object (prune items data)) node.path = read (.object data) node.path) ∧
      ∃ ways : List (List String),
        (∀ way ∈ ways, ∃ below ∈ node.inside,
          below.path ∉ visiblePaths items (.object (prune items data)) ∧
          segments below.path = segments node.path ++ way) ∧
        read (.object (prune items data)) node.path
          = (read (.object data) node.path).without ways := by
  obtain ⟨hends, deleted, hdeleted, hprune⟩ := exists_deletes_prune hn hpositive hdata
  have hfades : Path.Fades data (prune items data) := by
    rw [hprune]
    exact (Path.fades_deletes hdata deleted).2
  refine ⟨hends, fun path hpath => visiblePaths_of_fades hn hpositive hfades hpath, ?_⟩
  intro node hnode hshown
  -- every deletion was made inside the node or apart from it
  have hplaces : ∀ path ∈ deleted, Apart (segments path) (segments node.path) ∨
      ∃ more, more ≠ [] ∧ segments path = segments node.path ++ more := by
    intro path hpath
    obtain ⟨⟨hidden, hhidden, rfl⟩, hgone⟩ := hdeleted path hpath
    exact apart_or_inside_of_hidden hn hhidden hnode hgone hshown
  obtain ⟨ways, hways, hread⟩ :=
    Path.exists_without_of_deletes hdata.plain (hn.isWhole hnode) hplaces
  rw [← hprune] at hread
  have hinside : ∀ way ∈ ways, ∃ below ∈ node.inside,
      below.path ∉ visiblePaths items (.object (prune items data)) ∧
      segments below.path = segments node.path ++ way := by
    intro way hway
    obtain ⟨hne, path, hpath, hsegments⟩ := hways way hway
    obtain ⟨⟨below, hbelow, rfl⟩, hgone⟩ := hdeleted path hpath
    refine ⟨below, ?_, hgone, hsegments⟩
    rcases hn.governs_of_prefix hnode hbelow ⟨way, hsegments.symm⟩ with rfl | hmem
    · exact absurd hshown hgone
    · exact hmem
  refine ⟨by rw [hread, Value.isAbsent_without], fun hfield => ?_, ways, hinside, hread⟩
  -- nothing stands inside a field
  cases ways with
  | nil => exact hread
  | cons way rest =>
    obtain ⟨below, hbelow, -⟩ := hinside way List.mem_cons_self
    rw [inside_eq_nil_of_isField hfield] at hbelow
    cases hbelow

/-- A form in which two items depend on each other: `choice` is shown for a certain `city` of the group
    `home`, and that and `street` for a certain `choice`. -/
def roundaboutForm : List Item :=
  [.field { (default : Field) with
    id := "choice", showWhen := some ⟨"home.city", .text "Bern"⟩ },
   .group { (default : GroupHeader) with id := "home" }
    [.field { (default : Field) with
      id := "city", visibility := some ⟨"choice", .contains, .many ["yes", "sure"]⟩ },
     .field { (default : Field) with
      id := "street", visibility := some ⟨"choice", .equals, .one "yes"⟩ },
     .field { (default : Field) with id := "note" }]]

theorem prune_roundaboutForm :
    WellNamed roundaboutForm ∧ IsPositive roundaboutForm ∧
    Sound [("choice", .text "no"),
      ("home", .object [("city", .text "Bern"), ("street", .text "Ring"), ("note", .text "n")])] ∧
    ∀ path ∈ visiblePaths roundaboutForm (.object (prune roundaboutForm [("choice", .text "no"),
        ("home", .object [("city", .text "Bern"), ("street", .text "Ring"), ("note", .text "n")])])),
      path ∈ visiblePaths roundaboutForm (.object [("choice", .text "no"),
        ("home", .object [("city", .text "Bern"), ("street", .text "Ring"), ("note", .text "n")])]) := by
  have hn : WellNamed roundaboutForm :=
    (show Regular roundaboutForm by decide +kernel).named
  have hpositive : IsPositive roundaboutForm := by decide +kernel
  have hdata : Sound [("choice", .text "no"),
      ("home", .object [("city", .text "Bern"), ("street", .text "Ring"), ("note", .text "n")])] := by
    decide +kernel
  exact ⟨hn, hpositive, hdata, (prune_of_isPositive hn hpositive hdata).2.1⟩

/-- Of the group only what is shown whatever the other values are is left. -/
example : prune roundaboutForm [("choice", .text "no"),
      ("home", .object [("city", .text "Bern"), ("street", .text "Ring"), ("note", .text "n")])]
    = [("home", .object [("note", .text "n")])] := by
  rfl

end Item
end DynamicForms
