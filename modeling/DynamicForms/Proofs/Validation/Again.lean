import DynamicForms.Proofs.Validation.Known

/-!
# `DynamicForms.Proofs.Validation.Again` — the first pass over what it has let through

If nothing is complained about, no group is missing that would be put in, and what is let through is
the data restricted to the items. Under the identifier of every item the restricted data shows what
the data shows there, a group again restricted. The checks look nowhere else; so they have nothing to
say about the restricted data either, and restricting it once more changes nothing.

## Contents
- **Nothing to put in.** `Check.exists_fields_of_clean`, `complete_eq_self`.
- **Restricted data.** `Item.restrictValue`, `exists_item_of_mem_restrict`, `isDocument_restrict`,
  `isDocument_complete`.
- **What restricted data shows.** `Item.Shows`, `shows_restrict`.
- **Checked again.** `Check.complaints_of_shows`, `restrict_of_shows`, `restrict_restrict`.
-/

namespace DynamicForms

open Value (Object)

/-! ## Nothing to put in -/

section

variable {parent path : String} {items inner : List Item} {checks : List Check} {g : GroupHeader}
  {d o : Object}

/-- A group that may not be missing and is not complained about is an object, and nothing is
    complained about inside it. -/
theorem Check.exists_fields_of_clean (hg : g.showWhen.isSome = false)
    (hclean : (Check.run d (.group ⟨g.id, path, g.showWhen.isSome⟩ checks)).complaints = []) :
    ∃ fields, d.get? g.id = some (.object fields) ∧ (Check.runAll fields checks).complaints = [] := by
  rw [Check.run, checkEntry, hg] at hclean
  cases hget : d.get? g.id with
  | none => simp [hget, Outcome.refused] at hclean
  | some v =>
    cases v with
    | object fields => exact ⟨fields, rfl, by simpa [hget] using hclean⟩
    | _ => simp [hget, Outcome.refused] at hclean

/-- **Where nothing is complained about no group is missing** that would be put in. -/
theorem complete_eq_self (hfit : Check.FitAll parent items checks)
    (hclean : (Check.runAll d checks).complaints = []) : Item.complete d items = d := by
  induction hfit generalizing d with
  | nil => rfl
  | field hfits hrest ih => exact ih (Check.complaints_cons hclean).2
  | @group parent g inner innerChecks rest checks hinner hrest ihInner ih =>
    obtain ⟨hhead, hbehind⟩ := Check.complaints_cons hclean
    have hsame : Item.completeOne d (.group g inner) = d := by
      rw [Item.completeOne]
      cases hg : g.showWhen.isSome with
      | true => rfl
      | false =>
        obtain ⟨fields, hget, hinside⟩ := Check.exists_fields_of_clean hg hhead
        simp only [Bool.false_eq_true, if_false, hget, ihInner hinside]
        exact Entries.put_of_get? hget
    rw [Item.complete_cons, hsame]
    exact ih hbehind

end

/-! ## Restricted data -/

namespace Item

/-- What the items of a group know of a value in its place. -/
def restrictValue (inner : List Item) : Value → Value
  | .object fields => .object (restrict fields inner)
  | v => v

variable {items rest inner : List Item} {g : GroupHeader} {d o : Object}

theorem restrictOne_field (d : Object) (f : Field) :
    restrictOne d (.field f) = ((d.get? f.id).map fun v => (f.id, v)).toList := by
  rw [restrictOne]
  cases d.get? f.id <;> rfl

theorem restrictOne_group (d : Object) (g : GroupHeader) (inner : List Item) :
    restrictOne d (.group g inner)
      = ((d.get? g.id).map fun v => (g.id, restrictValue inner v)).toList := by
  rw [restrictOne]
  cases d.get? g.id with
  | none => rfl
  | some v => cases v <;> rfl

/-- What an item knows has its identifier. -/
theorem eq_id_of_mem_restrictOne {item : Item} {entry : String × Value}
    (h : entry ∈ restrictOne d item) : entry.1 = item.id := by
  cases item with
  | field f =>
    rw [restrictOne_field, Option.mem_toList, Option.map_eq_some_iff] at h
    obtain ⟨v, -, rfl⟩ := h
    rfl
  | group g inner =>
    rw [restrictOne_group, Option.mem_toList, Option.map_eq_some_iff] at h
    obtain ⟨v, -, rfl⟩ := h
    rfl

theorem get?_restrictOne_of_ne {item : Item} {name : String} (h : name ≠ item.id) :
    Entries.get? (restrictOne d item) name = none := by
  rw [Entries.get?_eq_none_iff]
  intro hname
  obtain ⟨entry, hentry, rfl⟩ := List.mem_map.mp hname
  exact h (eq_id_of_mem_restrictOne hentry)

theorem get?_restrictOne_field (d : Object) (f : Field) :
    Entries.get? (restrictOne d (.field f)) f.id = d.get? f.id := by
  rw [restrictOne_field]
  cases d.get? f.id with
  | none => rfl
  | some v => exact Entries.get?_cons_self f.id v []

theorem get?_restrictOne_group (d : Object) (g : GroupHeader) (inner : List Item) :
    Entries.get? (restrictOne d (.group g inner)) g.id = (d.get? g.id).map (restrictValue inner) := by
  rw [restrictOne_group]
  cases d.get? g.id with
  | none => rfl
  | some v => exact Entries.get?_cons_self g.id (restrictValue inner v) []

/-- What items know has their identifiers. -/
theorem exists_item_of_mem_restrict {entry : String × Value} (h : entry ∈ restrict d items) :
    ∃ item ∈ items, item.id = entry.1 := by
  induction items with
  | nil => cases h
  | cons item rest ih =>
    rw [restrict] at h
    rcases List.mem_append.mp h with h | h
    · exact ⟨item, List.mem_cons_self, (eq_id_of_mem_restrictOne h).symm⟩
    · obtain ⟨other, hother, hid⟩ := ih h
      exact ⟨other, List.mem_cons_of_mem _ hother, hid⟩

theorem exists_item_of_get?_restrict {name : String} {v : Value}
    (h : Entries.get? (restrict d items) name = some v) : ∃ item ∈ items, item.id = name :=
  exists_item_of_mem_restrict (Entries.mem_of_get? h)

/-- The names of restricted data have no dots. -/
theorem hasPlainNames_restrict (hun : Unambiguous items) (d : Object) :
    Path.HasPlainNames (restrict d items) := by
  intro name hname
  obtain ⟨entry, hentry, rfl⟩ := List.mem_map.mp hname
  obtain ⟨item, hitem, hid⟩ := exists_item_of_mem_restrict hentry
  exact hid ▸ (hun.names _ (id_mem_identifiers hitem)).2

theorem isDocument_restrictOne {item : Item} (h : (Value.object d).isDocument = true)
    (hinside : ∀ g inner fields, item = .group g inner → (Value.object fields).isDocument = true →
      (Value.object (restrict fields inner)).isDocument = true) :
    (Value.object (restrictOne d item)).isDocument = true := by
  have hone : ∀ {id : String} {v : Value}, v.isDocument = true →
      (Value.object [(id, v)]).isDocument = true := by
    intro id v hv
    rw [Value.isDocument_object_iff]
    exact ⟨List.nodup_singleton id, fun entry hentry => List.mem_singleton.mp hentry ▸ hv⟩
  cases item with
  | field f =>
    rw [restrictOne_field]
    cases hget : d.get? f.id with
    | none => rfl
    | some v => exact hone (Value.isDocument_of_get? h hget)
  | group g inner =>
    rw [restrictOne_group]
    cases hget : d.get? g.id with
    | none => rfl
    | some v =>
      have hv := Value.isDocument_of_get? h hget
      cases v with
      | object fields => exact hone (hinside g inner fields rfl hv)
      | _ => exact hone hv

/-- Items in front of others have names of their own. -/
theorem isDocument_restrict_cons {item : Item} (hun : Unambiguous (item :: rest))
    (hhead : (Value.object (restrictOne d item)).isDocument = true)
    (hrest : (Value.object (restrict d rest)).isDocument = true) :
    (Value.object (restrict d (item :: rest))).isDocument = true := by
  rw [Value.isDocument_object_iff] at hhead hrest ⊢
  rw [restrict, Entries.keys, List.map_append]
  refine ⟨List.nodup_append.mpr ⟨hhead.1, hrest.1, ?_⟩, fun entry hentry => ?_⟩
  · intro name hname other hother
    obtain ⟨entry, hentry, rfl⟩ := List.mem_map.mp hname
    obtain ⟨twin, htwin, rfl⟩ := List.mem_map.mp hother
    obtain ⟨behind, hbehind, hid⟩ := exists_item_of_mem_restrict htwin
    rw [eq_id_of_mem_restrictOne hentry, ← hid]
    exact (hun.id_ne hbehind).symm
  · exact (List.mem_append.mp hentry).elim (hhead.2 entry) (hrest.2 entry)

/-- What items know of a document is a document. -/
theorem isDocument_restrict (hun : Unambiguous items) (h : (Value.object d).isDocument = true) :
    (Value.object (restrict d items)).isDocument = true := by
  induction items using forestInduction generalizing d with
  | nil => rfl
  | field f rest ih =>
    have hhead : (Value.object (restrictOne d (.field f))).isDocument = true :=
      isDocument_restrictOne h fun _ _ _ => Item.noConfusion
    exact isDocument_restrict_cons hun hhead (ih hun.behind h)
  | group g inner rest ihInner ih =>
    refine isDocument_restrict_cons hun
      (isDocument_restrictOne h fun g' inner' fields hitem hfields => ?_) (ih hun.behind h)
    cases hitem
    exact ihInner (hun.inside List.mem_cons_self) hfields

/-- Putting missing groups in keeps a document one. -/
theorem isDocument_complete (h : (Value.object d).isDocument = true) (items : List Item) :
    (Value.object (complete d items)).isDocument = true := by
  induction items using forestInduction generalizing d with
  | nil => exact h
  | field f rest ih => exact ih h
  | group g inner rest ihInner ih =>
    rw [complete_cons]
    refine ih ?_
    rcases completeOne_group_cases g inner d with hsame | ⟨before, hput, ⟨rfl, -⟩ | hget⟩
    · rwa [hsame]
    · rw [hput]
      exact Value.isDocument_put h (ihInner rfl) _
    · rw [hput]
      exact Value.isDocument_put h (ihInner (Value.isDocument_of_get? h hget)) _

/-- Some data shows under the identifiers of some items what they know of other data. -/
def Shows (o d : Object) (items : List Item) : Prop :=
  ∀ item ∈ items, o.get? item.id = Entries.get? (restrictOne d item) item.id

theorem Shows.behind {item : Item} (h : Shows o d (item :: rest)) : Shows o d rest :=
  fun other hother => h other (List.mem_cons_of_mem _ hother)

theorem Shows.field {f : Field} (h : Shows o d (.field f :: rest)) : o.get? f.id = d.get? f.id :=
  (h _ List.mem_cons_self).trans (get?_restrictOne_field d f)

theorem Shows.group (h : Shows o d (.group g inner :: rest)) :
    o.get? g.id = (d.get? g.id).map (restrictValue inner) :=
  (h _ List.mem_cons_self).trans (get?_restrictOne_group d g inner)

/-- **Restricted data shows what the items know.** -/
theorem shows_restrict (hun : Unambiguous items) (d : Object) : Shows (restrict d items) d items := by
  induction items with
  | nil => exact nofun
  | cons item rest ih =>
    intro other hother
    rw [restrict, Entries.get?_append]
    rcases List.mem_cons.mp hother with rfl | hother
    · cases hget : Entries.get? (restrictOne d other) other.id with
      | some v => rfl
      | none =>
        -- no item behind it has its identifier
        cases hrest : Entries.get? (restrict d rest) other.id with
        | none => rfl
        | some v =>
          obtain ⟨twin, htwin, hid⟩ := exists_item_of_get?_restrict hrest
          exact absurd hid (hun.id_ne htwin)
    · rw [get?_restrictOne_of_ne (hun.id_ne hother)]
      exact ih hun.behind other hother

end Item

/-! ## Checked again -/

section

variable {parent : String} {items : List Item} {checks : List Check} {d o : Object}

open Item (Shows Unambiguous restrict restrictOne restrictValue)

/-- **Checks that have nothing to say about some data have nothing to say about what the items know
    of it.** -/
theorem Check.complaints_of_shows (hfit : Check.FitAll parent items checks) (hun : Unambiguous items)
    (h : Shows o d items) (hclean : (Check.runAll d checks).complaints = []) :
    (Check.runAll o checks).complaints = [] := by
  induction hfit generalizing o d with
  | nil => rfl
  | @field parent f check rest checks hfits hrest ih =>
    obtain ⟨hhead, hbehind⟩ := Check.complaints_cons hclean
    refine List.append_eq_nil_iff.mpr ⟨?_, ih hun.behind h.behind hbehind⟩
    rw [Check.run, FieldCheck.run, checkEntry, hfits.id_eq] at hhead ⊢
    rwa [h.field]
  | @group parent g inner innerChecks rest checks hinner hrest ihInner ih =>
    obtain ⟨hhead, hbehind⟩ := Check.complaints_cons hclean
    refine List.append_eq_nil_iff.mpr ⟨?_, ih hun.behind h.behind hbehind⟩
    have hunInner : Unambiguous inner := hun.inside List.mem_cons_self
    rw [Check.run, checkEntry] at hhead ⊢
    rw [h.group]
    cases hget : d.get? g.id with
    | none => simpa only [hget, Option.map_none] using hhead
    | some v =>
      simp only [hget] at hhead
      cases v with
      | object fields =>
        have hinside : (Check.runAll fields innerChecks).complaints = [] := by
          simpa [Value.isNull] using hhead
        have hagain := ihInner hunInner (Item.shows_restrict hunInner fields) hinside
        simpa [restrictValue, Value.isNull] using hagain
      | _ => exact hhead

/-- What the items know of data that shows what they know of other data is what they know of that. -/
theorem Item.restrict_of_shows (hun : Unambiguous items) (h : Shows o d items) :
    restrict o items = restrict d items := by
  induction items using Item.forestInduction generalizing o d with
  | nil => rfl
  | field f rest ih =>
    rw [Item.restrict, Item.restrict, ih hun.behind h.behind, Item.restrictOne_field,
      Item.restrictOne_field, h.field]
  | group g inner rest ihInner ih =>
    have hunInner : Unambiguous inner := hun.inside List.mem_cons_self
    have htwice : ∀ v, restrictValue inner (restrictValue inner v) = restrictValue inner v := by
      intro v
      cases v with
      | object fields =>
        exact congrArg Value.object (ihInner hunInner (Item.shows_restrict hunInner fields))
      | _ => rfl
    rw [Item.restrict, Item.restrict, ih hun.behind h.behind, Item.restrictOne_group,
      Item.restrictOne_group, h.group, Option.map_map]
    congr 3
    funext v
    exact congrArg (Prod.mk g.id) (htwice v)

/-- Restricting what was restricted changes nothing. -/
theorem Item.restrict_restrict (hun : Unambiguous items) (d : Object) :
    restrict (restrict d items) items = restrict d items :=
  Item.restrict_of_shows hun (Item.shows_restrict hun d)

end

end DynamicForms
