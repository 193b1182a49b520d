import DynamicForms.Proofs.Schema.Identifiers
import DynamicForms.Proofs.Store.Document
import DynamicForms.Proofs.Validation.FirstPass

/-!
# `DynamicForms.Proofs.Validation.Known` — data under the names of a form

Items *know* some data if every name in it is the identifier of an item of that level, and so in every
group that is an object. Of other data something is lost on the way through the checks. Deleting and
putting missing groups in keep data known.

## Contents
- `Item.knows`, `knows_iff`.
- **Writes.** `knows_put`, `knows_erase`, `knows_remove`, `knows_deletes`.
- **Missing groups.** `knows_complete`.
- **Levels below.** `exists_stands_of_mem`, `Stands.exists_around`, `knows_of_stands`.
-/

namespace DynamicForms

open Value (Object)

/-- Whether every name in some data is the identifier of one of some items. -/
def Item.knowsNames (items : List Item) (d : Object) : Bool :=
  (Entries.keys d).all fun name => items.any (·.id == name)

mutual

/-- Whether in all groups among some items that are objects the items there know what is in them. -/
def Item.knowsInside (d : Object) : List Item → Bool
  | [] => true
  | item :: rest => Item.knowsIn d item && Item.knowsInside d rest

/-- Whether in a group, if it is an object, the items there know what is in it. -/
def Item.knowsIn (d : Object) : Item → Bool
  | .field _ => true
  | .group g inner =>
    match d.get? g.id with
    | some (.object fields) => Item.knowsNames inner fields && Item.knowsInside fields inner
    | _ => true

end

namespace Item

/-- Whether the names in some data are identifiers of the items, level by level. -/
def knows (items : List Item) (d : Object) : Bool :=
  knowsNames items d && knowsInside d items

variable {items inner : List Item} {d : Object}

theorem knowsNames_iff (items : List Item) (d : Object) :
    knowsNames items d = true ↔ ∀ name ∈ Entries.keys d, ∃ item ∈ items, item.id = name := by
  simp [knowsNames, List.all_eq_true, List.any_eq_true]

theorem knowsInside_iff (d : Object) (items : List Item) :
    knowsInside d items = true ↔ ∀ item ∈ items, knowsIn d item = true := by
  induction items with
  | nil => simp [knowsInside]
  | cons item rest ih => simp [knowsInside, ih]

theorem knowsIn_group_iff (d : Object) (g : GroupHeader) (inner : List Item) :
    knowsIn d (.group g inner) = true
      ↔ ∀ fields, d.get? g.id = some (.object fields) → knows inner fields = true := by
  rw [knowsIn]
  split
  · next fields hget => simp [hget, knows]
  · next hother =>
    simp only [true_iff]
    intro fields hget
    exact absurd hget (hother fields)

/-- **Data is known exactly if its names are identifiers and what is in groups is known.** -/
theorem knows_iff (items : List Item) (d : Object) :
    knows items d = true ↔
      (∀ name ∈ Entries.keys d, ∃ item ∈ items, item.id = name) ∧
      ∀ g inner, .group g inner ∈ items → ∀ fields, d.get? g.id = some (.object fields) →
        knows inner fields = true := by
  rw [knows, Bool.and_eq_true, knowsNames_iff, knowsInside_iff]
  refine and_congr_right fun _ => ⟨fun h g inner hg => (knowsIn_group_iff d g inner).mp (h _ hg), ?_⟩
  intro h item hitem
  cases item with
  | field f => rfl
  | group g inner => exact (knowsIn_group_iff d g inner).mpr (h g inner hitem)

theorem knows_nil (items : List Item) : knows items [] = true :=
  (knows_iff items []).mpr ⟨nofun, fun _ _ _ _ h => nomatch h⟩

theorem exists_item_of_get? (h : knows items d = true) {name : String} {v : Value}
    (hget : d.get? name = some v) : ∃ item ∈ items, item.id = name :=
  ((knows_iff items d).mp h).1 name (Entries.mem_keys_of_mem (Entries.mem_of_get? hget))

theorem knows_group (h : knows items d = true) {g : GroupHeader} (hg : .group g inner ∈ items)
    {fields : Object} (hget : d.get? g.id = some (.object fields)) : knows inner fields = true :=
  ((knows_iff items d).mp h).2 g inner hg fields hget

/-- The names of known data have no dots. -/
theorem hasPlainNames_of_knows (hun : Unambiguous items) (h : knows items d = true) :
    Path.HasPlainNames d := by
  intro name hname
  obtain ⟨item, hitem, rfl⟩ := ((knows_iff items d).mp h).1 name hname
  exact (hun.names _ (id_mem_identifiers hitem)).2

/-! ## Writes -/

/-- Writing under the identifier of an item keeps data known, if the items of a group know what is
    put there. -/
theorem knows_put (hun : Unambiguous items) (h : knows items d = true) {item : Item}
    (hitem : item ∈ items) {v : Value}
    (hv : ∀ g inner fields, item = .group g inner → v = .object fields →
      knows inner fields = true) : knows items (d.put item.id v) = true := by
  rw [knows_iff] at h ⊢
  refine ⟨fun name hname => ?_, fun g inner hg fields hget => ?_⟩
  · rcases Entries.mem_keys_put.mp hname with hold | rfl
    · exact h.1 name hold
    · exact ⟨item, hitem, rfl⟩
  · by_cases hid : g.id = item.id
    · have hsame : item = .group g inner := (hun.eq_of_mem hg hitem hid).symm
      rw [hid, Entries.get?_put_self] at hget
      exact hv g inner fields hsame (Option.some.inj hget)
    · rw [Entries.get?_put_of_ne hid] at hget
      exact h.2 g inner hg fields hget

theorem knows_erase (hd : (Entries.keys d).Nodup) (h : knows items d = true) (name : String) :
    knows items (d.erase name) = true := by
  rw [knows_iff] at h ⊢
  refine ⟨fun other hother => h.1 other ((Entries.keys_erase_sublist d name).subset hother), ?_⟩
  intro g inner hg fields hget
  by_cases hid : g.id = name
  · rw [hid, Entries.get?_erase_self hd] at hget
    cases hget
  · rw [Entries.get?_erase_of_ne hid] at hget
    exact h.2 g inner hg fields hget

theorem knows_remove (hun : Unambiguous items) (hdata : (Value.object d).isDocument = true)
    (h : knows items d = true) {way : List String} {after : Object}
    (hafter : Path.remove? d way = some after) : knows items after = true := by
  induction way generalizing items d after with
  | nil => cases hafter
  | cons name rest ih =>
    cases rest with
    | nil =>
      rw [Path.remove?_singleton] at hafter
      split at hafter
      · cases hafter
        exact knows_erase ((Value.isDocument_object_iff d).mp hdata).1 h name
      · cases hafter
    | cons next more =>
      obtain ⟨before, below, hget, hbelow, rfl⟩ := Path.remove?_cons_eq_some hafter
      obtain ⟨item, hitem, rfl⟩ := exists_item_of_get? h hget
      refine knows_put hun h hitem fun g inner fields hgroup hfields => ?_
      subst hgroup
      cases hfields
      exact ih (hun.inside hitem) (Value.isDocument_of_get? hdata hget) (knows_group h hitem hget)
        hbelow

theorem knows_delete (hun : Unambiguous items) (hdata : (Value.object d).isDocument = true)
    (h : knows items d = true) (path : String) : knows items (Path.delete d path) = true := by
  rcases Path.delete_cases d path with ⟨-, hsame⟩ | hremove
  · rwa [hsame]
  · exact knows_remove hun hdata h hremove

/-- Deleting keeps data known. -/
theorem knows_deletes (hun : Unambiguous items) (hdata : (Value.object d).isDocument = true)
    (h : knows items d = true) (paths : List String) :
    knows items (paths.foldl Path.delete d) = true := by
  induction paths generalizing d with
  | nil => exact h
  | cons path rest ih =>
    exact ih (Path.isDocument_delete hdata path) (knows_delete hun hdata h path)

/-! ## Missing groups -/

/-- Putting in some of the groups that are missing keeps data known. -/
theorem knows_complete_of_subset (hun : Unambiguous items) {some : List Item}
    (hsub : ∀ item ∈ some, item ∈ items) (h : knows items d = true) :
    knows items (complete d some) = true := by
  induction some using forestInduction generalizing items d with
  | nil => exact h
  | field f rest ih => exact ih hun (fun item hitem => hsub item (List.mem_cons_of_mem _ hitem)) h
  | group g inner rest ihInner ih =>
    have hg : .group g inner ∈ items := hsub _ List.mem_cons_self
    -- what a group is completed to is known to its items
    have hput : ∀ before, knows inner before = true →
        knows items (d.put g.id (.object (complete before inner))) = true := by
      intro before hbefore
      show knows items (Entries.put _ (Item.group g inner).id _) = true
      refine knows_put hun h hg fun g' inner' fields hsame hfields => ?_
      cases hsame
      cases hfields
      exact ihInner (hun.inside hg) (fun _ hitem => hitem) hbefore
    rw [complete_cons]
    refine ih hun (fun item hitem => hsub item (List.mem_cons_of_mem _ hitem)) ?_
    rcases completeOne_group_cases g inner d with hsame | ⟨before, hcompleted, ⟨rfl, -⟩ | hget⟩
    · rwa [hsame]
    · rw [hcompleted]
      exact hput [] (knows_nil inner)
    · rw [hcompleted]
      exact hput before (knows_group h hg hget)

theorem knows_complete (hun : Unambiguous items) (h : knows items d = true) :
    knows items (complete d items) = true :=
  knows_complete_of_subset hun (fun _ hitem => hitem) h

/-! ## Levels below -/

/-- The nodes of a walk stand where their paths lead. -/
theorem exists_stands_of_mem {parent : String} {node : Node} (h : node ∈ walkList parent items) :
    ∃ way, Stands items way node.item ∧ node.parent = pathFrom parent way.dropLast := by
  induction h using walkInduction with
  | here parent items item hitem => exact ⟨[item.id], .here hitem, rfl⟩
  | inside parent items g inner node hg _ ih =>
    obtain ⟨way, hstands, hparent⟩ := ih
    refine ⟨g.id :: way, .inside hg hstands, ?_⟩
    rw [List.dropLast_cons_of_ne_nil hstands.ne_nil, hparent]
    rfl

/-- What does not stand at the top stands in a group. -/
theorem Stands.exists_around {way : List String} {item : Item} (h : Stands items way item)
    (hbelow : way.dropLast ≠ []) :
    ∃ g inner, Stands items way.dropLast (.group g inner) ∧ item ∈ inner := by
  induction h with
  | here hitem => exact absurd rfl hbelow
  | @inside items inner g way item hg hstands ih =>
    rw [List.dropLast_cons_of_ne_nil hstands.ne_nil]
    by_cases htop : way.dropLast = []
    · rw [htop]
      exact ⟨g, inner, .here (show .group g inner ∈ _ from hg), hstands.mem_of_dropLast htop⟩
    · obtain ⟨g', inner', hstands', hmem⟩ := ih htop
      exact ⟨g', inner', .inside hg hstands', hmem⟩

/-- The items of a group know what is in it, wherever it stands. -/
theorem knows_of_stands (h : knows items d = true) {way : List String} {g : GroupHeader}
    (hstands : Stands items way (.group g inner)) {fields : Object}
    (hfound : Path.descend? (.object d) way = some (.object fields)) : knows inner fields = true := by
  induction way generalizing items d with
  | nil => exact absurd rfl hstands.ne_nil
  | cons name more ih =>
    rw [Path.descend?_cons] at hfound
    obtain ⟨child, hget, hbelow⟩ := Option.bind_eq_some_iff.mp hfound
    cases hstands with
    | here hg =>
      rw [Path.descend?_nil] at hbelow
      cases hbelow
      exact knows_group h hg hget
    | inside hg hstands =>
      obtain ⟨between, rfl⟩ := (Value.isObject_iff child).mp (Path.isObject_of_descend? hbelow)
      exact ih (knows_group h hg hget) hstands hbelow

end Item
end DynamicForms
