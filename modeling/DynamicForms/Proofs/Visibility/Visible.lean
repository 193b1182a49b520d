import DynamicForms.Proofs.Schema.Walk
import DynamicForms.Proofs.Value.Equality
import DynamicForms.Visibility.Tracker

/-!
# `DynamicForms.Proofs.Visibility.Visible` — what decides which items are visible

An item is visible exactly if the conditions of all items that govern it hold. A condition reads one
path, and nothing it says depends on more of the value there than change detection sees. So the
visible part of a form is settled by the values at the watched paths, up to what change detection
takes for the same.

## Contents
- `Value.Indistinct`: values that change detection takes for the same.
- `Value.Interchangeable`: values that no condition tells apart; `Value.isHollow`: values that none tells
  from an absent one.
- **Conditions.** `ShowWhen.holds_congr`, `VisibilityCondition.holds_congr`, `Item.isShown_congr`.
- **Visible items.** `mem_visibleList_iff`, `visibleTable_eq`, `mem_keys_visibleTable_iff`.
- **Watched paths.** `mem_conditionPaths_iff`, `watchedPaths_eq`, `mem_watchedPaths_iff`,
  `visibleTable_congr_of_conditionPaths`, `visibleTable_congr`.
- `Item.Regular`: the forms considered; `Item.reasonForm`, one of them.
-/

namespace DynamicForms

namespace Value

/-- Values that are equal, or that change detection takes for the same. -/
def Indistinct (v w : Value) : Prop :=
  v = w ∨ sameValue v w = true

theorem Indistinct.refl (v : Value) : Indistinct v v := Or.inl rfl

theorem Indistinct.containsText_eq {v w : Value} (h : Indistinct v w) (s : String) :
    containsText v s = containsText w s := by
  rcases h with h | h
  · rw [h]
  · rcases sameValue_cases h with ⟨rfl, rfl⟩ | ⟨-, -, hkind, halike, -⟩
    · rfl
    · cases v with
      | text a =>
        cases w with
        | text b => rw [show a = b by simpa [alike] using halike]
        | _ => cases hkind
      | list xs =>
        cases w with
        | list ys => exact occursIn_text_congr (by simpa [alike] using halike) s
        | _ => cases hkind
      | _ => cases w <;> first | rfl | cases hkind

/-- Values that no condition tells apart. -/
structure Interchangeable (v w : Value) : Prop where
  /-- They compare alike with every scalar. -/
  strictlyEqual_eq : ∀ c : Scalar, strictlyEqual v c.toValue = strictlyEqual w c.toValue
  /-- They contain the same texts. -/
  containsText_eq : ∀ s : String, containsText v s = containsText w s

theorem Interchangeable.refl (v : Value) : Interchangeable v v :=
  ⟨fun _ => rfl, fun _ => rfl⟩

theorem Indistinct.interchangeable {v w : Value} (h : Indistinct v w) : Interchangeable v w := by
  refine ⟨fun c => ?_, h.containsText_eq⟩
  rcases h with h | h
  · rw [h]
  · exact strictlyEqual_congr h c

/-- Whether a value is absent or an object, which conditions do not tell apart. -/
def isHollow : Value → Bool
  | .absent => true
  | .object _ => true
  | _ => false

theorem isHollow_object (fields : Object) : isHollow (.object fields) = true := rfl

variable {v w : Value}

theorem strictlyEqual_of_isHollow (h : v.isHollow = true) (c : Scalar) :
    strictlyEqual v c.toValue = false := by
  cases v with
  | absent => rfl
  | object fields =>
    cases c <;> simp [strictlyEqual, Scalar.toValue, equalOperands, alike, isBool, isText]
  | _ => cases h

theorem containsText_of_isHollow (h : v.isHollow = true) (s : String) :
    containsText v s = false := by
  cases v with
  | absent => rfl
  | object fields => rfl
  | _ => cases h

theorem interchangeable_of_isHollow (hv : v.isHollow = true) (hw : w.isHollow = true) :
    Interchangeable v w where
  strictlyEqual_eq c := by rw [strictlyEqual_of_isHollow hv, strictlyEqual_of_isHollow hw]
  containsText_eq s := by rw [containsText_of_isHollow hv, containsText_of_isHollow hw]

end Value

/-! ## Conditions -/

variable {data data' : Value}

theorem ShowWhen.holds_congr {c : ShowWhen}
    (h : (Path.read data c.field).Interchangeable (Path.read data' c.field)) :
    c.holds data = c.holds data' :=
  h.strictlyEqual_eq c.equals

theorem VisibilityCondition.holds_congr {c : VisibilityCondition}
    (h : (Path.read data c.field).Interchangeable (Path.read data' c.field)) :
    c.holds data = c.holds data' := by
  have hequal : ∀ s : String, (Path.read data c.field).strictlyEqual (.text s)
      = (Path.read data' c.field).strictlyEqual (.text s) := fun s => h.strictlyEqual_eq (.text s)
  have hcontains : ∀ s : String, containsText (Path.read data c.field) s
      = containsText (Path.read data' c.field) s := h.containsText_eq
  unfold VisibilityCondition.holds
  simp only [hequal, funext hcontains]

namespace Item

/-- Whether an item is shown depends on what is read at the paths of its conditions. -/
theorem isShown_congr {item : Item}
    (h : ∀ c ∈ item.ownPaths, (Path.read data c).Interchangeable (Path.read data' c)) :
    item.isShown data = item.isShown data' := by
  have hshow : holdsIfAny ShowWhen.holds item.showWhen data
      = holdsIfAny ShowWhen.holds item.showWhen data' := by
    cases hc : item.showWhen with
    | none => rfl
    | some c => exact ShowWhen.holds_congr (h c.field (by simp [ownPaths, hc]))
  have hvis : holdsIfAny VisibilityCondition.holds item.visibility data
      = holdsIfAny VisibilityCondition.holds item.visibility data' := by
    cases hc : item.visibility with
    | none => rfl
    | some c => exact VisibilityCondition.holds_congr (h c.field (by simp [ownPaths, hc]))
  rw [isShown, isShown, hshow, hvis]

/-! ## Visible items -/

variable {parent : String} {items rest inner : List Item} {node g w : Node}

theorem visibleList_field (data : Value) (parent : String) (f : Field) (rest : List Item) :
    visibleList data parent (.field f :: rest)
      = (if (Item.field f).isShown data then [⟨.field f, Path.join parent f.id, parent⟩] else [])
        ++ visibleList data parent rest := rfl

theorem visibleList_group (data : Value) (parent : String) (g : GroupHeader)
    (inner rest : List Item) :
    visibleList data parent (.group g inner :: rest)
      = (if (Item.group g inner).isShown data then
          ⟨.group g inner, Path.join parent g.id, parent⟩
            :: visibleList data (Path.join parent g.id) inner
        else []) ++ visibleList data parent rest := rfl

/-- An item that is shown is listed with what is visible inside it. -/
theorem visibleList_cons (data : Value) (parent : String) (item : Item) (rest : List Item) :
    visibleList data parent (item :: rest)
      = (if item.isShown data then
          ⟨item, Path.join parent item.id, parent⟩
            :: visibleList data (Path.join parent item.id) item.children
        else []) ++ visibleList data parent rest := by
  cases item <;> rfl

theorem mem_visibleList_cons {item : Item} : w ∈ visibleList data parent (item :: rest)
    ↔ (item.isShown data = true ∧ (w = ⟨item, Path.join parent item.id, parent⟩ ∨
        w ∈ visibleList data (Path.join parent item.id) item.children)) ∨
      w ∈ visibleList data parent rest := by
  rw [visibleList_cons, List.mem_append]
  cases item.isShown data <;> simp

theorem visibleList_sublist (data : Value) (parent : String) (items : List Item) :
    (visibleList data parent items).Sublist (walkList parent items) := by
  induction items using consInduction generalizing parent with
  | nil => exact List.Sublist.slnil
  | cons item rest ihInside ih =>
    rw [visibleList_cons, walkList_cons]
    split
    · exact ((ihInside _).append (ih parent)).cons_cons _
    · exact ((ih parent).trans (List.sublist_append_right _ _)).cons _

theorem visibleList_congr
    (h : ∀ node ∈ walkList parent items, node.item.isShown data = node.item.isShown data') :
    visibleList data parent items = visibleList data' parent items := by
  induction items using consInduction generalizing parent with
  | nil => rfl
  | cons item rest ihInside ih =>
    have hhead : item.isShown data = item.isShown data' := h _ (mem_walkList_of_mem List.mem_cons_self)
    rw [visibleList_cons, visibleList_cons, hhead,
      ihInside fun n hn => h n (mem_walkList_cons.mpr (Or.inr (Or.inl hn))),
      ih fun n hn => h n (mem_walkList_cons.mpr (Or.inr (Or.inr hn)))]

/-- What governs a node is the first item, which governs what is inside it, or stands where the node
    stands: inside the first item or behind it. -/
theorem governs_cons_cases {item : Item} (hg : g ∈ walkList parent (item :: rest)) (hgov : g.Governs w) :
    (g = ⟨item, Path.join parent item.id, parent⟩ ∧
        (w = g ∨ w ∈ walkList (Path.join parent item.id) item.children)) ∨
      (g ∈ walkList (Path.join parent item.id) item.children ∧
        w ∈ walkList (Path.join parent item.id) item.children) ∨
      (g ∈ walkList parent rest ∧ w ∈ walkList parent rest) := by
  rcases mem_walkList_cons.mp hg with rfl | hin | hrest
  · exact Or.inl ⟨rfl, hgov⟩
  · exact Or.inr (Or.inl ⟨hin, mem_of_governs hin hgov⟩)
  · exact Or.inr (Or.inr ⟨hrest, mem_of_governs hrest hgov⟩)

/-- A node of a walk is visible exactly if everything in the walk that governs it is shown. -/
theorem mem_visibleList_iff (hdistinct : (walkList parent items).Nodup) :
    w ∈ visibleList data parent items ↔
      w ∈ walkList parent items ∧
        ∀ g ∈ walkList parent items, g.Governs w → g.item.isShown data = true := by
  induction items using consInduction generalizing parent with
  | nil => simp [visibleList, walkList]
  | cons item rest ihInside ih =>
    rw [walkList_cons, List.nodup_cons, List.mem_append, not_or, List.nodup_append] at hdistinct
    obtain ⟨⟨hfreshInside, hfreshRest⟩, hdInside, hdRest, hdisjoint⟩ := hdistinct
    rw [mem_visibleList_cons, ihInside hdInside, ih hdRest]
    constructor
    · rintro (⟨hshown, rfl | ⟨hw, hgov⟩⟩ | ⟨hw, hgov⟩)
      · -- the first item itself: nothing else governs it
        refine ⟨mem_walkList_of_mem List.mem_cons_self, fun g hg hgw => ?_⟩
        rcases governs_cons_cases hg hgw with ⟨rfl, -⟩ | ⟨-, hinside⟩ | ⟨-, hrest⟩
        · exact hshown
        · exact absurd hinside hfreshInside
        · exact absurd hrest hfreshRest
      · -- inside it: it governs the node, and nothing behind it does
        refine ⟨mem_walkList_cons.mpr (Or.inr (Or.inl hw)), fun g hg hgw => ?_⟩
        rcases governs_cons_cases hg hgw with ⟨rfl, -⟩ | ⟨hinside, -⟩ | ⟨-, hrest⟩
        · exact hshown
        · exact hgov g hinside hgw
        · exact absurd rfl (hdisjoint w hw w hrest)
      · -- behind it: neither it nor anything inside it governs the node
        refine ⟨mem_walkList_cons.mpr (Or.inr (Or.inr hw)), fun g hg hgw => ?_⟩
        rcases governs_cons_cases hg hgw with ⟨rfl, rfl | hinside⟩ | ⟨-, hinside⟩ | ⟨hrest, -⟩
        · exact absurd hw hfreshRest
        · exact absurd rfl (hdisjoint w hinside w hw)
        · exact absurd rfl (hdisjoint w hinside w hw)
        · exact hgov g hrest hgw
    · rintro ⟨hw, hgov⟩
      have hhead := hgov _ (mem_walkList_of_mem List.mem_cons_self)
      rcases mem_walkList_cons.mp hw with rfl | hw | hw
      · exact Or.inl ⟨hhead (Node.Governs.refl _), Or.inl rfl⟩
      · exact Or.inl ⟨hhead (Or.inr hw), Or.inr ⟨hw, fun g hg =>
          hgov g (mem_walkList_cons.mpr (Or.inr (Or.inl hg)))⟩⟩
      · exact Or.inr ⟨hw, fun g hg => hgov g (mem_walkList_cons.mpr (Or.inr (Or.inr hg)))⟩

theorem WellNamed.nodup (h : WellNamed items) : (nodes items).Nodup :=
  List.Nodup.of_map _ h.distinct

/-- **A node is visible exactly if all items that govern it are shown.** -/
theorem mem_keys_visibleTable_iff (h : WellNamed items) (hw : w ∈ nodes items) :
    w.path ∈ Entries.keys (visibleTable items data) ↔
      ∀ g ∈ nodes items, g.Governs w → g.item.isShown data = true := by
  rw [visibleTable, Entries.mem_keys_ofPairs, List.map_map, List.mem_map]
  constructor
  · rintro ⟨node, hnode, hpath⟩
    have hmem : node ∈ nodes items := (visibleList_sublist data "" items).subset hnode
    have heq : node = w := h.eq_of_path_eq hmem hw hpath
    rw [heq] at hnode
    exact ((mem_visibleList_iff h.nodup).mp hnode).2
  · exact fun hgov => ⟨w, (mem_visibleList_iff h.nodup).mpr ⟨hw, hgov⟩, rfl⟩

/-- What stands inside a hidden item is hidden. -/
theorem mem_keys_visibleTable_of_governs (h : WellNamed items) (hg : g ∈ nodes items)
    (hw : w ∈ nodes items) (hgov : g.Governs w)
    (hvisible : w.path ∈ Entries.keys (visibleTable items data)) :
    g.path ∈ Entries.keys (visibleTable items data) := by
  rw [mem_keys_visibleTable_iff h hw] at hvisible
  rw [mem_keys_visibleTable_iff h hg]
  intro k hk hkg
  refine hvisible k hk ?_
  rcases hgov with hgov | hgov
  · rw [hgov]; exact hkg
  · rcases hkg with hkg | hkg
    · rw [← hkg]; exact Or.inr hgov
    · exact Or.inr (inside_subset hkg hgov)

/-- The entries of the visible table are nodes. -/
theorem exists_node_of_mem_visibleTable {entry : String × Item}
    (h : entry ∈ visibleTable items data) :
    ∃ node ∈ nodes items, node.path = entry.1 ∧ node.item = entry.2 := by
  obtain ⟨node, hnode, rfl⟩ := List.mem_map.mp (Entries.mem_ofPairs h)
  exact ⟨node, (visibleList_sublist data "" items).subset hnode, rfl, rfl⟩

/-! ## Watched paths -/

/-- The paths that the conditions of a form name. -/
def watchedPaths (items : List Item) : List String :=
  conditionPaths ((byPath items).map (·.2))

theorem mem_foldl_addPath {c : String} (paths found : List String) :
    c ∈ paths.foldl addPath found ↔ c ∈ found ∨ (c ∈ paths ∧ c ≠ "") := by
  induction paths generalizing found with
  | nil => simp
  | cons path rest ih =>
    rw [List.foldl_cons, ih]
    unfold addPath
    split
    · next hskip =>
      rw [Bool.or_eq_true, List.contains_iff_mem, String.isEmpty_iff] at hskip
      constructor
      · rintro (h | ⟨h, hne⟩)
        · exact Or.inl h
        · exact Or.inr ⟨List.mem_cons_of_mem _ h, hne⟩
      · rintro (h | ⟨h, hne⟩)
        · exact Or.inl h
        · rcases List.mem_cons.mp h with h | h
          · subst h; exact Or.inl (hskip.resolve_left hne)
          · exact Or.inr ⟨h, hne⟩
    · next hadd =>
      rw [Bool.or_eq_true, not_or, String.isEmpty_iff] at hadd
      rw [List.mem_append, List.mem_singleton, List.mem_cons]
      constructor
      · rintro ((h | h) | ⟨h, hne⟩)
        · exact Or.inl h
        · exact Or.inr ⟨Or.inl h, h ▸ hadd.1⟩
        · exact Or.inr ⟨Or.inr h, hne⟩
      · rintro (h | ⟨h | h, hne⟩)
        · exact Or.inl (Or.inl h)
        · exact Or.inl (Or.inr h)
        · exact Or.inr ⟨h, hne⟩

theorem mem_conditionPaths_iff {c : String} :
    c ∈ conditionPaths items ↔ c ≠ "" ∧ ∃ item ∈ items, c ∈ item.ownPaths := by
  rw [conditionPaths, mem_foldl_addPath]
  simp [and_comm]

/-- Where items are known by their paths, the paths that their conditions name are those watched. -/
theorem watchedPaths_eq (h : ((nodes items).map (·.path)).Nodup) :
    watchedPaths items = conditionPaths ((nodes items).map (·.item)) := by
  rw [watchedPaths, byPath, Entries.ofPairs_of_nodup (by rwa [List.map_map]), List.map_map]
  rfl

theorem mem_watchedPaths_iff (h : WellNamed items) {c : String} :
    c ∈ watchedPaths items ↔ c ≠ "" ∧ ∃ node ∈ nodes items, c ∈ node.item.ownPaths := by
  rw [watchedPaths_eq h.distinct, mem_conditionPaths_iff]
  simp

/-- **What is visible depends on the paths of the conditions alone.** -/
theorem visibleTable_congr_of_conditionPaths
    (hsame : ∀ c ∈ conditionPaths ((nodes items).map (·.item)),
      (Path.read data c).Interchangeable (Path.read data' c)) :
    visibleTable items data = visibleTable items data' := by
  rw [visibleTable, visibleTable, visibleList_congr]
  intro node hnode
  refine isShown_congr fun c hc => ?_
  by_cases hempty : c = ""
  · subst hempty
    exact Value.Interchangeable.refl _
  · exact hsame c (mem_conditionPaths_iff.mpr ⟨hempty, node.item, List.mem_map_of_mem hnode, hc⟩)

/-- **What is visible depends on the watched paths alone.** -/
theorem visibleTable_congr (h : WellNamed items)
    (hsame : ∀ c ∈ watchedPaths items, (Path.read data c).Interchangeable (Path.read data' c)) :
    visibleTable items data = visibleTable items data' :=
  visibleTable_congr_of_conditionPaths (watchedPaths_eq h.distinct ▸ hsame)

/-! ## The forms considered -/

/-- A form whose items are known by their paths and whose conditions name whole paths. -/
structure Regular (items : List Item) : Prop where
  /-- Items are known by their paths. -/
  named : WellNamed items
  /-- Conditions name whole paths, or nothing at all. -/
  whole : ∀ c ∈ watchedPaths items, Path.IsWhole c

instance (items : List Item) : Decidable (Regular items) :=
  decidable_of_iff
    ((∀ node ∈ nodes items, Path.IsName node.item.id)
      ∧ ((nodes items).map (·.path)).Nodup ∧ ∀ c ∈ watchedPaths items, Path.IsWhole c)
    ⟨fun h => ⟨⟨h.1, h.2.1⟩, h.2.2⟩, fun h => ⟨h.named.names, h.named.distinct, h.whole⟩⟩

/-- A form in which deleting one value shows another field: `extra` asks for `choice` to be "yes", and
    `reason` asks for `extra` to be anything but "given". -/
def reasonForm : List Item :=
  [.field { (default : Field) with id := "choice" },
   .field { (default : Field) with id := "extra", showWhen := some ⟨"choice", .text "yes"⟩ },
   .field { (default : Field) with
    id := "reason", visibility := some ⟨"extra", .notEquals, .one "given"⟩ }]

theorem regular_reasonForm : Regular reasonForm := by decide +kernel

end Item
end DynamicForms
