import DynamicForms.Proofs.Schema.Grammar

/-!
# `DynamicForms.Proofs.Schema.FirstOffender` — the first problem of a document is the one reported

The check of a document's shape goes down into groups and carries the identifiers met so far along. What
it does is nevertheless a plain scan over a list: the items in the order in which they are met, a group
before what is inside it, each checked by itself against the identifiers before it. The items inside a
group play no part when the group itself is checked.

So a list of items is accepted exactly if every item met is well formed and no identifier is met twice. If
not, there is a first item that breaks this, and the error is about that item and nothing behind it.

## Contents
- **The walk.** `Sight`, `Sight.of`, `sights`.
- **The scan.** `outer`, `itemAlone_outer`, `scan`, `itemsFrom_eq_scan`.
- `Sound`, `FirstOffender`.
- `itemsFrom_decides`.
-/

namespace DynamicForms.Shape

open Value (Object)

/-! ## The walk -/

/-- A list without its elements. -/
def emptied : Value → Value
  | .list _ => .list []
  | v => v

/-- The entries of an item without the items inside it. -/
def outerEntries (fields : Object) : Object :=
  fields.map fun entry => (entry.1, if entry.1 = "fields" then emptied entry.2 else entry.2)

/-- An item without the items inside it. -/
def outer : Value → Value
  | .object fields => .object (outerEntries fields)
  | v => v

/-- An item as it is met: its place in the document, and the item without what is inside it. -/
structure Sight where
  /-- The place. -/
  place : String
  /-- The item itself. -/
  item : Value

mutual

/-- An item, and what is inside it if it is a group. -/
def Sight.of (place : String) : Value → List Sight
  | .object fields =>
    ⟨place, outer (.object fields)⟩
      :: if Decode.describesGroup fields then Sight.inside (place ++ ".fields") fields else []
  | v => [⟨place, v⟩]

/-- The items among the entries of a group. -/
def Sight.inside (place : String) : List (String × Value) → List Sight
  | [] => []
  | (name, v) :: rest => if name == "fields" then Sight.ofList place v else Sight.inside place rest

/-- The items of a list. -/
def Sight.ofList (place : String) : Value → List Sight
  | .list vs => Sight.from place 0 vs
  | _ => []

/-- Items from a position on. -/
def Sight.from (place : String) (index : Nat) : List Value → List Sight
  | [] => []
  | v :: rest => Sight.of (elementPath place index) v ++ Sight.from place (index + 1) rest

end

/-- The items of a form in the order in which they are met: from left to right, and each group before what
is inside it. -/
def sights (vs : List Value) : List Sight :=
  Sight.from "fields" 0 vs

/-! ## The scan -/

variable {fields : Object} {path type : String} {seen after : List String} {error : SchemaError}

theorem get?_map_value (f : String → Value → Value) (fields : Object) (name : String) :
    Entries.get? (fields.map fun entry => (entry.1, f entry.1 entry.2)) name =
      (fields.get? name).map (f name) := by
  induction fields with
  | nil => rfl
  | cons entry rest ih =>
    obtain ⟨key, v⟩ := entry
    by_cases hkey : key = name
    · subst hkey
      simp [Entries.get?]
    · simp [Entries.get?, hkey, ih]

theorem entryOf_outerEntries {name : String} (h : name ≠ "fields") (fields : Object) :
    entryOf (outerEntries fields) name = entryOf fields name := by
  rw [entryOf, outerEntries, get?_map_value (fun key v => if key = "fields" then emptied v else v)]
  simp [h, entryOf]

theorem isSome_list?_outerEntries (fields : Object) :
    (entryOf (outerEntries fields) "fields").list?.isSome = (entryOf fields "fields").list?.isSome := by
  rw [entryOf, outerEntries, get?_map_value (fun key v => if key = "fields" then emptied v else v), entryOf]
  cases fields.get? "fields" with
  | none => rfl
  | some v => cases v <;> rfl

/-- What is inside a group plays no part when the group itself is checked. -/
theorem itemAlone_outer (path : String) (seen : List String) (v : Value) :
    itemAlone path seen (outer v) = itemAlone path seen v := by
  cases v with
  | object fields =>
    have hopen : openItem path seen (outerEntries fields) = openItem path seen fields := by
      simp (disch := decide) only [openItem, textOf, entryOf_outerEntries]
    have hfield : ∀ type, field path type (outerEntries fields) = field path type fields := by
      intro type
      simp (disch := decide) only [field, hasText, options, rules, showWhen, visibility, autoFill,
        entryOf_outerEntries]
    have hgroup : group path (outerEntries fields) = group path fields := by
      simp (disch := decide) only [group, hasText, showWhen, autoFill, entryOf_outerEntries,
        isSome_list?_outerEntries]
    simp only [outer, itemAlone, entriesAlone, hopen, hfield, hgroup]
  | _ => rfl

/-- Check items one after the other, with the identifiers met so far. -/
def scan (seen : List String) : List Sight → Checked (List String)
  | [] => .ok seen
  | s :: rest => do
    let id ← itemAlone s.place seen s.item
    scan (id :: seen) rest

theorem scan_append (seen : List String) (before rest : List Sight) :
    scan seen (before ++ rest) = scan seen before >>= fun met => scan met rest := by
  induction before generalizing seen with
  | nil => rfl
  | cons s before ih =>
    rw [List.cons_append, scan, scan]
    cases itemAlone s.place seen s.item with
    | error e => rfl
    | ok id => exact ih (id :: seen)

-- along the items of a document: going down into a group is going on with the scan
mutual

theorem item_eq_scan : ∀ (path : String) (seen : List String) (v : Value),
    item path seen v = scan seen (Sight.of path v)
  | path, seen, .object fields => by
    rw [Sight.of, scan, itemAlone_outer, item, itemAlone]
    cases hopen : openItem path seen fields with
    | error e => rfl
    | ok opened =>
      obtain ⟨id, type⟩ := opened
      obtain ⟨-, htype⟩ := of_openItem hopen
      rw [describesGroup_eq htype]
      simp only [bind, Except.bind, entriesAlone]
      split
      · cases hgroup : group path fields with
        | error e => rfl
        | ok u => exact children_eq_scan (path ++ ".fields") (id :: seen) fields
      · cases hfield : field path type fields with
        | error e => rfl
        | ok u => rfl
  | _, _, .null | _, _, .bool _ | _, _, .int _ | _, _, .double _ | _, _, .text _ | _, _, .list _
  | _, _, .absent | _, _, .foreign => rfl

theorem children_eq_scan : ∀ (path : String) (seen : List String) (entries : List (String × Value)),
    children path seen entries = scan seen (Sight.inside path entries)
  | _, _, [] => rfl
  | path, seen, (name, v) :: rest => by
    rw [children, Sight.inside]
    split
    · exact items_eq_scan path seen v
    · exact children_eq_scan path seen rest

theorem items_eq_scan : ∀ (path : String) (seen : List String) (v : Value),
    items path seen v = scan seen (Sight.ofList path v)
  | path, seen, .list vs => itemsFrom_eq_scan path 0 seen vs
  | _, _, .null | _, _, .bool _ | _, _, .int _ | _, _, .double _ | _, _, .text _ | _, _, .object _
  | _, _, .absent | _, _, .foreign => rfl

theorem itemsFrom_eq_scan : ∀ (path : String) (index : Nat) (seen : List String) (vs : List Value),
    itemsFrom path index seen vs = scan seen (Sight.from path index vs)
  | _, _, _, [] => rfl
  | path, index, seen, v :: rest => by
    rw [itemsFrom, Sight.from, scan_append, item_eq_scan]
    exact bind_congr fun met => itemsFrom_eq_scan path (index + 1) met rest

end

/-! ## Sound lists -/

/-- The identifiers that were met. -/
def idsOf (sights : List Sight) : List String :=
  sights.filterMap fun s => idOf? s.item

/-- Every item that was met is well formed, and no identifier was met twice. -/
structure Sound (sights : List Sight) : Prop where
  /-- Every item is well formed. -/
  items : ∀ s ∈ sights, IsItem s.item
  /-- Identifiers are distinct. -/
  distinct : (idsOf sights).Nodup

/-- The first item that breaks a rule of its own or has an identifier that was met before. -/
structure FirstOffender (sights before : List Sight) (offender : Sight) : Prop where
  /-- It is met after the others. -/
  met : before ++ [offender] <+: sights
  /-- Up to there all is well. -/
  sound : Sound before
  /-- Then it is not. -/
  offends : ¬ IsItem offender.item ∨ ∃ id ∈ idsOf before, idOf? offender.item = some id

theorem idsOf_cons {s : Sight} {id : String} (h : idOf? s.item = some id) (rest : List Sight) :
    idsOf (s :: rest) = id :: idsOf rest := by
  rw [idsOf, List.filterMap_cons, h]
  rfl

theorem exists_idOf?_of_isItem {v : Value} (h : IsItem v) : ∃ id, idOf? v = some id := by
  obtain ⟨fields, rfl, ⟨id, hget, -⟩, -⟩ := h
  exact ⟨id, by simp [idOf?, hget, Value.text?]⟩

/-- The scan passes over items that are well formed and have new identifiers, and adds these. -/
theorem scan_eq_ok_iff {met : List Sight} : scan seen met = .ok after ↔
    Sound met ∧ (∀ id ∈ idsOf met, id ∉ seen) ∧ after = (idsOf met).reverse ++ seen := by
  induction met generalizing seen with
  | nil =>
    constructor
    · intro h
      cases h
      exact ⟨⟨nofun, List.nodup_nil⟩, nofun, rfl⟩
    · rintro ⟨-, -, rfl⟩
      rfl
  | cons s rest ih =>
    simp only [scan, bind_eq_ok_iff, itemAlone_eq_ok_iff, ih]
    constructor
    · rintro ⟨id, ⟨hitem, hid, hnew⟩, hsound, hfresh, rfl⟩
      rw [idsOf_cons hid]
      refine ⟨⟨?_, ?_⟩, ?_, by simp⟩
      · exact fun other hother => (List.mem_cons.mp hother).elim (fun e => e ▸ hitem) (hsound.items other)
      · rw [idsOf_cons hid, List.nodup_cons]
        exact ⟨fun hmem => hfresh id hmem List.mem_cons_self, hsound.distinct⟩
      · intro other hother hseen
        rcases List.mem_cons.mp hother with rfl | hother
        · exact hnew hseen
        · exact hfresh other hother (List.mem_cons_of_mem _ hseen)
    · rintro ⟨hsound, hfresh, rfl⟩
      obtain ⟨id, hid⟩ := exists_idOf?_of_isItem (hsound.items s List.mem_cons_self)
      have hdistinct := hsound.distinct
      rw [idsOf_cons hid] at hfresh hdistinct ⊢
      obtain ⟨honce, hrest⟩ := List.nodup_cons.mp hdistinct
      refine ⟨id, ⟨hsound.items s List.mem_cons_self, hid, hfresh id List.mem_cons_self⟩,
        ⟨fun other hother => hsound.items other (List.mem_cons_of_mem _ hother), hrest⟩, ?_, by simp⟩
      intro other hother hseen
      rcases List.mem_cons.mp hseen with rfl | hseen
      · exact honce hother
      · exact hfresh other (List.mem_cons_of_mem _ hother) hseen

/-- The scan stops at an item that does not pass, having passed over all before it. -/
theorem exists_of_scan_eq_error {met : List Sight} (h : scan seen met = .error error) :
    ∃ before offender rest known, met = before ++ offender :: rest ∧ scan seen before = .ok known ∧
      itemAlone offender.place known offender.item = .error error := by
  induction met generalizing seen with
  | nil => cases h
  | cons s rest ih =>
    rw [scan, bind_eq_error_iff] at h
    rcases h with h | ⟨id, hid, h⟩
    · exact ⟨[], s, rest, seen, rfl, rfl, h⟩
    · obtain ⟨before, offender, behind, known, rfl, hbefore, hat⟩ := ih h
      refine ⟨s :: before, offender, behind, known, rfl, ?_, hat⟩
      rw [scan, hid]
      exact hbefore

/-! ## What is reported -/

/-- An error blames an item that was met after others: it names the place of the item, if something other
than a single option or rule of it is wrong, or it names the place of its first option or of its first
rule that is not well formed. -/
def Blames (error : SchemaError) (before : List Sight) (offender : Sight) : Prop :=
  (Complaint error offender.place ∧
      (¬ IsItemOutline offender.item ∨ ∃ id ∈ idsOf before, idOf? offender.item = some id)) ∨
    (∃ index, PinsOption offender.item index ∧
      Complaint error (elementPath (offender.place ++ ".options") index)) ∨
    ∃ index, PinsRule offender.item index ∧
      Complaint error (elementPath (offender.place ++ ".validations") index)

/-- **The check accepts exactly the lists of items that are sound, and reports the first offender of any
other.** Two lists that look the same up to their first offender are refused with the same error. -/
theorem itemsFrom_decides (vs : List Value) :
    ((∃ ids, itemsFrom "fields" 0 [] vs = .ok ids) ↔ Sound (sights vs)) ∧
      (¬ Sound (sights vs) → ∃ before offender error, FirstOffender (sights vs) before offender ∧
        itemsFrom "fields" 0 [] vs = .error error ∧ Blames error before offender ∧
        ∀ ws, before ++ [offender] <+: sights ws → itemsFrom "fields" 0 [] ws = .error error) := by
  have hscan : ∀ ws, itemsFrom "fields" 0 [] ws = scan [] (sights ws) := itemsFrom_eq_scan "fields" 0 []
  have haccept : (∃ ids, itemsFrom "fields" 0 [] vs = .ok ids) ↔ Sound (sights vs) := by
    simp only [hscan, scan_eq_ok_iff]
    exact ⟨fun ⟨_, hsound, _⟩ => hsound, fun hsound => ⟨_, hsound, fun _ _ => List.not_mem_nil, rfl⟩⟩
  refine ⟨haccept, fun hunsound => ?_⟩
  cases hcheck : itemsFrom "fields" 0 [] vs with
  | ok ids => exact absurd (haccept.mp ⟨ids, hcheck⟩) hunsound
  | error error =>
    rw [hscan] at hcheck
    obtain ⟨before, offender, rest, known, hmet, hbefore, hat⟩ := exists_of_scan_eq_error hcheck
    obtain ⟨hsound, -, hknown⟩ := scan_eq_ok_iff.mp hbefore
    have hmem : ∀ id, id ∈ known ↔ id ∈ idsOf before := by simp [hknown]
    have hblames : Blames error before offender := by
      simpa only [Blames, hmem] using itemAlone_eq_error hat
    refine ⟨before, offender, error, ⟨⟨rest, by simp [hmet]⟩, hsound, ?_⟩, rfl, hblames, ?_⟩
    · rw [Classical.or_iff_not_imp_left, not_not]
      intro hitem
      obtain ⟨id, hid⟩ := exists_idOf?_of_isItem hitem
      refine ⟨id, (hmem id).mp ?_, hid⟩
      by_contra hnew
      rw [itemAlone_eq_ok_iff.mpr ⟨hitem, hid, hnew⟩] at hat
      cases hat
    · rintro ws ⟨behind, hbehind⟩
      rw [hscan, ← hbehind, scan_append, scan_append, hbefore]
      simp only [bind, Except.bind, scan, hat]

/-- A field and a group whose first item has the identifier of the field and whose second one is no item. -/
def repeatedItems : List Value :=
  [.object [("id", .text "email"), ("type", .text "text"), ("label", .text "E-mail")],
    .object [("id", .text "contact"), ("type", .text "group"), ("title", .text "Contact"),
      ("fields", .list [
        .object [("id", .text "email"), ("type", .text "text"), ("label", .text "E-mail")],
        .null])]]

theorem itemsFrom_decides_repeated : ∃ before offender error,
    FirstOffender (sights repeatedItems) before offender ∧
      itemsFrom "fields" 0 [] repeatedItems = .error error ∧ Blames error before offender ∧
      ∀ ws, before ++ [offender] <+: sights ws → itemsFrom "fields" 0 [] ws = .error error := by
  have hrefused : itemsFrom "fields" 0 [] repeatedItems
      = .error (.duplicateId "email" "fields[1].fields[0]") := by decide
  refine (itemsFrom_decides repeatedItems).2 fun hsound => ?_
  obtain ⟨ids, hids⟩ := (itemsFrom_decides repeatedItems).1.mpr hsound
  rw [hrefused] at hids
  cases hids

end DynamicForms.Shape
