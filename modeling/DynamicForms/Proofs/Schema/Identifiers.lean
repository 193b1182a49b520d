import DynamicForms.Proofs.Schema.Walk
import DynamicForms.Schema.Parse

/-!
# `DynamicForms.Proofs.Schema.Identifiers` — the identifiers of a form

The check of a document's shape walks over the items with the list of all identifiers met so far, and
refuses a blank one and one that was met before. The reader walks over the same entries. So the items
of every schema that is accepted have distinct identifiers, on whatever level they stand.

If moreover no identifier has a dot, an item is known by its identifier alone, and all the more by its
path.

## Contents
- `Item.identifiers`; `Item.Unambiguous`: forms whose items are known by their identifiers.
- **Levels.** `Unambiguous.inside`, `Unambiguous.behind`, `Unambiguous.id_ne`,
  `Unambiguous.wellNamed`.
- **Accepted documents.** `Shape.Opened`, `Shape.Accepted`, `accepted_itemsFrom`,
  `Schema.exists_document`, `Schema.exists_decoded`, `Schema.accepted_of_ofValue`,
  `Schema.unambiguous_of_ofValue`.
-/

namespace DynamicForms

open Path (IsName)

/-- Two steps succeed if the first does and the second does with what it gives. -/
theorem bind_eq_ok_iff {ε α β : Type} {first : Except ε α} {second : α → Except ε β} {b : β} :
    first >>= second = .ok b ↔ ∃ a, first = .ok a ∧ second a = .ok b := by
  cases first <;> simp [bind, Except.bind]

namespace Item

/-- The identifiers of some items and of everything inside them, in the order of the walk. -/
def identifiers (items : List Item) : List String :=
  (nodes items).map (·.item.id)

variable {items rest inner : List Item} {g : GroupHeader}

/-- Where the walk starts does not matter for the identifiers. -/
theorem map_id_walkList (parent : String) (items : List Item) :
    (walkList parent items).map (·.item.id) = identifiers items := by
  induction items using consInduction generalizing parent with
  | nil => rfl
  | cons item rest ihInside ih =>
    rw [identifiers, nodes, walkList_cons, walkList_cons, List.map_cons, List.map_cons,
      List.map_append, List.map_append, ihInside, ihInside, ih parent, ih ""]

theorem identifiers_group (g : GroupHeader) (inner rest : List Item) :
    identifiers (.group g inner :: rest) = g.id :: (identifiers inner ++ identifiers rest) := by
  rw [identifiers, nodes, walkList_group, List.map_cons, List.map_append, map_id_walkList,
    map_id_walkList]
  rfl

theorem identifiers_cons (item : Item) (rest : List Item) :
    identifiers (item :: rest) = identifiers [item] ++ identifiers rest := by
  cases item with
  | field f => rfl
  | group g inner =>
    rw [identifiers_group, identifiers_group, List.cons_append, List.append_assoc]
    rfl

theorem id_mem_identifiers {item : Item} (h : item ∈ items) : item.id ∈ identifiers items :=
  List.mem_map_of_mem (show _ ∈ walkList "" _ from mem_walkList_of_mem h)

/-- A form whose items are known by their identifiers alone: every identifier is a nonempty name
    without dots, and no two items have the same one. -/
structure Unambiguous (items : List Item) : Prop where
  /-- Identifiers are names. -/
  names : ∀ id ∈ identifiers items, IsName id
  /-- Identifiers are distinct. -/
  distinct : (identifiers items).Nodup

/-! ## Levels -/

theorem Unambiguous.mono (h : Unambiguous items) (hsub : (identifiers rest).Sublist (identifiers items)) :
    Unambiguous rest :=
  ⟨fun id hid => h.names id (hsub.subset hid), h.distinct.sublist hsub⟩

theorem Unambiguous.behind {item : Item} (h : Unambiguous (item :: rest)) : Unambiguous rest := by
  refine h.mono ?_
  rw [identifiers_cons]
  exact List.sublist_append_right _ _

/-- A level inside an unambiguous form is unambiguous. -/
theorem Unambiguous.inside (h : Unambiguous items) (hg : .group g inner ∈ items) :
    Unambiguous inner := by
  induction items with
  | nil => cases hg
  | cons item rest ih =>
    rcases List.mem_cons.mp hg with rfl | hg
    · refine h.mono ?_
      rw [identifiers_group]
      exact (List.sublist_append_left _ _).cons _
    · exact ih h.behind hg

/-- Items of one level have distinct identifiers. -/
theorem Unambiguous.id_ne {item other : Item} (h : Unambiguous (item :: rest)) (hother : other ∈ rest) :
    other.id ≠ item.id := by
  have hdistinct := h.distinct
  rw [identifiers_cons, List.nodup_append] at hdistinct
  exact (hdistinct.2.2 _ (id_mem_identifiers List.mem_cons_self) _ (id_mem_identifiers hother)).symm

theorem Unambiguous.eq_of_id_eq {node other : Node} (h : Unambiguous items) (hnode : node ∈ nodes items)
    (hother : other ∈ nodes items) (heq : node.item.id = other.item.id) : node = other :=
  List.inj_on_of_nodup_map h.distinct hnode hother heq

theorem Unambiguous.eq_of_mem {item other : Item} (h : Unambiguous items) (hitem : item ∈ items)
    (hother : other ∈ items) (heq : item.id = other.id) : item = other :=
  congrArg Node.item (h.eq_of_id_eq (mem_walkList_of_mem hitem) (mem_walkList_of_mem hother) heq)

/-- Nothing in a group has the identifier of an item at the top. -/
theorem Unambiguous.id_ne_of_stands (h : Unambiguous items) {way : List String} {item other : Item}
    (hstands : Stands items way (.group g inner)) (hitem : item ∈ inner) (hother : other ∈ items) :
    item.id ≠ other.id := by
  have hnames : ∀ node ∈ nodes items, IsName node.item.id :=
    fun node hnode => h.names _ (List.mem_map_of_mem hnode)
  intro heq
  obtain ⟨node, hnode, rfl, -, hway⟩ := (hstands.append hitem).exists_node (namedAt_top hnames)
  obtain ⟨top, htop, rfl, -, hshort⟩ := (Stands.here hother).exists_node (namedAt_top hnames)
  -- one of them would stand both at the top and in the group
  rw [h.eq_of_id_eq hnode htop heq, hshort, List.append_cancel_left_eq] at hway
  exact hstands.ne_nil (by simpa using congrArg List.length hway)

/-- An identifier is the last segment of the path of its item. -/
theorem getLast?_segments {node : Node} (hnames : ∀ node ∈ nodes items, IsName node.item.id)
    (hnode : node ∈ nodes items) : (Path.segments node.path).getLast? = some node.item.id := by
  rcases (namedAt_top hnames).exists_parent hnode with hseg | ⟨around, -, -, hseg⟩ <;>
    rw [hseg, List.getLast?_concat]

/-- Items known by their identifiers are known by their paths. -/
theorem Unambiguous.wellNamed (h : Unambiguous items) : WellNamed items := by
  have hnames : ∀ node ∈ nodes items, IsName node.item.id :=
    fun node hnode => h.names _ (List.mem_map_of_mem hnode)
  refine ⟨hnames, List.Nodup.map_on (fun node hnode other hother heq => ?_) (List.Nodup.of_map _ h.distinct)⟩
  refine h.eq_of_id_eq hnode hother (Option.some.inj ?_)
  rw [← getLast?_segments hnames hnode, ← getLast?_segments hnames hother, heq]

end Item

/-! ## Accepted documents -/

theorem Decode.named?_of_get? {fields : Value.Object} {name : String} {others : List String} {v : Value}
    (h : fields.get? name = some v) : named? fields (name :: others) = some (name, v) := by
  rw [named?, List.findSome?_cons, h]
  rfl

namespace Shape

open Value (Object)
open Item (identifiers)

/-- What a check of items has met: some identifiers after those met before, all new and none blank. -/
structure Opened (seen after ids : List String) : Prop where
  /-- They are added to those met before. -/
  after_eq : after = ids.reverse ++ seen
  /-- They are new. -/
  fresh : seen.Nodup → after.Nodup
  /-- None is blank. -/
  given : ∀ id ∈ ids, Text.isBlankText id = false

variable {seen between after ids more : List String} {path : String} {fields : Object}

theorem Opened.nil (seen : List String) : Opened seen seen [] :=
  ⟨rfl, id, nofun⟩

theorem Opened.single {id : String} (hblank : Text.isBlankText id = false) (hnew : id ∉ seen) :
    Opened seen (id :: seen) [id] :=
  ⟨rfl, fun h => List.nodup_cons.mpr ⟨hnew, h⟩, fun _ h => List.mem_singleton.mp h ▸ hblank⟩

theorem Opened.append (h : Opened seen between ids) (hmore : Opened between after more) :
    Opened seen after (ids ++ more) := by
  refine ⟨?_, fun hseen => hmore.fresh (h.fresh hseen), ?_⟩
  · rw [hmore.after_eq, h.after_eq, List.reverse_append, List.append_assoc]
  · intro id hid
    exact (List.mem_append.mp hid).elim (h.given id) (hmore.given id)

theorem eq_true_of_demand {holds : Bool} {flaw : ShapeFlaw} {u : Unit}
    (h : demand holds path flaw = .ok u) : holds = true := by
  cases holds with
  | false => cases h
  | true => rfl

theorem get?_of_textOf {name id : String} {flaw : ShapeFlaw}
    (h : textOf fields name path flaw = .ok id) : fields.get? name = some (.text id) := by
  unfold textOf entryOf at h
  cases hget : fields.get? name with
  | none => simp [hget] at h
  | some v =>
    rw [hget, Option.getD_some] at h
    cases v with
    | text s =>
      cases h
      rfl
    | _ => cases h

/-- An item that may be opened has a new identifier that is not blank, and a type. -/
theorem of_openItem {id type : String} (h : openItem path seen fields = .ok (id, type)) :
    (fields.get? "id" = some (.text id) ∧ Text.isBlankText id = false ∧ id ∉ seen) ∧
      fields.get? "type" = some (.text type) := by
  simp only [openItem, bind_eq_ok_iff] at h
  obtain ⟨name, hname, _, hgiven, h⟩ := h
  split at h
  · cases h
  · next hnew =>
    obtain ⟨kind, hkind, h⟩ := bind_eq_ok_iff.mp h
    cases h
    exact ⟨⟨get?_of_textOf hname, by simpa using eq_true_of_demand hgiven, by simpa using hnew⟩,
      get?_of_textOf hkind⟩

theorem required_text {name id found : String} (hget : fields.get? name = some (.text id))
    (h : Decode.required fields [name] Decode.text = .ok found) : found = id := by
  simp only [Decode.required, Decode.named?, List.findSome?_cons, hget, Option.map_some] at h
  cases h
  rfl

theorem id_of_fieldEntries {id : String} {f : Field} (hget : fields.get? "id" = some (.text id))
    (h : Decode.fieldEntries fields = .ok f) : f.id = id := by
  simp only [Decode.fieldEntries, bind_eq_ok_iff] at h
  obtain ⟨found, hfound, kind, -, label, -, placeholder, -, default, -, options, -, rules, -,
    visibility, -, autoFill, -, showWhen, -, hf⟩ := h
  cases hf
  exact required_text hget hfound

/-- How a group is read. -/
theorem of_decode_group {id : String} {item : Item} (hget : fields.get? "id" = some (.text id))
    (hgroup : Decode.describesGroup fields = true) (h : Decode.item (.object fields) = .ok item) :
    ∃ g inner, item = .group g inner ∧ g.id = id ∧ Decode.children fields = .ok inner := by
  simp only [Decode.item, hgroup, if_true, bind_eq_ok_iff] at h
  obtain ⟨found, hfound, title, -, description, -, inner, hinner, showWhen, -, autoFill, -, hitem⟩ := h
  cases hitem
  exact ⟨_, inner, rfl, required_text hget hfound, hinner⟩

/-- How a field is read. -/
theorem of_decode_field {id : String} {item : Item} (hget : fields.get? "id" = some (.text id))
    (hfield : Decode.describesGroup fields = false) (h : Decode.item (.object fields) = .ok item) :
    ∃ f, item = .field f ∧ f.id = id ∧ Decode.fieldEntries fields = .ok f := by
  simp only [Decode.item, hfield, Bool.false_eq_true, if_false] at h
  cases hentries : Decode.fieldEntries fields with
  | error e => simp [hentries, Except.map] at h
  | ok f =>
    simp only [hentries, Except.map, Except.ok.injEq] at h
    exact ⟨f, h.symm, id_of_fieldEntries hget hentries, rfl⟩

theorem describesGroup_eq {type : String} (h : fields.get? "type" = some (.text type)) :
    Decode.describesGroup fields = (type == groupTypeName) := by
  rw [Decode.describesGroup, h]
  rfl

theorem ok_of_under {α : Type} {step : Decode.Step} {read : Decode.Decoded α} {a : α}
    (h : Decode.under step read = .ok a) : read = .ok a := by
  cases read with
  | error e => cases h
  | ok b => exact h

/-- A field is a choice only if it has options. -/
def OffersOptions (f : Field) : Prop :=
  f.kind.isChoice = true → ∃ o os, f.options = some (o :: os)

/-- The kind that is read is the one that is checked. -/
theorem kind_of_fieldEntries {type : String} {f : Field} (htype : fields.get? "type" = some (.text type))
    (h : Decode.fieldEntries fields = .ok f) :
    FieldKind.ofName? type = some f.kind ∧ f.kind.name = type := by
  simp only [Decode.fieldEntries, bind_eq_ok_iff] at h
  obtain ⟨id, -, kind, hkind, label, -, placeholder, -, default, -, options, -, rules, -, visibility, -,
    autoFill, -, showWhen, -, hf⟩ := h
  cases hf
  simp only [Decode.required, Decode.named?_of_get? htype] at hkind
  have hchoice := ok_of_under hkind
  simp only [Decode.choice] at hchoice
  split at hchoice
  · next a hfound =>
    cases hchoice
    exact ⟨hfound, by simpa using List.find?_some hfound⟩
  · cases hchoice

/-- A field that was accepted offers options if it is a choice. -/
theorem offersOptions_of_accepted {type : String} {f : Field}
    (htype : fields.get? "type" = some (.text type)) (hcheck : field path type fields = .ok ())
    (hread : Decode.fieldEntries fields = .ok f) : OffersOptions f := by
  intro hchoice
  obtain ⟨hkind, -⟩ := kind_of_fieldEntries htype hread
  -- the check has seen a list that is not empty
  obtain ⟨first, rest, hget⟩ : ∃ first rest, fields.get? "options" = some (.list (first :: rest)) := by
    rw [field, hkind] at hcheck
    simp only [hchoice, if_true, bind_eq_ok_iff] at hcheck
    obtain ⟨_, -, _, hoptions, -⟩ := hcheck
    unfold options entryOf at hoptions
    cases hget : fields.get? "options" with
    | none => simp [hget] at hoptions
    | some v =>
      rw [hget, Option.getD_some] at hoptions
      split at hoptions
      · exact ⟨_, _, rfl⟩
      · cases hoptions
  simp only [Decode.fieldEntries, bind_eq_ok_iff] at hread
  obtain ⟨id, -, kind, -, label, -, placeholder, -, default, -, options, hoptions, rules, -, visibility, -,
    autoFill, -, showWhen, -, hf⟩ := hread
  cases hf
  simp only [Decode.optional, Decode.named?_of_get? hget, Value.isNull, Bool.false_eq_true, if_false]
    at hoptions
  cases hlist : Decode.list Decode.fieldOption (.list (first :: rest)) with
  | error e => simp [hlist, Decode.under, Except.mapError, Except.map] at hoptions
  | ok os =>
    rw [hlist] at hoptions
    cases hoptions
    simp only [Decode.list, Decode.listFrom, bind_eq_ok_iff] at hlist
    obtain ⟨o, -, more, -, hos⟩ := hlist
    cases hos
    exact ⟨o, more, rfl⟩

/-- Items that a check has gone over, and the identifiers met before and after: every identifier is new and
    not blank, and a choice has options. -/
inductive Accepted : List String → List String → List Item → Prop
  /-- No items. -/
  | nil (seen : List String) : Accepted seen seen []
  /-- A field in front of further items. -/
  | field {seen after : List String} {f : Field} {rest : List Item}
      (hblank : Text.isBlankText f.id = false) (hnew : f.id ∉ seen) (hoptions : OffersOptions f)
      (hrest : Accepted (f.id :: seen) after rest) : Accepted seen after (.field f :: rest)
  /-- A group in front of further items. -/
  | group {seen between after : List String} {g : GroupHeader} {inner rest : List Item}
      (hblank : Text.isBlankText g.id = false) (hnew : g.id ∉ seen)
      (hinside : Accepted (g.id :: seen) between inner) (hrest : Accepted between after rest) :
      Accepted seen after (.group g inner :: rest)

-- the check and the reader walk over the same entries, down to the same items
mutual

theorem accepted_item : ∀ (v : Value) (path : String) (seen between after : List String) (it : Item)
    (rest : List Item), item path seen v = .ok between → Decode.item v = .ok it →
      Accepted between after rest → Accepted seen after (it :: rest)
  | .object fields, path, seen, between, after, it, rest, hcheck, hread, hrest => by
    simp only [item, bind_eq_ok_iff] at hcheck
    obtain ⟨⟨id, type⟩, hopen, hcheck⟩ := hcheck
    obtain ⟨⟨hid, hblank, hnew⟩, htype⟩ := of_openItem hopen
    cases hgroup : type == groupTypeName with
    | true =>
      rw [if_pos hgroup] at hcheck
      obtain ⟨_, -, hchildren⟩ := bind_eq_ok_iff.mp hcheck
      obtain ⟨g, inner, rfl, rfl, hinner⟩ :=
        of_decode_group hid ((describesGroup_eq htype).trans hgroup) hread
      exact .group hblank hnew (accepted_children fields _ _ _ _ hchildren hinner) hrest
    | false =>
      rw [if_neg (by simp [hgroup])] at hcheck
      obtain ⟨_, hfield, hdone⟩ := bind_eq_ok_iff.mp hcheck
      obtain ⟨f, rfl, rfl, hentries⟩ :=
        of_decode_field hid ((describesGroup_eq htype).trans hgroup) hread
      cases hdone
      exact .field hblank hnew (offersOptions_of_accepted htype hfield hentries) hrest
  | .null, _, _, _, _, _, _, hcheck, _, _ | .bool _, _, _, _, _, _, _, hcheck, _, _
  | .int _, _, _, _, _, _, _, hcheck, _, _ | .double _, _, _, _, _, _, _, hcheck, _, _
  | .text _, _, _, _, _, _, _, hcheck, _, _ | .list _, _, _, _, _, _, _, hcheck, _, _
  | .absent, _, _, _, _, _, _, hcheck, _, _ | .foreign, _, _, _, _, _, _, hcheck, _, _ =>
    nomatch hcheck

theorem accepted_children : ∀ (entries : List (String × Value)) (path : String)
    (seen after : List String) (its : List Item),
    children path seen entries = .ok after → Decode.children entries = .ok its →
      Accepted seen after its
  | [], _, seen, _, _, hcheck, hread => by
    cases hcheck
    cases hread
    exact .nil seen
  | (name, v) :: rest, path, seen, after, its, hcheck, hread => by
    rw [children] at hcheck
    rw [Decode.children] at hread
    split at hcheck
    · next hname =>
      rw [if_pos hname] at hread
      exact accepted_items v _ _ _ _ hcheck (ok_of_under hread)
    · next hname =>
      rw [if_neg hname] at hread
      exact accepted_children rest _ _ _ _ hcheck hread

theorem accepted_items : ∀ (v : Value) (path : String) (seen after : List String) (its : List Item),
    items path seen v = .ok after → Decode.items v = .ok its → Accepted seen after its
  | .list vs, path, seen, after, its, hcheck, hread =>
    accepted_itemsFrom vs path 0 0 seen after its hcheck hread
  | .null, _, _, _, _, _, hread | .bool _, _, _, _, _, _, hread | .int _, _, _, _, _, _, hread
  | .double _, _, _, _, _, _, hread | .text _, _, _, _, _, _, hread
  | .object _, _, _, _, _, _, hread | .absent, _, _, _, _, _, hread
  | .foreign, _, _, _, _, _, hread => nomatch hread

theorem accepted_itemsFrom : ∀ (vs : List Value) (path : String) (index position : Nat)
    (seen after : List String) (its : List Item),
    itemsFrom path index seen vs = .ok after → Decode.itemsFrom position vs = .ok its →
      Accepted seen after its
  | [], _, _, _, seen, _, _, hcheck, hread => by
    cases hcheck
    cases hread
    exact .nil seen
  | v :: rest, path, index, position, seen, after, its, hcheck, hread => by
    simp only [itemsFrom, bind_eq_ok_iff] at hcheck
    simp only [Decode.itemsFrom, bind_eq_ok_iff] at hread
    obtain ⟨between, hfirst, hbehind⟩ := hcheck
    obtain ⟨it, hit, more, hmore, hits⟩ := hread
    cases hits
    exact accepted_item v _ _ _ _ _ _ hfirst (ok_of_under hit)
      (accepted_itemsFrom rest _ _ _ _ _ _ hbehind hmore)

end

/-- What is accepted has new identifiers, none of them blank. -/
theorem Accepted.opened {its : List Item} (h : Accepted seen after its) :
    Opened seen after (identifiers its) := by
  induction h with
  | nil seen => exact .nil seen
  | field hblank hnew _ _ ih =>
    rw [Item.identifiers_cons]
    exact (Opened.single hblank hnew).append ih
  | group hblank hnew _ _ ihInside ih =>
    rw [Item.identifiers_group]
    exact (Opened.single hblank hnew).append (ihInside.append ih)

end Shape

namespace Schema

open Value (Object)

variable {document : Value} {schema : Schema} {fields : Object}

/-- A text that is accepted is that of a document. -/
theorem exists_document {text : String} (h : Schema.parse text = .ok schema) :
    ∃ document, Json.read text = .ok document ∧ Schema.ofValue document = .ok schema := by
  rw [Schema.parse] at h
  cases hread : Json.read text with
  | error e => simp [hread, Except.mapError, bind_eq_ok_iff] at h
  | ok document =>
    rw [hread] at h
    exact ⟨document, rfl, h⟩

/-- The items of a form are read from the entry that the check looks at. -/
theorem children_eq {v : Value} (h : fields.get? "fields" = some v) :
    Decode.children fields = Decode.under (.name "fields") (Decode.items v) := by
  induction fields with
  | nil => cases h
  | cons entry rest ih =>
    obtain ⟨name, child⟩ := entry
    rw [Decode.children]
    by_cases hname : name = "fields"
    · subst hname
      rw [Entries.get?_cons_self] at h
      cases h
      rfl
    · rw [Entries.get?_cons_of_ne hname] at h
      rw [if_neg (by simpa using hname), ih h]

/-- A document of the right shape is an object. -/
theorem eq_object_of_document (h : Shape.document document = .ok fields) : document = .object fields := by
  cases document with
  | object entries =>
    rw [Shape.document] at h
    split at h
    · cases h
    · split at h
      · cases h
      · obtain ⟨_, -, hdone⟩ := bind_eq_ok_iff.mp h
        cases hdone
        rfl
      · cases h
  | _ => cases h

/-- A document of the right shape has a list of items, at least one, whose identifiers are new. -/
theorem exists_list_of_document (h : Shape.document document = .ok fields) :
    ∃ vs after, fields.get? "fields" = some (.list vs) ∧ vs ≠ [] ∧
      Shape.itemsFrom "fields" 0 [] vs = .ok after := by
  cases document with
  | object entries =>
    rw [Shape.document] at h
    split at h
    · cases h
    · split at h
      · cases h
      · next vs hne hentry =>
        obtain ⟨after, hafter, hdone⟩ := bind_eq_ok_iff.mp h
        cases hdone
        refine ⟨vs, after, ?_, hne, hafter⟩
        unfold Shape.entryOf at hentry
        cases hget : fields.get? "fields" with
        | none => simp [hget] at hentry
        | some v => simpa [hget] using hentry
      · cases h
  | _ => cases h

/-- A schema that is accepted is read from the entries of a document of the right shape. -/
theorem exists_decoded (h : Schema.ofValue document = .ok schema) :
    ∃ fields, Shape.document document = .ok fields ∧ Decode.schema fields = .ok schema := by
  obtain ⟨fields, hshape, hread⟩ := bind_eq_ok_iff.mp h
  refine ⟨fields, hshape, ?_⟩
  cases hschema : Decode.schema fields with
  | error e => simp [hschema, Except.mapError] at hread
  | ok found =>
    rw [hschema] at hread
    cases hread
    rfl

/-- The items of an accepted schema, at least one, were gone over by the check. -/
theorem accepted_of_ofValue (h : Schema.ofValue document = .ok schema) :
    ∃ after, Shape.Accepted [] after schema.items ∧ schema.items ≠ [] := by
  obtain ⟨fields, hshape, hschema⟩ := exists_decoded h
  obtain ⟨vs, after, hget, hne, hcheck⟩ := exists_list_of_document hshape
  obtain ⟨v, vs, rfl⟩ := List.exists_cons_of_ne_nil hne
  simp only [Decode.schema, bind_eq_ok_iff] at hschema
  obtain ⟨title, -, description, -, items, hitems, hfound⟩ := hschema
  cases hfound
  rw [children_eq hget] at hitems
  have hitems := Shape.ok_of_under hitems
  refine ⟨after, Shape.accepted_itemsFrom (v :: vs) _ _ _ _ _ _ hcheck hitems, ?_⟩
  simp only [Decode.items, Decode.itemsFrom, bind_eq_ok_iff] at hitems
  obtain ⟨first, -, more, -, heq⟩ := hitems
  cases heq
  exact List.cons_ne_nil _ _

/-- **The items of an accepted schema have distinct identifiers**, none of which is blank. -/
theorem opened_of_ofValue (h : Schema.ofValue document = .ok schema) :
    ∃ after, Shape.Opened [] after (Item.identifiers schema.items) := by
  obtain ⟨after, haccepted, -⟩ := accepted_of_ofValue h
  exact ⟨after, haccepted.opened⟩

/-- No item of an accepted schema has an empty path. -/
theorem path_ne_empty_of_ofValue (h : Schema.ofValue document = .ok schema) {node : Node}
    (hnode : node ∈ Item.nodes schema.items) : node.path ≠ "" := by
  obtain ⟨after, hopened⟩ := opened_of_ofValue h
  have hid : node.item.id ≠ "" := by
    intro hempty
    have hgiven := hopened.given _ (List.mem_map_of_mem hnode)
    rw [hempty] at hgiven
    exact absurd hgiven (by decide)
  rw [Item.path_eq_join_of_mem hnode, Path.join]
  split
  · exact hid
  · simp

/-- The items of an accepted schema without dots in identifiers are known by their identifiers. -/
theorem unambiguous_of_ofValue (h : Schema.ofValue document = .ok schema)
    (hdots : ∀ id ∈ Item.identifiers schema.items, '.' ∉ id.toList) :
    Item.Unambiguous schema.items := by
  obtain ⟨after, hopened⟩ := opened_of_ofValue h
  refine ⟨fun id hid => ⟨?_, hdots id hid⟩, ?_⟩
  · rintro rfl
    exact absurd (hopened.given "" hid) (by decide)
  · have hfresh := hopened.fresh List.nodup_nil
    rwa [hopened.after_eq, List.append_nil, List.nodup_reverse] at hfresh

end Schema
end DynamicForms
