import DynamicForms.Proofs.Json.RoundTrip
import DynamicForms.Proofs.Schema.Identifiers
import DynamicForms.Proofs.Value.Order
import DynamicForms.Schema.FormId

/-!
# `DynamicForms.Proofs.Schema.Respelling` — one form, spelled in several ways

What a schema says does not depend on how its document is spelled: on the order of entries, on entries that
nothing reads, and on entries that are null or not there at all. So two such documents, if both are accepted,
describe the same schema, and a form keeps its name and its drafts when its document is rewritten.

One thing has to be seen to. Some entries go by two names, and the usual name wins as soon as it is there,
also with null. Under such a name null may take the place of nothing only if the other name is not used to
say something.

## Contents
- **Names.** `Decode.nullablePairs`, `pairs`, `requiredNames`, `optionalNames`, `knownNames`.
- **Spellings.** `Decode.Respells`, `RespellsAt`; `MayOmit`, `Spares`.
- **Two readings.** `Decode.Agree`; `Meets`, `RespellsAt.meets`, `meets_or_null`, `Alike.agree_pair`;
  `agree_required`, `agree_optional`, `agree_optionalList`.
- **Parts and items.** `Steady`, `RefusesNull`, and one lemma per part; `agree_item`, `agree_schema`.
- `Schema.eq_of_respells`.
- **Forms of one item.** `documentOf`, `exists_text`, `not_eq_of_respells`.
-/

namespace DynamicForms

open Value (Object)

namespace Decode

/-! ## Names -/

/-- The entries that go by two names and may be null, the usual name first. -/
def nullablePairs : List (String × String) :=
  [("defaultValue", "default_value"), ("visibilityCondition", "visibility_condition"),
    ("autoFill", "auto_fill"), ("showWhen", "show_when")]

/-- All entries that go by two names. -/
def pairs : List (String × String) :=
  [("apiEndpoint", "api_endpoint"), ("dependsOn", "depends_on"), ("targetFields", "target_fields")] ++
    nullablePairs

/-- The names of entries that a part of a schema must have. -/
def requiredNames : List String :=
  ["id", "type", "label", "title", "message", "field", "operator", "equals", "apiEndpoint", "api_endpoint"]

/-- The names of entries that some part of a schema may do without. -/
def optionalNames : List String :=
  ["description", "fields", "placeholder", "options", "validations", "value", "condition",
    "dependsOn", "depends_on", "targetFields", "target_fields", "defaultValue", "default_value",
    "visibilityCondition", "visibility_condition", "autoFill", "auto_fill", "showWhen", "show_when"]

/-- All names that some part of a schema reads. -/
def knownNames : List String :=
  requiredNames ++ optionalNames

/-! ## Spellings -/

section

variable (mayOmit : Object → String → Prop)

mutual

/-- Two values differ at most in how they are spelled: in the order of entries, in entries that no part of a
    schema reads, and in nulls that are left out, where an object may leave one out. -/
inductive Respells : Value → Value → Prop
  /-- They do not differ. -/
  | same (v : Value) : Respells v v
  /-- They are lists whose elements do. -/
  | list {vs ws : List Value} (h : List.Forall₂ Respells vs ws) : Respells (.list vs) (.list ws)
  /-- They are objects whose entries do. -/
  | object {fields others : Object} (h : ∀ name ∈ knownNames, RespellsAt name fields others) :
      Respells (.object fields) (.object others)

/-- Two objects differ under a name at most in how they are spelled. -/
inductive RespellsAt : String → Object → Object → Prop
  /-- Both have the entry. -/
  | both {name : String} {fields others : Object} {v w : Value} (hv : fields.get? name = some v)
      (hw : others.get? name = some w) (h : Respells v w) : RespellsAt name fields others
  /-- Neither has. -/
  | neither {name : String} {fields others : Object} (hv : fields.get? name = none)
      (hw : others.get? name = none) : RespellsAt name fields others
  /-- The second leaves a null out. -/
  | dropped {name : String} {fields others : Object} (hv : fields.get? name = some .null)
      (hw : others.get? name = none) (hmay : mayOmit others name) : RespellsAt name fields others
  /-- The first does. -/
  | added {name : String} {fields others : Object} (hv : fields.get? name = none)
      (hw : others.get? name = some .null) (hmay : mayOmit fields name) : RespellsAt name fields others

end

end

/-- An entry may be left out if it may be missing at all. -/
def MayOmit (_ : Object) (name : String) : Prop :=
  name ∈ optionalNames

/-- An object leaves an entry out that may be missing, and does not use its other name to say something. -/
def Spares (fields : Object) (name : String) : Prop :=
  name ∈ optionalNames ∧
    ∀ other, (name, other) ∈ nullablePairs → ∀ v, fields.get? other = some v → v = .null

variable {mayOmit : Object → String → Prop} {name : String} {fields others : Object} {v w : Value}

theorem RespellsAt.of_get?_eq (h : fields.get? name = others.get? name) :
    RespellsAt mayOmit name fields others := by
  cases hget : others.get? name with
  | none => exact .neither (h.trans hget) hget
  | some v => exact .both (h.trans hget) hget (.same v)

theorem RespellsAt.refl (name : String) (fields : Object) : RespellsAt mayOmit name fields fields :=
  .of_get?_eq rfl

/-- Objects spell the same if one has the entries of the other, in any order, and further ones that no part of
    a schema reads or that are null and may be left out. -/
theorem respells_of_perm {extra : Object} (hperm : others.Perm (extra ++ fields))
    (hdistinct : (Entries.keys others).Nodup)
    (hextra : ∀ entry ∈ extra, entry.1 ∈ knownNames →
      entry.2 = .null ∧ fields.get? entry.1 = none ∧ mayOmit fields entry.1) :
    Respells mayOmit (.object others) (.object fields) := by
  refine .object fun name hname => ?_
  have hget : others.get? name = (Entries.get? extra name).or (fields.get? name) := by
    rw [Entries.get?_of_perm hperm hdistinct, Entries.get?_append]
  cases hfound : Entries.get? extra name with
  | none =>
    rw [hfound, Option.none_or] at hget
    exact .of_get?_eq hget
  | some v =>
    obtain ⟨hnull, hnone, hmay⟩ := hextra _ (Entries.mem_of_get? hfound) hname
    rw [hfound, Option.some_or, show v = .null from hnull] at hget
    exact .dropped hget hnone hmay

/-- Null is spelled in one way. -/
theorem isNull_eq_of_respells (h : Respells mayOmit v w) : v.isNull = w.isNull := by
  cases h <;> rfl

/-- Texts are spelled in one way. -/
theorem text?_eq_of_respells (h : Respells mayOmit v w) : v.text? = w.text? := by
  cases h <;> rfl

/-! ## Two readings -/

/-- Two readings that both succeed give the same. -/
def Agree {α : Type} (first second : Decoded α) : Prop :=
  ∀ a b, first = .ok a → second = .ok b → a = b

section

variable {α β : Type} {first second : Decoded α} {f g : α → Decoded β}

theorem Agree.refl (read : Decoded α) : Agree read read := by
  intro a b ha hb
  rw [ha] at hb
  exact Except.ok.inj hb

theorem Agree.bind (h : Agree first second) (hnext : ∀ a, Agree (f a) (g a)) :
    Agree (first >>= f) (second >>= g) := by
  intro a b ha hb
  obtain ⟨x, hx, ha⟩ := bind_eq_ok_iff.mp ha
  obtain ⟨y, hy, hb⟩ := bind_eq_ok_iff.mp hb
  obtain rfl := h x y hx hy
  exact hnext x a b ha hb

theorem Agree.under (h : Agree first second) (step step' : Step) :
    Agree (under step first) (under step' second) :=
  fun a b ha hb => h a b (Shape.ok_of_under ha) (Shape.ok_of_under hb)

theorem Agree.map (h : Agree first second) (f : α → β) : Agree (first.map f) (second.map f) := by
  intro a b ha hb
  cases first with
  | error e => cases ha
  | ok x =>
    cases second with
    | error e => cases hb
    | ok y =>
      obtain rfl := h x y rfl rfl
      exact Except.ok.inj (ha.symm.trans hb)

theorem agree_of_error (h : ∀ a, first ≠ .ok a) : Agree first second :=
  fun a _ ha _ => absurd ha (h a)

theorem agree_of_error_right (h : ∀ b, second ≠ .ok b) : Agree first second :=
  fun _ b _ hb => absurd hb (h b)

end

/-- An entry is missing or null. -/
def IsUnset (found : Option (String × Value)) : Prop :=
  ∀ entry, found = some entry → entry.2 = .null

/-- Two entries that were looked for both have values that spell the same, or neither says anything. -/
inductive Meets (mayOmit : Object → String → Prop) :
    Option (String × Value) → Option (String × Value) → Prop
  /-- Both have values. -/
  | both {name other : String} {v w : Value} (h : Respells mayOmit v w) :
      Meets mayOmit (some (name, v)) (some (other, w))
  /-- Neither says anything. -/
  | unset {found found' : Option (String × Value)} (h : IsUnset found) (h' : IsUnset found') :
      Meets mayOmit found found'

theorem Meets.cases {found found' : Option (String × Value)} (h : Meets mayOmit found found') :
    (∃ name other v w, found = some (name, v) ∧ found' = some (other, w) ∧ Respells mayOmit v w) ∨
      IsUnset found ∧ IsUnset found' := by
  cases h with
  | both h => exact Or.inl ⟨_, _, _, _, rfl, rfl, h⟩
  | unset h h' => exact Or.inr ⟨h, h'⟩

theorem named?_single (fields : Object) (name : String) :
    named? fields [name] = (fields.get? name).map (name, ·) := by
  rw [named?, List.findSome?_cons, List.findSome?_nil]
  cases fields.get? name <;> rfl

theorem named?_pair (fields : Object) (name other : String) :
    named? fields [name, other]
      = ((fields.get? name).map (name, ·)).or ((fields.get? other).map (other, ·)) := by
  rw [named?, List.findSome?_cons, List.findSome?_cons, List.findSome?_nil]
  cases fields.get? name <;> cases fields.get? other <;> rfl

theorem isUnset_none : IsUnset none := nofun

theorem isUnset_null (name : String) : IsUnset (some (name, .null)) := by
  rintro entry ⟨⟩
  rfl

/-- Under a single name. -/
theorem RespellsAt.meets (h : RespellsAt mayOmit name fields others) :
    Meets mayOmit ((fields.get? name).map (name, ·)) ((others.get? name).map (name, ·)) := by
  cases h with
  | both hv hw h =>
    rw [hv, hw]
    exact .both h
  | neither hv hw =>
    rw [hv, hw]
    exact .unset isUnset_none isUnset_none
  | dropped hv hw hmay =>
    rw [hv, hw]
    exact .unset (isUnset_null name) isUnset_none
  | added hv hw hmay =>
    rw [hv, hw]
    exact .unset isUnset_none (isUnset_null name)

/-- An object that spares the usual name says nothing under the other one. -/
theorem Spares.isUnset (h : Spares fields name) {other : String} (hpair : (name, other) ∈ nullablePairs) :
    IsUnset ((fields.get? other).map (other, ·)) := by
  rintro entry hentry
  obtain ⟨v, hv, rfl⟩ := Option.map_eq_some_iff.mp hentry
  exact h.2 other hpair v hv

/-- Under two names, of which the usual one wins also with null. -/
theorem RespellsAt.meets_or_null {other : String} (h : RespellsAt mayOmit name fields others)
    (h' : RespellsAt mayOmit other fields others) :
    Meets mayOmit (named? fields [name, other]) (named? others [name, other]) ∨
      (fields.get? name = some .null ∧ others.get? name = none ∧ mayOmit others name) ∨
      (fields.get? name = none ∧ others.get? name = some .null ∧ mayOmit fields name) := by
  cases h with
  | both hv hw h =>
    left
    rw [named?_pair, named?_pair, hv, hw]
    exact .both h
  | neither hv hw =>
    left
    rw [named?_pair, named?_pair, hv, hw]
    exact h'.meets
  | dropped hv hw hmay => exact Or.inr (Or.inl ⟨hv, hw, hmay⟩)
  | added hv hw hmay => exact Or.inr (Or.inr ⟨hv, hw, hmay⟩)

/-- Under two names of an entry that may be null. -/
theorem meets_pair {other : String} (hpair : (name, other) ∈ nullablePairs)
    (h : RespellsAt Spares name fields others) (h' : RespellsAt Spares other fields others) :
    Meets Spares (named? fields [name, other]) (named? others [name, other]) := by
  rcases h.meets_or_null h' with hmeets | ⟨hv, hw, hmay⟩ | ⟨hv, hw, hmay⟩
  · exact hmeets
  · rw [named?_pair, named?_pair, hv, hw]
    exact .unset (isUnset_null name) (hmay.isUnset hpair)
  · rw [named?_pair, named?_pair, hv, hw]
    exact .unset (hmay.isUnset hpair) (isUnset_null name)

/-- Two objects that spell the same. -/
def Alike (fields others : Object) : Prop :=
  ∀ name ∈ knownNames, RespellsAt Spares name fields others

theorem Alike.single (h : Alike fields others) (hname : name ∈ knownNames) :
    Meets Spares (named? fields [name]) (named? others [name]) := by
  rw [named?_single, named?_single]
  exact (h name hname).meets

theorem known_of_pair {other : String} (hpair : (name, other) ∈ pairs) :
    name ∈ knownNames ∧ other ∈ knownNames := by
  have hknown : ∀ pair ∈ pairs, pair.1 ∈ knownNames ∧ pair.2 ∈ knownNames := by decide
  exact hknown _ hpair

theorem Alike.pair (h : Alike fields others) {other : String} (hpair : (name, other) ∈ nullablePairs) :
    Meets Spares (named? fields [name, other]) (named? others [name, other]) := by
  obtain ⟨hname, hother⟩ := known_of_pair (List.mem_append_right _ hpair)
  exact meets_pair hpair (h name hname) (h other hother)

/-- Under two names, for a reader that refuses null under the usual one. -/
theorem Alike.agree_pair {α : Type} {read : Object → Decoded α} (h : Alike fields others) {other : String}
    (hpair : (name, other) ∈ pairs)
    (hmeets : Meets Spares (named? fields [name, other]) (named? others [name, other]) →
      Agree (read fields) (read others))
    (hnull : ∀ {fields : Object}, named? fields [name, other] = some (name, .null) → ∀ a, read fields ≠ .ok a) :
    Agree (read fields) (read others) := by
  obtain ⟨hname, hother⟩ := known_of_pair hpair
  have hread : ∀ {fields : Object}, fields.get? name = some .null → ∀ a, read fields ≠ .ok a :=
    fun hget => hnull (by rw [named?_pair, hget]; rfl)
  rcases (h name hname).meets_or_null (h other hother) with h | ⟨hv, -, -⟩ | ⟨-, hw, -⟩
  · exact hmeets h
  · exact agree_of_error (hread hv)
  · exact agree_of_error_right (hread hw)

/-- A reader that does not see how a value is spelled. -/
def Steady {α : Type} (read : Value → Decoded α) : Prop :=
  ∀ v w, Respells Spares v w → Agree (read v) (read w)

/-- A reader that refuses null. -/
def RefusesNull {α : Type} (read : Value → Decoded α) : Prop :=
  ∀ a, read .null ≠ .ok a

section

variable {α : Type} {read : Value → Decoded α} {names : List String}

theorem required_ne_ok_of_null (hnull : RefusesNull read) (h : named? fields names = some (name, .null)) (a : α) :
    required fields names read ≠ .ok a := by
  intro ha
  rw [required, h] at ha
  exact hnull a (Shape.ok_of_under ha)

theorem agree_required (hread : Steady read) (hnull : RefusesNull read)
    (h : Meets Spares (named? fields names) (named? others names)) :
    Agree (required fields names read) (required others names read) := by
  rcases h.cases with ⟨_, _, v, w, hfound, hfound', h⟩ | ⟨h, -⟩
  · rw [required, required, hfound, hfound']
    exact (hread v w h).under _ _
  · refine agree_of_error fun a ha => ?_
    cases hfound : named? fields names with
    | none =>
      rw [required, hfound] at ha
      cases ha
    | some entry =>
      obtain ⟨name, v⟩ := entry
      obtain rfl : v = .null := h _ hfound
      exact required_ne_ok_of_null hnull hfound a ha

theorem agree_optional (hread : Steady read)
    (h : Meets Spares (named? fields names) (named? others names)) :
    Agree (optional fields names read) (optional others names read) := by
  have hunset : ∀ {fields : Object}, IsUnset (named? fields names) →
      optional fields names read = .ok none := by
    intro fields hunset
    unfold optional
    split
    · next name v hnamed =>
      obtain rfl : v = .null := hunset _ hnamed
      rfl
    · rfl
  rcases h.cases with ⟨_, _, v, w, hfound, hfound', h⟩ | ⟨h, h'⟩
  · rw [optional, optional, hfound, hfound']
    dsimp only
    rw [isNull_eq_of_respells h]
    split
    · exact .refl _
    · exact ((hread v w h).under _ _).map some
  · rw [hunset h, hunset h']
    exact .refl _

theorem steady_list (hread : Steady read) : Steady (list read) := by
  intro v w h
  cases h with
  | same => exact .refl _
  | object => exact agree_of_error nofun
  | list h =>
    rw [list, list]
    generalize 0 = position
    induction h generalizing position with
    | nil => exact .refl _
    | cons hfirst _ ih =>
      rw [listFrom, listFrom]
      exact ((hread _ _ hfirst).under _ _).bind fun _ => (ih (position + 1)).bind fun _ => .refl _

theorem optionalList_ne_ok_of_null (h : named? fields names = some (name, .null)) (as : List α) :
    optionalList fields names read ≠ .ok as := by
  intro has
  rw [optionalList, h] at has
  cases Shape.ok_of_under has

theorem agree_optionalList (hread : Steady read)
    (h : Meets Spares (named? fields names) (named? others names)) :
    Agree (optionalList fields names read) (optionalList others names read) := by
  have hunset : ∀ {fields : Object}, IsUnset (named? fields names) →
      ∀ as, optionalList fields names read = .ok as → as = [] := by
    intro fields hunset as has
    cases hfound : named? fields names with
    | none =>
      rw [optionalList, hfound] at has
      cases has
      rfl
    | some entry =>
      obtain ⟨name, v⟩ := entry
      obtain rfl : v = .null := hunset _ hfound
      exact absurd has (optionalList_ne_ok_of_null hfound as)
  rcases h.cases with ⟨_, _, v, w, hfound, hfound', h⟩ | ⟨h, h'⟩
  · rw [optionalList, optionalList, hfound, hfound']
    exact (steady_list hread v w h).under _ _
  · intro as bs has hbs
    rw [hunset h as has, hunset h' bs hbs]

end

/-! ## Parts and items -/

/-- Lists and objects are all that is spelled in several ways. -/
theorem steady_of_refuses {α : Type} {read : Value → Decoded α}
    (hlist : ∀ vs a, read (.list vs) ≠ .ok a) (hobject : ∀ fields a, read (.object fields) ≠ .ok a) :
    Steady read := by
  intro v w h
  cases h with
  | same => exact .refl _
  | list => exact agree_of_error (hlist _)
  | object => exact agree_of_error (hobject _)

theorem steady_text : Steady text :=
  steady_of_refuses nofun nofun

theorem refusesNull_text : RefusesNull text := nofun

theorem steady_choice {α : Type} (all : List α) (name : α → String) : Steady (choice all name) :=
  steady_of_refuses nofun nofun

theorem refusesNull_choice {α : Type} (all : List α) (name : α → String) : RefusesNull (choice all name) :=
  nofun

theorem steady_scalar : Steady scalar :=
  steady_of_refuses nofun nofun

theorem refusesNull_scalar : RefusesNull scalar := nofun

theorem steady_ruleValue : Steady ruleValue :=
  steady_of_refuses nofun nofun

/-- Texts in a list are spelled in one way. -/
theorem allTexts?_eq_of_respells {vs ws : List Value} (h : List.Forall₂ (Respells mayOmit) vs ws) :
    allTexts? vs = allTexts? ws := by
  induction h with
  | nil => rfl
  | @cons v _ _ _ hfirst _ ih =>
    cases hfirst with
    | same =>
      cases v with
      | text s => rw [allTexts?, allTexts?, ih]
      | _ => rfl
    | list | object => rfl

theorem steady_comparand : Steady comparand := by
  intro v w h
  cases h with
  | same => exact .refl _
  | object => exact agree_of_error nofun
  | list h =>
    simp only [comparand, allTexts?_eq_of_respells h]
    exact .refl _

theorem refusesNull_comparand : RefusesNull comparand := nofun

theorem steady_defaultValue : Steady defaultValue := by
  intro v w h
  cases h with
  | same => exact .refl _
  | object => exact agree_of_error nofun
  | list h =>
    simp only [defaultValue, allTexts?_eq_of_respells h]
    exact .refl _

/-- Parts that are described by an object agree if what is made of its entries does. -/
theorem agree_object {α : Type} {f g : Object → Decoded α} (part : String) (h : Respells Spares v w)
    (hnext : ∀ fields others, Alike fields others → Agree (f fields) (g others)) :
    Agree (object part v >>= f) (object part w >>= g) := by
  cases h with
  | same =>
    cases v with
    | object fields => exact hnext fields fields fun name _ => .refl name fields
    | _ => exact agree_of_error nofun
  | list => exact agree_of_error nofun
  | object h => exact hnext _ _ h

/-- Texts that must be there. -/
theorem Alike.agree_text (h : Alike fields others) (hname : name ∈ knownNames) :
    Agree (required fields [name] text) (required others [name] text) :=
  agree_required steady_text refusesNull_text (h.single hname)

theorem steady_fieldOption : Steady fieldOption := fun _ _ h =>
  agree_object "FieldOption" h fun _ _ h =>
    (h.agree_text (by decide)).bind fun _ =>
      (h.agree_text (by decide)).bind fun _ => .refl _

theorem steady_showWhen : Steady showWhen := fun _ _ h =>
  agree_object "ShowWhenCondition" h fun _ _ h =>
    (h.agree_text (by decide)).bind fun _ =>
      (agree_required steady_scalar refusesNull_scalar (h.single (by decide))).bind fun _ => .refl _

theorem steady_visibilityCondition : Steady visibilityCondition := fun _ _ h =>
  agree_object "VisibilityCondition" h fun _ _ h =>
    (h.agree_text (by decide)).bind fun _ =>
      (agree_required (steady_choice _ _) (refusesNull_choice _ _) (h.single (by decide))).bind fun _ =>
        (agree_required steady_comparand refusesNull_comparand (h.single (by decide))).bind fun _ => .refl _

theorem steady_ruleCondition : Steady ruleCondition := fun _ _ h =>
  agree_object "ValidationCondition" h fun _ _ h =>
    (h.agree_text (by decide)).bind fun _ =>
      (agree_required (steady_choice _ _) (refusesNull_choice _ _) (h.single (by decide))).bind fun _ =>
        (agree_required steady_scalar refusesNull_scalar (h.single (by decide))).bind fun _ => .refl _

theorem steady_rule : Steady rule := fun _ _ h =>
  agree_object "ValidationRule" h fun _ _ h =>
    (agree_required (steady_choice _ _) (refusesNull_choice _ _) (h.single (by decide))).bind fun _ =>
      (agree_optional steady_ruleValue (h.single (by decide))).bind fun _ =>
        (h.agree_text (by decide)).bind fun _ =>
          (agree_optional steady_ruleCondition (h.single (by decide))).bind fun _ => .refl _

theorem steady_autoFill : Steady autoFill := fun _ _ h =>
  agree_object "AutoFillConfig" h fun _ _ h =>
    (h.agree_pair (by decide) (agree_required steady_text refusesNull_text)
      (required_ne_ok_of_null refusesNull_text)).bind fun _ =>
      (h.agree_pair (by decide) (agree_optionalList steady_text) optionalList_ne_ok_of_null).bind fun _ =>
        (h.agree_pair (by decide) (agree_optionalList steady_text) optionalList_ne_ok_of_null).bind fun _ =>
          .refl _

theorem agree_fieldEntries (h : Alike fields others) :
    Agree (fieldEntries fields) (fieldEntries others) :=
  (h.agree_text (by decide)).bind fun _ =>
    (agree_required (steady_choice _ _) (refusesNull_choice _ _) (h.single (by decide))).bind fun _ =>
    (h.agree_text (by decide)).bind fun _ =>
    (agree_optional steady_text (h.single (by decide))).bind fun _ =>
    (agree_optional steady_defaultValue (h.pair (by decide))).bind fun _ =>
    (agree_optional (steady_list steady_fieldOption) (h.single (by decide))).bind fun _ =>
    (agree_optional (steady_list steady_rule) (h.single (by decide))).bind fun _ =>
    (agree_optional steady_visibilityCondition (h.pair (by decide))).bind fun _ =>
    (agree_optional steady_autoFill (h.pair (by decide))).bind fun _ =>
    (agree_optional steady_showWhen (h.pair (by decide))).bind fun _ => .refl _

theorem describesGroup_eq (h : Alike fields others) : describesGroup fields = describesGroup others := by
  rw [describesGroup, describesGroup]
  cases h "type" (by decide) with
  | both hv hw h => rw [hv, hw, Option.bind_some, Option.bind_some, text?_eq_of_respells h]
  | neither hv hw => rw [hv, hw]
  | dropped hv hw _ | added hv hw _ =>
    rw [hv, hw]
    rfl

/-- Where no items are listed there are none. -/
theorem children_of_none (h : fields.get? "fields" = none) : children fields = .ok [] := by
  induction fields with
  | nil => rfl
  | cons entry rest ih =>
    obtain ⟨name, v⟩ := entry
    have hne : name ≠ "fields" := by
      rintro rfl
      rw [Entries.get?_cons_self] at h
      cases h
    rw [Entries.get?_cons_of_ne hne] at h
    rw [children, if_neg (by simpa using hne), ih h]

/-- Null lists no items. -/
theorem children_ne_ok_of_null (h : fields.get? "fields" = some .null) (its : List Item) :
    children fields ≠ .ok its := by
  rw [Schema.children_eq h]
  nofun

-- by recursion over the first document, down to its items
mutual

theorem agree_item : ∀ v w : Value, Respells Spares v w → Agree (item v) (item w)
  | .object fields, w, h => by
    cases h with
    | same => exact .refl _
    | @object _ others h =>
      rw [item, item, describesGroup_eq h]
      split
      · exact (Alike.agree_text h (by decide)).bind fun _ =>
          (Alike.agree_text h (by decide)).bind fun _ =>
          (agree_optional steady_text (Alike.single h (by decide))).bind fun _ =>
          (agree_children fields others (h "fields" (by decide)).meets).bind fun _ =>
          (agree_optional steady_showWhen (Alike.pair h (by decide))).bind fun _ =>
          (agree_optional steady_autoFill (Alike.pair h (by decide))).bind fun _ => .refl _
      · exact (agree_fieldEntries h).map Item.field
  | .null, _, _ | .bool _, _, _ | .int _, _, _ | .double _, _, _ | .text _, _, _ | .list _, _, _
  | .absent, _, _ | .foreign, _, _ => agree_of_error nofun

theorem agree_children : ∀ (entries : List (String × Value)) (others : Object),
    Meets Spares ((Entries.get? entries "fields").map ("fields", ·))
      ((others.get? "fields").map ("fields", ·)) → Agree (children entries) (children others)
  | [], others, h => by
    cases hw : others.get? "fields" with
    | none =>
      rw [children_of_none hw]
      exact .refl _
    | some w =>
      rw [hw] at h
      cases h with
      | unset _ h' =>
        obtain rfl : w = .null := h' _ rfl
        exact agree_of_error_right (children_ne_ok_of_null hw)
  | (name, v) :: rest, others, h => by
    rw [children]
    by_cases hname : name = "fields"
    · subst hname
      rw [if_pos (by simp)]
      rw [Entries.get?_cons_self] at h
      rcases h.cases with ⟨_, _, _, w, ⟨⟩, hfound, h⟩ | ⟨h, -⟩
      · obtain ⟨w, hw, ⟨⟩⟩ := Option.map_eq_some_iff.mp hfound
        rw [Schema.children_eq hw]
        exact (agree_items v w h).under _ _
      · obtain rfl : v = .null := h _ rfl
        exact agree_of_error nofun
    · rw [if_neg (by simpa using hname)]
      rw [Entries.get?_cons_of_ne hname] at h
      exact agree_children rest others h

theorem agree_items : ∀ v w : Value, Respells Spares v w → Agree (items v) (items w)
  | .list vs, w, h => by
    cases h with
    | same => exact .refl _
    | @list _ ws h => exact agree_itemsFrom vs ws 0 0 h
  | .null, _, _ | .bool _, _, _ | .int _, _, _ | .double _, _, _ | .text _, _, _ | .object _, _, _
  | .absent, _, _ | .foreign, _, _ => agree_of_error nofun

theorem agree_itemsFrom : ∀ (vs ws : List Value) (position position' : Nat),
    List.Forall₂ (Respells Spares) vs ws → Agree (itemsFrom position vs) (itemsFrom position' ws)
  | [], _, _, _, h => by
    cases h
    exact .refl _
  | v :: rest, _, position, position', h => by
    cases h with
    | @cons _ w _ ws hfirst hrest =>
      rw [itemsFrom, itemsFrom]
      exact ((agree_item v w hfirst).under _ _).bind fun _ =>
        (agree_itemsFrom rest ws (position + 1) (position' + 1) hrest).bind fun _ => .refl _

end

theorem agree_schema (h : Alike fields others) : Agree (schema fields) (schema others) :=
  (h.agree_text (by decide)).bind fun _ =>
    (agree_optional steady_text (h.single (by decide))).bind fun _ =>
    (agree_children fields others (h "fields" (by decide)).meets).bind fun _ => .refl _

end Decode

namespace Schema

open Decode (Respells Spares MayOmit Alike)

variable {document document' : Value} {schema schema' : Schema} {text text' : String}

/-- Accepted documents that spell the same describe the same schema. -/
theorem eq_of_ofValue (h : Schema.ofValue document = .ok schema) (h' : Schema.ofValue document' = .ok schema')
    (hspell : Respells Spares document document') : schema' = schema := by
  obtain ⟨fields, hshape, hschema⟩ := exists_decoded h
  obtain ⟨others, hshape', hschema'⟩ := exists_decoded h'
  obtain rfl := eq_object_of_document hshape
  obtain rfl := eq_object_of_document hshape'
  cases hspell with
  | same =>
    rw [hschema] at hschema'
    exact (Except.ok.inj hschema').symm
  | object hspell => exact (Decode.agree_schema hspell schema schema' hschema hschema').symm

/-- **A form does not depend on how its document is spelled**: accepted texts whose documents differ in the
    order of entries, in entries that nothing reads and in nulls that are left out describe the same schema,
    which has the same name. -/
theorem eq_of_respells (hread : Json.read text = .ok document) (hread' : Json.read text' = .ok document')
    (hspell : Respells Spares document document') (h : Schema.parse text = .ok schema)
    (h' : Schema.parse text' = .ok schema') : schema' = schema ∧ schema'.formId = schema.formId := by
  rw [Schema.parse, hread] at h
  rw [Schema.parse, hread'] at h'
  obtain rfl := eq_of_ofValue h h' hspell
  exact ⟨rfl, rfl⟩

/-! ## Forms of one item -/

/-- The document of a form with one item. -/
def documentOf (entries : Object) : Value :=
  .object [("title", .text ""), ("fields", .list [.object entries])]

theorem respells_documentOf {mayOmit : Object → String → Prop} {entries others : Object}
    (h : Respells mayOmit (.object others) (.object entries)) :
    Respells mayOmit (documentOf others) (documentOf entries) := by
  refine .object fun name _ => ?_
  by_cases hfields : name = "fields"
  · subst hfields
    exact .both rfl rfl (.list (.cons h .nil))
  · by_cases htitle : name = "title"
    · subst htitle
      exact .both rfl rfl (.same _)
    · refine .of_get?_eq ?_
      rw [Entries.get?_cons_of_ne (Ne.symm htitle), Entries.get?_cons_of_ne (Ne.symm htitle),
        Entries.get?_cons_of_ne (Ne.symm hfields), Entries.get?_cons_of_ne (Ne.symm hfields)]

theorem legible_documentOf {entries : Object} (hdistinct : (Entries.keys entries).Nodup)
    (h : ∀ entry ∈ entries, Json.Legible entry.2) : Json.Legible (documentOf entries) := by
  have hitem : Json.Legible (.list [.object entries]) :=
    .list (List.forall_mem_singleton.mpr (.object hdistinct h))
  have hkeys : (["title", "fields"] : List String).Nodup := by decide
  exact .object hkeys (List.forall_mem_cons.mpr ⟨.text "", List.forall_mem_singleton.mpr hitem⟩)

/-- A legible document that is accepted has a text that is. -/
theorem exists_text (hlegible : Json.Legible document)
    (h : (Schema.ofValue document).toOption.isSome = true) :
    ∃ text, Json.read text = .ok document ∧
      Schema.parse text = .ok ((Schema.ofValue document).toOption.getD default) := by
  obtain ⟨text, -, hread⟩ := hlegible.exists_text? Json.Style.spaced_spaced
  refine ⟨text, hread, ?_⟩
  rw [Schema.parse, hread]
  show Schema.ofValue document = _
  cases hschema : Schema.ofValue document with
  | error e =>
    rw [hschema] at h
    cases h
  | ok schema => rfl

/-- A field. -/
def plainEntries : Object :=
  [("id", .text "a"), ("type", .text "text"), ("label", .text "")]

/-- The field with a hint, which nothing reads, and without a placeholder. -/
def hintedEntries : Object :=
  (("hint", .text "A letter") :: ("placeholder", .null) :: plainEntries).reverse

/-- The field read from front to back and from back to front. -/
theorem eq_of_respells_hinted : ∃ text text' schema schema',
    Json.read text = .ok (documentOf hintedEntries) ∧ Json.read text' = .ok (documentOf plainEntries) ∧
      Schema.parse text = .ok schema ∧ Schema.parse text' = .ok schema' ∧
      schema' = schema ∧ schema'.formId = schema.formId := by
  have hspell : Respells Spares (.object hintedEntries) (.object plainEntries) := by
    have hperm : hintedEntries.Perm ([("hint", .text "A letter"), ("placeholder", .null)] ++ plainEntries) :=
      List.reverse_perm _
    refine Decode.respells_of_perm hperm (by decide) fun entry hentry hknown => ?_
    rcases List.mem_cons.mp hentry with rfl | hentry
    · exact absurd hknown (by decide)
    · obtain rfl := List.mem_singleton.mp hentry
      have hsingle : ∀ pair ∈ Decode.nullablePairs, pair.1 ≠ "placeholder" := by decide
      exact ⟨rfl, rfl, by decide, fun other hpair => absurd rfl (hsingle _ hpair)⟩
  have hplain : ∀ entry ∈ plainEntries, Json.Legible entry.2 := by
    simp [plainEntries, Json.Legible.text]
  have hhinted : ∀ entry ∈ hintedEntries, Json.Legible entry.2 := by
    simp [hintedEntries, plainEntries, Json.Legible.text, Json.Legible.null]
  obtain ⟨text, hread, hparse⟩ := exists_text (legible_documentOf (by decide) hhinted) (by decide +kernel)
  obtain ⟨text', hread', hparse'⟩ := exists_text (legible_documentOf (by decide) hplain) (by decide +kernel)
  exact ⟨text, text', _, _, hread, hread', hparse, hparse',
    eq_of_respells hread hread' (respells_documentOf hspell) hparse hparse'⟩

/-- A field that is shown on a condition, which is given under its other name. -/
def shownEntries : Object :=
  plainEntries ++ [("show_when", .object [("field", .text "b"), ("equals", .text "x")])]

/-- **A null under the usual name may change a form.** It hides what is said under the other name, and the
    form has another name without it. -/
theorem not_eq_of_respells :
    ¬ ∀ (text text' : String) (document document' : Value) (schema schema' : Schema),
      Json.read text = .ok document → Json.read text' = .ok document' →
      Respells MayOmit document document' → Schema.parse text = .ok schema →
      Schema.parse text' = .ok schema' → schema'.formId = schema.formId := by
  intro h
  have hspell : Respells MayOmit (.object (("showWhen", .null) :: shownEntries)) (.object shownEntries) := by
    have hperm : (("showWhen", .null) :: shownEntries).Perm ([("showWhen", .null)] ++ shownEntries) := .refl _
    refine Decode.respells_of_perm hperm (by decide) fun entry hentry _ => ?_
    obtain rfl := List.mem_singleton.mp hentry
    exact ⟨rfl, rfl, show "showWhen" ∈ Decode.optionalNames by decide⟩
  have hcondition : Json.Legible (.object [("field", .text "b"), ("equals", .text "x")]) :=
    .object (by decide) (by simp [Json.Legible.text])
  have hshown : ∀ entry ∈ shownEntries, Json.Legible entry.2 := by
    simp [shownEntries, plainEntries, Json.Legible.text, hcondition]
  have hhidden : ∀ entry ∈ ("showWhen", Value.null) :: shownEntries, Json.Legible entry.2 :=
    List.forall_mem_cons.mpr ⟨.null, hshown⟩
  obtain ⟨text, hread, hparse⟩ := exists_text (legible_documentOf (by decide) hhidden) (by decide +kernel)
  obtain ⟨text', hread', hparse'⟩ := exists_text (legible_documentOf (by decide) hshown) (by decide +kernel)
  have hsame := h text text' _ _ _ _ hread hread' (respells_documentOf hspell) hparse hparse'
  exact absurd hsame (by decide +kernel)

end Schema
end DynamicForms
