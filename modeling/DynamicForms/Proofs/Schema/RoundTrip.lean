import DynamicForms.Proofs.Json.RoundTrip
import DynamicForms.Proofs.Schema.Recheck
import DynamicForms.Schema.FormId

/-!
# `DynamicForms.Proofs.Schema.RoundTrip` — a schema goes through its text

The text of an accepted schema is accepted, and describes the same schema. Three things come together. The
value of the schema is read back part by part and has the shape of a schema. Its numbers stand in the
document it came from, or are the zero and the one that a truth value is taken for as the value of a rule;
so the value is one whose text is read back, if no NaN stands in the document.

## Contents
- **Values.** `legible_texts`, `legible_object`; `Gives`: what a reader of parts makes of legible values.
- **Parts.** `legible_…` for the parts without numbers, `gives_…` for the others.
- **Items.** `legible_item`, `legible_itemsFrom`; `Schema.legible_toValue`.
- `Schema.parse_text_toValue`: the round trip.
-/

namespace DynamicForms

open Value (Object)
open Json (Legible)

/-! ## Values -/

theorem legible_texts (texts : List String) : Legible (Value.texts texts) := by
  refine .list fun v hv => ?_
  obtain ⟨s, -, rfl⟩ := List.mem_map.mp hv
  exact .text s

/-- Legible values under some of a list of names, in its order. -/
structure LegibleUnder (names : List String) (fields : Object) : Prop where
  /-- The names. -/
  keys : (Entries.keys fields).Sublist names
  /-- The values. -/
  values : ∀ e ∈ fields, Legible e.2

section

variable {name : String} {names more : List String} {fields others : Object} {v : Value}

theorem legibleUnder_entry (h : Legible v) : LegibleUnder [name] (entry name v) :=
  ⟨List.Sublist.refl _, List.forall_mem_singleton.mpr h⟩

theorem legibleUnder_optional {α : Type} {toValue : α → Value} {part : Option α}
    (h : ∀ a, part = some a → Legible (toValue a)) :
    LegibleUnder [name] ( entry? name (part.map toValue)) := by
  cases part with
  | none => exact ⟨List.nil_sublist _, List.forall_mem_nil _⟩
  | some a => exact legibleUnder_entry (h a rfl)

theorem LegibleUnder.append (h : LegibleUnder names fields) (hothers : LegibleUnder more others) :
    LegibleUnder (names ++ more) (fields ++ others) := by
  refine ⟨?_, List.forall_mem_append.mpr ⟨h.values, hothers.values⟩⟩
  rw [Entries.keys, List.map_append]
  exact h.keys.append hothers.keys

theorem LegibleUnder.object (h : LegibleUnder names fields) (hdistinct : names.Nodup) :
    Legible (.object fields) :=
  .object (hdistinct.sublist h.keys) h.values

end

namespace Decode

/-- What a reader of parts makes of a legible value has a property. -/
def Gives {α : Type} (Q : α → Prop) (read : Value → Decoded α) : Prop :=
  ∀ v, Legible v → ∀ a, read v = .ok a → Q a

variable {α : Type} {Q : α → Prop} {read : Value → Decoded α} {fields : Object} {names : List String}

theorem mem_of_named? {name : String} {v : Value} (h : named? fields names = some (name, v)) :
    (name, v) ∈ fields := by
  obtain ⟨other, -, hget⟩ := List.exists_of_findSome?_eq_some h
  obtain ⟨w, hw, heq⟩ := Option.map_eq_some_iff.mp hget
  cases heq
  exact Entries.mem_of_get? hw

theorem Gives.required (hread : Gives Q read) (hfields : ∀ e ∈ fields, Legible e.2) {a : α}
    (h : required fields names read = .ok a) : Q a := by
  unfold Decode.required at h
  split at h
  · next name v hnamed => exact hread v (hfields _ (mem_of_named? hnamed)) a (Shape.ok_of_under h)
  · cases h

theorem Gives.optional (hread : Gives Q read) (hfields : ∀ e ∈ fields, Legible e.2) {part : Option α}
    (h : optional fields names read = .ok part) : ∀ a, part = some a → Q a := by
  unfold Decode.optional at h
  rintro a rfl
  split at h
  · next name v hnamed =>
    split at h
    · cases h
    · cases hv : read v with
      | error e => simp [hv, under, Except.mapError, Except.map] at h
      | ok b =>
        rw [hv] at h
        cases h
        exact hread v (hfields _ (mem_of_named? hnamed)) _ hv
  · cases h

theorem gives_listFrom (hread : Gives Q read) {values : List Value} (hvalues : ∀ v ∈ values, Legible v)
    {position : Nat} {as : List α} (h : listFrom read position values = .ok as) : ∀ a ∈ as, Q a := by
  induction values generalizing position as with
  | nil =>
    cases h
    exact List.forall_mem_nil _
  | cons v rest ih =>
    simp only [listFrom, bind_eq_ok_iff] at h
    obtain ⟨first, hfirst, more, hmore, has⟩ := h
    cases has
    refine List.forall_mem_cons.mpr ⟨?_, ?_⟩
    · exact hread v (hvalues v List.mem_cons_self) first (Shape.ok_of_under hfirst)
    · exact ih (fun w hw => hvalues w (List.mem_cons_of_mem _ hw)) hmore

theorem gives_list (hread : Gives Q read) : Gives (fun as => ∀ a ∈ as, Q a) (list read) := by
  intro v hv as h
  cases hv with
  | list hvalues => exact gives_listFrom hread hvalues h
  | _ => cases h

theorem gives_object (part : String) :
    Gives (fun fields : Object => ∀ e ∈ fields, Legible e.2) (object part) := by
  intro v hv fields h
  cases hv with
  | object _ hfields =>
    cases h
    exact hfields
  | _ => cases h

/-! ## Parts -/

theorem gives_scalar : Gives (fun s => Legible s.toValue) scalar := by
  intro v hv s h
  cases v with
  | bool | int | double | text =>
    cases h
    exact hv
  | _ => cases h

theorem gives_ruleValue : Gives (fun value => Legible value.toValue) ruleValue := by
  intro v hv value h
  cases v with
  | bool b =>
    cases h
    have hone : 1 < 10 ^ Json.maxDigits := Nat.one_lt_pow (by decide) (by decide)
    cases b with
    | true => exact .int hone
    | false => exact .int (Nat.zero_lt_one.trans hone)
  | int | double | text =>
    cases h
    exact hv
  | _ => cases h

theorem gives_showWhen : Gives (fun c => Legible c.toValue) showWhen := by
  intro v hv c h
  simp only [showWhen, bind_eq_ok_iff] at h
  obtain ⟨fields, hobject, field, -, equals, hequals, hc⟩ := h
  cases hc
  have hequals := gives_scalar.required (gives_object _ v hv fields hobject) hequals
  exact ((legibleUnder_entry (.text field)).append (legibleUnder_entry hequals)).object (by decide)

theorem gives_ruleCondition : Gives (fun c => Legible c.toValue) ruleCondition := by
  intro v hv c h
  simp only [ruleCondition, bind_eq_ok_iff] at h
  obtain ⟨fields, hobject, field, -, operator, -, value, hvalue, hc⟩ := h
  cases hc
  have hvalue := gives_scalar.required (gives_object _ v hv fields hobject) hvalue
  exact (((legibleUnder_entry (.text field)).append (legibleUnder_entry (.text operator.name))).append
    (legibleUnder_entry hvalue)).object (by decide)

theorem gives_rule : Gives (fun r => Legible r.toValue) rule := by
  intro v hv r h
  simp only [rule, bind_eq_ok_iff] at h
  obtain ⟨fields, hobject, kind, -, value, hvalue, message, -, condition, hcondition, hr⟩ := h
  cases hr
  have hfields := gives_object _ v hv fields hobject
  exact ((((legibleUnder_entry (.text kind.name)).append
    (legibleUnder_optional (gives_ruleValue.optional hfields hvalue))).append
    (legibleUnder_entry (.text message))).append
    (legibleUnder_optional (gives_ruleCondition.optional hfields hcondition))).object (by decide)

theorem legible_fieldOption (o : FieldOption) : Legible o.toValue :=
  ((legibleUnder_entry (.text o.label)).append (legibleUnder_entry (.text o.value))).object (by decide)

theorem legible_defaultValue (d : DefaultValue) : Legible d.toValue := by
  cases d with
  | bool b => exact .bool b
  | text s => exact .text s
  | texts items => exact legible_texts items

theorem legible_visibilityCondition (c : VisibilityCondition) : Legible c.toValue := by
  have hvalue : Legible c.value.toValue := by
    cases c.value with
    | one s => exact .text s
    | many texts => exact legible_texts texts
  exact (((legibleUnder_entry (.text c.field)).append (legibleUnder_entry (.text c.operator.name))).append
    (legibleUnder_entry hvalue)).object (by decide)

theorem legible_autoFill (fill : AutoFill) : Legible fill.toValue :=
  (((legibleUnder_entry (.text fill.endpoint)).append
    (legibleUnder_entry (legible_texts fill.dependsOn))).append
    (legibleUnder_entry (legible_texts fill.targets))).object (by decide)

theorem legible_map {α : Type} {toValue : α → Value} {as : List α} (h : ∀ a ∈ as, Legible (toValue a)) :
    Legible (.list (as.map toValue)) :=
  .list (List.forall_mem_map.mpr h)

theorem legible_field (hfields : ∀ e ∈ fields, Legible e.2) {f : Field}
    (h : fieldEntries fields = .ok f) : Legible f.toValue := by
  simp only [fieldEntries, bind_eq_ok_iff] at h
  obtain ⟨id, -, kind, -, label, -, placeholder, -, default, -, options, -, rules, hrules, visibility, -,
    autoFill, -, showWhen, hshowWhen, hf⟩ := h
  cases hf
  have hrules := (gives_list gives_rule).optional hfields hrules
  have hshowWhen := gives_showWhen.optional hfields hshowWhen
  exact ((((((((((legibleUnder_entry (.text id)).append (legibleUnder_entry (.text kind.name))).append
    (legibleUnder_entry (.text label))).append
    (legibleUnder_optional fun s _ => .text s)).append
    (legibleUnder_optional fun d _ => legible_defaultValue d)).append
    (legibleUnder_optional fun os _ => legible_map fun o _ => legible_fieldOption o)).append
    (legibleUnder_optional fun rs hrs => legible_map (hrules rs hrs))).append
    (legibleUnder_optional fun c _ => legible_visibilityCondition c)).append
    (legibleUnder_optional fun fill _ => legible_autoFill fill)).append
    (legibleUnder_optional hshowWhen)).object (by decide)

/-! ## Items -/

theorem legible_group {g : GroupHeader} {values : List Value} (hvalues : ∀ v ∈ values, Legible v)
    (hshowWhen : ∀ c, g.showWhen = some c → Legible c.toValue) : Legible (g.toValue values) :=
  (((((((legibleUnder_entry (.text g.id)).append (legibleUnder_entry (.text groupTypeName))).append
    (legibleUnder_entry (.text g.title))).append
    (legibleUnder_optional fun s _ => .text s)).append
    (legibleUnder_entry (.list hvalues))).append
    (legibleUnder_optional hshowWhen)).append
    (legibleUnder_optional fun fill _ => legible_autoFill fill)).object (by decide)

-- what is read of the items of a document stands in it
mutual

theorem legible_item : ∀ (v : Value) (it : Item), Legible v → item v = .ok it → Legible it.toValue
  | .object fields, it, hv, hread => by
    have hfields := gives_object "" _ hv fields rfl
    rw [item] at hread
    split at hread
    · simp only [bind_eq_ok_iff] at hread
      obtain ⟨id, -, title, -, description, -, inner, hinner, showWhen, hshowWhen, autoFill, -, hit⟩ := hread
      cases hit
      exact legible_group (legible_children fields inner hfields hinner)
        (gives_showWhen.optional hfields hshowWhen)
    · cases hentries : fieldEntries fields with
      | error e => simp [hentries, Except.map] at hread
      | ok f =>
        rw [hentries] at hread
        cases hread
        exact legible_field hfields hentries
  | .null, _, _, hread | .bool _, _, _, hread | .int _, _, _, hread | .double _, _, _, hread
  | .text _, _, _, hread | .list _, _, _, hread | .absent, _, _, hread | .foreign, _, _, hread =>
    nomatch hread

theorem legible_children : ∀ (entries : List (String × Value)) (its : List Item),
    (∀ e ∈ entries, Legible e.2) → children entries = .ok its → ∀ w ∈ Item.toValues its, Legible w
  | [], _, _, hread => by
    cases hread
    exact List.forall_mem_nil _
  | (name, v) :: rest, its, hentries, hread => by
    rw [children] at hread
    split at hread
    · exact legible_items v its (hentries _ List.mem_cons_self) (Shape.ok_of_under hread)
    · exact legible_children rest its (fun e he => hentries e (List.mem_cons_of_mem _ he)) hread

theorem legible_items : ∀ (v : Value) (its : List Item), Legible v → items v = .ok its →
    ∀ w ∈ Item.toValues its, Legible w
  | .list vs, its, hv, hread => by
    cases hv with
    | list hvalues => exact legible_itemsFrom vs 0 its hvalues hread
  | .null, _, _, hread | .bool _, _, _, hread | .int _, _, _, hread | .double _, _, _, hread
  | .text _, _, _, hread | .object _, _, _, hread | .absent, _, _, hread | .foreign, _, _, hread =>
    nomatch hread

theorem legible_itemsFrom : ∀ (vs : List Value) (position : Nat) (its : List Item),
    (∀ v ∈ vs, Legible v) → itemsFrom position vs = .ok its → ∀ w ∈ Item.toValues its, Legible w
  | [], _, _, _, hread => by
    cases hread
    exact List.forall_mem_nil _
  | v :: rest, position, its, hvs, hread => by
    simp only [itemsFrom, bind_eq_ok_iff] at hread
    obtain ⟨it, hit, more, hmore, hits⟩ := hread
    cases hits
    refine List.forall_mem_cons.mpr ⟨?_, ?_⟩
    · exact legible_item v it (hvs v List.mem_cons_self) (Shape.ok_of_under hit)
    · exact legible_itemsFrom rest _ more (fun w hw => hvs w (List.mem_cons_of_mem _ hw)) hmore

end

end Decode

namespace Schema

variable {document : Value} {schema : Schema} {text : String}

/-- The value of a schema that was read from a legible document is legible. -/
theorem legible_toValue (hdocument : Legible document) (h : Schema.ofValue document = .ok schema) :
    Legible schema.toValue := by
  obtain ⟨fields, hshape, hschema⟩ := exists_decoded h
  have hfields : ∀ e ∈ fields, Legible e.2 := by
    obtain rfl := eq_object_of_document hshape
    exact Decode.gives_object "" _ hdocument fields rfl
  simp only [Decode.schema, bind_eq_ok_iff] at hschema
  obtain ⟨title, -, description, -, items, hitems, hfound⟩ := hschema
  cases hfound
  have hvalues := Decode.legible_children fields items hfields hitems
  exact (((legibleUnder_entry (.text title)).append (legibleUnder_optional fun s _ => .text s)).append
    (legibleUnder_entry (.list hvalues))).object (by decide)

/-- **The text of an accepted schema is accepted and describes the same schema**, down to the type of every
    scalar, and so it has the same name. -/
theorem parse_text_toValue (haccepted : Schema.parse text = .ok schema)
    (hnan : ∀ v, Json.read text = .ok v → v.holdsNan = false) :
    ∃ again schema', Json.text? Json.Style.spaced schema.toValue = some again ∧
      Schema.parse again = .ok schema' ∧ schema' = schema ∧ schema'.formId = schema.formId := by
  obtain ⟨document, hread, hdocument⟩ := bind_eq_ok_iff.mp haccepted
  have hread : Json.read text = .ok document := by
    cases hfound : Json.read text with
    | error e => simp [hfound, Except.mapError] at hread
    | ok v =>
      rw [hfound] at hread
      cases hread
      rfl
  have hlegible := legible_toValue (Json.legible_of_read hread (hnan document hread)) hdocument
  obtain ⟨again, htext, hagain⟩ := hlegible.exists_text? Json.Style.spaced_spaced
  refine ⟨again, schema, htext, ?_, rfl, rfl⟩
  rw [Schema.parse, hagain]
  exact ofValue_toValue hdocument

/-- A form with a field that is shown while another place holds one tenth. -/
def tenthText : String :=
  "\x7b\"title\":\"T\",\"fields\":[\x7b\"id\":\"a\",\"type\":\"text\",\"label\":\"A\"," ++
  "\"showWhen\":\x7b\"field\":\"b\",\"equals\":0.1\x7d\x7d]\x7d"

/-- The form goes through its text: it is accepted, and no NaN stands in its document. -/
theorem parse_text_toValue_tenth :
    ∃ schema, Schema.parse tenthText = .ok schema ∧
      (∀ v, Json.read tenthText = .ok v → v.holdsNan = false) ∧
      ∃ again schema', Json.text? Json.Style.spaced schema.toValue = some again ∧
        Schema.parse again = .ok schema' ∧ schema' = schema ∧ schema'.formId = schema.formId := by
  have hok : (Json.read tenthText).toOption.any
      (fun v => !v.holdsNan && (Schema.ofValue v).toOption.isSome) = true := by decide +kernel
  cases hread : Json.read tenthText with
  | error e =>
    rw [hread] at hok
    cases hok
  | ok v =>
    cases hschema : Schema.ofValue v with
    | error e => simp [hread, hschema, Except.toOption] at hok
    | ok schema =>
      simp only [hread, hschema, Except.toOption, Option.any_some, Option.isSome_some, Bool.and_true,
        Bool.not_eq_true'] at hok
      have hparse : Schema.parse tenthText = .ok schema := by
        rw [Schema.parse, hread]
        exact hschema
      have hnan : ∀ w, Json.read tenthText = .ok w → w.holdsNan = false := fun w hw => by
        rw [hread] at hw
        cases hw
        exact hok
      exact ⟨schema, hparse, fun w hw => hnan w (hread.trans hw), parse_text_toValue hparse hnan⟩

end Schema
end DynamicForms
