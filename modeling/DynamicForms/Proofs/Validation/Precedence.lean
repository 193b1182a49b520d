import DynamicForms.Proofs.Validation.Filled
import DynamicForms.Proofs.Validation.SecondPass

/-!
# `DynamicForms.Proofs.Validation.Precedence` — which of several broken rules is reported

A value may break several unconditional rules of its field, and one message is reported. It is that of
the first broken rule as declared. A choice is the exception: its rules are looked at before its options
are, the last one first, so that of several `required` rules the last one speaks.

A field complains under its own path, and completing the data changes nothing but objects. So what a
field says about the value that stands at it is what is reported there, wherever it stands, unless
another item has the same path.

## Contents
- **One field.** `Field.looksAt`, `Field.brokenRules`, `Field.speaker?`; `complaint?_of_speaker?`.
- **All items.** `complaints_field`, `get?_complaints`.
- **The form.** `Validator.get?_errors`, `Validator.speaks_first`.
-/

namespace DynamicForms

open Value (Object)

/-! ## One field -/

namespace Field

/-- Whether the rules of a field decide about a value: a boolean for a tick box; for a choice null,
    unless that may be left out, the empty text or an option; and a text for anything else. -/
def looksAt (f : Field) (v : Value) : Bool :=
  if f.kind == .checkbox then v.isBool
  else if f.hasChoices then
    match v with
    | .null => !f.isOptional
    | .text s => s.isEmpty || f.optionValues.contains s
    | _ => false
  else v.isText

/-- The unconditional rules that a value breaks, as declared. -/
def brokenRules (f : Field) (v : Value) : List Rule :=
  f.unconditionalRules.filter fun r => !f.keeps r v

/-- The broken rule whose message is reported: on a choice the last one, else the first one. -/
def speaker? (f : Field) (v : Value) : Option Rule :=
  if f.hasChoices then (f.brokenRules v).getLast? else (f.brokenRules v).head?

variable {f : Field} {shown : List String} {rules : List ReadyRule} {v : Value} {r : Rule}

/-- Of a tick box or a choice only `required` rules are broken, and only while it is not filled. -/
theorem isFilled_eq_false_of_mem (h : (f.kind == .checkbox || f.hasChoices) = true)
    (hr : r ∈ f.brokenRules v) : v.isFilled = false := by
  have hbroken : f.keeps r v = false := by simpa using (List.mem_filter.mp hr).2
  rw [keeps, h, Bool.true_or] at hbroken
  split at hbroken
  · exact hbroken
  · cases hbroken

/-- While it is not filled, all its `required` rules are broken. -/
theorem requiredMessages_eq_of_unfilled (hready : ReadyFor f rules)
    (h : (f.kind == .checkbox || f.hasChoices) = true) (hunfilled : v.isFilled = false) :
    requiredMessages rules = (f.brokenRules v).map (·.message) := by
  have hbroken : ∀ r, (!f.keeps r v) = (r.kind == .required) := by
    intro r
    rw [keeps, h, Bool.true_or, hunfilled]
    cases r.kind == .required <;> rfl
  rw [brokenRules]
  simp only [hbroken]
  rw [← hready.rules_eq, List.filter_map, List.map_map]
  rfl

/-- The rules that a text breaks are those that its check finds broken. -/
theorem brokenRules_text (hready : ReadyFor f rules) (hbox : (f.kind == .checkbox) = false)
    (hchoices : f.hasChoices = false) (s : String) :
    f.brokenRules (.text s) = (rules.filter fun r => !r.textRule.1.passes s).map (·.rule) := by
  rw [brokenRules, ← hready.rules_eq, List.filter_map]
  congr 1
  refine List.filter_congr fun r hr => ?_
  rw [Function.comp_apply, keeps_text_iff hbox hchoices (hready.check_eq r hr)]

/-- On a tick box the first broken rule speaks. -/
theorem complaint?_checkbox (hready : ReadyFor f rules) (hbox : (f.kind == .checkbox) = true)
    (hlooks : v.isBool = true) (hfirst : (f.brokenRules v).head? = some r) :
    (f.baseCheck shown rules).complaint? v = some (.broken r.message) := by
  have hkind : (f.kind == .checkbox || f.hasChoices) = true := by rw [hbox, Bool.true_or]
  have hunfilled : v.isFilled = false := isFilled_eq_false_of_mem hkind (List.mem_of_head? hfirst)
  rw [baseCheck, if_pos hbox, requiredMessages_eq_of_unfilled hready hkind hunfilled]
  cases v with
  | bool b =>
    obtain rfl : b = false := hunfilled
    rw [BaseCheck.complaint?, List.head?_map, hfirst]
    rfl
  | _ => cases hlooks

/-- On a choice the last broken rule speaks. -/
theorem complaint?_choice (hready : ReadyFor f rules) (hbox : (f.kind == .checkbox) = false)
    (hchoices : f.hasChoices = true) (hlooks : v = .null ∨ v.isText = true)
    (hlast : (f.brokenRules v).getLast? = some r) :
    (f.baseCheck shown rules).complaint? v = some (.broken r.message) := by
  have hkind : (f.kind == .checkbox || f.hasChoices) = true := by rw [hchoices, Bool.or_true]
  have hunfilled : v.isFilled = false := isFilled_eq_false_of_mem hkind (List.mem_of_getLast? hlast)
  -- what is not filled is taken for nothing chosen
  have hunchosen : isUnchosen v = true := by
    rcases hlooks with rfl | htext
    · rfl
    · cases v with
      | text s => simpa [isUnchosen, Value.isFilled] using hunfilled
      | _ => cases htext
  rw [baseCheck, hbox, if_neg Bool.false_ne_true, if_pos hchoices,
    requiredMessages_eq_of_unfilled hready hkind hunfilled, BaseCheck.complaint?, List.getLast?_map,
    hlast, hunchosen]
  rfl

/-- On anything else the first broken rule speaks. -/
theorem complaint?_text (hready : ReadyFor f rules) (hbox : (f.kind == .checkbox) = false)
    (hchoices : f.hasChoices = false) (hlooks : v.isText = true)
    (hfirst : (f.brokenRules v).head? = some r) :
    (f.baseCheck shown rules).complaint? v = some (.broken r.message) := by
  cases v with
  | text s =>
    rw [brokenRules_text hready hbox hchoices, List.head?_map, List.head?_filter] at hfirst
    obtain ⟨ready, hfound, rfl⟩ := Option.map_eq_some_iff.mp hfirst
    have hrule : (rules.map ReadyRule.textRule).find? (fun rule => !rule.1.passes s)
        = some ready.textRule := by
      rw [List.find?_map]
      exact congrArg (Option.map ReadyRule.textRule) hfound
    rw [baseCheck, hbox, hchoices, if_neg Bool.false_ne_true, if_neg Bool.false_ne_true,
      BaseCheck.complaint?, textComplaint?, hrule]
    rfl
  | _ => cases hlooks

/-- **The rule that speaks is what the check of the field says.** -/
theorem complaint?_of_speaker? (hready : ReadyFor f rules) (hlooks : f.looksAt v = true)
    (hspeaks : f.speaker? v = some r) :
    (f.baseCheck shown rules).complaint? v = some (.broken r.message) := by
  unfold speaker? at hspeaks
  unfold looksAt at hlooks
  cases hbox : f.kind == .checkbox with
  | true =>
    have hchoices : f.hasChoices = false := by
      rw [hasChoices, beq_iff_eq.mp hbox]
      rfl
    rw [hbox, if_pos rfl] at hlooks
    rw [hchoices, if_neg Bool.false_ne_true] at hspeaks
    exact complaint?_checkbox hready hbox hlooks hspeaks
  | false =>
    rw [hbox, if_neg Bool.false_ne_true] at hlooks
    cases hchoices : f.hasChoices with
    | true =>
      rw [hchoices, if_pos rfl] at hlooks hspeaks
      refine complaint?_choice hready hbox hchoices ?_ hspeaks
      cases v with
      | null => exact Or.inl rfl
      | text s => exact Or.inr rfl
      | _ => cases hlooks
    | false =>
      rw [hchoices, if_neg Bool.false_ne_true] at hlooks hspeaks
      exact complaint?_text hready hbox hchoices hlooks hspeaks

end Field

/-! ## All items -/

namespace Check

variable {parent : String} {items : List Item} {checks : List Check} {d : Object} {f : Field}
  {check : FieldCheck} {v : Value} {r : Rule} {way : List String}

/-- The check of a field says what the rule says that speaks, about the path of the field. -/
theorem complaints_field (hfits : FieldCheck.Fits parent f check) (hfound : d.get? f.id = some v)
    (hlooks : f.looksAt v = true) (hspeaks : f.speaker? v = some r) :
    (Check.run d (.field check)).complaints = [(Path.join parent f.id, .broken r.message)] := by
  obtain ⟨shown, rules, hbase, hready⟩ := hfits.base_eq
  have hgiven : (f.isOptional && v.isNull) = false := by
    cases v with
    | null =>
      -- only a choice that may not be left out looks at null
      unfold Field.looksAt at hlooks
      split at hlooks
      · cases hlooks
      · split at hlooks
        · rw [show f.isOptional = false by simpa using hlooks, Bool.false_and]
        · cases hlooks
    | _ => exact Bool.and_false _
  rw [Check.run, FieldCheck.run, checkEntry, hfits.id_eq, hfits.path_eq, hfits.optional_eq, hbase]
  simp only [hfound, hgiven, Field.complaint?_of_speaker? hready hlooks hspeaks]
  rfl

/-- What says nothing about a path is passed over when something behind it is asked. -/
theorem get?_complaints_behind {first : Item} {check : Check} (hfit : FitAll parent [first] [check])
    {path : String} (hnot : path ∉ (Item.walkList parent [first]).map (·.path)) (checks : List Check)
    (d : Object) : Entries.get? (runAll d (check :: checks)).complaints path
      = Entries.get? (runAll d checks).complaints path := by
  have hnone : Entries.get? (runAll d [check]).complaints path = none :=
    (Entries.get?_eq_none_iff _ _).mpr fun hmem => hnot (places_subset hfit hmem)
  have hsingle : (runAll d [check]).complaints = (run d check).complaints := List.append_nil _
  rw [hsingle] at hnone
  show Entries.get? ((run d check).complaints ++ (runAll d checks).complaints) path = _
  rw [Entries.get?_append, hnone, Option.none_or]

theorem complaints_group_of_object {g : GroupHeader} {path : String} {optional : Bool} {inner : List Check}
    {fields : Object} (h : d.get? g.id = some (.object fields)) :
    (run d (.group ⟨g.id, path, optional⟩ inner)).complaints = (runAll fields inner).complaints := by
  rw [run, checkEntry, h]
  simp [Value.isNull]

/-- What the first check says about a path is what is found first. -/
theorem get?_complaints_front {check : Check} {path : String} {c : Complaint}
    (h : Entries.get? (run d check).complaints path = some c) (checks : List Check) :
    Entries.get? (runAll d (check :: checks)).complaints path = some c := by
  show Entries.get? ((run d check).complaints ++ (runAll d checks).complaints) path = _
  rw [Entries.get?_append, h, Option.some_or]

/-- **A field says under its own path what the rule says that speaks**, if no other item has the path. -/
theorem get?_complaints (hfit : FitAll parent items checks) (hstands : Item.Stands items way (.field f))
    (halone : ((Item.walkList parent items).map (·.path)).count (Item.pathFrom parent way) = 1)
    (hfound : Path.descend? (.object d) way = some v) (hlooks : f.looksAt v = true)
    (hspeaks : f.speaker? v = some r) :
    Entries.get? (runAll d checks).complaints (Item.pathFrom parent way) = some (.broken r.message) := by
  induction hfit generalizing d way with
  | nil =>
    cases hstands with
    | here hitem => cases hitem
    | inside hg _ => cases hg
  | @field parent first check rest checks hfits hrest ih =>
    rcases hstands.cons_cases with hbehind | ⟨rfl, hfirst⟩ | ⟨g, inner, more, hfirst, -⟩
    · obtain ⟨hnot, halone'⟩ := Item.alone_behind (hbehind.mem_paths parent) halone
      rw [get?_complaints_behind (.field hfits .nil) hnot]
      exact ih hbehind halone' hfound
    · cases hfirst
      rw [descend?_singleton] at hfound
      refine get?_complaints_front ?_ checks
      rw [complaints_field hfits hfound hlooks hspeaks]
      exact Entries.get?_cons_self _ _ _
    · cases hfirst
  | @group parent g inner innerChecks rest checks hinner hrest ihInner ih =>
    rcases hstands.cons_cases with hbehind | ⟨-, hfirst⟩ | ⟨g', inner', more, hfirst, rfl, hinside⟩
    · obtain ⟨hnot, halone'⟩ := Item.alone_behind (hbehind.mem_paths parent) halone
      rw [get?_complaints_behind (.group hinner .nil) hnot]
      exact ih hbehind halone' hfound
    · cases hfirst
    · cases hfirst
      rw [Path.descend?_cons] at hfound
      obtain ⟨child, hchild, hbelow⟩ := Option.bind_eq_some_iff.mp hfound
      obtain ⟨next, rest', rfl⟩ := List.exists_cons_of_ne_nil hinside.ne_nil
      -- the way goes on, so the group is an object
      cases child with
      | object fields =>
        refine get?_complaints_front ?_ checks
        rw [complaints_group_of_object hchild]
        exact ihInner hinside (Item.alone_inside (hinside.mem_paths _) halone) hbelow
      | _ => cases (Path.descend?_cons_of_not_object rfl next rest').symm.trans hbelow

end Check

/-! ## The form -/

namespace Validator

variable {v : Validator} {items : List Item} {way : List String} {f : Field} {x : Value} {r : Rule}

/-- A value that the rules of a field decide about stands where it stood after missing groups were put
    in. -/
theorem descend?_complete_of_looksAt {data : Object} (hfound : Path.descend? (.object data) way = some x)
    (hlooks : f.looksAt x = true) (items : List Item) :
    Path.descend? (.object (Item.complete data items)) way = some x := by
  rcases Item.filled_complete data items way with hsame | ⟨-, hhollow⟩
  · exact hsame.trans hfound
  · -- no rule decides about an object or about nothing
    rw [hfound, Option.getD_some] at hhollow
    unfold Field.looksAt at hlooks
    cases x with
    | object fields => split at hlooks <;> [skip; split at hlooks] <;> cases hlooks
    | absent => split at hlooks <;> [skip; split at hlooks] <;> cases hlooks
    | _ => cases hhollow

/-- **What is reported at a field** whose rules a value breaks: the message of the rule that speaks. -/
theorem get?_errors (hbuild : build items = .ok v) (data : Object)
    (hstands : Item.Stands items way (.field f))
    (halone : ((Item.nodes items).map (·.path)).count (Item.pathFrom "" way) = 1)
    (hfound : Path.descend? (.object data) way = some x) (hlooks : f.looksAt x = true)
    (hspeaks : f.speaker? x = some r) :
    Entries.get? (v.validate data).errors (Item.pathFrom "" way) = some r.message := by
  have hcomplaint := Check.get?_complaints (fitAll_of_build hbuild).2 hstands halone
    (descend?_complete_of_looksAt hfound hlooks items) hlooks hspeaks
  rw [errors_validate, get?_messages, firstPass_eq hbuild, hcomplaint]
  rfl

/-- **The first broken rule is the one reported**, save on a choice whose last broken rule says something
    else. Whatever stands at a field of a form, if the rules of the field decide about it and it breaks
    some, the message of the first of these is reported at the path of the field exactly if the field is
    no choice or the last of them has the same message. -/
theorem speaks_first (hbuild : build items = .ok v) (data : Object)
    (hstands : Item.Stands items way (.field f))
    (halone : ((Item.nodes items).map (·.path)).count (Item.pathFrom "" way) = 1)
    (hfound : Path.descend? (.object data) way = some x) (hlooks : f.looksAt x = true)
    (hfirst : (f.brokenRules x).head? = some r) :
    Entries.get? (v.validate data).errors (Item.pathFrom "" way) = some r.message ↔
      (f.hasChoices = true → (f.brokenRules x).getLast?.map (·.message) = some r.message) := by
  cases hchoices : f.hasChoices with
  | false =>
    have hspeaks : f.speaker? x = some r := by
      rw [Field.speaker?, hchoices, if_neg Bool.false_ne_true, hfirst]
    rw [get?_errors hbuild data hstands halone hfound hlooks hspeaks]
    simp
  | true =>
    obtain ⟨last, hlast⟩ : ∃ last, (f.brokenRules x).getLast? = some last :=
      ⟨_, List.getLast?_eq_some_getLast (List.ne_nil_of_mem (List.mem_of_head? hfirst))⟩
    have hspeaks : f.speaker? x = some last := by
      rw [Field.speaker?, hchoices, if_pos rfl, hlast]
    rw [get?_errors hbuild data hstands halone hfound hlooks hspeaks, hlast, Option.map_some]
    simp

/-- A postcode: four digits. Without a city it is required. -/
def postcodeField : Field :=
  { (default : Field) with
    id := "postcode"
    rules := some [⟨.minLength, some (.int 4), "Too short", none⟩,
      ⟨.required, none, "Postcode is required", some ⟨"city", .equals, .text ""⟩⟩,
      ⟨.pattern, some (.text "^[0-9]+$"), "Digits only", none⟩] }

/-- A size, which must be chosen. -/
def chosenField : Field :=
  { (default : Field) with
    id := "size", kind := .select, options := some [⟨"Small", "s"⟩]
    rules := some [⟨.minLength, some (.int 4), "Too short", none⟩, ⟨.required, none, "Choose a size", none⟩] }

/-- Terms, which must be agreed to. -/
def termsField : Field :=
  { (default : Field) with
    id := "terms", kind := .checkbox
    rules := some [⟨.required, none, "Please agree", none⟩, ⟨.required, none, "You must agree", none⟩] }

/-- An address with a postcode, a size and terms. -/
def orderItems : List Item :=
  [.group addressGroup [.field postcodeField], .field chosenField, .field termsField]

/-- The form made ready. -/
def orderValidator : Validator :=
  (build orderItems).toOption.getD default

/-- Something wrong everywhere. -/
def orderData : Object :=
  [("address", .object [("postcode", .text "ab")]), ("size", .text ""), ("terms", .bool false)]

theorem speaks_first_order :
    Entries.get? (orderValidator.validate orderData).errors "address.postcode" = some "Too short" ∧
    Entries.get? (orderValidator.validate orderData).errors "size" = some "Choose a size" ∧
    Entries.get? (orderValidator.validate orderData).errors "terms" = some "Please agree" := by
  have hbuild : build orderItems = .ok orderValidator := build_of_isSome (by decide +kernel)
  have hpostcode : Item.Stands orderItems ["address", "postcode"] (.field postcodeField) :=
    .inside (List.mem_cons_self : .group addressGroup [.field postcodeField] ∈ orderItems)
      (.here List.mem_cons_self)
  have hsize : Item.Stands orderItems ["size"] (.field chosenField) :=
    .here (List.mem_cons_of_mem _ List.mem_cons_self)
  have hterms : Item.Stands orderItems ["terms"] (.field termsField) :=
    .here (List.mem_cons_of_mem _ (List.mem_cons_of_mem _ List.mem_cons_self))
  refine ⟨?_, ?_, ?_⟩
  · exact (speaks_first (x := .text "ab") hbuild orderData hpostcode (by decide +kernel) rfl rfl rfl).mpr
      (by decide)
  · exact (speaks_first (x := .text "") hbuild orderData hsize (by decide +kernel) rfl rfl rfl).mpr
      (by decide)
  · exact (speaks_first (x := .bool false) hbuild orderData hterms (by decide +kernel) rfl rfl rfl).mpr
      (by decide)

/-- A size with two rules that one must be chosen. -/
def twiceField : Field :=
  { (default : Field) with
    id := "size", kind := .select, options := some [⟨"Small", "s"⟩]
    rules := some [⟨.required, none, "First", none⟩, ⟨.required, none, "Second", none⟩] }

/-- On a choice with two `required` rules the first one is not reported. -/
theorem not_speaks_first :
    ¬ ∀ (items : List Item) (v : Validator), build items = .ok v →
      ∀ (data : Object) (way : List String) (f : Field), Item.Stands items way (.field f) →
        ((Item.nodes items).map (·.path)).count (Item.pathFrom "" way) = 1 →
        ∀ x, Path.descend? (.object data) way = some x → f.looksAt x = true →
          ∀ r, (f.brokenRules x).head? = some r →
            Entries.get? (v.validate data).errors (Item.pathFrom "" way) = some r.message := by
  intro h
  have hfirst := h [.field twiceField] _ (build_of_isSome (by decide +kernel)) [("size", .text "")]
    ["size"] twiceField (.here List.mem_cons_self) (by decide +kernel) (.text "") rfl rfl
    ⟨.required, none, "First", none⟩ rfl
  revert hfirst
  decide +kernel

end Validator

end DynamicForms
