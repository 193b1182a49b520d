import DynamicForms.Proofs.Session.Hidden
import DynamicForms.Proofs.Validation.Filled

/-!
# `DynamicForms.Proofs.Session.Resubmit` — a submission can be submitted again

What is submitted differs from the data it was made of by the hidden values taken out and the empty
groups put in. Judged again it is accepted again and gives itself: no condition sees the difference, so
the same items are visible and no rule applies that did not apply before; what is hidden has no value
any more; and the first pass finds the groups it would have put in, and nothing to complain about.

Every name in the data must be known to the form. A name that no item has is not submitted, and a
condition may have looked at it.

## Contents
- `Item.rulePaths`, `Item.Plain`: the forms considered.
- `ConditionalRule.isBroken_before`: rules with a condition.
- **What is let through.** `Validator.validate_again`, `Item.prune_output`.
- `Form.judge_again`.
- `Form.judge_again_order`: an order, given with a hidden company and without its group of contacts.
-/

namespace DynamicForms

open Value (Object)
open Path (IsWhole Filled)

namespace Item

/-- The places that the conditions of an item's rules name. -/
def rulePaths (item : Item) : List String :=
  item.field?.toList.flatMap fun f => (f.ruleList.filterMap (·.condition)).map (·.field)

/-- A form without dots in identifiers and without empty segments in the paths of its conditions. -/
structure Plain (items : List Item) : Prop where
  /-- Identifiers have no dots. -/
  dotFree : ∀ id ∈ identifiers items, '.' ∉ id.toList
  /-- Conditions name whole paths. -/
  whole : ∀ node ∈ nodes items, ∀ c ∈ node.item.ownPaths ++ node.item.rulePaths, IsWhole c

instance (items : List Item) : Decidable (Plain items) :=
  decidable_of_iff
    ((∀ id ∈ identifiers items, '.' ∉ id.toList)
      ∧ ∀ node ∈ nodes items, ∀ c ∈ node.item.ownPaths ++ node.item.rulePaths, IsWhole c)
    ⟨fun h => ⟨h.1, h.2⟩, fun h => ⟨h.dotFree, h.whole⟩⟩

variable {items : List Item} {data : Object}

theorem Plain.regular (h : Plain items) (hun : Unambiguous items) : Regular items := by
  refine ⟨hun.wellNamed, fun c hc => ?_⟩
  obtain ⟨-, node, hnode, hown⟩ := (mem_watchedPaths_iff hun.wellNamed).mp hc
  exact h.whole node hnode c (List.mem_append_left _ hown)

/-- The condition of a rule names a whole path. -/
theorem Plain.isWhole_condition (h : Plain items) {node : Node} (hnode : node ∈ nodes items)
    {r : ConditionalRule} (hr : r.IsOf node) : IsWhole r.condition.field := by
  obtain ⟨f, hf, -, -, rule, hrule, hcondition⟩ := hr
  refine h.whole node hnode _ (List.mem_append_right _ ?_)
  rw [rulePaths, hf]
  simp only [field?, Option.toList_some, List.flatMap_cons, List.flatMap_nil, List.append_nil]
  exact List.mem_map_of_mem (List.mem_filterMap.mpr ⟨rule, hrule, hcondition⟩)

/-- An item is at the top or inside a group, whose path its own begins with. -/
theorem parent_cases (hun : Unambiguous items) {node : Node} (hnode : node ∈ nodes items) :
    node.parent = "" ∨ IsWhole node.parent ∧
      ∃ g inner, Stands items (Path.segments node.parent) (.group g inner) := by
  obtain ⟨way, hstands, haround⟩ := exists_stands_of_mem hnode
  by_cases hbelow : way.dropLast = []
  · left
    rw [haround, hbelow]
    rfl
  · right
    obtain ⟨g, inner, hin, -⟩ := hstands.exists_around hbelow
    obtain ⟨u, hu, -, hupath, hseg⟩ := hin.exists_node hun.wellNamed.atTop.toNamedAt
    rw [← haround] at hupath
    rw [Path.segments_empty, List.nil_append] at hseg
    exact ⟨hupath ▸ hun.wellNamed.isWhole hu, g, inner, by rwa [← hupath, hseg]⟩

/-- Pruning keeps data known. -/
theorem knows_prune (hi : Regular items) (hun : Unambiguous items)
    (hdata : (Value.object data).isDocument = true) (h : knows items data = true) :
    knows items (prune items data) = true := by
  have hsound : Path.Sound data :=
    ⟨hasPlainNames_of_knows hun h, Value.hasDistinctNames_of_isDocument _ hdata⟩
  obtain ⟨-, -, ⟨deleted, -, hprune⟩, -⟩ := prune_isFixpoint hi hsound
  rw [hprune]
  exact knows_deletes hun hdata h deleted

end Item

/-- **No rule with a condition is broken by what is let through that was not broken before.** -/
theorem ConditionalRule.isBroken_before {items : List Item} {v : Validator} {d o : Object}
    (hun : Item.Unambiguous items) (hplain : Item.Plain items)
    (hbuild : Validator.build items = .ok v) {r : ConditionalRule} (hr : r ∈ v.conditional)
    (hknown : Item.knows items d = true) (ho : Path.HasPlainNames o) (h : Filled d o)
    (htop : ∀ name more, Path.descend? (.object o) (name :: more) ≠ none →
      ∃ item ∈ items, item.id = name)
    (hbroken : r.isBroken (.object o) = true) : r.isBroken (.object d) = true := by
  obtain ⟨node, hnode, hof⟩ := conditional_of_build hbuild hr
  have hd := Item.hasPlainNames_of_knows hun hknown
  have hfield : IsWhole r.condition.field := hplain.isWhole_condition hnode hof
  obtain ⟨f, hf, hpath, hparent, -⟩ := hof
  have hwhole : IsWhole r.path := hpath ▸ hun.wellNamed.isWhole hnode
  have hgroup := Item.parent_cases hun hnode
  rw [hparent] at hgroup
  refine isBroken_of_filled hd ho h hwhole ?_ hbroken
  refine RuleCondition.holds_eq_of_filled hd ho h hfield (hgroup.imp_right And.left) ?_
  intro hne hfound
  obtain ⟨-, g, inner, hin⟩ := hgroup.resolve_left hne
  obtain ⟨name, more, hway⟩ := List.exists_cons_of_ne_nil (Path.segments_ne_nil hfield)
  rw [hway] at hfound ⊢
  obtain ⟨item, hitem, rfl⟩ := htop name more hfound
  exact Item.descend?_around_of_top hun hknown hin hitem

/-! ## What is let through -/

section

variable {items : List Item} {v : Validator} {d o : Object}

/-- What is let through fills the data it was made of. -/
theorem Item.filled_output (hun : Unambiguous items) (hknown : knows items d = true) :
    Filled d (restrict (complete d items) items) :=
  (filled_complete d items).trans (filled_restrict hun (knows_complete hun hknown))

/-- What is let through begins with identifiers of items. -/
theorem Item.exists_item_of_descend?_restrict {name : String} {more : List String}
    (h : Path.descend? (.object (restrict d items)) (name :: more) ≠ none) :
    ∃ item ∈ items, item.id = name := by
  rw [Path.descend?_cons] at h
  cases hget : Entries.get? (restrict d items) name with
  | none =>
    rw [hget] at h
    exact absurd rfl h
  | some child => exact exists_item_of_get?_restrict hget

theorem Validator.eq_restrict_of_valid (hbuild : build items = .ok v) (h : v.validate d = .valid o) :
    o = Item.restrict (Item.complete d items) items := by
  have hnone : (v.validate d).errors = [] := by rw [h]; rfl
  rw [validate_eq_restrict hbuild hnone] at h
  cases h
  rfl

/-- **What the validator lets through it accepts and lets through again.** -/
theorem Validator.validate_again (hun : Item.Unambiguous items) (hplain : Item.Plain items)
    (hbuild : build items = .ok v) (hknown : Item.knows items d = true)
    (h : v.validate d = .valid o) : v.validate o = .valid o := by
  obtain ⟨-, hfit⟩ := fitAll_of_build hbuild
  have ho := eq_restrict_of_valid hbuild h
  obtain ⟨hclean, hkept, -⟩ := validate_eq_valid_iff.mp h
  rw [firstPass_eq hbuild] at hclean
  have hagain : (Check.runAll o v.checks).complaints = [] :=
    Check.complaints_of_shows hfit hun (ho ▸ Item.shows_restrict hun _) hclean
  have hfirst : v.firstPass o = Check.runAll o v.checks := by
    rw [firstPass_eq hbuild, complete_eq_self hfit hagain]
  have hsecond : ∀ r ∈ v.conditional, r.isBroken (.object o) = false := by
    intro r hr
    have hbefore := hkept r hr
    rw [← Bool.not_eq_true] at hbefore ⊢
    exact mt (ConditionalRule.isBroken_before hun hplain hbuild hr hknown
      (ho ▸ Item.hasPlainNames_restrict hun _) (ho ▸ Item.filled_output hun hknown)
      fun name more hfound => Item.exists_item_of_descend?_restrict (ho ▸ hfound)) hbefore
  rw [validate_eq_valid_iff, hfirst]
  refine ⟨hagain, hsecond, ?_⟩
  rw [Check.output_eq_restrict hfit hagain, ho, Item.restrict_restrict hun]

/-- **What is let through of data without values at hidden items has none either**: pruning it ends
    well and leaves it as it is. -/
theorem Item.prune_output (hun : Unambiguous items) (hi : Regular items)
    (hdata : (Value.object d).isDocument = true) (hknown : knows items d = true)
    (hbare : Tracker.Bare items (visibleTable items (.object d)) d) :
    (∃ w, pruneRun.run (pruneWorld items (restrict (complete d items) items)) = .ok () w ∧
      w.store.data = restrict (complete d items) items) ∧
    prune items (restrict (complete d items) items) = restrict (complete d items) items := by
  have hnames := hasPlainNames_restrict hun (complete d items)
  have hdocument := isDocument_restrict hun (isDocument_complete hdata items)
  have hhidden : Tracker.HiddenAbsent items
      (visibleTable items (.object (restrict (complete d items) items)))
      (restrict (complete d items) items) := by
    intro node hnode hgone
    -- the same items are hidden
    rw [visibleTable_eq_of_filled hi (hasPlainNames_of_knows hun hknown) hnames
      (filled_output hun hknown)] at hgone
    rw [Path.read_of_plain hnames (hi.named.isWhole hnode),
      descend?_restrict_of_none (bare_complete hi.named hbare node hnode hgone)]
    rfl
  have hsound : Path.Sound (restrict (complete d items) items) :=
    ⟨hnames, Value.hasDistinctNames_of_isDocument _ hdocument⟩
  have hprune := prune_eq_self hi hsound hhidden
  obtain ⟨⟨w, hrun, hsame⟩, -⟩ := prune_isFixpoint hi hsound
  exact ⟨⟨w, hrun, hsame.trans hprune⟩, hprune⟩

end

namespace Form

variable {document : Value} {schema : Schema} {form : Form} {data output : Object}

/-- **A submission can be submitted again.** If a form made of an accepted schema judges a document of
    its own names to be in order, then pruning what is submitted ends well and leaves it as it is, and
    the validator accepts it and lets it through as it is. -/
theorem judge_again (hschema : Schema.ofValue document = .ok schema)
    (hplain : Item.Plain schema.items) (hform : Form.ofSchema schema = .ok form)
    (hdata : (Value.object data).isDocument = true)
    (hknown : Item.knows schema.items data = true) (hjudge : form.judge data = .valid output) :
    (∃ w, Item.pruneRun.run (Item.pruneWorld schema.items output) = .ok () w ∧
      w.store.data = output) ∧
    Item.prune schema.items output = output ∧ form.validator.validate output = .valid output := by
  have hun := Schema.unambiguous_of_ofValue hschema hplain.dotFree
  have hi := hplain.regular hun
  obtain ⟨hformSchema, hbuild⟩ := build_of_ofSchema hform
  obtain ⟨-, hpruned, hbare⟩ := Item.bare_prune hi hdata
  have hprunedKnown := Item.knows_prune hi hun hdata hknown
  rw [Form.judge, hformSchema] at hjudge
  have hpruning := Item.prune_output hun hi hpruned hprunedKnown hbare
  rw [← Validator.eq_restrict_of_valid hbuild hjudge] at hpruning
  exact ⟨hpruning.1, hpruning.2,
    Validator.validate_again hun hplain hbuild hprunedKnown hjudge⟩

/-! ## An order -/

/-- A schema with a kind, a company for businesses, and a group of contacts with a note that must have
    some length if the kind is a business. -/
def orderDocument : Value :=
  .object [("title", .text "Order"), ("fields", .list [
    .object [("id", .text "kind"), ("type", .text "text"), ("label", .text "Kind")],
    .object [("id", .text "company"), ("type", .text "text"), ("label", .text "Company"),
      ("showWhen", .object [("field", .text "kind"), ("equals", .text "business")])],
    .object [("id", .text "contacts"), ("type", .text "group"), ("title", .text "Contacts"),
      ("fields", .list [
        .object [("id", .text "note"), ("type", .text "text"), ("label", .text "Note"),
          ("validations", .list [
            .object [("type", .text "minLength"), ("value", .int 3), ("message", .text "Too short"),
              ("condition", .object [("field", .text "kind"), ("operator", .text "equals"),
                ("value", .text "business")])]])]])]])]

/-- An order of a private person with a company left over. -/
def orderData : Object :=
  [("kind", .text "person"), ("company", .text "Acme")]

/-- The schema of the document. -/
def orderSchema : Schema :=
  (Schema.ofValue orderDocument).toOption.getD default

/-- The form of the schema. -/
def orderForm : Form :=
  (Form.ofSchema orderSchema).toOption.getD default

theorem ofValue_orderDocument : Schema.ofValue orderDocument = .ok orderSchema := by
  have hok : (Schema.ofValue orderDocument).toOption.isSome = true := by decide +kernel
  unfold orderSchema
  cases hschema : Schema.ofValue orderDocument with
  | error e => rw [hschema] at hok; cases hok
  | ok schema => rfl

theorem ofSchema_orderSchema : Form.ofSchema orderSchema = .ok orderForm :=
  Form.ofSchema_of_isSome (by decide +kernel)

/-- The company is taken out and the group of contacts is put in; submitted again nothing changes. -/
theorem judge_again_order :
    ∃ output, orderForm.judge orderData = .valid output ∧ Entries.keys output = ["kind", "contacts"] ∧
      Item.prune orderSchema.items output = output ∧
      orderForm.validator.validate output = .valid output := by
  have hvalid : (orderForm.judge orderData).isValid = true := by decide +kernel
  have hkeys : (orderForm.judge orderData).output?.map Entries.keys = some ["kind", "contacts"] := by
    decide +kernel
  cases hjudge : orderForm.judge orderData with
  | invalid errors =>
    rw [hjudge] at hvalid
    cases hvalid
  | valid output =>
    rw [hjudge] at hkeys
    have hagain := judge_again ofValue_orderDocument (by decide +kernel) ofSchema_orderSchema
      (by decide +kernel) (by decide +kernel) hjudge
    exact ⟨output, rfl, Option.some.inj hkeys, hagain.2⟩

end Form
end DynamicForms
