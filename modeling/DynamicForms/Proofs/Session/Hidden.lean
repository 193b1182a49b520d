import DynamicForms.Proofs.Session.Submit
import DynamicForms.Proofs.Validation.FirstPass
import DynamicForms.Proofs.Visibility.Pruned
import DynamicForms.Schema.Parse

/-!
# `DynamicForms.Proofs.Session.Hidden` — hidden values stay out of a submission

Before data is judged, the values of hidden items are taken out of it; the judge puts missing groups
in and lets through what the items know. If identifiers have no dots, the ways along which values are
taken out and the names under which the judge looks are the same. A hidden item owes that to an item
around it whose condition fails, and such an item is never put in again.

An identifier with a dot is read as one name, at the top of the data, but what is taken out lies
below its segments. So a hidden value may be submitted then.

## Contents
- `Item.exists_gate_of_hidden`: why an item is hidden; `Item.bare_complete`.
- `Form.hidden_stays_out`.
- `Form.not_hidden_stays_out_of_dot`.
-/

namespace DynamicForms

open Value (Object)

namespace Item

variable {items : List Item} {data : Value} {w : Node}

/-- Only fields and groups that can be hidden have conditions that fail. -/
theorem isField_or_isGated_of_isShown {item : Item} (h : item.isShown data = false) :
    item.isField = true ∨ item.isGated = true := by
  cases item with
  | field f => exact Or.inl rfl
  | group g inner =>
    right
    rw [isGated]
    cases hg : g.showWhen with
    | some c => rfl
    | none => simp [isShown, holdsIfAny, showWhen, visibility, hg] at h

/-- **An item is hidden because of an item that governs it**, hidden itself, whose own conditions
    fail. -/
theorem exists_gate_of_hidden (h : WellNamed items) (hw : w ∈ nodes items)
    (hhidden : w.path ∉ visiblePaths items data) :
    ∃ gate ∈ nodes items, gate.Governs w ∧ gate.path ∉ visiblePaths items data ∧
      (gate.item.isField = true ∨ gate.item.isGated = true) := by
  rw [visiblePaths, mem_keys_visibleTable_iff h hw] at hhidden
  simp only [not_forall] at hhidden
  obtain ⟨gate, hgate, hgoverns, hfails⟩ := hhidden
  refine ⟨gate, hgate, hgoverns, fun hvisible => ?_,
    isField_or_isGated_of_isShown (by simpa using hfails)⟩
  rw [visiblePaths, mem_keys_visibleTable_iff h hgate] at hvisible
  exact hfails (hvisible gate hgate (Node.Governs.refl gate))

/-- **Where nothing lies at hidden items, completing puts nothing.** -/
theorem bare_complete (h : WellNamed items) {d : Object}
    (hbare : Tracker.Bare items (visibleTable items data) d) :
    Tracker.Bare items (visibleTable items data) (complete d items) := by
  intro w hw hhidden
  obtain ⟨gate, hgate, hgoverns, hgone, hkind⟩ := exists_gate_of_hidden h hw hhidden
  -- an item whose own conditions fail is never put in
  have hnone : Path.descend? (.object (complete d items)) (Path.segments gate.path) = none := by
    rw [descend?_complete h.atTop _ hgate hkind
      (Path.segments_from_top gate.path)]
    exact hbare gate hgate hgone
  rcases hgoverns with rfl | hin
  · exact hnone
  · obtain ⟨⟨more, hmore⟩, -⟩ := h.prefix_of_inside hgate hin
    rw [← hmore, Path.descend?_append, hnone, Option.bind_none]

end Item

namespace Form

variable {schema : Schema} {form : Form} {data : Object}

/-- **Hidden values stay out of a submission.** Pruning a document ends well; and if what it leaves is
    found in order, then in what is submitted nothing lies where the identifiers of an item lead that
    is hidden by the data pruning has left. -/
theorem hidden_stays_out (hi : Item.Regular schema.items) (hform : Form.ofSchema schema = .ok form)
    (hdata : (Value.object data).isDocument = true) :
    (∃ w, Item.pruneRun.run (Item.pruneWorld schema.items data) = .ok () w ∧
      w.store.data = Item.prune schema.items data) ∧
    ∀ output, form.judge data = .valid output →
      ∀ way item, Item.Stands schema.items way item →
        Item.pathFrom "" way
          ∉ Item.visiblePaths schema.items (.object (Item.prune schema.items data)) →
        Path.descend? (.object output) way = none := by
  obtain ⟨hends, -, hbare⟩ := Item.bare_prune hi hdata
  refine ⟨hends, ?_⟩
  intro output hjudge way item hstands hhidden
  obtain ⟨hschema, hbuild⟩ := build_of_ofSchema hform
  -- without dots the way of identifiers is that of the segments
  obtain ⟨u, hu, -, hpath, hway⟩ := hstands.exists_node hi.named.atTop.toNamedAt
  rw [Path.segments_empty, List.nil_append] at hway
  have hcompleted := Item.bare_complete hi.named hbare u hu (hpath ▸ hhidden)
  rw [hway] at hcompleted
  -- what is let through is what the items know of the completed data
  rw [Form.judge, hschema] at hjudge
  have herrors : (form.validator.validate (Item.prune schema.items data)).errors = [] := by
    rw [hjudge]
    rfl
  rw [Validator.validate_eq_restrict hbuild herrors] at hjudge
  cases hjudge
  exact Item.descend?_restrict_of_none hcompleted

/-- The company of a private person is not submitted. -/
theorem hidden_stays_out_company :
    ∃ output, Session.companyForm.judge [("kind", .text "person"), ("company", .text "Acme")]
        = .valid output ∧
      Path.descend? (.object output) ["company"] = none := by
  have hvalid : (Session.companyForm.judge
      [("kind", .text "person"), ("company", .text "Acme")]).isValid = true := by decide +kernel
  cases hjudge : Session.companyForm.judge [("kind", .text "person"), ("company", .text "Acme")] with
  | invalid errors =>
    rw [hjudge] at hvalid
    cases hvalid
  | valid output =>
    have hi : Item.Regular Session.companySchema.items := by decide +kernel
    have hstands : Item.Stands Session.companySchema.items ["company"]
        (.field Session.companyField) :=
      .here (List.mem_cons_of_mem _ List.mem_cons_self)
    exact ⟨output, rfl, (hidden_stays_out hi Session.ofSchema_companySchema (by decide +kernel)).2
      output hjudge ["company"] _ hstands (by decide +kernel)⟩

/-! ## An identifier with a dot -/

/-- A schema with a kind and, for businesses, a tax number; its identifier has a dot. -/
def taxDocument : Value :=
  .object [("title", .text "Tax"), ("fields", .list [
    .object [("id", .text "kind"), ("type", .text "text"), ("label", .text "Kind")],
    .object [("id", .text "tax.id"), ("type", .text "text"), ("label", .text "Tax number"),
      ("showWhen", .object [("field", .text "kind"), ("equals", .text "business")])]])]

/-- The form of the schema, if that is accepted, and what comes of a tax number given by a private
    person. -/
def taxLeaks : Bool :=
  match Schema.ofValue taxDocument with
  | .error _ => false
  | .ok schema =>
    match Form.ofSchema schema with
    | .error _ => false
    | .ok form =>
      match form.judge [("kind", .text "person"), ("tax.id", .text "secret")] with
      | .invalid _ => false
      | .valid output =>
        (Path.descend? (.object output) ["tax.id"]).isSome
          && !(Item.visiblePaths schema.items (.object (Item.prune schema.items
            [("kind", .text "person"), ("tax.id", .text "secret")]))).contains "tax.id"
          && schema.items.any fun item => item.id == "tax.id"

/-- **A hidden value may be submitted** if an identifier has a dot. It is not so that what is submitted
    never holds anything where a hidden item is, for all schemas that are accepted. -/
theorem not_hidden_stays_out_of_dot :
    ¬ ∀ (document : Value) (schema : Schema) (form : Form) (data output : Object)
        (way : List String) (item : Item),
      Schema.ofValue document = .ok schema → Form.ofSchema schema = .ok form →
      (Value.object data).isDocument = true → form.judge data = .valid output →
      Item.Stands schema.items way item →
      Item.pathFrom "" way
        ∉ Item.visiblePaths schema.items (.object (Item.prune schema.items data)) →
      Path.descend? (.object output) way = none := by
  intro h
  have hleaks : taxLeaks = true := by decide +kernel
  unfold taxLeaks at hleaks
  split at hleaks
  · cases hleaks
  next schema hschema =>
  split at hleaks
  · cases hleaks
  next form hform =>
  split at hleaks
  · cases hleaks
  next output hjudge =>
  simp only [Bool.and_eq_true, Bool.not_eq_true', List.any_eq_true, beq_iff_eq] at hleaks
  obtain ⟨⟨hthere, hhidden⟩, item, hitem, hid⟩ := hleaks
  have hstands : Item.Stands schema.items ["tax.id"] item := hid ▸ .here hitem
  have hgone : "tax.id" ∉ Item.visiblePaths schema.items (.object (Item.prune schema.items
      [("kind", .text "person"), ("tax.id", .text "secret")])) := by
    simpa using hhidden
  have hnone := h taxDocument schema form _ output ["tax.id"] item hschema hform
    (by decide +kernel) hjudge hstands hgone
  rw [hnone] at hthere
  cases hthere

end Form
end DynamicForms
