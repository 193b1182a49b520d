import DynamicForms.Proofs.Session.Following
import DynamicForms.Proofs.Session.Submit
import DynamicForms.Proofs.Visibility.Veiled

/-!
# `DynamicForms.Proofs.Session.Shown` — what a form shows and what it submits

The tracker of a session without lookups does what it would do if it were alone with the same data, and on
an acyclic form it shows what the data says.

What is submitted is pruned first. Pruning takes hidden values away, and if a condition reads one of them,
something else may be visible afterwards. That is so only if a hidden field has been set that a condition
reads: nothing stops an edit of a hidden field. If no such edit has been made, what the form shows is what
it submits.

## Contents
- `Session.Showing`, `yields_mount_showing`, `Showing.edit`.
- `Session.SparesConditions`, `shown_as_submitted`; `not_shown_as_submitted`.
-/

namespace DynamicForms.Session

open Path (Sound)
open Tracker (Poised)

/-! ## From step to step -/

/-- A session of a form without lookups that shows what the data says; the data is veiled if the steps so
    far have `kept` it so. -/
def Showing (form : Form) (kept : Prop) (w : World Owner Session) : Prop :=
  ∃ subs quiet t, IsQuiet quiet ∧ Beside form subs quiet w t ∧ Poised form.schema.items kept t

variable {form : Form} {kept : Prop} {w : World Owner Session}

theorem Showing.sound (h : Showing form kept w) : Sound w.store.data := by
  obtain ⟨subs, quiet, t, -, hbeside, hpoised⟩ := h
  rw [hbeside.data_eq]
  exact hpoised.steady.sound

theorem Showing.form_eq (h : Showing form kept w) : w.parts.form = form := by
  obtain ⟨subs, quiet, t, -, hbeside, -⟩ := h
  exact hbeside.form_eq

/-- What is visible is what the data says. -/
theorem Showing.visible_eq (h : Showing form kept w) :
    w.parts.tracker.visible = Item.visibleTable form.schema.items (.object w.store.data) := by
  obtain ⟨subs, quiet, t, -, hbeside, hpoised⟩ := h
  rw [hbeside.tracker_eq, hbeside.data_eq]
  exact hpoised.steady.visible_eq

theorem Showing.veiled (h : Showing form kept w) (hkept : kept) : Tracker.Veiled form.schema.items
    (Item.visibleTable form.schema.items (.object w.store.data)) w.store.data := by
  rw [← h.visible_eq]
  obtain ⟨subs, quiet, t, -, hbeside, hpoised⟩ := h
  rw [hbeside.tracker_eq, hbeside.data_eq]
  exact hpoised.veiled hkept

theorem Showing.mono {kept' : Prop} (h : Showing form kept w) (himp : kept' → kept) :
    Showing form kept' w := by
  obtain ⟨subs, quiet, t, hquiet, hbeside, hpoised⟩ := h
  exact ⟨subs, quiet, t, hquiet, hbeside, hpoised.steady, fun hkept => hpoised.veiled (himp hkept)⟩

/-- A draft has no names with dots at the top. -/
def HasPlainDraft (s : Session) : Prop :=
  ∀ draft, s.draft? = some draft → Path.HasPlainNames draft

theorem sound_restored {s : Session} (h : s.HasPlainDraft) : Sound (restored s []) := by
  rcases restored_cases s [] with hsame | hdraft
  · rw [hsame]
    decide
  · obtain ⟨a, -, ha⟩ := Option.bind_eq_some_iff.mp hdraft
    exact ⟨h _ hdraft, Value.hasDistinctNames_of_isDocument _ (Autosaver.isDocument_of_draft? ha)⟩

/-- **Mounting a form without lookups** ends well and shows what the data says. -/
theorem yields_mount_showing (hi : Item.Regular form.schema.items)
    (hacyclic : Item.Acyclic form.schema.items) (hlookups : Item.lookups form.schema.items = [])
    {channel : Channel} {wire : Wire} {drafts : Option (Drafts × Int)}
    (hdraft : (ofForm form channel wire drafts).HasPlainDraft) :
    mount.Yields (world (ofForm form channel wire drafts)) (Showing form True) := by
  refine yields_mount_follows hlookups fun t hlone hidle hsame hvisible => ?_
  exact Tracker.yields_refresh_poised hi hacyclic (hasRoom_write Tracker.react) hlone hidle
    (hsame ▸ sound_restored hdraft) (hvisible ▸ Tracker.listed_byPath hi.named)
    fun _ => hvisible ▸ Tracker.veiled_byPath hi.named _

/-- A field is set. -/
def edit (e : String × Value) : Visit Unit := do
  let _ ← put (.set e.1 e.2)

/-- A field of a form, and a well-formed value for it. -/
def IsFieldEdit (items : List Item) (e : String × Value) : Prop :=
  (∃ node ∈ Item.nodes items, node.item.isField = true ∧ node.path = e.1) ∧
    e.2.hasDistinctNames = true

instance (items : List Item) (e : String × Value) : Decidable (IsFieldEdit items e) :=
  inferInstanceAs (Decidable (_ ∧ _))

/-- If the field is hidden, no condition reads what is set: none names the field or something in it. -/
def SparesCondition (items : List Item) (w : World Owner Session) (e : String × Value) : Prop :=
  w.parts.isShown e.1 = false → ∀ c ∈ Item.watchedPaths items,
    ¬ Path.segments e.1 <+: Path.segments c

instance (items : List Item) (w : World Owner Session) (e : String × Value) :
    Decidable (SparesCondition items w e) :=
  inferInstanceAs (Decidable (_ → _))

/-- **An edit** ends well and shows what the data says. -/
theorem Showing.edit (hi : Item.Regular form.schema.items) (hacyclic : Item.Acyclic form.schema.items)
    (hw : Showing form kept w) {e : String × Value} (he : IsFieldEdit form.schema.items e) :
    (edit e).Yields w (Showing form (kept ∧ SparesCondition form.schema.items w e)) := by
  obtain ⟨⟨u, hu, hfield, hpath⟩, hv⟩ := he
  obtain ⟨subs, quiet, t, hquiet, hbeside, hpoised⟩ := hw
  have halone := hpoised.set hi hacyclic hu hfield hv
  rw [hpath] at halone
  have hput : (put (.set e.1 e.2)).Yields w
      (Showing form (kept ∧ SparesCondition form.schema.items w e)) := by
    refine ((twins_put hquiet).put _ |>.yields hbeside halone).mono fun w' hw' => ?_
    obtain ⟨t', hbeside', hpoised'⟩ := hw'
    refine ⟨subs, quiet, t', hquiet, hbeside', hpoised'.steady, fun ⟨hkept, hspares⟩ => ?_⟩
    refine hpoised'.veiled ⟨hkept, fun hhidden => hspares ?_⟩
    rw [← hbeside.tracker_eq] at hhidden
    exact Entries.contains_eq_false_iff.mpr hhidden
  exact hput.bind fun _ w' hw' => ⟨(), w', rfl, hw'⟩

/-! ## Whole runs -/

/-- No edit of a run sets a hidden field that a condition reads. -/
def SparesConditions (items : List Item) : World Owner Session → List (String × Value) → Prop
  | _, [] => True
  | w, e :: rest => SparesCondition items w e ∧ SparesConditions items ((edit e).outcome w) rest

instance decidableSparesConditions (items : List Item) : (w : World Owner Session) →
    (edits : List (String × Value)) → Decidable (SparesConditions items w edits)
  | _, [] => .isTrue trivial
  | w, e :: rest =>
    have := decidableSparesConditions items ((edit e).outcome w) rest
    inferInstanceAs (Decidable (SparesCondition items w e ∧ _))

/-- Edits end well and leave what is shown what the data says. -/
theorem Showing.edits (hi : Item.Regular form.schema.items) (hacyclic : Item.Acyclic form.schema.items)
    {edits : List (String × Value)} (hedits : ∀ e ∈ edits, IsFieldEdit form.schema.items e)
    (hw : Showing form kept w) :
    (edits.forM Session.edit).Yields w
      (Showing form (kept ∧ SparesConditions form.schema.items w edits)) := by
  induction edits generalizing w kept with
  | nil => exact ⟨(), w, rfl, hw.mono fun h => h.1⟩
  | cons e rest ih =>
    obtain ⟨⟨⟩, w', hrun, hw'⟩ := hw.edit hi hacyclic (hedits e List.mem_cons_self)
    have hrest := ih (fun e he => hedits e (List.mem_cons_of_mem _ he)) hw'
    show (Session.edit e >>= fun _ => rest.forM Session.edit).Yields w _
    rw [Run.Yields, Run.run_bind_of_ok hrun]
    refine hrest.mono fun last hlast => hlast.mono ?_
    rintro ⟨hkept, hspares, hspared⟩
    rw [Run.outcome_of_ok hrun] at hspared
    exact ⟨⟨hkept, hspares⟩, hspared⟩

/-- **What a form shows is what it submits**, on a form without lookups whose conditions are acyclic, as
    long as no edit sets a hidden field that a condition reads. Mounting and every list of edits of fields,
    shown or hidden, end well, and the session shows what the data says; if no edit has set a hidden field
    that a condition reads, it shows what the pruned data says, which is what submitting judges. -/
theorem shown_as_submitted (hi : Item.Regular form.schema.items)
    (hacyclic : Item.Acyclic form.schema.items) (hlookups : Item.lookups form.schema.items = [])
    {channel : Channel} {wire : Wire} {drafts : Option (Drafts × Int)}
    (hdraft : (ofForm form channel wire drafts).HasPlainDraft)
    {edits : List (String × Value)} (hedits : ∀ e ∈ edits, IsFieldEdit form.schema.items e) :
    ∃ mounted w, mount.run (world (ofForm form channel wire drafts)) = .ok () mounted ∧
      (edits.forM edit).run mounted = .ok () w ∧
      w.parts.tracker.visiblePaths = Item.visiblePaths form.schema.items (.object w.store.data) ∧
      (SparesConditions form.schema.items mounted edits →
        w.parts.tracker.visiblePaths = Item.visiblePaths form.schema.items
          (.object (Item.prune form.schema.items w.store.data))) ∧
      ∃ w', submit.run w = .ok (Submission.ofVerdict (form.validator.validate
        (Item.prune form.schema.items w.store.data))) w' := by
  obtain ⟨⟨⟩, mounted, hmount, hmounted⟩ := yields_mount_showing hi hacyclic hlookups hdraft
  obtain ⟨⟨⟩, w, hrun, hw⟩ := hmounted.edits hi hacyclic hedits
  have hvisible : w.parts.tracker.visiblePaths
      = Item.visiblePaths form.schema.items (.object w.store.data) := by
    rw [Tracker.visiblePaths, hw.visible_eq, Item.visiblePaths]
  refine ⟨mounted, w, hmount, hrun, hvisible, fun hspares => ?_, ?_⟩
  · have hpruned := Item.visibleTable_prune hi hw.sound (hw.veiled ⟨trivial, hspares⟩)
    rw [hvisible, Item.visiblePaths, Item.visiblePaths, hpruned]
  · obtain ⟨w', hsubmit⟩ : ∃ w', submit.run w
        = .ok (Submission.ofVerdict (w.parts.form.judge w.store.data)) w' := ⟨_, rfl⟩
    rw [hw.form_eq] at hsubmit
    exact ⟨w', hsubmit⟩

/-! ## A form with a condition on a field that can be hidden -/

/-- A kind, a company if the kind is a business, and a size if the company is Acme. -/
def sizeSchema : Schema :=
  ⟨"Size", none,
    [.field { (default : Field) with id := "kind" },
     .field { (default : Field) with id := "company", showWhen := some ⟨"kind", .text "business"⟩ },
     .field { (default : Field) with id := "size", showWhen := some ⟨"company", .text "Acme"⟩ }]⟩

/-- The form of the schema. -/
def sizeForm : Form :=
  (Form.ofSchema sizeSchema).toOption.getD default

theorem schema_sizeForm : sizeForm.schema.items = sizeSchema.items :=
  congrArg Schema.items (Form.build_of_ofSchema (Form.ofSchema_of_isSome (by decide +kernel))).1

theorem regular_sizeForm : Item.Regular sizeForm.schema.items := by
  rw [schema_sizeForm]
  decide +kernel

theorem acyclic_sizeForm : Item.Acyclic sizeForm.schema.items := by
  rw [schema_sizeForm]
  exact Item.acyclic_of_numbered (fun node => ["kind", "company", "size"].idxOf node.path)
    (by decide +kernel)

theorem lookups_sizeForm : Item.lookups sizeForm.schema.items = [] := by
  rw [schema_sizeForm]
  rfl

theorem shown_as_submitted_size :
    ∃ mounted w, mount.run (world (ofForm sizeForm .manual ⟨[], []⟩ none)) = .ok () mounted ∧
      ([("kind", .text "business"), ("company", .text "Acme"), ("size", .text "L")].forM edit).run
        mounted = .ok () w ∧
      w.parts.tracker.visiblePaths = Item.visiblePaths sizeForm.schema.items
        (.object (Item.prune sizeForm.schema.items w.store.data)) := by
  have hedits : ∀ e ∈ [("kind", Value.text "business"), ("company", .text "Acme"), ("size", .text "L")],
      IsFieldEdit sizeForm.schema.items e := by
    rw [schema_sizeForm]
    decide +kernel
  have hdraft : (ofForm sizeForm .manual ⟨[], []⟩ none).HasPlainDraft := nofun
  obtain ⟨mounted, w, hmount, hrun, -, hshown, -⟩ :=
    shown_as_submitted regular_sizeForm acyclic_sizeForm lookups_sizeForm hdraft hedits
  have hmounted : mounted = mount.outcome (world (ofForm sizeForm .manual ⟨[], []⟩ none)) :=
    (Run.outcome_of_ok hmount).symm
  have hspares : SparesConditions sizeForm.schema.items
      (mount.outcome (world (ofForm sizeForm .manual ⟨[], []⟩ none)))
      [("kind", .text "business"), ("company", .text "Acme"), ("size", .text "L")] := by
    rw [schema_sizeForm]
    decide +kernel
  exact ⟨mounted, w, hmount, hrun, hshown (hmounted ▸ hspares)⟩

/-- What is visible, and what is visible after pruning, once the hidden company has been set. -/
def sizeOutcome : List String × List String :=
  let w := (edit ("company", .text "Acme")).outcome
    (mount.outcome (world (ofForm sizeForm .manual ⟨[], []⟩ none)))
  (w.parts.tracker.visiblePaths, Item.visiblePaths sizeForm.schema.items
    (.object (Item.prune sizeForm.schema.items w.store.data)))

/-- **A form may show what it does not submit.** It is not so that on every form without lookups whose
    conditions are acyclic, after every list of edits of fields, what is visible is what the pruned data
    says: a hidden field can be set, and a condition on it then holds until it is pruned. -/
theorem not_shown_as_submitted :
    ¬ ∀ (form : Form) (edits : List (String × Value)) (mounted w : World Owner Session),
      Item.Regular form.schema.items → Item.Acyclic form.schema.items →
      Item.lookups form.schema.items = [] → (∀ e ∈ edits, IsFieldEdit form.schema.items e) →
      mount.run (world (ofForm form .manual ⟨[], []⟩ none)) = .ok () mounted →
      (edits.forM edit).run mounted = .ok () w →
      w.parts.tracker.visiblePaths = Item.visiblePaths form.schema.items
        (.object (Item.prune form.schema.items w.store.data)) := by
  intro h
  have hedits : ∀ e ∈ [("company", Value.text "Acme")], IsFieldEdit sizeForm.schema.items e := by
    rw [schema_sizeForm]
    decide +kernel
  have hdraft : (ofForm sizeForm .manual ⟨[], []⟩ none).HasPlainDraft := nofun
  obtain ⟨⟨⟩, mounted, hmount, hmounted⟩ :=
    yields_mount_showing regular_sizeForm acyclic_sizeForm lookups_sizeForm hdraft
  obtain ⟨⟨⟩, w, hrun, -⟩ := hmounted.edits regular_sizeForm acyclic_sizeForm hedits
  have hsame := h sizeForm _ mounted w regular_sizeForm acyclic_sizeForm lookups_sizeForm hedits
    hmount hrun
  have hone : (edit ("company", .text "Acme")).run mounted = .ok () w := by
    have hloop : [("company", Value.text "Acme")].forM edit = edit ("company", .text "Acme") :=
      bind_pure_unit
    rw [← hloop, hrun]
  have houtcome : sizeOutcome = (["kind", "size"], ["kind"]) := by decide +kernel
  rw [sizeOutcome, Run.outcome_of_ok hmount, Run.outcome_of_ok hone, hsame] at houtcome
  injection houtcome with hbefore hafter
  rw [hafter] at hbefore
  cases hbefore

end DynamicForms.Session
