import DynamicForms.Proofs.Path.Shuffle
import DynamicForms.Proofs.Session.Outcome
import DynamicForms.Proofs.Validation.SecondPass

/-!
# `DynamicForms.Proofs.Session.ErrorTree` — messages as a tree

The messages of a submission are written one after the other into a tree along the groups of the form. A
later message can only replace an earlier one where the path of one begins that of the other: where a group
is complained about and something in it as well. The first pass never does both, for it looks into objects
only. The second pass looks at fields, also where the group around them is no object. So the message about a
group is *buried* by one about a field in it, and all others are read back.

## Contents
- **Writes into a tree.** `isObject_place_of_below`, `isObject_placeAll`; `descend?_placeAll_of_alone`,
  `isObject_placeAll_of_below`.
- **Messages in order.** `Entries.exists_foldl_putNew`, `Validator.pairwise_errors`.
- **Reading back.** `Submission.writes`, `errorTree_eq`, `read_errorTree_iff`.
- **Buried messages.** `Item.Buries`, `Validator.buries_of_below`.
- **Runs.** `Session.Reported`, `keeps_reported`, `exists_refused`, `errorTree_reads`.
- **A group without an object.** `branchForm`, `not_errorTree_reads`.
-/

namespace DynamicForms

open Value (Object)
open Path (IsWhole)
open Run (keeps_pure keeps_bind)

/-! ## Writes into a tree -/

namespace Path

variable {data : Object} {log : List (String × Value)} {way : List String}

/-- What lies below a path is not at it. -/
theorem ne_of_below {path above : String} (h : below path above = true) : path ≠ above := by
  rintro rfl
  have hlength := ((below_iff path path).mp h).length_le
  simp at hlength

/-- A write strictly below a place makes an object there. -/
theorem isObject_place_of_below {below : List String} (hbelow : way <+: below) (habove : ¬ below <+: way)
    (data : Object) (v : Value) :
    ∃ fields, descend? (.object (place data below v)) way = some (.object fields) := by
  obtain ⟨more, rfl⟩ := hbelow
  have hmore : more ≠ [] := by
    rintro rfl
    exact habove (by rw [List.append_nil])
  exact descend?_place_of_above hmore data v

/-- After writes of which none lies at or above a place, an object lies there if one did before, or if one
    of the writes lies below. -/
theorem isObject_placeAll (hlater : ∀ entry ∈ log, ¬ segments entry.1 <+: way)
    (h : (∃ fields, descend? (.object data) way = some (.object fields)) ∨
      ∃ entry ∈ log, way <+: segments entry.1) :
    ∃ fields, descend? (.object (placeAll data log)) way = some (.object fields) := by
  induction log generalizing data with
  | nil =>
    refine h.resolve_right ?_
    rintro ⟨entry, hentry, -⟩
    cases hentry
  | cons entry rest ih =>
    have habove := hlater entry List.mem_cons_self
    refine ih (fun other hother => hlater other (List.mem_cons_of_mem _ hother)) ?_
    by_cases hbelow : way <+: segments entry.1
    · exact Or.inl (isObject_place_of_below hbelow habove data entry.2)
    · rcases h with hobject | ⟨other, hother, hunder⟩
      · left
        rwa [descend?_place_of_apart ⟨habove, hbelow⟩]
      · rcases List.mem_cons.mp hother with rfl | hother
        · exact absurd hunder hbelow
        · exact Or.inr ⟨other, hother, hunder⟩

theorem hasPlainNames_placeAll (h : HasPlainNames data) : HasPlainNames (placeAll data log) := by
  induction log generalizing data with
  | nil => exact h
  | cons entry rest ih => exact ih (hasPlainNames_place h entry.1 entry.2)

section

variable {path : String} {v : Value}
  (horder : (log.map (·.1)).Pairwise fun path later => ¬ segments later <+: segments path)
  (hmem : (path, v) ∈ log)

include horder hmem

/-- If no write lies at or above the place of an earlier one, one that has none below it lasts. -/
theorem descend?_placeAll_of_alone (hpath : segments path ≠ [])
    (halone : ∀ entry ∈ log, segments path <+: segments entry.1 → entry.1 = path) :
    descend? (.object (placeAll data log)) (segments path) = some v := by
  induction log generalizing data with
  | nil => cases hmem
  | cons entry rest ih =>
    rw [List.map_cons, List.pairwise_cons] at horder
    obtain ⟨hlater, horder⟩ := horder
    rcases List.mem_cons.mp hmem with rfl | hmem
    · have hapart : ∀ other ∈ rest, Apart (segments other.1) (segments path) := by
        intro other hother
        have habove := hlater other.1 (List.mem_map_of_mem hother)
        refine ⟨habove, fun hbelow => habove ?_⟩
        rw [halone other (List.mem_cons_of_mem _ hother) hbelow]
      exact (sameAt_placeAll_of_apart (place data (segments path) v) hapart).lies.trans
        (descend?_place data (segments path) hpath v)
    · exact ih horder hmem fun other hother => halone other (List.mem_cons_of_mem _ hother)

/-- One that has another below it is replaced by an object. -/
theorem isObject_placeAll_of_below (data : Object)
    (hbelow : ∃ entry ∈ log, segments path <+: segments entry.1 ∧ entry.1 ≠ path) :
    ∃ fields, descend? (.object (placeAll data log)) (segments path) = some (.object fields) := by
  induction log generalizing data with
  | nil => cases hmem
  | cons entry rest ih =>
    rw [List.map_cons, List.pairwise_cons] at horder
    obtain ⟨hlater, horder⟩ := horder
    obtain ⟨other, hother, hpre, hne⟩ := hbelow
    rcases List.mem_cons.mp hmem with rfl | hbehind
    · have hrest : other ∈ rest := (List.mem_cons.mp hother).resolve_left fun heq => hne (by rw [heq])
      show ∃ fields, descend? (.object (placeAll (place data (segments path) v) rest)) _ = _
      exact isObject_placeAll (fun later hmem => hlater later.1 (List.mem_map_of_mem hmem))
        (Or.inr ⟨other, hrest, hpre⟩)
    · rcases List.mem_cons.mp hother with rfl | hother
      · exact absurd hpre (hlater path (List.mem_map_of_mem hbehind))
      · exact ih horder hbehind _ ⟨other, hother, hpre, hne⟩

end

end Path

/-! ## Messages in order -/

/-- New names are put behind a table, each once. -/
theorem Entries.exists_foldl_putNew {α : Type} (entries : List (String × α)) (table : Entries α) :
    ∃ more : Entries α, entries.foldl (fun t entry => t.putNew entry.1 entry.2) table = table ++ more ∧
      more.keys.Nodup ∧ ∀ name ∈ more.keys, name ∉ table.keys ∧ name ∈ entries.map (·.1) := by
  induction entries generalizing table with
  | nil => exact ⟨[], (List.append_nil table).symm, List.nodup_nil, nofun⟩
  | cons entry rest ih =>
    obtain ⟨name, v⟩ := entry
    rw [List.foldl_cons, List.map_cons]
    by_cases hthere : name ∈ table.keys
    · obtain ⟨more, hmore, hnodup, hfresh⟩ := ih table
      refine ⟨more, ?_, hnodup, fun key hkey => ?_⟩
      · rw [putNew, if_pos (contains_iff.mpr hthere), hmore]
      · exact ⟨(hfresh key hkey).1, List.mem_cons_of_mem _ (hfresh key hkey).2⟩
    · obtain ⟨more, hmore, hnodup, hfresh⟩ := ih (table ++ [(name, v)])
      have hkeys : Entries.keys (table ++ [(name, v)]) = table.keys ++ [name] := by
        rw [keys, List.map_append]
        rfl
      refine ⟨(name, v) :: more, ?_, List.nodup_cons.mpr ⟨fun hmem => ?_, hnodup⟩, fun key hkey => ?_⟩
      · rw [putNew, if_neg (by simpa [contains_iff] using hthere), put_of_not_mem hthere, hmore,
          List.append_assoc]
        rfl
      · exact (hfresh name hmem).1 (hkeys ▸ List.mem_append_right _ List.mem_cons_self)
      · rcases List.mem_cons.mp hkey with rfl | hkey
        · exact ⟨hthere, List.mem_cons_self⟩
        · obtain ⟨hout, hin⟩ := hfresh key hkey
          rw [hkeys] at hout
          exact ⟨fun h => hout (List.mem_append_left _ h), List.mem_cons_of_mem _ hin⟩

namespace Validator

variable {v : Validator} {items : List Item} {data : Object} {path other : String}

/-- The first pass complains about nothing below another complaint. -/
theorem eq_of_prefix_of_mem_places (h : Item.WellNamed items) (hbuild : build items = .ok v)
    (hpath : path ∈ (v.firstPass data).places) (hother : other ∈ (v.firstPass data).places)
    (hpre : Path.segments path <+: Path.segments other) : other = path := by
  obtain ⟨node, hnode, rfl⟩ := exists_node_of_mem_places hbuild hpath
  obtain ⟨u, hu, rfl⟩ := exists_node_of_mem_places hbuild hother
  obtain ⟨hopen, hfaulty⟩ := (mem_places_firstPass_iff h hbuild data hnode).mp hpath
  obtain ⟨hopenU, -⟩ := (mem_places_firstPass_iff h hbuild data hu).mp hother
  by_contra hne
  cases hitem : node.item with
  | field f => exact hne (congrArg Node.path
      (h.eq_of_prefix_of_isField hnode hu (by rw [hitem]; rfl) hpre))
  | group g inner =>
    -- a group that is at fault is no object, so nothing in it is reached
    have hway : Path.segments node.path ≠ Path.segments u.path :=
      fun e => hne (Path.segments_inj (h.isWhole hu) (h.isWhole hnode) e.symm)
    refine Path.not_isOpen_of_prefix hpre hway (fun fields hfields => ?_) hopenU
    rw [hfields, hitem] at hfaulty
    cases hfaulty

/-- Nothing stands below what the second pass speaks of. -/
theorem eq_of_prefix_of_mem_secondPass (h : Item.WellNamed items) (hbuild : build items = .ok v)
    (hpath : path ∈ Entries.keys (v.secondPass data)) {u : Node} (hu : u ∈ Item.nodes items)
    (hpre : Path.segments path <+: Path.segments u.path) : u.path = path := by
  obtain ⟨node, hnode, hfield, rfl⟩ := exists_field_of_secondPass hbuild hpath
  exact congrArg Node.path (h.eq_of_prefix_of_isField hnode hu hfield hpre)

/-- **No message is at or above the place of an earlier one.** -/
theorem pairwise_errors (h : Item.WellNamed items) (hbuild : build items = .ok v) (data : Object) :
    (Entries.keys (v.validate data).errors).Pairwise
      fun path later => ¬ Path.segments later <+: Path.segments path := by
  rw [errors_validate, messages, List.foldl_append]
  obtain ⟨front, hfront, hnodup, hplaces⟩ := Entries.exists_foldl_putNew
    ((v.firstPass data).complaints.map fun c => (c.1, c.2.message)) []
  obtain ⟨more, hmore, hnodup', hlater⟩ := Entries.exists_foldl_putNew (v.secondPass data) front
  rw [List.nil_append] at hfront
  have hplace : ∀ path ∈ front.keys, path ∈ (v.firstPass data).places := by
    intro path hpath
    have hmem := (hplaces path hpath).2
    rwa [List.map_map] at hmem
  rw [hfront, hmore, Entries.keys, List.map_append, List.pairwise_append]
  refine ⟨?_, ?_, fun path hpath later hmem hpre => ?_⟩
  · refine List.Pairwise.imp_of_mem (fun {path later} hpath hmem hne hpre => hne ?_) hnodup
    exact eq_of_prefix_of_mem_places h hbuild (hplace later hmem) (hplace path hpath) hpre
  · refine List.Pairwise.imp_of_mem (fun {path later} hpath hmem hne hpre => hne ?_) hnodup'
    obtain ⟨u, hu, -, rfl⟩ := exists_field_of_secondPass hbuild (hlater path hpath).2
    exact eq_of_prefix_of_mem_secondPass h hbuild (hlater later hmem).2 hu hpre
  · obtain ⟨u, hu, rfl⟩ := exists_node_of_mem_places hbuild (hplace path hpath)
    have heq := eq_of_prefix_of_mem_secondPass h hbuild (hlater later hmem).2 hu hpre
    exact (hlater later hmem).1 (heq ▸ hpath)

end Validator

/-! ## Reading back -/

namespace Submission

variable {s : Submission} {path message : String}

/-- The messages as writes. -/
def writes (s : Submission) : List (String × Value) :=
  s.errors.map fun entry => (entry.1, .text entry.2)

theorem map_fst_writes (s : Submission) : s.writes.map (·.1) = s.errors.keys := by
  rw [writes, List.map_map]
  rfl

/-- At whole paths every message is written. -/
theorem errorTree_eq (hwhole : ∀ path ∈ s.errors.keys, IsWhole path) :
    s.errorTree = Path.placeAll [] s.writes := by
  have hwrite : ∀ entry ∈ s.errors, ∀ tree : Object,
      (Path.write? tree entry.1 (.text entry.2)).getD tree
        = Path.place tree (Path.segments entry.1) (.text entry.2) := by
    intro entry hentry tree
    have hne := Path.segments_ne_nil (hwhole entry.1 (Entries.mem_keys_of_mem hentry))
    rw [Path.write?_of_segments hne, Option.getD_some]
  rw [errorTree, Path.placeAll, writes, List.foldl_map]
  exact List.foldl_ext _ _ _ fun tree entry hentry => hwrite entry hentry tree

/-- **A message is read back from the tree exactly if there is none below it**, as long as none is at or
    above the place of an earlier one. -/
theorem read_errorTree_iff (hwhole : ∀ path ∈ s.errors.keys, IsWhole path)
    (horder : s.errors.keys.Pairwise fun path later => ¬ Path.segments later <+: Path.segments path)
    (hmessage : s.errors.get? path = some message) :
    Path.read (.object s.errorTree) path = .text message ↔
      ∀ other ∈ s.errors.keys, Path.below other path = false := by
  have hentry : (path, message) ∈ s.errors := Entries.mem_of_get? hmessage
  have hpath : IsWhole path := hwhole path (Entries.mem_keys_of_mem hentry)
  have hwritten : (path, Value.text message) ∈ s.writes := List.mem_map_of_mem hentry
  have hreach : ∀ other ∈ s.errors.keys, Path.segments path <+: Path.segments other ↔
      path = other ∨ Path.below other path = true :=
    fun other hother => Path.segments_prefix_iff hpath (hwhole other hother)
  rw [← map_fst_writes] at horder hreach ⊢
  have hempty : Path.HasPlainNames [] := List.forall_mem_nil _
  rw [errorTree_eq hwhole, Path.read_of_plain (Path.hasPlainNames_placeAll hempty) hpath]
  constructor
  · intro hread other hother
    by_contra hbelow
    rw [Bool.not_eq_false] at hbelow
    obtain ⟨write, hwrite, rfl⟩ := List.mem_map.mp hother
    obtain ⟨fields, hfields⟩ := Path.isObject_placeAll_of_below horder hwritten []
      ⟨write, hwrite, (hreach write.1 hother).mpr (Or.inr hbelow), Path.ne_of_below hbelow⟩
    rw [hfields] at hread
    cases hread
  · intro hnone
    rw [Path.descend?_placeAll_of_alone horder hwritten (Path.segments_ne_nil hpath)]
    · rfl
    · intro write hwrite hpre
      have hother := List.mem_map_of_mem (f := (·.1)) hwrite
      refine (((hreach write.1 hother).mp hpre).resolve_right ?_).symm
      rw [hnone write.1 hother]
      exact Bool.false_ne_true

end Submission

/-! ## Buried messages -/

/-- What is said about a group is buried under what is said about a field in it. -/
structure Item.Buries (items : List Item) (data : Object) (group node : Node) : Prop where
  /-- The field is in the group. -/
  inside : node ∈ group.inside
  /-- The data has no object at the group. -/
  closed : ∀ fields, Path.descend? (.object data) (Path.segments group.path) ≠ some (.object fields)
  /-- A rule of the field that has a condition is broken. -/
  broken : ∃ f, node.item = .field f ∧ ∃ rule ∈ f.ruleList, rule.IsBroken items data node f

namespace Validator

variable {v : Validator} {items : List Item} {data : Object} {path other : String}

/-- **A message is below another one only where that one is about a group without an object**, and a field in
    the group breaks a rule that has a condition. -/
theorem buries_of_below (h : Item.WellNamed items) (hbuild : build items = .ok v)
    (hpath : path ∈ Entries.keys (v.validate data).errors)
    (hother : other ∈ Entries.keys (v.validate data).errors) (hbelow : Path.below other path = true) :
    ∃ node ∈ Item.nodes items, node.path = path ∧
      ∃ u ∈ Item.nodes items, u.path = other ∧ Item.Buries items data node u := by
  obtain ⟨node, hnode, rfl⟩ := exists_node_of_error hbuild hpath
  obtain ⟨u, hu, rfl⟩ := exists_node_of_error hbuild hother
  have hpre : Path.segments node.path <+: Path.segments u.path :=
    (Path.segments_prefix_iff (h.isWhole hnode) (h.isWhole hu)).mpr (Or.inr hbelow)
  have hne : u.path ≠ node.path := Path.ne_of_below hbelow
  cases hitem : node.item with
  | field f => exact absurd (congrArg Node.path
      (h.eq_of_prefix_of_isField hnode hu (by rw [hitem]; rfl) hpre)) hne
  | group g inner =>
    have hinside : u ∈ node.inside := (h.governs_of_prefix hnode hu hpre).resolve_left
      fun heq => hne (congrArg Node.path heq)
    have hplace := mem_places_of_mem_errors h hbuild hnode (by rw [hitem]; rfl) hpath
    -- the first pass, which complains about the group, is silent about what is in it
    have hsilent : u.path ∉ (v.firstPass data).places := fun hmem =>
      hne (eq_of_prefix_of_mem_places h hbuild hplace hmem hpre)
    obtain ⟨w, hw, hwu, f, hf, rule, hrule, hbroken⟩ :=
      ((secondPass_reads h hbuild data).mem_iff u.path hsilent).mp hother
    obtain rfl : w = u := h.eq_of_path_eq hw hu hwu
    refine ⟨node, hnode, rfl, w, hw, rfl, hinside, fun fields hfields => ?_, f, hf, rule, hrule, hbroken⟩
    rcases not_object_or_sheltered h hbuild hnode hitem hpath with
      ⟨found, hfound, hobject⟩ | ⟨hnone, -, -⟩
    · rw [hfields] at hfound
      cases hfound
      cases hobject
    · rw [hfields] at hnone
      cases hnone

end Validator

/-! ## Runs -/

namespace Session

variable {form : Form} {w : World Owner Session}

/-- A session of a form whose submission, if one is shown, was made of some data. -/
structure Reported (form : Form) (w : World Owner Session) : Prop where
  /-- The form. -/
  form_eq : w.parts.form = form
  /-- What is shown. -/
  found : w.parts.submission = .blank ∨ ∃ data, w.parts.submission = .ofVerdict (form.judge data)

theorem Reported.of_parts (h : Reported form w) {store : Store Owner} {s : Session}
    (hform : s.form = w.parts.form) (hsubmission : s.submission = w.parts.submission) :
    Reported form ⟨store, s⟩ :=
  ⟨hform.trans h.form_eq, by rw [show (World.mk store s).parts.submission = _ from hsubmission]; exact h.found⟩

theorem reactionsKeep_reported : ReactionsKeep (Reported form) where
  engine _ _ _ h := h.of_parts rfl rfl
  autosaver _ _ _ h := h.of_parts rfl rfl
  refresh := Tracker.keeps_refresh fun _ _ _ h => h.of_parts rfl rfl
  withdraw _ h := ⟨h.form_eq, Or.inl rfl⟩

/-- Writes of any kind. -/
theorem keeps_put_reported (wr : Write) : (put wr).Keeps (Reported form) :=
  keeps_bind (fun _ => id) fun s => keeps_perform (fun _ _ h => h.of_parts rfl rfl)
    (fun _ hput => reactionsKeep_reported.react (fun _ _ => hput _) fun _ => hput _) s.nesting wr

theorem holds_reported : Holds (Reported form) where
  toPartsKeep := reactionsKeep_reported.toPartsKeep
  put _ := keeps_put_reported _
  dispatch _ _ h := h.of_parts rfl rfl
  now _ _ h := h.of_parts rfl rfl

/-- **Every step leaves a submission that was made of some data, or none.** -/
theorem keeps_reported (e : Event) : e.run.Keeps (Reported form) := by
  rcases e.eq_or_isInner with rfl | rfl | rfl | hinner
  · exact keeps_mount_of (fun _ _ h => h.of_parts) (fun _ _ h => h.of_parts rfl rfl) keeps_put_reported
  · exact keeps_close_of (fun _ _ h => h.of_parts) fun _ _ h => h.of_parts rfl rfl
  · intro w h
    rw [outcome_run_submit]
    exact ⟨h.form_eq, Or.inr ⟨w.store.data, by rw [h.form_eq]⟩⟩
  · cases e with
    | put wr => exact keeps_bind (keeps_put_reported wr) fun _ => keeps_pure ()
    | _ => exact holds_reported.keeps hinner trivial

/-- Where a message is shown, some data was refused with it. -/
theorem Reported.exists_refused {path message : String} (h : Reported form w)
    (hmessage : w.parts.submission.errors.get? path = some message) :
    ∃ data, form.judge data = .invalid w.parts.submission.errors := by
  rcases h.found with hblank | ⟨data, hdata⟩
  · rw [hblank] at hmessage
    cases hmessage
  · refine ⟨data, ?_⟩
    rw [hdata] at hmessage ⊢
    cases hjudge : form.judge data with
    | valid output =>
      rw [hjudge] at hmessage
      cases hmessage
    | invalid errors => rfl

/-- **The tree of messages loses none but buried ones.** In every run, a message that is shown is read back
    from the tree exactly if no other one is below it. If one is, then the message is about a group at which
    the data that was submitted has no object, and the other one about a field in it that breaks a rule with a
    condition. -/
theorem errorTree_reads {schema : Schema} (hnamed : Item.WellNamed schema.items)
    (hform : Form.ofSchema schema = .ok form) (channel : Channel) (wire : Wire)
    (drafts : Option (Drafts × Int)) (events : List Event) {path message : String}
    (hmessage : (carryOn (world (ofForm form channel wire drafts)) events).parts.submission.errors.get? path
      = some message) :
    let s := (carryOn (world (ofForm form channel wire drafts)) events).parts.submission
    (Path.read (.object s.errorTree) path = .text message ↔
      ∀ other ∈ s.errors.keys, Path.below other path = false) ∧
    ∀ other ∈ s.errors.keys, Path.below other path = true →
      ∃ data, form.judge data = .invalid s.errors ∧
        ∃ node ∈ Item.nodes schema.items, node.path = path ∧
          ∃ u ∈ Item.nodes schema.items, u.path = other ∧
            Item.Buries schema.items (Item.prune schema.items data) node u := by
  intro s
  obtain ⟨hschema, hbuild⟩ := Form.build_of_ofSchema hform
  have hreported : Reported form (carryOn (world (ofForm form channel wire drafts)) events) :=
    carryOn_keeps (fun e _ => keeps_reported e) ⟨rfl, Or.inl rfl⟩
  obtain ⟨data, hrefused⟩ := hreported.exists_refused hmessage
  have herrors : (form.validator.validate (Item.prune schema.items data)).errors = s.errors := by
    rw [← hschema]
    exact congrArg Verdict.errors hrefused
  have hwhole : ∀ path ∈ s.errors.keys, IsWhole path := by
    intro path hpath
    rw [← herrors] at hpath
    obtain ⟨node, hnode, rfl⟩ := Validator.exists_node_of_error hbuild hpath
    exact hnamed.isWhole hnode
  have horder := Validator.pairwise_errors hnamed hbuild (Item.prune schema.items data)
  rw [herrors] at horder
  refine ⟨Submission.read_errorTree_iff hwhole horder hmessage, fun other hother hbelow => ⟨data, hrefused, ?_⟩⟩
  have hpath : path ∈ s.errors.keys := Entries.mem_keys_of_mem (Entries.mem_of_get? hmessage)
  rw [← herrors] at hpath hother
  exact Validator.buries_of_below hnamed hbuild hpath hother hbelow

/-! ## A group without an object -/

/-- An address, whose city is asked of businesses. -/
def branchSchema : Schema :=
  ⟨"Branch", none,
    [.field { (default : Field) with id := "kind" },
     .group { (default : GroupHeader) with id := "address" }
       [.field { (default : Field) with
          id := "city"
          rules := some [⟨.required, none, "City is required", some ⟨"kind", .equals, .text "business"⟩⟩] }]]⟩

/-- The form of the schema. -/
def branchForm : Form :=
  (Form.ofSchema branchSchema).toOption.getD default

theorem ofSchema_branchSchema : Form.ofSchema branchSchema = .ok branchForm :=
  Form.ofSchema_of_isSome (by decide +kernel)

theorem wellNamed_branchSchema : Item.WellNamed branchSchema.items :=
  ⟨by decide +kernel, by decide +kernel⟩

/-- A business whose address is overwritten by a text, and submitted. -/
def branchEvents : List Event :=
  [.mount, .put (.set "kind" (.text "business")), .put (.set "address" (.text "oops")), .submit]

/-- What is said of it. -/
def branchSubmission : Submission :=
  (carryOn (world (ofForm branchForm .manual ⟨[], []⟩ none)) branchEvents).parts.submission

/-- The message about the city is read back. -/
theorem errorTree_reads_branch :
    Path.read (.object branchSubmission.errorTree) "address.city" = .text "City is required" := by
  have hmessage : branchSubmission.errors.get? "address.city" = some "City is required" := by decide +kernel
  refine (errorTree_reads wellNamed_branchSchema ofSchema_branchSchema .manual ⟨[], []⟩ none branchEvents
    hmessage).1.mpr ?_
  show ∀ other ∈ branchSubmission.errors.keys, Path.below other "address.city" = false
  decide +kernel

/-- **A message may be lost in the tree**: the one about the address is. -/
theorem not_errorTree_reads :
    ¬ ∀ (schema : Schema) (form : Form) (channel : Channel) (wire : Wire) (drafts : Option (Drafts × Int))
        (events : List Event) (path message : String),
      Item.WellNamed schema.items → Form.ofSchema schema = .ok form →
      (carryOn (world (ofForm form channel wire drafts)) events).parts.submission.errors.get? path
        = some message →
      Path.read (.object (carryOn (world (ofForm form channel wire drafts)) events).parts.submission.errorTree)
        path = .text message := by
  intro h
  have hmessage : branchSubmission.errors.get? "address"
      = some "Input should be a valid dictionary or instance of FormData_address" := by decide +kernel
  have hread := h branchSchema branchForm .manual ⟨[], []⟩ none branchEvents _ _ wellNamed_branchSchema
    ofSchema_branchSchema hmessage
  have hobject : (Path.read (.object branchSubmission.errorTree) "address").isObject = true := by
    decide +kernel
  rw [show Path.read (.object branchSubmission.errorTree) "address" = _ from hread] at hobject
  cases hobject

end Session

end DynamicForms
