import DynamicForms.Path.Access
import DynamicForms.Proofs.Path.Segments
import DynamicForms.Proofs.Value.Distinct

/-!
# `DynamicForms.Proofs.Path.Access` — what a write changes, and what it leaves

Writing or deleting at a place changes what is read there and, at most, what is read at the places
above and below it. Two places lie *apart* if neither way begins with the other; there nothing
changes. This is first shown for ways, the lists of segments that reading, writing and deleting go
down along, and then for paths.

Paths add one thing: a name at the top may itself have dots and is then read before any way down.
Writing and deleting never touch such a name, so that nothing of it shows at places apart. Where
no name at the top has a dot, reading a whole path is going down along its segments.

## Contents
- **Ways.** `descend?_append`, `descend?_place_of_apart`, `descend?_place_of_below`,
  `descend?_place_of_above`, and the same for `remove?`.
- **What deleting needs and leaves.** `remove?_eq_none_iff`, `delete_cases`, `descend?_delete_cases`,
  `descend?_delete_self`.
- **Names at the top.** `get?_place_of_dot`, `get?_delete_of_dot`; `HasPlainNames`, kept by writing and
  deleting.
- **Paths.** `read_place_of_apart`, `read_delete_of_apart`, `read_of_plain`, `read_place_cases`, and
  what is read at, above and below the place of a write.
-/

namespace DynamicForms
namespace Path

open Value (Object)

/-! ## Ways -/

theorem descend?_cons (fields : Object) (name : String) (rest : List String) :
    descend? (.object fields) (name :: rest)
      = (Entries.get? fields name).bind fun child => descend? child rest := by
  rw [descend?]
  cases Entries.get? fields name <;> rfl

/-- Below anything but an object there is nothing. -/
theorem descend?_cons_of_not_object {v : Value} (h : v.isObject = false) (name : String)
    (rest : List String) : descend? v (name :: rest) = none := by
  cases v <;> first | rfl | simp [Value.isObject] at h

/-- Only inside an object there is an object. -/
theorem isObject_of_descend? {v : Value} {way : List String} {fields : Object}
    (h : descend? v way = some (.object fields)) : v.isObject = true := by
  cases way with
  | nil =>
    rw [descend?_nil] at h
    rw [Option.some.inj h]
    rfl
  | cons name rest =>
    cases hobject : v.isObject with
    | true => rfl
    | false =>
      rw [descend?_cons_of_not_object hobject] at h
      cases h

theorem descend?_append (v : Value) (front back : List String) :
    descend? v (front ++ back) = (descend? v front).bind fun inner => descend? inner back := by
  induction front generalizing v with
  | nil => rw [descend?_nil]; rfl
  | cons name rest ih =>
    cases hv : v.isObject with
    | false =>
      rw [List.cons_append, descend?_cons_of_not_object hv, descend?_cons_of_not_object hv]; rfl
    | true =>
      obtain ⟨fields, rfl⟩ := (Value.isObject_iff v).mp hv
      rw [List.cons_append, descend?_cons, descend?_cons]
      cases Entries.get? fields name with
      | none => rfl
      | some child => exact ih child

/-- What is read below a name of an object is read from the entries of the object under the name. -/
theorem descend?_childFields (fields : Object) (name : String) {rest : List String}
    (h : rest ≠ []) :
    descend? (.object (childFields fields name)) rest
      = (Entries.get? fields name).bind fun child => descend? child rest := by
  obtain ⟨next, more, rfl⟩ := List.exists_cons_of_ne_nil h
  unfold childFields
  cases hget : Entries.get? fields name with
  | none => rfl
  | some child => cases child <;> rfl

/-! ### Writing -/

/-- Neither way begins with the other. -/
def Apart (way other : List String) : Prop :=
  ¬ way <+: other ∧ ¬ other <+: way

instance (way other : List String) : Decidable (Apart way other) :=
  inferInstanceAs (Decidable (_ ∧ _))

theorem Apart.symm {way other : List String} (h : Apart way other) : Apart other way :=
  ⟨h.2, h.1⟩

theorem apart_cons {name : String} {way other : List String}
    (h : Apart (name :: way) (name :: other)) : Apart way other := by
  constructor
  · exact fun hp => h.1 ((List.cons_prefix_cons).mpr ⟨rfl, hp⟩)
  · exact fun hp => h.2 ((List.cons_prefix_cons).mpr ⟨rfl, hp⟩)

theorem Apart.ne_nil {way other : List String} (h : Apart way other) : way ≠ [] ∧ other ≠ [] :=
  ⟨fun e => h.1 (e ▸ List.nil_prefix), fun e => h.2 (e ▸ List.nil_prefix)⟩

theorem place_nil (fields : Object) (v : Value) : place fields [] v = fields := by
  cases fields <;> rfl

theorem place_cons_cons (fields : Object) (name next : String) (rest : List String) (v : Value) :
    place fields (name :: next :: rest) v
      = Entries.put fields name (.object (place (childFields fields name) (next :: rest) v)) :=
  rfl

/-- What a write leaves: everything at places apart. -/
theorem descend?_place_of_apart {way other : List String} (h : Apart way other) (fields : Object)
    (v : Value) :
    descend? (.object (place fields way v)) other = descend? (.object fields) other := by
  induction way generalizing other fields with
  | nil => exact absurd rfl h.ne_nil.1
  | cons name rest ih =>
    obtain ⟨name', rest', rfl⟩ := List.exists_cons_of_ne_nil h.ne_nil.2
    rw [descend?_cons, descend?_cons]
    by_cases hn : name' = name
    · subst hn
      have hrest : Apart rest rest' := apart_cons h
      obtain ⟨next, more, rfl⟩ := List.exists_cons_of_ne_nil hrest.ne_nil.1
      rw [place_cons_cons, Entries.get?_put_self, Option.bind_some, ih hrest,
        descend?_childFields fields name' hrest.ne_nil.2]
    · cases rest with
      | nil => rw [place_singleton, Entries.get?_put_of_ne hn]
      | cons next more => rw [place_cons_cons, Entries.get?_put_of_ne hn]

/-- Below the place of a write is what lies below the written value. -/
theorem descend?_place_of_below {way : List String} (h : way ≠ []) (fields : Object) (v : Value)
    (more : List String) :
    descend? (.object (place fields way v)) (way ++ more) = descend? v more := by
  rw [descend?_append, descend?_place fields way h v, Option.bind_some]

/-- Above the place of a write is an object. -/
theorem descend?_place_of_above {way more : List String} (h : more ≠ []) (fields : Object)
    (v : Value) :
    ∃ inner, descend? (.object (place fields (way ++ more) v)) way = some (.object inner) := by
  induction way generalizing fields with
  | nil => exact ⟨_, descend?_nil _⟩
  | cons name rest ih =>
    obtain ⟨next, after, hafter⟩ : ∃ next after, rest ++ more = next :: after :=
      List.exists_cons_of_ne_nil (by simp [h])
    obtain ⟨inner, hinner⟩ := ih (childFields fields name)
    refine ⟨inner, ?_⟩
    rw [hafter] at hinner
    rw [List.cons_append, hafter, place_cons_cons, descend?_cons, Entries.get?_put_self,
      Option.bind_some, hinner]

/-! ### Deleting -/

theorem remove?_singleton (fields : Object) (name : String) :
    remove? fields [name]
      = if Entries.contains fields name then some (Entries.erase fields name) else none := rfl

theorem remove?_cons_cons (fields : Object) (name next : String) (rest : List String) :
    remove? fields (name :: next :: rest) =
      match Entries.get? fields name with
      | some (.object inner) =>
        (remove? inner (next :: rest)).map fun inner => Entries.put fields name (.object inner)
      | _ => none := rfl

/-- A deletion below a name goes on inside the object under the name. -/
theorem remove?_cons_eq_some {fields after : Object} {name next : String} {rest : List String}
    (h : remove? fields (name :: next :: rest) = some after) :
    ∃ inner inner', Entries.get? fields name = some (.object inner) ∧
      remove? inner (next :: rest) = some inner' ∧
      after = Entries.put fields name (.object inner') := by
  rw [remove?_cons_cons] at h
  cases hget : Entries.get? fields name with
  | none => simp [hget] at h
  | some child =>
    cases child <;> simp only [hget, reduceCtorEq] at h
    case object inner =>
      obtain ⟨inner', hinner, hafter⟩ := Option.map_eq_some_iff.mp h
      exact ⟨inner, inner', rfl, hinner, hafter.symm⟩

theorem remove?_isSome_iff {way : List String} (h : way ≠ []) (fields : Object) :
    (remove? fields way).isSome = (descend? (.object fields) way).isSome := by
  induction way generalizing fields with
  | nil => exact absurd rfl h
  | cons name rest ih =>
    rw [descend?_cons]
    cases rest with
    | nil =>
      rw [remove?_singleton, Entries.contains]
      cases Entries.get? fields name <;> simp [descend?_nil]
    | cons next more =>
      rw [remove?_cons_cons]
      cases Entries.get? fields name with
      | none => rfl
      | some child =>
        cases child <;> simp only [Option.bind_some, Option.isSome_map, Option.isSome_none,
          descend?, Option.isSome_none]
        case object inner => exact ih (by simp) inner

theorem remove?_eq_none_iff {way : List String} (h : way ≠ []) (fields : Object) :
    remove? fields way = none ↔ descend? (.object fields) way = none := by
  rw [← Option.not_isSome_iff_eq_none, ← Option.not_isSome_iff_eq_none, remove?_isSome_iff h]

/-- What a deletion leaves: everything at places apart. -/
theorem descend?_remove_of_apart {way other : List String} (h : Apart way other)
    {fields after : Object} (hafter : remove? fields way = some after) :
    descend? (.object after) other = descend? (.object fields) other := by
  induction way generalizing other fields after with
  | nil => exact absurd rfl h.ne_nil.1
  | cons name rest ih =>
    obtain ⟨name', rest', rfl⟩ := List.exists_cons_of_ne_nil h.ne_nil.2
    rw [descend?_cons, descend?_cons]
    cases rest with
    | nil =>
      have hn : name' ≠ name := fun e => h.1 (e ▸ (List.cons_prefix_cons).mpr ⟨rfl, List.nil_prefix⟩)
      rw [remove?_singleton] at hafter
      split at hafter
      · cases hafter; rw [Entries.get?_erase_of_ne hn]
      · cases hafter
    | cons next more =>
      obtain ⟨inner, inner', hget, hinner, rfl⟩ := remove?_cons_eq_some hafter
      by_cases hn : name' = name
      · subst hn
        have hrest : Apart (next :: more) rest' := apart_cons h
        rw [Entries.get?_put_self, hget, Option.bind_some, Option.bind_some, ih hrest hinner]
      · rw [Entries.get?_put_of_ne hn]

/-- At and below a deleted place there is nothing. -/
theorem descend?_remove_of_below {way : List String} {fields after : Object}
    (hd : Value.hasDistinctNames (.object fields) = true) (hafter : remove? fields way = some after)
    (more : List String) : descend? (.object after) (way ++ more) = none := by
  induction way generalizing fields after with
  | nil => cases fields <;> simp [remove?] at hafter
  | cons name rest ih =>
    rw [List.cons_append, descend?_cons]
    cases rest with
    | nil =>
      rw [remove?_singleton] at hafter
      split at hafter
      · cases hafter
        rw [Entries.get?_erase_self ((Value.hasDistinctNames_iff fields).mp hd).1, Option.bind_none]
      · cases hafter
    | cons next more' =>
      obtain ⟨inner, inner', hget, hinner, rfl⟩ := remove?_cons_eq_some hafter
      rw [Entries.get?_put_self, Option.bind_some]
      exact ih (Value.hasDistinctNames_of_get? hd hget) hinner

/-- Above a deleted place there are still objects. -/
theorem descend?_remove_of_above {way more : List String} (h : more ≠ []) {fields after : Object}
    (hafter : remove? fields (way ++ more) = some after) :
    ∃ inner inner', descend? (.object fields) way = some (.object inner) ∧
      descend? (.object after) way = some (.object inner') := by
  induction way generalizing fields after with
  | nil => exact ⟨fields, after, descend?_nil _, descend?_nil _⟩
  | cons name rest ih =>
    obtain ⟨next, behind, hbehind⟩ : ∃ next behind, rest ++ more = next :: behind :=
      List.exists_cons_of_ne_nil (by simp [h])
    rw [List.cons_append, hbehind] at hafter
    obtain ⟨child, child', hget, hchild, rfl⟩ := remove?_cons_eq_some hafter
    rw [← hbehind] at hchild
    obtain ⟨inner, inner', hinner, hinner'⟩ := ih hchild
    refine ⟨inner, inner', ?_, ?_⟩
    · rw [descend?_cons, hget, Option.bind_some, hinner]
    · rw [descend?_cons, Entries.get?_put_self, Option.bind_some, hinner']

theorem ne_nil_of_remove? {fields after : Object} {way : List String}
    (h : remove? fields way = some after) : way ≠ [] := by
  rintro rfl
  cases fields <;> cases h

/-- A deletion does nothing, or it takes something out. -/
theorem delete_cases (data : Object) (path : String) :
    (remove? data (segments path) = none ∧ delete data path = data) ∨
      remove? data (segments path) = some (delete data path) := by
  unfold delete delete?
  cases remove? data (segments path) with
  | none => exact Or.inl ⟨rfl, rfl⟩
  | some after => exact Or.inr rfl

/-- What a deletion leaves at a way: nothing, or what was there, or an object where one was. -/
theorem descend?_delete_cases {data : Object}
    (hd : Value.hasDistinctNames (.object data) = true) (path : String) (way : List String) :
    descend? (.object (delete data path)) way = none ∨
    descend? (.object (delete data path)) way = descend? (.object data) way ∨
    ∃ inner inner', descend? (.object data) way = some (.object inner) ∧
      descend? (.object (delete data path)) way = some (.object inner') := by
  rcases delete_cases data path with ⟨-, hsame⟩ | hremove
  · rw [hsame]
    exact Or.inr (Or.inl rfl)
  -- below the deleted place, above it, or apart from it
  · by_cases hbelow : segments path <+: way
    · obtain ⟨more, rfl⟩ := hbelow
      exact Or.inl (descend?_remove_of_below hd hremove more)
    · by_cases habove : way <+: segments path
      · obtain ⟨more, hmore⟩ := habove
        have hmore_ne : more ≠ [] := fun e => hbelow ⟨[], by rw [← hmore, e]; simp⟩
        exact Or.inr (Or.inr (descend?_remove_of_above hmore_ne (hmore ▸ hremove)))
      · exact Or.inr (Or.inl (descend?_remove_of_apart ⟨hbelow, habove⟩ hremove))

/-- Nothing is left where something was deleted. -/
theorem descend?_delete_self {data : Object} {path : String}
    (hd : Value.hasDistinctNames (.object data) = true) (h : segments path ≠ []) :
    descend? (.object (delete data path)) (segments path) = none := by
  rcases delete_cases data path with ⟨hnone, hsame⟩ | hremove
  · rw [hsame]
    exact (remove?_eq_none_iff h data).mp hnone
  · have hbelow := descend?_remove_of_below hd hremove []
    rwa [List.append_nil] at hbelow

/-! ### Distinct names -/

theorem hasDistinctNames_childFields {fields : Object}
    (h : Value.hasDistinctNames (.object fields) = true) (name : String) :
    Value.hasDistinctNames (.object (childFields fields name)) = true := by
  unfold childFields
  split
  · next inner hget => exact Value.hasDistinctNames_of_get? h hget
  · rfl

theorem hasDistinctNames_place {fields : Object}
    (h : Value.hasDistinctNames (.object fields) = true) (way : List String) {v : Value}
    (hv : v.hasDistinctNames = true) :
    Value.hasDistinctNames (.object (place fields way v)) = true := by
  induction way generalizing fields with
  | nil => cases fields <;> exact h
  | cons name rest ih =>
    cases rest with
    | nil => exact Value.hasDistinctNames_put h hv name
    | cons next more =>
      rw [place_cons_cons]
      exact Value.hasDistinctNames_put h (ih (hasDistinctNames_childFields h name)) name

theorem hasDistinctNames_remove {fields after : Object}
    (h : Value.hasDistinctNames (.object fields) = true) {way : List String}
    (hafter : remove? fields way = some after) :
    Value.hasDistinctNames (.object after) = true := by
  induction way generalizing fields after with
  | nil => cases fields <;> simp [remove?] at hafter
  | cons name rest ih =>
    cases rest with
    | nil =>
      rw [remove?_singleton] at hafter
      split at hafter
      · cases hafter; exact Value.hasDistinctNames_erase h name
      · cases hafter
    | cons next more =>
      obtain ⟨inner, inner', hget, hinner, rfl⟩ := remove?_cons_eq_some hafter
      exact Value.hasDistinctNames_put h (ih (Value.hasDistinctNames_of_get? h hget) hinner) name

/-! ## Names at the top -/

/-- No name at the top has a dot, so that a path only leads down. -/
def HasPlainNames (data : Object) : Prop :=
  ∀ name ∈ Entries.keys data, '.' ∉ name.toList

instance (data : Object) : Decidable (HasPlainNames data) :=
  inferInstanceAs (Decidable (∀ name ∈ Entries.keys data, '.' ∉ name.toList))

theorem get?_place_of_ne {name other : String} (h : other ≠ name) (fields : Object)
    (rest : List String) (v : Value) :
    Entries.get? (place fields (name :: rest) v) other = Entries.get? fields other := by
  cases rest with
  | nil => rw [place_singleton, Entries.get?_put_of_ne h]
  | cons next more => rw [place_cons_cons, Entries.get?_put_of_ne h]

theorem get?_remove_of_ne {name other : String} (h : other ≠ name) {fields after : Object}
    {rest : List String} (hafter : remove? fields (name :: rest) = some after) :
    Entries.get? after other = Entries.get? fields other := by
  cases rest with
  | nil =>
    rw [remove?_singleton] at hafter
    split at hafter
    · cases hafter; rw [Entries.get?_erase_of_ne h]
    · cases hafter
  | cons next more =>
    obtain ⟨inner, inner', -, -, rfl⟩ := remove?_cons_eq_some hafter
    rw [Entries.get?_put_of_ne h]

variable {path other : String} {data after : Object} {v : Value}

/-- No segment of a path has a dot. -/
theorem ne_of_dot {name : String} {rest : List String} (hs : segments path = name :: rest)
    (hdot : '.' ∈ other.toList) : other ≠ name := by
  rintro rfl
  have hmem : other ∈ segments path := by rw [hs]; exact List.mem_cons_self
  exact dot_not_mem_segment hmem hdot

/-- A name with dots at the top is out of the reach of writes, -/
theorem get?_place_of_dot (hdot : '.' ∈ other.toList) (data : Object) (path : String) (v : Value) :
    Entries.get? (place data (segments path) v) other = Entries.get? data other := by
  cases hs : segments path with
  | nil => rw [place_nil]
  | cons name rest => exact get?_place_of_ne (ne_of_dot hs hdot) data rest v

/-- and of deletions. -/
theorem get?_delete_of_dot (hdot : '.' ∈ other.toList) (data : Object) (path : String) :
    Entries.get? (delete data path) other = Entries.get? data other := by
  rcases delete_cases data path with ⟨-, hsame⟩ | hremove
  · rw [hsame]
  · obtain ⟨name, rest, hs⟩ := List.exists_cons_of_ne_nil (ne_nil_of_remove? hremove)
    exact get?_remove_of_ne (ne_of_dot hs hdot) (hs ▸ hremove)

theorem mem_keys_of_get?_eq (h : Entries.get? after other = Entries.get? data other)
    (hmem : other ∈ Entries.keys after) : other ∈ Entries.keys data := by
  rw [← Entries.contains_iff, Entries.contains] at hmem ⊢
  rwa [← h]

theorem hasPlainNames_place (h : HasPlainNames data) (path : String) (v : Value) :
    HasPlainNames (place data (segments path) v) :=
  fun name hname hdot => h name (mem_keys_of_get?_eq (get?_place_of_dot hdot data path v) hname) hdot

theorem hasPlainNames_delete (h : HasPlainNames data) (path : String) :
    HasPlainNames (delete data path) :=
  fun name hname hdot => h name (mem_keys_of_get?_eq (get?_delete_of_dot hdot data path) hname) hdot

theorem hasDistinctNames_delete (h : Value.hasDistinctNames (.object data) = true)
    (path : String) : Value.hasDistinctNames (.object (delete data path)) = true := by
  rcases delete_cases data path with ⟨-, hsame⟩ | hremove
  · rwa [hsame]
  · exact hasDistinctNames_remove h hremove

/-! ## Paths -/

theorem read_object (hp : IsWhole path) (data : Object) :
    read (.object data) path
      = ((Entries.get? data path).or (descend? (.object data) (segments path))).getD .absent := by
  rw [read, find?, if_neg (by rw [hp.isEmpty_eq_false]; exact Bool.false_ne_true)]
  cases Entries.get? data path <;> rfl

/-- A whole path is read by going down, unless it is a name at the top and has a dot. -/
theorem read_of_not_flat (hp : IsWhole path)
    (h : '.' ∈ path.toList → Entries.get? data path = none) :
    read (.object data) path = (descend? (.object data) (segments path)).getD .absent := by
  rw [read_object hp]
  cases hget : Entries.get? data path with
  | none => rfl
  | some flat =>
    have hdot : '.' ∉ path.toList := fun hdot => by rw [h hdot] at hget; cases hget
    rw [segments_of_no_dot hdot hp.ne_empty, descend?_cons, hget, Option.bind_some, descend?_nil]
    rfl

/-- Where names have no dots a whole path is read by going down. -/
theorem read_of_plain (hd : HasPlainNames data) (hp : IsWhole path) :
    read (.object data) path = (descend? (.object data) (segments path)).getD .absent := by
  refine read_of_not_flat hp fun hdot => ?_
  rw [Entries.get?_eq_none_iff]
  exact fun hmem => hd path hmem hdot

theorem write?_of_segments (h : segments path ≠ []) (data : Object) (v : Value) :
    write? data path v = some (place data (segments path) v) := by
  unfold write?
  cases hs : segments path with
  | nil => exact absurd hs h
  | cons name rest => rfl

theorem apart_of_not_overlaps (hp : IsWhole path) (ho : IsWhole other)
    (h : overlaps path other = false) : Apart (segments path) (segments other) := by
  constructor
  · intro hpre
    rw [(overlaps_iff hp ho).mpr (Or.inl hpre)] at h
    cases h
  · intro hpre
    rw [(overlaps_iff hp ho).mpr (Or.inr hpre)] at h
    cases h

/-- The segments of a path below another one begin with the segments of that. -/
theorem segments_prefix_of_below {path above : String} (h : below path above = true) :
    segments above <+: segments path := by
  obtain ⟨rest, hrest⟩ := (below_iff path above).mp h
  rw [List.append_assoc, List.singleton_append] at hrest
  unfold segments
  rw [← hrest, pieces_append_dot, List.filter_append, List.map_append]
  exact List.prefix_append _ _

/-- Paths that lie apart do not overlap. -/
theorem overlaps_of_apart {path other : String} (h : Apart (segments path) (segments other)) :
    overlaps path other = false := by
  rw [← Bool.not_eq_true]
  intro hover
  rw [overlaps, Bool.or_eq_true, Bool.or_eq_true, beq_iff_eq] at hover
  rcases hover with (rfl | hbelow) | hbelow
  · exact h.1 (List.prefix_refl _)
  · exact h.2 (segments_prefix_of_below hbelow)
  · exact h.1 (segments_prefix_of_below hbelow)

/-- A path apart from a written one is not the first name on the way of the write. -/
theorem ne_of_apart {name : String} {rest : List String} (hs : segments path = name :: rest)
    (h : Apart (segments path) (segments other)) : other ≠ name := by
  rintro rfl
  have hmem : other ∈ segments path := by rw [hs]; exact List.mem_cons_self
  have hdot : '.' ∉ other.toList := dot_not_mem_segment hmem
  have hne : other ≠ "" := by
    rintro rfl
    exact h.ne_nil.2 (by simp [segments, pieces])
  refine h.2 ?_
  rw [segments_of_no_dot hdot hne, hs]
  exact (List.cons_prefix_cons).mpr ⟨rfl, List.nil_prefix⟩

/-- **A write changes nothing at whole paths that do not overlap its own.** -/
theorem read_place_of_apart (ho : IsWhole other) (h : Apart (segments path) (segments other))
    (data : Object) (v : Value) :
    read (.object (place data (segments path) v)) other = read (.object data) other := by
  obtain ⟨name, rest, hs⟩ := List.exists_cons_of_ne_nil h.ne_nil.1
  rw [read_object ho, read_object ho, descend?_place_of_apart h, hs,
    get?_place_of_ne (ne_of_apart hs h)]

/-- **A deletion changes nothing at whole paths that do not overlap its own.** -/
theorem read_delete_of_apart (ho : IsWhole other) (h : Apart (segments path) (segments other))
    (data : Object) : read (.object (delete data path)) other = read (.object data) other := by
  rcases delete_cases data path with ⟨-, hsame⟩ | hremove
  · rw [hsame]
  · obtain ⟨name, rest, hs⟩ := List.exists_cons_of_ne_nil h.ne_nil.1
    have hget : Entries.get? (delete data path) other = Entries.get? data other :=
      get?_remove_of_ne (ne_of_apart hs h) (hs ▸ hremove)
    rw [read_object ho, read_object ho, descend?_remove_of_apart h hremove, hget]

/-- A name with dots at the top is read as it was before a write. -/
theorem read_place_of_flat (ho : IsWhole other)
    (hflat : ¬ ('.' ∈ other.toList → Entries.get? data other = none)) (path : String) (v : Value) :
    read (.object (place data (segments path) v)) other = read (.object data) other := by
  rw [Classical.not_imp] at hflat
  obtain ⟨hdot, hsome⟩ := hflat
  obtain ⟨flat, hget⟩ := Option.ne_none_iff_exists'.mp hsome
  rw [read_object ho, read_object ho, get?_place_of_dot hdot, hget]
  rfl

/-- What a write does to what is read at another whole path: nothing, or that path lies at or below the
    written one and both times is read by going down, or there is an object now. -/
theorem read_place_cases (hp : IsWhole path) (ho : IsWhole other) (data : Object) (v : Value) :
    read (.object (place data (segments path) v)) other = read (.object data) other ∨
    (∃ more, segments other = segments path ++ more ∧
      read (.object data) other = (descend? (.object data) (segments other)).getD .absent ∧
      read (.object (place data (segments path) v)) other = (descend? v more).getD .absent) ∨
    ∃ inner, read (.object (place data (segments path) v)) other = .object inner := by
  by_cases hflat : '.' ∈ other.toList → Entries.get? data other = none
  · have hflat' : '.' ∈ other.toList →
        Entries.get? (place data (segments path) v) other = none := fun hdot =>
      (get?_place_of_dot hdot data path v).trans (hflat hdot)
    -- below the written place, above it, or apart from it
    by_cases hbelow : segments path <+: segments other
    · obtain ⟨more, hmore⟩ := hbelow
      refine Or.inr (Or.inl ⟨more, hmore.symm, read_of_not_flat ho hflat, ?_⟩)
      rw [read_of_not_flat ho hflat', ← hmore, descend?_place_of_below (segments_ne_nil hp)]
    · by_cases habove : segments other <+: segments path
      · obtain ⟨more, hmore⟩ := habove
        have hmore_ne : more ≠ [] := fun e => hbelow ⟨[], by rw [← hmore, e]; simp⟩
        obtain ⟨inner, hinner⟩ :
            ∃ inner, descend? (.object (place data (segments other ++ more) v)) (segments other)
              = some (.object inner) := descend?_place_of_above hmore_ne data v
        refine Or.inr (Or.inr ⟨inner, ?_⟩)
        rw [read_of_not_flat ho hflat', ← hmore, hinner]
        rfl
      · exact Or.inl (read_place_of_apart ho ⟨hbelow, habove⟩ data v)
  · exact Or.inl (read_place_of_flat ho hflat path v)

/-- What was written is read. -/
theorem read_place_self (hd : HasPlainNames data) (hp : IsWhole path) (v : Value) :
    read (.object (place data (segments path) v)) path = v := by
  rw [read_of_plain (hasPlainNames_place hd path v) hp,
    descend?_place data (segments path) (segments_ne_nil hp)]
  rfl

/-- What was written is read, unless a name at the top with dots hides it. -/
theorem read_place_self_cases (hp : IsWhole path) (data : Object) (v : Value) :
    read (.object (place data (segments path) v)) path = v ∨
      read (.object (place data (segments path) v)) path = read (.object data) path := by
  have hplaced := descend?_place data (segments path) (segments_ne_nil hp) v
  by_cases hflat : '.' ∈ path.toList → Entries.get? data path = none
  · left
    have hflat' : '.' ∈ path.toList → Entries.get? (place data (segments path) v) path = none :=
      fun hdot => (get?_place_of_dot hdot data path v).trans (hflat hdot)
    rw [read_of_not_flat hp hflat', hplaced]
    rfl
  · exact Or.inr (read_place_of_flat hp hflat path v)

/-- A write keeps a value present unless it is made at or above it. -/
theorem isAbsent_read_place (hp : IsWhole path) (ho : IsWhole other)
    (h : ¬ segments path <+: segments other) (hpresent : (read (.object data) other).isAbsent = false)
    (v : Value) : (read (.object (place data (segments path) v)) other).isAbsent = false := by
  rcases read_place_cases hp ho data v with hsame | ⟨more, hmore, -, -⟩ | ⟨inner, hinner⟩
  · rw [hsame]
    exact hpresent
  · exact absurd ⟨more, hmore.symm⟩ h
  · rw [hinner]
    rfl

/-- What was deleted is absent. -/
theorem read_delete_self (hd : HasPlainNames data)
    (hn : Value.hasDistinctNames (.object data) = true) (hp : IsWhole path) :
    read (.object (delete data path)) path = .absent := by
  rw [read_of_plain (hasPlainNames_delete hd path) hp,
    descend?_delete_self hn (segments_ne_nil hp)]
  rfl

/-- **A deletion brings nothing back.** -/
theorem isAbsent_read_delete (hd : HasPlainNames data)
    (hn : Value.hasDistinctNames (.object data) = true) (ho : IsWhole other) (path : String)
    (habsent : (read (.object data) other).isAbsent = true) :
    (read (.object (delete data path)) other).isAbsent = true := by
  rw [read_of_plain (hasPlainNames_delete hd path) ho]
  rw [read_of_plain hd ho] at habsent
  rcases descend?_delete_cases hn path (segments other) with hnone | hsame | ⟨inner, -, hinner, -⟩
  · rw [hnone]
    rfl
  · rw [hsame]
    exact habsent
  · rw [hinner] at habsent
    cases habsent

end Path
end DynamicForms
