import DynamicForms.Proofs.Path.Access
import DynamicForms.Proofs.Value.Shuffle

/-!
# `DynamicForms.Proofs.Path.Shuffle` — paths through data in another order

Data that is shuffled says the same at every path, and it stays shuffled under writes and deletions. Two
writes of which neither lies at or below the other lead to shuffled data in either order: they meet in the
order of the entries of an object above both, and nowhere else. At a path that is kept the data is the
same to the last entry.

## Contents
- `Path.SameAt`: the same at one path; `sameAt_place`, `sameAt_place_of_apart`.
- **Shuffled data.** `shuffled_descend`, `sameAt_of_shuffles`, `shuffled_read`.
- **Changes.** `shuffles_place`, `shuffles_delete`, `shuffles_place_place`.
- **Series of writes.** `placeAll`, `Free`, `shuffles_placeAll_placeAll`.
-/

namespace DynamicForms
namespace Path

open Value (Object Shuffles Shuffled keptUnder)

/-! ## The same at a path -/

/-- The same entry has a path for its name, and the same lies at it. -/
structure SameAt (path : String) (data data' : Object) : Prop where
  /-- The entry whose name is the path. -/
  flat : Entries.get? data path = Entries.get? data' path
  /-- What lies at the end of its segments. -/
  lies : descend? (.object data) (segments path) = descend? (.object data') (segments path)

variable {path other name : String} {data data' data'' fields others : Object}
  {way way' : List String} {v w : Value} {kept : List String → Prop}

namespace SameAt

theorem refl (path : String) (data : Object) : SameAt path data data := ⟨rfl, rfl⟩

theorem symm (h : SameAt path data data') : SameAt path data' data := ⟨h.flat.symm, h.lies.symm⟩

theorem trans (h : SameAt path data data') (h' : SameAt path data' data'') :
    SameAt path data data'' := ⟨h.flat.trans h'.flat, h.lies.trans h'.lies⟩

theorem read_eq (h : SameAt path data data') :
    read (.object data) path = read (.object data') path := by
  simp only [read, find?, h.flat, h.lies]

end SameAt

theorem childFields_congr (h : Entries.get? fields name = Entries.get? others name) :
    childFields fields name = childFields others name := by
  rw [childFields, childFields, h]

/-- A write has the same effect where the same lies. -/
theorem descend?_place_congr
    (h : descend? (.object fields) way = descend? (.object others) way) (way' : List String)
    (v : Value) :
    descend? (.object (place fields way' v)) way = descend? (.object (place others way' v)) way := by
  induction way generalizing fields others way' with
  | nil =>
    rw [descend?_nil, descend?_nil] at h
    cases h
    rfl
  | cons name rest ih =>
    rw [descend?_cons, descend?_cons] at h
    cases way' with
    | nil =>
      rw [place_nil, place_nil, descend?_cons, descend?_cons]
      exact h
    | cons first more =>
      rw [descend?_cons, descend?_cons]
      by_cases hname : name = first
      · subst hname
        cases more with
        | nil => rw [place_singleton, place_singleton, Entries.get?_put_self, Entries.get?_put_self]
        | cons next more =>
          rw [place_cons_cons, place_cons_cons, Entries.get?_put_self, Entries.get?_put_self]
          refine ih ?_ (next :: more)
          cases rest with
          | nil =>
            simp only [descend?_nil, Option.bind_fun_some] at h
            rw [childFields_congr h]
          | cons below rest =>
            rw [descend?_childFields _ _ (List.cons_ne_nil _ _),
              descend?_childFields _ _ (List.cons_ne_nil _ _)]
            exact h
      · rw [get?_place_of_ne hname, get?_place_of_ne hname]
        exact h

/-- A write leads to the same at a path where the same was. -/
theorem sameAt_place (h : SameAt path data data') (way : List String) (v : Value) :
    SameAt path (place data way v) (place data' way v) where
  flat := by
    cases way with
    | nil =>
      rw [place_nil, place_nil]
      exact h.flat
    | cons name rest =>
      by_cases hname : path = name
      · subst hname
        cases rest with
        | nil => rw [place_singleton, place_singleton, Entries.get?_put_self, Entries.get?_put_self]
        | cons next more =>
          rw [place_cons_cons, place_cons_cons, Entries.get?_put_self, Entries.get?_put_self,
            childFields_congr h.flat]
      · rw [get?_place_of_ne hname, get?_place_of_ne hname]
        exact h.flat
  lies := descend?_place_congr h.lies way v

/-- A write leaves what is at paths apart. -/
theorem sameAt_place_of_apart (h : Apart (segments path) (segments other)) (data : Object)
    (v : Value) : SameAt other (place data (segments path) v) data where
  flat := by
    obtain ⟨name, rest, hs⟩ := List.exists_cons_of_ne_nil h.ne_nil.1
    rw [hs]
    exact get?_place_of_ne (ne_of_apart hs h) data rest v
  lies := descend?_place_of_apart h data v

/-! ## Shuffled data -/

/-- The ways that are kept inside what lies at the end of a way. -/
def keptBelow (kept : List String → Prop) (way : List String) : List String → Prop :=
  fun rest => kept (way ++ rest)

/-- At the end of a way the same lies, but for what is moved inside. -/
theorem shuffled_descend (h : Shuffles kept fields others) (way : List String) :
    Option.Rel (Shuffled (keptBelow kept way)) (descend? (.object fields) way)
      (descend? (.object others) way) := by
  induction way generalizing kept fields others with
  | nil =>
    rw [descend?_nil, descend?_nil]
    exact .some (.object h)
  | cons name rest ih =>
    rw [descend?_cons, descend?_cons]
    have hname := h.get? name
    revert hname
    generalize Entries.get? fields name = found, Entries.get? others name = found'
    intro hname
    cases hname with
    | none => exact .none
    | some hv =>
      cases hv with
      | refl v => exact Shuffled.option_refl _ _
      | object hinner => exact ih hinner

theorem eq_of_option_rel {found found' : Option Value} (h : Option.Rel (Shuffled kept) found found')
    (hkept : kept []) : found = found' := by
  cases h with
  | none => rfl
  | some h => rw [h.eq_of_kept hkept]

/-- **At a path that is kept everything is the same.** -/
theorem sameAt_of_shuffles (h : Shuffles kept data data') (hflat : kept [path])
    (hlies : kept (segments path)) : SameAt path data data' where
  flat := eq_of_option_rel (h.get? path) hflat
  lies := eq_of_option_rel (shuffled_descend h (segments path)) (by
    rw [keptBelow, List.append_nil]
    exact hlies)

/-- What is read is the same but for what is moved inside. -/
theorem shuffled_read (h : Shuffles kept data data') (path : String) :
    Shuffled (fun _ => False) (read (.object data) path) (read (.object data') path) := by
  have hopen : ∀ {kept : List String → Prop} {found found' : Option Value},
      Option.Rel (Shuffled kept) found found' →
      Shuffled (fun _ => False) (found.getD .absent) (found'.getD .absent) := by
    intro kept found found' hfound
    cases hfound with
    | none => exact .refl _
    | some hv => exact hv.mono fun _ => False.elim
  rw [read, read, find?, find?]
  split
  · exact .refl _
  · have hflat := h.get? path
    revert hflat
    generalize Entries.get? data path = found, Entries.get? data' path = found'
    intro hflat
    cases hflat with
    | none => exact hopen (shuffled_descend h (segments path))
    | some hv => exact hv.mono fun _ => False.elim

/-! ## Changes -/

theorem shuffles_childFields (h : Shuffles kept fields others) (name : String) :
    Shuffles (keptUnder kept name) (childFields fields name) (childFields others name) := by
  have hname := h.get? name
  revert hname
  unfold childFields
  generalize Entries.get? fields name = found, Entries.get? others name = found'
  intro hname
  cases hname with
  | none => exact .refl _ _
  | some hv =>
    cases hv with
    | refl v => exact .refl _ _
    | object hinner => exact hinner

/-- **A write leaves shuffled data shuffled.** -/
theorem shuffles_place (h : Shuffles kept fields others) (way : List String) (v : Value) :
    Shuffles kept (place fields way v) (place others way v) := by
  induction way generalizing kept fields others with
  | nil =>
    rw [place_nil, place_nil]
    exact h
  | cons name rest ih =>
    by_cases hkept : kept []
    · rw [h.eq_of_kept hkept]
      exact .refl _ _
    · cases rest with
      | nil => exact h.put name v
      | cons next more =>
        rw [place_cons_cons, place_cons_cons]
        have hinner := ih (shuffles_childFields h name)
        exact (Value.shuffles_put_object hkept hinner fields).trans (h.put name _)

theorem contains_eq_of_shuffles (h : Shuffles kept fields others) (name : String) :
    Entries.contains fields name = Entries.contains others name := by
  have hname := h.get? name
  unfold Entries.contains
  revert hname
  generalize Entries.get? fields name = found, Entries.get? others name = found'
  rintro (⟨-⟩ | -)
  · rfl
  · rfl

/-- **A deletion leaves shuffled data shuffled.** -/
theorem shuffles_remove (h : Shuffles kept fields others) (way : List String) :
    Option.Rel (Shuffles kept) (remove? fields way) (remove? others way) := by
  induction way generalizing kept fields others with
  | nil =>
    cases fields
    all_goals cases others
    all_goals exact .none
  | cons name rest ih =>
    by_cases hkept : kept []
    · rw [h.eq_of_kept hkept]
      cases remove? others (name :: rest) with
      | none => exact .none
      | some after => exact .some (.refl _ _)
    · cases rest with
      | nil =>
        rw [remove?_singleton, remove?_singleton, contains_eq_of_shuffles h name]
        split
        · exact .some (h.erase name)
        · exact .none
      | cons next more =>
        -- the object on the way is shuffled into the one on the other side
        have hput : ∀ {inner inner' : Object}, Shuffles (keptUnder kept name) inner inner' →
            Option.Rel (Shuffles kept)
              ((remove? inner (next :: more)).map fun after => Entries.put fields name (.object after))
              ((remove? inner' (next :: more)).map fun after => Entries.put others name (.object after)) := by
          intro inner inner' hinner
          have hafter := ih hinner
          revert hafter
          generalize remove? inner (next :: more) = found, remove? inner' (next :: more) = found'
          intro hafter
          cases hafter with
          | none => exact .none
          | some hafter =>
            exact .some ((Value.shuffles_put_object hkept hafter fields).trans (h.put name _))
        have hname := h.get? name
        rw [remove?_cons_cons, remove?_cons_cons]
        revert hname
        generalize Entries.get? fields name = found, Entries.get? others name = found'
        intro hname
        cases hname with
        | none => exact .none
        | some hv =>
          cases hv with
          | refl =>
            split
            · exact hput (.refl _ _)
            · exact .none
          | object hinner => exact hput hinner

theorem shuffles_delete (h : Shuffles kept data data') (path : String) :
    Shuffles kept (delete data path) (delete data' path) := by
  unfold delete delete?
  have hremove := shuffles_remove h (segments path)
  revert hremove
  generalize remove? data (segments path) = found, remove? data' (segments path) = found'
  intro hremove
  cases hremove with
  | none => exact h
  | some hafter => exact hafter

/-- A write puts something under the first name of its way, according to what is in the object there. -/
theorem exists_put_of_place (name : String) (rest : List String) (v : Value) :
    ∃ content : Object → Value, ∀ fields : Object,
      place fields (name :: rest) v = Entries.put fields name (content (childFields fields name)) := by
  cases rest with
  | nil => exact ⟨fun _ => v, fun _ => rfl⟩
  | cons next more => exact ⟨fun inner => .object (place inner (next :: more) v), fun _ => rfl⟩

/-- **The order of two writes at places apart does not matter**, if nothing is kept at or above the place
where their ways part. -/
theorem shuffles_place_place (h : Apart way way')
    (hopen : ∀ front, front <+: way → front <+: way' → ¬ kept front) (fields : Object) (v w : Value) :
    Shuffles kept (place (place fields way v) way' w) (place (place fields way' w) way v) := by
  induction way generalizing kept way' fields with
  | nil => exact absurd rfl h.ne_nil.1
  | cons name rest ih =>
    obtain ⟨name', rest', rfl⟩ := List.exists_cons_of_ne_nil h.ne_nil.2
    have htop : ¬ kept [] := hopen [] List.nil_prefix List.nil_prefix
    by_cases hname : name = name'
    · -- both writes go on inside the same object
      subst hname
      have hrest := apart_cons h
      obtain ⟨next, more, rfl⟩ := List.exists_cons_of_ne_nil hrest.ne_nil.1
      obtain ⟨next', more', rfl⟩ := List.exists_cons_of_ne_nil hrest.ne_nil.2
      have hinner : ∀ inner : Object, Shuffles (keptUnder kept name)
          (place (place inner (next :: more) v) (next' :: more') w)
          (place (place inner (next' :: more') w) (next :: more) v) :=
        ih hrest fun front hfront hfront' => hopen (name :: front)
          ((List.cons_prefix_cons).mpr ⟨rfl, hfront⟩) ((List.cons_prefix_cons).mpr ⟨rfl, hfront'⟩)
      have hchild : ∀ inner : Object,
          childFields (Entries.put fields name (.object inner)) name = inner := fun inner => by
        rw [childFields, Entries.get?_put_self]
      simp only [place_cons_cons, hchild, Value.put_put_self]
      exact Value.shuffles_put_object htop (hinner _) fields
    · -- they are under different names at the top
      obtain ⟨x, hx⟩ := exists_put_of_place name rest v
      obtain ⟨y, hy⟩ := exists_put_of_place name' rest' w
      have hchild : ∀ {one other : String}, one ≠ other → ∀ u : Value,
          childFields (Entries.put fields other u) one = childFields fields one := fun hne u =>
        childFields_congr (Entries.get?_put_of_ne hne fields u)
      rw [hx fields, hy, hy fields, hx, hchild hname, hchild (Ne.symm hname)]
      exact Value.shuffles_put_put htop hname fields _ _

/-! ## Series of writes -/

/-- Data after some writes, one after the other. -/
def placeAll (data : Object) (log : List (String × Value)) : Object :=
  log.foldl (fun data entry => place data (segments entry.1) entry.2) data

theorem placeAll_concat (data : Object) (log : List (String × Value)) (path : String) (v : Value) :
    placeAll data (log ++ [(path, v)]) = place (placeAll data log) (segments path) v := by
  rw [placeAll, List.foldl_append]
  rfl

variable {log log' : List (String × Value)}

theorem shuffles_placeAll (h : Shuffles kept data data') (log : List (String × Value)) :
    Shuffles kept (placeAll data log) (placeAll data' log) := by
  induction log generalizing data data' with
  | nil => exact h
  | cons entry rest ih => exact ih (shuffles_place h _ _)

/-- Two ways lie apart, and nothing is kept at or above the place where they part. -/
def Free (kept : List String → Prop) (way way' : List String) : Prop :=
  Apart way way' ∧ ∀ front, front <+: way → front <+: way' → ¬ kept front

theorem shuffles_place_placeAll {way : List String} {v : Value} (data : Object)
    (h : ∀ entry ∈ log, Free kept way (segments entry.1)) :
    Shuffles kept (placeAll (place data way v) log) (place (placeAll data log) way v) := by
  induction log generalizing data with
  | nil => exact .refl _ _
  | cons entry rest ih =>
    obtain ⟨hapart, hopen⟩ := h entry List.mem_cons_self
    refine (shuffles_placeAll (shuffles_place_place hapart hopen data v entry.2) rest).trans ?_
    exact ih _ fun entry hentry => h entry (List.mem_cons_of_mem _ hentry)

/-- The order of two series of writes does not matter if each of one lies apart from each of the other. -/
theorem shuffles_placeAll_placeAll (data : Object)
    (h : ∀ entry ∈ log, ∀ entry' ∈ log', Free kept (segments entry.1) (segments entry'.1)) :
    Shuffles kept (placeAll (placeAll data log) log') (placeAll (placeAll data log') log) := by
  induction log generalizing data with
  | nil => exact .refl _ _
  | cons entry rest ih =>
    refine (ih (place data (segments entry.1) entry.2)
      fun other hother => h other (List.mem_cons_of_mem _ hother)).trans ?_
    exact shuffles_placeAll (shuffles_place_placeAll data (h entry List.mem_cons_self)) rest

theorem sameAt_placeAll_of_apart {path : String} (data : Object)
    (h : ∀ entry ∈ log, Apart (segments entry.1) (segments path)) :
    SameAt path (placeAll data log) data := by
  induction log generalizing data with
  | nil => exact .refl path data
  | cons entry rest ih =>
    exact (ih _ fun other hother => h other (List.mem_cons_of_mem _ hother)).trans
      (sameAt_place_of_apart (h entry List.mem_cons_self) data entry.2)

end Path
end DynamicForms
