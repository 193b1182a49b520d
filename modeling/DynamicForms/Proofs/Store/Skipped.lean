import DynamicForms.Proofs.Store.Document
import DynamicForms.Proofs.Store.Keep
import DynamicForms.Proofs.Value.Alike

/-!
# `DynamicForms.Proofs.Store.Skipped` — writes of what is there already

A value that is read at a path already is not written there again. That saves telling anybody, and as a rule
it cannot be seen in the data either: what the plain write would leave has the same content and the same
types at every place. Two things have to be kept apart from that.

A name at the top that is the whole path hides, for reading, what lies further down, while writing goes down
only. So a value that is read under such a name is not put further down, and the data stays as it was.

Change detection looks at types at the top of a value only. The rule is said of values in which it makes no
difference: no two places that correspond to each other hold like values of different types. A zero may
change its sign.

## Contents
- `Value.SameTyped`: the same content with the same types; `Value.Clash`: like values of different types.
- `sameTyped_of_alike`.
- `Path.IsFlat`, `read_of_not_isFlat`; `sameTyped_place`: writing what lies there.
- `Write.SetLeaves`, `setLeaves`; `data_outcome_write`.
- `Write.skipped_unseen`, `not_skipped_unseen`.
-/

namespace DynamicForms

open Value (Object)

/-! ## Types at every place -/

namespace Value

/-- Whether a value has nothing inside it. -/
def isScalar : Value → Bool
  | .list _ => false
  | .object _ => false
  | _ => true

/-- Two values have the same content with the same types: the order of names does not matter, and a zero may
have either sign. -/
inductive SameTyped : Value → Value → Prop
  /-- Every value has its own content. -/
  | refl (v : Value) : SameTyped v v
  /-- Scalars of one type that are alike. -/
  | scalar {v w : Value} (hscalar : v.isScalar = true) (hkind : v.kind = w.kind)
      (halike : alike v w = true) : SameTyped v w
  /-- Lists, element by element. -/
  | list {xs ys : List Value} (hlength : xs.length = ys.length)
      (h : ∀ (i : Nat) (x y : Value), xs[i]? = some x → ys[i]? = some y → SameTyped x y) :
      SameTyped (.list xs) (.list ys)
  /-- Objects with as many entries each, name by name. -/
  | object {fs gs : Object} (hlength : fs.length = gs.length)
      (hnames : ∀ name, (fs.get? name).isSome = true → (gs.get? name).isSome = true)
      (h : ∀ name x y, fs.get? name = some x → gs.get? name = some y → SameTyped x y) :
      SameTyped (.object fs) (.object gs)

/-- Somewhere in two values, at the same place, there are like values of different types. -/
inductive Clash : Value → Value → Prop
  /-- The values themselves. -/
  | here {v w : Value} (halike : alike v w = true) (hkind : v.kind ≠ w.kind) : Clash v w
  /-- In an element of lists. -/
  | item {xs ys : List Value} {i : Nat} {x y : Value} (hx : xs[i]? = some x) (hy : ys[i]? = some y)
      (h : Clash x y) : Clash (.list xs) (.list ys)
  /-- Under a name of objects. -/
  | entry {fs gs : Object} {name : String} {x y : Value} (hx : fs.get? name = some x)
      (hy : gs.get? name = some y) (h : Clash x y) : Clash (.object fs) (.object gs)

variable {v w : Value} {fields others : Object} {name : String}

theorem SameTyped.length_eq (h : SameTyped (.object fields) (.object others)) :
    fields.length = others.length := by
  cases h with
  | refl => rfl
  | scalar hscalar => cases hscalar
  | object hlength => exact hlength

theorem length_eq_of_alikeList {xs ys : List Value} (h : alikeList xs ys = true) :
    xs.length = ys.length := by
  induction xs generalizing ys with
  | nil =>
    cases ys with
    | nil => rfl
    | cons y ys => cases h
  | cons x xs ih =>
    cases ys with
    | nil => cases h
    | cons y ys =>
      rw [alikeList, Bool.and_eq_true] at h
      rw [List.length_cons, List.length_cons, ih h.2]

mutual

/-- **What is alike has the same types**, unless like values of different types are in it somewhere. -/
theorem sameTyped_of_alike : ∀ {v w : Value}, alike v w = true → ¬ Clash v w → SameTyped v w
  | .list xs, w, halike, hclash => by
    cases w with
    | list ys =>
      rw [alike] at halike
      exact .list (length_eq_of_alikeList halike) fun i x y hx hy =>
        sameTyped_of_alikeList halike hx hy fun h => hclash (.item hx hy h)
    | _ => simp [alike] at halike
  | .object fs, w, halike, hclash => by
    cases w with
    | object gs =>
      rw [alike, Bool.and_eq_true, beq_iff_eq] at halike
      refine .object halike.1 (fun name hname => ?_) fun name x y hx hy =>
        sameTyped_of_alikeFields halike.2 (Entries.mem_of_get? hx) hy fun h => hclash (.entry hx hy h)
      obtain ⟨x, hx⟩ := Option.isSome_iff_exists.mp hname
      obtain ⟨y, hy, -⟩ := exists_of_alikeFields halike.2 (Entries.mem_of_get? hx)
      rw [hy, Option.isSome_some]
    | _ => simp [alike] at halike
  | .null, w, halike, hclash | .bool _, w, halike, hclash | .int _, w, halike, hclash
  | .double _, w, halike, hclash | .text _, w, halike, hclash | .absent, w, halike, hclash
  | .foreign, w, halike, hclash =>
    .scalar rfl (by_contra fun hkind => hclash (.here halike hkind)) halike

theorem sameTyped_of_alikeList : ∀ {xs ys : List Value}, alikeList xs ys = true →
    ∀ {i : Nat} {x y : Value}, xs[i]? = some x → ys[i]? = some y → ¬ Clash x y → SameTyped x y
  | [], _, _, _, _, _, hx, _, _ => by simp at hx
  | x :: xs, ys, halike, i, x', y', hx, hy, hclash => by
    cases ys with
    | nil => cases halike
    | cons y ys =>
      rw [alikeList, Bool.and_eq_true] at halike
      cases i with
      | zero =>
        obtain rfl : x = x' := Option.some.inj hx
        obtain rfl : y = y' := Option.some.inj hy
        exact sameTyped_of_alike halike.1 hclash
      | succ i => exact sameTyped_of_alikeList halike.2 hx hy hclash

theorem sameTyped_of_alikeFields : ∀ {fs gs : List (String × Value)}, alikeFields fs gs = true →
    ∀ {name : String} {x y : Value}, (name, x) ∈ fs → Entries.get? gs name = some y → ¬ Clash x y →
      SameTyped x y
  | [], _, _, _, _, _, hx, _, _ => by cases hx
  | (first, v) :: rest, gs, halike, name, x, y, hx, hy, hclash => by
    obtain ⟨w, hw, hvw, hrest⟩ := alikeFields_cons.mp halike
    by_cases heq : (name, x) = (first, v)
    · cases heq
      obtain rfl : w = y := Option.some.inj (hw.symm.trans hy)
      exact sameTyped_of_alike hvw hclash
    · exact sameTyped_of_alikeFields hrest ((List.mem_cons.mp hx).resolve_left heq) hy hclash

end

/-- An object in which one value gives way to one with the same content and types. -/
theorem sameTyped_put {x y : Value} (hx : fields.get? name = some x) (h : SameTyped x y) :
    SameTyped (.object fields) (.object (fields.put name y)) := by
  have hmem : name ∈ Entries.keys fields := Entries.mem_keys_of_mem (Entries.mem_of_get? hx)
  have hkeys : Entries.keys (fields.put name y) = Entries.keys fields :=
    Entries.keys_put_of_contains hmem y
  refine .object ?_ (fun other hother => ?_) fun other v w hv hw => ?_
  · simpa [Entries.keys] using (congrArg List.length hkeys).symm
  · have hthere : other ∈ Entries.keys (fields.put name y) := by
      rw [hkeys]
      exact Entries.contains_iff.mp hother
    exact Entries.contains_iff.mpr hthere
  · by_cases hother : other = name
    · subst hother
      rw [Entries.get?_put_self] at hw
      obtain rfl : x = v := Option.some.inj (hx.symm.trans hv)
      obtain rfl : y = w := Option.some.inj hw
      exact h
    · rw [Entries.get?_put_of_ne hother, hv] at hw
      obtain rfl : v = w := Option.some.inj hw
      exact .refl v

end Value

/-! ## Reading and writing -/

namespace Path

variable {data : Object} {path : String} {v : Value}

/-- The whole path is a name at the top, but not the one it leads to. -/
def IsFlat (data : Object) (path : String) : Prop :=
  path ∈ Entries.keys data ∧ segments path ≠ [path]

instance (data : Object) (path : String) : Decidable (IsFlat data path) :=
  inferInstanceAs (Decidable (_ ∧ _))

/-- A path that is no such name is read by going down. -/
theorem read_of_not_isFlat (hpath : segments path ≠ []) (h : ¬ IsFlat data path) :
    read (.object data) path = (descend? (.object data) (segments path)).getD .absent := by
  have hempty : path.isEmpty = false := by
    by_contra hempty
    have hnil : path = "" := by simpa using hempty
    rw [hnil, segments_empty] at hpath
    exact hpath rfl
  rw [read, find?, if_neg (by rw [hempty]; exact Bool.false_ne_true)]
  cases hget : Entries.get? data path with
  | none => rfl
  | some flat =>
    have hmem : path ∈ Entries.keys data := Entries.mem_keys_of_mem (Entries.mem_of_get? hget)
    have hseg : segments path = [path] := by
      by_contra hne
      exact h ⟨hmem, hne⟩
    rw [hseg, descend?_cons, hget, Option.bind_some, descend?_nil]

/-- **Writing what lies there with the same content and types leaves the same content and types.** -/
theorem sameTyped_place {way : List String} {found : Value} (hway : way ≠ [])
    (hfound : descend? (.object data) way = some found) (h : Value.SameTyped found v) :
    Value.SameTyped (.object data) (.object (place data way v)) := by
  induction way generalizing data with
  | nil => exact absurd rfl hway
  | cons name rest ih =>
    rw [descend?_cons] at hfound
    obtain ⟨child, hchild, hbelow⟩ := Option.bind_eq_some_iff.mp hfound
    cases rest with
    | nil =>
      rw [descend?_nil] at hbelow
      obtain rfl : child = found := Option.some.inj hbelow
      exact Value.sameTyped_put hchild h
    | cons next more =>
      obtain ⟨inner, rfl⟩ : ∃ inner, child = .object inner := by
        rw [← Value.isObject_iff]
        by_contra hother
        rw [descend?_cons_of_not_object (by simpa using hother)] at hbelow
        cases hbelow
      have hinner : childFields data name = inner := by rw [childFields, hchild]
      rw [place_cons_cons, hinner]
      exact Value.sameTyped_put hchild (ih (List.cons_ne_nil next more) hbelow)

end Path

/-! ## Writes -/

namespace Write

/-- What setting a value at a path leaves, compared with what the plain write leaves. -/
structure SetLeaves (data : Object) (path : String) (v : Value) (after plain : Object) : Prop where
  /-- What is not read at the path already is written. -/
  written : (Path.read (.object data) path).sameValue v = false → after = plain
  /-- What is read under a name at the top that is the whole path is written nowhere. -/
  flat : Path.IsFlat data path → (Path.read (.object data) path).sameValue v = true → after = data
  /-- Otherwise the content and the types are those that the plain write leaves, as long as what is read and
  what is set have no like values of different types in them. -/
  unseen : ¬ Path.IsFlat data path → ¬ Value.Clash (Path.read (.object data) path) v →
    Value.SameTyped (.object after) (.object plain)

variable {data : Object} {path : String} {v : Value}

theorem setLeaves (hpath : Path.segments path ≠ []) (hv : v.isAbsent = false) :
    SetLeaves data path v ((set path v).after data) (Path.place data (Path.segments path) v) := by
  rw [after_set hpath]
  cases hsame : (Path.read (.object data) path).sameValue v with
  | false =>
    rw [if_neg Bool.false_ne_true]
    exact ⟨fun _ => rfl, fun _ h => (Bool.false_ne_true (hsame.symm.trans h)).elim,
      fun _ _ => .refl _⟩
  | true =>
    rw [if_pos rfl]
    refine ⟨fun h => (Bool.false_ne_true (h.symm.trans hsame)).elim, fun _ _ => rfl,
      fun hflat hclash => ?_⟩
    rcases Value.sameValue_cases hsame with ⟨-, rfl⟩ | ⟨hthere, -, -, halike, -⟩
    · cases hv
    · rw [Path.read_of_not_isFlat hpath hflat] at hthere halike hclash
      cases hfound : Path.descend? (.object data) (Path.segments path) with
      | none =>
        rw [hfound] at hthere
        cases hthere
      | some found =>
        rw [hfound, Option.getD_some] at halike hclash
        exact Path.sameTyped_place hpath hfound (Value.sameTyped_of_alike halike hclash)

section

variable {κ σ : Type} {react : React κ σ} {w : World κ σ}

/-- A write leaves the data it makes, if those who are told of it leave the data alone. -/
theorem data_outcome_write {wr : Write} (hplaced : wr.IsPlaced)
    (hquiet : ∀ put owner news data, (react put owner news).Keeps fun w' => w'.store.data = data) :
    ((write react wr).outcome w).store.data = wr.after w.store.data := by
  rw [Run.outcome, run_write, nesting_eq]
  rcases change?_cases hplaced w.store.data with ⟨hnone, hsame⟩ | hsome
  · rw [run_perform_of_none react _ hnone, hsame]
  · rw [run_perform_of_some react _ hsome]
    refine Run.keeps_bind (I := fun w' => w'.store.data = wr.after w.store.data)
      (Run.keeps_forM fun c _ => keeps_tell fun news => hquiet _ _ news _)
      (fun _ => Run.keeps_pure true) _ rfl

/-- **Not writing what is there already cannot be seen in the data**, compared with the plain write. -/
theorem skipped_unseen (hpath : Path.segments path ≠ []) (hv : v.isAbsent = false)
    (hquiet : ∀ put owner news data, (react put owner news).Keeps fun w' => w'.store.data = data) :
    ∃ plain, Path.write? w.store.data path v = some plain ∧
      SetLeaves w.store.data path v ((write react (.set path v)).outcome w).store.data plain := by
  have hdata : ((write react (.set path v)).outcome w).store.data = (set path v).after w.store.data :=
    data_outcome_write hpath hquiet
  refine ⟨_, Path.write?_of_segments hpath w.store.data v, ?_⟩
  rw [hdata]
  exact setLeaves hpath hv

end

/-- A form whose data nobody looks at. -/
def unwatched (data : Object) : World Unit Unit :=
  ⟨Store.ofData data, ()⟩

/-- A car is there already, with the names in another order. -/
theorem skipped_unseen_car :
    let w := unwatched [("car", .object [("colour", .text "red"), ("doors", .int 4)])]
    let car : Value := .object [("doors", .int 4), ("colour", .text "red")]
    ((write (fun _ _ _ => pure ()) (.set "car" car)).outcome w).store.data = w.store.data ∧
      ∃ plain, Path.write? w.store.data "car" car = some plain ∧
        SetLeaves w.store.data "car" car
          ((write (fun _ _ _ => pure ()) (.set "car" car)).outcome w).store.data plain := by
  intro w car
  have hpath : Path.segments "car" ≠ [] := by decide
  have hcar : car.isAbsent = false := rfl
  exact ⟨rfl, skipped_unseen hpath hcar fun _ _ _ _ => Run.keeps_pure ()⟩

/-- **What is read under a name with a dot is not put further down.** -/
theorem not_skipped_unseen :
    ∃ plain, Path.write? [("a.b", .int 1)] "a.b" (.int 1) = some plain ∧
      ¬ Value.SameTyped
        (.object ((write (fun _ _ _ => pure ()) (.set "a.b" (.int 1))).outcome
          (unwatched [("a.b", .int 1)])).store.data) (.object plain) := by
  refine ⟨[("a.b", .int 1), ("a", .object [("b", .int 1)])], by rfl, fun h => ?_⟩
  have hlength := h.length_eq
  revert hlength
  decide

end Write

end DynamicForms
