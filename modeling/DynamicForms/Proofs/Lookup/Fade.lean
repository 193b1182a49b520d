import DynamicForms.Proofs.Lookup.Books

/-!
# `DynamicForms.Proofs.Lookup.Fade` — what clearing does to a desk

A worker whose lookup is not ready any more clears its targets. This can make other lookups that were
ready not ready, so that one clearing leads to another; what keeps it from going on for ever is that
values only *fade*. As long as watched values are simple, a clearing either turns some of them into the
empty text or takes some of them away, and never both. A worker from which a value was taken away
clears nothing, and is not ready from then on. So the pairs of a worker that is still ready and a value
of it that is not the empty text become fewer with each clearing that follows from another one.

## Contents
- **One clearing.** `Path.read_clear_cases`.
- `Desk.isSimple`, `Desk.wasReady`, `Desk.Fades`.
- **Counting.** `Desk.uncleared`, `Fades.uncleared_le`, `Fades.uncleared_lt`, `uncleared_le_watchings`.
-/

namespace DynamicForms

open Value (Object)
open Path (IsWhole)

/-! ## One clearing -/

/-- If something is found below a place, there is an object at it. -/
theorem Path.exists_object_of_below {v : Value} {front rest : List String} {name : String}
    (h : (descend? v (front ++ name :: rest)).getD .absent ≠ .absent) :
    ∃ inner, descend? v front = some (.object inner) := by
  rw [descend?_append] at h
  cases hat : descend? v front with
  | none =>
    rw [hat] at h
    exact absurd rfl h
  | some below =>
    cases hobject : below.isObject with
    | false =>
      rw [hat, Option.bind_some, descend?_cons_of_not_object hobject] at h
      exact absurd rfl h
    | true =>
      obtain ⟨inner, rfl⟩ := (Value.isObject_iff below).mp hobject
      exact ⟨inner, rfl⟩

/-- If some values are simple before and after a text is written, either those that change all turn into
    the text or they all go away. -/
theorem Path.read_clear_cases {path : String} (hp : IsWhole path) {data : Object} {s : String}
    (watched : List String) (hwhole : ∀ other ∈ watched, IsWhole other)
    (hbefore : ∀ other ∈ watched, (read (.object data) other).isSimple = true)
    (hafter : ∀ other ∈ watched,
      (read (.object (place data (segments path) (.text s))) other).isSimple = true) :
    (∀ other ∈ watched,
      read (.object (place data (segments path) (.text s))) other = read (.object data) other ∨
      read (.object (place data (segments path) (.text s))) other = .text s) ∨
    ∀ other ∈ watched,
      read (.object (place data (segments path) (.text s))) other = read (.object data) other ∨
      read (.object (place data (segments path) (.text s))) other = .absent := by
  by_cases hgone : ∃ other ∈ watched, ∃ name rest,
      segments other = segments path ++ name :: rest ∧
      read (.object data) other = (descend? (.object data) (segments other)).getD .absent ∧
      read (.object data) other ≠ .absent
  · -- something below the path had a value, so there was an object at the path
    right
    obtain ⟨below, -, name, rest, hbelow, hread, hsome⟩ := hgone
    rw [hread, hbelow] at hsome
    obtain ⟨inner, hinner⟩ := exists_object_of_below hsome
    -- so a watched value at the path would not be simple, and one that changes lies below
    intro other hother
    rcases read_place_cases hp (hwhole other hother) data (.text s) with
      hsame | ⟨more, hmore, hold, hnew⟩ | ⟨inner', hobject⟩
    · exact Or.inl hsame
    · cases more with
      | nil =>
        have hsimple := hbefore other hother
        rw [hold, hmore, List.append_nil, hinner] at hsimple
        cases hsimple
      | cons next more => exact Or.inr hnew
    · have hsimple := hafter other hother
      rw [hobject] at hsimple
      cases hsimple
  · -- nothing watched below the path had a value, so only the path itself can have changed
    left
    intro other hother
    rcases read_place_cases hp (hwhole other hother) data (.text s) with
      hsame | ⟨more, hmore, hold, hnew⟩ | ⟨inner', hobject⟩
    · exact Or.inl hsame
    · cases more with
      | nil => exact Or.inr (hnew.trans (by rw [descend?_nil]; rfl))
      | cons next more =>
        left
        by_cases habsent : read (.object data) other = .absent
        · rw [habsent]; exact hnew
        · exact absurd ⟨other, hother, next, more, hmore, hold, habsent⟩ hgone
    · have hsimple := hafter other hother
      rw [hobject] at hsimple
      cases hsimple

namespace Desk

/-- Whether all watched values are simple. -/
def isSimple (w : World String Desk) : Bool :=
  w.store.watchings.all fun entry => (w.store.get entry.2).isSimple

/-- Whether the lookup of a worker was ready when the worker last looked. -/
def wasReady (w : World String Desk) (key : String) : Bool :=
  (worker? w key).any (·.wasReady)

/-- What has happened to a desk through clearing: no worker has become ready, and the watched values
    are what they were or the empty text, except that some have gone from workers that are not ready
    any more. -/
structure Fades (w w' : World String Desk) : Prop where
  /-- The subscriptions. -/
  subscriptions_eq : w'.store.subscriptions = w.store.subscriptions
  /-- No worker has become ready. -/
  ready : ∀ {key}, wasReady w' key = true → wasReady w key = true
  /-- What has become of a watched value. -/
  value : ∀ {key path}, (key, path) ∈ w.store.watchings →
    w'.store.get path = w.store.get path ∨ w'.store.get path = .text "" ∨
      w'.store.get path = .absent ∧ wasReady w' key = false

variable {w w' w'' : World String Desk} {key path : String}

theorem watchings_eq (h : w'.store.subscriptions = w.store.subscriptions) :
    w'.store.watchings = w.store.watchings := by
  unfold Store.watchings
  rw [h]

theorem Fades.refl (w : World String Desk) : Fades w w :=
  ⟨rfl, id, fun _ => Or.inl rfl⟩

theorem Fades.trans (h : Fades w w') (h' : Fades w' w'') : Fades w w'' where
  subscriptions_eq := h'.subscriptions_eq.trans h.subscriptions_eq
  ready hready := h.ready (h'.ready hready)
  value {key path} hwatch := by
    have hwatch' : (key, path) ∈ w'.store.watchings := watchings_eq h.subscriptions_eq ▸ hwatch
    rcases h'.value hwatch' with hsame | hempty | hgone
    · rw [hsame]
      rcases h.value hwatch with hsame' | hempty' | ⟨hgone', hnot⟩
      · exact Or.inl hsame'
      · exact Or.inr (Or.inl hempty')
      · refine Or.inr (Or.inr ⟨hgone', ?_⟩)
        -- a worker that was not ready has not become so
        cases hready : wasReady w'' key with
        | false => rfl
        | true => exact absurd (h'.ready hready) (by rw [hnot]; exact Bool.false_ne_true)
    · exact Or.inr (Or.inl hempty)
    · exact Or.inr (Or.inr hgone)

/-! ## Counting -/

/-- A worker is still ready, and a value is not the empty text. -/
def isUncleared (w : World String Desk) (entry : String × String) : Bool :=
  wasReady w entry.1 && !(w.store.get entry.2).sameValue (.text "")

/-- The number of watched values that are not the empty text, for workers that are still ready. -/
def uncleared (w : World String Desk) : Nat :=
  w.store.watchings.countP (isUncleared w)

theorem uncleared_le_watchings (w : World String Desk) :
    uncleared w ≤ w.store.watchings.length := by
  unfold uncleared
  exact List.countP_le_length

theorem Fades.isUncleared_of {entry : String × String} (h : Fades w w')
    (hentry : entry ∈ w.store.watchings) (huncleared : isUncleared w' entry = true) :
    isUncleared w entry = true := by
  obtain ⟨key, path⟩ := entry
  simp only [isUncleared, Bool.and_eq_true, Bool.not_eq_true'] at huncleared ⊢
  obtain ⟨hready, hvalue⟩ := huncleared
  refine ⟨h.ready hready, ?_⟩
  rcases h.value hentry with hsame | hempty | ⟨-, hnot⟩
  · rw [← hsame]; exact hvalue
  · rw [hempty] at hvalue
    cases hvalue
  · rw [hready] at hnot
    cases hnot

theorem Fades.uncleared_le (h : Fades w w') : uncleared w' ≤ uncleared w := by
  unfold uncleared
  rw [watchings_eq h.subscriptions_eq]
  exact List.countP_mono_left fun entry hentry => h.isUncleared_of hentry

/-- A value that has turned into the empty text counts no more. -/
theorem Fades.uncleared_lt (h : Fades w w') (hwatch : (key, path) ∈ w.store.watchings)
    (hready : wasReady w' key = true)
    (hbefore : (w.store.get path).sameValue (.text "") = false)
    (hafter : w'.store.get path = .text "") : uncleared w' < uncleared w := by
  unfold uncleared
  rw [watchings_eq h.subscriptions_eq]
  refine countP_lt_countP (fun entry hentry => h.isUncleared_of hentry) hwatch ?_ ?_
  · simp only [isUncleared, h.ready hready, hbefore, Bool.not_false, Bool.and_true]
  · simp only [isUncleared, hafter]
    exact Bool.and_false _

end Desk
end DynamicForms
