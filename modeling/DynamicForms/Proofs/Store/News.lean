import DynamicForms.Proofs.Store.Write

/-!
# `DynamicForms.Proofs.Store.News` — who is told of a write

A write concerns the subscriptions that watch its path. What the others watch lies apart from it and
keeps its value; and of those that it concerns, one to paths is told nothing as long as change
detection takes the values there for the same. So nobody misses a change.

## Contents
- `Store.concerned`: the subscriptions that a write concerns.
- `read_after_of_not_watches`, `read_after_of_not_concerned`, `news?_eq_none_iff`,
  `mem_of_news?_eq_some`.
-/

namespace DynamicForms

open Value (Object)
open Path (IsWhole)

variable {κ : Type} {s : Store κ} {sub : Subscription κ} {paths : List String} {wr : Write}
  {before after : Object}

/-- The subscriptions that a write concerns. -/
def Store.concerned (s : Store κ) (wr : Write) : List (Subscription κ) :=
  match wr.path? with
  | some path => s.subscriptions.filter fun sub => sub.watches path
  | none => s.subscriptions

theorem captureFor_eq (s : Store κ) (wr : Write) :
    s.captureFor wr = (s.concerned wr).map fun sub => sub.capture s.data := by
  unfold Store.captureFor Store.concerned
  cases wr.path? <;> rfl

theorem concerned_sublist (s : Store κ) (wr : Write) :
    (s.concerned wr).Sublist s.subscriptions := by
  unfold Store.concerned
  cases wr.path? with
  | none => exact List.Sublist.refl _
  | some path => exact List.filter_sublist

/-- A write at a path that a subscription does not watch changes nothing at the paths it watches. -/
theorem read_after_of_not_watches {path : String} (hpath : wr.path? = some path) (hp : IsWhole path)
    (hs : sub.paths = some paths) (hwhole : ∀ c ∈ paths, IsWhole c) (hnot : sub.watches path = false)
    (data : Object) :
    ∀ c ∈ paths, Path.read (.object (wr.after data)) c = Path.read (.object data) c := by
  intro c hc
  simp only [Subscription.watches, hs, List.any_eq_false, Bool.not_eq_true] at hnot
  exact Write.read_after_of_apart hpath (hwhole c hc)
    (Path.apart_of_not_overlaps (hwhole c hc) hp (hnot c hc)).symm data

/-- Where a subscription watches that a write does not concern, it changes nothing. -/
theorem read_after_of_not_concerned (hwr : wr.IsWhole) (hsub : sub ∈ s.subscriptions)
    (hs : sub.paths = some paths) (hwhole : ∀ c ∈ paths, IsWhole c) (hnot : sub ∉ s.concerned wr)
    (data : Object) :
    ∀ c ∈ paths, Path.read (.object (wr.after data)) c = Path.read (.object data) c := by
  cases hpath : wr.path? with
  | none =>
    have hall : s.concerned wr = s.subscriptions := by simp only [Store.concerned, hpath]
    exact absurd (hall ▸ hsub) hnot
  | some path =>
    have hdeaf : sub.watches path = false := by
      cases hwatch : sub.watches path with
      | false => rfl
      | true =>
        refine absurd ?_ hnot
        simp only [Store.concerned, hpath]
        exact List.mem_filter.mpr ⟨hsub, hwatch⟩
    exact read_after_of_not_watches hpath (hwr path hpath) hs hwhole hdeaf data

/-- A subscription to paths gets no news exactly if it sees the same at each of them. -/
theorem news?_eq_none_iff (hs : sub.paths = some paths) :
    (sub.capture before).news? after wr = none ↔
      ∀ c ∈ paths,
        (Path.read (.object before) c).sameValue (Path.read (.object after) c) = true := by
  have hchanged : changedPaths after
      (paths.map fun path => (path, Path.read (.object before) path)) = [] ↔
      ∀ c ∈ paths,
        (Path.read (.object before) c).sameValue (Path.read (.object after) c) = true := by
    simp only [changedPaths, List.map_eq_nil_iff, List.filter_eq_nil_iff, List.forall_mem_map,
      Bool.not_eq_true', Bool.not_eq_false]
  rw [← hchanged]
  simp only [Captured.news?, Subscription.capture, hs, Option.map_some]
  split
  · next hnil => simp [hnil]
  · next hne => simpa using hne

/-- The news of a subscription to paths are some of these paths, with other values than before. -/
theorem mem_of_news?_eq_some {news : List String} (hs : sub.paths = some paths)
    (h : (sub.capture before).news? after wr = some news) :
    news ≠ [] ∧ ∀ c ∈ news, c ∈ paths ∧
      (Path.read (.object before) c).sameValue (Path.read (.object after) c) = false := by
  simp only [Captured.news?, Subscription.capture, hs, Option.map_some] at h
  split at h
  · cases h
  · next hne =>
    cases h
    refine ⟨hne, fun c hc => ?_⟩
    obtain ⟨entry, hentry, rfl⟩ := List.mem_map.mp hc
    obtain ⟨hmem, hchanged⟩ := List.mem_filter.mp hentry
    obtain ⟨path, hpath, rfl⟩ := List.mem_map.mp hmem
    exact ⟨hpath, by simpa using hchanged⟩

end DynamicForms
