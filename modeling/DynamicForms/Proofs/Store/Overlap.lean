import DynamicForms.Proofs.Path.Lens
import DynamicForms.Proofs.Store.News

/-!
# `DynamicForms.Proofs.Store.Overlap` — what the filter by overlap sees

Before a write the store only asks those subscriptions what they see that watch a path overlapping the
written one. For whole paths nothing is lost by that, and nothing is asked in vain: two of them overlap
exactly if a write or a deletion at the one can change what is read at the other.

Reading, writing and deleting pass over empty segments, so what they touch is known for every spelling: of
the two lists of segments one begins the other. The filter, however, compares the paths as they are
written. A path with a doubled dot and the same path without it name one place and do not overlap.

## Contents
- `Path.Changes`: a write or a deletion at a path shows at another one.
- `Changes.not_apart`, `overlaps_of_changes`, `changes_of_overlaps`.
- `Path.IsSeen`, `isSeen`; `isSeen_city`, `not_overlaps_of_doubled_dot`.
-/

namespace DynamicForms
namespace Path

open Value (Object)

variable {path other : String} {data after : Object}

/-- A write or a deletion at a path changes what is read at another one. -/
inductive Changes (data : Object) (path other : String) : Prop
  /-- A value can be written that shows there. -/
  | write {v : Value} {after : Object} (hwrite : write? data path v = some after)
    (hread : read (.object after) other ≠ read (.object data) other) : Changes data path other
  /-- A deletion shows there. -/
  | delete (hread : read (.object (delete data path)) other ≠ read (.object data) other) :
    Changes data path other

/-- However the paths are spelled, what changes is not apart from what is written. -/
theorem Changes.not_apart (h : Changes data path other) :
    ¬ Apart (segments path) (segments other) := by
  intro hapart
  cases h with
  | write hwrite hread =>
    rw [write?_of_segments hapart.ne_nil.1, Option.some.injEq] at hwrite
    subst hwrite
    exact hread (sameAt_place_of_apart hapart data _).read_eq
  | delete hread => exact hread (sameAt_delete_of_apart hapart data).read_eq

/-- What changes overlaps what is written. -/
theorem overlaps_of_changes (hp : IsWhole path) (ho : IsWhole other) (h : Changes data path other) :
    overlaps path other = true := by
  by_contra hnot
  exact h.not_apart (apart_of_not_overlaps hp ho (Bool.not_eq_true _ ▸ hnot))

theorem read_nil_of_isWhole (ho : IsWhole other) : read (.object []) other = .absent := by
  obtain ⟨name, rest, hs⟩ := List.exists_cons_of_ne_nil (segments_ne_nil ho)
  rw [read_object ho, hs]
  rfl

/-- Some value has a null at the end of a way. -/
theorem exists_descend?_eq_null (way : List String) : ∃ v, descend? v way = some .null := by
  cases way with
  | nil => exact ⟨.null, rfl⟩
  | cons name rest => exact ⟨_, descend?_place [] (name :: rest) (List.cons_ne_nil _ _) .null⟩

/-- Where a path overlaps the written one a change can be seen, if only in data that was empty before. -/
theorem changes_of_overlaps (hp : IsWhole path) (ho : IsWhole other)
    (h : overlaps path other = true) : Changes [] path other := by
  have hplain : HasPlainNames [] := nofun
  have hwrite := fun v => write?_of_segments (segments_ne_nil hp) [] v
  -- it is enough to write something that can be read there
  have hshows : ∀ v found, found ≠ .absent →
      descend? (.object (place [] (segments path) v)) (segments other) = some found →
      Changes [] path other := by
    intro v found hfound hdescend
    refine .write (hwrite v) ?_
    rw [read_nil_of_isWhole ho, read_of_plain (hasPlainNames_place hplain path v) ho, hdescend]
    exact hfound
  rcases (overlaps_iff hp ho).mp h with ⟨more, hbelow⟩ | ⟨more, habove⟩
  · obtain ⟨v, hv⟩ := exists_descend?_eq_null more
    refine hshows v .null nofun ?_
    rw [← hbelow, descend?_place_of_below (segments_ne_nil hp), hv]
  · cases more with
    | nil =>
      refine hshows .null .null nofun ?_
      rw [List.append_nil] at habove
      rw [habove, descend?_place [] (segments path) (segments_ne_nil hp)]
    | cons name rest =>
      obtain ⟨inner, hinner⟩ := descend?_place_of_above (List.cons_ne_nil name rest) [] .null
      refine hshows .null (.object inner) nofun ?_
      rw [← habove, hinner]

/-! ## What the filter sees -/

/-- What the filter by overlap sees of the writes and deletions at a path. -/
structure IsSeen (path : String) : Prop where
  /-- However both paths are spelled, the segments of one begin those of the other where something
      changes. -/
  comparable : ∀ data other, Changes data path other →
    segments path <+: segments other ∨ segments other <+: segments path
  /-- Whole paths overlap exactly if something can change. -/
  overlaps_iff : IsWhole path → ∀ other, IsWhole other →
    (overlaps path other = true ↔ ∃ data, Changes data path other)
  /-- A subscription to whole paths that is skipped has nothing to miss. -/
  skipped : IsWhole path → ∀ (κ : Type) (sub : Subscription κ) (paths : List String),
    sub.paths = some paths → (∀ c ∈ paths, IsWhole c) → sub.watches path = false →
    ∀ wr : Write, wr.path? = some path → ∀ data, ∀ c ∈ paths,
      read (.object (wr.after data)) c = read (.object data) c

/-- **The filter misses no change between whole paths**, and sees none where there cannot be one. -/
theorem isSeen (path : String) : IsSeen path where
  comparable _ _ h := by
    by_contra hnot
    exact h.not_apart (not_or.mp hnot)
  overlaps_iff hp _ ho :=
    ⟨fun h => ⟨[], changes_of_overlaps hp ho h⟩, fun ⟨_, h⟩ => overlaps_of_changes hp ho h⟩
  skipped hp _ _ _ hs hwhole hnot _ hpath data :=
    read_after_of_not_watches hpath hp hs hwhole hnot data

/-- A subscription to the city is asked before a write to the address, which can change what it sees, and
    skipped before one to the addresses, which cannot. -/
theorem isSeen_city :
    (∃ data, Changes data "address" "address.city") ∧
      (⟨0, some ["address.city"], ()⟩ : Subscription Unit).watches "addresses" = false ∧
      ∀ data, read (.object ((Write.unregister "addresses").after data)) "address.city"
        = read (.object data) "address.city" := by
  have hcity : IsWhole "address.city" := by decide
  refine ⟨((isSeen "address").overlaps_iff (by decide) _ hcity).mp rfl, rfl, fun data => ?_⟩
  exact (isSeen "addresses").skipped (by decide) Unit ⟨0, some ["address.city"], ()⟩ _ rfl
    (List.forall_mem_singleton.mpr hcity) rfl (.unregister "addresses") rfl data _ List.mem_cons_self

/-- **With a doubled dot a change goes unseen**: the city is set, a subscription that watches it under
    another spelling reads another value and is skipped. -/
theorem not_overlaps_of_doubled_dot :
    (Write.set "address.city" (.text "Ruse")).after [] = [("address", .object [("city", .text "Ruse")])]
      ∧ Changes [] "address.city" "address..city"
      ∧ overlaps "address.city" "address..city" = false
      ∧ (⟨0, some ["address..city"], ()⟩ : Subscription Unit).watches "address.city" = false := by
  refine ⟨rfl, .write (v := .text "Ruse") rfl ?_, rfl, rfl⟩
  show Value.text "Ruse" ≠ Value.absent
  exact nofun

end Path
end DynamicForms
