import DynamicForms.Lookup.Worker
import DynamicForms.Proofs.Entries
import DynamicForms.Proofs.Value.Equality

/-!
# `DynamicForms.Proofs.Lookup.Key` — when the request of a worker fits the form

What a worker should be asking for depends on nothing but the values at the paths of its dependencies.
A worker fits some data if its current request has just the key that its lookup is ready for, and if it
has none while the lookup is not ready.

While the values are simple, change detection takes no two different ones for the same; so a worker that
is told of no change keeps fitting. And a key of simple values can always be written.

## Contents
- **Keys.** `requestKey?_congr`, `requestKey?_eq_none_iff`, `exists_not_filledIn`,
  `exists_requestKey?`.
- `Worker.Fits`.
-/

namespace DynamicForms

open Value (Object)

/-! ## Keys -/

namespace Json

/-- A simple value can be written if it is there. -/
theorem exists_write?_of_simple (style : Style) {v : Value} (h : v.isSimple = true)
    (hv : v ≠ .absent) : ∃ text, write? style v = some text := by
  cases v with
  | absent => exact absurd rfl hv
  | null => exact ⟨_, by rw [write?]⟩
  | bool b => cases b <;> exact ⟨_, by rw [write?]⟩
  | int n => exact ⟨_, by rw [write?]⟩
  | text s => exact ⟨_, by rw [write?]⟩
  | _ => cases h

theorem exists_writeFields?_of_simple (style : Style) {fields : Object}
    (h : ∀ entry ∈ fields, entry.2.isSimple = true ∧ entry.2 ≠ .absent) :
    ∃ text, writeFields? style fields = some text := by
  induction fields with
  | nil => exact ⟨[], by rw [writeFields?]⟩
  | cons entry rest ih =>
    obtain ⟨hsimple, hthere⟩ := h entry List.mem_cons_self
    obtain ⟨first, hfirst⟩ := exists_write?_of_simple style hsimple hthere
    obtain ⟨more, hmore⟩ := ih fun other ho => h other (List.mem_cons_of_mem _ ho)
    exact ⟨_, by rw [writeFields?, hfirst, hmore]; rfl⟩

/-- So can an object of such values. -/
theorem exists_text?_of_simple (style : Style) {fields : Object}
    (h : ∀ entry ∈ fields, entry.2.isSimple = true ∧ entry.2 ≠ .absent) :
    ∃ text, text? style (.object fields) = some text := by
  cases fields with
  | nil => exact ⟨_, by rw [text?, write?]; rfl⟩
  | cons entry rest =>
    obtain ⟨hsimple, hthere⟩ := h entry List.mem_cons_self
    obtain ⟨first, hfirst⟩ := exists_write?_of_simple style hsimple hthere
    obtain ⟨more, hmore⟩ :=
      exists_writeFields?_of_simple style fun other ho => h other (List.mem_cons_of_mem _ ho)
    exact ⟨_, by rw [text?, write?, hfirst, hmore]; rfl⟩

end Json

namespace Lookup

variable {l : Lookup} {data other : Object} {path : String}

theorem values_congr
    (h : ∀ path ∈ l.dependencyPaths,
      Path.read (.object data) path = Path.read (.object other) path) :
    l.values data = l.values other := by
  unfold values
  exact List.map_congr_left fun r hr => h r.path (List.mem_map_of_mem hr)

/-- The key depends only on the values at the paths of the dependencies. -/
theorem requestKey?_congr
    (h : ∀ path ∈ l.dependencyPaths,
      Path.read (.object data) path = Path.read (.object other) path) :
    l.requestKey? data = l.requestKey? other := by
  have hready : l.isReady data = l.isReady other := by
    unfold isReady
    rw [values_congr h]
  have hparams : l.params data = l.params other := by
    unfold params
    congr 1
    exact List.map_congr_left fun r hr => by rw [h r.path (List.mem_map_of_mem hr)]
  unfold requestKey?
  rw [hready, hparams]

theorem mem_values (h : path ∈ l.dependencyPaths) (data : Object) :
    Path.read (.object data) path ∈ l.values data := by
  obtain ⟨r, hr, rfl⟩ := List.mem_map.mp h
  exact List.mem_map.mpr ⟨r, hr, rfl⟩

theorem requestKey?_eq_none_iff : l.requestKey? data = .ok none ↔ l.isReady data = false := by
  unfold requestKey?
  cases l.isReady data with
  | false => simp
  | true =>
    rw [if_pos rfl]
    cases DynamicForms.requestKey? (l.params data) <;> simp

/-- A lookup is not ready while something it depends on is not filled in. -/
theorem requestKey?_of_not_filledIn (h : path ∈ l.dependencyPaths)
    (hempty : (Path.read (.object data) path).isFilledIn = false) :
    l.requestKey? data = .ok none := by
  rw [requestKey?_eq_none_iff, isReady, Bool.and_eq_false_iff, List.all_eq_false]
  exact Or.inr ⟨_, mem_values h data, by simp [hempty]⟩

/-- A lookup that is not ready depends on nothing, or on something that is not filled in. -/
theorem exists_not_filledIn (h : l.isReady data = false) :
    l.dependsOn = [] ∨ ∃ path ∈ l.dependencyPaths,
      (Path.read (.object data) path).isFilledIn = false := by
  rw [isReady, Bool.and_eq_false_iff] at h
  rcases h with hnothing | hnot
  · left
    simpa [values] using hnothing
  · right
    obtain ⟨v, hv, hempty⟩ := List.all_eq_false.mp hnot
    obtain ⟨r, hr, rfl⟩ := List.mem_map.mp hv
    exact ⟨r.path, List.mem_map_of_mem hr, by simpa using hempty⟩

theorem requestKey?_of_no_dependencies (h : l.dependsOn = []) (data : Object) :
    l.requestKey? data = .ok none := by
  rw [requestKey?_eq_none_iff, isReady, values, h]
  rfl

theorem isUnregistered_of_absent (h : path ∈ l.dependencyPaths)
    (habsent : Path.read (.object data) path = .absent) : l.isUnregistered data = true := by
  rw [isUnregistered, Bool.or_eq_true, List.any_eq_true]
  exact Or.inr ⟨_, mem_values h data, by rw [habsent]; rfl⟩

/-- While everything that a lookup depends on is simple, its key can be written. -/
theorem exists_requestKey? (h : ∀ path ∈ l.dependencyPaths,
    (Path.read (.object data) path).isSimple = true) :
    ∃ found, l.requestKey? data = .ok found := by
  unfold requestKey?
  cases hready : l.isReady data with
  | false => exact ⟨none, rfl⟩
  | true =>
    have hparams : ∀ entry ∈ l.params data, entry.2.isSimple = true ∧ entry.2 ≠ .absent := by
      intro entry hentry
      obtain ⟨r, hr, rfl⟩ := List.mem_map.mp (Entries.mem_ofPairs hentry)
      refine ⟨h r.path (List.mem_map_of_mem hr), fun habsent => ?_⟩
      rw [isReady, Bool.and_eq_true, List.all_eq_true] at hready
      have hfilled := hready.2 _ (mem_values (List.mem_map_of_mem hr) data)
      rw [show Path.read (.object data) r.path = .absent from habsent] at hfilled
      cases hfilled
    obtain ⟨text, htext⟩ := Json.exists_text?_of_simple Json.Style.compact hparams
    refine ⟨some text, ?_⟩
    rw [if_pos rfl, DynamicForms.requestKey?, htext]

end Lookup

/-- The current request of a worker is the one that its lookup is ready for, and there is none while it
    is not ready. -/
def Worker.Fits (worker : Worker) (data : Object) : Prop :=
  worker.lookup.requestKey? data = .ok (worker.current.map (·.key))

theorem Worker.Fits.congr {worker : Worker} {data other : Object} (h : worker.Fits data)
    (hsame : ∀ path ∈ worker.lookup.dependencyPaths,
      Path.read (.object data) path = Path.read (.object other) path) : worker.Fits other := by
  unfold Worker.Fits
  rw [← Lookup.requestKey?_congr hsame]
  exact h

theorem Worker.Fits.current_eq_none_iff {worker : Worker} {data : Object} (h : worker.Fits data) :
    worker.current = none ↔ worker.lookup.isReady data = false := by
  rw [← Lookup.requestKey?_eq_none_iff, h]
  simp

end DynamicForms
