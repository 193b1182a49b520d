import DynamicForms.Proofs.Store.News
import DynamicForms.Proofs.Visibility.Visible

/-!
# `DynamicForms.Proofs.Visibility.Watched` — a form is visible as its conditions read it

Change detection takes more for the same than is the same: a list with a one in it and a list with a true
in it, or the two zeros. No condition tells such values apart. So the visible part of a form is settled by
what change detection sees at the paths of all conditions, and a tracker that is told nothing has nothing
to bring up to date.

## Contents
- `Item.visibleTable_congr_of_sameValue`.
- `Item.ReadAtConditions`, `readAtConditions`; `Item.tagForm`.
-/

namespace DynamicForms.Item

open Value (Object)
open Path (IsWhole)

variable {items : List Item} {data data' : Value}

/-- The visible part is the same if change detection takes what the conditions read for the same. -/
theorem visibleTable_congr_of_sameValue
    (h : ∀ c ∈ conditionPaths ((nodes items).map (·.item)),
      (Path.read data c).sameValue (Path.read data' c) = true) :
    visibleTable items data = visibleTable items data' :=
  visibleTable_congr_of_conditionPaths fun c hc => Value.Indistinct.interchangeable (Or.inr (h c hc))

/-- The visible part of a form depends on what change detection sees at the paths of its conditions. -/
structure ReadAtConditions (items : List Item) : Prop where
  /-- Where it sees no difference, the same items are visible, in the same order. -/
  visible_eq : ∀ data data' : Value,
    (∀ c ∈ conditionPaths ((nodes items).map (·.item)),
      (Path.read data c).sameValue (Path.read data' c) = true) →
    visibleTable items data = visibleTable items data'
  /-- So nothing appears and nothing goes when a subscription to these paths gets no news. -/
  no_news : ∀ (κ : Type) (sub : Subscription κ) (wr : Write) (before after : Object),
    sub.paths = some (conditionPaths ((nodes items).map (·.item))) →
    (sub.capture before).news? after wr = none →
    visibleTable items (.object after) = visibleTable items (.object before)
  /-- Nor does it when the subscription is not asked at all: where the paths are whole, a write at a path
      that it does not watch cannot be seen. -/
  not_watched : ∀ (κ : Type) (sub : Subscription κ) (wr : Write) (path : String) (data : Object),
    sub.paths = some (conditionPaths ((nodes items).map (·.item))) →
    (∀ c ∈ conditionPaths ((nodes items).map (·.item)), IsWhole c) →
    wr.path? = some path → IsWhole path → sub.watches path = false →
    visibleTable items (.object (wr.after data)) = visibleTable items (.object data)
  /-- Where no two items have one path, these are the paths that a tracker of the form watches. -/
  watched_eq : ((nodes items).map (·.path)).Nodup → ∀ registers,
    (Tracker.ofItems items registers).watched = conditionPaths ((nodes items).map (·.item))

/-- **What is visible is decided at the paths of the conditions**, by what change detection sees there. -/
theorem readAtConditions (items : List Item) : ReadAtConditions items where
  visible_eq _ _ h := visibleTable_congr_of_sameValue h
  no_news _ _ _ _ _ hs hnone :=
    (visibleTable_congr_of_sameValue ((news?_eq_none_iff hs).mp hnone)).symm
  not_watched _ _ _ _ data hs hwhole hpath hp hnot :=
    visibleTable_congr_of_conditionPaths fun c hc => by
      rw [read_after_of_not_watches hpath hp hs hwhole hnot data c hc]
      exact Value.Interchangeable.refl _
  watched_eq h _ := watchedPaths_eq h

/-- A form in which `note` asks for `tags` to contain "urgent". -/
def tagForm : List Item :=
  [.field { (default : Field) with id := "tags" },
   .field { (default : Field) with
    id := "note", visibility := some ⟨"tags", .contains, .one "urgent"⟩ }]

/-- A one and a true among the tags are taken for the same, and the note is visible with either. -/
theorem readAtConditions_tags :
    (∀ c ∈ conditionPaths ((nodes tagForm).map (·.item)),
      (Path.read (.object [("tags", .list [.text "urgent", .int 1])]) c).sameValue
        (Path.read (.object [("tags", .list [.text "urgent", .bool true])]) c) = true) ∧
      visibleTable tagForm (.object [("tags", .list [.text "urgent", .int 1])])
        = visibleTable tagForm (.object [("tags", .list [.text "urgent", .bool true])]) := by
  have hsame : ∀ c ∈ conditionPaths ((nodes tagForm).map (·.item)),
      (Path.read (.object [("tags", .list [.text "urgent", .int 1])]) c).sameValue
        (Path.read (.object [("tags", .list [.text "urgent", .bool true])]) c) = true := by decide +kernel
  exact ⟨hsame, (readAtConditions tagForm).visible_eq _ _ hsame⟩

end DynamicForms.Item
