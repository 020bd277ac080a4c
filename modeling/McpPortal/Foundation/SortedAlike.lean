import Mathlib.Data.List.Forall2
import Mathlib.Data.List.Sort
import Mathlib.Data.List.SplitBy

/-!
# Sorting and grouping side by side

Lists whose items are alike are sorted and grouped alike, if alike items compare alike.
-/

namespace Foundation

universe u v

variable {Left : Type u} {Right : Type v} {alike : Left → Right → Prop}

section Sorted

variable {before : Left → Left → Prop} {beforeToo : Right → Right → Prop} [DecidableRel before]
  [DecidableRel beforeToo]
  (agree : ∀ first second firstToo secondToo, alike first firstToo → alike second secondToo →
    (before first second ↔ beforeToo firstToo secondToo))
include agree

theorem forall₂_orderedInsert {left : List Left} {right : List Right} {item : Left} {itemToo : Right}
    (sameItem : alike item itemToo) (same : List.Forall₂ alike left right) :
    List.Forall₂ alike (left.orderedInsert before item) (right.orderedInsert beforeToo itemToo) := by
  induction same with
  | nil => exact .cons sameItem .nil
  | @cons head headToo _ _ first later ih =>
      have compared := agree item head itemToo headToo sameItem first
      rw [List.orderedInsert_cons, List.orderedInsert_cons]
      by_cases isBefore : before item head
      · rw [if_pos isBefore, if_pos (compared.mp isBefore)]
        exact .cons sameItem (.cons first later)
      · rw [if_neg isBefore, if_neg fun other => isBefore (compared.mpr other)]
        exact .cons first ih

theorem forall₂_insertionSort {left : List Left} {right : List Right}
    (same : List.Forall₂ alike left right) :
    List.Forall₂ alike (left.insertionSort before) (right.insertionSort beforeToo) := by
  induction same with
  | nil => exact .nil
  | cons first _ ih => exact forall₂_orderedInsert agree first ih

end Sorted

section Grouped

variable {joins : Left → Left → Bool} {joinsToo : Right → Right → Bool}
  (agree : ∀ first second firstToo secondToo, alike first firstToo → alike second secondToo →
    joins first second = joinsToo firstToo secondToo)
include agree

theorem forall₂_splitByLoop {left : List Left} {right : List Right} {item : Left} {itemToo : Right}
    {group : List Left} {groupToo : List Right} {groups : List (List Left)}
    {groupsToo : List (List Right)} (same : List.Forall₂ alike left right)
    (sameItem : alike item itemToo) (sameGroup : List.Forall₂ alike group groupToo)
    (sameGroups : List.Forall₂ (List.Forall₂ alike) groups groupsToo) :
    List.Forall₂ (List.Forall₂ alike) (List.splitBy.loop joins left item group groups)
      (List.splitBy.loop joinsToo right itemToo groupToo groupsToo) := by
  induction same generalizing item itemToo group groupToo groups groupsToo with
  | nil =>
      rw [List.splitBy.loop, List.splitBy.loop, List.forall₂_reverse_iff]
      exact .cons (List.forall₂_reverse_iff.mpr (.cons sameItem sameGroup)) sameGroups
  | @cons head headToo _ _ first _ ih =>
      have joined := agree item head itemToo headToo sameItem first
      rw [List.splitBy.loop, List.splitBy.loop, ← joined]
      split
      · exact ih first (.cons sameItem sameGroup) sameGroups
      · exact ih first .nil
          (.cons (List.forall₂_reverse_iff.mpr (.cons sameItem sameGroup)) sameGroups)

theorem forall₂_splitBy {left : List Left} {right : List Right}
    (same : List.Forall₂ alike left right) :
    List.Forall₂ (List.Forall₂ alike) (left.splitBy joins) (right.splitBy joinsToo) := by
  cases same with
  | nil => exact .nil
  | cons first later => exact forall₂_splitByLoop agree later first .nil .nil

end Grouped

end Foundation
