import Mathlib.Data.Finset.Card
import Mathlib.Logic.Relation

/-!
# Reachability without going back

What is reached at all is reached without returning to where one has been, so a traversal
that marks its path misses nothing. Among finitely many places it comes to an end.
-/

namespace Foundation

universe u

variable {Place : Type u} {step : Place → Place → Prop}

/-- Reached by steps to places that are not on the path. -/
def ReachesOff (step : Place → Place → Prop) (path : List Place) : Place → Place → Prop :=
  Relation.ReflTransGen fun source target => step source target ∧ target ∉ path

theorem reachesOff_nil_iff {source target : Place} :
    ReachesOff step [] source target ↔ Relation.ReflTransGen step source target := by
  unfold ReachesOff
  simp only [List.not_mem_nil, not_false_eq_true, and_true]

/-- Whatever is reached from a place is reached without coming back to it. -/
theorem ReachesOff.notBack {path : List Place} {source target : Place}
    (reaches : ReachesOff step path source target) :
    ReachesOff step (path ++ [source]) source target := by
  induction reaches with
  | refl => exact .refl
  | @tail middle target _ stepped ih =>
      by_cases back : target = source
      · rw [back]
        exact .refl
      · refine Relation.ReflTransGen.tail ih ⟨stepped.1, ?_⟩
        rw [List.mem_append, List.mem_singleton, not_or]
        exact ⟨stepped.2, back⟩

section Finite

variable [DecidableEq Place]

/-- How many of the places are not on the path. -/
def offPath (places path : List Place) : Nat :=
  (places.toFinset \ path.toFinset).card

/-- Going to a place that is not on the path leaves fewer. -/
theorem offPath_lt {places path : List Place} {place : Place} (known : place ∈ places)
    (fresh : place ∉ path) : offPath places (path ++ [place]) < offPath places path := by
  apply Finset.card_lt_card
  rw [Finset.ssubset_iff_of_subset]
  · refine ⟨place, ?_, ?_⟩
    · simp [known, fresh]
    · simp
  · intro other otherMem
    simp only [List.toFinset_append, Finset.mem_sdiff, List.mem_toFinset, Finset.mem_union,
      not_or] at otherMem ⊢
    exact ⟨otherMem.1, otherMem.2.1⟩

end Finite

end Foundation
