import Mathlib.Order.UpperLower.Closure

/-!
# Guards over a preorder of details

A guard states what a caller must present. Details form a preorder in which
`demand ≤ grant` reads "the grant covers the demand", so a set of grants meets a
set of demands exactly when the demands lie in the lower closure of the grants.
A guard with nothing to demand answers with a fixed verdict instead.

The comparison theorems quantify over a family of grant sets rather than over
all sets, because an actual caller presents finitely many details. The family
only has to contain the empty set and the demand sets being compared.
-/

namespace Foundation

universe u

/-- What a caller must present, and the verdict when nothing is demanded. -/
@[ext]
structure Guard (Detail : Type u) where
  demands : Set Detail
  openByDefault : Prop

namespace Guard

variable {Detail : Type u} [Preorder Detail]

/-- The guard lets a caller holding `grants` through. -/
def Admits (guard : Guard Detail) (grants : Set Detail) : Prop :=
  (guard.demands = ∅ ∧ guard.openByDefault) ∨
    (guard.demands.Nonempty ∧ guard.demands ⊆ lowerClosure grants)

theorem admits_of_nonempty {guard : Guard Detail} {grants : Set Detail}
    (demanding : guard.demands.Nonempty) :
    guard.Admits grants ↔ guard.demands ⊆ lowerClosure grants := by
  simp [Admits, demanding, demanding.ne_empty]

theorem admits_of_empty {guard : Guard Detail} {grants : Set Detail}
    (undemanding : guard.demands = ∅) :
    guard.Admits grants ↔ guard.openByDefault := by
  simp [Admits, undemanding]

/-- Presenting more never turns a caller away. -/
theorem admits_mono {guard : Guard Detail} {grants moreGrants : Set Detail}
    (more : grants ⊆ moreGrants) (admitted : guard.Admits grants) :
    guard.Admits moreGrants := by
  rcases admitted with undemanding | ⟨demanding, met⟩
  · exact Or.inl undemanding
  · exact Or.inr ⟨demanding, met.trans (lowerClosure_mono more)⟩

/--
A guard that already demands something, or is open by default, admits whoever a
guard with more demands and no laxer default admits.
-/
theorem admits_of_admits_more {guard stricter : Guard Detail} {grants : Set Detail}
    (more : guard.demands ⊆ stricter.demands)
    (noLaxer : stricter.openByDefault → guard.openByDefault)
    (settled : guard.demands.Nonempty ∨ guard.openByDefault)
    (admitted : stricter.Admits grants) : guard.Admits grants := by
  rcases admitted with ⟨undemanding, stricterOpen⟩ | ⟨_, met⟩
  · have undemanded : guard.demands = ∅ := Set.subset_empty_iff.mp (undemanding ▸ more)
    exact Or.inl ⟨undemanded, noLaxer stricterOpen⟩
  · rcases guard.demands.eq_empty_or_nonempty with undemanded | demanding
    · rcases settled with demanding | guardOpen
      · exact absurd undemanded demanding.ne_empty
      · exact Or.inl ⟨undemanded, guardOpen⟩
    · exact Or.inr ⟨demanding, more.trans met⟩

section Comparison

variable {family : Set (Set Detail)}

/-- A guard admits the caller who presents exactly its demands. -/
theorem admits_own_demands {guard : Guard Detail} (demanding : guard.demands.Nonempty) :
    guard.Admits guard.demands :=
  Or.inr ⟨demanding, subset_lowerClosure⟩

theorem not_admits_empty {guard : Guard Detail} (demanding : guard.demands.Nonempty) :
    ¬guard.Admits ∅ := by
  rw [admits_of_nonempty demanding, lowerClosure_empty]
  intro met
  rcases demanding with ⟨demand, demandMem⟩
  exact met demandMem

/--
A guard lets through only callers who cover `demand`, exactly when one of its
own demands is at least as strong, or it demands nothing and is closed.
-/
theorem forces_iff {guard : Guard Detail} {demand : Detail}
    (emptyMem : ∅ ∈ family) (demandsMem : guard.demands ∈ family) :
    (∀ grants ∈ family, guard.Admits grants → demand ∈ lowerClosure grants) ↔
      demand ∈ lowerClosure guard.demands ∨
        (guard.demands = ∅ ∧ ¬guard.openByDefault) := by
  constructor
  · intro forces
    rcases guard.demands.eq_empty_or_nonempty with undemanding | demanding
    · right
      refine ⟨undemanding, fun guardOpen => ?_⟩
      have covered := forces ∅ emptyMem (Or.inl ⟨undemanding, guardOpen⟩)
      rw [lowerClosure_empty] at covered
      exact covered
    · exact Or.inl (forces guard.demands demandsMem (admits_own_demands demanding))
  · rintro (covered | ⟨undemanding, closed⟩) grants _ admitted
    · have demanding : guard.demands.Nonempty := by
        rcases mem_lowerClosure.mp covered with ⟨stronger, strongerMem, _⟩
        exact ⟨stronger, strongerMem⟩
      have met := (admits_of_nonempty demanding).mp admitted
      exact lowerClosure_le.mpr met covered
    · exact absurd ((admits_of_empty undemanding).mp admitted) closed

/--
One guard admits only whom another with the same default admits exactly when the
other demands nothing that it does not imply, and would not turn away a caller it
has no demand for; or when it is closed to everyone.
-/
theorem stricter_iff {guard original : Guard Detail}
    (sameDefault : guard.openByDefault ↔ original.openByDefault)
    (emptyMem : ∅ ∈ family) (demandsMem : guard.demands ∈ family) :
    (∀ grants ∈ family, guard.Admits grants → original.Admits grants) ↔
      (original.demands ⊆ lowerClosure guard.demands ∧
          (original.demands.Nonempty ∨ original.openByDefault)) ∨
        (guard.demands = ∅ ∧ ¬guard.openByDefault) := by
  constructor
  · intro stricter
    rcases guard.demands.eq_empty_or_nonempty with undemanding | demanding
    · by_cases guardOpen : guard.openByDefault
      · left
        have admitted := stricter ∅ emptyMem (Or.inl ⟨undemanding, guardOpen⟩)
        rcases admitted with ⟨originalUndemanding, _⟩ | ⟨originalDemanding, met⟩
        · exact ⟨by simp [originalUndemanding], Or.inr (sameDefault.mp guardOpen)⟩
        · exact absurd (Or.inr ⟨originalDemanding, met⟩) (not_admits_empty originalDemanding)
      · exact Or.inr ⟨undemanding, guardOpen⟩
    · left
      have admitted := stricter guard.demands demandsMem (admits_own_demands demanding)
      rcases admitted with ⟨originalUndemanding, originalOpen⟩ | ⟨originalDemanding, implied⟩
      · exact ⟨by simp [originalUndemanding], Or.inr originalOpen⟩
      · exact ⟨implied, Or.inl originalDemanding⟩
  · rintro (⟨implied, settled⟩ | ⟨undemanding, closed⟩) grants _ admitted
    · rcases original.demands.eq_empty_or_nonempty with originalUndemanding | originalDemanding
      · rcases settled with originalDemanding | originalOpen
        · exact absurd originalUndemanding originalDemanding.ne_empty
        · exact Or.inl ⟨originalUndemanding, originalOpen⟩
      · rcases originalDemanding with ⟨demand, demandMem⟩
        rcases mem_lowerClosure.mp (implied demandMem) with ⟨stronger, strongerMem, _⟩
        have met := (admits_of_nonempty ⟨stronger, strongerMem⟩).mp admitted
        exact Or.inr ⟨⟨demand, demandMem⟩, implied.trans (lowerClosure_le.mpr met)⟩
    · exact absurd ((admits_of_empty undemanding).mp admitted) closed

/--
Dropping demands is harmless exactly when the kept ones still imply all of
them, or nothing is kept and the guard is then closed to everyone.
-/
theorem no_looser_iff {kept original : Guard Detail}
    (fewer : kept.demands ⊆ original.demands)
    (sameDefault : kept.openByDefault ↔ original.openByDefault)
    (emptyMem : ∅ ∈ family) (keptMem : kept.demands ∈ family) :
    (∀ grants ∈ family, kept.Admits grants → original.Admits grants) ↔
      original.demands ⊆ lowerClosure kept.demands ∨
        (kept.demands = ∅ ∧ ¬kept.openByDefault) := by
  rw [stricter_iff sameDefault emptyMem keptMem]
  constructor
  · rintro (⟨implied, _⟩ | closed)
    · exact Or.inl implied
    · exact Or.inr closed
  · rintro (implied | closed)
    · rcases kept.demands.eq_empty_or_nonempty with undemanding | demanding
      · by_cases keptOpen : kept.openByDefault
        · exact Or.inl ⟨implied, Or.inr (sameDefault.mp keptOpen)⟩
        · exact Or.inr ⟨undemanding, keptOpen⟩
      · exact Or.inl ⟨implied, Or.inl (demanding.mono fewer)⟩
    · exact Or.inr closed

/-- Two guards with one default agree on every caller exactly when each implies the other. -/
theorem agree_iff {left right : Guard Detail}
    (sameDefault : left.openByDefault ↔ right.openByDefault)
    (emptyMem : ∅ ∈ family) (leftMem : left.demands ∈ family)
    (rightMem : right.demands ∈ family) :
    (∀ grants ∈ family, left.Admits grants ↔ right.Admits grants) ↔
      left.demands ⊆ lowerClosure right.demands ∧
        right.demands ⊆ lowerClosure left.demands := by
  constructor
  · intro agree
    rcases left.demands.eq_empty_or_nonempty with leftEmpty | leftDemanding
    · rcases right.demands.eq_empty_or_nonempty with rightEmpty | rightDemanding
      · simp [leftEmpty, rightEmpty]
      · exfalso
        have viaEmpty := agree ∅ emptyMem
        have viaRight := agree right.demands rightMem
        rw [admits_of_empty leftEmpty] at viaEmpty viaRight
        exact not_admits_empty rightDemanding
          (viaEmpty.mp (viaRight.mpr (admits_own_demands rightDemanding)))
    · rcases right.demands.eq_empty_or_nonempty with rightEmpty | rightDemanding
      · exfalso
        have viaEmpty := agree ∅ emptyMem
        have viaLeft := agree left.demands leftMem
        rw [admits_of_empty rightEmpty] at viaEmpty viaLeft
        exact not_admits_empty leftDemanding
          (viaEmpty.mpr (viaLeft.mp (admits_own_demands leftDemanding)))
      · constructor
        · exact (admits_of_nonempty leftDemanding).mp
            ((agree right.demands rightMem).mpr (admits_own_demands rightDemanding))
        · exact (admits_of_nonempty rightDemanding).mp
            ((agree left.demands leftMem).mp (admits_own_demands leftDemanding))
  · rintro ⟨leftImplied, rightImplied⟩ grants _
    rcases left.demands.eq_empty_or_nonempty with leftEmpty | leftDemanding
    · have rightEmpty : right.demands = ∅ := by
        rw [leftEmpty, lowerClosure_empty] at rightImplied
        exact Set.subset_empty_iff.mp rightImplied
      rw [admits_of_empty leftEmpty, admits_of_empty rightEmpty, sameDefault]
    · have rightDemanding : right.demands.Nonempty := by
        rcases leftDemanding with ⟨demand, demandMem⟩
        rcases mem_lowerClosure.mp (leftImplied demandMem) with ⟨stronger, strongerMem, _⟩
        exact ⟨stronger, strongerMem⟩
      rw [admits_of_nonempty leftDemanding, admits_of_nonempty rightDemanding]
      constructor
      · intro met
        exact rightImplied.trans (lowerClosure_le.mpr met)
      · intro met
        exact leftImplied.trans (lowerClosure_le.mpr met)

end Comparison

end Guard

end Foundation
