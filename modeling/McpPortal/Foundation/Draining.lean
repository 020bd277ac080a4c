import Mathlib.Algebra.BigOperators.Group.Finset.Basic
import Mathlib.Algebra.Order.BigOperators.Group.Finset
import McpPortal.Foundation.Machine

/-!
# Machines that come to rest

Some actions of a machine are work, which uses up a rank; others may be taken meanwhile and
leave the rank alone. However these are mixed, only so much work can be done, and work can go on
until none is possible. The rank of parties that each have some work left is its sum.
-/

namespace Foundation

universe u v w x

namespace Machine

variable {State : Type u} {Action : Type v} {machine : Machine State Action}

/-- Work lowers the rank, other actions do not raise it, and neither leaves the states meant. -/
structure Draining (machine : Machine State Action) (inside : State → Prop)
    (isWork isOther : Action → Prop) (rank : State → Nat) : Prop where
  work : ∀ {state action next}, inside state → isWork action →
    machine.step state action = some next → inside next ∧ rank next < rank state
  other : ∀ {state action next}, inside state → isOther action →
    machine.step state action = some next → inside next ∧ rank next ≤ rank state

namespace Draining

variable {inside : State → Prop} {isWork isOther : Action → Prop} {rank : State → Nat}

/-- A run does no more work than the rank it starts from. -/
theorem countP_le [DecidablePred isWork]
    (draining : machine.Draining inside isWork isOther rank) {actions : List Action}
    (allowed : ∀ action ∈ actions, isWork action ∨ isOther action) {state final : State}
    (isInside : inside state) (ran : machine.run state actions = some final) :
    inside final ∧ actions.countP (fun action => isWork action) + rank final ≤ rank state := by
  induction actions generalizing state with
  | nil =>
      cases ran
      exact ⟨isInside, by simp⟩
  | cons action rest ih =>
      rw [List.forall_mem_cons] at allowed
      rw [run, Option.bind_eq_some_iff] at ran
      rcases ran with ⟨next, stepped, later⟩
      rw [List.countP_cons]
      by_cases works : isWork action
      · have used := draining.work isInside works stepped
        have rests := ih allowed.2 used.1 later
        refine ⟨rests.1, ?_⟩
        rw [if_pos (decide_eq_true works)]
        omega
      · have kept := draining.other isInside (allowed.1.resolve_left works) stepped
        have rests := ih allowed.2 kept.1 later
        refine ⟨rests.1, ?_⟩
        rw [if_neg (by simpa using works)]
        omega

/-- Work can go on until none is possible. -/
theorem exists_rest (draining : machine.Draining inside isWork isOther rank) {state : State}
    (isInside : inside state) :
    ∃ actions final, (∀ action ∈ actions, isWork action) ∧
      machine.run state actions = some final ∧
      ∀ action, isWork action → machine.step final action = none := by
  induction left : rank state using Nat.strong_induction_on generalizing state with
  | _ left ih =>
      by_cases rests : ∀ action, isWork action → machine.step state action = none
      · exact ⟨[], state, nofun, rfl, rests⟩
      · simp only [not_forall] at rests
        rcases rests with ⟨action, works, possible⟩
        rcases Option.ne_none_iff_exists'.mp possible with ⟨next, stepped⟩
        have used := draining.work isInside works stepped
        rcases ih (rank next) (left ▸ used.2) used.1 rfl with ⟨actions, final, all, ran, resting⟩
        refine ⟨action :: actions, final, List.forall_mem_cons.mpr ⟨works, all⟩, ?_, resting⟩
        rw [run, stepped]
        exact ran

end Draining

variable {Party : Type w} {Place : Type x} [DecidableEq Party]

/--
Every party starts idle, work brings one party on and other actions none, and a machine at rest
leaves none with work.
-/
structure Serving (machine : Machine State Action) (isWork isOther : Action → Prop)
    (places : State → Party → Place) (idle : Place) (isPending : Place → Prop)
    (left : Place → Nat) : Prop where
  initially : ∀ party, places machine.start party = idle
  moves : ∀ {state action next}, machine.Reached state → machine.step state action = some next →
    places next = places state ∨
      ∃ party place, places next = Function.update (places state) party place
  work : ∀ {state action next}, machine.Reached state → isWork action →
    machine.step state action = some next → ∃ party place,
      places next = Function.update (places state) party place ∧
        left place < left (places state party)
  other : ∀ {state action next}, machine.Reached state → isOther action →
    machine.step state action = some next → places next = places state
  rests : ∀ {state}, machine.Reached state →
    (∀ action, isWork action → machine.step state action = none) →
    ∀ party, left (places state party) = 0
  pending : ∀ {state}, machine.Reached state →
    ∀ party, isPending (places state party) ↔ left (places state party) ≠ 0
  idle_left : left idle = 0

/-- What one party uses up is used up of the sum. -/
theorem sum_left_update_lt {left : Place → Nat} {parties : Finset Party} {places : Party → Place}
    {party : Party} {place : Place} (isParty : party ∈ parties)
    (less : left place < left (places party)) :
    ∑ other ∈ parties, left (Function.update places party place other) <
      ∑ other ∈ parties, left (places other) := by
  apply Finset.sum_lt_sum
  · intro other _
    by_cases same : other = party
    · subst other
      rw [Function.update_self]
      exact less.le
    · rw [Function.update_of_ne same]
  · exact ⟨party, isParty, by rwa [Function.update_self]⟩

namespace Serving

variable {isWork isOther : Action → Prop} {places : State → Party → Place} {idle : Place}
  {isPending : Place → Prop} {left : Place → Nat}

/-- The rank of finitely many parties is what they have left together. -/
theorem draining (serving : machine.Serving isWork isOther places idle isPending left)
    (parties : Finset Party) :
    machine.Draining
      (fun state => machine.Reached state ∧ ∀ party ∉ parties, left (places state party) = 0)
      isWork isOther (fun state => ∑ party ∈ parties, left (places state party)) := by
  constructor
  · rintro state action next ⟨reached, outside⟩ works stepped
    rcases serving.work reached works stepped with ⟨party, place, moved, less⟩
    have isParty : party ∈ parties := by
      by_contra isOut
      rw [outside party isOut] at less
      exact Nat.not_lt_zero _ less
    rw [moved]
    refine ⟨⟨.step action reached trivial stepped, ?_⟩, sum_left_update_lt isParty less⟩
    intro other isOut
    rw [Function.update_of_ne (fun same : other = party => isOut (same ▸ isParty))]
    exact outside other isOut
  · rintro state action next ⟨reached, outside⟩ isOther stepped
    rw [serving.other reached isOther stepped]
    exact ⟨⟨.step action reached trivial stepped, outside⟩, Nat.le_refl _⟩

/-- Only finitely many parties have left the place they start from. -/
theorem exists_moved (serving : machine.Serving isWork isOther places idle isPending left)
    {state : State} (reached : machine.Reached state) :
    ∃ parties : Finset Party, ∀ party ∉ parties, places state party = idle := by
  induction reached with
  | start => exact ⟨∅, fun party _ => serving.initially party⟩
  | step action before _ stepped ih =>
    rcases ih with ⟨parties, others⟩
    rcases serving.moves before stepped with kept | ⟨party, place, moved⟩
    · rw [kept]
      exact ⟨parties, others⟩
    · refine ⟨insert party parties, ?_⟩
      intro other outside
      rw [Finset.mem_insert, not_or] at outside
      rw [moved, Function.update_of_ne outside.1]
      exact others other outside.2

/--
However the actions are mixed, so much work is done at most, and where no more is possible no
party is pending. Work alone leads there.
-/
theorem completes [DecidablePred isWork]
    (serving : machine.Serving isWork isOther places idle isPending left) {most : Nat}
    (bounded : ∀ place, left place ≤ most) {state : State} (reached : machine.Reached state) :
    ∃ pending : Finset Party, (∀ party, party ∈ pending ↔ isPending (places state party)) ∧
      (∀ actions final, (∀ action ∈ actions, isWork action ∨ isOther action) →
        machine.run state actions = some final →
        actions.countP (fun action => isWork action) ≤ most * pending.card ∧
          ((∀ action, isWork action → machine.step final action = none) →
            ∀ party, ¬isPending (places final party))) ∧
      ∃ actions final, (∀ action ∈ actions, isWork action) ∧
        machine.run state actions = some final ∧ ∀ party, ¬isPending (places final party) := by
  classical
  rcases serving.exists_moved reached with ⟨parties, others⟩
  have isPending_iff : ∀ party,
      party ∈ parties.filter (fun party => isPending (places state party)) ↔
        isPending (places state party) := by
    intro party
    rw [Finset.mem_filter, and_iff_right_iff_imp, serving.pending reached]
    intro some
    by_contra outside
    exact some (others party outside ▸ serving.idle_left)
  have outside : ∀ party ∉ parties.filter (fun party => isPending (places state party)),
      left (places state party) = 0 := by
    intro party isOut
    rwa [isPending_iff, serving.pending reached, not_not] at isOut
  have draining := serving.draining (parties.filter fun party => isPending (places state party))
  have total : ∑ party ∈ parties.filter (fun party => isPending (places state party)),
      left (places state party) ≤
        most * (parties.filter fun party => isPending (places state party)).card := by
    rw [Nat.mul_comm]
    exact Finset.sum_le_card_nsmul _ _ _ fun party _ => bounded _
  have ended : ∀ {final}, machine.Reached final →
      (∀ action, isWork action → machine.step final action = none) →
        ∀ party, ¬isPending (places final party) := by
    intro final later resting party
    rw [serving.pending later, not_not]
    exact serving.rests later resting party
  refine ⟨_, isPending_iff, ?_, ?_⟩
  · intro actions final allowed ran
    have rests := draining.countP_le allowed ⟨reached, outside⟩ ran
    exact ⟨by omega, ended rests.1.1⟩
  · rcases draining.exists_rest ⟨reached, outside⟩ with ⟨actions, final, all, ran, resting⟩
    have rests :=
      draining.countP_le (fun action mem => Or.inl (all action mem)) ⟨reached, outside⟩ ran
    exact ⟨actions, final, all, ran, ended rests.1.1 resting⟩

end Serving

end Machine

end Foundation
