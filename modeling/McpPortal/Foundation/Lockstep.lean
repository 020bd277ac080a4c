import Mathlib.Data.List.Forall2
import McpPortal.Foundation.Machine

/-!
# Computations and machines side by side

Two computations agree if they raise the same, or return values that are alike. Two machines are
in lockstep if alike states take the same actions to alike states; then they take the same runs.
-/

namespace Foundation

universe u v w

section Agree

variable {Error : Type u} {Left Right Left' Right' : Type v} {Item : Type w}

/-- The same error, or values that are alike. -/
inductive Agree (alike : Left → Right → Prop) : Except Error Left → Except Error Right → Prop
  | error (problem : Error) : Agree alike (.error problem) (.error problem)
  | ok {left : Left} {right : Right} (same : alike left right) : Agree alike (.ok left) (.ok right)

variable {alike : Left → Right → Prop} {alike' : Left' → Right' → Prop}

theorem Agree.refl (result : Except Error Left) : Agree Eq result result := by
  cases result with
  | error problem => exact .error problem
  | ok value => exact .ok rfl

/-- How two computations that agree end. -/
theorem Agree.outcomes {left : Except Error Left} {right : Except Error Right}
    (agree : Agree alike left right) :
    (∃ problem, left = .error problem ∧ right = .error problem) ∨
      ∃ value valueToo, left = .ok value ∧ right = .ok valueToo ∧ alike value valueToo := by
  cases agree with
  | error problem => exact Or.inl ⟨problem, rfl, rfl⟩
  | ok same => exact Or.inr ⟨_, _, rfl, rfl, same⟩

theorem Agree.imp {alike' : Left → Right → Prop} {left : Except Error Left}
    {right : Except Error Right} (agree : Agree alike left right)
    (implies : ∀ {left right}, alike left right → alike' left right) : Agree alike' left right := by
  cases agree with
  | error problem => exact .error problem
  | ok same => exact .ok (implies same)

theorem Agree.bind {left : Except Error Left} {right : Except Error Right}
    {leftNext : Left → Except Error Left'} {rightNext : Right → Except Error Right'}
    (agree : Agree alike left right)
    (continues : ∀ {left right}, alike left right → Agree alike' (leftNext left) (rightNext right)) :
    Agree alike' (left >>= leftNext) (right >>= rightNext) := by
  cases agree with
  | error problem => exact .error problem
  | ok same => exact continues same

theorem Agree.mapError {Other : Type u} {left : Except Error Left} {right : Except Error Right}
    (agree : Agree alike left right) (convert : Error → Other) :
    Agree alike (left.mapError convert) (right.mapError convert) := by
  cases agree with
  | error problem => exact .error (convert problem)
  | ok same => exact .ok same

/-- Loops over items that are paired agree where each turn does. -/
theorem Agree.mapM_of_forall₂ {ItemToo : Type w} {left : Item → Except Error Left}
    {right : ItemToo → Except Error Right} {items : List Item} {itemsToo : List ItemToo}
    (agree : List.Forall₂ (fun item itemToo => Agree alike (left item) (right itemToo)) items
      itemsToo) :
    Agree (List.Forall₂ alike) (items.mapM left) (itemsToo.mapM right) := by
  induction agree with
  | nil => exact .ok .nil
  | cons first _ ih =>
      rw [List.mapM_cons, List.mapM_cons]
      apply Agree.bind first
      intro value valueToo same
      apply Agree.bind ih
      intro later laterToo sameToo
      exact .ok (.cons same sameToo)

/-- Loops over the same items agree where each turn does. -/
theorem Agree.mapM {left : Item → Except Error Left} {right : Item → Except Error Right}
    (items : List Item) (agree : ∀ item ∈ items, Agree alike (left item) (right item)) :
    Agree (List.Forall₂ alike) (items.mapM left) (items.mapM right) :=
  mapM_of_forall₂ (List.forall₂_same.mpr agree)

end Agree

section Rel

variable {Left Left' : Type u} {Right Right' : Type v} {alike : Left → Right → Prop}
  {alike' : Left' → Right' → Prop} {left : Option Left} {right : Option Right}

theorem rel_bind {leftNext : Left → Option Left'} {rightNext : Right → Option Right'}
    (same : Option.Rel alike left right)
    (continues : ∀ {left right}, alike left right →
      Option.Rel alike' (leftNext left) (rightNext right)) :
    Option.Rel alike' (left.bind leftNext) (right.bind rightNext) := by
  cases same with
  | some alike => exact continues alike
  | none => exact .none

/-- The same value, used in two ways that agree. -/
theorem rel_bind_same {Value : Type w} {value : Option Value} {leftNext : Value → Option Left}
    {rightNext : Value → Option Right}
    (continues : ∀ value, Option.Rel alike (leftNext value) (rightNext value)) :
    Option.Rel alike (value.bind leftNext) (value.bind rightNext) := by
  cases value with
  | some value => exact continues value
  | none => exact .none

end Rel

section Lockstep

variable {Left : Type u} {Right : Type v} {Action : Type w} {alike : Left → Right → Prop}

/-- Alike states take the same actions, and to alike states. -/
def Lockstep (alike : Left → Right → Prop) (left : Left → Action → Option Left)
    (right : Right → Action → Option Right) : Prop :=
  ∀ state stateToo action, alike state stateToo →
    Option.Rel alike (left state action) (right stateToo action)

theorem Lockstep.run {left : Machine Left Action} {right : Machine Right Action}
    (lockstep : Lockstep alike left.step right.step) (actions : List Action) {state : Left}
    {stateToo : Right} (same : alike state stateToo) :
    Option.Rel alike (left.run state actions) (right.run stateToo actions) := by
  induction actions generalizing state stateToo with
  | nil => exact .some same
  | cons action rest ih =>
      rw [Machine.run, Machine.run]
      exact rel_bind (lockstep state stateToo action same) ih

end Lockstep

end Foundation
