import Mathlib.Init

/-!
# Computations with a state that survives a failure

A computation that raises has still changed the state it worked on. `Meets` bounds
a computation by an invariant, which has to hold afterwards also when it raised, and
by what its outcome may be.
-/

namespace Foundation

universe u v w

/-- The outcome, and the state it leaves behind. -/
def Stateful (State Error : Type u) (Value : Type u) : Type u :=
  State → Except Error Value × State

namespace Stateful

variable {State Error Value Result : Type u}

instance : Monad (Stateful State Error) where
  pure value := fun state => (.ok value, state)
  bind action next := fun state =>
    match action state with
    | (.ok value, later) => next value later
    | (.error error, later) => (.error error, later)

/-- The computation that raises. -/
def raise (error : Error) : Stateful State Error Value :=
  fun state => (.error error, state)

/-- A computation that does not touch the state. -/
def lift (outcome : Except Error Value) : Stateful State Error Value :=
  fun state => (outcome, state)

def read (project : State → Value) : Stateful State Error Value :=
  fun state => (.ok (project state), state)

def update (change : State → State) : Stateful State Error PUnit :=
  fun state => (.ok PUnit.unit, change state)

/-- The invariant is kept, and the outcome is one of the allowed ones. -/
def Meets (invariant : State → Prop) (allowed : Except Error Value → Prop)
    (action : Stateful State Error Value) : Prop :=
  ∀ state, invariant state → invariant (action state).2 ∧ allowed (action state).1

section Rules

variable {invariant : State → Prop} {allowed : Except Error Value → Prop}

theorem meets_pure {value : Value} (isAllowed : allowed (.ok value)) :
    Meets invariant allowed (pure value : Stateful State Error Value) := by
  intro state holds
  exact ⟨holds, isAllowed⟩

theorem meets_raise {error : Error} (isAllowed : allowed (.error error)) :
    Meets invariant allowed (raise error : Stateful State Error Value) := by
  intro state holds
  exact ⟨holds, isAllowed⟩

theorem meets_lift {outcome : Except Error Value} (isAllowed : allowed outcome) :
    Meets invariant allowed (lift outcome : Stateful State Error Value) := by
  intro state holds
  exact ⟨holds, isAllowed⟩

theorem Meets.mono {action : Stateful State Error Value} {weaker : Except Error Value → Prop}
    (meets : Meets invariant allowed action)
    (weakens : ∀ outcome, allowed outcome → weaker outcome) :
    Meets invariant weaker action := by
  intro state holds
  rcases meets state holds with ⟨kept, isAllowed⟩
  exact ⟨kept, weakens _ isAllowed⟩

/-- After a first computation the second one starts from any value the first may return. -/
theorem Meets.bind {action : Stateful State Error Value}
    {next : Value → Stateful State Error Result} {final : Except Error Result → Prop}
    (meets : Meets invariant allowed action)
    (onValue : ∀ value, allowed (.ok value) → Meets invariant final (next value))
    (onError : ∀ error, allowed (.error error) → final (.error error)) :
    Meets invariant final (action >>= next) := by
  intro state holds
  rcases meets state holds with ⟨kept, isAllowed⟩
  rcases ran : action state with ⟨outcome, later⟩
  rw [ran] at kept isAllowed
  have stepped : (action >>= next) state =
      match (outcome, later) with
      | (.ok value, later) => next value later
      | (.error error, later) => (.error error, later) := by
    rw [← ran]
    rfl
  rw [stepped]
  cases outcome with
  | ok value => exact onValue value isAllowed later kept
  | error error => exact ⟨kept, onError error isAllowed⟩

/-! The first step of a sequence is one of the basic ones. -/

variable {Next : Type u} {final : Except Error Next → Prop}

theorem meets_lift_bind {outcome : Except Error Value} {next : Value → Stateful State Error Next}
    (onValue : ∀ value, outcome = .ok value → Meets invariant final (next value))
    (onError : ∀ error, outcome = .error error → final (.error error)) :
    Meets invariant final (lift outcome >>= next) := by
  intro state holds
  cases outcome with
  | ok value => exact onValue value rfl state holds
  | error error => exact ⟨holds, onError error rfl⟩

theorem meets_read_bind {project : State → Value} (known : Value → Prop)
    {next : Value → Stateful State Error Next}
    (knows : ∀ state, invariant state → known (project state))
    (onValue : ∀ value, known value → Meets invariant final (next value)) :
    Meets invariant final (read project >>= next) := by
  intro state holds
  exact onValue (project state) (knows state holds) state holds

theorem meets_update_bind {change : State → State} {next : PUnit → Stateful State Error Next}
    (keeps : ∀ state, invariant state → invariant (change state))
    (later : Meets invariant final (next PUnit.unit)) :
    Meets invariant final (update change >>= next) := by
  intro state holds
  exact later (change state) (keeps state holds)

end Rules

/-! Runs of a sequence. -/

section Runs

variable {action : Stateful State Error Value} {next : Value → Stateful State Error Result}
  {state later : State}

theorem bind_run : (action >>= next) state =
    match action state with
    | (.ok value, middle) => next value middle
    | (.error error, middle) => (.error error, middle) := rfl

theorem bind_run_ok {result : Result} :
    (action >>= next) state = (.ok result, later) ↔
      ∃ value middle, action state = (.ok value, middle) ∧ next value middle = (.ok result, later) := by
  rw [bind_run]
  rcases action state with ⟨outcome, middle⟩
  cases outcome with
  | ok value =>
      constructor
      · intro ran
        exact ⟨value, middle, rfl, ran⟩
      · rintro ⟨_, _, ⟨⟩, ran⟩
        exact ran
  | error error => simp

theorem bind_run_error {error : Error} :
    (action >>= next) state = (.error error, later) ↔
      action state = (.error error, later) ∨
        ∃ value middle, action state = (.ok value, middle) ∧
          next value middle = (.error error, later) := by
  rw [bind_run]
  rcases action state with ⟨outcome, middle⟩
  cases outcome with
  | ok value =>
      constructor
      · intro ran
        exact Or.inr ⟨value, middle, rfl, ran⟩
      · rintro (failed | ⟨_, _, ⟨⟩, ran⟩)
        · cases failed
        · exact ran
  | error error => simp

theorem pure_run_ok {value result : Value} :
    (pure value : Stateful State Error Value) state = (.ok result, later) ↔
      value = result ∧ state = later := by
  simp [pure]

theorem pure_run_error {value : Value} {error : Error} :
    (pure value : Stateful State Error Value) state ≠ (.error error, later) := by
  simp [pure]

end Runs

end Stateful

end Foundation
