import Mathlib.Data.List.Basic

/-!
# Machines that take one step at a time

A machine has a start and a step function that says which actions are possible.
Its runs may be held to a condition on each step; what holds at the start and is
kept by every step that meets the condition then holds in every state reached.
-/

namespace Foundation

universe u v

structure Machine (State : Type u) (Action : Type v) where
  start : State
  step : State → Action → Option State

namespace Machine

variable {State : Type u} {Action : Type v}

/-- The states that a run reaches whose steps all meet the condition. -/
inductive ReachedWithin (machine : Machine State Action) (condition : State → Action → Prop) :
    State → Prop
  | start : ReachedWithin machine condition machine.start
  | step {state next : State} (action : Action) (before : ReachedWithin machine condition state)
      (meets : condition state action) (stepped : machine.step state action = some next) :
      ReachedWithin machine condition next

/-- The states of all runs. -/
def Reached (machine : Machine State Action) (state : State) : Prop :=
  machine.ReachedWithin (fun _ _ => True) state

/-- The invariant rule. -/
theorem keeps_of_reachedWithin {machine : Machine State Action}
    {condition : State → Action → Prop} {keeps : State → Prop} (initially : keeps machine.start)
    (stepKeeps : ∀ state action next, keeps state → condition state action →
      machine.step state action = some next → keeps next)
    {state : State} (reached : machine.ReachedWithin condition state) : keeps state := by
  induction reached with
  | start => exact initially
  | step action before meets stepped kept =>
      apply stepKeeps _ action _ kept meets
      exact stepped

/-- A machine that moves part of a state, or leaves it alone, at every step reaches that part. -/
theorem reached_of_projection {Part : Type u} {PartAction : Type v} {machine : Machine State Action}
    {part : Machine Part PartAction} (project : State → Part)
    (initially : project machine.start = part.start)
    (moves : ∀ {state action next}, machine.Reached state →
      machine.step state action = some next → project next = project state ∨
        ∃ partAction, part.step (project state) partAction = some (project next))
    {state : State} (reached : machine.Reached state) : part.Reached (project state) := by
  induction reached with
  | start =>
      rw [initially]
      exact .start
  | step action before _ stepped projected =>
      rcases moves before stepped with same | ⟨partAction, moved⟩
      · rw [same]
        exact projected
      · exact .step partAction projected trivial moved

/-- The state after a list of actions. -/
def run (machine : Machine State Action) : State → List Action → Option State
  | state, [] => some state
  | state, action :: rest => (machine.step state action).bind fun next => machine.run next rest

theorem run_append (machine : Machine State Action) (state : State) (before later : List Action) :
    machine.run state (before ++ later) = (machine.run state before).bind (machine.run · later) := by
  induction before generalizing state with
  | nil => rfl
  | cons action rest ih =>
      rw [List.cons_append, run, run, Option.bind_assoc]
      exact Option.bind_congr fun next _ => ih next

/-- A list of actions that meet the condition wherever they are taken. -/
theorem reachedWithin_of_run {machine : Machine State Action}
    {condition : State → Action → Prop} {actions : List Action}
    (meets : ∀ action ∈ actions, ∀ state, condition state action) {state final : State}
    (before : machine.ReachedWithin condition state)
    (ran : machine.run state actions = some final) : machine.ReachedWithin condition final := by
  induction actions generalizing state with
  | nil =>
      cases ran
      exact before
  | cons action rest ih =>
      rw [List.forall_mem_cons] at meets
      rw [run, Option.bind_eq_some_iff] at ran
      rcases ran with ⟨next, stepped, later⟩
      apply ih meets.2 _ later
      exact .step action before (meets.1 state) stepped

end Machine

end Foundation
