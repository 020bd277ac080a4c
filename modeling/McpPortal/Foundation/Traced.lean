import Mathlib.Data.List.Basic

/-!
# Computations that act on the outside

A handler that answers a request may act on the outside on the way. A traced
computation is its result together with the actions it took. The rule of this file
carries a bound on one answer, at most one action and only a permitted one, over to
a session of any number of requests.
-/

namespace Foundation

universe u v w

structure Traced (Action : Type u) (Result : Type v) where
  actions : List Action
  result : Result

namespace Traced

variable {Action : Type u} {Result : Type v} {Request : Type w}

/-- The computation that only answers. -/
def silent (result : Result) : Traced Action Result where
  actions := []
  result

/-- The computation that takes one action and answers. -/
def act (action : Action) (result : Result) : Traced Action Result where
  actions := [action]
  result

/-- At most one action is taken, and only a permitted one. -/
def Guarded (permitted : Action → Prop) (traced : Traced Action Result) : Prop :=
  traced.actions.length ≤ 1 ∧ ∀ action ∈ traced.actions, permitted action

variable {permitted : Action → Prop}

@[simp]
theorem actions_silent (result : Result) : (silent result : Traced Action Result).actions = [] :=
  rfl

@[simp]
theorem actions_act (action : Action) (result : Result) : (act action result).actions = [action] :=
  rfl

theorem guarded_silent (result : Result) :
    (silent result : Traced Action Result).Guarded permitted := by
  refine ⟨Nat.zero_le 1, ?_⟩
  intro action taken
  cases taken

theorem guarded_act {action : Action} (result : Result) (isPermitted : permitted action) :
    (act action result).Guarded permitted := by
  refine ⟨Nat.le_refl 1, ?_⟩
  intro other taken
  rw [List.mem_singleton.mp taken]
  exact isPermitted

theorem Guarded.mono {weaker : Action → Prop} {traced : Traced Action Result}
    (guarded : traced.Guarded permitted)
    (weakens : ∀ action, permitted action → weaker action) : traced.Guarded weaker := by
  refine ⟨guarded.1, ?_⟩
  intro action taken
  exact weakens action (guarded.2 action taken)

/-- One request after the other. -/
def session (handle : Request → Traced Action Result) : List Request → Traced Action (List Result)
  | [] => silent []
  | request :: rest =>
      let first := handle request
      let later := session handle rest
      { actions := first.actions ++ later.actions, result := first.result :: later.result }

/-- Guarded answers make a session of no more actions than requests, each permitted for one of them. -/
theorem guarded_session {handle : Request → Traced Action Result}
    {permittedFor : Request → Action → Prop}
    (guarded : ∀ request, (handle request).Guarded (permittedFor request))
    (requests : List Request) :
    (session handle requests).actions.length ≤ requests.length ∧
      ∀ action ∈ (session handle requests).actions,
        ∃ request ∈ requests, permittedFor request action := by
  induction requests with
  | nil =>
      refine ⟨Nat.le_refl 0, ?_⟩
      intro action taken
      cases taken
  | cons request rest ih =>
      rcases guarded request with ⟨atMostOne, onlyPermitted⟩
      constructor
      · simp only [session, List.length_append, List.length_cons]
        omega
      · intro action taken
        rcases List.mem_append.mp taken with now | later
        · exact ⟨request, List.mem_cons_self, onlyPermitted action now⟩
        · rcases ih.2 action later with ⟨other, otherMem, isPermitted⟩
          exact ⟨other, List.mem_cons_of_mem _ otherMem, isPermitted⟩

end Traced

end Foundation
