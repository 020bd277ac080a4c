import McpPortal.Auth.TokenIsolation
import McpPortal.Auth.TokenProgress

/-!
# What a call of a credential source leaves alone

A step of one call moves that call and no other. A request without a key is noted, and never
reaches the cache.
-/

namespace McpPortal

open Foundation

namespace Acquire

open TokenCache (TaskId)

/-- Where the calls are. -/
def State.calls (state : State) : TaskId → TokenCache.Call :=
  state.tracked.state.calls

/-- `time.monotonic()`. -/
def State.now (state : State) : Rat :=
  state.tracked.state.now

def Action.task? : Action → Option TaskId
  | .get task _ => some task
  | .resume task => some task
  | .replied task _ => some task
  | .unanswered task => some task
  | .tick _ => none

theorem state_record (tracked : TokenCache.Tracked) (action : TokenCache.Action)
    (next : TokenCache.State) : (tracked.record action next).state = next := by
  cases action with
  | start => rfl
  | resume task =>
      simp only [TokenCache.Tracked.record]
      split <;> rfl
  | fetched task token ttlSeconds =>
      simp only [TokenCache.Tracked.record]
      split <;> rfl
  | fetchFailed => rfl
  | tick => rfl

section Steps

variable {world : World} {state next : State} {task other : TaskId}

theorem step_of_caches {action : TokenCache.Action} (cached : state.caches action = some next) :
    TokenCache.step state.tracked.state action = some next.tracked.state ∧
      next.requestOf = state.requestOf := by
  rcases Option.map_eq_some_iff.mp cached with ⟨tracked, recorded, rfl⟩
  rcases Option.map_eq_some_iff.mp recorded with ⟨inner, stepped, rfl⟩
  rw [state_record]
  exact ⟨stepped, rfl⟩

theorem steps_of_caches {action : TokenCache.Action} (cached : state.caches action = some next) :
    TokenCache.Steps state.tracked.state action next.tracked.state ∧
      next.requestOf = state.requestOf :=
  (step_of_caches cached).imp_left TokenCache.steps_of_step

/-- A call whose request has a key starts in the cache. -/
theorem step_get {request : CredentialRequest}
    (stepped : step world state (.get task request) = some next) :
    state.requestOf task = none ∧
      next.requestOf = Function.update state.requestOf task (some request) ∧
      ((¬request.HasKey ∧ next.tracked = state.tracked) ∨
        (request.HasKey ∧ ∃ key, request.cacheKey world.isPrintable world.hash = .ok key ∧
          TokenCache.Steps state.tracked.state (.start task key) next.tracked.state)) := by
  simp only [step] at stepped
  split at stepped
  · cases stepped
  case h_2 fresh =>
    refine ⟨fresh, ?_⟩
    split at stepped
    case h_1 error noKey =>
      cases stepped
      refine ⟨rfl, Or.inl ⟨?_, rfl⟩⟩
      intro hasKey
      cases request with
      | clientCredentials => cases noKey
      | tokenExchange source carry subjectToken expiresAt =>
          cases subjectToken with
          | none => exact hasKey rfl rfl
          | some token => cases noKey
    case h_2 key isKey =>
      rcases steps_of_caches stepped with ⟨steps, requests⟩
      refine ⟨requests, Or.inr ⟨?_, key, isKey, steps⟩⟩
      rintro isExchange missing
      cases request with
      | clientCredentials => cases isExchange
      | tokenExchange source carry subjectToken expiresAt =>
          cases missing
          cases isKey

/-- Every other step of a call is one of the cache. -/
theorem step_own {action : Action} (isTask : action.task? = some task)
    (notGet : ∀ request, action ≠ .get task request)
    (stepped : step world state action = some next) :
    next.requestOf = state.requestOf ∧ ∃ inner : TokenCache.Action, inner.task? = some task ∧
      inner.IsWork ∧ TokenCache.Steps state.tracked.state inner next.tracked.state := by
  cases action with
  | get other request =>
      cases isTask
      exact absurd rfl (notGet request)
  | resume other =>
      cases isTask
      rcases steps_of_caches stepped with ⟨steps, requests⟩
      exact ⟨requests, .resume task, rfl, trivial, steps⟩
  | replied other reply =>
      cases isTask
      simp only [step] at stepped
      split at stepped
      · cases stepped
      · split at stepped
        · rcases steps_of_caches stepped with ⟨steps, requests⟩
          exact ⟨requests, .fetchFailed task, rfl, trivial, steps⟩
        case h_2 token ttlSeconds _ =>
          rcases steps_of_caches stepped with ⟨steps, requests⟩
          exact ⟨requests, .fetched task token ttlSeconds, rfl, trivial, steps⟩
  | unanswered other =>
      cases isTask
      rcases steps_of_caches stepped with ⟨steps, requests⟩
      exact ⟨requests, .fetchFailed task, rfl, trivial, steps⟩
  | tick elapsed => cases isTask

/-- Calls that a step is not about stay where they are. -/
theorem keeps_others {action : Action} (stepped : step world state action = some next)
    (uninvolved : action.task? ≠ some other) :
    next.calls other = state.calls other ∧ next.requestOf other = state.requestOf other := by
  unfold State.calls
  cases isTask : action.task? with
  | none =>
      cases action with
      | tick elapsed =>
          rcases steps_of_caches stepped with ⟨steps, requests⟩
          exact ⟨steps.calls_of_ne nofun, congrFun requests other⟩
      | _ => cases isTask
  | some task =>
      have different : task ≠ other := fun same => uninvolved (same ▸ isTask)
      by_cases isGet : ∃ request, action = .get task request
      · rcases isGet with ⟨request, rfl⟩
        rcases step_get stepped with ⟨_, requests, ⟨_, same⟩ | ⟨_, key, _, steps⟩⟩
        · rw [requests, same]
          exact ⟨rfl, Function.update_of_ne different.symm ..⟩
        · rw [requests]
          refine ⟨steps.calls_of_ne ?_, Function.update_of_ne different.symm ..⟩
          exact fun same => different (Option.some.inj same)
      · rcases step_own isTask (fun request same => isGet ⟨request, same⟩) stepped with
          ⟨requests, inner, isInner, _, steps⟩
        rw [requests]
        refine ⟨steps.calls_of_ne ?_, rfl⟩
        rw [isInner]
        exact fun same => different (Option.some.inj same)

/-- The cache takes a step or is left alone. -/
theorem cache_step {action : Action} (stepped : step world state action = some next) :
    next.tracked.state = state.tracked.state ∨
      ∃ inner, TokenCache.step state.tracked.state inner = some next.tracked.state := by
  cases action with
  | get task request =>
      simp only [step] at stepped
      split at stepped
      · cases stepped
      · split at stepped
        · cases stepped
          exact Or.inl rfl
        · exact Or.inr ⟨_, (step_of_caches stepped).1⟩
  | resume task => exact Or.inr ⟨_, (step_of_caches stepped).1⟩
  | replied task reply =>
      simp only [step] at stepped
      split at stepped
      · cases stepped
      · split at stepped
        · exact Or.inr ⟨_, (step_of_caches stepped).1⟩
        · have stored : TokenCache.step (state.setReply task reply).tracked.state _ = _ :=
            (step_of_caches stepped).1
          exact Or.inr ⟨_, stored⟩
  | unanswered task => exact Or.inr ⟨_, (step_of_caches stepped).1⟩
  | tick elapsed => exact Or.inr ⟨_, (step_of_caches stepped).1⟩

/-- The cache behind the sources runs as it does alone. -/
theorem reached_cache (reached : (machine world).Reached state) :
    TokenCache.machine.Reached state.tracked.state :=
  Machine.reached_of_projection (fun state : State => state.tracked.state) rfl
    (fun _ stepped => cache_step stepped) reached

/-- Whatever a step does, it does not leave its own call idle. -/
theorem ne_idle_of_steps {before after : TokenCache.State} {action : TokenCache.Action}
    (steps : TokenCache.Steps before action after) (isTask : action.task? = some task) :
    after.calls task ≠ .idle := by
  cases steps with
  | tick => cases isTask
  | _ =>
      cases isTask
      simp [TokenCache.State.setCall]

end Steps

end Acquire

end McpPortal
