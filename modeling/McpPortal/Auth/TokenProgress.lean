import McpPortal.Auth.TokenReclaim
import McpPortal.Foundation.Draining

/-!
# Every call of the token cache ends

A call that waits is queued on its lock, whose holder is fetching or whose first waiter has been
woken. No wake-up is lost, even where a purge has dropped the lock from the cache. A call resumes
at most once and its fetch ends once, so the work that is left is bounded.
-/

namespace McpPortal

open Foundation

namespace TokenCache

/-- How many steps a call still takes at most. -/
def Call.left : Call → Nat
  | .waiting _ _ => 2
  | .fetching _ _ => 1
  | _ => 0

/-- A call that has been made and has neither returned nor raised. -/
def Call.IsPending (call : Call) : Prop :=
  call ≠ .idle ∧ call ≠ .failed ∧ ∀ token, call ≠ .returned token

/-- The actions that bring a call further. -/
def Action.IsWork : Action → Prop
  | .resume _ => True
  | .fetched _ _ _ => True
  | .fetchFailed _ => True
  | _ => False

instance : DecidablePred Action.IsWork := fun action => by
  cases action <;> unfold Action.IsWork <;> infer_instance

def Action.IsTick : Action → Prop
  | .tick _ => True
  | _ => False

/-- Calls that wait are queued, and no call stops while it runs. -/
structure Enlisted (state : State) : Prop where
  waiting : ∀ {task key lock}, state.calls task = .waiting key lock →
    task ∈ (state.heap lock).waiters
  notRunning : ∀ task, state.calls task ≠ .running

section Keeps

variable {state next : State}

/-- One call moves, and a lock may change if it keeps those that still wait for it. -/
theorem Enlisted.move (enlisted : Enlisted state) {task : TaskId} {call : Call} {lock : LockId}
    {value : AsyncLock TaskId} (heap : next.heap = Function.update state.heap lock value)
    (calls : next.calls = Function.update state.calls task call) (running : call ≠ .running)
    (waits : ∀ {key other}, call = .waiting key other → other = lock ∧ task ∈ value.waiters)
    (keeps : ∀ {other}, other ≠ task → other ∈ (state.heap lock).waiters →
      other ∈ value.waiters) : Enlisted next := by
  constructor
  · intro other key otherLock isWaiting
    rw [calls] at isWaiting
    rw [heap]
    by_cases same : other = task
    · subst other
      rw [Function.update_self] at isWaiting
      rcases waits isWaiting with ⟨rfl, isQueued⟩
      rwa [Function.update_self]
    · rw [Function.update_of_ne same] at isWaiting
      have before := enlisted.waiting isWaiting
      by_cases sameLock : otherLock = lock
      · subst otherLock
        rw [Function.update_self]
        exact keeps same before
      · rwa [Function.update_of_ne sameLock]
  · intro other
    rw [calls]
    by_cases same : other = task
    · subst other
      rwa [Function.update_self]
    · rw [Function.update_of_ne same]
      exact enlisted.notRunning other

/-- Making a lock for a key changes none that anybody waits for. -/
theorem Enlisted.lockFor (enlisted : Enlisted state) (allocated : Allocated state) (key : String) :
    Enlisted (state.lockFor key).2 := by
  constructor
  · intro task otherKey lock isWaiting
    rw [calls_lockFor] at isWaiting
    have isOld := allocated.used (congrArg Call.place isWaiting)
    rw [heap_lockFor_of_lt key isOld]
    exact enlisted.waiting isWaiting
  · rw [calls_lockFor]
    exact enlisted.notRunning

theorem Enlisted.steps (enlisted : Enlisted state) (allocated : Allocated state) {action : Action}
    (steps : Steps state action next) : Enlisted next := by
  cases steps with
  | @startHit task _ token _ _ =>
      have heap : (state.setCall task (.returned token)).heap =
        Function.update state.heap 0 (state.heap 0) := (Function.update_eq_self ..).symm
      apply enlisted.move heap rfl
      · exact nofun
      · exact nofun
      · exact fun _ queued => queued
  | startFetch _ _ acquired =>
      apply (enlisted.lockFor allocated _).move rfl rfl
      · exact nofun
      · exact nofun
      · intro other _ queued
        rw [(AsyncLock.acquireNow_eq_some acquired).2.1] at queued
        cases queued
  | startWait _ _ _ =>
      apply (enlisted.lockFor allocated _).move rfl rfl
      · exact nofun
      · intro key other isCall
        cases isCall
        exact ⟨rfl, by simp⟩
      · intro other _ queued
        rw [AsyncLock.waiters_enqueue]
        exact List.mem_append_left _ queued
  | @resumeHit task key token lock held waiting resumed _ =>
      have heap : (((state.setLock lock held).release lock).setCall task (.returned token)).heap =
          Function.update state.heap lock held.release := by
        simp
      apply enlisted.move heap rfl
      · exact nofun
      · exact nofun
      · intro other different queued
        rw [AsyncLock.waiters_release]
        exact AsyncLock.stillQueued_of_resume resumed different queued
  | resumeFetch waiting resumed _ =>
      apply enlisted.move rfl rfl
      · exact nofun
      · exact nofun
      · exact fun different queued => AsyncLock.stillQueued_of_resume resumed different queued
  | fetched _ =>
      apply enlisted.move rfl rfl
      · exact nofun
      · exact nofun
      · exact fun _ queued => queued
  | fetchFailed _ =>
      apply enlisted.move rfl rfl
      · exact nofun
      · exact nofun
      · exact fun _ queued => queued
  | tick _ => exact ⟨enlisted.waiting, enlisted.notRunning⟩

end Keeps

/-- What holds of the calls in every run. -/
structure Orderly (state : State) : Prop where
  allocated : Allocated state
  queued : Queued state
  enlisted : Enlisted state

theorem Orderly.keeps {state next : State} {action : Action} (orderly : Orderly state)
    (stepped : step state action = some next) : Orderly next := by
  have steps := steps_of_step stepped
  constructor
  · exact orderly.allocated.steps steps
  · exact orderly.queued.steps steps
  · exact orderly.enlisted.steps orderly.allocated steps

theorem orderly_of_reached {state : State} (reached : machine.Reached state) : Orderly state := by
  apply Machine.keeps_of_reachedWithin _ _ reached
  · have initially := allocated_queued_of_reached .start
    exact ⟨initially.1, initially.2, nofun, nofun⟩
  · intro before action after orderly _ stepped
    exact orderly.keeps stepped

section Stuck

variable {state : State}

theorem Orderly.isPending_iff (orderly : Orderly state) {task : TaskId} :
    (state.calls task).IsPending ↔ (state.calls task).left ≠ 0 := by
  have running := orderly.enlisted.notRunning task
  unfold Call.IsPending
  cases isCall : state.calls task with
  | running => exact absurd isCall running
  | _ => simp [Call.left]

/-- A call that waits is behind one that fetches, or behind one that can resume. -/
theorem Orderly.exists_work_of_waiting (orderly : Orderly state) {task : TaskId} {key : String}
    {lock : LockId} (waiting : state.calls task = .waiting key lock) :
    (∃ holder otherKey, state.calls holder = .fetching otherKey lock) ∨
      ∃ other, step state (.resume other) ≠ none := by
  have queued : (state.heap lock).waiters ≠ [] :=
    List.ne_nil_of_mem (orderly.enlisted.waiting waiting)
  cases held : (state.heap lock).locked with
  | true => exact Or.inl (orderly.queued.holder held)
  | false =>
      rcases (orderly.queued.awake lock).exists_resume held queued with
        ⟨other, taken, isFirst, resumed⟩
      rcases orderly.queued.waits (List.mem_of_mem_head? isFirst) with ⟨otherKey, otherWaiting⟩
      right
      refine ⟨other, ?_⟩
      simp only [step, otherWaiting, resumed, Option.map_some]
      exact Option.some_ne_none _

/-- Where nothing is left to do no call has a step to take. -/
theorem Orderly.rests (orderly : Orderly state)
    (resting : ∀ action : Action, action.IsWork → step state action = none) (task : TaskId) :
    (state.calls task).left = 0 := by
  have nobody : ∀ other key lock, state.calls other ≠ .fetching key lock := by
    intro other key lock fetching
    have stuck := resting (.fetchFailed other) trivial
    simp [step, fetching] at stuck
  cases isCall : state.calls task with
  | waiting key lock =>
      rcases orderly.exists_work_of_waiting isCall with
        ⟨holder, otherKey, fetching⟩ | ⟨other, resumes⟩
      · exact absurd fetching (nobody holder otherKey lock)
      · exact absurd (resting (.resume other) trivial) resumes
  | fetching key lock => exact absurd isCall (nobody task key lock)
  | _ => rfl

end Stuck

/-- A call that has been made gets on with every step it takes. -/
theorem left_lt_of_steps {state next : State} {action : Action} {task : TaskId}
    (steps : Steps state action next) (isWork : action.IsWork)
    (isTask : action.task? = some task) : (next.calls task).left < (state.calls task).left := by
  cases steps with
  | startHit => cases isWork
  | startFetch => cases isWork
  | startWait => cases isWork
  | tick => cases isWork
  | resumeHit waiting =>
      cases isTask
      simp [waiting, Call.left, State.setCall]
  | resumeFetch waiting =>
      cases isTask
      simp [waiting, Call.left, State.setCall]
  | fetched fetching =>
      cases isTask
      simp [fetching, Call.left, State.setCall]
  | fetchFailed fetching =>
      cases isTask
      simp [fetching, Call.left, State.setCall]

theorem serving :
    machine.Serving Action.IsWork Action.IsTick State.calls .idle Call.IsPending Call.left where
  initially _ := rfl
  moves {state _ _} _ stepped := by
    have lockFor := calls_lockFor state
    cases steps_of_step stepped with
    | tick => exact Or.inl rfl
    | startFetch => exact Or.inr ⟨_, _, congrArg (Function.update · _ _) (lockFor _)⟩
    | startWait => exact Or.inr ⟨_, _, congrArg (Function.update · _ _) (lockFor _)⟩
    | _ => exact Or.inr ⟨_, _, rfl⟩
  work {state action next} _ isWork stepped := by
    have steps := steps_of_step stepped
    cases isTask : action.task? with
    | none =>
        cases action with
        | tick => cases isWork
        | _ => cases isTask
    | some task =>
        refine ⟨task, next.calls task, ?_, left_lt_of_steps steps isWork isTask⟩
        funext other
        by_cases same : other = task
        · rw [same, Function.update_self]
        · rw [Function.update_of_ne same]
          apply steps.calls_of_ne
          rw [isTask]
          exact fun taken => same (Option.some.inj taken).symm
  other {_ _ _} _ isTick stepped := by
    cases steps_of_step stepped with
    | tick => rfl
    | _ => cases isTick
  rests reached := (orderly_of_reached reached).rests
  pending reached _ := (orderly_of_reached reached).isPending_iff
  idle_left := rfl

/--
However its calls are scheduled and its fetches end, the cache takes at most two steps for every
call that has not ended, and where it can take no more all of them have ended.
-/
theorem completes_of_reached {state : State} (reached : machine.Reached state) :
    ∃ pending : Finset TaskId, (∀ task, task ∈ pending ↔ (state.calls task).IsPending) ∧
      (∀ actions final, (∀ action ∈ actions, action.IsWork ∨ action.IsTick) →
        machine.run state actions = some final →
        actions.countP (fun action => action.IsWork) ≤ 2 * pending.card ∧
          ((∀ action : Action, action.IsWork → step final action = none) →
            ∀ task, ¬(final.calls task).IsPending)) ∧
      ∃ actions final, (∀ action ∈ actions, action.IsWork) ∧
        machine.run state actions = some final ∧ ∀ task, ¬(final.calls task).IsPending := by
  apply serving.completes _ reached
  intro call
  cases call <;> simp [Call.left]

section Dropped

/-- A purge has dropped the lock that the second call is queued on. -/
private def dropped : List Action :=
  [.start 0 "k", .start 1 "k", .start 2 "j", .fetched 0 "a" 0, .fetched 2 "b" 5]

theorem completes_of_reached_dropped :
    ∃ state, machine.run machine.start dropped = some state ∧ state.locks "k" = none ∧
      state.calls 1 = .waiting "k" 0 ∧
      ∃ actions final, (∀ action ∈ actions, action.IsWork) ∧
        machine.run state actions = some final ∧ ∀ task, ¬(final.calls task).IsPending := by
  have forgotten : (machine.run machine.start dropped).map (·.locks "k") = some none := by
    decide +kernel
  have waiting : (machine.run machine.start dropped).map (·.calls 1) =
      some (.waiting "k" 0) := by decide +kernel
  rcases Option.map_eq_some_iff.mp forgotten with ⟨state, ran, forgotten⟩
  rw [ran, Option.map_some, Option.some.injEq] at waiting
  have reached : machine.Reached state :=
    Machine.reachedWithin_of_run (fun _ _ _ => trivial) .start ran
  rcases completes_of_reached reached with ⟨_, _, _, completes⟩
  exact ⟨state, ran, forgotten, waiting, completes⟩

end Dropped

end TokenCache

end McpPortal
