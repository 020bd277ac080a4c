import McpPortal.Auth.JwksDenial
import McpPortal.Foundation.Draining

/-!
# Every look-up of a key ends

A call of `key_for` that waits is queued on the lock of the cache, whose holder is fetching or
whose first waiter has been woken. This holds whatever the replies are, since the lock is released
where a refresh raises, too.
-/

namespace McpPortal

open Foundation

namespace JwksCache

/-- How many steps a call still takes at most. -/
def Call.left : Call → Nat
  | .waiting _ => 2
  | .fetching _ _ => 1
  | _ => 0

/-- A call that has been made and has neither returned nor raised. -/
def Call.IsPending (call : Call) : Prop :=
  call ≠ .idle ∧ call ≠ .raised ∧ ∀ key, call ≠ .returned key

def Action.IsWork : Action → Prop
  | .resume _ => True
  | .replied _ _ => True
  | _ => False

instance : DecidablePred Action.IsWork := fun action => by
  cases action <;> unfold Action.IsWork <;> infer_instance

def Action.IsTick : Action → Prop
  | .tick _ => True
  | _ => False

def Action.task? : Action → Option TaskId
  | .start task _ => some task
  | .resume task => some task
  | .replied task _ => some task
  | .tick _ => none

/-- The call has ended, one way or the other. -/
def Call.HasEnded (call : Call) : Prop :=
  call = .raised ∨ ∃ key, call = .returned key

/-- What the call of a step goes through, and the lock with it. -/
inductive Moves (lock : AsyncLock TaskId) (task : TaskId) : Call → AsyncLock TaskId → Call → Prop
  | hits {call : Call} (ended : call.HasEnded) : Moves lock task .idle lock call
  | passes {held : AsyncLock TaskId} {call : Call} (acquired : lock.acquireNow = some held)
      (ended : call.HasEnded) : Moves lock task .idle held.release call
  | fetches {held : AsyncLock TaskId} {kid : String} {now : Rat}
      (acquired : lock.acquireNow = some held) : Moves lock task .idle held (.fetching kid now)
  | queues {kid : String} (occupied : lock.acquireNow = none) :
      Moves lock task .idle (lock.enqueue task) (.waiting kid)
  | resumesPast {held : AsyncLock TaskId} {kid : String} {call : Call}
      (resumed : lock.resume task = some held) (ended : call.HasEnded) :
      Moves lock task (.waiting kid) held.release call
  | resumesFetching {held : AsyncLock TaskId} {kid : String} {now : Rat}
      (resumed : lock.resume task = some held) :
      Moves lock task (.waiting kid) held (.fetching kid now)
  | ends {kid : String} {now : Rat} {call : Call} (ended : call.HasEnded) :
      Moves lock task (.fetching kid now) lock.release call

section Steps

variable {state next : State} {task : TaskId}

/-- Under the lock a call fetches, or it gives the lock back and ends. -/
theorem underLock_cases (state : State) (task : TaskId) (kid : String) :
    (∃ call, call.HasEnded ∧ (state.underLock task kid).lock = state.lock.release ∧
      (state.underLock task kid).calls = Function.update state.calls task call) ∨
    ((state.underLock task kid).lock = state.lock ∧
      (state.underLock task kid).calls =
        Function.update state.calls task (.fetching kid state.now)) := by
  unfold State.underLock
  split
  · exact Or.inl ⟨_, Or.inr ⟨_, rfl⟩, rfl, rfl⟩
  · exact Or.inr ⟨rfl, rfl⟩

/-- Every step of a call moves it so, and no other. -/
theorem exists_moves {action : Action} (isTask : action.task? = some task)
    (stepped : step state action = some next) :
    ∃ call, Moves state.lock task (state.calls task) next.lock call ∧
      next.calls = Function.update state.calls task call := by
  cases action with
  | start other kid =>
      cases isTask
      simp only [step] at stepped
      split at stepped
      case h_1 idle =>
        cases stepped
        rw [idle]
        unfold State.startCall
        split
        case h_1 jwk _ =>
          have ended : (Call.returned (some jwk)).HasEnded := Or.inr ⟨_, rfl⟩
          exact ⟨_, .hits ended, Function.update_idem ..⟩
        case h_2 =>
          split
          case h_1 held acquired =>
            rcases underLock_cases { state.setCall task .running with lock := held } task kid with
              ⟨call, ended, lock, calls⟩ | ⟨lock, calls⟩
            · rw [lock, calls]
              exact ⟨call, .passes acquired ended, Function.update_idem ..⟩
            · rw [lock, calls]
              exact ⟨_, .fetches acquired, Function.update_idem ..⟩
          case h_2 occupied => exact ⟨_, .queues occupied, Function.update_idem ..⟩
      case h_2 => cases stepped
  | resume other =>
      cases isTask
      simp only [step] at stepped
      split at stepped
      case h_1 kid waiting =>
        rcases Option.map_eq_some_iff.mp stepped with ⟨held, resumed, rfl⟩
        rw [waiting]
        rcases underLock_cases { state.setCall task .running with lock := held } task kid with
          ⟨call, ended, lock, calls⟩ | ⟨lock, calls⟩
        · rw [lock, calls]
          exact ⟨call, .resumesPast resumed ended, Function.update_idem ..⟩
        · rw [lock, calls]
          exact ⟨_, .resumesFetching resumed, Function.update_idem ..⟩
      case h_2 => cases stepped
  | replied other reply =>
      cases isTask
      simp only [step] at stepped
      split at stepped
      case h_1 kid now fetching =>
        cases stepped
        rw [fetching]
        have raises : Call.raised.HasEnded := Or.inl rfl
        have returns : ∀ key, (Call.returned key).HasEnded := fun key => Or.inr ⟨key, rfl⟩
        simp only [State.finish]
        split
        · exact ⟨_, .ends (returns _), Function.update_idem ..⟩
        · exact ⟨_, .ends raises, Function.update_idem ..⟩
      case h_2 => cases stepped
  | tick elapsed => cases isTask

end Steps

/-- Exactly the calls that wait are queued, and whoever is queued is waited for. -/
structure Orderly (state : State) : Prop where
  queued : ∀ task, task ∈ state.lock.waiters ↔ ∃ kid, state.calls task = .waiting kid
  nodup : state.lock.waiters.Nodup
  holder : state.lock.locked = true → ∃ task kid now, state.calls task = .fetching kid now
  awake : state.lock.Awake
  notRunning : ∀ task, state.calls task ≠ .running

section Keeps

variable {state next : State} {task : TaskId}

theorem Call.HasEnded.ne_waiting {call : Call} (ended : call.HasEnded) (kid : String) :
    call ≠ .waiting kid := by
  rcases ended with rfl | ⟨key, rfl⟩ <;> exact nofun

theorem Call.HasEnded.ne_running {call : Call} (ended : call.HasEnded) : call ≠ .running := by
  rcases ended with rfl | ⟨key, rfl⟩ <;> exact nofun

theorem Call.HasEnded.left {call : Call} (ended : call.HasEnded) : call.left = 0 := by
  rcases ended with rfl | ⟨key, rfl⟩ <;> rfl

/-- A call moves, and the queue stays as it is but for that call. -/
theorem Orderly.move (orderly : Orderly state) {call : Call} {lock : AsyncLock TaskId}
    (isLock : next.lock = lock) (calls : next.calls = Function.update state.calls task call)
    (running : call ≠ .running) (own : task ∈ lock.waiters ↔ ∃ kid, call = .waiting kid)
    (others : ∀ other, other ≠ task → (other ∈ lock.waiters ↔ other ∈ state.lock.waiters))
    (nodup : lock.waiters.Nodup) (awake : lock.Awake)
    (holder : lock.locked = true → (∃ kid now, call = .fetching kid now) ∨
      (state.lock.locked = true ∧ ∀ kid now, state.calls task ≠ .fetching kid now)) :
    Orderly next := by
  subst isLock
  refine ⟨?_, nodup, ?_, awake, ?_⟩
  · intro other
    rw [calls]
    by_cases same : other = task
    · subst other
      rw [Function.update_self]
      exact own
    · rw [Function.update_of_ne same, others other same]
      exact orderly.queued other
  · intro held
    rw [calls]
    rcases holder held with ⟨kid, now, isFetching⟩ | ⟨wasHeld, wasNot⟩
    · exact ⟨task, kid, now, by rw [Function.update_self, isFetching]⟩
    · rcases orderly.holder wasHeld with ⟨other, kid, now, isFetching⟩
      have different : other ≠ task := by
        rintro rfl
        exact wasNot kid now isFetching
      exact ⟨other, kid, now, by rw [Function.update_of_ne different, isFetching]⟩
  · intro other
    rw [calls]
    by_cases same : other = task
    · subst other
      rwa [Function.update_self]
    · rw [Function.update_of_ne same]
      exact orderly.notRunning other

/-- What a call finds of its place in the queue when it moves. -/
theorem Orderly.notQueued (orderly : Orderly state) {before : Call}
    (isBefore : state.calls task = before) (wasNot : ∀ kid, before ≠ .waiting kid) :
    task ∉ state.lock.waiters := by
  rw [orderly.queued, isBefore]
  rintro ⟨kid, waiting⟩
  exact wasNot kid waiting

/-- A call that resumes leaves the queue, and nobody else does. -/
theorem Orderly.leaves (orderly : Orderly state) {held : AsyncLock TaskId}
    (resumed : state.lock.resume task = some held) :
    task ∉ held.waiters ∧ held.waiters.Nodup ∧
      ∀ other, other ≠ task → (other ∈ held.waiters ↔ other ∈ state.lock.waiters) := by
  have nodup := orderly.nodup
  rw [(AsyncLock.resume_eq_some resumed).2.1, List.nodup_cons] at nodup
  rw [(AsyncLock.resume_eq_some resumed).2.1]
  exact ⟨nodup.1, nodup.2, fun other different => by simp [different]⟩

theorem neither {call : Call} {waiters : List TaskId} (isOut : task ∉ waiters)
    (wasNot : ∀ kid, call ≠ .waiting kid) : task ∈ waiters ↔ ∃ kid, call = .waiting kid :=
  iff_of_false isOut fun ⟨kid, waiting⟩ => wasNot kid waiting

theorem Orderly.moves (orderly : Orderly state) {before call : Call}
    (isBefore : state.calls task = before)
    (moves : Moves state.lock task before next.lock call)
    (calls : next.calls = Function.update state.calls task call) : Orderly next := by
  generalize isLock : next.lock = lock at moves
  cases moves with
  | hits ended =>
      have isOut := orderly.notQueued isBefore nofun
      apply orderly.move isLock calls ended.ne_running (neither isOut ended.ne_waiting)
      · exact fun _ _ => Iff.rfl
      · exact orderly.nodup
      · exact orderly.awake
      · intro held
        refine Or.inr ⟨held, ?_⟩
        rw [isBefore]
        exact nofun
  | @passes held _ acquired ended =>
      have empty := (AsyncLock.acquireNow_eq_some acquired).2.1
      have stillEmpty := AsyncLock.waiters_of_acquireNow acquired
      have isOut : task ∉ held.release.waiters := by simp [stillEmpty]
      apply orderly.move isLock calls ended.ne_running (neither isOut ended.ne_waiting)
      · intro other _
        rw [AsyncLock.waiters_release, stillEmpty, empty]
      · rw [AsyncLock.waiters_release, stillEmpty]
        exact List.nodup_nil
      · exact AsyncLock.awake_release _
      · nofun
  | fetches acquired =>
      have empty := (AsyncLock.acquireNow_eq_some acquired).2.1
      have stillEmpty := AsyncLock.waiters_of_acquireNow acquired
      apply orderly.move isLock calls nofun (neither (by simp [stillEmpty]) nofun)
      · intro other _
        rw [stillEmpty, empty]
      · rw [stillEmpty]
        exact List.nodup_nil
      · exact AsyncLock.awake_of_locked (AsyncLock.acquireNow_eq_some acquired).2.2
      · exact fun _ => Or.inl ⟨_, _, rfl⟩
  | @queues kid occupied =>
      have isOut := orderly.notQueued isBefore nofun
      apply orderly.move isLock calls nofun
      · exact iff_of_true (by simp) ⟨kid, rfl⟩
      · intro other different
        simp [different]
      · rw [AsyncLock.waiters_enqueue]
        exact List.nodup_append.mpr ⟨orderly.nodup, List.nodup_singleton _, by
          intro other queued last isLast
          rw [List.mem_singleton.mp isLast]
          rintro rfl
          exact isOut queued⟩
      · exact orderly.awake.enqueue task (AsyncLock.occupied_of_acquireNow occupied)
      · intro held
        refine Or.inr ⟨held, ?_⟩
        rw [isBefore]
        exact nofun
  | resumesPast resumed ended =>
      rcases orderly.leaves resumed with ⟨isOut, nodup, others⟩
      apply orderly.move isLock calls ended.ne_running (neither isOut ended.ne_waiting) others nodup
      · exact AsyncLock.awake_release _
      · nofun
  | resumesFetching resumed =>
      rcases orderly.leaves resumed with ⟨isOut, nodup, others⟩
      apply orderly.move isLock calls nofun (neither isOut nofun) others nodup
      · exact AsyncLock.awake_of_locked (AsyncLock.resume_eq_some resumed).2.2
      · exact fun _ => Or.inl ⟨_, _, rfl⟩
  | ends ended =>
      have isOut := orderly.notQueued isBefore nofun
      apply orderly.move isLock calls ended.ne_running (neither isOut ended.ne_waiting)
      · exact fun _ _ => Iff.rfl
      · exact orderly.nodup
      · exact AsyncLock.awake_release _
      · nofun

theorem Orderly.keeps {action : Action} (orderly : Orderly state)
    (stepped : step state action = some next) : Orderly next := by
  cases isTask : action.task? with
  | some task =>
      rcases exists_moves isTask stepped with ⟨call, moves, calls⟩
      exact orderly.moves rfl moves calls
  | none =>
      cases action with
      | tick elapsed =>
          simp only [step] at stepped
          split at stepped
          · cases stepped
            exact ⟨orderly.queued, orderly.nodup, orderly.holder, orderly.awake, orderly.notRunning⟩
          · cases stepped
      | _ => cases isTask

end Keeps

theorem orderly_of_reached {state : State} (reached : machine.Reached state) : Orderly state := by
  apply Machine.keeps_of_reachedWithin _ _ reached
  · constructor
    · intro task
      exact iff_of_false List.not_mem_nil (by rintro ⟨kid, ⟨⟩⟩)
    · exact List.nodup_nil
    · nofun
    · intro queued
      exact absurd rfl queued
    · exact nofun
  · intro before action after orderly _ stepped
    exact orderly.keeps stepped

section Stuck

variable {state : State}

theorem Orderly.isPending_iff (orderly : Orderly state) {task : TaskId} :
    (state.calls task).IsPending ↔ (state.calls task).left ≠ 0 := by
  have running := orderly.notRunning task
  unfold Call.IsPending
  cases isCall : state.calls task with
  | running => exact absurd isCall running
  | _ => simp [Call.left]

/-- A call that waits is behind one that fetches, or behind one that can resume. -/
theorem Orderly.exists_work_of_waiting (orderly : Orderly state) {task : TaskId} {kid : String}
    (waiting : state.calls task = .waiting kid) :
    (∃ holder holderKid now, state.calls holder = .fetching holderKid now) ∨
      ∃ other, step state (.resume other) ≠ none := by
  have queued : state.lock.waiters ≠ [] := by
    apply List.ne_nil_of_mem
    exact (orderly.queued task).mpr ⟨kid, waiting⟩
  cases held : state.lock.locked with
  | true => exact Or.inl (orderly.holder held)
  | false =>
      rcases orderly.awake.exists_resume held queued with ⟨other, taken, isFirst, resumed⟩
      rcases (orderly.queued other).mp (List.mem_of_mem_head? isFirst) with ⟨otherKid, isWaiting⟩
      right
      refine ⟨other, ?_⟩
      simp only [step, isWaiting, resumed, Option.map_some]
      exact Option.some_ne_none _

/-- Where nothing is left to do no call has a step to take. -/
theorem Orderly.rests (orderly : Orderly state)
    (resting : ∀ action : Action, action.IsWork → step state action = none) (task : TaskId) :
    (state.calls task).left = 0 := by
  have nobody : ∀ other kid now, state.calls other ≠ .fetching kid now := by
    intro other kid now fetching
    have stuck := resting (.replied other .httpError) trivial
    simp [step, fetching] at stuck
  cases isCall : state.calls task with
  | waiting kid =>
      rcases orderly.exists_work_of_waiting isCall with
        ⟨holder, holderKid, now, fetching⟩ | ⟨other, resumes⟩
      · exact absurd fetching (nobody holder holderKid now)
      · exact absurd (resting (.resume other) trivial) resumes
  | fetching kid now => exact absurd isCall (nobody task kid now)
  | _ => rfl

end Stuck

/-- A call that has been made gets on with every step it takes. -/
theorem Moves.left_lt {lock after : AsyncLock TaskId} {task : TaskId} {before call : Call}
    (moves : Moves lock task before after call) (made : before ≠ .idle) :
    call.left < before.left := by
  cases moves with
  | hits => exact absurd rfl made
  | passes => exact absurd rfl made
  | fetches => exact absurd rfl made
  | queues => exact absurd rfl made
  | resumesPast _ ended =>
      rw [ended.left]
      exact Nat.two_pos
  | resumesFetching => exact Nat.one_lt_two
  | ends ended =>
      rw [ended.left]
      exact Nat.one_pos

theorem calls_of_tick {state next : State} {elapsed : Rat}
    (stepped : step state (.tick elapsed) = some next) : next.calls = state.calls := by
  simp only [step] at stepped
  split at stepped
  · cases stepped
    rfl
  · cases stepped

theorem serving :
    machine.Serving Action.IsWork Action.IsTick State.calls .idle Call.IsPending Call.left where
  initially _ := rfl
  moves {_ action _} _ stepped := by
    cases isTask : action.task? with
    | some task =>
        rcases exists_moves isTask stepped with ⟨call, _, calls⟩
        exact Or.inr ⟨task, call, calls⟩
    | none =>
        cases action with
        | tick elapsed => exact Or.inl (calls_of_tick stepped)
        | _ => cases isTask
  work {state action _} _ isWork stepped := by
    have made : ∃ task, action.task? = some task ∧ state.calls task ≠ .idle := by
      cases action with
      | start => cases isWork
      | tick => cases isWork
      | resume task =>
          refine ⟨task, rfl, fun idle => ?_⟩
          simp [machine, step, idle] at stepped
      | replied task reply =>
          refine ⟨task, rfl, fun idle => ?_⟩
          simp [machine, step, idle] at stepped
    rcases made with ⟨task, isTask, made⟩
    rcases exists_moves isTask stepped with ⟨call, moves, calls⟩
    exact ⟨task, call, calls, moves.left_lt made⟩
  other {_ action _} _ isTick stepped := by
    cases action with
    | tick elapsed => exact calls_of_tick stepped
    | _ => cases isTick
  rests reached := (orderly_of_reached reached).rests
  pending reached _ := (orderly_of_reached reached).isPending_iff
  idle_left := rfl

/--
However the look-ups are scheduled and whatever the identity provider replies, the cache takes at
most two steps for every one that has not ended, and where it can take no more all of them have.
-/
theorem settles_of_reached {state : State} (reached : machine.Reached state) :
    ∃ pending : Finset TaskId, (∀ task, task ∈ pending ↔ (state.calls task).IsPending) ∧
      (∀ actions final, (∀ action ∈ actions, action.IsWork ∨ action.IsTick) →
        machine.run state actions = some final →
        actions.countP (fun action => action.IsWork) ≤ 2 * pending.card ∧
          ((∀ action : Action, action.IsWork → step final action = none) →
            ∀ task, ¬(final.calls task).IsPending)) ∧
      ∃ actions final, (∀ action ∈ actions, action.IsWork) ∧
        machine.run state actions = some final ∧ ∀ task, ¬(final.calls task).IsPending := by
  apply serving.completes _ reached
  intro call
  cases call <;> simp [Call.left]

section Page

/-- A page comes back instead of keys while the second look-up is queued. -/
private def pageComes : List Action :=
  [.start 0 "k1", .start 1 "k2", .replied 0 (.response 200 none)]

theorem settles_of_reached_page :
    ∃ state, machine.run machine.start pageComes = some state ∧
      state.calls 0 = .raised ∧ state.calls 1 = .waiting "k2" ∧
      ∃ actions final, (∀ action ∈ actions, action.IsWork) ∧
        machine.run state actions = some final ∧ ∀ task, ¬(final.calls task).IsPending := by
  rcases isRun : machine.run machine.start pageComes with _ | state
  · cases isRun
  · have reached : machine.Reached state :=
      Machine.reachedWithin_of_run (fun _ _ _ => trivial) .start isRun
    rcases settles_of_reached reached with ⟨_, _, _, completes⟩
    cases isRun
    exact ⟨_, rfl, rfl, rfl, completes⟩

end Page

end JwksCache

end McpPortal
