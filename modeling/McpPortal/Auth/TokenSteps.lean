import McpPortal.Auth.TokenCache

/-!
# What a step of the token cache does

A call that starts finds a token, begins to fetch, or waits; one that resumes finds
a token or begins to fetch. Each way gives the next state in full, so that what a
run keeps is shown once for each of them.
-/

namespace McpPortal

open Foundation

namespace TokenCache

inductive Steps (state : State) : Action → State → Prop
  | startHit {task : TaskId} {key token : String} (idle : state.calls task = .idle)
      (hit : state.cached key = some token) :
      Steps state (.start task key) (state.setCall task (.returned token))
  | startFetch {task : TaskId} {key : String} {held : AsyncLock TaskId}
      (idle : state.calls task = .idle) (miss : state.cached key = none)
      (acquired : ((state.lockFor key).2.heap (state.lockFor key).1).acquireNow = some held) :
      Steps state (.start task key)
        (((state.lockFor key).2.setLock (state.lockFor key).1 held).setCall task
          (.fetching key (state.lockFor key).1))
  | startWait {task : TaskId} {key : String} (idle : state.calls task = .idle)
      (miss : state.cached key = none)
      (occupied : ((state.lockFor key).2.heap (state.lockFor key).1).acquireNow = none) :
      Steps state (.start task key)
        (((state.lockFor key).2.setLock (state.lockFor key).1
          (((state.lockFor key).2.heap (state.lockFor key).1).enqueue task)).setCall task
            (.waiting key (state.lockFor key).1))
  | resumeHit {task : TaskId} {key token : String} {lock : LockId} {held : AsyncLock TaskId}
      (waiting : state.calls task = .waiting key lock)
      (resumed : (state.heap lock).resume task = some held) (hit : state.cached key = some token) :
      Steps state (.resume task)
        (((state.setLock lock held).release lock).setCall task (.returned token))
  | resumeFetch {task : TaskId} {key : String} {lock : LockId} {held : AsyncLock TaskId}
      (waiting : state.calls task = .waiting key lock)
      (resumed : (state.heap lock).resume task = some held) (miss : state.cached key = none) :
      Steps state (.resume task) ((state.setLock lock held).setCall task (.fetching key lock))
  | fetched {task : TaskId} {key token : String} {lock : LockId} {ttlSeconds : Rat}
      (fetching : state.calls task = .fetching key lock) :
      Steps state (.fetched task token ttlSeconds)
        ((((state.store key { value := token, expiresAt := state.now + ttlSeconds }).purgeExpired
          key).release lock).setCall task (.returned token))
  | fetchFailed {task : TaskId} {key : String} {lock : LockId}
      (fetching : state.calls task = .fetching key lock) :
      Steps state (.fetchFailed task) ((state.release lock).setCall task .failed)
  | tick {elapsed : Rat} (forward : 0 ≤ elapsed) :
      Steps state (.tick elapsed) { state with now := state.now + elapsed }

variable {state next : State} {action : Action}

/-- Marking a call as running while it runs leaves no trace. -/
theorem setCall_running (state : State) (task : TaskId) (call : Call) :
    (state.setCall task .running).setCall task call = state.setCall task call := by
  simp [State.setCall]

theorem steps_of_start {task : TaskId} {key : String}
    (stepped : step state (.start task key) = some next) : Steps state (.start task key) next := by
  simp only [step] at stepped
  split at stepped
  case h_1 idle =>
    cases stepped
    have sameCached : (state.setCall task .running).cached key = state.cached key := rfl
    have sameLock : ((state.setCall task .running).lockFor key).1 = (state.lockFor key).1 := by
      simp only [State.lockFor, State.setCall]
      split <;> rfl
    have located : ((state.setCall task .running).lockFor key).2 =
        (state.lockFor key).2.setCall task .running := by
      simp only [State.lockFor, State.setCall]
      split <;> rfl
    unfold State.startCall
    rw [sameCached]
    cases found : state.cached key with
    | some token =>
        simp only [setCall_running]
        exact .startHit idle found
    | none =>
        simp only [sameLock, located]
        have sameHeap : ((state.lockFor key).2.setCall task .running).heap =
          (state.lockFor key).2.heap := rfl
        rw [sameHeap]
        cases acquired : ((state.lockFor key).2.heap (state.lockFor key).1).acquireNow with
        | some held =>
            have stillMissing : (((state.lockFor key).2.setCall task .running).setLock
                (state.lockFor key).1 held).cached key = none := by
              have sameEntries : (state.lockFor key).2.entries = state.entries ∧
                  (state.lockFor key).2.now = state.now := by
                unfold State.lockFor
                split <;> exact ⟨rfl, rfl⟩
              simp only [State.cached, State.setLock, State.setCall, sameEntries] at found ⊢
              exact found
            simp only [State.underLock, stillMissing]
            have merged := setCall_running ((state.lockFor key).2.setLock (state.lockFor key).1 held)
              task (.fetching key (state.lockFor key).1)
            exact merged ▸ .startFetch idle found acquired
        | none =>
            have merged := setCall_running ((state.lockFor key).2.setLock (state.lockFor key).1
              (((state.lockFor key).2.heap (state.lockFor key).1).enqueue task)) task
                (.waiting key (state.lockFor key).1)
            exact merged ▸ .startWait idle found acquired
  case h_2 => cases stepped

/-- Every step is one of these. -/
theorem steps_of_step (stepped : step state action = some next) : Steps state action next := by
  cases action with
  | start task key => exact steps_of_start stepped
  | resume task =>
      simp only [step] at stepped
      split at stepped
      case h_1 key lock waiting =>
        rcases Option.map_eq_some_iff.mp stepped with ⟨held, resumed, rfl⟩
        have sameCached : ((state.setCall task .running).setLock lock held).cached key =
          state.cached key := rfl
        unfold State.underLock
        rw [sameCached]
        cases found : state.cached key with
        | some token =>
            have merged := setCall_running ((state.setLock lock held).release lock) task
              (.returned token)
            have hits : Steps state (.resume task) _ := .resumeHit waiting resumed found
            rw [← merged] at hits
            exact hits
        | none =>
            have merged := setCall_running (state.setLock lock held) task (.fetching key lock)
            exact merged ▸ .resumeFetch waiting resumed found
      case h_2 => cases stepped
  | fetched task token ttlSeconds =>
      simp only [step] at stepped
      split at stepped
      case h_1 key lock fetching =>
        cases stepped
        have merged := setCall_running (((state.store key
          { value := token, expiresAt := state.now + ttlSeconds }).purgeExpired key).release lock)
            task (.returned token)
        exact merged ▸ .fetched fetching
      case h_2 => cases stepped
  | fetchFailed task =>
      simp only [step] at stepped
      split at stepped
      case h_1 key lock fetching =>
        cases stepped
        have merged := setCall_running (state.release lock) task .failed
        exact merged ▸ .fetchFailed fetching
      case h_2 => cases stepped
  | tick elapsed =>
      simp only [step] at stepped
      split at stepped
      case isTrue forward =>
        cases stepped
        exact .tick forward
      case isFalse => cases stepped

section Parts

variable (state : State) (task : TaskId) (call : Call) (lock : LockId) (value : AsyncLock TaskId)
  (key : String) (entry : CachedToken)

@[simp]
theorem calls_setCall : (state.setCall task call).calls = Function.update state.calls task call :=
  rfl

@[simp]
theorem calls_setLock : (state.setLock lock value).calls = state.calls := rfl

@[simp]
theorem calls_release : (state.release lock).calls = state.calls := rfl

@[simp]
theorem calls_store : (state.store key entry).calls = state.calls := rfl

@[simp]
theorem calls_purgeExpired : (state.purgeExpired key).calls = state.calls := rfl

@[simp]
theorem locks_setCall : (state.setCall task call).locks = state.locks := rfl

@[simp]
theorem locks_setLock : (state.setLock lock value).locks = state.locks := rfl

@[simp]
theorem locks_release : (state.release lock).locks = state.locks := rfl

@[simp]
theorem locks_store : (state.store key entry).locks = state.locks := rfl

@[simp]
theorem heap_setCall : (state.setCall task call).heap = state.heap := rfl

@[simp]
theorem heap_setLock : (state.setLock lock value).heap = Function.update state.heap lock value :=
  rfl

@[simp]
theorem heap_release :
    (state.release lock).heap = Function.update state.heap lock (state.heap lock).release := rfl

@[simp]
theorem heap_store : (state.store key entry).heap = state.heap := rfl

@[simp]
theorem heap_purgeExpired : (state.purgeExpired key).heap = state.heap := rfl

@[simp]
theorem entries_setCall : (state.setCall task call).entries = state.entries := rfl

@[simp]
theorem entries_setLock : (state.setLock lock value).entries = state.entries := rfl

@[simp]
theorem entries_release : (state.release lock).entries = state.entries := rfl

@[simp]
theorem entries_store :
    (state.store key entry).entries = Function.update state.entries key (some entry) := rfl

@[simp]
theorem nextLock_setCall : (state.setCall task call).nextLock = state.nextLock := rfl

@[simp]
theorem nextLock_setLock : (state.setLock lock value).nextLock = state.nextLock := rfl

@[simp]
theorem nextLock_release : (state.release lock).nextLock = state.nextLock := rfl

@[simp]
theorem nextLock_store : (state.store key entry).nextLock = state.nextLock := rfl

@[simp]
theorem nextLock_purgeExpired : (state.purgeExpired key).nextLock = state.nextLock := rfl

@[simp]
theorem now_setCall : (state.setCall task call).now = state.now := rfl

@[simp]
theorem now_setLock : (state.setLock lock value).now = state.now := rfl

@[simp]
theorem now_release : (state.release lock).now = state.now := rfl

@[simp]
theorem now_store : (state.store key entry).now = state.now := rfl

@[simp]
theorem now_purgeExpired : (state.purgeExpired key).now = state.now := rfl

@[simp]
theorem calls_lockFor : (state.lockFor key).2.calls = state.calls := by
  unfold State.lockFor
  split <;> rfl

@[simp]
theorem entries_lockFor : (state.lockFor key).2.entries = state.entries := by
  unfold State.lockFor
  split <;> rfl

@[simp]
theorem now_lockFor : (state.lockFor key).2.now = state.now := by
  unfold State.lockFor
  split <;> rfl

/-- A purge keeps the lock of a key or drops it. -/
theorem locks_purgeExpired {state : State} {exclude key : String} {lock : LockId}
    (kept : (state.purgeExpired exclude).locks key = some lock) : state.locks key = some lock := by
  simp only [State.purgeExpired] at kept
  split at kept
  case h_1 found =>
    split at kept
    · cases kept
    · rw [found, ← kept]
  case h_2 => cases kept

end Parts

def Action.task? : Action → Option TaskId
  | .start task _ => some task
  | .resume task => some task
  | .fetched task _ _ => some task
  | .fetchFailed task => some task
  | .tick _ => none

theorem Steps.calls_of_ne {state next : State} {action : Action} (steps : Steps state action next)
    {other : TaskId} (uninvolved : action.task? ≠ some other) :
    next.calls other = state.calls other := by
  cases steps with
  | tick _ => rfl
  | startFetch _ _ _ =>
      rw [calls_setCall, calls_setLock, calls_lockFor]
      exact Function.update_of_ne (fun same => uninvolved (congrArg some same.symm)) ..
  | startWait _ _ _ =>
      rw [calls_setCall, calls_setLock, calls_lockFor]
      exact Function.update_of_ne (fun same => uninvolved (congrArg some same.symm)) ..
  | _ => exact Function.update_of_ne (fun same => uninvolved (congrArg some same.symm)) ..

/-- A call that no action of a run is about stays where it is. -/
theorem calls_run {state final : State} {actions : List Action}
    (ran : machine.run state actions = some final) {task : TaskId}
    (uninvolved : ∀ action ∈ actions, action.task? ≠ some task) :
    final.calls task = state.calls task := by
  induction actions generalizing state with
  | nil =>
      cases ran
      rfl
  | cons action rest ih =>
      rw [List.forall_mem_cons] at uninvolved
      rw [Machine.run, Option.bind_eq_some_iff] at ran
      rcases ran with ⟨next, stepped, later⟩
      rw [ih later uninvolved.2]
      exact (steps_of_step stepped).calls_of_ne uninvolved.1

end TokenCache

end McpPortal
