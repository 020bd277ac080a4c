import McpPortal.Auth.TokenSteps

/-!
# Locks, queues and calls

In every run a lock that is held has a call that fetches under it, a task that is
queued has a call that waits, and whoever is queued will be woken. A lock belongs
to one key.
-/

namespace McpPortal

open Foundation

namespace TokenCache

/-- The key and the lock that a call waits for or fetches under. -/
def Call.place : Call → Option (String × LockId)
  | .waiting key lock => some (key, lock)
  | .fetching key lock => some (key, lock)
  | _ => none

/-- Locks are allocated once, each for one key. -/
structure Allocated (state : State) : Prop where
  current : ∀ {key lock}, state.locks key = some lock → lock < state.nextLock
  used : ∀ {task key lock}, (state.calls task).place = some (key, lock) → lock < state.nextLock
  distinct : ∀ {key other lock}, state.locks key = some lock → state.locks other = some lock →
    other = key
  matching : ∀ {task key other lock}, (state.calls task).place = some (key, lock) →
    state.locks other = some lock → other = key

/-- The queues and holders of the locks are the calls that wait and fetch. -/
structure Queued (state : State) : Prop where
  waits : ∀ {lock task}, task ∈ (state.heap lock).waiters →
    ∃ key, state.calls task = .waiting key lock
  once : ∀ lock, (state.heap lock).waiters.Nodup
  holder : ∀ {lock}, (state.heap lock).locked = true →
    ∃ task key, state.calls task = .fetching key lock
  awake : ∀ lock, (state.heap lock).Awake

section Allocation

variable {state next : State}

theorem Allocated.mono (allocated : Allocated state) (sameNext : next.nextLock = state.nextLock)
    (locks : ∀ {key lock}, next.locks key = some lock → state.locks key = some lock)
    (places : ∀ {task place}, (next.calls task).place = some place →
      (state.calls task).place = some place) : Allocated next := by
  constructor
  · intro key lock isLock
    rw [sameNext]
    exact allocated.current (locks isLock)
  · intro task key lock isPlace
    rw [sameNext]
    exact allocated.used (places isPlace)
  · intro key other lock isLock isOther
    exact allocated.distinct (locks isLock) (locks isOther)
  · intro task key other lock isPlace isOther
    exact allocated.matching (places isPlace) (locks isOther)

theorem place_update {calls : TaskId → Call} {task other : TaskId} {call : Call}
    {place : String × LockId}
    (isPlace : (Function.update calls task call other).place = some place) :
    (other = task ∧ call.place = some place) ∨ (calls other).place = some place := by
  by_cases same : other = task
  · subst other
    rw [Function.update_self] at isPlace
    exact Or.inl ⟨rfl, isPlace⟩
  · rw [Function.update_of_ne same] at isPlace
    exact Or.inr isPlace

/-- The lock of a key is new, or it has been the key's. -/
theorem Allocated.lockFor (allocated : Allocated state) (key : String) :
    Allocated (state.lockFor key).2 ∧
      (state.lockFor key).2.locks key = some (state.lockFor key).1 := by
  unfold State.lockFor
  split
  case h_1 lock found => exact ⟨allocated, found⟩
  case h_2 absent =>
    refine ⟨?_, by simp⟩
    constructor
    · intro other lock isLock
      simp only at isLock ⊢
      by_cases same : other = key
      · subst other
        rw [Function.update_self, Option.some.injEq] at isLock
        exact isLock ▸ Nat.lt_succ_self _
      · rw [Function.update_of_ne same] at isLock
        exact Nat.lt_succ_of_lt (allocated.current isLock)
    · intro task other lock isPlace
      exact Nat.lt_succ_of_lt (allocated.used isPlace)
    · intro first second lock isFirst isSecond
      simp only at isFirst isSecond
      by_cases sameFirst : first = key
      · by_cases sameSecond : second = key
        · rw [sameFirst, sameSecond]
        · subst first
          rw [Function.update_self, Option.some.injEq] at isFirst
          rw [Function.update_of_ne sameSecond] at isSecond
          exact absurd isFirst.symm (allocated.current isSecond).ne
      · rw [Function.update_of_ne sameFirst] at isFirst
        by_cases sameSecond : second = key
        · subst second
          rw [Function.update_self, Option.some.injEq] at isSecond
          exact absurd isSecond.symm (allocated.current isFirst).ne
        · rw [Function.update_of_ne sameSecond] at isSecond
          exact allocated.distinct isFirst isSecond
    · intro task first second lock isPlace isSecond
      simp only at isPlace isSecond
      by_cases sameSecond : second = key
      · subst second
        rw [Function.update_self, Option.some.injEq] at isSecond
        exact absurd isSecond.symm (allocated.used isPlace).ne
      · rw [Function.update_of_ne sameSecond] at isSecond
        exact allocated.matching isPlace isSecond

/-- A call may take its place on the current lock of its key. -/
theorem Allocated.setCall (allocated : Allocated state) {task : TaskId} {call : Call}
    (onCurrent : ∀ {key lock}, call.place = some (key, lock) →
      state.locks key = some lock ∨ (state.calls task).place = some (key, lock)) :
    Allocated (state.setCall task call) := by
  have locks {key : String} {lock : LockId} :
      (state.setCall task call).locks key = some lock → state.locks key = some lock := id
  constructor
  · exact fun isLock => allocated.current isLock
  · intro other key lock isPlace
    rcases place_update isPlace with ⟨rfl, isCall⟩ | before
    · rcases onCurrent isCall with isLock | before
      · exact allocated.current isLock
      · exact allocated.used before
    · exact allocated.used before
  · exact fun isLock isOther => allocated.distinct isLock isOther
  · intro other key otherKey lock isPlace isOther
    rcases place_update isPlace with ⟨rfl, isCall⟩ | before
    · rcases onCurrent isCall with isLock | before
      · exact allocated.distinct isLock isOther
      · exact allocated.matching before isOther
    · exact allocated.matching before isOther

theorem Allocated.steps (allocated : Allocated state) {action : Action}
    (steps : Steps state action next) : Allocated next := by
  cases steps with
  | startHit _ _ => exact allocated.setCall nofun
  | startFetch _ _ _ =>
      rcases allocated.lockFor _ with ⟨located, isCurrent⟩
      apply Allocated.setCall
      · exact located.mono rfl id id
      · intro key lock isPlace
        cases isPlace
        exact Or.inl isCurrent
  | startWait _ _ _ =>
      rcases allocated.lockFor _ with ⟨located, isCurrent⟩
      apply Allocated.setCall
      · exact located.mono rfl id id
      · intro key lock isPlace
        cases isPlace
        exact Or.inl isCurrent
  | resumeHit _ _ _ =>
      apply Allocated.setCall
      · exact allocated.mono rfl id id
      · exact nofun
  | resumeFetch waiting _ _ =>
      apply Allocated.setCall
      · exact allocated.mono rfl id id
      · intro key lock isPlace
        cases isPlace
        exact Or.inr (congrArg Call.place waiting)
  | fetched _ =>
      apply Allocated.setCall
      · exact allocated.mono rfl (fun kept => @locks_purgeExpired (state.store _ _) _ _ _ kept) id
      · exact nofun
  | fetchFailed _ =>
      apply Allocated.setCall
      · exact allocated.mono rfl id id
      · exact nofun
  | tick _ => exact allocated.mono rfl id id

end Allocation

section Queues

variable {state next : State}

/-- A call that was on no lock moves to one that nobody queues on or fetches under. -/
theorem Queued.settle (queued : Queued state) {task : TaskId} {call : Call}
    (sameHeap : next.heap = state.heap) (calls : next.calls = Function.update state.calls task call)
    (placeless : (state.calls task).place = none) : Queued next := by
  have unchanged : ∀ {other : TaskId} {key : String} {lock : LockId},
      (state.calls other).place = some (key, lock) → next.calls other = state.calls other := by
    intro other key lock isPlace
    have different : other ≠ task := by
      rintro rfl
      rw [placeless] at isPlace
      cases isPlace
    rw [calls, Function.update_of_ne different]
  constructor
  · intro lock other otherMem
    rw [sameHeap] at otherMem
    rcases queued.waits otherMem with ⟨key, isWaiting⟩
    exact ⟨key, (unchanged (congrArg Call.place isWaiting)).trans isWaiting⟩
  · rw [sameHeap]
    exact queued.once
  · intro lock held
    rw [sameHeap] at held
    rcases queued.holder held with ⟨other, key, isFetching⟩
    exact ⟨other, key, (unchanged (congrArg Call.place isFetching)).trans isFetching⟩
  · rw [sameHeap]
    exact queued.awake

/-- One call moves, and the one lock it was on or comes to changes with it. -/
theorem Queued.move (queued : Queued state) {task : TaskId} {call : Call} {lock : LockId}
    {value : AsyncLock TaskId} (heap : next.heap = Function.update state.heap lock value)
    (calls : next.calls = Function.update state.calls task call)
    (place : ∀ {key other}, (state.calls task).place = some (key, other) → other = lock)
    (waits : ∀ {other}, other ∈ value.waiters → ∃ key, next.calls other = .waiting key lock)
    (once : value.waiters.Nodup)
    (holder : value.locked = true → ∃ other key, next.calls other = .fetching key lock)
    (awake : value.Awake) : Queued next := by
  have unchanged : ∀ {other : TaskId} {key : String} {otherLock : LockId},
      (state.calls other).place = some (key, otherLock) → otherLock ≠ lock →
        next.calls other = state.calls other := by
    intro other key otherLock isPlace elsewhere
    have different : other ≠ task := by
      rintro rfl
      exact elsewhere (place isPlace)
    rw [calls, Function.update_of_ne different]
  constructor
  · intro otherLock other otherMem
    rw [heap] at otherMem
    by_cases same : otherLock = lock
    · subst otherLock
      rw [Function.update_self] at otherMem
      exact waits otherMem
    · rw [Function.update_of_ne same] at otherMem
      rcases queued.waits otherMem with ⟨key, isWaiting⟩
      exact ⟨key, (unchanged (congrArg Call.place isWaiting) same).trans isWaiting⟩
  · intro otherLock
    rw [heap]
    by_cases same : otherLock = lock
    · subst otherLock
      rw [Function.update_self]
      exact once
    · rw [Function.update_of_ne same]
      exact queued.once otherLock
  · intro otherLock held
    rw [heap] at held
    by_cases same : otherLock = lock
    · subst otherLock
      rw [Function.update_self] at held
      exact holder held
    · rw [Function.update_of_ne same] at held
      rcases queued.holder held with ⟨other, key, isFetching⟩
      exact ⟨other, key, (unchanged (congrArg Call.place isFetching) same).trans isFetching⟩
  · intro otherLock
    rw [heap]
    by_cases same : otherLock = lock
    · subst otherLock
      rw [Function.update_self]
      exact awake
    · rw [Function.update_of_ne same]
      exact queued.awake otherLock

/-- Looking for a lock changes no lock object, unless a new one is made. -/
theorem heap_lockFor (state : State) (key : String) (lock : LockId) :
    (state.lockFor key).2.heap lock = state.heap lock ∨ (state.lockFor key).2.heap lock = .fresh := by
  unfold State.lockFor
  split
  · exact Or.inl rfl
  · by_cases same : lock = state.nextLock
    · subst lock
      exact Or.inr (Function.update_self ..)
    · exact Or.inl (Function.update_of_ne same ..)

theorem Queued.lockFor (queued : Queued state) (key : String) : Queued (state.lockFor key).2 := by
  constructor
  · intro lock task taskMem
    rw [calls_lockFor]
    rcases heap_lockFor state key lock with kept | isNew
    · rw [kept] at taskMem
      exact queued.waits taskMem
    · rw [isNew] at taskMem
      cases taskMem
  · intro lock
    rcases heap_lockFor state key lock with kept | isNew
    · rw [kept]
      exact queued.once lock
    · rw [isNew]
      exact List.nodup_nil
  · intro lock held
    rw [calls_lockFor]
    rcases heap_lockFor state key lock with kept | isNew
    · rw [kept] at held
      exact queued.holder held
    · rw [isNew] at held
      cases held
  · intro lock
    rcases heap_lockFor state key lock with kept | isNew
    · rw [kept]
      exact queued.awake lock
    · rw [isNew]
      exact fun nonempty => absurd rfl nonempty

/-- What is queued behind a task that resumes. -/
theorem Queued.behind (queued : Queued state) {task : TaskId} {lock : LockId}
    {held : AsyncLock TaskId} (resumed : (state.heap lock).resume task = some held)
    {call : Call} (calls : next.calls = Function.update state.calls task call) :
    held.waiters.Nodup ∧
      ∀ {other}, other ∈ held.waiters → ∃ key, next.calls other = .waiting key lock := by
  rcases AsyncLock.resume_eq_some resumed with ⟨_, waiters_eq, _⟩
  have once := queued.once lock
  rw [waiters_eq, List.nodup_cons] at once
  refine ⟨once.2, ?_⟩
  intro other otherMem
  have different : other ≠ task := by
    rintro rfl
    exact once.1 otherMem
  have stillQueued : other ∈ (state.heap lock).waiters := by
    rw [waiters_eq]
    exact List.mem_cons_of_mem _ otherMem
  rcases queued.waits stillQueued with ⟨key, isWaiting⟩
  exact ⟨key, by rw [calls, Function.update_of_ne different, isWaiting]⟩

/-- A lock that a call gives up lets the first of its queue go on. -/
theorem Queued.released (queued : Queued state) {task : TaskId} {key : String} {lock : LockId}
    {call : Call} (fetching : state.calls task = .fetching key lock)
    (heap : next.heap = Function.update state.heap lock (state.heap lock).release)
    (calls : next.calls = Function.update state.calls task call) : Queued next := by
  apply queued.move heap calls
  · intro otherKey other isPlace
    rw [fetching] at isPlace
    cases isPlace
    rfl
  · intro other otherMem
    rw [AsyncLock.waiters_release] at otherMem
    rcases queued.waits otherMem with ⟨otherKey, isWaiting⟩
    have different : other ≠ task := by
      rintro rfl
      rw [fetching] at isWaiting
      cases isWaiting
    exact ⟨otherKey, by rw [calls, Function.update_of_ne different, isWaiting]⟩
  · exact queued.once lock
  · intro held
    cases held
  · exact AsyncLock.awake_release _

theorem Queued.steps (queued : Queued state) {action : Action}
    (steps : Steps state action next) : Queued next := by
  cases steps with
  | @startHit task _ token idle _ =>
      have sameHeap : (state.setCall task (.returned token)).heap = state.heap := rfl
      apply queued.settle sameHeap (calls_setCall ..)
      rw [idle]
      rfl
  | startFetch idle _ acquired =>
      apply (queued.lockFor _).move rfl rfl
      · intro key other isPlace
        rw [calls_lockFor, idle] at isPlace
        cases isPlace
      · intro other otherMem
        rw [AsyncLock.waiters_of_acquireNow acquired] at otherMem
        cases otherMem
      · rw [AsyncLock.waiters_of_acquireNow acquired]
        exact List.nodup_nil
      · intro _
        exact ⟨_, _, Function.update_self ..⟩
      · exact AsyncLock.awake_of_locked (AsyncLock.acquireNow_eq_some acquired).2.2
  | @startWait task key idle _ occupied =>
      have located := queued.lockFor key
      have notQueued : task ∉ ((state.lockFor key).2.heap (state.lockFor key).1).waiters := by
        intro taskMem
        rcases located.waits taskMem with ⟨other, isWaiting⟩
        rw [calls_lockFor, idle] at isWaiting
        cases isWaiting
      apply located.move rfl rfl
      · intro other lock isPlace
        rw [calls_lockFor, idle] at isPlace
        cases isPlace
      · intro other otherMem
        rw [AsyncLock.waiters_enqueue, List.mem_append, List.mem_singleton] at otherMem
        rcases otherMem with before | rfl
        · rcases located.waits before with ⟨otherKey, isWaiting⟩
          have different : other ≠ task := by
            rintro rfl
            exact notQueued before
          exact ⟨otherKey, by rw [calls_setCall, calls_setLock, Function.update_of_ne different,
            isWaiting]⟩
        · exact ⟨key, Function.update_self ..⟩
      · rw [AsyncLock.waiters_enqueue, List.nodup_append]
        refine ⟨located.once _, List.pairwise_singleton _ _, ?_⟩
        intro other before last isLast same
        rw [List.mem_singleton] at isLast
        exact notQueued (isLast ▸ same ▸ before)
      · intro held
        rw [AsyncLock.locked_enqueue] at held
        rcases located.holder held with ⟨holder, otherKey, isFetching⟩
        have different : holder ≠ task := by
          rintro rfl
          rw [calls_lockFor, idle] at isFetching
          cases isFetching
        exact ⟨holder, otherKey, by rw [calls_setCall, calls_setLock,
          Function.update_of_ne different, isFetching]⟩
      · exact (located.awake _).enqueue task (AsyncLock.occupied_of_acquireNow occupied)
  | @resumeHit task key token lock held waiting resumed _ =>
      have calls : (((state.setLock lock held).release lock).setCall task (.returned token)).calls =
        Function.update state.calls task (.returned token) := rfl
      rcases queued.behind resumed calls with ⟨once, behind⟩
      have heap : (((state.setLock lock held).release lock).setCall task (.returned token)).heap =
          Function.update state.heap lock held.release := by
        simp
      apply queued.move heap calls
      · intro otherKey other isPlace
        rw [waiting] at isPlace
        cases isPlace
        rfl
      · exact behind
      · exact once
      · intro isHeld
        cases isHeld
      · exact AsyncLock.awake_release _
  | @resumeFetch task key lock held waiting resumed _ =>
      have calls : ((state.setLock lock held).setCall task (.fetching key lock)).calls =
        Function.update state.calls task (.fetching key lock) := rfl
      rcases queued.behind resumed calls with ⟨once, behind⟩
      apply queued.move rfl calls
      · intro otherKey other isPlace
        rw [waiting] at isPlace
        cases isPlace
        rfl
      · exact behind
      · exact once
      · intro _
        exact ⟨task, key, Function.update_self ..⟩
      · exact AsyncLock.awake_of_locked (AsyncLock.resume_eq_some resumed).2.2
  | fetched fetching => exact queued.released fetching rfl rfl
  | fetchFailed fetching => exact queued.released fetching rfl rfl
  | tick _ => exact ⟨queued.waits, queued.once, queued.holder, queued.awake⟩

end Queues

/-- What holds of the locks and the calls in every run. -/
theorem allocated_queued_of_reached {state : State} (reached : machine.Reached state) :
    Allocated state ∧ Queued state := by
  apply Machine.keeps_of_reachedWithin _ _ reached
  · refine ⟨⟨nofun, nofun, nofun, nofun⟩, ⟨nofun, fun _ => List.nodup_nil, nofun, ?_⟩⟩
    exact fun _ nonempty => absurd rfl nonempty
  · rintro before action after ⟨allocated, queued⟩ _ stepped
    have steps := steps_of_step stepped
    exact ⟨allocated.steps steps, queued.steps steps⟩

end TokenCache

end McpPortal
