import McpPortal.Auth.TokenQueues

/-!
# Reclaiming locks and entries

A stored token leaves no expired entry of another key behind. A lock outlives its
entry only where a fetch fails for a key that has none, and nobody else is queued
to fetch it.
-/

namespace McpPortal

open Foundation

namespace TokenCache

/-- No call is under way. -/
def AllCompleted (state : State) : Prop :=
  ∀ task, (state.calls task).place = none

/-- Every lock is kept for an entry. -/
def LocksHaveEntries (state : State) : Prop :=
  ∀ key, state.locks key ≠ none → state.entries key ≠ none

/-- A fetch that fails leaves an entry of its key, or somebody who fetches next. -/
def FailsReclaimably (state : State) : Action → Prop
  | .fetchFailed task =>
      ∀ key lock, state.calls task = .fetching key lock → state.locks key = some lock →
        state.entries key ≠ none ∨ (state.heap lock).waiters ≠ []
  | _ => True

/-- A lock is kept for an entry, or for a call that is going to store one. -/
def Backed (state : State) : Prop :=
  ∀ key lock, state.locks key = some lock →
    state.entries key ≠ none ∨ (state.heap lock).locked = true ∨ (state.heap lock).waiters ≠ []

section Reclaim

variable {state next : State} {action : Action}

theorem entries_ne_none_of_cached {key token : String} (hit : state.cached key = some token) :
    state.entries key ≠ none := by
  intro absent
  simp [State.cached, absent] at hit

/-- A lock that a purge keeps is in use, or its entry is kept. -/
theorem kept_purgeExpired {exclude key : String} {lock : LockId}
    (kept : (state.purgeExpired exclude).locks key = some lock) :
    state.locks key = some lock ∧
      ((state.heap lock).locked = true ∨
        (state.purgeExpired exclude).entries key = state.entries key) := by
  have found := locks_purgeExpired kept
  refine ⟨found, ?_⟩
  cases purged : state.purges exclude key with
  | false =>
      right
      simp [State.purgeExpired, purged]
  | true =>
      left
      simp only [State.purgeExpired, found, purged, Bool.true_and] at kept
      split at kept
      · cases kept
      case isFalse held => simpa using held

theorem locks_lockFor_of_ne {key other : String} (different : other ≠ key) :
    (state.lockFor key).2.locks other = state.locks other := by
  unfold State.lockFor
  split
  · rfl
  · exact Function.update_of_ne different ..

theorem heap_lockFor_of_lt (key : String) {lock : LockId} (isOld : lock < state.nextLock) :
    (state.lockFor key).2.heap lock = state.heap lock := by
  unfold State.lockFor
  split
  · rfl
  · exact Function.update_of_ne isOld.ne ..

/-- A call that comes to the lock of its key leaves the locks of other keys as they were. -/
theorem Backed.comeTo (backed : Backed state) (allocated : Allocated state) (key : String)
    (value : AsyncLock TaskId) (inUse : value.locked = true ∨ value.waiters ≠ [])
    (sameEntries : next.entries = state.entries)
    (locks : next.locks = (state.lockFor key).2.locks)
    (heap : next.heap =
      Function.update (state.lockFor key).2.heap (state.lockFor key).1 value) : Backed next := by
  rcases allocated.lockFor key with ⟨located, isCurrent⟩
  intro other lock isLock
  rw [locks] at isLock
  rw [sameEntries, heap]
  by_cases same : lock = (state.lockFor key).1
  · subst lock
    rw [Function.update_self]
    exact Or.inr inUse
  · have different : other ≠ key := by
      rintro rfl
      rw [isCurrent, Option.some.injEq] at isLock
      exact same isLock.symm
    rw [locks_lockFor_of_ne different] at isLock
    rw [Function.update_of_ne same, heap_lockFor_of_lt key (allocated.current isLock)]
    exact backed _ _ isLock

/-- A call on a lock changes this lock alone, which belongs to its key. -/
theorem Backed.changeLock (backed : Backed state) (allocated : Allocated state) {task : TaskId}
    {key : String} {lock : LockId} (value : AsyncLock TaskId)
    (place : (state.calls task).place = some (key, lock))
    (sameEntries : next.entries = state.entries) (sameLocks : next.locks = state.locks)
    (heap : next.heap = Function.update state.heap lock value)
    (stillBacked : state.locks key = some lock →
      state.entries key ≠ none ∨ value.locked = true ∨ value.waiters ≠ []) : Backed next := by
  intro other otherLock isLock
  rw [sameLocks] at isLock
  rw [sameEntries, heap]
  by_cases same : otherLock = lock
  · subst otherLock
    cases allocated.matching place isLock
    rw [Function.update_self]
    exact stillBacked isLock
  · rw [Function.update_of_ne same]
    exact backed _ _ isLock

theorem Backed.steps (backed : Backed state) (allocated : Allocated state)
    (reclaimably : FailsReclaimably state action) (steps : Steps state action next) :
    Backed next := by
  cases steps with
  | startHit _ _ => exact backed
  | @startFetch task key held _ _ acquired =>
      refine backed.comeTo allocated key held ?_ (by simp) ?_ ?_
      · exact Or.inl (AsyncLock.acquireNow_eq_some acquired).2.2
      · rfl
      · rfl
  | @startWait task key _ _ _ =>
      refine backed.comeTo allocated key
        (((state.lockFor key).2.heap (state.lockFor key).1).enqueue task) ?_ (by simp) ?_ ?_
      · right
        simp
      · rfl
      · rfl
  | @resumeHit task key token lock held waiting resumed hit =>
      refine backed.changeLock allocated held.release (congrArg Call.place waiting) ?_ ?_ ?_ ?_
      · rfl
      · rfl
      · simp
      · intro _
        exact Or.inl (entries_ne_none_of_cached hit)
  | @resumeFetch _ _ _ held waiting resumed _ =>
      refine backed.changeLock allocated held (congrArg Call.place waiting) ?_ ?_ ?_ ?_
      · rfl
      · rfl
      · rfl
      · intro _
        exact Or.inr (Or.inl (AsyncLock.resume_eq_some resumed).2.2)
  | @fetched task key token lock ttlSeconds fetching =>
      intro other otherLock isLock
      rcases kept_purgeExpired (isLock : ((state.store key _).purgeExpired key).locks other = _) with
        ⟨before, inUse⟩
      by_cases same : other = key
      · subst other
        left
        simp [State.purgeExpired, State.purges]
      · have elsewhere : otherLock ≠ lock := by
          rintro rfl
          exact same (allocated.matching (congrArg Call.place fetching) before)
        rw [heap_setCall, heap_release, Function.update_of_ne elsewhere]
        rcases inUse with held | kept
        · exact Or.inr (Or.inl held)
        · rw [entries_setCall, entries_release, kept, entries_store, Function.update_of_ne same]
          exact backed _ _ before
  | @fetchFailed _ _ lock fetching =>
      refine backed.changeLock allocated (state.heap lock).release (congrArg Call.place fetching) ?_ ?_ ?_ ?_
      · rfl
      · rfl
      · rfl
      · intro isLock
        rcases reclaimably _ _ fetching isLock with kept | queued
        · exact Or.inl kept
        · exact Or.inr (Or.inr queued)
  | tick _ => exact backed

end Reclaim

theorem unexpired_purgeExpired {state : State} {exclude key : String} {entry : CachedToken}
    (different : key ≠ exclude) (kept : (state.purgeExpired exclude).entries key = some entry) :
    state.now < entry.expiresAt := by
  simp only [State.purgeExpired] at kept
  cases purged : state.purges exclude key with
  | true =>
      rw [purged, if_pos rfl] at kept
      cases kept
  | false =>
      rw [purged, if_neg (by simp)] at kept
      exact Rat.not_le.mp (by simpa [State.purges, different, kept] using purged)

/-- Right after a token was stored, no entry of another key is expired. -/
theorem unexpired_of_fetched {state next : State} {task : TaskId} {key token : String}
    {lock : LockId} {ttlSeconds : Rat} (fetching : state.calls task = .fetching key lock)
    (stepped : step state (.fetched task token ttlSeconds) = some next) {other : String}
    (different : other ≠ key) {entry : CachedToken} (stored : next.entries other = some entry) :
    next.now < entry.expiresAt := by
  have steps := steps_of_step stepped
  generalize isAction : Action.fetched task token ttlSeconds = action at steps
  cases steps with
  | fetched isFetching =>
      cases isAction
      cases fetching.symm.trans isFetching
      exact @unexpired_purgeExpired (state.store key _) _ _ _ different stored
  | _ => cases isAction

theorem backed_of_reachedWithin {state : State}
    (reached : machine.ReachedWithin FailsReclaimably state) : Backed state ∧ Queued state := by
  have kept : Backed state ∧ Allocated state ∧ Queued state := by
    apply Machine.keeps_of_reachedWithin _ _ reached
    · refine ⟨nofun, ⟨nofun, nofun, nofun, nofun⟩, ⟨nofun, fun _ => List.nodup_nil, nofun, ?_⟩⟩
      exact fun _ nonempty => absurd rfl nonempty
    · rintro before action after ⟨backed, allocated, queued⟩ reclaimably stepped
      have steps := steps_of_step stepped
      exact ⟨backed.steps allocated reclaimably steps, allocated.steps steps, queued.steps steps⟩
  exact ⟨kept.1, kept.2.2⟩

/--
In every run in which a fetch fails only where an entry or a queue is left, locks
have entries once all calls have completed. In every run at all, a token that is
stored leaves no expired entry of another key.
-/
theorem reclaimed_of_reachedWithin (state : State) :
    (machine.ReachedWithin FailsReclaimably state → AllCompleted state →
      LocksHaveEntries state) ∧
    (machine.Reached state → ∀ task key lock token ttlSeconds next,
      state.calls task = .fetching key lock →
        step state (.fetched task token ttlSeconds) = some next →
          ∀ other entry, other ≠ key → next.entries other = some entry →
            next.now < entry.expiresAt) := by
  constructor
  · intro reached completed key hasLock
    rcases backed_of_reachedWithin reached with ⟨backed, queued⟩
    rcases Option.ne_none_iff_exists'.mp hasLock with ⟨lock, isLock⟩
    rcases backed key lock isLock with stored | held | waited
    · exact stored
    · rcases queued.holder held with ⟨task, otherKey, isFetching⟩
      have pending := completed task
      rw [isFetching] at pending
      cases pending
    · rcases List.exists_mem_of_ne_nil _ waited with ⟨task, taskMem⟩
      rcases queued.waits taskMem with ⟨otherKey, isWaiting⟩
      have pending := completed task
      rw [isWaiting] at pending
      cases pending
  · intro _ task key lock token ttlSeconds next fetching stepped other entry different stored
    exact unexpired_of_fetched fetching stepped different stored

section Run

/-- The only fetch for a key fails. -/
private def failedOnce : List Action :=
  [.start 0 "k", .fetchFailed 0]

/-- A failed fetch leaves the lock it was made under, and no entry. -/
theorem not_locksHaveEntries_failedOnce :
    ∃ state, machine.run machine.start failedOnce = some state ∧ machine.Reached state ∧
      AllCompleted state ∧ ¬LocksHaveEntries state := by
  have failed : (machine.run machine.start failedOnce).map (·.calls 0) = some .failed := by
    decide +kernel
  have locked : (machine.run machine.start failedOnce).map (·.locks "k") = some (some 0) := by
    decide +kernel
  have stored : (machine.run machine.start failedOnce).map (fun state => (state.entries "k").isSome) =
      some false := by decide +kernel
  rcases Option.map_eq_some_iff.mp failed with ⟨state, ran, failed⟩
  rw [ran, Option.map_some, Option.some.injEq] at locked stored
  refine ⟨state, ran, ?_, ?_, ?_⟩
  · apply Machine.reachedWithin_of_run _ .start ran
    intro action _ before
    trivial
  · intro task
    by_cases isFirst : task = 0
    · rw [isFirst, failed]
      rfl
    · have idle : state.calls task = .idle := by
        apply calls_run ran
        simpa [failedOnce, Action.task?] using Ne.symm isFirst
      rw [idle]
      rfl
  · intro kept
    have isStored := kept "k" (by rw [locked]; simp)
    rw [← Option.isSome_iff_ne_none, stored] at isStored
    cases isStored

/-- A second call is queued when the first one's fetch fails. -/
private def queuedTwice : List Action :=
  [.start 0 "k", .start 1 "k"]

private def retried : List Action :=
  [.resume 1, .fetched 1 "token" 10]

theorem reclaimed_of_reachedWithin_retried :
    ∃ state, machine.ReachedWithin FailsReclaimably state ∧
      state.calls 1 = .returned "token" ∧ LocksHaveEntries state := by
  have first : (machine.run machine.start queuedTwice).map (·.calls 0) =
      some (.fetching "k" 0) := by decide +kernel
  have waiters : (machine.run machine.start queuedTwice).map (fun state => (state.heap 0).waiters) =
      some [1] := by decide +kernel
  have firstEnded : (machine.run machine.start (queuedTwice ++ .fetchFailed 0 :: retried)).map
      (·.calls 0) = some .failed := by decide +kernel
  have secondEnded : (machine.run machine.start (queuedTwice ++ .fetchFailed 0 :: retried)).map
      (·.calls 1) = some (.returned "token") := by decide +kernel
  rcases Option.map_eq_some_iff.mp first with ⟨queued, ranQueued, first⟩
  rcases Option.map_eq_some_iff.mp firstEnded with ⟨state, ran, firstEnded⟩
  rw [ranQueued, Option.map_some, Option.some.injEq] at waiters
  rw [ran, Option.map_some, Option.some.injEq] at secondEnded
  have later := ran
  rw [Machine.run_append, ranQueued, Option.bind_some, Machine.run, Option.bind_eq_some_iff] at later
  rcases later with ⟨failed, fails, ranRetried⟩
  have reachedQueued : machine.ReachedWithin FailsReclaimably queued := by
    apply Machine.reachedWithin_of_run _ .start ranQueued
    simp [queuedTwice, FailsReclaimably]
  have reachedFailed : machine.ReachedWithin FailsReclaimably failed := by
    refine .step _ reachedQueued ?_ fails
    intro key lock fetching _
    rw [first] at fetching
    cases fetching
    exact Or.inr (by rw [waiters]; simp)
  have reached : machine.ReachedWithin FailsReclaimably state := by
    apply Machine.reachedWithin_of_run _ reachedFailed ranRetried
    simp [retried, FailsReclaimably]
  refine ⟨state, reached, secondEnded, (reclaimed_of_reachedWithin state).1 reached ?_⟩
  intro task
  by_cases isFirst : task = 0
  · rw [isFirst, firstEnded]
    rfl
  · by_cases isSecond : task = 1
    · rw [isSecond, secondEnded]
      rfl
    · have idle : state.calls task = .idle := by
        apply calls_run ran
        simp [queuedTwice, retried, Action.task?, Ne.symm isFirst, Ne.symm isSecond]
      rw [idle]
      rfl

end Run

end TokenCache

end McpPortal
