import Mathlib.Data.Rat.Defs
import Mathlib.Logic.Function.Basic
import McpPortal.Foundation.AsyncLock
import McpPortal.Foundation.Machine

/-!
# The token cache

Each call of `get_or_fetch` runs from one await to the next without interruption,
so a step is what a call does until it waits for the lock, waits for its fetch, or
ends. Locks are created on demand and kept by key; a fetch that succeeded purges
the expired entries of other keys together with their locks, unless these are held.

A lock that is free may still have tasks queued on it. Purging it leaves them on a
lock that a later call for the key does not know.
-/

namespace McpPortal

open Foundation

namespace TokenCache

structure CachedToken where
  value : String
  expiresAt : Rat

/-- Names one call of `get_or_fetch`. -/
abbrev TaskId := Nat

abbrev LockId := Nat

/-- Where a call is. -/
inductive Call where
  | idle
  | running
  | waiting (key : String) (lock : LockId)
  | fetching (key : String) (lock : LockId)
  | returned (token : String)
  | failed
  deriving DecidableEq

/-- The two dictionaries of the cache, the lock objects, and the calls. -/
structure State where
  now : Rat := 0
  entries : String → Option CachedToken := fun _ => none
  locks : String → Option LockId := fun _ => none
  heap : LockId → AsyncLock TaskId := fun _ => .fresh
  nextLock : LockId := 0
  calls : TaskId → Call := fun _ => .idle

inductive Action where
  | start (task : TaskId) (key : String)
  | resume (task : TaskId)
  | fetched (task : TaskId) (token : String) (ttlSeconds : Rat)
  | fetchFailed (task : TaskId)
  | tick (elapsed : Rat)

namespace State

variable (state : State)

def setCall (task : TaskId) (call : Call) : State :=
  { state with calls := Function.update state.calls task call }

def setLock (lock : LockId) (value : AsyncLock TaskId) : State :=
  { state with heap := Function.update state.heap lock value }

/-- The token of an entry that has not expired. -/
def cached (key : String) : Option String :=
  match state.entries key with
  | some entry => if state.now < entry.expiresAt then some entry.value else none
  | none => none

/-- `_lock_for`. -/
def lockFor (key : String) : LockId × State :=
  match state.locks key with
  | some lock => (lock, state)
  | none =>
      (state.nextLock,
        { state with
          locks := Function.update state.locks key (some state.nextLock)
          heap := Function.update state.heap state.nextLock .fresh
          nextLock := state.nextLock + 1 })

def release (lock : LockId) : State :=
  state.setLock lock (state.heap lock).release

/-- What a call does once it holds the lock, until it fetches or returns. -/
def underLock (task : TaskId) (key : String) (lock : LockId) : State :=
  match state.cached key with
  | some token => (state.release lock).setCall task (.returned token)
  | none => state.setCall task (.fetching key lock)

/-- The keys whose entries a purge drops. -/
def purges (exclude key : String) : Bool :=
  key ≠ exclude &&
    match state.entries key with
    | some entry => decide (entry.expiresAt ≤ state.now)
    | none => false

/-- `_purge_expired`. -/
def purgeExpired (exclude : String) : State :=
  { state with
    entries := fun key => if state.purges exclude key then none else state.entries key
    locks := fun key =>
      match state.locks key with
      | some lock =>
          if state.purges exclude key && !(state.heap lock).locked then none else some lock
      | none => none }

def store (key : String) (entry : CachedToken) : State :=
  { state with entries := Function.update state.entries key (some entry) }

/-- A call up to its first await. -/
def startCall (task : TaskId) (key : String) : State :=
  match state.cached key with
  | some token => state.setCall task (.returned token)
  | none =>
      let located := state.lockFor key
      match (located.2.heap located.1).acquireNow with
      | some held => (located.2.setLock located.1 held).underLock task key located.1
      | none =>
          (located.2.setLock located.1 ((located.2.heap located.1).enqueue task)).setCall task
            (.waiting key located.1)

end State

def step (state : State) : Action → Option State
  | .start task key =>
      match state.calls task with
      | .idle => some ((state.setCall task .running).startCall task key)
      | _ => none
  | .resume task =>
      match state.calls task with
      | .waiting key lock =>
          ((state.heap lock).resume task).map fun held =>
            ((state.setCall task .running).setLock lock held).underLock task key lock
      | _ => none
  | .fetched task token ttlSeconds =>
      match state.calls task with
      | .fetching key lock =>
          some (((((state.setCall task .running).store key
            { value := token, expiresAt := state.now + ttlSeconds }).purgeExpired key).release
              lock).setCall task (.returned token))
      | _ => none
  | .fetchFailed task =>
      match state.calls task with
      | .fetching _ lock => some (((state.setCall task .running).release lock).setCall task .failed)
      | _ => none
  | .tick elapsed => if 0 ≤ elapsed then some { state with now := state.now + elapsed } else none

/-- One cache, shared by any number of calls. -/
def machine : Machine State Action where
  start := {}
  step := step

/-- At most one call is fetching any one key. -/
def SingleFlight (state : State) : Prop :=
  ∀ first second key firstLock secondLock, state.calls first = .fetching key firstLock →
    state.calls second = .fetching key secondLock → first = second

/-- The purge of this step drops no free lock that a call is still queued on. -/
def PurgesNoQueue (state : State) : Action → Prop
  | .fetched task _ _ =>
      ∀ fetchedKey ownLock, state.calls task = .fetching fetchedKey ownLock →
        ∀ key lock, state.purges fetchedKey key = true → state.locks key = some lock →
          (state.heap lock).locked = false → (state.heap lock).waiters = []
  | _ => True

/-- Every call that waits or fetches is on the lock its key currently has. -/
structure Sound (state : State) : Prop where
  waiting : ∀ task key lock, state.calls task = .waiting key lock →
    state.locks key = some lock ∧ task ∈ (state.heap lock).waiters
  fetching : ∀ task key lock, state.calls task = .fetching key lock →
    state.locks key = some lock ∧ (state.heap lock).locked = true
  alone : ∀ first second firstKey secondKey lock, state.calls first = .fetching firstKey lock →
    state.calls second = .fetching secondKey lock → first = second
  allocated : ∀ key lock, state.locks key = some lock → lock < state.nextLock

/-- Storing a token does not change which other keys are purged. -/
theorem purges_store (state : State) (exclude key : String) (entry : CachedToken) :
    (state.store exclude entry).purges exclude key = state.purges exclude key := by
  by_cases same : key = exclude
  · simp [State.purges, same]
  · simp only [State.purges, State.store, Function.update_of_ne same]
    rfl

theorem calls_setCall_cases {state : State} {task other : TaskId} {call otherCall : Call}
    (isCall : (state.setCall task call).calls other = otherCall) :
    (other = task ∧ call = otherCall) ∨ (other ≠ task ∧ state.calls other = otherCall) := by
  by_cases same : other = task
  · subst other
    left
    exact ⟨rfl, by simpa [State.setCall] using isCall⟩
  · right
    exact ⟨same, by simpa [State.setCall, same] using isCall⟩

namespace Sound

variable {state : State} {task : TaskId} {key : String} {lock : LockId}

/-- A call may wait where it is queued, and fetch where it alone holds the lock. -/
theorem setCall (sound : Sound state) {call : Call}
    (canWait : ∀ key lock, call = .waiting key lock →
      state.locks key = some lock ∧ task ∈ (state.heap lock).waiters)
    (canFetch : ∀ key lock, call = .fetching key lock →
      state.locks key = some lock ∧ (state.heap lock).locked = true ∧
        ∀ other otherKey, other ≠ task → state.calls other ≠ .fetching otherKey lock) :
    Sound (state.setCall task call) := by
  constructor
  · intro other otherKey otherLock isWaiting
    rcases calls_setCall_cases isWaiting with ⟨rfl, isCall⟩ | ⟨_, unchanged⟩
    · exact canWait otherKey otherLock isCall
    · exact sound.waiting other otherKey otherLock unchanged
  · intro other otherKey otherLock isFetching
    rcases calls_setCall_cases isFetching with ⟨rfl, isCall⟩ | ⟨_, unchanged⟩
    · have held := canFetch otherKey otherLock isCall
      exact ⟨held.1, held.2.1⟩
    · exact sound.fetching other otherKey otherLock unchanged
  · intro first second firstKey secondKey shared firstFetching secondFetching
    rcases calls_setCall_cases firstFetching with ⟨rfl, isFirst⟩ | ⟨firstOther, firstUnchanged⟩
    · rcases calls_setCall_cases secondFetching with ⟨rfl, _⟩ | ⟨secondOther, secondUnchanged⟩
      · rfl
      · exact absurd secondUnchanged
          ((canFetch firstKey shared isFirst).2.2 second secondKey secondOther)
    · rcases calls_setCall_cases secondFetching with ⟨rfl, isSecond⟩ | ⟨_, secondUnchanged⟩
      · exact absurd firstUnchanged
          ((canFetch secondKey shared isSecond).2.2 first firstKey firstOther)
      · exact sound.alone first second _ _ shared firstUnchanged secondUnchanged
  · exact sound.allocated

/-- A lock object may change as long as it keeps its queue, and stays held while fetched under. -/
theorem setLock (sound : Sound state) {value : AsyncLock TaskId}
    (keepsQueue : ∀ other otherKey, state.calls other = .waiting otherKey lock →
      other ∈ value.waiters)
    (keepsHeld : ∀ other otherKey, state.calls other = .fetching otherKey lock →
      value.locked = true) : Sound (state.setLock lock value) := by
  constructor
  · intro other otherKey otherLock isWaiting
    have before := sound.waiting other otherKey otherLock isWaiting
    refine ⟨before.1, ?_⟩
    by_cases same : otherLock = lock
    · subst otherLock
      simpa [State.setLock] using keepsQueue other otherKey isWaiting
    · simpa [State.setLock, same] using before.2
  · intro other otherKey otherLock isFetching
    have before := sound.fetching other otherKey otherLock isFetching
    refine ⟨before.1, ?_⟩
    by_cases same : otherLock = lock
    · subst otherLock
      simpa [State.setLock] using keepsHeld other otherKey isFetching
    · simpa [State.setLock, same] using before.2
  · exact sound.alone
  · exact sound.allocated

/-- A call that neither waits nor fetches needs nothing. -/
theorem setCall_settled (sound : Sound state) {call : Call}
    (settled : call = .running ∨ call = .failed ∨ ∃ token, call = .returned token) :
    Sound (state.setCall task call) := by
  apply sound.setCall
  · intro key lock isWaiting
    rcases settled with rfl | rfl | ⟨_, rfl⟩ <;> cases isWaiting
  · intro key lock isFetching
    rcases settled with rfl | rfl | ⟨_, rfl⟩ <;> cases isFetching

/-- The lock of a call that stopped fetching is released. -/
theorem release (sound : Sound state)
    (nobody : ∀ other otherKey, state.calls other ≠ .fetching otherKey lock) :
    Sound (state.release lock) := by
  apply sound.setLock
  · intro other otherKey isWaiting
    rw [AsyncLock.waiters_release]
    exact (sound.waiting other otherKey lock isWaiting).2
  · intro other otherKey isFetching
    exact absurd isFetching (nobody other otherKey)

/-- Nobody fetches under a lock that is free. -/
theorem not_fetching_of_free (sound : Sound state) (free : (state.heap lock).locked = false)
    (other : TaskId) (otherKey : String) : state.calls other ≠ .fetching otherKey lock := by
  intro isFetching
  have held := (sound.fetching other otherKey lock isFetching).2
  rw [free] at held
  cases held

theorem underLock (sound : Sound state) (current : state.locks key = some lock)
    (held : (state.heap lock).locked = true)
    (nobody : ∀ other otherKey, state.calls other ≠ .fetching otherKey lock) :
    Sound (state.underLock task key lock) := by
  unfold State.underLock
  split
  case h_1 token _ =>
    apply (sound.release nobody).setCall_settled
    exact Or.inr (Or.inr ⟨token, rfl⟩)
  case h_2 =>
    apply sound.setCall
    · intro _ _ isWaiting
      cases isWaiting
    · intro _ _ isFetching
      cases isFetching
      exact ⟨current, held, fun other otherKey _ => nobody other otherKey⟩

/-- The lock of a key is found, or created where nobody knows it. -/
theorem lockFor (sound : Sound state) (key : String) :
    Sound (state.lockFor key).2 ∧
      (state.lockFor key).2.locks key = some (state.lockFor key).1 ∧
      (state.lockFor key).2.calls = state.calls := by
  unfold State.lockFor
  split
  case h_1 lock found => exact ⟨sound, found, rfl⟩
  case h_2 absent =>
    refine ⟨?_, by simp, rfl⟩
    have known : ∀ other lock, state.locks other = some lock → other ≠ key ∧
        lock ≠ state.nextLock := by
      intro other lock found
      constructor
      · rintro rfl
        rw [absent] at found
        cases found
      · exact (sound.allocated other lock found).ne
    constructor
    · intro other otherKey otherLock isWaiting
      have before := sound.waiting other otherKey otherLock isWaiting
      have distinct := known otherKey otherLock before.1
      simpa [distinct.1, distinct.2] using before
    · intro other otherKey otherLock isFetching
      have before := sound.fetching other otherKey otherLock isFetching
      have distinct := known otherKey otherLock before.1
      simpa [distinct.1, distinct.2] using before
    · exact sound.alone
    · intro other lock found
      simp only at found ⊢
      by_cases same : other = key
      · subst other
        simp only [Function.update_self, Option.some.injEq] at found
        exact found ▸ Nat.lt_succ_self state.nextLock
      · rw [Function.update_of_ne same] at found
        have below := sound.allocated other lock found
        exact Nat.lt_succ_of_lt below

theorem startCall (sound : Sound state) (task : TaskId) (key : String) :
    Sound (state.startCall task key) := by
  unfold State.startCall
  split
  case h_1 token _ => exact sound.setCall_settled (Or.inr (Or.inr ⟨token, rfl⟩))
  case h_2 =>
    rcases sound.lockFor key with ⟨located, current, _⟩
    simp only
    split
    case h_1 held acquired =>
      rcases AsyncLock.acquireNow_eq_some acquired with ⟨free, noWaiters, isHeld⟩
      have nobody := located.not_fetching_of_free free
      apply underLock
      · apply located.setLock
        · intro other otherKey isWaiting
          have queued := (located.waiting other otherKey _ isWaiting).2
          rw [noWaiters] at queued
          cases queued
        · intro other otherKey _
          exact isHeld
      · exact current
      · simpa [State.setLock] using isHeld
      · exact nobody
    case h_2 =>
      apply setCall
      · apply located.setLock
        · intro other otherKey isWaiting
          exact List.mem_append_left _ (located.waiting other otherKey _ isWaiting).2
        · intro other otherKey isFetching
          exact (located.fetching other otherKey _ isFetching).2
      · intro _ _ isWaiting
        cases isWaiting
        refine ⟨current, ?_⟩
        simp [State.setLock]
      · intro _ _ isFetching
        cases isFetching

/-- Entries and the clock play no part. -/
theorem congr {other : State} (sound : Sound state) (sameCalls : other.calls = state.calls)
    (sameLocks : other.locks = state.locks) (sameHeap : other.heap = state.heap)
    (sameNext : other.nextLock = state.nextLock) : Sound other := by
  constructor
  · rw [sameCalls, sameLocks, sameHeap]
    exact sound.waiting
  · rw [sameCalls, sameLocks, sameHeap]
    exact sound.fetching
  · rw [sameCalls]
    exact sound.alone
  · rw [sameLocks, sameNext]
    exact sound.allocated

/-- A purge that drops no lock with a queue leaves every call on the lock of its key. -/
theorem purgeExpired (sound : Sound state) {exclude : String}
    (noQueue : ∀ key lock, state.purges exclude key = true → state.locks key = some lock →
      (state.heap lock).locked = false → (state.heap lock).waiters = []) :
    Sound (state.purgeExpired exclude) := by
  have kept : ∀ key lock, state.locks key = some lock →
      ((state.heap lock).locked = true ∨ (state.heap lock).waiters ≠ []) →
      (state.purgeExpired exclude).locks key = some lock := by
    intro key lock found inUse
    simp only [State.purgeExpired, found, ite_eq_right_iff, reduceCtorEq, imp_false,
      Bool.and_eq_true, Bool.not_eq_true', not_and]
    intro purged free
    rcases inUse with held | queued
    · rw [free] at held
      cases held
    · exact queued (noQueue key lock purged found free)
  constructor
  · intro other otherKey otherLock isWaiting
    have before := sound.waiting other otherKey otherLock isWaiting
    exact ⟨kept otherKey otherLock before.1 (Or.inr (List.ne_nil_of_mem before.2)), before.2⟩
  · intro other otherKey otherLock isFetching
    have before := sound.fetching other otherKey otherLock isFetching
    exact ⟨kept otherKey otherLock before.1 (Or.inl before.2), before.2⟩
  · exact sound.alone
  · intro otherKey otherLock found
    apply sound.allocated otherKey
    simp only [State.purgeExpired] at found
    split at found
    · split at found
      · cases found
      · rwa [← found]
    · cases found

/-- Once its only fetch has ended, nobody fetches under the lock. -/
theorem not_fetching_of_ended (sound : Sound state)
    (wasFetching : state.calls task = .fetching key lock) (other : TaskId) (otherKey : String) :
    (state.setCall task .running).calls other ≠ .fetching otherKey lock := by
  intro isFetching
  rcases calls_setCall_cases isFetching with ⟨_, isRunning⟩ | ⟨different, unchanged⟩
  · cases isRunning
  · exact different (sound.alone other task otherKey key lock unchanged wasFetching)

theorem step {action : Action} {next : State} (sound : Sound state)
    (noQueue : PurgesNoQueue state action) (stepped : step state action = some next) :
    Sound next := by
  cases action with
  | start task key =>
      simp only [TokenCache.step] at stepped
      split at stepped
      · cases stepped
        apply startCall
        exact sound.setCall_settled (Or.inl rfl)
      · cases stepped
  | resume task =>
      simp only [TokenCache.step] at stepped
      split at stepped
      case h_1 key lock isWaiting =>
        rcases Option.map_eq_some_iff.mp stepped with ⟨held, resumed, rfl⟩
        rcases AsyncLock.resume_eq_some resumed with ⟨free, waiters_eq, isHeld⟩
        have current := (sound.waiting task key lock isWaiting).1
        have running : Sound (state.setCall task .running) := sound.setCall_settled (Or.inl rfl)
        have nobody := running.not_fetching_of_free free
        apply underLock
        · apply running.setLock
          · intro other otherKey otherWaiting
            have queued := (running.waiting other otherKey lock otherWaiting).2
            rcases calls_setCall_cases otherWaiting with ⟨_, isRunning⟩ | ⟨different, _⟩
            · cases isRunning
            · change other ∈ (state.heap lock).waiters at queued
              rw [waiters_eq, List.mem_cons] at queued
              exact queued.resolve_left different
          · intro other otherKey _
            exact isHeld
        · exact current
        · simpa [State.setLock] using isHeld
        · exact nobody
      case h_2 => cases stepped
  | fetched task token ttlSeconds =>
      simp only [TokenCache.step] at stepped
      split at stepped
      case h_1 key lock isFetching =>
        cases stepped
        have running : Sound (state.setCall task .running) := sound.setCall_settled (Or.inl rfl)
        have nobody := sound.not_fetching_of_ended isFetching
        apply setCall_settled _ (Or.inr (Or.inr ⟨token, rfl⟩))
        apply release
        · apply purgeExpired
          · exact running.congr rfl rfl rfl rfl
          · intro other otherLock purged found
            rw [purges_store] at purged
            exact noQueue key lock isFetching other otherLock purged found
        · exact nobody
      case h_2 => cases stepped
  | fetchFailed task =>
      simp only [TokenCache.step] at stepped
      split at stepped
      case h_1 key lock isFetching =>
        cases stepped
        have running : Sound (state.setCall task .running) := sound.setCall_settled (Or.inl rfl)
        apply setCall_settled _ (Or.inr (Or.inl rfl))
        exact running.release (sound.not_fetching_of_ended isFetching)
      case h_2 => cases stepped
  | tick elapsed =>
      simp only [TokenCache.step] at stepped
      split at stepped
      · cases stepped
        exact sound.congr rfl rfl rfl rfl
      · cases stepped

theorem start : Sound {} := by
  constructor
  · intro task key lock isWaiting
    cases isWaiting
  · intro task key lock isFetching
    cases isFetching
  · intro first second firstKey secondKey lock isFetching
    cases isFetching
  · intro key lock found
    cases found

/-- The lock of a key is held by one call at a time. -/
theorem singleFlight (sound : Sound state) : SingleFlight state := by
  intro first second key firstLock secondLock firstFetching secondFetching
  have firstCurrent := (sound.fetching first key firstLock firstFetching).1
  have secondCurrent := (sound.fetching second key secondLock secondFetching).1
  rw [firstCurrent, Option.some.injEq] at secondCurrent
  subst secondLock
  exact sound.alone first second key key firstLock firstFetching secondFetching

end Sound

/-- In every run in which no purge drops a lock with a queue, each key has one fetch at most. -/
theorem singleFlight_of_reachedWithin {state : State}
    (reached : machine.ReachedWithin PurgesNoQueue state) : SingleFlight state := by
  have sound : Sound state := by
    apply Machine.keeps_of_reachedWithin Sound.start _ reached
    intro before action after kept noQueue stepped
    exact kept.step noQueue stepped
  exact sound.singleFlight

section Run

/-- The first call's token expires at once; the other key's purge drops the lock, and a new
call for the key fetches before the woken one does. -/
private def overtaken : List Action :=
  [.start 0 "k", .start 1 "k", .start 2 "j", .fetched 0 "a" 0, .fetched 2 "b" 5, .start 3 "k",
    .resume 1]

/-- A token that expires at once lets two calls fetch one key. -/
theorem not_singleFlight_overtaken :
    ∃ state, machine.run machine.start overtaken = some state ∧ machine.Reached state ∧
      state.calls 1 = .fetching "k" 0 ∧ state.calls 3 = .fetching "k" 2 ∧
      ¬SingleFlight state := by
  have first : (machine.run machine.start overtaken).map (·.calls 1) =
      some (.fetching "k" 0) := by decide +kernel
  have second : (machine.run machine.start overtaken).map (·.calls 3) =
      some (.fetching "k" 2) := by decide +kernel
  rcases Option.map_eq_some_iff.mp first with ⟨state, ran, first⟩
  rw [ran, Option.map_some, Option.some.injEq] at second
  refine ⟨state, ran, ?_, first, second, ?_⟩
  · apply Machine.reachedWithin_of_run _ .start ran
    intro action _ before
    trivial
  · intro single
    exact absurd (single 1 3 "k" 0 2 first second) (by decide)

/-- The first call's token expires at once, and the fetch for another key drops the lock, on which
nobody waits. -/
private def reclaimed : List Action :=
  [.start 0 "k", .fetched 0 "a" 0, .start 1 "j", .fetched 1 "b" 5]

private theorem reachedWithin_reclaimed : ∃ state, machine.run machine.start reclaimed = some state ∧
    machine.ReachedWithin PurgesNoQueue state := by
  refine ⟨_, rfl, .step (.fetched 1 "b" 5) (.step (.start 1 "j") (.step (.fetched 0 "a" 0)
    (.step (.start 0 "k") .start trivial rfl) ?_ rfl) trivial rfl) ?_ rfl⟩
  · intro fetchedKey ownLock _ key lock purged
    simp [State.purges, machine, State.startCall, State.cached, State.lockFor, State.underLock,
      State.setCall, State.setLock, AsyncLock.acquireNow] at purged
  · intro fetchedKey ownLock _ key lock purged found _
    by_cases same : key = "k"
    · subst same
      cases found
      rfl
    · simp [State.purges, machine, State.startCall, State.cached, State.lockFor, State.underLock,
        State.setCall, State.setLock, State.store, State.purgeExpired, State.release,
        AsyncLock.acquireNow, AsyncLock.release, same] at purged

/-- As long as no queue is dropped with its lock, the second of two calls that share the new lock
waits for the first. -/
theorem singleFlight_of_reachedWithin_contended :
    ∃ state, machine.run machine.start (reclaimed ++ [.start 2 "k", .start 3 "k"]) = some state ∧
      state.calls 2 = .fetching "k" 2 ∧ state.calls 3 = .waiting "k" 2 ∧ SingleFlight state := by
  have second : (machine.run machine.start (reclaimed ++ [.start 2 "k", .start 3 "k"])).map
      (·.calls 2) = some (.fetching "k" 2) := by decide +kernel
  have third : (machine.run machine.start (reclaimed ++ [.start 2 "k", .start 3 "k"])).map
      (·.calls 3) = some (.waiting "k" 2) := by decide +kernel
  rcases Option.map_eq_some_iff.mp second with ⟨state, ran, second⟩
  rw [ran, Option.map_some, Option.some.injEq] at third
  refine ⟨state, ran, second, third, ?_⟩
  apply singleFlight_of_reachedWithin
  rcases reachedWithin_reclaimed with ⟨before, reaches, reached⟩
  rw [Machine.run_append, reaches] at ran
  apply Machine.reachedWithin_of_run _ reached ran
  simp [PurgesNoQueue]

end Run

end TokenCache

end McpPortal
