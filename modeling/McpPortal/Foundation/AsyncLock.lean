import Mathlib.Data.List.Basic

/-!
# An asynchronous lock

The lock of a single-threaded event loop. A task that finds the lock free with an
empty queue takes it at once; others queue. Releasing clears the flag and wakes the
first waiter, which takes the lock when it resumes; until then the lock is free,
but new tasks find the queue occupied.
-/

namespace Foundation

universe u

/-- Only the first waiter can have been woken, and only while the lock is free. -/
structure AsyncLock (Task : Type u) where
  locked : Bool := false
  woken : Bool := false
  waiters : List Task := []
  freeWhenWoken : woken = true → locked = false

namespace AsyncLock

variable {Task : Type u}

theorem notWoken {locked : Bool} : false = true → locked = false :=
  fun isWoken => Bool.noConfusion isWoken

/-- A new lock. -/
abbrev fresh : AsyncLock Task := { freeWhenWoken := notWoken }

/-- `acquire` without waiting. -/
def acquireNow (lock : AsyncLock Task) : Option (AsyncLock Task) :=
  if lock.locked = false ∧ lock.waiters = [] then some { locked := true, freeWhenWoken := notWoken }
  else none

/-- `acquire` by a task that has to wait. -/
def enqueue (lock : AsyncLock Task) (task : Task) : AsyncLock Task where
  locked := lock.locked
  woken := lock.woken
  waiters := lock.waiters ++ [task]
  freeWhenWoken := lock.freeWhenWoken

def release (lock : AsyncLock Task) : AsyncLock Task where
  woken := !lock.waiters.isEmpty
  waiters := lock.waiters
  freeWhenWoken _ := rfl

/-- The woken task leaves the queue and takes the lock. -/
def resume [DecidableEq Task] (lock : AsyncLock Task) (task : Task) : Option (AsyncLock Task) :=
  match lock.waiters with
  | [] => none
  | first :: rest =>
      if lock.woken = true ∧ first = task then
        some { locked := true, waiters := rest, freeWhenWoken := notWoken }
      else none

@[simp]
theorem waiters_enqueue (lock : AsyncLock Task) (task : Task) :
    (lock.enqueue task).waiters = lock.waiters ++ [task] := rfl

@[simp]
theorem locked_enqueue (lock : AsyncLock Task) (task : Task) :
    (lock.enqueue task).locked = lock.locked := rfl

@[simp]
theorem waiters_release (lock : AsyncLock Task) : lock.release.waiters = lock.waiters := rfl

theorem acquireNow_eq_some {lock held : AsyncLock Task} (acquired : lock.acquireNow = some held) :
    lock.locked = false ∧ lock.waiters = [] ∧ held.locked = true := by
  unfold acquireNow at acquired
  split at acquired
  case isTrue free =>
    cases acquired
    exact ⟨free.1, free.2, rfl⟩
  case isFalse => cases acquired

@[simp]
theorem locked_release (lock : AsyncLock Task) : lock.release.locked = false := rfl

theorem waiters_of_acquireNow {lock held : AsyncLock Task} (acquired : lock.acquireNow = some held) :
    held.waiters = [] := by
  unfold acquireNow at acquired
  split at acquired
  · cases acquired
    rfl
  · cases acquired

/-- A lock that cannot be taken at once is held, or others are queued on it. -/
theorem occupied_of_acquireNow {lock : AsyncLock Task} (occupied : lock.acquireNow = none) :
    lock.locked = true ∨ lock.waiters ≠ [] := by
  unfold acquireNow at occupied
  split at occupied
  · cases occupied
  case isFalse busy =>
    by_cases queued : lock.waiters = []
    · left
      rw [← Bool.not_eq_false]
      exact fun free => busy ⟨free, queued⟩
    · exact Or.inr queued

/-- Whoever is queued is waited for: the lock is held, or the first of them has been woken. -/
def Awake (lock : AsyncLock Task) : Prop :=
  lock.waiters ≠ [] → lock.locked = true ∨ lock.woken = true

theorem awake_release (lock : AsyncLock Task) : lock.release.Awake := by
  intro queued
  right
  rw [waiters_release] at queued
  simpa [release, List.isEmpty_iff] using queued

theorem awake_of_locked {lock : AsyncLock Task} (held : lock.locked = true) : lock.Awake :=
  fun _ => Or.inl held

theorem Awake.enqueue {lock : AsyncLock Task} (awake : lock.Awake) (task : Task)
    (occupied : lock.locked = true ∨ lock.waiters ≠ []) : (lock.enqueue task).Awake := by
  intro _
  rcases occupied with held | queued
  · exact Or.inl held
  · exact awake queued

/-- An awake lock that is free lets its first waiter resume. -/
theorem Awake.exists_resume [DecidableEq Task] {lock : AsyncLock Task} (awake : lock.Awake)
    (free : lock.locked = false) (queued : lock.waiters ≠ []) :
    ∃ task held, lock.waiters.head? = some task ∧ lock.resume task = some held := by
  have woken : lock.woken = true := by
    rcases awake queued with held | woken
    · rw [free] at held
      cases held
    · exact woken
  cases waiters_eq : lock.waiters with
  | nil => exact absurd waiters_eq queued
  | cons first rest =>
      refine ⟨first, { locked := true, waiters := rest, freeWhenWoken := notWoken }, rfl, ?_⟩
      unfold resume
      rw [waiters_eq]
      simp [woken]

/-- A task that resumes finds the lock free, and everybody behind it still queued. -/
theorem resume_eq_some [DecidableEq Task] {lock held : AsyncLock Task} {task : Task}
    (resumed : lock.resume task = some held) :
    lock.locked = false ∧ lock.waiters = task :: held.waiters ∧ held.locked = true := by
  unfold resume at resumed
  split at resumed
  · cases resumed
  case h_2 first rest waiters_eq =>
    split at resumed
    case isTrue ready =>
      cases resumed
      exact ⟨lock.freeWhenWoken ready.1, ready.2 ▸ waiters_eq, rfl⟩
    case isFalse => cases resumed

/-- Everybody else is still queued. -/
theorem stillQueued_of_resume [DecidableEq Task] {lock held : AsyncLock Task} {task other : Task}
    (resumed : lock.resume task = some held) (different : other ≠ task)
    (queued : other ∈ lock.waiters) : other ∈ held.waiters := by
  rw [(resume_eq_some resumed).2.1, List.mem_cons] at queued
  exact queued.resolve_left different

end AsyncLock

end Foundation
