import Mathlib.Algebra.Order.Ring.Rat
import Mathlib.Logic.Function.Basic
import Mathlib.Tactic.Linarith
import McpPortal.Foundation.AsyncLock
import McpPortal.Foundation.Json
import McpPortal.Foundation.Machine

/-!
# The key set of the identity provider

An unknown `kid` triggers a refresh, under a lock and at most once a minute. A call
of `key_for` runs from one await to the next: it waits for the lock or for its
fetch. The time of the last refresh is written where a fetch has failed and where
its keys were stored, but not where the reply makes a built-in raise.
-/

namespace McpPortal

open Foundation

namespace JwksCache

/-- Names one call of `key_for`. -/
abbrev TaskId := Nat

/-- Where a call is. A fetching call remembers when it read the clock. -/
inductive Call where
  | idle
  | running
  | waiting (kid : String)
  | fetching (kid : String) (now : Rat)
  | returned (key : Option JsonObject)
  | raised

/-- How a fetch ends. The body is what `response.json()` makes of it, unless that raises. -/
inductive Reply where
  | httpError
  | response (status : Nat) (body : Option Json)

/-- The cache, its lock and its calls, with the starting times of all fetches, latest first. -/
structure State where
  now : Rat := 0
  keys : List (String × JsonObject) := []
  lastRefresh : Option Rat := none
  lock : AsyncLock TaskId := .fresh
  calls : TaskId → Call := fun _ => .idle
  fetches : List Rat := []

inductive Action where
  | start (task : TaskId) (kid : String)
  | resume (task : TaskId)
  | replied (task : TaskId) (reply : Reply)
  | tick (elapsed : Rat)

/-- `_JWKS_REFRESH_INTERVAL_S`. -/
def refreshInterval : Rat := 60

/-- `response.raise_for_status()` does not raise. -/
def isSuccess (status : Nat) : Bool :=
  200 ≤ status && status ≤ 299

/-- The loop over the keys of a reply, which may raise on its way. -/
def storeKeys : List (String × JsonObject) → List Json → List (String × JsonObject) × Bool
  | keys, [] => (keys, true)
  | keys, .obj jwk :: rest =>
      match Dict.get? jwk "kid" with
      | some (.str kid) => storeKeys (Dict.insert keys kid jwk) rest
      | _ => storeKeys keys rest
  | keys, _ => (keys, false)

/-- What a reply makes of the keys, and whether the refresh got to its end. -/
def refreshed (keys : List (String × JsonObject)) : Reply → List (String × JsonObject) × Bool
  | .httpError => (keys, true)
  | .response status body =>
      if !isSuccess status then (keys, true)
      else
        match body with
        | some (.obj payload) =>
            match ((Dict.get? payload "keys").getD (.arr [])) with
            | .arr items => storeKeys keys items
            | .obj fields => (keys, fields.isEmpty)
            | .str text => (keys, decide (text = ""))
            | _ => (keys, false)
        | _ => (keys, false)

namespace State

variable (state : State)

def setCall (task : TaskId) (call : Call) : State :=
  { state with calls := Function.update state.calls task call }

def release : State :=
  { state with lock := state.lock.release }

/-- `key_for` returns what is known of the key now. -/
def answer (task : TaskId) (kid : String) : State :=
  state.setCall task (.returned (Dict.get? state.keys kid))

/-- The last refresh is too recent for another one. -/
def isLimited : Bool :=
  match state.lastRefresh with
  | some last => decide (state.now - last < refreshInterval)
  | none => false

/-- `_maybe_refresh` from the lock to the fetch. -/
def underLock (task : TaskId) (kid : String) : State :=
  if state.isLimited then state.release.answer task kid
  else { state.setCall task (.fetching kid state.now) with fetches := state.now :: state.fetches }

def startCall (task : TaskId) (kid : String) : State :=
  match Dict.get? state.keys kid with
  | some jwk => state.setCall task (.returned (some jwk))
  | none =>
      match state.lock.acquireNow with
      | some held => { state with lock := held }.underLock task kid
      | none => { state with lock := state.lock.enqueue task }.setCall task (.waiting kid)

/-- The rest of a refresh that read the clock at `now`. -/
def finish (task : TaskId) (kid : String) (now : Rat) (reply : Reply) : State :=
  let (keys, completed) := refreshed state.keys reply
  if completed then { state with keys, lastRefresh := some now }.release.answer task kid
  else { state with keys }.release.setCall task .raised

end State

def step (state : State) : Action → Option State
  | .start task kid =>
      match state.calls task with
      | .idle => some ((state.setCall task .running).startCall task kid)
      | _ => none
  | .resume task =>
      match state.calls task with
      | .waiting kid =>
          (state.lock.resume task).map fun held =>
            { state.setCall task .running with lock := held }.underLock task kid
      | _ => none
  | .replied task reply =>
      match state.calls task with
      | .fetching kid now => some ((state.setCall task .running).finish task kid now reply)
      | _ => none
  | .tick elapsed => if 0 ≤ elapsed then some { state with now := state.now + elapsed } else none

/-- One cache, shared by any number of calls. -/
def machine : Machine State Action where
  start := {}
  step := step

/-- Any two fetches start at least a minute apart. -/
def RateLimited (state : State) : Prop :=
  state.fetches.Pairwise fun later earlier => refreshInterval ≤ later - earlier

/-- The reply is an error of HTTP, or an object whose keys, if any, are objects in a list. -/
def Reply.IsUsable : Reply → Prop
  | .httpError => True
  | .response status body =>
      isSuccess status = true → ∃ payload, body = some (.obj payload) ∧
        ∀ keys, Dict.get? payload "keys" = some keys →
          keys = .str "" ∨ keys = .obj [] ∨
            ∃ items, keys = .arr items ∧ ∀ item ∈ items, ∃ jwk, item = .obj jwk

def RepliesUsably (_ : State) : Action → Prop
  | .replied _ reply => reply.IsUsable
  | _ => True

theorem storeKeys_completes {keys : List (String × JsonObject)} {items : List Json}
    (objects : ∀ item ∈ items, ∃ jwk, item = .obj jwk) : (storeKeys keys items).2 = true := by
  induction items generalizing keys with
  | nil => rfl
  | cons item rest ih =>
      rw [List.forall_mem_cons] at objects
      rcases objects with ⟨⟨jwk, rfl⟩, later⟩
      rw [storeKeys]
      split
      · exact ih later
      · exact ih later

/-- A usable reply brings the refresh to its end. -/
theorem refreshed_completes {keys : List (String × JsonObject)} {reply : Reply}
    (usable : reply.IsUsable) : (refreshed keys reply).2 = true := by
  cases reply with
  | httpError => rfl
  | response status body =>
      unfold refreshed
      cases success : isSuccess status with
      | false => simp [success]
      | true =>
          rcases usable success with ⟨payload, rfl, wellFormed⟩
          cases found : Dict.get? payload "keys" with
          | none => simp [storeKeys, found, success]
          | some value =>
              rcases wellFormed value found with rfl | rfl | ⟨items, rfl, objects⟩
              · simp [found, success]
              · simp [found, success]
              · simpa [found, success] using storeKeys_completes objects

/-- Nobody fetches, and the last fetch is the last refresh. -/
structure Quiet (state : State) : Prop where
  nobody : ∀ task kid now, state.calls task ≠ .fetching kid now
  lastRefresh : state.lastRefresh = state.fetches.head?
  limited : RateLimited state

/-- A fetch is made by one call alone, which holds the lock and made the last fetch. -/
structure Fetching (state : State) (task : TaskId) (kid : String) (now : Rat) : Prop where
  isFetching : state.calls task = .fetching kid now
  alone : ∀ other otherKid otherNow, state.calls other = .fetching otherKid otherNow → other = task
  held : state.lock.locked = true
  last : state.fetches.head? = some now
  limited : RateLimited state

def Sound (state : State) : Prop :=
  Quiet state ∨ ∃ task kid now, Fetching state task kid now

theorem Sound.limited {state : State} (sound : Sound state) : RateLimited state := by
  rcases sound with quiet | ⟨task, kid, now, fetching⟩
  · exact quiet.limited
  · exact fetching.limited

section Keeps

variable {state : State} {task : TaskId} {kid : String}

theorem calls_setCall_cases {other : TaskId} {call otherCall : Call}
    (isCall : (state.setCall task call).calls other = otherCall) :
    (other = task ∧ call = otherCall) ∨ (other ≠ task ∧ state.calls other = otherCall) := by
  by_cases same : other = task
  · subst other
    left
    exact ⟨rfl, by simpa [State.setCall] using isCall⟩
  · right
    exact ⟨same, by simpa [State.setCall, same] using isCall⟩

/-- A call that fetched nothing goes on without fetching. -/
theorem Sound.setCall (sound : Sound state) {call : Call}
    (notFetching : ∀ kid now, call ≠ .fetching kid now)
    (wasNot : ∀ kid now, state.calls task ≠ .fetching kid now) :
    Sound (state.setCall task call) := by
  rcases sound with quiet | ⟨fetcher, kid, now, fetching⟩
  · refine Or.inl ⟨?_, quiet.lastRefresh, quiet.limited⟩
    intro other otherKid otherNow isFetching
    rcases calls_setCall_cases isFetching with ⟨_, isCall⟩ | ⟨_, unchanged⟩
    · exact notFetching otherKid otherNow isCall
    · exact quiet.nobody other otherKid otherNow unchanged
  · refine Or.inr ⟨fetcher, kid, now, ?_, ?_, fetching.held, fetching.last, fetching.limited⟩
    · have different : fetcher ≠ task := by
        rintro rfl
        exact wasNot kid now fetching.isFetching
      simpa [State.setCall, different] using fetching.isFetching
    · intro other otherKid otherNow isFetching
      rcases calls_setCall_cases isFetching with ⟨_, isCall⟩ | ⟨_, unchanged⟩
      · exact absurd isCall (notFetching otherKid otherNow)
      · exact fetching.alone other otherKid otherNow unchanged

theorem Quiet.setCall (quiet : Quiet state) {call : Call}
    (notFetching : ∀ kid now, call ≠ .fetching kid now) : Quiet (state.setCall task call) := by
  refine ⟨?_, quiet.lastRefresh, quiet.limited⟩
  intro other otherKid otherNow isFetching
  rcases calls_setCall_cases isFetching with ⟨_, isCall⟩ | ⟨_, unchanged⟩
  · exact notFetching otherKid otherNow isCall
  · exact quiet.nobody other otherKid otherNow unchanged

/-- While the lock is free nobody fetches. -/
theorem Sound.quiet_of_free (sound : Sound state) (free : state.lock.locked = false) :
    Quiet state := by
  rcases sound with quiet | ⟨_, _, _, fetching⟩
  · exact quiet
  · rw [fetching.held] at free
    cases free

/-- A refresh that is not limited starts at least a minute after all others. -/
theorem Quiet.limited_cons (quiet : Quiet state) (unlimited : state.isLimited = false) :
    (state.now :: state.fetches).Pairwise fun later earlier =>
      refreshInterval ≤ later - earlier := by
  refine List.Pairwise.cons ?_ quiet.limited
  have spaced : state.fetches.Pairwise fun later earlier =>
    refreshInterval ≤ later - earlier := quiet.limited
  have last := quiet.lastRefresh
  unfold State.isLimited at unlimited
  cases isFetches : state.fetches with
  | nil => simp
  | cons latest rest =>
      rw [isFetches] at spaced last
      rw [last] at unlimited
      simp only [List.head?_cons, decide_eq_false_iff_not, not_lt] at unlimited
      intro earlier earlierMem
      rcases List.mem_cons.mp earlierMem with rfl | restMem
      · exact unlimited
      · have between := (List.pairwise_cons.mp spaced).1 earlier restMem
        simp only [refreshInterval] at *
        linarith

theorem Quiet.underLock (quiet : Quiet state) (held : state.lock.locked = true) :
    Sound (state.underLock task kid) := by
  unfold State.underLock
  cases limited : state.isLimited with
  | true =>
      rw [if_pos rfl]
      refine Or.inl (Quiet.setCall ?_ ?_)
      · exact ⟨quiet.nobody, quiet.lastRefresh, quiet.limited⟩
      · intro _ _ isFetching
        cases isFetching
  | false =>
      rw [if_neg (by simp)]
      refine Or.inr ⟨task, kid, state.now, ?_, ?_, held, rfl, quiet.limited_cons limited⟩
      · simp [State.setCall]
      · intro other otherKid otherNow isFetching
        rcases calls_setCall_cases isFetching with ⟨same, _⟩ | ⟨_, unchanged⟩
        · exact same
        · exact absurd unchanged (quiet.nobody other otherKid otherNow)

/-- The lock may change as long as it stays held while somebody fetches. -/
theorem Sound.withLock (sound : Sound state) {lock : AsyncLock TaskId}
    (keepsHeld : state.lock.locked = true → lock.locked = true) :
    Sound { state with lock } := by
  rcases sound with quiet | ⟨fetcher, fetchedKid, now, fetching⟩
  · exact Or.inl ⟨quiet.nobody, quiet.lastRefresh, quiet.limited⟩
  · exact Or.inr ⟨fetcher, fetchedKid, now, fetching.isFetching, fetching.alone,
      keepsHeld fetching.held, fetching.last, fetching.limited⟩

theorem Sound.startCall (sound : Sound state)
    (wasNot : ∀ kid now, state.calls task ≠ .fetching kid now) :
    Sound (state.startCall task kid) := by
  unfold State.startCall
  split
  case h_1 => exact sound.setCall nofun wasNot
  case h_2 =>
    split
    case h_1 held acquired =>
      rcases AsyncLock.acquireNow_eq_some acquired with ⟨free, _, isHeld⟩
      have quiet := sound.quiet_of_free free
      exact Quiet.underLock ⟨quiet.nobody, quiet.lastRefresh, quiet.limited⟩ isHeld
    case h_2 =>
      apply Sound.setCall
      · apply sound.withLock
        intro held
        exact held
      · intro _ _ isFetching
        cases isFetching
      · exact wasNot

/-- A refresh that got to its end leaves nobody fetching. -/
theorem Fetching.finish {now : Rat} {reply : Reply} (fetching : Fetching state task kid now)
    (completes : (refreshed state.keys reply).2 = true) :
    Sound ((state.setCall task .running).finish task kid now reply) := by
  have completes' : (refreshed (state.setCall task .running).keys reply).2 = true := completes
  simp only [State.finish, completes', if_true]
  have quiet : Quiet ({ state.setCall task .running with
      keys := (refreshed (state.setCall task .running).keys reply).1
      lastRefresh := some now : State }.release) := by
    refine ⟨?_, fetching.last.symm, fetching.limited⟩
    intro other otherKid otherNow isFetching
    rcases calls_setCall_cases isFetching with ⟨_, isRunning⟩ | ⟨different, unchanged⟩
    · cases isRunning
    · exact different (fetching.alone other otherKid otherNow unchanged)
  exact Or.inl (quiet.setCall nofun)

theorem Sound.step {action : Action} {next : State} (sound : Sound state)
    (usably : RepliesUsably state action) (stepped : step state action = some next) :
    Sound next := by
  cases action with
  | start task kid =>
      simp only [JwksCache.step] at stepped
      split at stepped
      case h_1 isIdle =>
        cases stepped
        apply Sound.startCall
        · apply sound.setCall
          · intro _ _ isFetching
            cases isFetching
          · intro _ _ isFetching
            rw [isIdle] at isFetching
            cases isFetching
        · intro _ _ isFetching
          simp [State.setCall] at isFetching
      case h_2 => cases stepped
  | resume task =>
      simp only [JwksCache.step] at stepped
      split at stepped
      case h_1 kid isWaiting =>
        rcases Option.map_eq_some_iff.mp stepped with ⟨held, resumed, rfl⟩
        rcases AsyncLock.resume_eq_some resumed with ⟨free, _, isHeld⟩
        have quiet : Quiet (state.setCall task .running) :=
          (sound.quiet_of_free free).setCall nofun
        exact Quiet.underLock ⟨quiet.nobody, quiet.lastRefresh, quiet.limited⟩ isHeld
      case h_2 => cases stepped
  | replied task reply =>
      simp only [JwksCache.step] at stepped
      split at stepped
      case h_1 kid now isFetching =>
        cases stepped
        rcases sound with quiet | ⟨fetcher, fetchedKid, fetchedNow, fetching⟩
        · exact absurd isFetching (quiet.nobody task kid now)
        · cases fetching.alone task kid now isFetching
          cases isFetching.symm.trans fetching.isFetching
          exact fetching.finish (refreshed_completes usably)
      case h_2 => cases stepped
  | tick elapsed =>
      simp only [JwksCache.step] at stepped
      split at stepped
      · cases stepped
        rcases sound with quiet | ⟨fetcher, kid, now, fetching⟩
        · exact Or.inl ⟨quiet.nobody, quiet.lastRefresh, quiet.limited⟩
        · exact Or.inr ⟨fetcher, kid, now, fetching.isFetching, fetching.alone, fetching.held,
            fetching.last, fetching.limited⟩
      · cases stepped

end Keeps

/-- In every run whose replies are usable, fetches start at least a minute apart. -/
theorem rateLimited_of_reachedWithin {state : State}
    (reached : machine.ReachedWithin RepliesUsably state) : RateLimited state := by
  have sound : Sound state := by
    apply Machine.keeps_of_reachedWithin _ _ reached
    · exact Or.inl ⟨nofun, rfl, List.Pairwise.nil⟩
    · intro before action after kept usably stepped
      exact kept.step usably stepped
  exact sound.limited

section Run

/-- An IdP that answers with a list instead of a key set. -/
private def unusable : List Action :=
  [.start 0 "forged", .replied 0 (.response 200 (some (.arr []))), .start 1 "forged"]

/-- A reply without an object in it leaves the time of the last refresh as it was, and the next
unknown key is fetched for at once. -/
theorem not_rateLimited_unusable :
    ∃ state, machine.run machine.start unusable = some state ∧ machine.Reached state ∧
      ¬RateLimited state := by
  have fetches : (machine.run machine.start unusable).map (·.fetches) = some [0, 0] := by
    decide +kernel
  rcases Option.map_eq_some_iff.mp fetches with ⟨state, ran, fetches⟩
  refine ⟨state, ran, ?_, ?_⟩
  · apply Machine.reachedWithin_of_run _ .start ran
    intro action _ before
    trivial
  · rw [RateLimited, fetches]
    decide +kernel

private def failing : List Action :=
  [ .start 0 "a", .start 1 "b", .replied 0 (.response 503 none), .resume 1, .tick 60,
    .start 2 "c", .replied 2 .httpError ]

/-- A failing IdP is asked again after a minute, and not for the call that waited. -/
theorem rateLimited_of_reachedWithin_failing :
    ∃ state, machine.run machine.start failing = some state ∧ state.fetches = [60, 0] ∧
      RateLimited state := by
  have fetches : (machine.run machine.start failing).map (·.fetches) = some [60, 0] := by
    decide +kernel
  rcases Option.map_eq_some_iff.mp fetches with ⟨state, ran, fetches⟩
  refine ⟨state, ran, fetches, rateLimited_of_reachedWithin ?_⟩
  apply Machine.reachedWithin_of_run _ .start ran
  simp [failing, RepliesUsably, Reply.IsUsable, isSuccess]

end Run

end JwksCache

end McpPortal
