import McpPortal.Auth.Jwks

/-!
# What the key set does with a bad reply

A call answers with a key or with none unless its own request ends in a reply that the
refresh cannot read: a body that is no JSON, or JSON in which the keys are not where it
looks for them. No step forgets a key.
-/

namespace McpPortal

open Foundation

namespace JwksCache

/-- A call for the kid is answered at once. -/
def Serves (state : State) (kid : String) : Prop :=
  kid ∈ Dict.keys state.keys

/-- A successful reply with an object for the kid in its list of keys. -/
def Reply.Lists (reply : Reply) (kid : String) : Prop :=
  ∃ status payload items jwk, reply = .response status (some (.obj payload)) ∧
    isSuccess status = true ∧ Dict.get? payload "keys" = some (.arr items) ∧
    .obj jwk ∈ items ∧ Dict.get? jwk "kid" = some (.str kid)

/-- What a step keeps when bad replies deny: nothing is raised, the call whose request ended is
answered, and cached as well as listed keys are served. -/
structure Denies (state : State) (action : Action) (next : State) : Prop where
  noneRaised : ∀ task, next.calls task = .raised → state.calls task = .raised
  answered : ∀ task reply, action = .replied task reply →
    ∃ kid now, state.calls task = .fetching kid now ∧
      next.calls task = .returned (Dict.get? next.keys kid)
  stillServed : ∀ kid, Serves state kid → Serves next kid
  listedServed : ∀ task reply kid, action = .replied task reply → reply.Lists kid →
    Serves next kid

theorem storeKeys_completes_iff {keys : List (String × JsonObject)} {items : List Json} :
    (storeKeys keys items).2 = true ↔ ∀ item ∈ items, ∃ jwk, item = .obj jwk := by
  refine ⟨?_, storeKeys_completes⟩
  induction items generalizing keys with
  | nil => intro _ _ itemMem; cases itemMem
  | cons item rest ih =>
      intro completes
      rw [List.forall_mem_cons]
      cases item with
      | obj jwk =>
          rw [storeKeys] at completes
          split at completes
          · exact ⟨⟨jwk, rfl⟩, ih completes⟩
          · exact ⟨⟨jwk, rfl⟩, ih completes⟩
      | _ => simp [storeKeys] at completes

theorem refreshed_completes_iff {keys : List (String × JsonObject)} {reply : Reply} :
    (refreshed keys reply).2 = true ↔ reply.IsUsable := by
  refine ⟨?_, refreshed_completes⟩
  cases reply with
  | httpError => exact fun _ => trivial
  | response status body =>
      intro completes success
      simp only [refreshed, success, Bool.not_true, Bool.false_eq_true, if_false] at completes
      split at completes
      case h_1 payload =>
        refine ⟨payload, rfl, ?_⟩
        intro keys found
        rw [found, Option.getD_some] at completes
        split at completes
        case h_1 items => exact Or.inr (Or.inr ⟨items, rfl, storeKeys_completes_iff.mp completes⟩)
        case h_2 fields => exact Or.inr (Or.inl (by simpa using completes))
        case h_3 text => exact Or.inl (by simpa using completes)
        case h_4 => cases completes
      case h_2 => cases completes

theorem mem_keys_storeKeys {keys : List (String × JsonObject)} {items : List Json} {kid : String}
    (cached : kid ∈ Dict.keys keys) : kid ∈ Dict.keys (storeKeys keys items).1 := by
  induction items generalizing keys with
  | nil => exact cached
  | cons item rest ih =>
      cases item with
      | obj jwk =>
          rw [storeKeys]
          split
          · exact ih (Dict.mem_keys_insert.mpr (Or.inr cached))
          · exact ih cached
      | _ => simpa [storeKeys] using cached

theorem storeKeys_serves {keys : List (String × JsonObject)} {items : List Json}
    {jwk : JsonObject} {kid : String} (objects : ∀ item ∈ items, ∃ jwk, item = .obj jwk)
    (listed : .obj jwk ∈ items) (named : Dict.get? jwk "kid" = some (.str kid)) :
    kid ∈ Dict.keys (storeKeys keys items).1 := by
  induction items generalizing keys with
  | nil => cases listed
  | cons item rest ih =>
      rw [List.forall_mem_cons] at objects
      rcases objects with ⟨⟨first, rfl⟩, others⟩
      rw [storeKeys]
      rcases List.mem_cons.mp listed with isFirst | later
      · cases isFirst
        rw [named]
        exact mem_keys_storeKeys (Dict.mem_keys_insert.mpr (Or.inl rfl))
      · split
        · exact ih others later
        · exact ih others later

theorem mem_keys_refreshed {keys : List (String × JsonObject)} {reply : Reply} {kid : String}
    (cached : kid ∈ Dict.keys keys) : kid ∈ Dict.keys (refreshed keys reply).1 := by
  cases reply with
  | httpError => exact cached
  | response status body =>
      simp only [refreshed]
      split
      · exact cached
      · split
        · split
          · exact mem_keys_storeKeys cached
          · exact cached
          · exact cached
          · exact cached
        · exact cached

theorem refreshed_serves {keys : List (String × JsonObject)} {reply : Reply} {kid : String}
    (usable : reply.IsUsable) (lists : reply.Lists kid) :
    kid ∈ Dict.keys (refreshed keys reply).1 := by
  rcases lists with ⟨status, payload, items, jwk, rfl, success, found, listed, named⟩
  rcases usable success with ⟨_, isPayload, wellFormed⟩
  cases isPayload
  have objects : ∀ item ∈ items, ∃ jwk, item = .obj jwk := by
    rcases wellFormed _ found with isText | isObject | ⟨others, isItems, objects⟩
    · cases isText
    · cases isObject
    · cases isItems
      exact objects
  simp only [refreshed, success, found, Bool.not_true, Bool.false_eq_true, if_false,
    Option.getD_some]
  exact storeKeys_serves objects listed named

section Steps

variable {state next : State} {task : TaskId} {kid : String}

/-- Nothing is raised and the keys are the same. -/
structure Calm (state next : State) : Prop where
  noneRaised : ∀ task, next.calls task = .raised → state.calls task = .raised
  sameKeys : next.keys = state.keys

theorem Calm.trans {between : State} (first : Calm state between) (second : Calm between next) :
    Calm state next :=
  ⟨fun task isRaised => first.noneRaised task (second.noneRaised task isRaised),
    second.sameKeys.trans first.sameKeys⟩

theorem calm_setCall {call : Call} (notRaised : call ≠ .raised) :
    Calm state (state.setCall task call) := by
  refine ⟨?_, rfl⟩
  intro other isRaised
  rcases calls_setCall_cases isRaised with ⟨_, isCall⟩ | ⟨_, unchanged⟩
  · exact absurd isCall notRaised
  · exact unchanged

theorem calm_underLock : Calm state (state.underLock task kid) := by
  unfold State.underLock
  split
  · have released : Calm state state.release := ⟨fun _ isRaised => isRaised, rfl⟩
    exact released.trans (calm_setCall nofun)
  · have fetching : Calm state (state.setCall task (.fetching kid state.now)) :=
      calm_setCall nofun
    exact ⟨fetching.noneRaised, fetching.sameKeys⟩

theorem calm_running : Calm state (state.setCall task .running) :=
  calm_setCall nofun

theorem calm_startCall : Calm state (state.startCall task kid) := by
  unfold State.startCall
  split
  · exact calm_setCall nofun
  · split
    case h_1 held _ =>
      have locked : Calm state { state with lock := held } := ⟨fun _ isRaised => isRaised, rfl⟩
      exact locked.trans calm_underLock
    case h_2 =>
      have queued : Calm state { state with lock := state.lock.enqueue task } :=
        ⟨fun _ isRaised => isRaised, rfl⟩
      exact queued.trans (calm_setCall nofun)

/-- A step without a reply raises nothing and keeps the keys. -/
theorem calm_step {action : Action} (noReply : ∀ task reply, action ≠ .replied task reply)
    (stepped : step state action = some next) : Calm state next := by
  cases action with
  | start task kid =>
      simp only [step] at stepped
      split at stepped
      · cases stepped
        exact calm_running.trans calm_startCall
      · cases stepped
  | resume task =>
      simp only [step] at stepped
      split at stepped
      · rcases Option.map_eq_some_iff.mp stepped with ⟨held, _, rfl⟩
        have running : Calm state { state.setCall task .running with lock := held } := by
          have set : Calm state (state.setCall task .running) := calm_running
          exact ⟨set.noneRaised, set.sameKeys⟩
        exact running.trans calm_underLock
      · cases stepped
  | replied task reply => exact absurd rfl (noReply task reply)
  | tick elapsed =>
      simp only [step] at stepped
      split at stepped
      · cases stepped
        exact ⟨fun _ isRaised => isRaised, rfl⟩
      · cases stepped

/-- The keys a reply leaves, and what becomes of the call that waited for it. -/
theorem step_replied {reply : Reply} (stepped : step state (.replied task reply) = some next) :
    ∃ kid now, state.calls task = .fetching kid now ∧
      next.keys = (refreshed state.keys reply).1 ∧
      (∀ other, other ≠ task → next.calls other = state.calls other) ∧
      next.calls task =
        if (refreshed state.keys reply).2 then .returned (Dict.get? next.keys kid) else .raised := by
  simp only [step] at stepped
  split at stepped
  case h_1 kid now isFetching =>
    cases stepped
    refine ⟨kid, now, isFetching, ?_⟩
    have sameKeys : (state.setCall task .running).keys = state.keys := rfl
    cases completes : (refreshed state.keys reply).2 with
    | true =>
        simp only [State.finish, sameKeys, completes, if_true]
        refine ⟨rfl, ?_, ?_⟩
        · intro other different
          simp [State.answer, State.setCall, State.release, different]
        · simp [State.answer, State.setCall, State.release]
    | false =>
        simp only [State.finish, sameKeys, completes, Bool.false_eq_true, if_false]
        refine ⟨rfl, ?_, ?_⟩
        · intro other different
          simp [State.setCall, State.release, different]
        · simp [State.setCall, State.release]
  case h_2 => cases stepped

/--
From any state of the cache a step denies rather than fails exactly when its reply, if it is
one, can be read: an error of HTTP, or an object whose keys, if any, are objects in a list.
-/
theorem denies_iff (state next : State) (action : Action)
    (stepped : step state action = some next) :
    Denies state action next ↔ RepliesUsably state action := by
  by_cases isReply : ∃ task reply, action = .replied task reply
  · rcases isReply with ⟨task, reply, rfl⟩
    rcases step_replied stepped with ⟨kid, now, isFetching, keys, others, answer⟩
    constructor
    · intro denies
      rcases denies.answered task reply rfl with ⟨_, _, _, isAnswered⟩
      rw [isAnswered] at answer
      split at answer
      case isTrue completes => exact refreshed_completes_iff.mp completes
      case isFalse => cases answer
    · intro usable
      rw [if_pos (refreshed_completes usable)] at answer
      constructor
      · intro other isRaised
        by_cases same : other = task
        · rw [same, answer] at isRaised
          cases isRaised
        · rw [others other same] at isRaised
          exact isRaised
      · intro other otherReply sameAction
        cases sameAction
        exact ⟨kid, now, isFetching, answer⟩
      · intro cachedKid cached
        rw [Serves, keys]
        exact mem_keys_refreshed cached
      · intro other otherReply listedKid sameAction lists
        cases sameAction
        rw [Serves, keys]
        exact refreshed_serves usable lists
  · have noReply : ∀ task reply, action ≠ .replied task reply :=
      fun task reply same => isReply ⟨task, reply, same⟩
    have calm := calm_step noReply stepped
    constructor
    · intro _
      cases action with
      | replied task reply => exact absurd rfl (noReply task reply)
      | _ => trivial
    · intro _
      refine ⟨calm.noneRaised, ?_, ?_, ?_⟩
      · intro task reply same
        exact absurd same (noReply task reply)
      · intro kid cached
        rw [Serves, calm.sameKeys]
        exact cached
      · intro task reply kid same
        exact absurd same (noReply task reply)

/-- An IdP that is down. -/
theorem denies_iff_unavailable :
    ∃ state next, machine.run machine.start [.start 0 "k1"] = some state ∧
      step state (.replied 0 (.response 503 none)) = some next ∧
      Denies state (.replied 0 (.response 503 none)) next :=
  ⟨_, _, rfl, rfl, (denies_iff _ _ (.replied 0 (.response 503 none)) rfl).mpr nofun⟩

/-- An IdP that answers with a page instead of JSON. -/
theorem not_denies_page :
    ∃ state next, machine.run machine.start [.start 0 "k1"] = some state ∧
      step state (.replied 0 (.response 200 none)) = some next ∧
      ¬Denies state (.replied 0 (.response 200 none)) next := by
  refine ⟨_, _, rfl, rfl, ?_⟩
  intro denies
  cases denies.noneRaised 0 rfl

/-- In a run whose replies can all be read no call ever raises. -/
theorem noneRaised_of_reachedWithin (reached : machine.ReachedWithin RepliesUsably state) :
    ∀ task, state.calls task ≠ .raised := by
  apply Machine.keeps_of_reachedWithin _ _ reached
  · exact nofun
  · intro before action after kept usably stepped task isRaised
    have denies := (denies_iff before after action stepped).mpr usably
    exact kept task (denies.noneRaised task isRaised)

end Steps

end JwksCache

end McpPortal
