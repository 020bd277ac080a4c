import McpPortal.Sources.RefInvariant
import McpPortal.Sources.WalkRuns

/-!
# Runs of a resolution

What one call of `_resolve_ref` does: it cuts the reference, returns what is remembered
for it, or expands it and remembers the result. It fails with the lookup, or with the walk of
what it found.
-/

namespace McpPortal

open Foundation

namespace RefResolver

variable {Access FetchError : Type} {unicode : PyUnicode} {acceptsNetloc : List Char → Bool}
  {resolver : RefResolver Access FetchError}

/-- The documents that are kept are those fetched. -/
def KeepsFetched (acceptsNetloc : List Char → Bool) (resolver : RefResolver Access FetchError)
    (state : ResolverState Access) : Prop :=
  resolver.Fetches acceptsNetloc state.resolvedCache state

/-- The reference is looked up in a state with the same remembered results. -/
structure LooksUp (unicode : PyUnicode) (acceptsNetloc : List Char → Bool)
    (resolver : RefResolver Access FetchError) (root : DocumentRoot) (ref : String)
    (found : Except (ResolveException FetchError) (DocumentRoot × Json))
    (state middle : ResolverState Access) : Prop where
  points : resolver.referenced unicode acceptsNetloc root ref = found
  fetches : resolver.Fetches acceptsNetloc state.resolvedCache middle

/-- The state with a result remembered. -/
def remember (state : ResolverState Access) (key : RefKey) (result : Json) :
    ResolverState Access :=
  { state with resolvedCache := Dict.insert state.resolvedCache key result }

theorem targetRoot_run {state middle : ResolverState Access}
    (kept : resolver.KeepsFetched acceptsNetloc state) {root : DocumentRoot} {target : String}
    {outcome : Except (ResolveException FetchError) DocumentRoot}
    (ran : resolver.targetRoot acceptsNetloc root target state = (outcome, middle)) :
    outcome = resolver.rootAt acceptsNetloc root target ∧
      resolver.Fetches acceptsNetloc state.resolvedCache middle := by
  have meets := meets_targetRoot root target state kept
  rw [ran] at meets
  exact ⟨meets.2, meets.1⟩

/-- A lookup goes through the document and the node in it. -/
theorem referenced_of_parts {root : DocumentRoot} {ref target pointer : String}
    (parts : splitRef ref = (target, pointer)) :
    resolver.referenced unicode acceptsNetloc root ref =
      (resolver.rootAt acceptsNetloc root target >>= fun newRoot =>
        nodeAt unicode newRoot pointer >>= fun node => .ok (newRoot, node)) := by
  rw [referenced, parts]
  rfl

theorem permitTarget_ne_recursionLimit {target : String} :
    resolver.permitTarget acceptsNetloc target ≠ .error (.raised .recursionLimit) := by
  unfold permitTarget
  split
  · nofun
  · split
    · nofun
    · split
      · nofun
      · nofun

theorem documentAt_ne_recursionLimit {target : String} :
    resolver.documentAt acceptsNetloc target ≠ .error (.raised .recursionLimit) := by
  intro failed
  unfold documentAt at failed
  rcases bind_eq_error.mp failed with refused | ⟨_, _, unfetched⟩
  · exact permitTarget_ne_recursionLimit refused
  · split at unfetched
    · cases unfetched
    · rcases bind_eq_error.mp unfetched with raised | ⟨_, _, returned⟩
      · rcases mapError_eq_error.mp raised with ⟨_, _, isFetch⟩
        cases isFetch
      · cases returned

/-- A lookup does not nest, so it does not run into the recursion limit. -/
theorem referenced_ne_recursionLimit {root : DocumentRoot} {ref : String} :
    resolver.referenced unicode acceptsNetloc root ref ≠ .error (.raised .recursionLimit) := by
  intro failed
  rcases parts : splitRef ref with ⟨target, pointer⟩
  rw [referenced_of_parts parts] at failed
  rcases bind_eq_error.mp failed with unlocated | ⟨newRoot, _, unfound⟩
  · unfold rootAt at unlocated
    split at unlocated
    · cases unlocated
    · exact documentAt_ne_recursionLimit unlocated
  · rcases bind_eq_error.mp unfound with missing | ⟨_, _, returned⟩
    · rcases mapError_eq_error.mp missing with ⟨_, _, isRefusal⟩
      cases isRefusal
    · cases returned

section Runs

variable {depth : Nat} {chain : List RefKey} {root : DocumentRoot} {ref : String}
  {state later : ResolverState Access}

/-- A call that returns. -/
theorem resolveRef_run_ok {value : Json} (kept : resolver.KeepsFetched acceptsNetloc state)
    (ran : resolver.resolveRef unicode acceptsNetloc (depth + 1) chain root ref state =
      (.ok value, later)) :
    (root.key ref ∈ chain ∧ value = openObject ∧
        later.resolvedCache = state.resolvedCache ∧ later.externalCache = state.externalCache) ∨
      (root.key ref ∉ chain ∧ later = state ∧
        Dict.get? state.resolvedCache (root.key ref) = some value) ∨
      (root.key ref ∉ chain ∧ ∃ newRoot node before after,
        resolver.LooksUp unicode acceptsNetloc root ref (.ok (newRoot, node)) state before ∧
        walk (resolver.resolveRef unicode acceptsNetloc depth (chain ++ [root.key ref]) newRoot) node
          before = (.ok value, after) ∧
        later = remember after (root.key ref) value) := by
  rw [resolveRef] at ran
  split at ran
  case isTrue isOpen =>
    cases ran
    exact Or.inl ⟨isOpen, rfl, rfl, rfl⟩
  case isFalse closed =>
    cases known : Dict.get? state.resolvedCache (root.key ref) with
    | some result =>
        rw [Stateful.bind_run] at ran
        simp only [Stateful.read, known, Stateful.pure_run_ok] at ran
        rcases ran with ⟨rfl, rfl⟩
        exact Or.inr (Or.inl ⟨closed, rfl, rfl⟩)
    | none =>
        rcases parts : splitRef ref with ⟨target, pointer⟩
        rw [Stateful.bind_run] at ran
        simp only [Stateful.read, known, parts, Stateful.bind_run_ok, Stateful.pure_run_ok] at ran
        rcases ran with ⟨newRoot, before, located, node, _, isFound, result, after, walked, _, _,
          updated, rfl, rfl⟩
        rcases targetRoot_run kept located with ⟨isRoot, fetches⟩
        rcases Prod.mk.inj isFound with ⟨isNode, rfl⟩
        cases updated
        refine Or.inr (Or.inr ⟨closed, newRoot, node, before, after, ⟨?_, fetches⟩, walked, rfl⟩)
        rw [referenced_of_parts parts, ← isRoot]
        simp only [bind_eq_ok, Except.ok.injEq, exists_eq_left']
        exact ⟨node, isNode, rfl⟩

/-- A call that fails. -/
theorem resolveRef_run_error {error : ResolveException FetchError}
    (kept : resolver.KeepsFetched acceptsNetloc state)
    (ran : resolver.resolveRef unicode acceptsNetloc (depth + 1) chain root ref state =
      (.error error, later)) :
    root.key ref ∉ chain ∧
      (resolver.referenced unicode acceptsNetloc root ref = .error error ∨
        ∃ newRoot node before,
          resolver.LooksUp unicode acceptsNetloc root ref (.ok (newRoot, node)) state before ∧
          walk (resolver.resolveRef unicode acceptsNetloc depth (chain ++ [root.key ref]) newRoot)
            node before = (.error error, later)) := by
  rw [resolveRef] at ran
  split at ran
  case isTrue isOpen => cases ran
  case isFalse closed =>
    refine ⟨closed, ?_⟩
    cases known : Dict.get? state.resolvedCache (root.key ref) with
    | some result =>
        rw [Stateful.bind_run] at ran
        simp only [Stateful.read, known] at ran
        exact absurd ran Stateful.pure_run_error
    | none =>
        rcases parts : splitRef ref with ⟨target, pointer⟩
        rw [Stateful.bind_run] at ran
        simp only [Stateful.read, known, parts, Stateful.bind_run_error,
          Stateful.pure_run_error, and_false, exists_false, or_false] at ran
        rcases ran with failed | ⟨newRoot, before, located, failed | ⟨node, _, isFound, failed⟩⟩
        · left
          rw [referenced_of_parts parts, ← (targetRoot_run kept failed).1]
          rfl
        · left
          rw [referenced_of_parts parts, ← (targetRoot_run kept located).1]
          have notFound := (Prod.mk.inj failed).1
          simp only [bind_eq_error, Except.ok.injEq, exists_eq_left', notFound, true_or, or_true]
        · right
          rcases targetRoot_run kept located with ⟨isRoot, fetches⟩
          rcases Prod.mk.inj isFound with ⟨isNode, rfl⟩
          rcases failed with stopped | ⟨result, after, _, updated⟩
          · refine ⟨newRoot, node, before, ⟨?_, fetches⟩, stopped⟩
            rw [referenced_of_parts parts, ← isRoot]
            simp only [bind_eq_ok, Except.ok.injEq, exists_eq_left']
            exact ⟨node, isNode, rfl⟩
          · cases updated

/-- A call on a closed reference that returns while nothing is remembered. -/
theorem resolveRef_run_fresh {value : Json} (closed : root.key ref ∉ chain)
    (fetches : resolver.Fetches acceptsNetloc [] state)
    (ran : resolver.resolveRef unicode acceptsNetloc depth chain root ref state =
      (.ok value, later)) :
    ∃ shallower newRoot node before after,
      resolver.referenced unicode acceptsNetloc root ref = .ok (newRoot, node) ∧
      resolver.Fetches acceptsNetloc [] before ∧
      walk (resolver.resolveRef unicode acceptsNetloc shallower (chain ++ [root.key ref]) newRoot)
        node before = (.ok value, after) := by
  cases depth with
  | zero => cases ran
  | succ depth =>
      have kept : resolver.KeepsFetched acceptsNetloc state := ⟨fetches.fetched, rfl⟩
      rcases resolveRef_run_ok kept ran with
        ⟨isOpen, _⟩ | ⟨_, _, found⟩ | ⟨_, newRoot, node, before, after, lookedUp, walked, _⟩
      · exact absurd isOpen closed
      · rw [fetches.remembered] at found
        cases found
      · refine ⟨depth, newRoot, node, before, after, lookedUp.points, ?_, walked⟩
        rw [← fetches.remembered]
        exact lookedUp.fetches

end Runs

end RefResolver

end McpPortal
