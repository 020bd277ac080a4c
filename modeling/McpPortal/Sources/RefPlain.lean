import McpPortal.Sources.Refs

/-!
# Resolution without remembering

The same traversal with every reference expanded afresh. It depends on the chain of
references being expanded, which the remembered results ignore. Where the traversal
expands one reference at two places, remembering is right if every reference met
inside is open around both places or around neither.
-/

namespace McpPortal

open Foundation

namespace RefResolver

variable {Access FetchError : Type}
variable (unicode : PyUnicode) (acceptsNetloc : List Char → Bool)
  (resolver : RefResolver Access FetchError)

/-- The document a permitted target names. -/
def documentAt (target : String) : Except (ResolveException FetchError) DocumentRoot := do
  resolver.permitTarget acceptsNetloc target
  match resolver.fetchExternal with
  | none => refuse (.noFetcher target)
  | some fetchExternal => do
      let document ← (fetchExternal target).result.mapError fun error =>
        .raised (.fetchFailed error)
      return { id := .external target, document }

def rootAt (root : DocumentRoot) (target : String) :
    Except (ResolveException FetchError) DocumentRoot :=
  if target = "" then .ok root else resolver.documentAt acceptsNetloc target

/-- What a reference points to, and the document it lies in. -/
def referenced (root : DocumentRoot) (ref : String) :
    Except (ResolveException FetchError) (DocumentRoot × Json) := do
  let (target, pointer) := splitRef ref
  let newRoot ← resolver.rootAt acceptsNetloc root target
  let node ← nodeAt unicode newRoot pointer
  return (newRoot, node)

def expandRef : Nat → List RefKey → DocumentRoot → String →
    Except (ResolveException FetchError) Json
  | 0, _, _, _ => .error (.raised .recursionLimit)
  | depth + 1, chain, root, ref =>
      if root.key ref ∈ chain then .ok openObject
      else do
        let (newRoot, node) ← resolver.referenced unicode acceptsNetloc root ref
        walk (expandRef depth (chain ++ [root.key ref]) newRoot) node

/-- `resolve` without `_resolved_cache`. -/
def resolvePlain (depth : Nat) : Except (ResolveException FetchError) JsonObject := do
  let result ← walk (resolver.expandRef unicode acceptsNetloc depth [] resolver.entryRoot)
    (.obj resolver.root)
  assertObject result

/-- The plain traversal that expands the first reference under the first chain comes to the
second reference under the second chain. -/
inductive Meets : List RefKey → DocumentRoot → String → List RefKey → DocumentRoot → String → Prop
  | here (chain : List RefKey) (root : DocumentRoot) (ref : String) :
      Meets chain root ref chain root ref
  | inside {chain later : List RefKey} {root newRoot laterRoot : DocumentRoot}
      {ref next laterRef : String} {node : Json} (closed : root.key ref ∉ chain)
      (points : resolver.referenced unicode acceptsNetloc root ref = .ok (newRoot, node))
      (nextMem : next ∈ refsOf node)
      (meets : Meets (chain ++ [root.key ref]) newRoot next later laterRoot laterRef) :
      Meets chain root ref later laterRoot laterRef

/-- The traversal of the entry document comes to the reference under the chain. -/
def Visits (chain : List RefKey) (root : DocumentRoot) (ref : String) : Prop :=
  ∃ first ∈ refsOf (.obj resolver.root),
    resolver.Meets unicode acceptsNetloc [] resolver.entryRoot first chain root ref

/-- Expanding the reference under the chain comes to a reference with the key. -/
def MeetsKey (chain : List RefKey) (root : DocumentRoot) (ref : String) (key : RefKey) : Prop :=
  ∃ later laterRoot laterRef,
    resolver.Meets unicode acceptsNetloc chain root ref later laterRoot laterRef ∧
      laterRoot.key laterRef = key

/-- Every reference met under either chain is open in both or in neither. -/
def OpenAlike (left right : List RefKey) (root : DocumentRoot) (ref : String) : Prop :=
  ∀ key, resolver.MeetsKey unicode acceptsNetloc left root ref key ∨
      resolver.MeetsKey unicode acceptsNetloc right root ref key →
    (key ∈ left ↔ key ∈ right)

/-- Wherever the traversal expands one reference at two places, the references met inside are
open around both places or around neither. -/
def ContextFree : Prop :=
  ∀ left right root ref, resolver.Visits unicode acceptsNetloc left root ref →
    resolver.Visits unicode acceptsNetloc right root ref →
    root.key ref ∉ left → root.key ref ∉ right →
    resolver.OpenAlike unicode acceptsNetloc left right root ref

section Facts

variable {unicode : PyUnicode} {acceptsNetloc : List Char → Bool}
  {resolver : RefResolver Access FetchError}

theorem expandRef_eq_ok {depth : Nat} {chain : List RefKey} {root newRoot : DocumentRoot}
    {ref : String} {node result : Json} (closed : root.key ref ∉ chain)
    (points : resolver.referenced unicode acceptsNetloc root ref = .ok (newRoot, node)) :
    resolver.expandRef unicode acceptsNetloc (depth + 1) chain root ref = .ok result ↔
      Walked (fun next value => resolver.expandRef unicode acceptsNetloc depth
        (chain ++ [root.key ref]) newRoot next = .ok value) node result := by
  simp only [expandRef, if_neg closed, points, bind_eq_ok, Except.ok.injEq, exists_eq_left',
    walk_eq_ok]

theorem expandRef_succ {depth : Nat} {chain : List RefKey} {root : DocumentRoot} {ref : String}
    {result : Json}
    (ran : resolver.expandRef unicode acceptsNetloc depth chain root ref = .ok result) :
    resolver.expandRef unicode acceptsNetloc (depth + 1) chain root ref = .ok result := by
  induction depth generalizing chain root ref result with
  | zero => cases ran
  | succ depth ih =>
      rw [expandRef] at ran ⊢
      split at ran
      case isTrue isOpen => rwa [if_pos isOpen]
      case isFalse closed =>
        rw [if_neg closed]
        simp only [bind_eq_ok, walk_eq_ok] at ran ⊢
        rcases ran with ⟨found, points, walked⟩
        refine ⟨found, points, walked.mono ?_⟩
        intro next _ value expanded
        exact ih expanded

theorem expandRef_le {smaller larger : Nat} (le : smaller ≤ larger) {chain : List RefKey}
    {root : DocumentRoot} {ref : String} {result : Json}
    (ran : resolver.expandRef unicode acceptsNetloc smaller chain root ref = .ok result) :
    resolver.expandRef unicode acceptsNetloc larger chain root ref = .ok result := by
  induction le with
  | refl => exact ran
  | step _ ih => exact expandRef_succ ih

theorem grows_expandRef (chain : List RefKey) (root : DocumentRoot) :
    Grows fun depth ref value =>
      resolver.expandRef unicode acceptsNetloc depth chain root ref = .ok value := by
  intro smaller larger le ref value ran
  exact expandRef_le le ran

theorem OpenAlike.inside {left right : List RefKey} {root newRoot : DocumentRoot}
    {ref next : String} {node : Json}
    (alike : resolver.OpenAlike unicode acceptsNetloc left right root ref)
    (notLeft : root.key ref ∉ left) (notRight : root.key ref ∉ right)
    (points : resolver.referenced unicode acceptsNetloc root ref = .ok (newRoot, node))
    (nextMem : next ∈ refsOf node) :
    resolver.OpenAlike unicode acceptsNetloc (left ++ [root.key ref]) (right ++ [root.key ref])
      newRoot next := by
  rintro key (⟨later, laterRoot, laterRef, meets, rfl⟩ | ⟨later, laterRoot, laterRef, meets, rfl⟩)
  · have same := alike (laterRoot.key laterRef)
      (Or.inl ⟨later, laterRoot, laterRef, .inside notLeft points nextMem meets, rfl⟩)
    simp only [List.mem_append, same]
  · have same := alike (laterRoot.key laterRef)
      (Or.inr ⟨later, laterRoot, laterRef, .inside notRight points nextMem meets, rfl⟩)
    simp only [List.mem_append, same]

/-- An expansion depends on the chain through the references met inside. -/
theorem expandRef_of_openAlike {depth : Nat} {left right : List RefKey} {root : DocumentRoot}
    {ref : String} {result : Json}
    (alike : resolver.OpenAlike unicode acceptsNetloc left right root ref)
    (ran : resolver.expandRef unicode acceptsNetloc depth left root ref = .ok result) :
    resolver.expandRef unicode acceptsNetloc depth right root ref = .ok result := by
  induction depth generalizing left right root ref result with
  | zero => cases ran
  | succ depth ih =>
      have same := alike (root.key ref) (Or.inl ⟨left, root, ref, .here left root ref, rfl⟩)
      rw [expandRef] at ran ⊢
      split at ran
      case isTrue isOpen => rwa [if_pos (same.mp isOpen)]
      case isFalse closed =>
        have alsoClosed : root.key ref ∉ right := fun isOpen => closed (same.mpr isOpen)
        rw [if_neg alsoClosed]
        simp only [bind_eq_ok, walk_eq_ok] at ran ⊢
        rcases ran with ⟨⟨newRoot, node⟩, points, walked⟩
        refine ⟨(newRoot, node), points, walked.mono ?_⟩
        intro next nextMem value expanded
        exact ih (alike.inside closed alsoClosed points nextMem) expanded

/-- The entry document, or what a permitted target names. -/
def Genuine (acceptsNetloc : List Char → Bool) (resolver : RefResolver Access FetchError)
    (root : DocumentRoot) : Prop :=
  root = resolver.entryRoot ∨ ∃ target, resolver.documentAt acceptsNetloc target = .ok root

theorem id_of_documentAt {target : String} {root : DocumentRoot}
    (ran : resolver.documentAt acceptsNetloc target = .ok root) : root.id = .external target := by
  simp only [documentAt, bind_eq_ok] at ran
  rcases ran with ⟨_, _, fetched⟩
  split at fetched
  · cases fetched
  · simp only [bind_eq_ok, pure_eq_ok] at fetched
    rcases fetched with ⟨_, _, rfl⟩
    rfl

theorem Genuine.ext {left right : DocumentRoot} (leftGenuine : resolver.Genuine acceptsNetloc left)
    (rightGenuine : resolver.Genuine acceptsNetloc right) (sameId : left.id = right.id) :
    left = right := by
  rcases leftGenuine with rfl | ⟨target, fetched⟩
  · rcases rightGenuine with rfl | ⟨other, otherFetched⟩
    · rfl
    · rw [id_of_documentAt otherFetched] at sameId
      cases sameId
  · rcases rightGenuine with rfl | ⟨other, otherFetched⟩
    · rw [id_of_documentAt fetched] at sameId
      cases sameId
    · rw [id_of_documentAt fetched, id_of_documentAt otherFetched] at sameId
      cases sameId
      rw [fetched] at otherFetched
      cases otherFetched
      rfl

theorem Genuine.referenced {root newRoot : DocumentRoot} {ref : String} {node : Json}
    (genuine : resolver.Genuine acceptsNetloc root)
    (points : resolver.referenced unicode acceptsNetloc root ref = .ok (newRoot, node)) :
    resolver.Genuine acceptsNetloc newRoot := by
  simp only [RefResolver.referenced, bind_eq_ok, pure_eq_ok, Prod.mk.injEq] at points
  rcases points with ⟨found, located, _, _, rfl, _⟩
  unfold rootAt at located
  split at located
  · cases located
    exact genuine
  · exact Or.inr ⟨_, located⟩

theorem Meets.genuine {chain later : List RefKey} {root laterRoot : DocumentRoot}
    {ref laterRef : String}
    (meets : resolver.Meets unicode acceptsNetloc chain root ref later laterRoot laterRef)
    (genuine : resolver.Genuine acceptsNetloc root) : resolver.Genuine acceptsNetloc laterRoot := by
  induction meets with
  | here => exact genuine
  | inside _ points _ _ ih => exact ih (genuine.referenced points)

theorem Meets.trans {chain middle later : List RefKey} {root middleRoot laterRoot : DocumentRoot}
    {ref middleRef laterRef : String}
    (first : resolver.Meets unicode acceptsNetloc chain root ref middle middleRoot middleRef)
    (second : resolver.Meets unicode acceptsNetloc middle middleRoot middleRef later laterRoot
      laterRef) :
    resolver.Meets unicode acceptsNetloc chain root ref later laterRoot laterRef := by
  induction first with
  | here => exact second
  | inside closed points nextMem _ ih => exact .inside closed points nextMem (ih second)

theorem Visits.genuine {chain : List RefKey} {root : DocumentRoot} {ref : String}
    (visits : resolver.Visits unicode acceptsNetloc chain root ref) :
    resolver.Genuine acceptsNetloc root := by
  rcases visits with ⟨_, _, meets⟩
  exact meets.genuine (Or.inl rfl)

theorem Visits.inside {chain : List RefKey} {root newRoot : DocumentRoot} {ref next : String}
    {node : Json} (visits : resolver.Visits unicode acceptsNetloc chain root ref)
    (closed : root.key ref ∉ chain)
    (points : resolver.referenced unicode acceptsNetloc root ref = .ok (newRoot, node))
    (nextMem : next ∈ refsOf node) :
    resolver.Visits unicode acceptsNetloc (chain ++ [root.key ref]) newRoot next := by
  rcases visits with ⟨first, firstMem, meets⟩
  exact ⟨first, firstMem, meets.trans (.inside closed points nextMem (.here _ _ _))⟩

/-- The documents that are kept are those fetched, and the remembered results are the given ones. -/
structure Fetches (acceptsNetloc : List Char → Bool) (resolver : RefResolver Access FetchError)
    (cache : List (RefKey × Json)) (state : ResolverState Access) : Prop where
  fetched : ∀ target document, Dict.get? state.externalCache target = some document →
    resolver.documentAt acceptsNetloc target = .ok { id := .external target, document }
  remembered : state.resolvedCache = cache

variable {cache : List (RefKey × Json)}

theorem meets_fetch {target : String}
    (permitted : resolver.permitTarget acceptsNetloc target = .ok ()) :
    Stateful.Meets (resolver.Fetches acceptsNetloc cache)
      (fun outcome => resolver.documentAt acceptsNetloc target =
        outcome.map fun document => { id := .external target, document })
      (resolver.fetch target) := by
  have fetched : resolver.documentAt acceptsNetloc target =
      match resolver.fetchExternal with
      | none => refuse (.noFetcher target)
      | some fetchExternal => do
          let document ← (fetchExternal target).result.mapError fun error =>
            .raised (.fetchFailed error)
          return { id := .external target, document } := by
    rw [documentAt, permitted]
    rfl
  unfold fetch
  cases fetcher : resolver.fetchExternal with
  | none =>
      intro state fetches
      rw [fetched, fetcher]
      exact ⟨fetches, rfl⟩
  | some fetchExternal =>
      rw [fetcher] at fetched
      apply Stateful.meets_update_bind
      · intro state fetches
        exact ⟨fetches.fetched, fetches.remembered⟩
      · apply Stateful.meets_lift_bind
        · intro document isDocument
          simp only [isDocument] at fetched
          apply Stateful.meets_update_bind
          · intro state fetches
            refine ⟨?_, fetches.remembered⟩
            intro other found present
            rw [Dict.get?_insert] at present
            split at present
            case isTrue same =>
              cases present
              cases same
              exact fetched
            case isFalse => exact fetches.fetched other found present
          · apply Stateful.meets_pure
            exact fetched
        · intro error failed
          simp only [failed] at fetched
          exact fetched

/-- Fetching through the cache is fetching. -/
theorem meets_externalDocument (target : String) :
    Stateful.Meets (resolver.Fetches acceptsNetloc cache)
      (· = resolver.documentAt acceptsNetloc target)
      (resolver.externalDocument acceptsNetloc target) := by
  unfold externalDocument
  apply Stateful.meets_lift_bind
  · intro _ permitted
    apply Stateful.meets_read_bind fun cached => ∀ document, cached = some document →
      resolver.documentAt acceptsNetloc target = .ok { id := .external target, document }
    · intro state fetches
      exact fetches.fetched target
    · intro cached known
      cases cached with
      | some document =>
          apply Stateful.meets_pure
          exact (known document rfl).symm
      | none =>
          apply (meets_fetch permitted).bind
          · intro document fetched
            apply Stateful.meets_pure
            exact fetched.symm
          · intro error failed
            exact failed.symm
  · intro error refused
    rw [documentAt, refused]
    rfl

theorem meets_targetRoot (root : DocumentRoot) (target : String) :
    Stateful.Meets (resolver.Fetches acceptsNetloc cache)
      (· = resolver.rootAt acceptsNetloc root target)
      (resolver.targetRoot acceptsNetloc root target) := by
  unfold targetRoot rootAt
  split
  · exact Stateful.meets_pure rfl
  · exact meets_externalDocument target

/-- Finding a document leaves the remembered results alone. -/
theorem meets_targetRoot_of {invariant : ResolverState Access → Prop}
    (fetches : ∀ state, invariant state → resolver.Fetches acceptsNetloc state.resolvedCache state)
    (keeps : ∀ state later, invariant state →
      resolver.Fetches acceptsNetloc state.resolvedCache later → invariant later)
    (root : DocumentRoot) (target : String) :
    Stateful.Meets invariant (· = resolver.rootAt acceptsNetloc root target)
      (resolver.targetRoot acceptsNetloc root target) := by
  intro state holds
  rcases meets_targetRoot root target state (fetches state holds) with ⟨kept, located⟩
  exact ⟨keeps state _ holds kept, located⟩

/-- The caches hold what is fetched, and what plain expansion gives at some place that the
traversal visits. -/
structure Agrees (unicode : PyUnicode) (acceptsNetloc : List Char → Bool)
    (resolver : RefResolver Access FetchError) (state : ResolverState Access) : Prop where
  fetched : ∀ target document, Dict.get? state.externalCache target = some document →
    resolver.documentAt acceptsNetloc target = .ok { id := .external target, document }
  resolved : ∀ key result, Dict.get? state.resolvedCache key = some result →
    ∃ chain root ref depth, root.key ref = key ∧ key ∉ chain ∧
      resolver.Visits unicode acceptsNetloc chain root ref ∧
      resolver.expandRef unicode acceptsNetloc depth chain root ref = .ok result

theorem agrees_initial : resolver.Agrees unicode acceptsNetloc {} := by
  constructor
  · intro target document found
    cases found
  · intro key result found
    cases found

theorem Agrees.remember {state : ResolverState Access} {chain : List RefKey} {root : DocumentRoot}
    {ref : String} {depth : Nat} {result : Json}
    (agrees : resolver.Agrees unicode acceptsNetloc state)
    (visits : resolver.Visits unicode acceptsNetloc chain root ref)
    (closed : root.key ref ∉ chain)
    (ran : resolver.expandRef unicode acceptsNetloc depth chain root ref = .ok result) :
    resolver.Agrees unicode acceptsNetloc
      { state with resolvedCache := Dict.insert state.resolvedCache (root.key ref) result } := by
  refine ⟨agrees.fetched, ?_⟩
  intro key value found
  rw [Dict.get?_insert] at found
  split at found
  case isTrue same =>
    cases found
    exact ⟨chain, root, ref, depth, same, same ▸ closed, visits, ran⟩
  case isFalse => exact agrees.resolved key value found

theorem meets_targetRoot_agrees (root : DocumentRoot) (target : String) :
    Stateful.Meets (resolver.Agrees unicode acceptsNetloc)
      (· = resolver.rootAt acceptsNetloc root target)
      (resolver.targetRoot acceptsNetloc root target) := by
  apply meets_targetRoot_of
  · intro state agrees
    exact ⟨agrees.fetched, rfl⟩
  · intro state later agrees fetches
    refine ⟨fetches.fetched, ?_⟩
    rw [fetches.remembered]
    exact agrees.resolved

/-- The outcome of resolving with the caches, in terms of plain expansion. -/
def PlainOutcome (plain : Nat → Except (ResolveException FetchError) Json) (depth : Nat) :
    Except (ResolveException FetchError) Json → Prop
  | .ok result => ∃ deeper, plain deeper = .ok result
  | .error _ => ∀ result, plain depth ≠ .ok result

theorem plainOutcome_of_expandRef_eq {chain : List RefKey} {root : DocumentRoot} {ref : String}
    {depth : Nat} {error : ResolveException FetchError}
    (failed : resolver.expandRef unicode acceptsNetloc depth chain root ref = .error error) :
    PlainOutcome (fun depth => resolver.expandRef unicode acceptsNetloc depth chain root ref) depth
      (.error error) := by
  intro result succeeded
  cases failed.symm.trans succeeded

theorem plainOutcome_of_referenced_eq {chain : List RefKey} {root : DocumentRoot} {ref : String}
    {depth : Nat} {error : ResolveException FetchError} (closed : root.key ref ∉ chain)
    (failed : resolver.referenced unicode acceptsNetloc root ref = .error error) :
    PlainOutcome (fun depth => resolver.expandRef unicode acceptsNetloc depth chain root ref)
      (depth + 1) (.error error) := by
  apply plainOutcome_of_expandRef_eq
  simp only [expandRef, if_neg closed, failed, bind_eq_error, true_or]

/-- Under context freedom, resolving with the caches gives what plain expansion gives. -/
theorem meets_resolveRef (contextFree : resolver.ContextFree unicode acceptsNetloc) (depth : Nat)
    {chain : List RefKey} {root : DocumentRoot} {ref : String}
    (visits : resolver.Visits unicode acceptsNetloc chain root ref) :
    Stateful.Meets (resolver.Agrees unicode acceptsNetloc)
      (PlainOutcome (fun depth => resolver.expandRef unicode acceptsNetloc depth chain root ref)
        depth)
      (resolver.resolveRef unicode acceptsNetloc depth chain root ref) := by
  induction depth generalizing chain root ref with
  | zero =>
      apply Stateful.meets_raise
      exact plainOutcome_of_expandRef_eq rfl
  | succ depth ih =>
      unfold resolveRef
      split
      case isTrue isOpen =>
        apply Stateful.meets_update_bind
        · intro state agrees
          exact ⟨agrees.fetched, agrees.resolved⟩
        · apply Stateful.meets_pure
          refine ⟨1, ?_⟩
          simp only [expandRef, if_pos isOpen]
      case isFalse closed =>
        apply Stateful.meets_read_bind fun cached => ∀ result, cached = some result →
          ∃ other otherRoot otherRef deeper, otherRoot.key otherRef = root.key ref ∧
            root.key ref ∉ other ∧ resolver.Visits unicode acceptsNetloc other otherRoot otherRef ∧
            resolver.expandRef unicode acceptsNetloc deeper other otherRoot otherRef = .ok result
        · intro state agrees
          exact agrees.resolved (root.key ref)
        · intro cached known
          cases cached with
          | some result =>
              rcases known result rfl with
                ⟨other, otherRoot, otherRef, deeper, sameKey, otherClosed, otherVisits, ran⟩
              simp only [DocumentRoot.key, RefKey.mk.injEq] at sameKey
              rcases sameKey with ⟨sameId, rfl⟩
              cases otherVisits.genuine.ext visits.genuine sameId
              apply Stateful.meets_pure
              refine ⟨deeper, ?_⟩
              apply expandRef_of_openAlike _ ran
              exact contextFree other chain root otherRef otherVisits visits otherClosed closed
          | none =>
              rcases parts : splitRef ref with ⟨target, pointer⟩
              apply (meets_targetRoot_agrees root target).bind
              · intro newRoot located
                apply Stateful.meets_lift_bind
                · intro node found
                  have points : resolver.referenced unicode acceptsNetloc root ref =
                      .ok (newRoot, node) := by
                    simp only [referenced, parts, ← located, found, bind_eq_ok, pure_eq_ok,
                      Except.ok.injEq, exists_eq_left']
                  have expands := fun (next : String) (nextMem : next ∈ refsOf node) =>
                    ih (visits.inside closed points nextMem)
                  apply (meets_walk expands).bind
                  · intro result walked
                    have bounded := Walked.exists_bound
                      (grows_expandRef (chain ++ [root.key ref]) newRoot) walked
                    rcases bounded with ⟨deeper, walked⟩
                    have ran := (expandRef_eq_ok closed points).mpr walked
                    apply Stateful.meets_update_bind
                    · intro state agrees
                      exact agrees.remember visits closed ran
                    · apply Stateful.meets_pure
                      exact ⟨deeper + 1, ran⟩
                  · rintro error ⟨next, nextMem, failed⟩ result ran
                    have walked := (expandRef_eq_ok closed points).mp ran
                    rcases walked.expanded next nextMem with ⟨value, expanded⟩
                    exact failed value expanded
                · intro error failed
                  apply plainOutcome_of_referenced_eq closed
                  simp only [referenced, parts, ← located, failed, bind_eq_error, Except.ok.injEq,
                    exists_eq_left', true_or, or_true]
              · intro error failed
                apply plainOutcome_of_referenced_eq closed
                simp only [referenced, parts, ← failed, bind_eq_error, true_or]

theorem walk_entry_le {smaller larger : Nat} (le : smaller ≤ larger) {result : Json}
    (ran : walk (resolver.expandRef unicode acceptsNetloc smaller [] resolver.entryRoot)
      (.obj resolver.root) = .ok result) :
    walk (resolver.expandRef unicode acceptsNetloc larger [] resolver.entryRoot)
      (.obj resolver.root) = .ok result := by
  rw [walk_eq_ok] at ran ⊢
  apply ran.mono
  intro ref _
  exact grows_expandRef [] resolver.entryRoot smaller larger le ref

/-- The outcome of a whole resolution with the caches, in terms of the plain one. -/
def WholeOutcome (unicode : PyUnicode) (acceptsNetloc : List Char → Bool)
    (resolver : RefResolver Access FetchError) (depth : Nat) :
    Except (ResolveException FetchError) JsonObject → Prop
  | .ok result => ∃ deeper, resolver.resolvePlain unicode acceptsNetloc deeper = .ok result
  | .error _ => ∀ result, resolver.resolvePlain unicode acceptsNetloc depth ≠ .ok result

theorem meets_resolve (contextFree : resolver.ContextFree unicode acceptsNetloc) (depth : Nat) :
    Stateful.Meets (resolver.Agrees unicode acceptsNetloc)
      (resolver.WholeOutcome unicode acceptsNetloc depth)
      (resolver.resolve unicode acceptsNetloc depth) := by
  have expands := fun (first : String) (firstMem : first ∈ refsOf (.obj resolver.root)) =>
    meets_resolveRef contextFree depth ⟨first, firstMem, .here [] _ first⟩
  apply (meets_walk expands).bind
  · intro walkedRoot walked
    have bounded := Walked.exists_bound (grows_expandRef [] resolver.entryRoot) walked
    rcases bounded with ⟨deeper, walked⟩
    have plain := walk_eq_ok.mpr walked
    apply Stateful.meets_lift
    cases asserted : (assertObject walkedRoot : Except (ResolveException FetchError) JsonObject) with
    | ok result =>
        refine ⟨deeper, ?_⟩
        simp only [resolvePlain, plain, bind_eq_ok, Except.ok.injEq, exists_eq_left', asserted]
    | error error =>
        intro result ran
        simp only [resolvePlain, bind_eq_ok] at ran
        rcases ran with ⟨otherRoot, other, isObject⟩
        have left := walk_entry_le (Nat.le_max_left depth deeper) other
        have right := walk_entry_le (Nat.le_max_right depth deeper) plain
        cases left.symm.trans right
        cases asserted.symm.trans isObject
  · rintro error ⟨first, firstMem, failed⟩ result ran
    simp only [resolvePlain, bind_eq_ok, walk_eq_ok] at ran
    rcases ran with ⟨walkedRoot, walked, _⟩
    rcases walked.expanded first firstMem with ⟨value, expanded⟩
    exact failed value expanded

/-- Two plain resolutions of different depths that succeed have one result. -/
theorem resolvePlain_unique {smaller larger : Nat} {left right : JsonObject}
    (ranLeft : resolver.resolvePlain unicode acceptsNetloc smaller = .ok left)
    (ranRight : resolver.resolvePlain unicode acceptsNetloc larger = .ok right) : left = right := by
  simp only [resolvePlain, bind_eq_ok] at ranLeft ranRight
  rcases ranLeft with ⟨leftRoot, leftWalk, leftObject⟩
  rcases ranRight with ⟨rightRoot, rightWalk, rightObject⟩
  have leftWalk := walk_entry_le (Nat.le_max_left smaller larger) leftWalk
  have rightWalk := walk_entry_le (Nat.le_max_right smaller larger) rightWalk
  cases leftWalk.symm.trans rightWalk
  cases leftObject.symm.trans rightObject
  rfl

/-- Where expansion does not depend on the context, remembering results changes nothing. -/
theorem resolve_iff_resolvePlain (contextFree : resolver.ContextFree unicode acceptsNetloc)
    (result : JsonObject) :
    (∃ depth, (resolver.resolve unicode acceptsNetloc depth {}).1 = .ok result) ↔
      ∃ depth, resolver.resolvePlain unicode acceptsNetloc depth = .ok result := by
  have outcome := fun depth => (meets_resolve contextFree depth {} agrees_initial).2
  constructor
  · rintro ⟨depth, ran⟩
    have plain := outcome depth
    rw [ran] at plain
    exact plain
  · rintro ⟨depth, ran⟩
    have remembered := outcome depth
    refine ⟨depth, ?_⟩
    cases resolved : (resolver.resolve unicode acceptsNetloc depth {}).1 with
    | ok other =>
        rw [resolved] at remembered
        rcases remembered with ⟨deeper, plain⟩
        rw [resolvePlain_unique plain ran]
    | error error =>
        rw [resolved] at remembered
        exact absurd ran (remembered result)

/-- Induction along the traversal of the entry document. -/
theorem Visits.induction {motive : List RefKey → DocumentRoot → String → Prop}
    (entry : ∀ first ∈ refsOf (.obj resolver.root), motive [] resolver.entryRoot first)
    (inside : ∀ chain root ref newRoot node next,
      resolver.Visits unicode acceptsNetloc chain root ref →
      resolver.referenced unicode acceptsNetloc root ref = .ok (newRoot, node) →
      next ∈ refsOf node → motive chain root ref → motive (chain ++ [root.key ref]) newRoot next)
    {chain : List RefKey} {root : DocumentRoot} {ref : String}
    (visits : resolver.Visits unicode acceptsNetloc chain root ref) : motive chain root ref := by
  have along : ∀ {start later startRoot laterRoot startRef laterRef},
      resolver.Meets unicode acceptsNetloc start startRoot startRef later laterRoot laterRef →
      resolver.Visits unicode acceptsNetloc start startRoot startRef →
      motive start startRoot startRef → motive later laterRoot laterRef := by
    intro start later startRoot laterRoot startRef laterRef meets
    induction meets with
    | here =>
        intro _ holds
        exact holds
    | inside closed points nextMem _ ih =>
        intro visits holds
        exact ih (visits.inside closed points nextMem)
          (inside _ _ _ _ _ _ visits points nextMem holds)
  rcases visits with ⟨first, firstMem, meets⟩
  exact along meets ⟨first, firstMem, .here _ _ _⟩ (entry first firstMem)

/-- From a reference the traversal comes only to itself and to references of lower rank. -/
def Ranked (unicode : PyUnicode) (acceptsNetloc : List Char → Bool)
    (resolver : RefResolver Access FetchError) (rank : RefKey → Nat) : Prop :=
  ∀ chain root ref newRoot node next, resolver.Visits unicode acceptsNetloc chain root ref →
    resolver.referenced unicode acceptsNetloc root ref = .ok (newRoot, node) →
    next ∈ refsOf node →
    newRoot.key next = root.key ref ∨ rank (newRoot.key next) < rank (root.key ref)

variable {rank : RefKey → Nat}

theorem Ranked.met (ranked : resolver.Ranked unicode acceptsNetloc rank)
    {chain later : List RefKey} {root laterRoot : DocumentRoot} {ref laterRef : String}
    (visits : resolver.Visits unicode acceptsNetloc chain root ref)
    (meets : resolver.Meets unicode acceptsNetloc chain root ref later laterRoot laterRef) :
    laterRoot.key laterRef = root.key ref ∨ rank (laterRoot.key laterRef) < rank (root.key ref) := by
  induction meets with
  | here => exact Or.inl rfl
  | inside closed points nextMem meets ih =>
      have below := ih (visits.inside closed points nextMem)
      rcases ranked _ _ _ _ _ _ visits points nextMem with same | lower
      · rwa [same] at below
      · right
        rcases below with same | lowerStill
        · rwa [same]
        · exact lowerStill.trans lower

theorem Ranked.opened (ranked : resolver.Ranked unicode acceptsNetloc rank)
    {chain : List RefKey} {root : DocumentRoot} {ref : String}
    (visits : resolver.Visits unicode acceptsNetloc chain root ref) {key : RefKey} :
    key ∈ chain → key = root.key ref ∨ rank (root.key ref) < rank key := by
  refine Visits.induction (motive := fun chain root ref =>
    key ∈ chain → key = root.key ref ∨ rank (root.key ref) < rank key) ?_ ?_ visits
  · intro first _ isOpen
    cases isOpen
  · intro chain root ref newRoot node next visits points nextMem ih isOpen
    have above : key = root.key ref ∨ rank (root.key ref) < rank key := by
      rcases List.mem_append.mp isOpen with outer | inner
      · exact ih outer
      · exact Or.inl (List.mem_singleton.mp inner)
    rcases ranked _ _ _ _ _ _ visits points nextMem with same | lower
    · rwa [same]
    · right
      rcases above with rfl | higher
      · exact lower
      · exact lower.trans higher

/-- Where every cycle of references goes through one reference, expansion does not depend on
the context. -/
theorem contextFree_of_ranked (ranked : resolver.Ranked unicode acceptsNetloc rank) :
    resolver.ContextFree unicode acceptsNetloc := by
  have apart : ∀ {chain root ref key}, resolver.Visits unicode acceptsNetloc chain root ref →
      root.key ref ∉ chain → (key = root.key ref ∨ rank key < rank (root.key ref)) →
      key ∉ chain := by
    intro chain root ref key visits closed below isOpen
    rcases ranked.opened visits isOpen with rfl | above
    · exact closed isOpen
    · rcases below with rfl | below
      · exact Nat.lt_irrefl _ above
      · exact Nat.lt_asymm above below
  intro left right root ref leftVisits rightVisits notLeft notRight key met
  have below : key = root.key ref ∨ rank key < rank (root.key ref) := by
    rcases met with ⟨_, _, _, meets, rfl⟩ | ⟨_, _, _, meets, rfl⟩
    · exact ranked.met leftVisits meets
    · exact ranked.met rightVisits meets
  exact iff_of_false (apart leftVisits notLeft below) (apart rightVisits notRight below)

end Facts

end RefResolver

/-- `{"$ref": ref}`. -/
def refTo (ref : String) : Json :=
  .obj [("$ref", .str ref)]

/-- A list type that refers to itself and to the type of its items. -/
def selfReferring : RefResolver Unit Unit where
  root :=
    [ ("paths", refTo "#/components/List"),
      ("components", .obj
        [ ("List", .obj
            [("head", refTo "#/components/Item"), ("tail", refTo "#/components/List")]),
          ("Item", .obj [("type", .str "string")]) ]) ]
  allowExternal := false

/-- Two types that refer to each other, each with its own place in the document. -/
def mutuallyReferring : RefResolver Unit Unit where
  root :=
    [ ("a", refTo "#/d/A"),
      ("b", refTo "#/d/B"),
      ("d", .obj [("A", .obj [("x", refTo "#/d/B")]), ("B", .obj [("y", refTo "#/d/A")])]) ]
  allowExternal := false

namespace RefResolver

def itemNode : Json :=
  .obj [("type", .str "string")]

def listNode : Json :=
  .obj [("head", refTo "#/components/Item"), ("tail", refTo "#/components/List")]

theorem selfReferring_referenced {ref : String} {newRoot : DocumentRoot} {node : Json}
    (known : ref = "#/components/List" ∨ ref = "#/components/Item")
    (points : selfReferring.referenced asciiTables (fun _ => true) selfReferring.entryRoot ref =
      .ok (newRoot, node)) :
    newRoot = selfReferring.entryRoot ∧
      ((ref = "#/components/List" ∧ node = listNode) ∨
        (ref = "#/components/Item" ∧ node = itemNode)) := by
  rcases known with rfl | rfl
  · have list : selfReferring.referenced asciiTables (fun _ => true) selfReferring.entryRoot
        "#/components/List" = .ok (selfReferring.entryRoot, listNode) := rfl
    cases list.symm.trans points
    exact ⟨rfl, Or.inl ⟨rfl, rfl⟩⟩
  · have item : selfReferring.referenced asciiTables (fun _ => true) selfReferring.entryRoot
        "#/components/Item" = .ok (selfReferring.entryRoot, itemNode) := rfl
    cases item.symm.trans points
    exact ⟨rfl, Or.inr ⟨rfl, rfl⟩⟩

theorem refsOf_listNode : refsOf listNode = ["#/components/Item", "#/components/List"] := rfl

theorem selfReferring_visits {chain : List RefKey} {root : DocumentRoot} {ref : String}
    (visits : selfReferring.Visits asciiTables (fun _ => true) chain root ref) :
    root = selfReferring.entryRoot ∧ (ref = "#/components/List" ∨ ref = "#/components/Item") := by
  refine Visits.induction (motive := fun _ root ref => root = selfReferring.entryRoot ∧
    (ref = "#/components/List" ∨ ref = "#/components/Item")) ?_ ?_ visits
  · intro first firstMem
    have refs : refsOf (.obj selfReferring.root) =
        ["#/components/List", "#/components/Item", "#/components/List"] := rfl
    rw [refs] at firstMem
    refine ⟨rfl, ?_⟩
    simp only [List.mem_cons, List.not_mem_nil, or_false] at firstMem
    rcases firstMem with isList | isItem | isList
    · exact Or.inl isList
    · exact Or.inr isItem
    · exact Or.inl isList
  · rintro chain root ref newRoot node next _ points nextMem ⟨rfl, known⟩
    rcases selfReferring_referenced known points with ⟨rfl, ⟨_, rfl⟩ | ⟨_, rfl⟩⟩
    · rw [refsOf_listNode] at nextMem
      refine ⟨rfl, ?_⟩
      simpa [or_comm] using nextMem
    · cases nextMem

def selfReferringRank (key : RefKey) : Nat :=
  if key.ref = "#/components/List" then 1 else 0

theorem selfReferring_contextFree :
    selfReferring.ContextFree asciiTables fun _ => true := by
  have ranked : selfReferring.Ranked asciiTables (fun _ => true) selfReferringRank := by
    intro chain root ref newRoot node next visits points nextMem
    rcases selfReferring_visits visits with ⟨rfl, known⟩
    rcases selfReferring_referenced known points with ⟨rfl, ⟨rfl, rfl⟩ | ⟨rfl, rfl⟩⟩
    · rw [refsOf_listNode] at nextMem
      simp only [List.mem_cons, List.not_mem_nil, or_false] at nextMem
      rcases nextMem with rfl | rfl
      · exact Or.inr (by decide)
      · exact Or.inl rfl
    · cases nextMem
  exact contextFree_of_ranked ranked

/-- What the list type resolves to at its own place. -/
def resolvedSelfReferring : JsonObject :=
  [ ("paths", .obj [("head", itemNode), ("tail", openObject)]),
    ("components", .obj
      [ ("List", .obj [("head", itemNode), ("tail", .obj [("head", itemNode), ("tail", openObject)])]),
        ("Item", itemNode) ]) ]

theorem resolve_iff_resolvePlain_selfReferring :
    ∃ depth, selfReferring.resolvePlain asciiTables (fun _ => true) depth =
      .ok resolvedSelfReferring :=
  (resolve_iff_resolvePlain selfReferring_contextFree resolvedSelfReferring).mp ⟨3, rfl⟩

/-- What remembering makes of two types that refer to each other. -/
def rememberedMutually : JsonObject :=
  [ ("a", .obj [("x", .obj [("y", openObject)])]),
    ("b", .obj [("y", openObject)]),
    ("d", .obj
      [ ("A", .obj [("x", .obj [("y", openObject)])]),
        ("B", .obj [("y", .obj [("x", .obj [("y", openObject)])])]) ]) ]

def expandedMutually : JsonObject :=
  [ ("a", .obj [("x", .obj [("y", openObject)])]),
    ("b", .obj [("y", .obj [("x", openObject)])]),
    ("d", .obj
      [ ("A", .obj [("x", .obj [("y", .obj [("x", openObject)])])]),
        ("B", .obj [("y", .obj [("x", .obj [("y", openObject)])])]) ]) ]

/-- What `b` resolves to depends on `a` having been resolved before. -/
theorem resolve_differs_mutuallyReferring :
    (mutuallyReferring.resolve asciiTables (fun _ => true) 4 {}).1 = .ok rememberedMutually ∧
      mutuallyReferring.resolvePlain asciiTables (fun _ => true) 4 = .ok expandedMutually ∧
      rememberedMutually ≠ expandedMutually := by
  refine ⟨rfl, rfl, ?_⟩
  simp [rememberedMutually, expandedMutually, openObject]

end RefResolver

end McpPortal
