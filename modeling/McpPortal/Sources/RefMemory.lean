import McpPortal.Sources.RefOutcome
import McpPortal.Sources.RefRuns

/-!
# Remembered results

Remembered results are those of references that were expanded to the end, so everything
they contain is remembered too or still open. They are all within the value that is returned.
-/

namespace McpPortal

open Foundation

namespace RefResolver

variable {Access FetchError : Type}

section Memory

/-- Something is remembered for the key. -/
def Known (state : ResolverState Access) (key : RefKey) : Prop :=
  ∃ value, Dict.get? state.resolvedCache key = some value

/-- What is remembered was expanded to the end: every reference in it is remembered too, or open. -/
structure Complete (unicode : PyUnicode) (acceptsNetloc : List Char → Bool)
    (resolver : RefResolver Access FetchError) (stands : DocumentRoot → String → Json → Prop)
    (chain : List RefKey) (state : ResolverState Access) : Prop where
  remembers : resolver.Remembers acceptsNetloc stands state
  expanded : ∀ root ref value, resolver.Genuine acceptsNetloc root →
    Dict.get? state.resolvedCache (root.key ref) = some value →
    ∃ newRoot node, resolver.referenced unicode acceptsNetloc root ref = .ok (newRoot, node) ∧
      Walked (stands newRoot) node value ∧
      ∀ next ∈ refsOf node, newRoot.key next ∈ chain ∨ Known state (newRoot.key next)

variable {unicode : PyUnicode} {acceptsNetloc : List Char → Bool}
  {resolver : RefResolver Access FetchError} {stands : DocumentRoot → String → Json → Prop}
  {chain : List RefKey} {state later : ResolverState Access}

theorem complete_initial : resolver.Complete unicode acceptsNetloc stands chain {} := by
  refine ⟨remembers_initial, ?_⟩
  intro root ref value _ found
  cases found

theorem Complete.keepsFetched
    (complete : resolver.Complete unicode acceptsNetloc stands chain state) :
    resolver.KeepsFetched acceptsNetloc state :=
  ⟨complete.remembers.fetched, rfl⟩

theorem Complete.append (complete : resolver.Complete unicode acceptsNetloc stands chain state)
    (more : List RefKey) :
    resolver.Complete unicode acceptsNetloc stands (chain ++ more) state := by
  refine ⟨complete.remembers, ?_⟩
  intro root ref value genuine found
  rcases complete.expanded root ref value genuine found with ⟨newRoot, node, points, walked, settled⟩
  refine ⟨newRoot, node, points, walked, ?_⟩
  intro next nextMem
  exact (settled next nextMem).imp_left (List.mem_append_left more)

/-- Finding a document leaves what is remembered alone. -/
theorem Complete.fetches (complete : resolver.Complete unicode acceptsNetloc stands chain state)
    (fetches : resolver.Fetches acceptsNetloc state.resolvedCache later) :
    resolver.Complete unicode acceptsNetloc stands chain later := by
  have same := fetches.remembered
  refine ⟨⟨fetches.fetched, ?_⟩, ?_⟩
  · rw [same]
    exact complete.remembers.remembered
  · unfold Known
    rw [same]
    exact complete.expanded

theorem known_remember {key other : RefKey} {result : Json} :
    Known (remember state key result) other ↔ other = key ∨ Known state other := by
  unfold Known remember
  rw [Dict.get?_insert]
  split
  case isTrue same => simp [same]
  case isFalse differs => simp [Ne.symm differs]

/-- A reference that was expanded is closed, and remembered from then on. -/
theorem Complete.remember {root newRoot : DocumentRoot} {ref : String} {node value : Json}
    (complete : resolver.Complete unicode acceptsNetloc stands (chain ++ [root.key ref]) state)
    (genuine : resolver.Genuine acceptsNetloc root) (standsFor : stands root ref value)
    (points : resolver.referenced unicode acceptsNetloc root ref = .ok (newRoot, node))
    (walked : Walked (stands newRoot) node value)
    (settled : ∀ next ∈ refsOf node,
      newRoot.key next ∈ chain ++ [root.key ref] ∨ Known state (newRoot.key next)) :
    resolver.Complete unicode acceptsNetloc stands chain
      (RefResolver.remember state (root.key ref) value) := by
  refine ⟨complete.remembers.remember genuine standsFor, ?_⟩
  have closes : ∀ key, key ∈ chain ++ [root.key ref] ∨ Known state key →
      key ∈ chain ∨ Known (RefResolver.remember state (root.key ref) value) key := by
    intro key
    rw [known_remember, List.mem_append, List.mem_singleton]
    tauto
  intro otherRoot otherRef otherValue otherGenuine found
  simp only [RefResolver.remember, Dict.get?_insert] at found
  split at found
  case isTrue sameKey =>
    cases found
    simp only [DocumentRoot.key, RefKey.mk.injEq] at sameKey
    rcases sameKey with ⟨sameId, rfl⟩
    cases genuine.ext otherGenuine sameId
    exact ⟨newRoot, node, points, walked, fun next nextMem => closes _ (settled next nextMem)⟩
  case isFalse =>
    rcases complete.expanded otherRoot otherRef otherValue otherGenuine found with
      ⟨otherNewRoot, otherNode, otherPoints, otherWalked, otherSettled⟩
    exact ⟨otherNewRoot, otherNode, otherPoints, otherWalked,
      fun next nextMem => closes _ (otherSettled next nextMem)⟩

/-- Every reference that is met from what is remembered is remembered too, or cut. -/
theorem Complete.settled_of_meets
    (complete : resolver.Complete unicode acceptsNetloc stands chain state)
    {root laterRoot : DocumentRoot} {ref laterRef : String} {laterChain : List RefKey}
    (genuine : resolver.Genuine acceptsNetloc root)
    (settled : root.key ref ∈ chain ∨ Known state (root.key ref))
    (meets : resolver.Meets unicode acceptsNetloc chain root ref laterChain laterRoot laterRef) :
    laterRoot.key laterRef ∈ laterChain ∨ Known state (laterRoot.key laterRef) := by
  induction meets with
  | here => exact settled
  | inside closed points nextMem _ ih =>
      rcases settled.resolve_left closed with ⟨value, found⟩
      rcases complete.expanded _ _ value genuine found with ⟨_, _, otherPoints, _, inside⟩
      cases points.symm.trans otherPoints
      apply ih (complete.append _) (genuine.referenced points)
      exact (inside _ nextMem).imp_left (List.mem_append_left _)

/-- Every reference in what is remembered is found. -/
theorem Complete.resolves (complete : resolver.Complete unicode acceptsNetloc stands chain state)
    {root : DocumentRoot} {ref : String} (genuine : resolver.Genuine acceptsNetloc root)
    (settled : root.key ref ∈ chain ∨ Known state (root.key ref)) :
    resolver.Resolves unicode acceptsNetloc chain root ref := by
  intro later laterRoot laterRef meets closed
  have known := (complete.settled_of_meets genuine settled meets).resolve_left closed
  rcases known with ⟨value, found⟩
  rcases complete.expanded _ _ value (meets.genuine genuine) found with ⟨newRoot, node, points, _⟩
  exact ⟨_, points⟩

end Memory

section Runs

/-- The value is what the reference points to, walked. -/
def WalkedFrom (unicode : PyUnicode) (acceptsNetloc : List Char → Bool)
    (resolver : RefResolver Access FetchError) (stands : DocumentRoot → String → Json → Prop)
    (root : DocumentRoot) (ref : String) (value : Json) : Prop :=
  ∃ newRoot node, resolver.referenced unicode acceptsNetloc root ref = .ok (newRoot, node) ∧
    Walked (stands newRoot) node value

/-- What a run that returned did: the reference is remembered or open, nothing is forgotten,
and what was remembered meanwhile is within the value. -/
structure Ran (unicode : PyUnicode) (acceptsNetloc : List Char → Bool)
    (resolver : RefResolver Access FetchError) (stands : DocumentRoot → String → Json → Prop)
    (chain : List RefKey) (root : DocumentRoot) (ref : String) (value : Json)
    (state later : ResolverState Access) : Prop where
  complete : resolver.Complete unicode acceptsNetloc stands chain later
  walkedFrom : root.key ref ∈ chain ∨ resolver.WalkedFrom unicode acceptsNetloc stands root ref value
  stands : stands root ref value
  settled : root.key ref ∈ chain ∨ Known later (root.key ref)
  grows : ∀ key, Known state key → Known later key
  within : ∀ key part, Dict.get? later.resolvedCache key = some part →
    Dict.get? state.resolvedCache key = some part ∨ Within part value

/-- What several runs after one another did. -/
structure RanAll (unicode : PyUnicode) (acceptsNetloc : List Char → Bool)
    (resolver : RefResolver Access FetchError) (stands : DocumentRoot → String → Json → Prop)
    (chain : List RefKey) (root : DocumentRoot) (expanded : List (String × Json))
    (state later : ResolverState Access) : Prop where
  complete : resolver.Complete unicode acceptsNetloc stands chain later
  walkedFrom : ∀ ref value, (ref, value) ∈ expanded →
    root.key ref ∈ chain ∨ resolver.WalkedFrom unicode acceptsNetloc stands root ref value
  stands : ∀ ref value, (ref, value) ∈ expanded → stands root ref value
  settled : ∀ ref ∈ expanded.map Prod.fst, root.key ref ∈ chain ∨ Known later (root.key ref)
  grows : ∀ key, Known state key → Known later key
  within : ∀ key part, Dict.get? later.resolvedCache key = some part →
    Dict.get? state.resolvedCache key = some part ∨
      ∃ ref value, (ref, value) ∈ expanded ∧ Within part value

variable {unicode : PyUnicode} {acceptsNetloc : List Char → Bool}
  {resolver : RefResolver Access FetchError} {stands : DocumentRoot → String → Json → Prop}
  {state later : ResolverState Access}

theorem RanAll.of_expandsAll {chain : List RefKey} {root : DocumentRoot}
    {expand : String → Resolving Access FetchError Json} {expanded : List (String × Json)}
    (expands : ExpandsAll expand state expanded later)
    (complete : resolver.Complete unicode acceptsNetloc stands chain state)
    (ran : ∀ ref ∈ expanded.map Prod.fst, ∀ state value later,
      resolver.Complete unicode acceptsNetloc stands chain state →
      expand ref state = (.ok value, later) →
      resolver.Ran unicode acceptsNetloc stands chain root ref value state later) :
    resolver.RanAll unicode acceptsNetloc stands chain root expanded state later := by
  induction expands with
  | nil state =>
      refine ⟨complete, ?_, ?_, ?_, fun _ known => known, fun _ _ found => Or.inl found⟩
      · intro ref value mem
        cases mem
      · intro ref value mem
        cases mem
      · intro ref mem
        cases mem
  | @cons state middle later ref value rest expandsFirst _ ih =>
      rw [List.map_cons, List.forall_mem_cons] at ran
      have first := ran.1 state value middle complete expandsFirst
      have others := ih first.complete ran.2
      refine ⟨others.complete, ?_, ?_, ?_,
        fun key known => others.grows key (first.grows key known), ?_⟩
      · intro other otherValue mem
        rcases List.mem_cons.mp mem with isFirst | isLater
        · cases isFirst
          exact first.walkedFrom
        · exact others.walkedFrom other otherValue isLater
      · intro other otherValue mem
        rcases List.mem_cons.mp mem with isFirst | isLater
        · cases isFirst
          exact first.stands
        · exact others.stands other otherValue isLater
      · rw [List.map_cons, List.forall_mem_cons]
        exact ⟨first.settled.imp_right (others.grows _), others.settled⟩
      · intro key part found
        rcases others.within key part found with earlier | ⟨other, otherValue, mem, within⟩
        · rcases first.within key part earlier with before | within
          · exact Or.inl before
          · exact Or.inr ⟨ref, value, List.mem_cons_self, within⟩
        · exact Or.inr ⟨other, otherValue, List.mem_cons_of_mem _ mem, within⟩

/-- What the walk of a node did. -/
theorem RanAll.of_walk {chain : List RefKey} {root : DocumentRoot} {node result : Json}
    {expand : String → Resolving Access FetchError Json}
    (walked : walk expand node state = (.ok result, later))
    (complete : resolver.Complete unicode acceptsNetloc stands chain state)
    (ran : ∀ ref ∈ refsOf node, ∀ state value later,
      resolver.Complete unicode acceptsNetloc stands chain state →
      expand ref state = (.ok value, later) →
      resolver.Ran unicode acceptsNetloc stands chain root ref value state later) :
    ∃ expanded, expanded.map Prod.fst = refsOf node ∧ Walked (stands root) node result ∧
      (∀ ref value, (ref, value) ∈ expanded → Within value result) ∧
      resolver.RanAll unicode acceptsNetloc stands chain root expanded state later := by
  rcases walk_run_ok walked with ⟨expanded, refs, expands, walkedTo, within⟩
  rw [← refs] at ran
  have all := RanAll.of_expandsAll expands complete ran
  exact ⟨expanded, refs, walkedTo.mono fun ref _ value => all.stands ref value, within, all⟩

/-- A call that returns has done what a run does. -/
theorem Stands.ran (isStands : resolver.Stands unicode acceptsNetloc stands) {depth : Nat}
    {chain : List RefKey} {root : DocumentRoot} {ref : String} {value : Json}
    (visits : resolver.Visits unicode acceptsNetloc chain root ref)
    (complete : resolver.Complete unicode acceptsNetloc stands chain state)
    (ran : resolver.resolveRef unicode acceptsNetloc depth chain root ref state =
      (.ok value, later)) :
    resolver.Ran unicode acceptsNetloc stands chain root ref value state later := by
  induction depth generalizing chain root ref value state later with
  | zero => cases ran
  | succ depth ih =>
      rcases resolveRef_run_ok complete.keepsFetched ran with
        ⟨isOpen, rfl, sameResolved, sameExternal⟩ | ⟨_, rfl, found⟩ |
          ⟨closed, newRoot, node, before, after, lookedUp, walked, rfl⟩
      · have fetches : resolver.Fetches acceptsNetloc state.resolvedCache later := by
          refine ⟨?_, sameResolved⟩
          rw [sameExternal]
          exact complete.remembers.fetched
        refine ⟨complete.fetches fetches, Or.inl isOpen, isStands.cut chain root ref visits isOpen,
          Or.inl isOpen, ?_, ?_⟩
        · intro key known
          rwa [Known, sameResolved]
        · intro key part found
          rw [sameResolved] at found
          exact Or.inl found
      · rcases complete.expanded root ref value visits.genuine found with
          ⟨newRoot, node, points, walkedTo, _⟩
        exact ⟨complete, Or.inr ⟨newRoot, node, points, walkedTo⟩,
          complete.remembers.remembered root ref value visits.genuine found,
          Or.inr ⟨value, found⟩, fun _ known => known, fun _ _ found => Or.inl found⟩
      · have inside := (complete.fetches lookedUp.fetches).append [root.key ref]
        rcases RanAll.of_walk walked inside fun next nextMem state value later complete ran =>
            ih (visits.inside closed lookedUp.points nextMem) complete ran with
          ⟨expanded, refs, walkedTo, within, all⟩
        have settled := all.settled
        rw [refs] at settled
        have standsFor := isStands.walked chain root ref newRoot node value visits closed
          lookedUp.points walkedTo
        refine ⟨all.complete.remember visits.genuine standsFor lookedUp.points walkedTo settled,
          Or.inr ⟨newRoot, node, lookedUp.points, walkedTo⟩, standsFor,
          Or.inr (known_remember.mpr (Or.inl rfl)), ?_, ?_⟩
        · intro key known
          apply known_remember.mpr
          right
          apply all.grows
          rwa [Known, lookedUp.fetches.remembered]
        · intro key part found
          rw [remember, Dict.get?_insert] at found
          split at found
          case isTrue =>
            cases found
            exact Or.inr .here
          case isFalse =>
            rcases all.within key part found with before | ⟨next, nextValue, mem, inNext⟩
            · rw [lookedUp.fetches.remembered] at before
              exact Or.inl before
            · exact Or.inr (inNext.trans (within next nextValue mem))

/-- A walk that starts with nothing open cuts no reference. -/
theorem Stands.walkedFrom_of_walk (isStands : resolver.Stands unicode acceptsNetloc stands)
    {depth : Nat} {root : DocumentRoot} {node result : Json}
    (visits : ∀ ref ∈ refsOf node, resolver.Visits unicode acceptsNetloc [] root ref)
    (walked : walk (resolver.resolveRef unicode acceptsNetloc depth [] root) node {} =
      (.ok result, later)) :
    Walked (resolver.WalkedFrom unicode acceptsNetloc stands root) node result := by
  rcases walk_run_ok walked with ⟨expanded, refs, expands, walkedTo, _⟩
  rw [← refs] at visits
  have all := RanAll.of_expandsAll expands complete_initial fun ref refMem _ _ _ complete =>
    isStands.ran (visits ref refMem) complete
  apply walkedTo.mono
  intro ref _ value mem
  exact (all.walkedFrom ref value mem).resolve_left List.not_mem_nil

/-- A walk that fails stops at a reference that fails, and those before it resolve. -/
theorem Stands.stops (isStands : resolver.Stands unicode acceptsNetloc stands) {depth : Nat}
    {chain : List RefKey} {root : DocumentRoot} {node : Json}
    {error : ResolveException FetchError}
    (visits : ∀ ref ∈ refsOf node, resolver.Visits unicode acceptsNetloc chain root ref)
    (complete : resolver.Complete unicode acceptsNetloc stands chain state)
    (ran : walk (resolver.resolveRef unicode acceptsNetloc depth chain root) node state =
      (.error error, later)) :
    ∃ earlier next after middle, refsOf node = earlier ++ next :: after ∧
      next ∈ refsOf node ∧
      (∀ other ∈ earlier, resolver.Resolves unicode acceptsNetloc chain root other) ∧
      resolver.Complete unicode acceptsNetloc stands chain middle ∧
      resolver.resolveRef unicode acceptsNetloc depth chain root next middle =
        (.error error, later) := by
  rcases walk_run_error ran with ⟨expanded, next, after, middle, inOrder, expands, stopped⟩
  have all := RanAll.of_expandsAll expands complete fun ref refMem state value later complete =>
    isStands.ran (visits ref (inOrder ▸ List.mem_append_left _ refMem)) complete
  have nextMem : next ∈ refsOf node := by
    rw [inOrder]
    exact List.mem_append_right _ List.mem_cons_self
  refine ⟨_, next, after, middle, inOrder, nextMem, ?_, all.complete, stopped⟩
  intro other otherMem
  have genuine := (visits other (inOrder ▸ List.mem_append_left _ otherMem)).genuine
  exact all.complete.resolves genuine (all.settled other otherMem)

/-- A call that fails ran into the recursion limit, or into the first reference that is not
found. -/
theorem Stands.failed (isStands : resolver.Stands unicode acceptsNetloc stands) {depth : Nat}
    {chain : List RefKey} {root : DocumentRoot} {ref : String}
    {error : ResolveException FetchError}
    (visits : resolver.Visits unicode acceptsNetloc chain root ref)
    (complete : resolver.Complete unicode acceptsNetloc stands chain state)
    (ran : resolver.resolveRef unicode acceptsNetloc depth chain root ref state =
      (.error error, later)) :
    error = .raised .recursionLimit ∨ resolver.Fails unicode acceptsNetloc error chain root ref := by
  induction depth generalizing chain root ref state later with
  | zero =>
      cases ran
      exact Or.inl rfl
  | succ depth ih =>
      rcases resolveRef_run_error complete.keepsFetched ran with
        ⟨closed, notFound | ⟨newRoot, node, before, lookedUp, stopped⟩⟩
      · exact Or.inr (.here closed notFound)
      · have visitsNext := fun (next : String) (nextMem : next ∈ refsOf node) =>
          visits.inside closed lookedUp.points nextMem
        have inside := (complete.fetches lookedUp.fetches).append [root.key ref]
        rcases isStands.stops visitsNext inside stopped with
          ⟨earlier, next, after, middle, inOrder, nextMem, resolve, nextComplete, nextFailed⟩
        refine (ih (visitsNext next nextMem) nextComplete nextFailed).imp_right fun fails => ?_
        exact .inside closed lookedUp.points inOrder resolve fails

end Runs

end RefResolver

end McpPortal
