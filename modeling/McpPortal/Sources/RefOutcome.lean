import McpPortal.Sources.RefInvariant

/-!
# How references are found

Either every reference that is met is found, or there is a first that is not, in the order
of the traversal.
-/

namespace McpPortal

open Foundation

namespace RefResolver

variable {Access FetchError : Type}

section Found

variable (unicode : PyUnicode) (acceptsNetloc : List Char → Bool)
  (resolver : RefResolver Access FetchError)

/-- Every reference that is met and not cut is found. -/
def Resolves (chain : List RefKey) (root : DocumentRoot) (ref : String) : Prop :=
  ∀ later laterRoot laterRef,
    resolver.Meets unicode acceptsNetloc chain root ref later laterRoot laterRef →
    laterRoot.key laterRef ∉ later →
    ∃ found, resolver.referenced unicode acceptsNetloc laterRoot laterRef = .ok found

/-- The first reference that is not found, in the order in which they are met, fails with the
error. -/
inductive Fails (error : ResolveException FetchError) : List RefKey → DocumentRoot → String → Prop
  | here {chain : List RefKey} {root : DocumentRoot} {ref : String} (closed : root.key ref ∉ chain)
      (failed : resolver.referenced unicode acceptsNetloc root ref = .error error) :
      Fails error chain root ref
  | inside {chain : List RefKey} {root newRoot : DocumentRoot} {ref next : String} {node : Json}
      {before after : List String} (closed : root.key ref ∉ chain)
      (points : resolver.referenced unicode acceptsNetloc root ref = .ok (newRoot, node))
      (inOrder : refsOf node = before ++ next :: after)
      (earlier : ∀ other ∈ before,
        resolver.Resolves unicode acceptsNetloc (chain ++ [root.key ref]) newRoot other)
      (fails : Fails error (chain ++ [root.key ref]) newRoot next) : Fails error chain root ref

/-- The first of the references that does not resolve fails with the error. -/
def FailsAmong (error : ResolveException FetchError) (chain : List RefKey) (root : DocumentRoot)
    (refs : List String) : Prop :=
  ∃ before next after, refs = before ++ next :: after ∧
    (∀ other ∈ before, resolver.Resolves unicode acceptsNetloc chain root other) ∧
    resolver.Fails unicode acceptsNetloc error chain root next

end Found

section Facts

variable {unicode : PyUnicode} {acceptsNetloc : List Char → Bool}
  {resolver : RefResolver Access FetchError} {error : ResolveException FetchError}

theorem Resolves.inside {chain : List RefKey} {root newRoot : DocumentRoot} {ref next : String}
    {node : Json} (resolves : resolver.Resolves unicode acceptsNetloc chain root ref)
    (closed : root.key ref ∉ chain)
    (points : resolver.referenced unicode acceptsNetloc root ref = .ok (newRoot, node))
    (nextMem : next ∈ refsOf node) :
    resolver.Resolves unicode acceptsNetloc (chain ++ [root.key ref]) newRoot next := by
  intro later laterRoot laterRef meets
  exact resolves later laterRoot laterRef (.inside closed points nextMem meets)

theorem Resolves.not_fails {chain : List RefKey} {root : DocumentRoot} {ref : String}
    (resolves : resolver.Resolves unicode acceptsNetloc chain root ref) :
    ¬resolver.Fails unicode acceptsNetloc error chain root ref := by
  intro fails
  induction fails with
  | here closed failed =>
      rcases resolves _ _ _ (.here _ _ _) closed with ⟨found, points⟩
      cases failed.symm.trans points
  | inside closed points inOrder _ _ ih =>
      apply ih
      apply resolves.inside closed points
      rw [inOrder]
      exact List.mem_append_right _ List.mem_cons_self

/-- Of two splits of a list, one is at an earlier place, or both are at one place. -/
theorem splits_cases {Item : Type} {left right : List Item} {first second : Item}
    {leftRest rightRest : List Item}
    (same : left ++ first :: leftRest = right ++ second :: rightRest) :
    second ∈ left ∨ first ∈ right ∨ first = second := by
  rcases List.append_eq_append_iff.mp same with ⟨between, rfl, rest⟩ | ⟨between, rfl, rest⟩
  · cases between with
    | nil => exact Or.inr (Or.inr (List.cons.inj rest).1)
    | cons item between =>
        cases (List.cons.inj rest).1
        simp
  · cases between with
    | nil => exact Or.inr (Or.inr (List.cons.inj rest).1.symm)
    | cons item between =>
        cases (List.cons.inj rest).1
        simp

theorem Fails.unique {other : ResolveException FetchError} {chain : List RefKey}
    {root : DocumentRoot} {ref : String}
    (fails : resolver.Fails unicode acceptsNetloc error chain root ref)
    (otherFails : resolver.Fails unicode acceptsNetloc other chain root ref) : error = other := by
  induction fails with
  | here _ failed =>
      cases otherFails with
      | here _ otherFailed =>
          cases failed.symm.trans otherFailed
          rfl
      | inside _ points _ _ _ => cases failed.symm.trans points
  | inside _ points inOrder earlier fails ih =>
      cases otherFails with
      | here _ failed => cases failed.symm.trans points
      | inside _ otherPoints otherOrder otherEarlier otherFails =>
          cases points.symm.trans otherPoints
          rcases splits_cases (inOrder.symm.trans otherOrder) with later | earlierOne | rfl
          · exact absurd otherFails (earlier _ later).not_fails
          · exact absurd fails (otherEarlier _ earlierOne).not_fails
          · exact ih otherFails

theorem FailsAmong.not_resolve {chain : List RefKey} {root : DocumentRoot} {refs : List String}
    (fails : resolver.FailsAmong unicode acceptsNetloc error chain root refs) :
    ¬∀ ref ∈ refs, resolver.Resolves unicode acceptsNetloc chain root ref := by
  rintro resolve
  rcases fails with ⟨before, next, after, rfl, _, fails⟩
  exact (resolve next (List.mem_append_right _ List.mem_cons_self)).not_fails fails

theorem FailsAmong.unique {other : ResolveException FetchError} {chain : List RefKey}
    {root : DocumentRoot} {refs : List String}
    (fails : resolver.FailsAmong unicode acceptsNetloc error chain root refs)
    (otherFails : resolver.FailsAmong unicode acceptsNetloc other chain root refs) :
    error = other := by
  rcases fails with ⟨before, next, after, rfl, earlier, fails⟩
  rcases otherFails with ⟨_, _, _, otherOrder, otherEarlier, otherFails⟩
  rcases splits_cases otherOrder with later | earlierOne | rfl
  · exact absurd otherFails (earlier _ later).not_fails
  · exact absurd fails (otherEarlier _ earlierOne).not_fails
  · exact fails.unique otherFails

end Facts

end RefResolver

end McpPortal
