import Mathlib.Logic.Relation
import McpPortal.Sources.RefInvariant

/-!
# Circles of references

A reference is cut where it is met while it is open, so it lies on a circle: what it points
to contains it in the end. From a reference that leads to no circle nothing is cut.
-/

namespace McpPortal

open Foundation

namespace RefResolver

variable {Access FetchError : Type}

section Contained

variable (unicode : PyUnicode) (acceptsNetloc : List Char → Bool)
  (resolver : RefResolver Access FetchError)

/-- The second reference points to something that contains the first. -/
def ContainedIn (next ref : DocumentRoot × String) : Prop :=
  ∃ node, resolver.referenced unicode acceptsNetloc ref.1 ref.2 = .ok (next.1, node) ∧
    next.2 ∈ refsOf node

/-- References cannot be followed from it without an end. -/
def NonCircular (root : DocumentRoot) (ref : String) : Prop :=
  Acc (resolver.ContainedIn unicode acceptsNetloc) (root, ref)

end Contained

section Facts

variable {unicode : PyUnicode} {acceptsNetloc : List Char → Bool}
  {resolver : RefResolver Access FetchError}

theorem NonCircular.inside {root newRoot : DocumentRoot} {ref next : String} {node : Json}
    (nonCircular : resolver.NonCircular unicode acceptsNetloc root ref)
    (points : resolver.referenced unicode acceptsNetloc root ref = .ok (newRoot, node))
    (nextMem : next ∈ refsOf node) : resolver.NonCircular unicode acceptsNetloc newRoot next :=
  Acc.inv nonCircular ⟨node, points, nextMem⟩

/-- A reference is contained, at some depth, in what every open reference points to. -/
theorem Visits.contained {chain : List RefKey} {root : DocumentRoot} {ref : String}
    (visits : resolver.Visits unicode acceptsNetloc chain root ref) {key : RefKey} :
    key ∈ chain → ∃ outer : DocumentRoot × String, resolver.Genuine acceptsNetloc outer.1 ∧
      outer.1.key outer.2 = key ∧
      Relation.TransGen (resolver.ContainedIn unicode acceptsNetloc) (root, ref) outer := by
  refine Visits.induction (motive := fun chain root ref => key ∈ chain →
    ∃ outer : DocumentRoot × String, resolver.Genuine acceptsNetloc outer.1 ∧
      outer.1.key outer.2 = key ∧
      Relation.TransGen (resolver.ContainedIn unicode acceptsNetloc) (root, ref) outer) ?_ ?_ visits
  · intro first _ isOpen
    cases isOpen
  · intro chain root ref newRoot node next visits points nextMem ih isOpen
    have step : resolver.ContainedIn unicode acceptsNetloc (newRoot, next) (root, ref) :=
      ⟨node, points, nextMem⟩
    rcases List.mem_append.mp isOpen with earlier | here
    · rcases ih earlier with ⟨outer, genuine, isKey, contained⟩
      exact ⟨outer, genuine, isKey, .head step contained⟩
    · cases List.mem_singleton.mp here
      exact ⟨(root, ref), visits.genuine, rfl, .single step⟩

theorem not_self_of_acc {State : Type} {before : State → State → Prop} {state : State}
    (accessible : Acc before state) : ¬before state state := by
  induction accessible with
  | intro state _ ih => exact fun self => ih state self self

/-- A reference that is not circular is never met while it is open. -/
theorem NonCircular.closed {chain : List RefKey} {root : DocumentRoot} {ref : String}
    (nonCircular : resolver.NonCircular unicode acceptsNetloc root ref)
    (visits : resolver.Visits unicode acceptsNetloc chain root ref) : root.key ref ∉ chain := by
  intro isOpen
  rcases visits.contained isOpen with ⟨⟨outerRoot, outerRef⟩, genuine, sameKey, contained⟩
  simp only [DocumentRoot.key, RefKey.mk.injEq] at sameKey
  rcases sameKey with ⟨sameId, rfl⟩
  cases genuine.ext visits.genuine sameId
  exact not_self_of_acc (Acc.transGen nonCircular) contained

end Facts

end RefResolver

end McpPortal
