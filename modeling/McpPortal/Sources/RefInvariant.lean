import McpPortal.Sources.RefPlain

/-!
# What holds of every resolved value

What is resolved for a reference is the open object, or what the value it points to is
walked to. A relation between references and values that holds in these two cases holds
of everything that is resolved or remembered.
-/

namespace McpPortal

open Foundation

namespace RefResolver

variable {Access FetchError : Type} {unicode : PyUnicode} {acceptsNetloc : List Char → Bool}
  {resolver : RefResolver Access FetchError} {stands : DocumentRoot → String → Json → Prop}

/-- What is remembered stands for the references it is remembered for. -/
structure Remembers (acceptsNetloc : List Char → Bool) (resolver : RefResolver Access FetchError)
    (stands : DocumentRoot → String → Json → Prop) (state : ResolverState Access) : Prop where
  fetched : ∀ target document, Dict.get? state.externalCache target = some document →
    resolver.documentAt acceptsNetloc target = .ok { id := .external target, document }
  remembered : ∀ root ref value, resolver.Genuine acceptsNetloc root →
    Dict.get? state.resolvedCache (root.key ref) = some value → stands root ref value

theorem remembers_initial : resolver.Remembers acceptsNetloc stands {} := by
  constructor
  · intro target document found
    cases found
  · intro root ref value _ found
    cases found

theorem meets_targetRoot_remembers (root : DocumentRoot) (target : String) :
    Stateful.Meets (resolver.Remembers acceptsNetloc stands)
      (· = resolver.rootAt acceptsNetloc root target)
      (resolver.targetRoot acceptsNetloc root target) := by
  apply meets_targetRoot_of
  · intro state remembers
    exact ⟨remembers.fetched, rfl⟩
  · intro state later remembers fetches
    refine ⟨fetches.fetched, ?_⟩
    rw [fetches.remembered]
    exact remembers.remembered

theorem Remembers.remember {state : ResolverState Access} {root : DocumentRoot} {ref : String}
    {result : Json} (remembers : resolver.Remembers acceptsNetloc stands state)
    (genuine : resolver.Genuine acceptsNetloc root) (standsFor : stands root ref result) :
    resolver.Remembers acceptsNetloc stands
      { state with resolvedCache := Dict.insert state.resolvedCache (root.key ref) result } := by
  refine ⟨remembers.fetched, ?_⟩
  intro otherRoot otherRef value otherGenuine found
  rw [Dict.get?_insert] at found
  split at found
  case isTrue sameKey =>
    cases found
    simp only [DocumentRoot.key, RefKey.mk.injEq] at sameKey
    rcases sameKey with ⟨sameId, rfl⟩
    cases genuine.ext otherGenuine sameId
    exact standsFor
  case isFalse => exact remembers.remembered otherRoot otherRef value otherGenuine found

/-- A value that is returned stands for the reference. -/
def StandsOutcome (stands : Json → Prop) : Except (ResolveException FetchError) Json → Prop
  | .ok value => stands value
  | .error _ => True

/-- The open object stands for the references that are cut, and what a value is walked to stands
for the references that point to it. -/
structure Stands (unicode : PyUnicode) (acceptsNetloc : List Char → Bool)
    (resolver : RefResolver Access FetchError) (stands : DocumentRoot → String → Json → Prop) :
    Prop where
  cut : ∀ chain root ref, resolver.Visits unicode acceptsNetloc chain root ref →
    root.key ref ∈ chain → stands root ref openObject
  walked : ∀ chain root ref newRoot node result,
    resolver.Visits unicode acceptsNetloc chain root ref → root.key ref ∉ chain →
    resolver.referenced unicode acceptsNetloc root ref = .ok (newRoot, node) →
    Walked (stands newRoot) node result → stands root ref result

theorem Stands.meets_resolveRef (isStands : resolver.Stands unicode acceptsNetloc stands)
    (depth : Nat) {chain : List RefKey} {root : DocumentRoot} {ref : String}
    (visits : resolver.Visits unicode acceptsNetloc chain root ref) :
    Stateful.Meets (resolver.Remembers acceptsNetloc stands) (StandsOutcome (stands root ref))
      (resolver.resolveRef unicode acceptsNetloc depth chain root ref) := by
  induction depth generalizing chain root ref with
  | zero => exact Stateful.meets_raise trivial
  | succ depth ih =>
      unfold resolveRef
      split
      case isTrue isOpen =>
        apply Stateful.meets_update_bind
        · intro state remembers
          exact ⟨remembers.fetched, remembers.remembered⟩
        · exact Stateful.meets_pure (isStands.cut chain root ref visits isOpen)
      case isFalse closed =>
        apply Stateful.meets_read_bind fun cached => ∀ value, cached = some value →
          stands root ref value
        · intro state remembers value
          exact remembers.remembered root ref value visits.genuine
        · intro cached known
          cases cached with
          | some value => exact Stateful.meets_pure (known value rfl)
          | none =>
              rcases parts : splitRef ref with ⟨target, pointer⟩
              apply (meets_targetRoot_remembers root target).bind
              · intro newRoot located
                apply Stateful.meets_lift_bind
                · intro node found
                  have points : resolver.referenced unicode acceptsNetloc root ref =
                      .ok (newRoot, node) := by
                    simp only [referenced, parts, ← located, found, bind_eq_ok, pure_eq_ok,
                      Except.ok.injEq, exists_eq_left']
                  have expands := fun (next : String) (nextMem : next ∈ refsOf node) =>
                    ih (visits.inside closed points nextMem)
                  apply (meets_walk expands).bind
                  · intro result walked
                    have standsFor := isStands.walked chain root ref newRoot node result visits
                      closed points walked
                    apply Stateful.meets_update_bind
                    · intro state remembers
                      exact remembers.remember visits.genuine standsFor
                    · exact Stateful.meets_pure standsFor
                  · intro _ _
                    trivial
                · intro _ _
                  trivial
              · intro _ _
                trivial

/-- The whole document is walked to the result, with a value that stands for each reference. -/
theorem Stands.walked_resolve (isStands : resolver.Stands unicode acceptsNetloc stands)
    {depth : Nat} {result : JsonObject}
    (resolved : (resolver.resolve unicode acceptsNetloc depth {}).1 = .ok result) :
    Walked (stands resolver.entryRoot) (.obj resolver.root) (.obj result) := by
  have meets : Stateful.Meets (resolver.Remembers acceptsNetloc stands)
      (fun outcome => ∀ fields, outcome = .ok fields →
        Walked (stands resolver.entryRoot) (.obj resolver.root) (.obj fields))
      (resolver.resolve unicode acceptsNetloc depth) := by
    have expands : ∀ first ∈ refsOf (.obj resolver.root),
        Stateful.Meets (resolver.Remembers acceptsNetloc stands)
          (StandsOutcome (stands resolver.entryRoot first))
          (resolver.resolveRef unicode acceptsNetloc depth [] resolver.entryRoot first) := by
      intro first firstMem
      exact isStands.meets_resolveRef depth ⟨first, firstMem, .here [] _ first⟩
    apply (meets_walk expands).bind
    · intro walkedRoot walked
      apply Stateful.meets_lift
      intro fields asserted
      unfold assertObject at asserted
      split at asserted
      · cases asserted
        exact walked
      · cases asserted
    · intro error _ fields failed
      cases failed
  exact (meets {} remembers_initial).2 result resolved

end RefResolver

end McpPortal
