import McpPortal.Sources.RefEnds
import McpPortal.Sources.RefLanding

/-!
# What a resolution comes to

A resolution ends. It returns a document without references or is refused, unless a lookup
raises another error, the document itself stands for something that is no mapping, or a
text comes to stand under `$ref`.
-/

namespace McpPortal

open Foundation

theorem RefFree.within {part value : Json} (free : RefFree value) (within : Within part value) :
    RefFree part :=
  fun fields inside => free fields (inside.trans within)

namespace RefResolver

variable {Access FetchError : Type} {unicode : PyUnicode} {acceptsNetloc : List Char → Bool}
  {resolver : RefResolver Access FetchError}

/-- A document without references, or a `RefError`. -/
def Settles : Except (ResolveException FetchError) JsonObject → Prop
  | .ok result => RefFree (.obj result)
  | .error error => ∃ refusal, error = .raised (.refused refusal)

/-- The first reference that is not found fails with something other than a `RefError`, or all
are found and one leads astray. -/
def Strays (unicode : PyUnicode) (acceptsNetloc : List Char → Bool)
    (resolver : RefResolver Access FetchError) : Prop :=
  (∃ error, (∀ refusal, error ≠ .raised (.refused refusal)) ∧
      resolver.FailsAmong unicode acceptsNetloc error [] resolver.entryRoot
        (refsOf (.obj resolver.root))) ∨
    ((∀ ref ∈ refsOf (.obj resolver.root),
        resolver.Resolves unicode acceptsNetloc [] resolver.entryRoot ref) ∧
      (resolver.LandsAside unicode acceptsNetloc ∨ resolver.Tainted unicode acceptsNetloc))

section Returned

variable {depth : Nat} {result : Json} {later : ResolverState Access}

theorem visits_entry {ref : String} (refMem : ref ∈ refsOf (.obj resolver.root)) :
    resolver.Visits unicode acceptsNetloc [] resolver.entryRoot ref :=
  ⟨ref, refMem, .here [] _ ref⟩

/-- What the walk of the entry document did. -/
theorem ranAll_entry {stands : DocumentRoot → String → Json → Prop}
    (isStands : resolver.Stands unicode acceptsNetloc stands)
    (walked : walk (resolver.resolveRef unicode acceptsNetloc depth [] resolver.entryRoot)
      (.obj resolver.root) {} = (.ok result, later)) :
    ∃ expanded, expanded.map Prod.fst = refsOf (.obj resolver.root) ∧
      Walked (stands resolver.entryRoot) (.obj resolver.root) result ∧
      (∀ ref value, (ref, value) ∈ expanded → Within value result) ∧
      resolver.RanAll unicode acceptsNetloc stands [] resolver.entryRoot expanded {} later :=
  RanAll.of_walk walked complete_initial fun _ refMem _ _ _ complete =>
    isStands.ran (visits_entry refMem) complete

/-- Every reference of a document that is resolved is found. -/
theorem resolves_of_walked
    (walked : walk (resolver.resolveRef unicode acceptsNetloc depth [] resolver.entryRoot)
      (.obj resolver.root) {} = (.ok result, later)) :
    ∀ ref ∈ refsOf (.obj resolver.root),
      resolver.Resolves unicode acceptsNetloc [] resolver.entryRoot ref := by
  rcases ranAll_entry stands_text walked with ⟨expanded, refs, _, _, all⟩
  intro ref refMem
  rw [← refs] at refMem
  exact all.complete.resolves (Or.inl rfl) (all.settled ref refMem)

/-- What the resolution comes to is walked to something within the result. -/
theorem Reaches.walked {root : DocumentRoot} {node : Json}
    (reaches : resolver.Reaches unicode acceptsNetloc root node)
    (walked : walk (resolver.resolveRef unicode acceptsNetloc depth [] resolver.entryRoot)
      (.obj resolver.root) {} = (.ok result, later)) :
    ∃ value, Walked (resolver.StandsForText unicode acceptsNetloc root) node value ∧
      Within value result := by
  rcases ranAll_entry stands_text walked with ⟨expanded, refs, walkedTo, within, all⟩
  rcases reaches with ⟨rfl, rfl⟩ | ⟨chain, outer, ref, visits, closed, points⟩
  · exact ⟨result, walkedTo, .here⟩
  · rcases visits with ⟨first, firstMem, meets⟩
    rw [← refs] at firstMem
    have settled := all.complete.settled_of_meets (Or.inl rfl) (all.settled first firstMem) meets
    rcases settled.resolve_left closed with ⟨value, found⟩
    rcases all.complete.expanded outer ref value (meets.genuine (Or.inl rfl)) found with
      ⟨newRoot, other, otherPoints, walkedNode, _⟩
    cases points.symm.trans otherPoints
    rcases all.within _ value found with initial | ⟨next, nextValue, mem, inside⟩
    · cases initial
    · exact ⟨value, walkedNode, inside.trans (within next nextValue mem)⟩

/-- Where the resolution comes to a tainted mapping, the result has a reference. -/
theorem Tainted.not_refFree (tainted : resolver.Tainted unicode acceptsNetloc)
    (walked : walk (resolver.resolveRef unicode acceptsNetloc depth [] resolver.entryRoot)
      (.obj resolver.root) {} = (.ok result, later)) : ¬RefFree result := by
  intro free
  rcases tainted with ⟨root, node, reaches, taintedNode⟩
  rcases reaches.walked walked with ⟨value, walkedNode, within⟩
  refine taintedNode.not_refFree ?_ walkedNode (free.within within)
  rintro ref refValue stands ⟨text, lands⟩
  exact ⟨text, (stands text).mpr lands⟩

/-- Where the resolution comes to no tainted mapping, the result has no reference. -/
theorem refFree_of_walked (untainted : ¬resolver.Tainted unicode acceptsNetloc)
    (walked : walk (resolver.resolveRef unicode acceptsNetloc depth [] resolver.entryRoot)
      (.obj resolver.root) {} = (.ok result, later)) : RefFree result := by
  rcases ranAll_entry (stands_refFree untainted) walked with ⟨_, _, walkedTo, _, _⟩
  apply walkedTo.refFree (fun _ _ stands => stands.1) fun _ _ stands => stands.2.landsAtText
  intro tainted
  exact untainted ⟨_, _, Or.inl ⟨rfl, rfl⟩, tainted⟩

/-- A document that stands for something other than a mapping is not resolved to a mapping. -/
theorem landsAside_iff
    (walked : walk (resolver.resolveRef unicode acceptsNetloc depth [] resolver.entryRoot)
      (.obj resolver.root) {} = (.ok result, later)) :
    resolver.LandsAside unicode acceptsNetloc ↔ ∀ fields, result ≠ .obj fields := by
  constructor
  · rintro ⟨ref, landing, isRef, lands⟩ fields
    simp only [walk, isRef] at walked
    apply lands.run (Or.inl rfl) _ _ walked
    · intro key isOpen
      cases isOpen
    · refine ⟨?_, rfl⟩
      intro target document found
      cases found
  · intro noMapping
    rcases ranAll_entry stands_aside walked with ⟨_, _, walkedTo, _, _⟩
    cases isRef : refOf? resolver.root with
    | some ref =>
        simp only [Walked, isRef] at walkedTo
        rcases walkedTo noMapping with ⟨landing, lands⟩
        exact ⟨ref, landing, isRef, lands⟩
    | none =>
        simp only [Walked, isRef] at walkedTo
        rcases walkedTo with ⟨values, _, rfl⟩
        exact absurd rfl (noMapping values)

end Returned

/-- A resolution is its walk, and what is asserted of the result. -/
theorem resolve_cases (resolver : RefResolver Access FetchError) (depth : Nat) :
    (∃ result later,
      walk (resolver.resolveRef unicode acceptsNetloc depth [] resolver.entryRoot)
        (.obj resolver.root) {} = (.ok result, later) ∧
      (resolver.resolve unicode acceptsNetloc depth {}).1 = assertObject result) ∨
    (∃ error later,
      walk (resolver.resolveRef unicode acceptsNetloc depth [] resolver.entryRoot)
        (.obj resolver.root) {} = (.error error, later) ∧
      (resolver.resolve unicode acceptsNetloc depth {}).1 = .error error) := by
  rcases walked : walk (resolver.resolveRef unicode acceptsNetloc depth [] resolver.entryRoot)
    (.obj resolver.root) {} with ⟨outcome, later⟩
  rw [resolve, Stateful.bind_run, walked]
  cases outcome with
  | ok result => exact Or.inl ⟨result, later, rfl, rfl⟩
  | error error => exact Or.inr ⟨error, later, rfl, rfl⟩

/-- No reference of the entry document is cut. -/
theorem Stands.walkedFrom_resolve {stands : DocumentRoot → String → Json → Prop}
    (isStands : resolver.Stands unicode acceptsNetloc stands) {depth : Nat} {result : JsonObject}
    (resolved : (resolver.resolve unicode acceptsNetloc depth {}).1 = .ok result) :
    Walked (resolver.WalkedFrom unicode acceptsNetloc stands resolver.entryRoot) (.obj resolver.root)
      (.obj result) := by
  rcases resolver.resolve_cases depth with
    ⟨left, later, walked, isResult⟩ | ⟨error, later, _, isError⟩
  · rw [isResult] at resolved
    cases left with
    | obj fields =>
        cases resolved
        exact isStands.walkedFrom_of_walk (fun ref refMem => visits_entry refMem) walked
    | _ => cases resolved
  · rw [isError] at resolved
    cases resolved

/-- A resolution that returns from its walk settles unless a reference leads astray. -/
theorem settles_assertObject_iff {depth : Nat} {result : Json} {later : ResolverState Access}
    (walked : walk (resolver.resolveRef unicode acceptsNetloc depth [] resolver.entryRoot)
      (.obj resolver.root) {} = (.ok result, later)) :
    Settles (assertObject result : Except (ResolveException FetchError) JsonObject) ↔
      ¬(resolver.LandsAside unicode acceptsNetloc ∨ resolver.Tainted unicode acceptsNetloc) := by
  rw [not_or, landsAside_iff walked]
  cases result with
  | obj fields =>
      constructor
      · intro free
        exact ⟨fun noMapping => noMapping fields rfl, fun tainted => tainted.not_refFree walked free⟩
      · rintro ⟨_, untainted⟩
        exact refFree_of_walked untainted walked
  | _ =>
      constructor
      · rintro ⟨refusal, isRefusal⟩
        cases isRefusal
      · rintro ⟨isMapping, _⟩
        exact absurd nofun isMapping

/-- A walk that fails within its depth fails with the first reference that is not found. -/
theorem failsAmong_of_walk {targets : List String} (covers : resolver.Covers targets) {depth : Nat}
    (enough : offPath (resolver.refKeys acceptsNetloc targets) [] < depth)
    {error : ResolveException FetchError} {later : ResolverState Access}
    (walked : walk (resolver.resolveRef unicode acceptsNetloc depth [] resolver.entryRoot)
      (.obj resolver.root) {} = (.error error, later)) :
    error ≠ .raised .recursionLimit ∧
      resolver.FailsAmong unicode acceptsNetloc error [] resolver.entryRoot
        (refsOf (.obj resolver.root)) := by
  rcases stands_text.stops (fun _ => visits_entry) complete_initial walked with
    ⟨earlier, next, after, middle, inOrder, nextMem, resolve, complete, failed⟩
  have ends := resolveRef_ends stands_text covers enough (visits_entry nextMem) complete failed
  have fails := (stands_text.failed (visits_entry nextMem) complete failed).resolve_left ends
  exact ⟨ends, earlier, next, after, inOrder, resolve, fails⟩

/-- A resolution ends, and it settles unless the document leads it astray. -/
theorem resolve_settles_iff (finite : resolver.FiniteFamily) :
    ∃ bound, ∀ depth, bound ≤ depth →
      (resolver.resolve unicode acceptsNetloc depth {}).1 ≠ .error (.raised .recursionLimit) ∧
      (Settles (resolver.resolve unicode acceptsNetloc depth {}).1 ↔
        ¬resolver.Strays unicode acceptsNetloc) := by
  rcases finite with ⟨targets, covers⟩
  refine ⟨offPath (resolver.refKeys acceptsNetloc targets) [] + 1, ?_⟩
  intro depth enough
  rcases resolve_cases resolver depth with
    ⟨result, later, walked, outcome⟩ | ⟨error, later, walked, outcome⟩
  · rw [outcome]
    have resolve := resolves_of_walked walked
    refine ⟨?_, ?_⟩
    · cases result <;> nofun
    · rw [settles_assertObject_iff walked]
      have noneFails : ∀ error, ¬resolver.FailsAmong unicode acceptsNetloc error []
          resolver.entryRoot (refsOf (.obj resolver.root)) :=
        fun error among => among.not_resolve resolve
      unfold Strays
      simp only [noneFails, and_false, exists_false, false_or, eq_true resolve, true_and]
  · rw [outcome]
    rcases failsAmong_of_walk covers enough walked with ⟨ends, among⟩
    refine ⟨fun isLimit => ends (Except.error.inj isLimit), ?_⟩
    constructor
    · rintro ⟨refusal, rfl⟩ (⟨other, notRefused, otherAmong⟩ | ⟨resolve, _⟩)
      · exact notRefused refusal (otherAmong.unique among)
      · exact among.not_resolve resolve
    · intro straight
      by_contra unsettled
      exact straight (Or.inl ⟨error, fun refusal isRefusal => unsettled ⟨refusal, isRefusal⟩, among⟩)

end RefResolver

/-- A document that refers to a type of a shared file, which refers to itself. -/
def sharedTypes : RefResolver Unit Unit where
  root := [("paths", refTo "types.json#/Tree")]
  allowExternal := true
  fetchExternal := some fun target =>
    { actions := []
      result :=
        if target = "types.json" then .ok [("Tree", .obj [("left", refTo "#/Tree")])] else .error () }

/-- A mapping whose `$ref` is a reference to a text. -/
def quotedReference : RefResolver Unit Unit where
  root := [("x", .obj [("$ref", refTo "#/a")]), ("a", .str "b")]
  allowExternal := false

namespace RefResolver

theorem covers_sharedTypes : sharedTypes.Covers ["types.json"] := by
  rintro fetchExternal isFetcher target document fetched
  cases isFetcher
  dsimp only at fetched
  split at fetched
  case isTrue isTypes => exact List.mem_singleton.mpr isTypes
  case isFalse => cases fetched

theorem resolve_settles_iff_sharedTypes :
    ∃ bound, ∀ depth, bound ≤ depth →
      (sharedTypes.resolve asciiTables (fun _ => true) depth {}).1 ≠
        .error (.raised .recursionLimit) ∧
      (Settles (sharedTypes.resolve asciiTables (fun _ => true) depth {}).1 ↔
        ¬sharedTypes.Strays asciiTables fun _ => true) :=
  resolve_settles_iff ⟨["types.json"], covers_sharedTypes⟩

/-- The text comes to stand under `$ref`, at whatever depth. -/
theorem resolve_leaves_reference :
    quotedReference.FiniteFamily ∧
      ¬∃ bound, ∀ depth, bound ≤ depth →
        Settles (quotedReference.resolve asciiTables (fun _ => true) depth {}).1 := by
  refine ⟨⟨[], nofun⟩, ?_⟩
  rintro ⟨bound, settles⟩
  have resolved : (quotedReference.resolve asciiTables (fun _ => true) (bound + 1) {}).1 =
      .ok [("x", refTo "b"), ("a", .str "b")] := rfl
  have settled := settles (bound + 1) (Nat.le_succ bound)
  rw [resolved] at settled
  cases settled [("$ref", .str "b")] (.field List.mem_cons_self .here)

end RefResolver

end McpPortal
