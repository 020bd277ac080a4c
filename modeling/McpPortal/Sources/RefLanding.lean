import McpPortal.Sources.RefCircles
import McpPortal.Sources.RefFree
import McpPortal.Sources.RefRuns

/-!
# What references lead to

What a reference points to may be a reference again. Followed to the end they lead to a
mapping or to another value, and a text they lead to may come to stand under `$ref`.
-/

namespace McpPortal

open Foundation

/-- Only mappings are walked to mappings. -/
theorem Walked.noMapping {related : String → Json → Prop} {node result : Json}
    (walked : Walked related node result) (noMapping : ∀ fields, node ≠ .obj fields)
    (fields : JsonObject) : result ≠ .obj fields := by
  cases node with
  | obj inner => exact absurd rfl (noMapping inner)
  | arr items =>
      rcases walked with ⟨values, _, rfl⟩
      nofun
  | _ =>
      cases walked
      nofun

namespace RefResolver

variable {Access FetchError : Type}

section Lands

variable (unicode : PyUnicode) (acceptsNetloc : List Char → Bool)
  (resolver : RefResolver Access FetchError)

/-- The reference leads to the value, which is no mapping, through references alone. -/
inductive Lands : DocumentRoot → String → Json → Prop
  | here {root newRoot : DocumentRoot} {ref : String} {value : Json}
      (points : resolver.referenced unicode acceptsNetloc root ref = .ok (newRoot, value))
      (noMapping : ∀ fields, value ≠ .obj fields) : Lands root ref value
  | onward {root newRoot : DocumentRoot} {ref next : String} {fields : JsonObject} {value : Json}
      (points : resolver.referenced unicode acceptsNetloc root ref = .ok (newRoot, .obj fields))
      (isRef : refOf? fields = some next) (lands : Lands newRoot next value) : Lands root ref value

/-- The reference leads to a text. -/
def LandsAtText (root : DocumentRoot) (ref : String) : Prop :=
  ∃ text, resolver.Lands unicode acceptsNetloc root ref (.str text)

/-- The resolution comes to the value: the entry document, or what a reference points to that
is met and not cut. -/
def Reaches (root : DocumentRoot) (node : Json) : Prop :=
  (root = resolver.entryRoot ∧ node = .obj resolver.root) ∨
    ∃ chain outer ref, resolver.Visits unicode acceptsNetloc chain outer ref ∧
      outer.key ref ∉ chain ∧ resolver.referenced unicode acceptsNetloc outer ref = .ok (root, node)

/-- The resolution comes to a mapping whose `$ref` is a reference that leads to a text. -/
def Tainted : Prop :=
  ∃ root node, resolver.Reaches unicode acceptsNetloc root node ∧
    TaintedBy (resolver.LandsAtText unicode acceptsNetloc root) node

/-- The entry document is a reference that leads to something other than a mapping. -/
def LandsAside : Prop :=
  ∃ ref value, refOf? resolver.root = some ref ∧
    resolver.Lands unicode acceptsNetloc resolver.entryRoot ref value

end Lands

section Facts

variable {unicode : PyUnicode} {acceptsNetloc : List Char → Bool}
  {resolver : RefResolver Access FetchError}

theorem refsOf_of_refOf? {fields : JsonObject} {ref : String} (isRef : refOf? fields = some ref) :
    refsOf (.obj fields) = [ref] := by
  simp only [refsOf, isRef]

theorem Lands.noMapping {root : DocumentRoot} {ref : String} {value : Json}
    (lands : resolver.Lands unicode acceptsNetloc root ref value) (fields : JsonObject) :
    value ≠ .obj fields := by
  induction lands with
  | here _ noMapping => exact noMapping fields
  | onward _ _ _ ih => exact ih

/-- A reference that leads to a text lies on no circle. -/
theorem Lands.nonCircular {root : DocumentRoot} {ref : String} {value : Json}
    (lands : resolver.Lands unicode acceptsNetloc root ref value) (noRefs : refsOf value = []) :
    resolver.NonCircular unicode acceptsNetloc root ref := by
  induction lands with
  | here points _ =>
      refine Acc.intro _ ?_
      rintro ⟨otherRoot, next⟩ ⟨node, otherPoints, nextMem⟩
      cases points.symm.trans otherPoints
      rw [noRefs] at nextMem
      cases nextMem
  | onward points isRef _ ih =>
      refine Acc.intro _ ?_
      rintro ⟨otherRoot, next⟩ ⟨node, otherPoints, nextMem⟩
      cases points.symm.trans otherPoints
      rw [refsOf_of_refOf? isRef] at nextMem
      cases List.mem_singleton.mp nextMem
      exact ih noRefs

/-- A reference is resolved to a text if it leads to that text. -/
def StandsForText (unicode : PyUnicode) (acceptsNetloc : List Char → Bool)
    (resolver : RefResolver Access FetchError) (root : DocumentRoot) (ref : String) (value : Json) :
    Prop :=
  ∀ text, value = .str text ↔ resolver.Lands unicode acceptsNetloc root ref (.str text)

theorem lands_of_walked_text {root newRoot : DocumentRoot} {ref text : String} {node : Json}
    (points : resolver.referenced unicode acceptsNetloc root ref = .ok (newRoot, node))
    (walked : Walked (resolver.StandsForText unicode acceptsNetloc newRoot) node (.str text)) :
    resolver.Lands unicode acceptsNetloc root ref (.str text) := by
  cases node with
  | obj fields =>
      cases isRef : refOf? fields with
      | some next =>
          simp only [Walked, isRef] at walked
          exact .onward points isRef ((walked text).mp rfl)
      | none => simp only [Walked, isRef, reduceCtorEq, and_false, exists_false] at walked
  | arr items =>
      rcases walked with ⟨_, _, isText⟩
      cases isText
  | str other =>
      cases walked
      refine .here points ?_
      intro fields isMapping
      cases isMapping
  | _ => cases walked

theorem stands_text : resolver.Stands unicode acceptsNetloc
    (resolver.StandsForText unicode acceptsNetloc) where
  cut := by
    intro chain root ref visits isOpen text
    constructor
    · intro isText
      cases isText
    · intro lands
      exact absurd isOpen ((lands.nonCircular rfl).closed visits)
  walked := by
    intro chain root ref newRoot node result _ _ points walked text
    constructor
    · rintro rfl
      exact lands_of_walked_text points walked
    · intro lands
      cases lands with
      | here otherPoints _ =>
          cases points.symm.trans otherPoints
          exact walked.symm
      | onward otherPoints isRef lands =>
          cases points.symm.trans otherPoints
          simp only [Walked, isRef] at walked
          exact (walked text).mpr lands

theorem StandsForText.landsAtText {root : DocumentRoot} {ref text : String}
    (stands : resolver.StandsForText unicode acceptsNetloc root ref (.str text)) :
    resolver.LandsAtText unicode acceptsNetloc root ref :=
  ⟨text, (stands text).mp rfl⟩

/-- If the resolution comes to no tainted mapping, what is resolved has no reference. -/
theorem stands_refFree (untainted : ¬resolver.Tainted unicode acceptsNetloc) :
    resolver.Stands unicode acceptsNetloc fun root ref value =>
      RefFree value ∧ resolver.StandsForText unicode acceptsNetloc root ref value where
  cut := by
    intro chain root ref visits isOpen
    exact ⟨refFree_openObject, stands_text.cut chain root ref visits isOpen⟩
  walked := by
    intro chain root ref newRoot node result visits closed points walked
    refine ⟨?_, ?_⟩
    · apply walked.refFree (fun _ _ stands => stands.1) fun _ _ stands => stands.2.landsAtText
      intro tainted
      exact untainted ⟨newRoot, node, Or.inr ⟨chain, root, ref, visits, closed, points⟩, tainted⟩
    · exact stands_text.walked chain root ref newRoot node result visits closed points
        (walked.mono fun _ _ _ stands => stands.2)

/-- A reference is resolved to something other than a mapping if it leads to such a value. -/
theorem stands_aside : resolver.Stands unicode acceptsNetloc fun root ref value =>
    (∀ fields, value ≠ .obj fields) →
      ∃ landing, resolver.Lands unicode acceptsNetloc root ref landing where
  cut := by
    intro chain root ref _ _ noMapping
    exact absurd rfl (noMapping _)
  walked := by
    intro chain root ref newRoot node result _ _ points walked noMapping
    cases node with
    | obj fields =>
        cases isRef : refOf? fields with
        | some next =>
            simp only [Walked, isRef] at walked
            rcases walked noMapping with ⟨landing, lands⟩
            exact ⟨landing, .onward points isRef lands⟩
        | none =>
            simp only [Walked, isRef] at walked
            rcases walked with ⟨values, _, rfl⟩
            exact absurd rfl (noMapping values)
    | _ => exact ⟨_, .here points nofun⟩

/-- The first reference is all that the second points to. -/
def Onward (unicode : PyUnicode) (acceptsNetloc : List Char → Bool)
    (resolver : RefResolver Access FetchError) (next ref : DocumentRoot × String) : Prop :=
  ∃ fields, resolver.referenced unicode acceptsNetloc ref.1 ref.2 = .ok (next.1, .obj fields) ∧
    refOf? fields = some next.2

/-- References that lead to something other than a mapping do not come back. -/
theorem Lands.acc_onward {root : DocumentRoot} {ref : String} {value : Json}
    (lands : resolver.Lands unicode acceptsNetloc root ref value) :
    Acc (resolver.Onward unicode acceptsNetloc) (root, ref) := by
  induction lands with
  | here points noMapping =>
      refine Acc.intro _ ?_
      rintro ⟨otherRoot, next⟩ ⟨fields, otherPoints, _⟩
      cases points.symm.trans otherPoints
      exact absurd rfl (noMapping fields)
  | onward points isRef _ ih =>
      refine Acc.intro _ ?_
      rintro ⟨otherRoot, next⟩ ⟨fields, otherPoints, isOther⟩
      cases points.symm.trans otherPoints
      cases isRef.symm.trans isOther
      exact ih

/-- The open references are ones on the way to the reference. -/
def OnTheWay (unicode : PyUnicode) (acceptsNetloc : List Char → Bool)
    (resolver : RefResolver Access FetchError) (chain : List RefKey) (root : DocumentRoot)
    (ref : String) : Prop :=
  ∀ key ∈ chain, ∃ outer : DocumentRoot × String,
    resolver.Genuine acceptsNetloc outer.1 ∧ outer.1.key outer.2 = key ∧
      Relation.TransGen (resolver.Onward unicode acceptsNetloc) (root, ref) outer

theorem Lands.closed {chain : List RefKey} {root : DocumentRoot} {ref : String} {value : Json}
    (lands : resolver.Lands unicode acceptsNetloc root ref value)
    (genuine : resolver.Genuine acceptsNetloc root)
    (onTheWay : resolver.OnTheWay unicode acceptsNetloc chain root ref) :
    root.key ref ∉ chain := by
  intro isOpen
  rcases onTheWay _ isOpen with ⟨⟨outerRoot, outerRef⟩, outerGenuine, sameKey, onward⟩
  simp only [DocumentRoot.key, RefKey.mk.injEq] at sameKey
  rcases sameKey with ⟨sameId, rfl⟩
  cases outerGenuine.ext genuine sameId
  exact not_self_of_acc (Acc.transGen lands.acc_onward) onward

theorem OnTheWay.onward {chain : List RefKey} {root newRoot : DocumentRoot} {ref next : String}
    {fields : JsonObject} (onTheWay : resolver.OnTheWay unicode acceptsNetloc chain root ref)
    (genuine : resolver.Genuine acceptsNetloc root)
    (points : resolver.referenced unicode acceptsNetloc root ref = .ok (newRoot, .obj fields))
    (isRef : refOf? fields = some next) :
    resolver.OnTheWay unicode acceptsNetloc (chain ++ [root.key ref]) newRoot next := by
  intro key isOpen
  have step : resolver.Onward unicode acceptsNetloc (newRoot, next) (root, ref) :=
    ⟨fields, points, isRef⟩
  rcases List.mem_append.mp isOpen with earlier | here
  · rcases onTheWay key earlier with ⟨outer, outerGenuine, isKey, onward⟩
    exact ⟨outer, outerGenuine, isKey, .head step onward⟩
  · cases List.mem_singleton.mp here
    exact ⟨(root, ref), genuine, rfl, .single step⟩

/-- A reference that leads to something other than a mapping is expanded to such a value, if
nothing is remembered and only references on the way to it are open. -/
theorem Lands.run {depth : Nat} {chain : List RefKey} {root : DocumentRoot} {ref : String}
    {landing value : Json} {state later : ResolverState Access}
    (lands : resolver.Lands unicode acceptsNetloc root ref landing)
    (genuine : resolver.Genuine acceptsNetloc root)
    (onTheWay : resolver.OnTheWay unicode acceptsNetloc chain root ref)
    (fetches : resolver.Fetches acceptsNetloc [] state)
    (ran : resolver.resolveRef unicode acceptsNetloc depth chain root ref state =
      (.ok value, later)) (fields : JsonObject) : value ≠ .obj fields := by
  have closed := lands.closed genuine onTheWay
  rcases resolveRef_run_fresh closed fetches ran with
    ⟨shallower, newRoot, node, before, after, points, fetchesBefore, walked⟩
  induction lands generalizing depth chain state later shallower newRoot node before after with
  | here otherPoints noMapping =>
      cases points.symm.trans otherPoints
      rcases walk_run_ok walked with ⟨_, _, _, walkedTo, _⟩
      exact walkedTo.noMapping noMapping fields
  | onward otherPoints isRef lands ih =>
      cases points.symm.trans otherPoints
      have genuineNext := genuine.referenced points
      have onTheWayNext := onTheWay.onward genuine points isRef
      simp only [walk, isRef] at walked
      have closedNext := lands.closed genuineNext onTheWayNext
      rcases resolveRef_run_fresh closedNext fetchesBefore walked with
        ⟨_, _, _, _, _, pointsNext, fetchesNext, walkedNext⟩
      exact ih genuineNext onTheWayNext fetchesBefore walked closedNext _ _ _ _ _ pointsNext
        fetchesNext walkedNext

end Facts

end RefResolver

end McpPortal
