import McpPortal.Configure.Run
import McpPortal.Configure.WrittenOperations
import McpPortal.Foundation.SortedAlike
import McpPortal.Sources.CheckedRecords

/-!
# Surveys of operations whose values are texts

Where the operations of the documents have texts as ids, tags and names and objects as schemas, a
survey of unchecked operations asks and decides what the survey of checked ones does.
-/

namespace McpPortal

open Foundation

namespace PyConfigure

/-- The operation is an unchecked one whose values are texts. Its body is flattened. -/
structure Reads (operation : Operation) (unchecked : Unchecked.Operation) : Prop
    extends operation.Checks unchecked where
  flattens : ∀ own, operation.binding = .http own → ∀ body ∈ own.body, body.mode = .flatten

/-- Records with texts are built to operations that read alike. -/
theorem exists_reads_of_build {unicode : PyUnicode} {upstreamKey : String}
    {credentialHeaders : List String} {raw : RawOperation} {op : Operation}
    (plain : ∀ body ∈ (raw.binding unicode).body, body.IsPlain)
    (built : OpenApiSource.build unicode upstreamKey credentialHeaders raw = .ok (some op)) :
    ∃ unchecked,
      Unchecked.build unicode upstreamKey credentialHeaders raw.unchecked = .ok (some unchecked) ∧
        Reads op unchecked := by
  rcases (alongside_build plain upstreamKey credentialHeaders).outcomes with
    ⟨_, _, failed⟩ | ⟨_, _, builtToo, isOp, same⟩
  · cases built.symm.trans failed
  · cases built.symm.trans isOp
    rcases same with @⟨unchecked, _, checks⟩
    refine ⟨unchecked, builtToo, checks, ?_⟩
    intro own isOwn body isBody
    rcases OpenApiSource.build_ok built with ⟨_, _, resolved, flattened, isResolved⟩
    cases isOwn.symm.trans isResolved
    rcases resolveArgNames_ok (flattenBinding_ok flattened).2.1 with ⟨_, _, resolves⟩
    change own = _ at resolves
    rw [resolves] at isBody
    exact (plain body isBody).flattens

/-- The question of the run over checked operations. -/
def Question.checked : Question → McpPortal.Question
  | .exposeAll count tag => .exposeAll count (textOf tag)
  | .expose id effect => .expose (textOf id) effect
  | .markSensitive id => .markSensitive (textOf id)
  | .requireDetail id => .requireDetail (textOf id)
  | .requiredDetailType => .requiredDetailType

def Prompter.ofChecked {State : Type} (prompter : McpPortal.Prompter State) : Prompter State where
  confirm := fun state question proposed => prompter.confirm state question.checked proposed
  text := fun state question proposed => prompter.text state question.checked proposed

/-- The decision of the run over checked operations. -/
structure SameDecision (decision : OperationDecision) (own : Decision) : Prop where
  operation : own.operation = .recorded decision.operation ∨
    ∃ op, own.operation = .introspected op ∧ Reads decision.operation op
  exposed : own.exposed = decision.exposed
  effect : own.effect = decision.effect
  sensitivity : own.sensitivity = decision.sensitivity
  require : own.require = decision.require

section Survey

variable {State : Type} {prompter : McpPortal.Prompter State}
  {defaults : List (String × OperationDecision)} {op : Operation} {unchecked : Unchecked.Operation}

theorem confirm_ofChecked {question : Question} {text : String}
    (printed : question.printed = [.str text]) (state : State) (proposed : Bool) :
    confirm (.ofChecked prompter) state question proposed =
      .ok (prompter.confirm state question.checked proposed) := by
  rw [confirm, printed]
  rfl

theorem defaultFor_exposed :
    (McpPortal.defaultFor op defaults).exposed =
      ((Dict.get? defaults op.id).map (·.exposed)).getD true := by
  rw [McpPortal.defaultFor]
  cases Dict.get? defaults op.id <;> rfl

theorem defaultFor_sensitivity :
    (McpPortal.defaultFor op defaults).sensitivity =
      ((Dict.get? defaults op.id).map (·.sensitivity)).getD op.sensitivity := by
  rw [McpPortal.defaultFor]
  cases Dict.get? defaults op.id <;> rfl

theorem defaultFor_require :
    (McpPortal.defaultFor op defaults).require =
      (Dict.get? defaults op.id).bind (·.require) := by
  rw [McpPortal.defaultFor]
  cases Dict.get? defaults op.id <;> rfl

theorem defaultFor_reads (reads : Reads op unchecked) :
    defaultFor defaults unchecked = .ok (Dict.get? defaults op.id) := by
  rw [defaultFor, reads.id]
  rfl

theorem surveyRequire_reads (reads : Reads op unchecked) (state : State) :
    surveyRequire (.ofChecked prompter) unchecked (Dict.get? defaults op.id) state =
      .ok (McpPortal.surveyRequire prompter op (McpPortal.defaultFor op defaults) state) := by
  rw [surveyRequire, McpPortal.surveyRequire, defaultFor_require, reads.effect]
  by_cases readOnly : op.effect = .readOnly
  · rw [if_pos readOnly, if_pos readOnly]
    rfl
  · rw [if_neg readOnly, if_neg readOnly]
    have printed : (Question.requireDetail unchecked.id).printed = [.str op.id] :=
      congrArg (fun id => [id]) reads.id
    have asks : (Question.requireDetail unchecked.id).checked = .requireDetail op.id := by
      rw [reads.id]
      rfl
    simp only [confirm_ofChecked printed, asks]
    rcases prompter with ⟨answer, text⟩
    change (if (!(answer state (.requireDetail op.id) _).1) = true then _ else _) = _
    cases attach : (answer state (.requireDetail op.id)
        ((Dict.get? defaults op.id).bind (·.require)).isSome).1 with
    | false => rfl
    | true => rfl

/-- The decision on the unchecked operation. -/
def Decision.ofSurveyed (unchecked : Unchecked.Operation) (decision : OperationDecision) :
    Decision where
  operation := .introspected unchecked
  exposed := decision.exposed
  effect := decision.effect
  sensitivity := decision.sensitivity
  require := decision.require

theorem sameDecision_ofSurveyed {decision : OperationDecision}
    (reads : Reads decision.operation unchecked) :
    SameDecision decision (.ofSurveyed unchecked decision) :=
  ⟨Or.inr ⟨unchecked, rfl, reads⟩, rfl, rfl, rfl, rfl⟩

theorem surveyOne_reads (reads : Reads op unchecked) (state : State) :
    surveyOne (.ofChecked prompter) defaults unchecked state =
      .ok (.ofSurveyed unchecked (McpPortal.surveyOne prompter defaults op state).1,
        (McpPortal.surveyOne prompter defaults op state).2) := by
  have printedExpose : (Question.expose unchecked.id op.effect).printed = [.str op.id] :=
    congrArg (fun id => [id]) reads.id
  have printedMark : (Question.markSensitive unchecked.id).printed = [.str op.id] :=
    congrArg (fun id => [id]) reads.id
  have asksExpose : (Question.expose unchecked.id op.effect).checked = .expose op.id op.effect := by
    rw [reads.id]
    rfl
  have asksMark : (Question.markSensitive unchecked.id).checked = .markSensitive op.id := by
    rw [reads.id]
    rfl
  rw [surveyOne, McpPortal.surveyOne, defaultFor_reads reads, defaultFor_exposed,
    defaultFor_sensitivity]
  simp only [reads.effect, reads.sensitivity, confirm_ofChecked printedExpose,
    confirm_ofChecked printedMark, asksExpose, asksMark]
  rcases prompter with ⟨answer, text⟩
  change (if (!(answer state (.expose op.id op.effect) _).1) = true then _ else _) = _
  cases decided : (answer state (.expose op.id op.effect)
      (((Dict.get? defaults op.id).map (·.exposed)).getD true)).1 with
  | false => rfl
  | true =>
      change (surveyRequire (.ofChecked ⟨answer, text⟩) unchecked _ _ >>= _ : Running _) = _
      rw [surveyRequire_reads reads]
      rfl

section Lists

variable {operations : List Operation} {uncheckeds : List Unchecked.Operation}

theorem sameDecision_surveyOne (reads : Reads op unchecked) (state : State) :
    SameDecision (McpPortal.surveyOne prompter defaults op state).1
      (.ofSurveyed unchecked (McpPortal.surveyOne prompter defaults op state).1) := by
  apply sameDecision_ofSurveyed
  rwa [operation_surveyOne]

theorem surveyEach_reads (same : List.Forall₂ Reads operations uncheckeds) (state : State) :
    ∃ own, surveyEach (.ofChecked prompter) defaults uncheckeds state =
        .ok (own, (McpPortal.surveyEach prompter defaults operations state).2) ∧
      List.Forall₂ SameDecision (McpPortal.surveyEach prompter defaults operations state).1 own := by
  induction same generalizing state with
  | nil => exact ⟨[], rfl, .nil⟩
  | @cons op unchecked _ _ reads _ ih =>
      rcases ih (McpPortal.surveyOne prompter defaults op state).2 with ⟨own, later, same⟩
      refine ⟨_ :: own, ?_, .cons (sameDecision_surveyOne reads state) same⟩
      simp only [surveyEach, surveyOne_reads reads]
      change (surveyEach _ defaults _ _ >>= _ : Running _) = _
      rw [later]
      rfl

theorem acceptedDecision_reads (reads : Reads op unchecked) :
    ∃ own, acceptedDecision defaults unchecked = .ok own ∧
      SameDecision (McpPortal.acceptedDecision defaults op) own := by
  rw [acceptedDecision, defaultFor_reads reads]
  refine ⟨_, rfl, Or.inr ⟨unchecked, rfl, reads⟩, rfl, reads.effect, ?_, ?_⟩
  · rw [McpPortal.acceptedDecision, defaultFor_sensitivity, ← reads.sensitivity]
  · rw [McpPortal.acceptedDecision, defaultFor_require, ← reads.effect]

theorem tagFor_reads (reads : Reads op unchecked) :
    tagFor unchecked = .str (McpPortal.tagFor op) := by
  rw [tagFor, McpPortal.tagFor, reads.groupTags]
  cases op.groupTags <;> rfl

theorem acceptedDecisions_reads (same : List.Forall₂ Reads operations uncheckeds) :
    ∃ own, uncheckeds.mapM (acceptedDecision defaults) = .ok own ∧
      List.Forall₂ SameDecision (operations.map (McpPortal.acceptedDecision defaults)) own := by
  simp only [mapM_eq_ok_iff_forall₂, List.forall₂_map_left_iff]
  induction same with
  | nil => exact ⟨[], .nil, .nil⟩
  | cons reads _ ih =>
      rcases acceptedDecision_reads reads with ⟨first, accepts, sameFirst⟩
      rcases ih with ⟨own, later, sameLater⟩
      exact ⟨first :: own, .cons accepts later, .cons sameFirst sameLater⟩

theorem surveyGroup_reads (same : List.Forall₂ Reads operations uncheckeds) (state : State) :
    ∃ own, surveyGroup (.ofChecked prompter) defaults uncheckeds state =
        .ok (own, (McpPortal.surveyGroup prompter defaults operations state).2) ∧
      List.Forall₂ SameDecision (McpPortal.surveyGroup prompter defaults operations state).1 own := by
  have isTag : (uncheckeds.head?.map tagFor).getD (.str ungroupedTag) =
      .str ((operations.head?.map McpPortal.tagFor).getD ungroupedTag) := by
    cases same with
    | nil => rfl
    | cons reads _ => exact tagFor_reads reads
  simp only [surveyGroup, McpPortal.surveyGroup, isTag, ← same.length_eq]
  generalize (operations.head?.map McpPortal.tagFor).getD ungroupedTag = tag
  have asks : (Question.exposeAll operations.length (.str tag)).checked =
      .exposeAll operations.length tag := rfl
  rw [@confirm_ofChecked _ prompter (.exposeAll operations.length (.str tag)) tag rfl, asks]
  rcases prompter with ⟨answer, text⟩
  change ∃ own, (if (answer state (.exposeAll operations.length _) true).1 = true then _
    else _) = _ ∧ _
  cases acceptAll : (answer state (.exposeAll operations.length tag) true).1 with
  | false => exact surveyEach_reads same _
  | true =>
      rcases @acceptedDecisions_reads defaults _ _ same with ⟨own, accepts, sameOwn⟩
      refine ⟨own, ?_, sameOwn⟩
      change (uncheckeds.mapM (acceptedDecision defaults) >>= _ : Running _) = _
      rw [accepts]
      rfl

theorem surveyGroups_reads {groups : List (List Operation)}
    {uncheckedGroups : List (List Unchecked.Operation)}
    (same : List.Forall₂ (List.Forall₂ Reads) groups uncheckedGroups) (state : State) :
    ∃ own, surveyGroups (.ofChecked prompter) defaults uncheckedGroups state =
        .ok (own, (McpPortal.surveyGroups prompter defaults groups state).2) ∧
      List.Forall₂ SameDecision (McpPortal.surveyGroups prompter defaults groups state).1 own := by
  induction same generalizing state with
  | nil => exact ⟨[], rfl, .nil⟩
  | @cons group _ _ _ sameGroup _ ih =>
      rcases @surveyGroup_reads _ prompter defaults _ _ sameGroup state with
        ⟨first, surveys, sameFirst⟩
      rcases ih (McpPortal.surveyGroup prompter defaults group state).2 with
        ⟨own, later, sameLater⟩
      refine ⟨first ++ own, ?_, List.rel_append sameFirst sameLater⟩
      simp only [surveyGroups, surveys]
      change (surveyGroups _ defaults _ _ >>= _ : Running _) = _
      rw [later]
      rfl

/-- Operations whose tags are texts are sorted by these. -/
def SortsTexts (sortedByTag : List Unchecked.Operation → Running (List Unchecked.Operation)) :
    Prop :=
  ∀ operations : List Unchecked.Operation,
    (∀ op ∈ operations, ∃ text, tagFor op = .str text) →
      sortedByTag operations =
        .ok (operations.insertionSort fun left right =>
          textOf (tagFor left) ≤ textOf (tagFor right))

theorem runSurvey_reads
    {sortedByTag : List Unchecked.Operation → Running (List Unchecked.Operation)}
    (sorts : SortsTexts sortedByTag) (same : List.Forall₂ Reads operations uncheckeds)
    (state : State) :
    ∃ own, runSurvey (.ofChecked prompter) sortedByTag defaults uncheckeds state =
        .ok (own, (McpPortal.runSurvey prompter defaults operations state).2) ∧
      List.Forall₂ SameDecision (McpPortal.runSurvey prompter defaults operations state).1 own := by
  have tagged : ∀ op ∈ uncheckeds, ∃ text, tagFor op = .str text := by
    intro op opMem
    rcases exists_left_of_forall₂ same opMem with ⟨own, _, reads⟩
    exact ⟨_, tagFor_reads reads⟩
  have groups : List.Forall₂ (List.Forall₂ Reads) (groupsByTag operations)
      ((uncheckeds.insertionSort fun left right =>
        textOf (tagFor left) ≤ textOf (tagFor right)).splitBy
          fun left right => (tagFor left).pyEq (tagFor right)) := by
    apply forall₂_splitBy
    · intro first second firstToo secondToo sameFirst sameSecond
      rw [tagFor_reads sameFirst, tagFor_reads sameSecond]
      rfl
    · apply forall₂_insertionSort _ same
      intro first second firstToo secondToo sameFirst sameSecond
      rw [tagFor_reads sameFirst, tagFor_reads sameSecond]
      rfl
  rw [runSurvey, sorts uncheckeds tagged]
  exact surveyGroups_reads groups state

end Lists

end Survey

end PyConfigure

end McpPortal
