import Mathlib.Data.List.Sort
import Mathlib.Data.List.SplitBy
import McpPortal.Configure.Decisions

/-!
# The interactive survey

Operations are walked group tag by group tag, and a group can be accepted as a
whole. The prompter is an oracle with a state of its own: it sees the question and
the proposed answer, and what it answers may depend on everything asked before.
-/

namespace McpPortal

open Foundation

/-- The questions of `configure`, with the values their texts show. -/
inductive Question where
  | exposeAll (count : Nat) (tag : String)
  | expose (id : String) (effect : Effect)
  | markSensitive (id : String)
  | requireDetail (id : String)
  | requiredDetailType
  | write (path : String)

/-- `Prompter`: each answer comes with the prompter's next state. -/
structure Prompter (State : Type) where
  confirm : State → Question → Bool → Bool × State
  text : State → Question → String → String × State

def ungroupedTag : String := "(ungrouped)"

def tagFor (op : Operation) : String :=
  op.groupTags.headD ungroupedTag

/-- What is proposed for an operation: the previous decision, or plain exposure. -/
def defaultFor (op : Operation) (defaults : List (String × OperationDecision)) :
    OperationDecision :=
  (Dict.get? defaults op.id).getD
    { operation := op
      exposed := true
      effect := op.effect
      sensitivity := op.sensitivity
      require := none }

section Survey

variable {State : Type} (prompter : Prompter State) (defaults : List (String × OperationDecision))

/-- The requirement of a state-changing operation; read-only ones get none. -/
def surveyRequire (op : Operation) (default : OperationDecision) (state : State) :
    Option RequiredDetail × State :=
  if op.effect = .readOnly then (none, state)
  else
    let (attach, state) := prompter.confirm state (.requireDetail op.id) default.require.isSome
    if !attach then (none, state)
    else
      let proposed := (default.require.map (·.type)).getD ""
      let (detailType, state) := prompter.text state .requiredDetailType proposed
      (if detailType = "" then none else some { type := detailType }, state)

def surveyOne (op : Operation) (state : State) : OperationDecision × State :=
  let default := defaultFor op defaults
  let (exposed, state) := prompter.confirm state (.expose op.id op.effect) default.exposed
  if !exposed then
    ( { operation := op
        exposed := false
        effect := op.effect
        sensitivity := default.sensitivity
        require := none },
      state )
  else
    let (sensitive, state) :=
      prompter.confirm state (.markSensitive op.id) (default.sensitivity = .sensitive)
    let (require, state) := surveyRequire prompter op default state
    ( { operation := op
        exposed := true
        effect := op.effect
        sensitivity := if sensitive then .sensitive else .normal
        require },
      state )

def surveyEach : List Operation → State → List OperationDecision × State
  | [], state => ([], state)
  | op :: rest, state =>
      let (decision, state) := surveyOne prompter defaults op state
      let (decisions, state) := surveyEach rest state
      (decision :: decisions, state)

/-- The decision on an operation of a group that is accepted as a whole. -/
def acceptedDecision (op : Operation) : OperationDecision :=
  let default := defaultFor op defaults
  { operation := op
    exposed := true
    effect := op.effect
    sensitivity := default.sensitivity
    require := if op.effect ≠ .readOnly then default.require else none }

def surveyGroup (group : List Operation) (state : State) : List OperationDecision × State :=
  let tag := (group.head?.map tagFor).getD ungroupedTag
  let (acceptAll, state) := prompter.confirm state (.exposeAll group.length tag) true
  if acceptAll then (group.map (acceptedDecision defaults), state)
  else surveyEach prompter defaults group state

def surveyGroups : List (List Operation) → State → List OperationDecision × State
  | [], state => ([], state)
  | group :: rest, state =>
      let (decisions, state) := surveyGroup prompter defaults group state
      let (others, state) := surveyGroups rest state
      (decisions ++ others, state)

/-- `groupby(sorted(operations, key=_tag_for), key=_tag_for)`. -/
def groupsByTag (operations : List Operation) : List (List Operation) :=
  (operations.insertionSort fun left right => tagFor left ≤ tagFor right).splitBy
    fun left right => tagFor left = tagFor right

def runSurvey (operations : List Operation) (state : State) : List OperationDecision × State :=
  surveyGroups prompter defaults (groupsByTag operations) state

theorem operation_surveyOne (op : Operation) (state : State) :
    (surveyOne prompter defaults op state).1.operation = op := by
  simp only [surveyOne]
  split <;> rfl

theorem operations_surveyEach (operations : List Operation) (state : State) :
    (surveyEach prompter defaults operations state).1.map (·.operation) = operations := by
  induction operations generalizing state with
  | nil => rfl
  | cons op rest ih => simp only [surveyEach, List.map_cons, operation_surveyOne, ih]

theorem operations_surveyGroup (group : List Operation) (state : State) :
    (surveyGroup prompter defaults group state).1.map (·.operation) = group := by
  simp only [surveyGroup]
  split
  · rw [List.map_map]
    exact List.map_id group
  · exact operations_surveyEach prompter defaults group _

theorem operations_surveyGroups (groups : List (List Operation)) (state : State) :
    (surveyGroups prompter defaults groups state).1.map (·.operation) = groups.flatten := by
  induction groups generalizing state with
  | nil => rfl
  | cons group rest ih =>
      simp only [surveyGroups, List.map_append, operations_surveyGroup, ih, List.flatten_cons]

/-- Whatever is answered, the survey decides the operations it was given. -/
theorem operations_runSurvey (operations : List Operation) (state : State) :
    (runSurvey prompter defaults operations state).1.map (·.operation) =
      operations.insertionSort fun left right => tagFor left ≤ tagFor right := by
  rw [runSurvey, operations_surveyGroups, groupsByTag, List.flatten_splitBy]

/-- The prompter answers every group question with "expose all". -/
def AcceptsEveryGroup : Prop :=
  ∀ state count tag, (prompter.confirm state (.exposeAll count tag) true).1 = true

variable {prompter}

theorem surveyGroups_of_acceptsEveryGroup (accepts : AcceptsEveryGroup prompter)
    (groups : List (List Operation)) (state : State) :
    (surveyGroups prompter defaults groups state).1 =
      groups.flatten.map (acceptedDecision defaults) := by
  induction groups generalizing state with
  | nil => rfl
  | cons group rest ih =>
      have accepted := accepts state group.length ((group.head?.map tagFor).getD ungroupedTag)
      simp only [surveyGroups, surveyGroup, accepted, if_true, ih, List.flatten_cons,
        List.map_append]

/-- Accepting every group exposes every operation with its proposed decision. -/
theorem runSurvey_of_acceptsEveryGroup (accepts : AcceptsEveryGroup prompter)
    (operations : List Operation) (state : State) :
    (runSurvey prompter defaults operations state).1 =
      (operations.insertionSort fun left right => tagFor left ≤ tagFor right).map
        (acceptedDecision defaults) := by
  rw [runSurvey, surveyGroups_of_acceptsEveryGroup defaults accepts, groupsByTag,
    List.flatten_splitBy]

end Survey

end McpPortal
