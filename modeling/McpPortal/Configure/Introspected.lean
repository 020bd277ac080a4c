import McpPortal.Configure.Run
import McpPortal.Sources.Unchecked

/-!
# A run over the operations of documents

A document gives its operations ids, tags and arguments of any type. Ids are hashed and sorted, and
ids and tags are printed into the questions, so a run may end by an exception that nobody catches.
What is written for an operation is no JSON where a schema has a key that is no text.
-/

namespace McpPortal

open Foundation

namespace PyConfigure

abbrev Running := Except (PyException ConfigureError)

/-- The questions of the survey, with the values their texts show. -/
inductive Question where
  | exposeAll (count : Nat) (tag : Json)
  | expose (id : Json) (effect : Effect)
  | markSensitive (id : Json)
  | requireDetail (id : Json)
  | requiredDetailType

/-- The values of a document that the text of the question prints. -/
def Question.printed : Question → List Json
  | .exposeAll _ tag => [tag]
  | .expose id _ => [id]
  | .markSensitive id => [id]
  | .requireDetail id => [id]
  | .requiredDetailType => []

/-- `Prompter`: each answer comes with the prompter's next state. -/
structure Prompter (State : Type) where
  confirm : State → Question → Bool → Bool × State
  text : State → Question → String → String × State

/-- The operation of a decision: one of the configuration, or one of a document. -/
inductive DecidedOperation where
  | recorded (operation : Operation)
  | introspected (operation : Unchecked.Operation)

def DecidedOperation.id : DecidedOperation → Json
  | .recorded operation => .str operation.id
  | .introspected operation => operation.id

structure Decision where
  operation : DecidedOperation
  exposed : Bool
  effect : Effect
  sensitivity : Sensitivity
  require : Option RequiredDetail

/-- What an id is sorted by, which has been hashed before. -/
def Decision.key (decision : Decision) : HashKey :=
  decision.operation.id.hashKey?.getD .none

def Decision.ofRecorded (decision : OperationDecision) : Decision where
  operation := .recorded decision.operation
  exposed := decision.exposed
  effect := decision.effect
  sensitivity := decision.sensitivity
  require := decision.require

/-- `_tag_for`. -/
def tagFor (op : Unchecked.Operation) : Json :=
  op.groupTags.headD (.str ungroupedTag)

section Survey

variable {State : Type} (prompter : Prompter State)
  (sortedByTag : List Unchecked.Operation → Running (List Unchecked.Operation))
  (defaults : List (String × OperationDecision))

/-- A question whose text can be printed. -/
def confirm (state : State) (question : Question) (proposed : Bool) : Running (Bool × State) :=
  if question.printed.any Json.hasLongInt then throw .valueError
  else return prompter.confirm state question proposed

/-- `defaults[op.id]`, if `op.id in defaults`. -/
def defaultFor (op : Unchecked.Operation) : Running (Option OperationDecision) := do
  let id ← hashed op.id
  return id.value.string?.bind (Dict.get? defaults)

/-- The requirement of a state-changing operation; read-only ones get none. -/
def surveyRequire (op : Unchecked.Operation) (default : Option OperationDecision) (state : State) :
    Running (Option RequiredDetail × State) :=
  if op.effect = .readOnly then return (none, state)
  else do
    let proposed := default.bind (·.require)
    let (attach, state) ← confirm prompter state (.requireDetail op.id) proposed.isSome
    if !attach then return (none, state)
    else
      let (detailType, state) :=
        prompter.text state .requiredDetailType ((proposed.map (·.type)).getD "")
      return (if detailType = "" then none else some { type := detailType }, state)

/-- `_survey_one`. -/
def surveyOne (op : Unchecked.Operation) (state : State) : Running (Decision × State) := do
  let default ← defaultFor defaults op
  let sensitivity := (default.map (·.sensitivity)).getD op.sensitivity
  let (exposed, state) ← confirm prompter state (.expose op.id op.effect)
    ((default.map (·.exposed)).getD true)
  if !exposed then
    return (
      { operation := .introspected op
        exposed := false
        effect := op.effect
        sensitivity
        require := none },
      state)
  else do
    let (sensitive, state) ← confirm prompter state (.markSensitive op.id)
      (sensitivity = .sensitive)
    let (require, state) ← surveyRequire prompter op default state
    return (
      { operation := .introspected op
        exposed := true
        effect := op.effect
        sensitivity := if sensitive then .sensitive else .normal
        require },
      state)

def surveyEach : List Unchecked.Operation → State → Running (List Decision × State)
  | [], state => return ([], state)
  | op :: rest, state => do
      let (decision, state) ← surveyOne prompter defaults op state
      let (decisions, state) ← surveyEach rest state
      return (decision :: decisions, state)

/-- The decision on an operation of a group that is accepted as a whole. -/
def acceptedDecision (op : Unchecked.Operation) : Running Decision := do
  let default ← defaultFor defaults op
  return {
    operation := .introspected op
    exposed := true
    effect := op.effect
    sensitivity := (default.map (·.sensitivity)).getD op.sensitivity
    require := if op.effect ≠ .readOnly then default.bind (·.require) else none }

def surveyGroup (group : List Unchecked.Operation) (state : State) :
    Running (List Decision × State) := do
  let tag := (group.head?.map tagFor).getD (.str ungroupedTag)
  let (acceptAll, state) ← confirm prompter state (.exposeAll group.length tag) true
  if acceptAll then do
    let decisions ← group.mapM (acceptedDecision defaults)
    return (decisions, state)
  else surveyEach prompter defaults group state

def surveyGroups : List (List Unchecked.Operation) → State → Running (List Decision × State)
  | [], state => return ([], state)
  | group :: rest, state => do
      let (decisions, state) ← surveyGroup prompter defaults group state
      let (others, state) ← surveyGroups rest state
      return (decisions ++ others, state)

/-- `run_survey`. Sorting by tags of any types may fail. -/
def runSurvey (operations : List Unchecked.Operation) (state : State) :
    Running (List Decision × State) := do
  let ordered ← sortedByTag operations
  surveyGroups prompter defaults
    (ordered.splitBy fun left right => (tagFor left).pyEq (tagFor right)) state

end Survey

/-- `_binding_key(left) == _binding_key(right)` on one parameter. -/
def sameParameter (left : Parameter) (right : Unchecked.Parameter) : Bool :=
  Json.pyEq (.str left.arg) right.arg.value && left.location = right.location &&
    Json.pyEq (.str left.wireName) right.wireName.value && left.required = right.required &&
    Json.pyEq (.obj left.schema) right.schema && left.style = .form &&
    Json.pyEq (.bool left.explode) right.explode

/-- A body of a document has the mode `flatten`. -/
def sameBody : Option BodySpec → Option Unchecked.BodySpec → Bool
  | none, none => true
  | some left, some right =>
      Json.pyEq (.str left.contentType) right.contentType.value && left.mode = .flatten &&
        Json.pyEq (.obj left.schema) right.schema
  | _, _ => false

def sameBinding (left : HttpBinding) (right : Unchecked.HttpBinding) : Bool :=
  left.method = right.method && left.path = right.path &&
    left.parameters.length = right.parameters.length &&
    (left.parameters.zip right.parameters).all (fun pair => sameParameter pair.1 pair.2) &&
    sameBody left.body right.body

/-- Comparing a binding that is not an HTTP one fails an assertion. -/
def compareBindings (previous : Operation) (current : Unchecked.Operation) : Running Bool :=
  match previous.binding with
  | .http left => return sameBinding left current.binding
  | .graphQl _ => throw .assertionError

structure ReconcileReport where
  new : List DictKey := []
  removed : List String := []
  changed : List String := []
  unchanged : List String := []

/-- `{op.id: op for op in current}`. -/
def operationsById (current : List Unchecked.Operation) :
    Running (PyDict Unchecked.Operation) := do
  let keyed ← current.mapM fun op => do
    let id ← hashed op.id
    return (id, op)
  return PyDict.assignAll [] keyed

section Reconcile

variable (previous : List (String × OperationDecision))
  (currentById : PyDict Unchecked.Operation)

/-- Whether an id's recorded and current operation have the same binding. -/
def sameRecorded (id : String) : Running Bool :=
  match Dict.get? previous id, Dict.get? currentById (.text id) with
  | some decision, some (_, operation) => compareBindings decision.operation operation
  | _, _ => throw .keyError

def diffOperationIds : Running ReconcileReport := do
  let recorded := Dict.keys previous
  let isCurrent := fun id => decide (HashKey.text id ∈ Dict.keys currentById)
  let new ← sortedItems DictKey.key
    (currentById.keys.filter fun id => decide (id.key ∉ recorded.map HashKey.text))
  let compared ← (sortedIds (recorded.filter isCurrent)).mapM fun id => do
    let same ← sameRecorded previous currentById id
    return (id, same)
  return {
    new
    removed := sortedIds (recorded.filter fun id => !isCurrent id)
    changed := (compared.filter fun entry => !entry.2).map (·.1)
    unchanged := (compared.filter (·.2)).map (·.1) }

def toSurvey (report : ReconcileReport) : List Unchecked.Operation :=
  (report.new.map (·.key) ++ report.changed.map HashKey.text).filterMap fun key =>
    (Dict.get? currentById key).map (·.2)

def surveyDefaults (report : ReconcileReport) : List (String × OperationDecision) :=
  Dict.ofList <| report.changed.filterMap fun id =>
    (Dict.get? previous id).map fun decision => (id, decision)

end Reconcile

section Run

variable {State : Type} (unicode : PyUnicode) (prompter : Prompter State)
  (sortedByTag : List Unchecked.Operation → Running (List Unchecked.Operation))

/-- `run_reconcile`, with the prompter's last state. -/
def runReconcile (current : List Unchecked.Operation)
    (previous : List (String × OperationDecision)) (state : State) :
    Running (List Decision × ReconcileReport × State) := do
  let currentById ← operationsById current
  let report ← diffOperationIds previous currentById
  let unchanged := (report.unchanged.filterMap (Dict.get? previous)).map Decision.ofRecorded
  let reported := toSurvey currentById report
  if reported.isEmpty then return (unchanged, report, state)
  else do
    let (surveyed, state) ←
      runSurvey prompter sortedByTag (surveyDefaults previous report) reported state
    return (unchanged ++ surveyed, report, state)

/-- The decisions, with the report of a reconciliation and the prompter's last state. -/
def configureDecisions (loaded : LoadedConfig) (introspected : List Unchecked.Operation)
    (state : State) : Running (List Decision × Option ReconcileReport × State) :=
  if loaded.config.operations.isEmpty then do
    let (decisions, state) ← runSurvey prompter sortedByTag [] introspected state
    return (decisions, none, state)
  else
    match decisionsFromConfig unicode loaded.config loaded.policy with
    | .error error => throw (.raised (.unsupportedMethod error))
    | .ok previous => do
        let (decisions, report, state) ←
          runReconcile prompter sortedByTag introspected previous state
        -- the list of the new ids is printed
        if report.new.any fun id => id.value.hasLongInt then throw .valueError
        else return (decisions, some report, state)

end Run

/-- The dictionary as a JSON object, if its keys are texts. -/
def textFields? (entries : PyDict Json) : Option JsonObject :=
  entries.items.mapM fun entry => entry.1.value.string?.map fun key => (key, entry.2)

section Render

def renderParameter (param : Unchecked.Parameter) : Running (Option Json) := do
  let schema ← dictOf param.schema
  return (textFields? schema).map fun schema => .obj
    [ ("arg", param.arg.value),
      ("in", .str param.location.value),
      ("wire_name", param.wireName.value),
      ("required", .bool param.required),
      ("schema", .obj schema),
      ("style", .str ParamStyle.form.value),
      ("explode", param.explode) ]

/-- The field of the body, if there is one. -/
def renderBody (body : Option Unchecked.BodySpec) : Running (Option JsonObject) :=
  match body with
  | none => return some []
  | some body => do
      let schema ← dictOf body.schema
      return (textFields? schema).map fun schema =>
        [ ("body", .obj
            [ ("content_type", body.contentType.value),
              ("mode", .str BodyMode.flatten.value),
              ("schema", .obj schema) ]) ]

def renderBinding (binding : Unchecked.HttpBinding) : Running (Option Json) := do
  let parameters ← binding.parameters.mapM renderParameter
  let body ← renderBody binding.body
  return do
    let parameters ← parameters.mapM id
    let body ← body
    return .obj ([ ("method", .str binding.method),
      ("path", .str binding.path),
      ("parameters", .arr parameters) ] ++ body)

/-- The entry of an exposed operation of a document. -/
def renderIntrospected (decision : Decision) (op : Unchecked.Operation) :
    Running (Option Json) := do
  let binding ← renderBinding op.binding
  return binding.map fun binding => .obj ([ ("id", op.id),
      ("upstream", .str op.upstream),
      ("description", .str op.description),
      ("title", .str op.title),
      ("group_tags", .arr op.groupTags),
      ("effect", .str decision.effect.value),
      ("sensitivity", .str decision.sensitivity.value),
      ("binding", binding) ] ++
    if op.name = "" then [] else [("name", .str op.name)])

variable (unicode : PyUnicode)

/-- A decision on a recorded operation. -/
def Decision.recorded (decision : Decision) (operation : Operation) : OperationDecision where
  operation := operation
  exposed := decision.exposed
  effect := decision.effect
  sensitivity := decision.sensitivity
  require := decision.require

def renderDecision (decision : Decision) : Running (Option Json) :=
  match decision.operation with
  | .recorded operation => do
      let entry ← (McpPortal.renderDecision unicode (decision.recorded operation)).mapError
        fun error => .raised (.config error)
      return some entry
  | .introspected op => renderIntrospected decision op

/-- `render_config(...)["operations"]`. -/
def renderOperations (decisions : List Decision) : Running (List (Option Json)) := do
  let ordered ← sortedItems Decision.key decisions
  (ordered.filter (·.exposed)).mapM (renderDecision unicode)

end Render

/-- What a run has decided and is about to write for the operations. -/
structure ConfigureRun (State : Type) where
  decisions : List Decision
  report : Option ReconcileReport
  operations : List (Option Json)
  state : State

/-- `_run_configure` after the introspection and before the first write. The policy is rendered
from the same decisions. -/
def runConfigure {State : Type} (unicode : PyUnicode) (prompter : Prompter State)
    (sortedByTag : List Unchecked.Operation → Running (List Unchecked.Operation))
    (loaded : LoadedConfig) (introspected : List Unchecked.Operation) (state : State) :
    Running (ConfigureRun State) := do
  let (decisions, report, state) ←
    configureDecisions unicode prompter sortedByTag loaded introspected state
  let operations ← renderOperations unicode decisions
  return { decisions, report, operations, state }

end PyConfigure

end McpPortal
