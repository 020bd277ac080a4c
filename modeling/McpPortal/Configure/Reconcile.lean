import McpPortal.Classify
import McpPortal.Config.Models
import McpPortal.Configure.Survey
import McpPortal.Policy.Engine

/-!
# Reconciling with a previous run

The decisions behind a recorded configuration are reconstructed from its entries
and the policy, compared with a fresh introspection, and kept where nothing has
changed. New and changed operations are surveyed.
-/

namespace McpPortal

open Foundation

/-- The first detail the policy requires of the operation, as far as an operator's
requirement can express it. -/
def requireFor (operation : Operation) (policy : Option PolicyConfig) : Option RequiredDetail :=
  match policy with
  | none => none
  | some policy =>
      ((accumulatedDetails (matchingRules operation policy.rules)).head?).map fun first =>
        { type := first.type, actions := first.actions }

section Reconstruct

variable (unicode : PyUnicode)

/-- `entry.effect or _fallback_effect(binding.method)`. -/
def entryEffect (effect : Option Effect) (method : String) : Except UnsupportedMethod Effect :=
  match effect with
  | some effect => .ok effect
  | none => effectForMethod unicode method

def entryOperation (entry : OperationEntry) (binding : HttpBindingEntry) :
    Except UnsupportedMethod Operation := do
  let effect ← entryEffect unicode entry.effect binding.method
  return {
    id := entry.id
    upstream := entry.upstream
    name := (entry.name.map (·.text)).getD ""
    title := textOr entry.title entry.description
    description := entry.description
    groupTags := entry.groupTags
    effect
    sensitivity := entry.sensitivity.getD .normal
    inputSchema := []
    binding := .http {
      method := unicode.upper binding.method
      path := binding.path
      parameters := binding.parameters.map (·.parameter)
      body := binding.body.map (·.bodySpec) } }

def recordedDecision (operation : Operation) (policy : Option PolicyConfig) :
    OperationDecision where
  operation := operation
  exposed := true
  effect := operation.effect
  sensitivity := operation.sensitivity
  require := requireFor operation policy

/-- One iteration of `decisions_from_config`; GraphQL entries are skipped. -/
def recordEntry (policy : Option PolicyConfig) (decisions : List (String × OperationDecision))
    (entry : OperationEntry) : Except UnsupportedMethod (List (String × OperationDecision)) :=
  match entry.binding with
  | .graphQl _ => .ok decisions
  | .http binding => do
      let operation ← entryOperation unicode entry binding
      return Dict.insert decisions entry.id (recordedDecision operation policy)

def decisionsFromConfig (config : McpPortalConfig) (policy : Option PolicyConfig) :
    Except UnsupportedMethod (List (String × OperationDecision)) :=
  config.operations.foldlM (recordEntry unicode policy) []

end Reconstruct

structure ReconcileReport where
  new : List String := []
  removed : List String := []
  changed : List String := []
  unchanged : List String := []

/-- `_binding_key(left) == _binding_key(right)` on one parameter. -/
def sameParameter (left right : Parameter) : Bool :=
  left.arg = right.arg && left.location = right.location && left.wireName = right.wireName &&
    left.required = right.required && Json.pyEq (.obj left.schema) (.obj right.schema) &&
    left.style = right.style && left.explode = right.explode

def sameBody : Option BodySpec → Option BodySpec → Bool
  | none, none => true
  | some left, some right =>
      left.contentType = right.contentType && left.mode = right.mode &&
        Json.pyEq (.obj left.schema) (.obj right.schema)
  | _, _ => false

def sameBinding (left right : HttpBinding) : Bool :=
  left.method = right.method && left.path = right.path &&
    left.parameters.length = right.parameters.length &&
    (left.parameters.zip right.parameters).all (fun pair => sameParameter pair.1 pair.2) &&
    sameBody left.body right.body

/-- Comparing a binding that is not an HTTP one fails an assertion. -/
def compareBindings (previous current : Operation) : Option Bool :=
  match previous.binding, current.binding with
  | .http left, .http right => some (sameBinding left right)
  | _, _ => none

def sortedIds (ids : List String) : List String :=
  ids.insertionSort (· ≤ ·)

/-- Whether an id's recorded and current operation have the same binding. -/
def sameRecorded (previous : List (String × OperationDecision))
    (currentById : List (String × Operation)) (id : String) : Option Bool := do
  let decision ← Dict.get? previous id
  let operation ← Dict.get? currentById id
  compareBindings decision.operation operation

/-- The ids present on both sides, split into changed and unchanged ones. -/
def splitChanged (previous : List (String × OperationDecision))
    (currentById : List (String × Operation)) :
    List String → Option (List String × List String)
  | [] => some ([], [])
  | id :: rest => do
      let same ← sameRecorded previous currentById id
      let (changed, unchanged) ← splitChanged previous currentById rest
      return if same then (changed, id :: unchanged) else (id :: changed, unchanged)

def operationsById (current : List Operation) : List (String × Operation) :=
  Dict.ofList (current.map fun op => (op.id, op))

/-- `none` stands for a failed assertion on a GraphQL binding. -/
def diffOperationIds (previous : List (String × OperationDecision)) (current : List Operation) :
    Option ReconcileReport := do
  let currentById := operationsById current
  let both := (Dict.keys previous).filter fun id => decide (id ∈ Dict.keys currentById)
  let (changed, unchanged) ← splitChanged previous currentById (sortedIds both)
  return {
    new := sortedIds ((Dict.keys currentById).filter fun id => decide (id ∉ Dict.keys previous))
    removed :=
      sortedIds ((Dict.keys previous).filter fun id => decide (id ∉ Dict.keys currentById))
    changed
    unchanged }

section Run

variable {State : Type} (prompter : Prompter State) (current : List Operation)
  (previous : List (String × OperationDecision))

def toSurvey (report : ReconcileReport) : List Operation :=
  (report.new ++ report.changed).filterMap (Dict.get? (operationsById current))

def surveyDefaults (report : ReconcileReport) : List (String × OperationDecision) :=
  Dict.ofList <| report.changed.filterMap fun id =>
    (Dict.get? previous id).map fun decision => (id, decision)

/-- The survey of new and changed operations; without any, nothing is asked. -/
def surveyReported (report : ReconcileReport) (state : State) : List OperationDecision × State :=
  if (toSurvey current report).isEmpty then ([], state)
  else runSurvey prompter (surveyDefaults previous report) (toSurvey current report) state

def runReconcile (state : State) : Option (List OperationDecision × ReconcileReport) := do
  let report ← diffOperationIds previous current
  let unchangedDecisions := report.unchanged.filterMap (Dict.get? previous)
  return (unchangedDecisions ++ (surveyReported prompter current previous report state).1, report)

end Run

theorem mem_sortedIds {ids : List String} {id : String} : id ∈ sortedIds ids ↔ id ∈ ids :=
  List.mem_insertionSort _

section Split

variable {previous : List (String × OperationDecision)} {currentById : List (String × Operation)}

/-- Changed ids compared different, unchanged ones the same. -/
theorem mem_splitChanged {ids changed unchanged : List String}
    (compared : splitChanged previous currentById ids = some (changed, unchanged)) (id : String) :
    (id ∈ changed ↔ id ∈ ids ∧ sameRecorded previous currentById id = some false) ∧
      (id ∈ unchanged ↔ id ∈ ids ∧ sameRecorded previous currentById id = some true) := by
  induction ids generalizing changed unchanged with
  | nil =>
      cases compared
      simp
  | cons first rest ih =>
      simp only [splitChanged, Option.bind_eq_bind, Option.bind_eq_some_iff] at compared
      rcases compared with ⟨same, firstSame, ⟨restChanged, restUnchanged⟩, restCompared, result⟩
      have later := ih restCompared
      cases same with
      | true =>
          cases result
          constructor
          · rw [later.1, List.mem_cons]
            constructor
            · rintro ⟨idMem, different⟩
              exact ⟨Or.inr idMem, different⟩
            · rintro ⟨rfl | idMem, different⟩
              · simp [firstSame] at different
              · exact ⟨idMem, different⟩
          · rw [List.mem_cons, later.2, List.mem_cons]
            constructor
            · rintro (rfl | ⟨idMem, equal⟩)
              · exact ⟨Or.inl rfl, firstSame⟩
              · exact ⟨Or.inr idMem, equal⟩
            · rintro ⟨rfl | idMem, equal⟩
              · exact Or.inl rfl
              · exact Or.inr ⟨idMem, equal⟩
      | false =>
          cases result
          constructor
          · rw [List.mem_cons, later.1, List.mem_cons]
            constructor
            · rintro (rfl | ⟨idMem, different⟩)
              · exact ⟨Or.inl rfl, firstSame⟩
              · exact ⟨Or.inr idMem, different⟩
            · rintro ⟨rfl | idMem, different⟩
              · exact Or.inl rfl
              · exact Or.inr ⟨idMem, different⟩
          · rw [later.2, List.mem_cons]
            constructor
            · rintro ⟨idMem, equal⟩
              exact ⟨Or.inr idMem, equal⟩
            · rintro ⟨rfl | idMem, equal⟩
              · simp [firstSame] at equal
              · exact ⟨idMem, equal⟩

end Split

end McpPortal
