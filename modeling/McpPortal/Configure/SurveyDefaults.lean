import McpPortal.Configure.Survey

/-!
# A survey answered with its defaults

A group can be accepted as a whole, or declined and its operations answered one by one. With
the proposed answers both come to the same decisions, but for the requirements: only their
types are proposed again.
-/

namespace McpPortal

open Foundation

/-- The prompter declines every group, and answers everything else with what is proposed. -/
structure AnswersDefaults {State : Type} (prompter : Prompter State) : Prop where
  group : ∀ state count tag, (prompter.confirm state (.exposeAll count tag) true).1 = false
  confirm : ∀ state question proposed, (∀ count tag, question ≠ .exposeAll count tag) →
    (prompter.confirm state question proposed).1 = proposed
  text : ∀ state question proposed, (prompter.text state question proposed).1 = proposed

section Defaults

variable (defaults : List (String × OperationDecision))

/-- The requirement that is left when its proposed type is answered. -/
def answeredRequire (require : Option RequiredDetail) : Option RequiredDetail :=
  require.bind fun required =>
    if required.type = "" then none else some { type := required.type }

/-- The decision on an operation whose questions are all answered as proposed. -/
def answeredDecision (op : Operation) : OperationDecision :=
  let default := defaultFor op defaults
  { operation := op
    exposed := true
    effect := op.effect
    sensitivity := default.sensitivity
    require := if op.effect ≠ .readOnly then answeredRequire default.require else none }

/-- The previous decisions exposed their operations. -/
def AllExposed : Prop :=
  ∀ id previous, Dict.get? defaults id = some previous → previous.exposed = true

/-- Where an operation was decided before, its sensitivity is kept, and its requirement unless
it only reads. -/
def KeepsPrevious (decisions : List OperationDecision) : Prop :=
  ∀ decision ∈ decisions, ∀ previous,
    Dict.get? defaults decision.operation.id = some previous →
      decision.sensitivity = previous.sensitivity ∧
        (decision.operation.effect ≠ .readOnly → decision.require = previous.require)

/-- The previous requirements of operations that do not only read are types alone. -/
def TypesAlone (operations : List Operation) : Prop :=
  ∀ op ∈ operations, op.effect ≠ .readOnly → ∀ previous,
    Dict.get? defaults op.id = some previous → ∀ required, previous.require = some required →
      required.type ≠ "" ∧ required.actions = []

variable {defaults}

theorem exposed_defaultFor (exposed : AllExposed defaults) (op : Operation) :
    (defaultFor op defaults).exposed = true := by
  unfold defaultFor
  cases found : Dict.get? defaults op.id with
  | none => rfl
  | some previous => exact exposed op.id previous found

section Answered

variable {State : Type} {prompter : Prompter State}

theorem surveyRequire_of_answersDefaults (answers : AnswersDefaults prompter) (op : Operation)
    (default : OperationDecision) (state : State) :
    (surveyRequire prompter op default state).1 =
      if op.effect ≠ .readOnly then answeredRequire default.require else none := by
  unfold surveyRequire
  by_cases reads : op.effect = .readOnly
  · simp only [reads, if_true, ne_eq, not_true_eq_false, if_false]
  · have attach := answers.confirm state (.requireDetail op.id) default.require.isSome nofun
    simp only [reads, if_false, ne_eq, not_false_eq_true, if_true, attach, answers.text]
    cases default.require with
    | none => rfl
    | some required => rfl

theorem surveyOne_of_answersDefaults (answers : AnswersDefaults prompter)
    (exposed : AllExposed defaults) (op : Operation) (state : State) :
    (surveyOne prompter defaults op state).1 = answeredDecision defaults op := by
  unfold surveyOne answeredDecision
  simp only [answers.confirm _ (.expose op.id op.effect) _ nofun,
    answers.confirm _ (.markSensitive op.id) _ nofun, exposed_defaultFor exposed op,
    surveyRequire_of_answersDefaults answers, Bool.not_true, Bool.false_eq_true, if_false,
    decide_eq_true_eq]
  cases (defaultFor op defaults).sensitivity <;> rfl

theorem surveyEach_of_answersDefaults (answers : AnswersDefaults prompter)
    (exposed : AllExposed defaults) (operations : List Operation) (state : State) :
    (surveyEach prompter defaults operations state).1 =
      operations.map (answeredDecision defaults) := by
  induction operations generalizing state with
  | nil => rfl
  | cons op rest ih =>
      simp only [surveyEach, List.map_cons, surveyOne_of_answersDefaults answers exposed, ih]

theorem surveyGroups_of_answersDefaults (answers : AnswersDefaults prompter)
    (exposed : AllExposed defaults) (groups : List (List Operation)) (state : State) :
    (surveyGroups prompter defaults groups state).1 =
      groups.flatten.map (answeredDecision defaults) := by
  induction groups generalizing state with
  | nil => rfl
  | cons group rest ih =>
      simp only [surveyGroups, surveyGroup, answers.group, Bool.false_eq_true, if_false,
        surveyEach_of_answersDefaults answers exposed, ih, List.flatten_cons, List.map_append]

/-- Answering as proposed exposes every operation with what is left of its proposed decision. -/
theorem runSurvey_of_answersDefaults (answers : AnswersDefaults prompter)
    (exposed : AllExposed defaults) (operations : List Operation) (state : State) :
    (runSurvey prompter defaults operations state).1 =
      (operations.insertionSort fun left right => tagFor left ≤ tagFor right).map
        (answeredDecision defaults) := by
  rw [runSurvey, surveyGroups_of_answersDefaults answers exposed, groupsByTag,
    List.flatten_splitBy]

end Answered

theorem answeredRequire_eq_iff {require : Option RequiredDetail} :
    require = answeredRequire require ↔
      ∀ required, require = some required → required.type ≠ "" ∧ required.actions = [] := by
  cases require with
  | none => simp [answeredRequire]
  | some required =>
      rcases required with ⟨type, actions⟩
      by_cases empty : type = "" <;> simp [answeredRequire, empty]

theorem acceptedDecision_eq_iff {op : Operation} :
    acceptedDecision defaults op = answeredDecision defaults op ↔
      (op.effect ≠ .readOnly → ∀ previous, Dict.get? defaults op.id = some previous →
        ∀ required, previous.require = some required →
          required.type ≠ "" ∧ required.actions = []) := by
  simp only [acceptedDecision, answeredDecision, OperationDecision.mk.injEq, true_and]
  by_cases reads : op.effect = .readOnly
  · simp [reads]
  · simp only [reads, ne_eq, not_false_eq_true, if_true, answeredRequire_eq_iff, defaultFor,
      forall_const]
    cases found : Dict.get? defaults op.id with
    | none => simp
    | some previous => simp

theorem keepsPrevious_accepted (operations : List Operation) :
    KeepsPrevious defaults (operations.map (acceptedDecision defaults)) := by
  intro decision decisionMem previous found
  rcases List.mem_map.mp decisionMem with ⟨op, _, rfl⟩
  simp only [acceptedDecision, defaultFor] at found ⊢
  rw [found, Option.getD_some]
  exact ⟨rfl, fun writes => if_pos writes⟩

/-- Accepting the groups and answering as proposed come to the same decisions, which keep what
was decided before, if the previous requirements are types alone. -/
theorem runSurvey_agree_iff {Accepting Answering : Type} {accepting : Prompter Accepting}
    {answering : Prompter Answering} (exposed : AllExposed defaults)
    (accepts : AcceptsEveryGroup accepting) (answers : AnswersDefaults answering)
    (operations : List Operation) (first : Accepting) (second : Answering) :
    ((runSurvey accepting defaults operations first).1 =
          (runSurvey answering defaults operations second).1 ∧
        KeepsPrevious defaults (runSurvey accepting defaults operations first).1 ∧
        KeepsPrevious defaults (runSurvey answering defaults operations second).1) ↔
      TypesAlone defaults operations := by
  rw [runSurvey_of_acceptsEveryGroup defaults accepts,
    runSurvey_of_answersDefaults answers exposed, List.map_inj_left]
  have same : (∀ op ∈ operations.insertionSort fun left right => tagFor left ≤ tagFor right,
      acceptedDecision defaults op = answeredDecision defaults op) ↔
      TypesAlone defaults operations := by
    simp only [List.mem_insertionSort, acceptedDecision_eq_iff]
    rfl
  rw [same]
  constructor
  · exact And.left
  · intro alone
    have kept : KeepsPrevious defaults
        ((operations.insertionSort fun left right => tagFor left ≤ tagFor right).map
          (acceptedDecision defaults)) := keepsPrevious_accepted _
    refine ⟨alone, kept, ?_⟩
    rwa [← List.map_congr_left (same.mpr alone)]

end Defaults

section Invoice

private def acceptingPrompter : Prompter Unit where
  confirm state _ proposed := (proposed, state)
  text state _ proposed := (proposed, state)

private def answeringPrompter : Prompter Unit where
  confirm state question proposed :=
    match question with
    | .exposeAll _ _ => (false, state)
    | _ => (proposed, state)
  text state _ proposed := (proposed, state)

private theorem acceptsEveryGroup_accepting : AcceptsEveryGroup acceptingPrompter :=
  fun _ _ _ => rfl

private theorem answersDefaults_answering : AnswersDefaults answeringPrompter where
  group _ _ _ := rfl
  confirm := by
    intro state question proposed notGroup
    cases question with
    | exposeAll count tag => exact absurd rfl (notGroup count tag)
    | _ => rfl
  text _ _ _ := rfl

private def createInvoice : Operation where
  id := "create_invoice"
  upstream := "billing"
  name := ""
  title := ""
  description := ""
  groupTags := ["billing"]
  effect := .action
  sensitivity := .normal
  inputSchema := []
  binding := .http { method := "POST", path := "/invoices" }

private def previousInvoice (actions : List String) : List (String × OperationDecision) :=
  [ ("create_invoice",
      { operation := createInvoice
        exposed := true
        effect := .action
        sensitivity := .normal
        require := some { type := "payment_initiation", actions } }) ]

private theorem allExposed_previousInvoice (actions : List String) :
    AllExposed (previousInvoice actions) := by
  intro id previous found
  have mem := Dict.mem_of_get? found
  cases List.mem_singleton.mp mem
  rfl

theorem runSurvey_agree_iff_invoice :
    ((runSurvey acceptingPrompter (previousInvoice []) [createInvoice] ()).1 =
          (runSurvey answeringPrompter (previousInvoice []) [createInvoice] ()).1 ∧
        KeepsPrevious (previousInvoice [])
          (runSurvey acceptingPrompter (previousInvoice []) [createInvoice] ()).1 ∧
        KeepsPrevious (previousInvoice [])
          (runSurvey answeringPrompter (previousInvoice []) [createInvoice] ()).1) ↔
      TypesAlone (previousInvoice []) [createInvoice] :=
  runSurvey_agree_iff (allExposed_previousInvoice []) acceptsEveryGroup_accepting
    answersDefaults_answering [createInvoice] () ()

/-- The actions of the previous requirement are lost when its type is answered. -/
theorem runSurvey_drops_actions :
    AllExposed (previousInvoice ["initiate"]) ∧ AcceptsEveryGroup acceptingPrompter ∧
      AnswersDefaults answeringPrompter ∧
      (runSurvey acceptingPrompter (previousInvoice ["initiate"]) [createInvoice] ()).1.map
          (·.require) = [some { type := "payment_initiation", actions := ["initiate"] }] ∧
      (runSurvey answeringPrompter (previousInvoice ["initiate"]) [createInvoice] ()).1.map
          (·.require) = [some { type := "payment_initiation" }] ∧
      ¬KeepsPrevious (previousInvoice ["initiate"])
        (runSurvey answeringPrompter (previousInvoice ["initiate"]) [createInvoice] ()).1 := by
  refine ⟨allExposed_previousInvoice _, acceptsEveryGroup_accepting, answersDefaults_answering,
    by decide, by decide, ?_⟩
  intro keeps
  rcases keeps _ List.mem_cons_self _ rfl with ⟨_, kept⟩
  have sameRequire := kept (by decide)
  revert sameRequire
  decide

end Invoice

end McpPortal
