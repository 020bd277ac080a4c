import McpPortal.Configure.Reconcile
import McpPortal.Configure.Render
import McpPortal.Configure.Write

/-!
# A run of `configure`

The introspected operations are surveyed or, if the configuration has operations,
reconciled with it. The decisions are rendered to the operations and the policy
that are written. A run may end before that, by a configuration error or by an
exception that nobody catches.
-/

namespace McpPortal

open Foundation

inductive ConfigureError where
  | unsupportedMethod (error : UnsupportedMethod)
  | assertionError
  | config (error : ConfigError)

/-- What a run has decided and is about to write. -/
structure ConfigureRun (State : Type) where
  decisions : List OperationDecision
  report : Option ReconcileReport
  operations : List Json
  policy : Json
  state : State

section Run

variable {State : Type} (unicode : PyUnicode) (prompter : Prompter State)

/-- The decisions, with the report of a reconciliation and the prompter's last state. -/
def configureDecisions (loaded : LoadedConfig) (introspected : List Operation) (state : State) :
    Except ConfigureError (List OperationDecision × Option ReconcileReport × State) :=
  if loaded.config.operations.isEmpty then
    let surveyed := runSurvey prompter [] introspected state
    return (surveyed.1, none, surveyed.2)
  else
    match decisionsFromConfig unicode loaded.config loaded.policy with
    | .error error => throw (.unsupportedMethod error)
    | .ok previous =>
        match runReconcile prompter introspected previous state with
        | none => throw .assertionError
        | some (decisions, report) =>
            return (decisions, some report,
              (surveyReported prompter introspected previous report state).2)

/-- `_run_configure` after the introspection and before the first write. -/
def runConfigure (loaded : LoadedConfig) (introspected : List Operation) (state : State) :
    Except ConfigureError (ConfigureRun State) := do
  let (decisions, report, state) ←
    configureDecisions unicode prompter loaded introspected state
  let operations ← (renderOperations unicode decisions).mapError .config
  return { decisions, report, operations, policy := renderPolicy decisions loaded.policy, state }

end Run

/-- The files that were written: the policy goes first. -/
inductive Written where
  | nothing
  | policyOnly
  | both
  deriving DecidableEq

/-- `write_with_confirmation` of the policy, then of the configuration. -/
def confirmWrites {State : Type} (prompter : Prompter State) (policyPath configPath : String)
    (state : State) : Written × State :=
  let (writePolicy, state) := prompter.confirm state (.write policyPath) true
  if !writePolicy then (.nothing, state)
  else
    let (writeConfig, state) := prompter.confirm state (.write configPath) true
    (if writeConfig then .both else .policyOnly, state)

/-- The upstreams whose document is fetched. -/
def introspectedUpstreams (config : McpPortalConfig) : List String :=
  Dict.keys (config.upstreams.filter fun upstream => upstream.2.introspection.isSome)

section Outcome

variable {State : Type} {unicode : PyUnicode} {prompter : Prompter State} {loaded : LoadedConfig}
  {introspected : List Operation} {state : State} {run : ConfigureRun State}

/-- A run over a configuration with operations has reconciled them. -/
theorem runConfigure_reconciled (ran : runConfigure unicode prompter loaded introspected state = .ok run)
    (configured : loaded.config.operations ≠ []) :
    ∃ previous report, decisionsFromConfig unicode loaded.config loaded.policy = .ok previous ∧
      runReconcile prompter introspected previous state = some (run.decisions, report) ∧
      run.report = some report ∧
      run.state = (surveyReported prompter introspected previous report state).2 ∧
      renderOperations unicode run.decisions = .ok run.operations ∧
      run.policy = renderPolicy run.decisions loaded.policy := by
  have notEmpty : loaded.config.operations.isEmpty = false := by simpa using configured
  simp only [runConfigure, bind_eq_ok, pure_eq_ok, mapError_eq_ok, configureDecisions, notEmpty,
    Bool.false_eq_true, if_false] at ran
  rcases ran with ⟨⟨decisions, report, final⟩, decided, operations, rendered, rfl⟩
  split at decided
  · cases decided
  case h_2 previous recorded =>
    split at decided
    · cases decided
    case h_2 reconciled =>
      cases decided
      exact ⟨previous, _, recorded, reconciled, rfl, rfl, rendered, rfl⟩

/-- A run over a configuration without operations has surveyed what was introspected. -/
theorem runConfigure_surveyed (ran : runConfigure unicode prompter loaded introspected state = .ok run)
    (unconfigured : loaded.config.operations = []) :
    run.decisions = (runSurvey prompter [] introspected state).1 ∧
      run.report = none ∧
      run.state = (runSurvey prompter [] introspected state).2 ∧
      renderOperations unicode run.decisions = .ok run.operations ∧
      run.policy = renderPolicy run.decisions loaded.policy := by
  simp only [runConfigure, bind_eq_ok, pure_eq_ok, mapError_eq_ok, configureDecisions, unconfigured,
    List.isEmpty_nil, if_true] at ran
  rcases ran with ⟨_, rfl, operations, rendered, rfl⟩
  exact ⟨rfl, rfl, rfl, rendered, rfl⟩

theorem runConfigure_policy (ran : runConfigure unicode prompter loaded introspected state = .ok run) :
    run.policy = renderPolicy run.decisions loaded.policy := by
  by_cases unconfigured : loaded.config.operations = []
  · exact (runConfigure_surveyed ran unconfigured).2.2.2.2
  · rcases runConfigure_reconciled ran unconfigured with ⟨_, _, _, _, _, _, _, rendered⟩
    exact rendered

end Outcome

end McpPortal
