import McpPortal.Configure.HandWritten
import McpPortal.Configure.Introspected

/-!
# What a run decides on

A decision of a run is on an introspected operation, or it is a recorded one that is unchanged: an
introspected operation under its id has an equal binding.
-/

namespace McpPortal

open Foundation

namespace PyConfigure

/-- A decision on one of the operations. -/
def Decides (operations : List Unchecked.Operation) (decision : Decision) : Prop :=
  ∃ op ∈ operations, decision.operation = .introspected op

section Survey

variable {State : Type} {prompter : Prompter State}
  {sortedByTag : List Unchecked.Operation → Running (List Unchecked.Operation)}
  {defaults : List (String × OperationDecision)}

theorem Decides.mono {left right : List Unchecked.Operation} {decision : Decision}
    (decides : Decides left decision) (within : left ⊆ right) : Decides right decision := by
  rcases decides with ⟨op, opMem, isOperation⟩
  exact ⟨op, within opMem, isOperation⟩

theorem operation_of_surveyOne {op : Unchecked.Operation} {state : State}
    {surveyed : Decision × State} (ran : surveyOne prompter defaults op state = .ok surveyed) :
    surveyed.1.operation = .introspected op := by
  simp only [surveyOne, bind_eq_ok] at ran
  rcases ran with ⟨default, _, ⟨exposed, later⟩, _, ran⟩
  cases exposed with
  | false =>
      cases ran
      rfl
  | true =>
      simp only [Bool.not_true, Bool.false_eq_true, if_false, bind_eq_ok, pure_eq_ok] at ran
      rcases ran with ⟨_, _, _, _, rfl⟩
      rfl

theorem decides_of_surveyEach {operations : List Unchecked.Operation} {state : State}
    {surveyed : List Decision × State}
    (ran : surveyEach prompter defaults operations state = .ok surveyed) :
    ∀ decision ∈ surveyed.1, Decides operations decision := by
  induction operations generalizing state surveyed with
  | nil =>
      cases ran
      intro decision decisionMem
      cases decisionMem
  | cons op rest ih =>
      simp only [surveyEach, bind_eq_ok, pure_eq_ok] at ran
      rcases ran with ⟨first, surveys, others, later, rfl⟩
      intro decision decisionMem
      rcases List.mem_cons.mp decisionMem with rfl | otherMem
      · exact ⟨op, List.mem_cons_self, operation_of_surveyOne surveys⟩
      · exact (ih later decision otherMem).mono (List.subset_cons_self _ _)

theorem decides_of_surveyGroup {group : List Unchecked.Operation} {state : State}
    {surveyed : List Decision × State}
    (ran : surveyGroup prompter defaults group state = .ok surveyed) :
    ∀ decision ∈ surveyed.1, Decides group decision := by
  simp only [surveyGroup, bind_eq_ok] at ran
  rcases ran with ⟨⟨acceptAll, later⟩, _, ran⟩
  cases acceptAll with
  | false => exact decides_of_surveyEach ran
  | true =>
      simp only [if_true, bind_eq_ok, pure_eq_ok] at ran
      rcases ran with ⟨decisions, accepted, rfl⟩
      intro decision decisionMem
      rcases mem_of_mapM_eq_ok accepted decisionMem with ⟨op, opMem, accepts⟩
      simp only [acceptedDecision, bind_eq_ok, pure_eq_ok] at accepts
      rcases accepts with ⟨_, _, rfl⟩
      exact ⟨op, opMem, rfl⟩

theorem decides_of_surveyGroups {groups : List (List Unchecked.Operation)} {state : State}
    {surveyed : List Decision × State}
    (ran : surveyGroups prompter defaults groups state = .ok surveyed) :
    ∀ decision ∈ surveyed.1, Decides groups.flatten decision := by
  induction groups generalizing state surveyed with
  | nil =>
      cases ran
      intro decision decisionMem
      cases decisionMem
  | cons group rest ih =>
      simp only [surveyGroups, bind_eq_ok, pure_eq_ok] at ran
      rcases ran with ⟨first, surveys, others, later, rfl⟩
      intro decision decisionMem
      rw [List.flatten_cons]
      rcases List.mem_append.mp decisionMem with ownMem | otherMem
      · exact (decides_of_surveyGroup surveys decision ownMem).mono (List.subset_append_left _ _)
      · exact (ih later decision otherMem).mono (List.subset_append_right _ _)

/-- Sorting by tags neither drops nor adds an operation. -/
def Permutes (sortedByTag : List Unchecked.Operation → Running (List Unchecked.Operation)) : Prop :=
  ∀ operations sorted, sortedByTag operations = .ok sorted → sorted.Perm operations

theorem decides_of_runSurvey (permutes : Permutes sortedByTag)
    {operations : List Unchecked.Operation} {state : State} {surveyed : List Decision × State}
    (ran : runSurvey prompter sortedByTag defaults operations state = .ok surveyed) :
    ∀ decision ∈ surveyed.1, Decides operations decision := by
  simp only [runSurvey, bind_eq_ok] at ran
  rcases ran with ⟨ordered, sorts, ran⟩
  intro decision decisionMem
  have decides := decides_of_surveyGroups ran decision decisionMem
  rw [List.flatten_splitBy] at decides
  exact decides.mono (permutes operations ordered sorts).subset

end Survey

section Reconcile

theorem value_of_mem_assignAll {Value : Type} {assignments : List (DictKey × Value)}
    {start : PyDict Value} {entry : HashKey × DictKey × Value}
    (entryMem : entry ∈ start.assignAll assignments) :
    entry ∈ start ∨ entry.2.2 ∈ assignments.map (·.2) := by
  induction assignments generalizing start with
  | nil => exact Or.inl entryMem
  | cons assignment rest ih =>
      rcases ih entryMem with assigned | later
      · change entry ∈ start.assign assignment.1 assignment.2 at assigned
        unfold PyDict.assign at assigned
        split at assigned
        all_goals
          rcases Dict.mem_insert_cases assigned with rfl | before
          · exact Or.inr List.mem_cons_self
          · exact Or.inl before
      · exact Or.inr (List.mem_cons_of_mem _ later)

/-- What is found under an id was introspected. -/
theorem mem_of_operationsById {current : List Unchecked.Operation}
    {currentById : PyDict Unchecked.Operation} (ran : operationsById current = .ok currentById)
    {key : HashKey} {spelling : DictKey} {op : Unchecked.Operation}
    (found : Dict.get? currentById key = some (spelling, op)) : op ∈ current := by
  simp only [operationsById, bind_eq_ok, pure_eq_ok] at ran
  rcases ran with ⟨keyed, hashes, rfl⟩
  rcases value_of_mem_assignAll (Dict.mem_of_get? found) with present | assigned
  · cases present
  · rcases List.mem_map.mp assigned with ⟨pair, pairMem, isOp⟩
    rcases mem_of_mapM_eq_ok hashes pairMem with ⟨own, ownMem, made⟩
    simp only [bind_eq_ok, pure_eq_ok] at made
    rcases made with ⟨_, _, rfl⟩
    cases isOp
    exact ownMem

variable {previous : List (String × OperationDecision)}
  {currentById : PyDict Unchecked.Operation}

/-- An unchanged id has a recorded and an introspected operation with equal bindings. -/
theorem recorded_of_unchanged {report : ReconcileReport}
    (ran : diffOperationIds previous currentById = .ok report) {id : String}
    (unchanged : id ∈ report.unchanged) :
    ∃ decision spelling op, Dict.get? previous id = some decision ∧
      Dict.get? currentById (.text id) = some (spelling, op) ∧
      compareBindings decision.operation op = .ok true := by
  simp only [diffOperationIds, bind_eq_ok, pure_eq_ok] at ran
  rcases ran with ⟨_, _, compared, compares, rfl⟩
  rcases List.mem_map.mp unchanged with ⟨pair, pairMem, rfl⟩
  rcases List.mem_filter.mp pairMem with ⟨comparedMem, isSame⟩
  rcases mem_of_mapM_eq_ok compares comparedMem with ⟨own, _, made⟩
  simp only [bind_eq_ok, pure_eq_ok] at made
  rcases made with ⟨same, recorded, rfl⟩
  dsimp only at isSame
  subst isSame
  unfold sameRecorded at recorded
  split at recorded
  case h_1 decision spelling op isDecision isOp =>
    exact ⟨decision, spelling, op, isDecision, isOp, recorded⟩
  case h_2 => cases recorded

end Reconcile

section Run

variable {State : Type} {unicode : PyUnicode} {prompter : Prompter State}
  {sortedByTag : List Unchecked.Operation → Running (List Unchecked.Operation)}
  {introspected : List Unchecked.Operation} {state : State}

/-- A recorded decision, for which an introspected operation has an equal binding. -/
def Keeps (introspected : List Unchecked.Operation) (previous : List (String × OperationDecision))
    (decision : Decision) : Prop :=
  ∃ id recorded, Dict.get? previous id = some recorded ∧ decision = Decision.ofRecorded recorded ∧
    ∃ op ∈ introspected, compareBindings recorded.operation op = .ok true

theorem decided_of_runReconcile (permutes : Permutes sortedByTag)
    {previous : List (String × OperationDecision)}
    {result : List Decision × ReconcileReport × State}
    (ran : runReconcile prompter sortedByTag introspected previous state = .ok result) :
    ∀ decision ∈ result.1, Decides introspected decision ∨
      Keeps introspected previous decision := by
  simp only [runReconcile, bind_eq_ok] at ran
  rcases ran with ⟨currentById, indexed, report, compared, ran⟩
  have kept : ∀ decision ∈ (report.unchanged.filterMap (Dict.get? previous)).map
      Decision.ofRecorded, Keeps introspected previous decision := by
    intro decision decisionMem
    rcases List.mem_map.mp decisionMem with ⟨recorded, recordedMem, rfl⟩
    rcases List.mem_filterMap.mp recordedMem with ⟨id, unchanged, found⟩
    rcases recorded_of_unchanged compared unchanged with ⟨own, _, op, isOwn, isOp, same⟩
    cases found.symm.trans isOwn
    exact ⟨id, recorded, found, rfl, op, mem_of_operationsById indexed isOp, same⟩
  split at ran
  · cases ran
    exact fun decision decisionMem => Or.inr (kept decision decisionMem)
  · simp only [bind_eq_ok, pure_eq_ok] at ran
    rcases ran with ⟨surveyed, surveys, rfl⟩
    intro decision decisionMem
    rcases List.mem_append.mp decisionMem with keptMem | surveyedMem
    · exact Or.inr (kept decision keptMem)
    · refine Or.inl ((decides_of_runSurvey permutes surveys decision surveyedMem).mono ?_)
      intro op opMem
      rcases List.mem_filterMap.mp opMem with ⟨key, _, found⟩
      rcases Option.map_eq_some_iff.mp found with ⟨⟨spelling, own⟩, isOwn, rfl⟩
      exact mem_of_operationsById indexed isOwn

/-- Every decision of a run is on an introspected operation, or recorded and unchanged. -/
theorem decided_of_runConfigure (permutes : Permutes sortedByTag) {loaded : LoadedConfig}
    {run : ConfigureRun State}
    (ran : runConfigure unicode prompter sortedByTag loaded introspected state = .ok run) :
    ∀ decision ∈ run.decisions, Decides introspected decision ∨
      ∃ operations, configuredOperations unicode loaded.config = .ok operations ∧
        Keeps introspected (operations.map (recordOperation loaded.policy)) decision := by
  simp only [runConfigure, bind_eq_ok, pure_eq_ok] at ran
  rcases ran with ⟨⟨decisions, report, later⟩, decided, operations, _, rfl⟩
  unfold configureDecisions at decided
  split at decided
  · simp only [bind_eq_ok, pure_eq_ok] at decided
    rcases decided with ⟨surveyed, surveys, made⟩
    cases made
    exact fun decision decisionMem =>
      Or.inl (decides_of_runSurvey permutes surveys decision decisionMem)
  · rw [decisionsFromConfig_eq] at decided
    split at decided
    case h_1 => cases decided
    case h_2 previous recorded =>
      rcases map_eq_ok.mp recorded with ⟨configured, configuredAs, rfl⟩
      simp only [bind_eq_ok] at decided
      rcases decided with ⟨reconciled, reconciles, decided⟩
      have within := decided_of_runReconcile permutes reconciles
      split at decided
      · cases decided
      · cases decided
        intro decision decisionMem
        rcases within decision decisionMem with decides | keeps
        · exact Or.inl decides
        · exact Or.inr ⟨configured, configuredAs, keeps⟩

theorem rendered_of_runConfigure {loaded : LoadedConfig} {run : ConfigureRun State}
    (ran : runConfigure unicode prompter sortedByTag loaded introspected state = .ok run) :
    renderOperations unicode run.decisions = .ok run.operations := by
  simp only [runConfigure, bind_eq_ok, pure_eq_ok] at ran
  rcases ran with ⟨_, _, operations, rendered, rfl⟩
  exact rendered

end Run

end PyConfigure

end McpPortal
