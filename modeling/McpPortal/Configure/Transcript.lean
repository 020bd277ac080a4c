import McpPortal.Configure.Survey

/-!
# What was asked during a survey

A recording prompter answers like the one behind it and keeps the questions that
were confirmed or declined. What holds of each decision when it is made, and is not
undone by further questions, holds of all decisions at the end of a survey.
-/

namespace McpPortal

open Foundation

/-- Questions with their answers, the last one first. -/
abbrev Transcript := List (Question × Bool)

def Prompter.recording {State : Type} (prompter : Prompter State) :
    Prompter (Transcript × State) where
  confirm recorded question proposed :=
    let (answer, state) := prompter.confirm recorded.2 question proposed
    (answer, (question, answer) :: recorded.1, state)
  text recorded question proposed :=
    let (answer, state) := prompter.text recorded.2 question proposed
    (answer, recorded.1, state)

/-- An operator who accepts every proposal. -/
def Prompter.proposing : Prompter Unit where
  confirm state _ proposed := (proposed, state)
  text state _ proposed := (proposed, state)

/-- A question of a survey of operations with these ids. -/
def Question.IsAbout (ids : List String) : Question → Prop
  | .exposeAll _ _ => True
  | .expose id _ => id ∈ ids
  | .markSensitive id => id ∈ ids
  | .requireDetail id => id ∈ ids
  | .requiredDetailType => True
  | .write _ => False

section Rules

variable {State : Type} {prompter : Prompter State} (defaults : List (String × OperationDecision))
  {ids : List String} {Reaches : State → State → Prop}

/-- How questions about operations with these ids may change the prompter's state. -/
structure Prompter.Steps (prompter : Prompter State) (ids : List String)
    (Reaches : State → State → Prop) : Prop where
  refl : ∀ state, Reaches state state
  trans : ∀ {first second third}, Reaches first second → Reaches second third → Reaches first third
  confirm : ∀ state question proposed, question.IsAbout ids →
    Reaches state (prompter.confirm state question proposed).2
  text : ∀ state question proposed, Reaches state (prompter.text state question proposed).2

/-- What holds of each decision when it is made, and later. -/
structure Prompter.Establishes (prompter : Prompter State) (Reaches : State → State → Prop)
    (operations : List Operation) (Holds : OperationDecision → State → Prop) : Prop where
  persists : ∀ {decision state next}, Holds decision state → Reaches state next → Holds decision next
  accepted : ∀ op ∈ operations, ∀ state, Holds (acceptedDecision defaults op) state
  surveyed : ∀ op ∈ operations, ∀ state, Holds (surveyOne prompter defaults op state).1
    (surveyOne prompter defaults op state).2

variable {defaults} in
theorem Prompter.Establishes.of_subset {operations fewer : List Operation}
    {Holds : OperationDecision → State → Prop}
    (holds : prompter.Establishes defaults Reaches operations Holds) (within : fewer ⊆ operations) :
    prompter.Establishes defaults Reaches fewer Holds where
  persists := holds.persists
  accepted op opMem := holds.accepted op (within opMem)
  surveyed op opMem := holds.surveyed op (within opMem)

section Steps

variable (steps : prompter.Steps ids Reaches)
include steps

theorem surveyRequire_reaches {op : Operation} (known : op.id ∈ ids) (default : OperationDecision)
    (state : State) : Reaches state (surveyRequire prompter op default state).2 := by
  have asked := steps.confirm state (.requireDetail op.id) default.require.isSome known
  simp only [surveyRequire]
  split
  · exact steps.refl state
  · split
    · exact asked
    · exact steps.trans asked (steps.text _ _ _)

theorem surveyOne_reaches {op : Operation} (known : op.id ∈ ids) (state : State) :
    Reaches state (surveyOne prompter defaults op state).2 := by
  have asked := steps.confirm state (.expose op.id op.effect) (defaultFor op defaults).exposed known
  simp only [surveyOne]
  split
  · exact asked
  · refine steps.trans asked (steps.trans ?_ (surveyRequire_reaches steps known _ _))
    exact steps.confirm _ (.markSensitive op.id) _ known

variable {Holds : OperationDecision → State → Prop}

theorem surveyEach_rule {operations : List Operation} (known : ∀ op ∈ operations, op.id ∈ ids)
    (holds : prompter.Establishes defaults Reaches operations Holds) (state : State) :
    Reaches state (surveyEach prompter defaults operations state).2 ∧
      ∀ decision ∈ (surveyEach prompter defaults operations state).1,
        Holds decision (surveyEach prompter defaults operations state).2 := by
  induction operations generalizing state with
  | nil => exact ⟨steps.refl state, fun _ decisionMem => absurd decisionMem List.not_mem_nil⟩
  | cons op rest ih =>
      have first := surveyOne_reaches defaults steps (known op List.mem_cons_self) state
      have later := ih (fun other otherMem => known other (List.mem_cons_of_mem _ otherMem))
        (holds.of_subset (List.subset_cons_self _ _)) (surveyOne prompter defaults op state).2
      refine ⟨steps.trans first later.1, ?_⟩
      intro decision decisionMem
      rcases List.mem_cons.mp decisionMem with rfl | laterMem
      · exact holds.persists (holds.surveyed op List.mem_cons_self state) later.1
      · exact later.2 decision laterMem

theorem surveyGroup_rule {group : List Operation} (known : ∀ op ∈ group, op.id ∈ ids)
    (holds : prompter.Establishes defaults Reaches group Holds) (state : State) :
    Reaches state (surveyGroup prompter defaults group state).2 ∧
      ∀ decision ∈ (surveyGroup prompter defaults group state).1,
        Holds decision (surveyGroup prompter defaults group state).2 := by
  have asked := steps.confirm state
    (.exposeAll group.length ((group.head?.map tagFor).getD ungroupedTag)) true trivial
  simp only [surveyGroup]
  split
  · refine ⟨asked, ?_⟩
    intro decision decisionMem
    rcases List.mem_map.mp decisionMem with ⟨op, opMem, rfl⟩
    exact holds.accepted op opMem _
  · have each := surveyEach_rule defaults steps known holds
    exact ⟨steps.trans asked (each _).1, (each _).2⟩

theorem surveyGroups_rule {groups : List (List Operation)}
    (known : ∀ op ∈ groups.flatten, op.id ∈ ids)
    (holds : prompter.Establishes defaults Reaches groups.flatten Holds) (state : State) :
    Reaches state (surveyGroups prompter defaults groups state).2 ∧
      ∀ decision ∈ (surveyGroups prompter defaults groups state).1,
        Holds decision (surveyGroups prompter defaults groups state).2 := by
  induction groups generalizing state with
  | nil => exact ⟨steps.refl state, fun _ decisionMem => absurd decisionMem List.not_mem_nil⟩
  | cons group rest ih =>
      rw [List.flatten_cons] at known holds
      have first := surveyGroup_rule defaults steps
        (fun op opMem => known op (List.mem_append_left _ opMem))
        (holds.of_subset (List.subset_append_left _ _)) state
      have later := ih (fun op opMem => known op (List.mem_append_right _ opMem))
        (holds.of_subset (List.subset_append_right _ _)) (surveyGroup prompter defaults group state).2
      refine ⟨steps.trans first.1 later.1, ?_⟩
      intro decision decisionMem
      rcases List.mem_append.mp decisionMem with firstMem | laterMem
      · exact holds.persists (first.2 decision firstMem) later.1
      · exact later.2 decision laterMem

/-- What is established for each decision holds of all of them in the end. -/
theorem runSurvey_rule {operations : List Operation} (known : ∀ op ∈ operations, op.id ∈ ids)
    (holds : prompter.Establishes defaults Reaches operations Holds) (state : State) :
    Reaches state (runSurvey prompter defaults operations state).2 ∧
      ∀ decision ∈ (runSurvey prompter defaults operations state).1,
        Holds decision (runSurvey prompter defaults operations state).2 := by
  have within : (groupsByTag operations).flatten ⊆ operations := by
    intro op opMem
    rwa [groupsByTag, List.flatten_splitBy, List.mem_insertionSort] at opMem
  exact surveyGroups_rule defaults steps (fun op opMem => known op (within opMem))
    (holds.of_subset within) state

end Steps

end Rules

section Recording

variable {State : Type} {prompter : Prompter State} {ids : List String}

/-- A transcript grows, by questions about the operations. -/
def Extends (ids : List String) (before after : Transcript × State) : Prop :=
  before.1 ⊆ after.1 ∧
    ∀ asked ∈ after.1, asked ∈ before.1 ∨ asked.1.IsAbout ids

theorem steps_recording (prompter : Prompter State) (ids : List String) :
    prompter.recording.Steps ids (Extends ids) where
  refl recorded := ⟨List.Subset.refl _, fun _ askedMem => Or.inl askedMem⟩
  trans {first second third} := by
    rintro ⟨kept, added⟩ ⟨keptLater, addedLater⟩
    refine ⟨List.Subset.trans kept keptLater, fun asked askedMem => ?_⟩
    rcases addedLater asked askedMem with before | isAbout
    · exact added asked before
    · exact Or.inr isAbout
  confirm recorded question proposed isAbout := by
    refine ⟨List.subset_cons_self _ _, fun asked askedMem => ?_⟩
    rcases List.mem_cons.mp askedMem with rfl | before
    · exact Or.inr isAbout
    · exact Or.inl before
  text recorded question proposed := ⟨List.Subset.refl _, fun _ askedMem => Or.inl askedMem⟩

/-- The operation was not to be exposed, by an answer. -/
def Declined (transcript : Transcript) (id : String) : Prop :=
  ∃ effect, (Question.expose id effect, false) ∈ transcript

theorem Declined.mono {before after : Transcript} {id : String} (declined : Declined before id)
    (kept : before ⊆ after) : Declined after id := by
  rcases declined with ⟨effect, askedMem⟩
  exact ⟨effect, kept askedMem⟩

theorem surveyOne_declined (defaults : List (String × OperationDecision)) (op : Operation)
    (recorded : Transcript × State)
    (notExposed : (surveyOne prompter.recording defaults op recorded).1.exposed = false) :
    Declined (surveyOne prompter.recording defaults op recorded).2.1 op.id := by
  simp only [surveyOne] at notExposed ⊢
  split at notExposed
  case isTrue declined =>
    rw [if_pos declined]
    refine ⟨op.effect, List.mem_cons.mpr (Or.inl ?_)⟩
    rw [Bool.not_eq_true'] at declined
    exact congrArg _ declined.symm
  case isFalse => cases notExposed

/-- Whatever is not exposed was declined, and nobody was asked about other operations. -/
theorem runSurvey_recording (defaults : List (String × OperationDecision))
    {operations : List Operation} (recorded : Transcript × State) :
    Extends (operations.map (·.id)) recorded
        (runSurvey prompter.recording defaults operations recorded).2 ∧
      ∀ decision ∈ (runSurvey prompter.recording defaults operations recorded).1,
        decision.exposed = false →
          Declined (runSurvey prompter.recording defaults operations recorded).2.1
            decision.operation.id := by
  have holds : prompter.recording.Establishes defaults (Extends (operations.map (·.id))) operations
      fun decision recorded =>
        decision.exposed = false → Declined recorded.1 decision.operation.id := by
    refine ⟨?_, ?_, ?_⟩
    · intro decision before after declined later notExposed
      exact (declined notExposed).mono later.1
    · intro op _ state notExposed
      cases notExposed
    · intro op _ state notExposed
      rw [operation_surveyOne]
      exact surveyOne_declined defaults op state notExposed
  exact runSurvey_rule defaults (steps_recording prompter (operations.map (·.id)))
    (fun op opMem => List.mem_map_of_mem opMem) holds recorded

end Recording

end McpPortal
