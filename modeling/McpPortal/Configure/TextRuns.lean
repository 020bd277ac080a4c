import McpPortal.Configure.TextSurvey
import McpPortal.Foundation.DictAlike
import McpPortal.Foundation.Lockstep

/-!
# Runs over operations whose values are texts

Where the operations of the documents have texts as ids, tags and names and objects as schemas, a
run over unchecked operations raises what the run over checked ones raises, or decides and writes
what that run does.
-/

namespace McpPortal

open Foundation

namespace PyConfigure

/-- How the error of a run over checked operations is raised. -/
def raising : ConfigureError → PyException ConfigureError
  | .assertionError => .assertionError
  | error => .raised error

/-- What an assertion leaves. -/
def asserted {Value : Type} : Option Value → Running Value
  | some value => .ok value
  | none => .error .assertionError

@[simp]
theorem asserted_bind {Value Result : Type} (found : Option Value) (next : Value → Option Result) :
    asserted (found.bind next) = asserted found >>= fun value => asserted (next value) := by
  cases found <;> rfl

section Compared

theorem sameParameter_unchecked (left right : Parameter) :
    sameParameter left right.unchecked = McpPortal.sameParameter left right := by
  have sameExplode : Json.pyEq (.bool left.explode) (.bool right.explode) =
      decide (left.explode = right.explode) := by
    cases left.explode <;> cases right.explode <;> rfl
  have isForm : right.style = .form := by
    cases right.style
    rfl
  have sameText (first second : String) :
      Json.pyEq (.str first) (.str second) = decide (first = second) := rfl
  rw [sameParameter, McpPortal.sameParameter, isForm, ← sameExplode, ← sameText, ← sameText]
  rfl

theorem sameBody_unchecked (left right : Option BodySpec)
    (flattens : ∀ body ∈ right, body.mode = .flatten) :
    sameBody left (right.map (·.unchecked)) = McpPortal.sameBody left right := by
  cases left with
  | none => cases right <;> rfl
  | some left =>
      cases right with
      | none => rfl
      | some right =>
          change (_ && decide (left.mode = .flatten) && _) =
            (_ && decide (left.mode = right.mode) && _)
          rw [flattens right rfl]
          rfl

theorem sameBinding_unchecked (left right : HttpBinding)
    (flattens : ∀ body ∈ right.body, body.mode = .flatten) :
    sameBinding left right.unchecked = McpPortal.sameBinding left right := by
  have parameters : (left.parameters.zip right.unchecked.parameters).all
      (fun pair => sameParameter pair.1 pair.2) =
        (left.parameters.zip right.parameters).all
          fun pair => McpPortal.sameParameter pair.1 pair.2 := by
    rw [HttpBinding.unchecked_parameters, List.zip_map_right, List.all_map]
    congr 1
    funext pair
    exact sameParameter_unchecked pair.1 pair.2
  rw [sameBinding, McpPortal.sameBinding, parameters, HttpBinding.unchecked_body,
    sameBody_unchecked _ _ flattens, HttpBinding.unchecked_parameters, List.length_map]
  rfl

theorem compareBindings_reads {op : Operation} {unchecked : Unchecked.Operation}
    (reads : Reads op unchecked) (previous : Operation) :
    compareBindings previous unchecked = asserted (McpPortal.compareBindings previous op) := by
  rcases reads.binding with ⟨own, isOwn, isUnchecked⟩
  rw [compareBindings, McpPortal.compareBindings, isOwn, isUnchecked]
  cases previous.binding with
  | graphQl _ => rfl
  | http left =>
      dsimp only
      rw [sameBinding_unchecked left own (reads.flattens own isOwn)]
      rfl

end Compared

/-- The operations by their ids. -/
abbrev Indexed (currentById : List (String × Operation))
    (uncheckedById : PyDict Unchecked.Operation) : Prop :=
  uncheckedById.OfTexts (fun unchecked op => Reads op unchecked) currentById

theorem operationsById_reads {operations : List Operation} {uncheckeds : List Unchecked.Operation}
    (same : List.Forall₂ Reads operations uncheckeds) :
    ∃ uncheckedById, operationsById uncheckeds = .ok uncheckedById ∧
      Indexed (McpPortal.operationsById operations) uncheckedById := by
  have keyed : ∃ keyed, (uncheckeds.mapM fun op => do
        let id ← hashed op.id
        return (id, op)) = (.ok keyed : Running _) ∧
      List.Forall₂ (fun left right => left.1 = DictKey.ofText right.1 ∧ Reads right.2 left.2) keyed
        (operations.map fun op => (op.id, op)) := by
    simp only [mapM_eq_ok_iff_forall₂, List.forall₂_map_right_iff]
    induction same with
    | nil => exact ⟨[], .nil, .nil⟩
    | @cons op unchecked _ _ reads _ ih =>
        rcases ih with ⟨keyed, later, sameLater⟩
        refine ⟨(.ofText op.id, unchecked) :: keyed, .cons ?_ later, .cons ⟨rfl, reads⟩ sameLater⟩
        rw [reads.id]
        rfl
  rcases keyed with ⟨keyed, hashes, pairs⟩
  refine ⟨PyDict.assignAll [] keyed, ?_, PyDict.OfTexts.assignAll Dict.Alike.nil pairs⟩
  rw [operationsById, hashes]
  rfl

/-- The same ids. -/
structure SameReport (report : McpPortal.ReconcileReport) (own : ReconcileReport) : Prop where
  new : own.new = report.new.map DictKey.ofText
  removed : own.removed = report.removed
  changed : own.changed = report.changed
  unchanged : own.unchanged = report.unchanged

section Diff

variable {previous : List (String × OperationDecision)} {currentById : List (String × Operation)}
  {uncheckedById : PyDict Unchecked.Operation}

theorem mem_keys_of_indexed (indexed : Indexed currentById uncheckedById) (id : String) :
    HashKey.text id ∈ Dict.keys uncheckedById ↔ id ∈ Dict.keys currentById := by
  rw [Dict.Alike.keys indexed, List.mem_map_of_injective HashKey.text_injective]

theorem sameRecorded_indexed (indexed : Indexed currentById uncheckedById) {id : String}
    (isRecorded : id ∈ Dict.keys previous) (isCurrent : id ∈ Dict.keys currentById) :
    sameRecorded previous uncheckedById id =
      asserted (McpPortal.sameRecorded previous currentById id) := by
  rcases Option.ne_none_iff_exists'.mp (mt Dict.get?_eq_none_iff.mp (not_not_intro isRecorded)) with
    ⟨decision, isDecision⟩
  have found := indexed.get? HashKey.text_injective id
  unfold sameRecorded McpPortal.sameRecorded
  rw [isDecision]
  generalize Dict.get? uncheckedById (.text id) = own at found
  generalize hasCurrent : Dict.get? currentById id = known at found
  cases found with
  | none => exact absurd isCurrent (Dict.get?_eq_none_iff.mp hasCurrent)
  | @some own op reads => exact compareBindings_reads reads.2 decision.operation

/-- The comparisons one by one, and the ids they split. -/
theorem agree_splitChanged {ids : List String}
    (recorded : ∀ id ∈ ids, sameRecorded previous uncheckedById id =
      asserted (McpPortal.sameRecorded previous currentById id)) :
    Agree (fun split compared =>
        (compared.filter fun entry : String × Bool => !entry.2).map (·.1) = split.1 ∧
          (compared.filter (·.2)).map (·.1) = split.2)
      (asserted (splitChanged previous currentById ids))
      (ids.mapM fun id => do
        let same ← sameRecorded previous uncheckedById id
        return (id, same)) := by
  induction ids with
  | nil => exact .ok ⟨rfl, rfl⟩
  | cons id rest ih =>
      rw [List.forall_mem_cons] at recorded
      rw [List.mapM_cons, splitChanged, recorded.1]
      simp only [Option.bind_eq_bind, asserted_bind, bind_assoc, pure_bind]
      apply (Agree.refl _).bind
      rintro same _ rfl
      apply (ih recorded.2).bind
      intro split compared entries
      cases same with
      | true => exact .ok ⟨entries.1, congrArg (id :: ·) entries.2⟩
      | false => exact .ok ⟨congrArg (id :: ·) entries.1, entries.2⟩

variable {operations : List Operation}

theorem agree_diffOperationIds
    (indexed : Indexed (McpPortal.operationsById operations) uncheckedById) :
    Agree SameReport (asserted (McpPortal.diffOperationIds previous operations))
      (diffOperationIds previous uncheckedById) := by
  have isCurrent (id : String) : decide (HashKey.text id ∈ Dict.keys uncheckedById) =
      decide (id ∈ Dict.keys (McpPortal.operationsById operations)) := by
    rw [decide_eq_decide, mem_keys_of_indexed indexed]
  have fresh : (uncheckedById.keys.filter fun id =>
        decide (id.key ∉ (Dict.keys previous).map HashKey.text)) =
      ((Dict.keys (McpPortal.operationsById operations)).filter fun id =>
        decide (id ∉ Dict.keys previous)).map DictKey.ofText := by
    rw [PyDict.OfTexts.keys indexed, List.filter_map]
    congr 1
    apply List.filter_congr
    intro id _
    rw [Function.comp_apply, DictKey.key_ofText, decide_eq_decide,
      List.mem_map_of_injective HashKey.text_injective]
  simp only [diffOperationIds, McpPortal.diffOperationIds, isCurrent, fresh, sortedItems_ofTexts,
    Option.bind_eq_bind, asserted_bind]
  change Agree _ _ (List.mapM _ _ >>= _)
  apply (agree_splitChanged ?_).bind
  · intro split compared entries
    refine .ok ⟨rfl, ?_, entries.1, entries.2⟩
    simp only [decide_not]
  · intro id idMem
    rcases List.mem_filter.mp (mem_sortedIds.mp idMem) with ⟨isRecorded, isKnown⟩
    exact sameRecorded_indexed indexed isRecorded (of_decide_eq_true isKnown)

theorem toSurvey_reads (indexed : Indexed (McpPortal.operationsById operations) uncheckedById)
    {report : McpPortal.ReconcileReport} {own : ReconcileReport} (same : SameReport report own) :
    List.Forall₂ Reads (McpPortal.toSurvey operations report) (toSurvey uncheckedById own) := by
  have keys : own.new.map (·.key) ++ own.changed.map HashKey.text =
      (report.new ++ report.changed).map HashKey.text := by
    rw [same.new, same.changed, List.map_map, List.map_append]
    rfl
  rw [toSurvey, keys, McpPortal.toSurvey, List.filterMap_map]
  apply List.rel_filterMap _ (List.forall₂_eq_eq_eq ▸ rfl : List.Forall₂ Eq _ _)
  rintro id _ rfl
  have found := indexed.get? HashKey.text_injective id
  rw [Function.comp_apply]
  generalize Dict.get? uncheckedById (.text id) = own at found
  generalize Dict.get? (McpPortal.operationsById operations) id = known at found
  cases found with
  | none => exact .none
  | some reads => exact .some reads.2

end Diff

section Run

variable {State : Type} {unicode : PyUnicode} {prompter : McpPortal.Prompter State}
  {sortedByTag : List Unchecked.Operation → Running (List Unchecked.Operation)}
  {operations : List Operation} {uncheckeds : List Unchecked.Operation}

theorem sameDecision_ofRecorded (decision : OperationDecision) :
    SameDecision decision (.ofRecorded decision) :=
  ⟨Or.inl rfl, rfl, rfl, rfl, rfl⟩

theorem surveyReported_reads (sorts : SortsTexts sortedByTag)
    {previous : List (String × OperationDecision)} {report : McpPortal.ReconcileReport}
    (reported : List.Forall₂ Reads (McpPortal.toSurvey operations report) uncheckeds)
    (state : State) :
    ∃ own, (if uncheckeds.isEmpty then return ([], state)
        else runSurvey (.ofChecked prompter) sortedByTag (McpPortal.surveyDefaults previous report)
          uncheckeds state) =
        .ok (own, (surveyReported prompter operations previous report state).2) ∧
      List.Forall₂ SameDecision (surveyReported prompter operations previous report state).1 own := by
  unfold surveyReported
  generalize McpPortal.toSurvey operations report = toReport at reported ⊢
  cases reported with
  | nil => exact ⟨[], rfl, .nil⟩
  | cons reads later => exact runSurvey_reads sorts (.cons reads later) state

theorem agree_runReconcile (sorts : SortsTexts sortedByTag)
    (same : List.Forall₂ Reads operations uncheckeds) (previous : List (String × OperationDecision))
    (state : State) :
    Agree (fun reconciled own => List.Forall₂ SameDecision reconciled.1 own.1 ∧
        SameReport reconciled.2 own.2.1 ∧
        own.2.2 = (surveyReported prompter operations previous reconciled.2 state).2)
      (asserted (McpPortal.runReconcile prompter operations previous state))
      (runReconcile (.ofChecked prompter) sortedByTag uncheckeds previous state) := by
  rcases operationsById_reads same with ⟨uncheckedById, indexes, indexed⟩
  rw [McpPortal.runReconcile, runReconcile, indexes]
  simp only [Option.bind_eq_bind, asserted_bind]
  apply (agree_diffOperationIds indexed).bind
  intro report own sameReport
  have kept : List.Forall₂ SameDecision (report.unchanged.filterMap (Dict.get? previous))
      ((own.unchanged.filterMap (Dict.get? previous)).map Decision.ofRecorded) := by
    rw [sameReport.unchanged, List.forall₂_map_right_iff, List.forall₂_same]
    exact fun decision _ => sameDecision_ofRecorded decision
  have reported := toSurvey_reads indexed sameReport
  have sameDefaults : surveyDefaults previous own = McpPortal.surveyDefaults previous report := by
    rw [surveyDefaults, McpPortal.surveyDefaults, sameReport.changed]
  rcases @surveyReported_reads _ prompter _ _ _ sorts previous report reported state with
    ⟨surveyed, surveys, sameSurveyed⟩
  rw [sameDefaults]
  split at surveys
  case isTrue isEmpty =>
    rw [if_pos isEmpty]
    injection surveys with ends
    rw [Prod.mk.injEq] at ends
    rcases ends with ⟨rfl, ends⟩
    refine .ok ⟨?_, sameReport, ends⟩
    simpa using List.rel_append kept sameSurveyed
  case isFalse notEmpty =>
    rw [if_neg notEmpty, surveys]
    exact .ok ⟨List.rel_append kept sameSurveyed, sameReport, rfl⟩

/-- The decisions, the report and the prompter's last state of a run. -/
structure SameDecisions
    (decided : List OperationDecision × Option McpPortal.ReconcileReport × State)
    (own : List Decision × Option ReconcileReport × State) : Prop where
  decisions : List.Forall₂ SameDecision decided.1 own.1
  report : Option.Rel SameReport decided.2.1 own.2.1
  state : own.2.2 = decided.2.2

theorem agree_configureDecisions (sorts : SortsTexts sortedByTag)
    (same : List.Forall₂ Reads operations uncheckeds) (loaded : LoadedConfig) (state : State) :
    Agree SameDecisions
      ((McpPortal.configureDecisions unicode prompter loaded operations state).mapError raising)
      (configureDecisions unicode (.ofChecked prompter) sortedByTag loaded uncheckeds state) := by
  unfold McpPortal.configureDecisions configureDecisions
  split
  · rcases @runSurvey_reads _ prompter [] _ _ _ sorts same state with
      ⟨surveyed, surveys, sameSurveyed⟩
    rw [surveys]
    exact .ok ⟨sameSurveyed, .none, rfl⟩
  · cases decisionsFromConfig unicode loaded.config loaded.policy with
    | error error => exact .error _
    | ok previous =>
        have agree := @agree_runReconcile _ prompter _ _ _ sorts same previous state
        dsimp only
        generalize runReconcile _ sortedByTag uncheckeds previous state = own at agree ⊢
        generalize McpPortal.runReconcile prompter operations previous state = reconciled at agree ⊢
        cases reconciled with
        | none =>
            cases agree
            exact .error _
        | some reconciled =>
            rcases agree with _ | @⟨_, own, sameDecisions, sameReport, ends⟩
            have printable : (own.2.1.new.any fun id => id.value.hasLongInt) = false := by
              rw [sameReport.new, List.any_map, List.any_eq_false]
              intro id _
              simp [DictKey.ofText, Json.hasLongInt]
            change Agree _ _ (if (own.2.1.new.any _) = true then _ else _)
            rw [printable]
            exact .ok ⟨sameDecisions, .some sameReport, ends⟩

section Rendered

theorem textFields?_ofTexts (fields : JsonObject) :
    textFields? (fields.map fun field => (.text field.1, .ofText field.1, field.2)) = some fields :=
  schemaFields?_obj fields

theorem renderParameter_unchecked (param : Parameter) :
    renderParameter param.unchecked = .ok (some (McpPortal.renderParameter param)) := by
  have isForm : param.style = .form := by
    cases param.style
    rfl
  rw [McpPortal.renderParameter, isForm]
  change Except.ok ((textFields? _).map _) = _
  rw [textFields?_ofTexts]
  rfl

theorem renderBody_unchecked (body : Option BodySpec) :
    (∀ spec ∈ body, spec.mode = .flatten) →
      renderBody (body.map (·.unchecked)) = .ok (some (match body with
        | some spec => [("body", McpPortal.renderBody spec)]
        | none => [])) := by
  intro flattens
  cases body with
  | none => rfl
  | some spec =>
      change Except.ok ((textFields? _).map _) = _
      rw [textFields?_ofTexts]
      simp only [McpPortal.renderBody, flattens spec rfl]
      rfl

theorem renderBinding_unchecked {binding : HttpBinding}
    (flattens : ∀ spec ∈ binding.body, spec.mode = .flatten) :
    renderBinding binding.unchecked = .ok (some (McpPortal.renderBinding binding)) := by
  have parameters : binding.unchecked.parameters.mapM renderParameter =
      .ok ((binding.parameters.map McpPortal.renderParameter).map some) := by
    rw [HttpBinding.unchecked_parameters, mapM_eq_ok_iff_forall₂, List.forall₂_map_left_iff,
      List.forall₂_map_right_iff, List.forall₂_map_right_iff, List.forall₂_same]
    exact fun param _ => renderParameter_unchecked param
  have present : ((binding.parameters.map McpPortal.renderParameter).map some).mapM id =
      some (binding.parameters.map McpPortal.renderParameter) := by
    rw [List.mapM_map]
    exact (List.mapM_pure (m := Option)).trans (congrArg some (List.map_id _))
  rw [renderBinding, parameters, HttpBinding.unchecked_body]
  change (renderBody _ >>= _ : Running _) = _
  rw [renderBody_unchecked _ flattens]
  simp only [present]
  rfl

theorem renderIntrospected_reads {op : Operation} {unchecked : Unchecked.Operation}
    (reads : Reads op unchecked) {binding : HttpBinding} (bound : op.binding = .http binding)
    {decision : OperationDecision} {own : Decision} (same : SameDecision decision own)
    (isOperation : decision.operation = op) :
    renderIntrospected own unchecked = .ok (some (renderEntry decision binding)) := by
  rcases reads.binding with ⟨_, isOwn, isUnchecked⟩
  cases bound.symm.trans isOwn
  rw [renderIntrospected, isUnchecked,
    renderBinding_unchecked (reads.flattens binding bound), reads.id, reads.upstream,
    reads.description, reads.title, reads.groupTags, reads.name, same.effect, same.sensitivity]
  subst isOperation
  rfl

theorem agree_renderDecision {decision : OperationDecision} {own : Decision}
    (same : SameDecision decision own) :
    Agree (fun entry written => written = some entry)
      ((McpPortal.renderDecision unicode decision).mapError fun error => raising (.config error))
      (renderDecision unicode own) := by
  rcases same.operation with isRecorded | ⟨op, isIntrospected, reads⟩
  · have sameRecorded : own.recorded decision.operation = decision := by
      rcases decision with ⟨operation, exposed, effect, sensitivity, require⟩
      simp only [Decision.recorded, same.exposed, same.effect, same.sensitivity, same.require]
    rw [renderDecision, isRecorded]
    dsimp only
    rw [sameRecorded]
    cases McpPortal.renderDecision unicode decision with
    | error error => exact .error _
    | ok entry => exact .ok rfl
  · rcases reads.binding with ⟨binding, bound, _⟩
    rw [renderDecision, isIntrospected, McpPortal.renderDecision, bound]
    dsimp only
    rw [renderIntrospected_reads reads bound same rfl]
    exact .ok rfl

theorem key_sameDecision {decision : OperationDecision} {own : Decision}
    (same : SameDecision decision own) : own.key = .text decision.operation.id := by
  rcases same.operation with isRecorded | ⟨op, isIntrospected, reads⟩
  · rw [Decision.key, isRecorded]
    rfl
  · rw [Decision.key, isIntrospected, DecidedOperation.id, reads.id]
    rfl

theorem agree_renderOperations {decisions : List OperationDecision} {owns : List Decision}
    (same : List.Forall₂ SameDecision decisions owns) :
    Agree (fun entries written => written = entries.map some)
      ((McpPortal.renderOperations unicode decisions).mapError fun error => raising (.config error))
      (renderOperations unicode owns) := by
  have keys : owns.map Decision.key =
      (decisions.map fun decision => decision.operation.id).map HashKey.text := by
    have sameKey {decision : OperationDecision} {own : Decision}
        (sameOwn : SameDecision decision own) :
        (HashKey.text ∘ fun decision => decision.operation.id) decision = own.key :=
      (key_sameDecision sameOwn).symm
    rw [List.map_map]
    exact (@map_eq_map_of_forall₂ _ _ _ SameDecision _ _ sameKey _ _ same).symm
  have ordered : List.Forall₂ SameDecision (sortedById decisions)
      (owns.insertionSort fun left right => left.key.before right.key) := by
    apply forall₂_insertionSort _ same
    intro first second firstToo secondToo sameFirst sameSecond
    rw [key_sameDecision sameFirst, key_sameDecision sameSecond]
    exact decide_eq_true_iff.symm
  have exposed : List.Forall₂ SameDecision ((sortedById decisions).filter (·.exposed))
      ((owns.insertionSort fun left right => left.key.before right.key).filter (·.exposed)) := by
    apply List.rel_filter _ ordered
    intro decision own sameOwn
    change decision.exposed = true ↔ own.exposed = true
    rw [sameOwn.exposed]
  have sorted : (sortedItems Decision.key owns : Running _) =
      .ok (owns.insertionSort fun left right => left.key.before right.key) := by
    rw [sortedItems, keys, if_pos (HashKey.sortable_texts _)]
  have written : List.Forall₂ (fun decision own => Agree (fun entry written => written = some entry)
      ((McpPortal.renderDecision unicode decision).mapError fun error => raising (.config error))
      (renderDecision unicode own)) _ _ :=
    exposed.imp fun _ _ sameOwn => agree_renderDecision sameOwn
  rw [renderOperations, sorted, McpPortal.renderOperations, mapError_mapM]
  apply (Agree.mapM_of_forall₂ written).imp
  intro entries written same
  have sameEntries : List.Forall₂ Eq (entries.map some) written :=
    List.forall₂_map_left_iff.mpr (same.imp fun _ _ isEntry => isEntry.symm)
  rw [List.forall₂_eq_eq_eq] at sameEntries
  exact sameEntries.symm

end Rendered

/-- What the two runs have decided and are about to write. -/
structure SameRun (run : McpPortal.ConfigureRun State) (own : ConfigureRun State) : Prop where
  decisions : List.Forall₂ SameDecision run.decisions own.decisions
  report : Option.Rel SameReport run.report own.report
  operations : own.operations = run.operations.map some
  state : own.state = run.state

/-- A run over unchecked operations that read checked ones does what the run over these does. -/
theorem agree_runConfigure (sorts : SortsTexts sortedByTag)
    (same : List.Forall₂ Reads operations uncheckeds) (loaded : LoadedConfig) (state : State) :
    Agree SameRun
      ((McpPortal.runConfigure unicode prompter loaded operations state).mapError raising)
      (runConfigure unicode (.ofChecked prompter) sortedByTag loaded uncheckeds state) := by
  rw [McpPortal.runConfigure, runConfigure, mapError_bind]
  apply (agree_configureDecisions sorts same loaded state).bind
  rintro ⟨decisions, report, final⟩ ⟨owns, reportToo, finalToo⟩ decided
  have translated : ((McpPortal.renderOperations unicode decisions).mapError .config).mapError
        raising =
      (McpPortal.renderOperations unicode decisions).mapError fun error =>
        raising (.config error) := by
    cases McpPortal.renderOperations unicode decisions <;> rfl
  dsimp only
  rw [mapError_bind, translated]
  apply (agree_renderOperations decided.decisions).bind
  intro operations written sameOperations
  exact .ok ⟨decided.decisions, decided.report, sameOperations, decided.state⟩

end Run

end PyConfigure

end McpPortal
