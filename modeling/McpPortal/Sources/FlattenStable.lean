import McpPortal.Sources.Explicit

/-!
# Flattening a flattened binding

A resolved binding has distinct argument names, apart from those of its body. So
its path template is still accepted, no argument is renamed a second time, and its
published schema is the one it already has.
-/

namespace McpPortal

open Foundation

theorem foldlM_declarePath_of_distinct {parameters : List Parameter}
    {declared : List (String × String)}
    (allRequired : ∀ parameter ∈ parameters, parameter.required = true)
    (fresh : (Dict.keys declared ++ parameters.map (·.wireName)).Nodup) :
    ∃ final, parameters.foldlM declarePath declared = .ok final ∧
      Dict.keys final = Dict.keys declared ++ parameters.map (·.wireName) := by
  induction parameters generalizing declared with
  | nil => exact ⟨declared, rfl, by simp⟩
  | cons parameter rest ih =>
      have isRequired := allRequired parameter List.mem_cons_self
      have notDeclared : parameter.wireName ∉ Dict.keys declared := by
        intro present
        have apart := (List.nodup_append.mp fresh).2.2
        exact apart _ present _ List.mem_cons_self rfl
      have stepped : declarePath declared parameter =
          .ok (Dict.insert declared parameter.wireName parameter.arg) := by
        simp [declarePath, isRequired, Dict.get?_eq_none_iff.mpr notDeclared]
      have keys_next : Dict.keys (Dict.insert declared parameter.wireName parameter.arg) =
          Dict.keys declared ++ [parameter.wireName] := by
        rw [Dict.insert_of_notMem notDeclared]
        simp [Dict.keys]
      have later : (Dict.keys (Dict.insert declared parameter.wireName parameter.arg) ++
          rest.map (·.wireName)).Nodup := by
        rw [keys_next, List.append_assoc, List.singleton_append]
        exact fresh
      rcases ih (fun other otherMem => allRequired other (List.mem_cons_of_mem _ otherMem)) later
        with ⟨final, ran, keys_final⟩
      refine ⟨final, foldlM_cons_eq_ok.mpr ⟨_, stepped, ran⟩, ?_⟩
      rw [keys_final, keys_next, List.append_assoc, List.singleton_append, List.map_cons]

/-- A template is accepted just when it names the wire names of the path parameters. -/
theorem checkPathTemplate_eq_ok_iff {binding : HttpBinding} :
    checkPathTemplate binding = .ok () ↔ TemplateMatches binding := by
  refine ⟨checkPathTemplate_ok, ?_⟩
  rintro ⟨allRequired, distinct, placed, once⟩
  have fresh : (Dict.keys ([] : List (String × String)) ++
      (pathParameters binding.parameters).map (·.wireName)).Nodup := distinct
  rcases foldlM_declarePath_of_distinct allRequired fresh with ⟨declared, ran, keys_declared⟩
  rw [Dict.keys_nil, List.nil_append] at keys_declared
  simp only [checkPathTemplate, throw_bind, check_eq_ok, bind_eq_ok, not_not,
    sortedRepeats_eq_nil_iff, List.filter_eq_nil_iff, List.mem_dedup, decide_eq_true_eq]
  refine ⟨once, declared, ran, ?_, ?_, rfl⟩
  · intro name present
    rw [keys_declared]
    exact (placed name).mp present
  · intro entry entryMem
    have present : entry.1 ∈ Dict.keys declared := List.mem_map_of_mem entryMem
    rw [keys_declared] at present
    exact (placed entry.1).mpr present

theorem claimNames_eq_ok_iff {seen contributions : List (String × String)} :
    claimNames seen contributions = .ok () ↔
      (contributions.map (·.1)).Nodup ∧ ∀ name ∈ contributions.map (·.1), name ∉ Dict.keys seen := by
  induction contributions generalizing seen with
  | nil => simp [claimNames]
  | cons contribution rest ih =>
      rcases contribution with ⟨name, place⟩
      rw [claimNames]
      cases found : Dict.get? seen name with
      | some first =>
          have present : name ∈ Dict.keys seen := List.mem_map_of_mem (Dict.mem_of_get? found)
          simp [present]
      | none =>
          have absent := Dict.get?_eq_none_iff.mp found
          simp only [ih, List.map_cons, List.nodup_cons, List.forall_mem_cons, absent,
            not_false_eq_true, true_and, Dict.mem_keys_insert, not_or]
          constructor
          · rintro ⟨distinct, apart⟩
            refine ⟨⟨?_, distinct⟩, fun other otherMem => (apart other otherMem).2⟩
            intro repeated
            exact (apart name repeated).1 rfl
          · rintro ⟨⟨notRepeated, distinct⟩, apart⟩
            refine ⟨distinct, fun other otherMem => ⟨?_, apart other otherMem⟩⟩
            rintro rfl
            exact notRepeated otherMem

section Resolved

variable {binding resolved : HttpBinding}

/-- The argument names of a resolved binding are distinct, the body's names included. -/
theorem resolveArgNames_distinct (ran : resolveArgNames binding = .ok resolved) {names : List String}
    (named : bodyNames binding = .ok names) :
    (resolved.parameters.map (·.arg) ++ names).Nodup := by
  simp only [resolveArgNames, bind_eq_ok, pure_eq_ok, named, Except.ok.injEq,
    exists_eq_left'] at ran
  rcases ran with ⟨_, _, _, claimed, rfl⟩
  have distinct := (claimNames_eq_ok_iff.mp claimed).1
  simp only [List.map_append, List.map_map, Function.comp_def, List.map_id'] at distinct
  have sorted : (names.insertionSort (· ≤ ·)).Perm names := List.perm_insertionSort _ _
  rw [List.map_map]
  exact ((sorted.append_left _).nodup_iff).mp distinct

theorem nameCount_le_one {parameters : List Parameter} {names : List String}
    (distinct : (parameters.map (·.arg) ++ names).Nodup) (name : String) :
    nameCount parameters names name ≤ 1 := by
  rw [nameCount, ← List.count_append]
  exact List.nodup_iff_count_le_one.mp distinct name

theorem map_renameParameter_of_distinct {parameters : List Parameter} {names : List String}
    (distinct : (parameters.map (·.arg) ++ names).Nodup) :
    parameters.map (renameParameter parameters names) = parameters := by
  apply List.map_id''
  intro parameter
  have atMostOnce := nameCount_le_one distinct parameter.arg
  rw [renameParameter, if_neg (Nat.not_lt.mpr atMostOnce)]

/-- Distinct argument names are left as they are. -/
theorem resolveArgNames_of_distinct {names : List String}
    (supported : checkContentType binding.body = .ok ()) (named : bodyNames binding = .ok names)
    (distinct : (binding.parameters.map (·.arg) ++ names).Nodup) :
    resolveArgNames binding = .ok binding := by
  simp only [resolveArgNames, bind_eq_ok, pure_eq_ok, named, Except.ok.injEq, exists_eq_left',
    map_renameParameter_of_distinct distinct]
  refine ⟨(), supported, (), ?_, trivial⟩
  rw [claimNames_eq_ok_iff]
  simp only [List.map_append, List.map_map, Function.comp_def, List.map_id', Dict.keys_nil,
    List.not_mem_nil, not_false_eq_true, implies_true, and_true]
  have sorted : (names.insertionSort (· ≤ ·)).Perm names := List.perm_insertionSort _ _
  exact ((sorted.append_left _).nodup_iff).mpr distinct

/-- Names that are resolved are not changed when they are resolved again. -/
theorem resolveArgNames_resolved (ran : resolveArgNames binding = .ok resolved) :
    resolveArgNames resolved = .ok resolved := by
  rcases resolveArgNames_ok ran with ⟨names, named, isResolved⟩
  have distinct := resolveArgNames_distinct ran named
  have sameBody : resolved.body = binding.body := by rw [isResolved]
  have sameNames : bodyNames resolved = .ok names := by
    rw [← named, bodyNames, bodyNames, sameBody]
  simp only [resolveArgNames, bind_eq_ok] at ran
  rcases ran with ⟨_, supported, _⟩
  rw [← sameBody] at supported
  exact resolveArgNames_of_distinct supported sameNames distinct

theorem buildInputSchema_resolved (ran : resolveArgNames binding = .ok resolved) :
    buildInputSchema resolved = buildInputSchema binding := by
  rw [buildInputSchema, buildInputSchema, resolveArgNames_resolved ran, ran]

theorem TemplateMatches.of_resolveArgNames (accepted : TemplateMatches binding)
    (ran : resolveArgNames binding = .ok resolved) : TemplateMatches resolved := by
  rcases resolveArgNames_ok ran with ⟨names, _, rfl⟩
  have onPath : pathParameters (binding.parameters.map
      (renameParameter binding.parameters names)) =
        (pathParameters binding.parameters).map (renameParameter binding.parameters names) := by
    simp [pathParameters, List.filter_map, Function.comp_def]
  have wireNames : (pathParameters (binding.parameters.map
      (renameParameter binding.parameters names))).map (·.wireName) =
        (pathParameters binding.parameters).map (·.wireName) := by
    simp [onPath, Function.comp_def]
  refine ⟨?_, ?_, ?_, accepted.once⟩
  · intro parameter parameterMem
    rw [onPath] at parameterMem
    rcases List.mem_map.mp parameterMem with ⟨original, originalMem, rfl⟩
    rw [renameParameter_required]
    exact accepted.required original originalMem
  · rw [wireNames]
    exact accepted.distinct
  · intro name
    rw [wireNames]
    exact accepted.placed name

/-- Flattening is stable: what it results in is flattened to itself. -/
theorem flattenBinding_resolved {inputSchema : JsonObject}
    (ran : flattenBinding binding = .ok (resolved, inputSchema)) :
    flattenBinding resolved = .ok (resolved, inputSchema) := by
  rcases flattenBinding_ok ran with ⟨accepted, resolves, synthesized⟩
  have acceptedAgain := (checkPathTemplate_ok accepted).of_resolveArgNames resolves
  simp only [flattenBinding, checkPathTemplate_eq_ok_iff.mpr acceptedAgain,
    resolveArgNames_resolved resolves, buildInputSchema_resolved resolves, synthesized, bind_eq_ok,
    pure_eq_ok, Except.ok.injEq, exists_eq_left']
  exact ⟨(), trivial, trivial⟩

theorem exists_addBody_iff (properties : JsonObject) (required : List Json)
    {body : Option BodySpec} :
    (∃ added, addBody properties required body = .ok added) ↔
      ∀ spec ∈ body, (∃ lifted, bodyProperties spec = .ok lifted) ∧
        (spec.isFlattened = true → ∃ names, spec.declaredRequired.iterate? = some names) := by
  cases body with
  | none => simp [addBody, pure, Except.pure]
  | some spec =>
      cases flattened : spec.isFlattened with
      | false => simp [addBody, bodyProperties, flattened, pure, Except.pure, bind, Except.bind]
      | true =>
          have iterates (names : List Json) :
              (iterate spec.declaredRequired : Flatten (List Json)) = .ok names ↔
                spec.declaredRequired.iterate? = some names := by
            unfold iterate
            cases spec.declaredRequired.iterate? <;> simp
          simp only [addBody, bodyProperties, flattened, if_true, bind_assoc, pure_bind, bind_eq_ok,
            pure_eq_ok, iterates, Option.mem_some_iff, forall_eq']
          constructor
          · rintro ⟨_, lifted, isLifted, names, listed, _⟩
            exact ⟨⟨_, lifted, isLifted, rfl⟩, fun _ => ⟨names, listed⟩⟩
          · rintro ⟨⟨_, lifted, isLifted, _⟩, listed⟩
            rcases listed trivial with ⟨names, isListed⟩
            exact ⟨_, lifted, isLifted, names, isListed, rfl⟩

theorem exists_bodyProperties {names : List String} (named : bodyNames binding = .ok names) :
    ∀ body ∈ binding.body, ∃ lifted, bodyProperties body = .ok lifted := by
  intro body isBody
  rw [Option.mem_def] at isBody
  simp only [bodyNames, isBody, bind_eq_ok] at named
  rcases named with ⟨lifted, isLifted, _⟩
  exact ⟨lifted, isLifted⟩

end Resolved

end McpPortal
