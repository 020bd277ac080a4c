import McpPortal.Sources.FlattenFailures

/-!
# Flattening a flattened record

The names of a flattened record are distinct, so it is flattened again, and no argument is renamed.
So is every binding that has the same names at the same places, whatever its schemas are.
-/

namespace McpPortal

namespace Unchecked

open Foundation

/-- What makes a binding flatten without renaming an argument. -/
structure Settled (binding : HttpBinding) : Prop where
  accepted : checkPathTemplate binding = .ok ()
  supported : SupportedBody binding.body
  apart : ∃ names, bodyNames binding.body = .ok names ∧
    HashKey.sortable (names.map (·.key)) = true ∧
    (binding.parameters.map (·.arg.key) ++ names.map (·.key)).Nodup
  copied : ¬SchemaUnreadable binding.parameters
  listed : ∀ body, binding.body = some body → ¬RequiredUnlistable body

section Settled

variable {isPrintable : Char → Bool} {binding : HttpBinding} {names : List DictKey}

theorem nameCount_le_one {parameters : List Parameter}
    (distinct : (parameters.map (·.arg.key) ++ names.map (·.key)).Nodup) (name : HashKey) :
    nameCount parameters names name ≤ 1 := by
  rw [nameCount, ← List.count_append]
  exact List.nodup_iff_count_le_one.mp distinct name

/-- Distinct names are left as they are. -/
theorem renamedParameters_of_distinct {parameters : List Parameter}
    (distinct : (parameters.map (·.arg.key) ++ names.map (·.key)).Nodup) :
    renamedParameters isPrintable parameters names = parameters := by
  apply List.map_id''
  intro parameter
  rw [renamedParameter, if_neg (Nat.not_lt.mpr (nameCount_le_one distinct parameter.arg.key))]

theorem resolveArgNames_of_distinct (supported : SupportedBody binding.body)
    (read : bodyNames binding.body = .ok names)
    (sortable : HashKey.sortable (names.map (·.key)) = true)
    (distinct : (binding.parameters.map (·.arg.key) ++ names.map (·.key)).Nodup) :
    resolveArgNames isPrintable binding = .ok binding := by
  have kept := @renamedParameters_of_distinct isPrintable _ _ distinct
  rw [resolveArgNames_eq_ok_iff]
  refine ⟨supported, names, read, ?_, sortable, ?_, ?_⟩
  · rintro ⟨parameter, _, clashes, _⟩
    exact absurd clashes (Nat.not_lt.mpr (nameCount_le_one distinct parameter.arg.key))
  · rw [argKeys, kept]
    exact distinct
  · rw [kept]

/-- Once the names are resolved, the schema is built unless a schema cannot be copied. -/
theorem exists_buildInputSchema_iff {resolved : HttpBinding}
    (resolves : resolveArgNames isPrintable binding = .ok resolved) :
    (∃ schema, buildInputSchema isPrintable binding = .ok schema) ↔
      ¬SchemaUnreadable binding.parameters ∧
        ∀ body, binding.body = some body → ¬RequiredUnlistable body := by
  have uncaught := uncaught_buildInputSchema_iff resolves
  cases ran : buildInputSchema isPrintable binding with
  | ok schema =>
      rw [ran, uncaught_ok, false_iff, not_or, not_exists] at uncaught
      simp only [Except.ok.injEq, exists_eq', true_iff]
      exact ⟨uncaught.1, fun body isBody unlistable => uncaught.2 body ⟨isBody, unlistable⟩⟩
  | error error =>
      rw [ran, uncaught_error] at uncaught
      simp only [reduceCtorEq, exists_false, false_iff, not_and]
      intro copied listed
      rcases uncaught.mp (buildInputSchema_eq_error resolves ran) with
        unreadable | ⟨body, isBody, unlistable⟩
      · exact copied unreadable
      · exact listed body isBody unlistable

theorem Settled.exists_flattened (settled : Settled binding) (isPrintable : Char → Bool) :
    ∃ flattened, flattenBinding isPrintable binding = .ok flattened := by
  rcases settled.apart with ⟨names, read, sortable, distinct⟩
  have resolves := @resolveArgNames_of_distinct isPrintable _ _ settled.supported read sortable
    distinct
  rcases (exists_buildInputSchema_iff resolves).mpr ⟨settled.copied, settled.listed⟩ with
    ⟨schema, built⟩
  refine ⟨(binding, schema), ?_⟩
  rw [flattenBinding, settled.accepted, resolves, built]
  rfl

end Settled

/-- What the check of the template reads of a parameter. -/
def Parameter.shape (parameter : Parameter) : ParamLocation × Bool × HashKey :=
  (parameter.location, parameter.required, parameter.wireName.key)

section Congruence

variable {left right : HttpBinding}

theorem map_shape_pathParameters (parameters : List Parameter) :
    (pathParameters parameters).map Parameter.shape =
      (parameters.map Parameter.shape).filter fun shape => shape.1 = .path := by
  rw [pathParameters, List.filter_map]
  rfl

/-- Bindings of one path whose path parameters have the same shapes pass the check alike. -/
theorem checkPathTemplate_congr (samePath : right.path = left.path)
    (sameShapes : (pathParameters right.parameters).map Parameter.shape =
      (pathParameters left.parameters).map Parameter.shape)
    (accepted : checkPathTemplate left = .ok ()) : checkPathTemplate right = .ok () := by
  rw [checkPathTemplate_eq_ok_iff] at accepted ⊢
  rcases accepted with ⟨⟨once, required, distinct, named⟩, placed⟩
  have wireNames : (pathParameters right.parameters).map (·.wireName.key) =
      (pathParameters left.parameters).map (·.wireName.key) := by
    have keys := congrArg (List.map fun shape => shape.2.2) sameShapes
    rwa [List.map_map, List.map_map] at keys
  have counterpart : ∀ parameter ∈ pathParameters right.parameters,
      ∃ other ∈ pathParameters left.parameters, other.shape = parameter.shape := by
    intro parameter parameterMem
    have shapeMem := List.mem_map_of_mem (f := Parameter.shape) parameterMem
    rw [sameShapes] at shapeMem
    exact List.mem_map.mp shapeMem
  refine ⟨⟨samePath ▸ once, ?_, wireNames ▸ distinct, ?_⟩, ?_⟩
  · intro parameter parameterMem
    rcases counterpart parameter parameterMem with ⟨other, otherMem, same⟩
    have sameRequired : other.required = parameter.required := congrArg (·.2.1) same
    rw [← sameRequired]
    exact required other otherMem
  · rw [samePath, wireNames]
    exact named
  · rw [unplacedParameters, List.filter_eq_nil_iff] at placed ⊢
    intro parameter parameterMem
    rcases counterpart parameter parameterMem with ⟨other, otherMem, same⟩
    have sameName : other.wireName.key = parameter.wireName.key := congrArg (·.2.2) same
    rw [samePath, ← sameName]
    exact placed other otherMem

theorem sortable_of_perm {left right : List HashKey} (perm : left.Perm right)
    (sortable : HashKey.sortable right = true) : HashKey.sortable left = true := by
  unfold HashKey.sortable at sortable ⊢
  rwa [perm.length_eq, perm.all_eq, perm.all_eq]

/-- A binding that reads the same of its parameters, and the same names of its body, is settled
too. -/
theorem Settled.congr (settled : Settled left) (samePath : right.path = left.path)
    (sameShapes : (pathParameters right.parameters).map Parameter.shape =
      (pathParameters left.parameters).map Parameter.shape)
    (sameArgs : right.parameters.map (·.arg.key) = left.parameters.map (·.arg.key))
    (copied : ¬SchemaUnreadable right.parameters) (supported : SupportedBody right.body)
    (sameNames : ∀ names, bodyNames left.body = .ok names →
      ∃ others, bodyNames right.body = .ok others ∧ (others.map (·.key)).Perm (names.map (·.key)))
    (listed : ∀ body, right.body = some body → ¬RequiredUnlistable body) : Settled right := by
  rcases settled.apart with ⟨names, read, sortable, distinct⟩
  rcases sameNames names read with ⟨others, readToo, perm⟩
  refine ⟨checkPathTemplate_congr samePath sameShapes settled.accepted, supported, ?_, copied,
    listed⟩
  refine ⟨others, readToo, sortable_of_perm perm sortable, ?_⟩
  rw [sameArgs]
  exact ((perm.append_left _).nodup_iff).mpr distinct

/-- What a record is flattened to is settled. -/
theorem settled_of_flattenBinding {isPrintable : Char → Bool}
    {flattened : HttpBinding × InputSchema}
    (ran : flattenBinding isPrintable left = .ok flattened) : Settled flattened.1 := by
  simp only [flattenBinding, bind_eq_ok, pure_eq_ok] at ran
  rcases ran with ⟨_, accepted, resolved, resolves, schema, built, rfl⟩
  rcases (exists_buildInputSchema_iff resolves).mp ⟨schema, built⟩ with ⟨copied, listed⟩
  rcases resolveArgNames_eq_ok_iff.mp resolves with
    ⟨supported, names, read, _, sortable, distinct, rfl⟩
  have sameShapes : (renamedParameters isPrintable left.parameters names).map Parameter.shape =
      left.parameters.map Parameter.shape := by
    rw [renamedParameters, List.map_map]
    apply List.map_congr_left
    intro parameter _
    rw [Function.comp_apply, renamedParameter]
    split <;> rfl
  have sameOnPath : (pathParameters (renamedParameters isPrintable left.parameters names)).map
      Parameter.shape = (pathParameters left.parameters).map Parameter.shape := by
    rw [map_shape_pathParameters, map_shape_pathParameters, sameShapes]
  refine ⟨@checkPathTemplate_congr left _ rfl sameOnPath accepted, supported,
    ⟨names, read, sortable, distinct⟩, ?_, listed⟩
  rwa [renamedParameters_schema]

end Congruence

end Unchecked

end McpPortal
