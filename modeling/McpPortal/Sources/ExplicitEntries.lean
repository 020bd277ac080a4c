import McpPortal.Sources.CheckedRecords
import McpPortal.Sources.Explicit

/-!
# Entries that list names of any type

The names in an entry are texts, but a body may list its properties under keys of any type. Such an
entry is built by the same steps as a record of a document. Its input schema, which is not looked at
when operations are merged and named, is left out.
-/

namespace McpPortal

open Foundation

/-- The schema of a body is looked into where the body is flattened. -/
def BodySpec.looked (body : BodySpec) : Unchecked.BodySpec where
  contentType := .ofText body.contentType
  schema := if body.mode = .flatten then .obj body.schema else .obj []

/-- What flattening looks at of a binding. The names of its body may be of any type. -/
def HttpBinding.looked (binding : HttpBinding) : Unchecked.HttpBinding :=
  { binding.unchecked with body := binding.body.map (·.looked) }

/-- The binding with the argument names of the flattened one. -/
def HttpBinding.withArgs (binding : HttpBinding) (flattened : Unchecked.HttpBinding) :
    HttpBinding :=
  { binding with
    parameters := List.zipWith
      (fun parameter renamed => { parameter with arg := renamed.arg.value.string?.getD "" })
      binding.parameters flattened.parameters }

namespace PyExplicit

section Build

variable (unicode : PyUnicode)

def entryError (id : String) (error : Unchecked.FlattenError) : ConfigError where
  message := "operation " ++ reprString unicode.isPrintable id ++ ": " ++
    error.message unicode.isPrintable

def buildHttpEntry (entry : OperationEntry) (bindingEntry : HttpBindingEntry) :
    Except (PyException ConfigError) (Option Operation) :=
  let binding := bindingEntry.httpBinding unicode
  match effectForMethod unicode binding.method with
  | .error _ => return none
  | .ok derivedEffect => do
      let (flattened, _) ← (Unchecked.flattenBinding unicode.isPrintable binding.looked).mapError
        (PyException.map (entryError unicode entry.id))
      return some (entry.operation derivedEffect [] (.http (binding.withArgs flattened)))

/-- `ExplicitSource._build`. -/
def build (entry : OperationEntry) : Except (PyException ConfigError) (Option Operation) :=
  match entry.binding with
  | .graphQl binding => return some (buildGraphqlEntry entry binding)
  | .http binding => buildHttpEntry unicode entry binding

/-- `ExplicitSource.operations`. -/
def operations (config : McpPortalConfig) : Except (PyException ConfigError) (List Operation) := do
  let built ← config.operations.mapM (build unicode)
  return built.filterMap id

end Build

variable {unicode : PyUnicode}

theorem exists_operations_iff {config : McpPortalConfig} :
    (∃ explicit, operations unicode config = .ok explicit) ↔
      ∀ entry ∈ config.operations, ∃ built, build unicode entry = .ok built := by
  rw [← exists_mapM_eq_ok_iff]
  simp only [operations, bind_eq_ok, pure_eq_ok]
  constructor
  · rintro ⟨_, built, ran, rfl⟩
    exact ⟨built, ran⟩
  · rintro ⟨built, ran⟩
    exact ⟨_, built, ran, rfl⟩

end PyExplicit

section Plain

/-- The body is looked at as it is if it is flattened and lists nothing. -/
theorem BodySpec.IsPlain.looked_eq {body : BodySpec} (plain : body.IsPlain) :
    body.looked = body.unchecked := by
  rw [BodySpec.looked, if_pos plain.flattens]
  rfl

theorem HttpBinding.looked_eq {binding : HttpBinding}
    (plain : ∀ body ∈ binding.body, body.IsPlain) : binding.looked = binding.unchecked := by
  have sameBody : binding.body.map (·.looked) = binding.body.map (·.unchecked) := by
    cases isBody : binding.body with
    | none => rfl
    | some body => rw [Option.map_some, Option.map_some, (plain body isBody).looked_eq]
  rw [HttpBinding.looked, sameBody]
  rfl

theorem HttpBinding.withArgs_unchecked {binding resolved : HttpBinding} {names : List String}
    (isResolved : resolved = { binding with
      parameters := binding.parameters.map (renameParameter binding.parameters names) }) :
    binding.withArgs resolved.unchecked = resolved := by
  subst resolved
  have zipped : ∀ parameters : List Parameter,
      List.zipWith
          (fun (parameter : Parameter) (renamed : Unchecked.Parameter) =>
            { parameter with arg := renamed.arg.value.string?.getD "" }) parameters
          ((parameters.map (renameParameter binding.parameters names)).map (·.unchecked)) =
        parameters.map (renameParameter binding.parameters names) := by
    intro parameters
    induction parameters with
    | nil => rfl
    | cons parameter rest ih =>
        rw [List.map_cons, List.map_cons, List.zipWith_cons_cons, ih]
        congr 1
        unfold renameParameter
        split <;> rfl
  simp only [withArgs, HttpBinding.unchecked, zipped]

/-- An entry whose body lists nothing is built as by the checked steps. -/
theorem PyExplicit.buildHttpEntry_eq {unicode : PyUnicode} {entry : OperationEntry}
    {bindingEntry : HttpBindingEntry}
    (plain : ∀ body ∈ (bindingEntry.httpBinding unicode).body, body.IsPlain) :
    PyExplicit.buildHttpEntry unicode entry bindingEntry =
      (McpPortal.buildHttpEntry unicode entry bindingEntry).map
        (Option.map fun operation => { operation with inputSchema := [] }) := by
  simp only [PyExplicit.buildHttpEntry, McpPortal.buildHttpEntry, HttpBinding.looked_eq plain]
  cases effectForMethod unicode (bindingEntry.httpBinding unicode).method with
  | error _ => rfl
  | ok derivedEffect =>
      rcases (@alongside_flattenBinding unicode.isPrintable _ plain).outcomes with
        ⟨error, isLeft, isRight⟩ | ⟨flattened, ⟨resolved, schema⟩, isLeft, isRight, same, _⟩
      · simp only [isLeft, isRight]
        cases error with
        | raised problem =>
            simp only [Except.mapError, PyException.map, entryError, McpPortal.entryError,
              FlattenError.message_unchecked]
            rfl
        | _ => rfl
      · rcases resolveArgNames_ok (flattenBinding_ok isRight).2.1 with ⟨names, _, isResolved⟩
        have sameArgs := HttpBinding.withArgs_unchecked isResolved
        dsimp only at same
        rw [← same] at sameArgs
        simp only [isLeft, isRight]
        change Except.ok (some (entry.operation derivedEffect []
          (.http ((bindingEntry.httpBinding unicode).withArgs flattened.1)))) = _
        rw [sameArgs]
        rfl

end Plain

end McpPortal
