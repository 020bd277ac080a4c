import McpPortal.Classify
import McpPortal.Config.Loader
import McpPortal.Foundation.PyText
import McpPortal.Sources.Flatten

/-!
# Operations from configuration entries

An entry hand-writes what an introspected document would have supplied. Its input
schema is always synthesized from the binding. A binding that cannot be flattened
is the operator's mistake and fails the load.
-/

namespace McpPortal

open Foundation

/-- A rendered type without surrounding space and without its mark of nullability. -/
def unmarkedType (graphqlType : List Char) : List Char :=
  let stripped := stripBy isPySpace graphqlType
  if stripped.getLast? = some '!' then stripped.dropLast else stripped

theorem length_unmarkedType_le (graphqlType : List Char) :
    (unmarkedType graphqlType).length ≤ graphqlType.length := by
  have stripped : (stripBy isPySpace graphqlType).length ≤ graphqlType.length :=
    (List.rdropWhile_prefix _ _).length_le.trans (List.dropWhile_sublist _).length_le
  simp only [unmarkedType]
  split
  · rw [List.length_dropLast]
    omega
  · exact stripped

/-- `_json_type_for_graphql_type`. -/
def jsonTypeForGraphqlType (graphqlType : List Char) : JsonObject :=
  let type := unmarkedType graphqlType
  if _bracketed : type.head? = some '[' ∧ type.getLast? = some ']' then
    [("type", .str "array"), ("items", .obj (jsonTypeForGraphqlType type.tail.dropLast))]
  else if String.ofList type = "Int" then [("type", .str "integer")]
  else if String.ofList type = "Float" then [("type", .str "number")]
  else if String.ofList type = "Boolean" then [("type", .str "boolean")]
  else [("type", .str "string")]
termination_by graphqlType.length
decreasing_by
  have within := length_unmarkedType_le graphqlType
  have nonempty : 0 < (unmarkedType graphqlType).length :=
    List.length_pos_of_mem (List.mem_of_head? _bracketed.1)
  rw [List.length_dropLast, List.length_tail]
  omega

section Build

variable (unicode : PyUnicode)

/-- `_http_binding`. -/
def HttpBindingEntry.httpBinding (entry : HttpBindingEntry) : HttpBinding where
  method := unicode.upper entry.method
  path := entry.path
  parameters := entry.parameters.map (·.parameter)
  body := entry.body.map (·.bodySpec)

/-- `_graphql_binding`. -/
def GraphQlBindingEntry.graphqlBinding (entry : GraphQlBindingEntry) : GraphQlBinding where
  operationType := entry.operationType
  document := entry.document
  variableList := entry.variableList.map fun given =>
    { name := given.name, graphqlType := given.graphqlType, required := given.required }

/-- The three flattening steps, with the schema they end in. -/
def flattenBinding (binding : HttpBinding) : Flatten (HttpBinding × JsonObject) := do
  checkPathTemplate binding
  let resolved ← resolveArgNames binding
  let inputSchema ← buildInputSchema binding
  return (resolved, inputSchema)

/-- A flattening error of an entry is a configuration error. -/
def entryError (id : String) (error : FlattenError) : ConfigError where
  message := "operation " ++ reprString unicode.isPrintable id ++ ": " ++
    error.message unicode.isPrintable

/-- What both kinds of entries have in common. -/
def OperationEntry.operation (entry : OperationEntry) (derivedEffect : Effect)
    (inputSchema : JsonObject) (binding : Binding) : Operation where
  id := entry.id
  upstream := entry.upstream
  name := (entry.name.map (·.text)).getD ""
  title := textOr entry.title (firstLine entry.description entry.id)
  description := entry.description
  groupTags := entry.groupTags
  effect := entry.effect.getD derivedEffect
  sensitivity := entry.sensitivity.getD .normal
  inputSchema
  binding

def graphqlInputSchema (binding : GraphQlBinding) : JsonObject :=
  [ ("type", .str "object"),
    ("properties", .obj (Dict.ofList (binding.variableList.map fun given =>
      (given.name, .obj (jsonTypeForGraphqlType given.graphqlType.toList))))),
    ("required", .arr ((binding.variableList.filter (·.required)).map fun given =>
      .str given.name)) ]

def buildGraphqlEntry (entry : OperationEntry) (bindingEntry : GraphQlBindingEntry) : Operation :=
  let binding := bindingEntry.graphqlBinding
  entry.operation (effectForOperationType bindingEntry.operationType) (graphqlInputSchema binding)
    (.graphQl binding)

/-- An entry with an unsupported method is dropped, in every mode. -/
def buildHttpEntry (entry : OperationEntry) (bindingEntry : HttpBindingEntry) :
    Except (PyException ConfigError) (Option Operation) :=
  let binding := bindingEntry.httpBinding unicode
  match effectForMethod unicode binding.method with
  | .error _ => return none
  | .ok derivedEffect => do
      let (resolved, inputSchema) ←
        (flattenBinding binding).mapError (PyException.map (entryError unicode entry.id))
      return some (entry.operation derivedEffect inputSchema (.http resolved))

namespace ExplicitSource

/-- `ExplicitSource._build`. -/
def build (entry : OperationEntry) : Except (PyException ConfigError) (Option Operation) :=
  match entry.binding with
  | .graphQl binding => return some (buildGraphqlEntry entry binding)
  | .http binding => buildHttpEntry unicode entry binding

/-- The operations of all entries that are not dropped. -/
def operations (config : McpPortalConfig) : Except (PyException ConfigError) (List Operation) := do
  let built ← config.operations.mapM (build unicode)
  return built.filterMap id

end ExplicitSource

end Build

variable {unicode : PyUnicode}

theorem flattenBinding_ok {binding : HttpBinding} {flattened : HttpBinding × JsonObject}
    (ran : flattenBinding binding = .ok flattened) :
    checkPathTemplate binding = .ok () ∧ resolveArgNames binding = .ok flattened.1 ∧
      buildInputSchema binding = .ok flattened.2 := by
  simp only [flattenBinding, bind_eq_ok, pure_eq_ok] at ran
  rcases ran with ⟨_, accepted, resolved, resolves, schema, synthesized, rfl⟩
  exact ⟨accepted, resolves, synthesized⟩

/-- An entry becomes an operation with its id, on its upstream, with the resolved binding. -/
theorem ExplicitSource.build_ok {entry : OperationEntry} {operation : Operation}
    (built : ExplicitSource.build unicode entry = .ok (some operation)) :
    operation.id = entry.id ∧ operation.upstream = entry.upstream ∧
      ((∃ binding, entry.binding = .graphQl binding ∧
          operation.binding = .graphQl binding.graphqlBinding) ∨
        ∃ binding resolved, entry.binding = .http binding ∧
          flattenBinding (binding.httpBinding unicode) = .ok (resolved, operation.inputSchema) ∧
          operation.binding = .http resolved) := by
  unfold ExplicitSource.build at built
  cases bindingCase : entry.binding with
  | graphQl binding =>
      simp only [bindingCase, pure_eq_ok, Option.some.injEq] at built
      subst operation
      exact ⟨rfl, rfl, Or.inl ⟨binding, rfl, rfl⟩⟩
  | http binding =>
      simp only [bindingCase, buildHttpEntry] at built
      split at built
      · cases built
      · simp only [bind_eq_ok, mapError_eq_ok, pure_eq_ok, Option.some.injEq] at built
        rcases built with ⟨⟨resolved, inputSchema⟩, flattened, rfl⟩
        exact ⟨rfl, rfl, Or.inr ⟨binding, resolved, rfl, flattened, rfl⟩⟩

/-- The title of an entry that leaves it out is the first line of its description. -/
theorem ExplicitSource.build_title {entry : OperationEntry} {operation : Operation}
    (built : ExplicitSource.build unicode entry = .ok (some operation)) :
    operation.title = textOr entry.title (firstLine entry.description entry.id) := by
  unfold ExplicitSource.build at built
  cases bindingCase : entry.binding with
  | graphQl binding =>
      simp only [bindingCase, pure_eq_ok, Option.some.injEq] at built
      subst operation
      rfl
  | http binding =>
      simp only [bindingCase, buildHttpEntry] at built
      split at built
      · cases built
      · simp only [bind_eq_ok, mapError_eq_ok, pure_eq_ok, Option.some.injEq] at built
        rcases built with ⟨_, _, rfl⟩
        rfl

/-- Every operation of the source was built from an entry. -/
theorem ExplicitSource.mem_operations {config : McpPortalConfig} {operations : List Operation}
    (ran : ExplicitSource.operations unicode config = .ok operations) {operation : Operation}
    (operationMem : operation ∈ operations) :
    ∃ entry ∈ config.operations, ExplicitSource.build unicode entry = .ok (some operation) := by
  simp only [ExplicitSource.operations, bind_eq_ok, pure_eq_ok] at ran
  rcases ran with ⟨built, ran, rfl⟩
  rcases List.mem_filterMap.mp operationMem with ⟨_, builtMem, rfl⟩
  exact mem_of_mapM_eq_ok ran builtMem

theorem ExplicitSource.exists_operations_iff {config : McpPortalConfig} :
    (∃ operations, ExplicitSource.operations unicode config = .ok operations) ↔
      ∀ entry ∈ config.operations, ∃ built, ExplicitSource.build unicode entry = .ok built := by
  rw [← exists_mapM_eq_ok_iff]
  simp only [ExplicitSource.operations, bind_eq_ok, pure_eq_ok]
  constructor
  · rintro ⟨_, built, ran, _⟩
    exact ⟨built, ran⟩
  · rintro ⟨built, ran⟩
    exact ⟨_, built, ran, rfl⟩

theorem ExplicitSource.mem_operations_iff {config : McpPortalConfig} {operations : List Operation}
    (ran : ExplicitSource.operations unicode config = .ok operations) {operation : Operation} :
    operation ∈ operations ↔
      ∃ entry ∈ config.operations, ExplicitSource.build unicode entry = .ok (some operation) := by
  refine ⟨ExplicitSource.mem_operations ran, ?_⟩
  rintro ⟨entry, entryMem, builds⟩
  simp only [ExplicitSource.operations, bind_eq_ok, pure_eq_ok] at ran
  rcases ran with ⟨built, ran, rfl⟩
  have oneByOne := mapM_eq_ok_iff_forall₂.mp ran
  rcases exists_right_of_forall₂ oneByOne entryMem with ⟨value, valueMem, converted⟩
  cases builds.symm.trans converted
  exact List.mem_filterMap.mpr ⟨some operation, valueMem, rfl⟩

end McpPortal
