import McpPortal.Sources.Isolation

/-!
# What a document declares

An operation object stands under a path and a method, and its parameters are those of its path item,
unless it has one of the same name and location itself. What a source yields is declared: nothing is
offered that the document does not have, or has excluded.
-/

namespace McpPortal

namespace Unchecked

open Foundation

/-- The name and the location that a parameter object is found by. -/
abbrev ParameterKey := HashKey × HashKey

def parameterKey (fields : JsonObject) : Option ParameterKey :=
  match (field fields "name").hashKey?, (field fields "in").hashKey? with
  | some name, some location => some (name, location)
  | _, _ => none

def namedBy (key : ParameterKey) : Json → Option JsonObject
  | .obj fields => if parameterKey fields = some key then some fields else none
  | _ => none

/-- The last parameter object of this name and location. -/
def lastNamed (key : ParameterKey) : List Json → Option JsonObject
  | [] => none
  | item :: rest => (lastNamed key rest).or (namedBy key item)

/-- An operation object, and the path item in which it stands. -/
structure Declaration where
  path : String
  method : String
  item : JsonObject
  op : JsonObject

namespace Declaration

def itemsOf (value : Json) : List Json :=
  value.iterate?.getD []

/-- The parameter that is declared for the operation: its own one, else that of the path item. -/
def parameterAt (declaration : Declaration) (key : ParameterKey) : Option JsonObject :=
  (lastNamed key (itemsOf (listField declaration.op "parameters"))).or
    (lastNamed key (itemsOf (listField declaration.item "parameters")))

/-- The `operationId`, or else the id that the method and the path make. -/
def id (unicode : PyUnicode) (declaration : Declaration) : Json :=
  orElse (Dict.get? declaration.op "operationId")
    (.str (defaultOperationId unicode declaration.method declaration.path))

/-- The declaration stands in the document, under a method that is exposed. -/
structure StandsIn (unicode : PyUnicode) (document : JsonObject) (declaration : Declaration) :
    Prop where
  item : ∃ paths, field document "paths" = .obj paths ∧
    field paths declaration.path = .obj declaration.item
  op : field declaration.item declaration.method = .obj declaration.op
  exposed : isExposed unicode declaration.method = true

end Declaration

/-- A parameter is what the fields declare under the key. -/
structure Parameter.Declared (param : Parameter) (key : ParameterKey) (fields : JsonObject) :
    Prop where
  name : Dict.get? fields "name" = some param.wireName.value
  named : param.wireName.key = key.1
  location : locationOf key.2 = some param.location
  required : param.required = (field fields "required").truthy
  schema : param.schema = (Dict.get? fields "schema").getD (.obj [("type", .str "string")])
  explode : param.explode = (Dict.get? fields "explode").getD (.bool true)

section Parameters

variable {Error : Type} {key : ParameterKey} {fields : JsonObject}

theorem parameterKey_eq_some_iff :
    parameterKey fields = some key ↔
      (field fields "name").hashKey? = some key.1 ∧ (field fields "in").hashKey? = some key.2 := by
  rcases key with ⟨name, location⟩
  unfold parameterKey
  cases (field fields "name").hashKey? <;> cases (field fields "in").hashKey? <;> simp

theorem parameterKey_of_lastNamed {items : List Json} (found : lastNamed key items = some fields) :
    parameterKey fields = some key := by
  induction items with
  | nil => cases found
  | cons item rest ih =>
      rw [lastNamed, Option.or_eq_some_iff] at found
      rcases found with later | ⟨_, here⟩
      · exact ih later
      · cases item with
        | obj own =>
            rw [namedBy] at here
            split at here
            case isTrue isKey =>
              cases here
              exact isKey
            case isFalse => cases here
        | _ => cases here

theorem value_of_hashed {value : Json} {own : DictKey}
    (ran : (hashed value : Except (PyException Error) DictKey) = .ok own) : own.value = value := by
  cases hashes : value.hashKey? with
  | none =>
      rw [hashed_of_none hashes] at ran
      cases ran
  | some key =>
      rw [hashed_of_some hashes] at ran
      cases ran
      rfl

/-- An object is entered under its key. -/
theorem addParameter_eq_ok {byKey next : ByKey} {param : Json}
    (added : (addParameter byKey param : Except (PyException Error) ByKey) = .ok next) :
    ∃ fields key, param = .obj fields ∧ parameterKey fields = some key ∧
      next = Dict.insert byKey key fields := by
  cases param with
  | obj fields =>
      simp only [addParameter, bind_eq_ok, pure_eq_ok] at added
      rcases added with ⟨name, isName, location, isLocation, rfl⟩
      refine ⟨fields, (name.key, location.key), rfl, ?_, rfl⟩
      rw [parameterKey_eq_some_iff]
      exact ⟨value_of_hashed isName ▸ name.hashes, value_of_hashed isLocation ▸ location.hashes⟩
  | _ => cases added

/-- The loop enters the last object for every key. -/
theorem get?_foldlM_addParameter {items : List Json} {byKey final : ByKey}
    (ran : (items.foldlM addParameter byKey : Except (PyException Error) ByKey) = .ok final)
    (key : ParameterKey) :
    Dict.get? final key = (lastNamed key items).or (Dict.get? byKey key) := by
  induction items generalizing byKey with
  | nil =>
      cases ran
      rfl
  | cons item rest ih =>
      rcases foldlM_cons_eq_ok.mp ran with ⟨next, added, later⟩
      rcases addParameter_eq_ok added with ⟨fields, own, rfl, isKey, rfl⟩
      rw [ih later, lastNamed, Option.or_assoc, namedBy, isKey, Dict.get?_insert]
      congr 1
      by_cases same : own = key
      · rw [if_pos same, if_pos (congrArg some same)]
        rfl
      · rw [if_neg same, if_neg fun equal => same (Option.some.inj equal)]
        rfl

theorem nodup_foldlM_addParameter {items : List Json} {byKey final : ByKey}
    (unique : (Dict.keys byKey).Nodup)
    (ran : (items.foldlM addParameter byKey : Except (PyException Error) ByKey) = .ok final) :
    (Dict.keys final).Nodup := by
  refine foldlM_keeps (fun byKey => (Dict.keys byKey).Nodup) unique ?_ ran
  intro item _ value next distinct added
  rcases addParameter_eq_ok added with ⟨fields, own, _, _, rfl⟩
  exact Dict.nodup_keys_insert own fields distinct

/-- A parameter object is read as what it declares, or is at no location that is exposed. -/
theorem rawParameter_cases (isKey : parameterKey fields = some key) {read : Option RawParameter}
    (ran : (rawParameter fields : Except (PyException Error) (Option RawParameter)) = .ok read) :
    (locationOf key.2 = none ∧ read = none) ∨
      ∃ raw, read = some raw ∧ raw.parameter.Declared key fields := by
  rcases parameterKey_eq_some_iff.mp isKey with ⟨isName, isLocation⟩
  unfold rawParameter at ran
  rw [hashed_of_some isLocation] at ran
  simp only [bind_eq_ok, Except.ok.injEq, exists_eq_left'] at ran
  split at ran
  case h_1 hidden =>
    cases ran
    exact Or.inl ⟨hidden, rfl⟩
  case h_2 location isExposed =>
    split at ran
    case h_1 => cases ran
    case h_2 name found =>
      have isValue : field fields "name" = name := by rw [field, found]; rfl
      rw [isValue] at isName
      simp only [hashed_of_some isName, bind_eq_ok, Except.ok.injEq, exists_eq_left',
        pure_eq_ok] at ran
      cases ran
      refine Or.inr ⟨_, rfl, ?_⟩
      exact {
        name := found
        named := rfl
        location := isExposed
        required := rfl
        schema := rfl
        explode := rfl }

/-- The parameters of an operation object are those that are declared for it, at the locations that
are exposed. -/
theorem mergedParameters_declared {declaration : Declaration} {parameters : List RawParameter}
    (merged : (mergedParameters (listField declaration.item "parameters")
      (listField declaration.op "parameters") : Except (PyException Error) (List RawParameter)) =
        .ok parameters) :
    (∀ raw ∈ parameters, ∃ key fields, declaration.parameterAt key = some fields ∧
      raw.parameter.Declared key fields) ∧
    ∀ key fields, declaration.parameterAt key = some fields → locationOf key.2 ≠ none →
      ∃ raw ∈ parameters, raw.parameter.Declared key fields := by
  simp only [mergedParameters, bind_eq_ok, iterate_eq_ok, pure_eq_ok] at merged
  rcases merged with
    ⟨pathItems, isPath, first, entered, opItems, isOp, byKey, merges, read, reads, rfl⟩
  have found (key : ParameterKey) : Dict.get? byKey key = declaration.parameterAt key := by
    rw [get?_foldlM_addParameter merges, get?_foldlM_addParameter entered, Dict.get?_nil,
      Option.or_none, Declaration.parameterAt, Declaration.itemsOf, Declaration.itemsOf, isOp,
      isPath, Option.getD_some, Option.getD_some]
  have start : (Dict.keys ([] : ByKey)).Nodup := List.nodup_nil
  have unique : (Dict.keys byKey).Nodup :=
    nodup_foldlM_addParameter (nodup_foldlM_addParameter start entered) merges
  have isKey {key : ParameterKey} {fields : JsonObject}
      (declared : declaration.parameterAt key = some fields) : parameterKey fields = some key := by
    rcases Option.or_eq_some_iff.mp declared with own | ⟨_, shared⟩
    · exact parameterKey_of_lastNamed own
    · exact parameterKey_of_lastNamed shared
  rw [mapM_eq_ok_iff_forall₂] at reads
  constructor
  · intro raw rawMem
    rcases exists_left_of_forall₂ reads (List.reduceOption_mem_iff.mp rawMem) with
      ⟨⟨key, fields⟩, entryMem, isRead⟩
    have declared : declaration.parameterAt key = some fields := by
      rw [← found, Dict.get?_eq_some_iff unique]
      exact entryMem
    rcases rawParameter_cases (isKey declared) isRead with ⟨_, absent⟩ | ⟨own, same, isDeclared⟩
    · cases absent
    · cases same
      exact ⟨key, fields, declared, isDeclared⟩
  · intro key fields declared exposed
    have entryMem : (key, fields) ∈ byKey := by
      rw [← Dict.get?_eq_some_iff unique, found]
      exact declared
    rcases exists_right_of_forall₂ reads entryMem with ⟨outcome, outcomeMem, isRead⟩
    rcases rawParameter_cases (isKey declared) isRead with ⟨hidden, _⟩ | ⟨raw, rfl, isDeclared⟩
    · exact absurd hidden exposed
    · exact ⟨raw, List.reduceOption_mem_iff.mpr outcomeMem, isDeclared⟩

end Parameters

/-- The operation is the declared one, and nothing keeps it from being offered. -/
structure Declaration.Offers (unicode : PyUnicode) (credentialHeaders : List String)
    (includeDeprecated : Bool) (declaration : Declaration) (operation : Operation) : Prop where
  id : operation.id = declaration.id unicode
  included : (field declaration.op "x-mcp-exclude").truthy = false
  current : (field declaration.op "deprecated").truthy = true → includeDeprecated = true
  method : operation.binding.method = unicode.upper declaration.method
  path : operation.binding.path = declaration.path
  effect : effectForMethod unicode operation.binding.method = .ok operation.effect
  declared : ∀ param ∈ operation.binding.parameters, ∃ key fields,
    declaration.parameterAt key = some fields ∧ param.Declared key fields
  complete : ∀ key fields, declaration.parameterAt key = some fields → locationOf key.2 ≠ none →
    ∃ param ∈ operation.binding.parameters, param.Declared key fields
  allowed : ∀ param ∈ operation.binding.parameters, AllowedHeader unicode credentialHeaders param
  filled : ∀ name ∈ pathPlaceholders declaration.path, ∃ param ∈ operation.binding.parameters,
    param.location = .path ∧ param.required = true ∧ param.wireName.key = .text name
  body : operation.binding.body ≠ none → (field declaration.op "requestBody").truthy = true

section Yielded

variable {unicode : PyUnicode} {credentialHeaders : List String} {includeDeprecated : Bool}
  {upstreamKey : String}

/-- A parameter is published under another name only. -/
theorem renamedParameter_eq (isPrintable : Char → Bool) (parameters : List Parameter)
    (names : List DictKey) (param : Parameter) :
    ∃ arg, renamedParameter isPrintable parameters names param = { param with arg } := by
  unfold renamedParameter
  split
  · exact ⟨_, rfl⟩
  · exact ⟨param.arg, rfl⟩

theorem mem_renamedParameters {isPrintable : Char → Bool} {parameters : List Parameter}
    {names : List DictKey} {param : Parameter}
    (paramMem : param ∈ renamedParameters isPrintable parameters names) :
    ∃ own ∈ parameters, ∃ arg, param = { own with arg } := by
  rcases List.mem_map.mp paramMem with ⟨own, ownMem, rfl⟩
  exact ⟨own, ownMem, renamedParameter_eq isPrintable parameters names own⟩

theorem exists_renamed (isPrintable : Char → Bool) {parameters : List Parameter}
    (names : List DictKey) {own : Parameter} (ownMem : own ∈ parameters) :
    ∃ arg, ({ own with arg } : Parameter) ∈ renamedParameters isPrintable parameters names := by
  rcases renamedParameter_eq isPrintable parameters names own with ⟨arg, same⟩
  exact ⟨arg, List.mem_map.mpr ⟨own, ownMem, same⟩⟩

theorem Parameter.Declared.published {param : Parameter} {key : ParameterKey} {fields : JsonObject}
    (declared : param.Declared key fields) (arg : DictKey) :
    ({ param with arg } : Parameter).Declared key fields where
  name := declared.name
  named := declared.named
  location := declared.location
  required := declared.required
  schema := declared.schema
  explode := declared.explode

theorem field_extensions (op : JsonObject) {key : String}
    (isExtension : "x-mcp-".toList.isPrefixOf key.toList = true) :
    field (extensions op) key = field op key := by
  have kept := Dict.get?_filter (fun name => "x-mcp-".toList.isPrefixOf name.toList) op key
  rw [if_pos isExtension] at kept
  exact congrArg (·.getD .null) kept

theorem made_of_build {raw : RawOperation} {operation : Operation}
    (builds : build unicode upstreamKey credentialHeaders raw = .ok (some operation)) :
    PassesHeaders unicode credentialHeaders raw ∧ ∃ effect flattened,
      effectForMethod unicode (raw.binding unicode).method = .ok effect ∧
        flattenBinding unicode.isPrintable (raw.binding unicode) = .ok flattened ∧
        raw.operation unicode upstreamKey effect flattened = .ok operation := by
  unfold build at builds
  dsimp only at builds
  split at builds
  case isTrue => cases builds
  case isFalse included =>
    simp only [bind_eq_ok] at builds
    rcases builds with ⟨denylisted, looked, builds⟩
    split at builds
    case isTrue => cases builds
    case isFalse notDenylisted =>
      rw [Bool.not_eq_true] at included notDenylisted
      subst notDenylisted
      split at builds
      case h_1 => cases builds
      case h_2 derivedEffect hasEffect =>
        rcases bind_eq_ok.mp builds with ⟨flattened, flattens, builds⟩
        cases flattened with
        | none => cases builds
        | some flattened =>
            rcases map_eq_ok.mp (orSkip_eq_some.mp flattens) with ⟨_, flattens, same⟩
            cases same
            rcases map_eq_ok.mp builds with ⟨_, made, same⟩
            cases same
            exact ⟨⟨included, namesDenylisted_eq_false_iff.mp looked⟩, derivedEffect, flattened,
              hasEffect, flattens, made⟩

theorem build_eq_some {raw : RawOperation} {operation : Operation}
    (builds : build unicode upstreamKey credentialHeaders raw = .ok (some operation)) :
    PassesHeaders unicode credentialHeaders raw ∧
      effectForMethod unicode (raw.binding unicode).method = .ok operation.effect ∧
      checkPathTemplate (raw.binding unicode) = .ok () ∧
      resolveArgNames unicode.isPrintable (raw.binding unicode) = .ok operation.binding ∧
      operation.upstream = upstreamKey ∧ operation.id = raw.id unicode := by
  rcases made_of_build builds with ⟨passes, effect, flattened, hasEffect, flattens, made⟩
  simp only [flattenBinding, bind_eq_ok, pure_eq_ok] at flattens
  rcases flattens with ⟨_, accepted, resolved, resolves, _, _, rfl⟩
  rcases operation_eq_ok made with ⟨isId, isUpstream, isEffect, isBinding⟩
  exact ⟨passes, isEffect ▸ hasEffect, accepted, isBinding ▸ resolves, isUpstream, isId⟩

theorem requestBody_eq_some {Error : Type} {op : JsonObject} {body : RequestBody}
    (read : (requestBody op : Except (PyException Error) (Option RequestBody)) = .ok (some body)) :
    (field op "requestBody").truthy = true := by
  unfold requestBody at read
  dsimp only at read
  split at read
  case isTrue => cases read
  case isFalse given => simpa using given

/-- What an operation object is built to is what it declares. -/
theorem offers_of_build {place : Place} {item op : JsonObject} {parameters : List RawParameter}
    {body : Option RequestBody} {operation : Operation}
    (isParams : place.pathParams = listField item "parameters")
    (kept : leftOut includeDeprecated op = false)
    (merged : (mergedParameters place.pathParams (listField op "parameters") :
      Except (PyException PathsError) (List RawParameter)) = .ok parameters)
    (bodyRead : (requestBody op : Except (PyException PathsError) (Option RequestBody)) = .ok body)
    (builds : build unicode upstreamKey credentialHeaders (recordOf place op parameters body) =
      .ok (some operation)) :
    (Declaration.mk place.path place.method item op).Offers unicode credentialHeaders
      includeDeprecated operation := by
  rcases build_eq_some builds with ⟨passes, hasEffect, accepted, resolves, _, isId⟩
  rcases resolveArgNames_eq_ok_iff.mp resolves with ⟨_, names, _, _, _, _, isResolved⟩
  rw [isParams] at merged
  have read := @mergedParameters_declared _ (Declaration.mk place.path place.method item op)
    parameters merged
  have template := (checkPathTemplate_eq_ok_iff.mp accepted).1
  have isBinding : operation.binding.parameters = renamedParameters unicode.isPrintable
      (parameters.map (·.parameter)) names := by
    rw [isResolved]
    rfl
  have every : ∀ param ∈ operation.binding.parameters,
      ∃ raw ∈ parameters, ∃ arg, param = { raw.parameter with arg } := by
    intro param paramMem
    rcases mem_renamedParameters (isBinding ▸ paramMem) with ⟨_, ownMem, arg, same⟩
    rcases List.mem_map.mp ownMem with ⟨raw, rawMem, rfl⟩
    exact ⟨raw, rawMem, arg, same⟩
  have published : ∀ raw ∈ parameters,
      ∃ arg, ({ raw.parameter with arg } : Parameter) ∈ operation.binding.parameters := by
    intro raw rawMem
    rw [isBinding]
    exact exists_renamed unicode.isPrintable names (List.mem_map_of_mem rawMem)
  constructor
  case id => exact isId
  case included =>
    rw [← field_extensions op (by decide)]
    exact passes.included
  case current =>
    intro deprecated
    simpa [leftOut, deprecated] using kept
  case method =>
    rw [isResolved]
    rfl
  case path =>
    rw [isResolved]
    rfl
  case effect =>
    rw [isResolved]
    exact hasEffect
  case declared =>
    intro param paramMem
    rcases every param paramMem with ⟨raw, rawMem, arg, rfl⟩
    rcases read.1 raw rawMem with ⟨key, fields, found, declared⟩
    exact ⟨key, fields, found, declared.published arg⟩
  case complete =>
    intro key fields found exposed
    rcases read.2 key fields found exposed with ⟨raw, rawMem, declared⟩
    rcases published raw rawMem with ⟨arg, paramMem⟩
    exact ⟨_, paramMem, declared.published arg⟩
  case allowed =>
    intro param paramMem
    rcases every param paramMem with ⟨raw, rawMem, arg, rfl⟩
    exact passes.allowed raw.parameter (List.mem_map_of_mem rawMem)
  case filled =>
    intro name nameMem
    rcases List.mem_map.mp (template.named name nameMem) with ⟨own, ownMem, isName⟩
    have isRequired := template.required own ownMem
    rcases List.mem_filter.mp ownMem with ⟨ownMem, inPath⟩
    rcases List.mem_map.mp ownMem with ⟨raw, rawMem, rfl⟩
    rcases published raw rawMem with ⟨arg, paramMem⟩
    exact ⟨_, paramMem, of_decide_eq_true inPath, isRequired, isName⟩
  case body =>
    intro hasBody
    cases body with
    | none =>
        rw [isResolved] at hasBody
        exact absurd rfl hasBody
    | some body => exact requestBody_eq_some bodyRead

/-- What is yielded is on the upstream that is described. -/
theorem upstream_of_operations {document : JsonObject} {yielded : List Located}
    (loads : operations unicode upstreamKey credentialHeaders includeDeprecated document =
      .ok yielded) {located : Located} (locatedMem : located ∈ yielded) :
    located.2.upstream = upstreamKey := by
  simp only [operations, bind_eq_ok, mapError_eq_ok, pure_eq_ok] at loads
  rcases loads with ⟨raws, _, built, builds, rfl⟩
  rcases mem_of_mapM_eq_ok builds (List.reduceOption_mem_iff.mp locatedMem) with
    ⟨raw, _, isLocated⟩
  rcases map_eq_ok.mp (mapError_eq_ok.mp isLocated) with ⟨operation, isBuilt, same⟩
  cases operation with
  | none => cases same
  | some operation =>
      cases same
      exact (build_eq_some isBuilt).2.2.2.2.1

/-- An operation is only yielded from a document that has paths. -/
theorem exists_paths {document : JsonObject} {yielded : List Located} {located : Located}
    (loads : operations unicode upstreamKey credentialHeaders includeDeprecated document =
      .ok yielded) (locatedMem : located ∈ yielded) :
    ∃ paths, field document "paths" = .obj paths := by
  simp only [operations, bind_eq_ok, mapError_eq_ok, pure_eq_ok] at loads
  rcases loads with ⟨raws, extracted, built, builds, rfl⟩
  unfold extractRawOperations at extracted
  dsimp only at extracted
  split at extracted
  case isTrue =>
    cases extracted
    cases builds
    cases locatedMem
  case isFalse =>
    split at extracted
    case h_1 paths isPaths => exact ⟨paths, isPaths⟩
    case h_2 => cases extracted

/--
Every operation that a document yields is declared in it, under its id, its path and its method, and
not excluded. Its parameters are those that are declared for it, no header among them is on the
denylist, and every placeholder of its path is filled.
-/
theorem declared_of_operations {document : JsonObject} {yielded : List Located}
    (loads : operations unicode upstreamKey credentialHeaders includeDeprecated document =
      .ok yielded) {located : Located} (locatedMem : located ∈ yielded) :
    ∃ declaration : Declaration, declaration.StandsIn unicode document ∧
      located.1 = (declaration.path, declaration.method) ∧
      declaration.Offers unicode credentialHeaders includeDeprecated located.2 := by
  rcases exists_paths loads locatedMem with ⟨paths, isPaths⟩
  rcases (operations_eq_ok_iff isPaths).mp loads with ⟨outcomes, yields, rfl⟩
  rcases exists_left_of_forall₂ yields (List.reduceOption_mem_iff.mp locatedMem) with
    ⟨place, placeMem, yieldsHere⟩
  have isPlace := yieldsHere.located
  rcases mem_places_iff.mp placeMem with ⟨_, item, isItem, _, exposed, isParams, isOp⟩
  rcases yieldsHere with ⟨_, absent⟩ | ⟨raw, extracted, built⟩
  · cases absent
  · rcases rawOperation_eq_some_iff.mp (orSkip_eq_some.mp extracted) with
      ⟨op, parameters, body, isObject, kept, merged, bodyRead, rfl⟩
    rcases map_eq_ok.mp (mapError_eq_ok.mp built) with ⟨operation, builds, same⟩
    cases operation with
    | none => cases same
    | some operation =>
        cases same
        refine ⟨Declaration.mk place.path place.method item op, ?_, isPlace, ?_⟩
        · exact ⟨⟨paths, isPaths, isItem⟩, isOp ▸ isObject, exposed⟩
        · exact offers_of_build isParams kept merged bodyRead builds

end Yielded

section Draft

private def draftPath : String := "/drafts/\x7bdraft\x7d"

private def draftParameter (type : String) : Json :=
  .obj [
    ("name", .str "draft"),
    ("in", .str "path"),
    ("required", .bool true),
    ("schema", .obj [("type", .str type)])]

/-- The operation to read declares its parameter anew, the one to delete is excluded. -/
private def draftDocument : JsonObject :=
  [ ("paths", .obj [
      (draftPath, .obj [
        ("parameters", .arr [draftParameter "string"]),
        ("get", .obj [("parameters", .arr [draftParameter "integer"])]),
        ("delete", .obj [("x-mcp-exclude", .bool true)])])]) ]

/-- Only the reading is yielded, with the parameter that it declares itself. -/
theorem declared_of_operations_draft :
    ∃ yielded, operations asciiTables "drafts" [] false draftDocument = .ok yielded ∧
      yielded.map (·.1) = [(draftPath, "get")] ∧
      ∀ located ∈ yielded, ∃ declaration : Declaration,
        declaration.StandsIn asciiTables draftDocument ∧ declaration.method = "get" ∧
        declaration.Offers asciiTables [] false located.2 := by
  have loads : ∃ yielded, operations asciiTables "drafts" [] false draftDocument = .ok yielded ∧
      yielded.map (·.1) = [(draftPath, "get")] := ⟨_, rfl, rfl⟩
  rcases loads with ⟨yielded, loads, places⟩
  refine ⟨yielded, loads, places, ?_⟩
  intro located locatedMem
  rcases declared_of_operations loads locatedMem with ⟨declaration, stands, isPlace, offers⟩
  have isGet : located.1 ∈ [(draftPath, "get")] := places ▸ List.mem_map_of_mem locatedMem
  rw [List.mem_singleton.mp isGet, Prod.mk.injEq] at isPlace
  exact ⟨declaration, stands, isPlace.2.symm, offers⟩

end Draft

end Unchecked

end McpPortal
