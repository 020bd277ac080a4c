import McpPortal.Foundation.JsonRoundTrip
import McpPortal.Foundation.PercentDecode
import McpPortal.Sources.FlattenStable
import McpPortal.Transports.Routes

/-!
# Where an argument ends up

Every argument reaches the one place its name stands for: a placeholder's segment
decodes to the text of its own parameter, a flattened body decodes to the arguments
its properties name, and what the published schema does not name is not read. The
schema lists the properties with `dict` while the request reads them with `set`;
routing goes wrong exactly where the two disagree about the arguments.
-/

namespace McpPortal

open Foundation

/-- Every placeholder of the template is a whole segment. -/
def WholeSegments (path : String) : Prop :=
  (∀ name ∈ pathPlaceholders path, '/' ∉ name.toList) ∧
    ∀ segment ∈ templateSegments path, Text.placeholders segment = [] ∨
      ∃ name ∈ pathPlaceholders path, segment = Text.braced name.toList

/-- A literal segment is sent as it is, a placeholder as the encoded text of its argument. -/
def SegmentRouted (isPrintable : Char → Bool) (parameters : List Parameter)
    (arguments : JsonObject) (segment sent : DotSegments.Segment) : Prop :=
  (Text.placeholders segment = [] ∧ sent = segment) ∨
    ∃ param ∈ pathParameters parameters, segment = Text.braced param.wireName.toList ∧
      ∃ value, Dict.get? arguments param.arg = some value ∧
        Percent.unquoteChars sent = some (value.text isPrintable)

/-- The argument names of a published schema. -/
def schemaNames (schema : JsonObject) : List String :=
  match Dict.get? schema "properties" with
  | some (.obj properties) => Dict.keys properties
  | _ => []

/-- The arguments under names that are selected. -/
def argumentsOf (names : List String) (arguments : JsonObject) : JsonObject :=
  arguments.filter fun argument => argument.1 ∈ names

section Path

variable {isPrintable : Char → Bool} {arguments : JsonObject}

theorem distinct_pathTexts {parameters : List Parameter}
    (distinct : ((pathParameters parameters).map (·.wireName)).Nodup) :
    ((pathTexts isPrintable parameters arguments).map Prod.fst).Nodup := by
  have names : ((pathTexts isPrintable parameters arguments).map Prod.fst).Sublist
      ((pathParameters parameters).map fun param => param.wireName.toList) := by
    rw [pathTexts]
    induction pathParameters parameters with
    | nil => exact List.Sublist.refl _
    | cons param rest ih =>
        cases given : Dict.get? arguments param.arg with
        | none => simpa [given] using ih.cons _
        | some value => simpa [given] using ih
  apply names.nodup
  have texts := distinct.map (fun _ _ same => String.toList_inj.mp same)
  rw [List.map_map] at texts
  exact texts

/-- The filled template consists of the routed segments of the template. -/
theorem segments_routed {binding : HttpBinding} (matched : TemplateMatches binding)
    (whole : WholeSegments binding.path) {parts final : RequestParts}
    (ran : binding.parameters.foldlM (addParameter isPrintable arguments) parts = .ok final) :
    List.Forall₂ (SegmentRouted isPrintable binding.parameters arguments)
      (templateSegments binding.path)
      ((Text.fillAll (pathTexts isPrintable binding.parameters arguments)
        (binding.path.toList.dropWhile (· = '/'))).splitOn '/') := by
  rcases path_foldlM_addParameter ran with ⟨_, _, named⟩
  have isPlaceholder : ∀ filling ∈ pathTexts isPrintable binding.parameters arguments,
      Text.braceFree filling.1 ∧ ∃ name ∈ pathPlaceholders binding.path, filling.1 = name.toList := by
    intro filling present
    rcases mem_pathTexts present with ⟨param, paramMem, name_eq, _⟩
    have placed := (matched.placed param.wireName).mpr (List.mem_map_of_mem paramMem)
    refine ⟨?_, param.wireName, placed, name_eq⟩
    rcases List.mem_map.mp placed with ⟨chars, charsMem, same⟩
    rw [name_eq, ← same, String.toList_ofList]
    exact (Text.mem_placeholders_iff.mp charsMem).1
  have slashFree : ∀ filling ∈ pathTexts isPrintable binding.parameters arguments,
      '/' ∉ filling.1 ∧ '/' ∉ filling.2 := by
    intro filling present
    rcases (isPlaceholder filling present).2 with ⟨name, nameMem, name_eq⟩
    exact ⟨name_eq ▸ whole.1 name nameMem,
      notMem_pathTexts (by decide) (by decide) filling present⟩
  have closed : ∀ filling ∈ pathTexts isPrintable binding.parameters arguments,
      '\x7b' ∉ filling.2 := notMem_pathTexts (by decide) (by decide)
  rw [Text.splitOn_fillAll (by decide) slashFree, ← templateSegments, List.forall₂_map_right_iff,
    List.forall₂_same]
  intro segment segmentMem
  rcases whole.2 segment segmentMem with literal | ⟨name, nameMem, rfl⟩
  · left
    exact ⟨literal, Text.fillAll_of_no_placeholder
      (fun filling present => (isPlaceholder filling present).1) literal⟩
  · right
    rcases List.mem_map.mp ((matched.placed name).mp nameMem) with ⟨param, paramMem, rfl⟩
    refine ⟨param, paramMem, rfl, ?_⟩
    have filled := named param paramMem (matched.required param paramMem)
    rcases List.mem_map.mp filled with ⟨filling, fillingMem, name_eq⟩
    rw [← name_eq, Text.fillAll_braced (fun other present => (isPlaceholder other present).1) closed
      (distinct_pathTexts matched.distinct) fillingMem]
    rcases List.mem_filterMap.mp fillingMem with ⟨source, sourceMem, isFilled⟩
    rcases Option.map_eq_some_iff.mp isFilled with ⟨value, given, rfl⟩
    have own : source = param := List.inj_on_of_nodup_map matched.distinct sourceMem paramMem
      (String.toList_inj.mp name_eq)
    subst source
    refine ⟨value, given, ?_⟩
    rw [quote, String.toList_ofList, Percent.unquoteChars_quoteChars, String.ofList_toList]

end Path

section Body

variable {arguments others : JsonObject}

theorem mem_argumentsOf {names : List String} {argument : String × Json} :
    argument ∈ argumentsOf names arguments ↔ argument ∈ arguments ∧ argument.1 ∈ names := by
  rw [argumentsOf, List.mem_filter, decide_eq_true_eq]

theorem argumentsOf_eq_iff {left right : List String} :
    argumentsOf left arguments = argumentsOf right arguments ↔
      ∀ name ∈ Dict.keys arguments, (name ∈ left ↔ name ∈ right) := by
  constructor
  · intro same name nameMem
    rcases List.mem_map.mp nameMem with ⟨argument, argumentMem, rfl⟩
    have selected : argument ∈ argumentsOf left arguments ↔ argument ∈ argumentsOf right arguments := by
      rw [same]
    rw [mem_argumentsOf, mem_argumentsOf] at selected
    simpa [argumentMem] using selected
  · intro same
    apply List.filter_congr
    intro argument argumentMem
    rw [decide_eq_decide]
    exact same argument.1 (List.mem_map_of_mem argumentMem)

/-- Mappings that agree in some arguments agree in fewer of them. -/
theorem argumentsOf_mono {few many : List String} (included : ∀ name ∈ few, name ∈ many)
    (same : argumentsOf many others = argumentsOf many arguments) :
    argumentsOf few others = argumentsOf few arguments := by
  have twice : ∀ mapping : JsonObject,
      argumentsOf few (argumentsOf many mapping) = argumentsOf few mapping := by
    intro mapping
    rw [argumentsOf, argumentsOf, List.filter_filter]
    apply List.filter_congr
    intro argument _
    by_cases selected : argument.1 ∈ few
    · simp [selected, included _ selected]
    · simp [selected]
  rw [← twice others, ← twice arguments, same]

theorem get?_of_argumentsOf {names : List String} {name : String} (nameMem : name ∈ names)
    (same : argumentsOf names others = argumentsOf names arguments) :
    Dict.get? others name = Dict.get? arguments name := by
  have found : ∀ mapping : JsonObject,
      Dict.get? (argumentsOf names mapping) name = Dict.get? mapping name := by
    intro mapping
    rw [argumentsOf, Dict.get?_filter (fun key => decide (key ∈ names))]
    simp [nameMem]
  rw [← found others, ← found arguments, same]

theorem readable_argumentsOf {readFloat : String → PyFloat}
    (readable : JsonText.Readable readFloat (.obj arguments)) (names : List String) :
    JsonText.Readable readFloat (.obj (argumentsOf names arguments)) := by
  rw [JsonText.Readable, JsonText.readableFields_iff] at readable ⊢
  refine ⟨?_, fun argument argumentMem => readable.2 argument (mem_argumentsOf.mp argumentMem).1⟩
  exact (List.filter_sublist.map Prod.fst).nodup readable.1

theorem buildBody_flattened_ok {body : BodySpec} (flattened : body.isFlattened = true)
    {text : String} (ran : buildBody body arguments = .ok text) :
    ∃ declared, (stringsOfSet body.declaredProperties : Build (List String)) = .ok declared ∧
      (∃ names, body.declaredRequired.iterate? = some names) ∧
      text = dumps (.obj (argumentsOf declared arguments)) := by
  simp only [buildBody, flattened, if_true, bind_eq_ok, pure_eq_ok] at ran
  rcases ran with ⟨declared, isSet, names, listed, _, _, rfl⟩
  refine ⟨declared, isSet, ⟨names, ?_⟩, rfl⟩
  unfold iterate at listed
  split at listed
  case h_1 items_eq =>
    cases listed
    exact items_eq
  case h_2 => cases listed

/-- Fields are arguments, so whether a required name is given depends on the fields only. -/
theorem checkBodyName_of_fields {fields : JsonObject}
    (included : ∀ name ∈ Dict.keys fields, name ∈ Dict.keys arguments) :
    checkBodyName arguments fields = checkBodyName fields fields := by
  funext name
  cases name with
  | str text =>
      have given : (text ∉ Dict.keys arguments ∨ text ∉ Dict.keys fields) ↔
          (text ∉ Dict.keys fields ∨ text ∉ Dict.keys fields) := by
        rw [or_self]
        refine ⟨?_, Or.inr⟩
        rintro (absent | absent) present
        · exact absent (included text present)
        · exact absent present
      simp only [checkBodyName, given]
  | _ => rfl

theorem keys_argumentsOf {names : List String} :
    ∀ name ∈ Dict.keys (argumentsOf names arguments), name ∈ Dict.keys arguments := by
  intro name present
  rcases List.mem_map.mp present with ⟨argument, argumentMem, rfl⟩
  exact List.mem_map_of_mem (mem_argumentsOf.mp argumentMem).1

theorem buildBody_congr {body : BodySpec}
    (single : body.isFlattened = false →
      Dict.get? others bodyArg = Dict.get? arguments bodyArg)
    (fields : body.isFlattened = true → ∀ declared,
      (stringsOfSet body.declaredProperties : Build (List String)) = .ok declared →
      argumentsOf declared others = argumentsOf declared arguments) :
    buildBody body others = buildBody body arguments := by
  unfold buildBody
  cases flattened : body.isFlattened with
  | false => simp only [Bool.false_eq_true, if_false, single flattened]
  | true =>
      simp only [if_true]
      cases isSet : (stringsOfSet body.declaredProperties : Build (List String)) with
      | error error => rfl
      | ok declared =>
          have same := fields flattened declared isSet
          have checks : checkBodyName others (argumentsOf declared others) =
              checkBodyName arguments (argumentsOf declared others) := by
            rw [checkBodyName_of_fields keys_argumentsOf, same,
              checkBodyName_of_fields keys_argumentsOf]
          simp only [argumentsOf] at checks same
          simp only [bind, Except.bind, checks]
          simp only [same]

end Body

section Unnamed

variable {isPrintable : Char → Bool} {binding resolved : HttpBinding} {baseUrl : String}
  {arguments others : JsonObject} {credential : Option Credential} {request : PreparedRequest}

theorem addParameter_congr {param : Parameter} (parts : RequestParts)
    (same : Dict.get? others param.arg = Dict.get? arguments param.arg) :
    addParameter isPrintable others parts param = addParameter isPrintable arguments parts param := by
  rw [addParameter, addParameter, same]

theorem foldlM_addParameter_congr {parameters : List Parameter}
    (same : ∀ param ∈ parameters, Dict.get? others param.arg = Dict.get? arguments param.arg)
    (parts : RequestParts) :
    parameters.foldlM (addParameter isPrintable others) parts =
      parameters.foldlM (addParameter isPrintable arguments) parts := by
  induction parameters generalizing parts with
  | nil => rfl
  | cons param rest ih =>
      rw [List.forall_mem_cons] at same
      rw [List.foldlM_cons, List.foldlM_cons, addParameter_congr parts same.1]
      apply bind_congr
      intro next
      exact ih same.2 next

/-- A request reads the arguments of its parameters and those of its body. -/
theorem buildRequest_congr
    (parameters : ∀ param ∈ binding.parameters,
      Dict.get? others param.arg = Dict.get? arguments param.arg)
    (bodies : ∀ body, binding.body = some body → buildBody body others = buildBody body arguments) :
    buildRequest isPrintable binding baseUrl others credential =
      buildRequest isPrintable binding baseUrl arguments credential := by
  have withBody : ∀ headers, addRequestBody headers binding.body others =
      addRequestBody headers binding.body arguments := by
    intro headers
    cases isBody : binding.body with
    | none => rfl
    | some body => simp only [addRequestBody, bodies body isBody]
  rw [buildRequest, buildRequest, foldlM_addParameter_congr parameters]
  simp only [withBody]

/-- The schema names the arguments of the parameters and those of the body. -/
theorem mem_schemaNames (resolves : resolveArgNames binding = .ok resolved) {names : List String}
    (named : bodyNames binding = .ok names) {schema : JsonObject}
    (published : buildInputSchema binding = .ok schema) {name : String} :
    name ∈ schemaNames schema ↔ name ∈ resolved.parameters.map (·.arg) ∨ name ∈ names := by
  have sameBody : resolved.body = binding.body := by
    rcases resolveArgNames_ok resolves with ⟨_, _, rfl⟩
    rfl
  simp only [buildInputSchema, resolves, bind_eq_ok, pure_eq_ok, Except.ok.injEq,
    exists_eq_left'] at published
  rcases published with ⟨⟨properties, required⟩, added, rfl⟩
  have properties_eq : ∀ rest : JsonObject, schemaNames
      (("type", .str "object") :: ("properties", .obj properties) :: rest) =
        Dict.keys properties := fun _ => rfl
  have listed : schemaNames (if required.isEmpty = true then
      [("type", .str "object"), ("properties", .obj properties)]
      else [("type", .str "object"), ("properties", .obj properties)] ++
        [("required", .arr required)]) = Dict.keys properties := by
    split
    · exact properties_eq []
    · exact properties_eq _
  have ownNames : ∀ other, other ∈ Dict.keys (Dict.ofList (resolved.parameters.map fun p =>
      (p.arg, Json.obj p.schema))) ↔ other ∈ resolved.parameters.map (·.arg) := by
    intro other
    rw [Dict.mem_keys_ofList, Dict.keys, List.map_map]
    rfl
  rw [listed, ← ownNames]
  rw [sameBody] at added
  unfold bodyNames at named
  cases isBody : binding.body with
  | none =>
      simp only [isBody, pure_eq_ok] at named
      simp only [isBody, addBody, pure_eq_ok, Prod.mk.injEq] at added
      simp [← named, ← added.1]
  | some body =>
      simp only [isBody] at named
      simp only [isBody, addBody] at added
      rcases bind_eq_ok.mp named with ⟨lifted, isLifted, named⟩
      simp only [isLifted, bind_eq_ok, Except.ok.injEq, exists_eq_left'] at added
      cases lifted with
      | none =>
          simp only [pure_eq_ok, Prod.mk.injEq] at named added
          rw [← named, ← added.1, Dict.mem_keys_insert, List.mem_singleton]
          exact or_comm
      | some lifted =>
          simp only [pure_eq_ok] at named
          simp only [bind_eq_ok, pure_eq_ok, Prod.mk.injEq] at added
          rcases added with ⟨_, _, isAdded, _⟩
          rw [← named, ← isAdded, Dict.mem_keys_foldl_insert]
          exact or_comm

/-- A binding from which a request was built has a published schema. -/
theorem exists_buildInputSchema (resolves : resolveArgNames binding = .ok resolved)
    (built : buildRequest isPrintable resolved baseUrl arguments credential = .ok request) :
    ∃ schema, buildInputSchema binding = .ok schema := by
  rcases resolveArgNames_ok resolves with ⟨names, named, resolved_eq⟩
  have sameBody : resolved.body = binding.body := by rw [resolved_eq]
  rcases buildRequest_ok built with ⟨_, _, _, bodyRan, _⟩
  have adds (properties : JsonObject) (required : List Json) :
      ∃ added, addBody properties required resolved.body = .ok added := by
    rw [exists_addBody_iff]
    intro body isBody
    refine ⟨exists_bodyProperties named body (sameBody ▸ isBody), fun flattened => ?_⟩
    rw [Option.mem_def] at isBody
    simp only [isBody, addRequestBody, bind_eq_ok, pure_eq_ok] at bodyRan
    rcases bodyRan with ⟨text, bodyBuilt, _⟩
    rcases buildBody_flattened_ok flattened bodyBuilt with ⟨_, _, listed, _⟩
    exact listed
  rcases adds (Dict.ofList (resolved.parameters.map fun p => (p.arg, Json.obj p.schema)))
    ((resolved.parameters.filter (·.required)).map fun p => Json.str p.arg) with ⟨added, isAdded⟩
  simp only [buildInputSchema, resolves, bind_eq_ok, pure_eq_ok, Except.ok.injEq, exists_eq_left',
    isAdded]
  exact ⟨_, rfl⟩

end Unnamed

/--
A request whose path segments and flattened body decode to the arguments they stand for,
and that does not depend on arguments the published schema does not name.
-/
structure RoutedReversibly (isPrintable : Char → Bool) (readFloat : String → PyFloat)
    (binding resolved : HttpBinding) (baseUrl : String) (arguments : JsonObject)
    (credential : Option Credential) (request : PreparedRequest) : Prop where
  path : ∃ sent query, request.url.toList =
      baseUrl.toList.rdropWhile (· = '/') ++ '/' :: (sent ++ query) ∧
    ('?' ∉ sent ∧ '#' ∉ sent) ∧ (query = [] ∨ ∃ rest, query = '?' :: rest) ∧
    List.Forall₂ (SegmentRouted isPrintable resolved.parameters arguments)
      (templateSegments binding.path) (sent.splitOn '/')
  body : ∀ body, resolved.body = some body → body.isFlattened = true → ∀ properties,
    (toDict body.declaredProperties : Flatten JsonObject) = .ok properties →
    ∃ text fields, request.body = some text ∧ loads readFloat text = some (.obj fields) ∧
      fields = argumentsOf (Dict.keys properties) arguments ∧
      ∀ param ∈ resolved.parameters, param.arg ∉ Dict.keys fields
  unnamed : ∃ schema, buildInputSchema binding = .ok schema ∧ ∀ others : JsonObject,
    argumentsOf (schemaNames schema) others = argumentsOf (schemaNames schema) arguments →
    buildRequest isPrintable resolved baseUrl others credential = .ok request

/--
The names a flattened body is filled by: those of the given arguments are its properties,
and all of them are names of the tool.
-/
def FilledByProperties (resolved : HttpBinding) (arguments : JsonObject) : Prop :=
  ∀ body, resolved.body = some body → body.isFlattened = true → ∀ declared properties,
    (stringsOfSet body.declaredProperties : Build (List String)) = .ok declared →
    (toDict body.declaredProperties : Flatten JsonObject) = .ok properties →
    (∀ name ∈ Dict.keys arguments, (name ∈ declared ↔ name ∈ Dict.keys properties)) ∧
      ∀ name ∈ declared, name ∈ resolved.parameters.map (·.arg) ∨ name ∈ Dict.keys properties

section Routing

variable {isPrintable : Char → Bool} {readFloat : String → PyFloat}
  {binding resolved : HttpBinding} {baseUrl : String} {arguments others : JsonObject}
  {credential : Option Credential} {request : PreparedRequest}

theorem bodyNames_flattened {names : List String} (named : bodyNames binding = .ok names)
    {body : BodySpec} (isBody : binding.body = some body) (flattened : body.isFlattened = true) :
    ∃ properties, (toDict body.declaredProperties : Flatten JsonObject) = .ok properties ∧
      names = Dict.keys properties := by
  simp only [bodyNames, isBody, bodyProperties, flattened, if_true, bind_assoc, pure_bind,
    bind_eq_ok, pure_eq_ok] at named
  rcases named with ⟨properties, isLifted, rfl⟩
  exact ⟨properties, isLifted, rfl⟩

/-- The text of a flattened body is that of the arguments the set of properties names. -/
theorem body_of_built
    (built : buildRequest isPrintable resolved baseUrl arguments credential = .ok request)
    {body : BodySpec} (isBody : resolved.body = some body) (flattened : body.isFlattened = true) :
    ∃ declared, (stringsOfSet body.declaredProperties : Build (List String)) = .ok declared ∧
      request.body = some (dumps (.obj (argumentsOf declared arguments))) := by
  rcases buildRequest_ok built with ⟨_, _, _, bodyRan, _⟩
  simp only [isBody, addRequestBody, bind_eq_ok, pure_eq_ok, Prod.mk.injEq] at bodyRan
  rcases bodyRan with ⟨text, bodyBuilt, _, text_eq⟩
  rcases buildBody_flattened_ok flattened bodyBuilt with ⟨declared, isSet, _, rfl⟩
  exact ⟨declared, isSet, text_eq.symm⟩

/-- A mapping that differs from the arguments in one name at most. -/
theorem exists_altered (name : String) :
    ∃ others : JsonObject, (∀ names : List String, name ∉ names →
        argumentsOf names others = argumentsOf names arguments) ∧
      (name ∈ Dict.keys others ↔ name ∉ Dict.keys arguments) ∧
      (JsonText.Readable readFloat (.obj arguments) →
        JsonText.Readable readFloat (.obj others)) := by
  by_cases given : name ∈ Dict.keys arguments
  · refine ⟨arguments.filter fun argument => argument.1 ≠ name, ?_, ?_, ?_⟩
    · intro names unnamed
      rw [argumentsOf, argumentsOf, List.filter_filter]
      apply List.filter_congr
      intro argument _
      by_cases selected : argument.1 ∈ names
      · have different : argument.1 ≠ name := by
          rintro rfl
          exact unnamed selected
        simp [selected, different]
      · simp [selected]
    · refine iff_of_false ?_ (not_not_intro given)
      intro present
      rcases List.mem_map.mp present with ⟨argument, argumentMem, same⟩
      exact of_decide_eq_true (List.mem_filter.mp argumentMem).2 same
    · intro readable
      rw [JsonText.Readable, JsonText.readableFields_iff] at readable ⊢
      refine ⟨(List.filter_sublist.map Prod.fst).nodup readable.1, ?_⟩
      intro argument argumentMem
      exact readable.2 argument (List.mem_filter.mp argumentMem).1
  · refine ⟨arguments ++ [(name, .null)], ?_, ?_, ?_⟩
    · intro names unnamed
      rw [argumentsOf, argumentsOf, List.filter_append]
      simp [unnamed]
    · refine iff_of_true ?_ given
      simp [Dict.keys]
    · intro readable
      rw [JsonText.Readable, JsonText.readableFields_iff] at readable ⊢
      constructor
      · rw [Dict.keys, List.map_append, List.nodup_append]
        refine ⟨readable.1, List.nodup_singleton _, ?_⟩
        intro other otherMem last isLast same
        rw [List.map_singleton, List.mem_singleton] at isLast
        rw [same, isLast] at otherMem
        exact given otherMem
      · intro argument argumentMem
        rcases List.mem_append.mp argumentMem with before | isLast
        · exact readable.2 argument before
        · rw [List.mem_singleton.mp isLast]
          trivial

/-- If a name the schema does not list fills the body, altering its argument alters the body. -/
theorem named_of_unnamed (readable : JsonText.Readable readFloat (.obj arguments))
    (built : buildRequest isPrintable resolved baseUrl arguments credential = .ok request)
    {names : List String}
    (unnamed : ∀ others : JsonObject, argumentsOf names others = argumentsOf names arguments →
      buildRequest isPrintable resolved baseUrl others credential = .ok request)
    {body : BodySpec} (isBody : resolved.body = some body) (flattened : body.isFlattened = true)
    {declared : List String}
    (isSet : (stringsOfSet body.declaredProperties : Build (List String)) = .ok declared) :
    ∀ name ∈ declared, name ∈ names := by
  intro name nameMem
  by_contra absent
  rcases @exists_altered readFloat arguments name with ⟨others, same, altered, staysReadable⟩
  have rebuilt := unnamed others (same names absent)
  rcases body_of_built built isBody flattened with ⟨_, isSetHere, body_eq⟩
  rcases body_of_built rebuilt isBody flattened with ⟨_, isSetThere, rebuilt_eq⟩
  cases isSet.symm.trans isSetHere
  cases isSet.symm.trans isSetThere
  rw [body_eq, Option.some.injEq] at rebuilt_eq
  have decoded := loads_dumps (readable_argumentsOf readable declared)
  rw [rebuilt_eq, loads_dumps (readable_argumentsOf (staysReadable readable) declared),
    Option.some.injEq, Json.obj.injEq] at decoded
  have present : ∀ mapping : JsonObject,
      name ∈ Dict.keys (argumentsOf declared mapping) ↔ name ∈ Dict.keys mapping := by
    intro mapping
    rw [← Dict.get?_isSome_iff, ← Dict.get?_isSome_iff, argumentsOf,
      Dict.get?_filter (fun key => decide (key ∈ declared))]
    simp [nameMem]
  rw [← present, decoded, present] at altered
  exact iff_not_self altered

theorem mem_declared_iff {value : Json} {declared : List String} {properties : JsonObject}
    (plain : ∀ items, value = .arr items → items = [])
    (isSet : (stringsOfSet value : Build (List String)) = .ok declared)
    (isDict : (toDict value : Flatten JsonObject) = .ok properties) (name : String) :
    name ∈ declared ↔ name ∈ Dict.keys properties := by
  cases value with
  | null => cases isDict
  | bool _ => cases isDict
  | int _ => cases isDict
  | float _ => cases isDict
  | str text =>
      cases chars : text.toList with
      | nil =>
          have text_eq : text = "" := String.toList_eq_nil_iff.mp chars
          subst text
          cases isSet
          cases isDict
          rfl
      | cons char rest =>
          simp [toDict, iterate, Json.iterate?, chars, dictItem, bind_eq_ok] at isDict
  | arr items =>
      cases plain items rfl
      cases isSet
      cases isDict
      rfl
  | obj fields =>
      cases isDict
      simp only [stringsOfSet, iterate, Json.iterate?, bind_eq_ok, Except.ok.injEq,
        exists_eq_left'] at isSet
      split at isSet
      · cases isSet
        simp [List.filterMap_map, Function.comp_def, Json.string?]
      · cases isSet

/-- Properties that are not given as a list are filled as they are published. -/
theorem filledByProperties_of_no_list
    (plain : ∀ body, resolved.body = some body → ∀ items,
      body.declaredProperties = .arr items → items = []) :
    FilledByProperties resolved arguments := by
  intro body isBody _ declared properties isSet isDict
  have same := mem_declared_iff (plain body isBody) isSet isDict
  exact ⟨fun name _ => same name, fun name nameMem => Or.inr ((same name).mp nameMem)⟩

/-- The sent path lies between the base and the query and consists of routed segments. -/
theorem path_routed (accepted : checkPathTemplate binding = .ok ())
    (resolves : resolveArgNames binding = .ok resolved) (templateBare : isBare binding.path)
    (whole : WholeSegments binding.path)
    (built : buildRequest isPrintable resolved baseUrl arguments credential = .ok request) :
    ∃ sent query, request.url.toList =
        baseUrl.toList.rdropWhile (· = '/') ++ '/' :: (sent ++ query) ∧
      ('?' ∉ sent ∧ '#' ∉ sent) ∧ (query = [] ∨ ∃ rest, query = '?' :: rest) ∧
      List.Forall₂ (SegmentRouted isPrintable resolved.parameters arguments)
        (templateSegments binding.path) (sent.splitOn '/') := by
  have matched := (checkPathTemplate_ok accepted).of_resolveArgNames resolves
  have samePath : resolved.path = binding.path := by
    rcases resolveArgNames_ok resolves with ⟨_, _, rfl⟩
    rfl
  rw [← samePath] at templateBare whole ⊢
  rcases url_buildRequest built with ⟨parts, query, ran, url_chars, isQuery⟩
  refine ⟨_, query, url_chars, ⟨?_, ?_⟩, ?_, segments_routed matched whole ran⟩
  · exact notMem_filled (by decide) (by decide) templateBare.1
  · exact notMem_filled (by decide) (by decide) templateBare.2
  · rcases isQuery with ⟨_, rfl⟩ | rfl
    · exact Or.inl rfl
    · exact Or.inr ⟨_, rfl⟩

/--
For an accepted binding whose placeholders are whole segments, a request is routed
reversibly exactly when its flattened body is filled by the published properties.
-/
theorem buildRequest_routed_iff (accepted : checkPathTemplate binding = .ok ())
    (resolves : resolveArgNames binding = .ok resolved) (templateBare : isBare binding.path)
    (whole : WholeSegments binding.path)
    (readable : JsonText.Readable readFloat (.obj arguments))
    (built : buildRequest isPrintable resolved baseUrl arguments credential = .ok request) :
    RoutedReversibly isPrintable readFloat binding resolved baseUrl arguments credential request ↔
      FilledByProperties resolved arguments := by
  rcases resolveArgNames_ok resolves with ⟨names, named, resolved_eq⟩
  have sameBody : resolved.body = binding.body := by rw [resolved_eq]
  rcases exists_buildInputSchema resolves built with ⟨schema, published⟩
  constructor
  · rintro ⟨_, bodyDecodes, schemaAgain, publishedAgain, unnamed⟩ body isBody flattened declared
      properties isSet isDict
    cases published.symm.trans publishedAgain
    constructor
    · rcases bodyDecodes body isBody flattened properties isDict with
        ⟨text, fields, body_eq, decodes, fields_eq, _⟩
      rcases body_of_built built isBody flattened with ⟨_, isSetHere, built_eq⟩
      cases isSet.symm.trans isSetHere
      cases built_eq.symm.trans body_eq
      rw [loads_dumps (readable_argumentsOf readable declared), Option.some.injEq, Json.obj.injEq,
        fields_eq] at decodes
      exact argumentsOf_eq_iff.mp decodes
    · intro name nameMem
      have inSchema := named_of_unnamed readable built unnamed isBody flattened isSet name nameMem
      rcases bodyNames_flattened named (sameBody ▸ isBody) flattened with
        ⟨_, isDictHere, names_eq⟩
      cases isDict.symm.trans isDictHere
      rw [mem_schemaNames resolves named published, names_eq] at inSchema
      exact inSchema
  · intro filled
    refine ⟨path_routed accepted resolves templateBare whole built, ?_, schema, published, ?_⟩
    · intro body isBody flattened properties isDict
      rcases body_of_built built isBody flattened with ⟨declared, isSet, body_eq⟩
      have agree := (filled body isBody flattened declared properties isSet isDict).1
      refine ⟨_, _, body_eq, loads_dumps (readable_argumentsOf readable declared),
        argumentsOf_eq_iff.mpr agree, ?_⟩
      intro param paramMem present
      rw [argumentsOf_eq_iff.mpr agree] at present
      rcases List.mem_map.mp present with ⟨argument, argumentMem, name_eq⟩
      rcases bodyNames_flattened named (sameBody ▸ isBody) flattened with
        ⟨_, isDictHere, names_eq⟩
      cases isDict.symm.trans isDictHere
      have distinct := resolveArgNames_distinct resolves named
      rw [List.nodup_append] at distinct
      apply distinct.2.2 param.arg (List.mem_map_of_mem paramMem) param.arg _ rfl
      rw [names_eq, ← name_eq]
      exact (mem_argumentsOf.mp argumentMem).2
    · intro others same
      rw [← built]
      have read : ∀ name, name ∈ schemaNames schema →
          Dict.get? others name = Dict.get? arguments name :=
        fun name nameMem => get?_of_argumentsOf nameMem same
      apply buildRequest_congr
      · intro param paramMem
        apply read
        rw [mem_schemaNames resolves named published]
        exact Or.inl (List.mem_map_of_mem paramMem)
      · intro body isBody
        apply buildBody_congr
        · intro single
          apply read
          rw [mem_schemaNames resolves named published]
          right
          simp only [bodyNames, sameBody ▸ isBody, bodyProperties, single] at named
          cases named
          exact List.mem_singleton_self _
        · intro flattened declared isSet
          refine argumentsOf_mono ?_ same
          intro name nameMem
          rcases bodyNames_flattened named (sameBody ▸ isBody) flattened with
            ⟨properties, isDict, names_eq⟩
          rw [mem_schemaNames resolves named published, names_eq]
          exact (filled body isBody flattened declared properties isSet isDict).2 name nameMem

end Routing

section Notes

private def notesBinding (arg : String) (properties : Json) : HttpBinding where
  method := "PUT"
  path := "/notes/\x7bid\x7d"
  parameters :=
    [{ arg := arg, location := .path, wireName := "id", required := true, schema := [] }]
  body := some
    { contentType := "application/json"
      schema := [("type", .str "object"), ("properties", properties)] }

private theorem notes_whole : isBare "/notes/\x7bid\x7d" ∧ WholeSegments "/notes/\x7bid\x7d" := by
  unfold isBare WholeSegments
  decide

/-- A list of names is published letter by letter, and the identifier is sent in the body too. -/
theorem buildRequest_leaks_note :
    let binding := notesBinding "id" (.arr [.str "id"])
    let arguments : JsonObject := [("id", .str "n1")]
    checkPathTemplate binding = .ok () ∧ resolveArgNames binding = .ok binding ∧
      isBare binding.path ∧ WholeSegments binding.path ∧
      ∃ request, buildRequest asciiTables.isPrintable binding "https://notes.test" arguments none =
          .ok request ∧
        request.url = "https://notes.test/notes/n1" ∧
        request.body = some "\x7b\"id\": \"n1\"\x7d" ∧
        ∀ readFloat, JsonText.Readable readFloat (.obj arguments) ∧
          ¬RoutedReversibly asciiTables.isPrintable readFloat binding binding "https://notes.test"
            arguments none request := by
  refine ⟨rfl, rfl, notes_whole.1, notes_whole.2, _, rfl, rfl, rfl, fun readFloat => ?_⟩
  have readable : JsonText.Readable readFloat (.obj [("id", .str "n1")]) :=
    ⟨by decide, trivial, trivial⟩
  refine ⟨readable, fun routed => ?_⟩
  rcases routed.body _ rfl rfl [("i", .str "d")] rfl with ⟨_, fields, text_eq, decodes, fields_eq, _⟩
  cases text_eq
  rw [fields_eq] at decodes
  cases (loads_dumps readable).symm.trans decodes

/-- A property takes the plain name, and the placeholder keeps its own argument. -/
theorem buildRequest_routed_iff_notes :
    let binding := notesBinding "id" (.obj [("id", .obj [])])
    let resolved := notesBinding "path_id" (.obj [("id", .obj [])])
    let arguments : JsonObject := [("path_id", .str "a/b"), ("id", .int 7), ("note", .null)]
    ∃ request, buildRequest asciiTables.isPrintable resolved "https://notes.test" arguments none =
        .ok request ∧
      RoutedReversibly asciiTables.isPrintable (fun _ => ⟨0, ""⟩) binding resolved
        "https://notes.test" arguments none request := by
  refine ⟨_, rfl, ?_⟩
  apply (buildRequest_routed_iff (rfl : checkPathTemplate _ = _) (rfl : resolveArgNames _ = _)
    notes_whole.1 notes_whole.2 (by simp [JsonText.Readable, JsonText.ReadableFields]) rfl).mpr
  apply filledByProperties_of_no_list
  intro body isBody items isList
  cases isBody
  cases isList

end Notes

end McpPortal
