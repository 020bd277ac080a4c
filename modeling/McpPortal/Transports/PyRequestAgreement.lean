import McpPortal.Transports.PyRequestFailures

/-!
# Requests of arguments without lone surrogates

Arguments without lone surrogates and overlong integers make the same request, or the same
`RequestBuildError`, as they do when they are modelled with plain strings. What is proved there
about a request is therefore about the request of a call.
-/

namespace McpPortal

open Foundation

namespace PyCall

/-- An outcome of building with plain strings, among those of a call. -/
def mirrored {Plain Points : Type} (convert : Plain → Points) (built : Build Plain) :
    Calling Points :=
  (built.map convert).mapError .interpreter

section Mirrored

variable {Plain Points NextPlain NextPoints Item : Type} {convert : Plain → Points}
  {convertNext : NextPlain → NextPoints}

@[simp]
theorem mirrored_ok {value : Plain} : mirrored convert (.ok value) = .ok (convert value) := rfl

@[simp]
theorem mirrored_pure {value : Plain} : mirrored convert (pure value) = .ok (convert value) := rfl

@[simp]
theorem mirrored_error {exception : PyException RequestBuildError} :
    mirrored convert (.error exception) = .error (.interpreter exception) := rfl

@[simp]
theorem mirrored_throw {exception : PyException RequestBuildError} :
    mirrored convert (throw exception) = .error (.interpreter exception) := rfl

theorem bind_mirrored {action : Build Plain} {next : Plain → Build NextPlain}
    {nextPoints : Points → Calling NextPoints}
    (same : ∀ value, action = .ok value →
      nextPoints (convert value) = mirrored convertNext (next value)) :
    mirrored convert action >>= nextPoints = mirrored convertNext (action >>= next) := by
  cases action with
  | error exception => rfl
  | ok value => exact same value rfl

theorem foldlM_mirrored {step : Plain → Item → Build Plain}
    {stepPoints : Points → Item → Calling Points}
    (same : ∀ value item, stepPoints (convert value) item = mirrored convert (step value item))
    (items : List Item) (start : Plain) :
    items.foldlM stepPoints (convert start) = mirrored convert (items.foldlM step start) := by
  induction items generalizing start with
  | nil => rfl
  | cons item rest ih =>
      rw [List.foldlM_cons, List.foldlM_cons, same]
      exact bind_mirrored fun value _ => ih value

theorem forM_mirrored {check : Item → Build Unit} {checkPoints : Item → Calling Unit}
    (same : ∀ item, checkPoints item = mirrored id (check item)) (items : List Item) :
    items.forM checkPoints = mirrored id (items.forM check) := by
  induction items with
  | nil => rfl
  | cons item rest ih =>
      change (checkPoints item >>= fun _ => rest.forM checkPoints) =
        mirrored id (check item >>= fun _ => rest.forM check)
      rw [same]
      exact bind_mirrored fun _ _ => ih

end Mirrored

section Values

theorem codePoints_injective : Function.Injective codePoints := by
  intro left right same
  have sameChars : left.toList = right.toList :=
    List.map_injective_iff.mpr CodePoint.ofChar_injective same
  exact String.toList_inj.mp sameChars

theorem codePoints_append (left right : String) :
    codePoints (left ++ right) = codePoints left ++ codePoints right := by
  simp [codePoints]

theorem codePoints_eq_nil_iff {text : String} : codePoints text = [] ↔ text = "" := by
  simp [codePoints]

theorem joinPoints_codePoints (sep : String) (texts : List String) :
    joinPoints (codePoints sep) (texts.map codePoints) = codePoints (joinWith sep texts) := by
  induction texts with
  | nil => rfl
  | cons text rest ih =>
      cases rest with
      | nil => rfl
      | cons next others =>
          have joined : joinWith sep (text :: next :: others) =
              text ++ sep ++ joinWith sep (next :: others) := rfl
          have joinedPoints :
              joinPoints (codePoints sep) ((text :: next :: others).map codePoints) =
                codePoints text ++ codePoints sep ++
                  joinPoints (codePoints sep) ((next :: others).map codePoints) := rfl
          rw [joined, joinedPoints, ih, codePoints_append, codePoints_append]

theorem hasLineBreak_codePoints (text : String) :
    hasLineBreak (codePoints text) = McpPortal.hasLineBreak text := by
  rw [hasLineBreak, McpPortal.hasLineBreak, codePoints, List.any_map]
  congr 1
  funext char
  simp only [Function.comp_apply, CodePoint.ofChar_injective.eq_iff]

/-- The pairs of a query or the headers, as code points. -/
def pairsInPoints (pairs : List (String × String)) : List (String × CodePoints) :=
  pairs.map fun pair => (pair.1, codePoints pair.2)

theorem insert_pairsInPoints (pairs : List (String × String)) (name value : String) :
    Dict.insert (pairsInPoints pairs) name (codePoints value) =
      pairsInPoints (Dict.insert pairs name value) := by
  induction pairs with
  | nil => rfl
  | cons pair rest ih =>
      simp only [pairsInPoints, List.map_cons, Dict.insert] at ih ⊢
      split
      · rfl
      · rw [ih, List.map_cons]

theorem get?_ofJsonFields (fields : JsonObject) (name : String) :
    Dict.get? (ofJsonFields fields) (codePoints name) =
      (Dict.get? fields name).map PyJson.ofJson := by
  induction fields with
  | nil => rfl
  | cons field rest ih =>
      rcases field with ⟨key, value⟩
      rw [ofJsonFields, Dict.get?_cons, Dict.get?_cons, ih]
      simp only [codePoints_injective.eq_iff]
      split <;> rfl

theorem keys_ofJsonFields (fields : JsonObject) :
    Dict.keys (ofJsonFields fields) = (Dict.keys fields).map codePoints := by
  induction fields with
  | nil => rfl
  | cons field rest ih =>
      rcases field with ⟨key, value⟩
      rw [ofJsonFields, Dict.keys_cons, Dict.keys_cons, ih, List.map_cons]

theorem mem_keys_ofJsonFields {fields : JsonObject} {name : String} :
    codePoints name ∈ Dict.keys (ofJsonFields fields) ↔ name ∈ Dict.keys fields := by
  rw [keys_ofJsonFields, List.mem_map_of_injective codePoints_injective]

theorem bodyFields_ofJsonFields (declared : List String) (fields : JsonObject) :
    bodyFields declared (ofJsonFields fields) =
      ofJsonFields (fields.filter fun field => field.1 ∈ declared) := by
  induction fields with
  | nil => rfl
  | cons field rest ih =>
      rcases field with ⟨key, value⟩
      have declares : codePoints key ∈ declared.map codePoints ↔ key ∈ declared :=
        List.mem_map_of_injective codePoints_injective
      rw [bodyFields] at ih ⊢
      simp only [ofJsonFields, List.filter_cons, declares, ih]
      split <;> rfl

end Values

section Agreement

variable {isPrintable : Char → Bool} {arguments : JsonObject}

theorem anyLongField_ofJsonFields {fields : JsonObject} :
    anyLongField (ofJsonFields fields) = false ↔
      ∀ field ∈ fields, (PyJson.ofJson field.2).hasLongInt = false := by
  induction fields with
  | nil => simp [ofJsonFields, anyLongField]
  | cons field rest ih =>
      rcases field with ⟨key, value⟩
      rw [ofJsonFields, anyLongField, Bool.or_eq_false_iff, ih, List.forall_mem_cons]

theorem hasLongInt_of_get? {name : String} {value : Json}
    (short : anyLongField (ofJsonFields arguments) = false)
    (given : Dict.get? arguments name = some value) : (PyJson.ofJson value).hasLongInt = false :=
  anyLongField_ofJsonFields.mp short (name, value) (Dict.mem_of_get? given)

theorem str_ofJson {value : Json} (short : (PyJson.ofJson value).hasLongInt = false) :
    str isPrintable (PyJson.ofJson value) = .ok (codePoints (value.text isPrintable)) := by
  rw [str, short, text_ofJson]
  rfl

theorem dumps_ofJson {value : Json} (short : (PyJson.ofJson value).hasLongInt = false) :
    dumps (PyJson.ofJson value) = .ok (Foundation.dumps value) := by
  rw [dumps, short, writePy_ofJson]
  rfl

theorem encode_codePoints (text : String) : encode (codePoints text) = .ok text := by
  rw [encode, toText?_codePoints]
  rfl

theorem encodePathValue_ofJson {arg : String} {value : Json}
    (short : (PyJson.ofJson value).hasLongInt = false) :
    encodePathValue isPrintable arg (PyJson.ofJson value) =
      mirrored id (McpPortal.encodePathValue isPrintable arg value) := by
  rw [encodePathValue, McpPortal.encodePathValue, str_ofJson short]
  by_cases empty : value.text isPrintable = ""
  · simp [empty, codePoints]
    rfl
  · have nonempty : codePoints (value.text isPrintable) ≠ [] :=
      fun isNil => empty (codePoints_eq_nil_iff.mp isNil)
    simp [empty, nonempty, encode_codePoints, bind, Except.bind]

theorem texts_ofJsonItems (items : List Json) :
    (ofJsonItems items).map (PyJson.text isPrintable) =
      (items.map (Json.text isPrintable)).map codePoints := by
  induction items with
  | nil => rfl
  | cons item rest ih => rw [ofJsonItems, List.map_cons, text_ofJson, ih]; rfl

theorem queryPairs_ofJson {name : String} {value : Json} {explode : Bool}
    (short : (PyJson.ofJson value).hasLongInt = false) :
    queryPairs isPrintable name (PyJson.ofJson value) explode =
      .ok (pairsInPoints (McpPortal.queryPairs isPrintable name value explode)) := by
  cases value with
  | arr items =>
      have shortItems : anyLongItem (ofJsonItems items) = false := short
      rw [PyJson.ofJson, queryPairs, mapM_str, shortItems, texts_ofJsonItems]
      cases explode with
      | true => simp [McpPortal.queryPairs, pairsInPoints, bind, Except.bind, pure, Except.pure]
      | false =>
          have joined := joinPoints_codePoints "," (items.map (Json.text isPrintable))
          simp only [Bool.false_eq_true, if_false, McpPortal.queryPairs, pairsInPoints, bind,
            Except.bind, pure, Except.pure, joined, List.map_cons, List.map_nil]
  | bool value => rfl
  | _ =>
      have text := @str_ofJson isPrintable _ short
      simp only [PyJson.ofJson] at text
      simp only [PyJson.ofJson, queryPairs, text]
      rfl

theorem checkHeaderValue_codePoints {name value : String} :
    checkHeaderValue name (codePoints value) =
      mirrored codePoints (McpPortal.checkHeaderValue name value) := by
  rw [checkHeaderValue, McpPortal.checkHeaderValue, hasLineBreak_codePoints]
  split <;> rfl

def RequestParts.inPoints (parts : McpPortal.RequestParts) : RequestParts where
  path := parts.path
  query := pairsInPoints parts.query
  headers := pairsInPoints parts.headers

/-- One parameter is added alike. -/
theorem addParameter_ofJson (short : anyLongField (ofJsonFields arguments) = false)
    (parts : McpPortal.RequestParts) (param : Parameter) :
    addParameter isPrintable (ofJsonFields arguments) (.inPoints parts) param =
      mirrored RequestParts.inPoints
        (McpPortal.addParameter isPrintable arguments parts param) := by
  rw [addParameter, McpPortal.addParameter, get?_ofJsonFields]
  cases given : Dict.get? arguments param.arg with
  | none => cases param.required <;> rfl
  | some value =>
      have shortValue := hasLongInt_of_get? short given
      simp only [Option.map_some]
      cases param.location with
      | path =>
          simp only [encodePathValue_ofJson shortValue]
          exact bind_mirrored fun _ _ => rfl
      | query =>
          simp only [queryPairs_ofJson shortValue]
          simp [RequestParts.inPoints, pairsInPoints, bind, Except.bind, pure, Except.pure]
      | header =>
          have steps := @bind_mirrored String CodePoints McpPortal.RequestParts RequestParts
            codePoints RequestParts.inPoints
            (McpPortal.checkHeaderValue param.wireName (value.text isPrintable))
            (fun checked => return { parts with
              headers := Dict.insert parts.headers param.wireName checked })
            (fun checked => return { RequestParts.inPoints parts with
              headers := Dict.insert (pairsInPoints parts.headers) param.wireName checked })
            (fun checked _ => by
              simp [RequestParts.inPoints, insert_pairsInPoints, pure, Except.pure])
          rw [← checkHeaderValue_codePoints] at steps
          simp only [str_ofJson shortValue]
          exact steps

theorem checkBodyName_ofJson {fields : JsonObject} (name : Json) :
    checkBodyName (ofJsonFields arguments) (ofJsonFields fields) name =
      mirrored id (McpPortal.checkBodyName arguments fields name) := by
  cases name with
  | str text =>
      simp only [checkBodyName, McpPortal.checkBodyName, mem_keys_ofJsonFields]
      by_cases missing : text ∉ Dict.keys arguments ∨ text ∉ Dict.keys fields
      · simp only [if_pos missing]
        rfl
      · simp only [if_neg missing]
        rfl
  | int value =>
      cases long : (Json.int value).hasLongInt <;>
        simp [checkBodyName, McpPortal.checkBodyName, Json.hashable, long]
  | _ => rfl

theorem mapError_eq_mirrored {Value : Type} (built : Build Value) :
    built.mapError CallRaised.interpreter = mirrored id built := by
  cases built <;> rfl

theorem short_filter (short : anyLongField (ofJsonFields arguments) = false)
    (selected : String × Json → Bool) :
    anyLongField (ofJsonFields (arguments.filter selected)) = false := by
  rw [anyLongField_ofJsonFields] at short ⊢
  intro field fieldMem
  exact short field (List.mem_of_mem_filter fieldMem)

theorem buildBody_ofJson (short : anyLongField (ofJsonFields arguments) = false)
    (body : BodySpec) :
    buildBody body (ofJsonFields arguments) = mirrored id (McpPortal.buildBody body arguments) := by
  rw [buildBody, McpPortal.buildBody]
  cases body.isFlattened with
  | true =>
      simp only [if_true, mapError_eq_mirrored, bodyFields_ofJsonFields]
      apply bind_mirrored
      intro declared _
      apply bind_mirrored
      intro names _
      have checks := @forM_mirrored Json
        (McpPortal.checkBodyName arguments (arguments.filter fun field => field.1 ∈ declared))
        _ checkBodyName_ofJson names
      simp only [id_eq, checks]
      apply bind_mirrored
      intro _ _
      have shortBody : (PyJson.ofJson (.obj (arguments.filter fun field =>
          field.1 ∈ declared))).hasLongInt = false := short_filter short _
      exact dumps_ofJson shortBody
  | false =>
      have given := get?_ofJsonFields arguments bodyArg
      simp only [Bool.false_eq_true, if_false, given]
      cases found : Dict.get? arguments bodyArg with
      | none => rfl
      | some value => exact dumps_ofJson (hasLongInt_of_get? short found)

theorem addRequestBody_ofJson (short : anyLongField (ofJsonFields arguments) = false)
    (headers : List (String × String)) (body : Option BodySpec) :
    addRequestBody (pairsInPoints headers) body (ofJsonFields arguments) =
      mirrored (fun sent => (pairsInPoints sent.1, sent.2))
        (McpPortal.addRequestBody headers body arguments) := by
  cases body with
  | none => rfl
  | some body =>
      rw [addRequestBody, McpPortal.addRequestBody, buildBody_ofJson short]
      apply bind_mirrored
      intro text _
      simp [insert_pairsInPoints, pure, Except.pure]

theorem requestUrl_inPoints (baseUrl : String) (parts : McpPortal.RequestParts) :
    requestUrl baseUrl (.inPoints parts) = .ok (McpPortal.requestUrl baseUrl parts) := by
  have encoded (pairs : List (String × String)) :
      (pairsInPoints pairs).mapM encodePair = .ok pairs := by
    induction pairs with
    | nil => rfl
    | cons pair rest ih =>
        have first : encodePair (pair.1, codePoints pair.2) = .ok pair := by
          rw [encodePair, encode_codePoints]
          rfl
        rw [pairsInPoints, List.map_cons, List.mapM_cons, first, ← pairsInPoints, ih]
        rfl
  have steps : requestUrl baseUrl (.inPoints parts) =
      ((pairsInPoints parts.query).mapM encodePair).bind fun query =>
        if query.isEmpty then .ok (join baseUrl parts.path)
        else .ok (join baseUrl parts.path ++ "?" ++ urlencode query) := rfl
  rw [steps, encoded, McpPortal.requestUrl]
  cases parts.query <;> rfl

theorem attachCredential_pairsInPoints (headers : List (String × String))
    (credential : Option Credential) :
    attachCredential (pairsInPoints headers) credential =
      pairsInPoints (McpPortal.attachCredential headers credential) := by
  cases credential with
  | none => rfl
  | some credential => exact insert_pairsInPoints headers credential.header credential.value

def PreparedRequest.inPoints (request : McpPortal.PreparedRequest) : PreparedRequest where
  method := request.method
  url := request.url
  headers := pairsInPoints request.headers
  body := request.body

/-- Plain arguments make the request that they make as plain strings. -/
theorem buildRequest_ofJson (short : anyLongField (ofJsonFields arguments) = false)
    (binding : HttpBinding) (baseUrl : String) (credential : Option Credential) :
    buildRequest isPrintable (.ofBinding binding) baseUrl (ofJsonFields arguments) credential =
      mirrored PreparedRequest.inPoints
        (McpPortal.buildRequest isPrintable binding baseUrl arguments credential) := by
  have parameters := @foldlM_mirrored McpPortal.RequestParts RequestParts Parameter
    RequestParts.inPoints (McpPortal.addParameter isPrintable arguments)
    (addParameter isPrintable (ofJsonFields arguments)) (addParameter_ofJson short)
    binding.parameters { path := binding.path }
  have start : RequestParts.inPoints { path := binding.path } = { path := binding.path } := rfl
  rw [start] at parameters
  rw [buildRequest, McpPortal.buildRequest, CalledHttp.ofBinding, foldlM_addCalled_named, parameters]
  apply bind_mirrored
  intro parts _
  have headers : (RequestParts.inPoints parts).headers = pairsInPoints parts.headers := rfl
  rw [headers, addRequestBody_ofJson short]
  apply bind_mirrored
  rintro ⟨sent, body⟩ _
  simp only [requestUrl_inPoints, attachCredential_pairsInPoints]
  rfl

theorem insert_ofJsonFields (fields : JsonObject) (key : String) (value : Json) :
    Dict.insert (ofJsonFields fields) (codePoints key) (.ofJson value) =
      ofJsonFields (Dict.insert fields key value) := by
  induction fields with
  | nil => rfl
  | cons field rest ih =>
      rcases field with ⟨present, old⟩
      simp only [ofJsonFields, Dict.insert, codePoints_injective.eq_iff, ih]
      split <;> rfl

theorem graphqlVariables_ofJsonFields (binding : GraphQlBinding) :
    graphqlVariables binding (ofJsonFields arguments) =
      ofJsonFields (McpPortal.graphqlVariables binding arguments) := by
  have ofList (given : JsonObject) : ∀ fields : JsonObject,
      (ofJsonFields given).foldl (fun entries item => Dict.insert entries item.1 item.2)
          (ofJsonFields fields) =
        ofJsonFields
          (given.foldl (fun entries item => Dict.insert entries item.1 item.2) fields) := by
    induction given with
    | nil => exact fun _ => rfl
    | cons item rest ih =>
        intro fields
        rcases item with ⟨key, value⟩
        rw [ofJsonFields, List.foldl_cons, insert_ofJsonFields, ih, List.foldl_cons]
  have supplied : (binding.variableList.filterMap fun given =>
        (Dict.get? (ofJsonFields arguments) (codePoints given.name)).map fun value =>
          (codePoints given.name, value)) =
      ofJsonFields (binding.variableList.filterMap fun given =>
        (Dict.get? arguments given.name).map fun value => (given.name, value)) := by
    induction binding.variableList with
    | nil => rfl
    | cons given rest ih =>
        rw [List.filterMap_cons, List.filterMap_cons, get?_ofJsonFields]
        cases Dict.get? arguments given.name with
        | none => exact ih
        | some value => exact congrArg _ ih
  rw [graphqlVariables, supplied]
  exact ofList _ []

theorem buildGraphqlRequest_ofJson (short : anyLongField (ofJsonFields arguments) = false)
    (binding : GraphQlBinding) (endpoint : String) (credential : Option Credential) :
    buildGraphqlRequest binding endpoint (ofJsonFields arguments) credential =
      .ok (.inPoints
        (McpPortal.buildGraphqlRequest binding endpoint arguments credential)) := by
  have shortVariables :
      anyLongField (ofJsonFields (McpPortal.graphqlVariables binding arguments)) = false := by
    rw [anyLongField_ofJsonFields] at short ⊢
    intro field fieldMem
    rcases List.mem_filterMap.mp (Dict.mem_of_mem_ofList fieldMem) with ⟨given, _, found⟩
    rcases Option.map_eq_some_iff.mp found with ⟨value, supplied, rfl⟩
    exact short (given.name, value) (Dict.mem_of_get? supplied)
  have shortBody : (PyJson.ofJson (.obj
      [ ("query", .str binding.document),
        ("variables", .obj (McpPortal.graphqlVariables binding arguments)) ])).hasLongInt =
          false := by
    simp [PyJson.ofJson, ofJsonFields, PyJson.hasLongInt, anyLongField, shortVariables]
  have dumped := dumps_ofJson shortBody
  simp only [PyJson.ofJson, ofJsonFields, ← graphqlVariables_ofJsonFields] at dumped
  have headers := attachCredential_pairsInPoints [("Content-Type", "application/json")] credential
  have contentType : pairsInPoints [("Content-Type", "application/json")] =
      [("Content-Type", codePoints "application/json")] := rfl
  rw [contentType] at headers
  rw [buildGraphqlRequest, dumped, headers]
  rfl

end Agreement

end PyCall

end McpPortal
