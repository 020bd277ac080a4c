import McpPortal.Transports.PyRequestFailures

/-!
# What a request holds that is built of arguments

A request is built when every parameter passes, the body has a text and the query can be encoded.
Its URL and its headers are then those of the arguments that are given.
-/

namespace McpPortal

open Foundation

namespace PyCall

section Sent

variable (isPrintable : Char → Bool) (arguments : PyJsonObject)

/-- The argument of a parameter in a part of the request. -/
def givenFor (location : ParamLocation) (param : Parameter) : Option PyJson :=
  if param.location = location then Dict.get? arguments (codePoints param.arg) else none

def fillGiven (path : String) (param : Parameter) : String :=
  match givenFor arguments .path param with
  | some value =>
      fillPlaceholder path param.wireName (quote ((value.text isPrintable).toText?.getD ""))
  | none => path

/-- The texts of a value in the query. -/
def queryTexts (explode : Bool) : PyJson → List CodePoints
  | .arr items =>
      let texts := items.map (PyJson.text isPrintable)
      if explode then texts else [joinPoints (codePoints ",") texts]
  | .bool value => [codePoints (if value then "true" else "false")]
  | value => [value.text isPrintable]

def givenQuery (param : Parameter) : List (String × CodePoints) :=
  (givenFor arguments .query param).toList.flatMap fun value =>
    (queryTexts isPrintable param.explode value).map fun text => (param.wireName, text)

def givenHeader (param : Parameter) : List (String × CodePoints) :=
  (givenFor arguments .header param).toList.map fun value =>
    (param.wireName, value.text isPrintable)

/-- The parameters that arguments may be given for. -/
def CalledHttp.named (binding : CalledHttp) : List Parameter :=
  binding.parameters.filterMap CalledParameter.named?

def sentUrl (binding : CalledHttp) (baseUrl : String) : String :=
  let url := join baseUrl (binding.named.foldl (fillGiven isPrintable arguments) binding.path)
  let query := (binding.named.flatMap (givenQuery isPrintable arguments)).map fun pair =>
    (pair.1, pair.2.toText?.getD "")
  if query.isEmpty then url else url ++ "?" ++ urlencode query

/-- The later of two headers with the same name is sent. -/
def sentHeaders (binding : CalledHttp) (credential : Option Credential) :
    List (String × CodePoints) :=
  Dict.ofList (binding.named.flatMap (givenHeader isPrintable arguments) ++
    binding.body.toList.map (fun body => ("Content-Type", codePoints body.contentType)) ++
    credential.toList.map fun credential => (credential.header, codePoints credential.value))

/-- A request is built. -/
structure RequestBuilds (binding : CalledHttp) : Prop where
  parameters : ∀ param ∈ binding.parameters, param.Passes isPrintable arguments
  body : ∀ body ∈ binding.body, BodyPasses arguments body
  query : ArgumentsEncodable isPrintable arguments binding.parameters

end Sent

section Parts

variable {isPrintable : Char → Bool} {arguments : PyJsonObject} {parts result : RequestParts}

theorem encode_eq_ok {text : CodePoints} {plain : String} (encoded : encode text = .ok plain) :
    text.toText?.getD "" = plain := by
  unfold encode at encoded
  cases decoded : text.toText? with
  | none =>
      rw [decoded] at encoded
      cases encoded
  | some other =>
      rw [decoded] at encoded
      cases encoded
      rfl

theorem encodePathValue_eq_ok {arg encoded : String} {value : PyJson}
    (ran : encodePathValue isPrintable arg value = .ok encoded) :
    quote ((value.text isPrintable).toText?.getD "") = encoded := by
  simp only [encodePathValue, bind_eq_ok, str_eq_ok, check_eq_ok, pure_eq_ok] at ran
  rcases ran with ⟨_, ⟨_, rfl⟩, _, plain, encodes, rfl⟩
  rw [encode_eq_ok encodes]

theorem queryPairs_eq_ok {name : String} {value : PyJson} {explode : Bool}
    {pairs : List (String × CodePoints)}
    (ran : queryPairs isPrintable name value explode = .ok pairs) :
    pairs = (queryTexts isPrintable explode value).map fun text => (name, text) := by
  cases value with
  | arr items =>
      rw [queryPairs, bind_eq_ok] at ran
      rcases ran with ⟨texts, mapped, ran⟩
      rw [mapM_str] at mapped
      split at mapped
      · cases mapped
      · cases mapped
        cases explode with
        | true =>
            cases ran
            simp [queryTexts]
        | false =>
            cases ran
            simp [queryTexts]
  | bool value =>
      cases ran
      rfl
  | _ =>
      simp only [queryPairs, bind_eq_ok, str_eq_ok, pure_eq_ok] at ran
      rcases ran with ⟨_, ⟨_, rfl⟩, rfl⟩
      rfl

/-- What one parameter adds to each part. -/
theorem addParameter_adds {param : Parameter}
    (ran : addParameter isPrintable arguments parts param = .ok result) :
    result.path = fillGiven isPrintable arguments parts.path param ∧
      result.query = parts.query ++ givenQuery isPrintable arguments param ∧
      result.headers = (givenHeader isPrintable arguments param).foldl
        (fun headers header => Dict.insert headers header.1 header.2) parts.headers := by
  unfold addParameter at ran
  cases given : Dict.get? arguments (codePoints param.arg) with
  | none =>
      simp only [given, check_eq_ok, pure_eq_ok] at ran
      simp [← ran.2, fillGiven, givenQuery, givenHeader, givenFor, given]
  | some value =>
      simp only [given] at ran
      cases location : param.location with
      | path =>
          simp only [location, bind_eq_ok, pure_eq_ok] at ran
          rcases ran with ⟨encoded, encodes, rfl⟩
          simp [fillGiven, givenQuery, givenHeader, givenFor, given, location,
            encodePathValue_eq_ok encodes]
      | query =>
          simp only [location, bind_eq_ok, pure_eq_ok] at ran
          rcases ran with ⟨pairs, made, rfl⟩
          simp [fillGiven, givenQuery, givenHeader, givenFor, given, location,
            queryPairs_eq_ok made]
      | header =>
          simp only [location, bind_eq_ok, pure_eq_ok, str_eq_ok, checkHeaderValue,
            check_eq_ok] at ran
          rcases ran with ⟨_, ⟨_, rfl⟩, _, ⟨_, rfl⟩, rfl⟩
          simp [fillGiven, givenQuery, givenHeader, givenFor, given, location]

theorem parameters_add {parameters : List CalledParameter}
    (ran : parameters.foldlM (addCalled isPrintable arguments) parts = .ok result) :
    result.path = (parameters.filterMap CalledParameter.named?).foldl
        (fillGiven isPrintable arguments) parts.path ∧
      result.query = parts.query ++ (parameters.filterMap CalledParameter.named?).flatMap
        (givenQuery isPrintable arguments) ∧
      result.headers = ((parameters.filterMap CalledParameter.named?).flatMap
        (givenHeader isPrintable arguments)).foldl
          (fun headers header => Dict.insert headers header.1 header.2) parts.headers := by
  induction parameters generalizing parts with
  | nil =>
      cases ran
      simp
  | cons called rest ih =>
      rcases foldlM_cons_eq_ok.mp ran with ⟨next, added, later⟩
      rcases ih later with ⟨laterPath, laterQuery, laterHeaders⟩
      cases called with
      | named param =>
          rcases addParameter_adds added with ⟨path, query, headers⟩
          have first : (CalledParameter.named param :: rest).filterMap CalledParameter.named? =
              param :: rest.filterMap CalledParameter.named? := rfl
          rw [first]
          refine ⟨?_, ?_, ?_⟩
          · rw [laterPath, path, List.foldl_cons]
          · rw [laterQuery, query, List.flatMap_cons, List.append_assoc]
          · rw [laterHeaders, headers, List.flatMap_cons, List.foldl_append]
      | unnamed arg required =>
          rcases addCalled_unnamed_eq_ok.mp added with ⟨_, rfl⟩
          exact ⟨laterPath, laterQuery, laterHeaders⟩

end Parts

section Request

variable {isPrintable : Char → Bool} {arguments : PyJsonObject} {binding : CalledHttp}
  {baseUrl : String} {credential : Option Credential}

theorem encodePair_eq_ok {pair : String × CodePoints} {encoded : String × String}
    (ran : encodePair pair = .ok encoded) : encoded = (pair.1, pair.2.toText?.getD "") := by
  simp only [encodePair, bind_eq_ok, pure_eq_ok] at ran
  rcases ran with ⟨plain, encodes, rfl⟩
  rw [encode_eq_ok encodes]

theorem mapM_encodePair_eq_ok {query : List (String × CodePoints)}
    {encoded : List (String × String)} (ran : query.mapM encodePair = .ok encoded) :
    encoded = query.map fun pair => (pair.1, pair.2.toText?.getD "") := by
  have oneByOne := mapM_eq_ok_iff_forall₂.mp ran
  clear ran
  induction oneByOne with
  | nil => rfl
  | cons encodes _ ih => rw [List.map_cons, ← encodePair_eq_ok encodes, ← ih]

/-- The URL is put together after the query has been encoded. -/
theorem requestUrl_eq_ok_iff {parts : RequestParts} {url : String} :
    requestUrl baseUrl parts = .ok url ↔ ∃ query, parts.query.mapM encodePair = .ok query ∧
      (if query.isEmpty then join baseUrl parts.path
        else join baseUrl parts.path ++ "?" ++ urlencode query) = url := by
  have steps : requestUrl baseUrl parts = .ok url ↔
      ∃ query, parts.query.mapM encodePair = .ok query ∧
        (if query.isEmpty then (.ok (join baseUrl parts.path) : Calling String)
          else .ok (join baseUrl parts.path ++ "?" ++ urlencode query)) = .ok url := bind_eq_ok
  rw [steps]
  apply exists_congr
  intro query
  apply and_congr_right
  intro _
  split <;> simp

theorem exists_requestUrl_eq_ok {parts : RequestParts} :
    (∃ url, requestUrl baseUrl parts = .ok url) ↔
      ∀ pair ∈ parts.query, pair.2.isEncodable = true := by
  simp only [requestUrl_eq_ok_iff, ← exists_encodePair_eq_ok, ← exists_mapM_eq_ok_iff]
  constructor
  · rintro ⟨_, query, encoded, _⟩
    exact ⟨query, encoded⟩
  · rintro ⟨query, encoded⟩
    exact ⟨_, query, encoded, rfl⟩

/-- The URL and the headers of a request that is built. -/
theorem buildRequest_sends {request : PreparedRequest}
    (built : buildRequest isPrintable binding baseUrl arguments credential = .ok request) :
    request.url = sentUrl isPrintable arguments binding baseUrl ∧
      request.headers = sentHeaders isPrintable arguments binding credential := by
  simp only [buildRequest, bind_eq_ok, pure_eq_ok] at built
  rcases built with ⟨parts, ran, ⟨headers, body⟩, added, url, composed, rfl⟩
  rcases parameters_add ran with ⟨path, query, given⟩
  rcases requestUrl_eq_ok_iff.mp composed with ⟨encoded, encodes, rfl⟩
  constructor
  · rw [mapM_encodePair_eq_ok encodes, path, query, List.nil_append]
    rfl
  · rw [sentHeaders, CalledHttp.named, Dict.ofList, List.foldl_append, List.foldl_append, ← given]
    have withBody : headers = (binding.body.toList.map
        (fun body => ("Content-Type", codePoints body.contentType))).foldl
          (fun headers header => Dict.insert headers header.1 header.2) parts.headers := by
      cases isBody : binding.body with
      | none =>
          rw [isBody] at added
          cases added
          rfl
      | some spec =>
          simp only [isBody, addRequestBody, bind_eq_ok, pure_eq_ok] at added
          rcases added with ⟨text, _, sent⟩
          cases sent
          rfl
    rw [← withBody]
    cases credential <;> rfl

theorem exists_buildRequest_eq_ok :
    (∃ request, buildRequest isPrintable binding baseUrl arguments credential = .ok request) ↔
      RequestBuilds isPrintable arguments binding := by
  have passes (parts : RequestParts) (param : CalledParameter) :
      (∃ next, addCalled isPrintable arguments parts param = .ok next) ↔
        param.Passes isPrintable arguments := exists_addCalled_eq_ok
  have added := @exists_foldlM_eq_ok_iff CallRaised RequestParts CalledParameter
    (addCalled isPrintable arguments) (CalledParameter.Passes isPrintable arguments) passes
    binding.parameters { path := binding.path }
  constructor
  · rintro ⟨request, built⟩
    simp only [buildRequest, bind_eq_ok] at built
    rcases built with ⟨parts, ran, sent, withBody, url, composed, _⟩
    have encodable := encodable_query ran
    exact {
      parameters := added.mp ⟨parts, ran⟩
      body := exists_addRequestBody_eq_ok.mp ⟨sent, withBody⟩
      query := encodable.mp (exists_requestUrl_eq_ok.mp ⟨url, composed⟩) }
  · intro builds
    rcases added.mpr builds.parameters with ⟨parts, ran⟩
    have encodable := encodable_query ran
    have sends := @exists_addRequestBody_eq_ok arguments parts.headers binding.body
    rcases sends.mpr builds.body with ⟨sent, withBody⟩
    have composes := @exists_requestUrl_eq_ok baseUrl parts
    rcases composes.mpr (encodable.mpr builds.query) with ⟨url, composed⟩
    simp only [buildRequest, bind_eq_ok, pure_eq_ok]
    exact ⟨_, parts, ran, sent, withBody, url, composed, rfl⟩

end Request

end PyCall

end McpPortal
