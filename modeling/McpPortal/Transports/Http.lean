import Mathlib.Data.List.DropRight
import McpPortal.Auth.Outbound
import McpPortal.Foundation.Percent
import McpPortal.Sources.Flatten

/-!
# Building an HTTP request

The boundary where model-supplied values become a real request. Path values are
percent-encoded and put into the template one after the other, header values are
checked for line breaks, and the credential is attached last.
-/

namespace McpPortal

open Foundation

inductive RequestBuildError where
  | missingArgument (name : Json)
  | emptyPathValue (arg : String)
  | headerInjection (name : String)

/-- Building raises `RequestBuildError`, or what the body schema makes a built-in raise. -/
abbrev Build := Except (PyException RequestBuildError)

structure PreparedRequest where
  method : String
  url : String
  headers : List (String × String)
  body : Option String
  deriving DecidableEq

/-- `_join`. -/
def join (baseUrl path : String) : String :=
  String.ofList (baseUrl.toList.rdropWhile (· = '/')) ++ "/" ++
    String.ofList (path.toList.dropWhile (· = '/'))

/-- `path.replace("{" + wire_name + "}", text)`. -/
def fillPlaceholder (path wireName text : String) : String :=
  String.ofList (Text.replace (Text.braced wireName.toList) text.toList path.toList)

/-- What the loop over the parameters has put together so far. -/
structure RequestParts where
  path : String
  query : List (String × String) := []
  headers : List (String × String) := []

section Build

variable (isPrintable : Char → Bool)

def RequestBuildError.message : RequestBuildError → String
  | .missingArgument name => "missing required argument " ++ name.repr isPrintable
  | .emptyPathValue arg =>
      "empty value for path argument " ++ reprString isPrintable arg ++
        " would collapse the segment and change the route"
  | .headerInjection name =>
      "header " ++ reprString isPrintable name ++
        " value contains CR or LF, which would allow header injection"

def encodePathValue (arg : String) (value : Json) : Build String :=
  let text := value.text isPrintable
  if text = "" then throw (.raised (.emptyPathValue arg)) else return quote text

def queryPairs (arg : String) (value : Json) (explode : Bool) : List (String × String) :=
  match value with
  | .arr items =>
      let items := items.map (Json.text isPrintable)
      if explode then items.map fun item => (arg, item) else [(arg, joinWith "," items)]
  | .bool value => [(arg, if value then "true" else "false")]
  | value => [(arg, value.text isPrintable)]

def hasLineBreak (value : String) : Bool :=
  value.toList.any fun char => char = '\r' || char = '\n'

def checkHeaderValue (name value : String) : Build String :=
  if hasLineBreak value then throw (.raised (.headerInjection name)) else return value

/-- One iteration of the loop over the parameters. -/
def addParameter (arguments : JsonObject) (parts : RequestParts) (param : Parameter) :
    Build RequestParts :=
  match Dict.get? arguments param.arg with
  | none =>
      if param.required then throw (.raised (.missingArgument (.str param.arg))) else return parts
  | some value =>
      match param.location with
      | .path => do
          let encoded ← encodePathValue isPrintable param.arg value
          return { parts with path := fillPlaceholder parts.path param.wireName encoded }
      | .query =>
          return { parts with
            query := parts.query ++ queryPairs isPrintable param.wireName value param.explode }
      | .header => do
          let checked ← checkHeaderValue param.wireName (value.text isPrintable)
          return { parts with headers := Dict.insert parts.headers param.wireName checked }

/-- `name not in arguments or name not in body_fields`, where membership hashes the name and the
message prints it. -/
def checkBodyName (arguments bodyFields : JsonObject) (name : Json) : Build Unit :=
  if !name.hashable then throw .typeError
  else
    match name with
    | .str text =>
        if text ∉ Dict.keys arguments ∨ text ∉ Dict.keys bodyFields then
          throw (.raised (.missingArgument name))
        else return ()
    | _ =>
        if name.hasLongInt then throw .valueError else throw (.raised (.missingArgument name))

def buildBody (body : BodySpec) (arguments : JsonObject) : Build String :=
  if body.isFlattened then do
    let declared ← stringsOfSet body.declaredProperties
    let bodyFields := arguments.filter fun field => field.1 ∈ declared
    let names ← iterate body.declaredRequired
    names.forM (checkBodyName arguments bodyFields)
    return dumps (.obj bodyFields)
  else
    match Dict.get? arguments bodyArg with
    | none => throw (.raised (.missingArgument (.str bodyArg)))
    | some value => return dumps value

/-- The body and its header. -/
def addRequestBody (headers : List (String × String)) (body : Option BodySpec)
    (arguments : JsonObject) : Build (List (String × String) × Option String) :=
  match body with
  | none => return (headers, none)
  | some body => do
      let text ← buildBody body arguments
      return (Dict.insert headers "Content-Type" body.contentType, some text)

def attachCredential (headers : List (String × String)) (credential : Option Credential) :
    List (String × String) :=
  match credential with
  | none => headers
  | some credential => Dict.insert headers credential.header credential.value

def requestUrl (baseUrl : String) (parts : RequestParts) : String :=
  let url := join baseUrl parts.path
  if parts.query.isEmpty then url else url ++ "?" ++ urlencode parts.query

def buildRequest (binding : HttpBinding) (baseUrl : String) (arguments : JsonObject)
    (credential : Option Credential) : Build PreparedRequest := do
  let parts ← binding.parameters.foldlM (addParameter isPrintable arguments) { path := binding.path }
  let (headers, body) ← addRequestBody parts.headers binding.body arguments
  return {
    method := binding.method
    url := requestUrl baseUrl parts
    headers := attachCredential headers credential
    body }

variable {isPrintable : Char → Bool} {arguments : JsonObject} {parts next : RequestParts}

theorem encodePathValue_ok {arg encoded : String} {value : Json}
    (ran : encodePathValue isPrintable arg value = .ok encoded) :
    value.text isPrintable ≠ "" ∧ encoded = quote (value.text isPrintable) := by
  simp only [encodePathValue, check_eq_ok, pure_eq_ok] at ran
  exact ⟨ran.1, ran.2.symm⟩

theorem checkHeaderValue_ok {name value checked : String}
    (ran : checkHeaderValue name value = .ok checked) :
    hasLineBreak value = false ∧ checked = value := by
  simp only [checkHeaderValue, check_eq_ok, pure_eq_ok, Bool.not_eq_true] at ran
  exact ⟨ran.1, ran.2.symm⟩

/-- All that an iteration that does not raise can do. -/
theorem addParameter_ok {param : Parameter}
    (ran : addParameter isPrintable arguments parts param = .ok next) :
    (Dict.get? arguments param.arg = none ∧ param.required = false ∧ next = parts) ∨
      ∃ value, Dict.get? arguments param.arg = some value ∧
        ((param.location = .path ∧ value.text isPrintable ≠ "" ∧
            next = { parts with
              path := fillPlaceholder parts.path param.wireName
                (quote (value.text isPrintable)) }) ∨
          (param.location = .query ∧
            next = { parts with
              query := parts.query ++
                queryPairs isPrintable param.wireName value param.explode }) ∨
          (param.location = .header ∧ hasLineBreak (value.text isPrintable) = false ∧
            next = { parts with
              headers := Dict.insert parts.headers param.wireName
                (value.text isPrintable) })) := by
  unfold addParameter at ran
  cases given : Dict.get? arguments param.arg with
  | none =>
      simp only [given, check_eq_ok, pure_eq_ok, Bool.not_eq_true] at ran
      exact Or.inl ⟨rfl, ran.1, ran.2.symm⟩
  | some value =>
      refine Or.inr ⟨value, rfl, ?_⟩
      simp only [given] at ran
      cases location : param.location with
      | path =>
          simp only [location, bind_eq_ok, pure_eq_ok] at ran
          rcases ran with ⟨encoded, encodes, rfl⟩
          rcases encodePathValue_ok encodes with ⟨nonempty, rfl⟩
          exact Or.inl ⟨rfl, nonempty, rfl⟩
      | query =>
          simp only [location, pure_eq_ok] at ran
          exact Or.inr (Or.inl ⟨rfl, ran.symm⟩)
      | header =>
          simp only [location, bind_eq_ok, pure_eq_ok] at ran
          rcases ran with ⟨checked, checks, rfl⟩
          rcases checkHeaderValue_ok checks with ⟨noBreak, rfl⟩
          exact Or.inr (Or.inr ⟨rfl, noBreak, rfl⟩)

theorem addRequestBody_ok {headers : List (String × String)} {body : Option BodySpec}
    {sent : List (String × String) × Option String}
    (ran : addRequestBody headers body arguments = .ok sent) :
    sent.1 = headers ∨ ∃ contentType, sent.1 = Dict.insert headers "Content-Type" contentType := by
  cases body with
  | none =>
      cases ran
      exact Or.inl rfl
  | some body =>
      simp only [addRequestBody, bind_eq_ok, pure_eq_ok] at ran
      rcases ran with ⟨text, _, rfl⟩
      exact Or.inr ⟨body.contentType, rfl⟩

theorem buildRequest_ok {binding : HttpBinding} {baseUrl : String} {credential : Option Credential}
    {request : PreparedRequest}
    (built : buildRequest isPrintable binding baseUrl arguments credential = .ok request) :
    ∃ parts headers, binding.parameters.foldlM (addParameter isPrintable arguments)
        { path := binding.path } = .ok parts ∧
      addRequestBody parts.headers binding.body arguments = .ok (headers, request.body) ∧
      request.url = requestUrl baseUrl parts ∧
      request.headers = attachCredential headers credential := by
  simp only [buildRequest, bind_eq_ok, pure_eq_ok] at built
  rcases built with ⟨parts, ran, ⟨headers, body⟩, bodyRan, rfl⟩
  exact ⟨parts, headers, ran, bodyRan, rfl, rfl⟩

end Build

section Supplied

/-- The parameters of a location that have an argument, with its value. -/
def suppliedAt (location : ParamLocation) (parameters : List Parameter) (arguments : JsonObject) :
    List (Parameter × Json) :=
  (parameters.filter fun param => param.location = location).filterMap fun param =>
    (Dict.get? arguments param.arg).map fun value => (param, value)

variable {location : ParamLocation} {arguments : JsonObject} {param : Parameter}

theorem mem_suppliedAt {parameters : List Parameter} {value : Json} :
    (param, value) ∈ suppliedAt location parameters arguments ↔
      (param ∈ parameters ∧ param.location = location) ∧
        Dict.get? arguments param.arg = some value := by
  simp only [suppliedAt, List.mem_filterMap, List.mem_filter, decide_eq_true_eq,
    Option.map_eq_some_iff, Prod.mk.injEq]
  constructor
  · rintro ⟨source, sourceMem, _, given, rfl, rfl⟩
    exact ⟨sourceMem, given⟩
  · rintro ⟨paramMem, given⟩
    exact ⟨param, paramMem, value, given, rfl, rfl⟩

theorem suppliedAt_cons_of_ne (elsewhere : param.location ≠ location) (rest : List Parameter) :
    suppliedAt location (param :: rest) arguments = suppliedAt location rest arguments := by
  simp [suppliedAt, elsewhere]

theorem suppliedAt_cons_of_none (absent : Dict.get? arguments param.arg = none)
    (rest : List Parameter) :
    suppliedAt location (param :: rest) arguments = suppliedAt location rest arguments := by
  by_cases here : param.location = location
  · simp [suppliedAt, here, absent]
  · exact suppliedAt_cons_of_ne here rest

theorem suppliedAt_cons_of_some {value : Json} (here : param.location = location)
    (given : Dict.get? arguments param.arg = some value) (rest : List Parameter) :
    suppliedAt location (param :: rest) arguments =
      (param, value) :: suppliedAt location rest arguments := by
  simp [suppliedAt, here, given]

end Supplied

end McpPortal
