import McpPortal.Foundation.PyJson
import McpPortal.Foundation.Uncaught
import McpPortal.Transports.GraphQl

/-!
# Building a request of arguments with lone surrogates

The values of a call are decoded JSON, whose strings may hold lone surrogates. A path value and
the query are encoded when a request is built, the headers when it is sent, and a body is written
in ASCII. For arguments without lone surrogates the request is the one that is built of them. A
document may name a parameter by something that is no text; no argument is given for it.
-/

namespace McpPortal

open Foundation

/-- What a call raises on its way to a result. -/
inductive CallRaised where
  | interpreter (exception : PyException RequestBuildError)
  | unicodeEncodeError
  | invalidUrl
  | timeout
  | requestError (message : String)
  | outboundError (message : String)
  | schemaError
  | overflowError
  /-- What `response.text` raises. -/
  | undecodable

/-- The handlers of `ToolInvoker.call`. -/
def CallRaised.isCaught : CallRaised → Bool
  | .interpreter (.raised _) => true
  | .timeout => true
  | .requestError _ => true
  | .outboundError _ => true
  | _ => false

namespace PyCall

abbrev Calling := Except CallRaised

structure PreparedRequest where
  method : String
  url : String
  headers : List (String × CodePoints)
  body : Option String

/-- What the loop over the parameters has put together so far. -/
structure RequestParts where
  path : String
  query : List (String × CodePoints) := []
  headers : List (String × CodePoints) := []

/-- A parameter that an argument may be given for, or one whose name is no text. -/
inductive CalledParameter where
  | named (param : Parameter)
  | unnamed (arg : Json) (required : Bool)

def CalledParameter.named? : CalledParameter → Option Parameter
  | .named param => some param
  | .unnamed _ _ => none

/-- The binding of an operation that is called. -/
structure CalledHttp where
  method : String
  path : String
  parameters : List CalledParameter := []
  body : Option BodySpec := none

/-- All parameters of a checked binding are named by texts. -/
def CalledHttp.ofBinding (binding : HttpBinding) : CalledHttp where
  method := binding.method
  path := binding.path
  parameters := binding.parameters.map .named
  body := binding.body

section Build

variable (isPrintable : Char → Bool)

/-- `str(value)`. -/
def str (value : PyJson) : Calling CodePoints :=
  if value.hasLongInt then throw (.interpreter .valueError) else return value.text isPrintable

/-- `json.dumps(value)`. -/
def dumps (value : PyJson) : Calling String :=
  if value.hasLongInt then throw (.interpreter .valueError)
  else return String.ofList (JsonText.writePy value)

/-- `text.encode()`, as text again. -/
def encode (text : CodePoints) : Calling String :=
  match text.toText? with
  | some text => return text
  | none => throw .unicodeEncodeError

def encodePathValue (arg : String) (value : PyJson) : Calling String := do
  let text ← str isPrintable value
  if text = [] then throw (.interpreter (.raised (.emptyPathValue arg)))
  else do
    let text ← encode text
    return quote text

def queryPairs (arg : String) (value : PyJson) (explode : Bool) :
    Calling (List (String × CodePoints)) :=
  match value with
  | .arr items => do
      let items ← items.mapM (str isPrintable)
      if explode then return items.map fun item => (arg, item)
      else return [(arg, joinPoints (codePoints ",") items)]
  | .bool value => return [(arg, codePoints (if value then "true" else "false"))]
  | value => do
      let text ← str isPrintable value
      return [(arg, text)]

def hasLineBreak (value : CodePoints) : Bool :=
  value.any fun point => point = .ofChar '\r' || point = .ofChar '\n'

def checkHeaderValue (name : String) (value : CodePoints) : Calling CodePoints :=
  if hasLineBreak value then throw (.interpreter (.raised (.headerInjection name)))
  else return value

/-- One iteration of the loop over the parameters, for one that is named by a text. -/
def addParameter (arguments : PyJsonObject) (parts : RequestParts) (param : Parameter) :
    Calling RequestParts :=
  match Dict.get? arguments (codePoints param.arg) with
  | none =>
      if param.required then
        throw (.interpreter (.raised (.missingArgument (.str param.arg))))
      else return parts
  | some value =>
      match param.location with
      | .path => do
          let encoded ← encodePathValue isPrintable param.arg value
          return { parts with path := fillPlaceholder parts.path param.wireName encoded }
      | .query => do
          let pairs ← queryPairs isPrintable param.wireName value param.explode
          return { parts with query := parts.query ++ pairs }
      | .header => do
          let text ← str isPrintable value
          let checked ← checkHeaderValue param.wireName text
          return { parts with headers := Dict.insert parts.headers param.wireName checked }

/-- One iteration of the loop over the parameters. The message of the error prints the name. -/
def addCalled (arguments : PyJsonObject) (parts : RequestParts) :
    CalledParameter → Calling RequestParts
  | .named param => addParameter isPrintable arguments parts param
  | .unnamed arg required =>
      if required then
        if arg.hasLongInt then throw (.interpreter .valueError)
        else throw (.interpreter (.raised (.missingArgument arg)))
      else return parts

/-- `name not in arguments or name not in body_fields`, where membership hashes the name and the
message prints it. -/
def checkBodyName (arguments bodyFields : PyJsonObject) (name : Json) : Calling Unit :=
  if !name.hashable then throw (.interpreter .typeError)
  else
    match name with
    | .str text =>
        if codePoints text ∉ Dict.keys arguments ∨ codePoints text ∉ Dict.keys bodyFields then
          throw (.interpreter (.raised (.missingArgument name)))
        else return ()
    | _ =>
        if name.hasLongInt then throw (.interpreter .valueError)
        else throw (.interpreter (.raised (.missingArgument name)))

/-- The arguments that the body declares. -/
def bodyFields (declared : List String) (arguments : PyJsonObject) : PyJsonObject :=
  arguments.filter fun field => field.1 ∈ declared.map codePoints

def buildBody (body : BodySpec) (arguments : PyJsonObject) : Calling String :=
  if body.isFlattened then do
    let declared ← (stringsOfSet body.declaredProperties).mapError .interpreter
    let names ← (iterate body.declaredRequired).mapError .interpreter
    names.forM (checkBodyName arguments (bodyFields declared arguments))
    dumps (.obj (bodyFields declared arguments))
  else
    match Dict.get? arguments (codePoints bodyArg) with
    | none => throw (.interpreter (.raised (.missingArgument (.str bodyArg))))
    | some value => dumps value

/-- The body and its header. -/
def addRequestBody (headers : List (String × CodePoints)) (body : Option BodySpec)
    (arguments : PyJsonObject) : Calling (List (String × CodePoints) × Option String) :=
  match body with
  | none => return (headers, none)
  | some body => do
      let text ← buildBody body arguments
      return (Dict.insert headers "Content-Type" (codePoints body.contentType), some text)

def attachCredential (headers : List (String × CodePoints)) (credential : Option Credential) :
    List (String × CodePoints) :=
  match credential with
  | none => headers
  | some credential => Dict.insert headers credential.header (codePoints credential.value)

/-- `f"{url}?{urlencode(query)}"`. -/
def requestUrl (baseUrl : String) (parts : RequestParts) : Calling String := do
  let url := join baseUrl parts.path
  let query ← parts.query.mapM fun pair => do
    let value ← encode pair.2
    return (pair.1, value)
  if query.isEmpty then return url else return url ++ "?" ++ urlencode query

def buildRequest (binding : CalledHttp) (baseUrl : String) (arguments : PyJsonObject)
    (credential : Option Credential) : Calling PreparedRequest := do
  let parts ← binding.parameters.foldlM (addCalled isPrintable arguments)
    { path := binding.path }
  let (headers, body) ← addRequestBody parts.headers binding.body arguments
  let url ← requestUrl baseUrl parts
  return { method := binding.method, url, headers := attachCredential headers credential, body }

def graphqlVariables (binding : GraphQlBinding) (arguments : PyJsonObject) : PyJsonObject :=
  Dict.ofList (binding.variableList.filterMap fun given =>
    (Dict.get? arguments (codePoints given.name)).map fun value => (codePoints given.name, value))

def buildGraphqlRequest (binding : GraphQlBinding) (endpoint : String) (arguments : PyJsonObject)
    (credential : Option Credential) : Calling PreparedRequest := do
  let body ← dumps (.obj
    [ (codePoints "query", .str (codePoints binding.document)),
      (codePoints "variables", .obj (graphqlVariables binding arguments)) ])
  return {
    method := "POST"
    url := endpoint
    headers := attachCredential [("Content-Type", codePoints "application/json")] credential
    body }

end Build

end PyCall

end McpPortal
