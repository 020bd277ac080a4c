import McpPortal.Foundation.JsonText
import McpPortal.Foundation.PurePath
import McpPortal.Foundation.Replace
import McpPortal.Sources.Refs

/-!
# Fetching and parsing an OpenAPI document

What lies outside is an argument: the HTTP client, which does not follow redirects,
the file system and the YAML parser.
-/

namespace McpPortal

open Foundation

inductive OpenApiError where
  | invalidYaml (reason : String)
  | invalidJson (reason : String)
  | notAMapping
  | missingVersion
  | cannotFetch (location reason : String)
  | outsideConfigDir (location : String)
  | cannotRead (path reason : String)
  | noServers
  | serverNotAnObject (type : String)
  | variableWithoutDefault (name : String)
  deriving DecidableEq

def OpenApiError.message (isPrintable : Char → Bool) : OpenApiError → String
  | .invalidYaml reason => "invalid YAML in OpenAPI document: " ++ reason
  | .invalidJson reason => "invalid JSON in OpenAPI document: " ++ reason
  | .notAMapping => "not a mapping: expected a JSON/YAML object at the top level"
  | .missingVersion => "not an OpenAPI document: missing top-level 'openapi' version field"
  | .cannotFetch location reason =>
      "cannot fetch OpenAPI document " ++ reprString isPrintable location ++ ": " ++ reason
  | .outsideConfigDir location =>
      "external $ref target " ++ reprString isPrintable location ++
        " resolves outside the config directory; file-based external refs must stay within it"
  | .cannotRead path reason => "cannot read OpenAPI document " ++ path ++ ": " ++ reason
  | .noServers =>
      "no 'base_url' was configured and the document declares no servers[] to fall back to"
  | .serverNotAnObject type => "'servers[0]' must be an object, got " ++ type
  | .variableWithoutDefault name =>
      "server variable " ++ reprString isPrintable name ++
        " has no default and cannot be resolved"

/-- An access to the outside: a request that is sent, or a file that is read. -/
inductive Access where
  | get (url : String)
  | read (path : PurePath)
  deriving DecidableEq

structure HttpResponse where
  text : String
  contentType : String := ""

/-- The client; `get` gives the text of an `HTTPError`, or the response. -/
structure HttpClient where
  parsesUrl : String → Bool
  get : String → Except String HttpResponse

/-- A URL with control characters is refused before anything is sent. -/
def HttpClient.RefusesControlCharacters (client : HttpClient) : Prop :=
  ∀ url, client.parsesUrl url = true → Url.isPlain url.toList = true

/-- `Path.resolve`, and `Path.read_text` with the text of an `OSError`. -/
structure FileSystem where
  resolve : PurePath → Option PurePath
  readText : PurePath → Except String String

/-- What parsing relies on: a YAML parser, the float reader, the texts of parse errors. -/
structure Parsers where
  yaml : String → Except String Json
  readFloat : String → PyFloat
  jsonError : String → String

/-- The environment of a load. -/
structure Outside where
  client : HttpClient
  files : FileSystem
  parsers : Parsers

inductive FetchError where
  | openApi (error : OpenApiError)
  | invalidUrl
  | unresolvable

abbrev Fetching (Value : Type) := Except FetchError Value

def openApiFailure {Value : Type} (error : OpenApiError) : Fetching Value :=
  .error (.openApi error)

section Fetch

variable (outside : Outside)

def parseDocument (text : String) (isYaml requireOpenApiField : Bool) : Fetching JsonObject := do
  let data ←
    if isYaml then (outside.parsers.yaml text).mapError fun reason => .openApi (.invalidYaml reason)
    else
      match loads outside.parsers.readFloat text with
      | some data => .ok data
      | none => openApiFailure (.invalidJson (outside.parsers.jsonError text))
  match data with
  | .obj fields =>
      if requireOpenApiField && (Dict.get? fields "openapi").isNone then
        openApiFailure .missingVersion
      else .ok fields
  | _ => openApiFailure .notAMapping

def isHttpLocation (location : String) : Bool :=
  "http://".toList.isPrefixOf location.toList || "https://".toList.isPrefixOf location.toList

/-- Whether a text holds `part`, and whether it ends with it. -/
def containsText (text part : String) : Bool :=
  text.toList.tails.any fun tail => part.toList.isPrefixOf tail

def endsWith (text part : String) : Bool :=
  part.toList.isSuffixOf text.toList

def fetchUrl (location : String) : Traced Access (Fetching (String × Bool)) :=
  if outside.client.parsesUrl location then
    Traced.act (.get location) <|
      match outside.client.get location with
      | .error reason => openApiFailure (.cannotFetch location reason)
      | .ok response =>
          .ok (response.text, containsText response.contentType "yaml" ||
            endsWith location ".yaml" || endsWith location ".yml")
  else Traced.silent (.error .invalidUrl)

/-- `resolved.resolve().is_relative_to(base_dir.resolve())`. -/
def staysWithin (path baseDir : PurePath) : Fetching Bool :=
  match outside.files.resolve path, outside.files.resolve baseDir with
  | some resolved, some base => .ok (resolved.isRelativeTo base)
  | _, _ => .error .unresolvable

def readPath (path : PurePath) : Traced Access (Fetching (String × Bool)) :=
  Traced.act (.read path) <|
    match outside.files.readText path with
    | .error reason => openApiFailure (.cannotRead path.text reason)
    | .ok text => .ok (text, path.suffix ∈ [".yaml".toList, ".yml".toList])

/-- `fetch_text`: the text, and whether it is YAML. -/
def fetchText (location : String) (baseDir : PurePath) (requireContainment : Bool) :
    Traced Access (Fetching (String × Bool)) :=
  if isHttpLocation location then fetchUrl outside location
  else
    let path := PurePath.ofText location
    let resolved := if path.isAbsolute then path else baseDir.join path
    if requireContainment then
      match staysWithin outside resolved baseDir with
      | .error error => Traced.silent (.error error)
      | .ok false => Traced.silent (openApiFailure (.outsideConfigDir location))
      | .ok true => readPath outside resolved
    else readPath outside resolved

/-- `_fetch_external`. -/
def fetchExternalDocument (baseDir : PurePath) (target : String) :
    Traced Access (Fetching JsonObject) :=
  let fetched := fetchText outside target baseDir true
  { actions := fetched.actions
    result := do
      let (text, isYaml) ← fetched.result
      parseDocument outside text isYaml false }

end Fetch

section BaseUrl

variable (isPrintable : Char → Bool)

/-- `servers[0]`. -/
def firstServer : Json → Except (PyException OpenApiError) Json
  | .arr (server :: _) => .ok server
  | .arr [] => .error .indexError
  | .str text =>
      match text.toList with
      | char :: _ => .ok (.str (String.singleton char))
      | [] => .error .indexError
  | .obj _ => .error .keyError
  | _ => .error .typeError

/-- One iteration over the variables of the server's URL template. -/
def fillVariable (url : Json) (entry : String × Json) : Except (PyException OpenApiError) Json :=
  match entry.2 with
  | .obj spec =>
      match (Dict.get? spec "default").getD .null with
      | .null => .error (.raised (.variableWithoutDefault entry.1))
      | default =>
          match url with
          | .str text => do
              let filled ← strOf isPrintable default
              return .str (String.ofList (Text.replace ("\x7b" ++ entry.1 ++ "\x7d").toList
                filled.toList text.toList))
          | _ => .error .attributeError
  | _ => .error .attributeError

/-- `resolve_base_url`; a document's URL is returned whatever its type. -/
def resolveBaseUrl (document : JsonObject) (baseUrlOverride : Option String) :
    Except (PyException OpenApiError) Json :=
  match baseUrlOverride.filter (· ≠ "") with
  | some url => .ok (.str url)
  | none =>
      let servers := (Dict.get? document "servers").getD .null
      if !servers.truthy then .error (.raised .noServers)
      else do
        match ← firstServer servers with
        | .obj server => do
            let url := (Dict.get? server "url").getD (.str "")
            let variableMap := (Dict.get? server "variables").getD .null
            if !variableMap.truthy then return url
            else
              match variableMap with
              | .obj entries => entries.foldlM (fillVariable isPrintable) url
              | _ => .error .attributeError
        | first => .error (.raised (.serverNotAnObject first.typeName))

end BaseUrl

end McpPortal
