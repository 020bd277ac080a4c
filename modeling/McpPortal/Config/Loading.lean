import McpPortal.Config.Loader
import McpPortal.Foundation.CodePoints
import McpPortal.Foundation.Fallible
import McpPortal.Foundation.PurePath

/-!
# Loading a configuration

A configuration is read, decoded, parsed and validated, the secrets that its data refers to are
collected, and the policy file that it names is loaded. Files, decoders and data models are given
from outside. An exception of theirs leaves the load as it is where nothing catches it.
-/

namespace McpPortal

open Foundation

/-- A key of decoded data. -/
inductive RawKey where
  | text (value : CodePoints)
  | other (repr : String)

/-- Data as a decoder returns it. YAML has bytes, and its aliases may lead back to a list or a
dictionary that they are in. -/
inductive RawData where
  | text (value : CodePoints)
  | bytes (value : List UInt8)
  | list (items : List RawData)
  | dict (entries : List (RawKey × RawData))
  | enclosing
  /-- A number, a date, or any other value. -/
  | other (repr : String)

inductive JsonFailure where
  | decodeError (reason : String)
  /-- The `ValueError` for an integer of more digits than the interpreter converts. -/
  | tooManyDigits

/-- What a configuration validates to. -/
structure ValidatedConfig where
  config : McpPortalConfig
  policyFile : Option CodePoints := none

/-- What loading reads and calls. -/
structure LoadWorld where
  resolve : PurePath → PurePath
  environ : CodePoints → Option CodePoints
  /-- The bytes of a file, or the text of the `OSError`. -/
  openFile : CodePoints → Except String (List UInt8)
  decode : List UInt8 → Except String String
  json : String → Except JsonFailure RawData
  yaml : String → Except String RawData
  validateConfig : RawData → Except String ValidatedConfig
  validatePolicy : RawData → Except String PolicyConfig

/-- What a `ConfigError` is about. -/
inductive LoadError where
  /-- `cannot read config {path}: {exc}` -/
  | cannotReadConfig (path : CodePoints) (reason : String)
  /-- `invalid JSON in {path}: {exc}` -/
  | invalidJson (path : CodePoints) (reason : String)
  /-- `invalid config {path}:\n{exc}` -/
  | invalidConfig (path : PurePath) (reason : String)
  | denylisted (error : ConfigError)
  /-- `not a secret reference: {ref!r}` -/
  | notASecretReference (ref : CodePoints)
  /-- `environment variable {target!r} is not set` -/
  | environmentNotSet (target : CodePoints)
  /-- `cannot read secret file {resolved}: {exc}` -/
  | cannotReadSecret (path : CodePoints) (reason : String)
  /-- `invalid policy file {resolved}:\n{exc}` -/
  | invalidPolicy (path : CodePoints) (reason : String)

/-- What a load raises. -/
inductive LoadRaised where
  | configError (error : LoadError)
  | unicodeEncodeError
  | embeddedNull
  | unicodeDecodeError (reason : String)
  | yamlError (reason : String)
  | tooManyDigits
  | recursionError

def LoadRaised.isConfigError : LoadRaised → Bool
  | .configError _ => true
  | _ => false

/-- The texts of the secrets, by their references. -/
abbrev Secrets := List (CodePoints × CodePoints)

/-- A `LoadedConfig` with its directory. -/
structure LoadedFiles where
  config : McpPortalConfig
  baseDir : PurePath
  secrets : Secrets
  policy : Option PolicyConfig

/-- `path if path.is_absolute() else base / path`. -/
def resolvedAgainst (base path : PurePath) : PurePath :=
  if path.isAbsolute then path else base.join path

/-- The path that `load_policy_file` reads. -/
def loadedPolicyPath (file : String) (baseDir : PurePath) : PurePath :=
  resolvedAgainst baseDir (.ofText file)

def yamlSuffixes : List (List Char) := [".yaml".toList, ".yml".toList]

theorem isAbsolute_resolvedAgainst {base : PurePath} (absolute : base.isAbsolute = true)
    (path : PurePath) : (resolvedAgainst base path).isAbsolute = true := by
  unfold resolvedAgainst
  split
  case isTrue isAbsolute => exact isAbsolute
  case isFalse => exact absolute

theorem wellFormed_resolvedAgainst {base path : PurePath} (baseWell : base.WellFormed)
    (pathWell : path.WellFormed) : (resolvedAgainst base path).WellFormed := by
  unfold resolvedAgainst
  split
  · exact pathWell
  · exact baseWell.join pathWell

theorem resolvedAgainst_of_isAbsolute {base path : PurePath} (absolute : path.isAbsolute = true) :
    resolvedAgainst base path = path := if_pos absolute

/-- The name of the file that `path if path.is_absolute() else base_dir / path` is. -/
def fileName (baseDir : PurePath) (target : CodePoints) : CodePoints :=
  let base := codePoints baseDir.text
  if target.head? = some (.ofChar '/') then target
  else if base.getLast? = some (.ofChar '/') then base ++ target
  else base ++ .ofChar '/' :: target

/-- `path.suffix in {".yaml", ".yml"}`. -/
def hasYamlSuffix (name : CodePoints) : Bool :=
  yamlSuffixes.contains (PurePath.ofText name.replaced).suffix

/-- `_SECRET_RE.fullmatch(text)`. -/
def isSecretReference (text : CodePoints) : Bool :=
  ["$\x7benv:", "$\x7bfile:"].any fun opening =>
    (codePoints opening).isPrefixOf text &&
      let rest := text.drop (codePoints opening).length
      rest.getLast? = some (.ofChar '\x7d') && !rest.dropLast.isEmpty &&
        .ofChar '\x7d' ∉ rest.dropLast

/-- `ref[2:-1].partition(":")`, its first and its last part. -/
def secretParts (ref : CodePoints) : CodePoints × CodePoints :=
  let body := (ref.drop 2).dropLast
  (body.takeWhile (· ≠ .ofChar ':'), (body.dropWhile (· ≠ .ofChar ':')).drop 1)

/-- `text[:-1] if text.endswith("\n") else text`. -/
def withoutFinalNewline (text : String) : CodePoints :=
  let points := codePoints text
  if points.getLast? = some (.ofChar '\n') then points.dropLast else points

section Loading

variable (world : LoadWorld)

/-- `path.read_text()`, or the text of an `OSError`. -/
def readText (name : CodePoints) : Except LoadRaised (Except String String) :=
  if !name.isFsEncodable then throw .unicodeEncodeError
  else if 0 ∈ name then throw .embeddedNull
  else
    match world.openFile name with
    | .error reason => return .error reason
    | .ok bytes =>
        match world.decode bytes with
        | .error reason => throw (.unicodeDecodeError reason)
        | .ok text => return .ok text

def resolveSecret (ref : CodePoints) (baseDir : PurePath) : Except LoadRaised CodePoints :=
  if !isSecretReference ref then throw (.configError (.notASecretReference ref))
  else
    let (kind, target) := secretParts ref
    if kind = codePoints "env" then
      if !target.isFsEncodable then throw .unicodeEncodeError
      else
        match world.environ target with
        | none => throw (.configError (.environmentNotSet target))
        | some value => return value
    else do
      let read ← readText world (fileName baseDir target)
      match read with
      | .error reason => throw (.configError (.cannotReadSecret (fileName baseDir target) reason))
      | .ok text => return withoutFinalNewline text

mutual

/-- `_collect_secrets`. It does not return from data that holds itself. -/
def collectSecrets (baseDir : PurePath) (data : RawData) (out : Secrets) :
    Except LoadRaised Secrets :=
  match data with
  | .text text =>
      if isSecretReference text then do
        let value ← resolveSecret world text baseDir
        return Dict.insert out text value
      else return out
  | .dict entries => collectFromEntries baseDir entries out
  | .list items => collectFromItems baseDir items out
  | .enclosing => throw .recursionError
  | .bytes _ => return out
  | .other _ => return out
termination_by structural data

def collectFromEntries (baseDir : PurePath) (entries : List (RawKey × RawData)) (out : Secrets) :
    Except LoadRaised Secrets :=
  match entries with
  | [] => return out
  | (_, value) :: rest => do
      let next ← collectSecrets baseDir value out
      collectFromEntries baseDir rest next
termination_by structural entries

def collectFromItems (baseDir : PurePath) (items : List RawData) (out : Secrets) :
    Except LoadRaised Secrets :=
  match items with
  | [] => return out
  | value :: rest => do
      let next ← collectSecrets baseDir value out
      collectFromItems baseDir rest next
termination_by structural items

end

/-- `_read`. -/
def readData (path : CodePoints) : Except LoadRaised RawData := do
  let read ← readText world path
  match read with
  | .error reason => throw (.configError (.cannotReadConfig path reason))
  | .ok text =>
      if hasYamlSuffix path then (world.yaml text).mapError .yamlError
      else
        match world.json text with
        | .ok data => return data
        | .error (.decodeError reason) => throw (.configError (.invalidJson path reason))
        | .error .tooManyDigits => throw .tooManyDigits

def loadPolicyFile (file : CodePoints) (baseDir : PurePath) : Except LoadRaised PolicyConfig := do
  let path := fileName baseDir file
  let raw ← readData world path
  (world.validatePolicy raw).mapError fun reason => .configError (.invalidPolicy path reason)

/-- The policy file, if one is named. -/
def loadPolicy (policyFile : Option CodePoints) (baseDir : PurePath) :
    Except LoadRaised (Option PolicyConfig) :=
  match policyFile with
  | none => return none
  | some file => (loadPolicyFile world file baseDir).map some

def loadConfig (unicode : PyUnicode) (path : PurePath) : Except LoadRaised LoadedFiles := do
  let path := world.resolve path
  let baseDir := path.parent
  let raw ← readData world (codePoints path.text)
  let validated ← (world.validateConfig raw).mapError fun reason =>
    .configError (.invalidConfig path reason)
  (checkHeaderDenylist unicode validated.config).mapError fun error =>
    .configError (.denylisted error)
  let secrets ← collectSecrets world baseDir raw []
  let policy ← loadPolicy world validated.policyFile baseDir
  return { config := validated.config, baseDir, secrets, policy }

end Loading

end McpPortal
