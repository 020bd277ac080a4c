import McpPortal.Foundation.PyText
import McpPortal.Foundation.Replace
import McpPortal.Foundation.Traced
import McpPortal.Foundation.Unicode
import McpPortal.Foundation.UrlSplit
import McpPortal.Sources.RefWalk

/-!
# References within an OpenAPI document

Every `$ref` is replaced by what it points to. A reference that is being expanded
already is replaced by an open object, and what a reference was resolved to is
remembered. External documents are fetched when the operator permits it.

The depth of nested references is bounded by a number, as the interpreter's
recursion limit bounds it.
-/

namespace McpPortal

open Foundation

/-- Why one step of a pointer leads nowhere. -/
inductive LookupFailure where
  | missingKey (key : String)
  | indexOutOfRange
  | notAnIndex (key : String)
  | textIndex
  | notSubscriptable (type : String)
  deriving DecidableEq

inductive RefError where
  | unsupportedPointer (pointer : String)
  | unresolved (pointer : String) (failure : LookupFailure)
  | externalDisabled (target : String)
  | hostNotAllowed (target host : String)
  | noFetcher (target : String)
  deriving DecidableEq

def LookupFailure.message (isPrintable : Char → Bool) : LookupFailure → String
  | .missingKey key => reprString isPrintable key
  | .indexOutOfRange => "list index out of range"
  | .notAnIndex key => "invalid literal for int() with base 10: " ++ reprString isPrintable key
  | .textIndex => "string indices must be integers, not 'str'"
  | .notSubscriptable type => "'" ++ type ++ "' object is not subscriptable"

def RefError.message (isPrintable : Char → Bool) : RefError → String
  | .unsupportedPointer pointer =>
      "unsupported $ref pointer form: " ++ reprString isPrintable pointer
  | .unresolved pointer failure =>
      "$ref pointer " ++ reprString isPrintable pointer ++ " does not resolve: " ++
        failure.message isPrintable
  | .externalDisabled target =>
      "external $ref target " ++ reprString isPrintable target ++
        " is disabled by default: the document would otherwise dictate which URLs or files " ++
        "sidekit reads. Set introspection.openapi.allow_external_refs and .allowed_hosts " ++
        "to permit it"
  | .hostNotAllowed target host =>
      "external $ref target " ++ reprString isPrintable target ++ " has host " ++
        reprString isPrintable host ++
        ", which is not in introspection.openapi.allowed_hosts"
  | .noFetcher target =>
      "external $ref target " ++ reprString isPrintable target ++
        " cannot be fetched: no fetcher configured"

/-- What ends a resolution: a refusal, a failed fetch, or too deep a nesting. -/
inductive ResolveError (FetchError : Type) where
  | refused (error : RefError)
  | fetchFailed (error : FetchError)
  | recursionLimit

abbrev ResolveException (FetchError : Type) := PyException (ResolveError FetchError)

/-- `{"type": "object"}`. -/
def openObject : Json :=
  .obj [("type", .str "object")]

/-- `_split`: the external target, and the pointer with its `#`. -/
def splitRef (ref : String) : String × String :=
  let target := ref.toList.takeWhile (· ≠ '#')
  let pointer := (ref.toList.drop target.length).tail
  (String.ofList target, if pointer = [] then "" else String.ofList ('#' :: pointer))

/-- `items[index]`; a negative index counts from the end. -/
def itemAt (items : List Json) (index : Int) : Option Json :=
  if 0 ≤ index then items[index.toNat]?
  else if -index ≤ items.length then items[(items.length + index).toNat]? else none

/-- The key a pointer segment stands for. -/
def unescapeSegment (segment : List Char) : List Char :=
  Text.replace ['~', '0'] ['~'] (Text.replace ['~', '1'] ['/'] segment)

section Pointers

variable (unicode : PyUnicode)

def pointerStep (node : Json) (key : String) : Except LookupFailure Json :=
  match node with
  | .arr items =>
      match pyInt unicode.decimal key.toList with
      | none => .error (.notAnIndex key)
      | some index =>
          match itemAt items index with
          | some item => .ok item
          | none => .error .indexOutOfRange
  | .obj fields =>
      match Dict.get? fields key with
      | some value => .ok value
      | none => .error (.missingKey key)
  | .str _ => .error .textIndex
  | .null => .error (.notSubscriptable "NoneType")
  | .bool _ => .error (.notSubscriptable "bool")
  | .int _ => .error (.notSubscriptable "int")
  | .float _ => .error (.notSubscriptable "float")

def pointerLookup (root : JsonObject) (pointer : String) : Except RefError Json :=
  if pointer = "" ∨ pointer = "#" then .ok (.obj root)
  else if ['#', '/'].isPrefixOf pointer.toList then
    let keys := ((pointer.toList.drop 2).splitOn '/').map fun segment =>
      String.ofList (unescapeSegment segment)
    (keys.foldlM (pointerStep unicode) (.obj root)).mapError (.unresolved pointer)
  else .error (.unsupportedPointer pointer)

end Pointers

/-- The entry document, or the one fetched for a target. -/
inductive DocumentId where
  | entry
  | external (target : String)
  deriving DecidableEq

/-- A document references are resolved in. Its identity is what `id(root)` compares. -/
structure DocumentRoot where
  id : DocumentId
  document : JsonObject

/-- Which document, and the text of the reference. -/
structure RefKey where
  root : DocumentId
  ref : String
  deriving DecidableEq

def DocumentRoot.key (root : DocumentRoot) (ref : String) : RefKey where
  root := root.id
  ref

structure RefResolver (Access FetchError : Type) where
  root : JsonObject
  allowExternal : Bool
  allowedHosts : List String := []
  fetchExternal : Option (String → Traced Access (Except FetchError JsonObject)) := none

/-- The caches and warnings of a resolver, and the accesses to the outside it has made. -/
structure ResolverState (Access : Type) where
  externalCache : List (String × JsonObject) := []
  resolvedCache : List (RefKey × Json) := []
  warnings : List String := []
  accesses : List Access := []

abbrev Resolving (Access FetchError : Type) :=
  Stateful (ResolverState Access) (ResolveException FetchError)

namespace RefResolver

variable {Access FetchError : Type}

def refuse {Value : Type} (error : RefError) : Except (ResolveException FetchError) Value :=
  .error (.raised (.refused error))

variable (unicode : PyUnicode) (acceptsNetloc : List Char → Bool)
  (resolver : RefResolver Access FetchError)

/-- What is checked of a target before it is fetched. -/
def permitTarget (target : String) : Except (ResolveException FetchError) Unit :=
  if !resolver.allowExternal then refuse (.externalDisabled target)
  else
    match Url.urlSplit acceptsNetloc target.toList with
    | none => .error .valueError
    | some parts =>
        if parts.scheme ≠ [] ∧ String.ofList parts.netloc ∉ resolver.allowedHosts then
          refuse (.hostNotAllowed target (String.ofList parts.netloc))
        else .ok ()

/-- Fetching a target, with the accesses made. -/
def fetch (target : String) : Resolving Access FetchError JsonObject :=
  match resolver.fetchExternal with
  | none => Stateful.lift (refuse (.noFetcher target))
  | some fetchExternal => do
      let fetched := fetchExternal target
      Stateful.update fun state => { state with accesses := state.accesses ++ fetched.actions }
      let document ← Stateful.lift
        (fetched.result.mapError fun error => .raised (.fetchFailed error))
      Stateful.update fun state =>
        { state with externalCache := Dict.insert state.externalCache target document }
      return document

def externalDocument (target : String) : Resolving Access FetchError DocumentRoot := do
  Stateful.lift (resolver.permitTarget acceptsNetloc target)
  let cached ← Stateful.read fun state => Dict.get? state.externalCache target
  match cached with
  | some document => return { id := .external target, document }
  | none => do
      let document ← resolver.fetch target
      return { id := .external target, document }

/-- The document a reference points into: a bare pointer stays in its own document. -/
def targetRoot (root : DocumentRoot) (target : String) : Resolving Access FetchError DocumentRoot :=
  if target = "" then return root else resolver.externalDocument acceptsNetloc target

def nodeAt (root : DocumentRoot) (pointer : String) : Except (ResolveException FetchError) Json :=
  (pointerLookup unicode root.document (if pointer = "" then "#" else pointer)).mapError
    fun error => .raised (.refused error)

def circularWarning (ref : String) : String :=
  "circular $ref " ++ reprString unicode.isPrintable ref ++ " replaced with an open object schema"

/-- `_resolve_ref`, to a depth of nested references. -/
def resolveRef : Nat → List RefKey → DocumentRoot → String → Resolving Access FetchError Json
  | 0, _, _, _ => Stateful.raise (.raised .recursionLimit)
  | depth + 1, chain, root, ref =>
      if root.key ref ∈ chain then do
        Stateful.update fun state =>
          { state with warnings := state.warnings ++ [circularWarning unicode ref] }
        return openObject
      else do
        let cached ← Stateful.read fun state => Dict.get? state.resolvedCache (root.key ref)
        match cached with
        | some result => return result
        | none => do
            let (target, pointer) := splitRef ref
            let newRoot ← resolver.targetRoot acceptsNetloc root target
            let node ← Stateful.lift (nodeAt unicode newRoot pointer)
            let result ← walk (resolveRef depth (chain ++ [root.key ref]) newRoot) node
            Stateful.update fun state =>
              { state with resolvedCache := Dict.insert state.resolvedCache (root.key ref) result }
            return result

def entryRoot : DocumentRoot where
  id := .entry
  document := resolver.root

/-- `isinstance(result, dict)` is asserted of the outcome. -/
def assertObject (result : Json) : Except (ResolveException FetchError) JsonObject :=
  match result with
  | .obj fields => .ok fields
  | _ => .error .assertionError

def resolve (depth : Nat) : Resolving Access FetchError JsonObject := do
  let result ← walk (resolver.resolveRef unicode acceptsNetloc depth [] resolver.entryRoot)
    (.obj resolver.root)
  Stateful.lift (assertObject result)

end RefResolver

end McpPortal
