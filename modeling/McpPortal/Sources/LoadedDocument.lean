import McpPortal.Config.Models
import McpPortal.Sources.Dialect
import McpPortal.Sources.OpenApiDocument

/-!
# Loading a document with its references

The references of a document may name further documents, which the document
controls. Every access made while they are resolved goes to an allowed host or to a
file within the configuration directory.
-/

namespace McpPortal

open Foundation

structure LoadedDocument where
  document : JsonObject
  baseUrl : Json
  warnings : List String

/-- What ends a load, by the stage it comes from. -/
inductive LoadFailure where
  | fetch (error : FetchError)
  | resolve (error : ResolveException FetchError)
  | convert (error : PyException Unit)
  | baseUrl (error : PyException OpenApiError)

section Load

variable (unicode : PyUnicode) (acceptsNetloc : List Char → Bool) (outside : Outside)

/-- The resolver of an entry document. -/
def documentResolver (config : OpenApiIntrospectionConfig) (baseDir : PurePath)
    (document : JsonObject) : RefResolver Access FetchError where
  root := document
  allowExternal := config.allowExternalRefs
  allowedHosts := config.allowedHosts
  fetchExternal := some (fetchExternalDocument outside baseDir)

/-- The accesses made while the references of an entry document are resolved. -/
def referenceAccesses (config : OpenApiIntrospectionConfig) (baseDir : PurePath)
    (document : JsonObject) (depth : Nat) : List Access :=
  ((documentResolver outside config baseDir document).resolve unicode acceptsNetloc depth
    {}).2.accesses

/-- A document of another version than 3.1 is converted as a whole. -/
def convertDocument (resolved : JsonObject) : Except (PyException Unit) JsonObject := do
  let version ← strOf unicode.isPrintable ((Dict.get? resolved "openapi").getD (.str ""))
  if isOpenApi31 version then .ok resolved
  else
    match convert30Schema (.obj resolved) with
    | .ok (.obj converted) => .ok converted
    | .ok _ => .error .assertionError
    | .error error => .error error

def entryLocation (config : OpenApiIntrospectionConfig) : String :=
  match config.url with
  | some url => url.text
  | none => config.file.getD ""

/-- What is done with a resolved document. -/
def finishDocument (baseUrlOverride : Option String) (warnings : List String)
    (resolved : JsonObject) : Except LoadFailure LoadedDocument := do
  let document ← (convertDocument unicode resolved).mapError .convert
  let baseUrl ← (resolveBaseUrl unicode.isPrintable document baseUrlOverride).mapError .baseUrl
  return { document, baseUrl, warnings }

def loadDocument (depth : Nat) (config : OpenApiIntrospectionConfig) (baseDir : PurePath)
    (baseUrlOverride : Option String) : Traced Access (Except LoadFailure LoadedDocument) :=
  let fetched := fetchText outside (entryLocation config) baseDir false
  let raw := do
    let (text, isYaml) ← fetched.result
    parseDocument outside text isYaml true
  match raw with
  | .error error => { actions := fetched.actions, result := .error (.fetch error) }
  | .ok raw =>
      let resolver := documentResolver outside config baseDir raw
      let (outcome, state) := resolver.resolve unicode acceptsNetloc depth {}
      { actions := fetched.actions ++ state.accesses
        result := do
          let resolved ← outcome.mapError .resolve
          finishDocument unicode baseUrlOverride state.warnings resolved }

end Load

namespace RefResolver

variable {Access FetchError : Type} {unicode : PyUnicode} {acceptsNetloc : List Char → Bool}
  {resolver : RefResolver Access FetchError} {permitted : Access → Prop}

/-- All accesses made so far are permitted. -/
def Contained (permitted : Access → Prop) (state : ResolverState Access) : Prop :=
  ∀ access ∈ state.accesses, permitted access

/-- Fetching a target that passes the checks makes permitted accesses only. -/
def Guards (acceptsNetloc : List Char → Bool) (permitted : Access → Prop)
    (resolver : RefResolver Access FetchError) : Prop :=
  ∀ fetchExternal ∈ resolver.fetchExternal, ∀ target,
    resolver.permitTarget acceptsNetloc target = .ok () →
    ∀ access ∈ (fetchExternal target).actions, permitted access

theorem contained_fetch {target : String} (guards : resolver.Guards acceptsNetloc permitted)
    (passed : resolver.permitTarget acceptsNetloc target = .ok ()) :
    Stateful.Meets (Contained permitted) (fun _ => True) (resolver.fetch target) := by
  unfold fetch
  cases fetcher : resolver.fetchExternal with
  | none => exact Stateful.meets_lift trivial
  | some fetchExternal =>
      apply Stateful.meets_update_bind
      · intro state contained access accessMem
        rcases List.mem_append.mp accessMem with before | now
        · exact contained access before
        · exact guards fetchExternal fetcher target passed access now
      · apply Stateful.meets_lift_bind
        · intro document _
          apply Stateful.meets_update_bind
          · intro state contained
            exact contained
          · exact Stateful.meets_pure trivial
        · intro _ _
          trivial

theorem contained_targetRoot (guards : resolver.Guards acceptsNetloc permitted)
    (root : DocumentRoot) (target : String) :
    Stateful.Meets (Contained permitted) (fun _ => True)
      (resolver.targetRoot acceptsNetloc root target) := by
  unfold targetRoot externalDocument
  split
  · exact Stateful.meets_pure trivial
  · apply Stateful.meets_lift_bind
    · intro _ passed
      apply Stateful.meets_read_bind fun _ => True
      · intro _ _
        trivial
      · intro cached _
        cases cached with
        | some document => exact Stateful.meets_pure trivial
        | none =>
            apply (contained_fetch guards passed).bind
            · intro document _
              exact Stateful.meets_pure trivial
            · intro _ _
              trivial
    · intro _ _
      trivial

theorem contained_walk {expand : String → Resolving Access FetchError Json} {node : Json}
    (expands : ∀ ref, Stateful.Meets (Contained permitted) (fun _ => True) (expand ref)) :
    Stateful.Meets (Contained permitted) (fun _ => True) (walk expand node) := by
  have walked : Stateful.Meets (Contained permitted)
      (WalkOutcome (fun _ _ => True) (refsOf node) (Walked (fun _ _ => True) node))
      (walk expand node) := meets_walk fun ref _ => expands ref
  apply walked.mono
  intro _ _
  trivial

theorem contained_resolveRef (guards : resolver.Guards acceptsNetloc permitted) (depth : Nat)
    (chain : List RefKey) (root : DocumentRoot) (ref : String) :
    Stateful.Meets (Contained permitted) (fun _ => True)
      (resolver.resolveRef unicode acceptsNetloc depth chain root ref) := by
  induction depth generalizing chain root ref with
  | zero => exact Stateful.meets_raise trivial
  | succ depth ih =>
      unfold resolveRef
      split
      · apply Stateful.meets_update_bind
        · intro state contained
          exact contained
        · exact Stateful.meets_pure trivial
      · apply Stateful.meets_read_bind fun _ => True
        · intro _ _
          trivial
        · intro cached _
          cases cached with
          | some result => exact Stateful.meets_pure trivial
          | none =>
              rcases splitRef ref with ⟨target, pointer⟩
              apply (contained_targetRoot guards root target).bind
              · intro newRoot _
                apply Stateful.meets_lift_bind
                · intro node _
                  apply (contained_walk (ih (chain ++ [root.key ref]) newRoot)).bind
                  · intro result _
                    apply Stateful.meets_update_bind
                    · intro state contained
                      exact contained
                    · exact Stateful.meets_pure trivial
                  · intro _ _
                    trivial
                · intro _ _
                  trivial
              · intro _ _
                trivial

/-- Every access made while references are resolved is permitted. -/
theorem contained_resolve (guards : resolver.Guards acceptsNetloc permitted) (depth : Nat) :
    ∀ access ∈ (resolver.resolve unicode acceptsNetloc depth {}).2.accesses, permitted access := by
  have meets : Stateful.Meets (Contained permitted) (fun _ => True)
      (resolver.resolve unicode acceptsNetloc depth) := by
    apply (contained_walk (contained_resolveRef guards depth [] resolver.entryRoot)).bind
    · intro result _
      exact Stateful.meets_lift trivial
    · intro _ _
      trivial
  refine (meets {} ?_).1
  intro access accessMem
  cases accessMem

end RefResolver

section Confined

variable {unicode : PyUnicode} {acceptsNetloc : List Char → Bool} {outside : Outside}
  {config : OpenApiIntrospectionConfig} {baseDir : PurePath} {document : JsonObject}

/-- A request to an allowed authority, or a file that resolves inside the directory. -/
def Confined (outside : Outside) (config : OpenApiIntrospectionConfig) (baseDir : PurePath) :
    Access → Prop
  | .get url => String.ofList (Url.authority url.toList) ∈ config.allowedHosts
  | .read path => ∃ resolved base, outside.files.resolve path = some resolved ∧
      outside.files.resolve baseDir = some base ∧ resolved.isRelativeTo base = true

theorem staysWithin_ok {path : PurePath} (within : staysWithin outside path baseDir = .ok true) :
    Confined outside config baseDir (.read path) := by
  unfold staysWithin at within
  split at within
  case h_1 resolved base isResolved isBase =>
    rw [Except.ok.injEq] at within
    exact ⟨resolved, base, isResolved, isBase, within⟩
  case h_2 => cases within

theorem isHttpLocation_scheme {location : String} (isHttp : isHttpLocation location = true) :
    ∃ scheme rest, scheme ≠ [] ∧ (∀ char ∈ scheme, char.isAlpha = true) ∧
      location.toList = scheme ++ ':' :: rest := by
  simp only [isHttpLocation, Bool.or_eq_true, List.isPrefixOf_iff_prefix] at isHttp
  rcases isHttp with ⟨rest, starts⟩ | ⟨rest, starts⟩
  · refine ⟨['h', 't', 't', 'p'], '/' :: '/' :: rest, by simp, by simp, ?_⟩
    rw [← starts]
    rfl
  · refine ⟨['h', 't', 't', 'p', 's'], '/' :: '/' :: rest, by simp, by simp, ?_⟩
    rw [← starts]
    rfl

/-- A location with an HTTP scheme is networked: its authority is what the checks look at. -/
theorem authority_of_permitTarget {Access FetchError : Type}
    {resolver : RefResolver Access FetchError} {target : String}
    (isHttp : isHttpLocation target = true) (plain : Url.isPlain target.toList = true)
    (passed : resolver.permitTarget acceptsNetloc target = .ok ()) :
    String.ofList (Url.authority target.toList) ∈ resolver.allowedHosts := by
  rcases isHttpLocation_scheme isHttp with ⟨scheme, rest, nonempty, letters, target_eq⟩
  unfold RefResolver.permitTarget at passed
  split at passed
  · cases passed
  · split at passed
    · cases passed
    case h_2 parts split =>
      rw [target_eq] at split plain ⊢
      rcases Url.urlSplit_of_scheme nonempty letters plain split with ⟨hasScheme, netloc⟩
      rw [← netloc]
      by_contra notAllowed
      rw [if_pos ⟨hasScheme, notAllowed⟩] at passed
      cases passed

theorem guards_documentResolver (refuses : outside.client.RefusesControlCharacters) :
    (documentResolver outside config baseDir document).Guards acceptsNetloc
      (Confined outside config baseDir) := by
  rintro _ ⟨⟩ target passed access accessMem
  simp only [fetchExternalDocument, fetchText] at accessMem
  split at accessMem
  case isTrue isHttp =>
    unfold fetchUrl at accessMem
    split at accessMem
    case isTrue parses =>
      rw [Traced.actions_act, List.mem_singleton] at accessMem
      subst access
      exact authority_of_permitTarget isHttp (refuses target parses) passed
    case isFalse => cases accessMem
  case isFalse =>
    rw [if_pos trivial] at accessMem
    split at accessMem
    · cases accessMem
    · cases accessMem
    case h_3 within =>
      rw [readPath, Traced.actions_act, List.mem_singleton] at accessMem
      subst access
      exact staysWithin_ok within

/-- Every access made while the references of a document are resolved stays within what the
operator allows; without external references there is none. -/
theorem referenceAccesses_confined (refuses : outside.client.RefusesControlCharacters)
    (depth : Nat) :
    (∀ access ∈ referenceAccesses unicode acceptsNetloc outside config baseDir document depth,
        Confined outside config baseDir access) ∧
      (config.allowExternalRefs = false →
        referenceAccesses unicode acceptsNetloc outside config baseDir document depth = []) := by
  constructor
  · exact RefResolver.contained_resolve (guards_documentResolver refuses) depth
  · intro disabled
    have guards : (documentResolver outside config baseDir document).Guards acceptsNetloc
        fun _ => False := by
      intro fetchExternal _ target passed
      simp only [RefResolver.permitTarget, documentResolver, disabled] at passed
      cases passed
    rw [List.eq_nil_iff_forall_not_mem]
    exact RefResolver.contained_resolve guards depth

end Confined

/-- A client that serves one schema document to URLs of visible characters, and no files. -/
def petOutside : Outside where
  client :=
    { parsesUrl := fun url => Url.isPlain url.toList
      get := fun _ => .ok { text := "\x7b\"Pet\": 1\x7d" } }
  files := { resolve := fun _ => none, readText := fun _ => .error "" }
  parsers :=
    { yaml := fun _ => .error "", readFloat := fun repr => { value := 0, repr },
      jsonError := fun _ => "" }

def petIntrospection : OpenApiIntrospectionConfig where
  url := some { text := "https://api.example.com/openapi.json" }
  allowExternalRefs := true
  allowedHosts := ["schemas.example.com"]

def petDocument : JsonObject :=
  [("pet", .obj [("$ref", .str "https://schemas.example.com/pet.json#/Pet")])]

/-- The accesses made for the references of that document. -/
def petAccesses : List Access :=
  referenceAccesses asciiTables (fun _ => true) petOutside petIntrospection
    (PurePath.ofText "/etc/portal") petDocument 3

theorem petOutside_refuses : petOutside.client.RefusesControlCharacters := by
  intro url parses
  exact parses

theorem referenceAccesses_confined_pet :
    petAccesses = [.get "https://schemas.example.com/pet.json"] ∧
      ∀ access ∈ petAccesses,
        Confined petOutside petIntrospection (PurePath.ofText "/etc/portal") access := by
  have made : petAccesses = [.get "https://schemas.example.com/pet.json"] := by decide +kernel
  exact ⟨made, (referenceAccesses_confined petOutside_refuses 3).1⟩

end McpPortal
