import McpPortal.Policy.Engine
import McpPortal.Sources.DeclaredOperations
import McpPortal.Transports.SentRequest

/-!
# The operation of a call

What a call reads of an operation comes from a checked entry or from a document. A document gives
an operation an id and tags of any type, so that a pattern cannot be matched against its id, or
its tags make no set. The names that reach a path or a header are texts all the same, and the
schema of a body is an object.
-/

namespace McpPortal

open Foundation

/-- What `_build` lets pass of the names and the body of a record. -/
structure Unchecked.HttpBinding.Readable (binding : Unchecked.HttpBinding) : Prop where
  names : ∀ param ∈ binding.parameters, param.location ≠ .query →
    ∃ name, param.wireName.value = .str name
  printed : ∀ param ∈ binding.parameters, param.arg.value.string?.isSome = true →
    param.wireName.value.hasLongInt = false
  body : ∀ body ∈ binding.body, body.contentType.value = .str jsonContentType ∧
    ∃ schema, body.schema = .obj schema

namespace Unchecked

/-- A built operation is readable, whatever its record is. -/
theorem readable_of_build {unicode : PyUnicode} {upstreamKey : String}
    {credentialHeaders : List String} {raw : RawOperation} {operation : Operation}
    (builds : build unicode upstreamKey credentialHeaders raw = .ok (some operation)) :
    operation.binding.Readable := by
  rcases build_eq_some builds with ⟨passes, _, accepted, resolves, _, _⟩
  rcases resolveArgNames_eq_ok_iff.mp resolves with
    ⟨supported, names, read, printable, _, _, resolved⟩
  rw [resolved]
  constructor
  · intro param paramMem notQuery
    rcases mem_renamedParameters paramMem with ⟨own, ownMem, arg, rfl⟩
    cases isLocation : own.location with
    | query => exact absurd isLocation notQuery
    | header =>
        rcases passes.allowed own ownMem isLocation with ⟨header, isText, _⟩
        exact ⟨header, isText⟩
    | path =>
        have isPath : own ∈ pathParameters (raw.binding unicode).parameters :=
          List.mem_filter.mpr ⟨ownMem, decide_eq_true isLocation⟩
        have placed := List.filter_eq_nil_iff.mp (checkPathTemplate_eq_ok_iff.mp accepted).2 own
          isPath
        rw [decide_eq_true_eq, not_not] at placed
        rcases List.mem_map.mp placed with ⟨name, _, isName⟩
        exact ⟨name, value_of_key_text isName.symm⟩
  · intro param paramMem isText
    rcases List.mem_map.mp paramMem with ⟨own, ownMem, rfl⟩
    rcases List.mem_map.mp ownMem with ⟨rawParam, _, rfl⟩
    unfold renamedParameter at isText ⊢
    split at isText
    case isTrue clashes =>
      rw [if_pos clashes, ← Bool.not_eq_true]
      intro long
      exact printable ⟨_, ownMem, clashes, long⟩
    case isFalse once =>
      rw [if_neg once]
      cases isName : rawParam.name.value with
      | str name =>
          rw [RawParameter.parameter, isName]
          rfl
      | _ =>
          rw [RawParameter.parameter, isName] at isText
          cases isText
  · intro body isBody
    rw [Option.mem_def.mp isBody] at read
    exact ⟨value_of_key_text (supported body isBody), isObject_of_bodyNames read⟩

end Unchecked

namespace PyCall

inductive CalledBinding where
  | http (binding : CalledHttp)
  | graphQl (binding : GraphQlBinding)

/-- The input schema, of a checked operation or as a document makes it. -/
inductive PublishedSchema where
  | checked (schema : JsonObject)
  | document (schema : Unchecked.InputSchema)

structure CalledOperation where
  id : Json
  upstream : String
  groupTags : List Json
  effect : Effect
  sensitivity : Sensitivity
  inputSchema : PublishedSchema
  binding : CalledBinding

def CalledBinding.ofChecked : Binding → CalledBinding
  | .http binding => .http (.ofBinding binding)
  | .graphQl binding => .graphQl binding

def CalledOperation.ofChecked (operation : Operation) : CalledOperation where
  id := .str operation.id
  upstream := operation.upstream
  groupTags := operation.groupTags.map .str
  effect := operation.effect
  sensitivity := operation.sensitivity
  inputSchema := .checked operation.inputSchema
  binding := .ofChecked operation.binding

section OfDocument

variable (isPrintable : Char → Bool)

/-- A wire name is formatted into the path or printed into the query. -/
def CalledParameter.ofDocument (param : Unchecked.Parameter) : CalledParameter :=
  match param.arg.value.string? with
  | none => .unnamed param.arg.value param.required
  | some arg => .named {
      arg
      location := param.location
      wireName := param.wireName.value.text isPrintable
      required := param.required
      -- a call reads the schema of the whole input instead
      schema := []
      explode := param.explode.truthy }

def calledBody (body : Unchecked.BodySpec) : BodySpec where
  contentType := body.contentType.value.text isPrintable
  schema := match body.schema with
    | .obj schema => schema
    | _ => []

def CalledHttp.ofDocument (binding : Unchecked.HttpBinding) : CalledHttp where
  method := binding.method
  path := binding.path
  parameters := binding.parameters.map (CalledParameter.ofDocument isPrintable)
  body := binding.body.map (calledBody isPrintable)

def CalledOperation.ofDocument (operation : Unchecked.Operation) : CalledOperation where
  id := operation.id
  upstream := operation.upstream
  groupTags := operation.groupTags
  effect := operation.effect
  sensitivity := operation.sensitivity
  inputSchema := .document operation.inputSchema
  binding := .http (.ofDocument isPrintable operation.binding)

variable {isPrintable} {binding : Unchecked.HttpBinding}

/-- A wire name has a text, which is the name itself where it is put into a path or names a
header. -/
theorem CalledHttp.named_ofDocument (readable : binding.Readable) {param : Parameter}
    (named : param ∈ (ofDocument isPrintable binding).named) :
    ∃ own ∈ binding.parameters, own.arg.value = .str param.arg ∧
      own.location = param.location ∧ own.wireName.value.hasLongInt = false ∧
      param.wireName = own.wireName.value.text isPrintable ∧
      (param.location ≠ .query → own.wireName.value = .str param.wireName) := by
  rcases List.mem_filterMap.mp named with ⟨called, calledMem, isNamed⟩
  rcases List.mem_map.mp calledMem with ⟨own, ownMem, rfl⟩
  unfold CalledParameter.ofDocument at isNamed
  cases isArg : own.arg.value with
  | str arg =>
      rw [isArg] at isNamed
      cases isNamed
      refine ⟨own, ownMem, isArg, rfl, readable.printed own ownMem (by rw [isArg]; rfl), rfl, ?_⟩
      intro notQuery
      rcases readable.names own ownMem notQuery with ⟨name, isName⟩
      rw [isName]
      rfl
  | _ =>
      rw [isArg] at isNamed
      cases isNamed

theorem CalledHttp.body_ofDocument (readable : binding.Readable) {body : BodySpec}
    (isBody : body ∈ (ofDocument isPrintable binding).body) :
    ∃ own ∈ binding.body, own.contentType.value = .str body.contentType ∧
      own.schema = .obj body.schema := by
  rcases Option.map_eq_some_iff.mp isBody with ⟨own, ownBody, rfl⟩
  rcases readable.body own ownBody with ⟨contentType, schema, isObject⟩
  refine ⟨own, ownBody, ?_, ?_⟩
  · rw [calledBody, contentType]
    rfl
  · rw [calledBody, isObject]

end OfDocument

section Policy

variable (operation : CalledOperation)

/-- `not spec.ids or any(fnmatch(op.id, pattern) ...)`; the path of `fnmatch` must be a text. -/
def matchesIds (ids : List String) : Calling Bool :=
  if ids.isEmpty then return true
  else
    match operation.id with
    | .str id => return ids.any (fnmatch id)
    | _ => throw (.interpreter .typeError)

/-- `not spec.tags or set(spec.tags) & set(op.group_tags)`. -/
def matchesTags (tags : List String) : Calling Bool :=
  if tags.isEmpty then return true
  else if operation.groupTags.all Json.hashable then
    return tags.any fun tag => operation.groupTags.any fun own => own.string? = some tag
  else throw (.interpreter .typeError)

/-- The rest of `_matches`, which does not raise. -/
def matchesKind (spec : PolicyMatchSpec) : Bool :=
  if !spec.upstream.isEmpty && decide (operation.upstream ∉ spec.upstream) then false
  else if !spec.effect.isEmpty && decide (operation.effect ∉ spec.effect) then false
  else !(!spec.sensitivity.isEmpty && decide (operation.sensitivity ∉ spec.sensitivity))

/-- `_matches`. -/
def ruleMatches (spec : PolicyMatchSpec) : Calling Bool := do
  let named ← matchesIds operation spec.ids
  if !named then return false
  else do
    let tagged ← matchesTags operation spec.tags
    return tagged && matchesKind operation spec

/-- `_matching_rules`. -/
def matchingRules : List PolicyRule → Calling (List PolicyRule)
  | [] => return []
  | rule :: rest => do
      let applies ← ruleMatches operation rule.spec
      let later ← matchingRules rest
      return if applies then rule :: later else later

/-- What the matching rules come to. -/
def decided (policy : PolicyConfig) (principal : Principal) (matching : List PolicyRule) :
    PolicyDecision :=
  let required := accumulatedDetails matching
  let carry := accumulatedDetails (matching.filter fun rule => rule.outbound.carry)
  if required.isEmpty then { allowed := policy.defaults.unmatched = .allow, carry }
  else
    let missing := required.filter fun detail => !covers detail principal.authorizationDetails
    { allowed := missing.isEmpty, missing, carry }

/-- `PolicyEngine.evaluate`. -/
def evaluate (policy : PolicyConfig) (principal : Principal) : Calling PolicyDecision := do
  let matching ← matchingRules operation policy.rules
  return decided policy principal matching

/-- A rule looks for ids where the id is no text, or gets to tags of which one has no hash. -/
def RuleRaises (spec : PolicyMatchSpec) : Prop :=
  (spec.ids ≠ [] ∧ operation.id.string? = none) ∨
    ((spec.ids = [] ∨ ∃ id, operation.id = .str id ∧ spec.ids.any (fnmatch id) = true) ∧
      spec.tags ≠ [] ∧ ∃ tag ∈ operation.groupTags, tag.hashable = false)

end Policy

section Raises

variable {operation : CalledOperation}

theorem exists_matchesIds_eq_ok {ids : List String} :
    (∃ hit, matchesIds operation ids = .ok hit) ↔ ¬(ids ≠ [] ∧ operation.id.string? = none) := by
  unfold matchesIds
  cases ids with
  | nil => simp
  | cons id rest => cases operation.id <;> simp [Json.string?]

theorem matchesIds_eq_true {ids : List String} :
    matchesIds operation ids = .ok true ↔
      ids = [] ∨ ∃ id, operation.id = .str id ∧ ids.any (fnmatch id) = true := by
  unfold matchesIds
  cases ids with
  | nil => simp
  | cons id rest => cases operation.id <;> simp

theorem exists_matchesTags_eq_ok {tags : List String} :
    (∃ hit, matchesTags operation tags = .ok hit) ↔
      ¬(tags ≠ [] ∧ ∃ tag ∈ operation.groupTags, tag.hashable = false) := by
  unfold matchesTags
  cases tags with
  | nil => simp
  | cons tag rest =>
      simp only [List.isEmpty_cons, Bool.false_eq_true, if_false]
      split
      case isTrue hashes =>
        simp only [pure_eq_ok, exists_eq', true_iff]
        rintro ⟨_, own, ownMem, unhashable⟩
        cases unhashable.symm.trans (List.all_eq_true.mp hashes own ownMem)
      case isFalse unhashable => simpa using unhashable

/-- A rule is matched unless it raises. -/
theorem exists_ruleMatches_eq_ok {spec : PolicyMatchSpec} :
    (∃ applies, ruleMatches operation spec = .ok applies) ↔ ¬RuleRaises operation spec := by
  rw [RuleRaises, not_or, ← exists_matchesIds_eq_ok, ← matchesIds_eq_true, not_and,
    ← exists_matchesTags_eq_ok]
  simp only [ruleMatches, bind_eq_ok]
  constructor
  · rintro ⟨applies, hit, ids, later⟩
    refine ⟨⟨hit, ids⟩, fun isHit => ?_⟩
    cases ids.symm.trans isHit
    rcases bind_eq_ok.mp later with ⟨tagged, tags, _⟩
    exact ⟨tagged, tags⟩
  · rintro ⟨⟨hit, ids⟩, tagged⟩
    cases hit with
    | false => exact ⟨false, false, ids, rfl⟩
    | true =>
        rcases tagged ids with ⟨hit, tags⟩
        exact ⟨_, true, ids, bind_eq_ok.mpr ⟨hit, tags, rfl⟩⟩

/-- The rules are matched one after another. -/
theorem exists_matchingRules_eq_ok {rules : List PolicyRule} :
    (∃ matching, matchingRules operation rules = .ok matching) ↔
      ∀ rule ∈ rules, ¬RuleRaises operation rule.spec := by
  induction rules with
  | nil => simp [matchingRules]
  | cons rule rest ih =>
      rw [List.forall_mem_cons, ← exists_ruleMatches_eq_ok, ← ih]
      simp only [matchingRules, bind_eq_ok, pure_eq_ok]
      constructor
      · rintro ⟨_, applies, matched, later, others, _⟩
        exact ⟨⟨applies, matched⟩, later, others⟩
      · rintro ⟨⟨applies, matched⟩, later, others⟩
        exact ⟨_, applies, matched, later, others, rfl⟩

/-- A call is decided on unless a rule raises. -/
theorem exists_evaluate_eq_ok {policy : PolicyConfig} {principal : Principal} :
    (∃ decision, evaluate operation policy principal = .ok decision) ↔
      ∀ rule ∈ policy.rules, ¬RuleRaises operation rule.spec := by
  rw [← exists_matchingRules_eq_ok]
  simp only [evaluate, bind_eq_ok, pure_eq_ok]
  constructor
  · rintro ⟨_, matching, matched, _⟩
    exact ⟨matching, matched⟩
  · rintro ⟨matching, matched⟩
    exact ⟨_, matching, matched, rfl⟩

end Raises

section Checked

variable (operation : Operation)

theorem matchesIds_ofChecked (ids : List String) :
    matchesIds (.ofChecked operation) ids =
      .ok (ids.isEmpty || ids.any fun pattern => fnmatch operation.id pattern) := by
  cases ids <;> rfl

theorem matchesTags_ofChecked (tags : List String) :
    matchesTags (.ofChecked operation) tags =
      .ok (tags.isEmpty || tags.any fun tag => decide (tag ∈ operation.groupTags)) := by
  have hashes : (operation.groupTags.map Json.str).all Json.hashable = true := by
    simp [Json.hashable]
  have has : ∀ tag, ((operation.groupTags.map Json.str).any fun own => own.string? = some tag) =
      decide (tag ∈ operation.groupTags) := by
    intro tag
    rw [Bool.eq_iff_iff]
    simp [Json.string?]
  cases tags with
  | nil => rfl
  | cons tag rest =>
      simp only [matchesTags, CalledOperation.ofChecked, hashes, if_true, has]
      rfl

theorem matchesKind_ofChecked (spec : PolicyMatchSpec) :
    McpPortal.ruleMatches operation spec =
      ((spec.ids.isEmpty || spec.ids.any fun pattern => fnmatch operation.id pattern) &&
        ((spec.tags.isEmpty || spec.tags.any fun tag => decide (tag ∈ operation.groupTags)) &&
          matchesKind (.ofChecked operation) spec)) := by
  unfold McpPortal.ruleMatches matchesKind
  cases spec.ids.isEmpty <;> cases spec.ids.any fun pattern => fnmatch operation.id pattern <;>
    cases spec.tags.isEmpty <;>
    cases spec.tags.any fun tag => decide (tag ∈ operation.groupTags) <;> rfl

theorem ruleMatches_ofChecked (spec : PolicyMatchSpec) :
    ruleMatches (.ofChecked operation) spec = .ok (McpPortal.ruleMatches operation spec) := by
  rw [matchesKind_ofChecked, ruleMatches, matchesIds_ofChecked, matchesTags_ofChecked]
  cases spec.ids.isEmpty || spec.ids.any fun pattern => fnmatch operation.id pattern <;> rfl

theorem matchingRules_ofChecked (rules : List PolicyRule) :
    matchingRules (.ofChecked operation) rules = .ok (McpPortal.matchingRules operation rules) := by
  induction rules with
  | nil => rfl
  | cons rule rest ih =>
      rw [matchingRules, ruleMatches_ofChecked, ih]
      simp only [McpPortal.matchingRules, List.filter_cons]
      rfl

/-- A checked operation is decided on as the engine does. -/
theorem evaluate_ofChecked (policy : PolicyConfig) (principal : Principal) :
    evaluate (.ofChecked operation) policy principal =
      .ok (PolicyEngine.evaluate policy operation principal) := by
  rw [evaluate, matchingRules_ofChecked]
  rfl

end Checked

end PyCall

end McpPortal
