import McpPortal.Config.Loading
import McpPortal.Foundation.Uncaught

/-!
# How loading fails

A configuration error stops a load with `ConfigError`. Undecodable bytes, malformed YAML, names
that no file or environment variable can have, and data that holds itself raise other exceptions,
and a secret reference given as bytes is not collected.
-/

namespace McpPortal

open Foundation

/-- What the collector comes to. -/
inductive SecretVisit where
  | text (value : CodePoints)
  | endless

mutual

def RawData.visits : RawData → List SecretVisit
  | .text text => [.text text]
  | .dict entries => visitsOfEntries entries
  | .list items => visitsOfItems items
  | .enclosing => [.endless]
  | .bytes _ => []
  | .other _ => []

def visitsOfEntries : List (RawKey × RawData) → List SecretVisit
  | [] => []
  | (_, value) :: rest => value.visits ++ visitsOfEntries rest

def visitsOfItems : List RawData → List SecretVisit
  | [] => []
  | value :: rest => value.visits ++ visitsOfItems rest

end

section Conditions

variable (world : LoadWorld)

/-- The text of the file of a name. -/
structure TextAt (name : CodePoints) (text : String) : Prop where
  encodable : name.isFsEncodable = true
  noNull : 0 ∉ name
  read : ∃ bytes, world.openFile name = .ok bytes ∧ world.decode bytes = .ok text

/-- A name that a file can have, and bytes that are text if there is one. -/
structure ReadsText (name : CodePoints) : Prop where
  encodable : name.isFsEncodable = true
  noNull : 0 ∉ name
  decodes : ∀ bytes, world.openFile name = .ok bytes → ∃ text, world.decode bytes = .ok text

/-- The data of the file at a path. -/
def DataAt (path : CodePoints) (data : RawData) : Prop :=
  ∃ text, TextAt world path text ∧
    if hasYamlSuffix path then world.yaml text = .ok data else world.json text = .ok data

/-- The text of the file is YAML if its suffix is, and has no integer that is too long. -/
structure ReadsData (path : CodePoints) : Prop where
  text : ReadsText world path
  parses : ∀ text, TextAt world path text →
    if hasYamlSuffix path then ∃ data, world.yaml text = .ok data
    else world.json text ≠ .error .tooManyDigits

variable (baseDir : PurePath)

/-- The secret of a reference can be looked for. -/
def SecretVisit.Safe : SecretVisit → Prop
  | .endless => False
  | .text ref => isSecretReference ref = true →
      if (secretParts ref).1 = codePoints "env" then (secretParts ref).2.isFsEncodable = true
      else ReadsText world (fileName baseDir (secretParts ref).2)

/-- The secret of a reference is found. -/
def SecretVisit.Resolves : SecretVisit → Prop
  | .endless => False
  | .text ref => isSecretReference ref = true →
      if (secretParts ref).1 = codePoints "env" then
        (secretParts ref).2.isFsEncodable = true ∧
          ∃ value, world.environ (secretParts ref).2 = some value
      else ∃ text, TextAt world (fileName baseDir (secretParts ref).2) text

variable {world baseDir}

theorem readText_eq_ok {name : CodePoints} {text : String} :
    readText world name = .ok (.ok text) ↔ TextAt world name text := by
  constructor
  · intro read
    simp only [readText, check_eq_ok, Bool.not_eq_true', Bool.not_eq_false] at read
    rcases read with ⟨encodable, noNull, read⟩
    split at read
    · cases read
    case h_2 bytes opened =>
      split at read
      · cases read
      case h_2 decoded =>
        cases read
        exact ⟨encodable, noNull, bytes, opened, decoded⟩
  · rintro ⟨encodable, noNull, bytes, opened, decoded⟩
    simp [readText, encodable, noNull, opened, decoded, pure, Except.pure]

/-- The error of a file that cannot be read. -/
theorem uncaught_readText {name : CodePoints} :
    Uncaught LoadRaised.isConfigError (readText world name) ↔ ¬ReadsText world name := by
  by_cases encodable : name.isFsEncodable = true
  · by_cases noNull : (0 : CodePoint) ∈ name
    · have notRead : ¬ReadsText world name := fun reads => reads.noNull noNull
      simp [readText, encodable, noNull, notRead, LoadRaised.isConfigError]
    · have reads : ReadsText world name ↔
          ∀ bytes, world.openFile name = .ok bytes → ∃ text, world.decode bytes = .ok text :=
        ⟨ReadsText.decodes, fun decodes => ⟨encodable, noNull, decodes⟩⟩
      rw [reads]
      cases opened : world.openFile name with
      | error reason => simp [readText, encodable, noNull, opened]
      | ok bytes =>
          cases decoded : world.decode bytes with
          | error reason =>
              simp [readText, encodable, noNull, opened, decoded, LoadRaised.isConfigError]
          | ok text => simp [readText, encodable, noNull, opened, decoded]
  · have notRead : ¬ReadsText world name := fun reads => encodable reads.encodable
    rw [Bool.not_eq_true] at encodable
    simp [readText, encodable, notRead, LoadRaised.isConfigError]

theorem readText_of_readsText {name : CodePoints} (reads : ReadsText world name) :
    ∃ read, readText world name = .ok read := by
  cases opened : world.openFile name with
  | error reason =>
      simp [readText, reads.encodable, reads.noNull, opened, pure, Except.pure]
  | ok bytes =>
      rcases reads.decodes bytes opened with ⟨text, decoded⟩
      simp [readText, reads.encodable, reads.noNull, opened, decoded, pure, Except.pure]

theorem readData_eq_ok {path : CodePoints} {data : RawData} :
    readData world path = .ok data ↔ DataAt world path data := by
  rw [readData, bind_eq_ok, DataAt]
  constructor
  · rintro ⟨_ | text, read, parsed⟩
    · cases parsed
    · refine ⟨text, readText_eq_ok.mp read, ?_⟩
      by_cases isYaml : hasYamlSuffix path = true
      · simpa [isYaml, mapError_eq_ok] using parsed
      · simp only [isYaml, Bool.false_eq_true, if_false] at parsed ⊢
        split at parsed
        case h_1 decoded =>
          cases parsed
          exact decoded
        · cases parsed
        · cases parsed
  · rintro ⟨text, textAt, parsed⟩
    refine ⟨.ok text, readText_eq_ok.mpr textAt, ?_⟩
    by_cases isYaml : hasYamlSuffix path = true
    · simpa [isYaml, mapError_eq_ok] using parsed
    · simp only [isYaml, Bool.false_eq_true, if_false] at parsed ⊢
      simp [parsed, pure, Except.pure]

theorem uncaught_readData {path : CodePoints} :
    Uncaught LoadRaised.isConfigError (readData world path) ↔ ¬ReadsData world path := by
  rw [readData, uncaught_bind, uncaught_readText]
  by_cases reads : ReadsText world path
  · rcases readText_of_readsText reads with ⟨read, isRead⟩
    simp only [reads, not_true, false_or, isRead, Except.ok.injEq, exists_eq_left']
    cases read with
    | error reason =>
        have noText : ∀ text, ¬TextAt world path text := by
          intro text atName
          rw [readText_eq_ok.mpr atName] at isRead
          cases isRead
        have readsData : ReadsData world path := ⟨reads, fun text atName => absurd atName (noText text)⟩
        simp [readsData, LoadRaised.isConfigError]
    | ok text =>
        have readsData : ReadsData world path ↔
            if hasYamlSuffix path then ∃ data, world.yaml text = .ok data
            else world.json text ≠ .error .tooManyDigits := by
          constructor
          · intro readsData
            exact readsData.parses text (readText_eq_ok.mp isRead)
          · intro parses
            refine ⟨reads, fun other atName => ?_⟩
            rw [readText_eq_ok.mpr atName] at isRead
            cases isRead
            exact parses
        rw [readsData]
        by_cases isYaml : hasYamlSuffix path = true
        · cases parsed : world.yaml text with
          | error reason => simp [isYaml, parsed, Except.mapError, LoadRaised.isConfigError]
          | ok data => simp [isYaml, parsed, Except.mapError]
        · cases parsed : world.json text with
          | ok data => simp [isYaml, parsed]
          | error failure => cases failure <;> simp [isYaml, parsed, LoadRaised.isConfigError]
  · have notRead : ¬ReadsData world path := fun readsData => reads readsData.text
    simp [reads, notRead]

theorem uncaught_resolveSecret {ref : CodePoints} (isRef : isSecretReference ref = true) :
    Uncaught LoadRaised.isConfigError (resolveSecret world ref baseDir) ↔
      ¬SecretVisit.Safe world baseDir (.text ref) := by
  simp only [SecretVisit.Safe, isRef, forall_const, resolveSecret, Bool.not_true,
    Bool.false_eq_true, if_false]
  by_cases isEnv : (secretParts ref).1 = codePoints "env"
  · simp only [isEnv, if_true]
    by_cases encodable : (secretParts ref).2.isFsEncodable = true
    · cases found : world.environ (secretParts ref).2 with
      | none => simp [encodable, LoadRaised.isConfigError]
      | some value => simp [encodable]
    · rw [Bool.not_eq_true] at encodable
      simp [encodable, LoadRaised.isConfigError]
  · simp only [isEnv, if_false, uncaught_bind, uncaught_readText, or_iff_left_iff_imp]
    rintro ⟨_ | text, _, passed⟩
    · cases passed
    · cases passed

theorem exists_resolveSecret_eq_ok {ref : CodePoints} (isRef : isSecretReference ref = true) :
    (∃ value, resolveSecret world ref baseDir = .ok value) ↔
      SecretVisit.Resolves world baseDir (.text ref) := by
  simp only [SecretVisit.Resolves, isRef, forall_const, resolveSecret, Bool.not_true,
    Bool.false_eq_true, if_false]
  by_cases isEnv : (secretParts ref).1 = codePoints "env"
  · simp only [isEnv, if_true]
    by_cases encodable : (secretParts ref).2.isFsEncodable = true
    · cases found : world.environ (secretParts ref).2 with
      | none => simp [encodable]
      | some value => simp [encodable, pure, Except.pure]
    · rw [Bool.not_eq_true] at encodable
      simp [encodable]
  · simp only [isEnv, if_false, bind_eq_ok, ← readText_eq_ok]
    constructor
    · rintro ⟨_, _ | text, read, resolved⟩
      · cases resolved
      · exact ⟨text, read⟩
    · rintro ⟨text, read⟩
      exact ⟨_, .ok text, read, rfl⟩

variable (world baseDir) in
/-- One visit of the collector. -/
def collectVisit (out : Secrets) : SecretVisit → Except LoadRaised Secrets
  | .endless => throw .recursionError
  | .text text =>
      if isSecretReference text then do
        let value ← resolveSecret world text baseDir
        return Dict.insert out text value
      else return out

mutual

/-- Collecting goes through the visits. -/
theorem collectSecrets_eq_foldlM (data : RawData) (out : Secrets) :
    collectSecrets world baseDir data out = data.visits.foldlM (collectVisit world baseDir) out := by
  cases data with
  | text text => simp [collectSecrets, RawData.visits, collectVisit]
  | bytes value => rfl
  | list items => exact collectFromItems_eq_foldlM items out
  | dict entries => exact collectFromEntries_eq_foldlM entries out
  | enclosing => rfl
  | other repr => rfl
termination_by structural data

theorem collectFromEntries_eq_foldlM (entries : List (RawKey × RawData)) (out : Secrets) :
    collectFromEntries world baseDir entries out =
      (visitsOfEntries entries).foldlM (collectVisit world baseDir) out := by
  cases entries with
  | nil => rfl
  | cons entry rest =>
      rcases entry with ⟨key, value⟩
      rw [collectFromEntries, visitsOfEntries, List.foldlM_append, collectSecrets_eq_foldlM value]
      exact bind_congr fun next => collectFromEntries_eq_foldlM rest next
termination_by structural entries

theorem collectFromItems_eq_foldlM (items : List RawData) (out : Secrets) :
    collectFromItems world baseDir items out =
      (visitsOfItems items).foldlM (collectVisit world baseDir) out := by
  cases items with
  | nil => rfl
  | cons value rest =>
      rw [collectFromItems, visitsOfItems, List.foldlM_append, collectSecrets_eq_foldlM value]
      exact bind_congr fun next => collectFromItems_eq_foldlM rest next
termination_by structural items

end

theorem uncaught_collectVisit (out : Secrets) (visit : SecretVisit) :
    Uncaught LoadRaised.isConfigError (collectVisit world baseDir out visit) ↔
      ¬visit.Safe world baseDir := by
  cases visit with
  | endless => simp [collectVisit, SecretVisit.Safe, LoadRaised.isConfigError]
  | text text =>
      by_cases isRef : isSecretReference text = true
      · simp [collectVisit, isRef, uncaught_resolveSecret isRef]
      · simp [collectVisit, isRef, SecretVisit.Safe]

theorem exists_collectVisit_eq_ok (out : Secrets) (visit : SecretVisit) :
    (∃ next, collectVisit world baseDir out visit = .ok next) ↔ visit.Resolves world baseDir := by
  cases visit with
  | endless => simp [collectVisit, SecretVisit.Resolves]
  | text text =>
      by_cases isRef : isSecretReference text = true
      · rw [← exists_resolveSecret_eq_ok isRef]
        simp only [collectVisit, isRef, if_true, bind_eq_ok, pure_eq_ok]
        constructor
        · rintro ⟨_, value, resolved, _⟩
          exact ⟨value, resolved⟩
        · rintro ⟨value, resolved⟩
          exact ⟨_, value, resolved, rfl⟩
      · simp [collectVisit, isRef, SecretVisit.Resolves, pure, Except.pure]

/-- The keys of the secrets are the references that were visited. -/
theorem mem_keys_collected {visits : List SecretVisit} {out secrets : Secrets}
    (collected : visits.foldlM (collectVisit world baseDir) out = .ok secrets) {ref : CodePoints}
    (isRef : isSecretReference ref = true) :
    ref ∈ Dict.keys secrets ↔ ref ∈ Dict.keys out ∨ .text ref ∈ visits := by
  induction visits generalizing out with
  | nil =>
      cases collected
      simp
  | cons visit rest ih =>
      rcases foldlM_cons_eq_ok.mp collected with ⟨next, visited, later⟩
      rw [ih later]
      cases visit with
      | endless => cases visited
      | text text =>
          by_cases textIsRef : isSecretReference text = true
          · simp only [collectVisit, textIsRef, if_true, bind_eq_ok, pure_eq_ok] at visited
            rcases visited with ⟨value, _, rfl⟩
            rw [Dict.mem_keys_insert, List.mem_cons, SecretVisit.text.injEq]
            tauto
          · simp only [collectVisit, textIsRef, Bool.false_eq_true, if_false, pure_eq_ok] at visited
            have different : ref ≠ text := by
              rintro rfl
              exact textIsRef isRef
            simp [visited, different]

end Conditions

/-- The pattern of the data model is that of the collector. -/
theorem isSecretReference_codePoints (text : String) :
    isSecretReference (codePoints text) = isSecretRef text := by
  have among (rest : List Char) : CodePoint.ofChar '\x7d' ∈ rest.map CodePoint.ofChar ↔
      '\x7d' ∈ rest := List.mem_map_of_injective CodePoint.ofChar_injective
  simp [isSecretReference, isSecretRef, codePoints, isPrefixOf_codePoints, ← List.map_drop,
    ← List.map_dropLast, CodePoint.ofChar_injective.eq_iff, among]

/-- The secret references of a configuration. -/
def McpPortalConfig.secretRefs (config : McpPortalConfig) : List SecretRef :=
  config.upstreams.flatMap fun upstream =>
    upstream.2.outbound.value.toList ++ upstream.2.outbound.clientSecret.toList

/-- A configuration error, or a configuration with all its secrets. -/
def EndsAsDocumented : Except LoadRaised LoadedFiles → Prop
  | .ok loaded => ∀ ref ∈ loaded.config.secretRefs, codePoints ref.text ∈ Dict.keys loaded.secrets
  | .error error => error.isConfigError = true

theorem endsAsDocumented_iff {outcome : Except LoadRaised LoadedFiles} :
    EndsAsDocumented outcome ↔ ¬Uncaught LoadRaised.isConfigError outcome ∧
      ∀ loaded, outcome = .ok loaded →
        ∀ ref ∈ loaded.config.secretRefs, codePoints ref.text ∈ Dict.keys loaded.secrets := by
  cases outcome <;> simp [EndsAsDocumented]

section Outcome

variable (world : LoadWorld) (unicode : PyUnicode) (path : PurePath)

/-- What a path validates to. -/
structure Accepted (raw : RawData) (validated : ValidatedConfig) : Prop where
  data : DataAt world (codePoints (world.resolve path).text) raw
  valid : world.validateConfig raw = .ok validated
  headers : checkHeaderDenylist unicode validated.config = .ok ()

/-- The policy file at a path is there and valid. -/
def PolicyLoads (file : CodePoints) (baseDir : PurePath) : Prop :=
  ∃ raw policy, DataAt world (fileName baseDir file) raw ∧
    world.validatePolicy raw = .ok policy

/-- Whatever is read decodes and parses, names can be encoded, the data does not hold itself up to
the first secret that is missing, and secret references are given as texts. -/
structure LoadsSafely : Prop where
  config : ReadsData world (codePoints (world.resolve path).text)
  secrets : ∀ raw validated, Accepted world unicode path raw validated →
    ∀ earlier visit later, raw.visits = earlier ++ visit :: later →
      (∀ before ∈ earlier, before.Resolves world (world.resolve path).parent) →
        visit.Safe world (world.resolve path).parent
  policy : ∀ raw validated, Accepted world unicode path raw validated →
    (∀ visit ∈ raw.visits, visit.Resolves world (world.resolve path).parent) →
      ∀ file ∈ validated.policyFile,
        ReadsData world (fileName (world.resolve path).parent file)
  asText : ∀ raw validated, Accepted world unicode path raw validated →
    (∀ visit ∈ raw.visits, visit.Resolves world (world.resolve path).parent) →
      (∀ file ∈ validated.policyFile, PolicyLoads world file (world.resolve path).parent) →
        ∀ ref ∈ validated.config.secretRefs, .text (codePoints ref.text) ∈ raw.visits

variable {world unicode path}

theorem loadPolicy_eq_ok {policyFile : Option CodePoints} {baseDir : PurePath} :
    (∃ policy, loadPolicy world policyFile baseDir = .ok policy) ↔
      ∀ file ∈ policyFile, PolicyLoads world file baseDir := by
  cases policyFile with
  | none => simp [loadPolicy, pure, Except.pure]
  | some file =>
      simp only [loadPolicy, loadPolicyFile, map_eq_ok, bind_eq_ok, readData_eq_ok,
        mapError_eq_ok, Option.mem_def, Option.some.injEq, forall_eq', PolicyLoads]
      constructor
      · rintro ⟨_, policy, ⟨raw, dataAt, valid⟩, _⟩
        exact ⟨raw, policy, dataAt, valid⟩
      · rintro ⟨raw, policy, dataAt, valid⟩
        exact ⟨_, policy, ⟨raw, dataAt, valid⟩, rfl⟩

theorem uncaught_loadPolicy {policyFile : Option CodePoints} {baseDir : PurePath} :
    Uncaught LoadRaised.isConfigError (loadPolicy world policyFile baseDir) ↔
      ¬∀ file ∈ policyFile, ReadsData world (fileName baseDir file) := by
  cases policyFile with
  | none => simp [loadPolicy]
  | some file =>
      have noValidation : ∀ raw, ¬Uncaught LoadRaised.isConfigError
          ((world.validatePolicy raw).mapError fun reason =>
            LoadRaised.configError (.invalidPolicy (fileName baseDir file) reason)) := by
        intro raw
        cases world.validatePolicy raw <;> simp [Except.mapError, LoadRaised.isConfigError]
      have mapped {outcome : Except LoadRaised PolicyConfig} :
          Uncaught LoadRaised.isConfigError (outcome.map some) ↔
            Uncaught LoadRaised.isConfigError outcome := uncaught_map
      simp [loadPolicy, mapped, loadPolicyFile, uncaught_bind, uncaught_readData, noValidation]

/-- The secrets are collected unless a secret before is missing. -/
theorem uncaught_collectSecrets {baseDir : PurePath} {raw : RawData} :
    Uncaught LoadRaised.isConfigError (collectSecrets world baseDir raw []) ↔
      ¬∀ earlier visit later, raw.visits = earlier ++ visit :: later →
        (∀ before ∈ earlier, before.Resolves world baseDir) → visit.Safe world baseDir := by
  rw [collectSecrets_eq_foldlM,
    uncaught_foldlM_iff exists_collectVisit_eq_ok uncaught_collectVisit]
  push Not
  rfl

theorem accepted_iff {raw : RawData} {validated : ValidatedConfig} :
    Accepted world unicode path raw validated ↔
      readData world (codePoints (world.resolve path).text) = .ok raw ∧ world.validateConfig raw = .ok validated ∧
        checkHeaderDenylist unicode validated.config = .ok () := by
  rw [readData_eq_ok]
  exact ⟨fun accepted => ⟨accepted.data, accepted.valid, accepted.headers⟩,
    fun ⟨data, valid, headers⟩ => ⟨data, valid, headers⟩⟩

theorem loadConfig_eq_ok {loaded : LoadedFiles} :
    loadConfig world unicode path = .ok loaded ↔
      ∃ raw validated, Accepted world unicode path raw validated ∧
        ∃ secrets, collectSecrets world (world.resolve path).parent raw [] = .ok secrets ∧
          ∃ policy, loadPolicy world validated.policyFile (world.resolve path).parent = .ok policy ∧
            { config := validated.config, baseDir := (world.resolve path).parent, secrets,
              policy } = loaded := by
  simp only [loadConfig, bind_eq_ok, mapError_eq_ok, pure_eq_ok, accepted_iff]
  constructor
  · rintro ⟨raw, data, validated, valid, _, headers, rest⟩
    exact ⟨raw, validated, ⟨data, valid, headers⟩, rest⟩
  · rintro ⟨raw, validated, ⟨data, valid, headers⟩, rest⟩
    exact ⟨raw, data, validated, valid, (), headers, rest⟩

theorem uncaught_loadConfig :
    Uncaught LoadRaised.isConfigError (loadConfig world unicode path) ↔
      ¬ReadsData world (codePoints (world.resolve path).text) ∨
        ∃ raw validated, Accepted world unicode path raw validated ∧
          (Uncaught LoadRaised.isConfigError
              (collectSecrets world (world.resolve path).parent raw []) ∨
            ∃ secrets, collectSecrets world (world.resolve path).parent raw [] = .ok secrets ∧
              Uncaught LoadRaised.isConfigError
                (loadPolicy world validated.policyFile (world.resolve path).parent)) := by
  have noValidation : ∀ raw, ¬Uncaught LoadRaised.isConfigError
      ((world.validateConfig raw).mapError fun reason =>
        LoadRaised.configError (.invalidConfig (world.resolve path) reason)) := by
    intro raw
    cases world.validateConfig raw <;> simp [Except.mapError, LoadRaised.isConfigError]
  have noHeaders : ∀ config, ¬Uncaught LoadRaised.isConfigError
      ((checkHeaderDenylist unicode config).mapError fun error =>
        LoadRaised.configError (.denylisted error)) := by
    intro config
    cases checkHeaderDenylist unicode config <;> simp [Except.mapError, LoadRaised.isConfigError]
  simp only [loadConfig, uncaught_bind, uncaught_readData, noValidation, noHeaders, false_or,
    mapError_eq_ok, accepted_iff, uncaught_pure, and_false, exists_false, or_false]
  apply or_congr_right
  constructor
  · rintro ⟨raw, data, validated, valid, _, headers, rest⟩
    exact ⟨raw, validated, ⟨data, valid, headers⟩, rest⟩
  · rintro ⟨raw, validated, ⟨data, valid, headers⟩, rest⟩
    exact ⟨raw, data, validated, valid, (), headers, rest⟩

theorem exists_collectSecrets_eq_ok {baseDir : PurePath} {raw : RawData} :
    (∃ secrets, collectSecrets world baseDir raw [] = .ok secrets) ↔
      ∀ visit ∈ raw.visits, visit.Resolves world baseDir := by
  simp only [collectSecrets_eq_foldlM]
  exact exists_foldlM_eq_ok_iff exists_collectVisit_eq_ok

/-- Loading ends with a configuration error or with all secrets exactly when it is safe. -/
theorem loadConfig_endsAsDocumented_iff :
    EndsAsDocumented (loadConfig world unicode path) ↔ LoadsSafely world unicode path := by
  rw [endsAsDocumented_iff, uncaught_loadConfig]
  constructor
  · rintro ⟨noneRaised, complete⟩
    rw [not_or, not_not] at noneRaised
    rcases noneRaised with ⟨config, noneLater⟩
    refine ⟨config, ?_, ?_, ?_⟩
    · intro raw validated accepted
      by_contra unsafeSecret
      exact noneLater ⟨raw, validated, accepted, Or.inl (uncaught_collectSecrets.mpr unsafeSecret)⟩
    · intro raw validated accepted resolve
      by_contra unsafePolicy
      rcases exists_collectSecrets_eq_ok.mpr resolve with ⟨secrets, collected⟩
      exact noneLater ⟨raw, validated, accepted,
        Or.inr ⟨secrets, collected, uncaught_loadPolicy.mpr unsafePolicy⟩⟩
    · intro raw validated accepted resolve policyLoads ref refMem
      rcases exists_collectSecrets_eq_ok.mpr resolve with ⟨secrets, collected⟩
      rcases loadPolicy_eq_ok.mpr policyLoads with ⟨policy, loads⟩
      have collectedRef := complete _
        (loadConfig_eq_ok.mpr ⟨raw, validated, accepted, secrets, collected, policy, loads, rfl⟩)
        ref refMem
      have isRef := (isSecretReference_codePoints ref.text).trans ref.isRef
      rw [collectSecrets_eq_foldlM] at collected
      simpa using (mem_keys_collected collected isRef).mp collectedRef
  · intro safe
    constructor
    · rintro (config | ⟨raw, validated, accepted, secrets | ⟨secrets, collected, policy⟩⟩)
      · exact config safe.config
      · exact uncaught_collectSecrets.mp secrets (safe.secrets raw validated accepted)
      · have resolve := exists_collectSecrets_eq_ok.mp ⟨secrets, collected⟩
        exact uncaught_loadPolicy.mp policy (safe.policy raw validated accepted resolve)
    · intro loaded loads ref refMem
      rcases loadConfig_eq_ok.mp loads with
        ⟨raw, validated, accepted, secrets, collected, policy, policyLoads, rfl⟩
      have resolve := exists_collectSecrets_eq_ok.mp ⟨secrets, collected⟩
      have visited := safe.asText raw validated accepted resolve
        (loadPolicy_eq_ok.mp ⟨policy, policyLoads⟩) ref refMem
      have isRef := (isSecretReference_codePoints ref.text).trans ref.isRef
      rw [collectSecrets_eq_foldlM] at collected
      exact (mem_keys_collected collected isRef).mpr (Or.inr visited)

end Outcome

/-- The only file is `/srv/portal.yaml`, and it holds `a: [`. -/
private def openList : LoadWorld where
  resolve := id
  environ _ := none
  openFile name :=
    if name = codePoints "/srv/portal.yaml" then
      .ok ("a: [".toList.map fun char => char.toNat.toUInt8)
    else .error "[Errno 2] No such file or directory"
  decode bytes := .ok (String.ofList (bytes.map fun byte => Char.ofNat byte.toNat))
  json _ := .error (.decodeError "Expecting value: line 1 column 1 (char 0)")
  yaml text :=
    if text = "a: [" then .error "expected the node content, but found '<stream end>'"
    else .ok (.other "")
  validateConfig _ := .error "Input should be a valid dictionary"
  validatePolicy _ := .error "Input should be a valid dictionary"

/-- The exception for malformed YAML leaves the load, the one for malformed JSON does not. -/
theorem not_endsAsDocumented_openList :
    ¬EndsAsDocumented (loadConfig openList asciiTables (.ofText "/srv/portal.yaml")) := by
  have raised : loadConfig openList asciiTables (.ofText "/srv/portal.yaml") =
      .error (.yamlError "expected the node content, but found '<stream end>'") := by rfl
  rw [raised]
  simp [EndsAsDocumented, LoadRaised.isConfigError]

end McpPortal
