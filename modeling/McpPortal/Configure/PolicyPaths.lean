import Mathlib.Logic.Function.Basic
import McpPortal.Config.Loading
import McpPortal.Configure.Run
import McpPortal.Configure.Transcript

/-!
# Where the policy is written and where it is read

A run writes the policy to a path and the path into the configuration. It writes to a
relative path from the working directory, and the loader reads a relative path from the
directory of the configuration. What is read is the policy that was written if both paths
lead to the same file, and the configuration is not written over it.
-/

namespace McpPortal

open Foundation

/-- The paths of a process. A file may be reached by several of them. -/
structure ProcessPaths (File : Type) where
  cwd : PurePath
  /-- `path.resolve()`. -/
  resolve : PurePath → PurePath
  /-- The file that an absolute path leads to. -/
  locate : PurePath → File
  resolve_isAbsolute : ∀ path, (resolve path).isAbsolute = true
  resolve_wellFormed : ∀ path, path.WellFormed → (resolve path).WellFormed

/-- `_default_policy_path`. -/
def defaultPolicyPath (configPath : PurePath) (loadedPolicyFile : Option String) : PurePath :=
  match loadedPolicyFile with
  | some file => resolvedAgainst configPath.parent (.ofText file)
  | none =>
      let suffix := if configPath.suffix = ".json".toList then ".json" else ".yaml"
      configPath.parent.join (.ofText ("policy" ++ suffix))

section Paths

variable {File : Type} (paths : ProcessPaths File)

/-- The absolute path of what a process reads or writes at a path. -/
def ProcessPaths.absolute (path : PurePath) : PurePath :=
  resolvedAgainst paths.cwd path

def ProcessPaths.reach (path : PurePath) : File :=
  paths.locate (paths.absolute path)

/-- `load_config(path).base_dir`. -/
def ProcessPaths.baseDir (configPath : PurePath) : PurePath :=
  (paths.resolve configPath).parent

/-- The path the policy is written to, given `--policy` and the reference of the loaded config. -/
def policyPath (configPath : PurePath) (argument existing : Option String) : PurePath :=
  match argument with
  | some text => .ofText text
  | none => defaultPolicyPath (paths.resolve configPath) existing

end Paths

theorem isAbsolute_defaultPolicyPath {configPath : PurePath}
    (absolute : configPath.isAbsolute = true) (existing : Option String) :
    (defaultPolicyPath configPath existing).isAbsolute = true := by
  cases existing with
  | some file =>
      have parentAbsolute : configPath.parent.isAbsolute = true := absolute
      exact isAbsolute_resolvedAgainst parentAbsolute _
  | none => exact absolute

theorem wellFormed_defaultPolicyPath {configPath : PurePath} (wellFormed : configPath.WellFormed)
    (existing : Option String) : (defaultPolicyPath configPath existing).WellFormed := by
  cases existing with
  | some file =>
      exact wellFormed_resolvedAgainst wellFormed.parent (PurePath.wellFormed_ofText file)
  | none => exact wellFormed.parent.join (PurePath.wellFormed_ofText _)

/-- What a run writes to a file. -/
inductive Rendered where
  | policy (data : Json)
  | config (data : JsonObject)

/-- What the files hold that a run has written. -/
def filesAfter {File : Type} [DecidableEq File] (policyFile configFile : File) (policyData : Json)
    (configData : JsonObject) : Written → File → Option Rendered
  | .nothing => fun _ => none
  | .policyOnly => Function.update (fun _ => none) policyFile (some (.policy policyData))
  | .both =>
      Function.update (Function.update (fun _ => none) policyFile (some (.policy policyData)))
        configFile (some (.config configData))

/-- The dumped configuration with what a run puts in. -/
def renderConfigData (dump : JsonObject) (operations upstreams : Json) (policyPath : PurePath) :
    JsonObject :=
  let configured := Dict.insert dump "mode" (.str "configured")
  let withOperations := Dict.insert configured "operations" operations
  let withPolicy := Dict.insert withOperations "policy" (.obj [("file", .str policyPath.text)])
  Dict.insert withPolicy "upstreams" upstreams

/-- `config.policy.file` of written data. -/
def policyReference? (config : JsonObject) : Option String :=
  match Dict.get? config "policy" with
  | some (.obj policy) => (Dict.get? policy "file").bind Json.string?
  | _ => none

theorem policyReference?_renderConfigData (dump : JsonObject) (operations upstreams : Json)
    (policyPath : PurePath) :
    policyReference? (renderConfigData dump operations upstreams policyPath) =
      some policyPath.text := by
  have found : Dict.get? (renderConfigData dump operations upstreams policyPath) "policy" =
      some (.obj [("file", .str policyPath.text)]) := by
    rw [renderConfigData, Dict.get?_insert_of_ne _ _ (by decide), Dict.get?_insert_self]
  rw [policyReference?, found]
  rfl

section Reference

variable {File State : Type} [DecidableEq File] (paths : ProcessPaths File)
  (prompter : Prompter State) (state : State) (configText : String) (argument existing : Option String)
  (policyData : Json) (dump : JsonObject) (operations upstreams : Json)

/-- The files once a run has asked whether to write them. -/
def filesWritten : File → Option Rendered :=
  let configPath := PurePath.ofText configText
  let policyPath := policyPath paths configPath argument existing
  filesAfter (paths.reach policyPath) (paths.reach configPath) policyData
    (renderConfigData dump operations upstreams policyPath)
    (confirmWrites prompter policyPath.text configPath.text state).1

/-- The reference in the written configuration leads to the policy that was written. -/
def PointsAtPolicy : Prop :=
  let configPath := PurePath.ofText configText
  let policyPath := policyPath paths configPath argument existing
  ∃ file, policyReference? (renderConfigData dump operations upstreams policyPath) = some file ∧
    filesWritten paths prompter state configText argument existing policyData dump operations
      upstreams (paths.locate (loadedPolicyPath file (paths.baseDir configPath))) = some (.policy policyData)

/-- A relative argument leads to the same file from the configuration's directory as from the
working directory, and the policy is not written to the file of the configuration. -/
structure ReferenceAgrees : Prop where
  relative : ∀ text, argument = some text → (PurePath.ofText text).isAbsolute = false →
    paths.locate ((paths.baseDir (.ofText configText)).join (.ofText text)) =
      paths.locate (paths.cwd.join (.ofText text))
  apart : paths.reach (policyPath paths (.ofText configText) argument existing) ≠
    paths.reach (.ofText configText)

variable {paths prompter state configText argument existing policyData dump operations upstreams}

omit [DecidableEq File] in
/-- The written reference is read as the path that was written. -/
theorem loadedPolicyPath_text (baseDir : PurePath) :
    loadedPolicyPath (policyPath paths (.ofText configText) argument existing).text baseDir =
      resolvedAgainst baseDir (policyPath paths (.ofText configText) argument existing) := by
  have wellFormed : (policyPath paths (.ofText configText) argument existing).WellFormed := by
    cases argument with
    | some text => exact PurePath.wellFormed_ofText text
    | none =>
        exact wellFormed_defaultPolicyPath
          (paths.resolve_wellFormed _ (PurePath.wellFormed_ofText configText)) existing
  rw [loadedPolicyPath, PurePath.ofText_text wellFormed]

omit [DecidableEq File] in
/-- Both paths lead to one file unless a relative argument leads elsewhere. -/
theorem locate_loaded_iff :
    paths.locate (resolvedAgainst (paths.baseDir (.ofText configText))
        (policyPath paths (.ofText configText) argument existing)) =
      paths.reach (policyPath paths (.ofText configText) argument existing) ↔
    ∀ text, argument = some text → (PurePath.ofText text).isAbsolute = false →
      paths.locate ((paths.baseDir (.ofText configText)).join (.ofText text)) =
        paths.locate (paths.cwd.join (.ofText text)) := by
  cases argument with
  | none =>
      have absolute : (policyPath paths (.ofText configText) none existing).isAbsolute = true :=
        isAbsolute_defaultPolicyPath (paths.resolve_isAbsolute _) existing
      rw [ProcessPaths.reach, ProcessPaths.absolute, resolvedAgainst_of_isAbsolute absolute,
        resolvedAgainst_of_isAbsolute absolute]
      simp
  | some text =>
      simp only [policyPath, ProcessPaths.reach, ProcessPaths.absolute, resolvedAgainst,
        Option.some.injEq, forall_eq']
      by_cases absolute : (PurePath.ofText text).isAbsolute = true <;> simp [absolute]

/-- The configuration points at the policy that was written exactly when the two ways to read its
reference agree. -/
theorem pointsAtPolicy_iff
    (wrote : (confirmWrites prompter
      (policyPath paths (.ofText configText) argument existing).text
      (PurePath.ofText configText).text state).1 = .both) :
    PointsAtPolicy paths prompter state configText argument existing policyData dump operations
        upstreams ↔ ReferenceAgrees paths configText argument existing := by
  have located := @locate_loaded_iff File paths configText argument existing
  have holds : PointsAtPolicy paths prompter state configText argument existing policyData dump
      operations upstreams ↔
        filesAfter (paths.reach (policyPath paths (.ofText configText) argument existing))
          (paths.reach (.ofText configText)) policyData
          (renderConfigData dump operations upstreams
            (policyPath paths (.ofText configText) argument existing)) .both
          (paths.locate (resolvedAgainst (paths.baseDir (.ofText configText))
            (policyPath paths (.ofText configText) argument existing))) =
              some (.policy policyData) := by
    simp only [PointsAtPolicy, policyReference?_renderConfigData, Option.some.injEq,
      exists_eq_left', loadedPolicyPath_text, filesWritten, wrote]
  rw [holds]
  generalize paths.locate (resolvedAgainst (paths.baseDir (.ofText configText))
    (policyPath paths (.ofText configText) argument existing)) = readFile at *
  constructor
  · intro isPolicy
    simp only [filesAfter] at isPolicy
    by_cases isConfig : readFile = paths.reach (.ofText configText)
    · subst isConfig
      rw [Function.update_self] at isPolicy
      cases isPolicy
    · rw [Function.update_of_ne isConfig] at isPolicy
      by_cases same :
          readFile = paths.reach (policyPath paths (.ofText configText) argument existing)
      · exact ⟨located.mp same, same ▸ isConfig⟩
      · rw [Function.update_of_ne same] at isPolicy
        cases isPolicy
  · intro agrees
    have same := located.mpr agrees.relative
    rw [same, filesAfter, Function.update_of_ne agrees.apart, Function.update_self]

end Reference

/-- A file system without links, seen from a working directory. -/
def plainPaths (cwd : PurePath) (absolute : cwd.isAbsolute = true)
    (wellFormed : cwd.WellFormed) : ProcessPaths PurePath where
  cwd
  resolve := resolvedAgainst cwd
  locate := id
  resolve_isAbsolute := isAbsolute_resolvedAgainst absolute
  resolve_wellFormed _ := wellFormed_resolvedAgainst wellFormed

/-- The working directory is `/srv`. -/
private def srvPaths : ProcessPaths PurePath :=
  plainPaths (.ofText "/srv") (by decide) (PurePath.wellFormed_ofText _)

theorem pointsAtPolicy_iff_kept :
    PointsAtPolicy srvPaths .proposing () "conf/portal.yaml" none (some "rules/portal.yaml")
      (renderPolicy [] none) [] (.arr []) (.obj []) ↔
        ReferenceAgrees srvPaths "conf/portal.yaml" none (some "rules/portal.yaml") :=
  pointsAtPolicy_iff (by rfl)

/-- `--policy policy.yaml` is written in the working directory and read next to the
configuration. -/
theorem not_pointsAtPolicy_relative :
    (confirmWrites .proposing
      (policyPath srvPaths (.ofText "conf/portal.yaml") (some "policy.yaml") none).text
      (PurePath.ofText "conf/portal.yaml").text ()).1 = .both ∧
    srvPaths.reach (policyPath srvPaths (.ofText "conf/portal.yaml") (some "policy.yaml") none) =
      .ofText "/srv/policy.yaml" ∧
    srvPaths.locate
      (loadedPolicyPath "policy.yaml" (srvPaths.baseDir (.ofText "conf/portal.yaml"))) =
        .ofText "/srv/conf/policy.yaml" ∧
    ¬ PointsAtPolicy srvPaths .proposing () "conf/portal.yaml" (some "policy.yaml") none
      (renderPolicy [] none) [] (.arr []) (.obj []) := by
  refine ⟨by decide, by decide, by decide, ?_⟩
  rintro ⟨file, referenced, read⟩
  rw [policyReference?_renderConfigData] at referenced
  have isText : file = "policy.yaml" := by
    rw [← Option.some.inj referenced]
    decide
  subst isText
  have nothingRead : (filesWritten srvPaths .proposing () "conf/portal.yaml" (some "policy.yaml")
      none (renderPolicy [] none) [] (.arr []) (.obj []) (srvPaths.locate (loadedPolicyPath "policy.yaml"
        (srvPaths.baseDir (.ofText "conf/portal.yaml"))))).isNone = true := by decide
  rw [read] at nothingRead
  cases nothingRead

end McpPortal
