import McpPortal.Config.Policy
import McpPortal.Foundation.Validate

/-!
# Reading and writing the policy file

`modelValidate` is the validation of decoded policy data, in which unknown fields
are errors at every level. `modelDump` writes a rule back without the fields that
are absent. What is dumped validates to the rule it came from.
-/

namespace McpPortal

open Foundation

namespace AuthorizationDetailRequirement

def dumpFields (requirement : AuthorizationDetailRequirement) : List (String × Option Json) :=
  [ ("type", some (.str requirement.type)),
    ("actions", requirement.actions.map fun values => .arr (values.map .str)),
    ("locations", requirement.locations.map fun values => .arr (values.map .str)),
    ("datatypes", requirement.datatypes.map fun values => .arr (values.map .str)),
    ("identifier", requirement.identifier.map .str),
    ("privileges", requirement.privileges.map fun values => .arr (values.map .str)) ]

def modelDump (requirement : AuthorizationDetailRequirement) : Json :=
  .obj (Dict.present requirement.dumpFields)

def modelValidate : Validator AuthorizationDetailRequirement
  | .obj fields =>
      if !Validator.onlyFields
          ["type", "actions", "locations", "datatypes", "identifier", "privileges"] fields then
        none
      else do
        let strings := Validator.nullable (Validator.list Validator.string)
        let type ← Validator.required fields "type" Validator.string
        let actions ← Validator.withDefault fields "actions" strings none
        let locations ← Validator.withDefault fields "locations" strings none
        let datatypes ← Validator.withDefault fields "datatypes" strings none
        let identifier ←
          Validator.withDefault fields "identifier" (Validator.nullable Validator.string) none
        let privileges ← Validator.withDefault fields "privileges" strings none
        if nonEmpty : ∀ value ∈ [actions, locations, datatypes, privileges], value ≠ some [] then
          some
            { type, actions, locations, datatypes, identifier, privileges
              nonEmptyWhenPresent := nonEmpty }
        else none
  | _ => none

theorem nodup_dumpFields (requirement : AuthorizationDetailRequirement) :
    (Dict.keys requirement.dumpFields).Nodup := by
  simp [dumpFields]

theorem strings_present {requirement : AuthorizationDetailRequirement} {name : String}
    {values : Option (List String)}
    (written : Dict.get? requirement.dumpFields name =
      some (values.map fun texts => .arr (texts.map .str))) :
    Validator.withDefault (Dict.present requirement.dumpFields) name
      (Validator.nullable (Validator.list Validator.string)) none = some values := by
  apply Validator.nullable_present (nodup_dumpFields requirement) written
  · intro texts _
    exact Validator.list_strings texts
  · simp

@[simp]
theorem modelValidate_modelDump (requirement : AuthorizationDetailRequirement) :
    modelValidate requirement.modelDump = some requirement := by
  have unique := nodup_dumpFields requirement
  have type : Validator.required (Dict.present requirement.dumpFields) "type" Validator.string
      = some requirement.type := Validator.required_present unique rfl rfl
  have identifier : Validator.withDefault (Dict.present requirement.dumpFields) "identifier"
      (Validator.nullable Validator.string) none = some requirement.identifier :=
    Validator.nullable_present unique rfl (fun _ _ => rfl) (by simp)
  have actions := strings_present (rfl : Dict.get? requirement.dumpFields "actions" = _)
  have locations := strings_present (rfl : Dict.get? requirement.dumpFields "locations" = _)
  have datatypes := strings_present (rfl : Dict.get? requirement.dumpFields "datatypes" = _)
  have privileges := strings_present (rfl : Dict.get? requirement.dumpFields "privileges" = _)
  have only : Validator.onlyFields
      ["type", "actions", "locations", "datatypes", "identifier", "privileges"]
      (Dict.present requirement.dumpFields) = true := Validator.onlyFields_present rfl
  simp only [modelDump, modelValidate, only, type, actions, locations, datatypes, identifier,
    privileges, Bool.not_true, Bool.false_eq_true, if_false, Option.bind_eq_bind, Option.bind_some]
  exact dif_pos requirement.nonEmptyWhenPresent

end AuthorizationDetailRequirement

namespace RequireConfig

def modelDump (require : RequireConfig) : Json :=
  .obj [("authorization_details", .arr (require.authorizationDetails.map (·.modelDump)))]

def modelValidate : Validator RequireConfig
  | .obj fields =>
      if !Validator.onlyFields ["authorization_details"] fields then none
      else do
        let details ← Validator.required fields "authorization_details"
          (Validator.list AuthorizationDetailRequirement.modelValidate)
        if nonEmpty : details ≠ [] then some { authorizationDetails := details, nonEmpty } else none
  | _ => none

@[simp]
theorem modelValidate_modelDump (require : RequireConfig) :
    modelValidate require.modelDump = some require := by
  have details : Validator.list AuthorizationDetailRequirement.modelValidate
      (.arr (require.authorizationDetails.map (·.modelDump))) = some require.authorizationDetails :=
    Validator.list_arr_map fun detail _ => detail.modelValidate_modelDump
  have only : Validator.onlyFields ["authorization_details"] [("authorization_details",
      .arr (require.authorizationDetails.map (·.modelDump)))] = true := rfl
  have listed : Validator.required [("authorization_details",
      .arr (require.authorizationDetails.map (·.modelDump)))] "authorization_details"
      (Validator.list AuthorizationDetailRequirement.modelValidate) =
        some require.authorizationDetails := details
  rw [modelDump, modelValidate, only, listed]
  exact dif_pos require.nonEmpty

end RequireConfig

namespace PolicyOutboundConfig

def modelDump (outbound : PolicyOutboundConfig) : Json :=
  .obj [("carry", .bool outbound.carry)]

def modelValidate : Validator PolicyOutboundConfig
  | .obj fields =>
      if !Validator.onlyFields ["carry"] fields then none
      else do
        let carry ← Validator.withDefault fields "carry" Validator.bool false
        some { carry }
  | _ => none

@[simp]
theorem modelValidate_modelDump (outbound : PolicyOutboundConfig) :
    modelValidate outbound.modelDump = some outbound := rfl

end PolicyOutboundConfig

/-- A member of a string enumeration. -/
def effectValue : Validator Effect
  | .str value => Effect.ofValue? value
  | _ => none

def sensitivityValue : Validator Sensitivity
  | .str value => Sensitivity.ofValue? value
  | _ => none

namespace PolicyMatchSpec

def modelDump (spec : PolicyMatchSpec) : Json :=
  .obj
    [ ("ids", .arr (spec.ids.map .str)),
      ("tags", .arr (spec.tags.map .str)),
      ("upstream", .arr (spec.upstream.map .str)),
      ("effect", .arr (spec.effect.map fun effect => .str effect.value)),
      ("sensitivity", .arr (spec.sensitivity.map fun sensitivity => .str sensitivity.value)) ]

def modelValidate : Validator PolicyMatchSpec
  | .obj fields =>
      if !Validator.onlyFields ["ids", "tags", "upstream", "effect", "sensitivity"] fields then none
      else do
        let strings := Validator.list Validator.string
        let ids ← Validator.withDefault fields "ids" strings []
        let tags ← Validator.withDefault fields "tags" strings []
        let upstream ← Validator.withDefault fields "upstream" strings []
        let effect ← Validator.withDefault fields "effect" (Validator.list effectValue) []
        let sensitivity ←
          Validator.withDefault fields "sensitivity" (Validator.list sensitivityValue) []
        some { ids, tags, upstream, effect, sensitivity }
  | _ => none

@[simp]
theorem modelValidate_modelDump (spec : PolicyMatchSpec) :
    modelValidate spec.modelDump = some spec := by
  have effects : Validator.list effectValue (.arr (spec.effect.map fun effect => .str effect.value))
      = some spec.effect :=
    Validator.list_arr_map fun effect _ => effect.ofValue?_value
  have sensitivities : Validator.list sensitivityValue
      (.arr (spec.sensitivity.map fun sensitivity => .str sensitivity.value))
      = some spec.sensitivity :=
    Validator.list_arr_map fun sensitivity _ => sensitivity.ofValue?_value
  have only : Validator.onlyFields ["ids", "tags", "upstream", "effect", "sensitivity"]
      [ ("ids", .arr (spec.ids.map .str)),
        ("tags", .arr (spec.tags.map .str)),
        ("upstream", .arr (spec.upstream.map .str)),
        ("effect", .arr (spec.effect.map fun effect => .str effect.value)),
        ("sensitivity", .arr (spec.sensitivity.map fun sensitivity => .str sensitivity.value)) ]
      = true := rfl
  simp only [modelDump, modelValidate, only, Validator.withDefault, Dict.get?, if_true, if_false,
    String.reduceEq, Validator.list_strings, effects, sensitivities, Bool.not_true,
    Bool.false_eq_true, Option.bind_some, Option.bind_eq_bind]

end PolicyMatchSpec

namespace PolicyRule

def dumpFields (rule : PolicyRule) : List (String × Option Json) :=
  [ ("match", some rule.spec.modelDump),
    ("require", rule.require.map (·.modelDump)),
    ("outbound", some rule.outbound.modelDump) ]

def modelDump (rule : PolicyRule) : Json :=
  .obj (Dict.present rule.dumpFields)

def modelValidate : Validator PolicyRule
  | .obj fields =>
      if !Validator.onlyFields ["match", "require", "outbound"] fields then none
      else do
        let spec ← Validator.required fields "match" PolicyMatchSpec.modelValidate
        let require ← Validator.withDefault fields "require"
          (Validator.nullable RequireConfig.modelValidate) none
        let outbound ←
          Validator.withDefault fields "outbound" PolicyOutboundConfig.modelValidate {}
        some { spec, require, outbound }
  | _ => none

@[simp]
theorem modelValidate_modelDump (rule : PolicyRule) :
    modelValidate rule.modelDump = some rule := by
  have unique : (Dict.keys rule.dumpFields).Nodup := by simp [dumpFields]
  have only : Validator.onlyFields ["match", "require", "outbound"] (Dict.present rule.dumpFields)
      = true := Validator.onlyFields_present rfl
  have spec : Validator.required (Dict.present rule.dumpFields) "match"
      PolicyMatchSpec.modelValidate = some rule.spec :=
    Validator.required_present unique rfl rule.spec.modelValidate_modelDump
  have require : Validator.withDefault (Dict.present rule.dumpFields) "require"
      (Validator.nullable RequireConfig.modelValidate) none = some rule.require := by
    apply Validator.nullable_present unique rfl
    · intro inner _
      exact inner.modelValidate_modelDump
    · intro inner _ null
      cases null
  have outbound : Validator.withDefault (Dict.present rule.dumpFields) "outbound"
      PolicyOutboundConfig.modelValidate {} = some rule.outbound :=
    Validator.withDefault_present unique rfl rule.outbound.modelValidate_modelDump
  simp only [modelDump, modelValidate, only, spec, require, outbound, Bool.not_true,
    Bool.false_eq_true, if_false, Option.bind_some, Option.bind_eq_bind]

end PolicyRule

def Unmatched.value : Unmatched → String
  | .allow => "allow"
  | .deny => "deny"

def unmatchedValue : Validator Unmatched
  | .str "allow" => some .allow
  | .str "deny" => some .deny
  | _ => none

def PolicyDefaults.modelValidate : Validator PolicyDefaults
  | .obj fields =>
      if !Validator.onlyFields ["unmatched"] fields then none
      else do
        let unmatched ← Validator.withDefault fields "unmatched" unmatchedValue .allow
        some { unmatched }
  | _ => none

def versionValue : Validator Unit
  | .str "1" => some ()
  | _ => none

/-- `PolicyConfig.model_validate`. -/
def PolicyConfig.modelValidate : Validator PolicyConfig
  | .obj fields =>
      if !Validator.onlyFields ["version", "defaults", "rules"] fields then none
      else do
        Validator.required fields "version" versionValue
        let defaults ← Validator.withDefault fields "defaults" PolicyDefaults.modelValidate {}
        let rules ←
          Validator.withDefault fields "rules" (Validator.list PolicyRule.modelValidate) []
        if requireLessForbidden :
            defaults.unmatched = .deny → ∀ rule ∈ rules, rule.require ≠ none then
          some { defaults, rules, requireLessRuleForbiddenUnderDeny := requireLessForbidden }
        else none
  | _ => none

end McpPortal
