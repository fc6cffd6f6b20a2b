import StudentSuccess.Models
import StudentSuccess.IsoText
import StudentSuccess.PyText
import StudentSuccess.Thresholds

namespace StudentSuccess
namespace Bootstrap
set_option autoImplicit true
open IsoText

def validBootstrapModes : List String :=
  ["SHADOW", "LIVE", "REPLAY", "REGENERATION", "DEGRADED", "MAINTENANCE"]

def replayBootstrapModes : List String := ["REPLAY", "REGENERATION"]

def degradeConfigV2Unavailable : String := "CONFIG_V2_UNAVAILABLE"

def degradeConfigV2NoActive : String := "CONFIG_V2_NO_ACTIVE_VERSION"

def degradeConfigV2MultipleActive : String := "CONFIG_V2_MULTIPLE_ACTIVE_VERSIONS"

def degradeExecutionModeInvalid : String := "EXECUTION_MODE_INVALID"

def degradeAttributionIncomplete : String := "ATTRIBUTION_INCOMPLETE"

def unknownV0 : String := "UNKNOWN_V0"

def requiredBootstrapAttribution : List String :=
  ["origin_source", "origin_authority", "attribution_timestamp"]

/-- A row of `config_version_registry`, of the columns that the startup reads. -/
structure ConfigVersionRegistry where
  id : Int
  versionNumber : Int
  status : String

/-- What the startup makes of a row of the registry. -/
structure ConfigVersionRow where
  versionId : String
  id : Int
  versionNumber : Int
  status : String

def activeRows (registry : List ConfigVersionRegistry) : List ConfigVersionRegistry :=
  registry.filter (·.status = "ACTIVE")

/-- `load_active_config_versions`; the query fails with a text, or sees the registry. -/
def loadActiveConfigVersions (registry : Except String (List ConfigVersionRegistry)) :
    List ConfigVersionRow :=
  match registry with
  | .ok rows =>
    (activeRows rows).map fun row => ⟨toString row.versionNumber, row.id, row.versionNumber,
      row.status⟩
  | .error _ => []

structure DbState where
  configVersionRegistryExists : Bool := false
  activeConfigCount : Nat := 0
  activeConfigVersionNumber : Option Int := none
  alembicCurrentRevision : Option String := none
  verificationError : Option String := none

/-- What the statements of the verification meet: the number of tables of the registry's name,
the registry and the revision. -/
structure Verification where
  tables : Except String Nat
  registry : Except String (List ConfigVersionRegistry)
  revision : Except String (Option String)

def DbState.revised (state : DbState) : Except String (Option String) → DbState
  | .ok revision => { state with alembicCurrentRevision := revision }
  | .error _ => state

def singleVersion : List ConfigVersionRegistry → Option Int
  | [row] => some row.versionNumber
  | _ => none

def verifyStartupDbState (seen : Verification) : DbState :=
  match seen.tables with
  | .error exc => { verificationError := some exc }
  | .ok 0 => DbState.revised {} seen.revision
  | .ok (_ + 1) =>
    match seen.registry with
    | .error exc => { configVersionRegistryExists := true, verificationError := some exc }
    | .ok rows =>
      let state : DbState :=
        { configVersionRegistryExists := true
          activeConfigCount := (activeRows rows).length
          activeConfigVersionNumber := singleVersion (activeRows rows) }
      state.revised seen.revision

/-- The resolved mode and whether it was a valid one, and the codes with the one it adds. -/
def classifyExecutionMode (executionMode : String) (codes : List String) :
    (String × Bool) × List String :=
  if executionMode ∈ validBootstrapModes then ((executionMode, true), codes)
  else (("SHADOW", false), codes ++ [degradeExecutionModeInvalid])

def deriveGovernanceScope (executionMode : String) : String :=
  if executionMode ∈ replayBootstrapModes then "REPLAY_ONLY"
  else if executionMode = "MAINTENANCE" then "MAINTENANCE"
  else if executionMode = "DEGRADED" then "DEGRADED"
  else "SHADOW_ONLY"

def classifyStartup (executionMode : String) (degradationCodes : List String) : String :=
  if degradationCodes ≠ [] then "DEGRADED"
  else if executionMode ∈ replayBootstrapModes then "REPLAY_SAFE"
  else if executionMode = "MAINTENANCE" then "MAINTENANCE"
  else "SHADOW_SAFE"

/-- `version_id or id or str(cfg)`; `str_` is the text of the dataclass. -/
def ConfigVersionRow.text (str_ : ConfigVersionRow → String) (cfg : ConfigVersionRow) : String :=
  if cfg.versionId ≠ "" then cfg.versionId
  else if cfg.id ≠ 0 then toString cfg.id
  else str_ cfg

def validateConfigV2 (str_ : ConfigVersionRow → String)
    (activeConfigs : Option (List ConfigVersionRow)) (codes : List String) :
    (String × Bool) × List String :=
  match activeConfigs with
  | none => ((unknownV0, false), codes ++ [degradeConfigV2Unavailable])
  | some [] => ((unknownV0, false), codes ++ [degradeConfigV2NoActive])
  | some [cfg] => ((cfg.text str_, true), codes)
  | some _ => ((unknownV0, false), codes ++ [degradeConfigV2MultipleActive])

def checkAttributionComplete : Option (List (String × Py.Value)) → Bool
  | none => false
  | some attribution =>
    !attribution.isEmpty &&
      requiredBootstrapAttribution.all fun k => ((Py.get? k attribution).getD .null).truthy

structure SchedulerTiming where
  triggerHour : Py.Value
  triggerMinute : Py.Value
  timezoneStr : String
  configSourced : Bool

def timingValue (ruleSet : RuleSet) (key : String) (fallback : Py.Value) : Py.Value :=
  match Py.get? key ruleSet with
  | none => fallback
  | some .null => fallback
  | some v => if isUnknownV0 v then fallback else v

def buildSchedulerTiming (configRuleSet : Option RuleSet) (fallbackHour fallbackMinute : Int)
    (fallbackTimezone : String) : SchedulerTiming :=
  let ruleSet := configRuleSet.getD []
  { triggerHour := timingValue ruleSet "outreach_daily_trigger_hour_cst" (.int fallbackHour)
    triggerMinute := timingValue ruleSet "outreach_daily_trigger_minute_cst" (.int fallbackMinute)
    timezoneStr := fallbackTimezone
    configSourced := !ruleSet.isEmpty }

structure RuntimeBootstrapContext where
  startupCorrelationId : String
  executionMode : String
  governanceScope : String
  startupClassification : String
  configVersionId : String
  shadowContainmentActive : Bool
  liveEffectsSuppressed : Bool
  replaySafe : Bool
  attributionComplete : Bool
  degradationState : Bool
  degradationCodes : List String
  startupTimestamp : String
  schedulerTiming : SchedulerTiming

/-- What `initialize_runtime_context` is given, with the UUID and the clock that it draws. -/
structure BootstrapArgs where
  executionMode : String
  activeConfigs : Option (List ConfigVersionRow) := none
  attribution : Option (List (String × Py.Value)) := none
  configRuleSet : Option RuleSet := none
  schedulerFallbackHour : Int := 8
  schedulerFallbackMinute : Int := 0
  schedulerFallbackTimezone : String := "US/Central"
  correlationId : String
  now : Datetime

/-- `if attribution` -/
def given : Option (List (String × Py.Value)) → Bool
  | none => false
  | some attribution => !attribution.isEmpty

def initializeRuntimeContext (str_ : ConfigVersionRow → String) (args : BootstrapArgs) :
    RuntimeBootstrapContext :=
  let ((resolvedMode, _), codes) := classifyExecutionMode args.executionMode []
  let ((configVersionId, _), codes) :=
    validateConfigV2 str_ (some (args.activeConfigs.getD [])) codes
  let governanceScope := deriveGovernanceScope resolvedMode
  let attributionComplete := checkAttributionComplete args.attribution
  let codes :=
    if given args.attribution && !attributionComplete then
      codes ++ [degradeAttributionIncomplete]
    else codes
  { startupCorrelationId := args.correlationId
    executionMode := resolvedMode
    governanceScope := governanceScope
    startupClassification := classifyStartup resolvedMode codes
    configVersionId := configVersionId
    shadowContainmentActive := governanceScope ≠ "AUTHORIZED"
    liveEffectsSuppressed := governanceScope ≠ "AUTHORIZED"
    replaySafe := true
    attributionComplete := attributionComplete
    degradationState := !codes.isEmpty
    degradationCodes := codes
    startupTimestamp := args.now.isoformat
    schedulerTiming := buildSchedulerTiming args.configRuleSet args.schedulerFallbackHour
      args.schedulerFallbackMinute args.schedulerFallbackTimezone }

end Bootstrap
end StudentSuccess
