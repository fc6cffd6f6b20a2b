import StudentSuccess.PyNumber
import StudentSuccess.Repository

namespace StudentSuccess
namespace Router
set_option autoImplicit true
open Repository

abbrev Headers := List (String × String)

/-- The header's stripped value, unless it is absent or blank. -/
def headerValue (requestHeaders : Headers) (name : String) : Option String :=
  let val := (Py.get? name requestHeaders).getD ""
  if val ≠ "" ∧ Py.strip val ≠ "" then some (Py.strip val) else none

def extractCorrelationId (requestHeaders : Headers) (newUuid : Uuid) : String :=
  (headerValue requestHeaders "X-Correlation-ID").getD newUuid

def extractCausationId (requestHeaders : Headers) : Option String :=
  headerValue requestHeaders "X-Causation-ID"

def governanceScopeForMode (executionMode : String) : String :=
  if executionMode = "SHADOW" then "SHADOW_ONLY" else "LIVE_AUTHORIZED"

def routerReplayExecutionTypes : List String := ["replay", "regeneration"]

/-- The attribution of a request; `settingsMode` is `str(settings.EXECUTION_MODE)`. -/
def buildRequestAttribution (settingsMode correlationId : String) (causationId : Option String)
    (executionType : String) (configVersionId executionMode : Option String) :
    AttributionFields :=
  let mode := executionMode.getD settingsMode
  { correlationId := correlationId
    causationId := causationId
    executionMode := mode
    executionType := executionType
    governanceScope := governanceScopeForMode mode
    configVersionId := configVersionId
    isReplay := routerReplayExecutionTypes.contains executionType }

structure GovernanceMeta where
  correlationId : String
  executionMode : String
  governanceScope : String
  timestamp : Instant
  causationId : Option String
  configVersionId : Option String
  executionType : String
  isReplay : Bool
  attributionComplete : Bool
  suppressionCodes : List String
  deriving DecidableEq

def makeGovernanceMeta (attribution : AttributionFields) (now : Instant) : GovernanceMeta where
  correlationId := attribution.correlationId
  executionMode := attribution.executionMode
  governanceScope := attribution.governanceScope
  timestamp := now
  causationId := attribution.causationId
  configVersionId := attribution.configVersionId
  executionType := attribution.executionType
  isReplay := attribution.isReplay
  attributionComplete := attribution.correlationId != "" && attribution.executionMode != "" &&
    attribution.governanceScope != ""
  suppressionCodes :=
    if attribution.executionMode = "SHADOW"
    then ["SHADOW_MODE_ACTIVE", "LIVE_EFFECTS_SUPPRESSED"] else []

structure APIResponse where
  status : String
  data : Option (List (String × Py.Value))
  error : Option (String × String)
  metaData : GovernanceMeta

def APIResponse.ok (data : List (String × Py.Value)) (metaData : GovernanceMeta) : APIResponse :=
  ⟨"success", some data, none, metaData⟩

def APIResponse.fail (code message : String) (metaData : GovernanceMeta) : APIResponse :=
  ⟨"error", none, some (code, message), metaData⟩

/-- An `APIResponse` whose data are an `α`. -/
structure Response (α : Type) where
  status : String
  data : Option α
  error : Option (String × String)
  metaData : Option GovernanceMeta

def Response.ok (data : α) (metaData : Option GovernanceMeta) : Response α :=
  ⟨"success", some data, none, metaData⟩

def Response.fail (code message : String) (metaData : Option GovernanceMeta) : Response α :=
  ⟨"error", none, some (code, message), metaData⟩

structure FinalizedProtection where
  isFinalized : Bool
  finalizedAt : Option Instant
  mutationPermitted : Bool
  lineageClassification : String
  deriving DecidableEq

/-- `build_finalized_protection_fields`, of what `getattr` finds. -/
def buildFinalizedProtectionFields (isFinalized : Bool) (finalizedAt : Option Instant) :
    FinalizedProtection where
  isFinalized := isFinalized
  finalizedAt := finalizedAt
  mutationPermitted := !isFinalized
  lineageClassification := if isFinalized then "FINALIZED_READ_ONLY" else "ACTIVE"

theorem extractCorrelationId_ne_empty (requestHeaders : Headers) (newUuid : Uuid) :
    extractCorrelationId requestHeaders newUuid ≠ "" := by
  simp only [extractCorrelationId, headerValue]
  split_ifs with h
  · exact h.2
  · exact newUuid.property

theorem governanceScopeForMode_ne_empty (executionMode : String) :
    governanceScopeForMode executionMode ≠ "" := by
  rw [governanceScopeForMode]
  split_ifs <;> decide

/-- An original request passes the gate exactly under the execution modes the gate lists. -/
theorem buildRequestAttribution_accepted_iff (hc : correlationId ≠ "") :
    checkAttributionFields
        (buildRequestAttribution mode correlationId causationId "original" none none) = [] ↔
      mode ∈ validExecutionModes := by
  rw [checkAttributionFields_eq_nil_iff]
  constructor
  · exact fun h => h.2.1
  · exact fun h => ⟨hc, h, original_mem_validExecutionTypes, governanceScopeForMode_ne_empty mode⟩

end Router
end StudentSuccess
