import StudentSuccess.PyTime
import Mathlib.Algebra.BigOperators.Group.List.Basic

namespace StudentSuccess
namespace ShadowCampaign
set_option autoImplicit true

def replayTypes : List String := ["replay", "regeneration"]

/-- What the metrics, the audit and the certifiers read of a record. -/
structure CampaignRecord where
  executionType : String
  governanceScope : String
  correlationId : String
  causationId : String
  configVersionId : String
  rulePath : List String
  outboundSuppressed : Bool
  liveEffectsProduced : Int
  providerDispatchCount : Int
  isReplay : Bool
  historicalConfigVersionId : Option String
  isFinalized : Bool
  isMutable : Bool
  isDuplicate : Bool
  degraded : Bool
  inv1ScopeNotMutated : Bool := true
  inv2AttributionNotMutated : Bool := true
  inv3ReplayNoLive : Bool := true
  inv4ShadowNoDispatch : Bool := true
  inv5Rule0NotBypassed : Bool := true
  inv6CorrelationPresent : Bool := true
  inv7ExecModePresent : Bool := true
  fad1FinalizedNotMutated : Bool := true
  fad2AttributionImmutable : Bool := true
  fad3Deterministic : Bool := true
  fad4LineageAppendOnly : Bool := true
  fad5ReplayHistoricalConfig : Bool := true
  fad6FinalizedLineagePreserved : Bool := true

structure CampaignMetrics where
  campaignId : String
  campaignStatus : String
  orchestrationCount : Nat := 0
  suppressionCount : Nat := 0
  replayCount : Nat := 0
  degradationCount : Nat := 0
  attributionGapCount : Nat := 0
  finalizedViolationCount : Nat := 0
  duplicateSuppressionCount : Nat := 0
  configResolutionFailures : Nat := 0
  providerSuppressionCount : Nat := 0
  liveEffectsTotal : Int := 0
  providerDispatchTotal : Int := 0
  authorizedScopeCount : Nat := 0
  invViolationCount : Nat := 0
  fadViolationCount : Nat := 0
  replayLeakageCount : Nat := 0

def CampaignRecord.invFlags (r : CampaignRecord) : List Bool :=
  [r.inv1ScopeNotMutated, r.inv2AttributionNotMutated, r.inv3ReplayNoLive,
    r.inv4ShadowNoDispatch, r.inv5Rule0NotBypassed, r.inv6CorrelationPresent,
    r.inv7ExecModePresent]

def CampaignRecord.fadFlags (r : CampaignRecord) : List Bool :=
  [r.fad1FinalizedNotMutated, r.fad2AttributionImmutable, r.fad3Deterministic,
    r.fad4LineageAppendOnly, r.fad5ReplayHistoricalConfig, r.fad6FinalizedLineagePreserved]

/-- `1 if p else 0`, as a counter is raised. -/
def one (p : Prop) [Decidable p] : Nat := if p then 1 else 0

/-- A replay whose effects went live, recognised by its scope. -/
def Leaks (r : CampaignRecord) : Prop :=
  r.governanceScope = "REPLAY_ONLY" ∧ r.liveEffectsProduced > 0

instance : DecidablePred Leaks := fun r => by
  rw [Leaks]
  infer_instance

def CampaignMetrics.add (m : CampaignMetrics) (r : CampaignRecord) : CampaignMetrics :=
  { m with
    orchestrationCount := m.orchestrationCount + 1
    suppressionCount := m.suppressionCount + one (r.outboundSuppressed = true)
    replayCount := m.replayCount + one (r.isReplay = true)
    degradationCount := m.degradationCount + one (r.degraded = true)
    duplicateSuppressionCount := m.duplicateSuppressionCount + one (r.isDuplicate = true)
    configResolutionFailures := m.configResolutionFailures + one (r.configVersionId = "UNKNOWN_V0")
    providerSuppressionCount :=
      m.providerSuppressionCount + one (r.governanceScope ∈ ["SHADOW_ONLY", "REPLAY_ONLY"])
    authorizedScopeCount := m.authorizedScopeCount + one (r.governanceScope = "AUTHORIZED")
    liveEffectsTotal := m.liveEffectsTotal + r.liveEffectsProduced
    providerDispatchTotal := m.providerDispatchTotal + r.providerDispatchCount
    invViolationCount := m.invViolationCount + r.invFlags.countP (!·)
    fadViolationCount := m.fadViolationCount + r.fadFlags.countP (!·)
    replayLeakageCount := m.replayLeakageCount + one (Leaks r) }

def computeMetrics (campaignId : String) (records : List CampaignRecord) : CampaignMetrics :=
  let metrics := records.foldl CampaignMetrics.add
    { campaignId := campaignId, campaignStatus := "COMPLETE" }
  if metrics.degradationCount > 0 then { metrics with campaignStatus := "DEGRADED" } else metrics

structure AttributionCertResult where
  totalRecords : Nat
  correlationGaps : Nat
  causationGaps : Nat
  replayLineageGaps : Nat
  scopeContinuityGaps : Nat
  totalAttributionGaps : Nat
  certificationPassed : Bool

def certifyAttribution (records : List CampaignRecord) : AttributionCertResult :=
  let corrGaps := records.countP fun r => r.correlationId = ""
  let causGaps := records.countP fun r => r.causationId = ""
  let replayGaps := records.countP fun r =>
    r.isReplay && !Py.truthyText r.historicalConfigVersionId
  let scopeGaps := records.countP fun r => r.governanceScope = ""
  let total := corrGaps + causGaps + replayGaps + scopeGaps
  ⟨records.length, corrGaps, causGaps, replayGaps, scopeGaps, total, total = 0⟩

structure GovernanceCertResult where
  totalRecords : Nat
  inv1Violations : Nat := 0
  inv2Violations : Nat := 0
  inv3Violations : Nat := 0
  inv4Violations : Nat := 0
  inv5Violations : Nat := 0
  inv6Violations : Nat := 0
  inv7Violations : Nat := 0
  fad1Violations : Nat := 0
  fad2Violations : Nat := 0
  fad3Violations : Nat := 0
  fad4Violations : Nat := 0
  fad5Violations : Nat := 0
  fad6Violations : Nat := 0
  totalInvViolations : Nat := 0
  totalFadViolations : Nat := 0
  certificationPassed : Bool := true

def GovernanceCertResult.add (result : GovernanceCertResult) (r : CampaignRecord) :
    GovernanceCertResult :=
  { result with
    inv1Violations := result.inv1Violations + one (r.inv1ScopeNotMutated = false)
    inv2Violations := result.inv2Violations + one (r.inv2AttributionNotMutated = false)
    inv3Violations := result.inv3Violations + one (r.inv3ReplayNoLive = false)
    inv4Violations := result.inv4Violations + one (r.inv4ShadowNoDispatch = false)
    inv5Violations := result.inv5Violations + one (r.inv5Rule0NotBypassed = false)
    inv6Violations := result.inv6Violations + one (r.inv6CorrelationPresent = false)
    inv7Violations := result.inv7Violations + one (r.inv7ExecModePresent = false)
    fad1Violations := result.fad1Violations + one (r.fad1FinalizedNotMutated = false)
    fad2Violations := result.fad2Violations + one (r.fad2AttributionImmutable = false)
    fad3Violations := result.fad3Violations + one (r.fad3Deterministic = false)
    fad4Violations := result.fad4Violations + one (r.fad4LineageAppendOnly = false)
    fad5Violations := result.fad5Violations + one (r.fad5ReplayHistoricalConfig = false)
    fad6Violations := result.fad6Violations + one (r.fad6FinalizedLineagePreserved = false) }

/-- The totals of a certification and its verdict, as both certifiers end. -/
def GovernanceCertResult.conclude (result : GovernanceCertResult) : GovernanceCertResult :=
  let inv := result.inv1Violations + result.inv2Violations + result.inv3Violations +
    result.inv4Violations + result.inv5Violations + result.inv6Violations + result.inv7Violations
  let fad := result.fad1Violations + result.fad2Violations + result.fad3Violations +
    result.fad4Violations + result.fad5Violations + result.fad6Violations
  { result with
    totalInvViolations := inv
    totalFadViolations := fad
    certificationPassed := inv = 0 ∧ fad = 0 }

def certifyGovernance (records : List CampaignRecord) : GovernanceCertResult :=
  (records.foldl GovernanceCertResult.add { totalRecords := records.length }).conclude

def verifyInv3ReplayNoLive (records : List CampaignRecord) : Nat :=
  records.countP fun r => r.executionType ∈ replayTypes ∧ r.liveEffectsProduced > 0

def verifyInv4ShadowNoDispatch (records : List CampaignRecord) : Nat :=
  records.countP fun r => r.governanceScope = "SHADOW_ONLY" ∧ r.providerDispatchCount > 0

def verifyInv5Rule0First (records : List CampaignRecord) : Nat :=
  records.countP fun r => r.rulePath.head? ≠ some "RULE_0"

def verifyInv6CorrelationPresent (records : List CampaignRecord) : Nat :=
  records.countP fun r => r.correlationId = ""

def verifyFad1FinalizedNotMutated (records : List CampaignRecord) : Nat :=
  records.countP fun r => r.isFinalized && r.isMutable

def verifyFad5ReplayHistoricalConfig (records : List CampaignRecord) : Nat :=
  records.countP fun r =>
    r.executionType ∈ replayTypes ∧ Py.truthyText r.historicalConfigVersionId = false

def runGovernanceCertification (records : List CampaignRecord) : GovernanceCertResult :=
  let result := certifyGovernance records
  { result with
    inv3Violations := max result.inv3Violations (verifyInv3ReplayNoLive records)
    inv4Violations := max result.inv4Violations (verifyInv4ShadowNoDispatch records)
    inv5Violations := max result.inv5Violations (verifyInv5Rule0First records)
    inv6Violations := max result.inv6Violations (verifyInv6CorrelationPresent records)
    fad1Violations := max result.fad1Violations (verifyFad1FinalizedNotMutated records)
    fad5Violations :=
      max result.fad5Violations (verifyFad5ReplayHistoricalConfig records) }.conclude

structure CampaignAuditResult where
  totalRecords : Nat
  providerDispatchCount : Int
  liveEffectsProduced : Int
  attributionGapCount : Nat
  finalizedViolationCount : Nat
  replayLeakageCount : Nat
  governanceInvariantViolations : Nat
  authorizedScopeCount : Nat
  auditPassed : Bool

def auditCampaignRecords (records : List CampaignRecord) : CampaignAuditResult :=
  let dispatchTotal := (records.map (·.providerDispatchCount)).sum
  let effectsTotal := (records.map (·.liveEffectsProduced)).sum
  let attrGaps := records.countP fun r => r.correlationId = "" ∨ r.causationId = ""
  let finViolations := records.countP fun r => r.isFinalized && r.isMutable
  let replayLeakage := records.countP fun r => Leaks r
  let govCert := certifyGovernance records
  let govViolations := govCert.totalInvViolations + govCert.totalFadViolations
  let authCount := records.countP fun r => r.governanceScope = "AUTHORIZED"
  { totalRecords := records.length
    providerDispatchCount := dispatchTotal
    liveEffectsProduced := effectsTotal
    attributionGapCount := attrGaps
    finalizedViolationCount := finViolations
    replayLeakageCount := replayLeakage
    governanceInvariantViolations := govViolations
    authorizedScopeCount := authCount
    auditPassed := dispatchTotal = 0 ∧ effectsTotal = 0 ∧ attrGaps = 0 ∧ finViolations = 0 ∧
      replayLeakage = 0 ∧ govViolations = 0 ∧ authCount = 0 }

structure OperatorReport where
  reportId : String
  campaignId : String
  reportTimestamp : String
  campaignDurationSeconds : Rat
  orchestrationVolume : Nat
  suppressionVolume : Nat
  replayVolume : Nat
  degradationEvents : Nat
  invViolations : Nat
  fadViolations : Nat
  liveEffectsTotal : Int
  providerDispatchTotal : Int
  authorizedScopeCount : Nat
  attributionGapCount : Nat
  replayLeakageCount : Nat
  governanceInvariantViolations : Nat
  certificationOutcome : String
  certificationPassed : Bool

/-- What `uuid4` and the clock give to a report. -/
structure Stamp where
  reportId : String
  reportTimestamp : String

def generateOperatorReport (stamp : Stamp) (campaignId : String) (metrics : CampaignMetrics)
    (auditResult : CampaignAuditResult) (durationSeconds : Rat) : OperatorReport :=
  let totalViolations := metrics.invViolationCount + metrics.fadViolationCount
  let certPassed := auditResult.auditPassed && decide (totalViolations = 0 ∧
    metrics.liveEffectsTotal = 0 ∧ metrics.providerDispatchTotal = 0 ∧
    metrics.authorizedScopeCount = 0)
  { reportId := stamp.reportId
    campaignId := campaignId
    reportTimestamp := stamp.reportTimestamp
    campaignDurationSeconds := durationSeconds
    orchestrationVolume := metrics.orchestrationCount
    suppressionVolume := metrics.suppressionCount
    replayVolume := metrics.replayCount
    degradationEvents := metrics.degradationCount
    invViolations := metrics.invViolationCount
    fadViolations := metrics.fadViolationCount
    liveEffectsTotal := metrics.liveEffectsTotal
    providerDispatchTotal := metrics.providerDispatchTotal
    authorizedScopeCount := metrics.authorizedScopeCount
    attributionGapCount := metrics.attributionGapCount
    replayLeakageCount := metrics.replayLeakageCount
    governanceInvariantViolations := totalViolations
    certificationOutcome :=
      if certPassed then "CERTIFICATION_PASSED"
      else if !auditResult.auditPassed then "CERTIFICATION_FAILED"
      else "CERTIFICATION_DEGRADED"
    certificationPassed := certPassed }

end ShadowCampaign
end StudentSuccess
