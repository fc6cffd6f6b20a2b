import StudentSuccess.Thresholds

namespace StudentSuccess
namespace Alerts
set_option autoImplicit true

def validExecutionModes : List String := ["SHADOW", "LIVE"]

def validExecutionTypes : List String := ["original", "replay", "regeneration", "recovery"]

def replayTypes : List String := ["replay", "regeneration"]

inductive Severity
  | critical
  | high
  | medium
  | info
  | unknown
  deriving DecidableEq, Repr

def Severity.text : Severity → String
  | .critical => "CRITICAL"
  | .high => "HIGH"
  | .medium => "MEDIUM"
  | .info => "INFO"
  | .unknown => "UNKNOWN"

inductive RecoveryAction
  | governedRecovery
  | deadLetter
  | degradedContinuation
  | escalationCandidacy
  | noOp
  deriving DecidableEq, Repr

def RecoveryAction.text : RecoveryAction → String
  | .governedRecovery => "governed_recovery_cycle"
  | .deadLetter => "dead_letter"
  | .degradedContinuation => "degraded_continuation"
  | .escalationCandidacy => "escalation_candidacy"
  | .noOp => "no_op"

def validAlertDomains : List String :=
  ["orchestration", "provider", "ai", "scheduler", "synchronization", "replay", "attribution",
    "observability", "compliance", "fingerprint"]

def kSchedulerHeartbeatMs : String := "scheduler_heartbeat_interval_ms"
def kSyncStaleHours : String := "sql_server_max_sync_age_hours"
def kAiStaleHighHours : String := "ai_stale_high_threshold_hours"
def kAiAbsentCriticalHours : String := "ai_absent_critical_threshold_hours"
def kStuckWorkflowHighHours : String := "stuck_workflow_high_threshold_hours"
def kStuckComplianceHighHours : String := "stuck_compliance_threshold_hours"
def kProviderRetryLimit : String := "provider_failure_max_retry_attempts"
def kSlaReportMs : String := "report_generation_sla_ms"

def alertThresholdKeys : List String :=
  [kSchedulerHeartbeatMs, kSyncStaleHours, kAiStaleHighHours, kAiAbsentCriticalHours,
    kStuckWorkflowHighHours, kStuckComplianceHighHours, kProviderRetryLimit, kSlaReportMs]

structure AlertClassificationContext where
  configVersionId : Option String
  executionMode : String
  executionType : String
  correlationId : Option String
  degradationDomain : Option String
  failureCause : Option String
  errorClass : Option String
  configRuleSet : Option RuleSet := none
  causationId : Option String := none
  orchestrationCycleId : Option String := none
  idempotencyKey : Option String := none
  maintenanceModeActive : Bool := false
  originSource : Option String := none
  originAuthority : Option String := none
  actorIdentity : Option String := none
  attributionTimestamp : Option String := none
  upstreamCorrelationId : Option String := none
  schedulerLagMs : Option Int := none
  syncLagHours : Option Rat := none
  aiStaleHours : Option Rat := none
  aiAbsentHours : Option Rat := none
  retryCount : Option Int := none
  circuitBreakerOpen : Bool := false
  providerOutageActive : Bool := false
  complianceHoldActive : Bool := false
  fingerprintDivergence : Bool := false
  workflowStuckHours : Option Rat := none
  isObservabilityDegraded : Bool := false
  sourceArtifactId : Option String := none
  historicalConfigVersionId : Option String := none
  executionStateBefore : Option String := none
  executionStateAfter : Option String := none
  studentIdOpaque : Option String := none

/-- The alert record, less its id and duration. -/
structure DegradationAlertRecord where
  severity : Severity
  degradationDomain : String
  failureCause : Option String
  errorClassClassified : Option String
  recoveryAction : RecoveryAction
  escalationCandidacy : Bool
  governanceScope : String
  assessmentBasis : String
  isReplay : Bool
  liveEffectsSuppressed : Bool
  originSource : Option String
  originAuthority : Option String
  actorIdentity : Option String
  attributionTimestamp : Option String
  upstreamCorrelationId : Option String
  configVersionId : Option String
  historicalConfigVersionId : Option String
  thresholdBindings : RuleSet
  correlationId : Option String
  causationId : Option String
  orchestrationCycleId : Option String
  executionType : String
  executionMode : String
  rulePathTaken : List String
  outcome : String
  degraded : Bool
  degradationFlags : List String
  degradationCause : Option String
  reasonCodes : List String
  orchestrationBlocked : Bool
  blockingReason : Option String
  orchestrationContinues : Bool
  suppressionVisible : Bool
  executionStateBefore : Option String
  executionStateAfter : Option String
  causationChainPreserved : Bool
  appendOnlyEnforced : Bool
  replayLineagePreserved : Bool
  alertLineageImmutable : Bool
  alertEmitAuthorized : Bool
  studentIdOpaque : Option String

def attributionComplete (ctx : AlertClassificationContext) : Bool :=
  Py.truthyText ctx.originSource && Py.truthyText ctx.originAuthority &&
    Py.truthyText ctx.actorIdentity

def resolveAlertThresholds (ctx : AlertClassificationContext) : RuleSet :=
  resolveThresholds (fun _ => true) alertThresholdKeys (ctx.configRuleSet.getD [])

/-- `_threshold_value`: the sentinel and `None` give no bound. -/
def thresholdValue (thresholds : RuleSet) (key : String) : Option Py.Value :=
  match threshold thresholds key with
  | .null => none
  | v => if isUnknownV0 v then none else some v

/-- `ctx.degradation_domain or DOMAIN_UNKNOWN`. -/
def domainOf (ctx : AlertClassificationContext) : String :=
  Py.orText ctx.degradationDomain "unknown"

def classifyErrorClass (ctx : AlertClassificationContext) : Option String :=
  if Py.truthyText ctx.errorClass then ctx.errorClass
  else
    Py.get? (domainOf ctx)
      [("scheduler", "SchedulerDegradationError"), ("provider", "ProviderDegradationError"),
        ("ai", "AIDegradationError"), ("synchronization", "SynchronizationDegradationError"),
        ("compliance", "ComplianceDegradationError"),
        ("orchestration", "OrchestrationDegradationError"),
        ("replay", "ReplayDegradationError"), ("attribution", "AttributionDegradationError"),
        ("observability", "ObservabilityDegradationError"),
        ("fingerprint", "FingerprintDegradationError")]

/-- The signal and the threshold are both there, and the signal is in the relation to it. -/
def reaches (rel : Rat → Py.Value → Except Py.Error Bool) (thresholds : RuleSet) (key : String)
    (signal : Option Rat) : Except Py.Error Bool :=
  match signal, thresholdValue thresholds key with
  | some x, some limit => rel x limit
  | _, _ => .ok false

/-- The signal is past the threshold of the key. -/
def exceeds (thresholds : RuleSet) (key : String) (signal : Option Rat) : Except Py.Error Bool :=
  reaches Py.gtValue thresholds key signal

/-- A domain whose signal speaks of a condition even when no threshold is passed. -/
def signalled (severity : Severity) (present : Bool) : Severity :=
  if present then severity else .unknown

def schedulerSeverity (ctx : AlertClassificationContext) (thresholds : RuleSet) :
    Except Py.Error Severity := do
  if ← exceeds thresholds kSchedulerHeartbeatMs (ctx.schedulerLagMs.map fun n => (n : Rat)) then
    return .critical
  if ← exceeds thresholds kStuckWorkflowHighHours ctx.workflowStuckHours then return .high
  return signalled .high ctx.schedulerLagMs.isSome

def synchronizationSeverity (ctx : AlertClassificationContext) (thresholds : RuleSet) :
    Except Py.Error Severity := do
  if ← exceeds thresholds kSyncStaleHours ctx.syncLagHours then return .high
  return signalled .medium ctx.syncLagHours.isSome

def aiSeverity (ctx : AlertClassificationContext) (thresholds : RuleSet) :
    Except Py.Error Severity := do
  if ← exceeds thresholds kAiAbsentCriticalHours ctx.aiAbsentHours then return .critical
  if ← exceeds thresholds kAiStaleHighHours ctx.aiStaleHours then return .high
  return signalled .medium (ctx.aiStaleHours.isSome || ctx.aiAbsentHours.isSome)

def providerSeverity (ctx : AlertClassificationContext) (thresholds : RuleSet) :
    Except Py.Error Severity := do
  if ctx.circuitBreakerOpen then return .critical
  if ctx.providerOutageActive then return .high
  if ← reaches Py.geValue thresholds kProviderRetryLimit (ctx.retryCount.map fun n => (n : Rat))
  then return .high
  return signalled .medium ctx.retryCount.isSome

def complianceSeverity (ctx : AlertClassificationContext) (thresholds : RuleSet) :
    Except Py.Error Severity := do
  if ctx.complianceHoldActive then
    if ← exceeds thresholds kStuckComplianceHighHours ctx.workflowStuckHours then
      return .critical
    return .high
  return .unknown

/-- At least high, whatever the comparison that may raise says. -/
def orchestrationSeverity (ctx : AlertClassificationContext) (thresholds : RuleSet) :
    Except Py.Error Severity := do
  if ← exceeds thresholds kStuckWorkflowHighHours ctx.workflowStuckHours then return .high
  return .high

def classifySeverity (ctx : AlertClassificationContext) (thresholds : RuleSet) :
    Except Py.Error Severity :=
  let domain := domainOf ctx
  if domain = "scheduler" then schedulerSeverity ctx thresholds
  else if domain = "synchronization" then synchronizationSeverity ctx thresholds
  else if domain = "ai" then aiSeverity ctx thresholds
  else if domain = "provider" then providerSeverity ctx thresholds
  else if domain = "compliance" then complianceSeverity ctx thresholds
  else if domain = "orchestration" then orchestrationSeverity ctx thresholds
  else if domain = "observability" then .ok (signalled .medium ctx.isObservabilityDegraded)
  else if domain = "attribution" then .ok .high
  else if domain = "fingerprint" then .ok (signalled .medium ctx.fingerprintDivergence)
  else if domain = "replay" then .ok .info
  else .ok .unknown

def classifyRecoveryAction (severity : Severity) (domain : String) : RecoveryAction :=
  match severity with
  | .critical =>
    if domain = "scheduler" then .governedRecovery
    else if domain = "compliance" then .deadLetter
    else .escalationCandidacy
  | .high =>
    if domain = "provider" ∨ domain = "ai" ∨ domain = "observability" then .degradedContinuation
    else .escalationCandidacy
  | _ =>
    if domain = "observability" ∨ domain = "ai" then .degradedContinuation else .noOp

/-- `_classify_degradation_state`: the flags; the first of them is the cause. -/
def degradationFlags (ctx : AlertClassificationContext) (domain : String) : List String :=
  let flag (d : String) (present : Bool) (name : String) : List String :=
    if domain = d ∧ present then [name] else []
  flag "scheduler" ctx.schedulerLagMs.isSome "SCHEDULER_HEARTBEAT_MISSED" ++
  flag "synchronization" ctx.syncLagHours.isSome "SYNC_STALE" ++
  flag "ai" ctx.aiAbsentHours.isSome "AI_ABSENT" ++
  flag "ai" ctx.aiStaleHours.isSome "AI_STALE" ++
  flag "provider" ctx.circuitBreakerOpen "CIRCUIT_BREAKER_OPEN" ++
  flag "provider" ctx.providerOutageActive "PROVIDER_OUTAGE" ++
  flag "provider" ctx.retryCount.isSome "PROVIDER_RETRY_EXHAUSTED" ++
  flag "compliance" ctx.complianceHoldActive "COMPLIANCE_HOLD_ACTIVE" ++
  flag "fingerprint" ctx.fingerprintDivergence "FINGERPRINT_DIVERGENCE" ++
  flag "observability" ctx.isObservabilityDegraded "OBSERVABILITY_DEGRADED" ++
  flag "attribution" true "ATTRIBUTION_DEGRADED" ++
  (if ctx.workflowStuckHours.isSome then ["WORKFLOW_STUCK"] else [])

/-- RULE 0: the codes of the preconditions that fail. -/
def governancePreconditionGate (keys : List String) (ctx : AlertClassificationContext) :
    List String :=
  (if !attributionComplete ctx then ["ATTRIBUTION_INCOMPLETE"] else []) ++
  (if !Py.truthyText ctx.correlationId then ["CORRELATION_ID_MISSING"] else []) ++
  (if ctx.executionMode ∉ validExecutionModes then ["INVALID_EXECUTION_MODE"] else []) ++
  (if ctx.executionType ∉ validExecutionTypes then ["INVALID_EXECUTION_TYPE"] else []) ++
  (if ctx.executionType ∈ replayTypes ∧ !Py.truthyText ctx.historicalConfigVersionId then
    ["REPLAY_LINEAGE_INCOMPLETE"] else []) ++
  (match ctx.idempotencyKey with
    | some key => if key ≠ "" ∧ key ∈ keys then ["IDEMPOTENCY_KEY_DUPLICATE"] else []
    | none => [])

def makeUnclassified (ctx : AlertClassificationContext) (codes rulePath : List String) :
    DegradationAlertRecord where
  severity := .unknown
  degradationDomain := domainOf ctx
  failureCause := ctx.failureCause
  errorClassClassified := none
  recoveryAction := .noOp
  escalationCandidacy := false
  governanceScope := "UNAVAILABLE"
  assessmentBasis := "RULE_BASED"
  isReplay := replayTypes.contains ctx.executionType
  liveEffectsSuppressed := true
  originSource := ctx.originSource
  originAuthority := ctx.originAuthority
  actorIdentity := ctx.actorIdentity
  attributionTimestamp := ctx.attributionTimestamp
  upstreamCorrelationId := ctx.upstreamCorrelationId
  configVersionId := ctx.configVersionId
  historicalConfigVersionId := ctx.historicalConfigVersionId
  thresholdBindings := alertThresholdKeys.map fun k => (k, unknownV0)
  correlationId := ctx.correlationId
  causationId := ctx.causationId
  orchestrationCycleId := ctx.orchestrationCycleId
  executionType := ctx.executionType
  executionMode := ctx.executionMode
  rulePathTaken := rulePath
  outcome := "failure"
  degraded := false
  degradationFlags := []
  degradationCause := none
  reasonCodes := codes
  orchestrationBlocked := false
  blockingReason := none
  orchestrationContinues := false
  suppressionVisible := true
  executionStateBefore := ctx.executionStateBefore
  executionStateAfter := ctx.executionStateAfter
  causationChainPreserved := Py.truthyText ctx.causationId
  appendOnlyEnforced := true
  replayLineagePreserved := true
  alertLineageImmutable := true
  alertEmitAuthorized := false
  studentIdOpaque := ctx.studentIdOpaque

def makeBlockedAlertRecord (ctx : AlertClassificationContext) (codes rulePath : List String)
    (blockingReason : String) : DegradationAlertRecord :=
  { makeUnclassified ctx codes rulePath with
    errorClassClassified := some "GovernancePreconditionError"
    recoveryAction := .deadLetter
    orchestrationBlocked := true
    blockingReason := some blockingReason }

def makeMaintenanceAlertRecord (ctx : AlertClassificationContext)
    (codes rulePath : List String) : DegradationAlertRecord :=
  { makeUnclassified ctx codes rulePath with
    severity := .info
    governanceScope := "MAINTENANCE"
    isReplay := false
    historicalConfigVersionId := none
    outcome := "success" }

def makeReplayAlertRecord (ctx : AlertClassificationContext) (codes rulePath : List String)
    (thresholdBindings : RuleSet) : DegradationAlertRecord :=
  let sourceMissing := !Py.truthyText ctx.sourceArtifactId
  { makeUnclassified ctx codes rulePath with
    governanceScope := "REPLAY_ONLY"
    assessmentBasis := "HISTORICAL_REPLAY"
    isReplay := true
    thresholdBindings := thresholdBindings
    outcome := if sourceMissing then "degraded" else "success"
    degraded := sourceMissing
    degradationFlags := if sourceMissing then ["REPLAY_SOURCE_ARTIFACT_MISSING"] else []
    degradationCause := if sourceMissing then some "REPLAY_SOURCE_ARTIFACT_MISSING" else none
    orchestrationContinues := true }

/-- RULES 3 to 10, on an original or recovery execution that is not suspended. -/
def evaluate (ctx : AlertClassificationContext) : Except Py.Error DegradationAlertRecord := do
  let thresholds := resolveAlertThresholds ctx
  let known := validAlertDomains.contains (domainOf ctx)
  let domain := if known then domainOf ctx else "unknown"
  let severity ← classifySeverity ctx thresholds
  let flags := degradationFlags ctx domain
  return {
    makeUnclassified ctx
      ((if known then [] else ["DOMAIN_UNKNOWN"]) ++ ["SEVERITY_" ++ severity.text])
      ["RULE_0_GOVERNANCE_GATE", "RULE_3_THRESHOLD_RESOLUTION", "RULE_4_ERROR_CLASS",
        "RULE_5_DOMAIN_VALIDATION", "RULE_6_SEVERITY", "RULE_7_RECOVERY_ACTION",
        "RULE_8_DEGRADATION_FLAGS", "RULE_9_GOVERNANCE_SCOPE", "RULE_10_EMIT"] with
    severity := severity
    degradationDomain := domain
    errorClassClassified := classifyErrorClass ctx
    recoveryAction := classifyRecoveryAction severity domain
    escalationCandidacy := severity == .critical || severity == .high
    -- RULE 9 waits for the Phase-12 certification.
    governanceScope := "SHADOW_ONLY"
    assessmentBasis := if thresholds.isEmpty then "FALLBACK" else "CONFIG_V2_GOVERNED"
    isReplay := false
    thresholdBindings := thresholds
    outcome := if flags.isEmpty then "success" else "degraded"
    degraded := !flags.isEmpty
    degradationFlags := flags
    degradationCause := flags.head?
    orchestrationContinues := true }

def registerKey (keys : List String) (ctx : AlertClassificationContext) : List String :=
  match ctx.idempotencyKey with
  | some key => if key ≠ "" then key :: keys else keys
  | none => keys

/-- `classify_degradation_alert`: the idempotency store it leaves, and its record. -/
def classifyDegradationAlert (keys : List String) (ctx : AlertClassificationContext) :
    List String × Except Py.Error DegradationAlertRecord :=
  let gateCodes := governancePreconditionGate keys ctx
  if gateCodes ≠ [] then
    (keys, .ok (makeBlockedAlertRecord ctx gateCodes ["RULE_0_GOVERNANCE_GATE"]
      ("; ".intercalate gateCodes)))
  else if ctx.maintenanceModeActive then
    (registerKey keys ctx,
      .ok (makeMaintenanceAlertRecord ctx ["MAINTENANCE_MODE_ACTIVE"]
        ["RULE_0_GOVERNANCE_GATE", "RULE_1_MAINTENANCE"]))
  else if ctx.executionType ∈ replayTypes then
    (registerKey keys ctx,
      .ok (makeReplayAlertRecord ctx ["REPLAY_EXECUTION_TYPE"]
        ["RULE_0_GOVERNANCE_GATE", "RULE_2_REPLAY"] (resolveAlertThresholds ctx)))
  else (registerKey keys ctx, evaluate ctx)

end Alerts
end StudentSuccess
