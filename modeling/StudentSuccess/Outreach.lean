import StudentSuccess.Thresholds

namespace StudentSuccess
namespace Outreach
set_option autoImplicit true

def validExecutionModes : List String := ["SHADOW", "LIVE"]

def validExecutionTypes : List String := ["original", "replay", "regeneration", "recovery"]

def replayTypes : List String := ["replay", "regeneration"]

def terminalStates : List String := ["RESPONDED", "CLOSED", "INTERVENTION_REQUIRED"]

def staleAiTiers : List String := ["STALE", "UNAVAILABLE"]

def kOutreachMaxRetryAttempts : String := "outreach_max_retry_attempts"

def kSqlMaxSyncAgeHours : String := "sql_server_max_sync_age_hours"

def orchestrationThresholdKeys : List String :=
  [kOutreachMaxRetryAttempts, "outreach_retry_window_days", "ai_insight_ttl_hours",
    kSqlMaxSyncAgeHours, "orchestration_concurrency_limit"]

structure OutreachOrchestrationContext where
  configVersionId : Option String
  executionMode : String
  executionType : String
  correlationId : Option String
  configRuleSet : Option RuleSet := none
  causationId : Option String := none
  orchestrationCycleId : Option String := none
  idempotencyKey : Option String := none
  complianceHoldFlag : Bool := false
  maintenanceModeActive : Bool := false
  originSource : Option String := none
  originAuthority : Option String := none
  actorIdentity : Option String := none
  attributionTimestamp : Option String := none
  upstreamCorrelationId : Option String := none
  studentIdOpaque : Option String := none
  checkpointType : Option String := none
  outreachState : Option String := none
  contactAttemptCount : Int := 0
  circuitBreakerState : String := "UNKNOWN"
  syncLagHours : Rat := 0
  aiGovernanceTier : Option String := none
  historicalConfigVersionId : Option String := none
  sourceArtifactId : Option String := none

/-- The coordination record, less its event id and duration. -/
structure OutreachCoordinationRecord where
  governanceScope : String
  intentType : Option String
  isReplay : Bool
  liveEffectsSuppressed : Bool
  originSource : Option String
  originAuthority : Option String
  actorIdentity : Option String
  attributionTimestamp : Option String
  upstreamCorrelationId : Option String
  configVersionId : Option String
  historicalConfigVersionId : Option String
  thresholdBindings : RuleSet
  correlationId : Option String
  causationId : Option String
  orchestrationCycleId : Option String
  executionType : String
  executionMode : String
  rulePathTaken : List String
  outcome : String
  errorClass : Option String
  studentIdOpaque : Option String
  checkpointType : Option String
  contactAttemptCount : Int
  dispatchAuthorized : Bool
  dispatchBlockedReason : Option String
  degraded : Bool
  degradationFlags : List String
  degradationCause : Option String
  escalationCandidate : Bool
  escalationCandidacyReason : Option String
  complianceHoldActive : Bool
  aiGovernanceTier : Option String
  aiEscalationAuthority : Bool
  staleSqlServerData : Bool
  reasonCodes : List String
  orchestrationBlocked : Bool
  blockingReason : Option String
  orchestrationContinues : Bool

/-- RULE 0: the codes of the preconditions that fail. -/
def governancePreconditionGate (keys : List String) (ctx : OutreachOrchestrationContext) :
    List String :=
  (if ctx.executionMode ∉ validExecutionModes then ["INVALID_EXECUTION_MODE"] else []) ++
  (if ctx.executionType ∉ validExecutionTypes then ["INVALID_EXECUTION_TYPE"] else []) ++
  (if !Py.truthyText ctx.configVersionId then ["CONFIG_VERSION_ID_MISSING"] else []) ++
  (if !Py.truthyText ctx.correlationId then ["CORRELATION_ID_MISSING"] else []) ++
  (if !Py.truthyText ctx.originSource then ["ORIGIN_SOURCE_MISSING"] else []) ++
  (if !Py.truthyText ctx.originAuthority then ["ORIGIN_AUTHORITY_MISSING"] else []) ++
  (if !Py.truthyText ctx.actorIdentity then ["ACTOR_IDENTITY_MISSING"] else []) ++
  (match ctx.idempotencyKey with
    | some key =>
      if key ≠ "" ∧ key ∈ keys then ["IDEMPOTENCY_DUPLICATE_DETECTED"] else []
    | none => [])

def resolvable (v : Py.Value) : Bool := !isUnknownV0 v

inductive Intent
  | initiateOutreach
  | retryOutreach
  | escalate
  | deferPendingAi
  | hold
  deriving DecidableEq, Repr

def Intent.text : Intent → String
  | .initiateOutreach => "INITIATE_OUTREACH"
  | .retryOutreach => "RETRY_OUTREACH"
  | .escalate => "ESCALATE"
  | .deferPendingAi => "DEFER_PENDING_AI"
  | .hold => "HOLD"

/-- The threshold can be compared with: it is neither the sentinel nor `None`. -/
def bound (v : Py.Value) : Bool :=
  match v with
  | .null => false
  | v => !isUnknownV0 v

def retriesExhausted (ctx : OutreachOrchestrationContext) (bindings : RuleSet) :
    Except Py.Error Bool :=
  let maxAttempts := threshold bindings kOutreachMaxRetryAttempts
  if bound maxAttempts then
    Py.catchMalformed
      ((Py.toInt maxAttempts).map fun m => decide (m ≤ ctx.contactAttemptCount)) false
  else .ok false

def classifyIntent (ctx : OutreachOrchestrationContext) (bindings : RuleSet)
    (aiTier : Option String) : Except Py.Error Intent := do
  if ctx.outreachState.any (terminalStates.contains ·) then return .hold
  if aiTier = some "IN_FLIGHT" then return .deferPendingAi
  if ← retriesExhausted ctx bindings then return .escalate
  if ctx.outreachState = some "NO_RESPONSE" then return .retryOutreach
  if ctx.outreachState = none ∨ ctx.outreachState = some "ELIGIBLE" ∨
      ctx.outreachState = some "QUEUED" then return .initiateOutreach
  return .hold

/-- RULE 5: the sync lag is past its threshold. -/
def staleSql (ctx : OutreachOrchestrationContext) (bindings : RuleSet) : Except Py.Error Bool :=
  let syncThreshold := threshold bindings kSqlMaxSyncAgeHours
  if bound syncThreshold then
    Py.catchMalformed ((Py.toFloat syncThreshold).map (Py.gtFloat ctx.syncLagHours)) false
  else .ok false

def makeBlockedRecord (ctx : OutreachOrchestrationContext) (codes rulePath : List String)
    (blockingReason : Option String) : OutreachCoordinationRecord where
  governanceScope := "UNAVAILABLE"
  intentType := none
  isReplay := replayTypes.contains ctx.executionType
  liveEffectsSuppressed := true
  originSource := ctx.originSource
  originAuthority := ctx.originAuthority
  actorIdentity := ctx.actorIdentity
  attributionTimestamp := ctx.attributionTimestamp
  upstreamCorrelationId := ctx.upstreamCorrelationId
  configVersionId := ctx.configVersionId
  historicalConfigVersionId := ctx.historicalConfigVersionId
  thresholdBindings := []
  correlationId := ctx.correlationId
  causationId := ctx.causationId
  orchestrationCycleId := ctx.orchestrationCycleId
  executionType := ctx.executionType
  executionMode := ctx.executionMode
  rulePathTaken := rulePath
  outcome := "failure"
  errorClass := some "GovernancePreconditionError"
  studentIdOpaque := ctx.studentIdOpaque
  checkpointType := ctx.checkpointType
  contactAttemptCount := ctx.contactAttemptCount
  dispatchAuthorized := false
  dispatchBlockedReason := blockingReason
  degraded := false
  degradationFlags := []
  degradationCause := none
  escalationCandidate := false
  escalationCandidacyReason := none
  complianceHoldActive := false
  aiGovernanceTier := ctx.aiGovernanceTier
  aiEscalationAuthority := false
  staleSqlServerData := false
  reasonCodes := codes
  orchestrationBlocked := true
  blockingReason := blockingReason
  orchestrationContinues := false

def makeMaintenanceRecord (ctx : OutreachOrchestrationContext) (codes rulePath : List String) :
    OutreachCoordinationRecord where
  governanceScope := "MAINTENANCE"
  intentType := none
  isReplay := false
  liveEffectsSuppressed := true
  originSource := ctx.originSource
  originAuthority := ctx.originAuthority
  actorIdentity := ctx.actorIdentity
  attributionTimestamp := ctx.attributionTimestamp
  upstreamCorrelationId := ctx.upstreamCorrelationId
  configVersionId := ctx.configVersionId
  historicalConfigVersionId := none
  thresholdBindings := orchestrationThresholdKeys.map fun k => (k, unknownV0)
  correlationId := ctx.correlationId
  causationId := ctx.causationId
  orchestrationCycleId := ctx.orchestrationCycleId
  executionType := ctx.executionType
  executionMode := ctx.executionMode
  rulePathTaken := rulePath
  outcome := "success"
  errorClass := none
  studentIdOpaque := ctx.studentIdOpaque
  checkpointType := ctx.checkpointType
  contactAttemptCount := ctx.contactAttemptCount
  dispatchAuthorized := false
  dispatchBlockedReason := some "MAINTENANCE_MODE_SUSPENDED"
  degraded := false
  degradationFlags := []
  degradationCause := none
  escalationCandidate := false
  escalationCandidacyReason := none
  complianceHoldActive := false
  aiGovernanceTier := none
  aiEscalationAuthority := false
  staleSqlServerData := false
  reasonCodes := codes
  orchestrationBlocked := false
  blockingReason := none
  orchestrationContinues := false

def makeReplayRecord (ctx : OutreachOrchestrationContext) (codes rulePath : List String) :
    OutreachCoordinationRecord :=
  let sourceMissing := !Py.truthyText ctx.sourceArtifactId
  { governanceScope := "REPLAY_ONLY"
    intentType := none
    isReplay := true
    liveEffectsSuppressed := true
    originSource := ctx.originSource
    originAuthority := ctx.originAuthority
    actorIdentity := ctx.actorIdentity
    attributionTimestamp := ctx.attributionTimestamp
    upstreamCorrelationId := ctx.upstreamCorrelationId
    configVersionId := ctx.configVersionId
    historicalConfigVersionId := ctx.historicalConfigVersionId
    thresholdBindings := []
    correlationId := ctx.correlationId
    causationId := ctx.causationId
    orchestrationCycleId := ctx.orchestrationCycleId
    executionType := ctx.executionType
    executionMode := ctx.executionMode
    rulePathTaken := rulePath
    outcome := if sourceMissing then "degraded" else "success"
    errorClass := none
    studentIdOpaque := ctx.studentIdOpaque
    checkpointType := ctx.checkpointType
    contactAttemptCount := ctx.contactAttemptCount
    dispatchAuthorized := false
    dispatchBlockedReason := some "REPLAY_LIVE_DISPATCH_PROHIBITED"
    degraded := sourceMissing
    degradationFlags := if sourceMissing then ["REPLAY_SOURCE_ARTIFACT_MISSING"] else []
    degradationCause := if sourceMissing then some "REPLAY_SOURCE_ARTIFACT_MISSING" else none
    escalationCandidate := false
    escalationCandidacyReason := none
    complianceHoldActive := ctx.complianceHoldFlag
    aiGovernanceTier := ctx.aiGovernanceTier
    aiEscalationAuthority := false
    staleSqlServerData := false
    reasonCodes := codes
    orchestrationBlocked := false
    blockingReason := none
    orchestrationContinues := true }

/-- RULES 3 to 12, on an original or recovery execution that is not suspended. -/
def evaluate (ctx : OutreachOrchestrationContext) :
    Except Py.Error OutreachCoordinationRecord := do
  let ruleSet := ctx.configRuleSet.getD []
  let bindings := resolveThresholds resolvable orchestrationThresholdKeys ruleSet
  let missingFlags :=
    (missingThresholdKeys resolvable orchestrationThresholdKeys ruleSet).map thresholdMissingFlag
  let stale ← staleSql ctx bindings
  let staleFlags := if stale then ["STALE_SQL_SERVER_DATA"] else []
  let circuitOpen := ctx.circuitBreakerState == "OPEN"
  let circuitFlags := if circuitOpen then ["CIRCUIT_BREAKER_OPEN"] else []
  let holdFlags := if ctx.complianceHoldFlag then ["COMPLIANCE_HOLD_DISPATCH_BLOCKED"] else []
  let dispatchBlockedReason :=
    if circuitOpen then some "CIRCUIT_BREAKER_OPEN"
    else if ctx.complianceHoldFlag then some "COMPLIANCE_HOLD_ACTIVE"
    else none
  let dispatchBlocked := circuitOpen || ctx.complianceHoldFlag
  let aiTier := ctx.aiGovernanceTier
  let aiStale := aiTier.any (staleAiTiers.contains ·)
  let aiCodes :=
    if aiStale then ["AI_TIER_" ++ aiTier.getD "" ++ "_ESCALATION_RESTRICTED"] else []
  let intent ← classifyIntent ctx bindings aiTier
  let retriesEscalate := intent == .escalate && !circuitOpen
  let scope := if dispatchBlocked then "UNAVAILABLE" else "SHADOW_ONLY"
  let scopeCodes :=
    if !dispatchBlocked && ctx.executionMode != "SHADOW"
    then ["LIVE_SCOPE_SHADOW_ONLY_PHASE11"] else []
  let degradationFlags := missingFlags ++ staleFlags ++ circuitFlags ++ holdFlags
  return {
    governanceScope := scope
    intentType := some intent.text
    isReplay := false
    liveEffectsSuppressed := scope != "AUTHORIZED"
    originSource := ctx.originSource
    originAuthority := ctx.originAuthority
    actorIdentity := ctx.actorIdentity
    attributionTimestamp := ctx.attributionTimestamp
    upstreamCorrelationId := ctx.upstreamCorrelationId
    configVersionId := ctx.configVersionId
    historicalConfigVersionId := ctx.historicalConfigVersionId
    thresholdBindings := bindings
    correlationId := ctx.correlationId
    causationId := ctx.causationId
    orchestrationCycleId := ctx.orchestrationCycleId
    executionType := ctx.executionType
    executionMode := ctx.executionMode
    rulePathTaken := ["RULE_0", "RULE_1", "RULE_2", "RULE_3", "RULE_4", "RULE_5", "RULE_6",
      "RULE_7", "RULE_8", "RULE_9", "RULE_10", "RULE_11", "RULE_12"]
    outcome := if dispatchBlocked then "degraded" else "shadow_only"
    errorClass := none
    studentIdOpaque := ctx.studentIdOpaque
    checkpointType := ctx.checkpointType
    contactAttemptCount := ctx.contactAttemptCount
    -- RULE 11 waits for the Phase-12 certification.
    dispatchAuthorized := false
    dispatchBlockedReason := dispatchBlockedReason
    degraded := !degradationFlags.isEmpty
    degradationFlags := degradationFlags
    degradationCause := degradationFlags.head?
    escalationCandidate := circuitOpen || retriesEscalate
    escalationCandidacyReason :=
      if circuitOpen then some "PROVIDER_FAILURE_ESCALATION_CANDIDACY"
      else if retriesEscalate then some "RETRY_EXHAUSTED_ESCALATION_CANDIDACY"
      else none
    complianceHoldActive := ctx.complianceHoldFlag
    aiGovernanceTier := aiTier
    aiEscalationAuthority := !aiStale
    staleSqlServerData := stale
    reasonCodes := missingFlags ++ staleFlags ++ circuitFlags ++ holdFlags ++ aiCodes ++
      ["INTENT_" ++ intent.text] ++ scopeCodes
    orchestrationBlocked := false
    blockingReason := none
    orchestrationContinues := scope != "UNAVAILABLE" }

def registerKey (keys : List String) (ctx : OutreachOrchestrationContext) : List String :=
  match ctx.idempotencyKey with
  | some key => if key ≠ "" ∧ ctx.executionType = "original" then key :: keys else keys
  | none => keys

/-- `coordinate_orchestration_cycle`: the idempotency store it leaves, and its record. -/
def coordinateOrchestrationCycle (keys : List String) (ctx : OutreachOrchestrationContext) :
    List String × Except Py.Error OutreachCoordinationRecord :=
  let gateCodes := governancePreconditionGate keys ctx
  if gateCodes ≠ [] then
    (keys, .ok (makeBlockedRecord ctx gateCodes ["RULE_0"] gateCodes.head?))
  else if ctx.maintenanceModeActive then
    (registerKey keys ctx,
      .ok (makeMaintenanceRecord ctx ["MAINTENANCE_MODE_ACTIVE"] ["RULE_0", "RULE_1"]))
  else if ctx.executionType ∈ replayTypes then
    (registerKey keys ctx,
      .ok (makeReplayRecord ctx
        (["REPLAY_MODE_ACTIVE"] ++
          if !Py.truthyText ctx.sourceArtifactId then ["REPLAY_SOURCE_ARTIFACT_MISSING"] else [])
        ["RULE_0", "RULE_1", "RULE_2"]))
  else (registerKey keys ctx, evaluate ctx)

/-- The bindings of RULE 3. -/
def orchestrationBindings (ctx : OutreachOrchestrationContext) : RuleSet :=
  resolveThresholds resolvable orchestrationThresholdKeys (ctx.configRuleSet.getD [])

theorem evaluate_eq_ok (hstale : staleSql ctx (orchestrationBindings ctx) = .ok stale)
    (hintent : classifyIntent ctx (orchestrationBindings ctx) ctx.aiGovernanceTier = .ok intent) :
    ∃ record, evaluate ctx = .ok record ∧ record.intentType = some intent.text := by
  rw [orchestrationBindings] at hstale hintent
  rw [evaluate]
  dsimp only
  rw [hstale, hintent]
  exact ⟨_, rfl, rfl⟩

theorem evaluate_unauthorized (h : evaluate ctx = .ok record) :
    record.dispatchAuthorized = false ∧ record.governanceScope ≠ "AUTHORIZED" := by
  rw [evaluate] at h
  rw [Py.bind_eq_ok] at h
  obtain ⟨stale, -, h⟩ := h
  rw [Py.bind_eq_ok] at h
  obtain ⟨intent, -, h⟩ := h
  cases h
  refine ⟨rfl, ?_⟩
  dsimp only
  split_ifs
  · simp
  · simp

/-- No coordination record authorizes a dispatch or has the authorized scope. -/
theorem coordinateOrchestrationCycle_unauthorized (keys : List String)
    (h : (coordinateOrchestrationCycle keys ctx).2 = .ok record) :
    record.dispatchAuthorized = false ∧ record.governanceScope ≠ "AUTHORIZED" := by
  rw [coordinateOrchestrationCycle] at h
  by_cases hgate : governancePreconditionGate keys ctx = []
  · by_cases hmaintenance : ctx.maintenanceModeActive = true
    · rw [if_neg (not_not_intro hgate), if_pos hmaintenance] at h
      cases h
      exact ⟨rfl, by simp [makeMaintenanceRecord]⟩
    · by_cases hreplay : ctx.executionType ∈ replayTypes
      · rw [if_neg (not_not_intro hgate), if_neg hmaintenance, if_pos hreplay] at h
        cases h
        exact ⟨rfl, by simp [makeReplayRecord]⟩
      · rw [if_neg (not_not_intro hgate), if_neg hmaintenance, if_neg hreplay] at h
        exact evaluate_unauthorized h
  · rw [if_pos hgate] at h
    cases h
    exact ⟨rfl, by simp [makeBlockedRecord]⟩

end Outreach
end StudentSuccess
