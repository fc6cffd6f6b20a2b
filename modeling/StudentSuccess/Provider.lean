import StudentSuccess.Thresholds

namespace StudentSuccess
namespace Provider
set_option autoImplicit true

def validProviderModes : List String := ["SHADOW", "LIVE"]

def validTypes : List String := ["original", "replay", "regeneration"]

def replayTypes : List String := ["replay", "regeneration"]

def kProviderMaxRetry : String := "provider_failure_max_retry_attempts"

def kSyncMaxAge : String := "sql_server_max_sync_age_hours"

def providerThresholdKeys : List String :=
  [kProviderMaxRetry, "provider_failure_circuit_breaker_threshold",
    "provider_failure_circuit_breaker_reset_hours",
    "provider_failure_retry_backoff_base_seconds", "provider_delivery_sla_hours", kSyncMaxAge]

structure ProviderOrchestrationContext where
  configVersionId : Option String
  executionMode : String
  executionType : String
  configRuleSet : Option RuleSet := none
  complianceHoldActive : Bool := false
  idempotencyKey : Option String := none
  originSource : Option String := none
  originAuthority : Option String := none
  correlationId : Option String := none
  causationId : Option String := none
  upstreamIntentId : Option String := none
  actorIdentity : Option String := none
  providerHealthState : String := "UNKNOWN"
  circuitBreakerState : String := "UNKNOWN"
  ghlMessageId : Option String := none
  retryAttemptCount : Int := 0
  historicalConfigVersionId : Option String := none
  sourceArtifactId : Option String := none
  providerOutageActive : Bool := false
  syncLagHours : Rat := 0
  studentIdOpaque : Option String := none

/-- The provider assessment, less its event id and duration. -/
structure ProviderOrchestrationAssessment where
  providerEventType : Option String
  governanceScope : String
  isReplay : Bool
  outboundSuppressed : Bool
  historicalProviderContextOnly : Bool
  historicalConfigVersionId : Option String
  replayProviderSource : Option String
  originSource : Option String
  originAuthority : Option String
  correlationId : Option String
  causationId : Option String
  upstreamIntentId : Option String
  configVersionId : Option String
  thresholdBindings : RuleSet
  provider : String
  ghlMessageId : Option String
  providerErrorClass : Option String
  degraded : Bool
  degradationCause : Option String
  outboundBlocked : Bool
  orchestrationContinues : Bool
  rulePathTaken : List String
  assessmentBasis : String
  executionType : String
  executionMode : String
  outcome : String
  reasonCodes : List String
  providerBlocked : Bool
  blockingReason : Option String

/-- RULE 0: the codes of the preconditions that fail. -/
def governancePreconditionGate (ctx : ProviderOrchestrationContext) : List String :=
  (if ctx.executionMode ∉ validProviderModes then ["INVALID_EXECUTION_MODE"] else []) ++
  (if ctx.executionType ∉ validTypes then ["INVALID_EXECUTION_TYPE"] else []) ++
  (if !Py.truthyText ctx.configVersionId then ["CONFIG_VERSION_ID_MISSING"] else []) ++
  (if !Py.truthyText ctx.correlationId then ["CORRELATION_ID_MISSING"] else []) ++
  (if !Py.truthyText ctx.originSource then ["ORIGIN_SOURCE_MISSING"] else []) ++
  (if !Py.truthyText ctx.originAuthority then ["ORIGIN_AUTHORITY_MISSING"] else [])

/-- The fields in which the four kinds of assessment differ. -/
structure Verdict where
  providerEventType : Option String
  governanceScope : String
  isReplay : Bool := false
  historicalProviderContextOnly : Bool := false
  historicalConfigVersionId : Option String := none
  replayProviderSource : Option String := none
  ghlMessageId : Option String := none
  degraded : Bool := false
  degradationCause : Option String := none
  orchestrationContinues : Bool
  assessmentBasis : String
  outcome : String
  providerBlocked : Bool := false
  blockingReason : Option String := none

/-- Every assessment suppresses and blocks the outbound side. -/
def makeAssessment (ctx : ProviderOrchestrationContext) (codes rulePath : List String)
    (bindings : RuleSet) (verdict : Verdict) : ProviderOrchestrationAssessment where
  providerEventType := verdict.providerEventType
  governanceScope := verdict.governanceScope
  isReplay := verdict.isReplay
  outboundSuppressed := true
  historicalProviderContextOnly := verdict.historicalProviderContextOnly
  historicalConfigVersionId := verdict.historicalConfigVersionId
  replayProviderSource := verdict.replayProviderSource
  originSource := ctx.originSource
  originAuthority := ctx.originAuthority
  correlationId := ctx.correlationId
  causationId := ctx.causationId
  upstreamIntentId := ctx.upstreamIntentId
  configVersionId := ctx.configVersionId
  thresholdBindings := bindings
  provider := "ghl"
  ghlMessageId := verdict.ghlMessageId
  providerErrorClass := none
  degraded := verdict.degraded
  degradationCause := verdict.degradationCause
  outboundBlocked := true
  orchestrationContinues := verdict.orchestrationContinues
  rulePathTaken := rulePath
  assessmentBasis := verdict.assessmentBasis
  executionType := ctx.executionType
  executionMode := ctx.executionMode
  outcome := verdict.outcome
  reasonCodes := codes
  providerBlocked := verdict.providerBlocked
  blockingReason := verdict.blockingReason

def makeBlockedAssessment (ctx : ProviderOrchestrationContext) (codes rulePath : List String)
    (bindings : RuleSet) (degradationCause blockingReason : Option String) :
    ProviderOrchestrationAssessment :=
  makeAssessment ctx codes rulePath bindings {
    providerEventType := none
    governanceScope := "BLOCKED"
    isReplay := replayTypes.contains ctx.executionType
    historicalConfigVersionId := ctx.historicalConfigVersionId
    ghlMessageId := ctx.ghlMessageId
    degraded := degradationCause.isSome
    degradationCause := degradationCause
    orchestrationContinues := false
    assessmentBasis := "governance_block"
    outcome := "blocked"
    providerBlocked := true
    blockingReason := blockingReason }

def makeReplayAssessment (ctx : ProviderOrchestrationContext) (codes rulePath : List String) :
    ProviderOrchestrationAssessment :=
  makeAssessment ctx codes rulePath (providerThresholdKeys.map fun k => (k, unknownV0)) {
    providerEventType := some "REPLAY_SIMULATION"
    governanceScope := "REPLAY_ONLY"
    isReplay := true
    historicalProviderContextOnly := true
    historicalConfigVersionId := ctx.historicalConfigVersionId
    replayProviderSource := ctx.sourceArtifactId
    orchestrationContinues := true
    assessmentBasis := "replay_containment"
    outcome := "suppressed_replay" }

def makeShadowAssessment (ctx : ProviderOrchestrationContext) (codes rulePath : List String)
    (bindings : RuleSet) (degraded : Bool) (degradationCause : Option String) :
    ProviderOrchestrationAssessment :=
  makeAssessment ctx codes rulePath bindings {
    providerEventType := some "SHADOW_SIMULATION"
    governanceScope := "SHADOW_ONLY"
    degraded := degraded
    degradationCause := degradationCause
    orchestrationContinues := true
    assessmentBasis := "shadow_containment"
    outcome := "suppressed_shadow" }

def makeDuplicateAssessment (ctx : ProviderOrchestrationContext) (codes rulePath : List String)
    (bindings : RuleSet) : ProviderOrchestrationAssessment :=
  makeAssessment ctx codes rulePath bindings {
    providerEventType := some "DEDUPLICATION_SUPPRESS"
    governanceScope := "DUPLICATE_SUPPRESSED"
    orchestrationContinues := false
    assessmentBasis := "idempotency_dedup"
    outcome := "duplicate_suppressed" }

def resolvable (v : Py.Value) : Bool := !isUnknownV0 v

inductive SyncLag
  | unknown
  | invalid
  | within
  | exceeded
  deriving DecidableEq

def SyncLag.codes : SyncLag → List String
  | .unknown => ["SYNC_MAX_AGE_UNKNOWN"]
  | .invalid => ["SYNC_MAX_AGE_INVALID"]
  | .within => []
  | .exceeded => ["SYNC_LAG_EXCEEDED"]

/-- RULE 5. -/
def syncLag (ctx : ProviderOrchestrationContext) (bindings : RuleSet) : Except Py.Error SyncLag :=
  let syncMaxAge := threshold bindings kSyncMaxAge
  if isUnknownV0 syncMaxAge then .ok .unknown
  else
    Py.catchMalformed
      ((Py.toFloat syncMaxAge).map fun age =>
        if Py.gtFloat ctx.syncLagHours age then .exceeded else .within)
      .invalid

inductive RetryBudget
  | unknown
  | invalid
  | left
  | exhausted
  deriving DecidableEq

/-- RULE 7. -/
def retryBudget (ctx : ProviderOrchestrationContext) (bindings : RuleSet) :
    Except Py.Error RetryBudget :=
  let maxRetry := threshold bindings kProviderMaxRetry
  if isUnknownV0 maxRetry then .ok .unknown
  else
    Py.catchMalformed
      ((Py.toInt maxRetry).map fun m =>
        if m ≤ ctx.retryAttemptCount then .exhausted else .left)
      .invalid

/-- The outbound side has been asked for this key before. -/
def isDuplicate (keys : List String) (ctx : ProviderOrchestrationContext) : Bool :=
  match ctx.idempotencyKey with
  | some key => key != "" && keys.contains key
  | none => false

def registerKey (keys : List String) (ctx : ProviderOrchestrationContext) : List String :=
  match ctx.idempotencyKey with
  | some key => if key = "" then keys else key :: keys
  | none => keys

/-- RULES 2 to 11, on an execution that is no replay. -/
def evaluate (keys : List String) (ctx : ProviderOrchestrationContext) :
    Except Py.Error (List String × ProviderOrchestrationAssessment) := do
  let ruleSet := ctx.configRuleSet.getD []
  let bindings := resolveThresholds resolvable providerThresholdKeys ruleSet
  let missing := missingThresholdKeys resolvable providerThresholdKeys ruleSet
  if ctx.complianceHoldActive then
    return (keys, makeBlockedAssessment ctx ["COMPLIANCE_HOLD_ACTIVE"]
      ["RULE_0", "RULE_1", "RULE_2"] bindings (some "compliance_hold")
      (some "COMPLIANCE_HOLD_ACTIVE"))
  if ctx.circuitBreakerState = "OPEN" then
    return (keys, makeBlockedAssessment ctx ["CIRCUIT_BREAKER_OPEN"]
      ["RULE_0", "RULE_1", "RULE_2", "RULE_3"] bindings (some "circuit_breaker_open")
      (some "CIRCUIT_BREAKER_OPEN"))
  let outageCodes := if ctx.providerOutageActive then ["PROVIDER_OUTAGE_ACTIVE"] else []
  let lag ← syncLag ctx bindings
  let codes := outageCodes ++ lag.codes
  let degradationCause :=
    if ctx.providerOutageActive then some "provider_outage"
    else if lag = .exceeded then some "sync_lag_exceeded"
    else none
  let rulePath := ["RULE_0", "RULE_1", "RULE_2", "RULE_3", "RULE_4", "RULE_5", "RULE_6"]
  if ctx.executionMode = "SHADOW" then
    return (keys, makeShadowAssessment ctx (codes ++ ["SHADOW_OUTBOUND_SUPPRESSED"]) rulePath
      bindings degradationCause.isSome degradationCause)
  let budget ← retryBudget ctx bindings
  if budget = .exhausted then
    return (keys, makeBlockedAssessment ctx (codes ++ ["RETRY_BUDGET_EXHAUSTED"])
      (rulePath ++ ["RULE_7"]) bindings none (some "RETRY_BUDGET_EXHAUSTED"))
  let codes := codes ++ if budget = .invalid then ["MAX_RETRY_VALUE_INVALID"] else []
  if isDuplicate keys ctx then
    return (keys, makeDuplicateAssessment ctx (codes ++ ["IDEMPOTENCY_DUPLICATE_SUPPRESSED"])
      (rulePath ++ ["RULE_7", "RULE_9"]) bindings)
  let finalCause :=
    degradationCause.or (if missing = [] then none else some "config_thresholds_missing")
  return (registerKey keys ctx,
    makeShadowAssessment ctx
      (codes ++ missing.map thresholdMissingFlag ++ ["LIVE_SCOPE_SHADOW_ONLY_PHASE11"])
      (rulePath ++ ["RULE_7", "RULE_9", "RULE_10", "RULE_11"]) bindings finalCause.isSome
      finalCause)

/-- `assess_provider_orchestration`: the outbound idempotency store, and the assessment. -/
def assessProviderOrchestration (keys : List String) (ctx : ProviderOrchestrationContext) :
    Except Py.Error (List String × ProviderOrchestrationAssessment) :=
  let gateCodes := governancePreconditionGate ctx
  if gateCodes ≠ [] then
    .ok (keys, makeBlockedAssessment ctx gateCodes ["RULE_0"] [] none gateCodes.head?)
  else if ctx.executionType ∈ replayTypes then
    .ok (keys, makeReplayAssessment ctx ["REPLAY_OUTBOUND_SUPPRESSED"] ["RULE_0", "RULE_1"])
  else evaluate keys ctx

/-- The assessment takes its lineage and its modes from the context. -/
def Made (ctx : ProviderOrchestrationContext) (assessment : ProviderOrchestrationAssessment) :
    Prop :=
  ∃ codes rulePath bindings verdict, assessment = makeAssessment ctx codes rulePath bindings verdict

theorem made_makeAssessment : Made ctx (makeAssessment ctx codes rulePath bindings verdict) :=
  ⟨codes, rulePath, bindings, verdict, rfl⟩

theorem evaluate_makes (h : evaluate keys ctx = .ok (keys', assessment)) : Made ctx assessment := by
  simp only [evaluate] at h
  rcases ite_eq_iff.1 h with ⟨-, h⟩ | ⟨-, h⟩
  · cases h
    exact made_makeAssessment
  rcases ite_eq_iff.1 h with ⟨-, h⟩ | ⟨-, h⟩
  · cases h
    exact made_makeAssessment
  rw [Py.bind_eq_ok] at h
  obtain ⟨lag, -, h⟩ := h
  rcases ite_eq_iff.1 h with ⟨-, h⟩ | ⟨-, h⟩
  · cases h
    exact made_makeAssessment
  rw [Py.bind_eq_ok] at h
  obtain ⟨budget, -, h⟩ := h
  rcases ite_eq_iff.1 h with ⟨-, h⟩ | ⟨-, h⟩
  · cases h
    exact made_makeAssessment
  rcases ite_eq_iff.1 h with ⟨-, h⟩ | ⟨-, h⟩
  · cases h
    exact made_makeAssessment
  · cases h
    exact made_makeAssessment

theorem assessProviderOrchestration_makes
    (h : assessProviderOrchestration keys ctx = .ok (keys', assessment)) : Made ctx assessment := by
  rw [assessProviderOrchestration] at h
  by_cases hgate : governancePreconditionGate ctx = []
  · by_cases hreplay : ctx.executionType ∈ replayTypes
    · rw [if_neg (not_not_intro hgate), if_pos hreplay] at h
      cases h
      exact made_makeAssessment
    · rw [if_neg (not_not_intro hgate), if_neg hreplay] at h
      exact evaluate_makes h
  · rw [if_pos hgate] at h
    cases h
    exact made_makeAssessment

/-- Every assessment suppresses the outbound side, whatever the context. -/
theorem assessProviderOrchestration_outboundSuppressed
    (h : assessProviderOrchestration keys ctx = .ok (keys', assessment)) :
    assessment.outboundSuppressed = true := by
  obtain ⟨codes, rulePath, bindings, verdict, hmade⟩ := assessProviderOrchestration_makes h
  exact congrArg ProviderOrchestrationAssessment.outboundSuppressed hmade

end Provider
end StudentSuccess
