import StudentSuccess.Advisory

namespace StudentSuccess
namespace AiOrchestration
set_option autoImplicit true

def validExecutionModes : List String := ["SHADOW", "LIVE"]

def validExecutionTypes : List String := ["original", "replay", "regeneration"]

def inFlightStates : List String := ["AI_PENDING", "AI_GENERATING", "AI_QUEUED"]

def kAiInsightTtlHours : String := "ai_insight_ttl_hours"
def kAiLlmProvider : String := "ai_llm_provider"

def aiThresholdKeys : List String := [kAiInsightTtlHours, kAiLlmProvider]

def confidenceHighFloor : Rat := 7 / 10
def confidenceMediumFloor : Rat := 4 / 10

inductive AdvisoryScope
  | full
  | limited
  | unavailable
  | immutable
  | deferred
  deriving DecidableEq, Repr

inductive ConfidenceTier
  | high
  | medium
  | low
  | unscored
  deriving DecidableEq, Repr

structure AIOrchestrationContext where
  configVersionId : Option String
  executionMode : String
  executionType : String
  correlationId : Option String
  configRuleSet : Option RuleSet := none
  causationId : Option String := none
  upstreamIntentId : Option String := none
  idempotencyKey : Option String := none
  complianceHoldFlag : Bool := false
  originSource : Option String := none
  originAuthority : Option String := none
  actorIdentity : Option String := none
  attributionTimestamp : Option String := none
  upstreamCorrelationId : Option String := none
  aiInsightId : Option String := none
  aiInsightState : Option String := none
  aiInsightVersion : Option Int := none
  aiGeneratedAt : Option String := none
  aiConfidenceScore : Option Rat := none
  aiPromptVersion : Option String := none
  aiModelUsed : Option String := none
  aiStaleFlag : Bool := false
  aiFinalizedCopy : Bool := false
  aiRiskSummary : Option String := none
  aiRecommendedIntervention : Option String := none
  aiSentiment : Option String := none
  circuitBreakerState : String := "UNKNOWN"
  historicalConfigVersionId : Option String := none
  sourceArtifactId : Option String := none

/-- The assessment, less its event id and durations. -/
structure AIAssessment where
  aiGovernanceTier : AiTier
  advisoryScope : AdvisoryScope
  isReplay : Bool
  liveInferenceSuppressed : Bool
  replayAiSource : Option String
  sourceArtifactId : Option String
  historicalConfigVersionId : Option String
  originSource : Option String
  originAuthority : Option String
  actorIdentity : Option String
  attributionTimestamp : Option String
  upstreamIntentId : Option String
  upstreamCorrelationId : Option String
  configVersionId : Option String
  thresholdBindings : RuleSet
  correlationId : Option String
  causationId : Option String
  executionType : String
  executionMode : String
  rulePathTaken : List String
  assessmentBasis : String
  outcome : String
  errorClass : Option String
  confidenceScore : Option Rat
  confidenceTier : ConfidenceTier
  staleFlag : Bool
  staleForHours : Py.Float
  insightAgeHours : Rat
  ttlHoursApplied : Py.Value
  degraded : Bool
  degradationCause : Option String
  fallbackApplied : Bool
  fallbackType : Option String
  orchestrationContinues : Bool
  advisorySentiment : Option String
  advisoryRiskSummary : Option String
  advisoryRecommendedIntervention : Option String
  advisoryPrioritizationSignal : Option String
  eligibleForSnapshot : Bool
  eligibilityReason : String
  finalizedCopy : Bool
  provider : Option String
  modelIdentifier : Option String
  promptVersion : Option String
  aiVersionNumber : Option Int
  reasonCodes : List String
  aiBlocked : Bool
  blockingReason : Option String

def attributionComplete (ctx : AIOrchestrationContext) : Bool :=
  Py.truthyText ctx.originSource && Py.truthyText ctx.originAuthority &&
    Py.truthyText ctx.actorIdentity

/-- RULE 0: the codes of the preconditions that fail. -/
def governancePreconditionGate (keys : List String) (ctx : AIOrchestrationContext) :
    List String :=
  (if ctx.executionMode ∉ validExecutionModes then ["EXECUTION_MODE_INVALID"] else []) ++
  (if ctx.executionType ∉ validExecutionTypes then ["EXECUTION_TYPE_INVALID"] else []) ++
  (if !Py.truthyText ctx.configVersionId then ["CONFIG_UNRESOLVED"] else []) ++
  (if !Py.truthyText ctx.correlationId then ["CORRELATION_ID_MISSING"] else []) ++
  (if !attributionComplete ctx then ["ATTRIBUTION_INCOMPLETE"] else []) ++
  (match ctx.idempotencyKey with
    | some key => if key ≠ "" ∧ key ∈ keys then ["IDEMPOTENCY_DUPLICATE"] else []
    | none => [])

/-- A threshold that the rule set gives, whatever its value. -/
def resolved (v : Py.Value) : Bool := !isUnknownV0 v

/-- `_resolve_ai_thresholds`: the bindings, and the keys that are missing. -/
def resolveAiThresholds (ruleSet : RuleSet) : RuleSet × List String :=
  (resolveThresholds resolved aiThresholdKeys ruleSet,
    missingThresholdKeys resolved aiThresholdKeys ruleSet)

def computeInsightAgeHours (env : RuleEnv) (aiGeneratedAt : Option String) : Rat :=
  match aiGeneratedAt with
  | none => 0
  | some text =>
    if text = "" then 0
    else
      match fromIsoformatZ env text with
      | .ok generated => max 0 (((env.now - generated.utc : Int) : Rat) / Py.microsPerHour)
      | .error _ => 0

def makeAssessment (ctx : AIOrchestrationContext) (codes rulePath : List String)
    (thresholdBindings : RuleSet) : AIAssessment where
  aiGovernanceTier := .unavailable
  advisoryScope := .unavailable
  isReplay := isReplayType ctx.executionType
  liveInferenceSuppressed := true
  replayAiSource := none
  sourceArtifactId := none
  historicalConfigVersionId := ctx.historicalConfigVersionId
  originSource := ctx.originSource
  originAuthority := ctx.originAuthority
  actorIdentity := ctx.actorIdentity
  attributionTimestamp := ctx.attributionTimestamp
  upstreamIntentId := ctx.upstreamIntentId
  upstreamCorrelationId := ctx.upstreamCorrelationId
  configVersionId := ctx.configVersionId
  thresholdBindings := thresholdBindings
  correlationId := ctx.correlationId
  causationId := ctx.causationId
  executionType := ctx.executionType
  executionMode := ctx.executionMode
  rulePathTaken := rulePath
  assessmentBasis := "FALLBACK"
  outcome := "failure"
  errorClass := none
  confidenceScore := none
  confidenceTier := .unscored
  staleFlag := false
  staleForHours := .fin 0
  insightAgeHours := 0
  ttlHoursApplied := unknownV0
  degraded := false
  degradationCause := none
  fallbackApplied := false
  fallbackType := none
  orchestrationContinues := true
  advisorySentiment := none
  advisoryRiskSummary := none
  advisoryRecommendedIntervention := none
  advisoryPrioritizationSignal := none
  eligibleForSnapshot := false
  eligibilityReason := ""
  finalizedCopy := false
  provider := none
  modelIdentifier := none
  promptVersion := none
  aiVersionNumber := none
  reasonCodes := codes
  aiBlocked := false
  blockingReason := none

def makeBlockedAssessment (ctx : AIOrchestrationContext) (codes rulePath : List String)
    (blockingReason : String) : AIAssessment :=
  { makeAssessment ctx codes rulePath [] with
    errorClass := some "GovernancePreconditionError"
    orchestrationContinues := false
    eligibilityReason := "BLOCKED"
    aiBlocked := true
    blockingReason := some blockingReason }

def makeFinalizedCopyAssessment (ctx : AIOrchestrationContext) (codes rulePath : List String) :
    AIAssessment :=
  { makeAssessment ctx codes rulePath (aiThresholdKeys.map fun k => (k, unknownV0)) with
    aiGovernanceTier := .finalizedCopy
    advisoryScope := .immutable
    replayAiSource := some "FINALIZED_COPY"
    sourceArtifactId := ctx.sourceArtifactId
    assessmentBasis := "FINALIZED_COPY"
    outcome := "success"
    confidenceScore := ctx.aiConfidenceScore
    advisorySentiment := ctx.aiSentiment
    advisoryRiskSummary := ctx.aiRiskSummary
    eligibilityReason := "FINALIZED_COPY_IMMUTABLE"
    finalizedCopy := true
    provider := ctx.aiModelUsed
    modelIdentifier := ctx.aiModelUsed
    promptVersion := ctx.aiPromptVersion
    aiVersionNumber := ctx.aiInsightVersion }

def makeReplayAssessment (ctx : AIOrchestrationContext) (codes rulePath : List String)
    (thresholdBindings : RuleSet) (replayAiSource : String) : AIAssessment :=
  let sourceMissing := replayAiSource == "NONE"
  { makeAssessment ctx codes rulePath thresholdBindings with
    aiGovernanceTier := if sourceMissing then .unavailable else .finalizedCopy
    advisoryScope := if sourceMissing then .unavailable else .immutable
    isReplay := true
    replayAiSource := some replayAiSource
    sourceArtifactId := ctx.sourceArtifactId
    assessmentBasis := "HISTORICAL_REPLAY"
    outcome := if sourceMissing then "degraded" else "success"
    degraded := sourceMissing
    degradationCause := if sourceMissing then some "REPLAY_AI_SOURCE_MISSING" else none
    fallbackApplied := sourceMissing
    fallbackType := if sourceMissing then some "RULE_BASED_ONLY" else none
    eligibilityReason := "REPLAY_CONTEXT_NO_SNAPSHOT_ELIGIBILITY"
    finalizedCopy := !sourceMissing }

def makeUnavailableAssessment (ctx : AIOrchestrationContext) (codes rulePath : List String)
    (thresholdBindings : RuleSet) (degradationCause : String) : AIAssessment :=
  { makeAssessment ctx codes rulePath thresholdBindings with
    outcome := "degraded"
    ttlHoursApplied := threshold thresholdBindings kAiInsightTtlHours
    degraded := true
    degradationCause := some degradationCause
    fallbackApplied := true
    fallbackType := some "RULE_BASED_ONLY"
    eligibilityReason := "UNAVAILABLE_TIER" }

def makeInFlightAssessment (ctx : AIOrchestrationContext) (codes rulePath : List String)
    (thresholdBindings : RuleSet) : AIAssessment :=
  { makeAssessment ctx codes rulePath thresholdBindings with
    aiGovernanceTier := .inFlight
    advisoryScope := .deferred
    isReplay := false
    liveInferenceSuppressed := false
    historicalConfigVersionId := none
    outcome := "deferred"
    ttlHoursApplied := threshold thresholdBindings kAiInsightTtlHours
    eligibilityReason := "IN_FLIGHT_NO_SNAPSHOT" }

inductive Staleness
  | current
  | past (ttl : Py.Float)
  | invalid

/-- `insight_age_hours > float(ttl_val)`; what the conversion raises is caught but for an
overflow. -/
def staleness (age : Rat) (ttlVal : Py.Value) : Except Py.Error Staleness :=
  if isUnknownV0 ttlVal then .ok .current
  else
    match Py.toFloat ttlVal with
    | .ok ttl => .ok (if Py.gtFloat age ttl then .past ttl else .current)
    | .error .valueError => .ok .invalid
    | .error .typeError => .ok .invalid
    | .error e => .error e

/-- `max(0.0, age - ttl)`, of an age past the TTL. -/
def hoursPast (age : Rat) : Py.Float → Py.Float
  | .fin ttl => .fin (max 0 (age - ttl))
  | .negInf => .inf
  | _ => .fin 0

structure Classification where
  tier : AiTier
  confidenceTier : ConfidenceTier := .unscored
  staleFlag : Bool := false
  staleForHours : Py.Float := .fin 0
  degradationCause : Option String := none
  codes : List String := []

/-- RULE 5 on an insight that is not past its TTL. -/
def classifyScore : Option Rat → Classification
  | none => { tier := .advisory }
  | some score =>
    if confidenceHighFloor ≤ score then { tier := .confident, confidenceTier := .high }
    else if confidenceMediumFloor ≤ score then { tier := .advisory, confidenceTier := .medium }
    else
      { tier := .advisory, confidenceTier := .low, degradationCause := some "CONFIDENCE_COLLAPSE",
        codes := ["CONFIDENCE_COLLAPSE"] }

/-- RULE 5 on a reviewed insight. -/
def classifyTier (age : Rat) (score : Option Rat) : Staleness → Classification
  | .current => classifyScore score
  | .past ttl =>
    { tier := .stale, staleFlag := true, staleForHours := hoursPast age ttl,
      codes := ["AI_STALE"] }
  | .invalid =>
    { classifyScore score with
      codes := "CONFIG_THRESHOLD_INVALID_AI_INSIGHT_TTL_HOURS" :: (classifyScore score).codes }

/-- RULE 6: the scope of a tier. -/
def scopeOf : AiTier → AdvisoryScope
  | .confident => .full
  | .advisory => .limited
  | .stale => .limited
  | _ => .unavailable

/-- `ctx.ai_model_used != provider_config_val`, where both are there. -/
def providerDivergence (ctx : AIOrchestrationContext) (thresholdBindings : RuleSet) : Bool :=
  match ctx.aiModelUsed, threshold thresholdBindings kAiLlmProvider with
  | some used, .str configured =>
    used != "" && configured != "UNKNOWN_V0" && used != configured
  | some used, _ => used != ""
  | none, _ => false

/-- RULE 10. -/
def eligibleForSnapshot (ctx : AIOrchestrationContext) (c : Classification)
    (divergence : Bool) : Bool :=
  c.tier == .confident && ctx.executionType == "original" && !ctx.aiFinalizedCopy &&
    ctx.aiInsightState == some "AI_REVIEWED" && !c.staleFlag && !divergence &&
    !ctx.complianceHoldFlag

def eligibilityReason (ctx : AIOrchestrationContext) (c : Classification) (divergence : Bool) :
    String :=
  if eligibleForSnapshot ctx c divergence then "CONFIDENT_TIER_FRESH_ORIGINAL_EXECUTION"
  else if c.tier ≠ .confident then "NON_CONFIDENT_TIER_" ++ c.tier.text
  else if c.staleFlag then "STALE_AI_BLOCKS_SNAPSHOT"
  else if divergence then "PROVIDER_IDENTITY_DIVERGENCE"
  else if ctx.complianceHoldFlag then "COMPLIANCE_HOLD_BLOCKS_SNAPSHOT"
  else if ctx.executionType ≠ "original" then "NON_ORIGINAL_EXECUTION"
  else "NOT_ELIGIBLE"

/-- The basis and the outcome of RULE 11. -/
def basisOf (ctx : AIOrchestrationContext) (tier : AiTier) : String :=
  if tier = .finalizedCopy then "FINALIZED_COPY"
  else if isReplayType ctx.executionType then "RULE_BASED"
  else if tier = .confident ∨ tier = .advisory then "AI_ASSISTED"
  else "FALLBACK"

def outcomeOf (tier : AiTier) : String :=
  if tier = .confident ∨ tier = .advisory ∨ tier = .stale then "success" else "degraded"

/-- The codes of RULES 5 and 7. -/
def tierCodes (ctx : AIOrchestrationContext) (c : Classification) : List String :=
  c.codes ++
    if (c.tier = .stale ∨ c.tier = .unavailable) ∧ ctx.executionMode = "LIVE" then
      ["AI_LIVE_ESCALATION_BLOCKED_STALE_TIER"]
    else []

def rulesUpTo (n : Nat) : List String := (List.range (n + 1)).map fun k => "RULE_" ++ toString k

/-- RULES 8 to 11 on a classified insight. -/
def conclude (ctx : AIOrchestrationContext) (thresholdBindings : RuleSet)
    (missingKeys codes : List String) (age : Rat) (c : Classification) : AIAssessment :=
  let codes := codes ++ tierCodes ctx c
  if ctx.circuitBreakerState = "OPEN" then
    makeUnavailableAssessment ctx (codes ++ ["CIRCUIT_BREAKER_OPEN"]) (rulesUpTo 8)
      thresholdBindings "CIRCUIT_OPEN"
  else
    let divergence := providerDivergence ctx thresholdBindings
    let degraded := c.degradationCause.isSome || !missingKeys.isEmpty
    { makeAssessment ctx
        (codes ++ if divergence then ["PROVIDER_IDENTITY_DIVERGENCE"] else []) (rulesUpTo 11)
        thresholdBindings with
      aiGovernanceTier := c.tier
      advisoryScope := scopeOf c.tier
      isReplay := false
      liveInferenceSuppressed := false
      historicalConfigVersionId := none
      assessmentBasis := basisOf ctx c.tier
      outcome := if degraded then "degraded" else outcomeOf c.tier
      confidenceScore := ctx.aiConfidenceScore
      confidenceTier := c.confidenceTier
      staleFlag := c.staleFlag
      staleForHours := c.staleForHours
      insightAgeHours := age
      ttlHoursApplied := threshold thresholdBindings kAiInsightTtlHours
      degraded := degraded
      degradationCause :=
        if !missingKeys.isEmpty && c.degradationCause.isNone then some "CONFIG_THRESHOLDS_MISSING"
        else c.degradationCause
      fallbackApplied := degraded
      fallbackType := if degraded then some "RULE_BASED_ONLY" else none
      advisorySentiment := ctx.aiSentiment
      advisoryRiskSummary := ctx.aiRiskSummary
      advisoryRecommendedIntervention :=
        if c.tier = .confident then ctx.aiRecommendedIntervention else none
      advisoryPrioritizationSignal :=
        if c.tier = .confident then
          some (if confidenceHighFloor ≤ ctx.aiConfidenceScore.getD 0 then "HIGH" else "MEDIUM")
        else none
      eligibleForSnapshot := eligibleForSnapshot ctx c divergence
      eligibilityReason := eligibilityReason ctx c divergence
      provider := ctx.aiModelUsed
      modelIdentifier := ctx.aiModelUsed
      promptVersion := ctx.aiPromptVersion
      aiVersionNumber := ctx.aiInsightVersion }

/-- RULES 1 to 11. -/
def evaluate (env : RuleEnv) (ctx : AIOrchestrationContext) : Except Py.Error AIAssessment :=
  if ctx.aiFinalizedCopy then
    .ok (makeFinalizedCopyAssessment ctx ["AI_FINALIZED_COPY_SERVING"] (rulesUpTo 1))
  else
    let (thresholdBindings, missingKeys) := resolveAiThresholds (ctx.configRuleSet.getD [])
    let missingCodes := missingKeys.map thresholdMissingFlag
    if isReplayType ctx.executionType then
      let sourced := Py.truthyText ctx.sourceArtifactId
      .ok (makeReplayAssessment ctx
        ("REPLAY_MODE_ACTIVE" :: missingCodes ++
          if sourced then [] else ["REPLAY_AI_SOURCE_MISSING"])
        (rulesUpTo 3) thresholdBindings (if sourced then "FINALIZED_COPY" else "NONE"))
    else if (ctx.aiInsightState.any inFlightStates.contains) then
      .ok (makeInFlightAssessment ctx (missingCodes ++ ["AI_IN_FLIGHT"]) (rulesUpTo 4)
        thresholdBindings)
    else if ctx.aiInsightId.isNone then
      .ok (makeUnavailableAssessment ctx (missingCodes ++ ["AI_INSIGHT_ABSENT"]) (rulesUpTo 4)
        thresholdBindings "PROVIDER_UNAVAILABLE")
    else if ctx.aiInsightState ≠ some "AI_REVIEWED" then
      .ok (makeUnavailableAssessment ctx (missingCodes ++ ["AI_NOT_REVIEWED"]) (rulesUpTo 5)
        thresholdBindings "PROVIDER_UNAVAILABLE")
    else do
      let age := computeInsightAgeHours env ctx.aiGeneratedAt
      let found ← staleness age (threshold thresholdBindings kAiInsightTtlHours)
      return conclude ctx thresholdBindings missingKeys missingCodes age
        (classifyTier age ctx.aiConfidenceScore found)

/-- The idempotency store after the gate has passed: original executions are registered. -/
def registerKey (keys : List String) (ctx : AIOrchestrationContext) : List String :=
  match ctx.idempotencyKey with
  | some key => if key ≠ "" ∧ ctx.executionType = "original" then key :: keys else keys
  | none => keys

/-- `assess_ai_orchestration`: the idempotency store it leaves, and the assessment. -/
def assessAiOrchestration (env : RuleEnv) (keys : List String) (ctx : AIOrchestrationContext) :
    List String × Except Py.Error AIAssessment :=
  match governancePreconditionGate keys ctx with
  | code :: codes =>
    (keys, .ok (makeBlockedAssessment ctx (code :: codes) (rulesUpTo 0) code))
  | [] => (registerKey keys ctx, evaluate env ctx)

end AiOrchestration
end StudentSuccess
