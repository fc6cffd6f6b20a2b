import StudentSuccess.Advisory

namespace StudentSuccess
namespace Prioritization
set_option autoImplicit true

def validExecutionModes : List String := ["SHADOW", "LIVE"]

def validExecutionTypes : List String := ["original", "replay", "regeneration", "recovery"]

def kHwsBehindHighRisk : String := "hws_behind_high_risk_threshold"
def kHwsBehindModerate : String := "hws_behind_moderate_threshold"
def kAvgEffRating : String := "avg_eff_rating_low_risk_threshold"
def kInactivityHighRisk : String := "last_activity_high_risk_days"
def kInactivityModerate : String := "last_activity_moderate_days"
def kPaymentRisk : String := "payment_balance_risk_threshold"
def kEscalationRepeat : String := "prior_escalation_repeat_threshold"
def kAiInsightTtlHours : String := "ai_insight_ttl_hours"

def priorityThresholdKeys : List String :=
  [kHwsBehindHighRisk, kHwsBehindModerate, kAvgEffRating, kInactivityHighRisk,
    kInactivityModerate, kPaymentRisk, kEscalationRepeat, kAiInsightTtlHours]

structure PrioritizationContext where
  configVersionId : Option String
  executionMode : String
  executionType : String
  correlationId : Option String
  configRuleSet : Option RuleSet := none
  causationId : Option String := none
  orchestrationCycleId : Option String := none
  idempotencyKey : Option String := none
  maintenanceModeActive : Bool := false
  originSource : Option String := none
  originAuthority : Option String := none
  actorIdentity : Option String := none
  attributionTimestamp : Option String := none
  upstreamCorrelationId : Option String := none
  hwsBehind : Option Int := none
  avgEffRating : Option Rat := none
  lastActivityDays : Option Int := none
  paymentBalance : Option Rat := none
  accessLastChangedDays : Option Int := none
  historicalRiskTrend : Option String := none
  priorEscalationCount : Option Int := none
  aiInsightState : Option String := none
  aiConfidenceScore : Option Rat := none
  aiRecommendedIntervention : Option String := none
  aiStaleFlag : Option Bool := none
  aiFinalizedCopy : Bool := false
  sourceArtifactId : Option String := none
  historicalConfigVersionId : Option String := none
  executionStateBefore : Option String := none
  executionStateAfter : Option String := none

inductive Contribution
  | high
  | medium
  | low
  deriving DecidableEq, Repr

structure ScoringFactor where
  factor : String
  contribution : Contribution
  thresholdKey : String
  value : Py.Value

/-- The prioritization record, less its event id and duration. -/
structure PrioritizationRecord where
  advisoryPriority : Priority
  governanceScope : String
  assessmentBasis : String
  isReplay : Bool
  liveEffectsSuppressed : Bool
  originSource : Option String
  originAuthority : Option String
  actorIdentity : Option String
  attributionTimestamp : Option String
  upstreamCorrelationId : Option String
  configVersionId : Option String
  historicalConfigVersionId : Option String
  thresholdBindings : RuleSet
  correlationId : Option String
  causationId : Option String
  orchestrationCycleId : Option String
  executionType : String
  executionMode : String
  rulePathTaken : List String
  outcome : String
  errorClass : Option String
  scoringFactors : List ScoringFactor
  riskContributions : List Contribution
  aiGovernanceTier : AiTier
  aiConfidenceScore : Option Rat
  aiPriorityAdjustmentApplied : Bool
  aiFallbackApplied : Bool
  executionStateBefore : Option String
  executionStateAfter : Option String
  causationChainPreserved : Bool
  appendOnlyEnforced : Bool
  replayLineagePreserved : Bool
  scoringLineageImmutable : Bool
  scoringEmitAuthorized : Bool
  degraded : Bool
  degradationFlags : List String
  degradationCause : Option String
  reasonCodes : List String
  orchestrationBlocked : Bool
  blockingReason : Option String
  orchestrationContinues : Bool

/-- RULE 0: the codes of the preconditions that fail. -/
def governancePreconditionGate (keys : List String) (ctx : PrioritizationContext) : List String :=
  (if ctx.executionMode ∉ validExecutionModes then ["INVALID_EXECUTION_MODE"] else []) ++
  (if ctx.executionType ∉ validExecutionTypes then ["INVALID_EXECUTION_TYPE"] else []) ++
  (if !Py.truthyText ctx.configVersionId then ["CONFIG_VERSION_ID_MISSING"] else []) ++
  (if !Py.truthyText ctx.correlationId then ["CORRELATION_ID_MISSING"] else []) ++
  (if !Py.truthyText ctx.originSource then ["ORIGIN_SOURCE_MISSING"] else []) ++
  (if !Py.truthyText ctx.originAuthority then ["ORIGIN_AUTHORITY_MISSING"] else []) ++
  (if !Py.truthyText ctx.actorIdentity then ["ACTOR_IDENTITY_MISSING"] else []) ++
  (match ctx.idempotencyKey with
    | some key =>
      if key ≠ "" ∧ key ∈ keys then ["IDEMPOTENCY_DUPLICATE_DETECTED"] else []
    | none => [])

def resolvable (v : Py.Value) : Bool := !isUnknownV0 v

def makeUnevaluated (ctx : PrioritizationContext) (codes rulePath : List String) :
    PrioritizationRecord where
  advisoryPriority := .unknown
  governanceScope := "UNAVAILABLE"
  assessmentBasis := "RULE_BASED"
  isReplay := isReplayType ctx.executionType
  liveEffectsSuppressed := true
  originSource := ctx.originSource
  originAuthority := ctx.originAuthority
  actorIdentity := ctx.actorIdentity
  attributionTimestamp := ctx.attributionTimestamp
  upstreamCorrelationId := ctx.upstreamCorrelationId
  configVersionId := ctx.configVersionId
  historicalConfigVersionId := ctx.historicalConfigVersionId
  thresholdBindings := priorityThresholdKeys.map fun k => (k, unknownV0)
  correlationId := ctx.correlationId
  causationId := ctx.causationId
  orchestrationCycleId := ctx.orchestrationCycleId
  executionType := ctx.executionType
  executionMode := ctx.executionMode
  rulePathTaken := rulePath
  outcome := "failure"
  errorClass := none
  scoringFactors := []
  riskContributions := []
  aiGovernanceTier := .unavailable
  aiConfidenceScore := ctx.aiConfidenceScore
  aiPriorityAdjustmentApplied := false
  aiFallbackApplied := false
  executionStateBefore := ctx.executionStateBefore
  executionStateAfter := ctx.executionStateAfter
  causationChainPreserved := Py.truthyText ctx.causationId
  appendOnlyEnforced := true
  replayLineagePreserved := true
  scoringLineageImmutable := true
  scoringEmitAuthorized := false
  degraded := false
  degradationFlags := []
  degradationCause := none
  reasonCodes := codes
  orchestrationBlocked := false
  blockingReason := none
  orchestrationContinues := false

def makeBlockedPriorityRecord (ctx : PrioritizationContext) (codes rulePath : List String)
    (blockingReason : Option String) : PrioritizationRecord :=
  { makeUnevaluated ctx codes rulePath with
    errorClass := some "GovernancePreconditionError"
    orchestrationBlocked := true
    blockingReason := blockingReason }

def makeMaintenancePriorityRecord (ctx : PrioritizationContext) (codes rulePath : List String) :
    PrioritizationRecord :=
  { makeUnevaluated ctx codes rulePath with
    governanceScope := "MAINTENANCE"
    isReplay := false
    historicalConfigVersionId := none
    outcome := "success" }

def makeReplayPriorityRecord (ctx : PrioritizationContext) (codes rulePath : List String)
    (thresholdBindings : RuleSet) : PrioritizationRecord :=
  let sourceMissing := !Py.truthyText ctx.sourceArtifactId
  { makeUnevaluated ctx codes rulePath with
    governanceScope := "REPLAY_ONLY"
    assessmentBasis := "HISTORICAL_REPLAY"
    isReplay := true
    thresholdBindings := thresholdBindings
    outcome := if sourceMissing then "degraded" else "success"
    degraded := sourceMissing
    degradationFlags := if sourceMissing then ["REPLAY_SOURCE_ARTIFACT_MISSING"] else []
    degradationCause := if sourceMissing then some "REPLAY_SOURCE_ARTIFACT_MISSING" else none
    orchestrationContinues := true }

/-- `_make_priority_record`; the fields an evaluation settles are set on its result. -/
def makePriorityRecord (ctx : PrioritizationContext) (codes rulePath : List String)
    (thresholdBindings : RuleSet) (governanceScope : String) : PrioritizationRecord :=
  { makeUnevaluated ctx codes rulePath with
    governanceScope := governanceScope
    isReplay := false
    liveEffectsSuppressed := governanceScope != "AUTHORIZED"
    thresholdBindings := thresholdBindings
    orchestrationContinues := governanceScope != "UNAVAILABLE" }

def classifyAiTier (ctx : PrioritizationContext) (thresholds : RuleSet) : AiTier :=
  let byConfidence : AiTier :=
    match ctx.aiConfidenceScore with
    | some confidence => if 7 / 10 ≤ confidence then .confident else .advisory
    | none => .advisory
  if ctx.aiFinalizedCopy then .finalizedCopy
  else if ctx.aiInsightState = some "AI_GENERATING" ∨ ctx.aiInsightState = some "AI_PENDING" then
    .inFlight
  else if ctx.aiInsightState = some "AI_GENERATION_FAILED" ∨
      ctx.aiInsightState = some "AI_ARCHIVED" ∨ !Py.truthyText ctx.aiInsightState then
    .unavailable
  else if ctx.aiInsightState = some "AI_REVIEWED" then
    match ctx.aiStaleFlag with
    | some true => .stale
    | some false => byConfidence
    | none =>
      if isUnknownV0 (threshold thresholds kAiInsightTtlHours) then .unavailable
      else byConfidence
  else .unavailable

/-- The threshold is a number, and the value stands in the relation to it. -/
def passes (rel : Rat → Rat → Bool) (x : Rat) (v : Py.Value) : Bool :=
  match v.num? with
  | some y => rel x y
  | none => false

def atLeast (x y : Rat) : Bool := decide (y ≤ x)

def above (x y : Rat) : Bool := decide (y < x)

def below (x y : Rat) : Bool := decide (x < y)

/-- A factor with the code it adds. -/
abbrev Scored := List (ScoringFactor × String)

def scored (factor : String) (contribution : Contribution) (key : String) (value : Py.Value)
    (code : String) : Scored :=
  [({ factor := factor, contribution := contribution, thresholdKey := key, value := value }, code)]

/-- A factor with a threshold for high risk and one for medium risk. -/
def twoTier (rel : Rat → Rat → Bool) (factor : String) (x : Option Int) (th : String → Py.Value)
    (keyHigh keyMod codeHigh codeMod : String) : Scored :=
  match x with
  | some n =>
    if passes rel n (th keyHigh) then scored factor .high keyHigh (.int n) codeHigh
    else if passes rel n (th keyMod) then scored factor .medium keyMod (.int n) codeMod
    else []
  | none => []

def effortFactor (ctx : PrioritizationContext) (th : String → Py.Value) : Scored :=
  match ctx.avgEffRating with
  | some x =>
    if passes below x (th kAvgEffRating) then
      scored "avg_eff_rating" .medium kAvgEffRating (.float x) "EFF_RATING_MEDIUM_RISK"
    else []
  | none => []

def paymentFactor (ctx : PrioritizationContext) (th : String → Py.Value) : Scored :=
  match ctx.paymentBalance with
  | some x =>
    if passes above x (th kPaymentRisk) then
      scored "payment_balance" .medium kPaymentRisk (.float x) "PAYMENT_BALANCE_MEDIUM_RISK"
    else []
  | none => []

def escalationFactor (ctx : PrioritizationContext) (th : String → Py.Value) : Scored :=
  match ctx.priorEscalationCount with
  | some n =>
    if passes atLeast n (th kEscalationRepeat) then
      scored "prior_escalation_count" .high kEscalationRepeat (.int n)
        "ESCALATION_RECURRENCE_HIGH_RISK"
    else []
  | none => []

def trendFactor (ctx : PrioritizationContext) : Scored :=
  if ctx.historicalRiskTrend = some "CRITICAL" then
    scored "historical_risk_trend" .high "historical_risk_trend" (.str "CRITICAL")
      "HISTORICAL_TREND_CRITICAL"
  else if ctx.historicalRiskTrend = some "DECLINING" then
    scored "historical_risk_trend" .medium "historical_risk_trend" (.str "DECLINING")
      "HISTORICAL_TREND_DECLINING"
  else []

def accessFactor (ctx : PrioritizationContext) : Scored :=
  match ctx.accessLastChangedDays with
  | some n =>
    if n ≤ 7 then
      scored "access_last_changed_days" .low "access_last_changed_days" (.int n)
        "ACCESS_TRANSITION_RECENT"
    else []
  | none => []

def aiFactor (ctx : PrioritizationContext) (aiTier : AiTier) : Scored :=
  if ctx.aiRecommendedIntervention = some "ESCALATE" then
    match aiTier with
    | .confident => scored "ai_escalation_signal" .high "ai_recommended_intervention"
        (.str "ESCALATE") "AI_ESCALATION_SIGNAL_CONFIDENT"
    | .advisory => scored "ai_escalation_signal" .medium "ai_recommended_intervention"
        (.str "ESCALATE") "AI_ESCALATION_SIGNAL_ADVISORY"
    | .stale => scored "ai_escalation_signal_stale" .low "ai_recommended_intervention"
        (.str "ESCALATE") "AI_ESCALATION_SIGNAL_STALE_LOW"
    | _ => []
  else []

/-- `_score_risk_factors`: RULE 6. -/
def scoreRiskFactors (ctx : PrioritizationContext) (thresholds : RuleSet) (aiTier : AiTier) :
    Scored :=
  let th := threshold thresholds
  twoTier atLeast "hws_behind" ctx.hwsBehind th kHwsBehindHighRisk kHwsBehindModerate
    "HWS_BEHIND_HIGH_RISK" "HWS_BEHIND_MODERATE_RISK" ++
  effortFactor ctx th ++
  twoTier above "last_activity_days" ctx.lastActivityDays th kInactivityHighRisk
    kInactivityModerate "INACTIVITY_HIGH_RISK" "INACTIVITY_MODERATE_RISK" ++
  paymentFactor ctx th ++ escalationFactor ctx th ++ trendFactor ctx ++ accessFactor ctx ++
  aiFactor ctx aiTier

/-- `_aggregate_priority`: RULE 7. -/
def aggregatePriority (contributions : List Contribution) : Priority :=
  let high := contributions.count .high
  let med := contributions.count .medium
  if 2 ≤ high then .critical
  else if 1 ≤ high ∧ 1 ≤ med then .high
  else if 1 ≤ high then .medium
  else if 1 ≤ med then .medium
  else .low

def upwardRecommendations : List String := ["MEETING", "OUTREACH", "RESOURCE_DELIVERY"]

def raiseLevel (priority : Priority) (code : String) : Priority × Bool × List String :=
  match priority with
  | .high => (.critical, true, [code])
  | .medium => (.high, true, [code])
  | .low => (.medium, true, [code])
  | priority => (priority, false, [])

/-- `_apply_ai_adjustment`: RULE 8, with the codes it adds. -/
def applyAiAdjustment (priority : Priority) (aiTier : AiTier) (intervention : Option String) :
    Priority × Bool × List String :=
  match aiTier with
  | .confident =>
    if intervention = some "ESCALATE" then (.critical, true, ["AI_CONFIDENT_ESCALATE_TO_CRITICAL"])
    else if intervention.any (upwardRecommendations.contains ·) then
      raiseLevel priority "AI_CONFIDENT_PRIORITY_UPGRADED"
    else (priority, false, [])
  | .advisory =>
    if intervention = some "ESCALATE" then raiseLevel priority "AI_ADVISORY_PRIORITY_UPGRADED"
    else (priority, false, [])
  | .stale => (priority, false, ["STALE_AI_PRIORITIZATION_SKIPPED"])
  | .unavailable => (priority, false, ["AI_UNAVAILABLE_FALLBACK_APPLIED"])
  | .finalizedCopy => (priority, false, ["AI_FINALIZED_COPY_NOT_APPLIED"])
  | .inFlight => (priority, false, [])

/-- RULE 5A. -/
def deferredRecord (ctx : PrioritizationContext) (bindings : RuleSet) (codes path : List String)
    (aiTier : AiTier) : PrioritizationRecord :=
  { makePriorityRecord ctx (codes ++ ["AI_INSIGHT_IN_FLIGHT_DEFER"]) (path ++ ["RULE_5A"])
      bindings "SHADOW_ONLY" with
    aiGovernanceTier := aiTier
    outcome := "deferred" }

/-- RULES 6 to 10. -/
def scoredRecord (ctx : PrioritizationContext) (bindings : RuleSet) (codes path flags : List String)
    (aiTier : AiTier) : PrioritizationRecord :=
  let factors := scoreRiskFactors ctx bindings aiTier
  let contributions := factors.map (·.1.contribution)
  let basePriority := aggregatePriority contributions
  let (priority, adjusted, adjustmentCodes) :=
    applyAiAdjustment basePriority aiTier ctx.aiRecommendedIntervention
  let fallback := aiTier == .unavailable
  -- RULE 9 waits for the Phase-12 certification: a live execution gets the shadow scope too.
  let scopeCodes :=
    if ctx.executionMode = "SHADOW" then [] else ["LIVE_SCOPE_SHADOW_ONLY_PHASE11"]
  { makePriorityRecord ctx
      (codes ++ factors.map (·.2) ++ ["BASE_PRIORITY_" ++ basePriority.text] ++ adjustmentCodes ++
        scopeCodes)
      (path ++ ["RULE_6", "RULE_7", "RULE_8", "RULE_9", "RULE_10"]) bindings "SHADOW_ONLY" with
    advisoryPriority := priority
    assessmentBasis :=
      if adjusted then "AI_ASSISTED" else if fallback then "FALLBACK" else "RULE_BASED"
    scoringFactors := factors.map (·.1)
    riskContributions := contributions
    aiGovernanceTier := aiTier
    aiPriorityAdjustmentApplied := adjusted
    aiFallbackApplied := fallback
    degraded := !flags.isEmpty
    degradationFlags := flags
    degradationCause := flags.head?
    outcome := "shadow_only"
    scoringEmitAuthorized := false }

/-- RULES 3 to 10, on an original or recovery execution that is not suspended. -/
def evaluate (ctx : PrioritizationContext) : PrioritizationRecord :=
  let ruleSet := ctx.configRuleSet.getD []
  let bindings := resolveThresholds resolvable priorityThresholdKeys ruleSet
  let flags :=
    (missingThresholdKeys resolvable priorityThresholdKeys ruleSet).map thresholdMissingFlag
  let aiTier := classifyAiTier ctx bindings
  let codes := flags ++ ["AI_TIER_" ++ aiTier.text]
  let path := ["RULE_0", "RULE_1", "RULE_2", "RULE_3", "RULE_4", "RULE_5"]
  if aiTier = .inFlight ∧ ctx.executionType = "original" then
    deferredRecord ctx bindings codes path aiTier
  else scoredRecord ctx bindings codes path flags aiTier

def registerKey (keys : List String) (ctx : PrioritizationContext) : List String :=
  match ctx.idempotencyKey with
  | some key => if key ≠ "" ∧ ctx.executionType = "original" then key :: keys else keys
  | none => keys

/-- `assess_orchestration_priority`: the idempotency store it leaves, and its record. -/
def assessOrchestrationPriority (keys : List String) (ctx : PrioritizationContext) :
    List String × PrioritizationRecord :=
  let gateCodes := governancePreconditionGate keys ctx
  if gateCodes ≠ [] then
    (keys, makeBlockedPriorityRecord ctx gateCodes ["RULE_0"] gateCodes.head?)
  else if ctx.maintenanceModeActive then
    (registerKey keys ctx,
      makeMaintenancePriorityRecord ctx ["MAINTENANCE_MODE_ACTIVE"] ["RULE_0", "RULE_1"])
  else if isReplayType ctx.executionType then
    (registerKey keys ctx,
      makeReplayPriorityRecord ctx
        (["REPLAY_MODE_ACTIVE"] ++
          if !Py.truthyText ctx.sourceArtifactId then ["REPLAY_SOURCE_ARTIFACT_MISSING"] else [])
        ["RULE_0", "RULE_1", "RULE_2"] [])
  else (registerKey keys ctx, evaluate ctx)

theorem evaluate_unauthorized (ctx : PrioritizationContext) :
    (evaluate ctx).scoringEmitAuthorized = false ∧
      (evaluate ctx).governanceScope = "SHADOW_ONLY" := by
  unfold evaluate
  dsimp only
  split_ifs
  · exact ⟨rfl, rfl⟩
  · exact ⟨rfl, rfl⟩

/-- No prioritization record is authorized. -/
theorem assessOrchestrationPriority_unauthorized (keys : List String)
    (ctx : PrioritizationContext) :
    (assessOrchestrationPriority keys ctx).2.scoringEmitAuthorized = false ∧
      (assessOrchestrationPriority keys ctx).2.governanceScope ≠ "AUTHORIZED" := by
  unfold assessOrchestrationPriority
  dsimp only
  split_ifs
  · exact ⟨rfl, by simp [makeBlockedPriorityRecord, makeUnevaluated]⟩
  · exact ⟨rfl, by simp [makeMaintenancePriorityRecord]⟩
  · exact ⟨rfl, by simp [makeReplayPriorityRecord]⟩
  · exact ⟨rfl, by simp [makeReplayPriorityRecord]⟩
  · obtain ⟨hemit, hscope⟩ := evaluate_unauthorized ctx
    exact ⟨hemit, by simp [hscope]⟩

end Prioritization
end StudentSuccess
