import StudentSuccess.Advisory
import StudentSuccess.RuleChain

namespace StudentSuccess
namespace Decision
set_option autoImplicit true

open RuleChain

abbrev Rule := RuleChain.Rule Py.Error

inductive IntentType
  | initiateOutreach
  | retryOutreach
  | escalateToOperator
  | recommendIntervention
  | deferPendingAi
  | closeOrchestration
  | noEligibleIntent
  deriving DecidableEq, Repr

def IntentType.text : IntentType → String
  | .initiateOutreach => "INITIATE_OUTREACH"
  | .retryOutreach => "RETRY_OUTREACH"
  | .escalateToOperator => "ESCALATE_TO_OPERATOR"
  | .recommendIntervention => "RECOMMEND_INTERVENTION"
  | .deferPendingAi => "DEFER_PENDING_AI"
  | .closeOrchestration => "CLOSE_ORCHESTRATION"
  | .noEligibleIntent => "NO_ELIGIBLE_INTENT"

def kMaxAttempts : String := "outreach_max_attempts"
def kHwsRisk : String := "hws_behind_high_risk_threshold"
def kEffRisk : String := "avg_eff_rating_low_risk_threshold"
def kInactivityRisk : String := "last_activity_high_risk_days"
def kPaymentRisk : String := "payment_balance_risk_threshold"
def kAiTtl : String := "ai_insight_ttl_hours"
def kEscalationRepeat : String := "prior_escalation_repeat_threshold"
def kSyncAge : String := "sql_server_max_sync_age_hours"

def thresholdKeys : List String :=
  [kMaxAttempts, kHwsRisk, kEffRisk, kInactivityRisk, kPaymentRisk, kAiTtl, kEscalationRepeat,
    kSyncAge]

def validModes : List String := ["SHADOW", "LIVE"]

def terminalStates : List String := ["CLOSED"]

def requiredAttribution : List String :=
  ["origin_source", "origin_authority", "attribution_timestamp"]

structure GovernanceContext where
  configVersionId : Option String
  configRuleSet : RuleSet
  executionMode : String
  executionType : String
  correlationId : Option String
  causationId : Option String
  attributionContext : List (String × Py.Value)
  fingerprintContext : Option (List (String × Py.Value))
  complianceHoldFlag : Bool := false

structure AcademicContext where
  userId : Option Int
  accessState : Option String
  hwsBehind : Option Int
  avgEffRating : Option Rat
  lastActivityDays : Option Int
  paymentBalance : Option Rat

structure OperationalContext where
  outreachState : Option String
  contactAttemptCount : Int
  retryEligible : Bool

structure AIInputContext where
  aiInsightState : Option String
  aiConfidenceScore : Option Rat
  aiStaleFlag : Bool
  aiFinalizedCopy : Bool
  aiRecommendedIntervention : Option String

structure HistoricalContext where
  historicalRiskTrend : Option String
  priorEscalationCount : Int := 0

structure DecisionContext where
  governance : GovernanceContext
  academic : AcademicContext
  operational : OperationalContext
  ai : AIInputContext
  historical : HistoricalContext

structure EscalationMetadata where
  escalationRequired : Bool := false
  escalationUrgency : String := "LOW"
  escalationReasonCodes : List String := []
  escalationContext : List (String × String) := []

structure AIOutputContext where
  aiInputUsed : Bool := false
  aiGovernanceTier : AiTier := .unavailable
  aiConfidenceScore : Rat := 0
  staleFlag : Bool := false
  fallbackApplied : Bool := false

structure ReplaySafetyMetadata where
  isReplay : Bool := false
  sourceArtifactId : Option String := none
  historicalConfigVersionId : Option String := none
  fingerprintComparisonOutcome : Option String := none
  replaySafe : Bool := true

structure OrchestrationIntent where
  orchestrationIntent : IntentType
  intentConfidence : Rat
  recommendedExecutionPath : String
  executionMode : String
  executionType : String
  governanceScope : String
  correlationId : Option String
  causationId : Option String
  configVersionId : Option String
  attributionMetadata : List (String × Py.Value)
  rulePathTaken : List String
  decisionBasis : String
  escalationMetadata : EscalationMetadata
  replaySafetyMetadata : ReplaySafetyMetadata
  aiContext : AIOutputContext
  reasonCodes : List String
  intentBlocked : Bool := false
  blockingReason : Option String := none

structure GovernanceDecisionResult where
  intent : OrchestrationIntent
  riskLevel : Option Priority
  configThresholdWarnings : List String
  degradationFlags : List String
  studentIdOpaque : Option String

/-- RULE 0: the codes of the preconditions that fail. -/
def preconditionCodes (gov : GovernanceContext) : List String :=
  (if !Py.truthyText gov.configVersionId then ["CONFIG_UNRESOLVED"] else []) ++
  (if gov.executionMode ∉ validModes then ["EXECUTION_MODE_INVALID"] else []) ++
  (if !Py.truthyText gov.correlationId then ["CORRELATION_ID_MISSING"] else []) ++
  (if requiredAttribution.any fun k => isNone (item gov.attributionContext k) then
    ["ATTRIBUTION_INCOMPLETE"] else []) ++
  (if isReplayType gov.executionType && noItems gov.fingerprintContext then
    ["REPLAY_FINGERPRINT_MISSING"] else [])

def validateGovernancePreconditions (gov : GovernanceContext) : Option OrchestrationIntent :=
  let codes := preconditionCodes gov
  if codes = [] then none
  else some
    { orchestrationIntent := .noEligibleIntent
      intentConfidence := 1
      recommendedExecutionPath := ""
      executionMode := if gov.executionMode = "" then "UNKNOWN" else gov.executionMode
      executionType := gov.executionType
      governanceScope := "UNAVAILABLE"
      correlationId := gov.correlationId
      causationId := gov.causationId
      configVersionId := gov.configVersionId
      attributionMetadata := gov.attributionContext
      rulePathTaken := ["RULE_0"]
      decisionBasis := "RULE_BASED"
      escalationMetadata := {}
      replaySafetyMetadata := {}
      aiContext := {}
      reasonCodes := codes
      intentBlocked := true
      blockingReason := some "GOVERNANCE_PRECONDITION_FAILED" }

/-- An absent key, `None` and the sentinel all resolve to the sentinel. -/
def resolvable (v : Py.Value) : Bool := (comparable v).isSome

/-- The thresholds of `_extract_thresholds`. -/
def thresholds (ctx : DecisionContext) : RuleSet :=
  resolveThresholds resolvable thresholdKeys ctx.governance.configRuleSet

/-- The warnings of `_extract_thresholds`. -/
def thresholdWarnings (ctx : DecisionContext) : List String :=
  (missingThresholdKeys resolvable thresholdKeys ctx.governance.configRuleSet).map
    ("CONFIG_THRESHOLD_MISSING_" ++ ·)

def t (ctx : DecisionContext) (key : String) : Option Py.Value :=
  comparable (threshold (thresholds ctx) key)

def assessAiTier (ai : AIInputContext) : AiTier × AIOutputContext :=
  if ai.aiFinalizedCopy then (.finalizedCopy, { aiGovernanceTier := .finalizedCopy })
  else if ai.aiInsightState = some "AI_GENERATING" ∨ ai.aiInsightState = some "AI_PENDING" then
    (.inFlight, { aiGovernanceTier := .inFlight })
  else if ai.aiInsightState = none ∨ ai.aiInsightState = some "AI_GENERATION_FAILED" then
    (.unavailable, { aiGovernanceTier := .unavailable, fallbackApplied := true })
  else if ai.aiInsightState = some "AI_REVIEWED" then
    if ai.aiStaleFlag then (.stale, { aiGovernanceTier := .stale, staleFlag := true })
    else
      let score := ai.aiConfidenceScore.getD 0
      let tier : AiTier := if 7 / 10 ≤ score then .confident else .advisory
      (tier, { aiGovernanceTier := tier, aiConfidenceScore := score })
  else (.unavailable, { aiGovernanceTier := .unavailable, fallbackApplied := true })

/-- A factor that a comparison adds when it holds. -/
def factor (crossed : Except Py.Error Bool) (name : String) : Except Py.Error (List String) :=
  crossed.map fun crossed => if crossed then [name] else []

def trendHigh (ctx : DecisionContext) : List String :=
  if ctx.historical.historicalRiskTrend = some "CRITICAL" then ["HISTORICAL_TREND_CRITICAL"] else []

def trendMed (ctx : DecisionContext) : List String :=
  if ctx.historical.historicalRiskTrend = some "DECLINING" then ["HISTORICAL_TREND_DECLINING"]
  else []

def aiHigh (ctx : DecisionContext) (aiTier : AiTier) : List String :=
  if aiTier = .confident ∧ ctx.ai.aiRecommendedIntervention = some "ESCALATE" then
    ["AI_CONFIDENT_ESCALATE_SIGNAL"]
  else []

def aiMed (ctx : DecisionContext) (aiTier : AiTier) : List String :=
  if aiTier = .advisory ∧ ctx.ai.aiRecommendedIntervention = some "ESCALATE" then
    ["AI_ADVISORY_ESCALATE_SIGNAL"]
  else []

def riskLevel (high med : List String) : Priority :=
  if 2 ≤ high.length then .critical
  else if high ≠ [] ∧ med ≠ [] then .high
  else if high ≠ [] ∨ med ≠ [] then .medium
  else .low

/-- `_compute_risk`: the level and the factors. -/
def computeRisk (ctx : DecisionContext) (aiTier : AiTier) :
    Except Py.Error (Priority × List String) := do
  let academic := ctx.academic
  let hws ← factor (crosses Py.geValue (academic.hwsBehind.map (↑)) (t ctx kHwsRisk))
    "HWS_DELINQUENCY"
  let effort ← factor (crosses Py.ltValue academic.avgEffRating (t ctx kEffRisk)) "EFFORT_DECLINE"
  let inactivity ← factor
    (crosses Py.gtValue (academic.lastActivityDays.map (↑)) (t ctx kInactivityRisk)) "INACTIVITY"
  let payment ← factor (crosses Py.gtValue academic.paymentBalance (t ctx kPaymentRisk))
    "PAYMENT_RISK"
  let escalation ← factor
    (crosses Py.geValue (some ctx.historical.priorEscalationCount) (t ctx kEscalationRepeat))
    "ESCALATION_RECURRENCE"
  let high := hws ++ inactivity ++ escalation ++ trendHigh ctx ++ aiHigh ctx aiTier
  let med := effort ++ payment ++ trendMed ctx ++ aiMed ctx aiTier
  return (riskLevel high med, high ++ med)

def fingerprintKeys : List String :=
  ["fingerprint_schema_version", "fingerprint_config_registry_version",
    "fingerprint_ai_prompt_version", "fingerprint_ai_model_version"]

def compareFingerprints (fingerprint : Option (List (String × Py.Value))) : String :=
  if noItems fingerprint then "UNKNOWN"
  else if fingerprintKeys.any fun k => (comparable (item (fingerprint.getD []) k)).isNone then
    "UNKNOWN"
  else "MATCH"

def governanceScope (executionMode executionType : String) : String :=
  if isReplayType executionType then "REPLAY_ONLY"
  else if executionMode = "SHADOW" then "SHADOW_ONLY"
  else "AUTHORIZED"

/-- `_intent`. -/
def makeIntent (ctx : DecisionContext) (intentType : IntentType) (confidence : Rat)
    (execPath : String) (rulePath reasonCodes : List String) (basis : String)
    (esc : EscalationMetadata) (ai : AIOutputContext) : OrchestrationIntent :=
  let gov := ctx.governance
  { orchestrationIntent := intentType
    intentConfidence := confidence
    recommendedExecutionPath := execPath
    executionMode := gov.executionMode
    executionType := gov.executionType
    governanceScope := governanceScope gov.executionMode gov.executionType
    correlationId := gov.correlationId
    causationId := gov.causationId
    configVersionId := gov.configVersionId
    attributionMetadata := gov.attributionContext
    rulePathTaken := rulePath
    decisionBasis := basis
    escalationMetadata := esc
    replaySafetyMetadata := {}
    aiContext := ai
    reasonCodes := reasonCodes }

/-- The local variables of the evaluation from RULE 1 on. -/
structure Deliberation where
  path : List String
  aiTier : AiTier := .unavailable
  aiOut : AIOutputContext := {}
  riskLevel : Option Priority := none
  r10Intent : Option IntentType := none
  r10Codes : List String := []

/-- The intent and the risk level an exit returns. -/
structure Decided where
  intent : OrchestrationIntent
  riskLevel : Option Priority := none

def Deliberation.rule (s : Deliberation) (name : String) : Deliberation :=
  { s with path := s.path ++ [name] }

def escalation (urgency code : String) : EscalationMetadata where
  escalationRequired := true
  escalationUrgency := urgency
  escalationReasonCodes := [code]

def rule1 (ctx : DecisionContext) : Rule Deliberation Decided := fun s =>
  if ctx.operational.outreachState.any (terminalStates.contains ·) then
    .ok (.exit
      { intent := makeIntent ctx .noEligibleIntent 1 "" (s.path ++ ["RULE_1"])
          ["OUTREACH_CLOSED_TERMINAL"] "RULE_BASED" {} {} })
  else .ok (.next (s.rule "RULE_1_PASS"))

def rule2 (ctx : DecisionContext) : Rule Deliberation Decided := fun s =>
  if ctx.governance.complianceHoldFlag then
    let esc := { escalation "HIGH" "COMPLIANCE_HOLD_ACTIVE" with
      escalationContext :=
        [("note", "Automated orchestration suspended pending hold resolution.")] }
    .ok (.exit
      { intent := makeIntent ctx .escalateToOperator 1
          "escalation_routing_service.handle_compliance_hold" (s.path ++ ["RULE_2"])
          ["COMPLIANCE_HOLD_ACTIVE"] "RULE_BASED" esc {} })
  else .ok (.next (s.rule "RULE_2_PASS"))

def rule4 (ctx : DecisionContext) : Rule Deliberation Decided := fun s =>
  if ctx.academic.accessState = some "REVOKED" then
    .ok (.exit
      { intent := makeIntent ctx .escalateToOperator 1
          "escalation_routing_service.handle_access_revoked" (s.path ++ ["RULE_4"])
          ["ACCESS_REVOKED_SQL_SERVER_AUTHORITATIVE"] "RULE_BASED"
          (escalation "HIGH" "ACCESS_REVOKED") {} })
  else if ctx.academic.accessState = some "SUSPENDED" then
    .ok (.exit
      { intent := makeIntent ctx .noEligibleIntent 1 "" (s.path ++ ["RULE_4"])
          ["ACCESS_SUSPENDED_AWAIT_RESTORATION"] "RULE_BASED" {} {} })
  else .ok (.next (s.rule "RULE_4_PASS"))

/-- RULES 5 and 5A. -/
def rule5 (ctx : DecisionContext) : Rule Deliberation Decided := fun s =>
  let s := s.rule "RULE_5"
  let (tier, out) := assessAiTier ctx.ai
  if tier = .inFlight ∧ ctx.governance.executionType = "original" then
    .ok (.exit
      { intent := makeIntent ctx .deferPendingAi (9 / 10) "scheduler.defer_pending_ai"
          (s.path ++ ["RULE_5A"]) ["AI_INSIGHT_IN_FLIGHT"] "RULE_BASED" {} out })
  else .ok (.next { s with aiTier := tier, aiOut := out })

def attemptsExhausted (ctx : DecisionContext) : Except Py.Error Bool :=
  crosses Py.geValue (some ctx.operational.contactAttemptCount) (t ctx kMaxAttempts)

def rule6 (ctx : DecisionContext) : Rule Deliberation Decided := fun s =>
  match attemptsExhausted ctx with
  | .error e => .error e
  | .ok true =>
    .ok (.exit
      { intent := makeIntent ctx .closeOrchestration 1 "outreach_service.exhaust_and_close"
          (s.path ++ ["RULE_6"]) ["MAX_ATTEMPTS_EXHAUSTED"] "RULE_BASED"
          (escalation "MEDIUM" "MAX_ATTEMPTS_EXHAUSTED_REVIEW_REQUIRED") {} })
  | .ok false => .ok (.next (s.rule "RULE_6_PASS"))

def rule7 (ctx : DecisionContext) : Rule Deliberation Decided := fun s =>
  match computeRisk ctx s.aiTier with
  | .error e => .error e
  | .ok (level, _) => .ok (.next { s.rule "RULE_7" with riskLevel := some level })

def rule8 (ctx : DecisionContext) : Rule Deliberation Decided := fun s =>
  if s.riskLevel = some .critical then
    let basis := if s.aiOut.aiInputUsed then "AI_ASSISTED" else "RULE_BASED"
    .ok (.exit
      { intent := makeIntent ctx .escalateToOperator (95 / 100)
          "escalation_routing_service.handle_critical" (s.path ++ ["RULE_8"])
          ["CRITICAL_RISK_ESCALATION"] basis (escalation "CRITICAL" "CRITICAL_RISK_MULTI_FACTOR")
          s.aiOut
        riskLevel := s.riskLevel })
  else .ok (.next s)

def rule9 (ctx : DecisionContext) : Rule Deliberation Decided := fun s =>
  if s.riskLevel = some .high then
    let code :=
      if ctx.governance.executionMode = "SHADOW" then "HIGH_RISK_SHADOW_NO_DISPATCH"
      else "HIGH_RISK_ESCALATION_LIVE"
    .ok (.exit
      { intent := makeIntent ctx .escalateToOperator (85 / 100)
          "escalation_routing_service.handle_high_risk" (s.path ++ ["RULE_9"]) [code] "RULE_BASED"
          (escalation "HIGH" code) s.aiOut
        riskLevel := s.riskLevel })
  else .ok (.next s)

def recommendedInterventions : List String := ["MEETING", "RESOURCE_DELIVERY", "IPBC_FOLLOWUP"]

def rule10 (ctx : DecisionContext) : Rule Deliberation Decided := fun s =>
  if (s.aiTier = .confident ∨ s.aiTier = .advisory) ∧
      ctx.ai.aiRecommendedIntervention.any (recommendedInterventions.contains ·) then
    .ok (.next
      { s.rule "RULE_10" with
        r10Intent := some .recommendIntervention
        r10Codes := ["AI_ASSISTED_INTERVENTION_RECOMMENDED"]
        aiOut := { s.aiOut with aiInputUsed := true } })
  else .ok (.next s)

/-- The condition of RULE 11; the ceiling is compared with only if there were attempts. -/
def retryEligible (ctx : DecisionContext) : Except Py.Error Bool :=
  let attempts := ctx.operational.contactAttemptCount
  if attempts > 0 then
    (crosses Py.ltValue (some attempts) (t ctx kMaxAttempts)).map
      (· && ctx.operational.retryEligible)
  else .ok false

def rule11 (ctx : DecisionContext) : Rule Deliberation Decided := fun s =>
  match retryEligible ctx with
  | .error e => .error e
  | .ok true =>
    let s := s.rule "RULE_11"
    let basis := if s.r10Intent.isSome then "AI_ASSISTED" else "RULE_BASED"
    .ok (.exit
      { intent := makeIntent ctx .retryOutreach (9 / 10) "outreach_service.schedule_retry" s.path
          (s.r10Codes ++ ["RETRY_ELIGIBLE_WINDOW_PASSED"]) basis {} s.aiOut
        riskLevel := s.riskLevel })
  | .ok false =>
    match s.r10Intent with
    | some r10Intent =>
      .ok (.exit
        { intent := makeIntent ctx r10Intent (75 / 100)
            "operator_notification_service.deliver_ai_recommendation" s.path s.r10Codes
            "AI_ASSISTED" {} s.aiOut
          riskLevel := s.riskLevel })
    | none => .ok (.next s)

def rule12 (ctx : DecisionContext) : Rule Deliberation Decided := fun s =>
  let op := ctx.operational
  if op.contactAttemptCount = 0 ∧
      (op.outreachState = some "ELIGIBLE" ∨ op.outreachState = some "QUEUED" ∨
        op.outreachState = none) then
    .ok (.exit
      { intent := makeIntent ctx .initiateOutreach (9 / 10)
          "outreach_service.initiate_first_contact" (s.rule "RULE_12").path
          ["FIRST_OUTREACH_ELIGIBLE"] "RULE_BASED" {} s.aiOut
        riskLevel := s.riskLevel })
  else .ok (.next s)

def rule14 (ctx : DecisionContext) (s : Deliberation) : Decided where
  intent := makeIntent ctx .noEligibleIntent 1 "" (s.rule "RULE_14").path
    ["NO_ELIGIBLE_ACTION_THIS_CYCLE"] "RULE_BASED" {} s.aiOut
  riskLevel := s.riskLevel

def rules (ctx : DecisionContext) : List (Rule Deliberation Decided) :=
  [rule1 ctx, rule2 ctx, rule4 ctx, rule5 ctx, rule6 ctx, rule7 ctx, rule8 ctx, rule9 ctx,
    rule10 ctx, rule11 ctx, rule12 ctx]

def start : Deliberation := { path := ["RULE_0_PASS", "RULE_3"] }

/-- The violations of RULE 13. -/
def replayViolations (gov : GovernanceContext) : List String :=
  (if gov.executionMode = "LIVE" then ["REPLAY_LIVE_MODE_BLOCKED"] else []) ++
  (if noItems gov.fingerprintContext then ["REPLAY_FINGERPRINT_MISSING"] else [])

def evaluateReplayIntent (env : RuleEnv) (ctx : DecisionContext) : GovernanceDecisionResult :=
  let gov := ctx.governance
  let violations := replayViolations gov
  { intent :=
      { orchestrationIntent := .noEligibleIntent
        intentConfidence := 1
        recommendedExecutionPath := ""
        executionMode := "SHADOW"
        executionType := gov.executionType
        governanceScope := "REPLAY_ONLY"
        correlationId := gov.correlationId
        causationId := gov.causationId
        configVersionId := gov.configVersionId
        attributionMetadata := gov.attributionContext
        rulePathTaken := ["RULE_0_PASS", "RULE_13"]
        decisionBasis := "HISTORICAL_REPLAY"
        escalationMetadata := {}
        replaySafetyMetadata :=
          { isReplay := true
            historicalConfigVersionId := gov.configVersionId
            fingerprintComparisonOutcome := some (compareFingerprints gov.fingerprintContext)
            replaySafe := violations.isEmpty }
        aiContext := { aiGovernanceTier := .finalizedCopy }
        reasonCodes := if violations = [] then ["REPLAY_EVALUATION_COMPLETE"] else violations
        intentBlocked := !violations.isEmpty
        blockingReason := if violations = [] then none else some "REPLAY_PRECONDITION_VIOLATED" }
    riskLevel := none
    configThresholdWarnings := []
    degradationFlags := []
    studentIdOpaque := opaqueId env.sha256 "ssip:uid:" ctx.academic.userId }

def evaluateOrchestrationIntent (env : RuleEnv) (ctx : DecisionContext) :
    Except Py.Error GovernanceDecisionResult :=
  let sid := opaqueId env.sha256 "ssip:uid:" ctx.academic.userId
  match validateGovernancePreconditions ctx.governance with
  | some blocked => .ok
    { intent := blocked
      riskLevel := none
      configThresholdWarnings := []
      degradationFlags := []
      studentIdOpaque := sid }
  | none =>
    if isReplayType ctx.governance.executionType then .ok (evaluateReplayIntent env ctx)
    else
      (eval (rule14 ctx) (rules ctx) start).map fun decided =>
        { intent := decided.intent
          riskLevel := decided.riskLevel
          configThresholdWarnings := thresholdWarnings ctx
          degradationFlags := []
          studentIdOpaque := sid }

def evaluateShadowIntent (env : RuleEnv) (ctx : DecisionContext) :
    Except Py.Error GovernanceDecisionResult :=
  if ctx.governance.executionMode ≠ "SHADOW" then
    evaluateOrchestrationIntent env
      { ctx with governance := { ctx.governance with executionMode := "SHADOW" } }
  else evaluateOrchestrationIntent env ctx

end Decision
end StudentSuccess
