import StudentSuccess.Advisory
import StudentSuccess.RuleChain

namespace StudentSuccess
namespace Eligibility
set_option autoImplicit true

open RuleChain

abbrev Rule := RuleChain.Rule Py.Error

inductive Scope
  | outreach
  | retry
  | escalation
  | replay
  | prioritizationOnly
  | none
  deriving DecidableEq, Repr

def Scope.text : Scope → String
  | .outreach => "OUTREACH"
  | .retry => "RETRY"
  | .escalation => "ESCALATION_CANDIDATE"
  | .replay => "REPLAY_CANDIDATE"
  | .prioritizationOnly => "PRIORITIZATION_ONLY"
  | .none => "NONE"

def eligibleScopes : List Scope := [.outreach, .retry, .escalation, .replay, .prioritizationOnly]

def kExclWindow : String := "outreach_exclusion_window_hours"
def kMinHws : String := "hws_behind_minimum_threshold"
def kMinEff : String := "avg_eff_rating_minimum_threshold"
def kMaxInact : String := "last_activity_max_days"
def kMaxAttempts : String := "outreach_max_attempts"
def kRetryWindow : String := "outreach_retry_window_hours"
def kPaymentRisk : String := "payment_balance_risk_threshold"
def kAiTtl : String := "ai_insight_ttl_hours"
def kEscRepeat : String := "prior_escalation_repeat_threshold"
def kHwsHigh : String := "hws_behind_high_risk_threshold"
def kInactHigh : String := "last_activity_high_risk_days"
def kSyncAge : String := "sql_server_max_sync_age_hours"

/-- The keys of the threshold table, in its order. -/
def keyMap : List String :=
  [kExclWindow, kMinHws, kMinEff, kMaxInact, kMaxAttempts, kRetryWindow, kPaymentRisk, kAiTtl,
    kEscRepeat, kHwsHigh, kInactHigh, kSyncAge]

def requiredAttribution : List String :=
  ["origin_source", "origin_authority", "actor_identity", "attribution_timestamp"]

structure GovernanceCtx where
  configVersionId : Option String
  configVersionStatus : String
  configRuleSet : RuleSet
  executionMode : String
  executionType : String
  correlationId : Option String
  causationId : Option String
  attributionContext : List (String × Py.Value)
  fingerprintContext : Option (List (String × Py.Value))
  idempotencyKey : Option String
  complianceHoldFlag : Bool := false
  replayContext : Option (List (String × Py.Value)) := none

structure AcademicCtx where
  userId : Option Int
  accessState : Option String
  hwsBehind : Option Int
  avgEffRating : Option Rat
  lastActivityDays : Option Int
  paymentBalance : Option Rat
  email : Option String
  phoneNumber : Option String
  historicalRiskTrend : Option String := none
  priorEscalationCount : Int := 0

structure OperationalCtx where
  outreachState : Option String
  contactAttemptCount : Int
  retryEligible : Bool
  lastContactTimestamp : Option String := none

structure AICtx where
  aiInsightState : Option String
  aiConfidenceScore : Option Rat
  aiStaleFlag : Bool
  aiFinalizedCopy : Bool
  aiRecommendedIntervention : Option String := none

structure EligibilityContext where
  governance : GovernanceCtx
  academic : AcademicCtx
  operational : OperationalCtx
  ai : AICtx

structure OrchestrationConstraints where
  maxAttemptsConstraint : Py.Value := unknownV0
  exclusionWindowConstraintHours : Py.Value := unknownV0
  retryWindowConstraintHours : Py.Value := unknownV0
  executionModeConstraint : String := "SHADOW"
  aiPrioritizationApplied : Bool := false
  liveOutreachPermitted : Bool := false

structure GovernanceRequirements where
  configVersionId : Option String := none
  configVersionStatus : String := "UNKNOWN"
  executionMode : String := "SHADOW"
  idempotencyKey : Option String := none
  governancePreconditionsMet : Bool := false
  blockingGovernanceFlags : List String := []

structure ReplayRestrictions where
  isReplay : Bool := false
  replayEligible : Bool := false
  liveEligible : Bool := false
  sourceArtifactId : Py.Value := .null
  historicalConfigVersionId : Py.Value := .null
  fingerprintComparisonOutcome : Option String := none
  replaySafe : Bool := true

structure AIOutputCtx where
  aiInputUsed : Bool := false
  aiGovernanceTier : AiTier := .unavailable
  aiConfidenceScore : Option Rat := none
  staleFlag : Bool := false
  fallbackApplied : Bool := false
  priorityAdjustmentApplied : Bool := false

structure ThresholdBindings where
  exclusionWindowHours : Py.Value := unknownV0
  minHwsBehind : Py.Value := unknownV0
  minEffortRating : Py.Value := unknownV0
  maxInactivityDays : Py.Value := unknownV0
  maxOutreachAttempts : Py.Value := unknownV0
  retryWindowHours : Py.Value := unknownV0
  paymentRiskBalanceThreshold : Py.Value := unknownV0
  aiInsightTtlHours : Py.Value := unknownV0
  escalationRepeatThreshold : Py.Value := unknownV0
  hwsBehindHighRisk : Py.Value := unknownV0
  inactivityHighRiskDays : Py.Value := unknownV0

structure OrchestrationEligibilityAssessment where
  orchestrationEligible : Bool
  eligibilityScope : Scope
  orchestrationPriority : Priority := .unknown
  orchestrationConstraints : OrchestrationConstraints := {}
  governanceRequirements : GovernanceRequirements := {}
  replayRestrictions : ReplayRestrictions := {}
  aiContext : AIOutputCtx := {}
  thresholdBindings : ThresholdBindings := {}
  attributionMetadata : List (String × Py.Value) := []
  correlationId : Option String := none
  causationId : Option String := none
  configVersionId : Option String := none
  historicalConfigVersionId : Py.Value := .null
  executionMode : String := "SHADOW"
  executionType : String := "original"
  attributionStatus : String := "COMPLETE"
  degradedEvaluation : Bool := false
  thresholdResolutionStatus : String := "COMPLETE"
  liveOutreachPermitted : Bool := false
  replaySafe : Bool := true
  rulePathTaken : List String := []
  assessmentBasis : String := "RULE_BASED"
  reasonCodes : List String := []
  eligibilityBlocked : Bool := false
  blockingReason : Option String := none
  configThresholdWarnings : List String := []
  studentIdOpaque : Option String := none

/-- The local variables of the evaluation from RULE 1 on. -/
structure Evaluation where
  path : List String
  codes : List String
  scope : Scope := .none
  priority : Priority := .unknown
  constraints : OrchestrationConstraints
  replayRest : ReplayRestrictions := {}
  aiTier : AiTier := .unavailable
  aiOut : AIOutputCtx := {}

/-- What an exit passes to `_emit`. -/
structure Emission where
  evaluation : Evaluation
  govReqs : Option GovernanceRequirements := none
  blocked : Bool := false
  blockingReason : Option String := none

def Evaluation.rule (s : Evaluation) (name : String) : Evaluation :=
  { s with path := s.path ++ [name] }

def Evaluation.code (s : Evaluation) (code : String) : Evaluation :=
  { s with codes := s.codes ++ [code] }

/-- `return _emit(…)` with a scope and a priority. -/
def Evaluation.emission (s : Evaluation) (scope : Scope) (priority : Priority) : Emission :=
  { evaluation := { s with scope := scope, priority := priority } }

def Evaluation.leave (s : Evaluation) (scope : Scope) (priority : Priority) :
    Except Py.Error (Step Evaluation Emission) :=
  .ok (.exit (s.emission scope priority))

/-- RULE 0: the codes of the preconditions that fail. -/
def governancePreconditions (gov : GovernanceCtx) : List String :=
  (if !Py.truthyText gov.configVersionId then ["CONFIG_UNRESOLVED"] else []) ++
  (if gov.executionMode ∉ ["SHADOW", "LIVE"] then ["EXECUTION_MODE_INVALID"] else []) ++
  (if !Py.truthyText gov.correlationId then ["CORRELATION_ID_MISSING"] else []) ++
  (if requiredAttribution.any fun k => isNone (item gov.attributionContext k) then
    ["ATTRIBUTION_INCOMPLETE"] else []) ++
  (if gov.executionType ∉ ["original", "replay", "regeneration"] then
    ["EXECUTION_TYPE_INVALID"] else []) ++
  (if isReplayType gov.executionType && noItems gov.replayContext then
    ["REPLAY_CONTEXT_MISSING"] else [])

def makeBlocked (env : RuleEnv) (ctx : EligibilityContext) (r0 : List String) :
    OrchestrationEligibilityAssessment :=
  let gov := ctx.governance
  { orchestrationEligible := false
    eligibilityScope := .none
    governanceRequirements :=
      { configVersionId := gov.configVersionId
        executionMode := gov.executionMode
        idempotencyKey := gov.idempotencyKey }
    correlationId := gov.correlationId
    causationId := gov.causationId
    configVersionId := gov.configVersionId
    executionMode := gov.executionMode
    executionType := gov.executionType
    attributionMetadata := gov.attributionContext
    rulePathTaken := ["RULE_0", "RULE_0_BLOCKED"]
    reasonCodes := r0
    eligibilityBlocked := true
    blockingReason := some "GOVERNANCE_PRECONDITION_FAILED"
    studentIdOpaque := opaqueId env.sha256 "ssip:eid:" ctx.academic.userId }

/-- RULE 3: every key of the table, absent ones bound to the sentinel. -/
def thresholds (ctx : EligibilityContext) : RuleSet :=
  resolveThresholds (fun _ => true) keyMap ctx.governance.configRuleSet

def thresholdWarnings (ctx : EligibilityContext) : List String :=
  (missingThresholdKeys (fun _ => true) keyMap ctx.governance.configRuleSet).map
    thresholdMissingFlag

/-- `_t(th, key)`. -/
def t (ctx : EligibilityContext) (key : String) : Option Py.Value :=
  comparable (threshold (thresholds ctx) key)

def bindings (ctx : EligibilityContext) : ThresholdBindings :=
  let th := threshold (thresholds ctx)
  { exclusionWindowHours := th kExclWindow
    minHwsBehind := th kMinHws
    minEffortRating := th kMinEff
    maxInactivityDays := th kMaxInact
    maxOutreachAttempts := th kMaxAttempts
    retryWindowHours := th kRetryWindow
    paymentRiskBalanceThreshold := th kPaymentRisk
    aiInsightTtlHours := th kAiTtl
    escalationRepeatThreshold := th kEscRepeat
    hwsBehindHighRisk := th kHwsHigh
    inactivityHighRiskDays := th kInactHigh }

def start (ctx : EligibilityContext) : Evaluation where
  path := ["RULE_0", "RULE_3"]
  codes := thresholdWarnings ctx
  constraints :=
    { maxAttemptsConstraint := threshold (thresholds ctx) kMaxAttempts
      exclusionWindowConstraintHours := threshold (thresholds ctx) kExclWindow
      retryWindowConstraintHours := threshold (thresholds ctx) kRetryWindow }

def rule1 (ctx : EligibilityContext) : Rule Evaluation Emission := fun s =>
  let s := s.rule "RULE_1"
  if ctx.operational.outreachState = some "CLOSED" then
    (s.code "OUTREACH_CLOSED_TERMINAL").leave .none .unknown
  else .ok (.next s)

def rule2 (ctx : EligibilityContext) : Rule Evaluation Emission := fun s =>
  let gov := ctx.governance
  let s := s.rule "RULE_2"
  if gov.complianceHoldFlag then
    let s := s.code "COMPLIANCE_HOLD_ACTIVE"
    let s := { s with constraints := { s.constraints with liveOutreachPermitted := false } }
    .ok (.exit { s.emission .escalation .critical with
      govReqs := some
        { configVersionId := gov.configVersionId
          configVersionStatus := gov.configVersionStatus
          executionMode := gov.executionMode
          idempotencyKey := gov.idempotencyKey
          governancePreconditionsMet := true
          blockingGovernanceFlags := ["COMPLIANCE_HOLD_ACTIVE"] } })
  else .ok (.next s)

def rule4 (ctx : EligibilityContext) : Rule Evaluation Emission := fun s =>
  let s := s.rule "RULE_4"
  if ctx.academic.accessState = some "REVOKED" then
    (s.code "ACCESS_REVOKED_SQL_SERVER_AUTHORITATIVE").leave .escalation .high
  else if ctx.academic.accessState = some "SUSPENDED" then
    (s.code "ACCESS_SUSPENDED_AWAIT_RESTORATION").leave .none .unknown
  else .ok (.next s)

def assessAiTier (ctx : EligibilityContext) : AiTier × AIOutputCtx :=
  let ai := ctx.ai
  let out : AIOutputCtx :=
    { aiConfidenceScore := ai.aiConfidenceScore, staleFlag := ai.aiStaleFlag }
  if ai.aiFinalizedCopy then
    (.finalizedCopy, { out with aiGovernanceTier := .finalizedCopy })
  else if ai.aiInsightState = some "AI_GENERATING" ∨ ai.aiInsightState = some "AI_PENDING" then
    (.inFlight, { out with aiGovernanceTier := .inFlight })
  else if ai.aiInsightState = some "AI_GENERATION_FAILED" ∨ ai.aiInsightState = none then
    (.unavailable, { out with fallbackApplied := true })
  else if ai.aiInsightState = some "AI_REVIEWED" then
    if (t ctx kAiTtl).isNone then (.unavailable, { out with fallbackApplied := true })
    else if ai.aiStaleFlag then (.stale, { out with aiGovernanceTier := .stale })
    else
      let tier : AiTier :=
        if 7 / 10 ≤ ai.aiConfidenceScore.getD 0 then .confident else .advisory
      (tier, { out with aiGovernanceTier := tier, aiInputUsed := true })
  else (.unavailable, { out with fallbackApplied := true })

/-- RULES 5 and 5A. -/
def rule5 (ctx : EligibilityContext) : Rule Evaluation Emission := fun s =>
  let s := s.rule "RULE_5"
  let (tier, out) := assessAiTier ctx
  let s := { s with aiTier := tier, aiOut := out }
  let s := if out.fallbackApplied then s.code "AI_UNAVAILABLE_FALLBACK_APPLIED" else s
  if tier = .inFlight then
    if ctx.governance.executionType = "original" then
      ((s.rule "RULE_5A").code "AI_INSIGHT_IN_FLIGHT_DEFER_PENDING").leave
        .prioritizationOnly .unknown
    else .ok (.next { s with aiTier := .stale, aiOut := { out with aiGovernanceTier := .stale } })
  else .ok (.next s)

def noContact (ctx : EligibilityContext) : Bool :=
  !Py.truthyText ctx.academic.email && !Py.truthyText ctx.academic.phoneNumber

def rule6 (ctx : EligibilityContext) : Rule Evaluation Emission := fun s =>
  let s := s.rule "RULE_6"
  if noContact ctx then (s.code "NO_CONTACT_INFO").leave .none .unknown
  else .ok (.next s)

/-- The body of the `try` of RULE 7: the last contact is within the window. -/
def withinWindow (env : RuleEnv) (lastContact : String) (excl : Py.Value) :
    Except Py.Error Bool := do
  let last ← fromIsoformatZ env lastContact
  let elapsed ← Py.DateTime.sub (.aware env.now) last
  Py.ltValue (elapsed / Py.microsPerHour) excl

def rule7 (env : RuleEnv) (ctx : EligibilityContext) : Rule Evaluation Emission := fun s =>
  let s := s.rule "RULE_7"
  match t ctx kExclWindow, ctx.operational.lastContactTimestamp with
  | some excl, some lastContact =>
    if lastContact = "" then .ok (.next s)
    else
      match withinWindow env lastContact excl with
      | .ok true =>
        let s := s.code "EXCLUSION_WINDOW_ACTIVE"
        { s with
          constraints := { s.constraints with exclusionWindowConstraintHours := excl } }.leave
            .none .unknown
      | .ok false => .ok (.next s)
      -- Nothing in the body raises but `ValueError` and `TypeError`.
      | .error _ => .ok (.next (s.code "EXCLUSION_WINDOW_TIMESTAMP_PARSE_ERROR"))
  | _, _ => .ok (.next s)

def fingerprintKeys : List String :=
  ["schema_version", "config_registry_version", "ai_prompt_version", "ai_model_version"]

/-- What RULE 10 finds missing in a replay. -/
def replayBlocks (gov : GovernanceCtx) : List String :=
  (if gov.executionMode = "LIVE" then ["REPLAY_LIVE_MODE_BLOCKED"] else []) ++
  (if !(item (gov.replayContext.getD []) "source_artifact_id").truthy then
    ["REPLAY_SOURCE_ARTIFACT_MISSING"] else []) ++
  (if noItems gov.fingerprintContext then ["REPLAY_FINGERPRINT_MISSING"] else [])

def rule10 (ctx : EligibilityContext) : Rule Evaluation Emission := fun s =>
  let gov := ctx.governance
  if isReplayType gov.executionType then
    let s := s.rule "RULE_10"
    let rctx := gov.replayContext.getD []
    let block := replayBlocks gov
    if block ≠ [] then
      let s :=
        { s with
          codes := s.codes ++ block
          replayRest :=
            { s.replayRest with
              replayEligible := false, liveEligible := false, replaySafe := false } }
      .ok (.exit { s.emission .none .unknown with
        blocked := true
        blockingReason := some "REPLAY_PRECONDITION_VIOLATED" })
    else
      let fp := gov.fingerprintContext.getD []
      let fpMatch := fingerprintKeys.all fun k => (comparable (item fp k)).isSome
      .ok (.next
        { s.code "REPLAY_CANDIDATE" with
          replayRest :=
            { isReplay := true
              replayEligible := true
              liveEligible := false
              replaySafe := true
              sourceArtifactId := item rctx "source_artifact_id"
              historicalConfigVersionId := item rctx "historical_config_version_id"
              fingerprintComparisonOutcome := some (if fpMatch then "MATCH" else "UNKNOWN") }
          scope := .replay
          aiOut := { s.aiOut with aiGovernanceTier := .finalizedCopy }
          aiTier := .finalizedCopy })
  else .ok (.next s)

def attemptsExhausted (ctx : EligibilityContext) : Except Py.Error Bool :=
  crosses Py.geValue (some ctx.operational.contactAttemptCount) (t ctx kMaxAttempts)

/-- RULES 8B, 8C and 8D. -/
def candidacy (ctx : EligibilityContext) : Rule Evaluation Emission := fun s =>
  let op := ctx.operational
  if op.contactAttemptCount > 0 ∧ op.retryEligible then
    .ok (.next { (s.rule "RULE_8B").code "RETRY_CANDIDATE" with scope := .retry })
  else if op.contactAttemptCount = 0 ∧
      (op.outreachState = some "ELIGIBLE" ∨ op.outreachState = some "QUEUED" ∨
        op.outreachState = none) then
    .ok (.next { (s.rule "RULE_8C").code "FIRST_OUTREACH_CANDIDATE" with scope := .outreach })
  else ((s.rule "RULE_8D").code "OUTREACH_STATE_AMBIGUOUS").leave .none .unknown

def rule8 (ctx : EligibilityContext) : Rule Evaluation Emission := fun s =>
  let s := s.rule "RULE_8"
  match attemptsExhausted ctx with
  | .error e => .error e
  | .ok true =>
    let s := s.code "MAX_ATTEMPTS_EXHAUSTED"
    { s with
      constraints :=
        { s.constraints with
          maxAttemptsConstraint := (t ctx kMaxAttempts).getD .null } }.leave .none .medium
  | .ok false => if s.scope = .replay then .ok (.next s) else candidacy ctx s

/-- The counters of RULE 9 and the codes it adds. -/
structure Risk where
  high : Nat := 0
  med : Nat := 0
  incomplete : Bool := false
  codes : List String := []

def Risk.add (a b : Risk) : Risk where
  high := a.high + b.high
  med := a.med + b.med
  incomplete := a.incomplete || b.incomplete
  codes := a.codes ++ b.codes

def highFactor (label : String) : Risk := { high := 1, codes := [label] }

def medFactor (label : String) : Risk := { med := 1, codes := [label] }

/-- The factor that a comparison adds when it holds. -/
def factor (crossed : Except Py.Error Bool) (risk : Risk) : Except Py.Error Risk :=
  crossed.map fun crossed => if crossed then risk else {}

/-- `_check`; no call of it inverts the comparison. -/
def check (val : Option Rat) (highThr medThr : Option Py.Value) (highLabel medLabel : String) :
    Except Py.Error Risk :=
  if val.isNone then .ok { incomplete := true }
  else do
    let high ← crosses Py.geValue val highThr
    if high then .ok (highFactor highLabel)
    else factor (crosses Py.geValue val medThr) (medFactor medLabel)

def effortRisk (ctx : EligibilityContext) : Except Py.Error Risk :=
  if ctx.academic.avgEffRating.isNone then .ok { incomplete := true }
  else factor (crosses Py.ltValue ctx.academic.avgEffRating (t ctx kMinEff))
    (medFactor "EFFORT_DECLINE")

def paymentRisk (ctx : EligibilityContext) : Except Py.Error Risk :=
  factor (crosses Py.gtValue ctx.academic.paymentBalance (t ctx kPaymentRisk))
    (medFactor "PAYMENT_RISK")

def escalationRisk (ctx : EligibilityContext) : Except Py.Error Risk :=
  factor (crosses Py.geValue (some ctx.academic.priorEscalationCount) (t ctx kEscRepeat))
    (highFactor "ESCALATION_RECURRENCE")

def trendRisk (ctx : EligibilityContext) : Risk :=
  if ctx.academic.historicalRiskTrend = some "CRITICAL" then highFactor "HISTORICAL_TREND_CRITICAL"
  else if ctx.academic.historicalRiskTrend = some "DECLINING" then
    medFactor "HISTORICAL_TREND_DECLINING"
  else {}

def assessRisk (ctx : EligibilityContext) : Except Py.Error Risk := do
  let hws ← check (ctx.academic.hwsBehind.map (↑)) (t ctx kHwsHigh) (t ctx kMinHws)
    "HWS_DELINQUENCY_HIGH_RISK" "HWS_DELINQUENCY_MODERATE"
  let effort ← effortRisk ctx
  let inactivity ← check (ctx.academic.lastActivityDays.map (↑)) (t ctx kInactHigh)
    (t ctx kMaxInact) "INACTIVITY_HIGH_RISK" "INACTIVITY_MODERATE"
  let payment ← paymentRisk ctx
  let escalation ← escalationRisk ctx
  return ((((hws.add effort).add inactivity).add payment).add escalation).add (trendRisk ctx)

def Risk.priority (risk : Risk) : Priority :=
  if 2 ≤ risk.high then .critical
  else if risk.high = 1 ∧ 1 ≤ risk.med then .high
  else if 1 ≤ risk.high ∨ 1 ≤ risk.med then .medium
  else .low

def rule9 (ctx : EligibilityContext) : Rule Evaluation Emission := fun s =>
  let s := s.rule "RULE_9"
  match assessRisk ctx with
  | .error e => .error e
  | .ok risk =>
    .ok (.next
      { s with
        codes := s.codes ++ risk.codes ++
          if risk.incomplete then ["PARTIAL_RISK_ASSESSMENT"] else []
        priority := risk.priority })

/-- The priority an AI signal asks for. -/
def Evaluation.adjust (s : Evaluation) (priority : Priority) (code : String) : Evaluation :=
  { s.code code with
    priority := priority
    aiOut := { s.aiOut with priorityAdjustmentApplied := true }
    constraints := { s.constraints with aiPrioritizationApplied := true } }

def upwardInterventions : List String := ["MEETING", "OUTREACH", "RESOURCE_DELIVERY"]

def rule11 (ctx : EligibilityContext) : Rule Evaluation Emission := fun s =>
  let s := s.rule "RULE_11"
  let intv := ctx.ai.aiRecommendedIntervention
  if s.aiTier = .confident ∧ intv = some "ESCALATE" then
    .ok (.next (s.adjust .critical "AI_ESCALATION_SIGNAL_CONFIDENT"))
  else if s.aiTier = .confident ∧ intv.any (upwardInterventions.contains ·) then
    .ok (.next (s.adjust s.priority.upgrade "AI_INTERVENTION_SIGNAL_CONFIDENT"))
  else if s.aiTier = .advisory ∧ intv = some "ESCALATE" then
    .ok (.next (s.adjust s.priority.upgrade "AI_ESCALATION_SIGNAL_ADVISORY"))
  else if s.aiTier = .stale then
    let s := s.code "STALE_AI_PRIORITIZATION_SKIPPED"
    .ok (.next
      (if ctx.governance.executionMode = "LIVE" then s.code "STALE_AI_LIVE_MODE_RESTRICTED" else s))
  else if s.aiTier = .unavailable then
    .ok (.next
      { s.code "AI_UNAVAILABLE_FALLBACK_APPLIED" with
        aiOut := { s.aiOut with fallbackApplied := true } })
  else if s.aiTier = .finalizedCopy then
    .ok (.next (s.code "AI_FINALIZED_COPY_NOT_APPLIED"))
  else .ok (.next s)

/-- RULE 12. -/
def rule12 (s : Evaluation) : Emission := (s.rule "RULE_12").emission s.scope s.priority

/-- The rules that follow the threshold resolution, in the order they are evaluated. -/
def rules (env : RuleEnv) (ctx : EligibilityContext) : List (Rule Evaluation Emission) :=
  [rule1 ctx, rule2 ctx, rule4 ctx, rule5 ctx, rule6 ctx, rule7 env ctx, rule10 ctx, rule8 ctx,
    rule9 ctx, rule11 ctx]

def liveOk (gov : GovernanceCtx) (scope : Scope) : Bool :=
  decide (scope ∈ eligibleScopes) && gov.executionMode == "LIVE" && !isReplayType gov.executionType

def emit (env : RuleEnv) (ctx : EligibilityContext) (e : Emission) :
    OrchestrationEligibilityAssessment :=
  let gov := ctx.governance
  let s := e.evaluation
  let isReplay := isReplayType gov.executionType
  let degraded := !(thresholdWarnings ctx).isEmpty
  let live := liveOk gov s.scope
  { orchestrationEligible := decide (s.scope ∈ eligibleScopes)
    eligibilityScope := s.scope
    orchestrationPriority := s.priority
    orchestrationConstraints :=
      { s.constraints with
        liveOutreachPermitted := live, executionModeConstraint := gov.executionMode }
    governanceRequirements := e.govReqs.getD
      { configVersionId := gov.configVersionId
        configVersionStatus := gov.configVersionStatus
        executionMode := gov.executionMode
        idempotencyKey := gov.idempotencyKey
        governancePreconditionsMet := true }
    replayRestrictions := s.replayRest
    aiContext := s.aiOut
    thresholdBindings := bindings ctx
    attributionMetadata := gov.attributionContext
    correlationId := gov.correlationId
    causationId := gov.causationId
    configVersionId := gov.configVersionId
    historicalConfigVersionId :=
      if isReplay then item (gov.replayContext.getD []) "historical_config_version_id" else .null
    executionMode := gov.executionMode
    executionType := gov.executionType
    attributionStatus := "COMPLETE"
    degradedEvaluation := degraded
    thresholdResolutionStatus := if degraded then "PARTIAL" else "COMPLETE"
    liveOutreachPermitted := live
    replaySafe := s.replayRest.replaySafe
    rulePathTaken := s.path
    assessmentBasis :=
      if s.aiOut.priorityAdjustmentApplied then "AI_ASSISTED"
      else if s.aiOut.fallbackApplied then "FALLBACK"
      else if isReplay then "HISTORICAL_REPLAY"
      else "RULE_BASED"
    reasonCodes := s.codes
    eligibilityBlocked := e.blocked
    blockingReason := e.blockingReason
    configThresholdWarnings := thresholdWarnings ctx
    studentIdOpaque := opaqueId env.sha256 "ssip:eid:" ctx.academic.userId }

def assessOrchestrationEligibility (env : RuleEnv) (ctx : EligibilityContext) :
    Except Py.Error OrchestrationEligibilityAssessment :=
  let r0 := governancePreconditions ctx.governance
  if r0 ≠ [] then .ok (makeBlocked env ctx r0)
  else (eval rule12 (rules env ctx) (start ctx)).map (emit env ctx)

end Eligibility
end StudentSuccess
