import StudentSuccess.Advisory
import StudentSuccess.RuleChain

namespace StudentSuccess
namespace Channel
set_option autoImplicit true

open RuleChain

abbrev Rule := RuleChain.Rule Py.Error

inductive Ch
  | call
  | sms
  | email
  deriving DecidableEq, Repr

def Ch.text : Ch → String
  | .call => "CALL"
  | .sms => "SMS"
  | .email => "EMAIL"

def allChannels : List Ch := [.call, .sms, .email]

inductive Scope
  | preferred (ch : Ch)
  | multiChannelEligible
  | channelExhausted
  | replayCandidate
  | none
  deriving DecidableEq, Repr

def Scope.text : Scope → String
  | .preferred ch => ch.text ++ "_PREFERRED"
  | .multiChannelEligible => "MULTI_CHANNEL_ELIGIBLE"
  | .channelExhausted => "CHANNEL_EXHAUSTED"
  | .replayCandidate => "REPLAY_CHANNEL_CANDIDATE"
  | .none => "NONE"

def deliveryScopes : List Scope :=
  [.preferred .call, .preferred .sms, .preferred .email, .multiChannelEligible]

def kPreferredChannel : String := "outreach_initial_channel_preference"
def kDeliveryFailSusp : String := "channel_delivery_failure_suspension_threshold"
def kCallEng : String := "call_engagement_score_threshold"
def kSmsEng : String := "sms_engagement_score_threshold"
def kEmailEng : String := "email_engagement_score_threshold"
def kCooldownHours : String := "channel_specific_cooldown_hours"
def kAiTtl : String := "ai_insight_ttl_hours"
def kOptOutPeriod : String := "channel_opt_out_respect_period_hours"

def keyMap : List String :=
  [kPreferredChannel, kDeliveryFailSusp, kCallEng, kSmsEng, kEmailEng, kCooldownHours, kAiTtl,
    kOptOutPeriod]

def requiredAttribution : List String :=
  ["origin_source", "origin_authority", "actor_identity", "attribution_timestamp"]

structure GovernanceCtx where
  configVersionId : Option String
  configVersionStatus : String
  configRuleSet : RuleSet
  executionMode : String
  executionType : String
  correlationId : Option String
  causationId : Option String
  attributionContext : List (String × Py.Value)
  fingerprintContext : Option (List (String × Py.Value))
  idempotencyKey : Option String
  complianceHoldFlag : Bool := false
  replayContext : Option (List (String × Py.Value)) := none

structure AICtx where
  aiInsightState : Option String
  aiConfidenceScore : Option Rat
  aiStaleFlag : Bool
  aiFinalizedCopy : Bool
  aiChannelPreferenceSignal : Option String := none
  aiGeneratedAt : Option String := none

structure OperationalCtx where
  email : Option String
  phoneNumber : Option String
  outreachState : Option String := none
  engagementSignalScore : Option Rat := none
  providerHealthState : Option (List (String × String)) := none
  channelOptOutState : Option (List (String × Bool)) := none
  channelDeliveryFailureCounts : Option (List (String × Int)) := none
  channelSuspensionState : Option (List (String × Bool)) := none
  channelExhaustionState : Option String := none

structure ChannelAdvisoryContext where
  governance : GovernanceCtx
  operational : OperationalCtx
  ai : AICtx

structure GovernanceConstraints where
  executionModeConstraint : String := "SHADOW"
  liveDeliveryPermitted : Bool := false
  governanceScope : String := "SHADOW_ONLY"
  suppressionReason : Option String := none
  complianceChannelRestrictions : List Ch := []
  optOutChannelExclusions : List Ch := []
  suspendedChannelExclusions : List Ch := []
  configVersionId : Option String := none
  idempotencyKey : Option String := none
  governancePreconditionsMet : Bool := false
  blockingGovernanceFlags : List String := []

structure EscalationConstraints where
  escalationRecommended : Bool := false
  escalationUrgency : String := "NONE"
  escalationReasonCodes : List String := []
  escalationContext : List (String × String) := []

structure ReplayRestrictions where
  isReplay : Bool := false
  replayEligible : Bool := false
  liveEligible : Bool := false
  sourceArtifactId : Py.Value := .null
  historicalConfigVersionId : Py.Value := .null
  fingerprintComparisonOutcome : Option String := none
  replaySafe : Bool := true

structure AIOutputCtx where
  aiInputUsed : Bool := false
  aiGovernanceTier : AiTier := .unavailable
  aiConfidenceScore : Option Rat := none
  staleFlag : Bool := false
  fallbackApplied : Bool := false
  channelPriorityAdjustmentApplied : Bool := false
  aiChannelPreferenceSignal : Option String := none

structure ThresholdBindings where
  preferredInitialChannel : Py.Value := unknownV0
  deliveryFailureSuspensionThreshold : Py.Value := unknownV0
  callEngagementScoreThreshold : Py.Value := unknownV0
  smsEngagementScoreThreshold : Py.Value := unknownV0
  emailEngagementScoreThreshold : Py.Value := unknownV0
  channelSpecificCooldownHours : Py.Value := unknownV0
  aiInsightTtlHours : Py.Value := unknownV0
  channelOptOutRespectPeriodHours : Py.Value := unknownV0

structure ProviderHealthMetadata where
  callProviderState : String := "UNKNOWN"
  smsProviderState : String := "UNKNOWN"
  emailProviderState : String := "UNKNOWN"
  channelSuspensionApplied : Bool := false
  suspendedChannels : List Ch := []

structure ChannelAdvisoryAssessment where
  channelAdvisoryProduced : Bool
  advisoryScope : Scope
  recommendedChannelCandidates : List Ch := []
  prohibitedChannels : List Ch := []
  governanceConstraints : GovernanceConstraints := {}
  escalationConstraints : EscalationConstraints := {}
  replayRestrictions : ReplayRestrictions := {}
  aiContext : AIOutputCtx := {}
  thresholdBindings : ThresholdBindings := {}
  providerHealthMetadata : ProviderHealthMetadata := {}
  advisoryConfidence : String := "UNKNOWN"
  executionMode : String := "SHADOW"
  executionType : String := "original"
  configVersionId : Option String := none
  historicalConfigVersionId : Py.Value := .null
  correlationId : Option String := none
  causationId : Option String := none
  attributionMetadata : List (String × Py.Value) := []
  attributionStatus : String := "COMPLETE"
  degradedEvaluation : Bool := false
  rulePathTaken : List String := []
  assessmentBasis : String := "RULE_BASED"
  reasonCodes : List String := []
  advisoryBlocked : Bool := false
  blockingReason : Option String := none
  configThresholdWarnings : List String := []

/-- The local variables of the evaluation from RULE 1 on. -/
structure Advice where
  path : List String
  codes : List String := []
  prohibited : List Ch := []
  thresholdWarnings : List String := []
  degraded : Bool := false
  gc : GovernanceConstraints
  esc : EscalationConstraints := {}
  rr : ReplayRestrictions := {}
  aiTier : AiTier := .unavailable
  aiOut : AIOutputCtx := {}
  tb : ThresholdBindings := {}
  ph : ProviderHealthMetadata := {}
  eligible : List Ch := []
  scopeLocked : Option Scope := none
  candidates : List Ch := []
  hasPref : Bool := false

/-- What an exit passes to `emit_assessment`. -/
structure Emission where
  advice : Advice
  scope : Scope
  produced : Bool
  candidates : List Ch := []
  blocked : Bool := false
  blockingReason : Option String := none

def Advice.rule (s : Advice) (name : String) : Advice := { s with path := s.path ++ [name] }

def Advice.code (s : Advice) (code : String) : Advice := { s with codes := s.codes ++ [code] }

def Advice.codeIf (s : Advice) (cond : Bool) (code : String) : Advice :=
  { s with codes := s.codes ++ if cond then [code] else [] }

def Advice.leave (s : Advice) (scope : Scope) (produced : Bool) :
    Except Py.Error (Step Advice Emission) :=
  .ok (.exit { advice := s, scope := scope, produced := produced })

def attributionIncomplete (gov : GovernanceCtx) : Bool :=
  requiredAttribution.any fun k => !(item gov.attributionContext k).truthy

/-- RULE 0: the codes of the preconditions that fail. -/
def governancePreconditions (gov : GovernanceCtx) : List String :=
  (if !Py.truthyText gov.configVersionId then ["CONFIG_UNRESOLVED"] else []) ++
  (if gov.configVersionStatus ≠ "ACTIVE" ∧ gov.executionType = "original" then
    ["CONFIG_VERSION_NOT_ACTIVE"] else []) ++
  (if gov.executionMode ∉ ["SHADOW", "LIVE"] then ["EXECUTION_MODE_INVALID"] else []) ++
  (if !Py.truthyText gov.correlationId then ["CORRELATION_ID_MISSING"] else []) ++
  (if attributionIncomplete gov then ["ATTRIBUTION_INCOMPLETE"] else []) ++
  (if gov.executionType ∉ ["original", "replay", "regeneration"] then
    ["EXECUTION_TYPE_INVALID"] else []) ++
  (if isReplayType gov.executionType && noItems gov.replayContext then
    ["REPLAY_CONTEXT_MISSING"] else [])

def initialConstraints (gov : GovernanceCtx) : GovernanceConstraints where
  executionModeConstraint := gov.executionMode
  configVersionId := gov.configVersionId
  idempotencyKey := gov.idempotencyKey

def makeBlocked (ctx : ChannelAdvisoryContext) (r0 : List String) : ChannelAdvisoryAssessment :=
  let gov := ctx.governance
  { channelAdvisoryProduced := false
    advisoryScope := .none
    governanceConstraints := { initialConstraints gov with blockingGovernanceFlags := r0 }
    executionMode := gov.executionMode
    executionType := gov.executionType
    configVersionId := gov.configVersionId
    correlationId := gov.correlationId
    causationId := gov.causationId
    attributionMetadata := gov.attributionContext
    rulePathTaken := ["RULE_0"]
    reasonCodes := r0
    advisoryBlocked := true
    blockingReason := some "GOVERNANCE_PRECONDITION_FAILED" }

def start (ctx : ChannelAdvisoryContext) : Advice where
  path := ["RULE_0"]
  gc := { initialConstraints ctx.governance with governancePreconditionsMet := true }

def rule1 (ctx : ChannelAdvisoryContext) : Rule Advice Emission := fun s =>
  let s := s.rule "RULE_1"
  if ctx.operational.outreachState = some "CLOSED" then
    (s.code "OUTREACH_CLOSED_TERMINAL").leave .none false
  else .ok (.next s)

def rule2 (ctx : ChannelAdvisoryContext) : Rule Advice Emission := fun s =>
  let s := s.rule "RULE_2"
  if ctx.governance.complianceHoldFlag then
    { s with
      prohibited := s.prohibited ++ allChannels
      codes := s.codes ++ ["COMPLIANCE_HOLD_ACTIVE", "ALL_CHANNELS_COMPLIANCE_BLOCKED"]
      gc :=
        { s.gc with
          complianceChannelRestrictions := allChannels
          blockingGovernanceFlags := s.gc.blockingGovernanceFlags ++ ["COMPLIANCE_HOLD_ACTIVE"] }
      esc :=
        { escalationRecommended := true
          escalationUrgency := "CRITICAL"
          escalationReasonCodes := ["COMPLIANCE_HOLD_ALL_CHANNELS_BLOCKED"]
          escalationContext := [("note", "All channels prohibited under COMPLIANCE_HOLD.")] }
      }.leave .none true
  else .ok (.next s)

/-- The bindings of `resolve_thresholds`. -/
def bindings (ruleSet : RuleSet) : ThresholdBindings :=
  let th := threshold (resolveThresholds (fun _ => true) keyMap ruleSet)
  { preferredInitialChannel := th kPreferredChannel
    deliveryFailureSuspensionThreshold := th kDeliveryFailSusp
    callEngagementScoreThreshold := th kCallEng
    smsEngagementScoreThreshold := th kSmsEng
    emailEngagementScoreThreshold := th kEmailEng
    channelSpecificCooldownHours := th kCooldownHours
    aiInsightTtlHours := th kAiTtl
    channelOptOutRespectPeriodHours := th kOptOutPeriod }

def rule3 (ctx : ChannelAdvisoryContext) : Rule Advice Emission := fun s =>
  let s := s.rule "RULE_3"
  let warnings :=
    (missingThresholdKeys (fun _ => true) keyMap ctx.governance.configRuleSet).map
      thresholdMissingFlag
  .ok (.next
    { s with
      tb := bindings ctx.governance.configRuleSet
      codes := s.codes ++ warnings
      thresholdWarnings := warnings
      degraded := !warnings.isEmpty })

def noPhone (op : OperationalCtx) : Bool := !Py.truthyText op.phoneNumber

def noEmail (op : OperationalCtx) : Bool := !Py.truthyText op.email

/-- RULE 4 prohibits the channel for want of contact data. -/
def lacksContact (op : OperationalCtx) : Ch → Bool
  | .call => noPhone op
  | .sms => noPhone op
  | .email => noEmail op

def rule4 (ctx : ChannelAdvisoryContext) : Rule Advice Emission := fun s =>
  let op := ctx.operational
  let s := s.rule "RULE_4"
  let prohibited := s.prohibited ++ (if noPhone op then [.call, .sms] else []) ++
    (if noEmail op then [.email] else [])
  let s :=
    { s with
      prohibited := prohibited
      codes := s.codes ++ (if noPhone op then ["NO_PHONE_NUMBER"] else []) ++
        (if noEmail op then ["NO_EMAIL_ADDRESS"] else [])
      eligible := allChannels.filter fun ch => !prohibited.contains ch }
  if s.eligible = [] then (s.code "NO_CONTACT_INFO_ANY_CHANNEL").leave .none false
  else .ok (.next s)

/-- The age of a reviewed insight is past its time to live. -/
def pastTtl (env : RuleEnv) (generatedAt : String) (ttl : Py.Value) : Except Py.Error Bool := do
  let gen ← fromIsoformatZ env generatedAt
  let age ← Py.DateTime.sub (.aware env.now) gen
  let limit ← Py.hoursDelta ttl
  return decide (limit < age)

/-- A reviewed insight is stale; a timestamp that does not parse makes it so. -/
def reviewedStale (env : RuleEnv) (ai : AICtx) (ttl : Py.Value) : Except Py.Error Bool :=
  if ai.aiStaleFlag then .ok true
  else
    match ai.aiGeneratedAt with
    | some generatedAt =>
      if generatedAt = "" then .ok false
      else Py.catchMalformed (pastTtl env generatedAt ttl) true
    | none => .ok false

/-- `assess_ai_tier`: the tier, the output context and the codes added. -/
def assessAiTier (env : RuleEnv) (ai : AICtx) (tb : ThresholdBindings) (out : AIOutputCtx) :
    Except Py.Error (AiTier × AIOutputCtx × List String) :=
  if ai.aiFinalizedCopy then
    .ok (.finalizedCopy, { out with aiGovernanceTier := .finalizedCopy }, [])
  else
    match comparable tb.aiInsightTtlHours with
    | none =>
      .ok (.unavailable, { out with aiGovernanceTier := .unavailable }, ["AI_TTL_NOT_CONFIGURED"])
    | some ttl =>
      let state := ai.aiInsightState.getD ""
      if state = "AI_GENERATING" ∨ state = "AI_PENDING" then
        .ok (.inFlight, { out with aiGovernanceTier := .inFlight }, [])
      else if state = "AI_GENERATION_FAILED" ∨ state = "" then
        .ok (.unavailable, { out with aiGovernanceTier := .unavailable }, [])
      else if state = "AI_REVIEWED" then
        (reviewedStale env ai ttl).map fun stale =>
          if stale then (.stale, { out with aiGovernanceTier := .stale, staleFlag := true }, [])
          else
            let score := ai.aiConfidenceScore.getD 0
            let tier : AiTier := if 7 / 10 ≤ score then .confident else .advisory
            (tier,
              { out with
                aiConfidenceScore := some score, aiGovernanceTier := tier, aiInputUsed := true },
              [])
      else .ok (.unavailable, { out with aiGovernanceTier := .unavailable }, [])

/-- RULES 5 and 5A. -/
def rule5 (env : RuleEnv) (ctx : ChannelAdvisoryContext) : Rule Advice Emission := fun s =>
  let s := s.rule "RULE_5"
  match assessAiTier env ctx.ai s.tb s.aiOut with
  | .error e => .error e
  | .ok (tier, out, codes) =>
    let s := { s with aiTier := tier, aiOut := out, codes := s.codes ++ codes }
    if tier = .inFlight then
      if isReplayType ctx.governance.executionType then
        .ok (.next { s with aiTier := .stale, aiOut := { out with aiGovernanceTier := .stale } })
      else
        .ok (.next
          { s.code "AI_INSIGHT_IN_FLIGHT_CHANNEL_ADVISORY_PROCEEDS" with
            aiOut := { out with aiInputUsed := false } })
    else .ok (.next s)

/-- `d.get(ch, default)` of an optional dictionary. -/
def stateOf (d : Option (List (String × α))) (ch : Ch) (default : α) : α :=
  (Py.get? ch.text (d.getD [])).getD default

def optedOut (op : OperationalCtx) (ch : Ch) : Bool := stateOf op.channelOptOutState ch false

def rule6 (ctx : ChannelAdvisoryContext) : Rule Advice Emission := fun s =>
  let s := s.rule "RULE_6"
  let out := s.eligible.filter (optedOut ctx.operational)
  let s :=
    { s with
      eligible := s.eligible.filter fun ch => !optedOut ctx.operational ch
      prohibited := s.prohibited ++ out
      gc := { s.gc with optOutChannelExclusions := s.gc.optOutChannelExclusions ++ out }
      codes := s.codes ++ out.map (·.text ++ "_OPT_OUT_ACTIVE") }
  if s.eligible = [] then
    { s.code "CHANNEL_EXHAUSTED_OPT_OUT" with
      esc :=
        { escalationRecommended := true
          escalationUrgency := "MEDIUM"
          escalationReasonCodes := ["ALL_CHANNELS_OPT_OUT_PROHIBITED"]
          escalationContext :=
            [("note", "All channels prohibited by active opt-out registrations.")] }
      }.leave .channelExhausted true
  else .ok (.next s)

/-- The provider state RULE 7 acts on; without any known state a channel counts as healthy. -/
def providerState (op : OperationalCtx) (ch : Ch) : String :=
  stateOf op.providerHealthState ch "HEALTHY"

def unavailable (op : OperationalCtx) (ch : Ch) : Bool := providerState op ch == "UNAVAILABLE"

def suspended (op : OperationalCtx) (ch : Ch) : Bool :=
  !unavailable op ch && stateOf op.channelSuspensionState ch false

def providerDegraded (op : OperationalCtx) (ch : Ch) : Bool :=
  !unavailable op ch && !suspended op ch && providerState op ch == "DEGRADED"

def rule7Code (op : OperationalCtx) (ch : Ch) : Option String :=
  if unavailable op ch then some (ch.text ++ "_PROVIDER_UNAVAILABLE")
  else if suspended op ch then some (ch.text ++ "_DELIVERY_FAILURE_SUSPENDED")
  else if providerDegraded op ch then some (ch.text ++ "_PROVIDER_DEGRADED")
  else none

def rule7 (ctx : ChannelAdvisoryContext) : Rule Advice Emission := fun s =>
  let op := ctx.operational
  let s := s.rule "RULE_7"
  let removed := s.eligible.filter fun ch => unavailable op ch || suspended op ch
  let kept := s.eligible.filter fun ch => !(unavailable op ch || suspended op ch)
  let s :=
    { s with
      codes := s.codes ++
        (if (op.providerHealthState.getD []).isEmpty then ["PROVIDER_HEALTH_UNKNOWN"] else []) ++
        s.eligible.filterMap (rule7Code op)
      prohibited := s.prohibited ++ removed
      gc :=
        { s.gc with
          suspendedChannelExclusions :=
            s.gc.suspendedChannelExclusions ++ s.eligible.filter (suspended op) }
      ph :=
        { s.ph with
          callProviderState := stateOf op.providerHealthState .call "UNKNOWN"
          smsProviderState := stateOf op.providerHealthState .sms "UNKNOWN"
          emailProviderState := stateOf op.providerHealthState .email "UNKNOWN"
          suspendedChannels := s.ph.suspendedChannels ++ removed
          channelSuspensionApplied := s.ph.channelSuspensionApplied || !removed.isEmpty }
      -- Degraded channels move to the end, in their order.
      eligible := (kept.filter fun ch => !providerDegraded op ch) ++
        kept.filter (providerDegraded op) }
  if s.eligible = [] then
    { s.code "CHANNEL_EXHAUSTED_PROVIDER_FAILURE" with
      esc :=
        { escalationRecommended := true
          escalationUrgency := "HIGH"
          escalationReasonCodes := ["ALL_CHANNELS_PROVIDER_UNAVAILABLE_OR_SUSPENDED"]
          escalationContext :=
            [("note", "All channels unavailable or suspended due to provider state.")] }
      }.leave .channelExhausted true
  else .ok (.next s)

def rule8 (ctx : ChannelAdvisoryContext) : Rule Advice Emission := fun s =>
  let s := s.rule "RULE_8"
  if ctx.operational.channelExhaustionState = some "EXHAUSTED" ∧ s.eligible = [] then
    { s.code "ALL_CHANNELS_EXHAUSTED" with
      esc :=
        { escalationRecommended := true
          escalationUrgency := "HIGH"
          escalationReasonCodes := ["CHANNEL_EXHAUSTION_CONFIRMED"]
          escalationContext := [("channel_exhaustion_state", "EXHAUSTED")] }
      }.leave .channelExhausted true
  else if ctx.operational.channelExhaustionState = some "PARTIAL" then
    .ok (.next (s.code "CHANNEL_EXHAUSTION_PARTIAL"))
  else .ok (.next s)

/-- What RULE 9 finds missing in a replay. -/
def replayBlocks (gov : GovernanceCtx) : List String :=
  (if gov.executionMode = "LIVE" then ["REPLAY_LIVE_MODE_BLOCKED"] else []) ++
  (if !(item (gov.replayContext.getD []) "source_artifact_id").truthy then
    ["REPLAY_SOURCE_ARTIFACT_MISSING"] else []) ++
  (if noItems gov.fingerprintContext then ["REPLAY_FINGERPRINT_MISSING"] else [])

/-- `rc.get("historical_config_version_id") or rc.get("config_version_id")`. -/
def historicalConfig (rc : List (String × Py.Value)) : Py.Value :=
  let historical := item rc "historical_config_version_id"
  if historical.truthy then historical else item rc "config_version_id"

def rule9 (ctx : ChannelAdvisoryContext) : Rule Advice Emission := fun s =>
  let gov := ctx.governance
  if isReplayType gov.executionType then
    let s := s.rule "RULE_9"
    let rc := gov.replayContext.getD []
    let r9 := replayBlocks gov
    if r9 ≠ [] then
      .ok (.exit
        { advice :=
            { s with
              codes := s.codes ++ r9
              rr :=
                { s.rr with replayEligible := false, liveEligible := false, replaySafe := false } }
          scope := .none
          produced := false
          blocked := true
          blockingReason := some "REPLAY_PRECONDITION_VIOLATED" })
    else
      let s :=
        { s.code "REPLAY_CHANNEL_CANDIDATE" with
          rr :=
            { isReplay := true
              replayEligible := true
              liveEligible := false
              sourceArtifactId := item rc "source_artifact_id"
              historicalConfigVersionId := historicalConfig rc
              replaySafe := true
              fingerprintComparisonOutcome := some "UNKNOWN" }
          gc := { s.gc with liveDeliveryPermitted := false }
          scopeLocked := some .replayCandidate }
      .ok (.next
        (if ctx.ai.aiFinalizedCopy then
          { s with
            aiTier := .finalizedCopy
            aiOut := { s.aiOut with aiGovernanceTier := .finalizedCopy } }
        else s))
  else .ok (.next s)

def failureCount (op : OperationalCtx) (ch : Ch) : Int :=
  stateOf op.channelDeliveryFailureCounts ch 0

def failing (op : OperationalCtx) (suspTh : Option Py.Value) :
    List Ch → Except Py.Error (List Ch)
  | [] => .ok []
  | ch :: chs => do
    let reached ← crosses Py.geValue (some (failureCount op ch)) suspTh
    let rest ← failing op suspTh chs
    return if reached then ch :: rest else rest

def Advice.suspend (s : Advice) (removed : List Ch) : Advice :=
  { s with
    eligible := s.eligible.filter fun ch => !removed.contains ch
    prohibited := s.prohibited ++ removed
    gc :=
      { s.gc with suspendedChannelExclusions := s.gc.suspendedChannelExclusions ++ removed }
    ph :=
      { s.ph with
        suspendedChannels := s.ph.suspendedChannels ++ removed
        channelSuspensionApplied := s.ph.channelSuspensionApplied || !removed.isEmpty }
    codes := s.codes ++ removed.map (·.text ++ "_DELIVERY_FAILURE_SUSPENDED") }

def deliveryGate : Rule Advice Emission := fun s =>
  if s.eligible = [] then
    { s.code "CHANNEL_EXHAUSTED_DELIVERY_FAILURE" with
      esc :=
        { s.esc with
          escalationRecommended := true
          escalationUrgency := "HIGH"
          escalationReasonCodes := ["ALL_CHANNELS_DELIVERY_FAILURE_SUSPENDED"] }
      }.leave (s.scopeLocked.getD .channelExhausted) true
  else .ok (.next s)

def rule10 (ctx : ChannelAdvisoryContext) : Rule Advice Emission := fun s =>
  let op := ctx.operational
  let s := s.rule "RULE_10"
  let s := s.codeIf (op.channelDeliveryFailureCounts.getD []).isEmpty
    "DELIVERY_FAILURE_COUNTS_UNKNOWN"
  match failing op (comparable s.tb.deliveryFailureSuspensionThreshold) s.eligible with
  | .error e => .error e
  | .ok removed => deliveryGate (s.suspend removed)

def promote (ch : Ch) (ordered : List Ch) : List Ch := ch :: ordered.erase ch

/-- The score reaches the threshold of a channel that is left. -/
def engaged (score : Rat) (th : Option Py.Value) (ch : Ch) (ordered : List Ch) :
    Except Py.Error Bool :=
  (crosses Py.geValue (some score) th).map (· && ordered.contains ch)

/-- The channel an engagement threshold names, the first of call, SMS and email. -/
def engagedChannel (score : Rat) (tb : ThresholdBindings) (ordered : List Ch) :
    Except Py.Error (Option Ch) := do
  if ← engaged score (comparable tb.callEngagementScoreThreshold) .call ordered then
    return some .call
  if ← engaged score (comparable tb.smsEngagementScoreThreshold) .sms ordered then
    return some .sms
  if ← engaged score (comparable tb.emailEngagementScoreThreshold) .email ordered then
    return some .email
  return none

/-- The configured default channel, when it is one of those left. -/
def configuredChannel (tb : ThresholdBindings) (ordered : List Ch) : Option Ch :=
  match tb.preferredInitialChannel with
  | .str name => ordered.find? (·.text == name)
  | _ => none

def engagement (eligible : List Ch) (op : OperationalCtx) (tb : ThresholdBindings) :
    Except Py.Error (Option Ch) :=
  match op.engagementSignalScore with
  | some score => engagedChannel score tb eligible
  | none => .ok none

/-- The order of the channels: the engaged one first, else the configured one. -/
def order (eligible : List Ch) (tb : ThresholdBindings) (engaged : Option Ch) : List Ch :=
  match engaged.or (configuredChannel tb eligible) with
  | some ch => promote ch eligible
  | none => eligible

/-- `prioritize_channels`: the order, whether it follows a preference, and the codes added. -/
def prioritizeChannels (eligible : List Ch) (op : OperationalCtx) (tb : ThresholdBindings) :
    Except Py.Error (List Ch × Bool × List String) :=
  (engagement eligible op tb).map fun engaged =>
    (order eligible tb engaged, engaged.isSome,
      (if op.engagementSignalScore.isNone then ["ENGAGEMENT_SIGNAL_UNKNOWN"] else []) ++
      (if (comparable tb.callEngagementScoreThreshold).isNone ∧
          (comparable tb.smsEngagementScoreThreshold).isNone ∧
          (comparable tb.emailEngagementScoreThreshold).isNone then
        ["PARTIAL_ENGAGEMENT_ASSESSMENT"] else []))

def rule11 (ctx : ChannelAdvisoryContext) : Rule Advice Emission := fun s =>
  let s := s.rule "RULE_11"
  match prioritizeChannels s.eligible ctx.operational s.tb with
  | .error e => .error e
  | .ok (candidates, hasPref, codes) =>
    .ok (.next
      { s with candidates := candidates, hasPref := hasPref, codes := s.codes ++ codes })

/-- `_CH_PREF_MAP.get(signal or "")`. -/
def preferredBySignal : Option String → Option Ch
  | some "PREFER_CALL" => some .call
  | some "PREFER_SMS" => some .sms
  | some "PREFER_EMAIL" => some .email
  | _ => none

def Advice.prefer (s : Advice) (ch : Ch) (signal : Option String) (code : String) : Advice :=
  { s.code code with
    candidates := promote ch s.candidates
    aiOut :=
      { s.aiOut with
        channelPriorityAdjustmentApplied := true, aiChannelPreferenceSignal := signal }
    hasPref := true }

/-- The preference of a confident or an advisory insight. -/
def applyAiSignal (ctx : ChannelAdvisoryContext) (s : Advice) : Advice :=
  let signal := ctx.ai.aiChannelPreferenceSignal
  match preferredBySignal signal with
  | some ch =>
    if ch ∉ s.prohibited ∧ ch ∈ s.candidates then
      if s.aiTier = .confident then
        s.prefer ch signal "AI_CHANNEL_PREFERENCE_SIGNAL_CONFIDENT"
      else if s.hasPref then s
      else s.prefer ch signal "AI_CHANNEL_PREFERENCE_SIGNAL_ADVISORY"
    else s
  | none => s

def adjustForAi (ctx : ChannelAdvisoryContext) (s : Advice) : Advice :=
  if s.scopeLocked = none ∧ (s.aiTier = .confident ∨ s.aiTier = .advisory) then
    applyAiSignal ctx s
  else if s.aiTier = .stale then
    (s.code "STALE_AI_CHANNEL_ADVISORY_SKIPPED").codeIf
      (ctx.governance.executionMode == "LIVE") "STALE_AI_LIVE_MODE_RESTRICTED"
  else if s.aiTier = .unavailable then
    { s.code "AI_UNAVAILABLE_FALLBACK_APPLIED" with
      aiOut := { s.aiOut with fallbackApplied := true } }
  else if s.aiTier = .finalizedCopy then s.code "AI_FINALIZED_COPY_NOT_APPLIED"
  else s

def rule12 (ctx : ChannelAdvisoryContext) : Rule Advice Emission := fun s =>
  .ok (.next (adjustForAi ctx (s.rule "RULE_12")))

/-- The scope of RULE 13; the candidates are not empty there. -/
def advisoryScope (s : Advice) : Scope :=
  match s.scopeLocked with
  | some scope => scope
  | none =>
    match s.candidates with
    | [] => .multiChannelEligible
    | ch :: rest =>
      if rest = [] ∨ s.hasPref ∨ s.aiOut.channelPriorityAdjustmentApplied then .preferred ch
      else .multiChannelEligible

def rule13 (s : Advice) : Emission :=
  let s := s.rule "RULE_13"
  { advice := s, scope := advisoryScope s, produced := true, candidates := s.candidates }

def rules (env : RuleEnv) (ctx : ChannelAdvisoryContext) : List (Rule Advice Emission) :=
  [rule1 ctx, rule2 ctx, rule3 ctx, rule4 ctx, rule5 env ctx, rule6 ctx, rule7 ctx, rule8 ctx,
    rule9 ctx, rule10 ctx, rule11 ctx, rule12 ctx]

def liveOk (gov : GovernanceCtx) (e : Emission) : Bool :=
  e.produced && decide (e.scope ∈ deliveryScopes) && gov.executionMode == "LIVE" &&
    !isReplayType gov.executionType && !e.blocked

/-- The governance constraints `emit_assessment` settles. -/
def settle (gov : GovernanceCtx) (e : Emission) : GovernanceConstraints :=
  let live := liveOk gov e
  let gc := { e.advice.gc with liveDeliveryPermitted := live }
  if isReplayType gov.executionType then
    { gc with governanceScope := "REPLAY_ONLY", suppressionReason := some "REPLAY_EXECUTION" }
  else if gov.executionMode = "SHADOW" then
    { gc with governanceScope := "SHADOW_ONLY", suppressionReason := some "SHADOW_MODE_ACTIVE" }
  else if live then { gc with governanceScope := "AUTHORIZED" }
  else
    { gc with
      governanceScope := "SHADOW_ONLY", suppressionReason := some "PRE_PHASE12_CERTIFICATION" }

def confidence (gov : GovernanceCtx) (e : Emission) : String :=
  if isReplayType gov.executionType then "UNKNOWN"
  else if e.scope = .none ∨ e.scope = .channelExhausted ∨ e.blocked then "LOW"
  else if !e.advice.thresholdWarnings.isEmpty then "LOW"
  else if e.advice.aiOut.aiGovernanceTier = .stale ∨
      e.advice.aiOut.aiGovernanceTier = .unavailable then "MEDIUM"
  else
    match e.scope with
    | .preferred _ => if e.advice.aiOut.aiInputUsed then "HIGH" else "MEDIUM"
    | _ => "MEDIUM"

/-- `emit_assessment`. -/
def emit (ctx : ChannelAdvisoryContext) (e : Emission) : ChannelAdvisoryAssessment :=
  let gov := ctx.governance
  let s := e.advice
  { channelAdvisoryProduced := e.produced
    advisoryScope := e.scope
    recommendedChannelCandidates := e.candidates
    prohibitedChannels := s.prohibited
    governanceConstraints := settle gov e
    escalationConstraints := s.esc
    replayRestrictions := s.rr
    aiContext := s.aiOut
    thresholdBindings := s.tb
    providerHealthMetadata := s.ph
    advisoryConfidence := confidence gov e
    executionMode := gov.executionMode
    executionType := gov.executionType
    configVersionId := gov.configVersionId
    historicalConfigVersionId := s.rr.historicalConfigVersionId
    correlationId := gov.correlationId
    causationId := gov.causationId
    attributionMetadata := gov.attributionContext
    attributionStatus := if attributionIncomplete gov then "INCOMPLETE" else "COMPLETE"
    degradedEvaluation := s.degraded
    rulePathTaken := s.path
    assessmentBasis :=
      if isReplayType gov.executionType then "HISTORICAL_REPLAY"
      else if s.aiOut.channelPriorityAdjustmentApplied then "AI_ASSISTED"
      else if s.aiOut.fallbackApplied then "FALLBACK"
      else "RULE_BASED"
    reasonCodes := s.codes
    advisoryBlocked := e.blocked
    blockingReason := e.blockingReason
    configThresholdWarnings := s.thresholdWarnings }

def assessChannelAdvisory (env : RuleEnv) (ctx : ChannelAdvisoryContext) :
    Except Py.Error ChannelAdvisoryAssessment :=
  let r0 := governancePreconditions ctx.governance
  if r0 ≠ [] then .ok (makeBlocked ctx r0)
  else (eval rule13 (rules env ctx) (start ctx)).map (emit ctx)

end Channel
end StudentSuccess
