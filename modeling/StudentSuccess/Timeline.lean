import StudentSuccess.Thresholds

namespace StudentSuccess
namespace Timeline
set_option autoImplicit true

def validExecutionModes : List String := ["SHADOW", "LIVE"]

def validExecutionTypes : List String := ["original", "replay", "regeneration", "recovery"]

def replayTypes : List String := ["replay", "regeneration"]

def sqlServerOrigins : List String := ["mirrored_sql_server"]

def sourceEventTypeMap : List (String × String) :=
  [("outreach_history", "ORCHESTRATION"),
    ("state_transition_log", "STATE_CHANGE"),
    ("student_notes", "NOTE"),
    ("ai_insights", "AI_LIFECYCLE"),
    ("ghl_messages", "COMMUNICATION"),
    ("student_campaign_activity", "COMMUNICATION"),
    ("student_quick_action_log", "GOVERNANCE_TRANSITION"),
    ("snapshot_lifecycle_log", "SNAPSHOT_LIFECYCLE"),
    ("report_lifecycle_log", "GOVERNANCE_TRANSITION"),
    ("config_version_registry", "CONFIG_TRANSITION"),
    ("compliance_audit", "COMPLIANCE_LIFECYCLE"),
    ("orchestration_coordinator", "ORCHESTRATION")]

def timelineThresholdKeys : List String :=
  ["timeline_max_events_per_student", "timeline_retention_days", "timeline_replay_window_days"]

structure TimelineEventContext where
  configVersionId : Option String
  executionMode : String
  executionType : String
  correlationId : Option String
  configRuleSet : Option RuleSet := none
  causationId : Option String := none
  orchestrationCycleId : Option String := none
  idempotencyKey : Option String := none
  maintenanceModeActive : Bool := false
  originSource : Option String := none
  originAuthority : Option String := none
  actorIdentity : Option String := none
  attributionTimestamp : Option String := none
  upstreamCorrelationId : Option String := none
  eventTypeHint : Option String := none
  rawEventSource : Option String := none
  executionStateBefore : Option String := none
  executionStateAfter : Option String := none
  finalizedLineageDetected : Bool := false
  sourceArtifactId : Option String := none
  historicalConfigVersionId : Option String := none

/-- The lineage record, less its event id and duration. -/
structure TimelineLineageRecord where
  governanceScope : String
  eventType : Option String
  lineageVisibility : String
  isReplay : Bool
  liveEffectsSuppressed : Bool
  originSource : Option String
  originAuthority : Option String
  actorIdentity : Option String
  attributionTimestamp : Option String
  upstreamCorrelationId : Option String
  authoritativeSource : String
  configVersionId : Option String
  historicalConfigVersionId : Option String
  thresholdBindings : RuleSet
  correlationId : Option String
  causationId : Option String
  orchestrationCycleId : Option String
  executionType : String
  executionMode : String
  rulePathTaken : List String
  outcome : String
  errorClass : Option String
  executionStateBefore : Option String
  executionStateAfter : Option String
  causationChainPreserved : Bool
  appendOnlyEnforced : Bool
  finalizedLineageProtected : Bool
  replayLineagePreserved : Bool
  sqlServerAuthorityPreserved : Bool
  lineageEmitAuthorized : Bool
  degraded : Bool
  degradationFlags : List String
  degradationCause : Option String
  reasonCodes : List String
  orchestrationBlocked : Bool
  blockingReason : Option String
  orchestrationContinues : Bool

/-- RULE 0: the codes of the preconditions that fail. -/
def governancePreconditionGate (keys : List String) (ctx : TimelineEventContext) : List String :=
  (if ctx.executionMode ∉ validExecutionModes then ["INVALID_EXECUTION_MODE"] else []) ++
  (if ctx.executionType ∉ validExecutionTypes then ["INVALID_EXECUTION_TYPE"] else []) ++
  (if !Py.truthyText ctx.configVersionId then ["CONFIG_VERSION_ID_MISSING"] else []) ++
  (if !Py.truthyText ctx.correlationId then ["CORRELATION_ID_MISSING"] else []) ++
  (if !Py.truthyText ctx.originSource then ["ORIGIN_SOURCE_MISSING"] else []) ++
  (if !Py.truthyText ctx.originAuthority then ["ORIGIN_AUTHORITY_MISSING"] else []) ++
  (if !Py.truthyText ctx.actorIdentity then ["ACTOR_IDENTITY_MISSING"] else []) ++
  (match ctx.idempotencyKey with
    | some key =>
      if key ≠ "" ∧ key ∈ keys then ["IDEMPOTENCY_DUPLICATE_DETECTED"] else []
    | none => [])

def resolvable (v : Py.Value) : Bool := !isUnknownV0 v

/-- `_classify_event_type`; the hint wins over the type of the event's source. -/
def classifyEventType (ctx : TimelineEventContext) : String :=
  match ctx.rawEventSource.bind (Py.get? · sourceEventTypeMap) with
  | some sourceType =>
    if Py.truthyText ctx.eventTypeHint && ctx.eventTypeHint != some "UNKNOWN"
    then ctx.eventTypeHint.getD "" else sourceType
  | none => Py.orText ctx.eventTypeHint "UNKNOWN"

def classifyAuthoritativeSource (ctx : TimelineEventContext) : String :=
  if ctx.originSource.any (sqlServerOrigins.contains ·) then "sql_server_authoritative"
  else if ctx.originSource = some "ghl" then "ghl_sync"
  else if ctx.originSource = some "operator" ∨ ctx.originSource = some "platform_manual" then
    "operator_authorized"
  else if ctx.originSource = some "ai_subsystem" then "ai_subsystem"
  else if ctx.originSource = some "compliance_pathway" then "compliance_authorized"
  else "system_automated"

def makeUnevaluated (ctx : TimelineEventContext) (codes rulePath : List String) :
    TimelineLineageRecord where
  governanceScope := "UNAVAILABLE"
  eventType := none
  lineageVisibility := "SHADOW_VISIBLE"
  isReplay := replayTypes.contains ctx.executionType
  liveEffectsSuppressed := true
  originSource := ctx.originSource
  originAuthority := ctx.originAuthority
  actorIdentity := ctx.actorIdentity
  attributionTimestamp := ctx.attributionTimestamp
  upstreamCorrelationId := ctx.upstreamCorrelationId
  authoritativeSource := "system_automated"
  configVersionId := ctx.configVersionId
  historicalConfigVersionId := ctx.historicalConfigVersionId
  thresholdBindings := []
  correlationId := ctx.correlationId
  causationId := ctx.causationId
  orchestrationCycleId := ctx.orchestrationCycleId
  executionType := ctx.executionType
  executionMode := ctx.executionMode
  rulePathTaken := rulePath
  outcome := "failure"
  errorClass := none
  executionStateBefore := ctx.executionStateBefore
  executionStateAfter := ctx.executionStateAfter
  causationChainPreserved := Py.truthyText ctx.causationId
  appendOnlyEnforced := true
  finalizedLineageProtected := true
  replayLineagePreserved := true
  sqlServerAuthorityPreserved := true
  lineageEmitAuthorized := false
  degraded := false
  degradationFlags := []
  degradationCause := none
  reasonCodes := codes
  orchestrationBlocked := false
  blockingReason := none
  orchestrationContinues := false

def makeBlockedLineageRecord (ctx : TimelineEventContext) (codes rulePath : List String)
    (blockingReason : Option String) : TimelineLineageRecord :=
  { makeUnevaluated ctx codes rulePath with
    errorClass := some "GovernancePreconditionError"
    orchestrationBlocked := true
    blockingReason := blockingReason }

def makeMaintenanceLineageRecord (ctx : TimelineEventContext) (codes rulePath : List String) :
    TimelineLineageRecord :=
  { makeUnevaluated ctx codes rulePath with
    governanceScope := "MAINTENANCE"
    isReplay := false
    historicalConfigVersionId := none
    thresholdBindings := timelineThresholdKeys.map fun k => (k, unknownV0)
    outcome := "success" }

def makeReplayLineageRecord (ctx : TimelineEventContext) (codes rulePath : List String) :
    TimelineLineageRecord :=
  let sourceMissing := !Py.truthyText ctx.sourceArtifactId
  { makeUnevaluated ctx codes rulePath with
    governanceScope := "REPLAY_ONLY"
    lineageVisibility := "REPLAY_ONLY"
    isReplay := true
    outcome := if sourceMissing then "degraded" else "success"
    degraded := sourceMissing
    degradationFlags := if sourceMissing then ["REPLAY_SOURCE_ARTIFACT_MISSING"] else []
    degradationCause := if sourceMissing then some "REPLAY_SOURCE_ARTIFACT_MISSING" else none
    orchestrationContinues := true }

/-- RULES 3 to 12, on an original or recovery execution that is not suspended. -/
def evaluate (ctx : TimelineEventContext) : TimelineLineageRecord :=
  let ruleSet := ctx.configRuleSet.getD []
  let missingFlags :=
    (missingThresholdKeys resolvable timelineThresholdKeys ruleSet).map thresholdMissingFlag
  let finalizedCodes :=
    if ctx.finalizedLineageDetected then ["FINALIZED_LINEAGE_PROTECTED"] else []
  let causationFlags :=
    if !Py.truthyText ctx.causationId then ["CAUSATION_CHAIN_INCOMPLETE"] else []
  let eventType := classifyEventType ctx
  let authorityCodes :=
    if ctx.originSource.any (sqlServerOrigins.contains ·) then ["SQL_SERVER_AUTHORITY_PRESERVED"]
    else []
  -- RULE 9 waits for the Phase-12 certification: a live execution gets the shadow scope too.
  let scopeCodes :=
    if ctx.executionMode = "SHADOW" then [] else ["LIVE_SCOPE_SHADOW_ONLY_PHASE11"]
  let flags := missingFlags ++ causationFlags
  { makeUnevaluated ctx
      (missingFlags ++ finalizedCodes ++ causationFlags ++ ["EVENT_TYPE_" ++ eventType] ++
        authorityCodes ++ scopeCodes)
      ["RULE_0", "RULE_1", "RULE_2", "RULE_3", "RULE_4", "RULE_5", "RULE_6", "RULE_7", "RULE_8",
        "RULE_9", "RULE_10", "RULE_11", "RULE_12"] with
    governanceScope := "SHADOW_ONLY"
    eventType := some eventType
    lineageVisibility :=
      if ctx.finalizedLineageDetected then "FINALIZED_PROTECTED" else "SHADOW_VISIBLE"
    isReplay := false
    authoritativeSource := classifyAuthoritativeSource ctx
    thresholdBindings := resolveThresholds resolvable timelineThresholdKeys ruleSet
    outcome := "shadow_only"
    degraded := !flags.isEmpty
    degradationFlags := flags
    degradationCause := flags.head?
    orchestrationContinues := true }

def registerKey (keys : List String) (ctx : TimelineEventContext) : List String :=
  match ctx.idempotencyKey with
  | some key => if key ≠ "" ∧ ctx.executionType = "original" then key :: keys else keys
  | none => keys

/-- `classify_timeline_event`: the idempotency store it leaves, and its record. -/
def classifyTimelineEvent (keys : List String) (ctx : TimelineEventContext) :
    List String × TimelineLineageRecord :=
  let gateCodes := governancePreconditionGate keys ctx
  if gateCodes ≠ [] then
    (keys, makeBlockedLineageRecord ctx gateCodes ["RULE_0"] gateCodes.head?)
  else if ctx.maintenanceModeActive then
    (registerKey keys ctx,
      makeMaintenanceLineageRecord ctx ["MAINTENANCE_MODE_ACTIVE"] ["RULE_0", "RULE_1"])
  else if ctx.executionType ∈ replayTypes then
    (registerKey keys ctx,
      makeReplayLineageRecord ctx
        (["REPLAY_MODE_ACTIVE"] ++
          if !Py.truthyText ctx.sourceArtifactId then ["REPLAY_SOURCE_ARTIFACT_MISSING"] else [])
        ["RULE_0", "RULE_1", "RULE_2"])
  else (registerKey keys ctx, evaluate ctx)

end Timeline
end StudentSuccess
