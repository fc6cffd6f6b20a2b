import StudentSuccess.GhlTransport
import StudentSuccess.Outreach

namespace StudentSuccess
namespace Worker
set_option autoImplicit true
open Outreach Provider GhlTransport

def validExecutionModes : List String := ["SHADOW", "LIVE"]

def validExecutionTypes : List String := ["original", "replay", "regeneration", "recovery"]

def replayTypes : List String := ["replay", "regeneration"]

def suppressedScopes : List String :=
  ["SHADOW_ONLY", "REPLAY_ONLY", "UNAVAILABLE", "MAINTENANCE", "DUPLICATE_SUPPRESSED"]

/-- What the worker takes from the process: `settings.GHL_LOCATION_ID`, and the texts of floats
and containers. -/
structure WorkerEnv where
  ghlLocationId : String
  repr : Py.Value → String

structure WorkerJobContext where
  governanceScope : String
  intentType : Option String
  isReplay : Bool
  liveEffectsSuppressed : Bool
  dispatchAuthorized : Bool
  dispatchBlockedReason : Option String
  correlationId : Option String
  causationId : Option String
  orchestrationCycleId : Option String
  originSource : Option String
  originAuthority : Option String
  actorIdentity : Option String
  attributionTimestamp : Option String
  configVersionId : Option String
  executionMode : String
  executionType : String
  thresholdBindings : RuleSet
  idempotencyKey : Option String
  studentIdOpaque : Option String
  checkpointType : Option String
  contactAttempt : Int
  providerHealthState : String := "UNKNOWN"
  circuitBreakerState : String := "UNKNOWN"
  degraded : Bool
  degradationCause : Option String
  degradationFlags : List String
  complianceHoldActive : Bool
  jobId : String

/-- The worker's record, less its event id and duration. -/
structure WorkerExecutionRecord where
  jobId : String
  governanceScope : String
  outcome : String
  correlationId : Option String
  causationId : Option String
  orchestrationCycleId : Option String
  originSource : Option String
  originAuthority : Option String
  actorIdentity : Option String
  configVersionId : Option String
  executionMode : String
  executionType : String
  intentType : Option String
  dispatchDelegated : Bool
  dispatchOutcome : Option String
  channel : Option String
  outboundSuppressed : Bool
  suppressionReason : Option String
  degraded : Bool
  degradationCause : Option String
  studentIdOpaque : Option String
  checkpointType : Option String
  contactAttempt : Int
  rulePathTaken : List String
  reasonCodes : List String
  errorClass : Option String
  executionBlocked : Bool
  blockingReason : Option String

def makeIdempotencyKey (env : WorkerEnv) (student : Student) (attempt : Int) : String :=
  (field student "UserID").text env.repr ++ ":" ++ (field student "PathName").text env.repr ++
    ":" ++ toString attempt

def makeJobContext (env : WorkerEnv) (record : OutreachCoordinationRecord) (student : Student)
    (attempt : Int) (jobId : String) : WorkerJobContext where
  governanceScope := record.governanceScope
  intentType := record.intentType
  isReplay := record.isReplay
  liveEffectsSuppressed := record.liveEffectsSuppressed
  dispatchAuthorized := record.dispatchAuthorized
  dispatchBlockedReason := record.dispatchBlockedReason
  correlationId := record.correlationId
  causationId := record.causationId
  orchestrationCycleId := record.orchestrationCycleId
  originSource := record.originSource
  originAuthority := record.originAuthority
  actorIdentity := record.actorIdentity
  attributionTimestamp := record.attributionTimestamp
  configVersionId := record.configVersionId
  executionMode := record.executionMode
  executionType := record.executionType
  thresholdBindings := record.thresholdBindings
  idempotencyKey := some (makeIdempotencyKey env student attempt)
  studentIdOpaque :=
    if (field student "UserID").truthy then some ((field student "UserID").text env.repr) else none
  checkpointType := record.checkpointType
  contactAttempt := attempt
  degraded := record.degraded
  degradationCause := record.degradationCause
  degradationFlags := record.degradationFlags
  complianceHoldActive := record.complianceHoldActive
  jobId := jobId

def makeProviderContext (ctx : WorkerJobContext) : ProviderOrchestrationContext where
  configVersionId := ctx.configVersionId
  executionMode := ctx.executionMode
  executionType := ctx.executionType
  configRuleSet := some ctx.thresholdBindings
  complianceHoldActive := ctx.complianceHoldActive
  idempotencyKey := ctx.idempotencyKey
  originSource := ctx.originSource
  originAuthority := ctx.originAuthority
  correlationId := ctx.correlationId
  causationId := ctx.causationId
  upstreamIntentId := ctx.orchestrationCycleId
  actorIdentity := ctx.actorIdentity
  providerHealthState := ctx.providerHealthState
  circuitBreakerState := ctx.circuitBreakerState
  retryAttemptCount := ctx.contactAttempt
  studentIdOpaque := ctx.studentIdOpaque

/-- `INTENT_CHANNEL_MAP`, with the default channel. -/
def channelForIntent : Option String → String
  | some "INITIATE_OUTREACH" => "call"
  | some "RETRY_OUTREACH" => "sms"
  | some "ESCALATE" => "email"
  | some "CLOSE" => "ghl"
  | some "DEFER_PENDING_AI" => "ghl"
  | some "HOLD" => "ghl"
  | _ => "call"

/-- RULE 0: the codes of the preconditions that fail. -/
def governancePreconditionGate (ctx : WorkerJobContext) : List String :=
  (if !Py.truthyText ctx.configVersionId || ctx.configVersionId == some "UNKNOWN_V0"
    then ["CONFIG_VERSION_UNRESOLVED"] else []) ++
  (if ctx.executionMode ∉ validExecutionModes then ["EXECUTION_MODE_INVALID"] else []) ++
  (if ctx.executionType ∉ validExecutionTypes then ["EXECUTION_TYPE_INVALID"] else []) ++
  (if !Py.truthyText ctx.correlationId then ["CORRELATION_ID_MISSING"] else []) ++
  (if !Py.truthyText ctx.originSource then ["ATTRIBUTION_MISSING_ORIGIN_SOURCE"] else []) ++
  (if !Py.truthyText ctx.originAuthority then ["ATTRIBUTION_MISSING_ORIGIN_AUTHORITY"] else []) ++
  (if !Py.truthyText ctx.actorIdentity then ["ATTRIBUTION_MISSING_ACTOR_IDENTITY"] else [])

/-- The fields in which the worker's exits differ. -/
structure Exit where
  outcome : String
  executionBlocked : Bool := false
  blockingReason : Option String := none
  dispatchDelegated : Bool := false
  channel : Option String := none
  dispatchOutcome : Option String := none
  outboundSuppressed : Bool := false
  suppressionReason : Option String := none

def buildExecutionRecord (ctx : WorkerJobContext) (rulePath codes : List String) (exit : Exit) :
    WorkerExecutionRecord where
  jobId := ctx.jobId
  governanceScope := ctx.governanceScope
  outcome := exit.outcome
  correlationId := ctx.correlationId
  causationId := ctx.causationId
  orchestrationCycleId := ctx.orchestrationCycleId
  originSource := ctx.originSource
  originAuthority := ctx.originAuthority
  actorIdentity := ctx.actorIdentity
  configVersionId := ctx.configVersionId
  executionMode := ctx.executionMode
  executionType := ctx.executionType
  intentType := ctx.intentType
  dispatchDelegated := exit.dispatchDelegated
  dispatchOutcome := exit.dispatchOutcome
  channel := exit.channel
  outboundSuppressed := exit.outboundSuppressed
  suppressionReason := exit.suppressionReason
  degraded := ctx.degraded
  degradationCause := ctx.degradationCause
  studentIdOpaque := ctx.studentIdOpaque
  checkpointType := ctx.checkpointType
  contactAttempt := ctx.contactAttempt
  rulePathTaken := rulePath
  reasonCodes := codes
  errorClass := none
  executionBlocked := exit.executionBlocked
  blockingReason := exit.blockingReason

/-- RULE 6: the provider's assessment and the transport's result. -/
def delegate (env : WorkerEnv) (keys : List String) (ctx : WorkerJobContext) (student : Student)
    (attempt : Int) :
    Except Py.Error (List String × ProviderOrchestrationAssessment × DispatchResult) := do
  let (keys', assessment) ← assessProviderOrchestration keys (makeProviderContext ctx)
  let payload := buildGhlPayload env.ghlLocationId student (channelForIntent ctx.intentType) attempt
  return (keys', assessment, executeGhlDispatch assessment payload)

def suppressed (blockingReason : Option String) (suppressionReason : String) : Exit where
  outcome := "suppressed"
  blockingReason := blockingReason
  outboundSuppressed := true
  suppressionReason := some suppressionReason

/-- `coordinate_worker_execution`: the outbound idempotency store, and the worker's record. -/
def coordinateWorkerExecution (env : WorkerEnv) (keys : List String) (jobId : String)
    (record : OutreachCoordinationRecord) (student : Student) (attempt : Int) :
    Except Py.Error (List String × WorkerExecutionRecord) := do
  let ctx := makeJobContext env record student attempt jobId
  let gateCodes := governancePreconditionGate ctx
  if gateCodes ≠ [] then
    return (keys, buildExecutionRecord ctx ["RULE_0"] gateCodes
      { outcome := "blocked", executionBlocked := true, blockingReason := gateCodes.head? })
  if !record.dispatchAuthorized then
    return (keys, buildExecutionRecord ctx ["RULE_0", "RULE_1"]
      (["DISPATCH_NOT_AUTHORIZED"] ++
        if record.orchestrationBlocked then ["ORCHESTRATION_BLOCKED"] else [])
      (suppressed record.dispatchBlockedReason
        (Py.orText record.dispatchBlockedReason "dispatch_not_authorized")))
  if ctx.governanceScope ∈ suppressedScopes then
    return (keys, buildExecutionRecord ctx ["RULE_0", "RULE_1", "RULE_2"]
      ["GOVERNANCE_SCOPE_SUPPRESSED", ctx.governanceScope]
      (suppressed (some ("scope:" ++ ctx.governanceScope))
        ("governance_scope:" ++ ctx.governanceScope)))
  if ctx.isReplay || replayTypes.contains ctx.executionType then
    return (keys, buildExecutionRecord ctx ["RULE_0", "RULE_1", "RULE_2", "RULE_3"]
      ["REPLAY_EXECUTION_SUPPRESSED"]
      (suppressed (some "replay_containment") "replay_containment"))
  if ctx.liveEffectsSuppressed then
    return (keys, buildExecutionRecord ctx ["RULE_0", "RULE_1", "RULE_2", "RULE_3", "RULE_4"]
      ["LIVE_EFFECTS_SUPPRESSED"]
      (suppressed (some "live_effects_suppressed") "live_effects_suppressed"))
  if ctx.complianceHoldActive then
    return (keys, buildExecutionRecord ctx
      ["RULE_0", "RULE_1", "RULE_2", "RULE_3", "RULE_4", "RULE_5"] ["COMPLIANCE_HOLD_ACTIVE"]
      { outcome := "blocked", executionBlocked := true, blockingReason := some "compliance_hold" })
  let (keys', _, result) ← delegate env keys ctx student attempt
  return (keys', buildExecutionRecord ctx
    ["RULE_0", "RULE_1", "RULE_2", "RULE_3", "RULE_4", "RULE_5", "RULE_6"] result.reasonCodes
    { outcome := "dispatch_delegated"
      dispatchDelegated := true
      channel := some (channelForIntent ctx.intentType)
      dispatchOutcome := some result.outcome
      outboundSuppressed := result.outboundSuppressed
      suppressionReason :=
        if result.outboundSuppressed then
          some (if result.governanceScope ≠ "" then "transport_scope:" ++ result.governanceScope
            else "transport_suppressed")
        else none })

theorem coordinateWorkerExecution_builds
    (h : coordinateWorkerExecution env keys jobId record student attempt = .ok (keys', exec)) :
    ∃ rulePath codes exit, exec =
      buildExecutionRecord (makeJobContext env record student attempt jobId) rulePath codes
        exit := by
  simp only [coordinateWorkerExecution] at h
  iterate 6
    rcases ite_eq_iff.1 h with ⟨-, h⟩ | ⟨-, h⟩
    · cases h
      exact ⟨_, _, _, rfl⟩
  rw [Py.bind_eq_ok] at h
  obtain ⟨delegated, -, h⟩ := h
  cases h
  exact ⟨_, _, _, rfl⟩

/-- What the worker answers to a record that does not authorize a dispatch. -/
theorem coordinateWorkerExecution_unauthorized (hrecord : record.dispatchAuthorized = false)
    (h : coordinateWorkerExecution env keys jobId record student attempt = .ok (keys', exec)) :
    exec.dispatchDelegated = false ∧ keys' = keys := by
  simp only [coordinateWorkerExecution] at h
  rcases ite_eq_iff.1 h with ⟨-, h⟩ | ⟨-, h⟩
  · cases h
    exact ⟨rfl, rfl⟩
  · rw [hrecord] at h
    simp only [Bool.not_false, if_true] at h
    cases h
    exact ⟨rfl, rfl⟩

/-- A worker that delegates has passed every check and reports the transport's result. -/
theorem coordinateWorkerExecution_delegated
    (h : coordinateWorkerExecution env keys jobId record student attempt = .ok (keys', exec))
    (hdelegated : exec.dispatchDelegated = true) :
    ∃ assessment result,
      delegate env keys (makeJobContext env record student attempt jobId) student attempt =
        .ok (keys', assessment, result) ∧
      exec.outboundSuppressed = result.outboundSuppressed := by
  simp only [coordinateWorkerExecution] at h
  iterate 6
    rcases ite_eq_iff.1 h with ⟨-, h⟩ | ⟨-, h⟩
    · cases h
      exact absurd hdelegated Bool.false_ne_true
  rw [Py.bind_eq_ok] at h
  obtain ⟨⟨keys'', assessment, result⟩, hdelegate, h⟩ := h
  cases h
  exact ⟨assessment, result, hdelegate, rfl⟩

theorem delegate_eq_ok
    (h : delegate env keys ctx student attempt = .ok (keys', assessment, result)) :
    assessProviderOrchestration keys (makeProviderContext ctx) = .ok (keys', assessment) ∧
      result = executeGhlDispatch assessment
        (buildGhlPayload env.ghlLocationId student (channelForIntent ctx.intentType) attempt) := by
  rw [delegate] at h
  rw [Py.bind_eq_ok] at h
  obtain ⟨⟨keys'', assessment'⟩, hassess, h⟩ := h
  cases h
  exact ⟨hassess, rfl⟩

end Worker
end StudentSuccess
