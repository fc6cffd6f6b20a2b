import StudentSuccess.Thresholds

namespace StudentSuccess
namespace Sync
set_option autoImplicit true

def validExecutionModes : List String := ["SHADOW", "LIVE"]

def validExecutionTypes : List String := ["original", "replay", "regeneration", "recovery"]

def replayTypes : List String := ["replay", "regeneration"]

inductive SyncIntent
  | ingestAuthoritative
  | reconcileConflicts
  | deferStale
  | hold
  deriving DecidableEq, Repr

def SyncIntent.text : SyncIntent → String
  | .ingestAuthoritative => "INGEST_AUTHORITATIVE"
  | .reconcileConflicts => "RECONCILE_CONFLICTS"
  | .deferStale => "DEFER_STALE"
  | .hold => "HOLD"

def kSqlMaxSyncAgeHours : String := "sql_server_max_sync_age_hours"

def syncThresholdKeys : List String :=
  ["sync_batch_size", kSqlMaxSyncAgeHours, "sync_max_retry_attempts", "sync_conflict_threshold",
    "sync_lag_escalation_hours"]

structure SyncOrchestrationContext where
  configVersionId : Option String
  executionMode : String
  executionType : String
  correlationId : Option String
  configRuleSet : Option RuleSet := none
  causationId : Option String := none
  orchestrationCycleId : Option String := none
  idempotencyKey : Option String := none
  maintenanceModeActive : Bool := false
  complianceHoldFlag : Bool := false
  originSource : Option String := none
  originAuthority : Option String := none
  actorIdentity : Option String := none
  attributionTimestamp : Option String := none
  upstreamCorrelationId : Option String := none
  syncDomain : String := "TRIGGER_DATA"
  rowsScanned : Int := 0
  rowsValid : Int := 0
  rowsInvalid : Int := 0
  sqlServerAvailable : Bool := true
  syncLagHours : Rat := 0
  circuitBreakerState : String := "UNKNOWN"
  finalizedArtifactsDetected : Int := 0
  historicalConfigVersionId : Option String := none
  sourceArtifactId : Option String := none

/-- The coordination record, less its event id and duration. -/
structure SyncCoordinationRecord where
  governanceScope : String
  syncIntent : Option String
  isReplay : Bool
  liveEffectsSuppressed : Bool
  originSource : Option String
  originAuthority : Option String
  actorIdentity : Option String
  attributionTimestamp : Option String
  upstreamCorrelationId : Option String
  authoritativeSource : String
  configVersionId : Option String
  historicalConfigVersionId : Option String
  thresholdBindings : RuleSet
  correlationId : Option String
  causationId : Option String
  orchestrationCycleId : Option String
  executionType : String
  executionMode : String
  rulePathTaken : List String
  outcome : String
  errorClass : Option String
  syncDomain : String
  rowsScanned : Int
  rowsValid : Int
  rowsInvalid : Int
  dispatchAuthorized : Bool
  syncBlockedReason : Option String
  sqlServerReadOnlyEnforced : Bool
  conflictPreservationRequired : Bool
  finalizedArtifactsProtected : Bool
  finalizedArtifactsDetected : Int
  appendOnlyLineagePreserved : Bool
  degraded : Bool
  degradationFlags : List String
  degradationCause : Option String
  reasonCodes : List String
  orchestrationBlocked : Bool
  blockingReason : Option String
  orchestrationContinues : Bool

/-- RULE 0: the codes of the preconditions that fail. -/
def governancePreconditionGate (keys : List String) (ctx : SyncOrchestrationContext) :
    List String :=
  (if ctx.executionMode ∉ validExecutionModes then ["INVALID_EXECUTION_MODE"] else []) ++
  (if ctx.executionType ∉ validExecutionTypes then ["INVALID_EXECUTION_TYPE"] else []) ++
  (if !Py.truthyText ctx.configVersionId then ["CONFIG_VERSION_ID_MISSING"] else []) ++
  (if !Py.truthyText ctx.correlationId then ["CORRELATION_ID_MISSING"] else []) ++
  (if !Py.truthyText ctx.originSource then ["ORIGIN_SOURCE_MISSING"] else []) ++
  (if !Py.truthyText ctx.originAuthority then ["ORIGIN_AUTHORITY_MISSING"] else []) ++
  (if !Py.truthyText ctx.actorIdentity then ["ACTOR_IDENTITY_MISSING"] else []) ++
  (match ctx.idempotencyKey with
    | some key =>
      if key ≠ "" ∧ key ∈ keys then ["IDEMPOTENCY_DUPLICATE_DETECTED"] else []
    | none => [])

def resolvable (v : Py.Value) : Bool := !isUnknownV0 v

/-- The sync lag is past its threshold. -/
def lagExceeded (ctx : SyncOrchestrationContext) (bindings : RuleSet) : Except Py.Error Bool :=
  match threshold bindings kSqlMaxSyncAgeHours with
  | .null => .ok false
  | lagThreshold =>
    if isUnknownV0 lagThreshold then .ok false
    else
      Py.catchMalformed ((Py.toFloat lagThreshold).map (Py.gtFloat ctx.syncLagHours)) false

def classifySyncIntent (ctx : SyncOrchestrationContext) (bindings : RuleSet)
    (syncBlocked : Bool) : Except Py.Error SyncIntent := do
  if syncBlocked then return .hold
  if !ctx.sqlServerAvailable then return .deferStale
  if ← lagExceeded ctx bindings then return .deferStale
  if 0 < ctx.rowsInvalid then return .reconcileConflicts
  return .ingestAuthoritative

def makeUnevaluated (ctx : SyncOrchestrationContext) (codes rulePath : List String) :
    SyncCoordinationRecord where
  governanceScope := "UNAVAILABLE"
  syncIntent := none
  isReplay := replayTypes.contains ctx.executionType
  liveEffectsSuppressed := true
  originSource := ctx.originSource
  originAuthority := ctx.originAuthority
  actorIdentity := ctx.actorIdentity
  attributionTimestamp := ctx.attributionTimestamp
  upstreamCorrelationId := ctx.upstreamCorrelationId
  authoritativeSource := "sql_server_authoritative"
  configVersionId := ctx.configVersionId
  historicalConfigVersionId := ctx.historicalConfigVersionId
  thresholdBindings := []
  correlationId := ctx.correlationId
  causationId := ctx.causationId
  orchestrationCycleId := ctx.orchestrationCycleId
  executionType := ctx.executionType
  executionMode := ctx.executionMode
  rulePathTaken := rulePath
  outcome := "failure"
  errorClass := none
  syncDomain := ctx.syncDomain
  rowsScanned := ctx.rowsScanned
  rowsValid := ctx.rowsValid
  rowsInvalid := ctx.rowsInvalid
  dispatchAuthorized := false
  syncBlockedReason := none
  sqlServerReadOnlyEnforced := true
  conflictPreservationRequired := false
  finalizedArtifactsProtected := true
  finalizedArtifactsDetected := ctx.finalizedArtifactsDetected
  appendOnlyLineagePreserved := true
  degraded := false
  degradationFlags := []
  degradationCause := none
  reasonCodes := codes
  orchestrationBlocked := false
  blockingReason := none
  orchestrationContinues := false

def makeBlockedRecord (ctx : SyncOrchestrationContext) (codes rulePath : List String)
    (blockingReason : Option String) : SyncCoordinationRecord :=
  { makeUnevaluated ctx codes rulePath with
    errorClass := some "GovernancePreconditionError"
    syncBlockedReason := blockingReason
    orchestrationBlocked := true
    blockingReason := blockingReason }

def makeMaintenanceRecord (ctx : SyncOrchestrationContext) (codes rulePath : List String) :
    SyncCoordinationRecord :=
  { makeUnevaluated ctx codes rulePath with
    governanceScope := "MAINTENANCE"
    isReplay := false
    historicalConfigVersionId := none
    thresholdBindings := syncThresholdKeys.map fun k => (k, unknownV0)
    outcome := "success"
    rowsScanned := 0
    rowsValid := 0
    rowsInvalid := 0
    syncBlockedReason := some "MAINTENANCE_MODE_SUSPENDED"
    finalizedArtifactsDetected := 0 }

def makeReplayRecord (ctx : SyncOrchestrationContext) (codes rulePath : List String) :
    SyncCoordinationRecord :=
  let sourceMissing := !Py.truthyText ctx.sourceArtifactId
  { makeUnevaluated ctx codes rulePath with
    governanceScope := "REPLAY_ONLY"
    isReplay := true
    outcome := if sourceMissing then "degraded" else "success"
    syncBlockedReason := some "REPLAY_LIVE_SYNC_PROHIBITED"
    degraded := sourceMissing
    degradationFlags := if sourceMissing then ["REPLAY_SOURCE_ARTIFACT_MISSING"] else []
    degradationCause := if sourceMissing then some "REPLAY_SOURCE_ARTIFACT_MISSING" else none
    orchestrationContinues := true }

/-- RULES 3 to 13, on an original or recovery execution that is not suspended. -/
def evaluate (ctx : SyncOrchestrationContext) : Except Py.Error SyncCoordinationRecord := do
  let ruleSet := ctx.configRuleSet.getD []
  let bindings := resolveThresholds resolvable syncThresholdKeys ruleSet
  let missingFlags :=
    (missingThresholdKeys resolvable syncThresholdKeys ruleSet).map thresholdMissingFlag
  let finalizedCodes :=
    if 0 < ctx.finalizedArtifactsDetected
    then ["FINALIZED_ARTIFACTS_PROTECTED_" ++ toString ctx.finalizedArtifactsDetected] else []
  let circuitOpen := ctx.circuitBreakerState == "OPEN"
  let circuitFlags := if circuitOpen then ["CIRCUIT_BREAKER_OPEN"] else []
  let unavailableFlags := if !ctx.sqlServerAvailable then ["SQL_SERVER_UNAVAILABLE"] else []
  let lag ← lagExceeded ctx bindings
  let lagFlags := if lag then ["SYNC_LAG_EXCEEDED"] else []
  let holdFlags := if ctx.complianceHoldFlag then ["COMPLIANCE_HOLD_SYNC_BLOCKED"] else []
  let syncBlockedReason :=
    if circuitOpen then some "CIRCUIT_BREAKER_OPEN"
    else if !ctx.sqlServerAvailable then some "SQL_SERVER_UNAVAILABLE"
    else if ctx.complianceHoldFlag then some "COMPLIANCE_HOLD_ACTIVE"
    else none
  let syncBlocked := circuitOpen || !ctx.sqlServerAvailable || ctx.complianceHoldFlag
  let intent ← classifySyncIntent ctx bindings syncBlocked
  -- RULE 11 waits for the Phase-12 certification: a live execution gets the shadow scope too.
  let scope := if syncBlocked then "UNAVAILABLE" else "SHADOW_ONLY"
  let scopeCodes :=
    if !syncBlocked && ctx.executionMode != "SHADOW"
    then ["LIVE_SCOPE_SHADOW_ONLY_PHASE11"] else []
  let flags := missingFlags ++ circuitFlags ++ unavailableFlags ++ lagFlags ++ holdFlags
  return {
    makeUnevaluated ctx
      (missingFlags ++ ["SQL_SERVER_READ_ONLY_BOUNDARY_ENFORCED"] ++ finalizedCodes ++
        circuitFlags ++ unavailableFlags ++ lagFlags ++ holdFlags ++ ["INTENT_" ++ intent.text] ++
        scopeCodes)
      ["RULE_0", "RULE_1", "RULE_2", "RULE_3", "RULE_4", "RULE_5", "RULE_6", "RULE_7", "RULE_8",
        "RULE_9", "RULE_10", "RULE_11", "RULE_12", "RULE_13"] with
    governanceScope := scope
    syncIntent := some intent.text
    isReplay := false
    liveEffectsSuppressed := scope != "AUTHORIZED"
    thresholdBindings := bindings
    outcome := if syncBlocked then "degraded" else "shadow_only"
    syncBlockedReason := syncBlockedReason
    conflictPreservationRequired := decide (0 < ctx.rowsInvalid)
    degraded := !flags.isEmpty
    degradationFlags := flags
    degradationCause := flags.head?
    orchestrationContinues := scope != "UNAVAILABLE" }

def registerKey (keys : List String) (ctx : SyncOrchestrationContext) : List String :=
  match ctx.idempotencyKey with
  | some key => if key ≠ "" ∧ ctx.executionType = "original" then key :: keys else keys
  | none => keys

/-- `coordinate_sync_cycle`: the idempotency store it leaves, and its record. -/
def coordinateSyncCycle (keys : List String) (ctx : SyncOrchestrationContext) :
    List String × Except Py.Error SyncCoordinationRecord :=
  let gateCodes := governancePreconditionGate keys ctx
  if gateCodes ≠ [] then
    (keys, .ok (makeBlockedRecord ctx gateCodes ["RULE_0"] gateCodes.head?))
  else if ctx.maintenanceModeActive then
    (registerKey keys ctx,
      .ok (makeMaintenanceRecord ctx ["MAINTENANCE_MODE_ACTIVE"] ["RULE_0", "RULE_1"]))
  else if ctx.executionType ∈ replayTypes then
    (registerKey keys ctx,
      .ok (makeReplayRecord ctx
        (["REPLAY_MODE_ACTIVE"] ++
          if !Py.truthyText ctx.sourceArtifactId then ["REPLAY_SOURCE_ARTIFACT_MISSING"] else [])
        ["RULE_0", "RULE_1", "RULE_2"]))
  else (registerKey keys ctx, evaluate ctx)

theorem evaluate_readOnly (h : evaluate ctx = .ok record) :
    record.sqlServerReadOnlyEnforced = true ∧ record.dispatchAuthorized = false ∧
      record.governanceScope ≠ "AUTHORIZED" ∧ record.orchestrationBlocked = false := by
  rw [evaluate] at h
  rw [Py.bind_eq_ok] at h
  obtain ⟨lag, -, h⟩ := h
  rw [Py.bind_eq_ok] at h
  obtain ⟨intent, -, h⟩ := h
  cases h
  refine ⟨rfl, rfl, ?_, rfl⟩
  dsimp only
  split_ifs
  · simp
  · simp

/-- No coordination record authorizes a write to the SQL Server or a dispatch. -/
theorem coordinateSyncCycle_readOnly (keys : List String)
    (h : (coordinateSyncCycle keys ctx).2 = .ok record) :
    record.sqlServerReadOnlyEnforced = true ∧ record.dispatchAuthorized = false ∧
      record.governanceScope ≠ "AUTHORIZED" := by
  unfold coordinateSyncCycle at h
  dsimp only at h
  split_ifs at h
  · cases h
    exact ⟨rfl, rfl, by simp [makeBlockedRecord, makeUnevaluated]⟩
  · cases h
    exact ⟨rfl, rfl, by simp [makeMaintenanceRecord]⟩
  · cases h
    exact ⟨rfl, rfl, by simp [makeReplayRecord]⟩
  · cases h
    exact ⟨rfl, rfl, by simp [makeReplayRecord]⟩
  · obtain ⟨hread, hdispatch, hscope, -⟩ := evaluate_readOnly h
    exact ⟨hread, hdispatch, hscope⟩

end Sync
end StudentSuccess
