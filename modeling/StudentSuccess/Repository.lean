import StudentSuccess.Models

namespace StudentSuccess
namespace Repository
set_option autoImplicit true

def validExecutionModes : List String :=
  ["LIVE", "SHADOW", "REPLAY", "REGENERATION", "DEGRADED", "MAINTENANCE"]

def validExecutionTypes : List String := ["original", "replay", "regeneration", "recovery"]

def replayExecutionTypes : List String := ["replay", "regeneration"]

/-- The attribution a service hands to every persistence operation. -/
structure AttributionFields where
  correlationId : String
  executionMode : String
  executionType : String
  governanceScope : String
  causationId : Option String := none
  configVersionId : Option String := none
  orchestrationCycleId : Option String := none
  originSource : Option String := none
  originAuthority : Option String := none
  historicalConfigVersionId : Option String := none
  isReplay : Bool := false
  attributionComplete : Bool := false
  deriving DecidableEq

/-- The record every persistence path emits, less its own id, time and duration. -/
structure PersistenceRecord where
  event : String
  tableName : String
  persistenceClass : String
  correlationId : String
  causationId : Option String
  executionMode : String
  executionType : String
  governanceScope : String
  isReplay : Bool
  attributionComplete : Bool
  outcome : String
  blocked : Bool
  blockingCodes : List String
  blockingReason : Option String
  recordId : Option Nat
  idempotencyKey : Option String
  rulePathTaken : List String
  deriving DecidableEq

def checkAttributionFields (attribution : AttributionFields) : List String :=
  (if attribution.correlationId = "" then ["CORRELATION_ID_MISSING"] else []) ++
  (if attribution.executionMode = "" then ["EXECUTION_MODE_MISSING"]
    else if attribution.executionMode ∉ validExecutionModes then ["INVALID_EXECUTION_MODE"]
    else []) ++
  (if attribution.executionType = "" then ["EXECUTION_TYPE_MISSING"]
    else if attribution.executionType ∉ validExecutionTypes then ["INVALID_EXECUTION_TYPE"]
    else []) ++
  (if attribution.governanceScope = "" then ["GOVERNANCE_SCOPE_MISSING"] else [])

def checkAttributionComplete (attribution : AttributionFields) : Bool :=
  attribution.correlationId != "" && attribution.executionMode != "" &&
    attribution.executionType != "" && attribution.governanceScope != ""

def checkFinalizedProtection (isFinalized : Bool) : List String :=
  if isFinalized then ["FINALIZED_MUTATION_BLOCKED"] else []

def checkReplayLiveOverwrite (isReplay targetIsLive : Bool) : List String :=
  if isReplay && targetIsLive then ["REPLAY_LIVE_OVERWRITE_BLOCKED"] else []

def checkIdempotency (idempotencyKey : Option String) (idempotencyStore : List String)
    (executionType : String) : List String :=
  match idempotencyKey with
  | none => []
  | some key =>
    if key = "" then []
    else if executionType ∈ replayExecutionTypes then []
    else if key ∈ idempotencyStore then ["IDEMPOTENCY_DUPLICATE"]
    else []

/-- RULE 0 of every persistence operation: the blocking codes, none when the gate passes. -/
def governancePersistenceGate (attribution : AttributionFields) (idempotencyKey : Option String)
    (idempotencyStore : List String) (isFinalized targetIsLive : Bool) : List String :=
  checkAttributionFields attribution ++ checkFinalizedProtection isFinalized ++
    checkReplayLiveOverwrite attribution.isReplay targetIsLive ++
    checkIdempotency idempotencyKey idempotencyStore attribution.executionType

def makePersistenceRecord (attribution : AttributionFields)
    (event tableName persistenceClass : String)
    (blocked : Bool) (blockingCodes : List String) (blockingReason : Option String)
    (outcome : String) (recordId : Option Nat) (idempotencyKey : Option String)
    (rulePath : List String) : PersistenceRecord where
  event := event
  tableName := tableName
  persistenceClass := persistenceClass
  correlationId := attribution.correlationId
  causationId := attribution.causationId
  executionMode := attribution.executionMode
  executionType := attribution.executionType
  governanceScope := attribution.governanceScope
  isReplay := attribution.isReplay
  attributionComplete := checkAttributionComplete attribution
  outcome := outcome
  blocked := blocked
  blockingCodes := blockingCodes
  blockingReason := blockingReason
  recordId := recordId
  idempotencyKey := idempotencyKey
  rulePathTaken := rulePath

/-- What a repository operation works on: the tables as its transaction sees them, and the
idempotency stores of the process, which no rollback undoes. -/
structure Session where
  db : Db
  outreachHistoryKeys : List String
  processedEventsKeys : List String

structure HistoryArgs where
  trackingId : Nat
  userId : Int
  checkpointType : String
  attemptNumber : Int
  idempotencyKey : Option String := none
  channel : Option String := none
  action : Option String := none
  simulatedStatus : String := "NOT_SENT"
  payload : Option (List (String × Py.Value)) := none
  decision : Option String := none
  stateBefore : Option OutreachState := none
  stateAfter : Option OutreachState := none
  replayContext : Option (List (String × Py.Value)) := none

def historyRow (now : Instant) (args : HistoryArgs) (attribution : AttributionFields) (id : Nat) :
    OutreachHistory where
  id := id
  trackingId := args.trackingId
  userId := args.userId
  checkpointType := args.checkpointType
  attemptNumber := args.attemptNumber
  channel := args.channel
  action := args.action
  executionMode := attribution.executionMode
  simulatedStatus := args.simulatedStatus
  payload := args.payload
  decision := args.decision
  stateBefore := args.stateBefore
  stateAfter := args.stateAfter
  correlationId := attribution.correlationId
  causationId := attribution.causationId
  configVersionId := attribution.configVersionId
  executionType := attribution.executionType
  governanceScope := attribution.governanceScope
  orchestrationCycleId := attribution.orchestrationCycleId
  originSource := attribution.originSource
  originAuthority := attribution.originAuthority
  isReplay := attribution.isReplay
  attributionComplete := checkAttributionComplete attribution
  idempotencyKey := args.idempotencyKey
  replayContext := args.replayContext
  createdAt := now

theorem historyRow_id (now : Instant) (args : HistoryArgs) (attribution : AttributionFields)
    (n : Nat) : (historyRow now args attribution n).id = n := rfl

def appendOutreachHistory (session : Session) (now : Instant) (args : HistoryArgs)
    (attribution : AttributionFields) : Option OutreachHistory × PersistenceRecord × Session :=
  let blockingCodes := governancePersistenceGate attribution args.idempotencyKey
    session.outreachHistoryKeys false false
  if blockingCodes ≠ [] then
    (none,
      makePersistenceRecord attribution "outreach_history_append_blocked" "outreach_history"
        "append_only" true blockingCodes blockingCodes.head? "blocked" none args.idempotencyKey
        ["RULE_0_GOVERNANCE_GATE"],
      session)
  else
    let keys := match args.idempotencyKey with
      | some key =>
        if key ≠ "" ∧ attribution.executionType ∉ replayExecutionTypes
        then key :: session.outreachHistoryKeys else session.outreachHistoryKeys
      | none => session.outreachHistoryKeys
    let id := session.db.outreachHistory.nextId
    (some (historyRow now args attribution id),
      makePersistenceRecord attribution "outreach_history_appended" "outreach_history"
        "append_only" false [] none "success" (some id) args.idempotencyKey
        ["RULE_0_GOVERNANCE_GATE", "RULE_1_APPEND_INSERT"],
      { session with
        db := { session.db with
          outreachHistory := session.db.outreachHistory.insertNew
            (historyRow now args attribution) (historyRow_id now args attribution) }
        outreachHistoryKeys := keys })

structure TransitionArgs where
  trackingId : Nat
  userId : Int
  fromState : OutreachState
  toState : OutreachState
  trigger : String
  actor : String := "system"
  metaData : Option (List (String × Py.Value)) := none

def transitionRow (now : Instant) (args : TransitionArgs) (attribution : AttributionFields)
    (id : Nat) : StateTransitionLog where
  id := id
  trackingId := args.trackingId
  userId := args.userId
  fromState := args.fromState
  toState := args.toState
  trigger := args.trigger
  actor := args.actor
  metaData := args.metaData
  correlationId := attribution.correlationId
  causationId := attribution.causationId
  configVersionId := attribution.configVersionId
  executionMode := attribution.executionMode
  executionType := attribution.executionType
  governanceScope := attribution.governanceScope
  originSource := attribution.originSource
  originAuthority := attribution.originAuthority
  isReplay := attribution.isReplay
  attributionComplete := checkAttributionComplete attribution
  createdAt := now

theorem transitionRow_id (now : Instant) (args : TransitionArgs) (attribution : AttributionFields)
    (n : Nat) : (transitionRow now args attribution n).id = n := rfl

def appendStateTransition (session : Session) (now : Instant) (args : TransitionArgs)
    (attribution : AttributionFields) : Option StateTransitionLog × PersistenceRecord × Session :=
  let blockingCodes := governancePersistenceGate attribution none [] false false
  if blockingCodes ≠ [] then
    (none,
      makePersistenceRecord attribution "state_transition_append_blocked" "state_transition_log"
        "append_only" true blockingCodes blockingCodes.head? "blocked" none none
        ["RULE_0_GOVERNANCE_GATE"],
      session)
  else
    let id := session.db.stateTransitionLog.nextId
    (some (transitionRow now args attribution id),
      makePersistenceRecord attribution "state_transition_appended" "state_transition_log"
        "append_only" false [] none "success" (some id) none
        ["RULE_0_GOVERNANCE_GATE", "RULE_1_APPEND_INSERT"],
      { session with
        db := { session.db with
          stateTransitionLog := session.db.stateTransitionLog.insertNew
            (transitionRow now args attribution) (transitionRow_id now args attribution) } })

structure EventArgs where
  eventHash : String
  /-- The event type and the user as the driver binds them when the row is flushed. -/
  columns : Except Py.Error (Option String × Option Int)
  rawPayload : Option (List (String × Py.Value)) := none

def eventRow (now : Instant) (args : EventArgs) (attribution : AttributionFields)
    (columns : Option String × Option Int) (id : Nat) : ProcessedEvents where
  id := id
  eventHash := args.eventHash
  eventType := columns.1
  userId := columns.2
  rawPayload := args.rawPayload
  correlationId := attribution.correlationId
  executionMode := attribution.executionMode
  executionType := attribution.executionType
  governanceScope := attribution.governanceScope
  processedAt := now

/-- `INSERT INTO processed_events` of a hash that is not stored. -/
def insertEvent (session : Session) (now : Instant) (args : EventArgs)
    (attribution : AttributionFields) (columns : Option String × Option Int)
    (h : args.eventHash ∉ session.db.processedEvents.rows.map (·.eventHash)) : Session :=
  { session with
    db := { session.db with
      processedEvents := session.db.processedEvents.insert
        (eventRow now args attribution columns
          (Table.freshId (session.db.processedEvents.rows.map (·.id)))) h } }

/-- The insert of the event is refused both by the gate and for a stored hash; the caller is
told the same in both cases. -/
def recordProcessedEvent (session : Session) (now : Instant) (args : EventArgs)
    (attribution : AttributionFields) : Except Py.Error (Bool × PersistenceRecord × Session) :=
  let blockingCodes := governancePersistenceGate attribution args.eventHash
    session.processedEventsKeys false false
  let hardBlocks := blockingCodes.filter (· ≠ "IDEMPOTENCY_DUPLICATE")
  if hardBlocks ≠ [] then
    .ok (false,
      makePersistenceRecord attribution "processed_event_blocked" "processed_events"
        "idempotency_store" true hardBlocks hardBlocks.head? "blocked" none args.eventHash
        ["RULE_0_GOVERNANCE_GATE"],
      session)
  else if h : args.eventHash ∈ session.db.processedEvents.rows.map (·.eventHash) then
    .ok (false,
      makePersistenceRecord attribution "processed_event_duplicate_rejected" "processed_events"
        "idempotency_store" false ["IDEMPOTENCY_DUPLICATE"] "IDEMPOTENCY_DUPLICATE"
        "duplicate_rejected" none args.eventHash
        ["RULE_0_GOVERNANCE_GATE", "RULE_1_IDEMPOTENCY_CHECK"],
      session)
  else
    match args.columns with
    | .error e => .error e
    | .ok columns =>
      .ok (true,
        makePersistenceRecord attribution "processed_event_recorded" "processed_events"
          "idempotency_store" false [] none "success"
          (some (Table.freshId (session.db.processedEvents.rows.map (·.id)))) args.eventHash
          ["RULE_0_GOVERNANCE_GATE", "RULE_1_IDEMPOTENCY_CHECK", "RULE_2_INSERT"],
        insertEvent session now args attribution columns h)

theorem original_mem_validExecutionTypes : "original" ∈ validExecutionTypes := by
  decide

theorem checkAttributionFields_eq_nil_iff (attribution : AttributionFields) :
    checkAttributionFields attribution = [] ↔
      attribution.correlationId ≠ "" ∧ attribution.executionMode ∈ validExecutionModes ∧
      attribution.executionType ∈ validExecutionTypes ∧ attribution.governanceScope ≠ "" := by
  have hmode : "" ∉ validExecutionModes := by decide
  have htype : "" ∉ validExecutionTypes := by decide
  rw [checkAttributionFields]
  rw [List.append_eq_nil_iff, List.append_eq_nil_iff, List.append_eq_nil_iff]
  constructor
  · rintro ⟨⟨⟨hc, hm⟩, ht⟩, hs⟩
    refine ⟨by simpa using hc, ?_, ?_, by simpa using hs⟩
    · by_cases h : attribution.executionMode = "" <;> simp [h] at hm
      exact hm
    · by_cases h : attribution.executionType = "" <;> simp [h] at ht
      exact ht
  · rintro ⟨hc, hm, ht, hs⟩
    have hm' : attribution.executionMode ≠ "" := fun h => hmode (h ▸ hm)
    have ht' : attribution.executionType ≠ "" := fun h => htype (h ▸ ht)
    simp [hc, hm, ht, hs, hm', ht']

/-- Without an idempotency key or a finalized target, only the attribution can be refused. -/
theorem gate_no_key (attribution : AttributionFields) :
    governancePersistenceGate attribution none store false false =
      checkAttributionFields attribution := by
  simp [governancePersistenceGate, checkFinalizedProtection, checkReplayLiveOverwrite,
    checkIdempotency]

theorem duplicate_not_mem_checkAttributionFields (attribution : AttributionFields) :
    "IDEMPOTENCY_DUPLICATE" ∉ checkAttributionFields attribution := by
  rw [checkAttributionFields]
  simp only [List.mem_append, not_or]
  refine ⟨⟨⟨?_, ?_⟩, ?_⟩, ?_⟩ <;> split_ifs <;> decide

theorem hardBlocks_eq (attribution : AttributionFields) :
    ((governancePersistenceGate attribution key store false false).filter
      (· ≠ "IDEMPOTENCY_DUPLICATE")) = checkAttributionFields attribution := by
  have hkey : (checkIdempotency key store attribution.executionType).filter
      (fun c => decide (c ≠ "IDEMPOTENCY_DUPLICATE")) = [] := by
    simp only [checkIdempotency]
    split
    · rfl
    · split_ifs <;> rfl
  have hself : (checkAttributionFields attribution).filter
      (fun c => decide (c ≠ "IDEMPOTENCY_DUPLICATE")) = checkAttributionFields attribution := by
    rw [List.filter_eq_self]
    intro c hc
    have hne : c ≠ "IDEMPOTENCY_DUPLICATE" :=
      fun h => duplicate_not_mem_checkAttributionFields attribution (h ▸ hc)
    simpa using hne
  simp only [governancePersistenceGate]
  rw [List.filter_append, hkey]
  simp only [checkFinalizedProtection, checkReplayLiveOverwrite, Bool.and_false,
    Bool.false_eq_true, if_false, List.append_nil]
  exact hself

theorem appendStateTransition_refused (h : checkAttributionFields attribution ≠ []) :
    (appendStateTransition session now args attribution).2.2 = session := by
  rw [appendStateTransition]
  rw [gate_no_key, if_pos h]

theorem appendStateTransition_accepted (h : checkAttributionFields attribution = []) :
    (appendStateTransition session now args attribution).2.2 =
      { session with
        db := { session.db with
          stateTransitionLog := session.db.stateTransitionLog.insertNew
            (transitionRow now args attribution) (transitionRow_id now args attribution) } } := by
  rw [appendStateTransition]
  rw [gate_no_key, if_neg (not_not_intro h)]

/-- The transition append touches neither the history nor the idempotency store. -/
theorem appendStateTransition_frame (session : Session) (now : Instant) (args : TransitionArgs)
    (attribution : AttributionFields) :
    (appendStateTransition session now args attribution).2.2.db.outreachHistory =
        session.db.outreachHistory ∧
      (appendStateTransition session now args attribution).2.2.db.processedEvents =
        session.db.processedEvents := by
  simp only [appendStateTransition]
  split_ifs <;> exact ⟨rfl, rfl⟩

/-- The history append touches no other table. -/
theorem appendOutreachHistory_frame (session : Session) (now : Instant) (args : HistoryArgs)
    (attribution : AttributionFields) :
    (appendOutreachHistory session now args attribution).2.2.db.tracking = session.db.tracking ∧
      (appendOutreachHistory session now args attribution).2.2.db.stateTransitionLog =
        session.db.stateTransitionLog ∧
      (appendOutreachHistory session now args attribution).2.2.db.processedEvents =
        session.db.processedEvents := by
  simp only [appendOutreachHistory]
  split_ifs <;> exact ⟨rfl, rfl, rfl⟩

theorem recordProcessedEvent_refused (session : Session) (now : Instant) (args : EventArgs)
    (attribution : AttributionFields)
    (h : checkAttributionFields attribution ≠ []) :
    ∃ record, recordProcessedEvent session now args attribution =
      .ok (false, record, session) := by
  rw [recordProcessedEvent]
  simp only [hardBlocks_eq, if_pos h, Except.ok.injEq, Prod.mk.injEq, true_and, and_true,
    exists_eq']

theorem recordProcessedEvent_inserted (session : Session) (now : Instant) (args : EventArgs)
    (attribution : AttributionFields)
    (hgate : checkAttributionFields attribution = [])
    (hnew : args.eventHash ∉ session.db.processedEvents.rows.map (·.eventHash))
    (hcolumns : args.columns = .ok columns) :
    ∃ record, recordProcessedEvent session now args attribution =
      .ok (true, record, insertEvent session now args attribution columns hnew) := by
  rw [recordProcessedEvent]
  simp only [hardBlocks_eq, hgate, ne_eq, not_true_eq_false, if_false, dif_neg hnew, hcolumns]
  exact ⟨_, rfl⟩

theorem recordProcessedEvent_stored (session : Session) (now : Instant) (args : EventArgs)
    (attribution : AttributionFields)
    (hstored : args.eventHash ∈ session.db.processedEvents.rows.map (·.eventHash)) :
    ∃ record, recordProcessedEvent session now args attribution =
      .ok (false, record, session) := by
  by_cases hgate : checkAttributionFields attribution = []
  · rw [recordProcessedEvent]
    simp only [hardBlocks_eq, hgate, ne_eq, not_true_eq_false, if_false, dif_pos hstored]
    exact ⟨_, rfl⟩
  · exact recordProcessedEvent_refused session now args attribution hgate

theorem appendOutreachHistory_accepted (hgate : checkAttributionFields attribution = [])
    (hkey : args.idempotencyKey = none) :
    (appendOutreachHistory session now args attribution).2.2.db.outreachHistory.rows =
      session.db.outreachHistory.rows ++
        [historyRow now args attribution session.db.outreachHistory.nextId] := by
  rw [appendOutreachHistory]
  simp only [hkey, gate_no_key, hgate, ne_eq, not_true_eq_false, if_false, Table.insertNew_rows]

/-- What the accepted insert leaves: the session as it was, or one row more in the store. -/
theorem recordProcessedEvent_session
    (h : recordProcessedEvent session now args attribution = .ok (inserted, record, session')) :
    (inserted = false ∧ session' = session) ∨
      (inserted = true ∧ args.eventHash ∉ session.db.processedEvents.rows.map (·.eventHash) ∧
        (∃ columns, args.columns = .ok columns) ∧
        session'.db.tracking = session.db.tracking ∧
        session'.db.stateTransitionLog = session.db.stateTransitionLog ∧
        session'.db.outreachHistory = session.db.outreachHistory) := by
  simp only [recordProcessedEvent] at h
  split_ifs at h with hblocks hstored
  · cases h
    exact .inl ⟨rfl, rfl⟩
  · cases h
    exact .inl ⟨rfl, rfl⟩
  · cases hcols : args.columns with
    | error e =>
      rw [hcols] at h
      cases h
    | ok columns =>
      rw [hcols] at h
      cases h
      exact .inr ⟨rfl, hstored, ⟨columns, rfl⟩, rfl, rfl, rfl⟩

end Repository
end StudentSuccess
