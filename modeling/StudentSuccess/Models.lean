import StudentSuccess.PyValue
import StudentSuccess.StateMachine
import StudentSuccess.Table

namespace StudentSuccess
set_option autoImplicit true

inductive ExecutionMode
  | shadow
  | live
  deriving DecidableEq, Repr

def ExecutionMode.value : ExecutionMode → String
  | .shadow => "SHADOW"
  | .live => "LIVE"

/-- `str(mode)`: the class derives from `(str, Enum)` and defines no `__str__`. -/
def ExecutionMode.str : ExecutionMode → String
  | .shadow => "ExecutionMode.SHADOW"
  | .live => "ExecutionMode.LIVE"

/-- Microseconds since 0001-01-01T00:00Z. -/
abbrev Instant := Nat

/-- The text of a fresh `uuid4`, which is never empty. -/
abbrev Uuid := { s : String // s ≠ "" }

/-- Current outreach state per student and checkpoint. -/
structure StudentOutreachTracking where
  id : Nat
  userId : Int
  checkpointType : String
  state : OutreachState
  currentAttempt : Int
  lastContactAt : Option Instant
  nextRetryAt : Option Instant
  correlationId : Option String
  executionMode : String
  updatedAt : Instant

/-- Append-only record of every outreach attempt. -/
structure OutreachHistory where
  id : Nat
  trackingId : Nat
  userId : Int
  checkpointType : String
  attemptNumber : Int
  channel : Option String
  action : Option String
  executionMode : String
  simulatedStatus : String
  payload : Option (List (String × Py.Value))
  decision : Option String
  stateBefore : Option OutreachState
  stateAfter : Option OutreachState
  correlationId : Option String
  causationId : Option String
  configVersionId : Option String
  executionType : String
  governanceScope : String
  orchestrationCycleId : Option String
  originSource : Option String
  originAuthority : Option String
  isReplay : Bool
  attributionComplete : Bool
  idempotencyKey : Option String
  replayContext : Option (List (String × Py.Value))
  createdAt : Instant

/-- Immutable audit trail of every state change. -/
structure StateTransitionLog where
  id : Nat
  trackingId : Nat
  userId : Int
  fromState : OutreachState
  toState : OutreachState
  trigger : String
  actor : String
  metaData : Option (List (String × Py.Value))
  correlationId : Option String
  causationId : Option String
  configVersionId : Option String
  executionMode : String
  executionType : String
  governanceScope : String
  originSource : Option String
  originAuthority : Option String
  isReplay : Bool
  attributionComplete : Bool
  createdAt : Instant

/-- Idempotency store of the webhook events. -/
structure ProcessedEvents where
  id : Nat
  eventHash : String
  eventType : Option String
  userId : Option Int
  rawPayload : Option (List (String × Py.Value))
  correlationId : Option String
  executionMode : String
  executionType : String
  governanceScope : String
  processedAt : Instant

/-- The outreach tables, with the schema's unique constraints. -/
structure Db where
  tracking : Table StudentOutreachTracking (·.id)
  outreachHistory : Table OutreachHistory (·.id)
  stateTransitionLog : Table StateTransitionLog (·.id)
  processedEvents : Table ProcessedEvents (·.eventHash)
  uqStudentCheckpoint : (tracking.rows.map fun r => (r.userId, r.checkpointType)).Nodup

namespace Db

def stateOf (db : Db) (trackingId : Nat) : Option OutreachState :=
  (db.tracking.find? trackingId).map (·.state)

/-- `UPDATE student_outreach_tracking` of columns outside both keys. -/
def updateTracking (db : Db) (trackingId : Nat)
    (f : StudentOutreachTracking → StudentOutreachTracking)
    (hf : ∀ r, (f r).id = r.id ∧ (f r).userId = r.userId ∧
      (f r).checkpointType = r.checkpointType) : Db :=
  { db with
    tracking := db.tracking.update trackingId f fun r => (hf r).1
    uqStudentCheckpoint := by
      have hkeys : ∀ r : StudentOutreachTracking,
          ((if r.id = trackingId then f r else r).userId,
            (if r.id = trackingId then f r else r).checkpointType) =
          (r.userId, r.checkpointType) := by
        intro r
        by_cases h : r.id = trackingId <;> simp [h, hf]
      rw [Table.update_rows, List.map_map]
      simp only [Function.comp_def, hkeys]
      exact db.uqStudentCheckpoint }

/-- `UPDATE … SET state, correlation_id`; `updated_at` is refreshed on every update. -/
def setTrackingState (db : Db) (trackingId : Nat) (state : OutreachState)
    (correlationId : Option String → Option String) (now : Instant) : Db :=
  db.updateTracking trackingId
    (fun r => { r with
      state := state
      correlationId := correlationId r.correlationId
      updatedAt := now })
    fun _ => ⟨rfl, rfl, rfl⟩

@[simp] theorem setTrackingState_outreachHistory (db : Db) :
    (db.setTrackingState k s c now).outreachHistory = db.outreachHistory := rfl

@[simp] theorem setTrackingState_stateTransitionLog (db : Db) :
    (db.setTrackingState k s c now).stateTransitionLog = db.stateTransitionLog := rfl

@[simp] theorem setTrackingState_processedEvents (db : Db) :
    (db.setTrackingState k s c now).processedEvents = db.processedEvents := rfl

theorem stateOf_setTrackingState (db : Db) (k' : Nat) :
    (db.setTrackingState k s c now).stateOf k' =
      if k' = k then (db.stateOf k).map fun _ => s else db.stateOf k' := by
  by_cases h : k' = k
  · subst h
    simp [stateOf, setTrackingState, updateTracking, Function.comp_def]
  · simp [stateOf, setTrackingState, updateTracking, h]

end Db

end StudentSuccess
