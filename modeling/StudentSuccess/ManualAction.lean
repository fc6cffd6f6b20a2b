import StudentSuccess.Repository
import Mathlib.Data.List.MinMax

namespace StudentSuccess
set_option autoImplicit true
open Repository

/-- `_ACTION_TYPE_TO_STATE.get(action_type)`. -/
def actionTypeToState : String → Option OutreachState
  | "CLOSE_CASE" => some .closed
  | "FORCE_RETRY" => some .retry
  | "ESCALATE" => some .interventionRequired
  | "BOOK_MEETING" => some .resolved
  | _ => none

/-- The scope both handlers derive from the mode's text. -/
def transitionScope (mode : String) : String :=
  if mode = "REPLAY" then "REPLAY_ONLY" else "SHADOW_ONLY"

/-- `ORDER BY updated_at DESC LIMIT 1` over the user's rows; rows updated at the same instant
are read in the table's order. -/
def latestTracking (db : Db) (userId : Int) : Option StudentOutreachTracking :=
  (db.tracking.rows.filter (·.userId = userId)).argmax (·.updatedAt)

structure ManualAction where
  userId : Int
  actionType : String
  notes : Option String
  /-- `str(uuid.uuid4())`. -/
  uuid : Uuid
  now : Instant

inductive ManualResult
  | invalidAction (actionType : String)
  | notFound (userId : Int)
  | invalidTransition (fromState toState : OutreachState)
  | ok (userId : Int) (actionType : String) (fromState toState : OutreachState)
      (trackingId : Nat) (correlationId : String)
  deriving DecidableEq

/-- The operator's attribution; `mode` is `str(settings.EXECUTION_MODE)`. -/
def manualAttribution (mode : String) (correlationId : String) : AttributionFields where
  correlationId := correlationId
  executionMode := mode
  executionType := "original"
  governanceScope := transitionScope mode
  originSource := some "operator_manual_action"
  originAuthority := some "operator"

def manualTransition (action : ManualAction) (tracking : StudentOutreachTracking)
    (targetState : OutreachState) : TransitionArgs where
  trackingId := tracking.id
  userId := action.userId
  fromState := tracking.state
  toState := targetState
  trigger := action.actionType
  actor := "operator"
  metaData :=
    if Py.truthyText action.notes
    then some [("notes", .str (action.notes.getD ""))] else none

def executeManualAction (mode : String) (session : Session) (action : ManualAction) :
    Session × ManualResult :=
  match actionTypeToState action.actionType with
  | none => (session, .invalidAction action.actionType)
  | some targetState =>
    match latestTracking session.db action.userId with
    | none => (session, .notFound action.userId)
    | some tracking =>
      if !canTransition tracking.state targetState then
        (session, .invalidTransition tracking.state targetState)
      else
        let flushed := { session with
          db := session.db.setTrackingState tracking.id targetState
            (fun _ => some action.uuid) action.now }
        -- The outcome of the append is not looked at before the commit.
        let committed := (appendStateTransition flushed action.now
          (manualTransition action tracking targetState)
          (manualAttribution mode action.uuid)).2.2
        (committed, .ok action.userId action.actionType tracking.state targetState tracking.id
          action.uuid)

def ManualAction.Accepted (db : Db) (action : ManualAction) : Prop :=
  ∃ targetState tracking, actionTypeToState action.actionType = some targetState ∧
    latestTracking db action.userId = some tracking ∧
    canTransition tracking.state targetState = true

theorem latestTracking_mem (h : latestTracking db userId = some tracking) :
    tracking ∈ db.tracking.rows := by
  have hmem := List.argmax_mem h
  exact (List.mem_filter.1 hmem).1

theorem transitionScope_ne_empty (mode : String) : transitionScope mode ≠ "" := by
  rw [transitionScope]
  split_ifs <;> decide

theorem manualAttribution_accepted_iff (mode : String) (uuid : Uuid) :
    checkAttributionFields (manualAttribution mode uuid) = [] ↔ mode ∈ validExecutionModes := by
  rw [checkAttributionFields_eq_nil_iff]
  constructor
  · exact fun h => h.2.1
  · exact fun h =>
      ⟨uuid.property, h, original_mem_validExecutionTypes, transitionScope_ne_empty mode⟩

theorem executeManualAction_rejected (h : ¬ action.Accepted session.db) :
    (executeManualAction mode session action).1 = session := by
  rw [executeManualAction]
  cases htarget : actionTypeToState action.actionType with
  | none => rfl
  | some targetState =>
    cases hlatest : latestTracking session.db action.userId with
    | none => rfl
    | some tracking =>
      cases hcan : canTransition tracking.state targetState with
      | false => simp [hcan]
      | true => exact absurd ⟨targetState, tracking, htarget, hlatest, hcan⟩ h

theorem executeManualAction_accepted (htarget : actionTypeToState action.actionType = some target)
    (hlatest : latestTracking session.db action.userId = some tracking)
    (hcan : canTransition tracking.state target = true) :
    (executeManualAction mode session action).1 =
      (appendStateTransition { session with
          db := session.db.setTrackingState tracking.id target
            (fun _ => some action.uuid) action.now } action.now
        (manualTransition action tracking target) (manualAttribution mode action.uuid)).2.2 := by
  rw [executeManualAction]
  simp [htarget, hlatest, hcan]

end StudentSuccess
