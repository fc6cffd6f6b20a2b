import StudentSuccess.Audit
import StudentSuccess.Platform

namespace StudentSuccess
set_option autoImplicit true
open Repository Router

/-- `build_governance_attribution_fields`. -/
structure AttributionView where
  correlationId : Option String
  causationId : Option String
  configVersionId : Option String
  executionMode : String
  executionType : String
  governanceScope : String
  isReplay : Bool
  attributionComplete : Bool

structure StudentProfile where
  firstName : Option String
  lastName : Option String
  email : Option String
  phone : Option String
  path : Option String
  hwsBehind : Option Int
  avgEffRating : Option Rat
  lastActivityDays : Option Int
  riskLevel : String

structure HistoryItem where
  id : Nat
  attemptNumber : Int
  channel : Option String
  action : Option String
  executionMode : String
  simulatedStatus : String
  decision : Option String
  stateBefore : Option OutreachState
  stateAfter : Option OutreachState
  createdAt : Instant
  attribution : AttributionView
  isReplay : Bool
  replayContext : Option (List (String × Py.Value))

structure TransitionItem where
  id : Nat
  fromState : OutreachState
  toState : OutreachState
  trigger : String
  actor : String
  createdAt : Instant
  attribution : AttributionView

structure StudentDetail where
  userId : Int
  checkpointType : String
  state : OutreachState
  currentAttempt : Int
  lastContactAt : Option Instant
  nextRetryAt : Option Instant
  profile : StudentProfile
  history : List HistoryItem
  transitions : List TransitionItem

/-- The answers of the endpoint; the first has the status code 404. -/
inductive StudentResponse
  | notFound (response : APIResponse)
  | detail (student : StudentDetail) (metaData : GovernanceMeta)

def riskLevelForDisplay : Option StudentTriggerData → String
  | none => "UNKNOWN"
  | some profile =>
    if 3 ≤ profile.hwsBehind ∨ 14 < profile.lastActivityDays then "HIGH"
    else if 1 ≤ profile.hwsBehind ∨ 7 < profile.lastActivityDays then "MEDIUM"
    else "LOW"

def studentProfile (profile : Option StudentTriggerData) : StudentProfile where
  firstName := profile.bind (·.firstName)
  lastName := profile.bind (·.lastName)
  email := profile.bind (·.email)
  phone := profile.bind (·.phoneNumber)
  path := profile.bind (·.pathName)
  hwsBehind := profile.map (·.hwsBehind)
  avgEffRating := profile.map (·.avgEffRating)
  lastActivityDays := profile.map (·.lastActivityDays)
  riskLevel := riskLevelForDisplay profile

def historyItem (h : OutreachHistory) : HistoryItem where
  id := h.id
  attemptNumber := h.attemptNumber
  channel := h.channel
  action := h.action
  executionMode := h.executionMode
  simulatedStatus := h.simulatedStatus
  decision := h.decision
  stateBefore := h.stateBefore
  stateAfter := h.stateAfter
  createdAt := h.createdAt
  attribution :=
    ⟨h.correlationId, h.causationId, h.configVersionId, h.executionMode, h.executionType,
      h.governanceScope, h.isReplay, h.attributionComplete⟩
  isReplay := h.isReplay
  replayContext := h.replayContext

def transitionItem (t : StateTransitionLog) : TransitionItem where
  id := t.id
  fromState := t.fromState
  toState := t.toState
  trigger := t.trigger
  actor := t.actor
  createdAt := t.createdAt
  attribution :=
    ⟨t.correlationId, t.causationId, t.configVersionId, t.executionMode, t.executionType,
      t.governanceScope, t.isReplay, t.attributionComplete⟩

def trackingRows (db : Db) (userId : Int) : List StudentOutreachTracking :=
  db.tracking.rows.filter (·.userId = userId)

def webhookLookup (db : Db) (userId : Int) : Except Py.Error (Option StudentOutreachTracking) :=
  scalarOneOrNone (trackingRows db userId)

def studentLookup (db : Db) (userId : Int) : Except Py.Error (Option StudentOutreachTracking) :=
  scalarOneOrNone (trackingRows db userId)

/-- The lookup of `execute_manual_action`, over the one row that its limit leaves. -/
def manualActionLookup (db : Db) (userId : Int) :
    Except Py.Error (Option StudentOutreachTracking) :=
  scalarOneOrNone (latestTracking db userId).toList

/-- `GET /students/{user_id}`; `mode` is `str(settings.EXECUTION_MODE)`. -/
def getStudent (mode : String) (platform : Platform) (headers : Headers) (newUuid : Uuid)
    (now : Instant) (userId : Int) : Except Py.Error StudentResponse := do
  let attribution := buildRequestAttribution mode (extractCorrelationId headers newUuid)
    (extractCausationId headers) "original" none none
  let metaData := makeGovernanceMeta attribution now
  match ← studentLookup platform.toDb userId with
  | none =>
    return .notFound (.fail "NOT_FOUND"
      ("No outreach record found for student " ++ toString userId ++
        ". The student may not be tracked yet or the ID is incorrect.") metaData)
  | some tracking =>
    return .detail
      { userId := userId
        checkpointType := tracking.checkpointType
        state := tracking.state
        currentAttempt := tracking.currentAttempt
        lastContactAt := tracking.lastContactAt
        nextRetryAt := tracking.nextRetryAt
        profile := studentProfile (platform.triggerdata.find? userId)
        history := (orderBy (·.createdAt)
          (platform.outreachHistory.rows.filter (·.userId = userId))).map historyItem
        transitions := (orderBy (·.createdAt)
          (platform.stateTransitionLog.rows.filter (·.userId = userId))).map transitionItem }
      metaData

/-- The row is the user's, and no row of the user's was updated after it. -/
def MostRecent (db : Db) (userId : Int) : Option StudentOutreachTracking → Prop
  | none => trackingRows db userId = []
  | some tracking => tracking ∈ trackingRows db userId ∧
      ∀ r ∈ trackingRows db userId, r.updatedAt ≤ tracking.updatedAt

/-- The three lookups return, and return the same row, the most recently updated one. -/
def LookupsAgree (db : Db) (userId : Int) : Prop :=
  ∃ found, webhookLookup db userId = .ok found ∧ studentLookup db userId = .ok found ∧
    manualActionLookup db userId = .ok found ∧ MostRecent db userId found

theorem scalarOneOrNone_eq_ok_iff {rows : List α} :
    scalarOneOrNone rows = .ok found ↔ rows = found.toList := by
  cases rows with
  | nil =>
    cases found with
    | none => simp [scalarOneOrNone]
    | some a => simp [scalarOneOrNone]
  | cons a rows =>
    cases rows with
    | nil =>
      cases found with
      | none => simp [scalarOneOrNone]
      | some b => simp [scalarOneOrNone]
    | cons b rows =>
      cases found with
      | none => simp [scalarOneOrNone]
      | some c => simp [scalarOneOrNone]

/-- The manual action's lookup never raises. -/
theorem manualActionLookup_eq (db : Db) (userId : Int) :
    manualActionLookup db userId = .ok (latestTracking db userId) :=
  scalarOneOrNone_eq_ok_iff.2 rfl

theorem latestTracking_mostRecent (db : Db) (userId : Int) :
    MostRecent db userId (latestTracking db userId) := by
  cases h : latestTracking db userId with
  | none => exact List.argmax_eq_none.1 h
  | some tracking => exact ⟨List.argmax_mem h, fun r hr => List.le_of_mem_argmax hr h⟩

theorem latestTracking_of_toList (h : trackingRows db userId = found.toList) :
    latestTracking db userId = found := by
  have hrows : db.tracking.rows.filter (·.userId = userId) = found.toList := h
  rw [latestTracking]
  rw [hrows]
  cases found with
  | none => rfl
  | some tracking => rfl

theorem eq_toList_of_length_le_one {rows : List α} (h : rows.length ≤ 1) :
    ∃ found : Option α, rows = found.toList := by
  cases rows with
  | nil => exact ⟨none, rfl⟩
  | cons a rows =>
    have hnil : rows = [] := List.length_eq_zero_iff.1 (Nat.le_zero.1 (Nat.le_of_succ_le_succ h))
    rw [hnil]
    exact ⟨some a, rfl⟩

theorem getStudent_of_lookup_error (h : studentLookup platform.toDb userId = .error e) :
    getStudent mode platform headers newUuid now userId = .error e := by
  rw [getStudent]
  rw [h]
  rfl

theorem processWebhook_of_lookup_error
    (hknown : inValidGhlEvents ((Py.get? "event_type" raw).getD .null) = .ok true)
    (hpayload : env.validatePayload raw = .ok payload) (huser : payload.userId = some userId)
    (h : webhookLookup session.db userId = .error e) :
    processWebhook env mode session request raw attribution = .error e := by
  have hrows : scalarOneOrNone (session.db.tracking.rows.filter (·.userId = userId)) = .error e := h
  simp only [processWebhook, hknown, hpayload, huser, hrows, bind, Except.bind, Bool.not_true,
    Bool.false_eq_true, if_false]

/-- The lookups are total and agree for exactly the users with one tracking row at most. -/
theorem lookups_agree_iff (db : Db) (userId : Int) :
    LookupsAgree db userId ↔ (trackingRows db userId).length ≤ 1 := by
  constructor
  · intro h
    obtain ⟨found, hwebhook, -, -, -⟩ := h
    rw [scalarOneOrNone_eq_ok_iff.1 hwebhook]
    exact Option.length_toList_le
  · intro h
    obtain ⟨found, hfound⟩ := eq_toList_of_length_le_one h
    have hlatest := latestTracking_of_toList hfound
    refine ⟨found, scalarOneOrNone_eq_ok_iff.2 hfound, scalarOneOrNone_eq_ok_iff.2 hfound, ?_, ?_⟩
    · rw [manualActionLookup_eq, hlatest]
    · rw [← hlatest]
      exact latestTracking_mostRecent db userId

def secondCheckpointRow : StudentOutreachTracking :=
  { contactedRow with
    id := 2
    checkpointType := "LOW_RATING"
    updatedAt := 1 }

/-- One student, tracked under two checkpoints. -/
def twoCheckpoints : Platform where
  tracking := ⟨[contactedRow, secondCheckpointRow], by decide⟩
  outreachHistory := .empty
  stateTransitionLog := .empty
  processedEvents := .empty
  uqStudentCheckpoint := by decide
  triggerdata := .empty
  mirrorHistory := .empty
  campaignActivity := .empty
  aiInsights := .empty

/-- The manual action resolves the row of the second checkpoint; the webhook and the detail
endpoint raise. -/
theorem two_checkpoints_raise :
    ¬ LookupsAgree twoCheckpoints.toDb 7 ∧
    manualActionLookup twoCheckpoints.toDb 7 = .ok (some secondCheckpointRow) ∧
    webhookLookup twoCheckpoints.toDb 7 = .error .multipleResultsFound ∧
    studentLookup twoCheckpoints.toDb 7 = .error .multipleResultsFound := by
  have hwebhook : webhookLookup twoCheckpoints.toDb 7 = .error .multipleResultsFound := rfl
  refine ⟨?_, rfl, hwebhook, rfl⟩
  intro h
  obtain ⟨found, hfound, -, -, -⟩ := h
  rw [hwebhook] at hfound
  cases hfound

end StudentSuccess
