import StudentSuccess.RouterHelpers
import StudentSuccess.ManualAction

namespace StudentSuccess
set_option autoImplicit true
open Repository Router

def validGhlEvents : List String :=
  ["CALL_COMPLETED", "SMS_RESPONSE", "EMAIL_RESPONSE", "TRANSCRIPT_READY"]

structure GHLWebhookPayload where
  eventType : String
  userId : Option Int
  contactId : Option String
  outcome : Option String
  transcript : Option String

/-- What the handler calls outside the modelled code. -/
structure WebhookEnv where
  /-- `sha256(json.dumps(raw, sort_keys=True).encode()).hexdigest()`. -/
  eventHash : Py.Value → String
  /-- The columns the driver binds for the event type and the user of a request. -/
  bindEvent : Py.Value → Py.Value → Except Py.Error (Option String × Option Int)
  /-- `GHLWebhookPayload(**raw)`. -/
  validatePayload : List (String × Py.Value) → Except Py.Error GHLWebhookPayload
  analyzeTranscript : String → Int → Int → String → List (String × Py.Value)
  /-- `repr()` of a float. -/
  repr : Py.Value → String

structure WebhookRequest where
  headers : Headers
  raw : Py.Value
  correlationUuid : Uuid
  transitionUuid : Uuid
  now : Instant

/-- How a request ends: a reply before the commit leaves the tables as they were. -/
inductive WebhookOutcome
  | reply (response : APIResponse)
  | commit (session : Session) (response : APIResponse)

/-- `str.lower` as far as the comparison with the lower-case words below can see it. -/
def lower (s : String) : String := s.toLower

def positiveOutcomes : List String := ["connected", "responded", "replied", "yes"]

def responseEvents : List String := ["CALL_COMPLETED", "SMS_RESPONSE", "EMAIL_RESPONSE"]

def webhookToState (payload : GHLWebhookPayload) : Option OutreachState :=
  if payload.eventType ∈ responseEvents then
    if lower (Py.orText payload.outcome "") ∈ positiveOutcomes then some .responded
    else some .noResponse
  else if payload.eventType = "TRANSCRIPT_READY" then some .analyzed
  else none

def webhookAnalysis (env : WebhookEnv) (payload : GHLWebhookPayload) (userId : Int)
    (tracking : StudentOutreachTracking) : List (String × Py.Value) :=
  if payload.eventType ∈ validGhlEvents ∧ Py.truthyText payload.transcript then
    env.analyzeTranscript (payload.transcript.getD "") userId tracking.currentAttempt
      tracking.checkpointType
  else []

/-- The attribution of `_log_transition`. -/
def webhookTransitionAttribution (mode : String) (uuid : String) : AttributionFields where
  correlationId := uuid
  executionMode := mode
  executionType := "original"
  governanceScope := transitionScope mode
  originSource := some "webhook_handler"
  originAuthority := some "ghl_webhook"

def logTransition (mode : String) (session : Session) (now : Instant) (uuid : Uuid)
    (args : TransitionArgs) : Session :=
  (appendStateTransition session now args (webhookTransitionAttribution mode uuid)).2.2

def webhookTransition (payload : GHLWebhookPayload) (userId : Int)
    (tracking : StudentOutreachTracking) (toState : OutreachState) : TransitionArgs where
  trackingId := tracking.id
  userId := userId
  fromState := tracking.state
  toState := toState
  trigger := "webhook:" ++ payload.eventType
  actor := "webhook"

/-- The transition the event makes, when it asks for one that the table allows. -/
def webhookMove (payload : GHLWebhookPayload) (oldState : OutreachState) :
    Option OutreachState :=
  match webhookToState payload with
  | some toState =>
    if toState ≠ oldState ∧ canTransition oldState toState then some toState else none
  | none => none

def applyWebhookTransition (mode : String) (session : Session) (request : WebhookRequest)
    (payload : GHLWebhookPayload) (userId : Int) (tracking : StudentOutreachTracking) : Session :=
  match webhookMove payload tracking.state with
  | some toState =>
    logTransition mode
      { session with
        db := session.db.setTrackingState tracking.id toState (fun c => c) request.now }
      request.now request.transitionUuid (webhookTransition payload userId tracking toState)
  | none => session

def webhookHistory (env : WebhookEnv) (raw : List (String × Py.Value))
    (payload : GHLWebhookPayload) (userId : Int) (tracking : StudentOutreachTracking) :
    HistoryArgs :=
  let llmAnalysis := webhookAnalysis env payload userId tracking
  { trackingId := tracking.id
    userId := userId
    checkpointType := tracking.checkpointType
    attemptNumber := tracking.currentAttempt
    channel := some "GHL_WEBHOOK"
    action := some ("WEBHOOK_" ++ payload.eventType)
    stateBefore := some tracking.state
    stateAfter := some ((webhookMove payload tracking.state).getD tracking.state)
    payload := some
      (if llmAnalysis.isEmpty then raw else Py.setItem "llm_analysis" (.dict llmAnalysis) raw)
    decision := some ("WEBHOOK_PROCESSED:" ++ payload.eventType) }

/-- `value in VALID_GHL_EVENTS`, which a list or an object cannot be asked. -/
def inValidGhlEvents : Py.Value → Except Py.Error Bool
  | .str s => .ok (validGhlEvents.contains s)
  | .list _ => .error .typeError
  | .dict _ => .error .typeError
  | _ => .ok false

/-- The user's only tracking row; more than one is an error. -/
def scalarOneOrNone : List α → Except Py.Error (Option α)
  | [] => .ok none
  | [a] => .ok (some a)
  | _ => .error .multipleResultsFound

def processedData (payload : GHLWebhookPayload) (userId : Int)
    (tracking : StudentOutreachTracking) : List (String × Py.Value) :=
  [("processed", .bool true), ("user_id", .int userId),
    ("new_state", .str ((webhookMove payload tracking.state).getD tracking.state).text)]

/-- The part of the handler after the event has been recorded. -/
def processWebhook (env : WebhookEnv) (mode : String) (session : Session)
    (request : WebhookRequest) (raw : List (String × Py.Value)) (attribution : AttributionFields) :
    Except Py.Error WebhookOutcome := do
  let metaData := makeGovernanceMeta attribution request.now
  let eventType := (Py.get? "event_type" raw).getD .null
  if !(← inValidGhlEvents eventType) then
    return .reply (.fail "INVALID_EVENT"
      ("Unknown event_type: " ++ eventType.text env.repr) metaData)
  let payload ← env.validatePayload raw
  match payload.userId with
  | none =>
    return .reply (.fail "MISSING_USER_ID" "Webhook payload missing user_id" metaData)
  | some userId =>
    match ← scalarOneOrNone (session.db.tracking.rows.filter (·.userId = userId)) with
    | none =>
      return .reply
        (.fail "NOT_FOUND" ("No outreach record for user " ++ toString userId) metaData)
    | some tracking =>
      let moved := applyWebhookTransition mode session request payload userId tracking
      let recorded := (appendOutreachHistory moved request.now
        (webhookHistory env raw payload userId tracking) attribution).2.2
      return .commit recorded
        (.ok (processedData payload userId tracking) metaData)

/-- The attribution of a webhook request: always an original execution. -/
def webhookAttribution (mode : String) (request : WebhookRequest) : AttributionFields :=
  buildRequestAttribution mode (extractCorrelationId request.headers request.correlationUuid)
    (extractCausationId request.headers) "original" none none

/-- The answer to a request that was not inserted: seen before, or refused by the gate. -/
def deduplicatedReply (env : WebhookEnv) (mode : String) (request : WebhookRequest) :
    APIResponse :=
  .ok [("deduplicated", .bool true), ("event_hash", .str (env.eventHash request.raw))]
    (makeGovernanceMeta (webhookAttribution mode request) request.now)

def webhookEvent (env : WebhookEnv) (request : WebhookRequest) (raw : List (String × Py.Value)) :
    EventArgs where
  eventHash := env.eventHash request.raw
  columns := env.bindEvent ((Py.get? "event_type" raw).getD .null)
    ((Py.get? "user_id" raw).getD .null)
  rawPayload := some raw

/-- `POST /webhook/ghl-update`; `mode` is `str(settings.EXECUTION_MODE)`. -/
def ghlWebhook (env : WebhookEnv) (mode : String) (session : Session)
    (request : WebhookRequest) : Except Py.Error WebhookOutcome :=
  let attribution := webhookAttribution mode request
  match request.raw with
  | .dict raw => do
    let (inserted, _, recorded) ← recordProcessedEvent session request.now
      (webhookEvent env request raw) attribution
    if inserted then processWebhook env mode recorded request raw attribution
    else return .reply (deduplicatedReply env mode request)
  | _ => .error .attributeError

/-- The session after the request: an exception and a reply before the commit both roll back. -/
def webhookSession (env : WebhookEnv) (mode : String) (session : Session)
    (request : WebhookRequest) : Session :=
  match ghlWebhook env mode session request with
  | .ok (.commit session' _) => session'
  | _ => session

theorem scalarOneOrNone_mem (h : scalarOneOrNone rows = .ok (some a)) : rows = [a] := by
  match rows, h with
  | [b], h =>
    cases h
    rfl

theorem webhookMove_eq_some_iff (payload : GHLWebhookPayload) (oldState toState : OutreachState) :
    webhookMove payload oldState = some toState ↔
      webhookToState payload = some toState ∧ canTransition oldState toState = true := by
  rw [webhookMove]
  cases hto : webhookToState payload with
  | none => simp only [reduceCtorEq, false_and]
  | some asked =>
    simp only [Option.ite_none_right_eq_some, Option.some.injEq]
    constructor
    · intro h
      obtain ⟨⟨-, hcan⟩, rfl⟩ := h
      exact ⟨rfl, hcan⟩
    · intro h
      obtain ⟨rfl, hcan⟩ := h
      exact ⟨⟨(canTransition_ne hcan).symm, hcan⟩, rfl⟩

theorem applyWebhookTransition_frame (mode : String) (session : Session)
    (request : WebhookRequest) (payload : GHLWebhookPayload) (userId : Int)
    (tracking : StudentOutreachTracking) :
    (applyWebhookTransition mode session request payload userId tracking).db.outreachHistory =
        session.db.outreachHistory ∧
      (applyWebhookTransition mode session request payload userId tracking).db.processedEvents =
        session.db.processedEvents := by
  rw [applyWebhookTransition]
  split
  · exact appendStateTransition_frame _ _ _ _
  · exact ⟨rfl, rfl⟩

/-- A committed webhook moved the user's only tracking row and then appended to the history. -/
theorem processWebhook_commit
    (h : processWebhook env mode session request raw attribution =
      .ok (.commit session' response)) :
    ∃ payload userId tracking,
      inValidGhlEvents ((Py.get? "event_type" raw).getD .null) = .ok true ∧
      env.validatePayload raw = .ok payload ∧ payload.userId = some userId ∧
      session.db.tracking.rows.filter (·.userId = userId) = [tracking] ∧
      session' = (appendOutreachHistory
        (applyWebhookTransition mode session request payload userId tracking) request.now
        (webhookHistory env raw payload userId tracking) attribution).2.2 := by
  simp only [processWebhook, Py.bind_eq_ok] at h
  obtain ⟨known, hknown, h⟩ := h
  cases known with
  | false => cases h
  | true =>
    rw [if_neg (by decide), Py.bind_eq_ok] at h
    obtain ⟨payload, hpayload, h⟩ := h
    split at h
    · cases h
    · rename_i userId huser
      rw [Py.bind_eq_ok] at h
      obtain ⟨found, hfound, h⟩ := h
      cases found with
      | none => cases h
      | some tracking =>
        cases h
        exact ⟨payload, userId, tracking, hknown, hpayload, huser, scalarOneOrNone_mem hfound, rfl⟩

theorem processWebhook_ok
    (hknown : inValidGhlEvents ((Py.get? "event_type" raw).getD .null) = .ok true)
    (hpayload : env.validatePayload raw = .ok payload) (huser : payload.userId = some userId)
    (honly : session.db.tracking.rows.filter (·.userId = userId) = [tracking]) :
    processWebhook env mode session request raw attribution =
      .ok (.commit
        (appendOutreachHistory
          (applyWebhookTransition mode session request payload userId tracking) request.now
          (webhookHistory env raw payload userId tracking) attribution).2.2
        (.ok (processedData payload userId tracking)
          (makeGovernanceMeta attribution request.now))) := by
  rw [processWebhook]
  rw [Py.bind_eq_ok]
  refine ⟨true, hknown, ?_⟩
  simp only [Bool.not_true, Bool.false_eq_true, if_false]
  rw [Py.bind_eq_ok]
  refine ⟨payload, hpayload, ?_⟩
  simp only [huser]
  rw [Py.bind_eq_ok]
  refine ⟨some tracking, ?_, rfl⟩
  rw [honly]
  rfl

theorem webhookAttribution_accepted_iff (mode : String) (request : WebhookRequest) :
    checkAttributionFields (webhookAttribution mode request) = [] ↔ mode ∈ validExecutionModes :=
  buildRequestAttribution_accepted_iff (extractCorrelationId_ne_empty _ _)

theorem webhookTransitionAttribution_accepted_iff (mode : String) (uuid : Uuid) :
    checkAttributionFields (webhookTransitionAttribution mode uuid) = [] ↔
      mode ∈ validExecutionModes := by
  rw [checkAttributionFields_eq_nil_iff]
  constructor
  · exact fun h => h.2.1
  · exact fun h =>
      ⟨uuid.property, h, original_mem_validExecutionTypes, transitionScope_ne_empty mode⟩

/-- Under a mode the gate does not list, every delivery of an object is taken for a duplicate. -/
theorem ghlWebhook_refused (env : WebhookEnv) (session : Session)
    (hmode : mode ∉ validExecutionModes) (hraw : request.raw = .dict raw) :
    ghlWebhook env mode session request = .ok (.reply (deduplicatedReply env mode request)) := by
  have hgate : checkAttributionFields (webhookAttribution mode request) ≠ [] :=
    fun h => hmode ((webhookAttribution_accepted_iff mode request).1 h)
  simp only [ghlWebhook, hraw]
  rw [Py.bind_eq_ok]
  obtain ⟨record, hrecord⟩ := recordProcessedEvent_refused _ _ _ _ hgate
  exact ⟨_, hrecord, rfl⟩

theorem webhookSession_refused (hmode : mode ∉ validExecutionModes) :
    webhookSession env mode session request = session := by
  rw [webhookSession]
  cases hraw : request.raw with
  | dict raw => rw [ghlWebhook_refused env session hmode hraw]
  | _ => simp [ghlWebhook, hraw]

/-- The two ways a webhook request leaves the tracking table and the transition log. -/
theorem webhookSession_cases (env : WebhookEnv) (mode : String) (session : Session)
    (request : WebhookRequest) :
    webhookSession env mode session request = session ∨
      ∃ recorded payload userId tracking,
        recorded.db.tracking = session.db.tracking ∧
        recorded.db.stateTransitionLog = session.db.stateTransitionLog ∧
        tracking ∈ session.db.tracking.rows ∧
        (webhookSession env mode session request).db.tracking =
          (applyWebhookTransition mode recorded request payload userId tracking).db.tracking ∧
        (webhookSession env mode session request).db.stateTransitionLog =
          (applyWebhookTransition mode recorded request payload userId
            tracking).db.stateTransitionLog := by
  rw [webhookSession]
  split
  · rename_i session' response h
    cases hraw : request.raw with
    | dict raw =>
      simp only [ghlWebhook, hraw] at h
      rw [Py.bind_eq_ok] at h
      obtain ⟨⟨inserted, record, recorded⟩, hrecord, h⟩ := h
      cases inserted with
      | false => cases h
      | true =>
        have hcommit : processWebhook env mode recorded request raw
            (webhookAttribution mode request) = .ok (.commit session' response) := h
        obtain ⟨payload, userId, tracking, -, -, -, hrows, rfl⟩ := processWebhook_commit hcommit
        have hframe := appendOutreachHistory_frame
          (applyWebhookTransition mode recorded request payload userId tracking) request.now
          (webhookHistory env raw payload userId tracking) (webhookAttribution mode request)
        obtain ⟨hinserted, -⟩ | ⟨-, -, -, htracking, hlog, -⟩ :=
          recordProcessedEvent_session hrecord
        · cases hinserted
        · refine .inr ⟨recorded, payload, userId, tracking, htracking, hlog, ?_,
            hframe.1, hframe.2.1⟩
          have hmem : tracking ∈ recorded.db.tracking.rows.filter (·.userId = userId) :=
            hrows ▸ List.mem_singleton_self tracking
          exact htracking ▸ (List.mem_filter.1 hmem).1
    | _ =>
      simp only [ghlWebhook, hraw] at h
      cases h
  · exact .inl rfl

end StudentSuccess
