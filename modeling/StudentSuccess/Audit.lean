import StudentSuccess.Ledger
import StudentSuccess.Runs
import StudentSuccess.Webhook

namespace StudentSuccess
set_option autoImplicit true
open Repository

/-- The requests that write the outreach tables. -/
inductive Request
  | manual (action : ManualAction)
  | webhook (request : WebhookRequest)

def serve (env : WebhookEnv) (mode : String) (session : Session) : Request → Session
  | .manual action => (executeManualAction mode session action).1
  | .webhook request => webhookSession env mode session request

/-- The tracking rows' states and the transition log, as an audited ledger. -/
def Db.ledger (db : Db) : Ledger Nat OutreachState where
  current := db.stateOf
  entries := db.stateTransitionLog.rows.map fun r => (r.trackingId, r.fromState, r.toState)

def Request.AcceptedManual (db : Db) : Request → Prop
  | .manual action => action.Accepted db
  | .webhook _ => False

/-- Every request of the run is audited, and a log that told the rows' histories before the run
tells them after it. -/
def AuditComplete (env : WebhookEnv) (mode : String) (session : Session)
    (requests : List Request) : Prop :=
  Runs.EveryStep (serve env mode)
    (fun before request => before.db.ledger.Audited (serve env mode before request).db.ledger)
    session requests ∧
  ∀ initial, session.db.ledger.Chained initial →
    (Runs.final (serve env mode) session requests).db.ledger.Chained initial

theorem ledger_setTrackingState (db : Db) :
    (db.setTrackingState k s c now).ledger = db.ledger.move k s := by
  have hcurrent : (db.setTrackingState k s c now).stateOf = (db.ledger.move k s).current := by
    funext k'
    rw [Db.stateOf_setTrackingState]
    rfl
  exact congrArg (fun current => Ledger.mk current db.ledger.entries) hcurrent

theorem ledger_append (db : Db) (args : TransitionArgs) :
    (Db.ledger { db with
      stateTransitionLog := db.stateTransitionLog.insertNew
        (transitionRow now args attribution) (transitionRow_id now args attribution) }) =
      db.ledger.log args.trackingId args.fromState args.toState := by
  simp only [Db.ledger, Ledger.log, Table.insertNew_rows, List.map_append, List.map_singleton]
  rfl

theorem ledger_congr {db db' : Db} (ht : db'.tracking = db.tracking)
    (hl : db'.stateTransitionLog = db.stateTransitionLog) : db'.ledger = db.ledger := by
  simp only [Db.ledger, hl]
  have hstate : db'.stateOf = db.stateOf := by
    funext k
    simp only [Db.stateOf, ht]
  rw [hstate]

theorem stateOf_of_mem {db : Db} {tracking : StudentOutreachTracking}
    (h : tracking ∈ db.tracking.rows) : db.ledger.current tracking.id = some tracking.state := by
  have hfind : db.tracking.find? tracking.id = some tracking := Table.find?_of_mem h
  simp only [Db.ledger, Db.stateOf, hfind, Option.map_some]

/-- A handler's two writes: the state of the row it read, and the log entry if the gate lets it. -/
theorem ledger_transition (session : Session) (now : Instant) (args : TransitionArgs)
    (attribution : AttributionFields) :
    (appendStateTransition
      { session with db := session.db.setTrackingState args.trackingId args.toState c now } now
      args attribution).2.2.db.ledger =
    if checkAttributionFields attribution = [] then
      (session.db.ledger.move args.trackingId args.toState).log
        args.trackingId args.fromState args.toState
    else session.db.ledger.move args.trackingId args.toState := by
  split_ifs with h
  · rw [appendStateTransition_accepted h]
    exact (ledger_append _ args).trans (by rw [ledger_setTrackingState])
  · rw [appendStateTransition_refused h]
    exact ledger_setTrackingState session.db

/-- After the two writes the row is in the new state, whether or not the gate lets the entry in. -/
theorem stateOf_transition (session : Session) (c : Option String → Option String) (now : Instant)
    (args : TransitionArgs) (attribution : AttributionFields)
    (h : session.db.stateOf args.trackingId = some state) :
    (appendStateTransition
      { session with db := session.db.setTrackingState args.trackingId args.toState c now } now
      args attribution).2.2.db.stateOf args.trackingId = some args.toState := by
  have hmoved : (session.db.ledger.move args.trackingId args.toState).current args.trackingId =
      some args.toState := by
    have hcurrent : session.db.ledger.current args.trackingId = some state := h
    simp [Ledger.move, hcurrent]
  have hview : ∀ db : Db, db.stateOf = db.ledger.current := fun _ => rfl
  rw [hview, ledger_transition]
  split_ifs
  · exact hmoved
  · exact hmoved

theorem ledger_manual (mode : String) (haccepted : action.Accepted session.db) :
    ∃ k s t, session.db.ledger.current k = some s ∧ s ≠ t ∧
      (executeManualAction mode session action).1.db.ledger =
        if mode ∈ validExecutionModes then (session.db.ledger.move k t).log k s t
        else session.db.ledger.move k t := by
  obtain ⟨target, tracking, htarget, hlatest, hcan⟩ := haccepted
  refine ⟨tracking.id, tracking.state, target, stateOf_of_mem (latestTracking_mem hlatest),
    canTransition_ne hcan, ?_⟩
  rw [executeManualAction_accepted htarget hlatest hcan]
  have hwrites := ledger_transition session action.now (c := fun _ => some action.uuid)
    (manualTransition action tracking target) (manualAttribution mode action.uuid)
  simp only [manualAttribution_accepted_iff] at hwrites
  exact hwrites

theorem ledger_webhook (env : WebhookEnv) (mode : String) (session : Session)
    (request : WebhookRequest) :
    (webhookSession env mode session request).db.ledger = session.db.ledger ∨
      mode ∈ validExecutionModes ∧ ∃ k s t, session.db.ledger.current k = some s ∧ s ≠ t ∧
        (webhookSession env mode session request).db.ledger =
          (session.db.ledger.move k t).log k s t := by
  by_cases hmode : mode ∈ validExecutionModes
  · obtain h | ⟨recorded, payload, userId, tracking, ht, hl, hmem, ht', hl'⟩ :=
      webhookSession_cases env mode session request
    · exact .inl (by rw [h])
    · have hledger : recorded.db.ledger = session.db.ledger := ledger_congr ht hl
      rw [ledger_congr ht' hl']
      cases hmove : webhookMove payload tracking.state with
      | none =>
        left
        simp only [applyWebhookTransition, hmove]
        exact hledger
      | some toState =>
        refine .inr ⟨hmode, tracking.id, tracking.state, toState, stateOf_of_mem hmem,
          canTransition_ne ((webhookMove_eq_some_iff payload tracking.state toState).1 hmove).2, ?_⟩
        have hwrites := ledger_transition recorded request.now (c := fun c => c)
          (webhookTransition payload userId tracking toState)
          (webhookTransitionAttribution mode request.transitionUuid)
        simp only [webhookTransitionAttribution_accepted_iff, if_pos hmode, hledger] at hwrites
        simp only [applyWebhookTransition, hmove, logTransition]
        exact hwrites
  · exact .inl (by rw [webhookSession_refused hmode])

/-- A request is audited unless it is an accepted manual action that the gate keeps out of the
log. -/
theorem serve_audited_iff (session : Session) (request : Request) :
    session.db.ledger.Audited (serve env mode session request).db.ledger ↔
      mode ∈ validExecutionModes ∨ ¬ request.AcceptedManual session.db := by
  cases request with
  | manual action =>
    by_cases haccepted : action.Accepted session.db
    · obtain ⟨k, s, t, hs, hne, hledger⟩ := ledger_manual mode haccepted
      by_cases hmode : mode ∈ validExecutionModes
      · rw [if_pos hmode] at hledger
        simp only [serve, hledger, hmode, true_or, iff_true]
        exact Ledger.audited_move_log hs hne
      · rw [if_neg hmode] at hledger
        simp only [serve, hledger, hmode, false_or, Request.AcceptedManual, haccepted,
          not_true_eq_false, iff_false]
        exact Ledger.not_audited_move hs hne
    · simp only [serve, executeManualAction_rejected haccepted, Request.AcceptedManual, haccepted,
        not_false_eq_true, or_true, iff_true]
      exact Ledger.audited_refl _
  | webhook request =>
    simp only [serve, Request.AcceptedManual, not_false_eq_true, or_true, iff_true]
    obtain h | ⟨-, k, s, t, hs, hne, h⟩ :=
      ledger_webhook env mode session request
    · exact h ▸ Ledger.audited_refl _
    · exact h ▸ Ledger.audited_move_log hs hne

theorem serve_chained (haudited : mode ∈ validExecutionModes ∨ ¬ request.AcceptedManual session.db)
    (h : session.db.ledger.Chained initial) :
    (serve env mode session request).db.ledger.Chained initial := by
  cases request with
  | manual action =>
    by_cases haccepted : action.Accepted session.db
    · obtain ⟨k, s, t, hs, -, hledger⟩ := ledger_manual mode haccepted
      have hmode : mode ∈ validExecutionModes := haudited.resolve_right fun hn => hn haccepted
      rw [if_pos hmode] at hledger
      simp only [serve, hledger]
      exact h.move_log hs
    · simp only [serve, executeManualAction_rejected haccepted]
      exact h
  | webhook request =>
    obtain hsame | ⟨-, k, s, t, hs, -, hledger⟩ :=
      ledger_webhook env mode session request
    · simp only [serve, hsame]
      exact h
    · simp only [serve, hledger]
      exact h.move_log hs

/-- Whatever the text of the mode: the audit is complete exactly when the gate lists that text
or no manual action of the run is accepted. -/
theorem auditComplete_text_iff (mode : String) (session : Session) (requests : List Request) :
    AuditComplete env mode session requests ↔
      Runs.EveryStep (serve env mode)
        (fun before request => mode ∈ validExecutionModes ∨ ¬ request.AcceptedManual before.db)
        session requests := by
  refine ⟨fun h => h.1.imp fun before request hr => (serve_audited_iff before request).1 hr, ?_⟩
  intro h
  refine ⟨h.imp fun before request hr => (serve_audited_iff before request).2 hr, ?_⟩
  intro initial hchained
  exact h.invariant (I := fun s => s.db.ledger.Chained initial)
    (fun _ _ hs hr => serve_chained hr hs) hchained

theorem executionMode_str_not_valid (mode : ExecutionMode) : mode.str ∉ validExecutionModes := by
  cases mode <;> decide

/-- Under every configured mode: the audit of a run is complete exactly when no manual action of
the run is accepted. -/
theorem auditComplete_iff (env : WebhookEnv) (mode : ExecutionMode) (session : Session)
    (requests : List Request) :
    AuditComplete env mode.str session requests ↔
      Runs.EveryStep (serve env mode.str)
        (fun before request => ¬ request.AcceptedManual before.db) session requests := by
  have hmode := executionMode_str_not_valid mode
  simp only [auditComplete_text_iff, hmode, false_or]

/-- One student, contacted once. -/
def contactedRow : StudentOutreachTracking where
  id := 1
  userId := 7
  checkpointType := "HW_BEHIND"
  state := .contacted
  currentAttempt := 1
  lastContactAt := some 0
  nextRetryAt := none
  correlationId := none
  executionMode := "SHADOW"
  updatedAt := 0

def contactedDb : Db where
  tracking := ⟨[contactedRow], by simp⟩
  outreachHistory := .empty
  stateTransitionLog := .empty
  processedEvents := .empty
  uqStudentCheckpoint := by simp

def contactedSession : Session := ⟨contactedDb, [], []⟩

def closeCase : ManualAction where
  userId := 7
  actionType := "CLOSE_CASE"
  notes := none
  uuid := ⟨"6f2c9a52-7a0f-4d1e-9d0b-0c7a4a1f2b11", by decide⟩
  now := 1

def smsReplyRaw : List (String × Py.Value) :=
  [("event_type", .str "SMS_RESPONSE"), ("user_id", .int 7), ("outcome", .str "yes")]

def smsReplyEnv : WebhookEnv where
  eventHash := fun _ => "d7f8d1463f5e1d0944e471cb09de4da85d9f0d547303c36cb458824cc49278cb"
  bindEvent := fun _ _ => .ok (some "SMS_RESPONSE", some 7)
  validatePayload := fun _ => .ok ⟨"SMS_RESPONSE", some 7, none, some "yes", none⟩
  analyzeTranscript := fun _ _ _ _ => []
  repr := fun _ => ""

theorem closeCase_accepted : closeCase.Accepted contactedDb :=
  ⟨.closed, contactedRow, rfl, rfl, rfl⟩

/-- Closing the case in shadow mode commits the new state and no log row. -/
theorem closeCase_not_audited :
    (serve smsReplyEnv ExecutionMode.shadow.str contactedSession
        (.manual closeCase)).db.stateOf 1 = some .closed ∧
      (serve smsReplyEnv ExecutionMode.shadow.str contactedSession
        (.manual closeCase)).db.stateTransitionLog.rows = [] ∧
      ¬ AuditComplete smsReplyEnv ExecutionMode.shadow.str contactedSession
        [.manual closeCase] := by
  refine ⟨rfl, rfl, fun h => ?_⟩
  have haudited := (serve_audited_iff contactedSession (.manual closeCase)).1 h.1.1
  rcases haudited with hmode | hrejected
  · exact executionMode_str_not_valid .shadow hmode
  · exact hrejected closeCase_accepted

end StudentSuccess
