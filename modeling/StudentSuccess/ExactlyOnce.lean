import StudentSuccess.Audit

namespace StudentSuccess
set_option autoImplicit true
open Repository Router

def AnswersDeduplicated : Except Py.Error WebhookOutcome → Prop
  | .ok (.reply response) => (response.data.bind (Py.get? "deduplicated")) = some (.bool true)
  | .ok (.commit _ response) => (response.data.bind (Py.get? "deduplicated")) = some (.bool true)
  | .error _ => False

/-- The delivery's one commit: the event, the legal transition and one row of history. -/
structure Processed (env : WebhookEnv) (raw : List (String × Py.Value)) (hash : String)
    (tracking : StudentOutreachTracking) (before after : Db) : Prop where
  event : ∃ row, row.eventHash = hash ∧
    after.processedEvents.rows = before.processedEvents.rows ++ [row]
  transition : ∃ payload, env.validatePayload raw = .ok payload ∧
    ∀ state, after.stateOf tracking.id = some state ↔
      (webhookToState payload = some state ∧ canTransition tracking.state state = true) ∨
      (state = tracking.state ∧ ∀ toState, webhookToState payload = some toState →
        canTransition tracking.state toState = false)
  history : ∃ row, row.trackingId = tracking.id ∧
    after.outreachHistory.rows = before.outreachHistory.rows ++ [row]

/-- The delivery of a request is processed once: by one commit the first time, and by nothing
any number of times after it. -/
def ExactlyOnce (env : WebhookEnv) (mode : String) (session : Session) (request : WebhookRequest)
    (raw : List (String × Py.Value)) (tracking : StudentOutreachTracking) : Prop :=
  let stored := env.eventHash request.raw ∈ session.db.processedEvents.rows.map (·.eventHash)
  let outcome := ghlWebhook env mode session request
  (∃ session' response, outcome = .ok (.commit session' response) ∧
    Processed env raw (env.eventHash request.raw) tracking session.db session'.db) ∧
  (AnswersDeduplicated outcome ↔ stored) ∧
  ∀ n, (Runs.final (webhookSession env mode) (webhookSession env mode session request)
      (List.replicate n request)).db = (webhookSession env mode session request).db

/-- A recognised event that is new, for a user with one tracking row. -/
structure FirstDelivery (env : WebhookEnv) (session : Session) (request : WebhookRequest)
    (raw : List (String × Py.Value)) (userId : Int) (tracking : StudentOutreachTracking) :
    Prop where
  object : request.raw = .dict raw
  recognised : ∃ e ∈ validGhlEvents, Py.get? "event_type" raw = some (.str e)
  new : env.eventHash request.raw ∉ session.db.processedEvents.rows.map (·.eventHash)
  user : ∃ payload, env.validatePayload raw = .ok payload ∧ payload.userId = some userId
  only : session.db.tracking.rows.filter (·.userId = userId) = [tracking]

theorem answersDeduplicated_reply : AnswersDeduplicated (.ok (.reply (deduplicatedReply env mode
    request))) := rfl

/-- A stored event is answered as a duplicate and changes nothing. -/
theorem webhookSession_stored (hraw : request.raw = .dict raw)
    (hstored : env.eventHash request.raw ∈ session.db.processedEvents.rows.map (·.eventHash)) :
    webhookSession env mode session request = session := by
  have hreply : ghlWebhook env mode session request =
      .ok (.reply (deduplicatedReply env mode request)) := by
    simp only [ghlWebhook, hraw]
    rw [Py.bind_eq_ok]
    obtain ⟨record, hrecord⟩ := recordProcessedEvent_stored session request.now
      (webhookEvent env request raw) (webhookAttribution mode request) hstored
    exact ⟨_, hrecord, rfl⟩
  simp only [webhookSession, hreply]

theorem stateOf_applyWebhookTransition (session : Session)
    (htracking : tracking ∈ session.db.tracking.rows) :
    (applyWebhookTransition mode session request payload userId tracking).db.stateOf tracking.id =
      some ((webhookMove payload tracking.state).getD tracking.state) := by
  have hstate := stateOf_of_mem htracking
  cases hmove : webhookMove payload tracking.state with
  | none =>
    simp only [applyWebhookTransition, hmove]
    exact hstate
  | some toState =>
    simp only [applyWebhookTransition, hmove, logTransition]
    exact stateOf_transition session (fun c => c) request.now
      (webhookTransition payload userId tracking toState) _ hstate

/-- The move of a webhook is the transition it asks for, when that one is legal. -/
theorem webhookMove_getD_iff (payload : GHLWebhookPayload) (tracking : StudentOutreachTracking)
    (state : OutreachState) :
    (webhookMove payload tracking.state).getD tracking.state = state ↔
      (webhookToState payload = some state ∧ canTransition tracking.state state = true) ∨
      (state = tracking.state ∧ ∀ toState, webhookToState payload = some toState →
        canTransition tracking.state toState = false) := by
  cases hmove : webhookMove payload tracking.state with
  | none =>
    have hillegal : ∀ toState, webhookToState payload = some toState →
        canTransition tracking.state toState = false := by
      intro toState hto
      have hne : ¬ webhookMove payload tracking.state = some toState := by
        rw [hmove]
        exact nofun
      rw [webhookMove_eq_some_iff] at hne
      exact Bool.eq_false_iff.2 fun hcan => hne ⟨hto, hcan⟩
    refine ⟨fun h => .inr ⟨h.symm, hillegal⟩, fun h => ?_⟩
    rcases h with ⟨hto, hcan⟩ | ⟨hstate, -⟩
    · exact absurd hcan (Bool.eq_false_iff.1 (hillegal state hto))
    · exact hstate.symm
  | some moved =>
    have hlegal := (webhookMove_eq_some_iff payload tracking.state moved).1 hmove
    refine ⟨fun h => .inl ((show moved = state from h) ▸ hlegal), fun h => ?_⟩
    rcases h with ⟨hto, -⟩ | ⟨-, hillegal⟩
    · exact Option.some.inj (hlegal.1.symm.trans hto)
    · exact absurd hlegal.2 (Bool.eq_false_iff.1 (hillegal moved hlegal.1))

/-- Under a mode the gate lists, a first delivery is committed: the event, the transition and the
row of history. -/
theorem ghlWebhook_processed (hmode : mode ∈ validExecutionModes)
    (h : FirstDelivery env session request raw userId tracking)
    (hpayload : env.validatePayload raw = .ok payload) (huser : payload.userId = some userId)
    (hcolumns : env.bindEvent ((Py.get? "event_type" raw).getD .null)
      ((Py.get? "user_id" raw).getD .null) = .ok columns) :
    ghlWebhook env mode session request =
      .ok (.commit
        (appendOutreachHistory
          (applyWebhookTransition mode
            (insertEvent session request.now (webhookEvent env request raw)
              (webhookAttribution mode request) columns h.new) request payload userId tracking)
          request.now (webhookHistory env raw payload userId tracking)
          (webhookAttribution mode request)).2.2
        (.ok (processedData payload userId tracking)
          (makeGovernanceMeta (webhookAttribution mode request) request.now))) := by
  obtain ⟨event, hevent, heventType⟩ := h.recognised
  have hgate : checkAttributionFields (webhookAttribution mode request) = [] :=
    (webhookAttribution_accepted_iff mode request).2 hmode
  obtain ⟨record, hrecord⟩ := recordProcessedEvent_inserted session request.now
    (webhookEvent env request raw) (webhookAttribution mode request) hgate h.new hcolumns
  have hknown : inValidGhlEvents ((Py.get? "event_type" raw).getD .null) = .ok true := by
    simp [heventType, inValidGhlEvents, hevent]
  simp only [ghlWebhook, h.object]
  rw [Py.bind_eq_ok]
  exact ⟨_, hrecord, processWebhook_ok hknown hpayload huser h.only⟩

/-- Were the mode's text one the gate lists, a first delivery would be processed exactly once. -/
theorem exactlyOnce_of_valid (hmode : mode ∈ validExecutionModes)
    (h : FirstDelivery env session request raw userId tracking)
    (hcolumns : env.bindEvent ((Py.get? "event_type" raw).getD .null)
      ((Py.get? "user_id" raw).getD .null) = .ok columns) :
    ExactlyOnce env mode session request raw tracking := by
  have hfirst := h
  obtain ⟨hraw, -, hnew, ⟨payload, hpayload, huser⟩, honly⟩ := h
  have hgate : checkAttributionFields (webhookAttribution mode request) = [] :=
    (webhookAttribution_accepted_iff mode request).2 hmode
  let recorded := insertEvent session request.now (webhookEvent env request raw)
    (webhookAttribution mode request) columns hnew
  let moved := applyWebhookTransition mode recorded request payload userId tracking
  have hprocess : ghlWebhook env mode session request =
      .ok (.commit
        (appendOutreachHistory moved request.now
          (webhookHistory env raw payload userId tracking) (webhookAttribution mode request)).2.2
        (.ok (processedData payload userId tracking)
          (makeGovernanceMeta (webhookAttribution mode request) request.now))) :=
    ghlWebhook_processed hmode hfirst hpayload huser hcolumns
  have hmem : tracking ∈ session.db.tracking.rows := by
    have hsingle : tracking ∈ session.db.tracking.rows.filter (·.userId = userId) :=
      honly ▸ List.mem_singleton_self tracking
    exact (List.mem_filter.1 hsingle).1
  have hframe := appendOutreachHistory_frame moved request.now
    (webhookHistory env raw payload userId tracking) (webhookAttribution mode request)
  obtain ⟨hhistory, hevents⟩ :=
    applyWebhookTransition_frame mode recorded request payload userId tracking
  have hsession : webhookSession env mode session request =
      (appendOutreachHistory moved request.now
        (webhookHistory env raw payload userId tracking)
        (webhookAttribution mode request)).2.2 := by
    simp only [webhookSession, hprocess]
  have hstored : env.eventHash request.raw ∈
      (webhookSession env mode session request).db.processedEvents.rows.map (·.eventHash) := by
    rw [hsession, hframe.2.2, hevents]
    simp [recorded, insertEvent, eventRow, webhookEvent]
  refine ⟨⟨_, _, hprocess, ?_, ?_, ?_⟩, ?_, ?_⟩
  · rw [hframe.2.2, hevents]
    exact ⟨_, rfl, rfl⟩
  · refine ⟨payload, hpayload, fun state => ?_⟩
    have hstate : (appendOutreachHistory moved request.now
        (webhookHistory env raw payload userId tracking)
        (webhookAttribution mode request)).2.2.db.stateOf tracking.id =
          some ((webhookMove payload tracking.state).getD tracking.state) := by
      simp only [Db.stateOf, hframe.1]
      exact stateOf_applyWebhookTransition recorded hmem
    rw [hstate, Option.some.injEq]
    exact webhookMove_getD_iff payload tracking state
  · rw [appendOutreachHistory_accepted hgate rfl, hhistory]
    exact ⟨_, rfl, rfl⟩
  · rw [hprocess]
    refine ⟨fun h => absurd h
      (by simp [AnswersDeduplicated, APIResponse.ok, processedData, Py.get?]),
      fun h => absurd h hnew⟩
  · intro n
    rw [Runs.final_replicate (webhookSession_stored hraw hstored)]

/-- Under no configured mode is a first delivery processed exactly once. -/
theorem exactlyOnce_never (env : WebhookEnv) (mode : ExecutionMode) (session : Session)
    (request : WebhookRequest) (raw : List (String × Py.Value)) (userId : Int)
    (tracking : StudentOutreachTracking)
    (h : FirstDelivery env session request raw userId tracking) :
    ¬ ExactlyOnce env mode.str session request raw tracking := by
  intro hex
  have hreply := ghlWebhook_refused env session (executionMode_str_not_valid mode) h.object
  obtain ⟨-, hdedup, -⟩ := hex
  rw [hreply] at hdedup
  exact h.new (hdedup.1 answersDeduplicated_reply)

def smsReply : WebhookRequest where
  headers := []
  raw := .dict smsReplyRaw
  correlationUuid := ⟨"0d7a3b0e-3a55-4f0e-8a55-1f3a2f6c7b01", by decide⟩
  transitionUuid := ⟨"c0f0f3a4-52cb-4b8e-93c7-6f0f5ad1e502", by decide⟩
  now := 2

theorem smsReply_firstDelivery :
    FirstDelivery smsReplyEnv contactedSession smsReply smsReplyRaw 7 contactedRow where
  object := rfl
  recognised := ⟨"SMS_RESPONSE", by decide, rfl⟩
  new := by simp [contactedSession, contactedDb, Table.empty]
  user := ⟨_, rfl, rfl⟩
  only := rfl

theorem exactlyOnce_never_smsReply :
    ¬ ExactlyOnce smsReplyEnv ExecutionMode.live.str contactedSession smsReply smsReplyRaw
      contactedRow :=
  exactlyOnce_never smsReplyEnv .live contactedSession smsReply smsReplyRaw 7 contactedRow
    smsReply_firstDelivery

/-- In shadow mode the student's reply is answered as a duplicate and lost. -/
theorem smsReply_lost :
    FirstDelivery smsReplyEnv contactedSession smsReply smsReplyRaw 7 contactedRow ∧
      ghlWebhook smsReplyEnv ExecutionMode.shadow.str contactedSession smsReply =
        .ok (.reply (deduplicatedReply smsReplyEnv ExecutionMode.shadow.str smsReply)) ∧
      ¬ ExactlyOnce smsReplyEnv ExecutionMode.shadow.str contactedSession smsReply smsReplyRaw
        contactedRow := by
  have hreply := ghlWebhook_refused smsReplyEnv contactedSession
    (executionMode_str_not_valid .shadow) smsReply_firstDelivery.object
  refine ⟨smsReply_firstDelivery, hreply, ?_⟩
  intro hex
  obtain ⟨-, hdedup, -⟩ := hex
  rw [hreply] at hdedup
  exact smsReply_firstDelivery.new (hdedup.1 answersDeduplicated_reply)

end StudentSuccess
