import StudentSuccess.ExactlyOnce
import StudentSuccess.MonthlyCoverage

namespace StudentSuccess
set_option autoImplicit true
open Repository
open Calendar (Month)

/-- The payload and the tracking row of a webhook that the handler is to process: an event that is
new and known, of a user with one tracking row. -/
def delivered (env : WebhookEnv) (session : Session) (request : WebhookRequest) :
    Except Py.Error (Option (GHLWebhookPayload × StudentOutreachTracking)) :=
  match request.raw with
  | .dict raw => do
    if env.eventHash request.raw ∈ session.db.processedEvents.rows.map (·.eventHash) then
      return none
    let _ ← env.bindEvent ((Py.get? "event_type" raw).getD .null)
      ((Py.get? "user_id" raw).getD .null)
    if !(← inValidGhlEvents ((Py.get? "event_type" raw).getD .null)) then return none
    let payload ← env.validatePayload raw
    match payload.userId with
    | none => return none
    | some userId =>
      let found ← scalarOneOrNone (session.db.tracking.rows.filter (·.userId = userId))
      return found.map fun tracking => (payload, tracking)
  | _ => .error .attributeError

/-- What makes a webhook a delivery. -/
structure Delivery (env : WebhookEnv) (session : Session) (request : WebhookRequest)
    (raw : List (String × Py.Value)) (payload : GHLWebhookPayload) (userId : Int)
    (tracking : StudentOutreachTracking) : Prop where
  object : request.raw = .dict raw
  new : env.eventHash request.raw ∉ session.db.processedEvents.rows.map (·.eventHash)
  columns : ∃ columns, env.bindEvent ((Py.get? "event_type" raw).getD .null)
    ((Py.get? "user_id" raw).getD .null) = .ok columns
  recognised : inValidGhlEvents ((Py.get? "event_type" raw).getD .null) = .ok true
  valid : env.validatePayload raw = .ok payload
  user : payload.userId = some userId
  only : session.db.tracking.rows.filter (·.userId = userId) = [tracking]

theorem delivered_of (h : Delivery env session request raw payload userId tracking) :
    delivered env session request = .ok (some (payload, tracking)) := by
  obtain ⟨columns, hcolumns⟩ := h.columns
  rw [delivered]
  rw [h.object]
  dsimp only
  rw [if_neg (h.object ▸ h.new), hcolumns]
  dsimp only [bind, Except.bind]
  rw [h.recognised]
  dsimp only
  rw [if_neg (by decide), h.valid]
  dsimp only [bind, Except.bind]
  rw [h.user]
  dsimp only
  rw [h.only]
  rfl

theorem delivery_of (h : delivered env session request = .ok (some (payload, tracking))) :
    ∃ raw userId, Delivery env session request raw payload userId tracking := by
  rw [delivered] at h
  split at h
  · next raw hraw =>
    split at h
    · cases h
    · next hnew =>
      rw [Py.bind_eq_ok] at h
      obtain ⟨columns, hcolumns, h⟩ := h
      rw [Py.bind_eq_ok] at h
      obtain ⟨known, hknown, h⟩ := h
      cases known with
      | false => cases h
      | true =>
        rw [if_neg (by decide), Py.bind_eq_ok] at h
        obtain ⟨payload', hpayload, h⟩ := h
        split at h
        · cases h
        · next userId huser =>
          rw [Py.bind_eq_ok] at h
          obtain ⟨found, hfound, h⟩ := h
          cases found with
          | none => cases h
          | some tracking' =>
            cases h
            exact ⟨raw, userId, hraw, hnew, ⟨columns, hcolumns⟩, hknown, hpayload, huser,
              scalarOneOrNone_mem hfound⟩
  · cases h

theorem recognised_of (h : inValidGhlEvents v = .ok true) : ∃ e ∈ validGhlEvents, v = .str e := by
  cases v with
  | str e => exact ⟨e, List.contains_iff_mem.1 (Except.ok.inj h), rfl⟩
  | _ => cases h

theorem Delivery.first (h : Delivery env session request raw payload userId tracking) :
    FirstDelivery env session request raw userId tracking where
  object := h.object
  recognised := by
    obtain ⟨e, he, htype⟩ := recognised_of h.recognised
    refine ⟨e, he, ?_⟩
    cases hget : Py.get? "event_type" raw with
    | none =>
      rw [hget] at htype
      cases htype
    | some v =>
      rw [hget] at htype
      exact congrArg some htype
  new := h.new
  user := ⟨payload, h.valid, h.user⟩
  only := h.only

def webhookStateAfter (payload : GHLWebhookPayload) (tracking : StudentOutreachTracking) :
    OutreachState :=
  (webhookMove payload tracking.state).getD tracking.state

/-- The row of history that a delivery leaves. -/
structure RowOf (request : WebhookRequest) (payload : GHLWebhookPayload)
    (tracking : StudentOutreachTracking) (row : OutreachHistory) : Prop where
  userId : row.userId = tracking.userId
  createdAt : row.createdAt = request.now
  stateAfter : row.stateAfter = some (webhookStateAfter payload tracking)

theorem webhookSession_of_delivery (hmode : mode ∈ validExecutionModes)
    (h : Delivery env session request raw payload userId tracking) :
    ∃ row, RowOf request payload tracking row ∧
      (webhookSession env mode session request).db.outreachHistory.rows =
        session.db.outreachHistory.rows ++ [row] := by
  obtain ⟨columns, hcolumns⟩ := h.columns
  have hcommit := ghlWebhook_processed hmode h.first h.valid h.user hcolumns
  have hgate : checkAttributionFields (webhookAttribution mode request) = [] :=
    (webhookAttribution_accepted_iff mode request).2 hmode
  obtain ⟨hhistory, -⟩ := applyWebhookTransition_frame mode (insertEvent session request.now
    (webhookEvent env request raw) (webhookAttribution mode request) columns h.new) request
    payload userId tracking
  have huser : tracking.userId = userId := by
    have hmem : tracking ∈ session.db.tracking.rows.filter (·.userId = userId) :=
      h.only ▸ List.mem_singleton_self tracking
    exact of_decide_eq_true (List.mem_filter.1 hmem).2
  let row := historyRow request.now (webhookHistory env raw payload userId tracking)
    (webhookAttribution mode request) session.db.outreachHistory.nextId
  refine ⟨row, ⟨huser.symm, rfl, rfl⟩, ?_⟩
  rw [webhookSession, hcommit]
  dsimp only
  rw [appendOutreachHistory_accepted hgate rfl, hhistory]
  rfl

theorem webhookSession_undelivered
    (h : ∀ payload tracking, delivered env session request ≠ .ok (some (payload, tracking))) :
    webhookSession env mode session request = session := by
  rw [webhookSession]
  split
  · next session' response hcommit =>
    exfalso
    cases hraw : request.raw with
    | dict raw =>
      simp only [ghlWebhook, hraw] at hcommit
      rw [Py.bind_eq_ok] at hcommit
      obtain ⟨⟨inserted, record, recorded⟩, hrecord, hcommit⟩ := hcommit
      obtain ⟨rfl, -⟩ | ⟨rfl, hnew, hcolumns, htracking, -⟩ := recordProcessedEvent_session hrecord
      · cases hcommit
      · obtain ⟨payload, userId, tracking, hknown, hvalid, huser, honly, -⟩ :=
          processWebhook_commit hcommit
        exact h payload tracking (delivered_of
          ⟨hraw, hnew, hcolumns, hknown, hvalid, huser, htracking ▸ honly⟩)
    | _ =>
      simp only [ghlWebhook, hraw] at hcommit
      cases hcommit
  · rfl

theorem executeManualAction_history (mode : String) (session : Session) (action : ManualAction) :
    (executeManualAction mode session action).1.db.outreachHistory =
      session.db.outreachHistory := by
  by_cases haccepted : action.Accepted session.db
  · obtain ⟨target, tracking, htarget, hlatest, hcan⟩ := haccepted
    rw [executeManualAction_accepted htarget hlatest hcan]
    exact (appendStateTransition_frame _ _ _ _).1
  · rw [executeManualAction_rejected haccepted]

/-- The rows of the tracking table, as whatever creates and contacts students leaves them. -/
structure TrackingRows where
  tracking : Table StudentOutreachTracking (·.id)
  uqStudentCheckpoint : (tracking.rows.map fun r => (r.userId, r.checkpointType)).Nodup

def TrackingRows.single (row : StudentOutreachTracking) : TrackingRows where
  tracking := ⟨[row], List.nodup_singleton _⟩
  uqStudentCheckpoint := List.nodup_singleton _

/-- What happens to a student in a month. -/
inductive MonthEvent
  | served (request : Request)
  | tracked (rows : TrackingRows)

/-- The webhook is a positive response of the student in the month: a delivery that the state
machine lets move the student to `RESPONDED`. -/
def positiveResponse (env : WebhookEnv) (userId : Int) (month : Month) (session : Session) :
    MonthEvent → Bool
  | .served (.webhook request) =>
    match delivered env session request with
    | .ok (some (payload, tracking)) =>
      tracking.userId = userId && Report.inWindow month request.now &&
        webhookMove payload tracking.state = some .responded
    | _ => false
  | _ => false

/-- A session, and how many positive responses of the student the month has had so far. -/
structure ResponseTally where
  session : Session
  received : Nat

def MonthEvent.apply (env : WebhookEnv) (mode : String) (session : Session) :
    MonthEvent → Session
  | .served request => serve env mode session request
  | .tracked rows =>
    { session with
      db := { session.db with
        tracking := rows.tracking
        uqStudentCheckpoint := rows.uqStudentCheckpoint } }

def ResponseTally.step (env : WebhookEnv) (mode : String) (userId : Int) (month : Month)
    (t : ResponseTally) (event : MonthEvent) : ResponseTally where
  session := event.apply env mode t.session
  received := t.received + if positiveResponse env userId month t.session event then 1 else 0

/-- The rows that the assembly counts as responses. -/
def respondedIn (userId : Int) (month : Month) (rows : List OutreachHistory) : Nat :=
  (rows.filter fun r => r.userId = userId && Snapshot.inWindow month r.createdAt).countP
    (·.stateAfter = some .responded)

/-- The rows that the outreach intelligence counts as responses. -/
def answeredIn (userId : Int) (month : Month) (rows : List OutreachHistory) : Nat :=
  (rows.filter fun r => r.userId = userId && Report.inWindow month r.createdAt).countP
    Report.answered

namespace Report

def responses (stats : List (String × ChannelStats)) : Nat :=
  (stats.map fun (_, stats) => stats.responses).sum

theorem responses_cons (ch : String) (entry : ChannelStats)
    (stats : List (String × ChannelStats)) :
    responses ((ch, entry) :: stats) = entry.responses + responses stats := rfl

theorem responses_setItem (ch : String) (after : ChannelStats)
    (stats : List (String × ChannelStats)) :
    responses (Py.setItem ch after stats) + ((Py.get? ch stats).getD {}).responses =
      responses stats + after.responses := by
  induction stats with
  | nil => exact Nat.add_comm _ _
  | cons entry stats ih =>
    obtain ⟨k, before⟩ := entry
    rw [Py.setItem, Py.get?]
    by_cases hk : k = ch
    · rw [if_pos hk, if_pos hk, responses_cons, responses_cons, Option.getD_some]
      omega
    · rw [if_neg hk, if_neg hk, responses_cons, responses_cons]
      omega

theorem responses_countRecord (stats : List (String × ChannelStats)) (r : OutreachHistory) :
    responses (countRecord stats r) = responses stats + if answered r then 1 else 0 := by
  have h : responses (countRecord stats r) +
        ((Py.get? (Py.orText r.channel "UNKNOWN") stats).getD {}).responses =
      responses stats + (((Py.get? (Py.orText r.channel "UNKNOWN") stats).getD {}).responses +
        if answered r then 1 else 0) := responses_setItem _ _ stats
  omega

theorem responses_foldl (rows : List OutreachHistory) (stats : List (String × ChannelStats)) :
    responses (rows.foldl countRecord stats) = responses stats + rows.countP answered := by
  induction rows generalizing stats with
  | nil => rfl
  | cons r rows ih =>
    rw [List.foldl_cons, ih, responses_countRecord, List.countP_cons, Nat.add_assoc,
      Nat.add_comm (rows.countP answered)]

theorem responses_rated (stats : List (String × ChannelStats)) :
    responses (stats.map fun (ch, stats) => (ch, stats.rated)) = responses stats := by
  rw [responses]
  rw [List.map_map]
  rfl

theorem loadOutreachIntelligence_totalResponses
    (h : loadOutreachIntelligence platform userId month = .ok intel) :
    intel.totalResponses = answeredIn userId month platform.outreachHistory.rows := by
  rw [loadOutreachIntelligence] at h
  rw [Py.bind_eq_ok] at h
  obtain ⟨days, -, h⟩ := h
  cases h
  have hperm : (outreachRows platform userId month).Perm (platform.outreachHistory.rows.filter
      fun r => r.userId = userId && inWindow month r.createdAt) := List.perm_insertionSort _ _
  calc responses ((((outreachRows platform userId month).foldl countRecord []).map
          fun (ch, stats) => (ch, stats.rated)))
      = responses ((outreachRows platform userId month).foldl countRecord []) := responses_rated _
    _ = (outreachRows platform userId month).countP answered :=
        (responses_foldl _ []).trans (Nat.zero_add _)
    _ = answeredIn userId month platform.outreachHistory.rows := hperm.countP_eq _

end Report

/-- What a report says of the responses. -/
structure ReportsResponses (content : Report.ReportContent) (received : Nat) : Prop where
  summary : content.outreachSummary.totalResponses = received
  responseReceived : content.outreachSummary.responseReceived = decide (received ≠ 0)
  intelligence : content.outreachIntelligence.totalResponses = received

/-- Whatever counts the student's responses of the month over the tables counts this many: the
assembly, the outreach intelligence, and a report made of a snapshot that is made now. -/
structure CountsResponses (db : Db) (userId : Int) (month : Month) (received : Nat) : Prop where
  assembly : ∀ platform : Platform, platform.toDb = db → ∀ call,
    (Snapshot.outreachSummary platform call userId month).totalResponses = received
  intelligence : ∀ platform : Platform, platform.toDb = db → ∀ intel,
    Report.loadOutreachIntelligence platform userId month = .ok intel →
      intel.totalResponses = received
  report : ∀ platform : Platform, platform.toDb = db →
    ∀ parseUuid snapshotCall w args made snapshotId segment risk available mode,
      args.studentId = userId → args.snapshotMonth = month →
      Snapshot.assembleSnapshot parseUuid platform snapshotCall w args =
        .ok (made, .created snapshotId segment risk available mode) →
      ∀ reportCall later reportArgs w' reportId reportMode content,
        Pipeline.KeepsSnapshots made later → reportArgs.studentId = userId →
        reportArgs.snapshotMonth = month →
        Report.generateStudentReport platform reportCall later reportArgs =
          .ok (w', .ok reportId reportMode content) →
        ReportsResponses content received

def bare (db : Db) : Platform where
  toDb := db
  triggerdata := .empty
  mirrorHistory := .empty
  campaignActivity := .empty
  aiInsights := .empty

/-- A report shows the responses that its snapshot holds, and those of the intelligence. -/
theorem reportsResponses_of_snapshot {received : Nat}
    (hrow : w.finalizedSnapshot args.studentId args.snapshotMonth = some row)
    (htotal : row.totalResponses = some (received : Int))
    (hanswered : answeredIn args.studentId args.snapshotMonth platform.outreachHistory.rows =
      received)
    (h : Report.generateStudentReport platform call w args = .ok (w', .ok reportId mode content)) :
    ReportsResponses content received := by
  obtain ⟨intel, hintel, rfl⟩ := Pipeline.generateStudentReport_of_snapshot hrow h
  have hsummary : row.totalResponses.getD 0 = received := congrArg (·.getD 0) htotal
  refine ⟨hsummary, ?_, (Report.loadOutreachIntelligence_totalResponses hintel).trans hanswered⟩
  change (row.totalResponses.getD 0 != 0) = decide (received ≠ 0)
  rw [hsummary, Bool.eq_iff_iff, bne_iff_ne, decide_eq_true_iff]
  exact not_congr Int.natCast_eq_zero

theorem countsResponses_iff (db : Db) (userId : Int) (month : Month) (received : Nat) :
    CountsResponses db userId month received ↔
      respondedIn userId month db.outreachHistory.rows = received ∧
        answeredIn userId month db.outreachHistory.rows = received := by
  constructor
  · intro h
    obtain ⟨intel, hintel, -⟩ :=
      ResponseIntervals.loadOutreachIntelligence_avg (bare db) userId month
    have hassembly := h.assembly (bare db) rfl ⟨0, 0, 0, ⟨"-", by decide⟩⟩
    have hanswered := h.intelligence (bare db) rfl intel hintel
    rw [Report.loadOutreachIntelligence_totalResponses hintel] at hanswered
    exact ⟨hassembly, hanswered⟩
  · rintro ⟨hresponded, hanswered⟩
    constructor
    · rintro platform rfl call
      exact hresponded
    · rintro platform rfl intel hintel
      exact (Report.loadOutreachIntelligence_totalResponses hintel).trans hanswered
    · rintro platform rfl parseUuid snapshotCall w args made snapshotId segment risk available mode
        rfl rfl hmade reportCall later reportArgs w' reportId reportMode content hkept hid hmonth
        hreport
      obtain ⟨student, correlationId, -, hrow⟩ := Pipeline.finalizedSnapshot_of_created hmade
      have hfound := hkept.finalizedSnapshot hrow
      rw [← hid, ← hmonth] at hfound hanswered
      exact reportsResponses_of_snapshot hfound
        (congrArg (fun n : Nat => some (n : Int)) hresponded) hanswered hreport

theorem countP_filter_append (p q : OutreachHistory → Bool) (rows : List OutreachHistory)
    (row : OutreachHistory) :
    ((rows ++ [row]).filter p).countP q =
      (rows.filter p).countP q + if q row && p row then 1 else 0 := by
  rw [List.countP_filter, List.countP_append, List.countP_singleton, ← List.countP_filter]

theorem webhookToState_mem (h : webhookToState payload = some state) :
    state ∈ [.responded, .noResponse, .analyzed] := by
  rw [webhookToState] at h
  split at h
  · split at h <;> cases h <;> decide
  · split at h <;> cases h
    decide

/-- A webhook moves a student to `RESPONDED` who had not answered, and to `ANALYZED` one who had. -/
theorem webhookMove_answered (h : webhookMove payload before = some after) :
    (after = .responded ∧ before ∉ Report.answeredStates) ∨
      (after = .analyzed ∧ before ∈ Report.answeredStates) ∨
      (after = .noResponse ∧ before ∉ Report.answeredStates) := by
  obtain ⟨hto, hcan⟩ := (webhookMove_eq_some_iff payload before after).1 h
  have hafter := webhookToState_mem hto
  simp only [List.mem_cons, List.not_mem_nil, or_false] at hafter
  rcases hafter with rfl | rfl | rfl <;> cases before <;>
    first | exact absurd hcan (by decide) | decide

theorem webhookStateAfter_of_fresh (hfresh : tracking.state ∉ Report.answeredStates)
    (payload : GHLWebhookPayload) :
    (webhookStateAfter payload tracking = .responded ↔
      webhookMove payload tracking.state = some .responded) ∧
    (webhookStateAfter payload tracking ∈ Report.answeredStates ↔
      webhookMove payload tracking.state = some .responded) := by
  rw [webhookStateAfter]
  cases hmove : webhookMove payload tracking.state with
  | none =>
    refine ⟨iff_of_false (fun h => hfresh ?_) nofun, iff_of_false hfresh nofun⟩
    rw [show tracking.state = .responded from h]
    decide
  | some after =>
    rcases webhookMove_answered hmove with ⟨rfl, -⟩ | ⟨-, hanswered⟩ | ⟨rfl, -⟩
    · rw [Option.getD_some]
      decide
    · exact absurd hanswered hfresh
    · rw [Option.getD_some]
      decide

theorem webhookStateAfter_of_answered (hanswered : tracking.state ∈ Report.answeredStates)
    (payload : GHLWebhookPayload) :
    webhookStateAfter payload tracking ∈ Report.answeredStates ∧
      webhookMove payload tracking.state ≠ some .responded := by
  rw [webhookStateAfter]
  cases hmove : webhookMove payload tracking.state with
  | none => exact ⟨hanswered, nofun⟩
  | some after =>
    rcases webhookMove_answered hmove with ⟨-, hfresh⟩ | ⟨rfl, -⟩ | ⟨-, hfresh⟩
    · exact absurd hanswered hfresh
    · rw [Option.getD_some]
      decide
    · exact absurd hanswered hfresh

/-- The delivery counts for one response where it is one, and for none where it is none: under a
mode that the gate lists, one in the month is counted as often as it should be unless the student
has answered before, and one at the end of the month is not counted; under any other mode no
delivery is recorded, so that none may be a response. -/
def CountedOnce (mode : String) (month : Month) (now : Instant) (payload : GHLWebhookPayload)
    (tracking : StudentOutreachTracking) : Prop :=
  if mode ∈ validExecutionModes then
    (Report.inWindow month now = true → tracking.state ∉ Report.answeredStates) ∧
      (now = month.stop → webhookStateAfter payload tracking ≠ .responded)
  else Report.inWindow month now = true → webhookMove payload tracking.state ≠ some .responded

/-- Every delivery to the student is counted once. -/
def DeliversCounted (env : WebhookEnv) (mode : String) (userId : Int) (month : Month)
    (t : ResponseTally) (event : MonthEvent) : Prop :=
  ∀ request payload tracking, event = .served (.webhook request) →
    delivered env t.session request = .ok (some (payload, tracking)) →
    tracking.userId = userId → CountedOnce mode month request.now payload tracking

theorem snapshot_inWindow_or (month : Month) (t : Instant) :
    Snapshot.inWindow month t = true ↔ Report.inWindow month t = true ∨ t = month.stop := by
  have hle : month.start ≤ month.stop := (Calendar.start_next_lt month).le
  rw [Snapshot.inWindow, Report.inWindow, Bool.and_eq_true, Bool.and_eq_true, decide_eq_true_iff,
    decide_eq_true_iff, decide_eq_true_iff]
  constructor
  · rintro ⟨hstart, hstop⟩
    exact hstop.lt_or_eq.imp (fun h => ⟨hstart, h⟩) id
  · rintro (⟨hstart, hstop⟩ | rfl)
    · exact ⟨hstart, hstop.le⟩
    · exact ⟨hle, le_rfl⟩

theorem report_inWindow_stop (month : Month) : ¬ Report.inWindow month month.stop = true := by
  intro h
  rw [Report.inWindow, Bool.and_eq_true, decide_eq_true_iff, decide_eq_true_iff] at h
  exact lt_irrefl _ h.2

/-- A row is counted by both counters exactly if it is a positive response, when the delivery is
counted once. -/
theorem countedOnce_iff (hmode : mode ∈ validExecutionModes) (month : Month) (now : Instant)
    (payload : GHLWebhookPayload) (tracking : StudentOutreachTracking) :
    CountedOnce mode month now payload tracking ↔
      ((webhookStateAfter payload tracking = .responded ∧ Snapshot.inWindow month now = true ↔
          Report.inWindow month now = true ∧ webhookMove payload tracking.state = some .responded) ∧
        (webhookStateAfter payload tracking ∈ Report.answeredStates ∧
            Report.inWindow month now = true ↔
          Report.inWindow month now = true ∧
            webhookMove payload tracking.state = some .responded)) := by
  rw [CountedOnce, if_pos hmode, snapshot_inWindow_or]
  by_cases hin : Report.inWindow month now = true
  · have hstop : now ≠ month.stop := fun h => report_inWindow_stop month (h ▸ hin)
    by_cases hanswered : tracking.state ∈ Report.answeredStates
    · obtain ⟨hafter, hmove⟩ := webhookStateAfter_of_answered hanswered payload
      exact iff_of_false (fun h => h.1 hin hanswered) fun h => hmove (h.2.1 ⟨hafter, hin⟩).2
    · obtain ⟨hresponded, hafter⟩ := webhookStateAfter_of_fresh hanswered payload
      refine iff_of_true ⟨fun _ => hanswered, fun h => absurd h hstop⟩ ⟨?_, ?_⟩
      · exact ⟨fun h => ⟨hin, hresponded.1 h.1⟩, fun h => ⟨hresponded.2 h.2, .inl hin⟩⟩
      · exact ⟨fun h => ⟨hin, hafter.1 h.1⟩, fun h => ⟨hafter.2 h.2, hin⟩⟩
  · constructor
    · rintro ⟨-, hstop⟩
      refine ⟨iff_of_false ?_ fun h => hin h.1, iff_of_false (fun h => hin h.2) fun h => hin h.1⟩
      rintro ⟨hresponded, h | h⟩
      · exact hin h
      · exact hstop h hresponded
    · rintro ⟨hsummary, -⟩
      refine ⟨fun h => absurd h hin, fun hstop hresponded => ?_⟩
      exact hin (hsummary.1 ⟨hresponded, .inr hstop⟩).1

theorem ite_one_inj {p q : Bool} {n : Nat} :
    n + (if p then 1 else 0) = n + (if q then 1 else 0) ↔ (p = true ↔ q = true) := by
  cases p <;> cases q <;> simp

def ResponseTally.Counted (userId : Int) (month : Month) (t : ResponseTally) : Prop :=
  CountsResponses t.session.db userId month t.received

/-- An event that adds no row to the history keeps the count right exactly if it is no response. -/
theorem step_counted_of_same {t : ResponseTally} (h : t.Counted userId month)
    (hsame : (MonthEvent.apply env mode t.session event).db.outreachHistory =
      t.session.db.outreachHistory) :
    (t.step env mode userId month event).Counted userId month ↔
      positiveResponse env userId month t.session event = false := by
  obtain ⟨hresponded, hanswered⟩ := (countsResponses_iff _ _ _ _).1 h
  refine (countsResponses_iff _ _ _ _).trans ?_
  rw [ResponseTally.step, hsame, hresponded, hanswered, and_self_iff]
  cases positiveResponse env userId month t.session event with
  | false => exact iff_of_true rfl rfl
  | true => exact iff_of_false (Nat.succ_ne_self _).symm nofun

theorem positiveResponse_delivered
    (hdelivered : delivered env session request = .ok (some (payload, tracking))) :
    positiveResponse env userId month session (.served (.webhook request)) =
      (decide (tracking.userId = userId) && Report.inWindow month request.now &&
        decide (webhookMove payload tracking.state = some .responded)) := by
  rw [positiveResponse, hdelivered]

theorem positiveResponse_undelivered
    (h : ∀ payload tracking, delivered env session request ≠ .ok (some (payload, tracking))) :
    positiveResponse env userId month session (.served (.webhook request)) = false := by
  rw [positiveResponse]
  split
  · next payload tracking hdelivered => exact absurd hdelivered (h payload tracking)
  · rfl

theorem step_counted_of_row {t : ResponseTally} (h : t.Counted userId month)
    (hrow : RowOf request payload tracking row) (huser : tracking.userId = userId)
    (hrows : (webhookSession env mode t.session request).db.outreachHistory.rows =
      t.session.db.outreachHistory.rows ++ [row])
    (hdelivered : delivered env t.session request = .ok (some (payload, tracking))) :
    (t.step env mode userId month (.served (.webhook request))).Counted userId month ↔
      (webhookStateAfter payload tracking = .responded ∧
          Snapshot.inWindow month request.now = true ↔
        Report.inWindow month request.now = true ∧
          webhookMove payload tracking.state = some .responded) ∧
      (webhookStateAfter payload tracking ∈ Report.answeredStates ∧
          Report.inWindow month request.now = true ↔
        Report.inWindow month request.now = true ∧
          webhookMove payload tracking.state = some .responded) := by
  obtain ⟨hresponded, hanswered⟩ := (countsResponses_iff _ _ _ _).1 h
  have hafter : row.stateAfter = some (webhookStateAfter payload tracking) := hrow.stateAfter
  have hin : row.userId = userId := hrow.userId.trans huser
  have hstate : Report.answered row = true ↔
      webhookStateAfter payload tracking ∈ Report.answeredStates := by
    rw [Report.answered, hafter, Option.any_some, List.contains_iff_mem]
  have hstep : (t.step env mode userId month (.served (.webhook request))).session.db =
      (webhookSession env mode t.session request).db := rfl
  refine (countsResponses_iff _ _ _ _).trans ?_
  rw [hstep, hrows, respondedIn, answeredIn, countP_filter_append, countP_filter_append,
    ← respondedIn, ← answeredIn, hresponded, hanswered, ResponseTally.step,
    positiveResponse_delivered hdelivered, ite_one_inj, ite_one_inj, hrow.createdAt, hin, huser,
    hafter]
  simp only [decide_true, Bool.true_and, Bool.and_eq_true, decide_eq_true_eq, Option.some.injEq,
    hstate]

/-- A delivery keeps the count right exactly if it is counted once. -/
theorem step_counted_delivered {t : ResponseTally} (h : t.Counted userId month)
    (hdelivered : delivered env t.session request = .ok (some (payload, tracking)))
    (huser : tracking.userId = userId) :
    (t.step env mode userId month (.served (.webhook request))).Counted userId month ↔
      CountedOnce mode month request.now payload tracking := by
  by_cases hmode : mode ∈ validExecutionModes
  · obtain ⟨raw, userId', hdelivery⟩ := delivery_of hdelivered
    obtain ⟨row, hrow, hrows⟩ := webhookSession_of_delivery hmode hdelivery
    rw [step_counted_of_row h hrow huser hrows hdelivered, countedOnce_iff hmode]
  · have hsame : (MonthEvent.apply env mode t.session
        (.served (.webhook request))).db.outreachHistory = t.session.db.outreachHistory :=
      congrArg (·.db.outreachHistory) (webhookSession_refused hmode)
    rw [step_counted_of_same h hsame, positiveResponse_delivered hdelivered, CountedOnce,
      if_neg hmode, decide_eq_true huser, Bool.true_and, Bool.and_eq_false_imp]
    exact imp_congr_right fun _ => decide_eq_false_iff_not

theorem step_counted_other {t : ResponseTally} (h : t.Counted userId month)
    (hdelivered : delivered env t.session request = .ok (some (payload, tracking)))
    (huser : tracking.userId ≠ userId) :
    (t.step env mode userId month (.served (.webhook request))).Counted userId month := by
  have hnone :
      positiveResponse env userId month t.session (.served (.webhook request)) = false := by
    rw [positiveResponse_delivered hdelivered, decide_eq_false huser, Bool.false_and,
      Bool.false_and]
  by_cases hmode : mode ∈ validExecutionModes
  · obtain ⟨raw, userId', hdelivery⟩ := delivery_of hdelivered
    obtain ⟨row, hrow, hrows⟩ := webhookSession_of_delivery hmode hdelivery
    obtain ⟨hresponded, hanswered⟩ := (countsResponses_iff _ _ _ _).1 h
    have hother : row.userId ≠ userId := hrow.userId.trans_ne huser
    have hstep : (t.step env mode userId month (.served (.webhook request))).session.db =
        (webhookSession env mode t.session request).db := rfl
    refine (countsResponses_iff _ _ _ _).2 ?_
    rw [hstep, hrows, respondedIn, answeredIn, countP_filter_append, countP_filter_append,
      ← respondedIn, ← answeredIn, hresponded, hanswered, ResponseTally.step, hnone,
      decide_eq_false hother, Bool.false_and, Bool.and_false, Bool.false_and, Bool.and_false]
    exact ⟨rfl, rfl⟩
  · have hsame : (MonthEvent.apply env mode t.session
        (.served (.webhook request))).db.outreachHistory = t.session.db.outreachHistory :=
      congrArg (·.db.outreachHistory) (webhookSession_refused hmode)
    exact (step_counted_of_same h hsame).2 hnone

/-- The counts stay right over an event exactly if the delivery it may be is counted once. -/
theorem step_counted_iff {t : ResponseTally} (h : t.Counted userId month) (event : MonthEvent) :
    (t.step env mode userId month event).Counted userId month ↔
      DeliversCounted env mode userId month t event := by
  match event with
  | .tracked rows =>
    exact iff_of_true ((step_counted_of_same h rfl).2 rfl) fun _ _ _ heq => nomatch heq
  | .served (.manual action) =>
    have hsame : (MonthEvent.apply env mode t.session
        (.served (.manual action))).db.outreachHistory =
        t.session.db.outreachHistory := executeManualAction_history mode t.session action
    exact iff_of_true ((step_counted_of_same h hsame).2 rfl) fun _ _ _ heq => nomatch heq
  | .served (.webhook request) =>
    by_cases hdelivered : ∃ payload tracking,
        delivered env t.session request = .ok (some (payload, tracking))
    · obtain ⟨payload, tracking, hdelivered⟩ := hdelivered
      by_cases huser : tracking.userId = userId
      · rw [step_counted_delivered h hdelivered huser]
        constructor
        · intro hcounted request' payload' tracking' heq hdelivered' _
          cases heq
          cases hdelivered.symm.trans hdelivered'
          exact hcounted
        · intro hcounted
          exact hcounted request payload tracking rfl hdelivered huser
      · refine iff_of_true (step_counted_other h hdelivered huser) ?_
        intro request' payload' tracking' heq hdelivered' huser'
        cases heq
        cases hdelivered.symm.trans hdelivered'
        exact absurd huser' huser
    · have hundelivered : ∀ payload tracking,
          delivered env t.session request ≠ .ok (some (payload, tracking)) :=
        fun payload tracking heq => hdelivered ⟨payload, tracking, heq⟩
      have hsame : (MonthEvent.apply env mode t.session
          (.served (.webhook request))).db.outreachHistory = t.session.db.outreachHistory :=
        congrArg (·.db.outreachHistory) (webhookSession_undelivered hundelivered)
      refine iff_of_true ((step_counted_of_same h hsame).2
        (positiveResponse_undelivered hundelivered)) ?_
      intro request' payload' tracking' heq hdelivered' _
      cases heq
      exact absurd hdelivered' (hundelivered payload' tracking')

/-- From a month's start on the responses are counted right over every part of a history exactly
if each of its deliveries to the student is counted once. -/
theorem responses_counted_iff (env : WebhookEnv) (mode : String) (userId : Int) (month : Month)
    (session : Session)
    (hstart : ∀ r ∈ session.db.outreachHistory.rows, r.userId = userId →
      ¬ Snapshot.inWindow month r.createdAt = true) (events : List MonthEvent) :
    (∀ before rest, events = before ++ rest →
        (Runs.final (ResponseTally.step env mode userId month) ⟨session, 0⟩ before).Counted userId
          month) ↔
      Runs.EveryStep (ResponseTally.step env mode userId month)
        (DeliversCounted env mode userId month) ⟨session, 0⟩ events := by
  refine Runs.everywhere_iff (I := ResponseTally.Counted userId month)
    (fun t event h => step_counted_iff h event) ((countsResponses_iff _ _ _ _).2 ⟨?_, ?_⟩) events
  · rw [respondedIn, List.filter_eq_nil_iff.2]
    · rfl
    · intro r hr hrow
      rw [Bool.and_eq_true, decide_eq_true_iff] at hrow
      exact hstart r hr hrow.1 hrow.2
  · rw [answeredIn, List.filter_eq_nil_iff.2]
    · rfl
    · intro r hr hrow
      rw [Bool.and_eq_true, decide_eq_true_iff] at hrow
      exact hstart r hr hrow.1 ((snapshot_inWindow_or month r.createdAt).2 (.inl hrow.2))

/-- What the handler's surroundings do with `smsReplyRaw` and with its negative twin. -/
def repliesEnv : WebhookEnv :=
  { smsReplyEnv with
    eventHash := fun raw =>
      match raw with
      | .dict [_, _, (_, .str "yes")] =>
        "d7f8d1463f5e1d0944e471cb09de4da85d9f0d547303c36cb458824cc49278cb"
      | _ => "7f76ea44066fc9a54dd92697df9270c114d96b64b0c5c1db2833a989ec34f2d3"
    validatePayload := fun raw =>
      match raw with
      | [_, _, (_, .str outcome)] => .ok ⟨"SMS_RESPONSE", some 7, none, some outcome, none⟩
      | _ => .error .valueError }

def reply (outcome : String) : MonthEvent :=
  .served (.webhook
    { smsReply with
      raw := .dict
        [("event_type", .str "SMS_RESPONSE"), ("user_id", .int 7), ("outcome", .str outcome)]
      now := Pipeline.january.start })

/-- Under a mode that the gate lists a first reply of a contacted student is counted. -/
theorem responses_counted_reply :
    (Runs.final (ResponseTally.step repliesEnv "SHADOW" 7 Pipeline.january) ⟨contactedSession, 0⟩
      [.tracked (.single contactedRow), reply "yes"]).Counted 7 Pipeline.january := by
  refine (responses_counted_iff repliesEnv "SHADOW" 7 Pipeline.january contactedSession
    (fun _ hr => nomatch hr) [.tracked (.single contactedRow), reply "yes"]).2
    ⟨?_, ?_, trivial⟩ [.tracked (.single contactedRow), reply "yes"] [] rfl
  · intro request payload tracking heq
    cases heq
  intro request payload tracking heq hdelivered huser
  cases heq
  cases hdelivered
  rw [CountedOnce, if_pos (by decide)]
  exact ⟨fun _ => by decide, fun hstop => absurd hstop (by decide +kernel)⟩

/-- Under the configured mode a positive reply is lost; under a listed one a negative reply after
it counts as another response. -/
theorem replies_miscounted :
    ¬ (Runs.final (ResponseTally.step repliesEnv ExecutionMode.shadow.str 7 Pipeline.january)
        ⟨contactedSession, 0⟩ [reply "yes"]).Counted 7 Pipeline.january ∧
      ¬ (Runs.final (ResponseTally.step repliesEnv "SHADOW" 7 Pipeline.january)
        ⟨contactedSession, 0⟩ [reply "yes", reply "no"]).Counted 7 Pipeline.january := by
  refine ⟨fun h => ?_, fun h => ?_⟩
  · exact absurd ((countsResponses_iff _ _ _ _).1 h).1 (by decide +kernel)
  · exact absurd ((countsResponses_iff _ _ _ _).1 h).1 (by decide +kernel)

end StudentSuccess
