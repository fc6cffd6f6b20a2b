import StudentSuccess.MirrorSyncs
import StudentSuccess.Sessions

namespace StudentSuccess
namespace CampaignSync
set_option autoImplicit true
open Py MirrorSync Sessions

inductive Raised
  | python (e : Py.Error)
  | dbapi

/-- A `datetime`, without a zone or with one. -/
inductive Moment
  | naive (t : Instant)
  | aware (t : Instant)

/-- What the code gives a row of `student_campaign_activity`, with the defaults of the model. -/
structure Activity where
  studentUserId : Int
  activityDate : Option Moment
  activityType : Option String
  activityLabel : Option String
  channel : Option String
  subject : Option String
  messageBody : Option String
  source : String := "operator"
  createdBy : Cell
  executionMode : String := "SHADOW"
  shadowOnly : Bool := true
  correlationId : Option String := none
  causationId : Option String := none
  configVersionId : Option String := none
  executionType : String := "original"
  governanceScope : String := "SHADOW_ONLY"
  isReplay : Bool := false
  attributionComplete : Bool := false

/-- A row; the database gives it its id and the time of its creation. -/
structure ActivityRow extends Activity where
  id : Nat
  createdAt : Instant

structure Database (τ : Type) where
  activities : Table ActivityRow (·.id)
  others : τ

/-- The conversions of the sync and the activities that the table takes. -/
structure SyncEnv where
  int : Cell → Except Py.Error Int
  upper : String → String
  lower : String → String
  fromisoformat : String → Option Moment
  isoformat : Instant → String
  dumps : SourceRow → String
  accepts : Activity → Bool

/-- What the database does in one call: the ids that its sequence gives, the time of the
transaction, and its answers to the deletion and to the commit. -/
structure Call where
  newId : Nat → Nat
  now : Instant
  delete : Except Raised Unit
  commit : Except Raised Unit

def eventUid (row : SourceRow) : Cell :=
  if (getCell row "user_id").truthy then getCell row "user_id" else getCell row "UserID"

/-- `row.get("event_type") or row.get("_activity_type") or "EVENT"`. -/
def eventType (row : SourceRow) : Cell :=
  if (getCell row "event_type").truthy then getCell row "event_type"
  else if (getCell row "_activity_type").truthy then getCell row "_activity_type"
  else .text "EVENT"

def activityDate (env : SyncEnv) (row : SourceRow) : Option Moment :=
  match getCell row "created_at" with
  | .timestamp t => some (.aware t)
  | .text s => if s = "" then none else env.fromisoformat (s.replace "Z" "+00:00")
  | _ => none

/-- The row as it is written where it has no message. -/
def rawRow (env : SyncEnv) (row : SourceRow) : SourceRow :=
  (row.filter fun (k, _) => !k.startsWith "_").map fun
    | (k, .timestamp t) => (k, .text (env.isoformat t))
    | (k, v) => (k, v)

def onText (method : String → String) : Cell → Except Raised String
  | .text s => .ok (method s)
  | _ => .error (.python .attributeError)

/-- `v[:n]`. -/
def slice (n : Nat) : Cell → Except Raised String
  | .text s => .ok (String.ofList (s.toList.take n))
  | _ => .error (.python .typeError)

def eventChannel (env : SyncEnv) (row : SourceRow) : Except Raised String := do
  let channel := getCell row "channel"
  let lowered ← onText env.lower (if channel.truthy then channel else .text "")
  return if lowered = "" then "system" else lowered

def eventSubject (row : SourceRow) : Except Raised (Option String) :=
  let agentName := getCell row "agent_name"
  if agentName.truthy then (slice 300 agentName).map some else .ok none

def eventBody (env : SyncEnv) (row : SourceRow) : Except Raised String :=
  let message := getCell row "message"
  slice 2000 (if message.truthy then message else .text (env.dumps (rawRow env row)))

def newActivity (env : SyncEnv) (row : SourceRow) : Except Raised Activity := do
  let studentUserId ← (env.int (eventUid row)).mapError .python
  let activityType ← onText env.upper (eventType row)
  let activityLabel ← slice 200 (eventType row)
  let channel ← eventChannel env row
  let subject ← eventSubject row
  let messageBody ← eventBody env row
  return {
    studentUserId := studentUserId
    activityDate := activityDate env row
    activityType := some activityType
    activityLabel := some activityLabel
    channel := some channel
    subject := subject
    messageBody := some messageBody
    source := "engagement_events"
    createdBy := getCell row "agent_name"
    executionMode := "SHADOW"
    shadowOnly := true }

def ActivityRow.isEvent (r : ActivityRow) : Bool := r.source = "engagement_events"

/-- `DELETE … WHERE source = 'engagement_events'`. -/
def deleteEvents (call : Call) (db : Database τ) : Except Raised (Database τ × Unit) :=
  call.delete.map fun _ =>
    ({ db with activities := db.activities.deleteWhere ActivityRow.isEvent }, ())

def Call.row (call : Call) (obj : Activity × Nat) : ActivityRow :=
  { obj.1 with id := call.newId obj.2, createdAt := call.now }

def insertActivity (env : SyncEnv) (call : Call) (obj : Activity × Nat) (db : Database τ) :
    Except Raised (Database τ) :=
  if h : (call.row obj).id ∈ db.activities.rows.map (·.id) then .error .dbapi
  else if env.accepts obj.1 then
    .ok { db with activities := db.activities.insert (call.row obj) h }
  else .error .dbapi

/-- The loop of the sync: every event of a user is added to the session. -/
def addEvents (env : SyncEnv) : List SourceRow → Nat →
    Action Raised (Database τ) (Activity × Nat) Nat
  | [], count => pure count
  | row :: rows, count =>
    if !(eventUid row).truthy then addEvents env rows count
    else do
      let obj ← lift (newActivity env row)
      add (obj, count)
      addEvents env rows (count + 1)

structure SyncResult where
  synced : Nat
  totalFetched : Nat
  error : Option String
  status : String

def syncCampaignActivity (env : SyncEnv) (call : Call) (fetched : Except String (List SourceRow)) :
    Action Raised (Database τ) (Activity × Nat) SyncResult :=
  match checkError fetched with
  | .error error => pure ⟨0, 0, some error, "failed"⟩
  | .ok rows => do
    execute (deleteEvents call)
    let count ← addEvents env rows 0
    commit (insertActivity env call) call.commit
    commit (insertActivity env call) call.commit
    return ⟨count, rows.length, none, "ok"⟩

def ofUsers (rows : List SourceRow) : List SourceRow := rows.filter fun row => (eventUid row).truthy

theorem ofUsers_cons_of_user (h : (eventUid row).truthy = true) (rows : List SourceRow) :
    ofUsers (row :: rows) = row :: ofUsers rows :=
  List.filter_cons_of_pos (p := fun row => (eventUid row).truthy) h

theorem ofUsers_cons_of_nobody (h : (eventUid row).truthy = false) (rows : List SourceRow) :
    ofUsers (row :: rows) = ofUsers rows :=
  List.filter_cons_of_neg (p := fun row => (eventUid row).truthy) (by simp [h])

section
variable {env : SyncEnv} {call : Call}

theorem addEvents_cons (row : SourceRow) (rows : List SourceRow) (count : Nat)
    (s : Session (Database τ) (Activity × Nat)) :
    (addEvents env (row :: rows) count).after s =
      if (eventUid row).truthy then
        match newActivity env row with
        | .ok event =>
          (addEvents env rows (count + 1)).after { s with added := s.added ++ [(event, count)] }
        | .error e => (.error e, s)
      else (addEvents env rows count).after s := by
  rw [addEvents]
  cases huser : (eventUid row).truthy with
  | false => rfl
  | true =>
    show (lift (newActivity env row) >>= fun obj => add (obj, count) >>= fun _ =>
      addEvents env rows (count + 1)).after s = _
    rw [after_bind, Action.after, lift]
    cases newActivity env row with
    | ok event => rfl
    | error e => rfl

theorem addEvents_after (env : SyncEnv) (rows : List SourceRow) (count : Nat)
    (s : Session (Database τ) (Activity × Nat)) :
    match (ofUsers rows).mapM (newActivity env) with
    | .ok events => (addEvents env rows count).after s =
        (.ok (count + events.length), { s with added := s.added ++ events.zipIdx count })
    | .error e => ∃ s', (addEvents env rows count).after s = (.error e, s') := by
  induction rows generalizing count s with
  | nil =>
    show (addEvents env [] count).after s = _
    simp [addEvents]
  | cons row rows ih =>
    rw [addEvents_cons]
    cases huser : (eventUid row).truthy with
    | false =>
      rw [ofUsers_cons_of_nobody huser]
      exact ih count s
    | true =>
      rw [ofUsers_cons_of_user huser, List.mapM_cons, if_pos rfl]
      cases hevent : newActivity env row with
      | error e => exact ⟨s, rfl⟩
      | ok event =>
        have hrest := ih (count + 1) { s with added := s.added ++ [(event, count)] }
        cases hevents : (ofUsers rows).mapM (newActivity env) with
        | error e =>
          rw [hevents] at hrest
          exact hrest
        | ok events =>
          rw [hevents] at hrest
          show (addEvents env rows (count + 1)).after _ =
            (.ok (count + (event :: events).length), _)
          rw [hrest, List.zipIdx_cons, List.append_assoc, List.length_cons, List.singleton_append,
            Nat.add_assoc, Nat.add_comm 1]

theorem addEvents_eq_ok {s s' : Session (Database τ) (Activity × Nat)} :
    (addEvents env rows count).after s = (.ok n, s') ↔
      ∃ events, (ofUsers rows).mapM (newActivity env) = .ok events ∧ n = count + events.length ∧
        s' = { s with added := s.added ++ events.zipIdx count } := by
  have hafter := addEvents_after env rows count s
  cases hevents : (ofUsers rows).mapM (newActivity env) with
  | error e =>
    rw [hevents] at hafter
    obtain ⟨s₁, hafter⟩ := hafter
    rw [hafter]
    constructor
    · rintro ⟨⟩
    · rintro ⟨events, ⟨⟩, h⟩
  | ok events =>
    rw [hevents] at hafter
    simp only at hafter
    rw [hafter]
    constructor
    · rintro ⟨⟩
      exact ⟨events, rfl, rfl, rfl⟩
    · rintro ⟨_, ⟨⟩, rfl, rfl⟩
      rfl

def Call.rows (call : Call) (events : List Activity) : List ActivityRow :=
  events.zipIdx.map call.row

theorem database_eq {db db' : Database τ} (hrows : db.activities.rows = db'.activities.rows)
    (hothers : db.others = db'.others) : db = db' := by
  obtain ⟨⟨rows, _⟩, others⟩ := db
  obtain ⟨⟨rows', _⟩, others'⟩ := db'
  cases hrows
  cases hothers
  rfl

/-- The inserts go through when the table takes every object; that every id is new, the unique key
of the table says. -/
theorem flush_eq_ok {db db' : Database τ} : flush (insertActivity env call) objs db = .ok db' ↔
    (∀ obj ∈ objs, env.accepts obj.1 = true) ∧
      db'.activities.rows = db.activities.rows ++ objs.map call.row ∧ db'.others = db.others := by
  induction objs generalizing db with
  | nil =>
    rw [flush, List.foldlM_nil]
    constructor
    · rintro ⟨⟩
      exact ⟨by simp, by simp, rfl⟩
    · rintro ⟨-, hrows, hothers⟩
      rw [List.map_nil, List.append_nil] at hrows
      rw [database_eq hrows hothers]
      rfl
  | cons obj objs ih =>
    rw [flush, List.foldlM_cons, bind_eq_ok, List.forall_mem_cons, List.map_cons]
    constructor
    · rintro ⟨db₁, hinsert, hrest⟩
      obtain ⟨haccepts, hrows, hothers⟩ := ih.1 hrest
      rw [insertActivity] at hinsert
      split_ifs at hinsert with hid hobj
      cases hinsert
      refine ⟨⟨hobj, haccepts⟩, ?_, hothers⟩
      rw [hrows, Table.insert_rows, List.append_assoc, List.singleton_append]
    · rintro ⟨⟨hobj, haccepts⟩, hrows, hothers⟩
      have hid : (call.row obj).id ∉ db.activities.rows.map (·.id) := by
        intro hmem
        have hunique := db'.activities.unique
        rw [hrows, List.map_append, List.nodup_append] at hunique
        exact hunique.2.2 _ hmem _ (.head _) rfl
      refine ⟨{ db with activities := db.activities.insert (call.row obj) hid }, ?_, ?_⟩
      · rw [insertActivity, dif_neg hid, if_pos hobj]
      · refine ih.2 ⟨haccepts, ?_, hothers⟩
        rw [hrows, Table.insert_rows, List.append_assoc, List.singleton_append]

theorem flushEvents_eq_ok {db db' : Database τ} :
    flush (insertActivity env call) events.zipIdx db = .ok db' ↔
      (∀ event ∈ events, env.accepts event = true) ∧
        db'.activities.rows = db.activities.rows ++ call.rows events ∧ db'.others = db.others := by
  have hobjects : (∀ obj ∈ events.zipIdx, env.accepts obj.1 = true) ↔
      ∀ event ∈ events, env.accepts event = true := by
    conv_rhs => rw [← List.zipIdx_map_fst 0 events, List.forall_mem_map]
  rw [flush_eq_ok, hobjects]
  rfl

theorem uncommitted_addEvents (env : SyncEnv) (rows : List SourceRow) (count : Nat) :
    Uncommitted (addEvents env rows count : Action Raised (Database τ) (Activity × Nat) Nat) := by
  induction rows generalizing count with
  | nil => exact uncommitted_pure count
  | cons row rows ih =>
    rw [addEvents]
    split_ifs
    · exact ih count
    · refine (uncommitted_lift _).bind fun event => ?_
      exact (uncommitted_add _).bind fun _ => ih (count + 1)

theorem syncCampaignActivity_failed (env : SyncEnv) (call : Call)
    (h : checkError fetched = .error error) :
    (syncCampaignActivity env call fetched :
      Action Raised (Database τ) (Activity × Nat) SyncResult) =
      pure ⟨0, 0, some error, "failed"⟩ := by
  rw [syncCampaignActivity, h]

theorem syncCampaignActivity_fetched (env : SyncEnv) (call : Call)
    (h : checkError fetched = .ok rows) :
    (syncCampaignActivity env call fetched :
      Action Raised (Database τ) (Activity × Nat) SyncResult) =
      syncCampaignActivity env call (.ok rows) := by
  rw [syncCampaignActivity, h]
  rfl

/-- The second commit of the sync does nothing. -/
theorem syncCampaignActivity_ok (env : SyncEnv) (call : Call) (rows : List SourceRow) :
    (syncCampaignActivity env call (.ok rows) :
      Action Raised (Database τ) (Activity × Nat) SyncResult) =
        execute (deleteEvents call) >>= fun _ => addEvents env rows 0 >>= fun count =>
          commit (insertActivity env call) call.commit >>= fun _ =>
            pure ⟨count, rows.length, none, "ok"⟩ := by
  rw [syncCampaignActivity, checkError_ok]
  dsimp only
  congr 1
  funext _
  congr 1
  funext count
  rw [← bind_assoc, commit_commit]

theorem syncCampaignActivity_atomic (env : SyncEnv) (call : Call)
    (fetched : Except String (List SourceRow)) :
    Atomic (syncCampaignActivity env call fetched :
      Action Raised (Database τ) (Activity × Nat) SyncResult) := by
  cases hchecked : checkError fetched with
  | error error =>
    rw [syncCampaignActivity_failed env call hchecked]
    exact atomic_pure _
  | ok rows =>
    rw [syncCampaignActivity_fetched env call hchecked, syncCampaignActivity_ok]
    refine (uncommitted_execute _).bind_atomic fun _ => ?_
    refine (uncommitted_addEvents env rows 0).bind_atomic fun count => ?_
    exact (atomic_commit _ _).bind_pure
      fun _ => (⟨count, rows.length, none, "ok"⟩ : SyncResult)

/-- When the sync returns, and what is committed then. -/
theorem syncCampaignActivity_eq_ok {db db' : Database τ} :
    withSession (syncCampaignActivity env call (.ok rows)) db = (.ok result, db') ↔
      call.delete = .ok () ∧ call.commit = .ok () ∧
        ∃ events, (ofUsers rows).mapM (newActivity env) = .ok events ∧
          (∀ event ∈ events, env.accepts event = true) ∧
          db'.activities.rows =
            (db.activities.rows.filter fun r => !r.isEvent) ++ call.rows events ∧
          db'.others = db.others ∧ result = ⟨events.length, rows.length, none, "ok"⟩ := by
  rw [syncCampaignActivity_ok, withSession_eq_ok]
  constructor
  · rintro ⟨s, hbody, rfl⟩
    obtain ⟨_, s₁, hdelete, hbody⟩ := after_bind_eq_ok.1 hbody
    obtain ⟨count, s₂, hadd, hbody⟩ := after_bind_eq_ok.1 hbody
    obtain ⟨_, s₃, hcommit, hbody⟩ := after_bind_eq_ok.1 hbody
    cases hbody
    obtain ⟨deleted, hdeleted, rfl⟩ := execute_eq_ok.1 hdelete
    obtain ⟨_, hanswer, hdeleted⟩ := map_eq_ok.1 hdeleted
    cases hdeleted
    obtain ⟨events, hevents, hcount, rfl⟩ := addEvents_eq_ok.1 hadd
    rw [Nat.zero_add] at hcount
    subst hcount
    obtain ⟨db', hflush, hcommitted, rfl⟩ := (commit_eq_ok rfl).1 hcommit
    exact ⟨hanswer, hcommitted, events, hevents, (flushEvents_eq_ok.1 hflush).1,
      (flushEvents_eq_ok.1 hflush).2.1, (flushEvents_eq_ok.1 hflush).2.2, rfl⟩
  · rintro ⟨hdelete, hcommit, events, hevents, haccepts, hrows, hothers, rfl⟩
    have hdeleted : deleteEvents call (Session.idle db : Session _ (Activity × Nat)).view =
        .ok ({ db with activities := db.activities.deleteWhere ActivityRow.isEvent }, ()) := by
      rw [deleteEvents, hdelete]
      rfl
    refine ⟨.idle db', ?_, rfl⟩
    refine after_bind_eq_ok.2 ⟨(), _, execute_eq_ok.2 ⟨_, hdeleted, rfl⟩, ?_⟩
    refine after_bind_eq_ok.2 ⟨_, _, addEvents_eq_ok.2 ⟨events, hevents, rfl, rfl⟩, ?_⟩
    refine after_bind_eq_ok.2 ⟨(), .idle db', (commit_eq_ok rfl).2 ⟨db', ?_, hcommit, rfl⟩, ?_⟩
    · exact flushEvents_eq_ok.2 ⟨haccepts, hrows, hothers⟩
    · rw [Nat.zero_add]
      rfl

theorem newActivity_source (h : newActivity env row = .ok event) :
    event.source = "engagement_events" := by
  rw [newActivity] at h
  obtain ⟨studentUserId, -, h⟩ := bind_eq_ok.1 h
  obtain ⟨activityType, -, h⟩ := bind_eq_ok.1 h
  obtain ⟨activityLabel, -, h⟩ := bind_eq_ok.1 h
  obtain ⟨channel, -, h⟩ := bind_eq_ok.1 h
  obtain ⟨subject, -, h⟩ := bind_eq_ok.1 h
  obtain ⟨messageBody, -, h⟩ := bind_eq_ok.1 h
  cases h
  rfl

theorem events_source {rows : List SourceRow} (h : rows.mapM (newActivity env) = .ok events) :
    ∀ event ∈ events, event.source = "engagement_events" := by
  induction rows generalizing events with
  | nil =>
    cases h
    simp
  | cons row rows ih =>
    rw [List.mapM_cons] at h
    obtain ⟨event, hevent, h⟩ := bind_eq_ok.1 h
    obtain ⟨rest, hrest, h⟩ := bind_eq_ok.1 h
    cases h
    rw [List.forall_mem_cons]
    exact ⟨newActivity_source hevent, ih hrest⟩

theorem rows_isEvent (call : Call) (h : ∀ event ∈ events, event.source = "engagement_events") :
    ∀ r ∈ call.rows events, r.isEvent = true := by
  intro r hr
  obtain ⟨obj, hobj, rfl⟩ := List.mem_map.1 hr
  exact decide_eq_true (h obj.1 (List.fst_mem_of_mem_zipIdx hobj))

theorem rows_toActivity (call : Call) (events : List Activity) :
    (call.rows events).map (·.toActivity) = events := by
  rw [Call.rows, List.map_map]
  exact List.zipIdx_map_fst 0 events

/-- The activities stand in the table in place of the events that were there, and nothing else
has changed. -/
structure Replaces (events : List Activity) (db db' : Database τ) : Prop where
  events : (db'.activities.rows.filter ActivityRow.isEvent).map (·.toActivity) = events
  otherSources : db'.activities.rows.filter (fun r => !r.isEvent) =
    db.activities.rows.filter fun r => !r.isEvent
  others : db'.others = db.others

theorem replaces_of_rows {db db' : Database τ}
    (hsource : ∀ event ∈ events, event.source = "engagement_events")
    (hrows : db'.activities.rows =
      (db.activities.rows.filter fun r => !r.isEvent) ++ call.rows events)
    (hothers : db'.others = db.others) : Replaces events db db' := by
  have hevents := rows_isEvent call hsource
  refine ⟨?_, ?_, hothers⟩
  · have hnone : (db.activities.rows.filter fun r => !r.isEvent).filter
        ActivityRow.isEvent = [] := by
      rw [List.filter_filter]
      simp
    rw [hrows, List.filter_append, hnone, List.filter_eq_self.2 hevents, List.nil_append,
      rows_toActivity]
  · have hnone : (call.rows events).filter (fun r => !r.isEvent) = [] := by
      rw [List.filter_eq_nil_iff]
      intro r hr
      simp [hevents r hr]
    rw [hrows, List.filter_append, hnone, List.append_nil, List.filter_filter]
    simp

end

/-- The call does not raise on the rows: the database deletes and commits, every event of a user
becomes an activity that the table takes, and the ids of these are new. -/
def GoesThrough (env : SyncEnv) (call : Call) (rows : List SourceRow) (db : Database τ) : Prop :=
  call.delete = .ok () ∧ call.commit = .ok () ∧
    ∃ events, (ofUsers rows).mapM (newActivity env) = .ok events ∧
      (∀ event ∈ events, env.accepts event = true) ∧
      (((db.activities.rows.filter fun r => !r.isEvent) ++ call.rows events).map (·.id)).Nodup

/-- What the sync of the rows has done when it returns: it has put the events of users in place of
those that were there, and another call on the same rows changes only their ids and times. -/
structure Synced (env : SyncEnv) (rows : List SourceRow) (db db' : Database τ)
    (result : SyncResult) : Prop where
  replaces : ∃ events, (ofUsers rows).mapM (newActivity env) = .ok events ∧
    Replaces events db db' ∧ result = ⟨events.length, rows.length, none, "ok"⟩
  again : ∀ call result' db'',
    withSession (syncCampaignActivity env call (.ok rows)) db' = (.ok result', db'') →
      result' = result ∧
        db''.activities.rows.map (·.toActivity) = db'.activities.rows.map (·.toActivity) ∧
        db''.activities.rows.filter (fun r => !r.isEvent) =
          db'.activities.rows.filter (fun r => !r.isEvent) ∧
        db''.others = db'.others

theorem returns_iff (env : SyncEnv) (call : Call) (rows : List SourceRow) (db : Database τ) :
    Returns (withSession (syncCampaignActivity env call (.ok rows)) db).1 ↔
      GoesThrough env call rows db := by
  constructor
  · rintro ⟨result, hresult⟩
    have hok : withSession (syncCampaignActivity env call (.ok rows)) db =
        (.ok result, (withSession (syncCampaignActivity env call (.ok rows)) db).2) :=
      Prod.ext hresult rfl
    obtain ⟨hdelete, hcommit, events, hevents, haccepts, hrows, -⟩ :=
      syncCampaignActivity_eq_ok.1 hok
    refine ⟨hdelete, hcommit, events, hevents, haccepts, ?_⟩
    rw [← hrows]
    exact Table.unique _
  · rintro ⟨hdelete, hcommit, events, hevents, haccepts, hunique⟩
    have hok : withSession (syncCampaignActivity env call (.ok rows)) db =
        (.ok ⟨events.length, rows.length, none, "ok"⟩, ⟨⟨_, hunique⟩, db.others⟩) :=
      syncCampaignActivity_eq_ok.2
        ⟨hdelete, hcommit, events, hevents, haccepts, rfl, rfl, rfl⟩
    exact ⟨_, congrArg Prod.fst hok⟩

theorem synced_of_eq_ok {db db' : Database τ}
    (h : withSession (syncCampaignActivity env call (.ok rows)) db = (.ok result, db')) :
    Synced env rows db db' result := by
  obtain ⟨-, -, events, hevents, -, hrows, hothers, rfl⟩ := syncCampaignActivity_eq_ok.1 h
  have hreplaces := replaces_of_rows (events_source hevents) hrows hothers
  refine ⟨⟨events, hevents, hreplaces, rfl⟩, ?_⟩
  intro call' result' db'' h'
  obtain ⟨-, -, events', hevents', -, hrows', hothers', rfl⟩ := syncCampaignActivity_eq_ok.1 h'
  rw [hevents] at hevents'
  cases hevents'
  have hreplaces' := replaces_of_rows (events_source hevents) hrows' hothers'
  refine ⟨rfl, ?_, hreplaces'.otherSources, hothers'⟩
  rw [hrows', hrows, List.map_append, List.map_append, rows_toActivity, rows_toActivity, ← hrows,
    hreplaces.otherSources]

/-- The sync replaces the events of users and nothing else, or it raises and leaves the database
as it was; it raises only for a reason. An error of the fetch that has a text stops it first. -/
theorem syncCampaignActivity_replaces (env : SyncEnv) (call : Call) (db : Database τ) :
    (∀ error, error ≠ "" → withSession (syncCampaignActivity env call (.error error)) db =
      (.ok ⟨0, 0, some error, "failed"⟩, db)) ∧
    ∀ rows,
      (Returns (withSession (syncCampaignActivity env call (.ok rows)) db).1 ↔
        GoesThrough env call rows db) ∧
      match withSession (syncCampaignActivity env call (.ok rows)) db with
      | (.ok result, db') => Synced env rows db db' result
      | (.error _, db') => db' = db := by
  constructor
  · intro error hmessage
    rw [syncCampaignActivity_failed env call (checkError_error hmessage)]
    rfl
  · intro rows
    refine ⟨returns_iff env call rows db, ?_⟩
    cases hresult : withSession (syncCampaignActivity env call (.ok rows)) db with
    | mk result db' =>
      cases result with
      | ok result => exact synced_of_eq_ok hresult
      | error e => exact withSession_error (syncCampaignActivity_atomic env call (.ok rows)) hresult

def plainEnv : SyncEnv where
  int := fun _ => .ok 0
  upper := id
  lower := id
  fromisoformat := fun _ => none
  isoformat := fun _ => ""
  dumps := fun _ => "\x7b\x7d"
  accepts := fun _ => true

def quietCall : Call := ⟨id, 0, .ok (), .ok ()⟩

/-- An event without a user leaves no row. -/
theorem anonymous_event_skipped :
    ¬ ∀ (env : SyncEnv) (call : Call) (rows : List SourceRow) (db : Database Unit) result db',
      withSession (syncCampaignActivity env call (.ok rows)) db = (.ok result, db') →
        (db'.activities.rows.filter ActivityRow.isEvent).length = rows.length := by
  intro h
  exact absurd (h plainEnv quietCall [[("user_id", .null), ("event_type", .text "LOGIN")]]
    ⟨.empty, ()⟩ _ _ rfl) (by decide)

end CampaignSync
end StudentSuccess
