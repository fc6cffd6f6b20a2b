import StudentSuccess.CampaignSync
import StudentSuccess.RouterHelpers
import StudentSuccess.Runs

namespace StudentSuccess
namespace OperatorDesk
set_option autoImplicit true
open Sessions Router CampaignSync

structure QuickActionRequest where
  studentUserId : Int
  actionKey : String
  actionLabel : String
  tabName : String
  createdBy : String := "operator"
  payloadJson : Option (List (String × Py.Value)) := none

structure NoteCreateRequest where
  userId : Int
  content : String
  author : String := "operator"
  isAiGenerated : Bool := false

/-- What the code gives a row of `student_quick_action_log`, with the defaults of the model. -/
structure QuickAction where
  studentUserId : Int
  actionKey : String
  actionLabel : Option String
  tabName : Option String
  status : String := "LOGGED"
  payloadJson : Option (List (String × Py.Value))
  createdBy : Option String
  executionMode : String := "SHADOW"
  correlationId : Option String
  causationId : Option String
  configVersionId : Option String := none
  executionType : String := "original"
  governanceScope : String := "SHADOW_ONLY"
  isReplay : Bool := false
  attributionComplete : Bool := false

/-- A row; the database gives it its id and the time of its creation. -/
structure QuickActionRow extends QuickAction where
  id : Nat
  createdAt : Instant

/-- What the code gives a row of `student_notes`, with the defaults of the model. -/
structure Note where
  userId : Int
  author : String := "system"
  content : String
  isAiGenerated : Bool := false
  noteType : Option String := none
  visibility : Option String := none

structure NoteRow extends Note where
  id : Nat
  createdAt : Instant

/-- The operators' own tables, beside that of the activities. -/
structure Records where
  actions : Table QuickActionRow (·.id)
  notes : Table NoteRow (·.id)

abbrev Desk := CampaignSync.Database Records

def Desk.empty : Desk := ⟨.empty, ⟨.empty, .empty⟩⟩

def Desk.actions (desk : Desk) : List QuickActionRow := desk.others.actions.rows

def Desk.notes (desk : Desk) : List NoteRow := desk.others.notes.rows

/-- The process, and what the tables take beside the activities. -/
structure DeskEnv extends SyncEnv where
  mode : ExecutionMode
  acceptsAction : QuickAction → Bool
  acceptsNote : Note → Bool

/-- What a request of an operator reads from the generator of UUIDs and the clock, and what the
database does in it: the ids of its sequences, the time of the transaction, and the answer to the
commit. -/
structure DeskCall where
  newUuid : Uuid
  clock : Instant
  actionId : Nat
  activityId : Nat
  noteId : Nat
  now : Instant
  commit : Except Raised Unit

inductive Object
  | action (a : QuickAction)
  | activity (a : Activity)
  | note (n : Note)

def requestAttribution (env : DeskEnv) (call : DeskCall) (headers : Headers) :
    Repository.AttributionFields :=
  buildRequestAttribution env.mode.str (extractCorrelationId headers call.newUuid)
    (extractCausationId headers) "original" none none

def newAction (env : DeskEnv) (attribution : Repository.AttributionFields)
    (req : QuickActionRequest) : QuickAction where
  studentUserId := req.studentUserId
  actionKey := req.actionKey
  actionLabel := some req.actionLabel
  tabName := some req.tabName
  status := "LOGGED"
  payloadJson := req.payloadJson
  createdBy := some req.createdBy
  executionMode := env.mode.value
  correlationId := some attribution.correlationId
  causationId := attribution.causationId
  executionType := attribution.executionType
  governanceScope := attribution.governanceScope
  isReplay := attribution.isReplay

def newActivity (env : DeskEnv) (attribution : Repository.AttributionFields)
    (req : QuickActionRequest) : Activity where
  studentUserId := req.studentUserId
  activityDate := none
  activityType := some (env.upper req.tabName)
  activityLabel := some req.actionLabel
  channel := some "OPERATOR"
  subject := none
  messageBody := none
  source := "operator"
  createdBy := .text req.createdBy
  executionMode := env.mode.value
  shadowOnly := env.mode = .shadow
  correlationId := some attribution.correlationId
  causationId := attribution.causationId
  executionType := attribution.executionType
  governanceScope := attribution.governanceScope
  isReplay := attribution.isReplay

/-- `text[:n]`. -/
def cut (n : Nat) (text : String) : String := String.ofList (text.toList.take n)

def newNote (req : NoteCreateRequest) : Note where
  userId := req.userId
  author := cut 100 req.author
  content := cut 4000 req.content
  isAiGenerated := req.isAiGenerated

def DeskCall.actionRow (call : DeskCall) (a : QuickAction) : QuickActionRow :=
  { a with id := call.actionId, createdAt := call.now }

def DeskCall.activityRow (call : DeskCall) (a : Activity) : ActivityRow :=
  { a with id := call.activityId, createdAt := call.now }

def DeskCall.noteRow (call : DeskCall) (n : Note) : NoteRow :=
  { n with id := call.noteId, createdAt := call.now }

def insertRow {ρ : Type} {key : ρ → Nat} (accepts : Bool) (r : ρ) (t : Table ρ key) :
    Except Raised (Table ρ key) :=
  if h : key r ∈ t.rows.map key then .error .dbapi
  else if accepts then .ok (t.insert r h)
  else .error .dbapi

def insertObject (env : DeskEnv) (call : DeskCall) (obj : Object) (desk : Desk) :
    Except Raised Desk :=
  match obj with
  | .action a => do
    let actions ← insertRow (env.acceptsAction a) (call.actionRow a) desk.others.actions
    return { desk with others := { desk.others with actions := actions } }
  | .activity a => do
    let activities ← insertRow (env.accepts a) (call.activityRow a) desk.activities
    return { desk with activities := activities }
  | .note n => do
    let notes ← insertRow (env.acceptsNote n) (call.noteRow n) desk.others.notes
    return { desk with others := { desk.others with notes := notes } }

structure LoggedAction where
  logged : Bool
  id : Nat
  shadowMode : Bool
  executionMode : String
  note : String

def logResponse (env : DeskEnv) (call : DeskCall) (headers : Headers) : Response LoggedAction :=
  .ok
    { logged := true
      id := call.actionId
      shadowMode := env.mode = .shadow
      executionMode := env.mode.str
      note :=
        if env.mode = .shadow then
          "Action logged. No external communication sent (SHADOW mode)."
        else "Action logged." }
    (some (makeGovernanceMeta (requestAttribution env call headers) call.clock))

def logQuickAction (env : DeskEnv) (call : DeskCall) (headers : Headers)
    (req : QuickActionRequest) : Action Raised Desk Object (Response LoggedAction) := do
  let attribution := requestAttribution env call headers
  add (.action (newAction env attribution req))
  add (.activity (newActivity env attribution req))
  commit (insertObject env call) call.commit
  return logResponse env call headers

structure NoteResponse where
  id : Nat
  userId : Int
  author : String
  isAiGenerated : Bool
  createdAt : Option Instant

def noteResponse (call : DeskCall) (req : NoteCreateRequest) : Response NoteResponse :=
  let note := newNote req
  .ok ⟨call.noteId, note.userId, note.author, note.isAiGenerated, some call.now⟩ none

def createNote (env : DeskEnv) (call : DeskCall) (req : NoteCreateRequest) :
    Action Raised Desk Object (Response NoteResponse) :=
  if Py.strip req.content = "" then
    pure (.fail "EMPTY_NOTE" "Note content cannot be empty." none)
  else do
    add (.note (newNote req))
    commit (insertObject env call) call.commit
    return noteResponse call req

inductive Event
  | quickAction (call : DeskCall) (headers : Headers) (req : QuickActionRequest)
  | note (call : DeskCall) (req : NoteCreateRequest)
  | campaignSync (call : CampaignSync.Call)
      (fetched : Except String (List MirrorSync.SourceRow))

inductive Answer
  | logged (response : Response LoggedAction)
  | noted (response : Response NoteResponse)
  | synced (result : SyncResult)
  | raised (e : Raised)

def answer (wrap : α → Answer) : Except Raised α → Answer
  | .ok a => wrap a
  | .error e => .raised e

/-- Every request has a session of its own. -/
def serve (env : DeskEnv) (desk : Desk) : Event → Answer × Desk
  | .quickAction call headers req =>
    let (result, desk) := withSession (logQuickAction env call headers req) desk
    (answer .logged result, desk)
  | .note call req =>
    let (result, desk) := withSession (createNote env call req) desk
    (answer .noted result, desk)
  | .campaignSync call fetched =>
    let (result, desk) := withSession (syncCampaignActivity env.toSyncEnv call fetched) desk
    (answer .synced result, desk)

def step (env : DeskEnv) (desk : Desk) (event : Event) : Desk := (serve env desk event).2

/-- The events of a run with their answers. -/
def history (env : DeskEnv) : Desk → List Event → List (Event × Answer)
  | _, [] => []
  | desk, event :: events =>
    (event, (serve env desk event).1) :: history env (step env desk event) events

def loggedRow (env : DeskEnv) : Event × Answer → Option QuickActionRow
  | (.quickAction call headers req, .logged response) =>
    response.data.map fun logged =>
      { newAction env (requestAttribution env call headers) req with
        id := logged.id, createdAt := call.now }
  | _ => none

def notedRow : Event × Answer → Option NoteRow
  | (.note call req, .noted response) =>
    response.data.map fun noted => { newNote req with id := noted.id, createdAt := call.now }
  | _ => none

def isOperators (r : ActivityRow) : Bool := r.source = "operator"

/-- What an activity stands for, without its id. -/
def entry (r : ActivityRow) : Activity × Instant := (r.toActivity, r.createdAt)

/-- The activity that stands for a click in the columns of the tabs. -/
def companion (env : DeskEnv) (a : QuickActionRow) : Activity × Instant :=
  ({ studentUserId := a.studentUserId
     activityDate := none
     activityType := a.tabName.map env.upper
     activityLabel := a.actionLabel
     channel := some "OPERATOR"
     subject := none
     messageBody := none
     source := "operator"
     createdBy := (a.createdBy.map .text).getD .null
     executionMode := a.executionMode
     shadowOnly := env.mode = .shadow
     correlationId := a.correlationId
     causationId := a.causationId
     executionType := a.executionType
     governanceScope := a.governanceScope
     isReplay := a.isReplay }, a.createdAt)

/-- The operators' activities are those of the log, in its order. -/
def InStep (env : DeskEnv) (desk : Desk) : Prop :=
  (desk.activities.rows.filter isOperators).map entry = desk.actions.map (companion env)

section
variable {env : DeskEnv} {call : DeskCall} {desk desk' : Desk}

theorem insertRow_eq_ok {ρ : Type} {key : ρ → Nat} {r : ρ} {t t' : Table ρ key}
    (h : insertRow accepts r t = .ok t') : t'.rows = t.rows ++ [r] := by
  rw [insertRow] at h
  split_ifs at h
  cases h
  rw [Table.insert_rows]

theorem insertClick_eq_ok
    (h : flush (insertObject env call) [.action a, .activity b] desk = .ok desk') :
    desk'.actions = desk.actions ++ [call.actionRow a] ∧
      desk'.activities.rows = desk.activities.rows ++ [call.activityRow b] ∧
      desk'.notes = desk.notes := by
  rw [flush, List.foldlM_cons] at h
  obtain ⟨desk₁, haction, h⟩ := Py.bind_eq_ok.1 h
  rw [List.foldlM_cons] at h
  obtain ⟨desk₂, hactivity, h⟩ := Py.bind_eq_ok.1 h
  cases h
  obtain ⟨actions, hactions, haction⟩ := Py.bind_eq_ok.1 haction
  cases haction
  obtain ⟨activities, hactivities, hactivity⟩ := Py.bind_eq_ok.1 hactivity
  cases hactivity
  exact ⟨insertRow_eq_ok hactions, insertRow_eq_ok hactivities, rfl⟩

theorem insertNote_eq_ok (h : flush (insertObject env call) [.note n] desk = .ok desk') :
    desk'.notes = desk.notes ++ [call.noteRow n] ∧ desk'.actions = desk.actions ∧
      desk'.activities = desk.activities := by
  rw [flush, List.foldlM_cons] at h
  obtain ⟨desk₁, hnote, h⟩ := Py.bind_eq_ok.1 h
  cases h
  obtain ⟨notes, hnotes, hnote⟩ := Py.bind_eq_ok.1 hnote
  cases hnote
  exact ⟨insertRow_eq_ok hnotes, rfl, rfl⟩

theorem logQuickAction_atomic (env : DeskEnv) (call : DeskCall) (headers : Headers)
    (req : QuickActionRequest) : Atomic (logQuickAction env call headers req) := by
  rw [logQuickAction]
  refine (uncommitted_add _).bind_atomic fun _ => ?_
  refine (uncommitted_add _).bind_atomic fun _ => ?_
  exact (atomic_commit _ _).bind_pure fun _ => logResponse env call headers

theorem logQuickAction_eq_ok
    (h : withSession (logQuickAction env call headers req) desk = (.ok response, desk')) :
    response = logResponse env call headers ∧
      flush (insertObject env call)
        [.action (newAction env (requestAttribution env call headers) req),
          .activity (newActivity env (requestAttribution env call headers) req)] desk =
        .ok desk' := by
  obtain ⟨s, hbody, rfl⟩ := withSession_eq_ok.1 h
  rw [logQuickAction] at hbody
  obtain ⟨_, s₁, hadd, hbody⟩ := after_bind_eq_ok.1 hbody
  cases hadd
  obtain ⟨_, s₂, hadd, hbody⟩ := after_bind_eq_ok.1 hbody
  cases hadd
  obtain ⟨_, s₃, hcommit, hbody⟩ := after_bind_eq_ok.1 hbody
  cases hbody
  obtain ⟨desk', hflush, -, rfl⟩ := (commit_eq_ok rfl).1 hcommit
  exact ⟨rfl, hflush⟩

theorem createNote_atomic (env : DeskEnv) (call : DeskCall) (req : NoteCreateRequest) :
    Atomic (createNote env call req) := by
  rw [createNote]
  split_ifs
  · exact atomic_pure _
  · refine (uncommitted_add _).bind_atomic fun _ => ?_
    exact (atomic_commit _ _).bind_pure fun _ => noteResponse call req

theorem createNote_eq_ok
    (h : withSession (createNote env call req) desk = (.ok response, desk')) :
    (response.data = none ∧ desk' = desk) ∨
      response = noteResponse call req ∧
        flush (insertObject env call) [.note (newNote req)] desk = .ok desk' := by
  obtain ⟨s, hbody, rfl⟩ := withSession_eq_ok.1 h
  rw [createNote] at hbody
  split_ifs at hbody
  · cases hbody
    exact .inl ⟨rfl, rfl⟩
  · obtain ⟨_, s₁, hadd, hbody⟩ := after_bind_eq_ok.1 hbody
    cases hadd
    obtain ⟨_, s₂, hcommit, hbody⟩ := after_bind_eq_ok.1 hbody
    cases hbody
    obtain ⟨desk', hflush, -, rfl⟩ := (commit_eq_ok rfl).1 hcommit
    exact .inr ⟨rfl, hflush⟩

/-- The operators' activities, without their ids. -/
def operators (desk : Desk) : List (Activity × Instant) :=
  (desk.activities.rows.filter isOperators).map entry

/-- What the tables of the operators hold after a request: what they held, and what the request was
answered for. -/
structure Grows (env : DeskEnv) (desk : Desk) (served : List (Event × Answer)) (desk' : Desk) :
    Prop where
  actions : desk'.actions = desk.actions ++ served.filterMap (loggedRow env)
  notes : desk'.notes = desk.notes ++ served.filterMap notedRow
  operators : operators desk' =
    operators desk ++ (served.filterMap (loggedRow env)).map (companion env)

theorem Grows.refl (env : DeskEnv) (desk : Desk) : Grows env desk [] desk :=
  ⟨(List.append_nil _).symm, (List.append_nil _).symm, (List.append_nil _).symm⟩

theorem Grows.trans (h : Grows env desk served desk₁) (h' : Grows env desk₁ served' desk') :
    Grows env desk (served ++ served') desk' := by
  constructor
  · rw [h'.actions, h.actions, List.append_assoc, List.filterMap_append]
  · rw [h'.notes, h.notes, List.append_assoc, List.filterMap_append]
  · rw [h'.operators, h.operators, List.append_assoc, List.filterMap_append, List.map_append]

theorem Grows.of_unchanged (hlogged : loggedRow env served = none) (hnoted : notedRow served = none)
    (desk : Desk) : Grows env desk [served] desk := by
  constructor
  · rw [List.filterMap_cons_none hlogged, List.filterMap_nil, List.append_nil]
  · rw [List.filterMap_cons_none hnoted, List.filterMap_nil, List.append_nil]
  · rw [List.filterMap_cons_none hlogged, List.filterMap_nil, List.map_nil, List.append_nil]

theorem grows_quickAction (env : DeskEnv) (desk : Desk) (call : DeskCall) (headers : Headers)
    (req : QuickActionRequest) :
    Grows env desk
      [(.quickAction call headers req, (serve env desk (.quickAction call headers req)).1)]
      (step env desk (.quickAction call headers req)) := by
  rw [step, serve]
  cases hresult : withSession (logQuickAction env call headers req) desk with
  | mk result desk' =>
    cases result with
    | error e =>
      obtain rfl := withSession_error (logQuickAction_atomic env call headers req) hresult
      exact .of_unchanged rfl rfl desk'
    | ok response =>
      obtain ⟨rfl, hflush⟩ := logQuickAction_eq_ok hresult
      obtain ⟨hactions, hactivities, hnotes⟩ := insertClick_eq_ok hflush
      constructor
      · exact hactions
      · exact hnotes.trans (List.append_nil _).symm
      · show operators desk' = _
        rw [operators, hactivities, List.filter_append, List.map_append]
        rfl

theorem grows_note (env : DeskEnv) (desk : Desk) (call : DeskCall) (req : NoteCreateRequest) :
    Grows env desk [(.note call req, (serve env desk (.note call req)).1)]
      (step env desk (.note call req)) := by
  rw [step, serve]
  cases hresult : withSession (createNote env call req) desk with
  | mk result desk' =>
    cases result with
    | error e =>
      obtain rfl := withSession_error (createNote_atomic env call req) hresult
      exact .of_unchanged rfl rfl desk'
    | ok response =>
      rcases createNote_eq_ok hresult with ⟨hblank, rfl⟩ | ⟨rfl, hflush⟩
      · refine .of_unchanged rfl ?_ desk'
        show response.data.map _ = none
        rw [hblank, Option.map_none]
      · obtain ⟨hnotes, hactions, hactivities⟩ := insertNote_eq_ok hflush
        constructor
        · exact hactions.trans (List.append_nil _).symm
        · exact hnotes
        · show operators desk' = operators desk ++ []
          rw [List.append_nil, operators, hactivities, operators]

/-- The sync of the campaign activities deletes and inserts no operator's activity. -/
theorem operators_eq (desk : Desk) : operators desk =
    ((desk.activities.rows.filter fun r => !r.isEvent).filter isOperators).map entry := by
  rw [operators, List.filter_filter]
  congr 1
  apply List.filter_congr
  intro r _
  rw [isOperators, ActivityRow.isEvent]
  by_cases h : r.source = "operator"
  · simp [h]
  · simp [h]

theorem grows_campaignSync (env : DeskEnv) (desk : Desk) (call : CampaignSync.Call)
    (fetched : Except String (List MirrorSync.SourceRow)) :
    Grows env desk
      [(.campaignSync call fetched, (serve env desk (.campaignSync call fetched)).1)]
      (step env desk (.campaignSync call fetched)) := by
  have hsame : ∀ (reply : Answer) (desk' : Desk), operators desk' = operators desk →
      desk'.others = desk.others → Grows env desk [(.campaignSync call fetched, reply)] desk' := by
    intro reply desk' hoperators hothers
    constructor
    · exact (congrArg (·.actions.rows) hothers).trans (List.append_nil _).symm
    · exact (congrArg (·.notes.rows) hothers).trans (List.append_nil _).symm
    · exact hoperators.trans (List.append_nil _).symm
  rw [step, serve]
  cases hresult : withSession (syncCampaignActivity env.toSyncEnv call fetched) desk with
  | mk result desk' =>
    cases result with
    | error e =>
      obtain rfl := withSession_error (syncCampaignActivity_atomic _ call fetched) hresult
      exact hsame _ desk' rfl rfl
    | ok result =>
      cases hchecked : Py.checkError fetched with
      | error error =>
        rw [syncCampaignActivity_failed _ _ hchecked] at hresult
        cases hresult
        exact hsame _ desk rfl rfl
      | ok rows =>
        rw [syncCampaignActivity_fetched _ _ hchecked] at hresult
        obtain ⟨events, -, hreplaces, -⟩ := (synced_of_eq_ok hresult).replaces
        refine hsame _ desk' ?_ hreplaces.others
        rw [operators_eq, operators_eq, hreplaces.otherSources]

theorem step_grows (env : DeskEnv) (desk : Desk) (event : Event) :
    Grows env desk [(event, (serve env desk event).1)] (step env desk event) := by
  cases event with
  | quickAction call headers req => exact grows_quickAction env desk call headers req
  | note call req => exact grows_note env desk call req
  | campaignSync call fetched => exact grows_campaignSync env desk call fetched

theorem run_grows (env : DeskEnv) (desk : Desk) (events : List Event) :
    Grows env desk (history env desk events) (Runs.final (step env) desk events) := by
  induction events generalizing desk with
  | nil => exact .refl env desk
  | cons event events ih => exact (step_grows env desk event).trans (ih (step env desk event))

theorem inStep_iff : InStep env desk ↔ operators desk = desk.actions.map (companion env) := Iff.rfl

theorem Grows.inStep_iff (h : Grows env desk served desk') :
    InStep env desk' ↔ InStep env desk := by
  rw [OperatorDesk.inStep_iff, OperatorDesk.inStep_iff, h.operators, h.actions, List.map_append,
    List.append_left_inj]

end

/-- Whatever raises in a run, each click and each note that was answered for is recorded once and
no other, and the operators' activities stay in step with the log of the clicks. -/
theorem clicks_recorded_once (env : DeskEnv) (desk : Desk) (events : List Event) :
    Grows env desk (history env desk events) (Runs.final (step env) desk events) ∧
      (InStep env (Runs.final (step env) desk events) ↔ InStep env desk) :=
  ⟨run_grows env desk events, (run_grows env desk events).inStep_iff⟩

end OperatorDesk
end StudentSuccess
