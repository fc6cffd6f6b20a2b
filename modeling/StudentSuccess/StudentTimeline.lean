import StudentSuccess.IsoText
import StudentSuccess.Pagination
import StudentSuccess.PyValue

namespace StudentSuccess
namespace StudentTimeline
set_option autoImplicit true
open IsoText Pagination

/-! The columns that the timeline reads of each table. -/

structure OutreachRow where
  userId : Int
  attemptNumber : Int
  channel : Option String
  action : Option String
  executionMode : String
  simulatedStatus : String
  decision : Option String
  stateBefore : Option String
  stateAfter : Option String
  correlationId : Option String
  isReplay : Bool
  createdAt : Option Datetime

structure TransitionRow where
  userId : Int
  fromState : String
  toState : String
  trigger : String
  actor : String
  executionMode : String
  correlationId : Option String
  isReplay : Bool
  createdAt : Option Datetime

structure NoteRow where
  userId : Int
  author : String
  noteType : Option String
  isAiGenerated : Bool
  createdAt : Option Datetime

structure InsightRow where
  userId : Int
  insightType : String
  executionMode : String
  isFinalized : Bool
  correlationId : Option String
  isReplay : Bool
  createdAt : Option Datetime

structure MessageRow where
  userId : Option Int
  direction : String
  channel : String
  status : Option String
  ghlCreatedAt : Option Datetime
  syncedAt : Option Datetime

structure ActivityRow where
  studentUserId : Int
  activityDate : Option Datetime
  activityType : Option String
  activityLabel : Option String
  channel : Option String
  subject : Option String
  source : String
  executionMode : String
  createdAt : Option Datetime

structure Tables where
  outreachHistory : List OutreachRow
  stateTransitionLog : List TransitionRow
  studentNotes : List NoteRow
  aiInsights : List InsightRow
  ghlMessages : List MessageRow
  studentCampaignActivity : List ActivityRow

/-- One event of the stream; the fields are those after the date. -/
structure Event where
  type : String
  createdAt : Option String
  fields : List (String × Py.Value)

/-- `None` or the text. -/
def optional : Option String → Py.Value
  | none => .null
  | some s => .str s

/-- `d.isoformat() if d else None`. -/
def isoOrNone (d : Option Datetime) : Option String := d.map Datetime.isoformat

def outreachEvent (h : OutreachRow) : Event where
  type := "outreach"
  createdAt := isoOrNone h.createdAt
  fields := [("attempt_number", .int h.attemptNumber), ("channel", optional h.channel),
    ("action", optional h.action), ("execution_mode", .str h.executionMode),
    ("simulated_status", .str h.simulatedStatus), ("decision", optional h.decision),
    ("state_before", optional h.stateBefore), ("state_after", optional h.stateAfter),
    ("correlation_id", optional h.correlationId), ("is_replay", .bool h.isReplay)]

def transitionEvent (t : TransitionRow) : Event where
  type := "transition"
  createdAt := isoOrNone t.createdAt
  fields := [("from_state", .str t.fromState), ("to_state", .str t.toState),
    ("trigger", .str t.trigger), ("actor", .str t.actor),
    ("execution_mode", .str t.executionMode), ("correlation_id", optional t.correlationId),
    ("is_replay", .bool t.isReplay)]

def noteEvent (n : NoteRow) : Event where
  type := "note"
  createdAt := isoOrNone n.createdAt
  fields := [("author", .str n.author), ("note_type", optional n.noteType),
    ("is_ai_generated", .bool n.isAiGenerated)]

def insightEvent (ins : InsightRow) : Event where
  type := "ai_insight"
  createdAt := isoOrNone ins.createdAt
  fields := [("insight_type", .str ins.insightType), ("execution_mode", .str ins.executionMode),
    ("is_finalized", .bool ins.isFinalized), ("correlation_id", optional ins.correlationId),
    ("is_replay", .bool ins.isReplay)]

/-- The time of a message: its own or, without one, that of its sync. -/
def MessageRow.ts (m : MessageRow) : Option Datetime := m.ghlCreatedAt.or m.syncedAt

def messageEvent (m : MessageRow) : Event where
  type := "ghl_message"
  createdAt := isoOrNone m.ts
  fields := [("direction", .str m.direction), ("channel", .str m.channel),
    ("status", optional m.status)]

def ActivityRow.ts (act : ActivityRow) : Option Datetime := act.activityDate.or act.createdAt

def activityEvent (act : ActivityRow) : Event where
  type := "campaign_activity"
  createdAt := isoOrNone act.ts
  fields := [("activity_type", optional act.activityType),
    ("activity_label", optional act.activityLabel), ("channel", optional act.channel),
    ("subject", optional act.subject), ("source", .str act.source),
    ("execution_mode", .str act.executionMode)]

/-- The sort key. -/
def Event.key (e : Event) : String := Py.orText e.createdAt ""

def buildTimeline (userId : Int) (db : Tables) : List Event :=
  let events := (db.outreachHistory.filter (·.userId = userId)).map outreachEvent
  let events := events ++ (db.stateTransitionLog.filter (·.userId = userId)).map transitionEvent
  let events := events ++ (db.studentNotes.filter (·.userId = userId)).map noteEvent
  let events := events ++ (db.aiInsights.filter (·.userId = userId)).map insightEvent
  let events := events ++ (db.ghlMessages.filter (·.userId = some userId)).map messageEvent
  let events := events ++
    (db.studentCampaignActivity.filter (·.studentUserId = userId)).map activityEvent
  ranked Event.key events

/-- A row of one of the contributing tables. -/
inductive Source
  | outreach (row : OutreachRow)
  | transition (row : TransitionRow)
  | note (row : NoteRow)
  | insight (row : InsightRow)
  | message (row : MessageRow)
  | activity (row : ActivityRow)

namespace Source

def userId : Source → Option Int
  | outreach row => some row.userId
  | transition row => some row.userId
  | note row => some row.userId
  | insight row => some row.userId
  | message row => row.userId
  | activity row => some row.studentUserId

def date : Source → Option Datetime
  | outreach row => row.createdAt
  | transition row => row.createdAt
  | note row => row.createdAt
  | insight row => row.createdAt
  | message row => row.ts
  | activity row => row.ts

def event : Source → Event
  | outreach row => outreachEvent row
  | transition row => transitionEvent row
  | note row => noteEvent row
  | insight row => insightEvent row
  | message row => messageEvent row
  | activity row => activityEvent row

def key (s : Source) : String := (isoOrNone s.date).getD ""

theorem event_key (s : Source) : s.event.key = s.key := by
  have hdate : s.event.createdAt = isoOrNone s.date := by cases s <;> rfl
  rw [Event.key, key, hdate]
  cases isoOrNone s.date with
  | none => rfl
  | some text =>
    rw [Py.orText, Option.getD_some]
    split_ifs with h
    · exact h.symm
    · rfl

/-- The newer row first; a row without a date follows every row with one. -/
def NotOlder (s s' : Source) : Prop :=
  match s.date, s'.date with
  | some d, some d' => d'.instant ≤ d.instant
  | none, some _ => False
  | _, none => True

/-- The order of the texts is the order of time. -/
theorem notOlder_of_key_le (h : s'.key ≤ s.key) : NotOlder s s' := by
  rw [key, key, isoOrNone, isoOrNone] at h
  rw [NotOlder]
  cases hd' : s'.date with
  | none => cases s.date <;> exact trivial
  | some d' =>
    rw [hd'] at h
    cases hd : s.date with
    | none =>
      rw [hd] at h
      exact absurd (Datetime.empty_lt_isoformat d') (not_lt.2 h)
    | some d =>
      rw [hd] at h
      by_contra hlt
      exact absurd (Datetime.isoformat_lt (not_le.1 hlt)) (not_lt.2 h)

end Source

def Tables.sources (db : Tables) : List Source :=
  db.outreachHistory.map .outreach ++ db.stateTransitionLog.map .transition ++
    db.studentNotes.map .note ++ db.aiInsights.map .insight ++ db.ghlMessages.map .message ++
    db.studentCampaignActivity.map .activity

def Tables.sourcesOf (userId : Int) (db : Tables) : List Source :=
  db.sources.filter (·.userId = some userId)

theorem buildTimeline_eq (userId : Int) (db : Tables) :
    buildTimeline userId db = (ranked Source.key (db.sourcesOf userId)).map Source.event := by
  rw [map_ranked Source.event Event.key Source.event_key, buildTimeline, Tables.sourcesOf,
    Tables.sources]
  simp only [List.filter_append, List.map_append, List.filter_map, List.map_map]
  congr 1
  simp only [Function.comp_def, Source.userId, Source.event, Option.some.injEq]
  rfl

/-- Every row of the student gives one event, and the events stand newest first. -/
theorem buildTimeline_complete_ordered (userId : Int) (db : Tables) :
    ∃ sources : List Source, sources.Perm (db.sourcesOf userId) ∧
      buildTimeline userId db = sources.map Source.event ∧ sources.Pairwise Source.NotOlder := by
  have hsorted : (ranked Source.key (db.sourcesOf userId)).Pairwise fun s s' => s'.key ≤ s.key :=
    ranked_pairwise (db.sourcesOf userId)
  exact ⟨ranked Source.key (db.sourcesOf userId), ranked_perm _, buildTimeline_eq userId db,
    hsorted.imp Source.notOlder_of_key_le⟩

end StudentTimeline
end StudentSuccess
