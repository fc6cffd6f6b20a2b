import StudentSuccess.Pagination
import StudentSuccess.Platform
import StudentSuccess.PyNumber

namespace StudentSuccess
namespace WorkQueue
set_option autoImplicit true
open Pagination

/-- `VALID_QUEUES`. -/
inductive Queue
  | allSource
  | untracked
  | eligible
  | contacted
  | intervention
  | retryDue
  | resolvedClosed
  deriving DecidableEq, Repr

def Queue.text : Queue → String
  | .allSource => "all_source"
  | .untracked => "untracked"
  | .eligible => "eligible"
  | .contacted => "contacted"
  | .intervention => "intervention"
  | .retryDue => "retry_due"
  | .resolvedClosed => "resolved_closed"

def Queue.all : List Queue :=
  [.allSource, .untracked, .eligible, .contacted, .intervention, .retryDue, .resolvedClosed]

def queueNamed (name : String) : Option Queue := Queue.all.find? (·.text = name)

structure StudentPriorityScore where
  level : String
  score : Rat
  recommendedAction : String
  reasonCodes : List String

/-- The points for the state of the tracking row. -/
def statePoints : Option OutreachState → List (Rat × String)
  | some .interventionRequired => [(20, "INTERVENTION_STATE")]
  | some .noResponse => [(10, "NO_RESPONSE_STATE")]
  | _ => []

/-- The points that `score_student` adds, with their codes; no student is an empty dict. -/
def scorePoints (student : Option StudentTriggerData) (tracking : Option (OutreachState × Int)) :
    List (Rat × String) :=
  let hws : Int := (student.map (·.hwsBehind)).getD 0
  let inactivity : Int := (student.map (·.lastActivityDays)).getD 0
  let eff : Option Rat := student.map (·.avgEffRating)
  let balance : Rat := (student.bind (·.paymentBalance)).getD 0
  let points : List (List (Rat × String)) := [
    if hws ≥ 3 then [(40, "HWS_BEHIND_HIGH_RISK")]
    else if hws ≥ 1 then [(20, "HWS_BEHIND_MODERATE")] else [],
    if inactivity > 14 then [(30, "INACTIVITY_HIGH_RISK")]
    else if inactivity > 7 then [(15, "INACTIVITY_MODERATE")] else [],
    if eff.any (· < 3) then [(20, "EFF_RATING_LOW")] else [],
    if balance > 0 then [(10, "PAYMENT_BALANCE_RISK")] else [],
    statePoints (tracking.map (·.1))]
  points.flatten

def scoreStudent (student : Option StudentTriggerData) (tracking : Option (OutreachState × Int)) :
    StudentPriorityScore :=
  let points := scorePoints student tracking
  let score := (points.map (·.1)).sum
  let (level, action) :=
    if score ≥ 60 then ("CRITICAL", "ESCALATE")
    else if score ≥ 40 then ("HIGH", "CONTACT_IMMEDIATELY")
    else if score ≥ 20 then ("MEDIUM", "SCHEDULE_OUTREACH")
    else ("LOW", "MONITOR")
  ⟨level, score, action, points.map (·.2)⟩

/-- A row of a queue; the instants stand for their ISO texts. -/
structure QueueRow where
  userId : Int
  name : String
  path : Option String
  hwsBehind : Option Int
  effRating : Option Rat
  inactivityDays : Option Int
  priorityScore : Rat
  priorityLevel : String
  recommendedAction : String
  reasonCodes : List String
  state : Option OutreachState
  attempts : Int
  lastContactAt : Option Instant
  nextRetryAt : Option Instant
  checkpointType : Option String

structure QueueResponse where
  queue : Queue
  total : Nat
  rows : List QueueRow

/-- The `limit` that the endpoint admits. -/
structure PageSize where
  limit : Nat
  pos : 1 ≤ limit
  le : limit ≤ 200

/-- The order in which the database lists the rows of the two tables to one request. -/
structure Listing (db : Platform) where
  source : List StudentTriggerData
  tracking : List StudentOutreachTracking
  source_perm : source.Perm db.triggerdata.rows
  tracking_perm : tracking.Perm db.tracking.rows

variable {db : Platform}

def fullName (student : StudentTriggerData) : String :=
  Py.strip (student.firstName.getD "" ++ " " ++ student.lastName.getD "")

def sourceRow (student : StudentTriggerData) : QueueRow :=
  let p := scoreStudent (some student) none
  { userId := student.userId
    name := Py.orText (some (fullName student)) ("#" ++ toString student.userId)
    path := student.pathName
    hwsBehind := some student.hwsBehind
    effRating := some student.avgEffRating
    inactivityDays := some student.lastActivityDays
    priorityScore := p.score
    priorityLevel := p.level
    recommendedAction := p.recommendedAction
    reasonCodes := p.reasonCodes
    state := none
    attempts := 0
    lastContactAt := none
    nextRetryAt := none
    checkpointType := student.pathName }

def trackingRow (source : Option StudentTriggerData) (t : StudentOutreachTracking) : QueueRow :=
  let p := scoreStudent source (some (t.state, t.currentAttempt))
  { userId := t.userId
    name := (source.map fullName).getD ("#" ++ toString t.userId)
    path := (source.map (·.pathName)).getD (some t.checkpointType)
    hwsBehind := source.map (·.hwsBehind)
    effRating := source.map (·.avgEffRating)
    inactivityDays := source.map (·.lastActivityDays)
    priorityScore := p.score
    priorityLevel := p.level
    recommendedAction := p.recommendedAction
    reasonCodes := p.reasonCodes
    state := some t.state
    attempts := t.currentAttempt
    lastContactAt := t.lastContactAt
    nextRetryAt := t.nextRetryAt
    checkpointType := some t.checkpointType }

/-- The `path` filter; the empty text filters nothing. -/
def onPath (path : Option String) (student : StudentTriggerData) : Bool :=
  !Py.truthyText path || student.pathName = path

def tracked (tracking : List StudentOutreachTracking) (userId : Int) : Bool :=
  tracking.any (·.userId = userId)

/-- `students` of `_source_queue`. -/
def sourceStudents (listing : Listing db) (queue : Queue) (path : Option String) :
    List StudentTriggerData :=
  (listing.source.filter (onPath path)).filter fun student =>
    queue ≠ .untracked || !tracked listing.tracking student.userId

/-- The `WHERE` of `_tracking_queue`. -/
def selected (queue : Queue) (now : Instant) (t : StudentOutreachTracking) : Bool :=
  match queue with
  | .eligible => t.state ∈ [OutreachState.eligible, .queued, .retry]
  | .contacted => t.state = .contacted
  | .intervention => t.state = .interventionRequired
  | .retryDue => t.state = .noResponse && t.nextRetryAt.any (· < now)
  | .resolvedClosed => t.state ∈ [OutreachState.resolved, .closed]
  | .allSource | .untracked => true

/-- `source_map.get(user_id)`. -/
def sourceOf (sources : List StudentTriggerData) (userId : Int) : Option StudentTriggerData :=
  sources.find? (·.userId = userId)

/-- A path filter leaves out the students that have no source. -/
def sourceOnPath (path : Option String) (source : Option StudentTriggerData) : Bool :=
  !Py.truthyText path || source.any (·.pathName = path)

/-- `rows` of `_tracking_queue`. -/
def trackingRows (listing : Listing db) (queue : Queue) (path : Option String) (now : Instant) :
    List QueueRow :=
  let rows := listing.tracking.filter (selected queue now)
  let userIds := rows.map (·.userId)
  let sources := listing.source.filter (·.userId ∈ userIds)
  (rows.filter fun t => sourceOnPath path (sourceOf sources t.userId)).map fun t =>
    trackingRow (sourceOf sources t.userId) t

/-- `rows` of the queue before they are sorted. -/
def queueRows (listing : Listing db) (queue : Queue) (path : Option String) (now : Instant) :
    List QueueRow :=
  if queue = .allSource ∨ queue = .untracked then
    (sourceStudents listing queue path).map sourceRow
  else trackingRows listing queue path now

/-- The sorted slice with the total. -/
def respond (queue : Queue) (rows : List QueueRow) (limit offset : Nat) : QueueResponse :=
  ⟨queue, rows.length, slice offset limit (ranked (·.priorityScore) rows)⟩

def sourceQueue (listing : Listing db) (queue : Queue) (path : Option String)
    (limit offset : Nat) : QueueResponse :=
  respond queue ((sourceStudents listing queue path).map sourceRow) limit offset

def trackingQueue (listing : Listing db) (queue : Queue) (path : Option String)
    (limit offset : Nat) (now : Instant) : QueueResponse :=
  if listing.tracking.filter (selected queue now) = [] then ⟨queue, 0, []⟩
  else respond queue (trackingRows listing queue path now) limit offset

def workQueueDetail (listing : Listing db) (now : Instant) (queueName : String)
    (path : Option String) (size : PageSize) (offset : Nat) :
    Except (String × String) QueueResponse :=
  match queueNamed queueName with
  | none =>
    .error ("INVALID_QUEUE", "queue_name must be one of: ['all_source', 'contacted', " ++
      "'eligible', 'intervention', 'resolved_closed', 'retry_due', 'untracked']")
  | some queue =>
    .ok (if queue = .allSource ∨ queue = .untracked then
      sourceQueue listing queue path size.limit offset
    else trackingQueue listing queue path size.limit offset now)

def workQueueSummary (db : Platform) (now : Instant) : Queue → Int :=
  let totalSource := db.triggerdata.rows.length
  let trackedIds := (db.tracking.rows.map (·.userId)).dedup
  let byState := fun state => db.tracking.rows.countP (·.state = state)
  fun
  | .allSource => totalSource
  | .untracked => totalSource - trackedIds.length
  | .eligible => byState .eligible + byState .queued + byState .retry
  | .contacted => byState .contacted
  | .intervention => byState .interventionRequired
  | .retryDue =>
    db.tracking.rows.countP fun t => t.state = .noResponse && t.nextRetryAt.any (· < now)
  | .resolvedClosed => byState .resolved + byState .closed

end WorkQueue
end StudentSuccess
