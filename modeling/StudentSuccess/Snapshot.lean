import StudentSuccess.PyFloat
import StudentSuccess.Warehouse
import Mathlib.Data.List.Infix

namespace StudentSuccess
set_option autoImplicit true
open Calendar (Day Month)

/-- Bundle Deal fix: a zero balance under credits is computed anew. -/
def computeBalance (student : MirrorColumns) : Rat :=
  let totalPayments := student.totalPayments.getD 0
  let totalCredits := student.totalCredits.getD 0
  let classValue := student.classValue.getD 0
  let storedBalance := student.paymentBalance.getD 0
  if totalCredits > 0 ∧ storedBalance = 0 ∧ classValue > 0 then
    max 0 (Py.subFloat (Py.subFloat classValue totalPayments) totalCredits)
  else storedBalance

def paymentRiskLabel (actualBalance : Rat) : String :=
  if actualBalance > 1000 then "HIGH" else if actualBalance > 0 then "MEDIUM" else "CLEAR"

namespace Snapshot

def fingerprintSchemaVersion : String := "0003"

def reportTemplateVersion : String := "1.0"

/-- What a call reads from the clocks and the generator of UUIDs. -/
structure Call where
  /-- `date.today()`. -/
  today : Day
  /-- `datetime.now(timezone.utc)`. -/
  now : Instant
  /-- `now()` of the transaction that writes. -/
  transactionNow : Instant
  /-- `str(uuid.uuid4())`. -/
  uuid : Uuid

/-- `sub in s`. -/
def hasText (sub s : String) : Bool := decide (sub.toList <:+: s.toList)

def daysIn (today : Day) (start : Instant) : Int := (today : Int) - dayOf start

def classifySegment (today : Day) (student : MirrorColumns) : String :=
  let section_ := (student.currentSection.getD "").toLower
  if hasText "launch" section_ then "PLACEMENT_HOPEFULS"
  else if hasText "cap" section_ then "LAUNCH_HOPEFULS"
  else if student.attendancePercentage.getD 0 > 50 then "CAP_HOPEFULS"
  else
    match student.ipbcStartDate with
    | some start => if daysIn today start ≤ 90 then "NEWCOMERS" else "ENGAGEMENT"
    | none => "ENGAGEMENT"

def weeksInProgram (today : Day) (student : MirrorColumns) : Option Int :=
  student.ipbcStartDate.map fun start => daysIn today start / 7

/-- The `WHERE` of the assembly's queries: both bounds of the month are included. -/
def inWindow (month : Month) (t : Instant) : Bool := month.start ≤ t && t ≤ month.stop

def outreachRows (platform : Platform) (studentId : Int) (month : Month) : List OutreachHistory :=
  platform.outreachHistory.rows.filter fun r => r.userId = studentId && inWindow month r.createdAt

def campaignRows (platform : Platform) (studentId : Int) (month : Month) :
    List StudentCampaignActivity :=
  platform.campaignActivity.rows.filter fun r =>
    r.studentUserId = studentId && r.activityDate.any (inWindow month)

/-- `_get_state_transitions`. -/
def stateTransitions (platform : Platform) (studentId : Int) (month : Month) :
    List StateTransitionLog :=
  orderBy (·.createdAt) (platform.stateTransitionLog.rows.filter fun r =>
    r.userId = studentId && inWindow month r.createdAt)

structure OutreachSummary where
  total : Nat
  lastContact : Option Day
  daysSinceContact : Option Int
  breakdown : List (String × Nat)
  totalResponses : Nat

/-- One more attempt on the channel; an empty channel counts for none. -/
def countChannel (breakdown : List (String × Nat)) : Option String → List (String × Nat)
  | some channel =>
    if channel = "" then breakdown
    else Py.setItem channel ((Py.get? channel breakdown).getD 0 + 1) breakdown
  | none => breakdown

/-- `_get_outreach_summary`. -/
def outreachSummary (platform : Platform) (call : Call) (studentId : Int) (month : Month) :
    OutreachSummary :=
  let oh := outreachRows platform studentId month
  let ca := campaignRows platform studentId month
  let lastContact := (oh.map (·.createdAt) ++ ca.filterMap (·.activityDate)).max?
  { total := oh.length + ca.length
    lastContact := lastContact.map dayOf
    daysSinceContact := lastContact.map fun t => daysBetween call.now t
    breakdown := (oh.map (·.channel) ++ ca.map (·.channel)).foldl countChannel []
    totalResponses := oh.countP (·.stateAfter = some .responded) }

structure AiNarratives where
  texts : NarrativeType → Option String
  governanceTier : String
  available : Bool

def narrativeTypes : List NarrativeType :=
  [.riskSummary, .progressSummary, .monthlyNarrative, .interventionRecommendation,
    .sentimentAnalysis]

/-- `_get_ai_narratives`. -/
def aiNarratives (platform : Platform) (studentId : Int) : AiNarratives :=
  let available := narrativeTypes.any fun type => (latestInsight platform studentId type).isSome
  { texts := fun type => (latestInsight platform studentId type).bind (·.contentText)
    governanceTier := if available then "FINALIZED_COPY" else "UNAVAILABLE"
    available := available }

def monthLastDay (month : Month) : Day := month.next.firstDay - 1

/-- `_adjust_relative_fields`: the days counted from the capture, as of the end of the month. -/
def adjustRelativeFields (row : StudentMirrorHistory) (month : Month) : StudentState :=
  let offset : Int := (dayOf row.capturedAt : Int) - monthLastDay month
  if offset ≤ 0 then row.toStudentState
  else
    { row.toStudentState with
      lastActivityDays := max 0 (row.lastActivityDays - offset)
      lastLoginDays := row.lastLoginDays.map fun days => max 0 (days - offset) }

/-- `_get_student_for_month`. -/
def studentForMonth (platform : Platform) (studentId : Int) (month : Month) :
    Option StudentState :=
  match platform.mirrorHistory.find? (month, studentId) with
  | some row => some (adjustRelativeFields row month)
  | none => (platform.triggerdata.find? studentId).map (·.toStudentState)

structure AssembleArgs where
  studentId : Int
  snapshotMonth : Month
  executionMode : String := "SHADOW"
  configVersionId : Option String := none
  correlationId : Option String := none

inductive AssembleResult
  | exists (snapshotId : Nat)
  | error (message : String)
  | created (snapshotId : Nat) (segment paymentRisk : String) (aiAvailable : Bool)
      (executionMode : String)

/-- The row of `_insert_snapshot`. -/
def finalizedRow (platform : Platform) (call : Call) (args : AssembleArgs)
    (correlationId : String) (student : StudentState) (id : Nat) : StudentSnapshots :=
  let outreach := outreachSummary platform call args.studentId args.snapshotMonth
  let balance := computeBalance student.toMirrorColumns
  { student.toMirrorColumns with
    id := id
    studentId := args.studentId
    snapshotMonth := args.snapshotMonth
    status := "FINALIZED"
    lineageVersion := 1
    executionMode := args.executionMode
    correlationId := some correlationId
    hwsBehind := some student.hwsBehind
    avgEffRating := some student.avgEffRating
    lastActivityDays := some student.lastActivityDays
    segmentClassification := some (classifySegment call.today student.toMirrorColumns)
    paymentRiskLabel := some (paymentRiskLabel balance)
    actualBalance := some balance
    isBundleDeal := some (student.totalCredits.any (· > 0))
    weeksInProgram := weeksInProgram call.today student.toMirrorColumns
    daysSinceLastSubmission := some student.lastActivityDays
    totalOutreachAttempts := some outreach.total
    totalResponses := some outreach.totalResponses
    lastContactDate := outreach.lastContact
    daysSinceLastContact := outreach.daysSinceContact
    channelBreakdown := some outreach.breakdown
    fingerprintSchemaVersion := some fingerprintSchemaVersion
    fingerprintConfigRegistryVersion := some (Py.orText args.configVersionId "UNKNOWN_V0")
    fingerprintReportTemplateVersion := some reportTemplateVersion
    fingerprintComputedAt := some call.transactionNow
    finalizedAt := some call.transactionNow }

/-- The UUID of the call: the caller's, which `uuid.UUID` may refuse, or a fresh one. -/
def callUuid (parseUuid : String → Option String) (uuid : Uuid) (correlationId : Option String) :
    Except Py.Error String :=
  if Py.truthyText correlationId then
    match parseUuid (correlationId.getD "") with
    | some canonical => .ok canonical
    | none => .error .valueError
  else .ok uuid

/-- `assemble_snapshot`; `parseUuid` is `uuid.UUID`. -/
def assembleSnapshot (parseUuid : String → Option String) (platform : Platform) (call : Call)
    (w : Warehouse) (args : AssembleArgs) : Except Py.Error (Warehouse × AssembleResult) :=
  match hexists : w.finalizedSnapshot args.studentId args.snapshotMonth with
  | some existing => .ok (w, .exists existing.id)
  | none =>
    match studentForMonth platform args.studentId args.snapshotMonth with
    | none =>
      .ok (w, .error
        ("student " ++ toString args.studentId ++ " not found in ai_chatbot_triggerdata"))
    | some student => do
      let correlationId ← callUuid parseUuid call.uuid args.correlationId
      let narratives := aiNarratives platform args.studentId
      let row := finalizedRow platform call args correlationId student
      let w' := w.insertSnapshot row narratives.texts call.transactionNow (fun _ => rfl)
        fun _ => (w.finalizedSnapshot_eq_none_iff).1 hexists
      return (w', .created w.studentSnapshots.nextId
        (classifySegment call.today student.toMirrorColumns)
        (paymentRiskLabel (computeBalance student.toMirrorColumns)) narratives.available
        args.executionMode)

structure AssembleCounts where
  created : Nat := 0
  skippedExisting : Nat := 0
  errors : Nat := 0

def AssembleCounts.add (counts : AssembleCounts) : AssembleResult → AssembleCounts
  | .created .. => { counts with created := counts.created + 1 }
  | .exists _ => { counts with skippedExisting := counts.skippedExisting + 1 }
  | .error _ => { counts with errors := counts.errors + 1 }

/-- The loop over the students; each of them is committed before the next one. -/
def assembleEach (parseUuid : String → Option String) (platform : Platform) (calls : Int → Call)
    (args : Int → AssembleArgs) (counts : AssembleCounts) :
    List Int → Warehouse → Warehouse × Except Py.Error AssembleCounts
  | [], w => (w, .ok counts)
  | sid :: rest, w =>
    match assembleSnapshot parseUuid platform (calls sid) w (args sid) with
    | .error e => (w, .error e)
    | .ok (w', result) =>
      assembleEach parseUuid platform calls args (counts.add result) rest w'

def assembleAllActiveSnapshots (parseUuid : String → Option String) (platform : Platform)
    (calls : Int → Call) (month : Month) (executionMode : String)
    (configVersionId : Option String) (w : Warehouse) :
    Warehouse × Except Py.Error AssembleCounts :=
  assembleEach parseUuid platform calls
    (fun sid =>
      { studentId := sid
        snapshotMonth := month
        executionMode := executionMode
        configVersionId := configVersionId })
    {} (platform.triggerdata.rows.map (·.userId)) w

end Snapshot
end StudentSuccess
