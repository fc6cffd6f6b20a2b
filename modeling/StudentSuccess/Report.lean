import StudentSuccess.ReportHelpers
import StudentSuccess.Snapshot

namespace StudentSuccess
namespace Report
set_option autoImplicit true
open Calendar (Month)
open Snapshot (callUuid)

def templateVersion : String := "1.2"

/-- What a call takes from outside the database: `uuid.UUID` and the SHA-256 digest, the clock
when the content is made and when the row is written, and a fresh UUID. -/
structure Call where
  parseUuid : String → Option String
  sha256 : String → String
  generatedAt : Instant
  now : Instant
  uuid : Uuid

/-- The columns that `_load_finalized_snapshot` selects; `ss_past_10_days_logon`, which the section
on engagement asks for, is not one of them. -/
def selected (snap : StudentSnapshots) : StudentSnapshots :=
  { snap with
    correlationId := none
    past10DaysLogon := none
    classSignupsId := none
    studentStartDate := none
    classStartDate := none }

/-- The snapshot that `_load_finalized_snapshot` finds, and its narratives. -/
structure LoadedSnapshot where
  snapshot : StudentSnapshots
  texts : NarrativeType → Option String

def narrativesOf (w : Warehouse) (snapshotId : Nat) : Option SnapshotAiNarratives :=
  w.snapshotAiNarratives.rows.find? (·.snapshotId = snapshotId)

/-- `_load_finalized_snapshot`; a snapshot has one lineage version at most that is finalized. -/
def loadFinalizedSnapshot (w : Warehouse) (studentId : Int) (month : Month) :
    Option LoadedSnapshot :=
  (w.finalizedSnapshot studentId month).map fun snapshot =>
    { snapshot := snapshot
      texts := fun type => (narrativesOf w snapshot.id).bind (·.texts type) }

/-- `_load_state_transitions_from_snapshot`. -/
def stateTransitions (platform : Platform) (studentId : Int) (month : Month) :
    List StateTransitionLog :=
  orderBy (·.createdAt) (platform.stateTransitionLog.rows.filter fun r =>
    r.userId = studentId && inWindow month r.createdAt)

def toTransition (r : StateTransitionLog) : Transition where
  transitionDate := r.createdAt
  fromState := r.fromState
  toState := r.toState
  trigger := r.trigger
  actor := r.actor
  correlationId := r.correlationId
  executionMode := r.executionMode

def deriveRiskLevel (snap : StudentSnapshots) : String :=
  let hws := snap.hwsBehind.getD 0
  let inactivity := snap.lastActivityDays.getD 0
  if hws ≥ 3 ∨ inactivity > 14 then "HIGH"
  else if hws ≥ 1 ∨ inactivity > 7 then "MEDIUM"
  else "LOW"

def noNarrative : String := "No narrative available at time of finalization."

/-- The types of insight that make content available. -/
def contentTypes : List NarrativeType :=
  [.riskSummary, .progressSummary, .monthlyNarrative, .interventionRecommendation]

def aiNarratives (texts : NarrativeType → Option String) : AiNarratives :=
  let available := contentTypes.any fun type => Py.truthyText (texts type)
  { texts := fun type => Py.orText (texts type) noNarrative
    aiGovernanceTier := if available then "FINALIZED_COPY" else "UNAVAILABLE"
    aiContentAvailable := available }

/-- `a or b`, of two optional texts. -/
def orElse (a b : Option String) : Option String := if Py.truthyText a then a else b

def fullName (snap : StudentSnapshots) : String :=
  Py.strip (snap.firstName.getD "" ++ " " ++ snap.lastName.getD "")

def buildReportContent (loaded : LoadedSnapshot) (stateHistory : List Transition)
    (generatedAt : Instant) (lineageVersion : Int) (trendData : TrendData)
    (outreachIntel : OutreachIntelligence) (lifecycle : LifecyclePatterns) : ReportContent :=
  let snap := selected loaded.snapshot
  { reportVersion := templateVersion
    studentId := snap.studentId
    snapshotMonth := snap.snapshotMonth
    generatedAt := generatedAt
    lineageVersion := lineageVersion
    identity :=
      { fullName := fullName snap
        userId := snap.studentId
        email := snap.email
        phone := snap.phoneNumber
        programPath := snap.pathName
        ipbcStartDate := snap.ipbcStartDate.map dayOf
        weeksInProgram := snap.weeksInProgram }
    riskPriority :=
      { riskLevel := deriveRiskLevel snap
        paymentRiskLabel := Py.orText snap.paymentRiskLabel "UNKNOWN"
        segmentClassification := snap.segmentClassification }
    academicPerformance :=
      { hwsBehind := snap.hwsBehind
        avgEffRating := snap.avgEffRating
        hwSubmittedDaysAgo := snap.daysSinceLastSubmission
        attendancePct := snap.attendancePercentage
        activeStatus := Py.orText snap.activeStatus "Unknown"
        currentSection := snap.currentSection
        statusI := snap.statusI
        statusII := snap.statusII }
    academicTrends := buildAcademicTrends trendData
    engagement :=
      { lastActivityDays := snap.lastActivityDays
        lastLoginDays := snap.lastLoginDays
        currentClassName := orElse snap.className snap.currentSection
        lastActivitySection := snap.lastActivitySection
        lastSubmitted := snap.lastSubmitted }
    engagementDepth := buildEngagementDepth snap trendData
    financial :=
      { classValue := snap.classValue
        totalPayments := snap.totalPayments
        totalCredits := snap.totalCredits
        paymentBalanceStored := snap.paymentBalance
        actualBalance := snap.actualBalance
        feePaid := snap.feePaid
        classFeesPaid := snap.classFeesPaid
        isBundleDeal := snap.isBundleDeal }
    financialTrends := buildFinancialTrends snap trendData
    outreachSummary :=
      { totalAttempts := snap.totalOutreachAttempts.getD 0
        channelsUsed := snap.channelBreakdown.getD []
        lastContactDate := snap.lastContactDate
        daysSinceLastContact := snap.daysSinceLastContact
        totalResponses := snap.totalResponses.getD 0
        responseReceived := snap.totalResponses.getD 0 != 0 }
    outreachIntelligence := outreachIntel
    lifecyclePatterns := lifecycle
    aiNarratives := aiNarratives loaded.texts
    stateHistory := stateHistory
    governanceMetadata :=
      { snapshotId := snap.id
        snapshotMonth := snap.snapshotMonth
        lifecycleState := snap.status
        fingerprintSchemaVersion := snap.fingerprintSchemaVersion
        fingerprintConfigRegistryVersion := snap.fingerprintConfigRegistryVersion
        fingerprintReportTemplateVersion := snap.fingerprintReportTemplateVersion
        fingerprintComputedAt := snap.fingerprintComputedAt
        executionModeAtFinalization := snap.executionMode
        reportGeneratedDate := generatedAt
        reportLineageVersion := lineageVersion } }

/-- A number with leading zeros. -/
def padded (width n : Nat) : String :=
  let digits := (toString n).toList
  String.ofList (List.replicate (width - digits.length) '0' ++ digits)

/-- `str(date(year, month, 1))`. -/
def monthText (month : Month) : String :=
  padded 4 month.year ++ "-" ++ padded 2 month.month ++ "-01"

/-- The text that the idempotency key is the hash of. -/
def keyText (studentId : Int) (month : Month) (lineageVersion : Int) : String :=
  "student:" ++ toString studentId ++ "|month:" ++ monthText month ++ "|lineage:" ++
    toString lineageVersion ++ "|template:" ++ templateVersion

def reportIdempotencyKey (sha256 : String → String) (studentId : Int) (month : Month)
    (lineageVersion : Int) : String :=
  ((sha256 (keyText studentId month lineageVersion)).take 48).toString

structure ReportArgs where
  studentId : Int
  snapshotMonth : Month
  executionMode : String := "SHADOW"
  correlationId : Option String := none

def ReportArgs.publication (args : ReportArgs) (lineageVersion : Int) : String × Month × Int :=
  (toString args.studentId, args.snapshotMonth, lineageVersion)

/-- The columns that `_insert_monthly_report` sets when the report is there already. -/
def refresh (content : ReportContent) (snapshotId : Nat) (key : String) (now : Instant)
    (r : MonthlyReports) : MonthlyReports :=
  { r with
    reportContent := some content
    templateVersion := templateVersion
    reportIdempotencyKey := key
    generatedAt := some now
    publishedAt := some now
    sourceSnapshotFingerprint := some snapshotId }

def freshReport (args : ReportArgs) (content : ReportContent) (snapshotId : Nat)
    (lineageVersion : Int) (key correlationId : String) (now : Instant) (id : Nat) :
    MonthlyReports where
  id := id
  cohortId := toString args.studentId
  reportMonth := args.snapshotMonth
  templateVersion := templateVersion
  lineageVersion := lineageVersion
  status := "REPORT_PUBLISHED"
  reportIdempotencyKey := key
  sourceSnapshotFingerprint := some snapshotId
  reportContent := some content
  generatedAt := some now
  publishedAt := some now
  generatedBy := some "report_service"
  correlationId := some correlationId
  executionMode := args.executionMode

/-- `_insert_monthly_report`: the `UPDATE`, or the `INSERT … ON CONFLICT DO NOTHING`, or the row
that has the key. -/
def insertMonthlyReport (call : Call) (w : Warehouse) (args : ReportArgs) (snapshotId : Nat)
    (content : ReportContent) (lineageVersion : Int) : Except Py.Error (Warehouse × Nat) := do
  let key := reportIdempotencyKey call.sha256 args.studentId args.snapshotMonth lineageVersion
  let correlationId ← callUuid call.parseUuid call.uuid args.correlationId
  match hpublished : w.publishedReport (args.publication lineageVersion) with
  | some existing =>
    if hkey : ∀ r ∈ w.monthlyReports.rows, r.id ≠ existing.id → r.reportIdempotencyKey ≠ key then
      let w' := w.updateReport existing.id (refresh content snapshotId key call.now)
        (fun _ => ⟨rfl, rfl, rfl⟩) fun _ _ _ => hkey
      return (w', existing.id)
    else throw .integrityError
  | none =>
    match hkey : w.reportByKey key with
    | some existing => return (w, existing.id)
    | none =>
      let w' := w.insertReport
        (freshReport args content snapshotId lineageVersion key correlationId call.now)
        (fun _ => rfl) (fun _ => w.reportByKey_eq_none_iff.1 hkey)
        fun _ => w.publishedReport_eq_none_iff.1 hpublished
      return (w', w.monthlyReports.nextId)

inductive ReportResult
  | error (message : String)
  | ok (reportId : Nat) (executionMode : String) (content : ReportContent)

def missingSnapshot (args : ReportArgs) : String :=
  "No FINALIZED snapshot for student " ++ toString args.studentId ++ " month " ++
    monthText args.snapshotMonth ++ ". Run POST /reports/snapshots/assemble first."

/-- `snap.get("lineage_version") or 1`. -/
def lineageOf (snap : StudentSnapshots) : Int :=
  if snap.lineageVersion = 0 then 1 else snap.lineageVersion

def reportContent (platform : Platform) (call : Call) (w : Warehouse) (args : ReportArgs)
    (loaded : LoadedSnapshot) : Except Py.Error ReportContent := do
  let month := args.snapshotMonth
  let stateHistory := (stateTransitions platform args.studentId month).map toTransition
  let trendData := loadTrendData w args.studentId month
  let outreachIntel ← loadOutreachIntelligence platform args.studentId month
  let lifecycle := loadLifecyclePatterns platform w args.studentId
  return buildReportContent loaded stateHistory call.generatedAt (lineageOf loaded.snapshot)
    trendData outreachIntel lifecycle

def generateStudentReport (platform : Platform) (call : Call) (w : Warehouse)
    (args : ReportArgs) : Except Py.Error (Warehouse × ReportResult) :=
  match loadFinalizedSnapshot w args.studentId args.snapshotMonth with
  | none => .ok (w, .error (missingSnapshot args))
  | some loaded => do
    let content ← reportContent platform call w args loaded
    let (w', id) ← insertMonthlyReport call w args loaded.snapshot.id content
      (lineageOf loaded.snapshot)
    return (w', .ok id args.executionMode content)

structure CohortCounts where
  generated : Nat := 0
  errors : Nat := 0

def CohortCounts.add (counts : CohortCounts) : ReportResult → CohortCounts
  | .ok .. => { counts with generated := counts.generated + 1 }
  | .error _ => { counts with errors := counts.errors + 1 }

/-- The loop over the students; each report is committed before the next one is made. -/
def generateEach (platform : Platform) (calls : Int → Call) (args : Int → ReportArgs)
    (counts : CohortCounts) : List Int → Warehouse → Warehouse × Except Py.Error CohortCounts
  | [], w => (w, .ok counts)
  | sid :: rest, w =>
    match generateStudentReport platform (calls sid) w (args sid) with
    | .error e => (w, .error e)
    | .ok (w', result) => generateEach platform calls args (counts.add result) rest w'

/-- The students whose finalized snapshot for the month is in the segment. -/
def cohort (w : Warehouse) (cohortId : String) (month : Month) : List Int :=
  (w.studentSnapshots.rows.filter fun r =>
    r.snapshotMonth = month && r.finalized && r.segmentClassification = some cohortId).map
      (·.studentId)

def generateCohortReport (platform : Platform) (calls : Int → Call) (cohortId : String)
    (month : Month) (executionMode : String) (w : Warehouse) :
    Warehouse × Except Py.Error CohortCounts :=
  generateEach platform calls
    (fun sid => { studentId := sid, snapshotMonth := month, executionMode := executionMode })
    {} (cohort w cohortId month) w

end Report
end StudentSuccess
