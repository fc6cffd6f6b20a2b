import StudentSuccess.Warehouse
import StudentSuccess.ManualAction
import StudentSuccess.PyFloat
import StudentSuccess.PyTime

namespace StudentSuccess
namespace Report
set_option autoImplicit true
open Calendar (Day Month)

/-- `ORDER BY snapshot_month DESC`. -/
def newestFirst (rows : List StudentSnapshots) : List StudentSnapshots :=
  rows.insertionSort fun r r' => r'.snapshotMonth.index ≤ r.snapshotMonth.index

structure TrendData where
  hwVelocity : List (Month × Option Int)
  efficiencyTrend : List (Month × Option Rat)
  attendanceTrend : List (Month × Option Rat)
  balanceTrend : List (Month × Option Rat)
  sectionProgression : List (Month × Option String)
  submissionMomentum : String
  monthsOfData : Nat

def deriveSubmissionMomentum : List StudentSnapshots → String
  | curr :: prev :: _ =>
    match curr.lastActivityDays, prev.lastActivityDays with
    | some curr, some prev =>
      if curr - prev < -3 then "IMPROVING"
      else if curr - prev > 3 then "DECLINING"
      else "STABLE"
    | _, _ => "INSUFFICIENT_DATA"
  | _ => "INSUFFICIENT_DATA"

def loadTrendData (w : Warehouse) (studentId : Int) (reportMonth : Month) : TrendData :=
  let history := (newestFirst (w.studentSnapshots.rows.filter fun r =>
    r.studentId = studentId && r.finalized && r.snapshotMonth.index ≤ reportMonth.index)).take 3
  { hwVelocity := history.map fun r => (r.snapshotMonth, r.hwsBehind)
    efficiencyTrend := history.map fun r => (r.snapshotMonth, r.avgEffRating)
    attendanceTrend := history.map fun r => (r.snapshotMonth, r.attendancePercentage)
    balanceTrend := history.map fun r => (r.snapshotMonth, r.actualBalance)
    sectionProgression := history.map fun r => (r.snapshotMonth, r.currentSection)
    submissionMomentum := deriveSubmissionMomentum history
    monthsOfData := history.length }

/-- The `WHERE` of the report's queries: the end of the month is excluded. -/
def inWindow (month : Month) (t : Instant) : Bool := month.start ≤ t && t < month.stop

/-- The rows of `load_outreach_intelligence`. -/
def outreachRows (platform : Platform) (studentId : Int) (month : Month) : List OutreachHistory :=
  orderBy (·.createdAt) (platform.outreachHistory.rows.filter fun r =>
    r.userId = studentId && inWindow month r.createdAt)

def answeredStates : List OutreachState := [.responded, .analyzed, .resolved]

def answered (r : OutreachHistory) : Bool := r.stateAfter.any (answeredStates.contains ·)

/-- One more record in the statistics of its channel. -/
def countRecord (stats : List (String × ChannelStats)) (r : OutreachHistory) :
    List (String × ChannelStats) :=
  let ch := Py.orText r.channel "UNKNOWN"
  let before := (Py.get? ch stats).getD {}
  Py.setItem ch
    { before with
      attempts := before.attempts + 1
      responses := before.responses + if answered r then 1 else 0 } stats

def ChannelStats.rated (stats : ChannelStats) : ChannelStats :=
  { stats with
    responseRate :=
      if stats.attempts = 0 then 0
      else Py.roundFloat (Py.divFloat stats.responses stats.attempts) 3 }

def computeAvgDaysToResponse (contacted responded : List Py.DateTime) :
    Except Py.Error (Option Int) :=
  match contacted, responded with
  | first :: contacted, responded@(_ :: _) => do
    let firstContact ← Py.minDateTime first contacted
    match ← Py.notBefore firstContact responded with
    | [] => return none
    | response :: responses =>
      let firstResponse ← Py.minDateTime response responses
      let delta ← firstResponse.sub (.aware firstContact.utc)
      return some (max 0 (Py.timedeltaDays delta))
  | _, _ => .ok none

def times (rows : List OutreachHistory) : List Py.DateTime := rows.map fun r => .aware r.createdAt

def loadOutreachIntelligence (platform : Platform) (studentId : Int) (month : Month) :
    Except Py.Error OutreachIntelligence := do
  let records := outreachRows platform studentId month
  let stats := (records.foldl countRecord []).map fun (ch, stats) => (ch, stats.rated)
  let totalAtt : Nat := (stats.map fun (_, stats) => stats.attempts).sum
  let totalResp : Nat := (stats.map fun (_, stats) => stats.responses).sum
  let fatigueScore : Int := totalAtt - totalResp
  let avgDays ← computeAvgDaysToResponse
    (times (records.filter (·.stateAfter = some .contacted))) (times (records.filter answered))
  return {
    channelResponseRates := stats
    totalAttempts := totalAtt
    totalResponses := totalResp
    fatigueScore := fatigueScore
    fatigueFlag := fatigueScore ≥ 3 && totalResp = 0
    avgDaysToResponse := avgDays
    mostResponsiveChannel := (stats.argmax fun (_, stats) => stats.responseRate).map (·.1) }

/-- The state a transition reached, and when. -/
abbrev Reached := OutreachState × Py.DateTime

/-- The loop of `_compute_contact_response_delta`, after the first contact if there was one. -/
def contactResponseDelta (contactedAt : Option Py.DateTime) : List Reached → Option Int
  | [] => none
  | (toState, createdAt) :: rest =>
    let contactedAt :=
      if toState = .contacted ∧ contactedAt = none then some createdAt else contactedAt
    match contactedAt with
    | some contact =>
      if toState = .responded ∨ toState = .analyzed then
        some (max 0 (Py.timedeltaDays (createdAt.utc - contact.utc)))
      else contactResponseDelta contactedAt rest
    | none => contactResponseDelta contactedAt rest

def computeContactResponseDelta (transitions : List Reached) : Option Int :=
  contactResponseDelta none transitions

def computeSegmentTenure (w : Warehouse) (studentId : Int) : Nat × Option String :=
  let rows := (newestFirst (w.studentSnapshots.rows.filter fun r =>
    r.studentId = studentId && r.finalized)).take 6
  match rows with
  | [] => (0, none)
  | newest :: _ =>
    let currentSeg := newest.segmentClassification
    (rows.countP (·.segmentClassification = currentSeg), currentSeg)

def loadLifecyclePatterns (platform : Platform) (w : Warehouse) (studentId : Int) :
    LifecyclePatterns :=
  let transitions := orderBy (·.createdAt)
    (platform.stateTransitionLog.rows.filter (·.userId = studentId))
  let current := latestTracking platform.toDb studentId
  let (segmentTenure, currentSegment) := computeSegmentTenure w studentId
  { currentLifecycleState := current.map (·.state)
    currentAttemptNumber := current.map (·.currentAttempt)
    lastContactAt := current.bind (·.lastContactAt)
    nextRetryAt := current.bind (·.nextRetryAt)
    totalStateTransitions := transitions.length
    interventionCycleCount := transitions.countP (·.toState = .interventionRequired)
    daysFirstContactToResponse :=
      computeContactResponseDelta (transitions.map fun t => (t.toState, .aware t.createdAt))
    segmentTenureMonths := segmentTenure
    currentSegment := currentSegment }

def buildAcademicTrends (trendData : TrendData) : AcademicTrends where
  hwVelocity := trendData.hwVelocity
  efficiencyTrend := trendData.efficiencyTrend
  sectionProgression := trendData.sectionProgression
  submissionMomentum := trendData.submissionMomentum
  monthsOfData := trendData.monthsOfData

def buildEngagementDepth (snap : StudentSnapshots) (trendData : TrendData) : EngagementDepth :=
  let loginDays := snap.lastLoginDays.getD 0
  let activityDays := snap.lastActivityDays.getD 0
  let gap := loginDays - activityDays
  { loginSubmissionGap := gap
    gapInterpretation :=
      if gap > 5 then "ACTIVE_NON_SUBMITTER"
      else if activityDays > 14 then "INACTIVE"
      else "ENGAGED"
    peakActivityLogins10d := snap.past10DaysLogon
    activityPattern :=
      if activityDays > 14 then "INACTIVE"
      else if gap > 5 then "ACTIVE_NON_SUBMITTER"
      else if loginDays ≤ 1 ∧ activityDays ≤ 3 then "CONSISTENT"
      else "MODERATE"
    attendanceTrend := trendData.attendanceTrend }

def buildFinancialTrends (snap : StudentSnapshots) (trendData : TrendData) : FinancialTrends :=
  let classValue := snap.classValue.getD 0
  let totalPayments := snap.totalPayments.getD 0
  let totalCredits := snap.totalCredits.getD 0
  let classFeesPaid := snap.classFeesPaid.getD 0
  { balanceTrend := trendData.balanceTrend
    paymentBehavior :=
      if snap.isBundleDeal.getD false then "BUNDLE_DEAL"
      else if totalCredits > 0 then "PARTIAL_CREDIT"
      else if totalPayments ≥ classValue ∧ classValue > 0 then "FULLY_PAID"
      else if totalPayments > 0 then "INSTALLMENT"
      else "UNPAID"
    remainingAfterCredits :=
      max 0 (Py.subFloat (Py.subFloat classValue totalPayments) totalCredits)
    enrollmentFeeOnly := snap.feePaid.getD false && classFeesPaid = 0
    enrollmentFeePaid := snap.feePaid
    classFeesPaid := classFeesPaid
    totalCredits := totalCredits
    classValue := classValue }

end Report
end StudentSuccess
