import StudentSuccess.PyFloat
import StudentSuccess.Segmentation

namespace StudentSuccess
namespace Dashboard
set_option autoImplicit true
open Segmentation (classifyStudent)

def allSegments : List String :=
  ["NEWCOMERS", "HYPER_ACTIVE", "CAP_HOPEFULS", "LAUNCH_HOPEFULS", "PLACEMENT_HOPEFULS"]

/-- `counts[key] += 1`, of a count that starts at zero. -/
def countKey (counts : List (String × Nat)) (key : String) : List (String × Nat) :=
  Py.setItem key ((Py.get? key counts).getD 0 + 1) counts

/-- `segment_summary`; all the students are classified at one instant. -/
def segmentSummary (now : Instant) (students : List StudentState) : List (String × Nat) :=
  (students.flatMap (classifyStudent now)).foldl countKey (allSegments.map fun k => (k, 0))

/-- `s.CurrentSection or s.PathName or "Unknown"`. -/
def sectionOf (student : MirrorColumns) : String :=
  Py.orText student.currentSection (Py.orText student.pathName "Unknown")

def paymentBalance (student : MirrorColumns) : Rat := student.paymentBalance.getD 0

def logins (student : MirrorColumns) : Int := student.past10DaysLogon.getD 0

structure Averages where
  attendancePct : Rat
  efficiencyRating : Rat
  hwsBehind : Rat

structure Engagement where
  highEngagement : Nat
  lowEngagement : Nat
  hyperActiveCount : Nat

structure PaymentKpis where
  studentsWithBalance : Nat
  fullyPaid : Nat

structure Kpis where
  totalStudents : Nat
  averages : Averages
  engagement : Engagement
  payment : PaymentKpis
  segments : List (String × Nat)
  sections : List (String × Nat)
  executionMode : String

/-- The answers of `kpi_extended`: there are no KPIs of an empty mirror. -/
inductive KpiResponse
  | unsynced (totalStudents : Nat) (note : String)
  | kpis (kpis : Kpis)

/-- `round(sum / total, digits)`. -/
def average (sum : Rat) (total digits : Nat) : Rat := Py.roundFloat (Py.divFloat sum total) digits

def paymentKpis (students : List StudentTriggerData) : PaymentKpis where
  studentsWithBalance := students.countP fun s => paymentBalance s.toMirrorColumns > 0
  fullyPaid := students.countP fun s => paymentBalance s.toMirrorColumns = 0

/-- `GET /dashboard/kpi-extended`, of the rows of the mirror. -/
def kpiExtended (executionMode : String) (now : Instant) (students : List StudentTriggerData) :
    KpiResponse :=
  if students.isEmpty then
    .unsynced 0 "No students synced yet. Run SQL Server sync first."
  else
    let segCounts := segmentSummary now (students.map (·.toStudentState))
    .kpis
      { totalStudents := students.length
        averages :=
          { attendancePct := average
              (Py.sumFloat (students.map fun s => s.attendancePercentage.getD 0)) students.length 1
            efficiencyRating :=
              average (Py.sumFloat (students.map fun s => s.avgEffRating)) students.length 1
            hwsBehind := average ((students.map fun s => s.hwsBehind).sum : Int) students.length 2 }
        engagement :=
          { highEngagement := students.countP fun s => logins s.toMirrorColumns ≥ 7
            lowEngagement := students.countP fun s => logins s.toMirrorColumns < 3
            hyperActiveCount := (Py.get? "HYPER_ACTIVE" segCounts).getD 0 }
        payment := paymentKpis students
        segments := segCounts
        sections := (students.map fun s => sectionOf s.toMirrorColumns).foldl countKey []
        executionMode := executionMode }

end Dashboard
end StudentSuccess
