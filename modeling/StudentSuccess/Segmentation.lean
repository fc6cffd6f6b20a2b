import StudentSuccess.Snapshot

namespace StudentSuccess
namespace Segmentation
set_option autoImplicit true
open Snapshot (hasText)

/-- `_section`. -/
def sectionOf (student : MirrorColumns) : String :=
  Py.orText student.lastActivitySection
    (Py.orText student.currentSection (Py.orText student.pathName ""))

/-- `IPBCStartDate or StudentStartDate`. -/
def startOf (student : MirrorColumns) : Option Instant :=
  student.ipbcStartDate.or student.studentStartDate

/-- A segment of the list, if its rule holds. -/
def segmentIf (name : String) (rule : Bool) : List String := if rule then [name] else []

def newcomer (now : Instant) (student : MirrorColumns) : Bool :=
  (startOf student).any fun start => daysBetween now start ≤ 90

def hyperActive (student : StudentState) : Bool :=
  student.past10DaysLogon.getD 0 ≥ 7 && student.avgEffRating > 90

def attends (atLeast : Rat) (student : MirrorColumns) : Bool :=
  student.attendancePercentage.getD 0 > atLeast

/-- `classify_student`; a date without a zone is taken as UTC. -/
def classifyStudent (now : Instant) (student : StudentState) : List String :=
  segmentIf "NEWCOMERS" (newcomer now student.toMirrorColumns) ++
  segmentIf "HYPER_ACTIVE" (hyperActive student) ++
  segmentIf "CAP_HOPEFULS" (attends 50 student.toMirrorColumns) ++
  segmentIf "LAUNCH_HOPEFULS"
    (attends 70 student.toMirrorColumns &&
      hasText "CAP Project" (sectionOf student.toMirrorColumns)) ++
  segmentIf "PLACEMENT_HOPEFULS"
    (attends 70 student.toMirrorColumns && hasText "Launch" (sectionOf student.toMirrorColumns))

/-- `filter_by_role`; `columns` are those of a row. -/
def filterByRole (columns : ρ → MirrorColumns) (students : List ρ) (role : Option String)
    (section_ : Option String := none) : List ρ :=
  if role = some "Placement Team" then
    students.filter fun s =>
      hasText "Launch" (sectionOf (columns s)) || hasText "Placement" (sectionOf (columns s))
  else if role = some "Instructor" ∧ Py.truthyText section_ then
    students.filter fun s => hasText (section_.getD "") (sectionOf (columns s))
  else students

theorem filterByRole_sublist (columns : ρ → MirrorColumns) (students : List ρ)
    (role section_ : Option String) :
    (filterByRole columns students role section_).Sublist students := by
  rw [filterByRole]
  split
  · exact List.filter_sublist
  · split
    · exact List.filter_sublist
    · exact .refl _

end Segmentation
end StudentSuccess
