import StudentSuccess.Segmentation

namespace StudentSuccess
namespace LifecycleTabs
set_option autoImplicit true
open Calendar (microsPerDay)
open Snapshot (hasText)

/-- The clocks of one moment, that of UTC and the server's own. -/
structure Clock where
  /-- `datetime.now(tz=timezone.utc)`. -/
  utc : Instant
  /-- `datetime.now()`, whose day `date.today()` is. -/
  wall : Instant

inductive Tab
  | newcomers
  | capHopefuls
  | launchHopefuls
  | placementHopefuls
  deriving DecidableEq, Repr

def Tab.text : Tab → String
  | .newcomers => "newcomers"
  | .capHopefuls => "cap_hopefuls"
  | .launchHopefuls => "launch_hopefuls"
  | .placementHopefuls => "placement_hopefuls"

def Tab.segment : Tab → String
  | .newcomers => "NEWCOMERS"
  | .capHopefuls => "CAP_HOPEFULS"
  | .launchHopefuls => "LAUNCH_HOPEFULS"
  | .placementHopefuls => "PLACEMENT_HOPEFULS"

/-- `column >= cutoff`, ninety days before the server's clock. -/
def sinceCutoff (clock : Clock) (column : Option Instant) : Bool :=
  column.any fun start => clock.wall ≤ start + 90 * microsPerDay

def above (atLeast : Rat) (column : Option Rat) : Bool := column.any (atLeast < ·)

/-- `column.ilike("%…%")`. -/
def ilike (text : String) (column : Option String) : Bool :=
  column.any fun value => hasText text.toLower value.toLower

def inSection (text : String) (student : MirrorColumns) : Bool :=
  student.ipbcStartDate.isSome && above 70 student.attendancePercentage &&
    ilike text student.lastActivitySection

def lists (clock : Clock) (student : MirrorColumns) : Tab → Bool
  | .newcomers =>
    (student.ipbcStartDate.isSome && sinceCutoff clock student.ipbcStartDate) ||
      (student.ipbcStartDate.isNone && student.studentStartDate.isSome &&
        sinceCutoff clock student.studentStartDate)
  | .capHopefuls => student.attendancePercentage.isSome && above 50 student.attendancePercentage
  | .launchHopefuls => inSection "CAP Project" student
  | .placementHopefuls => inSection "Launch" student

/-- The `limit` that the endpoints admit. -/
structure TabLimit where
  limit : Nat
  pos : 1 ≤ limit
  le : limit ≤ 5000

structure TabResponse where
  tab : Tab
  total : Nat
  rows : List StudentTriggerData

/-- The endpoint of the tab; `listing` is the mirror in the order that the database lists it. -/
def lifecycleTab (clock : Clock) (tab : Tab) (limit : TabLimit)
    (listing : List StudentTriggerData) : TabResponse :=
  let rows := (listing.filter fun student => lists clock student.toMirrorColumns tab).take
    limit.limit
  ⟨tab, rows.length, rows⟩

end LifecycleTabs
end StudentSuccess
