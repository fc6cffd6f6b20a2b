import StudentSuccess.Narratives
import StudentSuccess.Report
import StudentSuccess.Runs

namespace StudentSuccess
namespace Pipeline
set_option autoImplicit true
open Calendar (Month)
open Snapshot Report Narratives

/-- The cohorts that the finalization and the monthly job generate reports for. -/
def segments : List String :=
  ["NEWCOMERS", "ENGAGEMENT", "CAP_HOPEFULS", "LAUNCH_HOPEFULS", "PLACEMENT_HOPEFULS"]

/-- What a request finds outside the warehouse: the other tables, and the clocks of each
student's turn. -/
structure Surroundings where
  platform : Platform
  snapshotCall : Int → Snapshot.Call
  reportCall : Int → Report.Call
  parseUuid : String → Option String

/-- The cohort reports of the segments, up to the first one that raises. -/
def generateSegments (env : Surroundings) (month : Month) (executionMode : String) :
    List String → Warehouse → Warehouse
  | [], w => w
  | segment :: rest, w =>
    match generateCohortReport env.platform env.reportCall segment month executionMode w with
    | (w', .error _) => w'
    | (w', .ok _) => generateSegments env month executionMode rest w'

def finalizeReports (env : Surroundings) (month : Month) (executionMode : String)
    (w : Warehouse) : Warehouse :=
  generateSegments env month executionMode segments (backfill env.platform w)

def runMonthlyReports (env : Surroundings) (month : Month) (executionMode : String)
    (configVersionId : Option String) (w : Warehouse) : Warehouse :=
  match assembleAllActiveSnapshots env.parseUuid env.platform env.snapshotCall month
      executionMode configVersionId w with
  | (w', .error _) => w'
  | (w', .ok _) => generateSegments env month executionMode segments w'

/-- The requests that write the warehouse schema. -/
inductive Operation
  | assemble (args : AssembleArgs)
  | assembleAll (month : Month) (executionMode : String) (configVersionId : Option String)
  | backfillNarratives
  | finalizeReports (month : Month) (executionMode : String)
  | generateStudent (args : ReportArgs)
  | generateCohort (cohortId : String) (month : Month) (executionMode : String)
  | generateAll (month : Month) (executionMode : String)
  | monthlyRun (month : Month) (executionMode : String) (configVersionId : Option String)

structure Request where
  env : Surroundings
  operation : Operation

/-- The committed warehouse after a call that commits once, at its end. -/
def committed (w : Warehouse) : Except Py.Error (Warehouse × α) → Warehouse
  | .ok (w', _) => w'
  | .error _ => w

theorem committed_of {P : Warehouse → Prop} {x : Except Py.Error (Warehouse × α)} (hw : P w)
    (h : ∀ w' result, x = .ok (w', result) → P w') : P (committed w x) := by
  match x with
  | .error e => exact hw
  | .ok (w', result) => exact h w' result rfl

def serve (w : Warehouse) (request : Request) : Warehouse :=
  let env := request.env
  match request.operation with
  | .assemble args =>
    committed w
      (assembleSnapshot env.parseUuid env.platform (env.snapshotCall args.studentId) w args)
  | .assembleAll month executionMode configVersionId =>
    (assembleAllActiveSnapshots env.parseUuid env.platform env.snapshotCall month executionMode
      configVersionId w).1
  | .backfillNarratives => (backfillNarratives env.platform w).1
  | .finalizeReports month executionMode => finalizeReports env month executionMode w
  | .generateStudent args =>
    committed w (generateStudentReport env.platform (env.reportCall args.studentId) w args)
  | .generateCohort cohortId month executionMode =>
    (generateCohortReport env.platform env.reportCall cohortId month executionMode w).1
  | .generateAll month executionMode => generateSegments env month executionMode segments w
  | .monthlyRun month executionMode configVersionId =>
    runMonthlyReports env month executionMode configVersionId w

end Pipeline
end StudentSuccess
