import StudentSuccess.Worker
import StudentSuccess.FinalizedRows
import StudentSuccess.Runs

namespace StudentSuccess
namespace BatchCycle
set_option autoImplicit true

open Outreach GhlTransport
open Worker (WorkerEnv WorkerExecutionRecord coordinateWorkerExecution)

structure BatchRequest where
  checkpointType : String
  executionMode : String := "SHADOW"
  configVersionId : Option String := none
  attributionContext : Option (List (String × Option String)) := none

/-- What the worker takes from the process, and the fresh ids of a cycle. -/
structure BatchEnv where
  worker : WorkerEnv
  cycleCorrelationId : Uuid
  cycleId : Uuid
  studentCorrelationId : Int → Uuid
  jobId : Int → Uuid

structure StudentRecord where
  studentIdOpaque : Option String
  outcome : String
  governanceScope : String
  dispatchDelegated : Bool
  channel : Option String
  reasonCodes : List String
  executionBlocked : Bool

structure BatchSummary where
  cycleCorrelationId : String
  checkpointType : String
  executionMode : String
  configVersionId : String
  total : Nat
  processed : Nat := 0
  dispatchDelegated : Nat := 0
  suppressed : Nat := 0
  blocked : Nat := 0
  errors : Nat := 0
  studentRecords : List StudentRecord := []

/-- The state of the loop: the idempotency stores of the process, the summary, and the
coordination record of each student so far. -/
structure Cycle where
  orchestrationKeys : List String
  providerKeys : List String
  summary : BatchSummary
  coordinated : List (Int × OutreachCoordinationRecord) := []

def attributionOf (request : BatchRequest) (key default : String) : Option String :=
  (Py.get? key (request.attributionContext.getD [])).getD (some default)

/-- The columns of a student that the worker reads. -/
def studentDict (row : StudentTriggerData) : Student :=
  [("UserID", .int row.userId), ("Email", textValue row.email),
    ("PhoneNumber", textValue row.phoneNumber), ("PathName", textValue row.pathName),
    ("HWsBehind", .int row.hwsBehind), ("AvgEffRating", .float row.avgEffRating),
    ("LastActivityDays", .int row.lastActivityDays)]
where
  textValue : Option String → Py.Value
    | some s => .str s
    | none => .null

/-- `SELECT … WHERE PathName = checkpoint_type`. -/
def students (platform : Platform) (checkpointType : String) : List StudentTriggerData :=
  platform.triggerdata.rows.filter fun r => r.pathName = some checkpointType

/-- `scalar_one_or_none()`: a student has at most one row for a checkpoint. -/
def trackingOf (platform : Platform) (userId : Int) (checkpointType : String) :
    Option StudentOutreachTracking :=
  platform.tracking.rows.find? fun r => r.userId = userId ∧ r.checkpointType = checkpointType

def nextAttempt (tracking : Option StudentOutreachTracking) : Int :=
  (match tracking with
    | some row => row.currentAttempt
    | none => 0) + 1

def studentContext (env : BatchEnv) (request : BatchRequest) (row : StudentTriggerData)
    (attempt : Int) : OutreachOrchestrationContext where
  configVersionId := request.configVersionId
  executionMode := request.executionMode
  executionType := "original"
  correlationId := some (env.studentCorrelationId row.userId).1
  causationId := some env.cycleCorrelationId.1
  orchestrationCycleId := some env.cycleId.1
  originSource := attributionOf request "origin_source" "batch_worker"
  originAuthority := attributionOf request "origin_authority" "system"
  actorIdentity := attributionOf request "actor_identity" "batch_runner"
  studentIdOpaque := if row.userId ≠ 0 then some (toString row.userId) else none
  checkpointType := some request.checkpointType
  contactAttemptCount := attempt - 1

def BatchSummary.fail (summary : BatchSummary) : BatchSummary :=
  { summary with errors := summary.errors + 1, processed := summary.processed + 1 }

def BatchSummary.add (summary : BatchSummary) (exec : WorkerExecutionRecord) : BatchSummary :=
  let summary := { summary with processed := summary.processed + 1 }
  let summary :=
    if exec.dispatchDelegated then
      { summary with dispatchDelegated := summary.dispatchDelegated + 1 }
    else if exec.executionBlocked then { summary with blocked := summary.blocked + 1 }
    else { summary with suppressed := summary.suppressed + 1 }
  { summary with
    studentRecords := summary.studentRecords ++
      [{ studentIdOpaque := exec.studentIdOpaque
         outcome := exec.outcome
         governanceScope := exec.governanceScope
         dispatchDelegated := exec.dispatchDelegated
         channel := exec.channel
         reasonCodes := exec.reasonCodes
         executionBlocked := exec.executionBlocked }] }

def runStudent (env : BatchEnv) (platform : Platform) (request : BatchRequest) (cycle : Cycle)
    (row : StudentTriggerData) : Cycle :=
  let attempt := nextAttempt (trackingOf platform row.userId request.checkpointType)
  let ctx := studentContext env request row attempt
  let (orchestrationKeys, coordination) := coordinateOrchestrationCycle cycle.orchestrationKeys ctx
  let cycle := { cycle with orchestrationKeys := orchestrationKeys }
  match coordination with
  | .error _ => { cycle with summary := cycle.summary.fail }
  | .ok record =>
    let cycle := { cycle with coordinated := cycle.coordinated ++ [(row.userId, record)] }
    match coordinateWorkerExecution env.worker cycle.providerKeys (env.jobId row.userId).1 record
      (studentDict row) attempt with
    | .error _ => { cycle with summary := cycle.summary.fail }
    | .ok (providerKeys, exec) =>
      { cycle with providerKeys := providerKeys, summary := cycle.summary.add exec }

def startCycle (env : BatchEnv) (platform : Platform) (request : BatchRequest)
    (orchestrationKeys providerKeys : List String) : Cycle where
  orchestrationKeys := orchestrationKeys
  providerKeys := providerKeys
  summary :=
    { cycleCorrelationId := env.cycleCorrelationId.1
      checkpointType := request.checkpointType
      executionMode := request.executionMode
      configVersionId := Py.orText request.configVersionId "UNKNOWN_V0"
      total := (students platform request.checkpointType).length }

/-- `run_batch_cycle`, from the idempotency stores of the process. -/
def runBatchCycle (env : BatchEnv) (platform : Platform) (request : BatchRequest)
    (orchestrationKeys providerKeys : List String) : Cycle :=
  Runs.final (runStudent env platform request)
    (startCycle env platform request orchestrationKeys providerKeys)
    (students platform request.checkpointType)

/-- RULE 0 of the coordination, as far as it depends on the request. -/
def BatchGate (request : BatchRequest) : Prop :=
  request.executionMode ∈ validExecutionModes ∧ Py.truthyText request.configVersionId = true ∧
    Py.truthyText (attributionOf request "origin_source" "batch_worker") = true ∧
    Py.truthyText (attributionOf request "origin_authority" "system") = true ∧
    Py.truthyText (attributionOf request "actor_identity" "batch_runner") = true

instance : Decidable (BatchGate request) := inferInstanceAs (Decidable (_ ∧ _))

theorem gate_eq_nil_iff (keys : List String) (env : BatchEnv) (request : BatchRequest)
    (row : StudentTriggerData) (attempt : Int) :
    governancePreconditionGate keys (studentContext env request row attempt) = [] ↔
      BatchGate request := by
  have hcorrelation : Py.truthyText (some (env.studentCorrelationId row.userId).1) = true := by
    simp [Py.truthyText, (env.studentCorrelationId row.userId).2]
  have htype : "original" ∈ validExecutionTypes := by decide
  simp [governancePreconditionGate, hcorrelation, htype, BatchGate, studentContext]

/-- A binding of a context without a rule set is the sentinel. -/
theorem threshold_unset (hrules : ctx.configRuleSet = none)
    (h : key ∈ orchestrationThresholdKeys) :
    threshold (orchestrationBindings ctx) key = unknownV0 := by
  rw [orchestrationBindings, threshold_of_mem _ h, hrules]
  rfl

theorem not_bound_unknownV0 : bound unknownV0 = false := by
  decide

theorem evaluate_initiates (hrules : ctx.configRuleSet = none) (hstate : ctx.outreachState = none)
    (htier : ctx.aiGovernanceTier = none) :
    ∃ record, evaluate ctx = .ok record ∧ record.intentType = some "INITIATE_OUTREACH" := by
  have hsync : threshold (orchestrationBindings ctx) kSqlMaxSyncAgeHours = unknownV0 :=
    threshold_unset hrules (by decide)
  have hceiling : threshold (orchestrationBindings ctx) kOutreachMaxRetryAttempts = unknownV0 :=
    threshold_unset hrules (by decide)
  have hstale : staleSql ctx (orchestrationBindings ctx) = .ok false := by
    rw [staleSql, hsync]
    exact if_neg (not_bound_unknownV0 ▸ Bool.false_ne_true)
  have hretries : retriesExhausted ctx (orchestrationBindings ctx) = .ok false := by
    rw [retriesExhausted, hceiling]
    exact if_neg (not_bound_unknownV0 ▸ Bool.false_ne_true)
  have hintent : classifyIntent ctx (orchestrationBindings ctx) ctx.aiGovernanceTier =
      .ok .initiateOutreach := by
    rw [classifyIntent]
    rw [hretries, hstate, htier]
    rfl
  exact evaluate_eq_ok hstale hintent

/-- Whatever the student's state, the coordination initiates outreach when the gate passes. -/
def cycleIntent (request : BatchRequest) : Option String :=
  if BatchGate request then some "INITIATE_OUTREACH" else none

theorem coordinate_student (keys : List String) (env : BatchEnv) (request : BatchRequest)
    (row : StudentTriggerData) (attempt : Int) :
    ∃ keys' record,
      coordinateOrchestrationCycle keys (studentContext env request row attempt) =
        (keys', .ok record) ∧ record.intentType = cycleIntent request := by
  have hgate := gate_eq_nil_iff keys env request row attempt
  rw [coordinateOrchestrationCycle, cycleIntent]
  by_cases hbatch : BatchGate request
  · obtain ⟨record, hrecord, hintent⟩ : ∃ record,
        evaluate (studentContext env request row attempt) = .ok record ∧ _ :=
      evaluate_initiates rfl rfl rfl
    have hoff : ¬ (studentContext env request row attempt).maintenanceModeActive = true :=
      Bool.false_ne_true
    have htype : (studentContext env request row attempt).executionType ∉ replayTypes := by
      simp [studentContext, replayTypes]
    simp only [if_neg (not_not_intro (hgate.2 hbatch)), if_neg hoff, if_neg htype, hrecord,
      if_pos hbatch]
    exact ⟨_, record, rfl, hintent⟩
  · simp only [if_pos (mt hgate.1 hbatch), if_neg hbatch]
    exact ⟨_, _, rfl, rfl⟩

def Cycle.intents (cycle : Cycle) : List (Int × Option String) :=
  cycle.coordinated.map fun c => (c.1, c.2.intentType)

theorem runStudent_intents (env : BatchEnv) (platform : Platform) (request : BatchRequest)
    (cycle : Cycle) (row : StudentTriggerData) :
    (runStudent env platform request cycle row).intents =
      cycle.intents ++ [(row.userId, cycleIntent request)] := by
  obtain ⟨keys', record, hcoordinate, hintent⟩ := coordinate_student cycle.orchestrationKeys env
    request row (nextAttempt (trackingOf platform row.userId request.checkpointType))
  have happend : (cycle.coordinated ++ [(row.userId, record)]).map
      (fun c => (c.1, c.2.intentType)) = cycle.intents ++ [(row.userId, cycleIntent request)] := by
    rw [List.map_append, ← hintent]
    rfl
  rw [runStudent]
  simp only [hcoordinate]
  split
  · exact happend
  · exact happend

theorem final_intents (env : BatchEnv) (platform : Platform) (request : BatchRequest)
    (cycle : Cycle) (rows : List StudentTriggerData) :
    (Runs.final (runStudent env platform request) cycle rows).intents =
      cycle.intents ++ rows.map fun row => (row.userId, cycleIntent request) := by
  induction rows generalizing cycle with
  | nil => simp
  | cons row rows ih =>
    rw [Runs.final_cons, ih, runStudent_intents, List.map_cons, List.append_assoc]
    rfl

/-- A cycle coordinates every student of the checkpoint, with one intent for all. -/
theorem runBatchCycle_intents (env : BatchEnv) (platform : Platform) (request : BatchRequest)
    (keys keys' : List String) :
    (runBatchCycle env platform request keys keys').intents =
      (students platform request.checkpointType).map fun row =>
        (row.userId, cycleIntent request) :=
  final_intents env platform request _ _

/-- The student's row for the checkpoint is in a state that asks for no more outreach. -/
def Finished (platform : Platform) (request : BatchRequest) (userId : Int) : Prop :=
  ∃ row, trackingOf platform userId request.checkpointType = some row ∧
    row.state.text ∈ terminalStates

/-- The cycle leaves finished students alone and retries only those who did not answer. -/
structure SkipsFinished (platform : Platform) (request : BatchRequest) (cycle : Cycle) : Prop where
  finished : ∀ c ∈ cycle.intents, Finished platform request c.1 →
    c.2 ≠ some "INITIATE_OUTREACH" ∧ c.2 ≠ some "RETRY_OUTREACH"
  retried : ∀ c ∈ cycle.intents, c.2 = some "RETRY_OUTREACH" →
    ∃ row, trackingOf platform c.1 request.checkpointType = some row ∧ row.state = .noResponse

theorem skips_finished_iff (env : BatchEnv) (platform : Platform) (request : BatchRequest)
    (keys keys' : List String) :
    SkipsFinished platform request (runBatchCycle env platform request keys keys') ↔
      ¬ (BatchGate request ∧ ∃ row ∈ students platform request.checkpointType,
        Finished platform request row.userId) := by
  have hintents := runBatchCycle_intents env platform request keys keys'
  constructor
  · intro h hfailure
    obtain ⟨hgate, row, hrow, hfinished⟩ := hfailure
    have hmem : (row.userId, cycleIntent request) ∈
        (runBatchCycle env platform request keys keys').intents := by
      rw [hintents]
      exact List.mem_map_of_mem hrow
    exact (h.finished _ hmem hfinished).1 (if_pos hgate)
  · intro h
    have hmade : ∀ c ∈ (runBatchCycle env platform request keys keys').intents,
        ∃ row ∈ students platform request.checkpointType,
          c = (row.userId, cycleIntent request) := by
      intro c hc
      rw [hintents] at hc
      obtain ⟨row, hrow, heq⟩ := List.mem_map.1 hc
      exact ⟨row, hrow, heq.symm⟩
    constructor
    · intro c hc hfinished
      obtain ⟨row, hrow, rfl⟩ := hmade c hc
      have hblocked : ¬ BatchGate request := fun hgate => h ⟨hgate, row, hrow, hfinished⟩
      rw [cycleIntent, if_neg hblocked]
      exact ⟨Option.some_ne_none _ ∘ Eq.symm, Option.some_ne_none _ ∘ Eq.symm⟩
    · intro c hc hretry
      obtain ⟨row, -, rfl⟩ := hmade c hc
      have hne : cycleIntent request ≠ some "RETRY_OUTREACH" := by
        rw [cycleIntent]
        split_ifs <;> decide
      exact absurd hretry hne

def closedRow : StudentOutreachTracking where
  id := 1
  userId := 7
  checkpointType := "JRP"
  state := .closed
  currentAttempt := 2
  lastContactAt := none
  nextRetryAt := none
  correlationId := none
  executionMode := "SHADOW"
  updatedAt := 0

/-- The mirrored student, whose outreach for the checkpoint is closed. -/
def closedPlatform : Platform :=
  { Pipeline.platformWith .empty with
    tracking := ⟨[closedRow], List.nodup_singleton _⟩
    uqStudentCheckpoint := List.nodup_singleton _ }

def jrpRequest : BatchRequest where
  checkpointType := "JRP"
  configVersionId := some "2"

def jrpEnv : BatchEnv where
  worker := { ghlLocationId := "", repr := fun _ => "" }
  cycleCorrelationId := ⟨"cycle-correlation", by decide⟩
  cycleId := ⟨"cycle", by decide⟩
  studentCorrelationId _ := ⟨"student-correlation", by decide⟩
  jobId _ := ⟨"job", by decide⟩

/-- The batch initiates outreach for the student whose outreach is closed. -/
theorem closed_student_initiated :
    trackingOf closedPlatform 7 "JRP" = some closedRow ∧ closedRow.state.text ∈ terminalStates ∧
      (7, some "INITIATE_OUTREACH") ∈
        (runBatchCycle jrpEnv closedPlatform jrpRequest [] []).intents ∧
      ¬ SkipsFinished closedPlatform jrpRequest
        (runBatchCycle jrpEnv closedPlatform jrpRequest [] []) := by
  have htracking : trackingOf closedPlatform 7 "JRP" = some closedRow := rfl
  have hterminal : closedRow.state.text ∈ terminalStates := by decide
  have hgate : BatchGate jrpRequest := by decide
  have hmem : (7, some "INITIATE_OUTREACH") ∈
      (runBatchCycle jrpEnv closedPlatform jrpRequest [] []).intents := by
    rw [runBatchCycle_intents, cycleIntent, if_pos hgate]
    exact List.mem_singleton_self _
  refine ⟨htracking, hterminal, hmem, ?_⟩
  intro h
  exact (h.finished _ hmem ⟨closedRow, htracking, hterminal⟩).1 rfl

end BatchCycle
end StudentSuccess
