import StudentSuccess.BatchCycle

namespace StudentSuccess
namespace BatchCycle
set_option autoImplicit true

open Outreach GhlTransport
open Worker (WorkerEnv WorkerExecutionRecord coordinateWorkerExecution)

/-- One of the two calls for a student raises, and leaves its idempotency store like this. -/
inductive Fault
  | coordination (orchestrationKeys : List String)
  | worker (providerKeys : List String)

def Fault.coordinate (fault : Option Fault) (keys : List String)
    (ctx : OutreachOrchestrationContext) :
    List String × Except Py.Error OutreachCoordinationRecord :=
  match fault with
  | some (.coordination keys') => (keys', .error .valueError)
  | _ => coordinateOrchestrationCycle keys ctx

def Fault.execute (fault : Option Fault) (env : WorkerEnv) (keys : List String) (jobId : String)
    (record : OutreachCoordinationRecord) (student : Student) (attempt : Int) :
    List String × Except Py.Error WorkerExecutionRecord :=
  match fault with
  | some (.worker keys') => (keys', .error .valueError)
  | _ =>
    match coordinateWorkerExecution env keys jobId record student attempt with
    | .error e => (keys, .error e)
    | .ok (keys', exec) => (keys', .ok exec)

/-- The body of the loop, for a student on whom the calls may raise. -/
def runStudentWith (env : BatchEnv) (platform : Platform) (request : BatchRequest)
    (faults : Int → Option Fault) (cycle : Cycle) (row : StudentTriggerData) : Cycle :=
  let fault := faults row.userId
  let attempt := nextAttempt (trackingOf platform row.userId request.checkpointType)
  let ctx := studentContext env request row attempt
  let (orchestrationKeys, coordination) := Fault.coordinate fault cycle.orchestrationKeys ctx
  let cycle := { cycle with orchestrationKeys := orchestrationKeys }
  match coordination with
  | .error _ => { cycle with summary := cycle.summary.fail }
  | .ok record =>
    let cycle := { cycle with coordinated := cycle.coordinated ++ [(row.userId, record)] }
    let (providerKeys, execution) := Fault.execute fault env.worker cycle.providerKeys
      (env.jobId row.userId).1 record (studentDict row) attempt
    let cycle := { cycle with providerKeys := providerKeys }
    match execution with
    | .error _ => { cycle with summary := cycle.summary.fail }
    | .ok exec => { cycle with summary := cycle.summary.add exec }

/-- `run_batch_cycle`, where the calls raise on the students that have a fault. -/
def runBatchCycleWith (env : BatchEnv) (platform : Platform) (request : BatchRequest)
    (faults : Int → Option Fault) (orchestrationKeys providerKeys : List String) : Cycle :=
  Runs.final (runStudentWith env platform request faults)
    (startCycle env platform request orchestrationKeys providerKeys)
    (students platform request.checkpointType)

theorem runStudentWith_none (env : BatchEnv) (platform : Platform) (request : BatchRequest)
    (cycle : Cycle) (row : StudentTriggerData) :
    runStudentWith env platform request (fun _ => none) cycle row =
      runStudent env platform request cycle row := by
  obtain ⟨keys, record, hcoordinate, -⟩ := coordinate_student cycle.orchestrationKeys env request
    row (nextAttempt (trackingOf platform row.userId request.checkpointType))
  simp only [runStudentWith, runStudent, Fault.coordinate, Fault.execute]
  simp only [hcoordinate]
  cases coordinateWorkerExecution env.worker cycle.providerKeys (env.jobId row.userId).1 record
      (studentDict row) (nextAttempt (trackingOf platform row.userId request.checkpointType)) with
  | error e => rfl
  | ok result => rfl

theorem runBatchCycleWith_none (env : BatchEnv) (platform : Platform) (request : BatchRequest)
    (orchestrationKeys providerKeys : List String) :
    runBatchCycleWith env platform request (fun _ => none) orchestrationKeys providerKeys =
      runBatchCycle env platform request orchestrationKeys providerKeys := by
  have hstep : runStudentWith env platform request (fun _ => none) =
      runStudent env platform request := by
    funext cycle row
    exact runStudentWith_none env platform request cycle row
  rw [runBatchCycleWith, runBatchCycle, hstep]

def StudentRecord.of (exec : WorkerExecutionRecord) : StudentRecord where
  studentIdOpaque := exec.studentIdOpaque
  outcome := exec.outcome
  governanceScope := exec.governanceScope
  dispatchDelegated := exec.dispatchDelegated
  channel := exec.channel
  reasonCodes := exec.reasonCodes
  executionBlocked := exec.executionBlocked

def studentExecution (env : BatchEnv) (platform : Platform) (request : BatchRequest)
    (row : StudentTriggerData) : Except Py.Error WorkerExecutionRecord := do
  let attempt := nextAttempt (trackingOf platform row.userId request.checkpointType)
  let record ← (coordinateOrchestrationCycle [] (studentContext env request row attempt)).2
  let (_, exec) ← coordinateWorkerExecution env.worker [] (env.jobId row.userId).1 record
    (studentDict row) attempt
  return exec

/-- What a cycle makes of one student: a record, or an error. -/
def studentOutcome (env : BatchEnv) (platform : Platform) (request : BatchRequest)
    (fault : Option Fault) (row : StudentTriggerData) : Option StudentRecord :=
  match fault, studentExecution env platform request row with
  | none, .ok exec => some (.of exec)
  | _, _ => none

/-- The summary with one more outcome. -/
def BatchSummary.settle (summary : BatchSummary) : Option StudentRecord → BatchSummary
  | none => summary.fail
  | some record =>
    let summary := { summary with processed := summary.processed + 1 }
    let summary :=
      if record.dispatchDelegated then
        { summary with dispatchDelegated := summary.dispatchDelegated + 1 }
      else if record.executionBlocked then { summary with blocked := summary.blocked + 1 }
      else { summary with suppressed := summary.suppressed + 1 }
    { summary with studentRecords := summary.studentRecords ++ [record] }

theorem settle_of (summary : BatchSummary) (exec : WorkerExecutionRecord) :
    summary.settle (some (.of exec)) = summary.add exec := rfl

/-- The idempotency store plays no part in the coordination of a context without a key. -/
theorem coordinate_unkeyed (hkey : ctx.idempotencyKey = none) (keys : List String) :
    (coordinateOrchestrationCycle keys ctx).2 = (coordinateOrchestrationCycle [] ctx).2 := by
  have hgate : governancePreconditionGate keys ctx = governancePreconditionGate [] ctx := by
    unfold governancePreconditionGate
    rw [hkey]
  unfold coordinateOrchestrationCycle
  rw [hgate]
  dsimp only
  split_ifs <;> rfl

/-- A worker that gets no authorization to dispatch answers without its idempotency store. -/
theorem execute_unauthorized (hrecord : record.dispatchAuthorized = false) (env : WorkerEnv)
    (jobId : String) (student : Student) (attempt : Int) :
    ∃ exec, ∀ keys,
      coordinateWorkerExecution env keys jobId record student attempt = .ok (keys, exec) := by
  have hdenied : (!record.dispatchAuthorized) = true := by
    rw [hrecord]
    rfl
  by_cases hgate : Worker.governancePreconditionGate
      (Worker.makeJobContext env record student attempt jobId) = []
  · exact ⟨_, fun _ => (if_neg (not_not_intro hgate)).trans (if_pos hdenied)⟩
  · exact ⟨_, fun _ => if_pos hgate⟩

def attemptOf (platform : Platform) (request : BatchRequest) (row : StudentTriggerData) : Int :=
  nextAttempt (trackingOf platform row.userId request.checkpointType)

/-- Left alone, the two calls for a student return the same records from any stores. -/
theorem student_calls (env : BatchEnv) (platform : Platform) (request : BatchRequest)
    (row : StudentTriggerData) :
    ∃ record exec,
      (∀ keys, (coordinateOrchestrationCycle keys
        (studentContext env request row (attemptOf platform request row))).2 = .ok record) ∧
      (∀ keys, coordinateWorkerExecution env.worker keys (env.jobId row.userId).1 record
        (studentDict row) (attemptOf platform request row) = .ok (keys, exec)) ∧
      studentExecution env platform request row = .ok exec := by
  obtain ⟨_, record, hrecord, -⟩ := coordinate_student [] env request row
    (attemptOf platform request row)
  have hcoordinate : ∀ keys, (coordinateOrchestrationCycle keys
      (studentContext env request row (attemptOf platform request row))).2 = .ok record :=
    fun keys => (coordinate_unkeyed rfl keys).trans (congrArg Prod.snd hrecord)
  have hunauthorized : record.dispatchAuthorized = false :=
    (coordinateOrchestrationCycle_unauthorized [] (hcoordinate [])).1
  obtain ⟨exec, hexec⟩ := execute_unauthorized hunauthorized env.worker (env.jobId row.userId).1
    (studentDict row) (attemptOf platform request row)
  exact ⟨record, exec, hcoordinate, hexec,
    Py.bind_eq_ok.2 ⟨record, hcoordinate [], Py.bind_eq_ok.2 ⟨_, hexec [], rfl⟩⟩⟩

theorem runStudentWith_summary (env : BatchEnv) (platform : Platform) (request : BatchRequest)
    (faults : Int → Option Fault) (cycle : Cycle) (row : StudentTriggerData) :
    (runStudentWith env platform request faults cycle row).summary =
      cycle.summary.settle (studentOutcome env platform request (faults row.userId) row) := by
  obtain ⟨record, exec, hcoordinate, hexec, hstudent⟩ := student_calls env platform request row
  simp only [attemptOf] at hcoordinate hexec
  simp only [runStudentWith, studentOutcome, Fault.coordinate, Fault.execute]
  rw [hstudent]
  cases faults row.userId with
  | none => simp only [hcoordinate, hexec, settle_of]
  | some fault =>
    cases fault with
    | coordination keys => rfl
    | worker keys =>
      simp only [hcoordinate]
      rfl

theorem studentOutcome_eq_none_iff (env : BatchEnv) (platform : Platform) (request : BatchRequest)
    (fault : Option Fault) (row : StudentTriggerData) :
    studentOutcome env platform request fault row = none ↔ fault ≠ none := by
  obtain ⟨record, exec, -, -, hstudent⟩ := student_calls env platform request row
  simp only [studentOutcome]
  rw [hstudent]
  cases fault with
  | none => simp
  | some fault => simp

def outcomes (env : BatchEnv) (platform : Platform) (request : BatchRequest)
    (faults : Int → Option Fault) (rows : List StudentTriggerData) : List (Option StudentRecord) :=
  rows.map fun row => studentOutcome env platform request (faults row.userId) row

theorem final_summary (env : BatchEnv) (platform : Platform) (request : BatchRequest)
    (faults : Int → Option Fault) (cycle : Cycle) (rows : List StudentTriggerData) :
    (Runs.final (runStudentWith env platform request faults) cycle rows).summary =
      (outcomes env platform request faults rows).foldl BatchSummary.settle cycle.summary := by
  induction rows generalizing cycle with
  | nil => rfl
  | cons row rows ih =>
    rw [Runs.final_cons, ih, runStudentWith_summary]
    rfl

def delegated (outcome : Option StudentRecord) : Bool := outcome.any (·.dispatchDelegated)

def blocked (outcome : Option StudentRecord) : Bool :=
  outcome.any fun r => !r.dispatchDelegated && r.executionBlocked

def suppressed (outcome : Option StudentRecord) : Bool :=
  outcome.any fun r => !r.dispatchDelegated && !r.executionBlocked

/-- What the summary has counted more than another. -/
structure Counts (start summary : BatchSummary) (outcomes : List (Option StudentRecord)) :
    Prop where
  total : summary.total = start.total
  processed : summary.processed = start.processed + outcomes.length
  dispatchDelegated :
    summary.dispatchDelegated = start.dispatchDelegated + outcomes.countP delegated
  suppressed : summary.suppressed = start.suppressed + outcomes.countP suppressed
  blocked : summary.blocked = start.blocked + outcomes.countP blocked
  errors : summary.errors = start.errors + outcomes.countP Option.isNone
  studentRecords : summary.studentRecords = start.studentRecords ++ outcomes.filterMap id

theorem counts_settle (summary : BatchSummary) (outcome : Option StudentRecord) :
    Counts summary (summary.settle outcome) [outcome] := by
  cases outcome with
  | none => exact ⟨rfl, rfl, rfl, rfl, rfl, rfl, (List.append_nil _).symm⟩
  | some record =>
    obtain ⟨_, _, _, delegates, _, _, blocks⟩ := record
    cases delegates <;> cases blocks <;> constructor <;> rfl

theorem Counts.trans {outcomes outcomes' : List (Option StudentRecord)}
    (h : Counts first second outcomes) (h' : Counts second third outcomes') :
    Counts first third (outcomes ++ outcomes') where
  total := h'.total.trans h.total
  processed := by rw [h'.processed, h.processed, List.length_append, Nat.add_assoc]
  dispatchDelegated := by
    rw [h'.dispatchDelegated, h.dispatchDelegated, List.countP_append, Nat.add_assoc]
  suppressed := by rw [h'.suppressed, h.suppressed, List.countP_append, Nat.add_assoc]
  blocked := by rw [h'.blocked, h.blocked, List.countP_append, Nat.add_assoc]
  errors := by rw [h'.errors, h.errors, List.countP_append, Nat.add_assoc]
  studentRecords := by
    rw [h'.studentRecords, h.studentRecords, List.filterMap_append, List.append_assoc]

theorem counts_foldl (summary : BatchSummary) (outcomes : List (Option StudentRecord)) :
    Counts summary (outcomes.foldl BatchSummary.settle summary) outcomes := by
  induction outcomes generalizing summary with
  | nil => constructor <;> simp
  | cons outcome outcomes ih => exact (counts_settle summary outcome).trans (ih _)

theorem countP_cons_eq (p : α → Bool) (x : α) (last : List α) :
    (x :: last).countP p = [x].countP p + last.countP p := by
  change ([x] ++ last).countP p = _
  exact List.countP_append

theorem countP_middle (p : α → Bool) (first : List α) (x : α) (last : List α) :
    (first ++ x :: last).countP p = first.countP p + [x].countP p + last.countP p := by
  rw [List.countP_append, countP_cons_eq, Nat.add_assoc]

/-- A student is delegated, suppressed, blocked or an error. -/
theorem length_eq_counts (outcomes : List (Option StudentRecord)) :
    outcomes.length = outcomes.countP delegated + outcomes.countP suppressed +
      outcomes.countP blocked + outcomes.countP Option.isNone := by
  induction outcomes with
  | nil => rfl
  | cons outcome outcomes ih =>
    have hone : [outcome].countP delegated + [outcome].countP suppressed +
        [outcome].countP blocked + [outcome].countP Option.isNone = 1 := by
      cases outcome with
      | none => rfl
      | some record =>
        obtain ⟨_, _, _, delegates, _, _, blocks⟩ := record
        cases delegates <;> cases blocks <;> rfl
    rw [List.length_cons, countP_cons_eq delegated, countP_cons_eq suppressed,
      countP_cons_eq blocked, countP_cons_eq Option.isNone]
    omega

/-- The summary accounts for each of the outcomes once. -/
structure Conserves (summary : BatchSummary) (outcomes : List (Option StudentRecord)) : Prop where
  total : summary.total = outcomes.length
  processed : summary.processed = summary.total
  conserved : summary.processed =
    summary.dispatchDelegated + summary.suppressed + summary.blocked + summary.errors
  errors : summary.errors = outcomes.countP Option.isNone
  studentRecords : summary.studentRecords = outcomes.filterMap id

section
variable {env : BatchEnv} {platform : Platform} {request : BatchRequest}
  {faults faults' : Int → Option Fault} {keys keys' : List String}

/-- What the summary of a cycle has counted is what its students came to. -/
theorem counts_cycle (env : BatchEnv) (platform : Platform) (request : BatchRequest)
    (faults : Int → Option Fault) (keys keys' : List String) :
    Counts (startCycle env platform request keys keys').summary
      (runBatchCycleWith env platform request faults keys keys').summary
      (outcomes env platform request faults (students platform request.checkpointType)) := by
  rw [runBatchCycleWith, final_summary]
  exact counts_foldl _ _

theorem conserves_of_counts {list : List (Option StudentRecord)}
    (hlength : list.length = (students platform request.checkpointType).length)
    (h : Counts (startCycle env platform request keys keys').summary summary list) :
    Conserves summary list where
  total := h.total.trans hlength.symm
  processed := by
    rw [h.processed, h.total, hlength]
    exact Nat.zero_add _
  conserved := by
    have hprocessed : summary.processed = 0 + list.length := h.processed
    have hdelegated : summary.dispatchDelegated = 0 + list.countP delegated := h.dispatchDelegated
    have hsuppressed : summary.suppressed = 0 + list.countP suppressed := h.suppressed
    have hblocked : summary.blocked = 0 + list.countP blocked := h.blocked
    have herrors : summary.errors = 0 + list.countP Option.isNone := h.errors
    have hpartition := length_eq_counts list
    omega
  errors := h.errors.trans (Nat.zero_add _)
  studentRecords := h.studentRecords

/-- The summary of a cycle in which a student fails, against that of one in which it does not: the
other students have the same records, and nothing else is counted differently. -/
structure Isolates (failing passing : BatchSummary) : Prop where
  errors : failing.errors = passing.errors + 1
  counted : ∃ first record last,
    failing.studentRecords = first ++ last ∧ passing.studentRecords = first ++ record :: last ∧
    passing.dispatchDelegated = failing.dispatchDelegated + [some record].countP delegated ∧
    passing.suppressed = failing.suppressed + [some record].countP suppressed ∧
    passing.blocked = failing.blocked + [some record].countP blocked

theorem outcomes_congr {rows : List StudentTriggerData}
    (h : ∀ row ∈ rows, faults' row.userId = faults row.userId) :
    outcomes env platform request faults' rows = outcomes env platform request faults rows := by
  apply List.map_congr_left
  intro row hrow
  rw [h row hrow]

theorem isolates_of_counts {first last : List (Option StudentRecord)}
    (h : Counts start failing (first ++ none :: last))
    (h' : Counts start passing (first ++ some record :: last)) : Isolates failing passing := by
  have hdelegated := h.dispatchDelegated
  have hdelegated' := h'.dispatchDelegated
  have hsuppressed := h.suppressed
  have hsuppressed' := h'.suppressed
  have hblocked := h.blocked
  have hblocked' := h'.blocked
  have herrors := h.errors
  have herrors' := h'.errors
  rw [countP_middle] at hdelegated hdelegated' hsuppressed hsuppressed' hblocked hblocked'
  rw [countP_middle] at herrors herrors'
  have hnone : [none].countP delegated = 0 ∧ [none].countP suppressed = 0 ∧
      [none].countP blocked = 0 := ⟨rfl, rfl, rfl⟩
  have herror : [none].countP (Option.isNone (α := StudentRecord)) = 1 := rfl
  have hsome : [some record].countP Option.isNone = 0 := rfl
  refine ⟨by omega, start.studentRecords ++ first.filterMap id, record, last.filterMap id, ?_, ?_,
    by omega, by omega, by omega⟩
  · rw [h.studentRecords, List.filterMap_append, List.append_assoc]
    rfl
  · rw [h'.studentRecords, List.filterMap_append, List.append_assoc]
    rfl

theorem error_isolated {row : StudentTriggerData}
    (hrow : row ∈ students platform request.checkpointType) (hfails : faults row.userId ≠ none)
    (hpasses : faults' row.userId = none)
    (hothers : ∀ userId, userId ≠ row.userId → faults' userId = faults userId) :
    Isolates (runBatchCycleWith env platform request faults keys keys').summary
      (runBatchCycleWith env platform request faults' keys keys').summary := by
  obtain ⟨before, after, hsplit⟩ := List.append_of_mem hrow
  have hunique : ((before ++ row :: after).map (·.userId)).Nodup := by
    rw [← hsplit]
    exact platform.triggerdata.unique.sublist (List.filter_sublist.map _)
  rw [List.map_append, List.map_cons, List.nodup_middle, List.nodup_cons, ← List.map_append]
    at hunique
  have hother : ∀ r ∈ before ++ after, faults' r.userId = faults r.userId := by
    intro r hr
    apply hothers
    intro heq
    exact hunique.1 (heq ▸ List.mem_map_of_mem hr)
  have hbefore : outcomes env platform request faults' before =
      outcomes env platform request faults before :=
    outcomes_congr fun r hr => hother r (List.mem_append_left _ hr)
  have hafter : outcomes env platform request faults' after =
      outcomes env platform request faults after :=
    outcomes_congr fun r hr => hother r (List.mem_append_right _ hr)
  have hnone : studentOutcome env platform request (faults row.userId) row = none :=
    (studentOutcome_eq_none_iff env platform request _ row).2 hfails
  obtain ⟨record, hrecord⟩ := Option.ne_none_iff_exists'.1
    (mt (studentOutcome_eq_none_iff env platform request (faults' row.userId) row).1
      (not_not_intro hpasses))
  have hcounts := counts_cycle env platform request faults keys keys'
  have hcounts' := counts_cycle env platform request faults' keys keys'
  rw [hsplit, outcomes, List.map_append, List.map_cons, hnone] at hcounts
  rw [hsplit, outcomes, List.map_append, List.map_cons, hrecord] at hcounts'
  rw [outcomes] at hbefore hafter
  rw [hbefore, hafter] at hcounts'
  exact isolates_of_counts hcounts hcounts'

end

/-- Whatever calls raise, a cycle accounts for each student once, with one record for each student
that is not an error, in source order; an error changes nothing for the other students. -/
theorem batch_conserves_students (env : BatchEnv) (platform : Platform) (request : BatchRequest)
    (faults : Int → Option Fault) (keys keys' : List String) :
    Conserves (runBatchCycleWith env platform request faults keys keys').summary
        (outcomes env platform request faults (students platform request.checkpointType)) ∧
      (∀ row, studentOutcome env platform request (faults row.userId) row = none ↔
        faults row.userId ≠ none) ∧
      ∀ faults' : Int → Option Fault, ∀ row ∈ students platform request.checkpointType,
        faults row.userId ≠ none → faults' row.userId = none →
        (∀ userId, userId ≠ row.userId → faults' userId = faults userId) →
        Isolates (runBatchCycleWith env platform request faults keys keys').summary
          (runBatchCycleWith env platform request faults' keys keys').summary := by
  refine ⟨?_, fun row => studentOutcome_eq_none_iff env platform request _ row, ?_⟩
  · have hcounts := counts_cycle env platform request faults keys keys'
    exact conserves_of_counts (List.length_map _) hcounts
  · intro faults' row hrow hfails hpasses hothers
    exact error_isolated hrow hfails hpasses hothers

end BatchCycle
end StudentSuccess
