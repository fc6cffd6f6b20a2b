import StudentSuccess.Worker

namespace StudentSuccess
set_option autoImplicit true
open Outreach Provider GhlTransport Worker

theorem delegate_suppressed
    (h : delegate env keys ctx student attempt = .ok (keys', assessment, result)) :
    dispatchBranch assessment = .suppressed ∧ result.outboundSuppressed = true := by
  obtain ⟨hassess, hresult⟩ := delegate_eq_ok h
  have hsuppressed := assessProviderOrchestration_outboundSuppressed hassess
  refine ⟨dispatchBranch_of_outboundSuppressed hsuppressed, ?_⟩
  rw [hresult, executeGhlDispatch_outboundSuppressed]
  exact hsuppressed

/-- No coordinated record is delegated; and a record of any origin that the worker delegates is
suppressed by the transport, away from its live branch. -/
theorem dispatch_contained :
    (∀ keys ctx record, (coordinateOrchestrationCycle keys ctx).2 = .ok record →
      record.dispatchAuthorized = false ∧
      ∀ env outboundKeys jobId student attempt keys' exec,
        coordinateWorkerExecution env outboundKeys jobId record student attempt =
          .ok (keys', exec) → exec.dispatchDelegated = false) ∧
    ∀ env outboundKeys jobId record student attempt keys' exec,
      coordinateWorkerExecution env outboundKeys jobId record student attempt =
        .ok (keys', exec) → exec.dispatchDelegated = true →
      exec.outboundSuppressed = true ∧
      ∃ assessment result,
        delegate env outboundKeys (makeJobContext env record student attempt jobId) student
          attempt = .ok (keys', assessment, result) ∧
        dispatchBranch assessment = .suppressed ∧ result.outboundSuppressed = true := by
  refine ⟨fun keys ctx record h => ?_, fun env outboundKeys jobId record student attempt keys' exec
    h hdelegated => ?_⟩
  · have hunauthorized := (coordinateOrchestrationCycle_unauthorized keys h).1
    refine ⟨hunauthorized, fun env outboundKeys jobId student attempt keys' exec hexec => ?_⟩
    exact (coordinateWorkerExecution_unauthorized hunauthorized hexec).1
  · obtain ⟨assessment, result, hdelegate, heq⟩ := coordinateWorkerExecution_delegated h hdelegated
    obtain ⟨hbranch, hresult⟩ := delegate_suppressed hdelegate
    exact ⟨heq.trans hresult, assessment, result, hdelegate, hbranch, hresult⟩

/-- A record that no coordination emits: live, authorized, and not suppressed. -/
def forgedRecord : OutreachCoordinationRecord :=
  { makeBlockedRecord
      { configVersionId := some "7", executionMode := "LIVE", executionType := "original",
        correlationId := some "c-1", originSource := some "batch_worker",
        originAuthority := some "system", actorIdentity := some "batch_runner" } [] [] none with
    governanceScope := "AUTHORIZED"
    intentType := some "INITIATE_OUTREACH"
    liveEffectsSuppressed := false
    dispatchAuthorized := true
    orchestrationBlocked := false }

def liveContext : OutreachOrchestrationContext where
  configVersionId := some "7"
  executionMode := "LIVE"
  executionType := "original"
  correlationId := some "c-2"
  originSource := some "batch_worker"
  originAuthority := some "system"
  actorIdentity := some "batch_runner"

def workerEnv : WorkerEnv := ⟨"loc", fun _ => ""⟩

def studentSeven : Student := [("UserID", .int 7), ("PathName", .str "HW_BEHIND")]

theorem dispatch_contained_forged :
    (∃ record, (coordinateOrchestrationCycle [] liveContext).2 = .ok record ∧
      record.dispatchAuthorized = false ∧
      ∃ keys' exec, coordinateWorkerExecution workerEnv [] "job" record studentSeven 1 =
        .ok (keys', exec) ∧ exec.dispatchDelegated = false) ∧
    ∃ keys' exec, coordinateWorkerExecution workerEnv [] "job" forgedRecord studentSeven 1 =
      .ok (keys', exec) ∧ exec.dispatchDelegated = true ∧ exec.outboundSuppressed = true := by
  obtain ⟨hcoordinated, hforged⟩ := dispatch_contained
  obtain ⟨hunauthorized, hworker⟩ := hcoordinated [] liveContext _ rfl
  refine ⟨⟨_, rfl, hunauthorized, _, _, rfl, hworker workerEnv [] "job" studentSeven 1 _ _ rfl⟩,
    _, _, rfl, rfl, ?_⟩
  exact (hforged workerEnv [] "job" forgedRecord studentSeven 1 _ _ rfl rfl).1

end StudentSuccess
