import StudentSuccess.Containment
import StudentSuccess.GateComposition

namespace StudentSuccess
namespace Worker
set_option autoImplicit true
open Outreach GhlTransport

/-- The worker delegates nothing but an authorized dispatch, and refuses every other scope. -/
structure RequiresAuthorized (env : WorkerEnv) (keys : List String) (jobId : String)
    (record : OutreachCoordinationRecord) (student : Student) (attempt : Int) : Prop where
  delegated : ∀ keys' exec,
    coordinateWorkerExecution env keys jobId record student attempt = .ok (keys', exec) →
    exec.dispatchDelegated = true →
    record.dispatchAuthorized = true ∧ record.governanceScope = "AUTHORIZED" ∧
      record.isReplay = false ∧ record.executionType ∉ replayTypes ∧
      record.liveEffectsSuppressed = false ∧ record.complianceHoldActive = false
  refused : record.governanceScope ≠ "AUTHORIZED" → ∃ keys' exec,
    coordinateWorkerExecution env keys jobId record student attempt = .ok (keys', exec) ∧
      exec.dispatchDelegated = false ∧ (exec.outcome = "suppressed" ∨ exec.outcome = "blocked")

/-- RULES 0, 1, 3, 4 and 5 let the record through, all but the one on its scope. -/
structure ClearsOtherRules (env : WorkerEnv) (jobId : String) (record : OutreachCoordinationRecord)
    (student : Student) (attempt : Int) : Prop where
  passes : Passes (makeJobContext env record student attempt jobId)
  authorized : record.dispatchAuthorized = true
  original : record.isReplay = false
  type : record.executionType ∉ replayTypes
  live : record.liveEffectsSuppressed = false
  unheld : record.complianceHoldActive = false

theorem coordinateWorkerExecution_refuses (keys : List String)
    (h : record.governanceScope ∈ suppressedScopes ∨
      ¬ ClearsOtherRules env jobId record student attempt) :
    ∃ exec, coordinateWorkerExecution env keys jobId record student attempt = .ok (keys, exec) ∧
      exec.dispatchDelegated = false ∧
      (exec.outcome = "suppressed" ∨ exec.outcome = "blocked") := by
  by_cases hgate : governancePreconditionGate (makeJobContext env record student attempt jobId) ≠ []
  · exact ⟨_, if_pos hgate, rfl, .inr rfl⟩
  by_cases hauthorized : (!record.dispatchAuthorized) = true
  · exact ⟨_, (if_neg hgate).trans (if_pos hauthorized), rfl, .inl rfl⟩
  by_cases hscope : record.governanceScope ∈ suppressedScopes
  · exact ⟨_, (if_neg hgate).trans ((if_neg hauthorized).trans (if_pos hscope)), rfl, .inl rfl⟩
  by_cases hreplay : (record.isReplay || replayTypes.contains record.executionType) = true
  · exact ⟨_, (if_neg hgate).trans ((if_neg hauthorized).trans ((if_neg hscope).trans
      (if_pos hreplay))), rfl, .inl rfl⟩
  by_cases hlive : record.liveEffectsSuppressed = true
  · exact ⟨_, (if_neg hgate).trans ((if_neg hauthorized).trans ((if_neg hscope).trans
      ((if_neg hreplay).trans (if_pos hlive)))), rfl, .inl rfl⟩
  by_cases hhold : record.complianceHoldActive = true
  · exact ⟨_, (if_neg hgate).trans ((if_neg hauthorized).trans ((if_neg hscope).trans
      ((if_neg hreplay).trans ((if_neg hlive).trans (if_pos hhold))))), rfl, .inr rfl⟩
  rw [Bool.not_eq_true, Bool.or_eq_false_iff] at hreplay
  rw [Bool.not_eq_true, Bool.not_eq_false'] at hauthorized
  have hpasses := (gate_eq_nil_iff _).1 (not_not.1 hgate)
  have htype : record.executionType ∉ replayTypes := by
    intro hmem
    exact Bool.noConfusion (hreplay.2.symm.trans (List.contains_iff_mem.2 hmem))
  exact absurd ⟨hpasses, hauthorized, hreplay.1, htype, Bool.eq_false_of_not_eq_true hlive,
    Bool.eq_false_of_not_eq_true hhold⟩ (h.resolve_left hscope)

theorem requires_of_refuses (keys : List String)
    (h : record.governanceScope ∈ suppressedScopes ∨
      ¬ ClearsOtherRules env jobId record student attempt) :
    RequiresAuthorized env keys jobId record student attempt := by
  obtain ⟨refusal, hrefusal, hdelegated, houtcome⟩ := coordinateWorkerExecution_refuses keys h
  refine ⟨fun keys' exec hexec hdelegates => ?_, fun _ =>
    ⟨keys, refusal, hrefusal, hdelegated, houtcome⟩⟩
  cases hrefusal.symm.trans hexec
  exact absurd (hdelegated.symm.trans hdelegates) Bool.false_ne_true

theorem coordinateWorkerExecution_clears (keys : List String)
    (h : ClearsOtherRules env jobId record student attempt)
    (hscope : record.governanceScope ∉ suppressedScopes)
    (hexec : coordinateWorkerExecution env keys jobId record student attempt = .ok (keys', exec)) :
    exec.dispatchDelegated = true := by
  have hgate :
      ¬ governancePreconditionGate (makeJobContext env record student attempt jobId) ≠ [] :=
    not_not_intro ((gate_eq_nil_iff _).2 h.passes)
  have hauthorized : ¬ (!record.dispatchAuthorized) = true := by
    rw [h.authorized]
    exact Bool.false_ne_true
  have hreplay : ¬ (record.isReplay || replayTypes.contains record.executionType) = true := by
    rw [h.original, Bool.false_or, List.contains_iff_mem]
    exact h.type
  have hlive : ¬ record.liveEffectsSuppressed = true := by
    rw [h.live]
    exact Bool.false_ne_true
  have hhold : ¬ record.complianceHoldActive = true := by
    rw [h.unheld]
    exact Bool.false_ne_true
  have hdelegates := hexec.symm.trans ((if_neg hgate).trans ((if_neg hauthorized).trans
    ((if_neg hscope).trans ((if_neg hreplay).trans ((if_neg hlive).trans (if_neg hhold))))))
  obtain ⟨delegated, -, hdelegates⟩ := Py.bind_eq_ok.1 hdelegates.symm
  cases hdelegates
  rfl

/-- The requirement fails exactly for the records that the other rules let through under a scope
that is neither `AUTHORIZED` nor on the list of suppressed scopes. -/
theorem requires_authorized_iff (env : WorkerEnv) (keys : List String) (jobId : String)
    (record : OutreachCoordinationRecord) (student : Student) (attempt : Int) :
    RequiresAuthorized env keys jobId record student attempt ↔
      record.governanceScope = "AUTHORIZED" ∨ record.governanceScope ∈ suppressedScopes ∨
        ¬ ClearsOtherRules env jobId record student attempt := by
  constructor
  · intro h
    by_contra hslips
    rw [not_or, not_or, not_not] at hslips
    obtain ⟨hunauthorized, hscope, hclears⟩ := hslips
    obtain ⟨keys', exec, hexec, hdelegated, -⟩ := h.refused hunauthorized
    exact Bool.noConfusion
      (hdelegated.symm.trans (coordinateWorkerExecution_clears keys hclears hscope hexec))
  · intro h
    by_cases hrefuses : record.governanceScope ∈ suppressedScopes ∨
        ¬ ClearsOtherRules env jobId record student attempt
    · exact requires_of_refuses keys hrefuses
    · have hscope := h.resolve_right hrefuses
      rw [not_or, not_not] at hrefuses
      have hclears := hrefuses.2
      refine ⟨fun keys' exec _ _ => ?_, fun hne => absurd hscope hne⟩
      exact ⟨hclears.authorized, hscope, hclears.original, hclears.type, hclears.live,
        hclears.unheld⟩

/-- No record of the outreach coordination reaches the delegation, so each meets the
requirement. -/
theorem coordinated_requires_authorized
    (h : (coordinateOrchestrationCycle orchestrationKeys ctx).2 = .ok record) :
    RequiresAuthorized env keys jobId record student attempt := by
  have hunauthorized := (coordinateOrchestrationCycle_unauthorized orchestrationKeys h).1
  have hstops : ¬ ClearsOtherRules env jobId record student attempt :=
    fun hclears => Bool.noConfusion (hunauthorized.symm.trans hclears.authorized)
  exact requires_of_refuses keys (.inr hstops)

def blockedScopeRecord : OutreachCoordinationRecord :=
  { forgedRecord with governanceScope := "BLOCKED" }

theorem blockedScopeRecord_delegated :
    blockedScopeRecord.governanceScope = "BLOCKED" ∧
    (∃ keys' exec, coordinateWorkerExecution workerEnv [] "job" blockedScopeRecord studentSeven 1 =
      .ok (keys', exec) ∧ exec.dispatchDelegated = true) ∧
    ¬ RequiresAuthorized workerEnv [] "job" blockedScopeRecord studentSeven 1 := by
  have hdelegated : ∃ keys' exec, coordinateWorkerExecution workerEnv [] "job" blockedScopeRecord
      studentSeven 1 = .ok (keys', exec) ∧ exec.dispatchDelegated = true := ⟨_, _, rfl, rfl⟩
  refine ⟨rfl, hdelegated, fun h => ?_⟩
  obtain ⟨keys', exec, hexec, hdelegates⟩ := hdelegated
  obtain ⟨-, hscope, -⟩ := h.delegated keys' exec hexec hdelegates
  exact absurd hscope (by decide)

end Worker
end StudentSuccess
