import StudentSuccess.Phase12Gate
import StudentSuccess.Containment

namespace StudentSuccess
set_option autoImplicit true

namespace Eligibility

open RuleChain

/-- The scopes of an assessment that neither contacts nor retries. -/
def containedScopes : List Scope := [.escalation, .replay, .prioritizationOnly, .none]

/-- Before RULE 10 no rule has set a scope. -/
def Unscoped (s : Evaluation) : Prop := s.scope = .none

def Replayed (s : Evaluation) : Prop := s.scope = .replay

def Contained (e : Emission) : Prop := e.evaluation.scope ∈ containedScopes

theorem contained_none {e : Emission} (h : e.evaluation.scope = .none) : Contained e := by
  rw [Contained]
  rw [h]
  decide

theorem contained_escalation {e : Emission} (h : e.evaluation.scope = .escalation) :
    Contained e := by
  rw [Contained]
  rw [h]
  decide

theorem contained_replay {e : Emission} (h : e.evaluation.scope = .replay) : Contained e := by
  rw [Contained]
  rw [h]
  decide

section Replay

variable {env : RuleEnv} {ctx : EligibilityContext}

theorem rule1_contained : Keeps Unscoped Unscoped Contained (rule1 ctx) := by
  intro s hs
  rw [rule1]
  split_ifs
  · exact contained_none rfl
  · exact hs

theorem rule2_contained : Keeps Unscoped Unscoped Contained (rule2 ctx) := by
  intro s hs
  cases hhold : ctx.governance.complianceHoldFlag with
  | true =>
    obtain ⟨e, he, hscope⟩ := (rule2_guards _).exits hhold s
    rw [he]
    exact contained_escalation hscope
  | false =>
    rw [(rule2_guards _).passes (ne_true_of_eq_false hhold)]
    exact hs

theorem rule4_contained : Keeps Unscoped Unscoped Contained (rule4 ctx) := by
  intro s hs
  rw [rule4]
  split_ifs
  · exact contained_escalation rfl
  · exact contained_none rfl
  · exact hs

/-- An insight in flight defers original executions only. -/
theorem rule5_contained (hreplay : isReplayType ctx.governance.executionType = true) :
    Keeps Unscoped Unscoped Contained (rule5 ctx) := by
  intro s hs
  have hne : ctx.governance.executionType ≠ "original" := by
    intro horiginal
    rw [horiginal] at hreplay
    exact absurd hreplay (by decide)
  rw [rule5]
  simp only [hne, if_false]
  split_ifs
  · exact hs
  · exact hs
  · exact hs
  · exact hs

theorem rule6_contained : Keeps Unscoped Unscoped Contained (rule6 ctx) := by
  intro s hs
  rw [rule6]
  split_ifs
  · exact contained_none rfl
  · exact hs

theorem rule7_contained : Keeps Unscoped Unscoped Contained (rule7 env ctx) := by
  intro s hs
  by_cases hactive : ExclusionActive env ctx
  · obtain ⟨e, he, hscope⟩ := rule7_active hactive s
    rw [he]
    exact contained_none hscope
  · obtain ⟨s', hs', hscope⟩ := rule7_passes hactive s
    rw [hs']
    exact hscope.trans hs

theorem rule10_contained (hreplay : isReplayType ctx.governance.executionType = true) :
    Keeps Unscoped Replayed Contained (rule10 ctx) := by
  intro s hs
  rw [rule10]
  rw [if_pos hreplay]
  dsimp only
  split_ifs
  · exact contained_none rfl
  · exact rfl
  · exact rfl

theorem rule8_contained : Keeps Replayed Replayed Contained (rule8 ctx) := by
  intro s hs
  unfold rule8
  match attemptsExhausted ctx with
  | .error e => trivial
  | .ok true => exact contained_none rfl
  | .ok false =>
    have hscope : (s.rule "RULE_8").scope = .replay := hs
    show Holds Replayed Contained (if _ then _ else _)
    rw [if_pos hscope]
    exact hs

theorem rule9_contained : Keeps Replayed Replayed Contained (rule9 ctx) := by
  intro s hs
  unfold rule9
  match assessRisk ctx with
  | .error e => trivial
  | .ok risk => exact hs

theorem rule11_contained : Keeps Replayed Replayed Contained (rule11 ctx) := by
  intro s hs
  obtain ⟨s', hs', hscope, -⟩ := rule11_next ctx s
  rw [hs']
  exact hscope.trans hs

theorem rules_contained (hreplay : isReplayType ctx.governance.executionType = true) :
    Ensures rule12 Unscoped Contained (rules env ctx) := by
  apply ensures_cons rule1_contained
  apply ensures_cons rule2_contained
  apply ensures_cons rule4_contained
  apply ensures_cons (rule5_contained hreplay)
  apply ensures_cons rule6_contained
  apply ensures_cons rule7_contained
  apply ensures_cons (rule10_contained hreplay)
  apply ensures_cons rule8_contained
  apply ensures_cons rule9_contained
  apply ensures_cons rule11_contained
  apply ensures_nil
  intro s hs
  exact contained_replay hs

end Replay

/-- Neither outreach nor retry, and nothing live. -/
structure ReplayContained (a : OrchestrationEligibilityAssessment) : Prop where
  scope : a.eligibilityScope ≠ .outreach ∧ a.eligibilityScope ≠ .retry
  record : a.liveOutreachPermitted = false
  constraints : a.orchestrationConstraints.liveOutreachPermitted = false

theorem liveOk_replay (hreplay : isReplayType gov.executionType = true) (scope : Scope) :
    liveOk gov scope = false := by
  simp [liveOk, hreplay]

theorem assess_replay (hreplay : isReplayType ctx.governance.executionType = true)
    (h : assessOrchestrationEligibility env ctx = .ok a) : ReplayContained a := by
  by_cases h0 : governancePreconditions ctx.governance = []
  · obtain ⟨e, he, rfl⟩ := (assess_eq_ok_iff h0).1 h
    have hcontained := rules_contained hreplay (start ctx) rfl e he
    have hscope : e.evaluation.scope ≠ .outreach ∧ e.evaluation.scope ≠ .retry := by
      rw [Contained] at hcontained
      revert hcontained
      cases e.evaluation.scope <;> decide
    exact ⟨hscope, liveOk_replay hreplay _, liveOk_replay hreplay _⟩
  · rw [assessOrchestrationEligibility, if_pos h0] at h
    cases h
    have hscope : Scope.none ≠ .outreach ∧ Scope.none ≠ .retry := by decide
    exact ⟨hscope, rfl, rfl⟩

end Eligibility

namespace Decision

/-- Two evaluations that only the student's opaque id tells apart. -/
def SameButStudent (r r' : GovernanceDecisionResult) : Prop :=
  { r with studentIdOpaque := r'.studentIdOpaque } = r'

/-- A shadow intent that says nothing of the student but the opaque id. -/
structure ReplayContained (env : RuleEnv) (ctx : DecisionContext) (r : GovernanceDecisionResult) :
    Prop where
  intent : r.intent.orchestrationIntent = .noEligibleIntent
  mode : r.intent.executionMode = "SHADOW"
  scope : r.intent.governanceScope = "REPLAY_ONLY"
  blocked : r.intent.intentBlocked = true ↔ ctx.governance.executionMode = "LIVE"
  student : r.studentIdOpaque = opaqueId env.sha256 "ssip:uid:" ctx.academic.userId
  signals : ∀ ctx' r', ctx'.governance = ctx.governance →
    evaluateOrchestrationIntent env ctx' = .ok r' → SameButStudent r r'

theorem fingerprint_of_gate (h0 : preconditionCodes gov = [])
    (hreplay : isReplayType gov.executionType = true) : noItems gov.fingerprintContext = false := by
  cases hfingerprint : noItems gov.fingerprintContext with
  | false => rfl
  | true => simp [preconditionCodes, hreplay, hfingerprint] at h0

theorem replayViolations_nonempty_iff (h0 : preconditionCodes gov = [])
    (hreplay : isReplayType gov.executionType = true) :
    (!(replayViolations gov).isEmpty) = true ↔ gov.executionMode = "LIVE" := by
  have hfingerprint := fingerprint_of_gate h0 hreplay
  by_cases hmode : gov.executionMode = "LIVE"
  · simp [replayViolations, hmode]
  · simp [replayViolations, hmode, hfingerprint]

theorem evaluateReplayIntent_governance (env : RuleEnv) {ctx ctx' : DecisionContext}
    (h : ctx'.governance = ctx.governance) :
    SameButStudent (evaluateReplayIntent env ctx) (evaluateReplayIntent env ctx') := by
  simp only [SameButStudent, evaluateReplayIntent]
  rw [h]

theorem evaluate_replay_contained (env : RuleEnv) (h0 : preconditionCodes ctx.governance = [])
    (hreplay : isReplayType ctx.governance.executionType = true) :
    ∃ r, evaluateOrchestrationIntent env ctx = .ok r ∧ ReplayContained env ctx r := by
  refine ⟨evaluateReplayIntent env ctx, evaluate_replay env h0 hreplay, rfl, rfl, rfl,
    replayViolations_nonempty_iff h0 hreplay, rfl, ?_⟩
  intro ctx' r' hgov hr'
  have h0' : preconditionCodes ctx'.governance = [] := hgov ▸ h0
  have hreplay' : isReplayType ctx'.governance.executionType = true := hgov ▸ hreplay
  rw [evaluate_replay env h0' hreplay'] at hr'
  cases hr'
  exact evaluateReplayIntent_governance env hgov

end Decision

namespace Channel

/-- Nothing live, in a scope of replays. -/
structure ReplayContained (a : ChannelAdvisoryAssessment) : Prop where
  live : a.governanceConstraints.liveDeliveryPermitted = false
  scope : a.governanceConstraints.governanceScope = "REPLAY_ONLY"

/-- Whatever exit the evaluation takes, `emit_assessment` settles it as a replay. -/
theorem settle_replay (hreplay : isReplayType gov.executionType = true) (e : Emission) :
    (settle gov e).liveDeliveryPermitted = false ∧
      (settle gov e).governanceScope = "REPLAY_ONLY" := by
  rw [settle_live]
  have hlive : liveOk gov e = false := by simp [liveOk, hreplay]
  refine ⟨hlive, ?_⟩
  rw [settle]
  rw [if_pos hreplay]

theorem assess_replay (h0 : governancePreconditions ctx.governance = [])
    (hreplay : isReplayType ctx.governance.executionType = true)
    (h : assessChannelAdvisory env ctx = .ok a) : ReplayContained a := by
  obtain ⟨e, he, rfl⟩ := (assess_eq_ok_iff h0).1 h
  have hsettled := settle_replay hreplay e
  exact ⟨hsettled.1, hsettled.2⟩

end Channel

namespace Worker

/-- Suppressed, and nothing handed to the provider. -/
structure ReplayContained (exec : WorkerExecutionRecord) : Prop where
  outcome : exec.outcome = "suppressed"
  outbound : exec.outboundSuppressed = true
  delegated : exec.dispatchDelegated = false

theorem replayTypes_contains (hreplay : isReplayType type = true) :
    replayTypes.contains type = true := by
  simpa [replayTypes, isReplayType] using hreplay

/-- Past RULE 0 one of RULES 1 to 3 stops a replay, and no idempotency key is stored. -/
theorem coordinateWorkerExecution_replay
    (h0 : governancePreconditionGate (makeJobContext env record student attempt jobId) = [])
    (hreplay : isReplayType record.executionType = true) :
    ∃ exec, coordinateWorkerExecution env keys jobId record student attempt = .ok (keys, exec) ∧
      ReplayContained exec := by
  have htype : ((makeJobContext env record student attempt jobId).isReplay ||
      replayTypes.contains (makeJobContext env record student attempt jobId).executionType) =
        true := by
    rw [Bool.or_eq_true]
    exact .inr (replayTypes_contains hreplay)
  simp only [coordinateWorkerExecution, h0, ne_eq, not_true_eq_false, if_false, htype, if_true]
  by_cases hauthorized : (!record.dispatchAuthorized) = true
  · rw [if_pos hauthorized]
    exact ⟨_, rfl, rfl, rfl, rfl⟩
  · rw [if_neg hauthorized]
    by_cases hscope : (makeJobContext env record student attempt jobId).governanceScope ∈
        suppressedScopes
    · rw [if_pos hscope]
      exact ⟨_, rfl, rfl, rfl, rfl⟩
    · rw [if_neg hscope]
      exact ⟨_, rfl, rfl, rfl, rfl⟩

end Worker

/-- A replay or a regeneration stays contained in each of the four engines it can enter. -/
theorem replay_contained (env : RuleEnv) (workerEnv : Worker.WorkerEnv) :
    (∀ ctx a, isReplayType ctx.governance.executionType = true →
      Eligibility.assessOrchestrationEligibility env ctx = .ok a →
        Eligibility.ReplayContained a) ∧
    (∀ ctx, isReplayType ctx.governance.executionType = true →
      Decision.preconditionCodes ctx.governance = [] →
        ∃ r, Decision.evaluateOrchestrationIntent env ctx = .ok r ∧
          Decision.ReplayContained env ctx r) ∧
    (∀ ctx a, isReplayType ctx.governance.executionType = true →
      Channel.governancePreconditions ctx.governance = [] →
      Channel.assessChannelAdvisory env ctx = .ok a → Channel.ReplayContained a) ∧
    (∀ keys jobId record student attempt,
      isReplayType record.executionType = true →
      Worker.governancePreconditionGate
          (Worker.makeJobContext workerEnv record student attempt jobId) = [] →
        ∃ exec, Worker.coordinateWorkerExecution workerEnv keys jobId record student attempt =
            .ok (keys, exec) ∧ Worker.ReplayContained exec) := by
  refine ⟨?_, ?_, ?_, ?_⟩
  · intro ctx a hreplay ha
    exact Eligibility.assess_replay hreplay ha
  · intro ctx hreplay h0
    exact Decision.evaluate_replay_contained env h0 hreplay
  · intro ctx a hreplay h0 ha
    exact Channel.assess_replay h0 hreplay ha
  · intro keys jobId record student attempt hreplay h0
    exact Worker.coordinateWorkerExecution_replay h0 hreplay

def replayEligibility : Eligibility.EligibilityContext :=
  { liveEvaluations.eligibility with
    governance :=
      { liveEvaluations.eligibility.governance with
        executionType := "replay"
        replayContext := some [("source_artifact_id", .str "artifact-1")]
        fingerprintContext := some [("schema_version", .str "1")] } }

def replayChannel : Channel.ChannelAdvisoryContext :=
  { liveEvaluations.channel with
    governance :=
      { liveEvaluations.channel.governance with
        executionType := "regeneration"
        replayContext := some [("source_artifact_id", .str "artifact-1")]
        fingerprintContext := some [("schema_version", .str "1")] } }

def replayDecision : Decision.DecisionContext :=
  { liveEvaluations.decision with
    governance :=
      { liveEvaluations.decision.governance with
        executionType := "replay"
        fingerprintContext := some [("fingerprint_schema_version", .str "1")] } }

def replayRecord : Outreach.OutreachCoordinationRecord :=
  { forgedRecord with executionType := "replay" }

theorem replay_contained_live :
    (∃ a, Eligibility.assessOrchestrationEligibility Eligibility.heldEnv replayEligibility =
        .ok a ∧ Eligibility.ReplayContained a) ∧
      (∃ r, Decision.evaluateOrchestrationIntent Eligibility.heldEnv replayDecision = .ok r ∧
        Decision.ReplayContained Eligibility.heldEnv replayDecision r) ∧
      (∃ a, Channel.assessChannelAdvisory Eligibility.heldEnv replayChannel = .ok a ∧
        Channel.ReplayContained a) ∧
      ∃ exec, Worker.coordinateWorkerExecution workerEnv [] "job" replayRecord studentSeven 1 =
        .ok ([], exec) ∧ Worker.ReplayContained exec := by
  obtain ⟨heligibility, hdecision, hchannel, hworker⟩ :=
    replay_contained Eligibility.heldEnv workerEnv
  refine ⟨⟨_, rfl, heligibility replayEligibility _ rfl rfl⟩, ?_, ?_, ?_⟩
  · exact hdecision replayDecision rfl (by decide)
  · exact ⟨_, rfl, hchannel replayChannel _ rfl (by decide) rfl⟩
  · exact hworker [] "job" replayRecord studentSeven 1 rfl (by decide)

end StudentSuccess
