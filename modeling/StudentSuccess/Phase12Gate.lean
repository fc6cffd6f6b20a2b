import StudentSuccess.LiveCandidacy
import StudentSuccess.LiveDelivery
import StudentSuccess.DecisionAuthority
import StudentSuccess.Outreach
import StudentSuccess.PriorityAdvisory

namespace StudentSuccess
set_option autoImplicit true

structure Evaluations where
  eligibility : Eligibility.EligibilityContext
  channel : Channel.ChannelAdvisoryContext
  decision : Decision.DecisionContext
  outreach : Outreach.OutreachOrchestrationContext
  outreachKeys : List String
  priority : Prioritization.PrioritizationContext
  priorityKeys : List String

/-- No engine emits live authority. -/
structure Uncertified (env : RuleEnv) (evals : Evaluations) : Prop where
  eligibility : ∀ a, Eligibility.assessOrchestrationEligibility env evals.eligibility = .ok a →
    a.liveOutreachPermitted = false
  channel : ∀ a, Channel.assessChannelAdvisory env evals.channel = .ok a →
    a.governanceConstraints.liveDeliveryPermitted = false ∧
      a.governanceConstraints.governanceScope ≠ "AUTHORIZED"
  decision : ∀ r, Decision.evaluateOrchestrationIntent env evals.decision = .ok r →
    r.intent.governanceScope ≠ "AUTHORIZED"
  outreach : ∀ r,
    (Outreach.coordinateOrchestrationCycle evals.outreachKeys evals.outreach).2 = .ok r →
    r.dispatchAuthorized = false ∧ r.governanceScope ≠ "AUTHORIZED"
  priority : ∀ r,
    (Prioritization.assessOrchestrationPriority evals.priorityKeys evals.priority).2 = r →
    r.scoringEmitAuthorized = false ∧ r.governanceScope ≠ "AUTHORIZED"

/-- The evaluations that get live authority from the mode alone. -/
def LiveByMode (env : RuleEnv) (evals : Evaluations) : Prop :=
  (Eligibility.governancePreconditions evals.eligibility.governance = [] ∧
    Eligibility.PermitsLive env evals.eligibility) ∨
  (Channel.governancePreconditions evals.channel.governance = [] ∧
    Channel.PermitsLive env evals.channel) ∨
  Decision.Authorizes evals.decision

theorem eligibility_uncertified_iff (env : RuleEnv) (ctx : Eligibility.EligibilityContext) :
    (∀ a, Eligibility.assessOrchestrationEligibility env ctx = .ok a →
        a.liveOutreachPermitted = false) ↔
      ¬ (Eligibility.governancePreconditions ctx.governance = [] ∧
        Eligibility.PermitsLive env ctx) := by
  rw [← Eligibility.permitsLive_iff]
  simp

theorem channel_uncertified_iff (env : RuleEnv) (ctx : Channel.ChannelAdvisoryContext) :
    (∀ a, Channel.assessChannelAdvisory env ctx = .ok a →
        a.governanceConstraints.liveDeliveryPermitted = false ∧
          a.governanceConstraints.governanceScope ≠ "AUTHORIZED") ↔
      ¬ (Channel.governancePreconditions ctx.governance = [] ∧ Channel.PermitsLive env ctx) := by
  rw [← Channel.permitsLive_iff]
  simp

theorem decision_uncertified_iff (env : RuleEnv) (ctx : Decision.DecisionContext) :
    (∀ r, Decision.evaluateOrchestrationIntent env ctx = .ok r →
        r.intent.governanceScope ≠ "AUTHORIZED") ↔ ¬ Decision.Authorizes ctx := by
  rw [← Decision.authorizes_iff env]
  simp

/-- The engines keep the certification gate except where the live mode alone opens it. -/
theorem uncertified_iff (env : RuleEnv) (evals : Evaluations) :
    Uncertified env evals ↔ ¬ LiveByMode env evals := by
  rw [LiveByMode]
  rw [not_or, not_or, ← eligibility_uncertified_iff, ← channel_uncertified_iff,
    ← decision_uncertified_iff env]
  constructor
  · intro h
    exact ⟨h.eligibility, h.channel, h.decision⟩
  · intro h
    obtain ⟨heligibility, hchannel, hdecision⟩ := h
    refine ⟨heligibility, hchannel, hdecision, fun r hr => ?_, fun r hr => ?_⟩
    · exact Outreach.coordinateOrchestrationCycle_unauthorized _ hr
    · rw [← hr]
      exact Prioritization.assessOrchestrationPriority_unauthorized _ _

def liveAttribution : List (String × Py.Value) :=
  [("origin_source", .str "scheduler"), ("origin_authority", .str "platform"),
    ("actor_identity", .str "worker"), ("attribution_timestamp", .str "2026-01-01T00:00:00Z")]

/-- An active student in live mode, with an e-mail address and no threshold configured. -/
def liveEvaluations : Evaluations where
  eligibility :=
    { governance :=
        { configVersionId := some "v1"
          configVersionStatus := "ACTIVE"
          configRuleSet := []
          executionMode := "LIVE"
          executionType := "original"
          correlationId := some "c-1"
          causationId := none
          attributionContext := liveAttribution
          fingerprintContext := none
          idempotencyKey := none }
      academic :=
        { userId := some 7
          accessState := some "ACTIVE"
          hwsBehind := some 0
          avgEffRating := none
          lastActivityDays := some 1
          paymentBalance := none
          email := some "student@example.org"
          phoneNumber := none }
      operational := { outreachState := none, contactAttemptCount := 0, retryEligible := false }
      ai :=
        { aiInsightState := none
          aiConfidenceScore := none
          aiStaleFlag := false
          aiFinalizedCopy := false } }
  channel :=
    { governance :=
        { configVersionId := some "v1"
          configVersionStatus := "ACTIVE"
          configRuleSet := []
          executionMode := "LIVE"
          executionType := "original"
          correlationId := some "c-1"
          causationId := none
          attributionContext := liveAttribution
          fingerprintContext := none
          idempotencyKey := none }
      operational := { email := some "student@example.org", phoneNumber := none }
      ai :=
        { aiInsightState := none
          aiConfidenceScore := none
          aiStaleFlag := false
          aiFinalizedCopy := false } }
  decision :=
    { governance :=
        { configVersionId := some "v1"
          configRuleSet := []
          executionMode := "LIVE"
          executionType := "original"
          correlationId := some "c-1"
          causationId := none
          attributionContext := liveAttribution
          fingerprintContext := none }
      academic :=
        { userId := some 7
          accessState := some "ACTIVE"
          hwsBehind := some 0
          avgEffRating := none
          lastActivityDays := some 1
          paymentBalance := none }
      operational := { outreachState := none, contactAttemptCount := 0, retryEligible := false }
      ai :=
        { aiInsightState := none
          aiConfidenceScore := none
          aiStaleFlag := false
          aiFinalizedCopy := false
          aiRecommendedIntervention := none }
      historical := { historicalRiskTrend := none } }
  outreach :=
    { configVersionId := some "v1"
      executionMode := "LIVE"
      executionType := "original"
      correlationId := some "c-1" }
  outreachKeys := []
  priority :=
    { configVersionId := some "v1"
      executionMode := "LIVE"
      executionType := "original"
      correlationId := some "c-1" }
  priorityKeys := []

theorem liveEvaluations_outreach :
    ∃ a, Eligibility.assessOrchestrationEligibility Eligibility.heldEnv
        liveEvaluations.eligibility = .ok a ∧
      a.liveOutreachPermitted = true := ⟨_, rfl, rfl⟩

theorem liveEvaluations_delivery :
    ∃ a, Channel.assessChannelAdvisory Eligibility.heldEnv liveEvaluations.channel = .ok a ∧
      a.governanceConstraints.liveDeliveryPermitted = true ∧
      a.governanceConstraints.governanceScope = "AUTHORIZED" := ⟨_, rfl, rfl, rfl⟩

theorem liveEvaluations_intent :
    ∃ r, Decision.evaluateOrchestrationIntent Eligibility.heldEnv liveEvaluations.decision =
        .ok r ∧
      r.intent.governanceScope = "AUTHORIZED" := ⟨_, rfl, rfl⟩

/-- Three of the engines give the student live authority, with no certification asked for. -/
theorem liveEvaluations_certified :
    (∃ a, Eligibility.assessOrchestrationEligibility Eligibility.heldEnv
        liveEvaluations.eligibility = .ok a ∧ a.liveOutreachPermitted = true) ∧
      (∃ a, Channel.assessChannelAdvisory Eligibility.heldEnv liveEvaluations.channel = .ok a ∧
        a.governanceConstraints.liveDeliveryPermitted = true ∧
        a.governanceConstraints.governanceScope = "AUTHORIZED") ∧
      (∃ r, Decision.evaluateOrchestrationIntent Eligibility.heldEnv liveEvaluations.decision =
        .ok r ∧ r.intent.governanceScope = "AUTHORIZED") ∧
      ¬ Uncertified Eligibility.heldEnv liveEvaluations := by
  refine ⟨liveEvaluations_outreach, liveEvaluations_delivery, liveEvaluations_intent, ?_⟩
  intro h
  obtain ⟨r, hr, hscope⟩ := liveEvaluations_intent
  exact h.decision r hr hscope

end StudentSuccess
