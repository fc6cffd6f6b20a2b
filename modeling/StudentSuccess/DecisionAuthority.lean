import StudentSuccess.DecisionEngine

namespace StudentSuccess
namespace Decision
set_option autoImplicit true

open RuleChain

/-- RULES 1 to 5A end the evaluation. -/
def EndsEarly (ctx : DecisionContext) : Prop :=
  ctx.operational.outreachState = some "CLOSED" ∨
    ctx.governance.complianceHoldFlag = true ∨
    ctx.academic.accessState = some "REVOKED" ∨ ctx.academic.accessState = some "SUSPENDED" ∨
    ctx.governance.executionType = "original" ∧ ctx.ai.aiFinalizedCopy = false ∧
      (ctx.ai.aiInsightState = some "AI_GENERATING" ∨ ctx.ai.aiInsightState = some "AI_PENDING")

def attempts (ctx : DecisionContext) : Option Rat := some ctx.operational.contactAttemptCount

structure RiskCompares (ctx : DecisionContext) : Prop where
  hws : Compares (ctx.academic.hwsBehind.map (↑)) (t ctx kHwsRisk)
  effort : Compares ctx.academic.avgEffRating (t ctx kEffRisk)
  inactivity : Compares (ctx.academic.lastActivityDays.map (↑)) (t ctx kInactivityRisk)
  payment : Compares ctx.academic.paymentBalance (t ctx kPaymentRisk)
  escalation : Compares (some ctx.historical.priorEscalationCount) (t ctx kEscalationRepeat)

/-- No comparison that the evaluation makes raises. -/
def EvaluationCompares (ctx : DecisionContext) : Prop :=
  EndsEarly ctx ∨ Compares (attempts ctx) (t ctx kMaxAttempts) ∧
    (AtLeast (attempts ctx) (t ctx kMaxAttempts) ∨ RiskCompares ctx)

theorem computeRisk_returns_iff (ctx : DecisionContext) (aiTier : AiTier) :
    Py.Returns (computeRisk ctx aiTier) ↔ RiskCompares ctx := by
  have hsteps : Py.Returns (computeRisk ctx aiTier) ↔ _ ∧ _ ∧ _ ∧ _ ∧ _ :=
    Py.returns_bind_iff fun _ => Py.returns_bind_iff fun _ => Py.returns_bind_iff fun _ =>
      Py.returns_bind_iff fun _ => Py.returns_bind_pure
  simp only [hsteps, factor, Py.returns_map, crosses_returns_iff geValue_raisesOnText,
    crosses_returns_iff ltValue_raisesOnText, crosses_returns_iff gtValue_raisesOnText]
  constructor
  · intro h
    obtain ⟨hhws, heffort, hinactivity, hpayment, hescalation⟩ := h
    exact ⟨hhws, heffort, hinactivity, hpayment, hescalation⟩
  · intro h
    exact ⟨h.hws, h.effort, h.inactivity, h.payment, h.escalation⟩

/-- RULE 11 compares with a ceiling that RULE 6 has compared with already. -/
theorem retryEligible_returns (h : Compares (attempts ctx) (t ctx kMaxAttempts)) :
    Py.Returns (retryEligible ctx) := by
  unfold retryEligible
  dsimp only
  split_ifs
  · exact Py.returns_map.2 ((crosses_returns_iff ltValue_raisesOnText _ _).2 h)
  · exact Py.returns_ok _

/-- The scope of an intent follows the mode and the type of its execution. -/
def Scoped (ctx : DecisionContext) (decided : Decided) : Prop :=
  decided.intent.governanceScope =
    governanceScope ctx.governance.executionMode ctx.governance.executionType

/-- Every field that an exit does not choose is the context's. -/
def Made (ctx : DecisionContext) (decided : Decided) : Prop :=
  decided.intent = makeIntent ctx decided.intent.orchestrationIntent
    decided.intent.intentConfidence decided.intent.recommendedExecutionPath
    decided.intent.rulePathTaken decided.intent.reasonCodes decided.intent.decisionBasis
    decided.intent.escalationMetadata decided.intent.aiContext

theorem rule1_makes (ctx : DecisionContext) : Keeps (fun _ => True) (fun _ => True) (Made ctx)
    (rule1 ctx) := by
  intro s _
  rw [rule1]
  split_ifs
  · exact rfl
  · trivial

theorem rule2_makes (ctx : DecisionContext) : Keeps (fun _ => True) (fun _ => True) (Made ctx)
    (rule2 ctx) := by
  intro s _
  rw [rule2]
  split_ifs
  · exact rfl
  · trivial

theorem rule4_makes (ctx : DecisionContext) : Keeps (fun _ => True) (fun _ => True) (Made ctx)
    (rule4 ctx) := by
  intro s _
  rw [rule4]
  split_ifs
  · exact rfl
  · exact rfl
  · trivial

theorem rule5_makes (ctx : DecisionContext) : Keeps (fun _ => True) (fun _ => True) (Made ctx)
    (rule5 ctx) := by
  intro s _
  rw [rule5]
  dsimp only
  split_ifs
  · exact rfl
  · trivial

theorem rule6_makes (ctx : DecisionContext) : Keeps (fun _ => True) (fun _ => True) (Made ctx)
    (rule6 ctx) := by
  intro s _
  rw [rule6]
  match attemptsExhausted ctx with
  | .error e => trivial
  | .ok true => exact rfl
  | .ok false => trivial

theorem rule7_makes (ctx : DecisionContext) : Keeps (fun _ => True) (fun _ => True) (Made ctx)
    (rule7 ctx) := by
  intro s _
  rw [rule7]
  match computeRisk ctx s.aiTier with
  | .error e => trivial
  | .ok (level, _) => trivial

theorem rule8_makes (ctx : DecisionContext) : Keeps (fun _ => True) (fun _ => True) (Made ctx)
    (rule8 ctx) := by
  intro s _
  by_cases hcritical : s.riskLevel = some .critical
  · rw [rule8, if_pos hcritical]
    exact rfl
  · rw [rule8, if_neg hcritical]
    trivial

theorem rule9_makes (ctx : DecisionContext) : Keeps (fun _ => True) (fun _ => True) (Made ctx)
    (rule9 ctx) := by
  intro s _
  by_cases hhigh : s.riskLevel = some .high
  · rw [rule9, if_pos hhigh]
    exact rfl
  · rw [rule9, if_neg hhigh]
    trivial

theorem rule10_makes (ctx : DecisionContext) : Keeps (fun _ => True) (fun _ => True) (Made ctx)
    (rule10 ctx) := by
  intro s _
  rw [rule10]
  split_ifs
  · trivial
  · trivial

theorem rule11_makes (ctx : DecisionContext) : Keeps (fun _ => True) (fun _ => True) (Made ctx)
    (rule11 ctx) := by
  intro s _
  rw [rule11]
  match retryEligible ctx, s.r10Intent with
  | .error e, _ => trivial
  | .ok true, _ => exact rfl
  | .ok false, some r10Intent => exact rfl
  | .ok false, none => trivial

theorem rule12_makes (ctx : DecisionContext) : Keeps (fun _ => True) (fun _ => True) (Made ctx)
    (rule12 ctx) := by
  intro s _
  unfold rule12
  dsimp only
  split_ifs
  · exact rfl
  · trivial

theorem rules_make (ctx : DecisionContext) :
    Ensures (rule14 ctx) (fun _ => True) (Made ctx) (rules ctx) := by
  apply ensures_of_keeps
  · intro r hr
    simp only [rules, List.mem_cons, List.not_mem_nil, or_false] at hr
    rcases hr with rfl | rfl | rfl | rfl | rfl | rfl | rfl | rfl | rfl | rfl | rfl
    · exact rule1_makes ctx
    · exact rule2_makes ctx
    · exact rule4_makes ctx
    · exact rule5_makes ctx
    · exact rule6_makes ctx
    · exact rule7_makes ctx
    · exact rule8_makes ctx
    · exact rule9_makes ctx
    · exact rule10_makes ctx
    · exact rule11_makes ctx
    · exact rule12_makes ctx
  · intro s _
    rfl

theorem rules_scoped (ctx : DecisionContext) :
    Ensures (rule14 ctx) (fun _ => True) (Scoped ctx) (rules ctx) := by
  intro s hs decided hdecided
  exact congrArg OrchestrationIntent.governanceScope (rules_make ctx s hs decided hdecided)

def Decides (ctx : DecisionContext) (rest : List (Rule Deliberation Decided)) (s : Deliberation) :
    Prop :=
  Yields (rule14 ctx) rest s fun _ => True

theorem decides_exit {r : Rule Deliberation Decided} (h : r s = .ok (.exit out)) :
    Decides ctx (r :: rest) s := (yields_exit h).2 trivial

theorem decides_next {r : Rule Deliberation Decided} (h : r s = .ok (.next s')) :
    Decides ctx (r :: rest) s ↔ Decides ctx rest s' := yields_next h

theorem not_decides {r : Rule Deliberation Decided} (h : r s = .error e) :
    ¬ Decides ctx (r :: rest) s := yields_error h

theorem decides_rule12 (s : Deliberation) : Decides ctx [rule12 ctx] s := by
  by_cases h : ctx.operational.contactAttemptCount = 0 ∧
      (ctx.operational.outreachState = some "ELIGIBLE" ∨
        ctx.operational.outreachState = some "QUEUED" ∨ ctx.operational.outreachState = none)
  · exact decides_exit (if_pos h)
  · exact (decides_next (if_neg h)).2 (yields_nil.2 trivial)

theorem rule11_cases (h : Compares (attempts ctx) (t ctx kMaxAttempts)) (s : Deliberation) :
    (∃ out, rule11 ctx s = .ok (.exit out)) ∨ rule11 ctx s = .ok (.next s) := by
  obtain ⟨retry, hretry⟩ := retryEligible_returns h
  rw [rule11, hretry]
  match retry, s.r10Intent with
  | true, _ => exact .inl ⟨_, rfl⟩
  | false, some r10Intent => exact .inl ⟨_, rfl⟩
  | false, none => exact .inr rfl

theorem decides_rule11 (h : Compares (attempts ctx) (t ctx kMaxAttempts)) (s : Deliberation) :
    Decides ctx [rule11 ctx, rule12 ctx] s := by
  rcases rule11_cases h s with ⟨out, hout⟩ | hnext
  · exact decides_exit hout
  · rw [decides_next hnext]
    exact decides_rule12 s

theorem decides_rule8 (h : Compares (attempts ctx) (t ctx kMaxAttempts)) (s : Deliberation) :
    Decides ctx [rule8 ctx, rule9 ctx, rule10 ctx, rule11 ctx, rule12 ctx] s := by
  by_cases hcritical : s.riskLevel = some .critical
  · exact decides_exit (if_pos hcritical)
  · rw [decides_next (if_neg hcritical)]
    by_cases hhigh : s.riskLevel = some .high
    · exact decides_exit (if_pos hhigh)
    · rw [decides_next (if_neg hhigh)]
      by_cases hai : (s.aiTier = .confident ∨ s.aiTier = .advisory) ∧
          ctx.ai.aiRecommendedIntervention.any (recommendedInterventions.contains ·)
      · rw [decides_next (if_pos hai)]
        exact decides_rule11 h _
      · rw [decides_next (if_neg hai)]
        exact decides_rule11 h _

theorem decides_rule7 (h : Compares (attempts ctx) (t ctx kMaxAttempts)) (s : Deliberation) :
    Decides ctx [rule7 ctx, rule8 ctx, rule9 ctx, rule10 ctx, rule11 ctx, rule12 ctx] s ↔
      RiskCompares ctx := by
  have hreturns := computeRisk_returns_iff ctx s.aiTier
  match hrisk : computeRisk ctx s.aiTier with
  | .error e =>
    rw [hrisk] at hreturns
    have hraise : rule7 ctx s = .error e := by rw [rule7, hrisk]
    exact iff_of_false (not_decides hraise) fun h => Py.not_returns_error e (hreturns.2 h)
  | .ok (level, factors) =>
    rw [hrisk] at hreturns
    rw [decides_next (by rw [rule7, hrisk])]
    exact iff_of_true (decides_rule8 h _) (hreturns.1 (Py.returns_ok _))

theorem decides_rule6 (s : Deliberation) :
    Decides ctx [rule6 ctx, rule7 ctx, rule8 ctx, rule9 ctx, rule10 ctx, rule11 ctx, rule12 ctx] s ↔
      Compares (attempts ctx) (t ctx kMaxAttempts) ∧
        (AtLeast (attempts ctx) (t ctx kMaxAttempts) ∨ RiskCompares ctx) := by
  have hreturns : Py.Returns (attemptsExhausted ctx) ↔ _ :=
    crosses_returns_iff geValue_raisesOnText (attempts ctx) (t ctx kMaxAttempts)
  have htrue : attemptsExhausted ctx = .ok true ↔ _ :=
    crosses_geValue_iff (attempts ctx) (t ctx kMaxAttempts)
  match hexhausted : attemptsExhausted ctx with
  | .error e =>
    rw [hexhausted] at hreturns
    have hraise : rule6 ctx s = .error e := by rw [rule6, hexhausted]
    exact iff_of_false (not_decides hraise) fun h => Py.not_returns_error e (hreturns.2 h.1)
  | .ok true =>
    rw [hexhausted] at hreturns
    exact iff_of_true (decides_exit (by rw [rule6, hexhausted]))
      ⟨hreturns.1 (Py.returns_ok _), .inl (htrue.1 hexhausted)⟩
  | .ok false =>
    have hnot : ¬ AtLeast (attempts ctx) (t ctx kMaxAttempts) := by
      intro hat
      cases hexhausted.symm.trans (htrue.2 hat)
    rw [hexhausted] at hreturns
    have hcompares := hreturns.1 (Py.returns_ok _)
    rw [decides_next (by rw [rule6, hexhausted]), decides_rule7 hcompares]
    simp only [hcompares, hnot, true_and, false_or]

theorem inFlight_iff (ai : AIInputContext) :
    (assessAiTier ai).1 = .inFlight ↔ ai.aiFinalizedCopy = false ∧
      (ai.aiInsightState = some "AI_GENERATING" ∨ ai.aiInsightState = some "AI_PENDING") := by
  rw [assessAiTier]
  cases hcopy : ai.aiFinalizedCopy with
  | true => simp
  | false =>
    by_cases hstate : ai.aiInsightState = some "AI_GENERATING" ∨
        ai.aiInsightState = some "AI_PENDING"
    · simp [hstate]
    · simp only [hstate, and_false, iff_false, Bool.false_eq_true, if_false]
      split_ifs <;> simp

theorem closed_iff (ctx : DecisionContext) :
    ctx.operational.outreachState.any (terminalStates.contains ·) = true ↔
      ctx.operational.outreachState = some "CLOSED" := by
  cases ctx.operational.outreachState with
  | none => simp
  | some state => simp [terminalStates]

/-- An evaluation that the first rules let through is up to the comparisons of the others. -/
theorem decides_rule5 (hclosed : ctx.operational.outreachState ≠ some "CLOSED")
    (hhold : ctx.governance.complianceHoldFlag ≠ true)
    (hrevoked : ctx.academic.accessState ≠ some "REVOKED")
    (hsuspended : ctx.academic.accessState ≠ some "SUSPENDED") (s : Deliberation) :
    Decides ctx [rule5 ctx, rule6 ctx, rule7 ctx, rule8 ctx, rule9 ctx, rule10 ctx, rule11 ctx,
      rule12 ctx] s ↔ EvaluationCompares ctx := by
  by_cases hdefer : (assessAiTier ctx.ai).1 = .inFlight ∧ ctx.governance.executionType = "original"
  · have hflight := (inFlight_iff ctx.ai).1 hdefer.1
    exact iff_of_true (decides_exit (if_pos hdefer))
      (.inl (.inr (.inr (.inr (.inr ⟨hdefer.2, hflight⟩)))))
  · have hlate : ¬ EndsEarly ctx := by
      intro h
      rcases h with h | h | h | h | ⟨horiginal, hflight⟩
      · exact hclosed h
      · exact hhold h
      · exact hrevoked h
      · exact hsuspended h
      · exact hdefer ⟨(inFlight_iff ctx.ai).2 hflight, horiginal⟩
    rw [decides_next (if_neg hdefer), decides_rule6, EvaluationCompares]
    exact (or_iff_right hlate).symm

theorem decides_iff (ctx : DecisionContext) :
    Decides ctx (rules ctx) start ↔ EvaluationCompares ctx := by
  by_cases hclosed : ctx.operational.outreachState.any (terminalStates.contains ·) = true
  · exact iff_of_true (decides_exit (if_pos hclosed)) (.inl (.inl ((closed_iff ctx).1 hclosed)))
  · rw [rules, decides_next (if_neg hclosed)]
    by_cases hhold : ctx.governance.complianceHoldFlag = true
    · exact iff_of_true (decides_exit (if_pos hhold)) (.inl (.inr (.inl hhold)))
    · rw [decides_next (if_neg hhold)]
      by_cases hrevoked : ctx.academic.accessState = some "REVOKED"
      · exact iff_of_true (decides_exit (if_pos hrevoked)) (.inl (.inr (.inr (.inl hrevoked))))
      · by_cases hsuspended : ctx.academic.accessState = some "SUSPENDED"
        · exact iff_of_true (decides_exit ((if_neg hrevoked).trans (if_pos hsuspended)))
            (.inl (.inr (.inr (.inr (.inl hsuspended)))))
        · rw [decides_next ((if_neg hrevoked).trans (if_neg hsuspended))]
          exact decides_rule5 (mt (closed_iff ctx).2 hclosed) hhold hrevoked hsuspended _

theorem validate_eq_none_iff (gov : GovernanceContext) :
    validateGovernancePreconditions gov = none ↔ preconditionCodes gov = [] := by
  unfold validateGovernancePreconditions
  dsimp only
  split_ifs with hcodes
  · exact iff_of_true rfl hcodes
  · exact iff_of_false (by simp) hcodes

theorem executionMode_valid (h0 : preconditionCodes gov = []) :
    gov.executionMode = "SHADOW" ∨ gov.executionMode = "LIVE" := by
  by_contra hmode
  rw [not_or] at hmode
  simp [preconditionCodes, validModes, hmode] at h0

theorem governanceScope_authorized_iff (h0 : preconditionCodes gov = []) :
    governanceScope gov.executionMode gov.executionType = "AUTHORIZED" ↔
      gov.executionMode = "LIVE" ∧ isReplayType gov.executionType = false := by
  rw [governanceScope]
  cases hreplay : isReplayType gov.executionType with
  | true => simp
  | false =>
    rcases executionMode_valid h0 with hmode | hmode
    · simp [hmode]
    · simp [hmode]

/-- What an evaluation must meet to return an authorized intent. -/
structure Authorizes (ctx : DecisionContext) : Prop where
  gate : preconditionCodes ctx.governance = []
  mode : ctx.governance.executionMode = "LIVE"
  type : isReplayType ctx.governance.executionType = false
  compares : EvaluationCompares ctx

theorem evaluate_eq (env : RuleEnv) (h0 : preconditionCodes ctx.governance = [])
    (hreplay : isReplayType ctx.governance.executionType = false) :
    evaluateOrchestrationIntent env ctx =
      (eval (rule14 ctx) (rules ctx) start).map fun decided =>
        { intent := decided.intent
          riskLevel := decided.riskLevel
          configThresholdWarnings := thresholdWarnings ctx
          degradationFlags := []
          studentIdOpaque := opaqueId env.sha256 "ssip:uid:" ctx.academic.userId } := by
  rw [evaluateOrchestrationIntent]
  rw [(validate_eq_none_iff _).2 h0]
  simp [hreplay]

theorem evaluate_blocked (env : RuleEnv) (h0 : preconditionCodes ctx.governance ≠ [])
    (h : evaluateOrchestrationIntent env ctx = .ok r) :
    r.intent.governanceScope = "UNAVAILABLE" := by
  rw [evaluateOrchestrationIntent, validateGovernancePreconditions] at h
  simp only [if_neg h0] at h
  cases h
  rfl

theorem evaluate_replay (env : RuleEnv) (h0 : preconditionCodes ctx.governance = [])
    (hreplay : isReplayType ctx.governance.executionType = true) :
    evaluateOrchestrationIntent env ctx = .ok (evaluateReplayIntent env ctx) := by
  rw [evaluateOrchestrationIntent]
  rw [(validate_eq_none_iff _).2 h0]
  simp [hreplay]

/-- The engine returns an authorized intent exactly for the contexts that authorize it. -/
theorem authorizes_iff (env : RuleEnv) (ctx : DecisionContext) :
    (∃ r, evaluateOrchestrationIntent env ctx = .ok r ∧
        r.intent.governanceScope = "AUTHORIZED") ↔ Authorizes ctx := by
  by_cases h0 : preconditionCodes ctx.governance = []
  · cases hreplay : isReplayType ctx.governance.executionType with
    | true =>
      rw [evaluate_replay env h0 hreplay]
      apply iff_of_false
      · intro h
        obtain ⟨r, hr, hscope⟩ := h
        cases hr
        simp [evaluateReplayIntent] at hscope
      · intro h
        cases hreplay.symm.trans h.type
    | false =>
      rw [evaluate_eq env h0 hreplay]
      constructor
      · intro h
        obtain ⟨r, hr, hscope⟩ := h
        match hdecided : eval (rule14 ctx) (rules ctx) start with
        | .error e =>
          rw [hdecided] at hr
          cases hr
        | .ok decided =>
          rw [hdecided] at hr
          cases hr
          have hscoped : Scoped ctx decided := rules_scoped ctx start trivial decided hdecided
          have hlive := (governanceScope_authorized_iff h0).1 (hscoped.symm.trans hscope)
          exact ⟨h0, hlive.1, hlive.2, (decides_iff ctx).1 ⟨decided, hdecided, trivial⟩⟩
      · intro h
        obtain ⟨decided, hdecided, -⟩ := (decides_iff ctx).2 h.compares
        have hscoped : Scoped ctx decided := rules_scoped ctx start trivial decided hdecided
        rw [hdecided]
        exact ⟨_, rfl, hscoped.trans ((governanceScope_authorized_iff h0).2 ⟨h.mode, h.type⟩)⟩
  · apply iff_of_false
    · intro h
      obtain ⟨r, hr, hscope⟩ := h
      rw [evaluate_blocked env h0 hr] at hscope
      simp at hscope
    · intro h
      exact h0 h.gate

end Decision
end StudentSuccess
