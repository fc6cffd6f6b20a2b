import StudentSuccess.NumericThresholds
import StudentSuccess.CeilingChecks
import StudentSuccess.Alerts

namespace StudentSuccess
set_option autoImplicit true

namespace Eligibility

open RuleChain

/-- The keys whose values the rules compare with. -/
def comparedKeys : List String :=
  [kExclWindow, kMinHws, kMinEff, kMaxInact, kMaxAttempts, kPaymentRisk, kEscRepeat, kHwsHigh,
    kInactHigh]

def EligibilityContext.tolerant (ctx : EligibilityContext) : EligibilityContext :=
  { ctx with
    governance :=
      { ctx.governance with
        configRuleSet := StudentSuccess.tolerant comparedKeys ctx.governance.configRuleSet } }

/-- The second evaluation stands where the first does. -/
def Alike (s s' : Evaluation) : Prop :=
  ∃ codes constraints, s' = { s with codes := codes, constraints := constraints }

def SameExit (e e' : Emission) : Prop :=
  ∃ codes constraints,
    e' = { e with evaluation := { e.evaluation with codes := codes, constraints := constraints } }

section
variable (ctx : EligibilityContext)

theorem t_tolerant_of_mem (key : String) (hkey : key ∈ keyMap) (h : key ∈ comparedKeys) :
    t ctx.tolerant key = onlyNumeric (t ctx key) := by
  rw [t, t, thresholds, thresholds, comparable_threshold takes_all hkey,
    comparable_threshold takes_all hkey]
  exact comparable_tolerant_of_mem h _

theorem t_tolerant_of_not_mem (hkey : key ∈ keyMap) (h : key ∉ comparedKeys) :
    t ctx.tolerant key = t ctx key := by
  rw [t, t, thresholds, thresholds, comparable_threshold takes_all hkey,
    comparable_threshold takes_all hkey]
  exact congrArg comparable (item_tolerant_of_not_mem h _)

theorem attemptsExhausted_extends :
    Py.Extends (attemptsExhausted ctx) (attemptsExhausted ctx.tolerant) := by
  simp only [attemptsExhausted]
  rw [t_tolerant_of_mem ctx _ (by decide) (by decide)]
  exact crosses_extends geValue_raisesOnText _ _

theorem factor_extends (h : Py.Extends crossed crossed') (risk : Risk) :
    Py.Extends (factor crossed risk) (factor crossed' risk) := h.map _

theorem check_extends (val : Option Rat) (highThr medThr : Option Py.Value)
    (highLabel medLabel : String) :
    Py.Extends (check val highThr medThr highLabel medLabel)
      (check val (onlyNumeric highThr) (onlyNumeric medThr) highLabel medLabel) := by
  simp only [check]
  split_ifs
  · exact Py.extends_refl _
  · apply (crosses_extends geValue_raisesOnText val highThr).bind
    intro high
    cases high with
    | true => exact Py.extends_refl _
    | false => exact factor_extends (crosses_extends geValue_raisesOnText val medThr) _

theorem effortRisk_extends : Py.Extends (effortRisk ctx) (effortRisk ctx.tolerant) := by
  have hacademic : ctx.tolerant.academic = ctx.academic := rfl
  simp only [effortRisk]
  rw [t_tolerant_of_mem ctx _ (by decide) (by decide), hacademic]
  split_ifs
  · exact Py.extends_refl _
  · exact factor_extends (crosses_extends ltValue_raisesOnText _ _) _

theorem paymentRisk_extends : Py.Extends (paymentRisk ctx) (paymentRisk ctx.tolerant) := by
  simp only [paymentRisk]
  rw [t_tolerant_of_mem ctx _ (by decide) (by decide)]
  exact factor_extends (crosses_extends gtValue_raisesOnText _ _) _

theorem escalationRisk_extends : Py.Extends (escalationRisk ctx) (escalationRisk ctx.tolerant) := by
  simp only [escalationRisk]
  rw [t_tolerant_of_mem ctx _ (by decide) (by decide)]
  exact factor_extends (crosses_extends geValue_raisesOnText _ _) _

theorem assessRisk_extends : Py.Extends (assessRisk ctx) (assessRisk ctx.tolerant) := by
  have hacademic : ctx.tolerant.academic = ctx.academic := rfl
  have htrend : trendRisk ctx.tolerant = trendRisk ctx := rfl
  simp only [assessRisk]
  rw [t_tolerant_of_mem ctx kHwsHigh (by decide) (by decide),
    t_tolerant_of_mem ctx kMinHws (by decide) (by decide),
    t_tolerant_of_mem ctx kInactHigh (by decide) (by decide),
    t_tolerant_of_mem ctx kMaxInact (by decide) (by decide), hacademic, htrend]
  apply (check_extends _ _ _ _ _).bind
  intro hws
  apply (effortRisk_extends ctx).bind
  intro effort
  apply (check_extends _ _ _ _ _).bind
  intro inactivity
  apply (paymentRisk_extends ctx).bind
  intro payment
  apply (escalationRisk_extends ctx).bind
  intro escalation
  exact Py.extends_refl _

theorem assessAiTier_tolerant : assessAiTier ctx.tolerant = assessAiTier ctx := by
  have hai : ctx.tolerant.ai = ctx.ai := rfl
  simp only [assessAiTier]
  rw [t_tolerant_of_not_mem ctx (by decide) (by decide), hai]

def FollowsIn (r r' : Rule Evaluation Emission) : Prop := FollowsRule Alike SameExit r r'

theorem rule1_follows : FollowsIn (rule1 ctx) (rule1 ctx.tolerant) := by
  intro s s' hs
  obtain ⟨codes, constraints, rfl⟩ := hs
  unfold rule1 EligibilityContext.tolerant
  dsimp only
  split_ifs
  · exact .exit ⟨_, _, rfl⟩
  · exact .next ⟨_, _, rfl⟩

theorem rule2_follows : FollowsIn (rule2 ctx) (rule2 ctx.tolerant) := by
  intro s s' hs
  obtain ⟨codes, constraints, rfl⟩ := hs
  unfold rule2 EligibilityContext.tolerant
  dsimp only
  split_ifs
  · exact .exit ⟨_, _, rfl⟩
  · exact .next ⟨_, _, rfl⟩

theorem rule4_follows : FollowsIn (rule4 ctx) (rule4 ctx.tolerant) := by
  intro s s' hs
  obtain ⟨codes, constraints, rfl⟩ := hs
  unfold rule4 EligibilityContext.tolerant
  dsimp only
  split_ifs
  · exact .exit ⟨_, _, rfl⟩
  · exact .exit ⟨_, _, rfl⟩
  · exact .next ⟨_, _, rfl⟩

theorem rule5_follows : FollowsIn (rule5 ctx) (rule5 ctx.tolerant) := by
  intro s s' hs
  obtain ⟨codes, constraints, rfl⟩ := hs
  have hgov : ctx.tolerant.governance.executionType = ctx.governance.executionType := rfl
  unfold rule5
  rw [assessAiTier_tolerant, hgov]
  dsimp only
  split_ifs
  · exact .exit ⟨_, _, rfl⟩
  · exact .exit ⟨_, _, rfl⟩
  · exact .next ⟨_, _, rfl⟩
  · exact .next ⟨_, _, rfl⟩
  · exact .next ⟨_, _, rfl⟩
  · exact .next ⟨_, _, rfl⟩

theorem rule6_follows : FollowsIn (rule6 ctx) (rule6 ctx.tolerant) := by
  intro s s' hs
  obtain ⟨codes, constraints, rfl⟩ := hs
  have hcontact : noContact ctx.tolerant = noContact ctx := rfl
  unfold rule6
  rw [hcontact]
  dsimp only
  split_ifs
  · exact .exit ⟨_, _, rfl⟩
  · exact .next ⟨_, _, rfl⟩

/-- A malformed window excludes nobody, and neither does none. -/
theorem exclusionActive_tolerant (env : RuleEnv) :
    exclusionActive env ctx.tolerant = exclusionActive env ctx := by
  have hoperational : ctx.tolerant.operational = ctx.operational := rfl
  simp only [exclusionActive]
  rw [t_tolerant_of_mem ctx _ (by decide) (by decide), hoperational]
  by_cases hnumeric : Numeric (t ctx kExclWindow)
  · rw [onlyNumeric_of_numeric hnumeric]
  · rw [onlyNumeric_of_not_numeric hnumeric]
    obtain ⟨excl, hexcl, hnum⟩ : ∃ excl, t ctx kExclWindow = some excl ∧ excl.num? = none := by
      by_contra hnone
      apply hnumeric
      intro w hw hnum
      exact hnone ⟨w, hw, hnum⟩
    rw [hexcl]
    cases ctx.operational.lastContactTimestamp with
    | none => rfl
    | some lastContact =>
      have hraises : withinWindow env lastContact excl ≠ .ok true := by
        intro hwithin
        obtain ⟨last, -, hwithin⟩ := Py.bind_eq_ok.1 hwithin
        obtain ⟨elapsed, -, hwithin⟩ := Py.bind_eq_ok.1 hwithin
        exact (ltValue_raisesOnText _ _).1 ⟨true, hwithin⟩ hnum
      have hfails : succeeds (withinWindow env lastContact excl) = false :=
        Bool.eq_false_of_not_eq_true (mt (succeeds_iff _).1 hraises)
      dsimp only
      rw [hfails, Bool.and_false]

theorem rule7_ends {ctx : EligibilityContext} (h : ExclusionActive env ctx) (s : Evaluation) :
    ∃ codes constraints, rule7 env ctx s = .ok (.exit
      ({ s.rule "RULE_7" with codes := codes, constraints := constraints }.emission
        .none .unknown)) := by
  obtain ⟨excl, lastContact, hexcl, hlast, hne, hwithin⟩ := h
  rw [rule7]
  rw [hexcl, hlast]
  simp only [if_neg hne, hwithin]
  exact ⟨_, _, rfl⟩

theorem rule7_follows (env : RuleEnv) : FollowsIn (rule7 env ctx) (rule7 env ctx.tolerant) := by
  intro s s' hs
  obtain ⟨codes, constraints, rfl⟩ := hs
  by_cases hactive : ExclusionActive env ctx
  · have hactive' : ExclusionActive env ctx.tolerant := by
      rw [← exclusionActive_iff, exclusionActive_tolerant, exclusionActive_iff]
      exact hactive
    obtain ⟨codes₁, constraints₁, h₁⟩ := rule7_ends hactive s
    obtain ⟨codes₂, constraints₂, h₂⟩ :=
      rule7_ends hactive' { s with codes := codes, constraints := constraints }
    rw [h₁, h₂]
    exact .exit ⟨_, _, rfl⟩
  · have hactive' : ¬ ExclusionActive env ctx.tolerant := by
      rw [← exclusionActive_iff, exclusionActive_tolerant, exclusionActive_iff]
      exact hactive
    obtain ⟨codes₁, h₁⟩ := rule7_hands_on hactive s
    obtain ⟨codes₂, h₂⟩ :=
      rule7_hands_on hactive' { s with codes := codes, constraints := constraints }
    rw [h₁, h₂]
    exact .next ⟨_, _, rfl⟩

theorem rule10_follows : FollowsIn (rule10 ctx) (rule10 ctx.tolerant) := by
  intro s s' hs
  obtain ⟨codes, constraints, rfl⟩ := hs
  by_cases hreplay : isReplayType ctx.governance.executionType = true
  · by_cases hblock : replayBlocks ctx.governance = []
    · have h₁ : rule10 ctx s = .ok (.next _) :=
        (if_pos hreplay).trans (if_neg (not_not_intro hblock))
      have h₂ : rule10 ctx.tolerant { s with codes := codes, constraints := constraints } =
          .ok (.next _) := (if_pos hreplay).trans (if_neg (not_not_intro hblock))
      rw [h₁, h₂]
      exact .next ⟨_, _, rfl⟩
    · have h₁ : rule10 ctx s = .ok (.exit _) := (if_pos hreplay).trans (if_pos hblock)
      have h₂ : rule10 ctx.tolerant { s with codes := codes, constraints := constraints } =
          .ok (.exit _) := (if_pos hreplay).trans (if_pos hblock)
      rw [h₁, h₂]
      exact .exit ⟨_, _, rfl⟩
  · have h₁ : rule10 ctx s = .ok (.next s) := if_neg hreplay
    have h₂ : rule10 ctx.tolerant { s with codes := codes, constraints := constraints } =
        .ok (.next _) := if_neg hreplay
    rw [h₁, h₂]
    exact .next ⟨_, _, rfl⟩

theorem candidacy_follows : FollowsIn (candidacy ctx) (candidacy ctx.tolerant) := by
  intro s s' hs
  obtain ⟨codes, constraints, rfl⟩ := hs
  unfold candidacy EligibilityContext.tolerant
  dsimp only
  split_ifs
  · exact .next ⟨_, _, rfl⟩
  · exact .next ⟨_, _, rfl⟩
  · exact .exit ⟨_, _, rfl⟩

theorem rule8_follows : FollowsIn (rule8 ctx) (rule8 ctx.tolerant) := by
  intro s s' hs
  have hextends := attemptsExhausted_extends ctx
  unfold rule8
  match hexhausted : attemptsExhausted ctx with
  | .error e => exact .error e _
  | .ok true =>
    rw [hextends true hexhausted]
    obtain ⟨codes, constraints, rfl⟩ := hs
    exact .exit ⟨_, _, rfl⟩
  | .ok false =>
    rw [hextends false hexhausted]
    obtain ⟨codes, constraints, rfl⟩ := hs
    dsimp +instances only [Evaluation.rule]
    split_ifs with hreplay
    · exact .next ⟨_, _, rfl⟩
    · exact candidacy_follows ctx _ _ ⟨_, _, rfl⟩

theorem rule9_follows : FollowsIn (rule9 ctx) (rule9 ctx.tolerant) := by
  intro s s' hs
  obtain ⟨codes, constraints, rfl⟩ := hs
  have hextends := assessRisk_extends ctx
  unfold rule9
  match hrisk : assessRisk ctx with
  | .error e => exact .error e _
  | .ok risk =>
    rw [hextends risk hrisk]
    exact .next ⟨_, _, rfl⟩

theorem rule11_follows : FollowsIn (rule11 ctx) (rule11 ctx.tolerant) := by
  intro s s' hs
  obtain ⟨codes, constraints, rfl⟩ := hs
  unfold rule11 EligibilityContext.tolerant
  dsimp +instances only [Evaluation.rule]
  split_ifs <;> exact .next ⟨_, _, rfl⟩

theorem rules_follow (env : RuleEnv) :
    List.Forall₂ FollowsIn (rules env ctx) (rules env ctx.tolerant) := by
  refine .cons (rule1_follows ctx) (.cons (rule2_follows ctx) (.cons (rule4_follows ctx)
    (.cons (rule5_follows ctx) (.cons (rule6_follows ctx) (.cons (rule7_follows ctx env)
      (.cons (rule10_follows ctx) (.cons (rule8_follows ctx) (.cons (rule9_follows ctx)
        (.cons (rule11_follows ctx) .nil)))))))))

end

/-- The assessments are the same but for their codes, the constraints and the bindings. -/
def SameAssessment (a a' : OrchestrationEligibilityAssessment) : Prop :=
  a' =
    { a with
      reasonCodes := a'.reasonCodes
      orchestrationConstraints := a'.orchestrationConstraints
      thresholdBindings := a'.thresholdBindings }

theorem thresholdWarnings_tolerant (ctx : EligibilityContext) :
    thresholdWarnings ctx.tolerant = thresholdWarnings ctx :=
  congrArg (List.map thresholdMissingFlag) (missing_tolerant _ _ _)

theorem SameExit.emit (env : RuleEnv) (ctx : EligibilityContext) (h : SameExit e e') :
    SameAssessment (emit env ctx e) (emit env ctx.tolerant e') := by
  obtain ⟨codes, constraints, rfl⟩ := h
  rw [SameAssessment, Eligibility.emit]
  rw [thresholdWarnings_tolerant]
  rfl

/-- What an assessment says is said where the malformed thresholds are the sentinel. -/
theorem assess_tolerant (ha : assessOrchestrationEligibility env ctx = .ok a) :
    ∃ a', assessOrchestrationEligibility env ctx.tolerant = .ok a' ∧ SameAssessment a a' := by
  have hgate : governancePreconditions ctx.tolerant.governance =
      governancePreconditions ctx.governance := rfl
  by_cases h0 : governancePreconditions ctx.governance = []
  · obtain ⟨e, he, rfl⟩ := (assess_eq_ok_iff h0).1 ha
    have hstart : Alike (start ctx) (start ctx.tolerant) := ⟨_, _, rfl⟩
    have hlast : ∀ s s', Alike s s' → SameExit (rule12 s) (rule12 s') := by
      intro s s' hs
      obtain ⟨codes, constraints, rfl⟩ := hs
      exact ⟨_, _, rfl⟩
    obtain ⟨e', he', hsame⟩ := eval_follows (rules_follow ctx env) hlast hstart he
    exact ⟨_, (assess_eq_ok_iff (hgate.trans h0)).2 ⟨e', he', rfl⟩, hsame.emit env ctx⟩
  · rw [assessOrchestrationEligibility, if_pos h0] at ha
    cases ha
    refine ⟨makeBlocked env ctx.tolerant (governancePreconditions ctx.governance), ?_, rfl⟩
    rw [assessOrchestrationEligibility, hgate, if_pos h0]

/-- The evaluation returns, and takes the malformed thresholds for the sentinel. -/
def Tolerates (env : RuleEnv) (ctx : EligibilityContext) : Prop :=
  ∃ a a', assessOrchestrationEligibility env ctx = .ok a ∧
    assessOrchestrationEligibility env ctx.tolerant = .ok a' ∧ SameAssessment a a'

theorem tolerates_iff_returns (env : RuleEnv) (ctx : EligibilityContext) :
    Tolerates env ctx ↔ Py.Returns (assessOrchestrationEligibility env ctx) :=
  Py.exists_match_iff fun _ => assess_tolerant

def ReplayBlocked (ctx : EligibilityContext) : Prop :=
  isReplayType ctx.governance.executionType = true ∧ replayBlocks ctx.governance ≠ []

/-- RULE 8 hands the student on to RULE 9, the attempts not being exhausted. -/
def PassesRule8 (ctx : EligibilityContext) : Prop :=
  isReplayType ctx.governance.executionType = true ∨ RetryCandidate ctx ∨
    FirstOutreachCandidate ctx

def EvaluationCompares (env : RuleEnv) (ctx : EligibilityContext) : Prop :=
  governancePreconditions ctx.governance = [] → ReachesRule8 env ctx → ¬ ReplayBlocked ctx →
    Compares (attempts ctx) (t ctx kMaxAttempts) ∧
      (AtLeast (attempts ctx) (t ctx kMaxAttempts) ∨ (PassesRule8 ctx → RiskCompares ctx))

theorem candidacyEnding_returns_iff (ctx : EligibilityContext) :
    Py.Returns (candidacyEnding ctx) ↔
      Compares (attempts ctx) (t ctx kMaxAttempts) ∧
        (AtLeast (attempts ctx) (t ctx kMaxAttempts) ∨ (PassesRule8 ctx → RiskCompares ctx)) := by
  have hreturns : Py.Returns (attemptsExhausted ctx) ↔ _ :=
    crosses_returns_iff geValue_raisesOnText (attempts ctx) (t ctx kMaxAttempts)
  have htrue : attemptsExhausted ctx = .ok true ↔ _ :=
    crosses_geValue_iff (attempts ctx) (t ctx kMaxAttempts)
  have hpasses : isReplayType ctx.governance.executionType = true ∨ candidate ctx = true ↔
      PassesRule8 ctx := or_congr_right (candidate_iff ctx)
  rw [← hreturns, ← htrue, ← assessRisk_returns_iff, ← hpasses]
  unfold candidacyEnding
  match attemptsExhausted ctx with
  | .error e => simp
  | .ok true => simp
  | .ok false =>
    split_ifs with hpass
    · simp [hpass]
    · simp [hpass]

/-- The assessment returns exactly when none of the comparisons it makes raises. -/
theorem assess_returns_iff (env : RuleEnv) (ctx : EligibilityContext) :
    Py.Returns (assessOrchestrationEligibility env ctx) ↔ EvaluationCompares env ctx := by
  rw [EvaluationCompares]
  by_cases h0 : governancePreconditions ctx.governance = []
  · rw [Py.Returns, ← (agree_assess env h0).returns_iff, ← candidacyEnding_returns_iff]
    by_cases hlate : ReachesRule8 env ctx
    · have hwindow : ¬ exclusionActive env ctx = true :=
        mt (exclusionActive_iff env ctx).1 hlate.window
      rw [ending]
      simp only [if_neg hlate.opened, if_neg hlate.free, if_neg hlate.notRevoked,
        if_neg hlate.notSuspended, if_neg hlate.advised, if_neg hlate.contact, if_neg hwindow]
      by_cases hblocked : ReplayBlocked ctx
      · rw [ReplayBlocked] at hblocked
        rw [if_pos hblocked]
        exact iff_of_true ⟨_, rfl⟩ fun _ _ h => absurd hblocked h
      · have hnot := hblocked
        rw [ReplayBlocked] at hnot
        rw [if_neg hnot]
        exact ⟨fun h _ _ _ => h, fun h => h h0 hlate hblocked⟩
    · obtain ⟨x, hx, -⟩ := ending_beforeRule8 hlate
      exact iff_of_true ⟨x, hx⟩ fun _ h => absurd h hlate
  · rw [assessOrchestrationEligibility, if_pos h0]
    exact iff_of_true (Py.returns_ok _) fun h => absurd h h0

end Eligibility

namespace Decision

open RuleChain

def comparedKeys : List String :=
  [kMaxAttempts, kHwsRisk, kEffRisk, kInactivityRisk, kPaymentRisk, kEscalationRepeat]

def DecisionContext.tolerant (ctx : DecisionContext) : DecisionContext :=
  { ctx with
    governance :=
      { ctx.governance with
        configRuleSet := StudentSuccess.tolerant comparedKeys ctx.governance.configRuleSet } }

section
variable (ctx : DecisionContext)

theorem t_tolerant (key : String) (hkey : key ∈ thresholdKeys) (h : key ∈ comparedKeys) :
    t ctx.tolerant key = onlyNumeric (t ctx key) := by
  rw [t, t, thresholds, thresholds, comparable_threshold takes_resolvable hkey,
    comparable_threshold takes_resolvable hkey]
  exact comparable_tolerant_of_mem h _

theorem attemptsExhausted_extends :
    Py.Extends (attemptsExhausted ctx) (attemptsExhausted ctx.tolerant) := by
  simp only [attemptsExhausted]
  rw [t_tolerant ctx _ (by decide) (by decide)]
  exact crosses_extends geValue_raisesOnText _ _

theorem retryEligible_extends :
    Py.Extends (retryEligible ctx) (retryEligible ctx.tolerant) := by
  have hoperational : ctx.tolerant.operational = ctx.operational := rfl
  unfold retryEligible
  rw [t_tolerant ctx _ (by decide) (by decide), hoperational]
  dsimp only
  split_ifs
  · exact (crosses_extends ltValue_raisesOnText _ _).map _
  · exact Py.extends_refl _

theorem factor_extends (h : Py.Extends crossed crossed') (name : String) :
    Py.Extends (factor crossed name) (factor crossed' name) := h.map _

theorem computeRisk_extends (tier : AiTier) :
    Py.Extends (computeRisk ctx tier) (computeRisk ctx.tolerant tier) := by
  have hacademic : ctx.tolerant.academic = ctx.academic := rfl
  have hhistorical : ctx.tolerant.historical = ctx.historical := rfl
  simp only [computeRisk]
  rw [t_tolerant ctx kHwsRisk (by decide) (by decide),
    t_tolerant ctx kEffRisk (by decide) (by decide),
    t_tolerant ctx kInactivityRisk (by decide) (by decide),
    t_tolerant ctx kPaymentRisk (by decide) (by decide),
    t_tolerant ctx kEscalationRepeat (by decide) (by decide), hacademic, hhistorical]
  apply (factor_extends (crosses_extends geValue_raisesOnText _ _) _).bind
  intro hws
  apply (factor_extends (crosses_extends ltValue_raisesOnText _ _) _).bind
  intro effort
  apply (factor_extends (crosses_extends gtValue_raisesOnText _ _) _).bind
  intro inactivity
  apply (factor_extends (crosses_extends gtValue_raisesOnText _ _) _).bind
  intro payment
  apply (factor_extends (crosses_extends geValue_raisesOnText _ _) _).bind
  intro escalation
  exact Py.extends_refl _

def FollowsIn (r r' : Rule Deliberation Decided) : Prop := FollowsRule Eq Eq r r'

theorem follows_of_eq {r r' : Rule Deliberation Decided} (h : r' = r) : FollowsIn r r' := by
  subst h
  exact followsRule_refl (fun _ => rfl) _

theorem rule6_follows : FollowsIn (rule6 ctx) (rule6 ctx.tolerant) := by
  intro s s' hs
  subst hs
  have hextends := attemptsExhausted_extends ctx
  unfold rule6
  match hexhausted : attemptsExhausted ctx with
  | .error e => exact .error e _
  | .ok true =>
    rw [hextends true hexhausted]
    exact .exit rfl
  | .ok false =>
    rw [hextends false hexhausted]
    exact .next rfl

theorem rule7_follows : FollowsIn (rule7 ctx) (rule7 ctx.tolerant) := by
  intro s s' hs
  subst hs
  have hextends := computeRisk_extends ctx s.aiTier
  unfold rule7
  match hrisk : computeRisk ctx s.aiTier with
  | .error e => exact .error e _
  | .ok (level, factors) =>
    rw [hextends (level, factors) hrisk]
    exact .next rfl

theorem rule11_follows : FollowsIn (rule11 ctx) (rule11 ctx.tolerant) := by
  intro s s' hs
  subst hs
  have hextends := retryEligible_extends ctx
  unfold rule11
  match hretry : retryEligible ctx with
  | .error e => exact .error e _
  | .ok true =>
    rw [hextends true hretry]
    exact .exit rfl
  | .ok false =>
    rw [hextends false hretry]
    match s.r10Intent with
    | some r10Intent => exact .exit rfl
    | none => exact .next rfl

theorem rules_follow : List.Forall₂ FollowsIn (rules ctx) (rules ctx.tolerant) := by
  refine .cons (follows_of_eq rfl) (.cons (follows_of_eq rfl) (.cons (follows_of_eq rfl)
    (.cons (follows_of_eq rfl) (.cons (rule6_follows ctx) (.cons (rule7_follows ctx)
      (.cons (follows_of_eq rfl) (.cons (follows_of_eq rfl) (.cons (follows_of_eq rfl)
        (.cons (rule11_follows ctx) (.cons (follows_of_eq rfl) .nil))))))))))

end

/-- The results are the same but for the warnings of their thresholds. -/
def SameDecision (r r' : GovernanceDecisionResult) : Prop :=
  r' = { r with configThresholdWarnings := r'.configThresholdWarnings }

theorem evaluate_tolerant (hr : evaluateOrchestrationIntent env ctx = .ok r) :
    ∃ r', evaluateOrchestrationIntent env ctx.tolerant = .ok r' ∧ SameDecision r r' := by
  have hgov : validateGovernancePreconditions ctx.tolerant.governance =
      validateGovernancePreconditions ctx.governance := rfl
  unfold evaluateOrchestrationIntent at hr ⊢
  rw [hgov]
  match hblocked : validateGovernancePreconditions ctx.governance with
  | some blocked =>
    rw [hblocked] at hr
    cases hr
    exact ⟨_, rfl, rfl⟩
  | none =>
    rw [hblocked] at hr
    dsimp only at hr ⊢
    by_cases hreplay : isReplayType ctx.governance.executionType = true
    · rw [if_pos hreplay] at hr
      cases hr
      exact ⟨_, if_pos hreplay, rfl⟩
    · rw [if_neg hreplay] at hr
      obtain ⟨decided, hdecided, rfl⟩ := Py.map_eq_ok.1 hr
      have hlast : ∀ s s', s = s' → rule14 ctx s = rule14 ctx.tolerant s' := by
        intro s s' hs
        subst hs
        rfl
      obtain ⟨decided', hdecided', rfl⟩ := eval_follows (rules_follow ctx) hlast rfl hdecided
      exact ⟨_, (if_neg hreplay).trans (Py.map_eq_ok.2 ⟨_, hdecided', rfl⟩), rfl⟩

def Tolerates (env : RuleEnv) (ctx : DecisionContext) : Prop :=
  ∃ r r', evaluateOrchestrationIntent env ctx = .ok r ∧
    evaluateOrchestrationIntent env ctx.tolerant = .ok r' ∧ SameDecision r r'

theorem tolerates_iff_returns (env : RuleEnv) (ctx : DecisionContext) :
    Tolerates env ctx ↔ Py.Returns (evaluateOrchestrationIntent env ctx) :=
  Py.exists_match_iff fun _ => evaluate_tolerant

theorem evaluate_returns_iff (env : RuleEnv) (ctx : DecisionContext) :
    Py.Returns (evaluateOrchestrationIntent env ctx) ↔ (Resolves ctx → EvaluationCompares ctx) := by
  by_cases h0 : preconditionCodes ctx.governance = []
  · cases hreplay : isReplayType ctx.governance.executionType with
    | true =>
      rw [evaluate_replay env h0 hreplay]
      exact iff_of_true (Py.returns_ok _) fun h => absurd (hreplay.symm.trans h.2) Bool.noConfusion
    | false =>
      have hresolves : Resolves ctx := ⟨h0, hreplay⟩
      rw [evaluate_eq env h0 hreplay, Py.returns_map, ← decides_iff]
      constructor
      · intro h _
        obtain ⟨decided, hdecided⟩ := h
        exact ⟨decided, hdecided, trivial⟩
      · intro h
        obtain ⟨decided, hdecided, -⟩ := h hresolves
        exact ⟨decided, hdecided⟩
  · apply iff_of_true _ fun h => absurd h.1 h0
    rw [evaluateOrchestrationIntent, validateGovernancePreconditions]
    simp only [if_neg h0]
    exact Py.returns_ok _

end Decision

namespace Alerts

def comparedKeys : List String :=
  [kSchedulerHeartbeatMs, kSyncStaleHours, kAiStaleHighHours, kAiAbsentCriticalHours,
    kStuckWorkflowHighHours, kStuckComplianceHighHours, kProviderRetryLimit]

def AlertClassificationContext.tolerant (ctx : AlertClassificationContext) :
    AlertClassificationContext :=
  { ctx with configRuleSet := ctx.configRuleSet.map (StudentSuccess.tolerant comparedKeys) }

/-- What a signal is compared with, if there is anything to compare it with. -/
def limit (ctx : AlertClassificationContext) (key : String) : Option Py.Value :=
  comparable (threshold (resolveAlertThresholds ctx) key)

/-- Both sides are there, and the first is more than the second. -/
def Above (x : Option Rat) (v : Option Py.Value) : Prop :=
  ∃ y w z, x = some y ∧ v = some w ∧ w.num? = some z ∧ z < y

theorem crosses_gtValue_iff (x : Option Rat) (v : Option Py.Value) :
    crosses Py.gtValue x v = .ok true ↔ Above x v := by
  cases x with
  | none => simp [crosses, Above]
  | some y =>
    cases v with
    | none => simp [crosses, Above]
    | some w =>
      cases hw : w.num? with
      | none => simp [crosses, Above, Py.gtValue, hw]
      | some z => simp [crosses, Above, Py.gtValue, hw]

def schedulerLag (ctx : AlertClassificationContext) : Option Rat :=
  ctx.schedulerLagMs.map fun n => (n : Rat)

def retries (ctx : AlertClassificationContext) : Option Rat :=
  ctx.retryCount.map fun n => (n : Rat)

section
variable (ctx : AlertClassificationContext)

theorem limit_tolerant (key : String) (hkey : key ∈ alertThresholdKeys)
    (h : key ∈ comparedKeys) : limit ctx.tolerant key = onlyNumeric (limit ctx key) := by
  have hruleSet : ctx.tolerant.configRuleSet.getD [] =
      StudentSuccess.tolerant comparedKeys (ctx.configRuleSet.getD []) := by
    rw [AlertClassificationContext.tolerant]
    cases ctx.configRuleSet with
    | none => rfl
    | some ruleSet => rfl
  rw [limit, limit, resolveAlertThresholds, resolveAlertThresholds, hruleSet,
    comparable_threshold takes_all hkey, comparable_threshold takes_all hkey]
  exact comparable_tolerant_of_mem h _

/-- A signal is compared with the limit of its key. -/
theorem reaches_eq (rel : Rat → Py.Value → Except Py.Error Bool) (key : String)
    (signal : Option Rat) :
    reaches rel (resolveAlertThresholds ctx) key signal = crosses rel signal (limit ctx key) := rfl

theorem reaches_extends {rel : Rat → Py.Value → Except Py.Error Bool} (hrel : RaisesOnText rel)
    (key : String) (hkey : key ∈ alertThresholdKeys) (h : key ∈ comparedKeys)
    (signal : Option Rat) :
    Py.Extends (reaches rel (resolveAlertThresholds ctx) key signal)
      (reaches rel (resolveAlertThresholds ctx.tolerant) key signal) := by
  rw [reaches_eq, reaches_eq, limit_tolerant ctx key hkey h]
  exact crosses_extends hrel _ _

theorem exceeds_extends (key : String) (hkey : key ∈ alertThresholdKeys) (h : key ∈ comparedKeys)
    (signal : Option Rat) :
    Py.Extends (exceeds (resolveAlertThresholds ctx) key signal)
      (exceeds (resolveAlertThresholds ctx.tolerant) key signal) :=
  reaches_extends ctx gtValue_raisesOnText key hkey h signal

theorem schedulerSeverity_extends :
    Py.Extends (schedulerSeverity ctx (resolveAlertThresholds ctx))
      (schedulerSeverity ctx.tolerant (resolveAlertThresholds ctx.tolerant)) := by
  apply Py.Extends.test
  · exact exceeds_extends ctx _ (by decide) (by decide) _
  · apply Py.Extends.test
    · exact exceeds_extends ctx _ (by decide) (by decide) _
    · exact Py.extends_refl _

theorem synchronizationSeverity_extends :
    Py.Extends (synchronizationSeverity ctx (resolveAlertThresholds ctx))
      (synchronizationSeverity ctx.tolerant (resolveAlertThresholds ctx.tolerant)) := by
  apply Py.Extends.test
  · exact exceeds_extends ctx _ (by decide) (by decide) _
  · exact Py.extends_refl _

theorem aiSeverity_extends :
    Py.Extends (aiSeverity ctx (resolveAlertThresholds ctx))
      (aiSeverity ctx.tolerant (resolveAlertThresholds ctx.tolerant)) := by
  apply Py.Extends.test
  · exact exceeds_extends ctx _ (by decide) (by decide) _
  · apply Py.Extends.test
    · exact exceeds_extends ctx _ (by decide) (by decide) _
    · exact Py.extends_refl _

theorem providerSeverity_extends :
    Py.Extends (providerSeverity ctx (resolveAlertThresholds ctx))
      (providerSeverity ctx.tolerant (resolveAlertThresholds ctx.tolerant)) := by
  apply Py.Extends.ite
  · exact Py.extends_refl _
  · apply Py.Extends.ite
    · exact Py.extends_refl _
    · apply Py.Extends.test
      · exact reaches_extends ctx geValue_raisesOnText _ (by decide) (by decide) _
      · exact Py.extends_refl _

theorem complianceSeverity_extends :
    Py.Extends (complianceSeverity ctx (resolveAlertThresholds ctx))
      (complianceSeverity ctx.tolerant (resolveAlertThresholds ctx.tolerant)) := by
  apply Py.Extends.ite
  · apply Py.Extends.test
    · exact exceeds_extends ctx _ (by decide) (by decide) _
    · exact Py.extends_refl _
  · exact Py.extends_refl _

theorem orchestrationSeverity_extends :
    Py.Extends (orchestrationSeverity ctx (resolveAlertThresholds ctx))
      (orchestrationSeverity ctx.tolerant (resolveAlertThresholds ctx.tolerant)) := by
  apply Py.Extends.test
  · exact exceeds_extends ctx _ (by decide) (by decide) _
  · exact Py.extends_refl _

theorem classifySeverity_extends :
    Py.Extends (classifySeverity ctx (resolveAlertThresholds ctx))
      (classifySeverity ctx.tolerant (resolveAlertThresholds ctx.tolerant)) := by
  apply (schedulerSeverity_extends ctx).ite
  apply (synchronizationSeverity_extends ctx).ite
  apply (aiSeverity_extends ctx).ite
  apply (providerSeverity_extends ctx).ite
  apply (complianceSeverity_extends ctx).ite
  apply (orchestrationSeverity_extends ctx).ite
  -- The domains that are left are settled without a threshold.
  exact Py.extends_refl _

def LimitCompares (key : String) (signal : Option Rat) : Prop := Compares signal (limit ctx key)

/-- No comparison that decides the severity of the domain raises. -/
def SeverityCompares : Prop :=
  (domainOf ctx = "scheduler" → LimitCompares ctx kSchedulerHeartbeatMs (schedulerLag ctx) ∧
    (Above (schedulerLag ctx) (limit ctx kSchedulerHeartbeatMs) ∨
      LimitCompares ctx kStuckWorkflowHighHours ctx.workflowStuckHours)) ∧
  (domainOf ctx = "synchronization" → LimitCompares ctx kSyncStaleHours ctx.syncLagHours) ∧
  (domainOf ctx = "ai" → LimitCompares ctx kAiAbsentCriticalHours ctx.aiAbsentHours ∧
    (Above ctx.aiAbsentHours (limit ctx kAiAbsentCriticalHours) ∨
      LimitCompares ctx kAiStaleHighHours ctx.aiStaleHours)) ∧
  (domainOf ctx = "provider" → ctx.circuitBreakerOpen = false → ctx.providerOutageActive = false →
    LimitCompares ctx kProviderRetryLimit (retries ctx)) ∧
  (domainOf ctx = "compliance" → ctx.complianceHoldActive = true →
    LimitCompares ctx kStuckComplianceHighHours ctx.workflowStuckHours) ∧
  (domainOf ctx = "orchestration" →
    LimitCompares ctx kStuckWorkflowHighHours ctx.workflowStuckHours)

theorem exceeds_returns_iff (key : String) (signal : Option Rat) :
    Py.Returns (exceeds (resolveAlertThresholds ctx) key signal) ↔ LimitCompares ctx key signal :=
  crosses_returns_iff gtValue_raisesOnText _ _

theorem exceeds_iff (key : String) (signal : Option Rat) :
    exceeds (resolveAlertThresholds ctx) key signal = .ok true ↔ Above signal (limit ctx key) :=
  crosses_gtValue_iff _ _

theorem tests_return_iff (key key' : String) (signal signal' : Option Rat)
    (severity severity' other : Severity) :
    Py.Returns (exceeds (resolveAlertThresholds ctx) key signal >>= fun crossed =>
      if crossed = true then pure severity else
        exceeds (resolveAlertThresholds ctx) key' signal' >>= fun crossed' =>
          if crossed' = true then pure severity' else pure other) ↔
      LimitCompares ctx key signal ∧
        (Above signal (limit ctx key) ∨ LimitCompares ctx key' signal') := by
  rw [Py.returns_test (Py.returns_pure _), Py.returns_test (Py.returns_pure _),
    exceeds_returns_iff, exceeds_iff, exceeds_returns_iff]
  simp only [Py.returns_pure, or_true, and_true]

theorem test_returns_iff (key : String) (signal : Option Rat) (severity other : Severity) :
    Py.Returns (exceeds (resolveAlertThresholds ctx) key signal >>= fun crossed =>
      if crossed = true then pure severity else pure other) ↔ LimitCompares ctx key signal := by
  rw [Py.returns_test (Py.returns_pure _), exceeds_returns_iff]
  simp only [Py.returns_pure, or_true, and_true]

theorem schedulerSeverity_returns_iff :
    Py.Returns (schedulerSeverity ctx (resolveAlertThresholds ctx)) ↔
      LimitCompares ctx kSchedulerHeartbeatMs (schedulerLag ctx) ∧
        (Above (schedulerLag ctx) (limit ctx kSchedulerHeartbeatMs) ∨
          LimitCompares ctx kStuckWorkflowHighHours ctx.workflowStuckHours) :=
  tests_return_iff ctx _ _ _ _ _ _ _

theorem aiSeverity_returns_iff :
    Py.Returns (aiSeverity ctx (resolveAlertThresholds ctx)) ↔
      LimitCompares ctx kAiAbsentCriticalHours ctx.aiAbsentHours ∧
        (Above ctx.aiAbsentHours (limit ctx kAiAbsentCriticalHours) ∨
          LimitCompares ctx kAiStaleHighHours ctx.aiStaleHours) :=
  tests_return_iff ctx _ _ _ _ _ _ _

theorem providerSeverity_returns_iff :
    Py.Returns (providerSeverity ctx (resolveAlertThresholds ctx)) ↔
      (ctx.circuitBreakerOpen = false → ctx.providerOutageActive = false →
        LimitCompares ctx kProviderRetryLimit (retries ctx)) := by
  have htest : Py.Returns (reaches Py.geValue (resolveAlertThresholds ctx) kProviderRetryLimit
      (retries ctx)) ↔ LimitCompares ctx kProviderRetryLimit (retries ctx) :=
    crosses_returns_iff geValue_raisesOnText _ _
  rw [providerSeverity]
  split_ifs with hbreaker houtage
  · simp [hbreaker]
  · simp [houtage]
  · simp only [Bool.not_eq_true] at hbreaker houtage
    simp only [hbreaker, houtage, forall_const]
    rw [← htest]
    refine (Py.returns_test (Py.returns_pure _)).trans ?_
    simp only [Py.returns_pure, or_true, and_true]
    exact Iff.rfl

theorem complianceSeverity_returns_iff :
    Py.Returns (complianceSeverity ctx (resolveAlertThresholds ctx)) ↔
      (ctx.complianceHoldActive = true →
        LimitCompares ctx kStuckComplianceHighHours ctx.workflowStuckHours) := by
  rw [complianceSeverity]
  split_ifs with hhold
  · simp only [hhold, forall_const]
    exact test_returns_iff ctx _ _ _ _
  · simp [hhold]

theorem synchronizationSeverity_returns_iff :
    Py.Returns (synchronizationSeverity ctx (resolveAlertThresholds ctx)) ↔
      LimitCompares ctx kSyncStaleHours ctx.syncLagHours :=
  test_returns_iff ctx _ _ _ _

theorem orchestrationSeverity_returns_iff :
    Py.Returns (orchestrationSeverity ctx (resolveAlertThresholds ctx)) ↔
      LimitCompares ctx kStuckWorkflowHighHours ctx.workflowStuckHours :=
  test_returns_iff ctx _ _ _ _

/-- The severity is found exactly when none of the comparisons that decide it raises. -/
theorem classifySeverity_returns_iff :
    Py.Returns (classifySeverity ctx (resolveAlertThresholds ctx)) ↔ SeverityCompares ctx := by
  unfold classifySeverity
  dsimp only
  by_cases hscheduler : domainOf ctx = "scheduler"
  · rw [if_pos hscheduler, schedulerSeverity_returns_iff]
    simp [SeverityCompares, hscheduler]
  rw [if_neg hscheduler]
  by_cases hsync : domainOf ctx = "synchronization"
  · rw [if_pos hsync, synchronizationSeverity_returns_iff]
    simp [SeverityCompares, hsync]
  rw [if_neg hsync]
  by_cases hai : domainOf ctx = "ai"
  · rw [if_pos hai, aiSeverity_returns_iff]
    simp [SeverityCompares, hai]
  rw [if_neg hai]
  by_cases hprovider : domainOf ctx = "provider"
  · rw [if_pos hprovider, providerSeverity_returns_iff]
    simp [SeverityCompares, hprovider]
  rw [if_neg hprovider]
  by_cases hcompliance : domainOf ctx = "compliance"
  · rw [if_pos hcompliance, complianceSeverity_returns_iff]
    simp [SeverityCompares, hcompliance]
  rw [if_neg hcompliance]
  by_cases horchestration : domainOf ctx = "orchestration"
  · rw [if_pos horchestration, orchestrationSeverity_returns_iff]
    simp [SeverityCompares, horchestration]
  rw [if_neg horchestration]
  -- The domains that are left are settled without a threshold.
  apply iff_of_true
  · repeat apply Py.returns_ite (Py.returns_ok _)
    exact Py.returns_ok _
  · exact ⟨fun h => absurd h hscheduler, fun h => absurd h hsync, fun h => absurd h hai,
      fun h => absurd h hprovider, fun h => absurd h hcompliance,
      fun h => absurd h horchestration⟩

end

/-- The records are the same but for the bindings of the thresholds. -/
def SameAlert (r r' : DegradationAlertRecord) : Prop :=
  r' = { r with thresholdBindings := r'.thresholdBindings }

theorem evaluate_tolerant (hr : evaluate ctx = .ok r) :
    ∃ r', evaluate ctx.tolerant = .ok r' ∧ SameAlert r r' := by
  obtain ⟨severity, hseverity, hr⟩ := Py.bind_eq_ok.1 hr
  cases hr
  have hseverity' := classifySeverity_extends ctx severity hseverity
  refine ⟨_, Py.bind_eq_ok.2 ⟨severity, hseverity', rfl⟩, ?_⟩
  rw [SameAlert, makeUnclassified]
  dsimp only
  rfl

theorem evaluate_returns_iff (ctx : AlertClassificationContext) :
    Py.Returns (evaluate ctx) ↔ SeverityCompares ctx :=
  Py.returns_bind_pure.trans (classifySeverity_returns_iff ctx)

theorem classify_tolerant (hr : (classifyDegradationAlert keys ctx).2 = .ok r) :
    ∃ r', (classifyDegradationAlert keys ctx.tolerant).2 = .ok r' ∧ SameAlert r r' := by
  have hgate : governancePreconditionGate keys ctx.tolerant =
      governancePreconditionGate keys ctx := rfl
  unfold classifyDegradationAlert at hr ⊢
  rw [hgate]
  dsimp only at hr ⊢
  by_cases h0 : governancePreconditionGate keys ctx = []
  · rw [if_neg (not_not_intro h0)] at hr ⊢
    by_cases hmaintenance : ctx.maintenanceModeActive = true
    · rw [if_pos hmaintenance] at hr
      cases hr
      refine ⟨_, congrArg Prod.snd (if_pos hmaintenance), rfl⟩
    · rw [if_neg hmaintenance] at hr
      have hnot : ¬ ctx.tolerant.maintenanceModeActive = true := hmaintenance
      rw [if_neg hnot]
      by_cases hreplay : ctx.executionType ∈ replayTypes
      · rw [if_pos hreplay] at hr
        cases hr
        exact ⟨_, congrArg Prod.snd (if_pos hreplay), rfl⟩
      · rw [if_neg hreplay] at hr
        have hlive : ctx.tolerant.executionType ∉ replayTypes := hreplay
        rw [if_neg hlive]
        exact evaluate_tolerant hr
  · rw [if_pos h0] at hr ⊢
    cases hr
    exact ⟨_, rfl, rfl⟩

def Tolerates (keys : List String) (ctx : AlertClassificationContext) : Prop :=
  ∃ r r', (classifyDegradationAlert keys ctx).2 = .ok r ∧
    (classifyDegradationAlert keys ctx.tolerant).2 = .ok r' ∧ SameAlert r r'

theorem tolerates_iff_returns (keys : List String) (ctx : AlertClassificationContext) :
    Tolerates keys ctx ↔ Py.Returns (classifyDegradationAlert keys ctx).2 :=
  Py.exists_match_iff fun _ => classify_tolerant

/-- The classification comes to the severity. -/
structure Classifies (keys : List String) (ctx : AlertClassificationContext) : Prop where
  gate : governancePreconditionGate keys ctx = []
  running : ctx.maintenanceModeActive = false
  live : ctx.executionType ∉ replayTypes

theorem classify_returns_iff (keys : List String) (ctx : AlertClassificationContext) :
    Py.Returns (classifyDegradationAlert keys ctx).2 ↔
      (Classifies keys ctx → SeverityCompares ctx) := by
  unfold classifyDegradationAlert
  dsimp only
  by_cases h0 : governancePreconditionGate keys ctx = []
  · rw [if_neg (not_not_intro h0)]
    by_cases hmaintenance : ctx.maintenanceModeActive = true
    · rw [if_pos hmaintenance]
      exact iff_of_true (Py.returns_ok _)
        fun h => absurd (hmaintenance.symm.trans h.running) Bool.noConfusion
    · rw [if_neg hmaintenance]
      by_cases hreplay : ctx.executionType ∈ replayTypes
      · rw [if_pos hreplay]
        exact iff_of_true (Py.returns_ok _) fun h => absurd hreplay h.live
      · rw [if_neg hreplay, evaluate_returns_iff]
        have hclassifies : Classifies keys ctx :=
          ⟨h0, Bool.eq_false_of_not_eq_true hmaintenance, hreplay⟩
        exact ⟨fun h _ => h, fun h => h hclassifies⟩
  · rw [if_pos h0]
    exact iff_of_true (Py.returns_ok _) fun h => absurd h.gate h0

end Alerts

end StudentSuccess
