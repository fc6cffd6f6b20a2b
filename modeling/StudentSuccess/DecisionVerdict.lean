import StudentSuccess.DecisionAuthority

namespace StudentSuccess
namespace Decision
set_option autoImplicit true

open RuleChain

/-- What a decision says: the intent, the risk level, and whether AI took part. -/
structure Verdict where
  intent : IntentType
  riskLevel : Option Priority := none
  assisted : Bool := false

def basisText (assisted : Bool) : String := if assisted then "AI_ASSISTED" else "RULE_BASED"

/-- An intent and a risk level say what the verdict says. -/
structure Verdict.Holds (v : Verdict) (i : OrchestrationIntent) (risk : Option Priority) :
    Prop where
  intent : i.orchestrationIntent = v.intent
  riskLevel : risk = v.riskLevel
  basis : i.decisionBasis = basisText v.assisted
  used : i.aiContext.aiInputUsed = v.assisted

def aiTier (ctx : DecisionContext) : AiTier := (assessAiTier ctx.ai).1

def Deferred (ctx : DecisionContext) : Prop :=
  aiTier ctx = .inFlight ∧ ctx.governance.executionType = "original"

instance : Decidable (Deferred ctx) := inferInstanceAs (Decidable (_ ∧ _))

/-- The condition of RULE 10. -/
def Recommends (ctx : DecisionContext) : Prop :=
  (aiTier ctx = .confident ∨ aiTier ctx = .advisory) ∧
    ctx.ai.aiRecommendedIntervention.any (recommendedInterventions.contains ·)

instance : Decidable (Recommends ctx) := inferInstanceAs (Decidable (_ ∧ _))

/-- The condition of RULE 11. -/
def retries (ctx : DecisionContext) : Bool := succeeds (retryEligible ctx)

/-- The condition of RULE 12. -/
def FirstContact (ctx : DecisionContext) : Prop :=
  ctx.operational.contactAttemptCount = 0 ∧
    (ctx.operational.outreachState = some "ELIGIBLE" ∨
      ctx.operational.outreachState = some "QUEUED" ∨ ctx.operational.outreachState = none)

instance : Decidable (FirstContact ctx) := inferInstanceAs (Decidable (_ ∧ _))

/-- RULES 10 to 14, on a level that does not escalate. -/
def calmVerdict (ctx : DecisionContext) (level : Priority) : Verdict :=
  if retries ctx then ⟨.retryOutreach, some level, decide (Recommends ctx)⟩
  else if Recommends ctx then ⟨.recommendIntervention, some level, true⟩
  else if FirstContact ctx then ⟨.initiateOutreach, some level, false⟩
  else ⟨.noEligibleIntent, some level, false⟩

/-- RULES 8 to 14. -/
def levelVerdict (ctx : DecisionContext) (level : Priority) : Verdict :=
  if level = .critical ∨ level = .high then ⟨.escalateToOperator, some level, false⟩
  else calmVerdict ctx level

/-- RULES 6 to 14. -/
def lateVerdict (ctx : DecisionContext) : Except Py.Error Verdict :=
  match attemptsExhausted ctx with
  | .error e => .error e
  | .ok true => .ok { intent := .closeOrchestration }
  | .ok false => (computeRisk ctx (aiTier ctx)).map fun risk => levelVerdict ctx risk.1

/-- What the evaluation decides, as a function of what the rules test. -/
def verdict (ctx : DecisionContext) : Except Py.Error Verdict :=
  if ctx.operational.outreachState = some "CLOSED" then .ok { intent := .noEligibleIntent }
  else if ctx.governance.complianceHoldFlag then .ok { intent := .escalateToOperator }
  else if ctx.academic.accessState = some "REVOKED" then .ok { intent := .escalateToOperator }
  else if ctx.academic.accessState = some "SUSPENDED" then .ok { intent := .noEligibleIntent }
  else if Deferred ctx then .ok { intent := .deferPendingAi }
  else lateVerdict ctx

theorem assessAiTier_unused (ai : AIInputContext) : (assessAiTier ai).2.aiInputUsed = false := by
  rw [assessAiTier]
  split_ifs <;> rfl

def Says (v : Verdict) (out : Decided) : Prop := v.Holds out.intent out.riskLevel

section
variable {ctx : DecisionContext} {s : Deliberation}

theorem rule12_initiates (h : FirstContact ctx) (hunused : s.aiOut.aiInputUsed = false) :
    ∃ out, rule12 ctx s = .ok (.exit out) ∧ Says ⟨.initiateOutreach, s.riskLevel, false⟩ out :=
  ⟨_, if_pos h, rfl, rfl, rfl, hunused⟩

theorem rule11_retries (hretry : retryEligible ctx = .ok true)
    (hused : s.aiOut.aiInputUsed = s.r10Intent.isSome) :
    ∃ out, rule11 ctx s = .ok (.exit out) ∧
      Says ⟨.retryOutreach, s.riskLevel, s.r10Intent.isSome⟩ out := by
  rw [rule11, hretry]
  exact ⟨_, rfl, rfl, rfl, rfl, hused⟩

theorem rule11_recommends (hretry : retryEligible ctx = .ok false)
    (hr10 : s.r10Intent = some .recommendIntervention) (hused : s.aiOut.aiInputUsed = true) :
    ∃ out, rule11 ctx s = .ok (.exit out) ∧
      Says ⟨.recommendIntervention, s.riskLevel, true⟩ out := by
  rw [rule11, hretry, hr10]
  exact ⟨_, rfl, rfl, rfl, rfl, hused⟩

theorem rule11_passes (hretry : retryEligible ctx = .ok false) (hr10 : s.r10Intent = none) :
    rule11 ctx s = .ok (.next s) := by
  rw [rule11, hretry, hr10]

theorem agree_rule12 (hunused : s.aiOut.aiInputUsed = false) :
    Agree Says
      (.ok (if FirstContact ctx then ⟨.initiateOutreach, s.riskLevel, false⟩
        else ⟨.noEligibleIntent, s.riskLevel, false⟩) : Except Py.Error Verdict)
      (eval (rule14 ctx) [rule12 ctx] s) := by
  by_cases hfirst : FirstContact ctx
  · rw [if_pos hfirst]
    obtain ⟨out, hout, hsays⟩ := rule12_initiates hfirst hunused
    exact agree_exit hout hsays
  · rw [if_neg hfirst]
    have hnext : rule12 ctx s = .ok (.next s) := if_neg hfirst
    exact agree_next hnext (.ok ⟨rfl, rfl, rfl, hunused⟩)

/-- What RULE 10 leaves. -/
structure Recommended (ctx : DecisionContext) (s : Deliberation) : Prop where
  intent : s.r10Intent = if Recommends ctx then some .recommendIntervention else none
  used : s.aiOut.aiInputUsed = decide (Recommends ctx)

theorem Recommended.isSome (h : Recommended ctx s) :
    s.r10Intent.isSome = decide (Recommends ctx) := by
  rw [h.intent]
  by_cases hrecommend : Recommends ctx
  · rw [if_pos hrecommend, decide_eq_true hrecommend]
    rfl
  · rw [if_neg hrecommend, decide_eq_false hrecommend]
    rfl

theorem agree_rule11 (hcompares : Compares (attempts ctx) (t ctx kMaxAttempts))
    (hlevel : s.riskLevel = some level) (h : Recommended ctx s) :
    Agree Says (.ok (calmVerdict ctx level) : Except Py.Error Verdict)
      (eval (rule14 ctx) [rule11 ctx, rule12 ctx] s) := by
  have hretry : retryEligible ctx = .ok (retries ctx) :=
    eq_ok_succeeds (retryEligible_returns hcompares)
  rw [calmVerdict]
  rw [← hlevel]
  cases hagain : retries ctx with
  | true =>
    rw [hagain] at hretry
    obtain ⟨out, hout, hsays⟩ := rule11_retries hretry (h.used.trans h.isSome.symm)
    rw [h.isSome] at hsays
    exact agree_exit hout hsays
  | false =>
    rw [hagain] at hretry
    rw [if_neg Bool.false_ne_true]
    by_cases hrecommend : Recommends ctx
    · rw [if_pos hrecommend]
      obtain ⟨out, hout, hsays⟩ := rule11_recommends hretry (h.intent.trans (if_pos hrecommend))
        (h.used.trans (decide_eq_true hrecommend))
      exact agree_exit hout hsays
    · rw [if_neg hrecommend]
      apply agree_next (rule11_passes hretry (h.intent.trans (if_neg hrecommend)))
      exact agree_rule12 (h.used.trans (decide_eq_false hrecommend))

structure Scored (ctx : DecisionContext) (level : Priority) (s : Deliberation) : Prop where
  level : s.riskLevel = some level
  tier : s.aiTier = aiTier ctx
  r10Intent : s.r10Intent = none
  unused : s.aiOut.aiInputUsed = false

theorem rule10_recommends (h : Recommends ctx) (hs : Scored ctx level s) :
    ∃ s', rule10 ctx s = .ok (.next s') ∧ s'.riskLevel = some level ∧ Recommended ctx s' := by
  obtain ⟨htier, hintervention⟩ := h
  rw [← hs.tier] at htier
  have hrecommend : Recommends ctx := ⟨hs.tier ▸ htier, hintervention⟩
  exact ⟨_, if_pos ⟨htier, hintervention⟩, hs.level, (if_pos hrecommend).symm,
    (decide_eq_true hrecommend).symm⟩

theorem rule10_passes (h : ¬ Recommends ctx) (hs : Scored ctx level s) :
    rule10 ctx s = .ok (.next s) := by
  apply if_neg
  rw [hs.tier]
  exact h

theorem agree_rule10 (hcompares : Compares (attempts ctx) (t ctx kMaxAttempts))
    (hs : Scored ctx level s) :
    Agree Says (.ok (calmVerdict ctx level) : Except Py.Error Verdict)
      (eval (rule14 ctx) [rule10 ctx, rule11 ctx, rule12 ctx] s) := by
  by_cases hrecommend : Recommends ctx
  · obtain ⟨s', hnext, hlevel, hleft⟩ := rule10_recommends hrecommend hs
    exact agree_next hnext (agree_rule11 hcompares hlevel hleft)
  · apply agree_next (rule10_passes hrecommend hs)
    apply agree_rule11 hcompares hs.level
    exact ⟨hs.r10Intent.trans (if_neg hrecommend).symm,
      hs.unused.trans (decide_eq_false hrecommend).symm⟩

theorem rule8_escalates (h : s.riskLevel = some .critical) (hunused : s.aiOut.aiInputUsed = false) :
    ∃ out, rule8 ctx s = .ok (.exit out) ∧
      Says ⟨.escalateToOperator, some .critical, false⟩ out := by
  refine ⟨_, if_pos h, rfl, h, ?_, hunused⟩
  exact if_neg (hunused ▸ Bool.false_ne_true)

theorem rule9_escalates (h : s.riskLevel = some .high) (hunused : s.aiOut.aiInputUsed = false) :
    ∃ out, rule9 ctx s = .ok (.exit out) ∧ Says ⟨.escalateToOperator, some .high, false⟩ out :=
  ⟨_, if_pos h, rfl, h, rfl, hunused⟩

theorem agree_rule8 (hcompares : Compares (attempts ctx) (t ctx kMaxAttempts))
    (hs : Scored ctx level s) :
    Agree Says (.ok (levelVerdict ctx level) : Except Py.Error Verdict)
      (eval (rule14 ctx) [rule8 ctx, rule9 ctx, rule10 ctx, rule11 ctx, rule12 ctx] s) := by
  rw [levelVerdict]
  by_cases hcritical : level = .critical
  · subst hcritical
    obtain ⟨out, hout, hsays⟩ := rule8_escalates hs.level hs.unused
    exact agree_exit hout hsays
  · have hnot8 : s.riskLevel ≠ some .critical := hs.level ▸ mt Option.some.inj hcritical
    have hnext8 : rule8 ctx s = .ok (.next s) := if_neg hnot8
    apply agree_next hnext8
    by_cases hhigh : level = .high
    · subst hhigh
      obtain ⟨out, hout, hsays⟩ := rule9_escalates hs.level hs.unused
      exact agree_exit hout hsays
    · have hnot9 : s.riskLevel ≠ some .high := hs.level ▸ mt Option.some.inj hhigh
      have hnext9 : rule9 ctx s = .ok (.next s) := if_neg hnot9
      rw [if_neg (not_or.2 ⟨hcritical, hhigh⟩)]
      exact agree_next hnext9 (agree_rule10 hcompares hs)

structure Tiered (ctx : DecisionContext) (s : Deliberation) : Prop where
  tier : s.aiTier = aiTier ctx
  r10Intent : s.r10Intent = none
  unused : s.aiOut.aiInputUsed = false

theorem agree_rule7 (hcompares : Compares (attempts ctx) (t ctx kMaxAttempts))
    (hs : Tiered ctx s) :
    Agree Says ((computeRisk ctx (aiTier ctx)).map fun risk => levelVerdict ctx risk.1)
      (eval (rule14 ctx) [rule7 ctx, rule8 ctx, rule9 ctx, rule10 ctx, rule11 ctx, rule12 ctx]
        s) := by
  match hrisk : computeRisk ctx (aiTier ctx) with
  | .error e => exact agree_error (by rw [rule7, hs.tier, hrisk])
  | .ok (level, _) =>
    apply agree_next (by rw [rule7, hs.tier, hrisk])
    apply agree_rule8 hcompares
    exact ⟨rfl, hs.tier, hs.r10Intent, hs.unused⟩

theorem agree_rule6 (hs : Tiered ctx s) :
    Agree Says (lateVerdict ctx)
      (eval (rule14 ctx)
        [rule6 ctx, rule7 ctx, rule8 ctx, rule9 ctx, rule10 ctx, rule11 ctx, rule12 ctx] s) := by
  have hreturns : Py.Returns (attemptsExhausted ctx) ↔ _ :=
    crosses_returns_iff geValue_raisesOnText (attempts ctx) (t ctx kMaxAttempts)
  rw [lateVerdict]
  match hexhausted : attemptsExhausted ctx with
  | .error e => exact agree_error (by rw [rule6, hexhausted])
  | .ok true => exact agree_exit (by rw [rule6, hexhausted]) ⟨rfl, rfl, rfl, rfl⟩
  | .ok false =>
    rw [hexhausted] at hreturns
    apply agree_next (by rw [rule6, hexhausted])
    apply agree_rule7 (hreturns.1 (Py.returns_ok _))
    exact ⟨hs.tier, hs.r10Intent, hs.unused⟩

theorem rule1_passes (h : ctx.operational.outreachState ≠ some "CLOSED") (s : Deliberation) :
    rule1 ctx s = .ok (.next (s.rule "RULE_1_PASS")) :=
  if_neg (mt (closed_iff ctx).1 h)

theorem rule2_passes (h : ctx.governance.complianceHoldFlag ≠ true) (s : Deliberation) :
    rule2 ctx s = .ok (.next (s.rule "RULE_2_PASS")) :=
  if_neg h

theorem rule4_passes (hrevoked : ctx.academic.accessState ≠ some "REVOKED")
    (hsuspended : ctx.academic.accessState ≠ some "SUSPENDED") (s : Deliberation) :
    rule4 ctx s = .ok (.next (s.rule "RULE_4_PASS")) :=
  (if_neg hrevoked).trans (if_neg hsuspended)

theorem rule5_passes (h : ¬ Deferred ctx) (hr10 : s.r10Intent = none) :
    ∃ s', rule5 ctx s = .ok (.next s') ∧ Tiered ctx s' :=
  ⟨_, if_neg h, rfl, hr10, assessAiTier_unused ctx.ai⟩

theorem rule5_defers (h : Deferred ctx) (s : Deliberation) :
    ∃ out, rule5 ctx s = .ok (.exit out) ∧ Says { intent := .deferPendingAi } out :=
  ⟨_, if_pos h, rfl, rfl, rfl, assessAiTier_unused ctx.ai⟩

/-- Past RULE 0 the rules decide what the verdict says, or raise what it raises. -/
theorem agree_rules (ctx : DecisionContext) :
    Agree Says (verdict ctx) (eval (rule14 ctx) (rules ctx) start) := by
  rw [verdict]
  by_cases hclosed : ctx.operational.outreachState = some "CLOSED"
  · rw [if_pos hclosed]
    exact agree_exit (if_pos ((closed_iff ctx).2 hclosed)) ⟨rfl, rfl, rfl, rfl⟩
  · rw [if_neg hclosed]
    apply agree_next (rule1_passes hclosed _)
    by_cases hhold : ctx.governance.complianceHoldFlag = true
    · rw [if_pos hhold]
      exact agree_exit (if_pos hhold) ⟨rfl, rfl, rfl, rfl⟩
    · rw [if_neg hhold]
      apply agree_next (rule2_passes hhold _)
      by_cases hrevoked : ctx.academic.accessState = some "REVOKED"
      · rw [if_pos hrevoked]
        exact agree_exit (if_pos hrevoked) ⟨rfl, rfl, rfl, rfl⟩
      · rw [if_neg hrevoked]
        by_cases hsuspended : ctx.academic.accessState = some "SUSPENDED"
        · rw [if_pos hsuspended]
          exact agree_exit ((if_neg hrevoked).trans (if_pos hsuspended)) ⟨rfl, rfl, rfl, rfl⟩
        · rw [if_neg hsuspended]
          apply agree_next (rule4_passes hrevoked hsuspended _)
          by_cases hdeferred : Deferred ctx
          · rw [if_pos hdeferred]
            obtain ⟨out, hout, hsays⟩ := rule5_defers hdeferred _
            exact agree_exit hout hsays
          · rw [if_neg hdeferred]
            have hunset : (((start.rule "RULE_1_PASS").rule "RULE_2_PASS").rule
                "RULE_4_PASS").r10Intent = none := rfl
            obtain ⟨s', hnext5, hs'⟩ := rule5_passes hdeferred hunset
            exact agree_next hnext5 (agree_rule6 hs')

end

def Reports (v : Verdict) (r : GovernanceDecisionResult) : Prop := v.Holds r.intent r.riskLevel

theorem agree_evaluate (env : RuleEnv) (h0 : preconditionCodes ctx.governance = [])
    (hreplay : isReplayType ctx.governance.executionType = false) :
    Agree Reports (verdict ctx) (evaluateOrchestrationIntent env ctx) := by
  rw [evaluate_eq env h0 hreplay]
  exact (agree_rules ctx).map_right fun _ _ h => h

end Decision
end StudentSuccess
