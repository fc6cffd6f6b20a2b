import StudentSuccess.LiveOutreach

namespace StudentSuccess
namespace Eligibility
set_option autoImplicit true

open RuleChain

/-- RULE 7 ends the evaluation: the last contact lies within the exclusion window. -/
def ExclusionActive (env : RuleEnv) (ctx : EligibilityContext) : Prop :=
  ∃ excl lastContact, t ctx kExclWindow = some excl ∧
    ctx.operational.lastContactTimestamp = some lastContact ∧ lastContact ≠ "" ∧
    withinWindow env lastContact excl = .ok true

def attempts (ctx : EligibilityContext) : Option Rat :=
  some ctx.operational.contactAttemptCount

/-- The attempts are comparable with their ceiling, if there is one, and below it. -/
def AttemptsRemain (ctx : EligibilityContext) : Prop :=
  Compares (attempts ctx) (t ctx kMaxAttempts) ∧ ¬ AtLeast (attempts ctx) (t ctx kMaxAttempts)

def RetryCandidate (ctx : EligibilityContext) : Prop :=
  ctx.operational.contactAttemptCount > 0 ∧ ctx.operational.retryEligible = true

def FirstOutreachCandidate (ctx : EligibilityContext) : Prop :=
  ctx.operational.contactAttemptCount = 0 ∧
    (ctx.operational.outreachState = some "ELIGIBLE" ∨
      ctx.operational.outreachState = some "QUEUED" ∨ ctx.operational.outreachState = none)

def CheckCompares (val : Option Rat) (highThr medThr : Option Py.Value) : Prop :=
  Compares val highThr ∧ (AtLeast val highThr ∨ Compares val medThr)

structure RiskCompares (ctx : EligibilityContext) : Prop where
  hws : CheckCompares (ctx.academic.hwsBehind.map (↑)) (t ctx kHwsHigh) (t ctx kMinHws)
  effort : Compares ctx.academic.avgEffRating (t ctx kMinEff)
  inactivity : CheckCompares (ctx.academic.lastActivityDays.map (↑)) (t ctx kInactHigh)
    (t ctx kMaxInact)
  payment : Compares ctx.academic.paymentBalance (t ctx kPaymentRisk)
  escalation : Compares (some ctx.academic.priorEscalationCount) (t ctx kEscRepeat)

/-- RULES 6 to 9 let the student through as an outreach or a retry candidate. -/
structure ContactCandidate (env : RuleEnv) (ctx : EligibilityContext) : Prop where
  contact : noContact ctx = false
  window : ¬ ExclusionActive env ctx
  attempts : AttemptsRemain ctx
  candidacy : RetryCandidate ctx ∨ FirstOutreachCandidate ctx
  risk : RiskCompares ctx

theorem check_returns_iff (val : Option Rat) (highThr medThr : Option Py.Value)
    (highLabel medLabel : String) :
    Py.Returns (check val highThr medThr highLabel medLabel) ↔
      CheckCompares val highThr medThr := by
  cases val with
  | none => simp [check, CheckCompares, Compares]
  | some x =>
    have hhigh := crosses_returns_iff geValue_raisesOnText (some x) highThr
    have htrue := crosses_geValue_iff (some x) highThr
    rw [check, if_neg (by simp), Py.returns_bind, CheckCompares, ← hhigh, ← htrue,
      ← crosses_returns_iff geValue_raisesOnText]
    cases crosses Py.geValue (some x) highThr with
    | error e => simp
    | ok crossed => cases crossed <;> simp [factor]

theorem effortRisk_returns_iff (ctx : EligibilityContext) :
    Py.Returns (effortRisk ctx) ↔ Compares ctx.academic.avgEffRating (t ctx kMinEff) := by
  rw [← crosses_returns_iff ltValue_raisesOnText]
  cases heff : ctx.academic.avgEffRating with
  | none => simp [effortRisk, heff, crosses]
  | some x => simp [effortRisk, heff, factor]

theorem paymentRisk_returns_iff (ctx : EligibilityContext) :
    Py.Returns (paymentRisk ctx) ↔ Compares ctx.academic.paymentBalance (t ctx kPaymentRisk) :=
  Py.returns_map.trans (crosses_returns_iff gtValue_raisesOnText _ _)

theorem escalationRisk_returns_iff (ctx : EligibilityContext) :
    Py.Returns (escalationRisk ctx) ↔
      Compares (some ctx.academic.priorEscalationCount) (t ctx kEscRepeat) :=
  Py.returns_map.trans (crosses_returns_iff geValue_raisesOnText _ _)

theorem assessRisk_returns_iff (ctx : EligibilityContext) :
    Py.Returns (assessRisk ctx) ↔ RiskCompares ctx := by
  have hsteps : Py.Returns (assessRisk ctx) ↔ _ ∧ _ ∧ _ ∧ _ ∧ _ :=
    Py.returns_bind_iff fun _ => Py.returns_bind_iff fun _ => Py.returns_bind_iff fun _ =>
      Py.returns_bind_iff fun _ => Py.returns_bind_pure
  rw [hsteps, check_returns_iff, effortRisk_returns_iff, check_returns_iff,
    paymentRisk_returns_iff, escalationRisk_returns_iff]
  constructor
  · intro h
    obtain ⟨hhws, heffort, hinactivity, hpayment, hescalation⟩ := h
    exact ⟨hhws, heffort, hinactivity, hpayment, hescalation⟩
  · intro h
    exact ⟨h.hws, h.effort, h.inactivity, h.payment, h.escalation⟩

theorem attemptsExhausted_eq_false_iff (ctx : EligibilityContext) :
    attemptsExhausted ctx = .ok false ↔ AttemptsRemain ctx :=
  crosses_geValue_false_iff _ _

theorem rule6_noContact (h : noContact ctx = true) (s : Evaluation) :
    ∃ e, rule6 ctx s = .ok (.exit e) ∧ e.evaluation.scope = .none :=
  ⟨_, if_pos h, rfl⟩

theorem rule6_contact (h : noContact ctx = false) (s : Evaluation) :
    rule6 ctx s = .ok (.next (s.rule "RULE_6")) := if_neg (by simp [h])

theorem rule7_active (h : ExclusionActive env ctx) (s : Evaluation) :
    ∃ e, rule7 env ctx s = .ok (.exit e) ∧ e.evaluation.scope = .none := by
  obtain ⟨excl, lastContact, hexcl, hlast, hne, hwithin⟩ := h
  rw [rule7]
  rw [hexcl, hlast]
  simp only [if_neg hne, hwithin]
  exact ⟨_, rfl, rfl⟩

theorem rule7_passes (h : ¬ ExclusionActive env ctx) (s : Evaluation) :
    ∃ s', rule7 env ctx s = .ok (.next s') ∧ s'.scope = s.scope := by
  unfold rule7
  match hexcl : t ctx kExclWindow, hlast : ctx.operational.lastContactTimestamp with
  | some excl, some lastContact =>
    by_cases hempty : lastContact = ""
    · exact ⟨_, if_pos hempty, rfl⟩
    · simp only [if_neg hempty]
      match hwithin : withinWindow env lastContact excl with
      | .ok true => exact absurd ⟨excl, lastContact, hexcl, hlast, hempty, hwithin⟩ h
      | .ok false => exact ⟨_, rfl, rfl⟩
      | .error _ => exact ⟨_, rfl, rfl⟩
  | some _, none => exact ⟨_, rfl, rfl⟩
  | none, _ => exact ⟨_, rfl, rfl⟩

theorem candidacy_passes (h : RetryCandidate ctx ∨ FirstOutreachCandidate ctx)
    (s : Evaluation) :
    ∃ s', candidacy ctx s = .ok (.next s') ∧ s'.scope ∈ eligibleScopes := by
  by_cases hretry : RetryCandidate ctx
  · exact ⟨_, if_pos hretry, .tail _ (.head _)⟩
  · have hfirst := h.resolve_left hretry
    exact ⟨_, (if_neg hretry).trans (if_pos hfirst), .head _⟩

theorem candidacy_ambiguous (h : ¬ (RetryCandidate ctx ∨ FirstOutreachCandidate ctx))
    (s : Evaluation) :
    ∃ e, candidacy ctx s = .ok (.exit e) ∧ e.evaluation.scope = .none := by
  rw [not_or] at h
  exact ⟨_, (if_neg h.1).trans (if_neg h.2), rfl⟩

theorem rule8_remain (h : AttemptsRemain ctx) (hs : s.scope = .none) :
    rule8 ctx s = candidacy ctx (s.rule "RULE_8") := by
  have hscope : (s.rule "RULE_8").scope ≠ .replay := by
    intro hreplay
    cases hs.symm.trans hreplay
  rw [rule8]
  rw [(attemptsExhausted_eq_false_iff ctx).2 h]
  exact if_neg hscope

/-- Without attempts left RULE 8 raises or ends the evaluation. -/
theorem rule8_exhausted (h : ¬ AttemptsRemain ctx) (s : Evaluation) :
    (∃ e, rule8 ctx s = .error e) ∨
      ∃ e, rule8 ctx s = .ok (.exit e) ∧ e.evaluation.scope = .none := by
  unfold rule8
  match hexhausted : attemptsExhausted ctx with
  | .error e => exact .inl ⟨e, rfl⟩
  | .ok true => exact .inr ⟨_, rfl, rfl⟩
  | .ok false => exact absurd ((attemptsExhausted_eq_false_iff ctx).1 hexhausted) h

theorem rule9_passes (h : RiskCompares ctx) (s : Evaluation) :
    ∃ s', rule9 ctx s = .ok (.next s') ∧ s'.scope = s.scope := by
  obtain ⟨risk, hrisk⟩ := (assessRisk_returns_iff ctx).2 h
  rw [rule9]
  rw [hrisk]
  exact ⟨_, rfl, rfl⟩

theorem rule9_raises (h : ¬ RiskCompares ctx) (s : Evaluation) :
    ∃ e, rule9 ctx s = .error e := by
  unfold rule9
  match hrisk : assessRisk ctx with
  | .error e => exact ⟨e, rfl⟩
  | .ok risk => exact absurd ((assessRisk_returns_iff ctx).1 ⟨risk, hrisk⟩) h

def Eligible (e : Emission) : Prop := e.evaluation.scope ∈ eligibleScopes

theorem not_eligible_none {e : Emission} (h : e.evaluation.scope = .none) : ¬ Eligible e := by
  rw [Eligible]
  rw [h]
  decide

/-- The last rules keep the scope they are given, unless RULE 9 raises. -/
theorem yields_rule9 (hs : s.scope ∈ eligibleScopes) :
    Yields rule12 [rule9 ctx, rule11 ctx] s Eligible ↔ RiskCompares ctx := by
  by_cases h : RiskCompares ctx
  · obtain ⟨s₁, hs₁, hscope₁⟩ := rule9_passes h s
    obtain ⟨s₂, hs₂, hscope₂, -⟩ := rule11_next ctx s₁
    rw [yields_next hs₁, yields_next hs₂, yields_nil]
    have heligible : s₂.scope ∈ eligibleScopes := by
      rw [hscope₂, hscope₁]
      exact hs
    exact iff_of_true heligible h
  · obtain ⟨e, he⟩ := rule9_raises h s
    exact iff_of_false (yields_error he) h

theorem not_yields_exit_none {r : Rule Evaluation Emission}
    (h : ∃ e, r s = .ok (.exit e) ∧ e.evaluation.scope = .none) :
    ¬ Yields rule12 (r :: rest) s Eligible := by
  obtain ⟨e, he, hscope⟩ := h
  rw [yields_exit he]
  exact not_eligible_none hscope

theorem yields_rule8 (hs : s.scope = .none) :
    Yields rule12 [rule8 ctx, rule9 ctx, rule11 ctx] s Eligible ↔
      AttemptsRemain ctx ∧ (RetryCandidate ctx ∨ FirstOutreachCandidate ctx) ∧
        RiskCompares ctx := by
  by_cases hremain : AttemptsRemain ctx
  · have heq := rule8_remain hremain hs
    by_cases hcandidate : RetryCandidate ctx ∨ FirstOutreachCandidate ctx
    · obtain ⟨s', hs', hscope⟩ := candidacy_passes hcandidate (s.rule "RULE_8")
      rw [yields_next (heq.trans hs'), yields_rule9 hscope]
      simp only [hremain, hcandidate, true_and]
    · have hexit := candidacy_ambiguous hcandidate (s.rule "RULE_8")
      rw [← heq] at hexit
      exact iff_of_false (not_yields_exit_none hexit) fun h => hcandidate h.2.1
  · apply iff_of_false _ fun h => hremain h.1
    rcases rule8_exhausted hremain s with ⟨e, he⟩ | hexit
    · exact yields_error he
    · exact not_yields_exit_none hexit

/-- From RULE 6 on an original execution reaches an eligible scope as a contact candidate only. -/
theorem yields_rule6 (env : RuleEnv)
    (horiginal : isReplayType ctx.governance.executionType = false) (hs : s.scope = .none) :
    Yields rule12 [rule6 ctx, rule7 env ctx, rule10 ctx, rule8 ctx, rule9 ctx, rule11 ctx] s
      Eligible ↔ ContactCandidate env ctx := by
  cases hcontact : noContact ctx with
  | true =>
    apply iff_of_false (not_yields_exit_none (rule6_noContact hcontact s))
    intro h
    cases hcontact.symm.trans h.contact
  | false =>
    rw [yields_next (rule6_contact hcontact s)]
    by_cases hactive : ExclusionActive env ctx
    · exact iff_of_false (not_yields_exit_none (rule7_active hactive _)) fun h => h.window hactive
    · obtain ⟨s₁, hs₁, hscope₁⟩ := rule7_passes hactive (s.rule "RULE_6")
      rw [yields_next hs₁, yields_next (rule10_original horiginal s₁),
        yields_rule8 (hscope₁.trans hs)]
      constructor
      · intro h
        exact ⟨hcontact, hactive, h.1, h.2.1, h.2.2⟩
      · intro h
        exact ⟨h.attempts, h.candidacy, h.risk⟩

/-- What an assessment must meet, past RULE 0, to permit live outreach. -/
def PermitsLive (env : RuleEnv) (ctx : EligibilityContext) : Prop :=
  LiveExecution ctx.governance ∧ ¬ Closed ctx ∧
    (ctx.governance.complianceHoldFlag = true ∨ ctx.academic.accessState = some "REVOKED" ∨
      ctx.academic.accessState ≠ some "SUSPENDED" ∧
        (InFlight ctx.ai ∨ ContactCandidate env ctx))

theorem rule5_passes (h : ¬ InFlight ctx.ai) (s : Evaluation) :
    ∃ s', rule5 ctx s = .ok (.next s') ∧ s'.scope = s.scope := by
  have htier : (assessAiTier ctx).1 ≠ .inFlight :=
    fun ht => h ((assessAiTier_inFlight_iff ctx).1 ht)
  rw [rule5]
  simp only [htier, if_false]
  split_ifs
  · exact ⟨_, rfl, rfl⟩
  · exact ⟨_, rfl, rfl⟩

theorem rule4_suspended (hrevoked : ctx.academic.accessState ≠ some "REVOKED")
    (hsuspended : ctx.academic.accessState = some "SUSPENDED") (s : Evaluation) :
    ∃ e, rule4 ctx s = .ok (.exit e) ∧ e.evaluation.scope = .none :=
  ⟨_, (if_neg hrevoked).trans (if_pos hsuspended), rfl⟩

theorem eligible_escape {e : Emission} (h : e.evaluation.scope ∈ escapeScopes) : Eligible e := by
  rw [Eligible]
  revert h
  cases e.evaluation.scope <;> decide

/-- The rules of a live execution that does not escape: only a contact candidate is left. -/
theorem yields_of_not_escape (env : RuleEnv) (hlive : LiveExecution ctx.governance)
    (hopen : ¬ Closed ctx) (h : ¬ LiveEscape ctx) :
    Yields rule12 (rules env ctx) (start ctx) Eligible ↔
      ctx.academic.accessState ≠ some "SUSPENDED" ∧ ContactCandidate env ctx := by
  have horiginal : isReplayType ctx.governance.executionType = false := by
    simp [isReplayType, hlive.2]
  have hhold : ctx.governance.complianceHoldFlag = false := by
    cases hhold : ctx.governance.complianceHoldFlag with
    | true => exact absurd ⟨hlive, hopen, .inl hhold⟩ h
    | false => rfl
  have hrevoked : ctx.academic.accessState ≠ some "REVOKED" :=
    fun hrevoked => h ⟨hlive, hopen, .inr (.inl hrevoked)⟩
  rw [rules, yields_next ((rule1_guards _).passes hopen _),
    yields_next ((rule2_guards _).passes (ne_true_of_eq_false hhold) _)]
  by_cases hsuspended : ctx.academic.accessState = some "SUSPENDED"
  · have hexit := rule4_suspended hrevoked hsuspended (((start ctx).rule "RULE_1").rule "RULE_2")
    exact iff_of_false (not_yields_exit_none hexit) fun h => h.1 hsuspended
  · have hflight : ¬ InFlight ctx.ai :=
      fun hflight => h ⟨hlive, hopen, .inr (.inr ⟨hsuspended, hflight⟩)⟩
    rw [yields_next (rule4_open hrevoked hsuspended _)]
    obtain ⟨s', hs', hscope⟩ := rule5_passes hflight
      ((((start ctx).rule "RULE_1").rule "RULE_2").rule "RULE_4")
    rw [yields_next hs', yields_rule6 env horiginal hscope]
    exact (and_iff_right hsuspended).symm

/-- The rules of a live execution end with an eligible scope exactly when it permits it. -/
theorem yields_eligible_iff (env : RuleEnv) (hlive : LiveExecution ctx.governance) :
    Yields rule12 (rules env ctx) (start ctx) Eligible ↔ PermitsLive env ctx := by
  by_cases hclosed : Closed ctx
  · exact iff_of_false (not_yields_exit_none ((rule1_guards _).exits hclosed _))
      fun h => h.2.1 hclosed
  · by_cases hescape : LiveEscape ctx
    · obtain ⟨e, he, hscope⟩ := hescape.yields env
      apply iff_of_true ⟨e, he, eligible_escape hscope⟩
      exact ⟨hlive, hclosed, hescape.2.2.imp_right (Or.imp_right (And.imp_right Or.inl))⟩
    · rw [yields_of_not_escape env hlive hclosed hescape]
      constructor
      · intro h
        exact ⟨hlive, hclosed, .inr (.inr ⟨h.1, .inr h.2⟩)⟩
      · intro h
        rcases h.2.2 with hhold | hrevoked | ⟨hsuspended, hflight | hcandidate⟩
        · exact absurd ⟨hlive, hclosed, .inl hhold⟩ hescape
        · exact absurd ⟨hlive, hclosed, .inr (.inl hrevoked)⟩ hescape
        · exact absurd ⟨hlive, hclosed, .inr (.inr ⟨hsuspended, hflight⟩)⟩ hescape
        · exact ⟨hsuspended, hcandidate⟩

/-- Live outreach is permitted by some assessment exactly for the contexts that permit it. -/
theorem permitsLive_iff (env : RuleEnv) (ctx : EligibilityContext) :
    (∃ a, assessOrchestrationEligibility env ctx = .ok a ∧ a.liveOutreachPermitted = true) ↔
      governancePreconditions ctx.governance = [] ∧ PermitsLive env ctx := by
  by_cases h0 : governancePreconditions ctx.governance = []
  · simp only [h0, true_and]
    constructor
    · intro h
      obtain ⟨a, ha, hlive⟩ := h
      obtain ⟨e, he, rfl⟩ := (assess_eq_ok_iff h0).1 ha
      obtain ⟨heligible, hexecution⟩ := (liveOk_eq_true_iff h0).1 hlive
      exact (yields_eligible_iff env hexecution).1 ⟨e, he, heligible⟩
    · intro h
      obtain ⟨e, he, heligible⟩ := (yields_eligible_iff env h.1).2 h
      exact ⟨emit env ctx e, (assess_eq_ok_iff h0).2 ⟨e, he, rfl⟩,
        (liveOk_eq_true_iff h0).2 ⟨heligible, h.1⟩⟩
  · apply iff_of_false _ fun h => h0 h.1
    intro h
    obtain ⟨a, ha, hlive⟩ := h
    rw [assessOrchestrationEligibility, if_pos h0] at ha
    cases ha
    cases hlive

end Eligibility
end StudentSuccess
