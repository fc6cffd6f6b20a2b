import StudentSuccess.DecisionVerdict
import StudentSuccess.RiskEngines

namespace StudentSuccess
set_option autoImplicit true

/-- One more high contribution raises every level below the highest. -/
theorem Tally.level_add_high_iff (a : Tally) : (a + ⟨1, 0⟩).level = a.level ↔ 2 ≤ a.high := by
  obtain ⟨high, med⟩ := a
  have hsum : (⟨high, med⟩ : Tally) + ⟨1, 0⟩ = ⟨high + 1, med⟩ := rfl
  rw [hsum]
  obtain rfl | rfl | hmany : high = 0 ∨ high = 1 ∨ 2 ≤ high := by omega
  · rw [level_zero, level_one]
    split_ifs <;> simp
  · rw [level_one, level_many le_rfl]
    split_ifs <;> simp
  · rw [level_many hmany, level_many (by omega)]
    simp [hmany]

theorem Tally.level_add_one_med_iff (a : Tally) :
    (a + ⟨0, 1⟩).level = a.level ↔ 2 ≤ a.high ∨ 1 ≤ a.med := by
  obtain ⟨high, med⟩ := a
  have hsum : (⟨high, med⟩ : Tally) + ⟨0, 1⟩ = ⟨high, med + 1⟩ := rfl
  rw [hsum]
  obtain rfl | rfl | hmany : high = 0 ∨ high = 1 ∨ 2 ≤ high := by omega
  · rw [level_zero, level_zero, if_pos (Nat.succ_pos med)]
    split_ifs with hmed
    · simp; omega
    · simp; omega
  · rw [level_one, level_one, if_pos (Nat.succ_pos med)]
    split_ifs with hmed
    · simp; omega
    · simp; omega
  · rw [level_many hmany, level_many hmany]
    simp [hmany]

namespace Decision

open RuleChain

/-- The high factors that RULE 7 finds without AI, when its comparisons can be made. -/
def signalHigh (ctx : DecisionContext) : List String :=
  named (succeeds (crosses Py.geValue (ctx.academic.hwsBehind.map (↑)) (t ctx kHwsRisk)))
    "HWS_DELINQUENCY" ++
  named (succeeds (crosses Py.gtValue (ctx.academic.lastActivityDays.map (↑))
    (t ctx kInactivityRisk))) "INACTIVITY" ++
  named (succeeds (crosses Py.geValue (some ctx.historical.priorEscalationCount)
    (t ctx kEscalationRepeat))) "ESCALATION_RECURRENCE" ++
  trendHigh ctx

def signalMed (ctx : DecisionContext) : List String :=
  named (succeeds (crosses Py.ltValue ctx.academic.avgEffRating (t ctx kEffRisk)))
    "EFFORT_DECLINE" ++
  named (succeeds (crosses Py.gtValue ctx.academic.paymentBalance (t ctx kPaymentRisk)))
    "PAYMENT_RISK" ++
  trendMed ctx

def signalTally (ctx : DecisionContext) : Tally :=
  ⟨(signalHigh ctx).length, (signalMed ctx).length⟩

/-- The contribution of an insight that recommends an escalation. -/
def adviceTally (tier : AiTier) (intervention : Option String) : Tally :=
  if tier = .confident ∧ intervention = some "ESCALATE" then ⟨1, 0⟩
  else if tier = .advisory ∧ intervention = some "ESCALATE" then ⟨0, 1⟩
  else 0

theorem advice_tally (ctx : DecisionContext) (tier : AiTier) :
    (⟨(aiHigh ctx tier).length, (aiMed ctx tier).length⟩ : Tally) =
      adviceTally tier ctx.ai.aiRecommendedIntervention := by
  rw [aiHigh, aiMed, adviceTally]
  by_cases hhigh : tier = .confident ∧ ctx.ai.aiRecommendedIntervention = some "ESCALATE"
  · have hmed : ¬ (tier = .advisory ∧ ctx.ai.aiRecommendedIntervention = some "ESCALATE") := by
      intro h
      cases hhigh.1.symm.trans h.1
    rw [if_pos hhigh, if_neg hmed, if_pos hhigh]
    rfl
  · rw [if_neg hhigh, if_neg hhigh]
    split_ifs
    · rfl
    · rfl

theorem computeRisk_level (h : RiskCompares ctx) (tier : AiTier) :
    ∃ factors, computeRisk ctx tier = .ok
      ((signalTally ctx + adviceTally tier ctx.ai.aiRecommendedIntervention).level, factors) := by
  have hhws := factor_ok (eq_ok_succeeds
    ((crosses_returns_iff geValue_raisesOnText _ _).2 h.hws)) "HWS_DELINQUENCY"
  have heffort := factor_ok (eq_ok_succeeds
    ((crosses_returns_iff ltValue_raisesOnText _ _).2 h.effort)) "EFFORT_DECLINE"
  have hinactivity := factor_ok (eq_ok_succeeds
    ((crosses_returns_iff gtValue_raisesOnText _ _).2 h.inactivity)) "INACTIVITY"
  have hpayment := factor_ok (eq_ok_succeeds
    ((crosses_returns_iff gtValue_raisesOnText _ _).2 h.payment)) "PAYMENT_RISK"
  have hescalation := factor_ok (eq_ok_succeeds
    ((crosses_returns_iff geValue_raisesOnText _ _).2 h.escalation)) "ESCALATION_RECURRENCE"
  have hsum : signalTally ctx + adviceTally tier ctx.ai.aiRecommendedIntervention =
      ⟨(signalHigh ctx ++ aiHigh ctx tier).length, (signalMed ctx ++ aiMed ctx tier).length⟩ := by
    rw [← advice_tally, List.length_append, List.length_append]
    rfl
  rw [hsum, ← riskLevel_eq]
  exact ⟨_, Py.bind_eq_ok.2 ⟨_, hhws, Py.bind_eq_ok.2 ⟨_, heffort,
    Py.bind_eq_ok.2 ⟨_, hinactivity, Py.bind_eq_ok.2 ⟨_, hpayment,
      Py.bind_eq_ok.2 ⟨_, hescalation, rfl⟩⟩⟩⟩⟩⟩

def DecisionContext.withoutAi (ctx : DecisionContext) : DecisionContext :=
  { ctx with ai := { ctx.ai with aiInsightState := none, aiFinalizedCopy := false } }

theorem aiTier_withoutAi (ctx : DecisionContext) : aiTier ctx.withoutAi = .unavailable := by
  simp [aiTier, assessAiTier, DecisionContext.withoutAi]

theorem not_recommends_withoutAi (ctx : DecisionContext) : ¬ Recommends ctx.withoutAi := by
  intro h
  rcases h.1 with htier | htier
  · cases (aiTier_withoutAi ctx).symm.trans htier
  · cases (aiTier_withoutAi ctx).symm.trans htier

theorem adviceTally_unavailable (intervention : Option String) :
    adviceTally .unavailable intervention = 0 := by
  rw [adviceTally]
  simp

/-- No exit of RULES 1 to 6 ends the evaluation, and its comparisons can be made. -/
structure ReachesScore (ctx : DecisionContext) : Prop where
  gate : preconditionCodes ctx.governance = []
  late : ¬ EndsEarly ctx
  attempts : Compares (attempts ctx) (t ctx kMaxAttempts)
  remaining : ¬ AtLeast (Decision.attempts ctx) (t ctx kMaxAttempts)
  risk : RiskCompares ctx

theorem endsEarly_of_withoutAi (h : EndsEarly ctx.withoutAi) : EndsEarly ctx := by
  rcases h with hclosed | hhold | hrevoked | hsuspended | ⟨-, -, hstate⟩
  · exact .inl hclosed
  · exact .inr (.inl hhold)
  · exact .inr (.inr (.inl hrevoked))
  · exact .inr (.inr (.inr (.inl hsuspended)))
  · rcases hstate with hstate | hstate
    · cases hstate
    · cases hstate

theorem ReachesScore.withoutAi (h : ReachesScore ctx) : ReachesScore ctx.withoutAi where
  gate := h.gate
  late := mt endsEarly_of_withoutAi h.late
  attempts := h.attempts
  remaining := h.remaining
  risk := ⟨h.risk.hws, h.risk.effort, h.risk.inactivity, h.risk.payment, h.risk.escalation⟩

theorem deferred_endsEarly (h : Deferred ctx) : EndsEarly ctx :=
  .inr (.inr (.inr (.inr ⟨h.2, (inFlight_iff ctx.ai).1 h.1⟩)))

theorem verdict_late (h : ¬ EndsEarly ctx) : verdict ctx = lateVerdict ctx := by
  have hhold : ctx.governance.complianceHoldFlag ≠ true := fun hhold => h (.inr (.inl hhold))
  rw [verdict]
  rw [if_neg (fun hclosed => h (.inl hclosed)), if_neg hhold,
    if_neg (fun hrevoked => h (.inr (.inr (.inl hrevoked)))),
    if_neg (fun hsuspended => h (.inr (.inr (.inr (.inl hsuspended))))),
    if_neg (mt deferred_endsEarly h)]

theorem attemptsExhausted_eq_false_iff (ctx : DecisionContext) :
    attemptsExhausted ctx = .ok false ↔
      Compares (attempts ctx) (t ctx kMaxAttempts) ∧
        ¬ AtLeast (attempts ctx) (t ctx kMaxAttempts) :=
  crosses_geValue_false_iff _ _

theorem verdict_scored (h : ReachesScore ctx) :
    verdict ctx = .ok (levelVerdict ctx
      (signalTally ctx + adviceTally (aiTier ctx) ctx.ai.aiRecommendedIntervention).level) := by
  obtain ⟨factors, hrisk⟩ := computeRisk_level h.risk (aiTier ctx)
  have hremain := (attemptsExhausted_eq_false_iff ctx).2 ⟨h.attempts, h.remaining⟩
  rw [verdict_late h.late, lateVerdict, hremain]
  simp only [hrisk]
  rfl

theorem verdict_withoutAi_scored (h : ReachesScore ctx) :
    verdict ctx.withoutAi = .ok (levelVerdict ctx.withoutAi (signalTally ctx).level) := by
  rw [verdict_scored h.withoutAi, aiTier_withoutAi, adviceTally_unavailable]
  rfl

/-- An evaluation that ends before RULE 7 ends without AI as it does with it, or is deferred. -/
theorem verdict_early (h : EndsEarly ctx) :
    verdict ctx = .ok { intent := .deferPendingAi } ∨
      ∃ i, verdict ctx = .ok { intent := i } ∧ verdict ctx.withoutAi = .ok { intent := i } := by
  by_cases hclosed : ctx.operational.outreachState = some "CLOSED"
  · exact .inr ⟨_, if_pos hclosed, if_pos hclosed⟩
  · by_cases hhold : ctx.governance.complianceHoldFlag = true
    · exact .inr ⟨_, (if_neg hclosed).trans (if_pos hhold),
        (if_neg hclosed).trans (if_pos hhold)⟩
    · by_cases hrevoked : ctx.academic.accessState = some "REVOKED"
      · exact .inr ⟨_, (if_neg hclosed).trans ((if_neg hhold).trans (if_pos hrevoked)),
          (if_neg hclosed).trans ((if_neg hhold).trans (if_pos hrevoked))⟩
      · by_cases hsuspended : ctx.academic.accessState = some "SUSPENDED"
        · exact .inr ⟨_, (if_neg hclosed).trans ((if_neg hhold).trans
            ((if_neg hrevoked).trans (if_pos hsuspended))),
            (if_neg hclosed).trans ((if_neg hhold).trans
              ((if_neg hrevoked).trans (if_pos hsuspended)))⟩
        · have hdeferred : Deferred ctx := by
            rcases h with h | h | h | h | ⟨horiginal, hflight⟩
            · exact absurd h hclosed
            · exact absurd h hhold
            · exact absurd h hrevoked
            · exact absurd h hsuspended
            · exact ⟨(inFlight_iff ctx.ai).2 hflight, horiginal⟩
          exact .inl ((if_neg hclosed).trans ((if_neg hhold).trans ((if_neg hrevoked).trans
            ((if_neg hsuspended).trans (if_pos hdeferred)))))

/-- An evaluation past RULE 5A that has no score ends by RULE 6, with and without AI, or raises. -/
theorem lateVerdict_unscored (h0 : preconditionCodes ctx.governance = [])
    (hlate : ¬ EndsEarly ctx) (h : ¬ ReachesScore ctx) :
    (∃ e, lateVerdict ctx = .error e) ∨
      lateVerdict ctx = .ok { intent := .closeOrchestration } ∧
        lateVerdict ctx.withoutAi = .ok { intent := .closeOrchestration } := by
  have hsame : attemptsExhausted ctx.withoutAi = attemptsExhausted ctx := rfl
  unfold lateVerdict
  rw [hsame]
  match hexhausted : attemptsExhausted ctx with
  | .error e => exact .inl ⟨e, rfl⟩
  | .ok true => exact .inr ⟨rfl, rfl⟩
  | .ok false =>
    have hremain := (attemptsExhausted_eq_false_iff ctx).1 hexhausted
    have hnot : ¬ RiskCompares ctx := fun hrisk => h ⟨h0, hlate, hremain.1, hremain.2, hrisk⟩
    obtain ⟨e, he⟩ := Py.raises_of_not_returns
      (mt (computeRisk_returns_iff ctx (aiTier ctx)).1 hnot)
    rw [he]
    exact .inl ⟨e, rfl⟩

/-- The two results differ in the intent or in the risk level. -/
def Differs (r r' : GovernanceDecisionResult) : Prop :=
  r.intent.orchestrationIntent ≠ r'.intent.orchestrationIntent ∨ r.riskLevel ≠ r'.riskLevel

/-- What AI changes in the second result is attributed to it in the first, and nothing else is. -/
def AttributesAi (r r' : GovernanceDecisionResult) : Prop :=
  (r.intent.orchestrationIntent ≠ .deferPendingAi → Differs r r' →
    r.intent.decisionBasis = "AI_ASSISTED" ∧ r.intent.aiContext.aiInputUsed = true) ∧
  (r.intent.decisionBasis = "AI_ASSISTED" → Differs r r')

def Attributed (env : RuleEnv) (ctx : DecisionContext) : Prop :=
  ∀ r r', evaluateOrchestrationIntent env ctx = .ok r →
    evaluateOrchestrationIntent env ctx.withoutAi = .ok r' → AttributesAi r r'

/-- The advice raises the risk level; no flag is set for it. -/
def UnflaggedSignal (ctx : DecisionContext) : Prop :=
  ctx.ai.aiRecommendedIntervention = some "ESCALATE" ∧
    (aiTier ctx = .confident ∧ (signalTally ctx).high < 2 ∨
      aiTier ctx = .advisory ∧ (signalTally ctx).high < 2 ∧ (signalTally ctx).med = 0)

/-- The retry of RULE 11, under a ceiling that is not reached. -/
def RetryDue (ctx : DecisionContext) : Prop :=
  0 < ctx.operational.contactAttemptCount ∧ ctx.operational.retryEligible = true ∧
    t ctx kMaxAttempts ≠ none

/-- The recommendation is flagged on a retry that the rules make without it. -/
def IdleRecommendation (ctx : DecisionContext) : Prop :=
  Recommends ctx ∧ (signalTally ctx).level ≠ .critical ∧ (signalTally ctx).level ≠ .high ∧
    RetryDue ctx

def Misattributed (ctx : DecisionContext) : Prop :=
  ReachesScore ctx ∧ (UnflaggedSignal ctx ∨ IdleRecommendation ctx)

def Verdict.Differs (v v' : Verdict) : Prop := v.intent ≠ v'.intent ∨ v.riskLevel ≠ v'.riskLevel

def Verdict.Attributes (v v' : Verdict) : Prop :=
  (v.intent ≠ .deferPendingAi → v.Differs v' → v.assisted = true) ∧
    (v.assisted = true → v.Differs v')

theorem Verdict.not_differs (v : Verdict) : ¬ v.Differs v := by
  intro h
  rcases h with h | h
  · exact h rfl
  · exact h rfl

theorem Verdict.attributes_self (v : Verdict) (h : v.assisted = false) : v.Attributes v := by
  constructor
  · intro _ hdiffers
    exact absurd hdiffers v.not_differs
  · intro hassisted
    cases h.symm.trans hassisted

theorem basisText_eq_assisted_iff (assisted : Bool) :
    basisText assisted = "AI_ASSISTED" ↔ assisted = true := by
  cases assisted with
  | false => simp [basisText]
  | true => simp [basisText]

theorem attributesAi_iff (h : Reports v r) (h' : Reports v' r') :
    AttributesAi r r' ↔ v.Attributes v' := by
  rw [AttributesAi, Differs, Verdict.Attributes, Verdict.Differs]
  rw [h.intent, h.riskLevel, h.basis, h.used, h'.intent, h'.riskLevel, basisText_eq_assisted_iff,
    and_self]

theorem attributed_iff_verdict (env : RuleEnv) (h0 : preconditionCodes ctx.governance = [])
    (hreplay : isReplayType ctx.governance.executionType = false) :
    Attributed env ctx ↔
      ∀ v v', verdict ctx = .ok v → verdict ctx.withoutAi = .ok v' → v.Attributes v' := by
  have hrun := agree_evaluate env h0 hreplay
  have hrun' : Agree Reports (verdict ctx.withoutAi) _ := agree_evaluate env h0 hreplay
  constructor
  · intro h v v' hv hv'
    obtain ⟨r, hr, hreports⟩ := hrun.to_ok hv
    obtain ⟨r', hr', hreports'⟩ := hrun'.to_ok hv'
    exact (attributesAi_iff hreports hreports').1 (h r r' hr hr')
  · intro h r r' hr hr'
    obtain ⟨v, hv, hreports⟩ := hrun.of_ok hr
    obtain ⟨v', hv', hreports'⟩ := hrun'.of_ok hr'
    exact (attributesAi_iff hreports hreports').2 (h v v' hv hv')

theorem levelVerdict_withoutAi (h : ¬ Recommends ctx) (level : Priority) :
    levelVerdict ctx level = levelVerdict ctx.withoutAi level := by
  have hcalm : calmVerdict ctx level = calmVerdict ctx.withoutAi level := by
    simp only [calmVerdict]
    rw [if_neg h, if_neg (not_recommends_withoutAi ctx), decide_eq_false h,
      decide_eq_false (not_recommends_withoutAi ctx)]
    rfl
  simp only [levelVerdict]
  rw [hcalm]

theorem levelVerdict_riskLevel (ctx : DecisionContext) (level : Priority) :
    (levelVerdict ctx level).riskLevel = some level := by
  rw [levelVerdict, calmVerdict]
  split_ifs <;> rfl

theorem levelVerdict_not_deferred (ctx : DecisionContext) (level : Priority) :
    (levelVerdict ctx level).intent ≠ .deferPendingAi := by
  rw [levelVerdict, calmVerdict]
  split_ifs <;> exact IntentType.noConfusion

theorem levelVerdict_unassisted (h : ¬ Recommends ctx) (level : Priority) :
    (levelVerdict ctx level).assisted = false := by
  rw [levelVerdict, calmVerdict]
  rw [if_neg h, decide_eq_false h]
  split_ifs <;> rfl

theorem not_recommends_of_escalate (h : ctx.ai.aiRecommendedIntervention = some "ESCALATE") :
    ¬ Recommends ctx := by
  intro hrecommends
  have hlisted := hrecommends.2
  rw [h] at hlisted
  exact absurd hlisted (by decide)

theorem attributes_of_escalate (h : ctx.ai.aiRecommendedIntervention = some "ESCALATE")
    (level level' : Priority) :
    (levelVerdict ctx level).Attributes (levelVerdict ctx.withoutAi level') ↔ level = level' := by
  have hrecommends := not_recommends_of_escalate h
  constructor
  · intro hattributes
    by_contra hne
    have hdiffers : (levelVerdict ctx level).Differs (levelVerdict ctx.withoutAi level') := by
      apply Or.inr
      rw [levelVerdict_riskLevel, levelVerdict_riskLevel]
      exact mt Option.some.inj hne
    have hassisted := hattributes.1 (levelVerdict_not_deferred ctx level) hdiffers
    cases (levelVerdict_unassisted hrecommends level).symm.trans hassisted
  · intro heq
    subst heq
    rw [← levelVerdict_withoutAi hrecommends]
    exact Verdict.attributes_self _ (levelVerdict_unassisted hrecommends level)

theorem advice_changes_iff (h : ctx.ai.aiRecommendedIntervention = some "ESCALATE") :
    (signalTally ctx + adviceTally (aiTier ctx) (some "ESCALATE")).level =
      (signalTally ctx).level ↔ ¬ UnflaggedSignal ctx := by
  rw [UnflaggedSignal, adviceTally]
  by_cases hconfident : aiTier ctx = .confident
  · rw [if_pos ⟨hconfident, rfl⟩, Tally.level_add_high_iff]
    simp only [h, hconfident, true_and, reduceCtorEq, false_and, or_false]
    omega
  · rw [if_neg fun hboth => hconfident hboth.1]
    by_cases hadvisory : aiTier ctx = .advisory
    · rw [if_pos ⟨hadvisory, rfl⟩, Tally.level_add_one_med_iff]
      simp only [h, hadvisory, true_and, reduceCtorEq, false_and, false_or]
      omega
    · rw [if_neg fun hboth => hadvisory hboth.1]
      simp only [hconfident, hadvisory, false_and, or_self, and_false, not_false_eq_true, iff_true]
      exact congrArg Tally.level (by ext <;> rfl)

theorem attributes_of_same_level (ctx : DecisionContext) (level : Priority) :
    (levelVerdict ctx level).Attributes (levelVerdict ctx.withoutAi level) ↔
      ¬ (Recommends ctx ∧ level ≠ .critical ∧ level ≠ .high ∧ retries ctx = true) := by
  by_cases hrecommends : Recommends ctx
  · by_cases hlevel : level = .critical ∨ level = .high
    · have hsame : levelVerdict ctx level = levelVerdict ctx.withoutAi level :=
        (if_pos hlevel).trans (if_pos hlevel).symm
      rw [← hsame]
      apply iff_of_true
      · exact Verdict.attributes_self _ (by rw [levelVerdict, if_pos hlevel])
      · intro h
        exact hlevel.elim h.2.1 h.2.2.1
    · have hrun : levelVerdict ctx level = calmVerdict ctx level := if_neg hlevel
      have hrun' : levelVerdict ctx.withoutAi level = calmVerdict ctx.withoutAi level :=
        if_neg hlevel
      have hretries : retries ctx.withoutAi = retries ctx := rfl
      rw [hrun, hrun']
      simp only [calmVerdict]
      rw [hretries, if_pos hrecommends, if_neg (not_recommends_withoutAi ctx),
        decide_eq_true hrecommends]
      cases hretry : retries ctx with
      | true =>
        apply iff_of_false
        · intro h
          have hdiffers := h.2 rfl
          rcases hdiffers with h | h
          · exact h rfl
          · exact h rfl
        · intro h
          exact h ⟨hrecommends, (not_or.1 hlevel).1, (not_or.1 hlevel).2, rfl⟩
      | false =>
        apply iff_of_true
        · constructor
          · exact fun _ _ => rfl
          · intro _
            apply Or.inl
            rw [if_neg Bool.false_ne_true, if_neg Bool.false_ne_true]
            split_ifs <;> exact IntentType.noConfusion
        · intro h
          cases h.2.2.2
  · rw [← levelVerdict_withoutAi hrecommends]
    apply iff_of_true
    · exact Verdict.attributes_self _ (levelVerdict_unassisted hrecommends level)
    · intro h
      exact hrecommends h.1

theorem retries_iff (h : ReachesScore ctx) : retries ctx = true ↔ RetryDue ctx := by
  unfold retries retryEligible RetryDue
  rw [succeeds_iff]
  dsimp only
  by_cases hpositive : ctx.operational.contactAttemptCount > 0
  · rw [if_pos hpositive]
    match hceiling : t ctx kMaxAttempts with
    | none => simp [crosses, Except.map]
    | some ceiling =>
      have hnumber : ceiling.num? ≠ none :=
        (h.attempts.resolve_left (by simp [attempts])) ceiling hceiling
      obtain ⟨limit, hlimit⟩ := Option.ne_none_iff_exists'.1 hnumber
      have hbelow : (ctx.operational.contactAttemptCount : Rat) < limit := by
        by_contra hnot
        exact h.remaining ⟨_, ceiling, limit, rfl, hceiling, hlimit, not_lt.1 hnot⟩
      simp [crosses, Py.ltValue, hlimit, hbelow, hpositive, Except.map]
  · rw [if_neg hpositive]
    simp [hpositive]

theorem attributed_of_scored (h : ReachesScore ctx) (env : RuleEnv)
    (horiginal : ctx.governance.executionType = "original") :
    Attributed env ctx ↔ ¬ Misattributed ctx := by
  have hreplay : isReplayType ctx.governance.executionType = false := by
    rw [horiginal]
    decide
  have hverdict := verdict_scored h
  have hverdict' := verdict_withoutAi_scored h
  have hrun : Attributed env ctx ↔
      (levelVerdict ctx (signalTally ctx +
          adviceTally (aiTier ctx) ctx.ai.aiRecommendedIntervention).level).Attributes
        (levelVerdict ctx.withoutAi (signalTally ctx).level) := by
    rw [attributed_iff_verdict env h.gate hreplay, hverdict, hverdict']
    constructor
    · exact fun hall => hall _ _ rfl rfl
    · intro hone v v' hv hv'
      cases hv
      cases hv'
      exact hone
  have hslip : Misattributed ctx ↔ UnflaggedSignal ctx ∨ IdleRecommendation ctx :=
    ⟨And.right, And.intro h⟩
  rw [hrun, hslip, not_or]
  by_cases hescalate : ctx.ai.aiRecommendedIntervention = some "ESCALATE"
  · have hidle : ¬ IdleRecommendation ctx := fun hidle =>
      not_recommends_of_escalate hescalate hidle.1
    rw [attributes_of_escalate hescalate, hescalate, advice_changes_iff hescalate]
    exact (and_iff_left hidle).symm
  · have hunflagged : ¬ UnflaggedSignal ctx := fun hflag => hescalate hflag.1
    have hsilent : adviceTally (aiTier ctx) ctx.ai.aiRecommendedIntervention = 0 := by
      rw [adviceTally]
      rw [if_neg fun hboth => hescalate hboth.2, if_neg fun hboth => hescalate hboth.2]
    have hsum : signalTally ctx + 0 = signalTally ctx := by ext <;> rfl
    rw [hsilent, hsum, attributes_of_same_level, retries_iff h]
    exact (and_iff_right hunflagged).symm

theorem attributed_of_unscored (env : RuleEnv) (h : ¬ ReachesScore ctx)
    (h0 : preconditionCodes ctx.governance = [])
    (hreplay : isReplayType ctx.governance.executionType = false) : Attributed env ctx := by
  rw [attributed_iff_verdict env h0 hreplay]
  intro v v' hv hv'
  by_cases hearly : EndsEarly ctx
  · rcases verdict_early hearly with hdeferred | ⟨i, hi, hi'⟩
    · cases hdeferred.symm.trans hv
      exact ⟨fun h => absurd rfl h, fun h => by cases h⟩
    · cases hi.symm.trans hv
      cases hi'.symm.trans hv'
      exact Verdict.attributes_self _ rfl
  · have hlate' := mt endsEarly_of_withoutAi hearly
    rw [verdict_late hearly] at hv
    rw [verdict_late hlate'] at hv'
    rcases lateVerdict_unscored h0 hearly h with ⟨e, he⟩ | ⟨hclose, hclose'⟩
    · cases he.symm.trans hv
    · cases hclose.symm.trans hv
      cases hclose'.symm.trans hv'
      exact Verdict.attributes_self _ rfl

theorem evaluate_blocked_verdict (env : RuleEnv) (h0 : preconditionCodes ctx.governance ≠ [])
    (h : evaluateOrchestrationIntent env ctx = .ok r) :
    r.intent.orchestrationIntent = .noEligibleIntent ∧ r.intent.decisionBasis = "RULE_BASED" := by
  rw [evaluateOrchestrationIntent, validateGovernancePreconditions] at h
  simp only [if_neg h0] at h
  cases h
  exact ⟨rfl, rfl⟩

theorem evaluate_blocked_withoutAi (env : RuleEnv) (h0 : preconditionCodes ctx.governance ≠ []) :
    evaluateOrchestrationIntent env ctx = evaluateOrchestrationIntent env ctx.withoutAi := by
  obtain ⟨blocked, hblocked⟩ := Option.ne_none_iff_exists'.1 (mt (validate_eq_none_iff _).1 h0)
  have hblocked' : validateGovernancePreconditions ctx.withoutAi.governance = some blocked :=
    hblocked
  simp only [evaluateOrchestrationIntent]
  rw [hblocked, hblocked']
  rfl

theorem attributed_of_blocked (env : RuleEnv) (h0 : preconditionCodes ctx.governance ≠ []) :
    Attributed env ctx := by
  intro r r' hr hr'
  have hbasis := (evaluate_blocked_verdict env h0 hr).2
  rw [← evaluate_blocked_withoutAi env h0] at hr'
  cases hr.symm.trans hr'
  constructor
  · intro _ hdiffers
    exact (hdiffers.elim (fun h => h rfl) fun h => h rfl).elim
  · intro hassisted
    exact absurd (hbasis.symm.trans hassisted) (by decide)

/-- Influence is attributed exactly for the contexts without one of the two slips. -/
theorem ai_influence_attributed_iff (env : RuleEnv) (ctx : DecisionContext)
    (horiginal : ctx.governance.executionType = "original") :
    Attributed env ctx ↔ ¬ Misattributed ctx := by
  by_cases hscore : ReachesScore ctx
  · exact attributed_of_scored hscore env horiginal
  · apply iff_of_true
    · by_cases h0 : preconditionCodes ctx.governance = []
      · have hreplay : isReplayType ctx.governance.executionType = false := by
          rw [horiginal]
          decide
        exact attributed_of_unscored env hscore h0 hreplay
      · exact attributed_of_blocked env h0
    · exact fun h => hscore h.1

/-- No threshold is crossed, and the trend is neither critical nor declining. -/
structure NoRuleFactor (ctx : DecisionContext) : Prop where
  hws : crosses Py.geValue (ctx.academic.hwsBehind.map (↑)) (t ctx kHwsRisk) ≠ .ok true
  effort : crosses Py.ltValue ctx.academic.avgEffRating (t ctx kEffRisk) ≠ .ok true
  inactivity : crosses Py.gtValue (ctx.academic.lastActivityDays.map (↑))
    (t ctx kInactivityRisk) ≠ .ok true
  payment : crosses Py.gtValue ctx.academic.paymentBalance (t ctx kPaymentRisk) ≠ .ok true
  escalation : crosses Py.geValue (some ctx.historical.priorEscalationCount)
    (t ctx kEscalationRepeat) ≠ .ok true
  notCritical : ctx.historical.historicalRiskTrend ≠ some "CRITICAL"
  notDeclining : ctx.historical.historicalRiskTrend ≠ some "DECLINING"

theorem named_of_not (h : crossed ≠ .ok true) (name : String) :
    named (succeeds crossed) name = [] := by
  have hfails : succeeds crossed = false := Bool.not_eq_true _ ▸ mt (succeeds_iff crossed).1 h
  rw [hfails]
  rfl

theorem NoRuleFactor.tally (h : NoRuleFactor ctx) : signalTally ctx = 0 := by
  have hhigh : signalHigh ctx = [] := by
    rw [signalHigh, named_of_not h.hws, named_of_not h.inactivity, named_of_not h.escalation,
      trendHigh, if_neg h.notCritical]
    rfl
  have hmed : signalMed ctx = [] := by
    rw [signalMed, named_of_not h.effort, named_of_not h.payment, trendMed, if_neg h.notDeclining]
    rfl
  rw [signalTally, hhigh, hmed]
  rfl

theorem advice_level (tier : AiTier) (intervention : Option String) :
    (0 + adviceTally tier intervention).level ≠ .critical ∧
      (0 + adviceTally tier intervention).level ≠ .high := by
  rw [adviceTally]
  split_ifs <;> decide

theorem calmVerdict_not_escalating (ctx : DecisionContext) (level : Priority) :
    (calmVerdict ctx level).intent ≠ .escalateToOperator := by
  rw [calmVerdict]
  split_ifs <;> exact IntentType.noConfusion

/-- Before RULE 7 only a hold or a revoked access escalates. -/
theorem verdict_early_calm (hearly : EndsEarly ctx)
    (hhold : ctx.governance.complianceHoldFlag = false)
    (hrevoked : ctx.academic.accessState ≠ some "REVOKED") (hv : verdict ctx = .ok v) :
    v.intent ≠ .escalateToOperator := by
  have hfree : ¬ ctx.governance.complianceHoldFlag = true := hhold ▸ Bool.false_ne_true
  rw [verdict] at hv
  rw [if_neg hfree, if_neg hrevoked] at hv
  rcases ite_eq_iff.1 hv with ⟨-, hv⟩ | ⟨hclosed, hv⟩
  · cases hv
    exact IntentType.noConfusion
  · rcases ite_eq_iff.1 hv with ⟨-, hv⟩ | ⟨hsuspended, hv⟩
    · cases hv
      exact IntentType.noConfusion
    · rcases ite_eq_iff.1 hv with ⟨-, hv⟩ | ⟨hdeferred, -⟩
      · cases hv
        exact IntentType.noConfusion
      · rcases hearly with h | h | h | h | ⟨horiginal, hflight⟩
        · exact absurd h hclosed
        · exact absurd h hfree
        · exact absurd h hrevoked
        · exact absurd h hsuspended
        · exact absurd ⟨(inFlight_iff ctx.ai).2 hflight, horiginal⟩ hdeferred

theorem verdict_not_escalating (h : NoRuleFactor ctx) (h0 : preconditionCodes ctx.governance = [])
    (hhold : ctx.governance.complianceHoldFlag = false)
    (hrevoked : ctx.academic.accessState ≠ some "REVOKED") (hv : verdict ctx = .ok v) :
    v.intent ≠ .escalateToOperator := by
  by_cases hearly : EndsEarly ctx
  · exact verdict_early_calm hearly hhold hrevoked hv
  · by_cases hscore : ReachesScore ctx
    · have hlevel := advice_level (aiTier ctx) ctx.ai.aiRecommendedIntervention
      rw [verdict_scored hscore, h.tally, levelVerdict, if_neg (not_or.2 hlevel)] at hv
      cases hv
      exact calmVerdict_not_escalating ctx _
    · rw [verdict_late hearly] at hv
      rcases lateVerdict_unscored h0 hearly hscore with ⟨e, he⟩ | ⟨hclose, -⟩
      · cases he.symm.trans hv
      · cases hclose.symm.trans hv
        exact IntentType.noConfusion

/-- A tier whose insight the engine does not use. -/
def Silent (tier : AiTier) : Prop := tier = .stale ∨ tier = .unavailable ∨ tier = .finalizedCopy

theorem computeRisk_silent (h : Silent tier) (ctx : DecisionContext) :
    computeRisk ctx tier = computeRisk ctx .unavailable := by
  rcases h with rfl | rfl | rfl
  · rfl
  · rfl
  · rfl

theorem not_recommends_of_silent (h : Silent (aiTier ctx)) : ¬ Recommends ctx := by
  intro hrecommends
  rcases hrecommends.1 with htier | htier
  · rw [htier] at h
    rcases h with h | h | h <;> cases h
  · rw [htier] at h
    rcases h with h | h | h <;> cases h

theorem not_deferred_of_silent (h : Silent (aiTier ctx)) : ¬ Deferred ctx := by
  intro hdeferred
  rw [hdeferred.1] at h
  rcases h with h | h | h <;> cases h

theorem verdict_silent (h : Silent (aiTier ctx)) : verdict ctx = verdict ctx.withoutAi := by
  have hsilent' : Silent (aiTier ctx.withoutAi) := .inr (.inl (aiTier_withoutAi ctx))
  have hlevel : levelVerdict ctx = levelVerdict ctx.withoutAi :=
    funext (levelVerdict_withoutAi (not_recommends_of_silent h))
  have hlate : lateVerdict ctx = lateVerdict ctx.withoutAi := by
    simp only [lateVerdict]
    rw [computeRisk_silent h, aiTier_withoutAi, hlevel]
    rfl
  simp only [verdict]
  rw [if_neg (not_deferred_of_silent h), if_neg (not_deferred_of_silent hsilent'), hlate]
  rfl

def decision (r : GovernanceDecisionResult) : IntentType × Option Priority × String :=
  (r.intent.orchestrationIntent, r.riskLevel, r.intent.decisionBasis)

theorem evaluate_decision (env : RuleEnv) (h0 : preconditionCodes ctx.governance = [])
    (hreplay : isReplayType ctx.governance.executionType = false) :
    (evaluateOrchestrationIntent env ctx).map decision =
      (verdict ctx).map fun v => (v.intent, v.riskLevel, basisText v.assisted) := by
  have hrun := agree_evaluate env h0 hreplay
  have hview : ∀ (v : Verdict) (r : GovernanceDecisionResult), Reports v r →
      (v.intent, v.riskLevel, basisText v.assisted) = decision r := by
    intro v r h
    rw [decision, h.intent, h.riskLevel, h.basis]
  exact (hrun.map_eq hview).symm

section
variable {ctx : DecisionContext} (horiginal : ctx.governance.executionType = "original")
include horiginal

theorem not_replay_of_original : isReplayType ctx.governance.executionType = false := by
  rw [horiginal]
  decide

theorem not_escalating_of_no_factor (env : RuleEnv) (h : NoRuleFactor ctx)
    (hhold : ctx.governance.complianceHoldFlag = false)
    (hrevoked : ctx.academic.accessState ≠ some "REVOKED")
    (hr : evaluateOrchestrationIntent env ctx = .ok r) :
    r.intent.orchestrationIntent ≠ .escalateToOperator := by
  by_cases h0 : preconditionCodes ctx.governance = []
  · have hrun := agree_evaluate env h0 (not_replay_of_original horiginal)
    obtain ⟨v, hv, hreports⟩ := hrun.of_ok hr
    rw [hreports.intent]
    exact verdict_not_escalating h h0 hhold hrevoked hv
  · rw [(evaluate_blocked_verdict env h0 hr).1]
    exact IntentType.noConfusion

theorem evaluate_silent (env : RuleEnv) (h : Silent (aiTier ctx)) :
    (evaluateOrchestrationIntent env ctx).map decision =
      (evaluateOrchestrationIntent env ctx.withoutAi).map decision := by
  by_cases h0 : preconditionCodes ctx.governance = []
  · have hreplay := not_replay_of_original horiginal
    have hrun' : (evaluateOrchestrationIntent env ctx.withoutAi).map decision = _ :=
      evaluate_decision env h0 hreplay
    rw [evaluate_decision env h0 hreplay, hrun', verdict_silent h]
  · rw [evaluate_blocked_withoutAi env h0]

/-- AI alone does not escalate, and an insight that is not used changes nothing. -/
theorem ai_alone_never_escalates (env : RuleEnv)
    (hhold : ctx.governance.complianceHoldFlag = false)
    (hrevoked : ctx.academic.accessState ≠ some "REVOKED") :
    (NoRuleFactor ctx → ∀ r, evaluateOrchestrationIntent env ctx = .ok r →
        r.intent.orchestrationIntent ≠ .escalateToOperator) ∧
      (Silent (assessAiTier ctx.ai).1 →
        (evaluateOrchestrationIntent env ctx).map decision =
          (evaluateOrchestrationIntent env ctx.withoutAi).map decision) := by
  constructor
  · exact fun h _ hr => not_escalating_of_no_factor horiginal env h hhold hrevoked hr
  · exact fun h => evaluate_silent horiginal env h

end

theorem numeric_none (h : v = none) : Numeric v := by
  intro w hw
  cases h.symm.trans hw

/-- A student whose trend is critical, under a configuration without thresholds. -/
def trendDecision (state : Option String) : DecisionContext where
  governance :=
    { configVersionId := some "2"
      configRuleSet := []
      executionMode := "SHADOW"
      executionType := "original"
      correlationId := some "c-1"
      causationId := none
      attributionContext := requiredAttribution.map (·, .str "x")
      fingerprintContext := none }
  academic :=
    { userId := some 7
      accessState := some "ACTIVE"
      hwsBehind := none
      avgEffRating := none
      lastActivityDays := none
      paymentBalance := none }
  operational := { outreachState := none, contactAttemptCount := 0, retryEligible := false }
  ai :=
    { aiInsightState := state
      aiConfidenceScore := some (9 / 10)
      aiStaleFlag := false
      aiFinalizedCopy := false
      aiRecommendedIntervention := some "ESCALATE" }
  historical := { historicalRiskTrend := some "CRITICAL" }

def trendEnv : RuleEnv where
  now := 0
  fromIsoformat _ := none
  sha256 _ := ""

theorem trendDecision_reachesScore : ReachesScore (trendDecision (some "AI_REVIEWED")) where
  gate := by decide
  late := by
    intro h
    rcases h with h | h | h | h | ⟨-, -, h | h⟩
    · cases h
    · cases h
    · exact absurd h (by decide)
    · exact absurd h (by decide)
    · exact absurd h (by decide)
    · exact absurd h (by decide)
  attempts := .inr (numeric_none rfl)
  remaining := by
    intro h
    obtain ⟨_, w, _, _, hw, _⟩ := h
    cases hw
  risk :=
    { hws := .inl rfl
      effort := .inl rfl
      inactivity := .inl rfl
      payment := .inl rfl
      escalation := .inr (numeric_none rfl) }

theorem trendDecision_tier : aiTier (trendDecision (some "AI_REVIEWED")) = .confident := by
  decide +kernel

/-- A confident advice to escalate turns a medium risk into a critical one, on a rule basis. -/
theorem confident_advice_unattributed :
    (trendDecision (some "AI_REVIEWED")).governance.executionType = "original" ∧
      (∃ r, evaluateOrchestrationIntent trendEnv (trendDecision (some "AI_REVIEWED")) = .ok r ∧
        r.intent.orchestrationIntent = .escalateToOperator ∧ r.riskLevel = some .critical ∧
        r.intent.decisionBasis = "RULE_BASED" ∧ r.intent.aiContext.aiInputUsed = false) ∧
      (∃ r, evaluateOrchestrationIntent trendEnv (trendDecision (some "AI_REVIEWED")).withoutAi =
          .ok r ∧
        r.intent.orchestrationIntent = .initiateOutreach ∧ r.riskLevel = some .medium) ∧
      ¬ Attributed trendEnv (trendDecision (some "AI_REVIEWED")) := by
  have hscore := trendDecision_reachesScore
  have hverdict := verdict_scored hscore
  have hverdict' := verdict_withoutAi_scored hscore
  have hlevel : (signalTally (trendDecision (some "AI_REVIEWED")) +
      adviceTally .confident
        (trendDecision (some "AI_REVIEWED")).ai.aiRecommendedIntervention).level =
        .critical := by decide
  have hlevel' : (signalTally (trendDecision (some "AI_REVIEWED"))).level = .medium := by decide
  rw [trendDecision_tier, hlevel] at hverdict
  rw [hlevel'] at hverdict'
  have hrun := agree_evaluate trendEnv hscore.gate (by decide)
  have hrun' : Agree Reports (verdict (trendDecision (some "AI_REVIEWED")).withoutAi) _ :=
    agree_evaluate trendEnv hscore.gate (by decide)
  have hcalm : levelVerdict (trendDecision (some "AI_REVIEWED")).withoutAi .medium =
      ⟨.initiateOutreach, some .medium, false⟩ := by
    have hretry : retries (trendDecision (some "AI_REVIEWED")).withoutAi = false := by decide
    have hfirst : FirstContact (trendDecision (some "AI_REVIEWED")).withoutAi := by decide
    rw [levelVerdict, if_neg (by decide), calmVerdict, hretry, if_neg Bool.false_ne_true,
      if_neg (not_recommends_withoutAi _), if_pos hfirst]
  rw [hcalm] at hverdict'
  obtain ⟨r, hr, hreports⟩ := hrun.to_ok hverdict
  obtain ⟨r', hr', hreports'⟩ := hrun'.to_ok hverdict'
  refine ⟨rfl, ⟨r, hr, hreports.intent, hreports.riskLevel, hreports.basis, hreports.used⟩,
    ⟨r', hr', hreports'.intent, hreports'.riskLevel⟩, ?_⟩
  intro h
  have hassisted := ((h r r' hr hr').1 ?_ (.inr ?_)).2
  · cases hreports.used.symm.trans hassisted
  · rw [hreports.intent]
    decide
  · rw [hreports.riskLevel, hreports'.riskLevel]
    decide

theorem trend_attributed_iff :
    Attributed trendEnv (trendDecision (some "AI_REVIEWED")) ↔
      ¬ Misattributed (trendDecision (some "AI_REVIEWED")) :=
  ai_influence_attributed_iff trendEnv (trendDecision (some "AI_REVIEWED")) rfl

def calmDecision : DecisionContext :=
  { trendDecision (some "AI_REVIEWED") with historical := { historicalRiskTrend := none } }

theorem calmDecision_noRuleFactor : NoRuleFactor calmDecision where
  hws h := by cases h
  effort h := by cases h
  inactivity h := by cases h
  payment h := by cases h
  escalation h := by cases h
  notCritical h := by cases h
  notDeclining h := by cases h

theorem calmDecision_not_escalated :
    NoRuleFactor calmDecision ∧ calmDecision.ai.aiRecommendedIntervention = some "ESCALATE" ∧
      (evaluateOrchestrationIntent trendEnv calmDecision).map (·.intent.orchestrationIntent) ≠
        .ok .escalateToOperator := by
  have hcalm : calmDecision.academic.accessState ≠ some "REVOKED" := by decide
  refine ⟨calmDecision_noRuleFactor, rfl, ?_⟩
  intro h
  match hr : evaluateOrchestrationIntent trendEnv calmDecision with
  | .error e =>
    rw [hr] at h
    cases h
  | .ok r =>
    rw [hr] at h
    have hescalates : r.intent.orchestrationIntent = .escalateToOperator := Except.ok.inj h
    exact (ai_alone_never_escalates rfl trendEnv rfl hcalm).1 calmDecision_noRuleFactor r hr
      hescalates

end Decision
end StudentSuccess
