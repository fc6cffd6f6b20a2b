import StudentSuccess.EligibilityVerdict
import StudentSuccess.RiskEngines

namespace StudentSuccess
set_option autoImplicit true

def Priority.rank : Priority → Nat
  | .unknown => 0
  | .low => 1
  | .medium => 2
  | .high => 3
  | .critical => 4

theorem Priority.rank_le_upgrade (p : Priority) : p.rank ≤ p.upgrade.rank := by
  cases p <;> decide

theorem Priority.rank_le_critical (p : Priority) : p.rank ≤ Priority.critical.rank := by
  cases p <;> decide

namespace Eligibility

open RuleChain

def EligibilityContext.withAi (ctx : EligibilityContext) (ai : AICtx) : EligibilityContext :=
  { ctx with ai := ai }

/-- No rule before RULE 5 ends the evaluation. -/
def ReachesRule5 (ctx : EligibilityContext) : Prop :=
  ctx.operational.outreachState ≠ some "CLOSED" ∧ ctx.governance.complianceHoldFlag = false ∧
    ctx.academic.accessState ≠ some "REVOKED" ∧ ctx.academic.accessState ≠ some "SUSPENDED"

/-- RULE 5A's gate stops the evaluation: an original execution waits for an insight in flight. -/
def StoppedByGate (ctx : EligibilityContext) (ai : AICtx) : Prop :=
  ReachesRule5 ctx ∧ ctx.governance.executionType = "original" ∧ InFlight ai

/-- A rule that asks nothing of AI ended the evaluation without a candidate: no contact data, the
exclusion window, the ceiling of attempts or an ambiguous state. -/
def ExcludedByRule (a : OrchestrationEligibilityAssessment) : Prop :=
  ∃ rule ∈ ["RULE_6", "RULE_7", "RULE_8", "RULE_8D"], a.rulePathTaken.getLast? = some rule

def EndsAtRule12 (a : OrchestrationEligibilityAssessment) : Prop :=
  a.rulePathTaken.getLast? = some "RULE_12"

theorem advisedPriority_rank (tier : AiTier) (intervention : Option String) (p : Priority) :
    p.rank ≤ (advisedPriority tier intervention p).rank := by
  rw [advisedPriority]
  split_ifs
  · exact p.rank_le_critical
  · exact p.rank_le_upgrade
  · exact p.rank_le_upgrade
  · exact le_rfl

theorem deferred_withAi_iff (ctx : EligibilityContext) (ai : AICtx) :
    Deferred (ctx.withAi ai) ↔ ctx.governance.executionType = "original" ∧ InFlight ai :=
  (and_congr_left' (assessAiTier_inFlight_iff (ctx.withAi ai))).trans and_comm

/-- An evaluation that ends before RULE 5 asks nothing of AI. -/
theorem ending_early (env : RuleEnv) (h : ¬ ReachesRule5 ctx) (x y : AICtx) :
    ending env (ctx.withAi x) = ending env (ctx.withAi y) := by
  by_cases hclosed : ctx.operational.outreachState = some "CLOSED"
  · exact (if_pos hclosed).trans (if_pos hclosed).symm
  · refine (if_neg hclosed).trans (Eq.trans ?_ (if_neg hclosed).symm)
    by_cases hhold : ctx.governance.complianceHoldFlag = true
    · exact (if_pos hhold).trans (if_pos hhold).symm
    · refine (if_neg hhold).trans (Eq.trans ?_ (if_neg hhold).symm)
      by_cases hrevoked : ctx.academic.accessState = some "REVOKED"
      · exact (if_pos hrevoked).trans (if_pos hrevoked).symm
      · refine (if_neg hrevoked).trans (Eq.trans ?_ (if_neg hrevoked).symm)
        by_cases hsuspended : ctx.academic.accessState = some "SUSPENDED"
        · exact (if_pos hsuspended).trans (if_pos hsuspended).symm
        · exact absurd ⟨hclosed, Bool.not_eq_true _ ▸ hhold, hrevoked, hsuspended⟩ h

/-- What the rules test does not depend on AI but for RULE 5A's gate. -/
theorem ending_withAi (env : RuleEnv) (ctx : EligibilityContext)
    (h : StoppedByGate ctx x ↔ StoppedByGate ctx y) :
    ending env (ctx.withAi x) = ending env (ctx.withAi y) := by
  by_cases hreach : ReachesRule5 ctx
  · have hgate : (ctx.governance.executionType = "original" ∧ InFlight x) ↔
        ctx.governance.executionType = "original" ∧ InFlight y :=
      ⟨fun hx => (h.1 ⟨hreach, hx⟩).2, fun hy => (h.2 ⟨hreach, hy⟩).2⟩
    have hdeferred : Deferred (ctx.withAi x) ↔ Deferred (ctx.withAi y) := by
      rw [deferred_withAi_iff, deferred_withAi_iff, hgate]
    rw [ending]
    simp only [hdeferred]
    rfl
  · exact ending_early env hreach x y

theorem scope_withAi (ctx : EligibilityContext) (ai : AICtx) (ending : Ending) :
    ending.scope (ctx.withAi ai) = ending.scope ctx := by
  cases ending <;> rfl

theorem Ending.rule_eq_rule12_iff (x : Ending) : x.rule = "RULE_12" ↔ ∃ p, x = .complete p := by
  cases x <;> simp [Ending.rule]

theorem Ending.eq_deferred (x : Ending) (h : x.rule = "RULE_5A") : x = .deferred := by
  cases x <;> simp [Ending.rule] at h ⊢

theorem Ending.scope_of_excluding (x : Ending)
    (h : x.rule ∈ ["RULE_6", "RULE_7", "RULE_8", "RULE_8D"]) (ctx : EligibilityContext) :
    x.scope ctx = .none := by
  cases x <;> simp [Ending.rule] at h <;> rfl

theorem AssessedAs.not_eligible (h : AssessedAs ctx x a) (hexcluded : ExcludedByRule a) :
    a.orchestrationEligible = false := by
  obtain ⟨rule, hrule, hlast⟩ := hexcluded
  have heq : x.rule = rule := Option.some.inj (h.rule.symm.trans hlast)
  rw [h.eligible, x.scope_of_excluding (heq ▸ hrule) ctx]
  decide

structure ReachesRule9 (env : RuleEnv) (ctx : EligibilityContext) : Prop where
  opened : ctx.operational.outreachState ≠ some "CLOSED"
  free : ¬ ctx.governance.complianceHoldFlag = true
  notRevoked : ctx.academic.accessState ≠ some "REVOKED"
  notSuspended : ctx.academic.accessState ≠ some "SUSPENDED"
  advised : ¬ Deferred ctx
  contact : ¬ noContact ctx = true
  window : ¬ exclusionActive env ctx = true
  unblocked : ¬ (isReplayType ctx.governance.executionType = true ∧
    replayBlocks ctx.governance ≠ [])
  remaining : attemptsExhausted ctx = .ok false
  candidate : isReplayType ctx.governance.executionType = true ∨ candidate ctx = true

theorem ending_atRule9 (h : ReachesRule9 env ctx) :
    ending env ctx = (assessRisk ctx).map fun risk => .complete risk.priority := by
  have hcandidacy : candidacyEnding ctx =
      (assessRisk ctx).map fun risk => .complete risk.priority := by
    rw [candidacyEnding, h.remaining]
    exact if_pos h.candidate
  rw [← hcandidacy, ending]
  simp only [if_neg h.opened, if_neg h.free, if_neg h.notRevoked, if_neg h.notSuspended,
    if_neg h.advised, if_neg h.contact, if_neg h.window, if_neg h.unblocked]

theorem reachesRule9_of_ending (h : ending env ctx = .ok (.complete p)) : ReachesRule9 env ctx := by
  unfold ending at h
  dsimp only at h
  split_ifs at h with hclosed hhold hrevoked hsuspended hdeferred hcontact hwindow hblocked <;>
    try cases h
  unfold candidacyEnding at h
  match hexhausted : attemptsExhausted ctx with
  | .error e =>
    rw [hexhausted] at h
    cases h
  | .ok true =>
    rw [hexhausted] at h
    cases h
  | .ok false =>
    rw [hexhausted] at h
    dsimp only at h
    split_ifs at h with hcandidate
    · exact ⟨hclosed, hhold, hrevoked, hsuspended, hdeferred, hcontact, hwindow, hblocked,
        hexhausted, hcandidate⟩
    · cases h

theorem ending_complete (h : ending env ctx = .ok (.complete p)) :
    ruleNinePriority ctx = .ok p := by
  rw [ending_atRule9 (reachesRule9_of_ending h)] at h
  obtain ⟨risk, hrisk, hcomplete⟩ := Py.map_eq_ok.1 h
  cases hcomplete
  exact Py.map_eq_ok.2 ⟨risk, hrisk, rfl⟩

theorem ruleNinePriority_withAi (ctx : EligibilityContext) (ai : AICtx) :
    ruleNinePriority (ctx.withAi ai) = ruleNinePriority ctx := rfl

theorem orchestrationEligible_eq (env : RuleEnv) (ctx : EligibilityContext) (ai : AICtx)
    (h0 : governancePreconditions ctx.governance = []) :
    (assessOrchestrationEligibility env (ctx.withAi ai)).map (·.orchestrationEligible) =
      (ending env (ctx.withAi ai)).map fun x => decide (x.scope ctx ∈ eligibleScopes) := by
  have hassess : Agree (AssessedAs (ctx.withAi ai)) _ _ := agree_assess env h0
  refine (hassess.map_eq fun x a h => ?_).symm
  rw [h.eligible, scope_withAi]

section
variable {env : RuleEnv} {ctx : EligibilityContext}
  (h0 : governancePreconditions ctx.governance = [])
include h0

theorem deferred_assessment
    (ha : assessOrchestrationEligibility env (ctx.withAi x) = .ok a)
    (hrule : a.rulePathTaken.getLast? = some "RULE_5A") :
    a.orchestrationEligible = true ∧ a.eligibilityScope = .prioritizationOnly ∧
      a.orchestrationPriority = .unknown := by
  have hassess : Agree (AssessedAs (ctx.withAi x)) _ _ := agree_assess env h0
  obtain ⟨e, -, hends⟩ := hassess.of_ok ha
  have hdeferred := e.eq_deferred (Option.some.inj (hends.rule.symm.trans hrule))
  subst hdeferred
  exact ⟨hends.eligible, hends.scope, hends.priority⟩

/-- Two runs that reach RULE 12 differ in how far AI raised the priority of RULE 9 only. -/
theorem completed_assessments
    (ha : assessOrchestrationEligibility env (ctx.withAi x) = .ok a)
    (hend : EndsAtRule12 a) :
    ∃ p, ruleNinePriority ctx = .ok p ∧ a.eligibilityScope = candidateScope ctx ∧
      p.rank ≤ a.orchestrationPriority.rank := by
  have hassess : Agree (AssessedAs (ctx.withAi x)) _ _ := agree_assess env h0
  obtain ⟨e, he, hends⟩ := hassess.of_ok ha
  obtain ⟨p, rfl⟩ := e.rule_eq_rule12_iff.1 (Option.some.inj (hends.rule.symm.trans hend))
  have hnine : ruleNinePriority ctx = .ok p :=
    (ruleNinePriority_withAi ctx x).symm.trans (ending_complete he)
  refine ⟨p, hnine, hends.scope.trans (scope_withAi ctx x _), ?_⟩
  rw [hends.priority]
  exact advisedPriority_rank _ _ p

/-- AI is advisory in eligibility up to RULE 5A's gate. -/
theorem ai_advisory_only :
    ((StoppedByGate ctx x ↔ StoppedByGate ctx y) →
      (assessOrchestrationEligibility env (ctx.withAi x)).map (·.orchestrationEligible) =
          (assessOrchestrationEligibility env (ctx.withAi y)).map (·.orchestrationEligible) ∧
        ∀ a b, assessOrchestrationEligibility env (ctx.withAi x) = .ok a →
          assessOrchestrationEligibility env (ctx.withAi y) = .ok b → ExcludedByRule b →
          a.orchestrationEligible = false) ∧
    (∀ a, assessOrchestrationEligibility env (ctx.withAi x) = .ok a →
      a.rulePathTaken.getLast? = some "RULE_5A" →
      a.orchestrationEligible = true ∧ a.eligibilityScope = .prioritizationOnly ∧
        a.orchestrationPriority = .unknown) ∧
    ∀ a b, assessOrchestrationEligibility env (ctx.withAi x) = .ok a →
      assessOrchestrationEligibility env (ctx.withAi y) = .ok b →
      EndsAtRule12 a → EndsAtRule12 b →
      a.eligibilityScope = b.eligibilityScope ∧
        ∃ p, ruleNinePriority ctx = .ok p ∧ p.rank ≤ a.orchestrationPriority.rank ∧
          p.rank ≤ b.orchestrationPriority.rank := by
  refine ⟨?_, fun a ha hrule => deferred_assessment h0 ha hrule, ?_⟩
  · intro hgate
    have hsame : (assessOrchestrationEligibility env (ctx.withAi x)).map (·.orchestrationEligible) =
        (assessOrchestrationEligibility env (ctx.withAi y)).map (·.orchestrationEligible) := by
      rw [orchestrationEligible_eq env ctx x h0, orchestrationEligible_eq env ctx y h0,
        ending_withAi env ctx hgate]
    refine ⟨hsame, ?_⟩
    intro a b ha hb hexcluded
    have hassess : Agree (AssessedAs (ctx.withAi y)) _ _ := agree_assess env h0
    obtain ⟨e, -, hends⟩ := hassess.of_ok hb
    rw [ha, hb] at hsame
    exact (Except.ok.inj hsame).trans (hends.not_eligible hexcluded)
  · intro a b ha hb hendA hendB
    obtain ⟨p, hp, hscopeA, hrankA⟩ := completed_assessments h0 ha hendA
    obtain ⟨q, hq, hscopeB, hrankB⟩ := completed_assessments h0 hb hendB
    cases hp.symm.trans hq
    exact ⟨hscopeA.trans hscopeB.symm, p, hp, hrankA, hrankB⟩

end

/-- The student of the held context without the hold, and with this address. -/
def releasedContext (email : Option String) : EligibilityContext :=
  { heldContext with
    governance := { heldContext.governance with complianceHoldFlag := false }
    academic := { heldContext.academic with email := email } }

def noInsight : AICtx := heldContext.ai

def generatingInsight : AICtx := { noInsight with aiInsightState := some "AI_GENERATING" }

def reviewedInsight : AICtx :=
  { noInsight with
    aiInsightState := some "AI_REVIEWED"
    aiConfidenceScore := some 1
    aiRecommendedIntervention := some "ESCALATE" }

theorem releasedContext_gate (email : Option String) :
    governancePreconditions (releasedContext email).governance = [] := heldContext_gate

theorem ai_advisory_only_reviewed :
    (assessOrchestrationEligibility heldEnv ((releasedContext (some "a@b")).withAi noInsight)).map
        (·.orchestrationEligible) =
      (assessOrchestrationEligibility heldEnv
        ((releasedContext (some "a@b")).withAi reviewedInsight)).map (·.orchestrationEligible) := by
  have hgate : StoppedByGate (releasedContext (some "a@b")) noInsight ↔
      StoppedByGate (releasedContext (some "a@b")) reviewedInsight := by
    constructor
    · exact fun h => absurd h.2.2.2 (by decide)
    · exact fun h => absurd h.2.2.2 (by decide)
  exact ((ai_advisory_only (releasedContext_gate _)).1 hgate).1

/-- A student whom no channel reaches becomes eligible when an insight is being generated. -/
theorem pending_insight_makes_eligible :
    governancePreconditions (releasedContext none).governance = [] ∧
      (∃ a, assessOrchestrationEligibility heldEnv ((releasedContext none).withAi noInsight) =
          .ok a ∧ a.orchestrationEligible = false ∧ ExcludedByRule a) ∧
      ∃ a, assessOrchestrationEligibility heldEnv
          ((releasedContext none).withAi generatingInsight) = .ok a ∧
        a.orchestrationEligible = true := by
  have h0 := releasedContext_gate none
  have hidle : ending heldEnv ((releasedContext none).withAi noInsight) = .ok .noContact := by
    rfl
  have hpending : ending heldEnv ((releasedContext none).withAi generatingInsight) =
      .ok .deferred := by
    rfl
  have hidleRun : Agree (AssessedAs ((releasedContext none).withAi noInsight)) _ _ :=
    agree_assess heldEnv h0
  have hpendingRun : Agree (AssessedAs ((releasedContext none).withAi generatingInsight)) _ _ :=
    agree_assess heldEnv h0
  obtain ⟨a, ha, hends⟩ := hidleRun.to_ok hidle
  obtain ⟨b, hb, hends'⟩ := hpendingRun.to_ok hpending
  have hexcluded : ExcludedByRule a := ⟨"RULE_6", by simp, hends.rule⟩
  exact ⟨h0, ⟨a, ha, hends.not_eligible hexcluded, hexcluded⟩, b, hb, hends'.eligible⟩

end Eligibility
end StudentSuccess
