import StudentSuccess.AdvisorySignal
import Mathlib.Algebra.Order.Ring.Cast

namespace StudentSuccess
set_option autoImplicit true
open Prioritization (atLeast above below)

theorem Priority.upgrade_mono {p q : Priority} (h : p.rank ≤ q.rank) :
    p.upgrade.rank ≤ q.upgrade.rank := by
  revert h
  cases p <;> cases q <;> decide

namespace Tally

/-- A factor that goes from medium to high leaves the sum as it is. -/
instance : LE Tally := ⟨fun a b => a.high ≤ b.high ∧ a.high + a.med ≤ b.high + b.med⟩

instance (a b : Tally) : Decidable (a ≤ b) := inferInstanceAs (Decidable (_ ∧ _))

theorem le_iff (a b : Tally) : a ≤ b ↔ a.high ≤ b.high ∧ a.high + a.med ≤ b.high + b.med := Iff.rfl

theorem le_refl (a : Tally) : a ≤ a := ⟨le_rfl, le_rfl⟩

theorem zero_le (a : Tally) : 0 ≤ a := ⟨Nat.zero_le _, Nat.zero_le _⟩

theorem add_le_add {a b c d : Tally} (hab : a ≤ b) (hcd : c ≤ d) : a + c ≤ b + d := by
  rw [le_iff] at hab hcd ⊢
  simp only [add_high, add_med]
  omega

/-- The level never falls when factors are added or turn from medium to high. -/
theorem level_mono {a b : Tally} (h : a ≤ b) : a.level.rank ≤ b.level.rank := by
  obtain ⟨hhigh, hsum⟩ := h
  by_cases hcritical : 2 ≤ b.high
  · rw [level, level, if_pos hcritical]
    exact Priority.rank_le_critical _
  · have ha : ¬ 2 ≤ a.high := by omega
    rw [level, level, if_neg hcritical, if_neg ha]
    by_cases hbase : a.high = 0 ∧ a.med = 0
    · rw [if_neg (by omega), if_neg (by omega)]
      split_ifs <;> decide
    · split_ifs <;> first | decide | omega

end Tally

theorem tallyWhen_mono (h : p = true → q = true) (contribution : Tally) :
    tallyWhen p contribution ≤ tallyWhen q contribution := by
  cases p with
  | false => exact Tally.zero_le _
  | true =>
    rw [h rfl]
    exact Tally.le_refl _

/-- How bad a trend is; only two trends count. -/
def trendRank (trend : Option String) : Nat :=
  if trend = some "CRITICAL" then 2 else if trend = some "DECLINING" then 1 else 0

/-- The signals get worse: a number may also come where there was none. -/
structure Signals.Worsens (s s' : Signals) : Prop where
  hwsBehind : s.hwsBehind ≤ s'.hwsBehind
  avgEffRating : Option.le (· ≥ ·) s.avgEffRating s'.avgEffRating
  lastActivityDays : s.lastActivityDays ≤ s'.lastActivityDays
  paymentBalance : s.paymentBalance ≤ s'.paymentBalance
  priorEscalationCount : s.priorEscalationCount ≤ s'.priorEscalationCount
  historicalRiskTrend : trendRank s.historicalRiskTrend ≤ trendRank s'.historicalRiskTrend

/-- A worse value stands in the relation to whatever the value does. -/
def Rising (worse : Rat → Rat → Prop) (rel : Rat → Rat → Bool) : Prop :=
  ∀ x y limit, worse x y → rel x limit = true → rel y limit = true

theorem atLeast_rising : Rising (· ≤ ·) atLeast := by
  intro x y limit hxy hx
  exact decide_eq_true ((of_decide_eq_true hx).trans hxy)

theorem above_rising : Rising (· ≤ ·) above := by
  intro x y limit hxy hx
  exact decide_eq_true (lt_of_lt_of_le (of_decide_eq_true hx) hxy)

theorem below_rising : Rising (· ≥ ·) below := by
  intro x y limit hxy hx
  exact decide_eq_true (lt_of_le_of_lt hxy (of_decide_eq_true hx))

theorem past_mono (hrel : Rising worse rel) (h : Option.le worse x y) (limit : Option Rat)
    (hpast : past rel x limit = true) : past rel y limit = true := by
  cases limit with
  | none => cases hpast
  | some z =>
    cases x with
    | none => cases hpast
    | some a =>
      cases y with
      | none => cases h
      | some b => exact hrel a b z h hpast

theorem limitTally_mono (hrel : Rising worse rel) (h : Option.le worse x y)
    (high mod : Option Rat) : limitTally rel x high mod ≤ limitTally rel y high mod := by
  by_cases hy : past rel y high = true
  · rw [limitTally, limitTally, if_pos hy]
    cases past rel x high <;> cases past rel x mod <;> decide
  · have hx : ¬ past rel x high = true := mt (past_mono hrel h high) hy
    rw [limitTally, limitTally, if_neg hy, if_neg hx]
    exact tallyWhen_mono (past_mono hrel h mod) _

theorem le_map_cast {x y : Option Int} (h : x ≤ y) :
    Option.le (· ≤ ·) (x.map ((↑) : Int → Rat)) (y.map (↑)) := by
  cases x with
  | none => exact Option.none_le
  | some a =>
    cases y with
    | none => exact absurd h Option.not_some_le_none
    | some b =>
      have hab : (a : Rat) ≤ b := Int.cast_le.2 (Option.some_le_some.1 h)
      exact hab

theorem trendTally_mono (h : trendRank trend ≤ trendRank trend') :
    trendTally trend ≤ trendTally trend' := by
  simp only [trendRank] at h
  simp only [trendTally]
  split_ifs at h ⊢ <;> first | decide | omega

/-- The factors never become fewer or lighter when the signals get worse. -/
theorem riskTally_mono (hinactive : Rising (· ≤ ·) inactive) (h : s.Worsens s')
    (limits : RiskLimits) : riskTally inactive s limits ≤ riskTally inactive s' limits := by
  have hhws := limitTally_mono atLeast_rising (le_map_cast h.hwsBehind) limits.hwsHigh
    limits.hwsModerate
  have heffort := tallyWhen_mono (past_mono below_rising h.avgEffRating limits.effort)
    ⟨0, 1⟩
  have hinactivity := limitTally_mono hinactive (le_map_cast h.lastActivityDays)
    limits.inactivityHigh limits.inactivityModerate
  have hpayment := tallyWhen_mono (past_mono above_rising h.paymentBalance limits.payment) ⟨0, 1⟩
  have hescalation := tallyWhen_mono
    (past_mono atLeast_rising (le_map_cast h.priorEscalationCount) limits.escalation) ⟨1, 0⟩
  have htrend := trendTally_mono h.historicalRiskTrend
  exact Tally.add_le_add (Tally.add_le_add (Tally.add_le_add (Tally.add_le_add
    (Tally.add_le_add hhws heffort) hinactivity) hpayment) hescalation) htrend

namespace Eligibility

open RuleChain

def EligibilityContext.withSignals (ctx : EligibilityContext) (s : Signals) : EligibilityContext :=
  { ctx with
    academic :=
      { ctx.academic with
        hwsBehind := s.hwsBehind
        avgEffRating := s.avgEffRating
        lastActivityDays := s.lastActivityDays
        paymentBalance := s.paymentBalance
        priorEscalationCount := s.priorEscalationCount.getD 0
        historicalRiskTrend := s.historicalRiskTrend } }

/-- The signals of the student get worse, and nothing else is different. -/
structure EligibilityContext.Worsens (ctx ctx' : EligibilityContext) : Prop where
  same : ctx' = ctx.withSignals ctx'.signals
  worse : ctx.signals.Worsens ctx'.signals

theorem advisedPriority_mono (tier : AiTier) (intervention : Option String)
    (h : p.rank ≤ q.rank) :
    (advisedPriority tier intervention p).rank ≤ (advisedPriority tier intervention q).rank := by
  simp only [advisedPriority]
  split_ifs
  · exact le_rfl
  · exact Priority.upgrade_mono h
  · exact Priority.upgrade_mono h
  · exact h

section
variable {env : RuleEnv} {ctx ctx' : EligibilityContext}

theorem EligibilityContext.Worsens.bounds (h : ctx.Worsens ctx') : bounds ctx' = bounds ctx := by
  rw [h.same]
  rfl

theorem EligibilityContext.Worsens.priority (h : ctx.Worsens ctx')
    (x : Ending) : x.priority ctx' = x.priority ctx := by
  rw [h.same]
  rfl

/-- RULE 9 never finds a lower priority when the signals get worse. -/
theorem assessRisk_mono (h : ctx.Worsens ctx') (hrisk : assessRisk ctx = .ok risk)
    (hrisk' : assessRisk ctx' = .ok risk') : risk.priority.rank ≤ risk'.priority.rank := by
  have htally : risk.tally ≤ risk'.tally := by
    rw [assessRisk_tally hrisk, assessRisk_tally hrisk', h.bounds]
    exact riskTally_mono atLeast_rising h.worse _
  exact Tally.level_mono htally

/-- A completed evaluation has passed every rule but RULE 9 without a look at the signals. -/
theorem ending_withSignals (hcomplete : ending env ctx = .ok (.complete p)) (s : Signals) :
    ending env (ctx.withSignals s) =
      (assessRisk (ctx.withSignals s)).map fun risk => .complete risk.priority := by
  have hreaches := reachesRule9_of_ending hcomplete
  have hreaches' : ReachesRule9 env (ctx.withSignals s) := { hreaches with }
  exact ending_atRule9 hreaches'

/-- An assessment that RULE 12 ends has passed RULE 0. -/
theorem governed_of_rule12 (ha : assessOrchestrationEligibility env ctx = .ok a)
    (hend : EndsAtRule12 a) : governancePreconditions ctx.governance = [] := by
  by_contra h0
  rw [assessOrchestrationEligibility, if_pos h0] at ha
  cases ha
  exact absurd hend (by simp [EndsAtRule12, makeBlocked])

theorem eligibility_priority_mono (h : ctx.Worsens ctx')
    (ha : assessOrchestrationEligibility env ctx = .ok a) (hend : EndsAtRule12 a)
    (ha' : assessOrchestrationEligibility env ctx' = .ok a') :
    EndsAtRule12 a' ∧ a.orchestrationPriority.rank ≤ a'.orchestrationPriority.rank := by
  have h0 : governancePreconditions ctx.governance = [] := governed_of_rule12 ha hend
  have h0' : governancePreconditions ctx'.governance = [] := by
    rw [h.same]
    exact h0
  obtain ⟨x, hx, hassessed⟩ := (agree_assess env h0).of_ok ha
  obtain ⟨x', hx', hassessed'⟩ := (agree_assess env h0').of_ok ha'
  obtain ⟨p, rfl⟩ := x.rule_eq_rule12_iff.1 (Option.some.inj (hassessed.rule.symm.trans hend))
  have hending := ending_withSignals hx ctx'.signals
  rw [← h.same, hx'] at hending
  obtain ⟨risk', hrisk', rfl⟩ := Py.map_eq_ok.1 hending.symm
  obtain ⟨risk, hrisk, rfl⟩ := Py.map_eq_ok.1 (ending_complete hx)
  refine ⟨hassessed'.rule, ?_⟩
  rw [hassessed.priority, hassessed'.priority, h.priority]
  exact advisedPriority_mono _ _ (assessRisk_mono h hrisk hrisk')

end

end Eligibility

namespace Prioritization

def PrioritizationContext.withSignals (ctx : PrioritizationContext) (s : Signals) :
    PrioritizationContext :=
  { ctx with
    hwsBehind := s.hwsBehind
    avgEffRating := s.avgEffRating
    lastActivityDays := s.lastActivityDays
    paymentBalance := s.paymentBalance
    priorEscalationCount := s.priorEscalationCount
    historicalRiskTrend := s.historicalRiskTrend }

structure PrioritizationContext.Worsens (ctx ctx' : PrioritizationContext) : Prop where
  same : ctx' = ctx.withSignals ctx'.signals
  worse : ctx.signals.Worsens ctx'.signals

theorem applyAiAdjustment_mono (aiTier : AiTier) (intervention : Option String)
    (h : p.rank ≤ q.rank) :
    (applyAiAdjustment p aiTier intervention).1.rank ≤
      (applyAiAdjustment q aiTier intervention).1.rank := by
  simp only [applyAiAdjustment]
  cases aiTier with
  | confident =>
    dsimp only
    split_ifs
    · exact le_rfl
    · rw [raiseLevel_fst, raiseLevel_fst]
      exact Priority.upgrade_mono h
    · exact h
  | advisory =>
    dsimp only
    split_ifs
    · rw [raiseLevel_fst, raiseLevel_fst]
      exact Priority.upgrade_mono h
    · exact h
  | _ => exact h

theorem signalTally_mono (h : ctx.Worsens ctx') : signalTally ctx ≤ signalTally ctx' := by
  have hbounds : bounds ctx' = bounds ctx := by
    rw [h.same]
    rfl
  rw [signalTally, signalTally, hbounds]
  exact riskTally_mono above_rising h.worse _

/-- The base priority under a fixed AI signal. -/
theorem basePriority_mono (h : ctx.Worsens ctx') (aiTier : AiTier) :
    (basePriority ctx aiTier).rank ≤ (basePriority ctx' aiTier).rank := by
  have hai : aiFactor ctx' aiTier = aiFactor ctx aiTier := by
    rw [h.same]
    rfl
  rw [basePriority_level, basePriority_level, hai]
  exact Tally.level_mono (Tally.add_le_add (signalTally_mono h) (Tally.le_refl _))

theorem advisory_priority_mono (keys : List String) (h : ctx.Worsens ctx') :
    (assessOrchestrationPriority keys ctx).2.advisoryPriority.rank ≤
      (assessOrchestrationPriority keys ctx').2.advisoryPriority.rank := by
  have hevaluated : Evaluated keys ctx' ↔ Evaluated keys ctx := by
    rw [h.same]
    exact Iff.rfl
  have htier : classifyAiTier ctx' (bindings ctx') = classifyAiTier ctx (bindings ctx) := by
    rw [h.same]
    rfl
  have hintervention : ctx'.aiRecommendedIntervention = ctx.aiRecommendedIntervention := by
    rw [h.same]
    rfl
  have htype : ctx'.executionType = ctx.executionType := by
    rw [h.same]
    rfl
  by_cases hscored : Evaluated keys ctx
  · by_cases hflight : classifyAiTier ctx (bindings ctx) = .inFlight ∧
        ctx.executionType = "original"
    · rw [assess_deferred hscored hflight]
      exact Nat.zero_le _
    · have hflight' : ¬ (classifyAiTier ctx' (bindings ctx') = .inFlight ∧
          ctx'.executionType = "original") := by
        rw [htier, htype]
        exact hflight
      rw [assess_scored hscored hflight, assess_scored (hevaluated.2 hscored) hflight', htier,
        hintervention]
      exact applyAiAdjustment_mono _ _ (basePriority_mono h _)
  · rw [assess_unevaluated hscored]
    exact Nat.zero_le _

end Prioritization

section
open Eligibility Prioritization

/-- No priority falls when the signals of a student get worse, whatever thresholds are resolved. -/
theorem priority_monotone_in_risk :
    (∀ (env : RuleEnv) (ctx ctx' : EligibilityContext) (a a' : OrchestrationEligibilityAssessment),
      ctx.Worsens ctx' → assessOrchestrationEligibility env ctx = .ok a → EndsAtRule12 a →
      assessOrchestrationEligibility env ctx' = .ok a' →
      EndsAtRule12 a' ∧ a.orchestrationPriority.rank ≤ a'.orchestrationPriority.rank) ∧
    ∀ (keys : List String) (ctx ctx' : PrioritizationContext), ctx.Worsens ctx' →
      (assessOrchestrationPriority keys ctx).2.advisoryPriority.rank ≤
        (assessOrchestrationPriority keys ctx').2.advisoryPriority.rank :=
  ⟨fun _ _ _ _ _ h ha hend ha' => eligibility_priority_mono h ha hend ha',
    fun keys _ _ h => advisory_priority_mono keys h⟩

def Signals.critical (s : Signals) : Signals := { s with historicalRiskTrend := some "CRITICAL" }

theorem option_le_refl [Preorder α] (x : Option α) : x ≤ x := by
  cases x with
  | none => exact Option.none_le
  | some a => exact Option.some_le_some.2 le_rfl

theorem trendRank_le (trend : Option String) : trendRank trend ≤ 2 := by
  rw [trendRank]
  split_ifs <;> decide

/-- No trend is worse than the critical one. -/
theorem Signals.worsens_critical (s : Signals) : s.Worsens s.critical where
  hwsBehind := option_le_refl _
  avgEffRating := option_le_refl (α := Ratᵒᵈ) s.avgEffRating
  lastActivityDays := option_le_refl _
  paymentBalance := option_le_refl _
  priorEscalationCount := option_le_refl _
  historicalRiskTrend := trendRank_le _

theorem priority_monotone_in_trend :
    (∃ a a', assessOrchestrationEligibility heldEnv (releasedContext (some "a@b")) = .ok a ∧
      assessOrchestrationEligibility heldEnv ((releasedContext (some "a@b")).withSignals
        (releasedContext (some "a@b")).signals.critical) = .ok a' ∧
      EndsAtRule12 a' ∧ a.orchestrationPriority.rank ≤ a'.orchestrationPriority.rank) ∧
    (assessOrchestrationPriority [] calmContext).2.advisoryPriority.rank ≤
      (assessOrchestrationPriority []
        (calmContext.withSignals calmContext.signals.critical)).2.advisoryPriority.rank := by
  let ctx := releasedContext (some "a@b")
  have hworse : ctx.Worsens (ctx.withSignals ctx.signals.critical) :=
    ⟨rfl, ctx.signals.worsens_critical⟩
  have hworse' : calmContext.Worsens (calmContext.withSignals calmContext.signals.critical) :=
    ⟨rfl, calmContext.signals.worsens_critical⟩
  have hlow : ending heldEnv ctx = .ok (.complete .low) := by
    rfl
  have hmedium : ending heldEnv (ctx.withSignals ctx.signals.critical) =
      .ok (.complete .medium) := by
    rfl
  have hgate : governancePreconditions ctx.governance = [] := releasedContext_gate _
  have hgate' : governancePreconditions (ctx.withSignals ctx.signals.critical).governance = [] :=
    hgate
  obtain ⟨a, ha, hassessed⟩ := (agree_assess heldEnv hgate).to_ok hlow
  obtain ⟨a', ha', -⟩ := (agree_assess heldEnv hgate').to_ok hmedium
  exact ⟨⟨a, a', ha, ha', priority_monotone_in_risk.1 _ _ _ a a' hworse ha hassessed.rule ha'⟩,
    priority_monotone_in_risk.2 [] _ _ hworse'⟩

end

end StudentSuccess
