import StudentSuccess.LiveCandidacy
import StudentSuccess.PriorityAdvisory
import StudentSuccess.DecisionEngine

namespace StudentSuccess
set_option autoImplicit true
open Prioritization (atLeast above below)

/-- The signals of a student that the risk engines score. -/
structure Signals where
  hwsBehind : Option Int
  avgEffRating : Option Rat
  lastActivityDays : Option Int
  paymentBalance : Option Rat
  priorEscalationCount : Option Int
  historicalRiskTrend : Option String

/-- The thresholds of the engines by their meaning. -/
structure Limits where
  hwsHigh : Rat
  hwsModerate : Rat
  effort : Rat
  inactivityHigh : Rat
  inactivityModerate : Rat
  payment : Rat
  escalation : Rat

/-- The numbers of high and of medium contributions. -/
@[ext]
structure Tally where
  high : Nat
  med : Nat
  deriving DecidableEq

namespace Tally

instance : Add Tally := ⟨fun a b => ⟨a.high + b.high, a.med + b.med⟩⟩

instance : Zero Tally := ⟨⟨0, 0⟩⟩

@[simp] theorem add_high (a b : Tally) : (a + b).high = a.high + b.high := rfl

@[simp] theorem add_med (a b : Tally) : (a + b).med = a.med + b.med := rfl

@[simp] theorem zero_high : (0 : Tally).high = 0 := rfl

@[simp] theorem zero_med : (0 : Tally).med = 0 := rfl

def level (a : Tally) : Priority :=
  if 2 ≤ a.high then .critical
  else if a.high = 1 ∧ 1 ≤ a.med then .high
  else if 1 ≤ a.high ∨ 1 ≤ a.med then .medium
  else .low

theorem level_zero (med : Nat) :
    (⟨0, med⟩ : Tally).level = if 0 < med then .medium else .low := by
  simp [level, Nat.one_le_iff_ne_zero, Nat.pos_iff_ne_zero]

theorem level_one (med : Nat) :
    (⟨1, med⟩ : Tally).level = if 0 < med then .high else .medium := by
  simp [level, Nat.one_le_iff_ne_zero, Nat.pos_iff_ne_zero]

theorem level_many {high : Nat} (h : 2 ≤ high) (med : Nat) :
    (⟨high, med⟩ : Tally).level = .critical :=
  if_pos h

/-- More medium contributions raise the level by one step, when there was none before and at most
one high contribution, and else leave it. -/
theorem level_add_med (a : Tally) (k : Nat) :
    (a + ⟨0, k⟩).level =
      if a.high ≤ 1 ∧ a.med = 0 ∧ 0 < k then a.level.upgrade else a.level := by
  obtain ⟨high, med⟩ := a
  have hsum : (⟨high, med⟩ : Tally) + ⟨0, k⟩ = ⟨high, med + k⟩ := rfl
  rw [hsum]
  obtain rfl | rfl | hmany : high = 0 ∨ high = 1 ∨ 2 ≤ high := by omega
  · simp only [level_zero]
    split_ifs <;> first | rfl | omega
  · simp only [level_one]
    split_ifs <;> first | rfl | omega
  · have hnot : ¬ (high ≤ 1 ∧ med = 0 ∧ 0 < k) := fun h => absurd h.1 (by omega)
    rw [level_many hmany, level_many hmany, if_neg hnot]

end Tally

/-- A contribution that is made when the condition holds. -/
def tallyWhen (condition : Bool) (contribution : Tally) : Tally :=
  if condition then contribution else 0

/-- The signal is there, and stands in the relation to the limit. -/
def beyond (rel : Rat → Rat → Bool) (x : Option Rat) (limit : Rat) : Bool := x.any (rel · limit)

/-- A high contribution beyond one limit, and, in an engine that has moderate tiers, a medium one
beyond another. -/
def tierTally (rel : Rat → Rat → Bool) (moderate : Bool) (x : Option Rat)
    (high mod : Rat) : Tally :=
  if beyond rel x high then ⟨1, 0⟩ else tallyWhen (moderate && beyond rel x mod) ⟨0, 1⟩

@[simp] theorem tallyWhen_high (condition : Bool) (contribution : Tally) :
    (tallyWhen condition contribution).high = if condition then contribution.high else 0 := by
  cases condition with
  | false => rfl
  | true => rfl

@[simp] theorem tallyWhen_med (condition : Bool) (contribution : Tally) :
    (tallyWhen condition contribution).med = if condition then contribution.med else 0 := by
  cases condition with
  | false => rfl
  | true => rfl

theorem tierTally_false (rel : Rat → Rat → Bool) (x : Option Rat) (high mod : Rat) :
    tierTally rel false x high mod = tallyWhen (beyond rel x high) ⟨1, 0⟩ := by
  simp only [tierTally, tallyWhen]
  split_ifs with hbeyond hfalse
  · rfl
  · cases hfalse
  · rfl

theorem tierTally_true_high (rel : Rat → Rat → Bool) (x : Option Rat) (high mod : Rat) :
    (tierTally rel true x high mod).high = (tierTally rel false x high mod).high := by
  rw [tierTally_false, tallyWhen_high, tierTally]
  split_ifs
  · rfl
  · exact (tallyWhen_high _ _).trans (ite_self 0)

theorem tierTally_false_med (rel : Rat → Rat → Bool) (x : Option Rat) (high mod : Rat) :
    (tierTally rel false x high mod).med = 0 := by
  rw [tierTally_false, tallyWhen_med]
  exact ite_self 0

def trendTally (trend : Option String) : Tally :=
  if trend = some "CRITICAL" then ⟨1, 0⟩ else if trend = some "DECLINING" then ⟨0, 1⟩ else 0

/-- Where the engines differ: in how they compare inactivity with its limits, and in whether
they have moderate tiers. -/
structure Engine where
  inactive : Rat → Rat → Bool
  moderate : Bool

def eligibilityEngine : Engine := ⟨atLeast, true⟩

def priorityEngine : Engine := ⟨above, true⟩

def decisionEngine : Engine := ⟨above, false⟩

def Engine.tally (engine : Engine) (s : Signals) (limits : Limits) : Tally :=
  tierTally atLeast engine.moderate (s.hwsBehind.map (↑)) limits.hwsHigh limits.hwsModerate +
  tallyWhen (beyond below s.avgEffRating limits.effort) ⟨0, 1⟩ +
  tierTally engine.inactive engine.moderate (s.lastActivityDays.map (↑)) limits.inactivityHigh
    limits.inactivityModerate +
  tallyWhen (beyond above s.paymentBalance limits.payment) ⟨0, 1⟩ +
  tallyWhen (beyond atLeast (s.priorEscalationCount.map (↑)) limits.escalation) ⟨1, 0⟩ +
  trendTally s.historicalRiskTrend

/-- The limits of an engine, each resolved to a number or not. -/
structure RiskLimits where
  hwsHigh : Option Rat
  hwsModerate : Option Rat
  effort : Option Rat
  inactivityHigh : Option Rat
  inactivityModerate : Option Rat
  payment : Option Rat
  escalation : Option Rat

def Limits.resolved (limits : Limits) : RiskLimits where
  hwsHigh := some limits.hwsHigh
  hwsModerate := some limits.hwsModerate
  effort := some limits.effort
  inactivityHigh := some limits.inactivityHigh
  inactivityModerate := some limits.inactivityModerate
  payment := some limits.payment
  escalation := some limits.escalation

/-- Signal and limit are there, and the signal stands in the relation to the limit. -/
def past (rel : Rat → Rat → Bool) (x limit : Option Rat) : Bool := limit.any (beyond rel x)

/-- A high contribution past one limit, or a medium one past another. -/
def limitTally (rel : Rat → Rat → Bool) (x high mod : Option Rat) : Tally :=
  if past rel x high then ⟨1, 0⟩ else tallyWhen (past rel x mod) ⟨0, 1⟩

/-- The contributions of the two engines that have moderate tiers, under any limits; the engines
compare inactivity in different ways. -/
def riskTally (inactive : Rat → Rat → Bool) (s : Signals) (limits : RiskLimits) : Tally :=
  limitTally atLeast (s.hwsBehind.map (↑)) limits.hwsHigh limits.hwsModerate +
  tallyWhen (past below s.avgEffRating limits.effort) ⟨0, 1⟩ +
  limitTally inactive (s.lastActivityDays.map (↑)) limits.inactivityHigh
    limits.inactivityModerate +
  tallyWhen (past above s.paymentBalance limits.payment) ⟨0, 1⟩ +
  tallyWhen (past atLeast (s.priorEscalationCount.map (↑)) limits.escalation) ⟨1, 0⟩ +
  trendTally s.historicalRiskTrend

theorem riskTally_resolved (inactive : Rat → Rat → Bool) (s : Signals) (limits : Limits) :
    riskTally inactive s limits.resolved = (⟨inactive, true⟩ : Engine).tally s limits := rfl

/-- The rule set gives the key a number. -/
def Resolves (ruleSet : RuleSet) (key : String) (x : Rat) : Prop :=
  ∃ v, Py.get? key ruleSet = some v ∧ v.num? = some x

/-- The rule set resolves every threshold of the three engines, and to the same number where two
keys have the same meaning. -/
structure Aligned (ruleSet : RuleSet) (limits : Limits) : Prop where
  hwsHigh : Resolves ruleSet Eligibility.kHwsHigh limits.hwsHigh
  minHws : Resolves ruleSet Eligibility.kMinHws limits.hwsModerate
  hwsBehindModerate : Resolves ruleSet Prioritization.kHwsBehindModerate limits.hwsModerate
  minEff : Resolves ruleSet Eligibility.kMinEff limits.effort
  avgEffRating : Resolves ruleSet Prioritization.kAvgEffRating limits.effort
  inactHigh : Resolves ruleSet Eligibility.kInactHigh limits.inactivityHigh
  maxInact : Resolves ruleSet Eligibility.kMaxInact limits.inactivityModerate
  inactivityModerate : Resolves ruleSet Prioritization.kInactivityModerate limits.inactivityModerate
  paymentRisk : Resolves ruleSet Eligibility.kPaymentRisk limits.payment
  escRepeat : Resolves ruleSet Eligibility.kEscRepeat limits.escalation

theorem num?_comparable (h : v.num? = some x) : comparable v = some v := by
  cases v with
  | null => cases h
  | str s => cases h
  | bool b => rfl
  | int n => rfl
  | float x => rfl
  | list xs => rfl
  | dict entries => rfl

/-- A comparison with a number is the relation it stands for. -/
theorem crosses_ge (h : v.num? = some y) (x : Option Rat) :
    crosses Py.geValue x (some v) = .ok (beyond atLeast x y) := by
  cases x with
  | none => rfl
  | some x => simp only [crosses, Py.geValue, h, beyond, Option.any_some, atLeast]

theorem crosses_lt (h : v.num? = some y) (x : Option Rat) :
    crosses Py.ltValue x (some v) = .ok (beyond below x y) := by
  cases x with
  | none => rfl
  | some x => simp only [crosses, Py.ltValue, h, beyond, Option.any_some, below]

theorem crosses_gt (h : v.num? = some y) (x : Option Rat) :
    crosses Py.gtValue x (some v) = .ok (beyond above x y) := by
  cases x with
  | none => rfl
  | some x => simp only [crosses, Py.gtValue, h, beyond, Option.any_some, above]

/-- The comparison, when it returns, tells whether the relation holds. -/
def Decides (cmp : Rat → Py.Value → Except Py.Error Bool) (rel : Rat → Rat → Bool) : Prop :=
  ∀ x v holds, cmp x v = .ok holds → ∃ y, v.num? = some y ∧ holds = rel x y

theorem geValue_decides : Decides Py.geValue atLeast := by
  intro x v holds h
  rw [Py.geValue] at h
  split at h
  · next y hy => exact ⟨y, hy, (Except.ok.inj h).symm⟩
  · cases h

theorem ltValue_decides : Decides Py.ltValue below := by
  intro x v holds h
  rw [Py.ltValue] at h
  split at h
  · next y hy => exact ⟨y, hy, (Except.ok.inj h).symm⟩
  · cases h

theorem gtValue_decides : Decides Py.gtValue above := by
  intro x v holds h
  rw [Py.gtValue] at h
  split at h
  · next y hy => exact ⟨y, hy, (Except.ok.inj h).symm⟩
  · cases h

@[simp] theorem past_none (rel : Rat → Rat → Bool) (limit : Option Rat) :
    past rel none limit = false := by
  cases limit with
  | none => rfl
  | some y => rfl

theorem crosses_past {cmp : Rat → Py.Value → Except Py.Error Bool} (hcmp : Decides cmp rel)
    (h : crosses cmp x v = .ok holds) :
    holds = past rel x (v.bind Py.Value.num?) := by
  cases x with
  | none =>
    cases h
    exact (past_none _ _).symm
  | some x =>
    cases v with
    | none =>
      cases h
      rfl
    | some v =>
      obtain ⟨y, hy, rfl⟩ := hcmp x v holds h
      rw [Option.bind_some, hy]
      rfl

namespace Eligibility

def EligibilityContext.signals (ctx : EligibilityContext) : Signals where
  hwsBehind := ctx.academic.hwsBehind
  avgEffRating := ctx.academic.avgEffRating
  lastActivityDays := ctx.academic.lastActivityDays
  paymentBalance := ctx.academic.paymentBalance
  priorEscalationCount := some ctx.academic.priorEscalationCount
  historicalRiskTrend := ctx.academic.historicalRiskTrend

def Risk.tally (risk : Risk) : Tally := ⟨risk.high, risk.med⟩

@[simp] theorem Risk.tally_add (a b : Risk) : (a.add b).tally = a.tally + b.tally := rfl

theorem t_eq (hkey : key ∈ keyMap) (h : Resolves ctx.governance.configRuleSet key x) :
    ∃ v, t ctx key = some v ∧ v.num? = some x := by
  obtain ⟨v, hget, hnum⟩ := h
  refine ⟨v, ?_, hnum⟩
  rw [t, thresholds, threshold_resolveThresholds hkey hget rfl]
  exact num?_comparable hnum

/-- The number that the rules compare with, if the threshold is one. -/
def bound (ctx : EligibilityContext) (key : String) : Option Rat := (t ctx key).bind Py.Value.num?

def bounds (ctx : EligibilityContext) : RiskLimits where
  hwsHigh := bound ctx kHwsHigh
  hwsModerate := bound ctx kMinHws
  effort := bound ctx kMinEff
  inactivityHigh := bound ctx kInactHigh
  inactivityModerate := bound ctx kMaxInact
  payment := bound ctx kPaymentRisk
  escalation := bound ctx kEscRepeat

theorem factor_tally {cmp : Rat → Py.Value → Except Py.Error Bool} (hcmp : Decides cmp rel)
    (h : factor (crosses cmp x v) risk = .ok found) :
    found.tally = tallyWhen (past rel x (v.bind Py.Value.num?)) risk.tally := by
  obtain ⟨crossed, hcrossed, rfl⟩ := Py.map_eq_ok.1 h
  rw [← crosses_past hcmp hcrossed]
  cases crossed with
  | false => rfl
  | true => rfl

theorem check_tally (h : check val v w highLabel medLabel = .ok risk) :
    risk.tally = limitTally atLeast val (v.bind Py.Value.num?) (w.bind Py.Value.num?) := by
  cases val with
  | none =>
    cases h
    rw [limitTally, past_none, past_none]
    rfl
  | some x =>
    rw [check, if_neg (by simp)] at h
    obtain ⟨high, hhigh, h⟩ := Py.bind_eq_ok.1 h
    rw [limitTally, ← crosses_past geValue_decides hhigh]
    cases high with
    | false => exact factor_tally geValue_decides h
    | true =>
      cases h
      rfl

theorem trendRisk_tally (ctx : EligibilityContext) :
    (trendRisk ctx).tally = trendTally ctx.academic.historicalRiskTrend := by
  rw [trendRisk, trendTally]
  split_ifs
  · rfl
  · rfl
  · rfl

theorem effortRisk_tally (h : effortRisk ctx = .ok risk) :
    risk.tally =
      tallyWhen (past below ctx.academic.avgEffRating (bound ctx kMinEff)) ⟨0, 1⟩ := by
  rw [effortRisk] at h
  split_ifs at h with hnone
  · cases h
    rw [Option.isNone_iff_eq_none.1 hnone, past_none]
    rfl
  · exact factor_tally ltValue_decides h

/-- The contributions that RULE 9 counts when no comparison of it raises. -/
theorem assessRisk_tally (h : assessRisk ctx = .ok risk) :
    risk.tally = riskTally atLeast ctx.signals (bounds ctx) := by
  obtain ⟨hws, hhws, h⟩ := Py.bind_eq_ok.1 h
  obtain ⟨effort, heffort, h⟩ := Py.bind_eq_ok.1 h
  obtain ⟨inactivity, hinactivity, h⟩ := Py.bind_eq_ok.1 h
  obtain ⟨payment, hpayment, h⟩ := Py.bind_eq_ok.1 h
  obtain ⟨escalation, hescalation, h⟩ := Py.bind_eq_ok.1 h
  cases h
  simp only [Risk.tally_add, check_tally hhws, effortRisk_tally heffort, check_tally hinactivity,
    factor_tally gtValue_decides hpayment, factor_tally geValue_decides hescalation,
    trendRisk_tally]
  rfl

def Scores (outcome : Except Py.Error Risk) (tally : Tally) : Prop :=
  ∃ risk, outcome = .ok risk ∧ risk.tally = tally

theorem t_numeric (hkey : key ∈ keyMap) (h : Resolves ctx.governance.configRuleSet key x) :
    Numeric (t ctx key) ∧ bound ctx key = some x := by
  obtain ⟨v, hv, hnum⟩ := t_eq hkey h
  rw [bound, hv]
  refine ⟨?_, hnum⟩
  intro w hw
  cases hw
  simp [hnum]

section
variable {ctx : EligibilityContext} (h : Aligned ctx.governance.configRuleSet limits)
include h

theorem bounds_resolved : Eligibility.bounds ctx = limits.resolved := by
  simp only [Eligibility.bounds, (t_numeric (by decide) h.hwsHigh).2,
    (t_numeric (by decide) h.minHws).2, (t_numeric (by decide) h.minEff).2,
    (t_numeric (by decide) h.inactHigh).2, (t_numeric (by decide) h.maxInact).2,
    (t_numeric (by decide) h.paymentRisk).2, (t_numeric (by decide) h.escRepeat).2]
  rfl

theorem riskCompares_of_aligned : RiskCompares ctx where
  hws := ⟨.inr (t_numeric (by decide) h.hwsHigh).1, .inr (.inr (t_numeric (by decide) h.minHws).1)⟩
  effort := .inr (t_numeric (by decide) h.minEff).1
  inactivity :=
    ⟨.inr (t_numeric (by decide) h.inactHigh).1, .inr (.inr (t_numeric (by decide) h.maxInact).1)⟩
  payment := .inr (t_numeric (by decide) h.paymentRisk).1
  escalation := .inr (t_numeric (by decide) h.escRepeat).1

/-- RULE 9 on a rule set that resolves its thresholds. -/
theorem assessRisk_scores :
    Scores (assessRisk ctx) (eligibilityEngine.tally ctx.signals limits) := by
  obtain ⟨risk, hrisk⟩ := (assessRisk_returns_iff ctx).2 (riskCompares_of_aligned h)
  refine ⟨risk, hrisk, ?_⟩
  rw [assessRisk_tally hrisk, bounds_resolved h]
  exact riskTally_resolved _ _ _

end

end Eligibility

namespace Prioritization

def PrioritizationContext.signals (ctx : PrioritizationContext) : Signals where
  hwsBehind := ctx.hwsBehind
  avgEffRating := ctx.avgEffRating
  lastActivityDays := ctx.lastActivityDays
  paymentBalance := ctx.paymentBalance
  priorEscalationCount := ctx.priorEscalationCount
  historicalRiskTrend := ctx.historicalRiskTrend

/-- The bindings of RULE 3. -/
def bindings (ctx : PrioritizationContext) : RuleSet :=
  resolveThresholds resolvable priorityThresholdKeys (ctx.configRuleSet.getD [])

/-- The priority of RULE 7, before the AI adjustment. -/
def basePriority (ctx : PrioritizationContext) (aiTier : AiTier) : Priority :=
  aggregatePriority ((scoreRiskFactors ctx (bindings ctx) aiTier).map (·.1.contribution))

/-- While no AI insight is available the base priority is the one that is reported. -/
theorem evaluate_advisoryPriority (h : classifyAiTier ctx (bindings ctx) = .unavailable) :
    (evaluate ctx).advisoryPriority = basePriority ctx .unavailable := by
  unfold evaluate
  dsimp only
  rw [show resolveThresholds resolvable priorityThresholdKeys (ctx.configRuleSet.getD []) =
    bindings ctx from rfl, h]
  rfl

def contributionTally (contributions : List Contribution) : Tally :=
  ⟨contributions.count .high, contributions.count .medium⟩

theorem aggregatePriority_eq (contributions : List Contribution) :
    aggregatePriority contributions = (contributionTally contributions).level := by
  rw [aggregatePriority, Tally.level, contributionTally]
  dsimp only
  split_ifs <;> first | rfl | omega

def scoredTally (factors : Scored) : Tally := contributionTally (factors.map (·.1.contribution))

@[simp] theorem scoredTally_append (a b : Scored) :
    scoredTally (a ++ b) = scoredTally a + scoredTally b := by
  simp only [scoredTally, contributionTally, List.map_append, List.count_append]
  rfl

theorem threshold_bindings (hkey : key ∈ priorityThresholdKeys)
    (h : Resolves (ctx.configRuleSet.getD []) key x) :
    (threshold (bindings ctx) key).num? = some x := by
  obtain ⟨v, hget, hnum⟩ := h
  have husable : resolvable v = true := by
    cases v with
    | str s => cases hnum
    | _ => rfl
  rw [bindings, threshold_resolveThresholds hkey hget husable]
  exact hnum

theorem passes_eq (rel : Rat → Rat → Bool) (x : Rat) (v : Py.Value) :
    passes rel x v = past rel (some x) v.num? := by
  rw [passes]
  cases v.num? with
  | none => rfl
  | some y => rfl

def Contribution.tally : Contribution → Tally
  | .high => ⟨1, 0⟩
  | .medium => ⟨0, 1⟩
  | .low => 0

theorem scored_tally (factor : String) (contribution : Contribution) (key : String)
    (value : Py.Value) (code : String) :
    scoredTally (scored factor contribution key value code) = contribution.tally := by
  cases contribution with
  | high => rfl
  | medium => rfl
  | low => rfl

/-- A factor with one threshold. -/
theorem passes_tally (rel : Rat → Rat → Bool) (x : Rat) (v : Py.Value) (factor : String)
    (contribution : Contribution) (key : String) (value : Py.Value) (code : String) :
    scoredTally (if passes rel x v then scored factor contribution key value code else []) =
      tallyWhen (past rel (some x) v.num?) contribution.tally := by
  rw [passes_eq, tallyWhen]
  split_ifs
  · exact scored_tally _ _ _ _ _
  · rfl

theorem twoTier_tally (rel : Rat → Rat → Bool) (factor : String) (x : Option Int)
    (th : String → Py.Value) (keyHigh keyMod codeHigh codeMod : String) :
    scoredTally (twoTier rel factor x th keyHigh keyMod codeHigh codeMod) =
      limitTally rel (x.map (↑)) (th keyHigh).num? (th keyMod).num? := by
  cases x with
  | none =>
    rw [Option.map_none, limitTally, past_none, past_none]
    rfl
  | some n =>
    simp only [twoTier, passes_eq, Option.map_some, limitTally, tallyWhen]
    split_ifs
    · exact scored_tally _ _ _ _ _
    · exact scored_tally _ _ _ _ _
    · rfl

theorem effortFactor_tally (ctx : PrioritizationContext) (th : String → Py.Value) :
    scoredTally (effortFactor ctx th) =
      tallyWhen (past below ctx.avgEffRating (th kAvgEffRating).num?) ⟨0, 1⟩ := by
  rw [effortFactor]
  cases ctx.avgEffRating with
  | none =>
    rw [past_none]
    rfl
  | some x => exact passes_tally _ _ _ _ _ _ _ _

theorem paymentFactor_tally (ctx : PrioritizationContext) (th : String → Py.Value) :
    scoredTally (paymentFactor ctx th) =
      tallyWhen (past above ctx.paymentBalance (th kPaymentRisk).num?) ⟨0, 1⟩ := by
  rw [paymentFactor]
  cases ctx.paymentBalance with
  | none =>
    rw [past_none]
    rfl
  | some x => exact passes_tally _ _ _ _ _ _ _ _

theorem escalationFactor_tally (ctx : PrioritizationContext) (th : String → Py.Value) :
    scoredTally (escalationFactor ctx th) =
      tallyWhen (past atLeast (ctx.priorEscalationCount.map (↑)) (th kEscalationRepeat).num?)
        ⟨1, 0⟩ := by
  rw [escalationFactor]
  cases ctx.priorEscalationCount with
  | none =>
    rw [Option.map_none, past_none]
    rfl
  | some n => exact passes_tally _ _ _ _ _ _ _ _

theorem trendFactor_tally (ctx : PrioritizationContext) :
    scoredTally (trendFactor ctx) = trendTally ctx.historicalRiskTrend := by
  rw [trendFactor, trendTally]
  split_ifs
  · rfl
  · rfl
  · rfl

/-- A recent access change is a low contribution, which no level counts. -/
theorem accessFactor_tally (ctx : PrioritizationContext) : scoredTally (accessFactor ctx) = 0 := by
  rw [accessFactor]
  cases ctx.accessLastChangedDays with
  | none => rfl
  | some n =>
    dsimp only
    split_ifs
    · rfl
    · rfl

theorem aiFactor_unavailable (ctx : PrioritizationContext) : aiFactor ctx .unavailable = [] := by
  simp only [aiFactor]
  split_ifs
  · rfl
  · rfl

/-- The number that RULE 6 compares with, if the threshold is one. -/
def bound (ctx : PrioritizationContext) (key : String) : Option Rat :=
  (threshold (bindings ctx) key).num?

def bounds (ctx : PrioritizationContext) : RiskLimits where
  hwsHigh := bound ctx kHwsBehindHighRisk
  hwsModerate := bound ctx kHwsBehindModerate
  effort := bound ctx kAvgEffRating
  inactivityHigh := bound ctx kInactivityHighRisk
  inactivityModerate := bound ctx kInactivityModerate
  payment := bound ctx kPaymentRisk
  escalation := bound ctx kEscalationRepeat

/-- The contributions of RULE 6: those of the student's signals, and that of AI. -/
theorem scoreRiskFactors_tally (ctx : PrioritizationContext) (aiTier : AiTier) :
    scoredTally (scoreRiskFactors ctx (bindings ctx) aiTier) =
      riskTally above ctx.signals (bounds ctx) + scoredTally (aiFactor ctx aiTier) := by
  unfold scoreRiskFactors
  dsimp only
  simp only [scoredTally_append, twoTier_tally, effortFactor_tally, paymentFactor_tally,
    escalationFactor_tally, trendFactor_tally, accessFactor_tally]
  rfl

theorem basePriority_level (ctx : PrioritizationContext) (aiTier : AiTier) :
    basePriority ctx aiTier =
      (riskTally above ctx.signals (bounds ctx) + scoredTally (aiFactor ctx aiTier)).level := by
  rw [basePriority, aggregatePriority_eq]
  exact congrArg Tally.level (scoreRiskFactors_tally ctx aiTier)

theorem bounds_resolved (h : Aligned (ctx.configRuleSet.getD []) limits) :
    Prioritization.bounds ctx = limits.resolved := by
  have hhigh : bound ctx kHwsBehindHighRisk = some limits.hwsHigh :=
    threshold_bindings (by decide) h.hwsHigh
  have hinactive : bound ctx kInactivityHighRisk = some limits.inactivityHigh :=
    threshold_bindings (by decide) h.inactHigh
  have hpayment : bound ctx kPaymentRisk = some limits.payment :=
    threshold_bindings (by decide) h.paymentRisk
  have hescalation : bound ctx kEscalationRepeat = some limits.escalation :=
    threshold_bindings (by decide) h.escRepeat
  have hmoderate : bound ctx kHwsBehindModerate = some limits.hwsModerate :=
    threshold_bindings (by decide) h.hwsBehindModerate
  have heffort : bound ctx kAvgEffRating = some limits.effort :=
    threshold_bindings (by decide) h.avgEffRating
  have hmoderate' : bound ctx kInactivityModerate = some limits.inactivityModerate :=
    threshold_bindings (by decide) h.inactivityModerate
  simp only [Prioritization.bounds, hhigh, hmoderate, heffort, hinactive, hmoderate', hpayment,
    hescalation]
  rfl

theorem basePriority_eq (h : Aligned (ctx.configRuleSet.getD []) limits) :
    basePriority ctx .unavailable = (priorityEngine.tally ctx.signals limits).level := by
  rw [basePriority_level, aiFactor_unavailable, bounds_resolved h, riskTally_resolved]
  rfl

end Prioritization

namespace Decision

def DecisionContext.signals (ctx : DecisionContext) : Signals where
  hwsBehind := ctx.academic.hwsBehind
  avgEffRating := ctx.academic.avgEffRating
  lastActivityDays := ctx.academic.lastActivityDays
  paymentBalance := ctx.academic.paymentBalance
  priorEscalationCount := some ctx.historical.priorEscalationCount
  historicalRiskTrend := ctx.historical.historicalRiskTrend

theorem t_eq (hkey : key ∈ thresholdKeys) (h : Resolves ctx.governance.configRuleSet key x) :
    ∃ v, t ctx key = some v ∧ v.num? = some x := by
  obtain ⟨v, hget, hnum⟩ := h
  have husable : resolvable v = true := by
    rw [resolvable, num?_comparable hnum]
    rfl
  refine ⟨v, ?_, hnum⟩
  rw [t, thresholds, threshold_resolveThresholds hkey hget husable]
  exact num?_comparable hnum

theorem riskLevel_eq (high med : List String) :
    riskLevel high med = (⟨high.length, med.length⟩ : Tally).level := by
  rw [riskLevel, Tally.level]
  simp only [ne_eq, ← List.length_eq_zero_iff]
  split_ifs <;> first | rfl | omega

def named (condition : Bool) (name : String) : List String := if condition then [name] else []

@[simp] theorem named_length (condition : Bool) (name : String) :
    (named condition name).length = if condition then 1 else 0 := by
  cases condition with
  | false => rfl
  | true => rfl

theorem factor_ok (h : crossed = .ok condition) (name : String) :
    factor crossed name = .ok (named condition name) := by
  rw [h]
  rfl

theorem trend_tally (ctx : DecisionContext) :
    (⟨(trendHigh ctx).length, (trendMed ctx).length⟩ : Tally) =
      trendTally ctx.historical.historicalRiskTrend := by
  rw [trendHigh, trendMed, trendTally]
  split_ifs with hcritical hdeclining hdeclining
  · rw [hcritical] at hdeclining
    exact absurd hdeclining (by decide)
  · rfl
  · rfl
  · rfl

def highFactors (ctx : DecisionContext) (limits : Limits) : List String :=
  named (beyond atLeast (ctx.academic.hwsBehind.map (↑)) limits.hwsHigh) "HWS_DELINQUENCY" ++
  named (beyond above (ctx.academic.lastActivityDays.map (↑)) limits.inactivityHigh)
    "INACTIVITY" ++
  named (beyond atLeast (some ctx.historical.priorEscalationCount) limits.escalation)
    "ESCALATION_RECURRENCE" ++
  trendHigh ctx ++ aiHigh ctx .unavailable

def medFactors (ctx : DecisionContext) (limits : Limits) : List String :=
  named (beyond below ctx.academic.avgEffRating limits.effort) "EFFORT_DECLINE" ++
  named (beyond above ctx.academic.paymentBalance limits.payment) "PAYMENT_RISK" ++
  trendMed ctx ++ aiMed ctx .unavailable

theorem computeRisk_eq (h : Aligned ctx.governance.configRuleSet limits) :
    computeRisk ctx .unavailable =
      .ok (riskLevel (highFactors ctx limits) (medFactors ctx limits),
        highFactors ctx limits ++ medFactors ctx limits) := by
  obtain ⟨hwsLimit, hhws, hhwsNum⟩ := t_eq (by decide) h.hwsHigh
  obtain ⟨effortLimit, heffort, heffortNum⟩ := t_eq (by decide) h.avgEffRating
  obtain ⟨inactivityLimit, hinactivity, hinactivityNum⟩ := t_eq (by decide) h.inactHigh
  obtain ⟨paymentLimit, hpayment, hpaymentNum⟩ := t_eq (by decide) h.paymentRisk
  obtain ⟨escalationLimit, hescalation, hescalationNum⟩ := t_eq (by decide) h.escRepeat
  have hhwsFactor := factor_ok (crosses_ge hhwsNum (ctx.academic.hwsBehind.map (↑)))
    "HWS_DELINQUENCY"
  have heffortFactor := factor_ok (crosses_lt heffortNum ctx.academic.avgEffRating)
    "EFFORT_DECLINE"
  have hinactivityFactor := factor_ok
    (crosses_gt hinactivityNum (ctx.academic.lastActivityDays.map (↑))) "INACTIVITY"
  have hpaymentFactor := factor_ok (crosses_gt hpaymentNum ctx.academic.paymentBalance)
    "PAYMENT_RISK"
  have hescalationFactor := factor_ok
    (crosses_ge hescalationNum (some ctx.historical.priorEscalationCount)) "ESCALATION_RECURRENCE"
  rw [← hhws] at hhwsFactor
  rw [← heffort] at heffortFactor
  rw [← hinactivity] at hinactivityFactor
  rw [← hpayment] at hpaymentFactor
  rw [← hescalation] at hescalationFactor
  exact Py.bind_eq_ok.2 ⟨_, hhwsFactor, Py.bind_eq_ok.2 ⟨_, heffortFactor,
    Py.bind_eq_ok.2 ⟨_, hinactivityFactor, Py.bind_eq_ok.2 ⟨_, hpaymentFactor,
      Py.bind_eq_ok.2 ⟨_, hescalationFactor, rfl⟩⟩⟩⟩⟩

theorem factors_tally (ctx : DecisionContext) (limits : Limits) :
    (⟨(highFactors ctx limits).length, (medFactors ctx limits).length⟩ : Tally) =
      decisionEngine.tally ctx.signals limits := by
  have haiHigh : aiHigh ctx .unavailable = [] := if_neg fun h => by cases h.1
  have haiMed : aiMed ctx .unavailable = [] := if_neg fun h => by cases h.1
  have htrendHigh : (trendHigh ctx).length =
      (trendTally ctx.historical.historicalRiskTrend).high := congrArg Tally.high (trend_tally ctx)
  have htrendMed : (trendMed ctx).length =
      (trendTally ctx.historical.historicalRiskTrend).med := congrArg Tally.med (trend_tally ctx)
  ext
  · simp only [highFactors, haiHigh, List.length_append, List.length_nil, named_length,
      Engine.tally, decisionEngine, tierTally_false, Tally.add_high, tallyWhen_high, htrendHigh,
      DecisionContext.signals, Option.map_some, ite_self]
    omega
  · simp only [medFactors, haiMed, List.length_append, List.length_nil, named_length,
      Engine.tally, decisionEngine, tierTally_false, Tally.add_med, tallyWhen_med, htrendMed,
      DecisionContext.signals, ite_self]
    omega

end Decision

/-- The priority that RULE 9 of the eligibility assessment computes. -/
def ruleNinePriority (ctx : Eligibility.EligibilityContext) : Except Py.Error Priority :=
  (Eligibility.assessRisk ctx).map Eligibility.Risk.priority

/-- The risk level of the decision engine while no AI insight is available. -/
def decisionRiskLevel (ctx : Decision.DecisionContext) : Except Py.Error Priority :=
  (Decision.computeRisk ctx .unavailable).map Prod.fst

theorem ruleNinePriority_eq (h : Aligned ctx.governance.configRuleSet limits) :
    ruleNinePriority ctx = .ok (eligibilityEngine.tally ctx.signals limits).level := by
  obtain ⟨risk, hrisk, htally⟩ := Eligibility.assessRisk_scores h
  rw [ruleNinePriority, hrisk, ← htally]
  rfl

theorem decisionRiskLevel_eq (h : Aligned ctx.governance.configRuleSet limits) :
    decisionRiskLevel ctx = .ok (decisionEngine.tally ctx.signals limits).level := by
  rw [decisionRiskLevel, Decision.computeRisk_eq h, Decision.riskLevel_eq,
    Decision.factors_tally]
  rfl

/-- The three contexts are of one student, under one rule set. -/
structure SameStudent (ruleSet : RuleSet) (e : Eligibility.EligibilityContext)
    (p : Prioritization.PrioritizationContext) (d : Decision.DecisionContext) : Prop where
  eligibilityRules : e.governance.configRuleSet = ruleSet
  priorityRules : p.configRuleSet = some ruleSet
  decisionRules : d.governance.configRuleSet = ruleSet
  prioritySignals : p.signals = e.signals
  decisionSignals : d.signals = e.signals

/-- Inactivity is at neither of its two limits. -/
def OffLimits (s : Signals) (limits : Limits) : Prop :=
  ∀ days, s.lastActivityDays = some days →
    (days : Rat) ≠ limits.inactivityHigh ∧ (days : Rat) ≠ limits.inactivityModerate

theorem beyond_atLeast_eq_above (h : ∀ y, x = some y → y ≠ limit) :
    beyond atLeast x limit = beyond above x limit := by
  cases x with
  | none => rfl
  | some y =>
    have hne : limit ≠ y := (h y rfl).symm
    simp only [beyond, Option.any_some, atLeast, above, le_iff_lt_or_eq, hne, or_false]

/-- Away from the limits of inactivity, RULE 9 and the prioritization count the same. -/
theorem eligibility_tally_eq (h : OffLimits s limits) :
    eligibilityEngine.tally s limits = priorityEngine.tally s limits := by
  have hdays : ∀ y, s.lastActivityDays.map (↑) = some y →
      y ≠ limits.inactivityHigh ∧ y ≠ limits.inactivityModerate := by
    intro y hy
    obtain ⟨days, hsome, rfl⟩ := Option.map_eq_some_iff.1 hy
    exact h days hsome
  have hhigh := beyond_atLeast_eq_above fun y hy => (hdays y hy).1
  have hmoderate := beyond_atLeast_eq_above fun y hy => (hdays y hy).2
  have htier : tierTally atLeast true (s.lastActivityDays.map (↑)) limits.inactivityHigh
      limits.inactivityModerate = tierTally above true (s.lastActivityDays.map (↑))
        limits.inactivityHigh limits.inactivityModerate := by
    rw [tierTally, tierTally, hhigh, hmoderate]
  simp only [Engine.tally, eligibilityEngine, priorityEngine, htier]

/-- At the high limit itself RULE 9 counts one more high contribution than the others. -/
theorem eligibility_high_at_limit {days : Int} (hdays : s.lastActivityDays = some days)
    (hlimit : (days : Rat) = limits.inactivityHigh) :
    (eligibilityEngine.tally s limits).high = (priorityEngine.tally s limits).high + 1 := by
  have hat : (tierTally atLeast true (s.lastActivityDays.map (↑)) limits.inactivityHigh
      limits.inactivityModerate).high = 1 := by
    rw [tierTally_true_high, tierTally_false, tallyWhen_high, hdays, Option.map_some, hlimit]
    simp [beyond, atLeast]
  have habove : (tierTally above true (s.lastActivityDays.map (↑)) limits.inactivityHigh
      limits.inactivityModerate).high = 0 := by
    rw [tierTally_true_high, tierTally_false, tallyWhen_high, hdays, Option.map_some, hlimit]
    simp [beyond, above]
  simp only [Engine.tally, eligibilityEngine, priorityEngine, Tally.add_high, hat, habove]
  omega

/-- The medium contributions of the moderate tiers. -/
def moderateTiers (s : Signals) (limits : Limits) : Nat :=
  (tierTally atLeast true (s.hwsBehind.map (↑)) limits.hwsHigh limits.hwsModerate).med +
  (tierTally above true (s.lastActivityDays.map (↑)) limits.inactivityHigh
    limits.inactivityModerate).med

/-- The decision engine leaves nothing out but the moderate tiers. -/
theorem priority_tally_eq (s : Signals) (limits : Limits) :
    priorityEngine.tally s limits =
      decisionEngine.tally s limits + ⟨0, moderateTiers s limits⟩ := by
  ext
  · simp only [Engine.tally, priorityEngine, decisionEngine, Tally.add_high, tierTally_true_high]
    omega
  · simp only [Engine.tally, priorityEngine, decisionEngine, Tally.add_med, tierTally_false_med,
      moderateTiers]
    omega

/-- At most one high contribution, no medium one but those of the moderate tiers, and one of
these. -/
def ModerateDecides (s : Signals) (limits : Limits) : Prop :=
  (decisionEngine.tally s limits).high ≤ 1 ∧ (decisionEngine.tally s limits).med = 0 ∧
    0 < moderateTiers s limits

instance : Decidable (ModerateDecides s limits) := inferInstanceAs (Decidable (_ ∧ _ ∧ _))

theorem priority_level_eq (s : Signals) (limits : Limits) :
    (priorityEngine.tally s limits).level =
      if ModerateDecides s limits then (decisionEngine.tally s limits).level.upgrade
      else (decisionEngine.tally s limits).level := by
  rw [priority_tally_eq]
  exact Tally.level_add_med _ _

def RiskEnginesAgree (e : Eligibility.EligibilityContext)
    (p : Prioritization.PrioritizationContext) (d : Decision.DecisionContext) : Prop :=
  ruleNinePriority e = .ok (Prioritization.basePriority p .unavailable) ∧
    decisionRiskLevel d = .ok (Prioritization.basePriority p .unavailable)

/-- RULE 9 and the prioritization agree away from the limits of inactivity, and the decision
engine agrees with the prioritization but for the moderate tiers, which it does not have: where
these decide, its level is one step lower. -/
theorem risk_engines_agree (haligned : Aligned ruleSet limits) (hsame : SameStudent ruleSet e p d) :
    (OffLimits e.signals limits →
      ruleNinePriority e = .ok (Prioritization.basePriority p .unavailable)) ∧
    ∃ level, decisionRiskLevel d = .ok level ∧
      Prioritization.basePriority p .unavailable =
        if ModerateDecides e.signals limits then level.upgrade else level := by
  have hp : Aligned (p.configRuleSet.getD []) limits := by
    rw [hsame.priorityRules]
    exact haligned
  have he : Aligned e.governance.configRuleSet limits := by
    rw [hsame.eligibilityRules]
    exact haligned
  have hd : Aligned d.governance.configRuleSet limits := by
    rw [hsame.decisionRules]
    exact haligned
  rw [Prioritization.basePriority_eq hp, hsame.prioritySignals]
  refine ⟨?_, _, decisionRiskLevel_eq hd, ?_⟩
  · intro hoff
    rw [ruleNinePriority_eq he, eligibility_tally_eq hoff]
  · rw [hsame.decisionSignals]
    exact priority_level_eq _ _

def riskRules : RuleSet :=
  [("hws_behind_high_risk_threshold", .int 5), ("hws_behind_minimum_threshold", .int 2),
    ("hws_behind_moderate_threshold", .int 2), ("avg_eff_rating_minimum_threshold", .int 3),
    ("avg_eff_rating_low_risk_threshold", .int 3), ("last_activity_high_risk_days", .int 14),
    ("last_activity_max_days", .int 7), ("last_activity_moderate_days", .int 7),
    ("payment_balance_risk_threshold", .int 500), ("prior_escalation_repeat_threshold", .int 2)]

def riskLimits : Limits := ⟨5, 2, 3, 14, 7, 500, 2⟩

theorem riskRules_aligned : Aligned riskRules riskLimits where
  hwsHigh := ⟨.int 5, rfl, rfl⟩
  minHws := ⟨.int 2, rfl, rfl⟩
  hwsBehindModerate := ⟨.int 2, rfl, rfl⟩
  minEff := ⟨.int 3, rfl, rfl⟩
  avgEffRating := ⟨.int 3, rfl, rfl⟩
  inactHigh := ⟨.int 14, rfl, rfl⟩
  maxInact := ⟨.int 7, rfl, rfl⟩
  inactivityModerate := ⟨.int 7, rfl, rfl⟩
  paymentRisk := ⟨.int 500, rfl, rfl⟩
  escRepeat := ⟨.int 2, rfl, rfl⟩

/-- Three homeworks behind, and nothing else. -/
def behindEligibility : Eligibility.EligibilityContext where
  governance :=
    { configVersionId := some "2"
      configVersionStatus := "ACTIVE"
      configRuleSet := riskRules
      executionMode := "SHADOW"
      executionType := "original"
      correlationId := some "c-1"
      causationId := none
      attributionContext := []
      fingerprintContext := none
      idempotencyKey := none }
  academic :=
    { userId := some 7
      accessState := some "ACTIVE"
      hwsBehind := some 3
      avgEffRating := some 4
      lastActivityDays := some 1
      paymentBalance := some 0
      email := none
      phoneNumber := none }
  operational := { outreachState := none, contactAttemptCount := 0, retryEligible := false }
  ai :=
    { aiInsightState := none
      aiConfidenceScore := none
      aiStaleFlag := false
      aiFinalizedCopy := false }

def behindPriority : Prioritization.PrioritizationContext where
  configVersionId := some "2"
  executionMode := "SHADOW"
  executionType := "original"
  correlationId := some "c-1"
  configRuleSet := some riskRules
  hwsBehind := some 3
  avgEffRating := some 4
  lastActivityDays := some 1
  paymentBalance := some 0
  priorEscalationCount := some 0

def behindDecision : Decision.DecisionContext where
  governance :=
    { configVersionId := some "2"
      configRuleSet := riskRules
      executionMode := "SHADOW"
      executionType := "original"
      correlationId := some "c-1"
      causationId := none
      attributionContext := []
      fingerprintContext := none }
  academic :=
    { userId := some 7
      accessState := some "ACTIVE"
      hwsBehind := some 3
      avgEffRating := some 4
      lastActivityDays := some 1
      paymentBalance := some 0 }
  operational := { outreachState := none, contactAttemptCount := 0, retryEligible := false }
  ai :=
    { aiInsightState := none
      aiConfidenceScore := none
      aiStaleFlag := false
      aiFinalizedCopy := false
      aiRecommendedIntervention := none }
  historical := { historicalRiskTrend := none }

theorem behind_sameStudent :
    SameStudent riskRules behindEligibility behindPriority behindDecision := by
  constructor <;> rfl

theorem behind_off_limits : OffLimits behindEligibility.signals riskLimits := by
  intro days hdays
  cases hdays
  decide

theorem behind_levels :
    ruleNinePriority behindEligibility =
        .ok (Prioritization.basePriority behindPriority .unavailable) ∧
      ∃ level, decisionRiskLevel behindDecision = .ok level ∧
        Prioritization.basePriority behindPriority .unavailable = level.upgrade := by
  have hdecides : ModerateDecides behindEligibility.signals riskLimits := by decide
  obtain ⟨hnine, level, hlevel, hbase⟩ := risk_engines_agree riskRules_aligned behind_sameStudent
  rw [if_pos hdecides] at hbase
  exact ⟨hnine behind_off_limits, level, hlevel, hbase⟩

/-- Moderate homework is a medium risk to RULE 9 and to the prioritization, and none to the
decision engine. -/
theorem behind_disagrees :
    Aligned riskRules riskLimits ∧
      SameStudent riskRules behindEligibility behindPriority behindDecision ∧
      ruleNinePriority behindEligibility = .ok .medium ∧
      Prioritization.basePriority behindPriority .unavailable = .medium ∧
      decisionRiskLevel behindDecision = .ok .low ∧
      ¬ RiskEnginesAgree behindEligibility behindPriority behindDecision := by
  have hnine : ruleNinePriority behindEligibility = .ok .medium :=
    (ruleNinePriority_eq riskRules_aligned).trans (congrArg _ (by decide))
  have hrules : Aligned (behindPriority.configRuleSet.getD []) riskLimits := riskRules_aligned
  have hbase : Prioritization.basePriority behindPriority .unavailable = .medium :=
    (Prioritization.basePriority_eq hrules).trans (by decide)
  have hrisk : decisionRiskLevel behindDecision = .ok .low :=
    (decisionRiskLevel_eq riskRules_aligned).trans (congrArg _ (by decide))
  refine ⟨riskRules_aligned, behind_sameStudent, hnine, hbase, hrisk, ?_⟩
  intro hagree
  have hlow := hagree.2
  rw [hrisk, hbase] at hlow
  cases hlow

end StudentSuccess
