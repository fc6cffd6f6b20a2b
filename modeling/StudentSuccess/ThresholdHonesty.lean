import StudentSuccess.LiveOutreach
import StudentSuccess.LiveDelivery
import StudentSuccess.DecisionAuthority
import StudentSuccess.PriorityAdvisory

namespace StudentSuccess
set_option autoImplicit true

/-- An engine can use the rule set's value of the key in a comparison. -/
def usableKey (ruleSet : RuleSet) (key : String) : Bool := (comparable (item ruleSet key)).isSome

def unusableKeys (ruleSet : RuleSet) (keys : List String) : List String :=
  keys.filter fun k => !usableKey ruleSet k

/-- The rule set gives the key a value that the engine takes without being able to use it. -/
def Concealed (usable : Py.Value → Bool) (ruleSet : RuleSet) (key : String) : Prop :=
  ∃ v, Py.get? key ruleSet = some v ∧ usable v = true ∧ comparable v = none

/-- A record reports exactly the thresholds that cannot be used, and says whether there are any. -/
structure Honest (flag : String → String) (unusable warnings : List String) (degraded : Bool) :
    Prop where
  reported : warnings = unusable.map flag
  degraded : degraded = !unusable.isEmpty

/-- An engine takes every value that it can compare with. -/
def Takes (usable : Py.Value → Bool) : Prop := ∀ v, comparable v ≠ none → usable v = true

theorem usableKey_eq_false_iff (ruleSet : RuleSet) (key : String) :
    usableKey ruleSet key = false ↔
      Py.get? key ruleSet = none ∨ ∃ v, Py.get? key ruleSet = some v ∧ comparable v = none := by
  rw [usableKey, item]
  cases Py.get? key ruleSet with
  | none => simp [comparable]
  | some v => simp

/-- What the engine compares with is the rule set's value, when that can be compared with. -/
theorem comparable_threshold (h : Takes usable) (hkey : key ∈ keys) (ruleSet : RuleSet) :
    comparable (threshold (resolveThresholds usable keys ruleSet) key) =
      comparable (item ruleSet key) := by
  have hsentinel : comparable unknownV0 = none := by decide
  rw [threshold_of_mem usable hkey, resolveThreshold, item]
  cases hget : Py.get? key ruleSet with
  | none => exact hsentinel
  | some v =>
    simp only [Option.getD_some]
    by_cases husable : usable v = true
    · rw [if_pos husable, Option.getD_some]
    · rw [if_neg husable]
      have hnone : comparable v = none := by
        by_contra hne
        exact husable (h v hne)
      exact hsentinel.trans hnone.symm

theorem usableKey_of_missing (h : Takes usable)
    (hmissing : (resolveThreshold usable ruleSet key).isNone = true) :
    usableKey ruleSet key = false := by
  rw [usableKey_eq_false_iff]
  rw [resolveThreshold] at hmissing
  cases hget : Py.get? key ruleSet with
  | none => exact .inl rfl
  | some v =>
    apply Or.inr
    refine ⟨v, rfl, ?_⟩
    rw [hget] at hmissing
    by_contra hne
    simp only [h v hne, if_true] at hmissing
    cases hmissing

theorem missing_of_unusable (h : ¬ Concealed usable ruleSet key)
    (hunusable : usableKey ruleSet key = false) :
    (resolveThreshold usable ruleSet key).isNone = true := by
  rw [resolveThreshold]
  rcases (usableKey_eq_false_iff ruleSet key).1 hunusable with hget | ⟨v, hget, hnone⟩
  · rw [hget]
    rfl
  · have hnot : ¬ usable v = true := fun husable => h ⟨v, hget, husable, hnone⟩
    rw [hget]
    simp only [if_neg hnot]
    rfl

theorem Concealed.not_missing (h : Concealed usable ruleSet key) :
    usableKey ruleSet key = false ∧ (resolveThreshold usable ruleSet key).isNone = false := by
  obtain ⟨v, hget, husable, hnone⟩ := h
  refine ⟨(usableKey_eq_false_iff ruleSet key).2 (.inr ⟨v, hget, hnone⟩), ?_⟩
  rw [resolveThreshold]
  rw [hget]
  simp only [husable, if_true]
  rfl

/-- The missing keys are the unusable ones exactly when the rule set conceals none of them. -/
theorem missingThresholdKeys_eq_iff (h : Takes usable) (keys : List String) (ruleSet : RuleSet) :
    missingThresholdKeys usable keys ruleSet = unusableKeys ruleSet keys ↔
      ∀ key ∈ keys, ¬ Concealed usable ruleSet key := by
  constructor
  · intro heq key hkey hconcealed
    obtain ⟨hunusable, hpresent⟩ := hconcealed.not_missing
    have hmem : key ∈ unusableKeys ruleSet keys := List.mem_filter.2 ⟨hkey, by rw [hunusable]; rfl⟩
    rw [← heq] at hmem
    cases hpresent.symm.trans (List.mem_filter.1 hmem).2
  · intro hnone
    apply List.filter_congr
    intro key hkey
    cases hunusable : usableKey ruleSet key with
    | false => exact missing_of_unusable (hnone key hkey) hunusable
    | true =>
      by_contra hmissing
      cases hunusable.symm.trans
        (usableKey_of_missing h (Bool.not_eq_false _ ▸ hmissing))

/-- The reports of the missing keys are those of the unusable ones only if the keys are. -/
theorem map_missing_eq_iff (h : Takes usable) (flag : String → String) (keys : List String)
    (ruleSet : RuleSet) :
    (missingThresholdKeys usable keys ruleSet).map flag = (unusableKeys ruleSet keys).map flag ↔
      ∀ key ∈ keys, ¬ Concealed usable ruleSet key := by
  rw [← missingThresholdKeys_eq_iff h]
  constructor
  · intro heq
    have hle : (fun k => (resolveThreshold usable ruleSet k).isNone) ≤
        fun k => !usableKey ruleSet k := by
      intro key hmissing
      have hunusable := usableKey_of_missing h hmissing
      simp only [hunusable, Bool.not_false]
    have hsublist : List.Sublist (missingThresholdKeys usable keys ruleSet)
        (unusableKeys ruleSet keys) := List.monotone_filter_right keys hle
    apply hsublist.eq_of_length
    have hlength := congrArg List.length heq
    rwa [List.length_map, List.length_map] at hlength
  · exact fun heq => congrArg (List.map flag) heq

/-- A record whose warnings are those of the missing keys. -/
theorem honest_iff (h : Takes usable) (flag : String → String) (keys : List String)
    (ruleSet : RuleSet) (hwarnings : warnings = (missingThresholdKeys usable keys ruleSet).map flag)
    (hdegraded : degraded = !warnings.isEmpty) :
    Honest flag (unusableKeys ruleSet keys) warnings degraded ↔
      ∀ key ∈ keys, ¬ Concealed usable ruleSet key := by
  rw [← map_missing_eq_iff h flag, ← hwarnings]
  constructor
  · exact Honest.reported
  · intro heq
    refine ⟨heq, ?_⟩
    rw [hdegraded, heq, List.isEmpty_map]

/-- The rule set gives the key `None` or the sentinel. -/
def GivesUnusable (ruleSet : RuleSet) (key : String) : Prop :=
  ∃ v, Py.get? key ruleSet = some v ∧ comparable v = none

def GivesNull (ruleSet : RuleSet) (key : String) : Prop := Py.get? key ruleSet = some .null

theorem takes_all : Takes fun _ => true := fun _ _ => rfl

/-- The keys that a lookup of an engine finds no value to compare with for. -/
def unusableBy (lookup : String → Option Py.Value) (keys : List String) : List String :=
  keys.filter fun key => (lookup key).isNone

theorem unusable_resolved (h : Takes usable) (keys : List String) (ruleSet : RuleSet) :
    unusableBy (fun key => comparable
      (threshold (resolveThresholds usable keys ruleSet) key)) keys =
      unusableKeys ruleSet keys := by
  apply List.filter_congr
  intro key hkey
  dsimp only
  rw [comparable_threshold h hkey, usableKey, Option.not_isSome]

/-- A record reports what the engine has resolved: the thresholds it cannot use once it has
resolved any, and none before. -/
structure ReportsThresholds (resolved : Prop) (flag : String → String)
    (unusable warnings : List String) (degraded : Bool) : Prop where
  honest : resolved → Honest flag unusable warnings degraded
  silent : ¬ resolved → ∀ key, flag key ∉ warnings

theorem reportsThresholds_iff
    (hhonest : resolved → (Honest flag unusable warnings degraded ↔ P))
    (hsilent : ¬ resolved → ∀ key, flag key ∉ warnings) :
    ReportsThresholds resolved flag unusable warnings degraded ↔ (resolved → P) := by
  constructor
  · intro h hresolved
    exact (hhonest hresolved).1 (h.honest hresolved)
  · intro h
    exact ⟨fun hresolved => (hhonest hresolved).2 (h hresolved), hsilent⟩

theorem concealed_all_iff (ruleSet : RuleSet) (key : String) :
    Concealed (fun _ => true) ruleSet key ↔ GivesUnusable ruleSet key := by
  simp [Concealed, GivesUnusable]

namespace Eligibility

open RuleChain

theorem assess_warnings (h0 : governancePreconditions ctx.governance = [])
    (ha : assessOrchestrationEligibility env ctx = .ok a) :
    a.configThresholdWarnings = thresholdWarnings ctx ∧
      a.degradedEvaluation = !a.configThresholdWarnings.isEmpty := by
  obtain ⟨e, -, rfl⟩ := (assess_eq_ok_iff h0).1 ha
  exact ⟨rfl, rfl⟩

theorem assess_silent (h0 : governancePreconditions ctx.governance ≠ [])
    (ha : assessOrchestrationEligibility env ctx = .ok a) : a.configThresholdWarnings = [] := by
  rw [assessOrchestrationEligibility] at ha
  rw [if_pos h0] at ha
  cases ha
  rfl

theorem unusable_t (ctx : EligibilityContext) :
    unusableBy (t ctx) keyMap = unusableKeys ctx.governance.configRuleSet keyMap :=
  unusable_resolved takes_all keyMap ctx.governance.configRuleSet

theorem reportsThresholds_iff (ha : assessOrchestrationEligibility env ctx = .ok a) :
    ReportsThresholds (governancePreconditions ctx.governance = []) thresholdMissingFlag
        (unusableBy (t ctx) keyMap) a.configThresholdWarnings a.degradedEvaluation ↔
      (governancePreconditions ctx.governance = [] →
        ∀ key ∈ keyMap, ¬ GivesUnusable ctx.governance.configRuleSet key) := by
  apply StudentSuccess.reportsThresholds_iff
  · intro h0
    obtain ⟨hwarnings, hdegraded⟩ := assess_warnings h0 ha
    rw [unusable_t, honest_iff takes_all _ _ _ hwarnings hdegraded]
    simp only [concealed_all_iff]
  · intro h0 key
    rw [assess_silent h0 ha]
    exact List.not_mem_nil

end Eligibility

namespace Channel

open RuleChain

def Warned (warnings : List String) (s : Advice) : Prop :=
  s.thresholdWarnings = warnings ∧ s.degraded = !warnings.isEmpty

/-- The rule leaves what RULE 3 has reported as it is. -/
def KeepsWarnings (warnings : List String) (r : Rule Advice Emission) : Prop :=
  Keeps (Warned warnings) (Warned warnings) (fun e => Warned warnings e.advice) r

theorem rule4_keeps (ctx : ChannelAdvisoryContext) : KeepsWarnings warnings (rule4 ctx) := by
  intro s hs
  rw [rule4]
  dsimp only
  split_ifs <;> exact hs

theorem rule5_keeps (env : RuleEnv) (ctx : ChannelAdvisoryContext) :
    KeepsWarnings warnings (rule5 env ctx) := by
  intro s hs
  unfold rule5
  dsimp only
  match assessAiTier env ctx.ai s.tb s.aiOut with
  | .error e => trivial
  | .ok (tier, out, codes) =>
    dsimp only
    split_ifs
    · exact hs
    · exact hs
    · exact hs

theorem rule6_keeps (ctx : ChannelAdvisoryContext) : KeepsWarnings warnings (rule6 ctx) := by
  intro s hs
  rw [rule6]
  dsimp only
  split_ifs
  · exact hs
  · exact hs

theorem rule7_keeps (ctx : ChannelAdvisoryContext) : KeepsWarnings warnings (rule7 ctx) := by
  intro s hs
  rw [rule7]
  dsimp only
  split_ifs <;> exact hs

theorem rule8_keeps (ctx : ChannelAdvisoryContext) : KeepsWarnings warnings (rule8 ctx) := by
  intro s hs
  rw [rule8]
  dsimp only
  split_ifs
  · exact hs
  · exact hs
  · exact hs

theorem rule9_keeps (ctx : ChannelAdvisoryContext) : KeepsWarnings warnings (rule9 ctx) := by
  intro s hs
  rw [rule9]
  dsimp only
  split_ifs
  · exact hs
  · exact hs
  · exact hs
  · exact hs

theorem rule10_keeps (ctx : ChannelAdvisoryContext) : KeepsWarnings warnings (rule10 ctx) := by
  intro s hs
  unfold rule10
  dsimp only
  split
  · trivial
  · unfold deliveryGate
    split_ifs
    · exact hs
    · exact hs

theorem rule11_keeps (ctx : ChannelAdvisoryContext) : KeepsWarnings warnings (rule11 ctx) := by
  intro s hs
  unfold rule11
  dsimp only
  split
  · trivial
  · exact hs

theorem applyAiSignal_warned (ctx : ChannelAdvisoryContext) (hs : Warned warnings s) :
    Warned warnings (applyAiSignal ctx s) := by
  unfold applyAiSignal
  dsimp only
  split
  · split_ifs
    · exact hs
    · exact hs
    · exact hs
    · exact hs
  · exact hs

theorem rule12_keeps (ctx : ChannelAdvisoryContext) : KeepsWarnings warnings (rule12 ctx) := by
  intro s hs
  rw [rule12, adjustForAi]
  split_ifs
  · exact applyAiSignal_warned ctx hs
  · exact hs
  · exact hs
  · exact hs
  · exact hs

/-- The evaluation comes to RULE 3. -/
def Resolves (ctx : ChannelAdvisoryContext) : Prop :=
  governancePreconditions ctx.governance = [] ∧ ¬ Closed ctx ∧
    ctx.governance.complianceHoldFlag = false

def missingWarnings (ctx : ChannelAdvisoryContext) : List String :=
  (missingThresholdKeys (fun _ => true) keyMap ctx.governance.configRuleSet).map
    thresholdMissingFlag

theorem ensures_warned (env : RuleEnv) (ctx : ChannelAdvisoryContext) :
    Ensures rule13 (Warned warnings) (fun e => Warned warnings e.advice)
      [rule4 ctx, rule5 env ctx, rule6 ctx, rule7 ctx, rule8 ctx, rule9 ctx, rule10 ctx,
        rule11 ctx, rule12 ctx] := by
  apply ensures_of_keeps
  · intro r hr
    simp only [List.mem_cons, List.not_mem_nil, or_false] at hr
    rcases hr with rfl | rfl | rfl | rfl | rfl | rfl | rfl | rfl | rfl
    · exact rule4_keeps ctx
    · exact rule5_keeps env ctx
    · exact rule6_keeps ctx
    · exact rule7_keeps ctx
    · exact rule8_keeps ctx
    · exact rule9_keeps ctx
    · exact rule10_keeps ctx
    · exact rule11_keeps ctx
    · exact rule12_keeps ctx
  · exact fun _ hs => hs

theorem rule3_next (ctx : ChannelAdvisoryContext) (s : Advice) :
    ∃ s', rule3 ctx s = .ok (.next s') ∧ Warned (missingWarnings ctx) s' := ⟨_, rfl, rfl, rfl⟩

/-- An assessment past RULE 3 reports what RULE 3 found missing. -/
theorem assess_warnings (h : Resolves ctx) (ha : assessChannelAdvisory env ctx = .ok a) :
    a.configThresholdWarnings = missingWarnings ctx ∧
      a.degradedEvaluation = !(missingWarnings ctx).isEmpty := by
  obtain ⟨h0, hopen, hfree⟩ := h
  obtain ⟨e, he, rfl⟩ := (assess_eq_ok_iff h0).1 ha
  obtain ⟨s', h3, hs'⟩ := rule3_next ctx (((start ctx).rule "RULE_1").rule "RULE_2")
  rw [rules, eval_next ((rule1_guards _).passes hopen _),
    eval_next ((rule2_guards _).passes (ne_true_of_eq_false hfree) _), eval_next h3] at he
  exact ensures_warned env ctx s' hs' e he

def Silent (s : Advice) (e : Emission) : Prop := e.advice.thresholdWarnings = s.thresholdWarnings

theorem rule1_silent (ctx : ChannelAdvisoryContext) :
    Guards (Closed ctx) Silent (·.rule "RULE_1") (rule1 ctx) :=
  guards_of_ite (c := ctx.operational.outreachState = some "CLOSED") (fun _ => rfl) fun _ => rfl

theorem rule2_silent (ctx : ChannelAdvisoryContext) :
    Guards (ctx.governance.complianceHoldFlag = true) Silent (·.rule "RULE_2") (rule2 ctx) :=
  guards_of_ite (fun _ => rfl) fun _ => rfl

theorem assess_silent (h : ¬ Resolves ctx) (ha : assessChannelAdvisory env ctx = .ok a) :
    a.configThresholdWarnings = [] := by
  by_cases h0 : governancePreconditions ctx.governance = []
  · obtain ⟨e, he, rfl⟩ := (assess_eq_ok_iff h0).1 ha
    rw [rules] at he
    by_cases hclosed : Closed ctx
    · obtain ⟨e', h1, hwarnings⟩ := (rule1_silent ctx).exits hclosed (start ctx)
      rw [eval_exit h1] at he
      cases he
      exact hwarnings
    · rw [eval_next ((rule1_guards _).passes hclosed _)] at he
      have hhold : ctx.governance.complianceHoldFlag = true := by
        by_contra hfree
        exact h ⟨h0, hclosed, Bool.eq_false_of_not_eq_true hfree⟩
      obtain ⟨e', h2, hwarnings⟩ := (rule2_silent ctx).exits hhold ((start ctx).rule "RULE_1")
      rw [eval_exit h2] at he
      cases he
      exact hwarnings
  · rw [assessChannelAdvisory] at ha
    rw [if_pos h0] at ha
    cases ha
    rfl

/-- What the engine finds to compare with for a key. -/
def t (ctx : ChannelAdvisoryContext) (key : String) : Option Py.Value :=
  comparable (threshold (resolveThresholds (fun _ => true) keyMap ctx.governance.configRuleSet) key)

theorem unusable_t (ctx : ChannelAdvisoryContext) :
    unusableBy (t ctx) keyMap = unusableKeys ctx.governance.configRuleSet keyMap :=
  unusable_resolved takes_all keyMap ctx.governance.configRuleSet

theorem reportsThresholds_iff (ha : assessChannelAdvisory env ctx = .ok a) :
    ReportsThresholds (Resolves ctx) thresholdMissingFlag (unusableBy (t ctx) keyMap)
        a.configThresholdWarnings a.degradedEvaluation ↔
      (Resolves ctx → ∀ key ∈ keyMap, ¬ GivesUnusable ctx.governance.configRuleSet key) := by
  apply StudentSuccess.reportsThresholds_iff
  · intro h
    obtain ⟨hwarnings, hdegraded⟩ := assess_warnings h ha
    rw [unusable_t, honest_iff takes_all _ _ _ hwarnings (hwarnings ▸ hdegraded)]
    simp only [concealed_all_iff]
  · intro h key
    rw [assess_silent h ha]
    exact List.not_mem_nil

end Channel

namespace Decision

theorem takes_resolvable : Takes resolvable := fun _ hne => Option.isSome_iff_ne_none.2 hne

theorem not_concealed (ruleSet : RuleSet) (key : String) : ¬ Concealed resolvable ruleSet key := by
  intro h
  obtain ⟨v, -, husable, hnone⟩ := h
  rw [resolvable, hnone] at husable
  cases husable

def Resolves (ctx : DecisionContext) : Prop :=
  preconditionCodes ctx.governance = [] ∧ isReplayType ctx.governance.executionType = false

instance (ctx : DecisionContext) : Decidable (Resolves ctx) := instDecidableAnd

theorem unusable_t (ctx : DecisionContext) :
    unusableBy (t ctx) thresholdKeys = unusableKeys ctx.governance.configRuleSet thresholdKeys :=
  unusable_resolved takes_resolvable thresholdKeys ctx.governance.configRuleSet

theorem evaluate_warnings (h : Resolves ctx) (hr : evaluateOrchestrationIntent env ctx = .ok r) :
    r.configThresholdWarnings =
      (unusableBy (t ctx) thresholdKeys).map ("CONFIG_THRESHOLD_MISSING_" ++ ·) := by
  rw [evaluate_eq env h.1 h.2] at hr
  obtain ⟨decided, -, rfl⟩ := Py.map_eq_ok.1 hr
  rw [unusable_t]
  exact (map_missing_eq_iff takes_resolvable _ _ _).2 fun _ _ => not_concealed _ _

theorem evaluate_unresolved (h : ¬ Resolves ctx)
    (hr : evaluateOrchestrationIntent env ctx = .ok r) :
    r.configThresholdWarnings = [] := by
  unfold evaluateOrchestrationIntent at hr
  dsimp only at hr
  cases hgate : validateGovernancePreconditions ctx.governance with
  | some blocked =>
    rw [hgate] at hr
    cases hr
    rfl
  | none =>
    rw [hgate] at hr
    have hreplay : isReplayType ctx.governance.executionType = true := by
      by_contra hnot
      exact h ⟨(validate_eq_none_iff _).1 hgate, Bool.eq_false_of_not_eq_true hnot⟩
    simp only [hreplay, if_true] at hr
    cases hr
    rfl

end Decision

namespace Prioritization

theorem takes_resolvable : Takes resolvable := by
  intro v hne
  rw [resolvable]
  by_contra hnot
  apply hne
  cases v with
  | str text =>
    have hsentinel : isUnknownV0 (.str text) = true := by simpa using hnot
    exact if_pos hsentinel
  | null => rfl
  | bool b => simp [isUnknownV0] at hnot
  | int n => simp [isUnknownV0] at hnot
  | float x => simp [isUnknownV0] at hnot
  | list xs => simp [isUnknownV0] at hnot
  | dict entries => simp [isUnknownV0] at hnot

theorem concealed_iff (ruleSet : RuleSet) (key : String) :
    Concealed resolvable ruleSet key ↔ GivesNull ruleSet key := by
  constructor
  · intro h
    obtain ⟨v, hget, husable, hnone⟩ := h
    cases v with
    | null => exact hget
    | str text =>
      have hother : isUnknownV0 (.str text) = false := by simpa [resolvable] using husable
      have hsome : comparable (.str text) = some (.str text) :=
        if_neg (hother ▸ Bool.false_ne_true)
      cases hnone.symm.trans hsome
    | bool b => cases hnone
    | int n => cases hnone
    | float x => cases hnone
    | list xs => cases hnone
    | dict entries => cases hnone
  · intro h
    exact ⟨.null, h, rfl, rfl⟩

structure Resolves (keys : List String) (ctx : PrioritizationContext) : Prop where
  gate : governancePreconditionGate keys ctx = []
  running : ctx.maintenanceModeActive = false
  original : isReplayType ctx.executionType = false

/-- RULE 5A defers. -/
def Defers (ctx : PrioritizationContext) : Prop :=
  ctx.aiFinalizedCopy = false ∧ ctx.executionType = "original" ∧
    (ctx.aiInsightState = some "AI_GENERATING" ∨ ctx.aiInsightState = some "AI_PENDING")

def ruleSet (ctx : PrioritizationContext) : RuleSet := ctx.configRuleSet.getD []

def t (ctx : PrioritizationContext) (key : String) : Option Py.Value :=
  comparable (threshold (resolveThresholds resolvable priorityThresholdKeys (ruleSet ctx)) key)

theorem unusable_t (ctx : PrioritizationContext) :
    unusableBy (t ctx) priorityThresholdKeys = unusableKeys (ruleSet ctx) priorityThresholdKeys :=
  unusable_resolved takes_resolvable priorityThresholdKeys (ruleSet ctx)

theorem byConfidence_ne_inFlight (confidence : Option Rat) :
    (match confidence with
      | some confidence => if 7 / 10 ≤ confidence then AiTier.confident else .advisory
      | none => .advisory) ≠ .inFlight := by
  cases confidence with
  | none => exact AiTier.noConfusion
  | some confidence =>
    dsimp only
    split_ifs
    · exact AiTier.noConfusion
    · exact AiTier.noConfusion

theorem classifyAiTier_inFlight_iff (ctx : PrioritizationContext) (thresholds : RuleSet) :
    classifyAiTier ctx thresholds = .inFlight ↔
      ctx.aiFinalizedCopy = false ∧
        (ctx.aiInsightState = some "AI_GENERATING" ∨ ctx.aiInsightState = some "AI_PENDING") := by
  unfold classifyAiTier
  dsimp only
  by_cases hcopy : ctx.aiFinalizedCopy = true
  · rw [if_pos hcopy, hcopy]
    simp
  · rw [if_neg hcopy, Bool.eq_false_of_not_eq_true hcopy]
    by_cases hflight : ctx.aiInsightState = some "AI_GENERATING" ∨
        ctx.aiInsightState = some "AI_PENDING"
    · rw [if_pos hflight]
      exact iff_of_true rfl ⟨rfl, hflight⟩
    · rw [if_neg hflight]
      apply iff_of_false _ fun h => hflight h.2
      split
      · exact AiTier.noConfusion
      · split
        · split
          · exact AiTier.noConfusion
          · exact byConfidence_ne_inFlight _
          · split
            · exact AiTier.noConfusion
            · exact byConfidence_ne_inFlight _
        · exact AiTier.noConfusion

theorem assess_resolved (h : Resolves keys ctx) :
    (assessOrchestrationPriority keys ctx).2 = evaluate ctx := by
  rw [assessOrchestrationPriority]
  simp only [h.gate, h.running, h.original, ne_eq, not_true_eq_false, if_false,
    Bool.false_eq_true]

theorem evaluate_deferred (h : Defers ctx) :
    (evaluate ctx).degradationFlags = [] ∧ (evaluate ctx).degraded = false := by
  unfold evaluate
  dsimp only
  rw [if_pos ⟨(classifyAiTier_inFlight_iff _ _).2 ⟨h.1, h.2.2⟩, h.2.1⟩]
  exact ⟨rfl, rfl⟩

theorem evaluate_scored (h : ¬ Defers ctx) :
    (evaluate ctx).degradationFlags =
        (missingThresholdKeys resolvable priorityThresholdKeys (ruleSet ctx)).map
          thresholdMissingFlag ∧
      (evaluate ctx).degraded = !(evaluate ctx).degradationFlags.isEmpty := by
  unfold evaluate
  dsimp only
  rw [if_neg]
  · exact ⟨rfl, rfl⟩
  · intro hdefers
    obtain ⟨hfresh, hstate⟩ := (classifyAiTier_inFlight_iff _ _).1 hdefers.1
    exact h ⟨hfresh, hdefers.2, hstate⟩

theorem honest_nil_iff (flag : String → String) (ruleSet : RuleSet) (keys : List String) :
    Honest flag (unusableKeys ruleSet keys) [] false ↔
      ∀ key ∈ keys, usableKey ruleSet key = true := by
  have hnil : unusableKeys ruleSet keys = [] ↔ ∀ key ∈ keys, usableKey ruleSet key = true := by
    simp [unusableKeys, List.filter_eq_nil_iff]
  rw [← hnil]
  constructor
  · intro h
    exact List.map_eq_nil_iff.1 h.reported.symm
  · intro h
    rw [h]
    exact ⟨rfl, rfl⟩

theorem honest_iff (h : Resolves keys ctx) :
    Honest thresholdMissingFlag (unusableBy (t ctx) priorityThresholdKeys)
        (assessOrchestrationPriority keys ctx).2.degradationFlags
        (assessOrchestrationPriority keys ctx).2.degraded ↔
      ∀ key ∈ priorityThresholdKeys, ¬ GivesNull (ruleSet ctx) key ∧
        (Defers ctx → usableKey (ruleSet ctx) key = true) := by
  rw [assess_resolved h, unusable_t]
  by_cases hdefers : Defers ctx
  · obtain ⟨hflags, hdegraded⟩ := evaluate_deferred hdefers
    rw [hflags, hdegraded, honest_nil_iff]
    constructor
    · intro husable key hkey
      refine ⟨?_, fun _ => husable key hkey⟩
      intro hnull
      have hunusable := ((concealed_iff _ key).2 hnull).not_missing.1
      cases hunusable.symm.trans (husable key hkey)
    · intro husable key hkey
      exact (husable key hkey).2 hdefers
  · obtain ⟨hflags, hdegraded⟩ := evaluate_scored hdefers
    rw [StudentSuccess.honest_iff takes_resolvable _ _ _ hflags hdegraded]
    simp only [concealed_iff, hdefers, false_implies, and_true]

theorem makeReplay_silent (ctx : PrioritizationContext) (codes rulePath : List String)
    (thresholdBindings : RuleSet) (key : String) :
    thresholdMissingFlag key ∉
      (makeReplayPriorityRecord ctx codes rulePath thresholdBindings).degradationFlags := by
  rw [makeReplayPriorityRecord]
  dsimp only
  split_ifs
  · intro hmem
    exact thresholdMissingFlag_ne key (by decide) (List.mem_singleton.1 hmem)
  · exact List.not_mem_nil

theorem assess_silent (h : ¬ Resolves keys ctx) (key : String) :
    thresholdMissingFlag key ∉ (assessOrchestrationPriority keys ctx).2.degradationFlags := by
  unfold assessOrchestrationPriority
  dsimp only
  by_cases hgate : governancePreconditionGate keys ctx = []
  · rw [if_neg (not_not_intro hgate)]
    by_cases hrunning : ctx.maintenanceModeActive = true
    · rw [if_pos hrunning]
      exact List.not_mem_nil
    · rw [if_neg hrunning]
      by_cases hreplay : isReplayType ctx.executionType = true
      · rw [if_pos hreplay]
        exact makeReplay_silent _ _ _ _ _
      · exact absurd ⟨hgate, Bool.eq_false_of_not_eq_true hrunning,
          Bool.eq_false_of_not_eq_true hreplay⟩ h
  · rw [if_pos hgate]
    exact List.not_mem_nil

theorem reportsThresholds_iff (keys : List String) (ctx : PrioritizationContext) :
    ReportsThresholds (Resolves keys ctx) thresholdMissingFlag
        (unusableBy (t ctx) priorityThresholdKeys)
        (assessOrchestrationPriority keys ctx).2.degradationFlags
        (assessOrchestrationPriority keys ctx).2.degraded ↔
      (Resolves keys ctx → ∀ key ∈ priorityThresholdKeys, ¬ GivesNull (ruleSet ctx) key ∧
        (Defers ctx → usableKey (ruleSet ctx) key = true)) :=
  StudentSuccess.reportsThresholds_iff honest_iff assess_silent

end Prioritization

/-- Each engine reports exactly the thresholds it cannot use, but for those that are given to it as
`None`, to the eligibility and the channel engine as the sentinel too, and to a prioritization that
RULE 5A defers at all. -/
theorem threshold_honesty_iff (env : RuleEnv) (elig : Eligibility.EligibilityContext)
    (chan : Channel.ChannelAdvisoryContext) (dec : Decision.DecisionContext) (keys : List String)
    (prio : Prioritization.PrioritizationContext) :
    (∀ a, Eligibility.assessOrchestrationEligibility env elig = .ok a →
      (ReportsThresholds (Eligibility.governancePreconditions elig.governance = [])
          thresholdMissingFlag (unusableBy (Eligibility.t elig) Eligibility.keyMap)
          a.configThresholdWarnings a.degradedEvaluation ↔
        (Eligibility.governancePreconditions elig.governance = [] → ∀ key ∈ Eligibility.keyMap,
          ¬ GivesUnusable elig.governance.configRuleSet key))) ∧
    (∀ a, Channel.assessChannelAdvisory env chan = .ok a →
      (ReportsThresholds (Channel.Resolves chan) thresholdMissingFlag
          (unusableBy (Channel.t chan) Channel.keyMap)
          a.configThresholdWarnings a.degradedEvaluation ↔
        (Channel.Resolves chan → ∀ key ∈ Channel.keyMap,
          ¬ GivesUnusable chan.governance.configRuleSet key))) ∧
    (∀ r, Decision.evaluateOrchestrationIntent env dec = .ok r →
      r.configThresholdWarnings =
        if Decision.Resolves dec then
          (unusableBy (Decision.t dec) Decision.thresholdKeys).map
            ("CONFIG_THRESHOLD_MISSING_" ++ ·)
        else []) ∧
    (ReportsThresholds (Prioritization.Resolves keys prio) thresholdMissingFlag
        (unusableBy (Prioritization.t prio) Prioritization.priorityThresholdKeys)
        (Prioritization.assessOrchestrationPriority keys prio).2.degradationFlags
        (Prioritization.assessOrchestrationPriority keys prio).2.degraded ↔
      (Prioritization.Resolves keys prio → ∀ key ∈ Prioritization.priorityThresholdKeys,
        ¬ GivesNull (Prioritization.ruleSet prio) key ∧
          (Prioritization.Defers prio →
            usableKey (Prioritization.ruleSet prio) key = true))) := by
  refine ⟨?_, ?_, ?_, ?_⟩
  · intro a ha
    exact Eligibility.reportsThresholds_iff ha
  · intro a ha
    exact Channel.reportsThresholds_iff ha
  · intro r hr
    split_ifs with h
    · exact Decision.evaluate_warnings h hr
    · exact Decision.evaluate_unresolved h hr
  · exact Prioritization.reportsThresholds_iff keys prio

namespace Eligibility

/-- The held student under a configuration that gives the contact ceiling as `None`. -/
def nullContext : EligibilityContext :=
  { heldContext with
    governance := { heldContext.governance with configRuleSet := [(kMaxAttempts, .null)] } }

theorem nullContext_gate : governancePreconditions nullContext.governance = [] := by
  decide

/-- The ceiling cannot be used, and the record does not report it. -/
theorem nullContext_unreported :
    ∃ a, assessOrchestrationEligibility heldEnv nullContext = .ok a ∧
      governancePreconditions nullContext.governance = [] ∧
      kMaxAttempts ∈ unusableBy (t nullContext) keyMap ∧
      ¬ ReportsThresholds (governancePreconditions nullContext.governance = [])
          thresholdMissingFlag (unusableBy (t nullContext) keyMap)
          a.configThresholdWarnings a.degradedEvaluation := by
  have hescape : LiveEscape nullContext :=
    ⟨⟨rfl, rfl⟩, by simp [Closed, nullContext, heldContext], .inl rfl⟩
  obtain ⟨e, he, -⟩ := hescape.yields heldEnv
  have ha := (assess_eq_ok_iff nullContext_gate).2 ⟨e, he, rfl⟩
  have hnull : GivesUnusable nullContext.governance.configRuleSet kMaxAttempts :=
    ⟨.null, rfl, rfl⟩
  have hmem : kMaxAttempts ∈ keyMap := by decide
  refine ⟨emit heldEnv nullContext e, ha, nullContext_gate, ?_, ?_⟩
  · exact List.mem_filter.2 ⟨hmem, rfl⟩
  · intro h
    exact (reportsThresholds_iff ha).1 h nullContext_gate kMaxAttempts hmem hnull

end Eligibility

end StudentSuccess
