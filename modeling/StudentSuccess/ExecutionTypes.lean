import StudentSuccess.DecisionAuthority
import StudentSuccess.Eligibility
import StudentSuccess.ChannelSelector

namespace StudentSuccess
set_option autoImplicit true

def executionTypes : List String := ["original", "replay", "regeneration"]

theorem isReplayType_unknown (h : executionType ∉ executionTypes) :
    isReplayType executionType = false := by
  rw [executionTypes, List.mem_cons, List.mem_cons, List.mem_singleton] at h
  rw [isReplayType, Bool.or_eq_false_iff]
  exact ⟨beq_false_of_ne fun hreplay => h (.inr (.inl hreplay)),
    beq_false_of_ne fun hregeneration => h (.inr (.inr hregeneration))⟩

/-- An engine that lists the code of the type among those of its preconditions refuses a type that
it does not know. -/
theorem unknown_type_refused (h : executionType ∉ executionTypes) (before after : List String) :
    "EXECUTION_TYPE_INVALID" ∈ before ++
      (if executionType ∉ ["original", "replay", "regeneration"] then
        ["EXECUTION_TYPE_INVALID"] else []) ++ after := by
  have hcode : (if executionType ∉ ["original", "replay", "regeneration"] then
    ["EXECUTION_TYPE_INVALID"] else []) = ["EXECUTION_TYPE_INVALID"] := if_pos h
  rw [hcode]
  exact List.mem_append_left _ (List.mem_append_right _ (List.mem_singleton.2 rfl))

theorem Eligibility.assess_unknown_type (env : RuleEnv) (ctx : Eligibility.EligibilityContext)
    (h : ctx.governance.executionType ∉ executionTypes) :
    Eligibility.assessOrchestrationEligibility env ctx =
      .ok (Eligibility.makeBlocked env ctx
        (Eligibility.governancePreconditions ctx.governance)) :=
  if_pos (List.ne_nil_of_mem (unknown_type_refused h _ _))

theorem Channel.assess_unknown_type (env : RuleEnv) (ctx : Channel.ChannelAdvisoryContext)
    (h : ctx.governance.executionType ∉ executionTypes) :
    Channel.assessChannelAdvisory env ctx =
      .ok (Channel.makeBlocked ctx (Channel.governancePreconditions ctx.governance)) :=
  if_pos (List.ne_nil_of_mem (unknown_type_refused h _ _))

namespace Decision

open RuleChain

/-- The evaluation is blocked at RULE 0, and nothing it returns is authorized or unblocked. -/
structure Refuses (env : RuleEnv) (ctx : DecisionContext) : Prop where
  atRule0 : ∃ r, evaluateOrchestrationIntent env ctx = .ok r ∧
    r.intent.rulePathTaken = ["RULE_0"] ∧ r.intent.intentBlocked = true
  unauthorized : ∀ r, evaluateOrchestrationIntent env ctx = .ok r →
    r.intent.governanceScope ≠ "AUTHORIZED" ∧ r.intent.intentBlocked = true

/-- A precondition of RULE 0 other than the one on the type fails. -/
inductive FailsPrecondition (gov : GovernanceContext) : Prop
  | configVersion : Py.truthyText gov.configVersionId = false → FailsPrecondition gov
  | executionMode : gov.executionMode ∉ validModes → FailsPrecondition gov
  | correlationId : Py.truthyText gov.correlationId = false → FailsPrecondition gov
  | attribution : (requiredAttribution.any fun k => isNone (item gov.attributionContext k)) = true →
      FailsPrecondition gov

theorem preconditionCodes_ne_nil_iff (h : gov.executionType ∉ executionTypes) :
    preconditionCodes gov ≠ [] ↔ FailsPrecondition gov := by
  constructor
  · intro hcodes
    by_contra hpass
    apply hcodes
    have hconfig : Py.truthyText gov.configVersionId = true :=
      Bool.eq_true_of_not_eq_false fun h => hpass (.configVersion h)
    have hmode : gov.executionMode ∈ validModes :=
      by_contra fun h => hpass (.executionMode h)
    have hcorrelation : Py.truthyText gov.correlationId = true :=
      Bool.eq_true_of_not_eq_false fun h => hpass (.correlationId h)
    have hattribution : ¬ (requiredAttribution.any fun k =>
        isNone (item gov.attributionContext k)) = true := fun h => hpass (.attribution h)
    rw [preconditionCodes, hconfig, hcorrelation, isReplayType_unknown h, if_neg hattribution,
      if_neg (not_not_intro hmode)]
    rfl
  · intro hfails hcodes
    simp only [preconditionCodes, List.append_eq_nil_iff, ite_eq_right_iff, List.cons_ne_nil,
      imp_false, Bool.not_eq_true, Bool.not_eq_false', not_not, and_assoc] at hcodes
    obtain ⟨hconfig, hmode, hcorrelation, hattribution, -⟩ := hcodes
    cases hfails with
    | configVersion h => exact Bool.noConfusion (h.symm.trans hconfig)
    | executionMode h => exact h hmode
    | correlationId h => exact Bool.noConfusion (h.symm.trans hcorrelation)
    | attribution h => exact Bool.noConfusion (h.symm.trans hattribution)

theorem refuses_of_codes (env : RuleEnv) (h0 : preconditionCodes ctx.governance ≠ []) :
    Refuses env ctx := by
  have hblocked : ∃ r, evaluateOrchestrationIntent env ctx = .ok r ∧
      r.intent.rulePathTaken = ["RULE_0"] ∧ r.intent.governanceScope = "UNAVAILABLE" ∧
      r.intent.intentBlocked = true := by
    rw [evaluateOrchestrationIntent, validateGovernancePreconditions]
    simp only [if_neg h0]
    exact ⟨_, rfl, rfl, rfl, rfl⟩
  obtain ⟨blocked, hblocked, hpath, hscope, hintent⟩ := hblocked
  refine ⟨⟨blocked, hblocked, hpath, hintent⟩, ?_⟩
  intro r hr
  cases hblocked.symm.trans hr
  rw [hscope]
  exact ⟨by decide, hintent⟩

/-- An unknown type that passes RULE 0 is evaluated as an original, and never blocked. -/
theorem not_refuses_of_gate (env : RuleEnv) (h0 : preconditionCodes ctx.governance = [])
    (h : ctx.governance.executionType ∉ executionTypes) : ¬ Refuses env ctx := by
  intro hrefuses
  obtain ⟨r, hr, -, hblocked⟩ := hrefuses.atRule0
  rw [evaluate_eq env h0 (isReplayType_unknown h)] at hr
  match hdecided : eval (rule14 ctx) (rules ctx) start with
  | .error e =>
    rw [hdecided] at hr
    cases hr
  | .ok decided =>
    rw [hdecided] at hr
    cases hr
    have hmade : Made ctx decided := rules_make ctx start trivial decided hdecided
    exact Bool.noConfusion
      (hblocked.symm.trans (congrArg OrchestrationIntent.intentBlocked hmade))

theorem unknown_type_refuses_iff (env : RuleEnv) (ctx : DecisionContext) :
    (ctx.governance.executionType ∉ executionTypes → Refuses env ctx) ↔
      ctx.governance.executionType ∈ executionTypes ∨ FailsPrecondition ctx.governance := by
  by_cases htype : ctx.governance.executionType ∈ executionTypes
  · exact iff_of_true (fun h => absurd htype h) (.inl htype)
  · rw [or_iff_right htype, ← preconditionCodes_ne_nil_iff htype]
    constructor
    · intro hrefuses h0
      exact not_refuses_of_gate env h0 htype (hrefuses htype)
    · intro h0 _
      exact refuses_of_codes env h0

/-- A replay whose type is spelt with a capital, in live mode. -/
def misspeltReplay : DecisionContext where
  governance :=
    { configVersionId := some "v1"
      configRuleSet := []
      executionMode := "LIVE"
      executionType := "Replay"
      correlationId := some "c1"
      causationId := none
      attributionContext :=
        [("origin_source", .str "sync"), ("origin_authority", .str "SYSTEM"),
          ("attribution_timestamp", .str "2026-01-01T00:00:00")]
      fingerprintContext := none
      complianceHoldFlag := false }
  academic :=
    { userId := some 1
      accessState := some "ACTIVE"
      hwsBehind := none
      avgEffRating := none
      lastActivityDays := none
      paymentBalance := none }
  operational :=
    { outreachState := some "ELIGIBLE", contactAttemptCount := 0, retryEligible := false }
  ai :=
    { aiInsightState := none
      aiConfidenceScore := none
      aiStaleFlag := false
      aiFinalizedCopy := false
      aiRecommendedIntervention := none }
  historical := { historicalRiskTrend := none }

theorem misspeltReplay_authorized :
    misspeltReplay.governance.executionType ∉ executionTypes ∧
      ∀ env, (∃ r, evaluateOrchestrationIntent env misspeltReplay = .ok r ∧
        r.intent.governanceScope = "AUTHORIZED" ∧ r.intent.intentBlocked = false ∧
        r.intent.orchestrationIntent = .initiateOutreach) ∧ ¬ Refuses env misspeltReplay := by
  refine ⟨by decide, fun env => ?_⟩
  have hreturned : ∃ r, evaluateOrchestrationIntent env misspeltReplay = .ok r ∧
      r.intent.governanceScope = "AUTHORIZED" ∧ r.intent.intentBlocked = false ∧
      r.intent.orchestrationIntent = .initiateOutreach := ⟨_, rfl, rfl, rfl, rfl⟩
  refine ⟨hreturned, fun hrefuses => ?_⟩
  obtain ⟨r, hr, hscope, -⟩ := hreturned
  exact (hrefuses.unauthorized r hr).1 hscope

end Decision
end StudentSuccess
