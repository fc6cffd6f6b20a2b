import StudentSuccess.DecisionAuthority

namespace StudentSuccess
namespace Decision
set_option autoImplicit true

open RuleChain

def DecisionContext.withMode (ctx : DecisionContext) (mode : String) : DecisionContext :=
  { ctx with governance := { ctx.governance with executionMode := mode } }

/-- The code of RULE 9 is the one code that names the mode. -/
def liveCode (code : String) : String :=
  if code = "HIGH_RISK_SHADOW_NO_DISPATCH" then "HIGH_RISK_ESCALATION_LIVE" else code

def liveScope (scope : String) : String := if scope = "SHADOW_ONLY" then "AUTHORIZED" else scope

def EscalationMetadata.asLive (esc : EscalationMetadata) : EscalationMetadata :=
  { esc with escalationReasonCodes := esc.escalationReasonCodes.map liveCode }

/-- The intent of a shadow run with the mode, the scope and the code of RULE 9 of a live one. -/
def OrchestrationIntent.asLive (intent : OrchestrationIntent) : OrchestrationIntent :=
  { intent with
    executionMode := "LIVE"
    governanceScope := liveScope intent.governanceScope
    reasonCodes := intent.reasonCodes.map liveCode
    escalationMetadata := intent.escalationMetadata.asLive }

def Decided.asLive (decided : Decided) : Decided := { decided with intent := decided.intent.asLive }

def GovernanceDecisionResult.asLive (r : GovernanceDecisionResult) : GovernanceDecisionResult :=
  { r with intent := r.intent.asLive }

/-- The codes that RULE 10 keeps for later name no mode. -/
def Unmarked (s : Deliberation) : Prop := s.r10Codes.map liveCode = s.r10Codes

/-- The rule does in a live run what it does in a shadow run. -/
def Mirrored (ctx : DecisionContext) (rule : DecisionContext → Rule Deliberation Decided) : Prop :=
  Mirrors Unmarked Decided.asLive (rule (ctx.withMode "SHADOW")) (rule (ctx.withMode "LIVE"))

theorem liveCode_of_ne (h : code ≠ "HIGH_RISK_SHADOW_NO_DISPATCH") : liveCode code = code :=
  if_neg h

section
variable {ctx : DecisionContext} (horiginal : ctx.governance.executionType = "original")
include horiginal

theorem scope_asLive : governanceScope "LIVE" ctx.governance.executionType =
    liveScope (governanceScope "SHADOW" ctx.governance.executionType) := by
  rw [horiginal]
  decide

theorem makeIntent_asLive (kind : IntentType) (confidence : Rat) (execPath : String)
    (path codes : List String) (basis : String) (esc : EscalationMetadata)
    (ai : AIOutputContext) :
    makeIntent (ctx.withMode "LIVE") kind confidence execPath path (codes.map liveCode) basis
        esc.asLive ai =
      (makeIntent (ctx.withMode "SHADOW") kind confidence execPath path codes basis esc
        ai).asLive := by
  have hscope := scope_asLive horiginal
  simp only [makeIntent, OrchestrationIntent.asLive]
  simp only [DecisionContext.withMode, hscope]

theorem exit_unmarked (hcodes : codes.map liveCode = codes) (hesc : esc.asLive = esc) :
    (.ok (.exit ⟨makeIntent (ctx.withMode "LIVE") kind confidence execPath path codes basis esc ai,
        risk⟩) : Except Py.Error (Step Deliberation Decided)) =
      .ok (.exit (Decided.asLive
        ⟨makeIntent (ctx.withMode "SHADOW") kind confidence execPath path codes basis esc ai,
          risk⟩)) := by
  have hintent := makeIntent_asLive horiginal kind confidence execPath path codes basis esc ai
  rw [hcodes, hesc] at hintent
  rw [hintent]
  rfl

theorem rule1_mirrored : Mirrored ctx rule1 := by
  intro s hs
  by_cases hclosed : ctx.operational.outreachState.any (terminalStates.contains ·) = true
  · apply mirrors_exit
    · exact if_pos hclosed
    · exact (if_pos hclosed).trans (exit_unmarked horiginal (by decide) rfl)
  · exact mirrors_next (if_neg hclosed) (if_neg hclosed) hs

theorem rule2_mirrored : Mirrored ctx rule2 := by
  intro s hs
  by_cases hhold : ctx.governance.complianceHoldFlag = true
  · apply mirrors_exit
    · exact if_pos hhold
    · exact (if_pos hhold).trans (exit_unmarked horiginal (by decide) rfl)
  · exact mirrors_next (if_neg hhold) (if_neg hhold) hs

theorem rule4_mirrored : Mirrored ctx rule4 := by
  intro s hs
  by_cases hrevoked : ctx.academic.accessState = some "REVOKED"
  · apply mirrors_exit
    · exact if_pos hrevoked
    · exact (if_pos hrevoked).trans (exit_unmarked horiginal (by decide) rfl)
  · by_cases hsuspended : ctx.academic.accessState = some "SUSPENDED"
    · apply mirrors_exit
      · exact (if_neg hrevoked).trans (if_pos hsuspended)
      · exact (if_neg hrevoked).trans ((if_pos hsuspended).trans
          (exit_unmarked horiginal (by decide) rfl))
    · exact mirrors_next ((if_neg hrevoked).trans (if_neg hsuspended))
        ((if_neg hrevoked).trans (if_neg hsuspended)) hs

theorem rule5_mirrored : Mirrored ctx rule5 := by
  intro s hs
  by_cases hdefer : (assessAiTier ctx.ai).1 = .inFlight ∧ ctx.governance.executionType = "original"
  · apply mirrors_exit
    · exact if_pos hdefer
    · exact (if_pos hdefer).trans (exit_unmarked horiginal (by decide) rfl)
  · exact mirrors_next (if_neg hdefer) (if_neg hdefer) hs

omit horiginal in
theorem rule7_mirrored : Mirrored ctx rule7 := by
  intro s hs
  have hrisk (mode : String) : computeRisk (ctx.withMode mode) s.aiTier =
      computeRisk ctx s.aiTier := rfl
  cases h : computeRisk ctx s.aiTier with
  | error e =>
    have hraises (mode : String) : rule7 (ctx.withMode mode) s = .error e := by
      rw [rule7, hrisk, h]
    exact mirrors_error (hraises "SHADOW") (hraises "LIVE")
  | ok risk =>
    have hnext (mode : String) : rule7 (ctx.withMode mode) s =
        .ok (.next { s.rule "RULE_7" with riskLevel := some risk.1 }) := by
      rw [rule7, hrisk, h]
    exact mirrors_next (hnext "SHADOW") (hnext "LIVE") hs

theorem rule6_mirrored : Mirrored ctx rule6 := by
  intro s hs
  have hceiling (mode : String) : attemptsExhausted (ctx.withMode mode) = attemptsExhausted ctx :=
    rfl
  match h : attemptsExhausted ctx with
  | .error e =>
    have hraises (mode : String) : rule6 (ctx.withMode mode) s = .error e := by
      rw [rule6, hceiling, h]
    exact mirrors_error (hraises "SHADOW") (hraises "LIVE")
  | .ok true =>
    apply mirrors_exit
    · rw [rule6, hceiling, h]
    · rw [rule6, hceiling, h]
      exact exit_unmarked horiginal (by decide) rfl
  | .ok false =>
    have hnext (mode : String) : rule6 (ctx.withMode mode) s =
        .ok (.next (s.rule "RULE_6_PASS")) := by
      rw [rule6, hceiling, h]
    exact mirrors_next (hnext "SHADOW") (hnext "LIVE") hs

theorem rule8_mirrored : Mirrored ctx rule8 := by
  intro s hs
  by_cases hcritical : s.riskLevel = some .critical
  · apply mirrors_exit
    · exact if_pos hcritical
    · exact (if_pos hcritical).trans (exit_unmarked horiginal (by decide) rfl)
  · exact mirrors_next (if_neg hcritical) (if_neg hcritical) hs

/-- RULE 9 is the one rule that reads the mode, for its code. -/
theorem rule9_mirrored : Mirrored ctx rule9 := by
  intro s hs
  by_cases hhigh : s.riskLevel = some .high
  · apply mirrors_exit
    · exact if_pos hhigh
    · have hintent := makeIntent_asLive horiginal .escalateToOperator (85 / 100)
        "escalation_routing_service.handle_high_risk" (s.path ++ ["RULE_9"])
        ["HIGH_RISK_SHADOW_NO_DISPATCH"] "RULE_BASED"
        (escalation "HIGH" "HIGH_RISK_SHADOW_NO_DISPATCH") s.aiOut
      have hexit : rule9 (ctx.withMode "LIVE") s = .ok (.exit ⟨makeIntent (ctx.withMode "LIVE")
          .escalateToOperator (85 / 100) "escalation_routing_service.handle_high_risk"
          (s.path ++ ["RULE_9"]) (["HIGH_RISK_SHADOW_NO_DISPATCH"].map liveCode) "RULE_BASED"
          (escalation "HIGH" "HIGH_RISK_SHADOW_NO_DISPATCH").asLive s.aiOut, s.riskLevel⟩) :=
        if_pos hhigh
      rw [hexit, hintent]
      rfl
  · exact mirrors_next (if_neg hhigh) (if_neg hhigh) hs

omit horiginal in
theorem rule10_mirrored : Mirrored ctx rule10 := by
  intro s hs
  by_cases hrecommends : (s.aiTier = .confident ∨ s.aiTier = .advisory) ∧
      ctx.ai.aiRecommendedIntervention.any (recommendedInterventions.contains ·)
  · have hunmarked : ["AI_ASSISTED_INTERVENTION_RECOMMENDED"].map liveCode =
        ["AI_ASSISTED_INTERVENTION_RECOMMENDED"] := by decide
    apply mirrors_next
    · exact if_pos hrecommends
    · exact if_pos hrecommends
    · exact hunmarked
  · exact mirrors_next (if_neg hrecommends) (if_neg hrecommends) hs

theorem rule11_mirrored : Mirrored ctx rule11 := by
  intro s hs
  have hretry (mode : String) : retryEligible (ctx.withMode mode) = retryEligible ctx := rfl
  have hcodes : (s.r10Codes ++ ["RETRY_ELIGIBLE_WINDOW_PASSED"]).map liveCode =
      s.r10Codes ++ ["RETRY_ELIGIBLE_WINDOW_PASSED"] := by
    rw [List.map_append, hs]
    congr 1
  match h : retryEligible ctx, hr10 : s.r10Intent with
  | .error e, _ =>
    have hraises (mode : String) : rule11 (ctx.withMode mode) s = .error e := by
      rw [rule11, hretry, h]
    exact mirrors_error (hraises "SHADOW") (hraises "LIVE")
  | .ok true, _ =>
    apply mirrors_exit
    · rw [rule11, hretry, h]
    · rw [rule11, hretry, h]
      exact exit_unmarked horiginal hcodes rfl
  | .ok false, some r10Intent =>
    apply mirrors_exit
    · rw [rule11, hretry, h, hr10]
    · rw [rule11, hretry, h, hr10]
      exact exit_unmarked horiginal hs rfl
  | .ok false, none =>
    have hnext (mode : String) : rule11 (ctx.withMode mode) s = .ok (.next s) := by
      rw [rule11, hretry, h, hr10]
    exact mirrors_next (hnext "SHADOW") (hnext "LIVE") hs

theorem rule12_mirrored : Mirrored ctx rule12 := by
  intro s hs
  by_cases hfirst : ctx.operational.contactAttemptCount = 0 ∧
      (ctx.operational.outreachState = some "ELIGIBLE" ∨
        ctx.operational.outreachState = some "QUEUED" ∨ ctx.operational.outreachState = none)
  · apply mirrors_exit
    · exact if_pos hfirst
    · exact (if_pos hfirst).trans (exit_unmarked horiginal (by decide) rfl)
  · exact mirrors_next (if_neg hfirst) (if_neg hfirst) hs

theorem rule14_asLive (s : Deliberation) :
    rule14 (ctx.withMode "LIVE") s = (rule14 (ctx.withMode "SHADOW") s).asLive := by
  have hintent := makeIntent_asLive horiginal .noEligibleIntent 1 "" (s.rule "RULE_14").path
    ["NO_ELIGIBLE_ACTION_THIS_CYCLE"] "RULE_BASED" {} s.aiOut
  have hrule : rule14 (ctx.withMode "LIVE") s = ⟨makeIntent (ctx.withMode "LIVE") .noEligibleIntent
      1 "" (s.rule "RULE_14").path (["NO_ELIGIBLE_ACTION_THIS_CYCLE"].map liveCode) "RULE_BASED"
      (EscalationMetadata.asLive {}) s.aiOut, s.riskLevel⟩ := rfl
  rw [hrule, hintent]
  rfl

theorem rules_mirrored :
    List.Forall₂ (Mirrors Unmarked Decided.asLive) (rules (ctx.withMode "SHADOW"))
      (rules (ctx.withMode "LIVE")) :=
  .cons (rule1_mirrored horiginal) <| .cons (rule2_mirrored horiginal) <|
  .cons (rule4_mirrored horiginal) <| .cons (rule5_mirrored horiginal) <|
  .cons (rule6_mirrored horiginal) <| .cons rule7_mirrored <| .cons (rule8_mirrored horiginal) <|
  .cons (rule9_mirrored horiginal) <| .cons rule10_mirrored <| .cons (rule11_mirrored horiginal) <|
  .cons (rule12_mirrored horiginal) .nil

/-- The rules of a live run end as those of the shadow run. -/
theorem rules_asLive :
    eval (rule14 (ctx.withMode "LIVE")) (rules (ctx.withMode "LIVE")) start =
      (eval (rule14 (ctx.withMode "SHADOW")) (rules (ctx.withMode "SHADOW")) start).map
        Decided.asLive :=
  eval_mirrors (rules_mirrored horiginal) (fun s _ => rule14_asLive horiginal s) start rfl

end

theorem map_liveCode_ite (condition : Prop) [Decidable condition]
    (h : code ≠ "HIGH_RISK_SHADOW_NO_DISPATCH") :
    (if condition then [code] else []).map liveCode = if condition then [code] else [] := by
  split_ifs
  · exact congrArg (· :: []) (liveCode_of_ne h)
  · rfl

theorem preconditionCodes_unmarked (gov : GovernanceContext) :
    (preconditionCodes gov).map liveCode = preconditionCodes gov := by
  rw [preconditionCodes]
  simp only [List.map_append]
  rw [map_liveCode_ite _ (by decide), map_liveCode_ite _ (by decide),
    map_liveCode_ite _ (by decide), map_liveCode_ite _ (by decide), map_liveCode_ite _ (by decide)]

/-- RULE 0 accepts both modes. -/
theorem preconditionCodes_withMode (ctx : DecisionContext) :
    preconditionCodes (ctx.withMode "LIVE").governance =
      preconditionCodes (ctx.withMode "SHADOW").governance := by
  have hlive : (ctx.withMode "LIVE").governance.executionMode ∈ validModes :=
    (by decide : "LIVE" ∈ validModes)
  have hshadow : (ctx.withMode "SHADOW").governance.executionMode ∈ validModes :=
    (by decide : "SHADOW" ∈ validModes)
  simp only [preconditionCodes]
  rw [if_neg (not_not_intro hlive), if_neg (not_not_intro hshadow)]
  rfl

theorem evaluate_blocked_asLive (env : RuleEnv) (ctx : DecisionContext)
    (h0 : preconditionCodes (ctx.withMode "SHADOW").governance ≠ []) :
    evaluateOrchestrationIntent env (ctx.withMode "LIVE") =
      (evaluateOrchestrationIntent env (ctx.withMode "SHADOW")).map
        GovernanceDecisionResult.asLive := by
  have hunmarked := preconditionCodes_unmarked (ctx.withMode "SHADOW").governance
  have hcodes := preconditionCodes_withMode ctx
  simp only [evaluateOrchestrationIntent, validateGovernancePreconditions]
  simp only [if_neg h0, Except.map, GovernanceDecisionResult.asLive,
    OrchestrationIntent.asLive, hunmarked, hcodes]
  rfl

theorem evaluate_asLive (env : RuleEnv) (ctx : DecisionContext)
    (horiginal : ctx.governance.executionType = "original") :
    evaluateOrchestrationIntent env (ctx.withMode "LIVE") =
      (evaluateOrchestrationIntent env (ctx.withMode "SHADOW")).map
        GovernanceDecisionResult.asLive := by
  by_cases h0 : preconditionCodes (ctx.withMode "SHADOW").governance = []
  · have h0' : preconditionCodes (ctx.withMode "LIVE").governance = [] :=
      (preconditionCodes_withMode ctx).trans h0
    have hreplay : isReplayType ctx.governance.executionType = false := by
      rw [horiginal]
      decide
    rw [evaluate_eq env h0 hreplay, evaluate_eq env h0' hreplay, rules_asLive horiginal]
    cases eval (rule14 (ctx.withMode "SHADOW")) (rules (ctx.withMode "SHADOW")) start with
    | error e => rfl
    | ok decided => rfl
  · exact evaluate_blocked_asLive env ctx h0

/-- A live run decides as the shadow run, and the shadow evaluation is the evaluation in shadow
mode. -/
theorem shadow_live_bisimulation (env : RuleEnv) (ctx : DecisionContext) :
    (ctx.governance.executionType = "original" →
      evaluateOrchestrationIntent env (ctx.withMode "LIVE") =
        (evaluateOrchestrationIntent env (ctx.withMode "SHADOW")).map
          GovernanceDecisionResult.asLive) ∧
      evaluateShadowIntent env ctx = evaluateOrchestrationIntent env (ctx.withMode "SHADOW") := by
  refine ⟨evaluate_asLive env ctx, ?_⟩
  rw [evaluateShadowIntent]
  by_cases hshadow : ctx.governance.executionMode = "SHADOW"
  · have hsame : ctx.withMode "SHADOW" = ctx := by
      rw [← hshadow]
      rfl
    rw [if_neg (not_not_intro hshadow), hsame]
  · exact if_pos hshadow

end Decision
end StudentSuccess
