import StudentSuccess.RiskEngines
import StudentSuccess.LiveDelivery

namespace StudentSuccess
set_option autoImplicit true

/-- The AI state of a student as the engines are given it; one that keeps a plain flag takes the
unset one for `False`. -/
structure AiState where
  insightState : Option String
  staleFlag : Option Bool
  confidenceScore : Option Rat
  finalizedCopy : Bool

/-- What the rule set says of the insights' time to live. -/
inductive TtlConfig
  | absent
  | unknownV0
  | hours (v : { v : Py.Value // v.num? ≠ none })

namespace TtlConfig

def entry : TtlConfig → Option Py.Value
  | absent => none
  | unknownV0 => some StudentSuccess.unknownV0
  | hours v => some v.1

def hours? : TtlConfig → Option Py.Value
  | absent => none
  | unknownV0 => none
  | hours v => some v.1

def Configured (ttl : TtlConfig) : Prop := ttl.hours?.isSome = true

instance : Decidable (Configured ttl) := inferInstanceAs (Decidable (_ = _))

theorem comparable_entry (ttl : TtlConfig) :
    comparable (ttl.entry.getD StudentSuccess.unknownV0) = ttl.hours? := by
  cases ttl with
  | absent => rfl
  | unknownV0 => rfl
  | hours v =>
    obtain ⟨v, hv⟩ := v
    obtain ⟨x, hx⟩ := Option.ne_none_iff_exists'.1 hv
    exact num?_comparable hx

theorem isUnknownV0_entry (ttl : TtlConfig) :
    isUnknownV0 (ttl.entry.getD StudentSuccess.unknownV0) = true ↔ ¬ ttl.Configured := by
  cases ttl with
  | absent => exact iff_of_true rfl Bool.false_ne_true
  | unknownV0 => exact iff_of_true rfl Bool.false_ne_true
  | hours v =>
    obtain ⟨v, hv⟩ := v
    apply iff_of_false
    · intro hunknown
      cases v with
      | str s => exact hv rfl
      | null => exact hv rfl
      | _ => cases hunknown
    · exact not_not_intro rfl

end TtlConfig

/-- The four contexts carry one AI state, under rule sets that agree on the time to live; no
timestamp of the insight is given. -/
structure Presented (ai : AiState) (ttl : TtlConfig) (e : Eligibility.EligibilityContext)
    (d : Decision.DecisionContext) (p : Prioritization.PrioritizationContext)
    (c : Channel.ChannelAdvisoryContext) : Prop where
  eligibility : (e.ai.aiInsightState, e.ai.aiStaleFlag, e.ai.aiConfidenceScore,
    e.ai.aiFinalizedCopy) =
      (ai.insightState, ai.staleFlag.getD false, ai.confidenceScore, ai.finalizedCopy)
  decision : (d.ai.aiInsightState, d.ai.aiStaleFlag, d.ai.aiConfidenceScore,
    d.ai.aiFinalizedCopy) =
      (ai.insightState, ai.staleFlag.getD false, ai.confidenceScore, ai.finalizedCopy)
  priority : (p.aiInsightState, p.aiStaleFlag, p.aiConfidenceScore, p.aiFinalizedCopy) =
    (ai.insightState, ai.staleFlag, ai.confidenceScore, ai.finalizedCopy)
  channel : (c.ai.aiInsightState, c.ai.aiStaleFlag, c.ai.aiConfidenceScore,
    c.ai.aiFinalizedCopy, c.ai.aiGeneratedAt) =
      (ai.insightState, ai.staleFlag.getD false, ai.confidenceScore, ai.finalizedCopy, none)
  eligibilityTtl : Py.get? Eligibility.kAiTtl e.governance.configRuleSet = ttl.entry
  decisionTtl : Py.get? Decision.kAiTtl d.governance.configRuleSet = ttl.entry
  priorityTtl : Py.get? Prioritization.kAiInsightTtlHours (p.configRuleSet.getD []) = ttl.entry
  channelTtl : Py.get? Channel.kAiTtl c.governance.configRuleSet = ttl.entry

def eligibilityTier (e : Eligibility.EligibilityContext) : AiTier := (Eligibility.assessAiTier e).1

def decisionTier (d : Decision.DecisionContext) : AiTier := (Decision.assessAiTier d.ai).1

def priorityTier (p : Prioritization.PrioritizationContext) : AiTier :=
  Prioritization.classifyAiTier p (Prioritization.bindings p)

def channelTier (env : RuleEnv) (c : Channel.ChannelAdvisoryContext) : Except Py.Error AiTier :=
  (Channel.assessAiTier env c.ai (Channel.tb c) {}).map Prod.fst

def TiersAgree (env : RuleEnv) (e : Eligibility.EligibilityContext) (d : Decision.DecisionContext)
    (p : Prioritization.PrioritizationContext) (c : Channel.ChannelAdvisoryContext) : Prop :=
  decisionTier d = eligibilityTier e ∧ priorityTier p = eligibilityTier e ∧
    channelTier env c = .ok (eligibilityTier e)

namespace AiState

abbrev Reviewed (ai : AiState) : Prop := ai.insightState = some "AI_REVIEWED"

abbrev InFlight (ai : AiState) : Prop :=
  ai.insightState = some "AI_GENERATING" ∨ ai.insightState = some "AI_PENDING"

/-- The tier of a reviewed insight by its flag and its confidence. -/
def reviewedTier (ai : AiState) : AiTier :=
  if ai.staleFlag = some true then .stale
  else if 7 / 10 ≤ ai.confidenceScore.getD 0 then .confident
  else .advisory

def tier (ai : AiState) (reviewed : AiTier) : AiTier :=
  if ai.finalizedCopy then .finalizedCopy
  else if ai.insightState = some "AI_GENERATING" ∨
    ai.insightState = some "AI_PENDING" then .inFlight
  else if ai.insightState = some "AI_REVIEWED" then reviewed
  else .unavailable

theorem not_inFlight_of_reviewed (h : Reviewed ai) : ¬ InFlight ai := by
  intro hflight
  rcases hflight with hstate | hstate
  · exact absurd (h.symm.trans hstate) (by decide)
  · exact absurd (h.symm.trans hstate) (by decide)

theorem eq_tier {tier reviewed : AiTier}
    (hcopy : ai.finalizedCopy = true → tier = .finalizedCopy)
    (hflight : ai.finalizedCopy = false → InFlight ai → tier = .inFlight)
    (hreviewed : ai.finalizedCopy = false → Reviewed ai → tier = reviewed)
    (hother : ai.finalizedCopy = false → ¬ InFlight ai → ¬ Reviewed ai → tier = .unavailable) :
    tier = ai.tier reviewed := by
  rw [AiState.tier]
  split_ifs with h₁ h₂ h₃
  · exact hcopy h₁
  · exact hflight (Bool.not_eq_true _ ▸ h₁) h₂
  · exact hreviewed (Bool.not_eq_true _ ▸ h₁) h₃
  · exact hother (Bool.not_eq_true _ ▸ h₁) h₂ h₃

theorem tier_inFlight (hcopy : ai.finalizedCopy = false) (h : InFlight ai) (reviewed : AiTier) :
    ai.tier reviewed = .inFlight := by
  rw [tier, if_neg (Bool.not_eq_true _ ▸ hcopy), if_pos h]

theorem tier_reviewed (hcopy : ai.finalizedCopy = false) (h : Reviewed ai) (reviewed : AiTier) :
    ai.tier reviewed = reviewed := by
  rw [tier, if_neg (Bool.not_eq_true _ ▸ hcopy), if_neg (not_inFlight_of_reviewed h), if_pos h]

theorem reviewedTier_ne_unavailable (ai : AiState) : ai.reviewedTier ≠ .unavailable := by
  rw [reviewedTier]
  split_ifs <;> decide

theorem getD_flag (ai : AiState) :
    ai.staleFlag.getD false = true ↔ ai.staleFlag = some true := by
  cases ai.staleFlag with
  | none => simp
  | some flag => simp

end AiState

theorem getD_eq_iff {state : Option String} {s : String} (hs : "" ≠ s) :
    state.getD "" = s ↔ state = some s := by
  cases state with
  | none => simp [hs]
  | some s' => simp

section
variable {ai : AiState} {ttl : TtlConfig} (h : Presented ai ttl e d p c)
include h

/-- The decision engine does not ask for the time to live. -/
theorem decisionTier_eq : decisionTier d = ai.tier ai.reviewedTier := by
  obtain ⟨hstate, hstale, hscore, hcopy⟩ :
      d.ai.aiInsightState = ai.insightState ∧ d.ai.aiStaleFlag = ai.staleFlag.getD false ∧
        d.ai.aiConfidenceScore = ai.confidenceScore ∧ d.ai.aiFinalizedCopy = ai.finalizedCopy := by
    simpa using h.decision
  rw [decisionTier, Decision.assessAiTier]
  simp only [hstate, hstale, hscore, hcopy, ai.getD_flag]
  apply AiState.eq_tier
  · intro hcopied
    rw [if_pos hcopied]
  · intro hfresh hflight
    rw [hfresh, if_neg Bool.false_ne_true, if_pos hflight]
  · intro hfresh hreviewed
    simp [hfresh, hreviewed, AiState.reviewedTier, apply_ite Prod.fst]
  · intro hfresh hflight hreviewed
    rw [hfresh, if_neg Bool.false_ne_true, if_neg hflight, if_neg hreviewed]
    exact (apply_ite Prod.fst _ _ _).trans (ite_self _)

theorem eligibility_ttl : Eligibility.t e Eligibility.kAiTtl = ttl.hours? := by
  rw [Eligibility.t, Eligibility.thresholds, threshold_of_mem _ (by decide), resolveThreshold_true,
    h.eligibilityTtl]
  exact ttl.comparable_entry

/-- RULE 5 of the eligibility assessment takes a reviewed insight for unavailable while no time to
live is configured. -/
theorem eligibilityTier_eq : eligibilityTier e =
    ai.tier (if ttl.Configured then ai.reviewedTier else .unavailable) := by
  obtain ⟨hstate, hstale, hscore, hcopy⟩ :
      e.ai.aiInsightState = ai.insightState ∧ e.ai.aiStaleFlag = ai.staleFlag.getD false ∧
        e.ai.aiConfidenceScore = ai.confidenceScore ∧ e.ai.aiFinalizedCopy = ai.finalizedCopy := by
    simpa using h.eligibility
  rw [eligibilityTier, Eligibility.assessAiTier]
  simp only [hstate, hstale, hscore, hcopy, ai.getD_flag, eligibility_ttl h]
  apply AiState.eq_tier
  · intro hcopied
    rw [if_pos hcopied]
  · intro hfresh hflight
    rw [hfresh, if_neg Bool.false_ne_true, if_pos hflight]
  · intro hfresh hreviewed
    cases hhours : ttl.hours? with
    | none => simp [hfresh, hreviewed, TtlConfig.Configured, hhours]
    | some hours =>
      simp [hfresh, hreviewed, TtlConfig.Configured, hhours, AiState.reviewedTier,
        apply_ite Prod.fst]
  · intro hfresh hflight hreviewed
    rw [hfresh, if_neg Bool.false_ne_true, if_neg hflight, if_neg hreviewed]
    exact (apply_ite Prod.fst _ _ _).trans (ite_self _)

theorem priority_ttl :
    isUnknownV0 (threshold (Prioritization.bindings p) Prioritization.kAiInsightTtlHours) = true ↔
      ¬ ttl.Configured := by
  rw [← ttl.isUnknownV0_entry, Prioritization.bindings, threshold_of_mem _ (by decide),
    resolveThreshold, h.priorityTtl]
  cases ttl with
  | absent => exact Iff.rfl
  | unknownV0 => exact Iff.rfl
  | hours v =>
    obtain ⟨v, hv⟩ := v
    cases v with
    | str s => exact absurd rfl hv
    | _ => exact Iff.rfl

/-- The prioritization asks for the time to live of a reviewed insight only while no flag is set. -/
theorem priorityTier_eq : priorityTier p =
    ai.tier (if ai.staleFlag = none ∧ ¬ ttl.Configured then .unavailable
      else ai.reviewedTier) := by
  obtain ⟨hstate, hstale, hscore, hcopy⟩ :
      p.aiInsightState = ai.insightState ∧ p.aiStaleFlag = ai.staleFlag ∧
        p.aiConfidenceScore = ai.confidenceScore ∧ p.aiFinalizedCopy = ai.finalizedCopy := by
    simpa using h.priority
  rw [priorityTier, Prioritization.classifyAiTier]
  simp only [hstate, hstale, hscore, hcopy, priority_ttl h]
  apply AiState.eq_tier
  · intro hcopied
    rw [if_pos hcopied]
  · intro hfresh hflight
    rw [hfresh, if_neg Bool.false_ne_true, if_pos hflight]
  · intro hfresh hreviewed
    have htruthy : Py.truthyText (some "AI_REVIEWED") = true := by decide
    have hzero : ¬ (7 / 10 : Rat) ≤ 0 := by decide +kernel
    cases hflag : ai.staleFlag with
    | none =>
      cases hconfidence : ai.confidenceScore with
      | none => simp [hfresh, hreviewed, hflag, hconfidence, htruthy, hzero, AiState.reviewedTier]
      | some x => simp [hfresh, hreviewed, hflag, hconfidence, htruthy, AiState.reviewedTier]
    | some flag =>
      cases hconfidence : ai.confidenceScore with
      | none =>
        cases flag <;>
          simp [hfresh, hreviewed, hflag, hconfidence, htruthy, hzero, AiState.reviewedTier]
      | some x =>
        cases flag <;>
          simp [hfresh, hreviewed, hflag, hconfidence, htruthy, AiState.reviewedTier]
  · intro hfresh hflight hreviewed
    rw [hfresh, if_neg Bool.false_ne_true, if_neg hflight, if_neg hreviewed]
    exact ite_self _

theorem channel_ttl : comparable (Channel.tb c).aiInsightTtlHours = ttl.hours? := by
  have hbound : (Channel.tb c).aiInsightTtlHours = ttl.entry.getD unknownV0 := by
    rw [← h.channelTtl, ← resolveThreshold_true]
    have hkey : Channel.kAiTtl ∈ Channel.keyMap := by decide
    exact threshold_of_mem _ hkey _
  rw [hbound]
  exact ttl.comparable_entry

/-- The channel advisory asks for the time to live before it looks at the insight's state. -/
theorem channelTier_eq (env : RuleEnv) : channelTier env c =
    .ok (if ai.finalizedCopy = true ∨ ttl.Configured then ai.tier ai.reviewedTier
      else .unavailable) := by
  obtain ⟨hstate, hstale, hscore, hcopy, hgenerated⟩ :
      c.ai.aiInsightState = ai.insightState ∧ c.ai.aiStaleFlag = ai.staleFlag.getD false ∧
        c.ai.aiConfidenceScore = ai.confidenceScore ∧ c.ai.aiFinalizedCopy = ai.finalizedCopy ∧
        c.ai.aiGeneratedAt = none := by
    simpa using h.channel
  rw [channelTier, Channel.assessAiTier]
  simp only [hstate, hscore, hcopy, channel_ttl h]
  cases hcopied : ai.finalizedCopy with
  | true => simp [Except.map, AiState.tier, hcopied]
  | false =>
    cases hhours : ttl.hours? with
    | none => simp [Except.map, TtlConfig.Configured, hhours]
    | some hours =>
      have hconfigured : ttl.Configured := by simp [TtlConfig.Configured, hhours]
      have hfresh : Channel.reviewedStale env c.ai hours = .ok (ai.staleFlag.getD false) := by
        rw [Channel.reviewedStale, hstale, hgenerated]
        cases ai.staleFlag.getD false <;> rfl
      have hgenerating : ai.insightState.getD "" = "AI_GENERATING" ↔ _ := getD_eq_iff (by decide)
      have hpending : ai.insightState.getD "" = "AI_PENDING" ↔ _ := getD_eq_iff (by decide)
      have hreviewed : ai.insightState.getD "" = "AI_REVIEWED" ↔ _ := getD_eq_iff (by decide)
      simp only [hfresh, hgenerating, hpending, hreviewed, hconfigured, or_true, if_true,
        Bool.false_eq_true, if_false]
      by_cases hflight : ai.InFlight
      · rw [if_pos hflight, AiState.tier_inFlight hcopied hflight]
        rfl
      · rw [if_neg hflight]
        by_cases hreviewed : ai.Reviewed
        · rw [AiState.tier_reviewed hcopied hreviewed]
          simp [hreviewed, Except.map, AiState.reviewedTier, ai.getD_flag, apply_ite Prod.fst]
        · rw [if_neg hreviewed, AiState.tier, hcopied, if_neg Bool.false_ne_true, if_neg hflight,
            if_neg hreviewed]
          exact (apply_ite _ _ _ _).trans (ite_self _)

theorem tiersAgree_of_copied (env : RuleEnv) (hcopied : ai.finalizedCopy = true) :
    TiersAgree env e d p c := by
  have htier (reviewed : AiTier) : ai.tier reviewed = .finalizedCopy := if_pos hcopied
  refine ⟨?_, ?_, ?_⟩
  · rw [decisionTier_eq h, eligibilityTier_eq h, htier, htier]
  · rw [priorityTier_eq h, eligibilityTier_eq h, htier, htier]
  · rw [channelTier_eq h, eligibilityTier_eq h, if_pos (.inl hcopied), htier, htier]

theorem tiersAgree_of_configured (env : RuleEnv) (hconfigured : ttl.Configured) :
    TiersAgree env e d p c := by
  have heligibility : eligibilityTier e = ai.tier ai.reviewedTier := by
    rw [eligibilityTier_eq h, if_pos hconfigured]
  refine ⟨?_, ?_, ?_⟩
  · rw [decisionTier_eq h, heligibility]
  · rw [priorityTier_eq h, heligibility, if_neg fun hunset => hunset.2 hconfigured]
  · rw [channelTier_eq h, heligibility, if_pos (.inr hconfigured)]

theorem tiersAgree_of_idle (env : RuleEnv) (hflight : ¬ ai.InFlight) (hreviewed : ¬ ai.Reviewed) :
    TiersAgree env e d p c := by
  by_cases hcopied : ai.finalizedCopy = true
  · exact tiersAgree_of_copied h env hcopied
  · have htier (reviewed : AiTier) : ai.tier reviewed = .unavailable := by
      rw [AiState.tier, if_neg hcopied, if_neg hflight, if_neg hreviewed]
    refine ⟨?_, ?_, ?_⟩
    · rw [decisionTier_eq h, eligibilityTier_eq h, htier, htier]
    · rw [priorityTier_eq h, eligibilityTier_eq h, htier, htier]
    · rw [channelTier_eq h, eligibilityTier_eq h, htier, htier, ite_self]

theorem not_tiersAgree_of_reviewed (env : RuleEnv) (hcopied : ai.finalizedCopy = false)
    (hconfigured : ¬ ttl.Configured) (hreviewed : ai.Reviewed) : ¬ TiersAgree env e d p c := by
  intro hagree
  have hdecision := hagree.1
  rw [decisionTier_eq h, eligibilityTier_eq h, if_neg hconfigured,
    AiState.tier_reviewed hcopied hreviewed, AiState.tier_reviewed hcopied hreviewed] at hdecision
  exact ai.reviewedTier_ne_unavailable hdecision

theorem not_tiersAgree_of_inFlight (env : RuleEnv) (hcopied : ai.finalizedCopy = false)
    (hconfigured : ¬ ttl.Configured) (hflight : ai.InFlight) : ¬ TiersAgree env e d p c := by
  intro hagree
  have hchannel := hagree.2.2
  rw [channelTier_eq h, eligibilityTier_eq h, if_neg (by simp [hcopied, hconfigured]),
    AiState.tier_inFlight hcopied hflight] at hchannel
  cases hchannel

/-- The four classifiers agree exactly on a finalized copy, under a configured time to live, and
on an insight that is neither in flight nor reviewed. -/
theorem tiers_agree_iff (env : RuleEnv) :
    TiersAgree env e d p c ↔
      ai.finalizedCopy = true ∨ ttl.Configured ∨ ¬ ai.InFlight ∧ ¬ ai.Reviewed := by
  by_cases hcopied : ai.finalizedCopy = true
  · exact iff_of_true (tiersAgree_of_copied h env hcopied) (.inl hcopied)
  · by_cases hconfigured : ttl.Configured
    · exact iff_of_true (tiersAgree_of_configured h env hconfigured) (.inr (.inl hconfigured))
    · have hfresh : ai.finalizedCopy = false := Bool.not_eq_true _ ▸ hcopied
      rw [or_iff_right hcopied, or_iff_right hconfigured]
      constructor
      · intro hagree
        exact ⟨fun hflight => not_tiersAgree_of_inFlight h env hfresh hconfigured hflight hagree,
          fun hreviewed => not_tiersAgree_of_reviewed h env hfresh hconfigured hreviewed hagree⟩
      · intro hidle
        exact tiersAgree_of_idle h env hidle.1 hidle.2

end

def confidentInsight : AiState where
  insightState := some "AI_REVIEWED"
  staleFlag := some false
  confidenceScore := some (9 / 10)
  finalizedCopy := false

def insightEligibility (ruleSet : RuleSet) : Eligibility.EligibilityContext :=
  { behindEligibility with
    governance := { behindEligibility.governance with configRuleSet := ruleSet }
    ai :=
      { aiInsightState := some "AI_REVIEWED"
        aiConfidenceScore := some (9 / 10)
        aiStaleFlag := false
        aiFinalizedCopy := false } }

def insightDecision (ruleSet : RuleSet) : Decision.DecisionContext :=
  { behindDecision with
    governance := { behindDecision.governance with configRuleSet := ruleSet }
    ai :=
      { aiInsightState := some "AI_REVIEWED"
        aiConfidenceScore := some (9 / 10)
        aiStaleFlag := false
        aiFinalizedCopy := false
        aiRecommendedIntervention := none } }

def insightPriority (ruleSet : RuleSet) : Prioritization.PrioritizationContext :=
  { behindPriority with
    configRuleSet := some ruleSet
    aiInsightState := some "AI_REVIEWED"
    aiConfidenceScore := some (9 / 10)
    aiStaleFlag := some false }

def insightChannel (ruleSet : RuleSet) : Channel.ChannelAdvisoryContext where
  governance :=
    { configVersionId := some "2"
      configVersionStatus := "ACTIVE"
      configRuleSet := ruleSet
      executionMode := "SHADOW"
      executionType := "original"
      correlationId := some "c-1"
      causationId := none
      attributionContext := []
      fingerprintContext := none
      idempotencyKey := none }
  operational := { email := none, phoneNumber := none }
  ai :=
    { aiInsightState := some "AI_REVIEWED"
      aiConfidenceScore := some (9 / 10)
      aiStaleFlag := false
      aiFinalizedCopy := false }

theorem insight_presented (ttl : TtlConfig)
    (hrules : Py.get? "ai_insight_ttl_hours" ruleSet = ttl.entry) :
    Presented confidentInsight ttl (insightEligibility ruleSet) (insightDecision ruleSet)
      (insightPriority ruleSet) (insightChannel ruleSet) where
  eligibility := rfl
  decision := rfl
  priority := rfl
  channel := rfl
  eligibilityTtl := hrules
  decisionTtl := hrules
  priorityTtl := hrules
  channelTtl := hrules

def insightEnv : RuleEnv where
  now := 0
  fromIsoformat := fun _ => none
  sha256 := fun s => s

theorem day_tiers_agree :
    TiersAgree insightEnv (insightEligibility [("ai_insight_ttl_hours", .int 24)])
      (insightDecision [("ai_insight_ttl_hours", .int 24)])
      (insightPriority [("ai_insight_ttl_hours", .int 24)])
      (insightChannel [("ai_insight_ttl_hours", .int 24)]) := by
  have hnumber : (Py.Value.int 24).num? ≠ none := by
    intro h
    cases h
  exact (tiers_agree_iff (insight_presented (.hours ⟨.int 24, hnumber⟩) rfl) insightEnv).2
    (.inr (.inl rfl))

/-- Without a time to live the confident insight is confident to the decision engine and to the
prioritization, and unavailable to the two others. -/
theorem unconfigured_tiers_disagree :
    Presented confidentInsight .absent (insightEligibility []) (insightDecision [])
        (insightPriority []) (insightChannel []) ∧
      eligibilityTier (insightEligibility []) = .unavailable ∧
      decisionTier (insightDecision []) = .confident ∧
      priorityTier (insightPriority []) = .confident ∧
      channelTier insightEnv (insightChannel []) = .ok .unavailable ∧
      ¬ TiersAgree insightEnv (insightEligibility []) (insightDecision []) (insightPriority [])
        (insightChannel []) := by
  have hpresented : Presented confidentInsight .absent (insightEligibility []) (insightDecision [])
      (insightPriority []) (insightChannel []) := insight_presented .absent rfl
  have hreviewed : confidentInsight.Reviewed := rfl
  refine ⟨hpresented, ?_, ?_, ?_, ?_,
    not_tiersAgree_of_reviewed hpresented insightEnv rfl Bool.false_ne_true hreviewed⟩
  · rw [eligibilityTier_eq hpresented, AiState.tier_reviewed rfl hreviewed]
    rfl
  · rw [decisionTier_eq hpresented, AiState.tier_reviewed rfl hreviewed]
    decide +kernel
  · rw [priorityTier_eq hpresented, AiState.tier_reviewed rfl hreviewed]
    decide +kernel
  · rw [channelTier_eq hpresented]
    rfl

end StudentSuccess
