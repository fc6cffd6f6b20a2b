import StudentSuccess.AiAdvisory

namespace StudentSuccess
namespace Prioritization
set_option autoImplicit true

/-- The high and the medium factors that the student's own signals make. -/
def signalTally (ctx : PrioritizationContext) : Tally := riskTally above ctx.signals (bounds ctx)

def PrioritizationContext.withoutRecommendation (ctx : PrioritizationContext) :
    PrioritizationContext :=
  { ctx with aiRecommendedIntervention := none }

/-- The priority is the base itself, or the level right above it. -/
def AtMostOneUp (base priority : Priority) : Prop :=
  priority = base ∨ priority.rank = base.rank + 1

instance : Decidable (AtMostOneUp base priority) := inferInstanceAs (Decidable (_ ∨ _))

/-- RULES 3 to 10 are reached. -/
def Evaluated (keys : List String) (ctx : PrioritizationContext) : Prop :=
  governancePreconditionGate keys ctx = [] ∧ ctx.maintenanceModeActive = false ∧
    isReplayType ctx.executionType = false

instance : Decidable (Evaluated keys ctx) := inferInstanceAs (Decidable (_ ∧ _ ∧ _))

section
variable {keys : List String} {ctx : PrioritizationContext}

theorem raiseLevel_fst (priority : Priority) (code : String) :
    (raiseLevel priority code).1 = priority.upgrade := by
  cases priority <;> rfl

/-- An execution that is neither blocked nor suspended nor a replay, and that waits for no insight,
reports the adjusted base priority. -/
theorem assess_scored (h : Evaluated keys ctx)
    (hflight : ¬ (classifyAiTier ctx (bindings ctx) = .inFlight ∧ ctx.executionType = "original")) :
    (assessOrchestrationPriority keys ctx).2.advisoryPriority =
      (applyAiAdjustment (basePriority ctx (classifyAiTier ctx (bindings ctx)))
        (classifyAiTier ctx (bindings ctx)) ctx.aiRecommendedIntervention).1 := by
  obtain ⟨hgate, hactive, hreplay⟩ := h
  rw [assessOrchestrationPriority, if_neg (not_not_intro hgate), if_neg (by simp [hactive]),
    if_neg (by simp [hreplay])]
  exact congrArg PrioritizationRecord.advisoryPriority (if_neg hflight)

theorem assess_deferred (h : Evaluated keys ctx)
    (hflight : classifyAiTier ctx (bindings ctx) = .inFlight ∧ ctx.executionType = "original") :
    (assessOrchestrationPriority keys ctx).2.advisoryPriority = .unknown := by
  obtain ⟨hgate, hactive, hreplay⟩ := h
  rw [assessOrchestrationPriority, if_neg (not_not_intro hgate), if_neg (by simp [hactive]),
    if_neg (by simp [hreplay])]
  exact congrArg PrioritizationRecord.advisoryPriority (if_pos hflight)

/-- Nothing but an evaluation settles a priority. -/
theorem assess_unevaluated (h : ¬ Evaluated keys ctx) :
    (assessOrchestrationPriority keys ctx).2.advisoryPriority = .unknown := by
  unfold assessOrchestrationPriority
  dsimp only
  split_ifs with hgate hactive hreplay hreplay
  · rfl
  · rfl
  · rfl
  · rfl
  · exact absurd ⟨not_not.1 hgate, Bool.not_eq_true _ ▸ hactive, Bool.not_eq_true _ ▸ hreplay⟩ h

/-- An advisory signal to escalate is a medium contribution and a step up. -/
theorem advisory_escalation (h : Evaluated keys ctx)
    (htier : classifyAiTier ctx (bindings ctx) = .advisory)
    (hescalate : ctx.aiRecommendedIntervention = some "ESCALATE") :
    (assessOrchestrationPriority keys ctx).2.advisoryPriority =
      (signalTally ctx + ⟨0, 1⟩).level.upgrade := by
  have htally : scoredTally (aiFactor ctx .advisory) = ⟨0, 1⟩ := by
    rw [aiFactor, if_pos hescalate]
    rfl
  rw [assess_scored h (by simp [htier]), htier, basePriority_level, htally, hescalate]
  exact raiseLevel_fst _ _

theorem advisory_other (h : Evaluated keys ctx)
    (htier : classifyAiTier ctx (bindings ctx) = .advisory)
    (hother : ctx.aiRecommendedIntervention ≠ some "ESCALATE") :
    (assessOrchestrationPriority keys ctx).2.advisoryPriority = (signalTally ctx).level := by
  have htally : scoredTally (aiFactor ctx .advisory) = 0 := by
    rw [aiFactor, if_neg hother]
    rfl
  rw [assess_scored h (by simp [htier]), htier, basePriority_level, htally]
  exact congrArg Prod.fst (if_neg hother)

theorem advisory_withoutRecommendation (h : Evaluated keys ctx)
    (htier : classifyAiTier ctx (bindings ctx) = .advisory) :
    (assessOrchestrationPriority keys ctx.withoutRecommendation).2.advisoryPriority =
      (signalTally ctx).level := by
  have hwithout : Evaluated keys ctx.withoutRecommendation := h
  have htier' : classifyAiTier ctx.withoutRecommendation (bindings ctx.withoutRecommendation) =
      .advisory := htier
  exact advisory_other hwithout htier' (by simp [PrioritizationContext.withoutRecommendation])

/-- Two steps up from a level come to at most one exactly at the top. -/
theorem atMostOneUp_upgrade (tally : Tally) :
    AtMostOneUp tally.level (tally + ⟨0, 1⟩).level.upgrade ↔ 2 ≤ tally.high ∨ 1 ≤ tally.med := by
  rw [Tally.level_add_med]
  obtain ⟨high, med⟩ := tally
  by_cases hlow : high ≤ 1 ∧ med = 0
  · obtain ⟨hhigh, rfl⟩ := hlow
    rw [if_pos ⟨hhigh, rfl, Nat.one_pos⟩]
    rcases Nat.le_one_iff_eq_zero_or_eq_one.1 hhigh with rfl | rfl
    · decide
    · decide
  · rw [if_neg fun h => hlow ⟨h.1, h.2.1⟩]
    refine iff_of_true ?_ (by dsimp only; omega)
    cases (⟨high, med⟩ : Tally).level <;> decide

/-- An advisory signal moves the priority by at most one level, unless it is to escalate, the
execution is evaluated, and the student's own signals make no medium factor and at most one high
one. -/
theorem advisory_moves_one_level_iff (keys : List String) (ctx : PrioritizationContext)
    (htier : classifyAiTier ctx (bindings ctx) = .advisory) :
    AtMostOneUp (assessOrchestrationPriority keys ctx.withoutRecommendation).2.advisoryPriority
        (assessOrchestrationPriority keys ctx).2.advisoryPriority ↔
      ¬ Evaluated keys ctx ∨ ctx.aiRecommendedIntervention ≠ some "ESCALATE" ∨
        2 ≤ (signalTally ctx).high ∨ 1 ≤ (signalTally ctx).med := by
  by_cases hevaluated : Evaluated keys ctx
  · rw [advisory_withoutRecommendation hevaluated htier]
    by_cases hescalate : ctx.aiRecommendedIntervention = some "ESCALATE"
    · rw [advisory_escalation hevaluated htier hescalate, atMostOneUp_upgrade]
      simp [hevaluated, hescalate]
    · rw [advisory_other hevaluated htier hescalate]
      exact iff_of_true (.inl rfl) (.inr (.inl hescalate))
  · have hwithout : ¬ Evaluated keys ctx.withoutRecommendation := hevaluated
    rw [assess_unevaluated hevaluated, assess_unevaluated hwithout]
    exact iff_of_true (.inl rfl) (.inl hevaluated)

end

/-- A student without any risk, on whom a doubtful insight asks to escalate. -/
def calmContext : PrioritizationContext where
  configVersionId := some "v1"
  executionMode := "SHADOW"
  executionType := "original"
  correlationId := some "c-1"
  configRuleSet := some [("ai_insight_ttl_hours", .int 24)]
  originSource := some "scheduler"
  originAuthority := some "platform"
  actorIdentity := some "worker"
  aiInsightState := some "AI_REVIEWED"
  aiConfidenceScore := some (1 / 2)
  aiRecommendedIntervention := some "ESCALATE"
  aiStaleFlag := some false

theorem calmContext_evaluated : Evaluated [] calmContext := by
  decide

theorem calmContext_advisory : classifyAiTier calmContext (bindings calmContext) = .advisory := by
  decide +kernel

/-- The advisory signal takes the student from low to high. -/
theorem advisory_signal_moves_two_levels :
    calmContext.executionType = "original" ∧
      classifyAiTier calmContext (bindings calmContext) = .advisory ∧
      (assessOrchestrationPriority [] calmContext.withoutRecommendation).2.advisoryPriority =
        .low ∧
      (assessOrchestrationPriority [] calmContext).2.advisoryPriority = .high ∧
      ¬ AtMostOneUp
        (assessOrchestrationPriority [] calmContext.withoutRecommendation).2.advisoryPriority
        (assessOrchestrationPriority [] calmContext).2.advisoryPriority := by
  have hlow := advisory_withoutRecommendation calmContext_evaluated calmContext_advisory
  have hhigh := advisory_escalation calmContext_evaluated calmContext_advisory rfl
  refine ⟨rfl, calmContext_advisory, hlow, hhigh, ?_⟩
  rw [hlow, hhigh]
  decide

theorem advisory_moves_one_level_iff_calm :
    AtMostOneUp
        (assessOrchestrationPriority [] calmContext.withoutRecommendation).2.advisoryPriority
        (assessOrchestrationPriority [] calmContext).2.advisoryPriority ↔
      ¬ Evaluated [] calmContext ∨ calmContext.aiRecommendedIntervention ≠ some "ESCALATE" ∨
        2 ≤ (signalTally calmContext).high ∨ 1 ≤ (signalTally calmContext).med :=
  advisory_moves_one_level_iff [] calmContext calmContext_advisory

end Prioritization
end StudentSuccess
