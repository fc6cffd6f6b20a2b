import StudentSuccess.Repository
import StudentSuccess.Platform
import StudentSuccess.Runs

namespace StudentSuccess
namespace Repository
set_option autoImplicit true

/-- A row of `ai_insights` with all its columns. -/
structure Insight extends AIInsight where
  contentJson : Option (List (String × Py.Value))
  modelUsed : Option String
  finalizedAt : Option Instant
  correlationId : Option String
  causationId : Option String
  configVersionId : Option String
  executionMode : String
  executionType : String
  governanceScope : String
  originSource : Option String
  originAuthority : Option String
  isReplay : Bool
  expiresAt : Option Instant

def Insight.finalize (insight : Insight) (now : Instant) : Insight :=
  { insight with isFinalized := true, finalizedAt := some now }

def protectFinalizedAiInsight (now : Instant) (insight : Insight)
    (attribution : AttributionFields) : Insight × PersistenceRecord :=
  let blockingCodes := governancePersistenceGate attribution none [] insight.isFinalized false
  if blockingCodes ≠ [] then
    (insight,
      makePersistenceRecord attribution "ai_insight_finalize_protected" "ai_insights"
        "finalized_artifact" true blockingCodes blockingCodes.head? "finalized_protected"
        (some insight.id) none ["RULE_0_GOVERNANCE_GATE"])
  else
    (insight.finalize now,
      makePersistenceRecord attribution "ai_insight_finalized" "ai_insights"
        "finalized_artifact" false [] none "success" (some insight.id) none
        ["RULE_0_GOVERNANCE_GATE", "RULE_1_FINALIZE_MARK"])

def Accepted (attribution : AttributionFields) : Prop := checkAttributionFields attribution = []

instance : DecidablePred Accepted := fun attribution =>
  inferInstanceAs (Decidable (checkAttributionFields attribution = []))

/-- What finalizing an insight is to do and to report. -/
structure FinalizesOnce (now : Instant) (insight : Insight) (attribution : AttributionFields) :
    Prop where
  kept : insight.isFinalized = true →
    (protectFinalizedAiInsight now insight attribution).1 = insight
  reported : (protectFinalizedAiInsight now insight attribution).2.outcome = "finalized_protected" ↔
    insight.isFinalized = true
  marked : insight.isFinalized = false →
    ((protectFinalizedAiInsight now insight attribution).1.isFinalized = true ↔
      Accepted attribution)

section
variable {insight : Insight} {attribution : AttributionFields}

theorem gate_insight_eq_nil_iff (attribution : AttributionFields) (isFinalized : Bool) :
    governancePersistenceGate attribution none [] isFinalized false = [] ↔
      isFinalized = false ∧ Accepted attribution := by
  cases isFinalized with
  | false => rw [gate_no_key, Accepted, eq_self_iff_true, true_and]
  | true => simp [governancePersistenceGate, checkFinalizedProtection]

theorem protect_accepted (now : Instant) (hopen : insight.isFinalized = false)
    (h : Accepted attribution) :
    (protectFinalizedAiInsight now insight attribution).1 = insight.finalize now ∧
      (protectFinalizedAiInsight now insight attribution).2.outcome = "success" := by
  have hgate := (gate_insight_eq_nil_iff attribution insight.isFinalized).2 ⟨hopen, h⟩
  rw [protectFinalizedAiInsight, if_neg (not_not_intro hgate)]
  exact ⟨rfl, rfl⟩

/-- Whatever the gate refuses for, the insight is as it was and the outcome is the same. -/
theorem protect_refused (now : Instant)
    (h : ¬ (insight.isFinalized = false ∧ Accepted attribution)) :
    (protectFinalizedAiInsight now insight attribution).1 = insight ∧
      (protectFinalizedAiInsight now insight attribution).2.outcome = "finalized_protected" := by
  have hgate := mt (gate_insight_eq_nil_iff attribution insight.isFinalized).1 h
  rw [protectFinalizedAiInsight, if_pos hgate]
  exact ⟨rfl, rfl⟩

theorem protect_finalized (h : insight.isFinalized = true) (now : Instant)
    (attribution : AttributionFields) :
    (protectFinalizedAiInsight now insight attribution).1 = insight ∧
      (protectFinalizedAiInsight now insight attribution).2.outcome = "finalized_protected" := by
  apply protect_refused now
  intro hopen
  cases h.symm.trans hopen.1

/-- Finalizing does and reports what it is to, unless an insight that is not yet finalized comes
with an attribution that the gate refuses. -/
theorem finalizesOnce_iff (now : Instant) (insight : Insight) (attribution : AttributionFields) :
    FinalizesOnce now insight attribution ↔ insight.isFinalized = true ∨ Accepted attribution := by
  cases hfinal : insight.isFinalized with
  | true =>
    have hprotected := protect_finalized hfinal now attribution
    refine iff_of_true ⟨fun _ => hprotected.1, iff_of_true hprotected.2 hfinal, ?_⟩ (.inl rfl)
    intro hopen
    cases hfinal.symm.trans hopen
  | false =>
    by_cases haccepted : Accepted attribution
    · obtain ⟨hmarked, houtcome⟩ := protect_accepted now hfinal haccepted
      refine iff_of_true ⟨?_, ?_, ?_⟩ (.inr haccepted)
      · intro h
        cases hfinal.symm.trans h
      · rw [houtcome, hfinal]
        decide
      · intro _
        rw [hmarked]
        exact iff_of_true rfl haccepted
    · have hclosed : ¬ (insight.isFinalized = false ∧ Accepted attribution) :=
        fun h => haccepted h.2
      have hrefused := protect_refused now hclosed
      apply iff_of_false
      · intro h
        have hreported := h.reported.1 hrefused.2
        cases hfinal.symm.trans hreported
      · simp [haccepted]

end

def openInsight : Insight where
  id := 1
  userId := 7
  insightType := "risk_summary"
  contentText := some "text"
  isFinalized := false
  createdAt := 0
  contentJson := none
  modelUsed := none
  finalizedAt := none
  correlationId := none
  causationId := none
  configVersionId := none
  executionMode := "SHADOW"
  executionType := "original"
  governanceScope := "SHADOW_ONLY"
  originSource := none
  originAuthority := none
  isReplay := false
  expiresAt := none

def uncorrelated : AttributionFields where
  correlationId := ""
  executionMode := "SHADOW"
  executionType := "original"
  governanceScope := "SHADOW_ONLY"

/-- An insight that nobody has finalized is reported as protected. -/
theorem uncorrelated_reports_protected :
    openInsight.isFinalized = false ∧
      (protectFinalizedAiInsight 0 openInsight uncorrelated).2.outcome = "finalized_protected" ∧
      (protectFinalizedAiInsight 0 openInsight uncorrelated).1.isFinalized = false ∧
      ¬ FinalizesOnce 0 openInsight uncorrelated := by
  refine ⟨rfl, by decide, by decide, ?_⟩
  intro h
  have hfinal := h.reported.1 (by decide)
  cases hfinal

/-- The insight after one call of `protect_finalized_ai_insight`. -/
def protectStep (insight : Insight) (call : Instant × AttributionFields) : Insight :=
  (protectFinalizedAiInsight call.1 insight call.2).1

theorem protectStep_finalized (h : insight.isFinalized = true)
    (call : Instant × AttributionFields) : protectStep insight call = insight :=
  (protect_finalized h call.1 call.2).1

/-- No run of calls changes a finalized insight. -/
theorem protect_run_finalized (h : insight.isFinalized = true)
    (calls : List (Instant × AttributionFields)) :
    Runs.final protectStep insight calls = insight := by
  induction calls with
  | nil => rfl
  | cons call calls ih =>
    rw [Runs.final_cons, protectStep_finalized h]
    exact ih

/-- A run of calls finalizes an insight at the first one with an accepted attribution. -/
theorem protect_run_open (h : insight.isFinalized = false)
    (calls : List (Instant × AttributionFields)) :
    Runs.final protectStep insight calls =
      match calls.find? fun call => Accepted call.2 with
      | some call => insight.finalize call.1
      | none => insight := by
  induction calls with
  | nil => rfl
  | cons call calls ih =>
    rw [Runs.final_cons, List.find?_cons]
    by_cases haccepted : Accepted call.2
    · rw [protectStep, (protect_accepted call.1 h haccepted).1, decide_eq_true haccepted]
      exact protect_run_finalized rfl calls
    · rw [protectStep, (protect_refused call.1 fun hopen => haccepted hopen.2).1,
        decide_eq_false haccepted]
      exact ih

end Repository
end StudentSuccess
