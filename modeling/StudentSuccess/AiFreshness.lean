import StudentSuccess.AiOrchestration

namespace StudentSuccess
namespace AiOrchestration
set_option autoImplicit true

def ttlVal (ctx : AIOrchestrationContext) : Py.Value :=
  threshold (resolveAiThresholds (ctx.configRuleSet.getD [])).1 kAiInsightTtlHours

def insightAge (env : RuleEnv) (ctx : AIOrchestrationContext) : Rat :=
  computeInsightAgeHours env ctx.aiGeneratedAt

/-- The insight is taken for a fresh one: it is served with full advice, or may be copied. -/
def Served (a : AIAssessment) : Prop :=
  a.aiGovernanceTier = .confident ∨ a.eligibleForSnapshot = true

section
variable {env : RuleEnv} {keys : List String} {ctx : AIOrchestrationContext} {a : AIAssessment}

theorem insightAge_read {text : String} {t : Py.DateTime} (htext : ctx.aiGeneratedAt = some text)
    (hne : text ≠ "") (hread : fromIsoformatZ env text = .ok t) :
    insightAge env ctx = max 0 (((env.now - t.utc : Int) : Rat) / Py.microsPerHour) := by
  simp only [insightAge, computeInsightAgeHours, htext, if_neg hne, hread]

/-- The timestamp is not there, or is not one that is read. -/
def Undated (env : RuleEnv) (ctx : AIOrchestrationContext) : Prop :=
  ∀ text, ctx.aiGeneratedAt = some text → text = "" ∨ ∃ e, fromIsoformatZ env text = .error e

theorem insightAge_undated (h : Undated env ctx) : insightAge env ctx = 0 := by
  simp only [insightAge, computeInsightAgeHours]
  cases htext : ctx.aiGeneratedAt with
  | none => rfl
  | some text =>
    obtain rfl | ⟨e, hread⟩ := h text htext
    · rfl
    · simp only [hread, ite_self]

/-- The rules before RULE 5 let the insight through. -/
structure Reviewed (keys : List String) (ctx : AIOrchestrationContext) : Prop where
  gate : governancePreconditionGate keys ctx = []
  draft : ctx.aiFinalizedCopy = false
  original : isReplayType ctx.executionType = false
  present : ctx.aiInsightId.isSome = true
  state : ctx.aiInsightState = some "AI_REVIEWED"

theorem unavailable_not_served {codes rulePath : List String} {bindings : RuleSet}
    {cause : String} : ¬ Served (makeUnavailableAssessment ctx codes rulePath bindings cause) := by
  rintro (h | h) <;> cases h

theorem replay_not_served {codes rulePath : List String} {bindings : RuleSet} {source : String} :
    ¬ Served (makeReplayAssessment ctx codes rulePath bindings source) := by
  rintro (h | h)
  · simp only [makeReplayAssessment] at h
    split_ifs at h
  · cases h

/-- What RULES 8 to 11 make of the insight, in the context of the run. -/
def concluded (env : RuleEnv) (ctx : AIOrchestrationContext) (found : Staleness) : AIAssessment :=
  let (bindings, missingKeys) := resolveAiThresholds (ctx.configRuleSet.getD [])
  conclude ctx bindings missingKeys (missingKeys.map thresholdMissingFlag) (insightAge env ctx)
    (classifyTier (insightAge env ctx) ctx.aiConfidenceScore found)

/-- Only an insight that comes to RULE 8 is served. -/
theorem served_cases (h : (assessAiOrchestration env keys ctx).2 = .ok a) (hserved : Served a) :
    Reviewed keys ctx ∧
      ∃ found, staleness (insightAge env ctx) (ttlVal ctx) = .ok found ∧
        a = concluded env ctx found := by
  rw [assessAiOrchestration] at h
  match hgate : governancePreconditionGate keys ctx with
  | code :: codes =>
    simp only [hgate, Except.ok.injEq] at h
    subst h
    rcases hserved with h | h <;> cases h
  | [] =>
    simp only [hgate] at h
    rw [evaluate] at h
    split_ifs at h with hcopy hreplay hflight habsent hstate
    · cases h
      rcases hserved with h | h <;> cases h
    · cases h
      exact absurd hserved replay_not_served
    · cases h
      rcases hserved with h | h <;> cases h
    · cases h
      exact absurd hserved unavailable_not_served
    · cases h
      exact absurd hserved unavailable_not_served
    · obtain ⟨found, hfound, h⟩ := Py.bind_eq_ok.1 h
      cases h
      refine ⟨⟨hgate, by simpa using hcopy, by simpa using hreplay, ?_, not_not.1 hstate⟩,
        found, hfound, rfl⟩
      exact Option.isSome_iff_ne_none.2 fun hnone => habsent (by rw [hnone]; rfl)

theorem classifyScore_confident {score : Option Rat} (h : (classifyScore score).tier = .confident) :
    (∃ x, score = some x ∧ confidenceHighFloor ≤ x) ∧ (classifyScore score).staleFlag = false := by
  match score with
  | none => cases h
  | some x =>
    simp only [classifyScore] at h ⊢
    split_ifs at h ⊢ with hhigh
    exact ⟨⟨x, rfl, hhigh⟩, rfl⟩

/-- A confident insight has not been found past its TTL. -/
theorem classifyTier_confident {age : Rat} {score : Option Rat} {found : Staleness}
    (h : (classifyTier age score found).tier = .confident) :
    (classifyTier age score found).staleFlag = false ∧ (∀ ttl, found ≠ .past ttl) ∧
      ∃ x, score = some x ∧ confidenceHighFloor ≤ x := by
  cases found with
  | current =>
    obtain ⟨hscore, hflag⟩ := classifyScore_confident h
    exact ⟨hflag, nofun, hscore⟩
  | past ttl => cases h
  | invalid =>
    obtain ⟨hscore, hflag⟩ := classifyScore_confident h
    exact ⟨hflag, nofun, hscore⟩

section
variable {bindings : RuleSet} {missingKeys codes : List String} {age : Rat} {c : Classification}

theorem conclude_served (h : Served (conclude ctx bindings missingKeys codes age c)) :
    ctx.circuitBreakerState ≠ "OPEN" ∧ c.tier = .confident := by
  by_cases hopen : ctx.circuitBreakerState = "OPEN"
  · simp only [conclude, if_pos hopen] at h
    exact absurd h unavailable_not_served
  · simp only [conclude, if_neg hopen, Served] at h
    refine ⟨hopen, h.elim id fun heligible => ?_⟩
    simp only [eligibleForSnapshot, Bool.and_eq_true, beq_iff_eq] at heligible
    exact heligible.1.1.1.1.1.1

theorem conclude_staleFlag (h : ctx.circuitBreakerState ≠ "OPEN") :
    (conclude ctx bindings missingKeys codes age c).staleFlag = c.staleFlag := by
  simp only [conclude, if_neg h]

theorem conclude_degraded (h : ctx.circuitBreakerState ≠ "OPEN") {key : String}
    (hkey : key ∈ missingKeys) :
    (conclude ctx bindings missingKeys codes age c).degraded = true := by
  simp only [conclude, if_neg h, Bool.or_eq_true, Bool.not_eq_true']
  exact .inr (List.isEmpty_eq_false_iff_exists_mem.2 ⟨key, hkey⟩)

/-- No code that came up on the way is lost. -/
theorem conclude_codes (h : ctx.circuitBreakerState ≠ "OPEN") {code : String}
    (hcode : code ∈ codes ∨ code ∈ c.codes) :
    code ∈ (conclude ctx bindings missingKeys codes age c).reasonCodes := by
  simp only [conclude, if_neg h, makeAssessment, tierCodes, List.mem_append]
  exact .inl (hcode.imp_right .inl)

end

/-- The TTL that the age is compared with: the one that is bound, as a number. -/
def TtlBound (ctx : AIOrchestrationContext) (ttl : Py.Float) : Prop :=
  isUnknownV0 (ttlVal ctx) = false ∧ Py.toFloat (ttlVal ctx) = .ok ttl

/-- A TTL is bound, but it is not a number. -/
def TtlMalformed (ctx : AIOrchestrationContext) : Prop :=
  isUnknownV0 (ttlVal ctx) = false ∧ ∀ ttl, Py.toFloat (ttlVal ctx) ≠ .ok ttl

theorem staleness_bound {ttl : Py.Float} {found : Staleness} (hbound : TtlBound ctx ttl)
    (h : staleness (insightAge env ctx) (ttlVal ctx) = .ok found)
    (hfound : ∀ ttl, found ≠ .past ttl) : Py.gtFloat (insightAge env ctx) ttl = false := by
  simp only [staleness, hbound.1, hbound.2, Bool.false_eq_true, if_false, Except.ok.injEq] at h
  by_contra hpast
  rw [Bool.not_eq_false] at hpast
  rw [if_pos hpast] at h
  exact hfound ttl h.symm

theorem staleness_malformed {found : Staleness} (hbound : TtlMalformed ctx)
    (h : staleness (insightAge env ctx) (ttlVal ctx) = .ok found) : found = .invalid := by
  simp only [staleness, hbound.1, Bool.false_eq_true, if_false] at h
  match hfloat : Py.toFloat (ttlVal ctx) with
  | .ok ttl => exact absurd hfloat (hbound.2 ttl)
  | .error e =>
    rw [hfloat] at h
    cases e <;> cases h <;> rfl

theorem ttlVal_eq (ctx : AIOrchestrationContext) :
    ttlVal ctx =
      (resolveThreshold resolved (ctx.configRuleSet.getD []) kAiInsightTtlHours).getD unknownV0 :=
  threshold_of_mem resolved (.head _) _

theorem resolveThreshold_resolved {ruleSet : RuleSet} {key : String} {v : Py.Value}
    (h : resolveThreshold resolved ruleSet key = some v) : isUnknownV0 v = false := by
  rw [resolveThreshold] at h
  cases hget : Py.get? key ruleSet with
  | none =>
    simp only [hget] at h
    cases h
  | some w =>
    simp only [hget, resolved] at h
    cases hw : isUnknownV0 w with
    | true => simp [hw] at h
    | false =>
      simp only [hw, Bool.not_false, if_true, Option.some.injEq] at h
      rwa [← h]

theorem ttl_missing (h : isUnknownV0 (ttlVal ctx) = true) :
    kAiInsightTtlHours ∈ (resolveAiThresholds (ctx.configRuleSet.getD [])).2 := by
  rw [resolveAiThresholds, missingThresholdKeys, List.mem_filter]
  refine ⟨.head _, ?_⟩
  rw [ttlVal_eq] at h
  cases hv : resolveThreshold resolved (ctx.configRuleSet.getD []) kAiInsightTtlHours with
  | none => rfl
  | some v =>
    rw [hv, Option.getD_some, resolveThreshold_resolved hv] at h
    cases h

theorem assess_reviewed {found : Staleness} (h : Reviewed keys ctx)
    (hfound : staleness (insightAge env ctx) (ttlVal ctx) = .ok found) :
    (assessAiOrchestration env keys ctx).2 = .ok (concluded env ctx found) := by
  have hflight : ¬ (ctx.aiInsightState.any inFlightStates.contains) = true := by
    rw [h.state]
    decide
  have hpresent : ¬ ctx.aiInsightId.isNone = true := by
    rw [Option.isNone_iff_eq_none]
    exact Option.isSome_iff_ne_none.1 h.present
  rw [assessAiOrchestration]
  simp only [h.gate]
  rw [evaluate, if_neg (by rw [h.draft]; exact Bool.false_ne_true)]
  dsimp only
  rw [if_neg (by rw [h.original]; exact Bool.false_ne_true), if_neg hflight, if_neg hpresent,
    if_neg (not_not_intro h.state)]
  exact Py.bind_eq_ok.2 ⟨found, hfound, rfl⟩

/-- An insight is served exactly when it comes to RULE 8, has not been found past a TTL and has a
high score, and the provider is not shut off. -/
theorem served_iff (env : RuleEnv) (keys : List String) (ctx : AIOrchestrationContext) :
    (∃ a, (assessAiOrchestration env keys ctx).2 = .ok a ∧ Served a) ↔
      Reviewed keys ctx ∧ ctx.circuitBreakerState ≠ "OPEN" ∧
        (∃ found, staleness (insightAge env ctx) (ttlVal ctx) = .ok found ∧
          ∀ ttl, found ≠ .past ttl) ∧
        ∃ score, ctx.aiConfidenceScore = some score ∧ confidenceHighFloor ≤ score := by
  constructor
  · rintro ⟨a, h, hserved⟩
    obtain ⟨hreviewed, found, hfound, rfl⟩ := served_cases h hserved
    obtain ⟨hclosed, hconfident⟩ := conclude_served hserved
    obtain ⟨-, hnot, hscore⟩ := classifyTier_confident hconfident
    exact ⟨hreviewed, hclosed, ⟨found, hfound, hnot⟩, hscore⟩
  · rintro ⟨hreviewed, hclosed, ⟨found, hfound, hnot⟩, score, hscore, hhigh⟩
    refine ⟨_, assess_reviewed hreviewed hfound, .inl ?_⟩
    have htier : (classifyTier (insightAge env ctx) ctx.aiConfidenceScore found).tier =
        .confident := by
      cases found with
      | current => simp only [classifyTier, classifyScore, hscore, if_pos hhigh]
      | past ttl => exact absurd rfl (hnot ttl)
      | invalid => simp only [classifyTier, classifyScore, hscore, if_pos hhigh]
    simp only [concluded, conclude, if_neg hclosed]
    exact htier

/-- The insight is fresh as far as the code can tell, and says what it could not tell. -/
structure Justified (env : RuleEnv) (ctx : AIOrchestrationContext) (a : AIAssessment) : Prop where
  unmarked : a.staleFlag = false
  within : ∀ ttl, TtlBound ctx ttl → Py.gtFloat (insightAge env ctx) ttl = false
  dated : ∀ text t hours, ctx.aiGeneratedAt = some text → text ≠ "" →
    fromIsoformatZ env text = .ok t → TtlBound ctx (.fin hours) →
    ((env.now - t.utc : Int) : Rat) / Py.microsPerHour ≤ hours
  undated : Undated env ctx → insightAge env ctx = 0
  missing : isUnknownV0 (ttlVal ctx) = true →
    a.degraded = true ∧ thresholdMissingFlag kAiInsightTtlHours ∈ a.reasonCodes
  malformed : TtlMalformed ctx → "CONFIG_THRESHOLD_INVALID_AI_INSIGHT_TTL_HOURS" ∈ a.reasonCodes

/-- An insight is served with full advice, or may be copied, only if it is not past its TTL. -/
theorem served_justified (env : RuleEnv) (keys : List String) (ctx : AIOrchestrationContext)
    (a : AIAssessment) (h : (assessAiOrchestration env keys ctx).2 = .ok a)
    (hserved : Served a) : Justified env ctx a := by
  obtain ⟨-, found, hfound, rfl⟩ := served_cases h hserved
  obtain ⟨hclosed, hconfident⟩ := conclude_served hserved
  obtain ⟨hunmarked, hnot, -⟩ := classifyTier_confident hconfident
  have hwithin : ∀ ttl, TtlBound ctx ttl → Py.gtFloat (insightAge env ctx) ttl = false :=
    fun ttl hbound => staleness_bound hbound hfound hnot
  refine ⟨?_, hwithin, ?_, insightAge_undated, ?_, ?_⟩
  · exact (conclude_staleFlag hclosed).trans hunmarked
  · intro text t hours htext hne hread hbound
    have hage := hwithin _ hbound
    rw [insightAge_read htext hne hread, Py.gtFloat, decide_eq_false_iff_not, not_lt] at hage
    exact (le_max_right _ _).trans hage
  · intro hunbound
    have hkey := ttl_missing hunbound
    exact ⟨conclude_degraded hclosed hkey,
      conclude_codes hclosed (.inl (List.mem_map_of_mem hkey))⟩
  · intro hmalformed
    cases staleness_malformed hmalformed hfound
    exact conclude_codes hclosed (.inr (.head _))

end

/-- The insight is fresh: its TTL is a number, nobody has marked it stale, and it has a date that
is read and is within the TTL. -/
structure Fresh (env : RuleEnv) (ctx : AIOrchestrationContext) : Prop where
  unmarked : ctx.aiStaleFlag = false
  within : ∃ text t hours, ctx.aiGeneratedAt = some text ∧ text ≠ "" ∧
    fromIsoformatZ env text = .ok t ∧ TtlBound ctx (.fin hours) ∧
    ((env.now - t.utc : Int) : Rat) / Py.microsPerHour ≤ hours

def newYearInsight (ruleSet : RuleSet) : AIOrchestrationContext where
  configVersionId := some "v1"
  executionMode := "LIVE"
  executionType := "original"
  correlationId := some "c1"
  configRuleSet := some ruleSet
  originSource := some "worker"
  originAuthority := some "platform"
  actorIdentity := some "system"
  aiInsightId := some "i1"
  aiInsightState := some "AI_REVIEWED"
  aiGeneratedAt := some "2026-01-01T00:00:00+00:00"
  aiConfidenceScore := some (9 / 10)

def newYearEnv (hours : Int) : RuleEnv where
  now := 739616 * 86400000000 + hours * 3600000000
  fromIsoformat s :=
    if s = "2026-01-01T00:00:00+00:00".replace "Z" "+00:00" then
      some (.aware (739616 * 86400000000))
    else none
  sha256 _ := ""

theorem newYearInsight_reviewed (ruleSet : RuleSet) : Reviewed [] (newYearInsight ruleSet) where
  gate := rfl
  draft := rfl
  original := rfl
  present := rfl
  state := rfl

theorem newYearEnv_reads (hours : Int) :
    fromIsoformatZ (newYearEnv hours) "2026-01-01T00:00:00+00:00" =
      .ok (.aware (739616 * 86400000000)) := by
  have hread : (newYearEnv hours).fromIsoformat
      ("2026-01-01T00:00:00+00:00".replace "Z" "+00:00") =
      some (.aware (739616 * 86400000000)) := if_pos rfl
  rw [fromIsoformatZ, hread]

/-- Two days on and with no TTL, the insight is served. -/
theorem unbound_ttl_served :
    (∃ a, (assessAiOrchestration (newYearEnv 48) [] (newYearInsight [])).2 = .ok a ∧
      a.aiGovernanceTier = .confident ∧ a.eligibleForSnapshot = true) ∧
    ¬ Fresh (newYearEnv 48) (newYearInsight []) := by
  refine ⟨⟨_, assess_reviewed (newYearInsight_reviewed []) rfl, ?_, ?_⟩, ?_⟩
  · decide +kernel
  · decide +kernel
  · rintro ⟨-, _, _, _, -, -, -, hbound, -⟩
    cases hbound.1

theorem newYearInsight_current :
    staleness (insightAge (newYearEnv 1) (newYearInsight [(kAiInsightTtlHours, .int 24)]))
      (ttlVal (newYearInsight [(kAiInsightTtlHours, .int 24)])) = .ok .current := by
  have hfloat : Py.toFloat (ttlVal (newYearInsight [(kAiInsightTtlHours, .int 24)])) =
      .ok (.fin 24) := by
    decide +kernel
  have hage : max 0 ((((newYearEnv 1).now - (Py.DateTime.aware (739616 * 86400000000)).utc : Int) :
      Rat) / Py.microsPerHour) = 1 := by
    decide +kernel
  have hyoung : Py.gtFloat 1 (.fin 24) = false := by
    decide +kernel
  rw [insightAge_read rfl (by decide) (newYearEnv_reads 1), hage, staleness, hfloat]
  simp only [hyoung]
  rfl

theorem served_justified_young :
    ∃ a, (assessAiOrchestration (newYearEnv 1) []
        (newYearInsight [(kAiInsightTtlHours, .int 24)])).2 = .ok a ∧ Served a ∧
      Justified (newYearEnv 1) (newYearInsight [(kAiInsightTtlHours, .int 24)]) a := by
  have hassessed := assess_reviewed (newYearInsight_reviewed _) newYearInsight_current
  have hserved : Served (concluded (newYearEnv 1)
      (newYearInsight [(kAiInsightTtlHours, .int 24)]) .current) := .inl (by decide +kernel)
  exact ⟨_, hassessed, hserved, served_justified _ _ _ _ hassessed hserved⟩

end AiOrchestration
end StudentSuccess
