import StudentSuccess.Eligibility

namespace StudentSuccess
namespace Eligibility
set_option autoImplicit true

open RuleChain

/-- The insight of the student is being generated. -/
def InFlight (ai : AICtx) : Prop :=
  ai.aiFinalizedCopy = false ∧
    (ai.aiInsightState = some "AI_GENERATING" ∨ ai.aiInsightState = some "AI_PENDING")

def Closed (ctx : EligibilityContext) : Prop := ctx.operational.outreachState = some "CLOSED"

def LiveExecution (gov : GovernanceCtx) : Prop :=
  gov.executionMode = "LIVE" ∧ gov.executionType = "original"

theorem assessAiTier_inFlight_iff (ctx : EligibilityContext) :
    (assessAiTier ctx).1 = .inFlight ↔ InFlight ctx.ai := by
  rw [assessAiTier, InFlight]
  cases hcopy : ctx.ai.aiFinalizedCopy with
  | true => simp
  | false =>
    by_cases hstate : ctx.ai.aiInsightState = some "AI_GENERATING" ∨
        ctx.ai.aiInsightState = some "AI_PENDING"
    · simp [hstate]
    · simp only [hstate, and_false, iff_false, Bool.false_eq_true, if_false]
      split_ifs <;> simp

theorem executionType_original (h0 : governancePreconditions gov = [])
    (hreplay : isReplayType gov.executionType = false) : gov.executionType = "original" := by
  have htype : gov.executionType ∈ ["original", "replay", "regeneration"] := by
    by_contra hmem
    simp [governancePreconditions, hmem] at h0
  simp only [List.mem_cons, List.not_mem_nil, or_false] at htype
  rcases htype with h | h | h
  · exact h
  · simp [isReplayType, h] at hreplay
  · simp [isReplayType, h] at hreplay

theorem liveOk_eq_true_iff (h0 : governancePreconditions gov = []) :
    liveOk gov scope = true ↔ scope ∈ eligibleScopes ∧ LiveExecution gov := by
  rw [liveOk, LiveExecution]
  cases hreplay : isReplayType gov.executionType with
  | true =>
    have hne : gov.executionType ≠ "original" := by
      intro h
      simp [isReplayType, h] at hreplay
    simp [hne]
  | false => simp [executionType_original h0 hreplay]

theorem assess_eq_ok_iff (h0 : governancePreconditions ctx.governance = []) :
    assessOrchestrationEligibility env ctx = .ok a ↔
      ∃ e, eval rule12 (rules env ctx) (start ctx) = .ok e ∧ emit env ctx e = a := by
  rw [assessOrchestrationEligibility]
  rw [if_neg (not_not_intro h0)]
  cases eval rule12 (rules env ctx) (start ctx) with
  | error e => simp [Except.map]
  | ok e => simp [Except.map]

theorem rule1_guards (ctx : EligibilityContext) :
    Guards (Closed ctx) (fun _ e => e.evaluation.scope = .none) (·.rule "RULE_1") (rule1 ctx) :=
  guards_of_ite (c := ctx.operational.outreachState = some "CLOSED") (fun _ => rfl) fun _ => rfl

theorem rule2_guards (ctx : EligibilityContext) :
    Guards (ctx.governance.complianceHoldFlag = true)
      (fun _ e => e.evaluation.scope = .escalation) (·.rule "RULE_2") (rule2 ctx) :=
  guards_of_ite (fun _ => rfl) fun _ => rfl

theorem rule4_revoked (h : ctx.academic.accessState = some "REVOKED") (s : Evaluation) :
    ∃ e, rule4 ctx s = .ok (.exit e) ∧ e.evaluation.scope = .escalation :=
  ⟨_, if_pos h, rfl⟩

theorem rule4_open (hrevoked : ctx.academic.accessState ≠ some "REVOKED")
    (hsuspended : ctx.academic.accessState ≠ some "SUSPENDED") (s : Evaluation) :
    rule4 ctx s = .ok (.next (s.rule "RULE_4")) :=
  (if_neg hrevoked).trans (if_neg hsuspended)

theorem rule5_deferred (horiginal : ctx.governance.executionType = "original")
    (h : InFlight ctx.ai) (s : Evaluation) :
    ∃ e, rule5 ctx s = .ok (.exit e) ∧ e.evaluation.scope = .prioritizationOnly :=
  ⟨_, (if_pos ((assessAiTier_inFlight_iff ctx).2 h)).trans (if_pos horiginal), rfl⟩

theorem rule10_original (h : isReplayType ctx.governance.executionType = false)
    (s : Evaluation) : rule10 ctx s = .ok (.next s) := if_neg (by simp [h])

theorem rule11_next (ctx : EligibilityContext) (s : Evaluation) :
    ∃ s', rule11 ctx s = .ok (.next s') ∧ s'.scope = s.scope ∧
      s'.path = s.path ++ ["RULE_11"] := by
  rw [rule11]
  dsimp only
  split_ifs <;> exact ⟨_, rfl, rfl, rfl⟩

/-- The scopes of an assessment that neither escalates nor defers. -/
def contactScopes : List Scope := [.none, .outreach, .retry]

/-- What the evaluation of an original execution carries while no rule has deferred it. -/
structure Undeferred (s : Evaluation) : Prop where
  scope : s.scope ∈ contactScopes
  path : "RULE_5A" ∉ s.path

theorem undeferred_start (ctx : EligibilityContext) : Undeferred (start ctx) := by
  constructor <;> simp [start, contactScopes]

theorem Undeferred.rule (h : Undeferred s) (name : String) (hname : name ≠ "RULE_5A") :
    Undeferred (s.rule name) := by
  obtain ⟨hscope, hpath⟩ := h
  exact ⟨hscope, by simp [Evaluation.rule, hpath, Ne.symm hname]⟩

theorem none_mem_contactScopes : Scope.none ∈ contactScopes := by decide

theorem outreach_mem_contactScopes : Scope.outreach ∈ contactScopes := by decide

theorem retry_mem_contactScopes : Scope.retry ∈ contactScopes := by decide

section Original

variable {env : RuleEnv} {ctx : EligibilityContext}

def Contacts (e : Emission) : Prop := Undeferred e.evaluation

theorem rule6_keeps : Keeps Undeferred Undeferred Contacts (rule6 ctx) := by
  intro s hs
  have hrule := hs.rule "RULE_6" (by decide)
  rw [rule6]
  split_ifs
  · exact ⟨none_mem_contactScopes, hrule.path⟩
  · exact hrule

theorem rule7_keeps : Keeps Undeferred Undeferred Contacts (rule7 env ctx) := by
  intro s hs
  have hrule := hs.rule "RULE_7" (by decide)
  rw [rule7]
  match t ctx kExclWindow, ctx.operational.lastContactTimestamp with
  | some excl, some lastContact =>
    by_cases hempty : lastContact = ""
    · simpa [hempty] using hrule
    · simp only [hempty, if_false]
      match withinWindow env lastContact excl with
      | .ok true => exact ⟨none_mem_contactScopes, hrule.path⟩
      | .ok false => exact hrule
      | .error _ => exact ⟨hrule.scope, hrule.path⟩
  | some _, none => exact hrule
  | none, _ => exact hrule

theorem candidacy_holds (hs : Undeferred s) : Holds Undeferred Contacts (candidacy ctx s) := by
  rw [candidacy]
  dsimp only
  split_ifs
  · have hrule := hs.rule "RULE_8B" (by decide)
    exact ⟨retry_mem_contactScopes, hrule.path⟩
  · have hrule := hs.rule "RULE_8C" (by decide)
    exact ⟨outreach_mem_contactScopes, hrule.path⟩
  · have hrule := hs.rule "RULE_8D" (by decide)
    exact ⟨none_mem_contactScopes, hrule.path⟩

theorem rule8_keeps : Keeps Undeferred Undeferred Contacts (rule8 ctx) := by
  intro s hs
  have hrule := hs.rule "RULE_8" (by decide)
  rw [rule8]
  match attemptsExhausted ctx with
  | .error e => trivial
  | .ok true => exact ⟨none_mem_contactScopes, hrule.path⟩
  | .ok false =>
    show Holds Undeferred Contacts (if _ then _ else _)
    split_ifs
    · exact hrule
    · exact candidacy_holds hrule

theorem rule9_keeps : Keeps Undeferred Undeferred Contacts (rule9 ctx) := by
  intro s hs
  have hrule := hs.rule "RULE_9" (by decide)
  rw [rule9]
  match assessRisk ctx with
  | .error e => trivial
  | .ok risk => exact ⟨hrule.scope, hrule.path⟩

theorem rule11_keeps : Keeps Undeferred Undeferred Contacts (rule11 ctx) := by
  intro s hs
  have hrule := hs.rule "RULE_11" (by decide)
  obtain ⟨s', hs', hscope, hpath⟩ := rule11_next ctx s
  rw [hs']
  exact ⟨hscope ▸ hs.scope, hpath ▸ hrule.path⟩

/-- Past RULE 5 an original execution ends with no contact or with an outreach or a retry. -/
theorem ensures_contacts (horiginal : isReplayType ctx.governance.executionType = false) :
    Ensures rule12 Undeferred Contacts
      [rule6 ctx, rule7 env ctx, rule10 ctx, rule8 ctx, rule9 ctx, rule11 ctx] := by
  have hrule10 : Keeps Undeferred Undeferred Contacts (rule10 ctx) := by
    intro s hs
    rw [rule10_original horiginal]
    exact hs
  apply ensures_of_keeps
  · intro r hr
    simp only [List.mem_cons, List.not_mem_nil, or_false] at hr
    rcases hr with rfl | rfl | rfl | rfl | rfl | rfl
    · exact rule6_keeps
    · exact rule7_keeps
    · exact hrule10
    · exact rule8_keeps
    · exact rule9_keeps
    · exact rule11_keeps
  · intro s hs
    have hrule := hs.rule "RULE_12" (by decide)
    exact ⟨hrule.scope, hrule.path⟩

end Original

/-- RULE 2, RULE 4 or RULE 5A ends a live execution of a case that is not closed. -/
def LiveEscape (ctx : EligibilityContext) : Prop :=
  LiveExecution ctx.governance ∧ ¬ Closed ctx ∧
    (ctx.governance.complianceHoldFlag = true ∨ ctx.academic.accessState = some "REVOKED" ∨
      ctx.academic.accessState ≠ some "SUSPENDED" ∧ InFlight ctx.ai)

/-- Live outreach is permitted for an outreach or retry candidate at most, and under a hold,
without access or while the AI insight is pending not at all. -/
structure PermitsContactOnly (ctx : EligibilityContext)
    (a : OrchestrationEligibilityAssessment) : Prop where
  record : a.liveOutreachPermitted = true → a.eligibilityScope ∈ [.outreach, .retry]
  constraints : a.orchestrationConstraints.liveOutreachPermitted = true →
    a.eligibilityScope ∈ [.outreach, .retry]
  suppressed : ctx.governance.complianceHoldFlag = true ∨
      ctx.academic.accessState = some "REVOKED" ∨ "RULE_5A" ∈ a.rulePathTaken →
    a.liveOutreachPermitted = false ∧ a.orchestrationConstraints.liveOutreachPermitted = false

def escapeScopes : List Scope := [.escalation, .prioritizationOnly]

/-- A live escape ends with a scope that is no contact candidate. -/
theorem LiveEscape.yields (env : RuleEnv) (h : LiveEscape ctx) :
    Yields rule12 (rules env ctx) (start ctx) (fun e => e.evaluation.scope ∈ escapeScopes) := by
  obtain ⟨⟨-, horiginal⟩, hopen, hcause⟩ := h
  rw [rules, yields_next ((rule1_guards _).passes hopen _)]
  cases hhold : ctx.governance.complianceHoldFlag with
  | true =>
    obtain ⟨e, he, hscope⟩ := (rule2_guards _).exits hhold ((start ctx).rule "RULE_1")
    rw [yields_exit he, hscope]
    decide
  | false =>
    rw [yields_next ((rule2_guards _).passes (ne_true_of_eq_false hhold) _)]
    by_cases hrevoked : ctx.academic.accessState = some "REVOKED"
    · obtain ⟨e, he, hscope⟩ := rule4_revoked hrevoked (((start ctx).rule "RULE_1").rule "RULE_2")
      rw [yields_exit he, hscope]
      decide
    · have hpending : ctx.academic.accessState ≠ some "SUSPENDED" ∧ InFlight ctx.ai := by
        rcases hcause with hcause | hcause | hcause
        · rw [hhold] at hcause
          cases hcause
        · exact absurd hcause hrevoked
        · exact hcause
      rw [yields_next (rule4_open hrevoked hpending.1 _)]
      obtain ⟨e, he, hscope⟩ := rule5_deferred horiginal hpending.2
        ((((start ctx).rule "RULE_1").rule "RULE_2").rule "RULE_4")
      rw [yields_exit he, hscope]
      decide

section NotEscaped

variable {env : RuleEnv} {ctx : EligibilityContext}

theorem rule1_keeps : Keeps Undeferred (fun s => Undeferred s ∧ ¬ Closed ctx) Contacts
    (rule1 ctx) := by
  intro s hs
  have hrule := hs.rule "RULE_1" (by decide)
  rw [rule1]
  split_ifs with hclosed
  · exact ⟨none_mem_contactScopes, hrule.path⟩
  · exact ⟨hrule, hclosed⟩

theorem rule2_keeps (hlive : LiveExecution ctx.governance) (h : ¬ LiveEscape ctx) :
    Keeps (fun s => Undeferred s ∧ ¬ Closed ctx) (fun s => Undeferred s ∧ ¬ Closed ctx) Contacts
      (rule2 ctx) := by
  intro s hs
  obtain ⟨hs, hopen⟩ := hs
  have hhold : ctx.governance.complianceHoldFlag = false := by
    cases hhold : ctx.governance.complianceHoldFlag with
    | true => exact absurd ⟨hlive, hopen, .inl hhold⟩ h
    | false => rfl
  rw [(rule2_guards _).passes (ne_true_of_eq_false hhold)]
  exact ⟨hs.rule "RULE_2" (by decide), hopen⟩

theorem rule4_keeps (hlive : LiveExecution ctx.governance) (h : ¬ LiveEscape ctx) :
    Keeps (fun s => Undeferred s ∧ ¬ Closed ctx) (fun s => Undeferred s ∧ ¬ InFlight ctx.ai)
      Contacts (rule4 ctx) := by
  intro s hs
  obtain ⟨hs, hopen⟩ := hs
  have hrule := hs.rule "RULE_4" (by decide)
  have hrevoked : ctx.academic.accessState ≠ some "REVOKED" :=
    fun hrevoked => h ⟨hlive, hopen, .inr (.inl hrevoked)⟩
  by_cases hsuspended : ctx.academic.accessState = some "SUSPENDED"
  · rw [rule4, if_neg hrevoked, if_pos hsuspended]
    exact ⟨none_mem_contactScopes, hrule.path⟩
  · rw [rule4_open hrevoked hsuspended]
    exact ⟨hrule, fun hflight => h ⟨hlive, hopen, .inr (.inr ⟨hsuspended, hflight⟩)⟩⟩

theorem rule5_keeps : Keeps (fun s => Undeferred s ∧ ¬ InFlight ctx.ai) Undeferred Contacts
    (rule5 ctx) := by
  intro s hs
  obtain ⟨hs, hflight⟩ := hs
  have hrule := hs.rule "RULE_5" (by decide)
  have htier : (assessAiTier ctx).1 ≠ .inFlight :=
    fun ht => hflight ((assessAiTier_inFlight_iff ctx).1 ht)
  rw [rule5]
  simp only [htier, if_false]
  split_ifs
  · exact ⟨hrule.scope, hrule.path⟩
  · exact ⟨hrule.scope, hrule.path⟩

/-- Without an escape a live execution ends as one that no rule deferred. -/
theorem ensures_not_escaped (hlive : LiveExecution ctx.governance) (h : ¬ LiveEscape ctx) :
    Ensures rule12 Undeferred Contacts (rules env ctx) := by
  have horiginal : isReplayType ctx.governance.executionType = false := by
    simp [isReplayType, hlive.2]
  apply ensures_cons rule1_keeps
  apply ensures_cons (rule2_keeps hlive h)
  apply ensures_cons (rule4_keeps hlive h)
  apply ensures_cons rule5_keeps
  exact ensures_contacts horiginal

end NotEscaped

theorem liveOk_escape (h0 : governancePreconditions gov = []) (hlive : LiveExecution gov)
    (hscope : sc ∈ escapeScopes) : liveOk gov sc = true := by
  apply (liveOk_eq_true_iff h0).2
  have heligible : sc ∈ eligibleScopes := by
    revert hscope
    cases sc <;> decide
  exact ⟨heligible, hlive⟩

/-- An assessment that permits nothing live meets the rule. -/
theorem permitsContactOnly_of_not_live (h : liveOk ctx.governance e.evaluation.scope = false) :
    PermitsContactOnly ctx (emit env ctx e) where
  record hlive := by
    have hlive : liveOk ctx.governance e.evaluation.scope = true := hlive
    rw [h] at hlive
    cases hlive
  constraints hlive := by
    have hlive : liveOk ctx.governance e.evaluation.scope = true := hlive
    rw [h] at hlive
    cases hlive
  suppressed _ := ⟨h, h⟩

theorem scope_of_closed (hclosed : Closed ctx)
    (he : eval rule12 (rules env ctx) (start ctx) = .ok e) : e.evaluation.scope = .none := by
  obtain ⟨e', he', hscope⟩ := (rule1_guards _).exits hclosed (start ctx)
  rw [rules, eval_exit he'] at he
  cases he
  exact hscope

/-- Of the assessments past RULE 0, those of live escapes and no others permit live outreach
where they must not. -/
theorem permitsContactOnly_iff (env : RuleEnv) (ctx : EligibilityContext)
    (h0 : governancePreconditions ctx.governance = []) :
    (∀ a, assessOrchestrationEligibility env ctx = .ok a → PermitsContactOnly ctx a) ↔
      ¬ LiveEscape ctx := by
  constructor
  · intro h hescape
    obtain ⟨e, he, hscope⟩ := hescape.yields env
    have ha := h (emit env ctx e) ((assess_eq_ok_iff h0).2 ⟨e, he, rfl⟩)
    have hcontact : e.evaluation.scope ∈ [.outreach, .retry] :=
      ha.record (liveOk_escape h0 hescape.1 hscope)
    revert hcontact hscope
    cases e.evaluation.scope <;> decide
  · intro h a ha
    obtain ⟨e, he, rfl⟩ := (assess_eq_ok_iff h0).1 ha
    cases hlive : liveOk ctx.governance e.evaluation.scope with
    | false => exact permitsContactOnly_of_not_live hlive
    | true =>
      obtain ⟨heligible, hexecution⟩ := (liveOk_eq_true_iff h0).1 hlive
      have hcontact := ensures_not_escaped hexecution h _ (undeferred_start ctx) e he
      have hscope : e.evaluation.scope ∈ [.outreach, .retry] := by
        have hmem := hcontact.scope
        revert heligible hmem
        cases e.evaluation.scope <;> decide
      have hopen : ¬ Closed ctx := by
        intro hclosed
        rw [scope_of_closed hclosed he] at heligible
        revert heligible
        decide
      refine ⟨fun _ => hscope, fun _ => hscope, fun hcause => ?_⟩
      rcases hcause with hhold | hrevoked | hpath
      · exact absurd ⟨hexecution, hopen, .inl hhold⟩ h
      · exact absurd ⟨hexecution, hopen, .inr (.inl hrevoked)⟩ h
      · exact absurd hpath hcontact.path

def heldContext : EligibilityContext where
  governance :=
    { configVersionId := some "v1"
      configVersionStatus := "ACTIVE"
      configRuleSet := []
      executionMode := "LIVE"
      executionType := "original"
      correlationId := some "c-1"
      causationId := none
      attributionContext :=
        [("origin_source", .str "scheduler"), ("origin_authority", .str "platform"),
          ("actor_identity", .str "worker"), ("attribution_timestamp", .str "2026-01-01T00:00:00Z")]
      fingerprintContext := none
      idempotencyKey := none
      complianceHoldFlag := true }
  academic :=
    { userId := none
      accessState := some "ACTIVE"
      hwsBehind := none
      avgEffRating := none
      lastActivityDays := none
      paymentBalance := none
      email := some "student@example.org"
      phoneNumber := none }
  operational := { outreachState := none, contactAttemptCount := 0, retryEligible := false }
  ai :=
    { aiInsightState := none
      aiConfidenceScore := none
      aiStaleFlag := false
      aiFinalizedCopy := false }

def heldEnv : RuleEnv where
  now := 0
  fromIsoformat _ := none
  sha256 _ := ""

theorem heldContext_gate : governancePreconditions heldContext.governance = [] := by
  decide

theorem heldContext_escapes : LiveEscape heldContext :=
  ⟨⟨rfl, rfl⟩, by simp [Closed, heldContext], .inl rfl⟩

/-- The hold of the context does not keep live outreach from being permitted. -/
theorem heldContext_permits_live :
    governancePreconditions heldContext.governance = [] ∧
      heldContext.governance.complianceHoldFlag = true ∧
      ∃ a, assessOrchestrationEligibility heldEnv heldContext = .ok a ∧
        a.liveOutreachPermitted = true ∧ ¬ PermitsContactOnly heldContext a := by
  obtain ⟨e, he, hscope⟩ := heldContext_escapes.yields heldEnv
  have hlive : liveOk heldContext.governance e.evaluation.scope = true :=
    liveOk_escape heldContext_gate heldContext_escapes.1 hscope
  refine ⟨heldContext_gate, rfl, emit heldEnv heldContext e, ?_, hlive, ?_⟩
  · exact (assess_eq_ok_iff heldContext_gate).2 ⟨e, he, rfl⟩
  · intro h
    have hdead := (h.suppressed (.inl rfl)).1
    exact absurd (hlive.symm.trans hdead) (by decide)

theorem permitsContactOnly_iff_held :
    (∀ a, assessOrchestrationEligibility heldEnv heldContext = .ok a →
        PermitsContactOnly heldContext a) ↔ ¬ LiveEscape heldContext :=
  permitsContactOnly_iff heldEnv heldContext heldContext_gate

end Eligibility
end StudentSuccess
