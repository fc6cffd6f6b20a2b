import StudentSuccess.RuleCodes
import StudentSuccess.AiInfluence
import StudentSuccess.ThresholdHonesty
import StudentSuccess.Outreach

namespace StudentSuccess
set_option autoImplicit true

namespace Eligibility

open RuleChain

def exhaustedCode : String := "MAX_ATTEMPTS_EXHAUSTED"

/-- An exit carries the code of RULE 8 exactly when it is the exit of RULE 8. -/
def Marks (e : Emission) : Prop :=
  exhaustedCode ∈ e.evaluation.codes ↔ e.evaluation.path.getLast? = some "RULE_8"

theorem admits_marks : Admits (· ≠ exhaustedCode) Marks := by
  intro e hcodes hpath
  exact iff_of_false (fun hmem => hcodes _ hmem rfl) hpath

theorem admitsExhausted_marks : AdmitsExhausted (· ≠ exhaustedCode) Marks := by
  intro s e _ hcodes hpath
  apply iff_of_true _ hpath
  rw [hcodes]
  exact List.mem_append_right _ (List.mem_singleton_self _)

theorem governancePreconditions_unmarked (gov : GovernanceCtx) :
    exhaustedCode ∉ governancePreconditions gov := by
  rw [governancePreconditions]
  simp only [List.mem_append, not_or]
  refine ⟨⟨⟨⟨⟨?_, ?_⟩, ?_⟩, ?_⟩, ?_⟩, ?_⟩ <;> split_ifs <;> decide

/-- The assessments that carry the code of RULE 8 are those that end with it. -/
theorem assess_marks (h0 : governancePreconditions ctx.governance = [])
    (ha : assessOrchestrationEligibility env ctx = .ok a) :
    exhaustedCode ∈ a.reasonCodes ↔ a.rulePathTaken.getLast? = some "RULE_8" := by
  obtain ⟨e, he, rfl⟩ := (assess_eq_ok_iff h0).1 ha
  have hflag : ∀ key, thresholdMissingFlag key ≠ exhaustedCode :=
    fun key => thresholdMissingFlag_ne key (by decide)
  exact rules_codes (by decide) admits_marks (fun _ => by decide) (fun _ => admitsExhausted_marks)
    (start ctx) (coded_start hflag) e he

/-- RULES 1 to 7 let the student pass. -/
structure ReachesRule8 (env : RuleEnv) (ctx : EligibilityContext) : Prop where
  opened : ctx.operational.outreachState ≠ some "CLOSED"
  free : ctx.governance.complianceHoldFlag ≠ true
  notRevoked : ctx.academic.accessState ≠ some "REVOKED"
  notSuspended : ctx.academic.accessState ≠ some "SUSPENDED"
  advised : ¬ Deferred ctx
  contact : noContact ctx ≠ true
  window : ¬ ExclusionActive env ctx

def outreachScopes : List Scope := [.outreach, .retry]

def Ending.Contacts (ctx : EligibilityContext) (x : Ending) : Prop := x.scope ctx ∈ outreachScopes

theorem not_contacts (hscope : x.scope ctx = scope) (h : scope ∉ outreachScopes) :
    ¬ Ending.Contacts ctx x := by
  rw [Ending.Contacts, hscope]
  exact h

section
variable {env : RuleEnv} {ctx : EligibilityContext}

theorem ending_atRule8 (hreplay : isReplayType ctx.governance.executionType = false)
    (h : ReachesRule8 env ctx) : ending env ctx = candidacyEnding ctx := by
  have hwindow : ¬ exclusionActive env ctx = true := mt (exclusionActive_iff env ctx).1 h.window
  rw [ending]
  simp only [if_neg h.opened, if_neg h.free, if_neg h.notRevoked, if_neg h.notSuspended,
    if_neg h.advised, if_neg h.contact, if_neg hwindow, hreplay, Bool.false_eq_true, false_and,
    if_false]

theorem ending_beforeRule8 (h : ¬ ReachesRule8 env ctx) :
    ∃ x, ending env ctx = .ok x ∧ x ≠ .exhausted ∧ ¬ x.Contacts ctx := by
  have hnone : Scope.none ∉ outreachScopes := by decide
  have hescalation : Scope.escalation ∉ outreachScopes := by decide
  have hdeferral : Scope.prioritizationOnly ∉ outreachScopes := by decide
  unfold ending
  dsimp only
  by_cases hclosed : ctx.operational.outreachState = some "CLOSED"
  · exact ⟨_, if_pos hclosed, Ending.noConfusion, not_contacts rfl hnone⟩
  rw [if_neg hclosed]
  by_cases hhold : ctx.governance.complianceHoldFlag = true
  · exact ⟨_, if_pos hhold, Ending.noConfusion, not_contacts rfl hescalation⟩
  rw [if_neg hhold]
  by_cases hrevoked : ctx.academic.accessState = some "REVOKED"
  · exact ⟨_, if_pos hrevoked, Ending.noConfusion, not_contacts rfl hescalation⟩
  rw [if_neg hrevoked]
  by_cases hsuspended : ctx.academic.accessState = some "SUSPENDED"
  · exact ⟨_, if_pos hsuspended, Ending.noConfusion, not_contacts rfl hnone⟩
  rw [if_neg hsuspended]
  by_cases hdeferred : Deferred ctx
  · exact ⟨_, if_pos hdeferred, Ending.noConfusion, not_contacts rfl hdeferral⟩
  rw [if_neg hdeferred]
  by_cases hcontact : noContact ctx = true
  · exact ⟨_, if_pos hcontact, Ending.noConfusion, not_contacts rfl hnone⟩
  rw [if_neg hcontact]
  by_cases hwindow : exclusionActive env ctx = true
  · exact ⟨_, if_pos hwindow, Ending.noConfusion, not_contacts rfl hnone⟩
  rw [if_neg hwindow]
  by_cases hblocked : isReplayType ctx.governance.executionType = true ∧
      replayBlocks ctx.governance ≠ []
  · exact ⟨_, if_pos hblocked, Ending.noConfusion, not_contacts rfl hnone⟩
  · exact absurd ⟨hclosed, hhold, hrevoked, hsuspended, hdeferred, hcontact,
      mt (exclusionActive_iff env ctx).2 hwindow⟩ h

theorem candidacyEnding_exhausted_iff :
    candidacyEnding ctx = .ok .exhausted ↔ AtLeast (attempts ctx) (t ctx kMaxAttempts) := by
  have hexhausted : attemptsExhausted ctx = .ok true ↔ _ :=
    crosses_geValue_iff (attempts ctx) (t ctx kMaxAttempts)
  rw [← hexhausted]
  unfold candidacyEnding
  match attemptsExhausted ctx with
  | .error e => simp
  | .ok true => simp
  | .ok false =>
    apply iff_of_false
    · split_ifs
      · intro h
        obtain ⟨risk, -, hcomplete⟩ := Py.map_eq_ok.1 h
        cases hcomplete
      · intro h
        cases h
    · intro h
      cases h

theorem candidateScope_contacts (hreplay : isReplayType ctx.governance.executionType = false) :
    candidateScope ctx ∈ outreachScopes := by
  rw [candidateScope]
  rw [hreplay, if_neg Bool.false_ne_true]
  split_ifs <;> decide

theorem candidacyEnding_contacts_iff
    (hreplay : isReplayType ctx.governance.executionType = false) :
    (∃ x, candidacyEnding ctx = .ok x ∧ x.Contacts ctx) ↔
      AttemptsRemain ctx ∧ (RetryCandidate ctx ∨ FirstOutreachCandidate ctx) ∧
        RiskCompares ctx := by
  have hnone : Scope.none ∉ outreachScopes := by decide
  rw [← attemptsExhausted_eq_false_iff, ← candidate_iff, ← assessRisk_returns_iff]
  unfold candidacyEnding
  match attemptsExhausted ctx with
  | .error e => simp
  | .ok true =>
    apply iff_of_false
    · intro h
      obtain ⟨x, hx, hcontacts⟩ := h
      cases hx
      exact hnone hcontacts
    · simp
  | .ok false =>
    by_cases hcandidate : candidate ctx = true
    · rw [if_pos (.inr hcandidate)]
      constructor
      · intro h
        obtain ⟨x, hx, -⟩ := h
        obtain ⟨risk, hrisk, -⟩ := Py.map_eq_ok.1 hx
        exact ⟨rfl, hcandidate, risk, hrisk⟩
      · intro h
        obtain ⟨-, -, risk, hrisk⟩ := h
        exact ⟨_, Py.map_eq_ok.2 ⟨risk, hrisk, rfl⟩, candidateScope_contacts hreplay⟩
    · rw [if_neg (by simp [hreplay, hcandidate])]
      apply iff_of_false _ fun h => hcandidate h.2.1
      intro h
      obtain ⟨x, hx, hcontacts⟩ := h
      cases hx
      exact hnone hcontacts

end

/-- The assessment finds the attempts exhausted. -/
def Exhausts (env : RuleEnv) (ctx : EligibilityContext) : Prop :=
  ∃ a, assessOrchestrationEligibility env ctx = .ok a ∧ exhaustedCode ∈ a.reasonCodes

def RecommendsContact (env : RuleEnv) (ctx : EligibilityContext) : Prop :=
  ∃ a, assessOrchestrationEligibility env ctx = .ok a ∧ a.eligibilityScope ∈ outreachScopes

theorem rule_eq_iff (x : Ending) : x.rule = "RULE_8" ↔ x = .exhausted := by
  cases x <;> simp [Ending.rule]

theorem exhausts_iff_ending (h0 : governancePreconditions ctx.governance = []) :
    Exhausts env ctx ↔ ending env ctx = .ok .exhausted := by
  have hagree := agree_assess env h0
  constructor
  · intro h
    obtain ⟨a, ha, hcode⟩ := h
    obtain ⟨x, hx, hassessed⟩ := hagree.of_ok ha
    have hpath := hassessed.rule.symm.trans ((assess_marks h0 ha).1 hcode)
    rw [hx, (rule_eq_iff x).1 (Option.some.inj hpath)]
  · intro h
    obtain ⟨a, ha, hassessed⟩ := hagree.to_ok h
    exact ⟨a, ha, (assess_marks h0 ha).2 hassessed.rule⟩

theorem recommendsContact_iff_ending (h0 : governancePreconditions ctx.governance = []) :
    RecommendsContact env ctx ↔ ∃ x, ending env ctx = .ok x ∧ x.Contacts ctx := by
  have hagree := agree_assess env h0
  constructor
  · intro h
    obtain ⟨a, ha, hscope⟩ := h
    obtain ⟨x, hx, hassessed⟩ := hagree.of_ok ha
    rw [hassessed.scope] at hscope
    exact ⟨x, hx, hscope⟩
  · intro h
    obtain ⟨x, hx, hcontacts⟩ := h
    obtain ⟨a, ha, hassessed⟩ := hagree.to_ok hx
    rw [Ending.Contacts, ← hassessed.scope] at hcontacts
    exact ⟨a, ha, hcontacts⟩

theorem assess_blocked (h0 : governancePreconditions ctx.governance ≠ [])
    (ha : assessOrchestrationEligibility env ctx = .ok a) :
    exhaustedCode ∉ a.reasonCodes ∧ a.eligibilityScope ∉ outreachScopes := by
  rw [assessOrchestrationEligibility, if_pos h0] at ha
  cases ha
  have hnone : Scope.none ∉ outreachScopes := by decide
  exact ⟨governancePreconditions_unmarked _, hnone⟩

theorem exhausts_iff (hreplay : isReplayType ctx.governance.executionType = false) :
    Exhausts env ctx ↔ governancePreconditions ctx.governance = [] ∧ ReachesRule8 env ctx ∧
      AtLeast (attempts ctx) (t ctx kMaxAttempts) := by
  by_cases h0 : governancePreconditions ctx.governance = []
  · rw [exhausts_iff_ending h0]
    by_cases hlate : ReachesRule8 env ctx
    · rw [ending_atRule8 hreplay hlate, candidacyEnding_exhausted_iff]
      simp only [h0, hlate, true_and]
    · apply iff_of_false _ fun h => hlate h.2.1
      obtain ⟨x, hx, hne, -⟩ := ending_beforeRule8 hlate
      rw [hx]
      exact fun h => hne (Except.ok.inj h)
  · apply iff_of_false _ fun h => h0 h.1
    intro h
    obtain ⟨a, ha, hcode⟩ := h
    exact (assess_blocked h0 ha).1 hcode

theorem recommendsContact_iff (hreplay : isReplayType ctx.governance.executionType = false) :
    RecommendsContact env ctx ↔ governancePreconditions ctx.governance = [] ∧
      ReachesRule8 env ctx ∧ AttemptsRemain ctx ∧
        (RetryCandidate ctx ∨ FirstOutreachCandidate ctx) ∧ RiskCompares ctx := by
  by_cases h0 : governancePreconditions ctx.governance = []
  · rw [recommendsContact_iff_ending h0]
    by_cases hlate : ReachesRule8 env ctx
    · rw [ending_atRule8 hreplay hlate, candidacyEnding_contacts_iff hreplay]
      simp only [h0, hlate, true_and]
    · apply iff_of_false _ fun h => hlate h.2.1
      obtain ⟨x, hx, -, hcontacts⟩ := ending_beforeRule8 hlate
      rw [hx]
      intro h
      obtain ⟨y, hy, hcontact⟩ := h
      cases hy
      exact hcontacts hcontact
  · apply iff_of_false _ fun h => h0 h.1
    intro h
    obtain ⟨a, ha, hscope⟩ := h
    exact (assess_blocked h0 ha).2 hscope

end Eligibility

namespace Decision

def outreachIntents : List IntentType := [.initiateOutreach, .retryOutreach]

/-- RULE 6 closes the orchestration. -/
def Exhausts (env : RuleEnv) (ctx : DecisionContext) : Prop :=
  ∃ r, evaluateOrchestrationIntent env ctx = .ok r ∧
    r.intent.orchestrationIntent = .closeOrchestration

def RecommendsContact (env : RuleEnv) (ctx : DecisionContext) : Prop :=
  ∃ r, evaluateOrchestrationIntent env ctx = .ok r ∧
    r.intent.orchestrationIntent ∈ outreachIntents

/-- RULES 7 to 12 come to a contact. -/
structure OffersContact (ctx : DecisionContext) : Prop where
  scored : ReachesScore ctx
  calm : (signalTally ctx + adviceTally (aiTier ctx) ctx.ai.aiRecommendedIntervention).level ∉
    [.critical, .high]
  contact : RetryDue ctx ∨ ¬ Recommends ctx ∧ FirstContact ctx

section
variable {env : RuleEnv} {ctx : DecisionContext}

theorem evaluate_iff_verdict (env : RuleEnv) (h0 : preconditionCodes ctx.governance = [])
    (hreplay : isReplayType ctx.governance.executionType = false) (P : IntentType → Prop) :
    (∃ r, evaluateOrchestrationIntent env ctx = .ok r ∧ P r.intent.orchestrationIntent) ↔
      ∃ v, verdict ctx = .ok v ∧ P v.intent := by
  have hagree := agree_evaluate env h0 hreplay
  constructor
  · intro h
    obtain ⟨r, hr, hP⟩ := h
    obtain ⟨v, hv, hreports⟩ := hagree.of_ok hr
    rw [hreports.intent] at hP
    exact ⟨v, hv, hP⟩
  · intro h
    obtain ⟨v, hv, hP⟩ := h
    obtain ⟨r, hr, hreports⟩ := hagree.to_ok hv
    rw [← hreports.intent] at hP
    exact ⟨r, hr, hP⟩

def earlyIntents : List IntentType := [.noEligibleIntent, .escalateToOperator, .deferPendingAi]

theorem verdict_early_intent (h : EndsEarly ctx) (hv : verdict ctx = .ok v) :
    v.intent ∈ earlyIntents := by
  rw [verdict] at hv
  split_ifs at hv with hclosed hhold hrevoked hsuspended hdeferred
  · cases hv
    exact .head _
  · cases hv
    exact .tail _ (.head _)
  · cases hv
    exact .tail _ (.head _)
  · cases hv
    exact .head _
  · cases hv
    exact .tail _ (.tail _ (.head _))
  · rcases h with h | h | h | h | ⟨horiginal, hflight⟩
    · exact absurd h hclosed
    · exact absurd h hhold
    · exact absurd h hrevoked
    · exact absurd h hsuspended
    · exact absurd ⟨(inFlight_iff ctx.ai).2 hflight, horiginal⟩ hdeferred

theorem levelVerdict_open (ctx : DecisionContext) (level : Priority) :
    (levelVerdict ctx level).intent ≠ .closeOrchestration := by
  rw [levelVerdict, calmVerdict]
  split_ifs <;> exact IntentType.noConfusion

theorem levelVerdict_contacts_iff (ctx : DecisionContext) (level : Priority) :
    (levelVerdict ctx level).intent ∈ outreachIntents ↔
      level ∉ [Priority.critical, .high] ∧
        (retries ctx = true ∨ ¬ Recommends ctx ∧ FirstContact ctx) := by
  have hlevel : level ∉ [Priority.critical, .high] ↔ ¬ (level = .critical ∨ level = .high) := by
    simp
  rw [hlevel]
  rw [levelVerdict, calmVerdict, outreachIntents]
  split_ifs with hescalates hretries hrecommends hfirst
  · simp [hescalates]
  · simp [hescalates, hretries]
  · simp [hretries, hrecommends]
  · simp [hescalates, hrecommends, hfirst]
  · simp [hretries, hfirst]

theorem lateVerdict_closes_iff (ctx : DecisionContext) :
    (∃ v, lateVerdict ctx = .ok v ∧ v.intent = .closeOrchestration) ↔
      AtLeast (attempts ctx) (t ctx kMaxAttempts) := by
  have hexhausted : attemptsExhausted ctx = .ok true ↔ _ :=
    crosses_geValue_iff (attempts ctx) (t ctx kMaxAttempts)
  rw [← hexhausted]
  unfold lateVerdict
  match attemptsExhausted ctx with
  | .error e => simp
  | .ok true => simp
  | .ok false =>
    apply iff_of_false
    · intro h
      obtain ⟨v, hv, hintent⟩ := h
      obtain ⟨risk, -, rfl⟩ := Py.map_eq_ok.1 hv
      exact levelVerdict_open ctx _ hintent
    · intro h
      cases h

theorem lateVerdict_contacts_iff (h0 : preconditionCodes ctx.governance = [])
    (hlate : ¬ EndsEarly ctx) :
    (∃ v, lateVerdict ctx = .ok v ∧ v.intent ∈ outreachIntents) ↔ OffersContact ctx := by
  have hclose : IntentType.closeOrchestration ∉ outreachIntents := by decide
  by_cases hscored : ReachesScore ctx
  · have hverdict := verdict_scored hscored
    rw [verdict_late hlate] at hverdict
    rw [hverdict]
    constructor
    · intro h
      obtain ⟨v, hv, hintent⟩ := h
      cases hv
      obtain ⟨hcalm, hcontact⟩ := (levelVerdict_contacts_iff ctx _).1 hintent
      exact ⟨hscored, hcalm, hcontact.imp_left (retries_iff hscored).1⟩
    · intro h
      exact ⟨_, rfl, (levelVerdict_contacts_iff ctx _).2
        ⟨h.calm, h.contact.imp_left (retries_iff hscored).2⟩⟩
  · apply iff_of_false _ fun h => hscored h.scored
    intro h
    obtain ⟨v, hv, hintent⟩ := h
    rcases lateVerdict_unscored h0 hlate hscored with ⟨e, he⟩ | ⟨hcloses, -⟩
    · cases he.symm.trans hv
    · cases hcloses.symm.trans hv
      exact hclose hintent

theorem exhausts_iff (hreplay : isReplayType ctx.governance.executionType = false) :
    Exhausts env ctx ↔ preconditionCodes ctx.governance = [] ∧ ¬ EndsEarly ctx ∧
      AtLeast (attempts ctx) (t ctx kMaxAttempts) := by
  by_cases h0 : preconditionCodes ctx.governance = []
  · rw [Exhausts, evaluate_iff_verdict env h0 hreplay (· = .closeOrchestration)]
    by_cases hearly : EndsEarly ctx
    · apply iff_of_false _ fun h => h.2.1 hearly
      intro h
      obtain ⟨v, hv, hintent⟩ := h
      have hmem := verdict_early_intent hearly hv
      rw [hintent] at hmem
      exact absurd hmem (by decide)
    · rw [verdict_late hearly, lateVerdict_closes_iff]
      simp only [h0, hearly, not_false_eq_true, true_and]
  · apply iff_of_false _ fun h => h0 h.1
    intro h
    obtain ⟨r, hr, hintent⟩ := h
    cases (evaluate_blocked_verdict env h0 hr).1.symm.trans hintent

theorem recommendsContact_iff (hreplay : isReplayType ctx.governance.executionType = false) :
    RecommendsContact env ctx ↔ OffersContact ctx := by
  by_cases h0 : preconditionCodes ctx.governance = []
  · rw [RecommendsContact, evaluate_iff_verdict env h0 hreplay (· ∈ outreachIntents)]
    by_cases hearly : EndsEarly ctx
    · apply iff_of_false _ fun h => h.scored.late hearly
      intro h
      obtain ⟨v, hv, hintent⟩ := h
      have hmem := verdict_early_intent hearly hv
      revert hintent hmem
      cases v.intent <;> decide
    · rw [verdict_late hearly, lateVerdict_contacts_iff h0 hearly]
  · apply iff_of_false _ fun h => h0 h.scored.gate
    intro h
    obtain ⟨r, hr, hintent⟩ := h
    rw [(evaluate_blocked_verdict env h0 hr).1] at hintent
    exact absurd hintent (by decide)

end

end Decision

namespace Outreach

/-- The record of a cycle with the intent. -/
def Records (keys : List String) (ctx : OutreachOrchestrationContext) (intent : Intent) : Prop :=
  ∃ record, (coordinateOrchestrationCycle keys ctx).2 = .ok record ∧
    record.intentType = some intent.text

/-- The cycle comes to the retry ceiling of RULE 9. -/
structure ReachesCeiling (keys : List String) (ctx : OutreachOrchestrationContext) : Prop where
  gate : governancePreconditionGate keys ctx = []
  running : ctx.maintenanceModeActive = false
  original : ctx.executionType ∉ replayTypes
  sync : Py.Returns (staleSql ctx (orchestrationBindings ctx))
  active : ctx.outreachState.any (terminalStates.contains ·) ≠ true
  advised : ctx.aiGovernanceTier ≠ some "IN_FLIGHT"

/-- The rule set gives a retry ceiling that is not above the attempts. -/
def RetriesSpent (ruleSet : RuleSet) (attempts : Int) : Prop :=
  ∃ v limit, Py.get? kOutreachMaxRetryAttempts ruleSet = some v ∧ bound v = true ∧
    Py.toInt v = .ok limit ∧ limit ≤ attempts

def ContactState (ctx : OutreachOrchestrationContext) : Prop :=
  ctx.outreachState = some "NO_RESPONSE" ∨ ctx.outreachState = none ∨
    ctx.outreachState = some "ELIGIBLE" ∨ ctx.outreachState = some "QUEUED"

theorem bound_resolvable (h : bound v = true) : resolvable v = true := by
  cases v with
  | null => cases h
  | bool b => exact h
  | int n => exact h
  | float x => exact h
  | str text => exact h
  | list xs => exact h
  | dict entries => exact h

/-- The ceiling check compares with the rule set's value, when that can be compared with. -/
theorem bound_retryCeiling (ctx : OutreachOrchestrationContext) :
    let v := threshold (orchestrationBindings ctx) kOutreachMaxRetryAttempts
    bound v = true ↔
      Py.get? kOutreachMaxRetryAttempts (ctx.configRuleSet.getD []) = some v ∧ bound v = true := by
  have hkey : kOutreachMaxRetryAttempts ∈ orchestrationThresholdKeys := by decide
  have hsentinel : bound unknownV0 = false := by decide
  dsimp only
  rw [orchestrationBindings, threshold_of_mem resolvable hkey, resolveThreshold]
  cases Py.get? kOutreachMaxRetryAttempts (ctx.configRuleSet.getD []) with
  | none => simp [hsentinel]
  | some v =>
    dsimp only
    split_ifs with hresolvable
    · simp
    · simp [hsentinel]

/-- `int` raises nothing but what the check catches. -/
theorem toInt_raises (h : Py.toInt v = .error e) : e = .valueError ∨ e = .typeError := by
  simp only [Py.toInt] at h
  cases v with
  | null => exact .inr (Except.error.inj h).symm
  | bool b => cases h
  | int n => cases h
  | float x => cases h
  | str text =>
    dsimp only at h
    cases hparse : Py.parseInt text with
    | none =>
      rw [hparse] at h
      exact .inl (Except.error.inj h).symm
    | some n =>
      rw [hparse] at h
      cases h
  | list xs => exact .inr (Except.error.inj h).symm
  | dict entries => exact .inr (Except.error.inj h).symm

theorem caught_toInt (v : Py.Value) (n : Int) :
    ∃ spent, Py.catchMalformed ((Py.toInt v).map fun m => decide (m ≤ n)) false = .ok spent ∧
      (spent = true ↔ ∃ limit, Py.toInt v = .ok limit ∧ limit ≤ n) := by
  cases hint : Py.toInt v with
  | ok limit => exact ⟨decide (limit ≤ n), rfl, by simp⟩
  | error e =>
    rcases toInt_raises hint with rfl | rfl
    · exact ⟨false, rfl, by simp⟩
    · exact ⟨false, rfl, by simp⟩

theorem retriesSpent_iff (ctx : OutreachOrchestrationContext) :
    RetriesSpent (ctx.configRuleSet.getD []) ctx.contactAttemptCount ↔
      bound (threshold (orchestrationBindings ctx) kOutreachMaxRetryAttempts) = true ∧
        ∃ limit, Py.toInt (threshold (orchestrationBindings ctx) kOutreachMaxRetryAttempts) =
          .ok limit ∧ limit ≤ ctx.contactAttemptCount := by
  constructor
  · intro h
    obtain ⟨v, limit, hget, hbound, hlimit, hle⟩ := h
    have hkey : kOutreachMaxRetryAttempts ∈ orchestrationThresholdKeys := by decide
    have hv : threshold (orchestrationBindings ctx) kOutreachMaxRetryAttempts = v :=
      threshold_resolveThresholds hkey hget (bound_resolvable hbound)
    rw [hv]
    exact ⟨hbound, limit, hlimit, hle⟩
  · intro h
    obtain ⟨hbound, limit, hlimit, hle⟩ := h
    obtain ⟨hget, -⟩ := (bound_retryCeiling ctx).1 hbound
    exact ⟨_, limit, hget, hbound, hlimit, hle⟩

theorem retriesExhausted_eq (ctx : OutreachOrchestrationContext) :
    ∃ spent, retriesExhausted ctx (orchestrationBindings ctx) = .ok spent ∧
      (spent = true ↔ RetriesSpent (ctx.configRuleSet.getD []) ctx.contactAttemptCount) := by
  obtain ⟨spent, hcaught, hspent⟩ :=
    caught_toInt (threshold (orchestrationBindings ctx) kOutreachMaxRetryAttempts)
      ctx.contactAttemptCount
  rw [retriesSpent_iff, ← hspent]
  unfold retriesExhausted
  dsimp only
  by_cases hbound : bound (threshold (orchestrationBindings ctx) kOutreachMaxRetryAttempts) = true
  · rw [if_pos hbound, hcaught]
    exact ⟨spent, rfl, by simp [hbound]⟩
  · rw [if_neg hbound]
    exact ⟨false, rfl, by simp [hbound]⟩

def decidedIntent (ctx : OutreachOrchestrationContext) (spent : Bool) : Intent :=
  if ctx.outreachState.any (terminalStates.contains ·) then .hold
  else if ctx.aiGovernanceTier = some "IN_FLIGHT" then .deferPendingAi
  else if spent then .escalate
  else if ctx.outreachState = some "NO_RESPONSE" then .retryOutreach
  else if ctx.outreachState = none ∨ ctx.outreachState = some "ELIGIBLE" ∨
    ctx.outreachState = some "QUEUED" then .initiateOutreach
  else .hold

theorem classifyIntent_eq (h : retriesExhausted ctx bindings = .ok spent) :
    classifyIntent ctx bindings ctx.aiGovernanceTier = .ok (decidedIntent ctx spent) := by
  rw [classifyIntent, decidedIntent]
  rw [h]
  simp only [bind, Except.bind, pure, Except.pure]
  split_ifs <;> rfl

theorem coordinate_records_iff (keys : List String) (ctx : OutreachOrchestrationContext)
    (intent : Intent) :
    Records keys ctx intent ↔ governancePreconditionGate keys ctx = [] ∧
      ctx.maintenanceModeActive = false ∧ ctx.executionType ∉ replayTypes ∧
        ∃ record, evaluate ctx = .ok record ∧ record.intentType = some intent.text := by
  unfold Records coordinateOrchestrationCycle
  dsimp only
  by_cases hgate : governancePreconditionGate keys ctx = []
  · rw [if_neg (not_not_intro hgate)]
    cases hrunning : ctx.maintenanceModeActive with
    | true =>
      rw [if_pos rfl]
      apply iff_of_false _ fun h => Bool.noConfusion h.2.1
      intro h
      obtain ⟨record, hrecord, hintent⟩ := h
      cases hrecord
      cases hintent
    | false =>
      rw [if_neg Bool.false_ne_true]
      by_cases hreplay : ctx.executionType ∈ replayTypes
      · rw [if_pos hreplay]
        apply iff_of_false _ fun h => h.2.2.1 hreplay
        intro h
        obtain ⟨record, hrecord, hintent⟩ := h
        cases hrecord
        cases hintent
      · rw [if_neg hreplay]
        simp only [hgate, hreplay, not_false_eq_true, true_and]
  · rw [if_pos hgate]
    apply iff_of_false _ fun h => hgate h.1
    intro h
    obtain ⟨record, hrecord, hintent⟩ := h
    cases hrecord
    cases hintent

theorem text_injective : Function.Injective Intent.text := by
  intro i j h
  revert h
  cases i <;> cases j <;> decide

theorem evaluate_records_iff (hspent : retriesExhausted ctx (orchestrationBindings ctx) = .ok spent)
    (intent : Intent) :
    (∃ record, evaluate ctx = .ok record ∧ record.intentType = some intent.text) ↔
      Py.Returns (staleSql ctx (orchestrationBindings ctx)) ∧ decidedIntent ctx spent = intent := by
  have hdecided := classifyIntent_eq hspent
  constructor
  · intro h
    obtain ⟨record, hrecord, hintent⟩ := h
    have hreturns : Py.Returns (staleSql ctx (orchestrationBindings ctx)) := by
      rw [evaluate] at hrecord
      obtain ⟨stale, hstale, -⟩ := Py.bind_eq_ok.1 hrecord
      exact ⟨stale, hstale⟩
    obtain ⟨stale, hstale⟩ := hreturns
    obtain ⟨record', hrecord', hintent'⟩ := evaluate_eq_ok hstale hdecided
    cases hrecord.symm.trans hrecord'
    exact ⟨⟨stale, hstale⟩, text_injective (Option.some.inj (hintent'.symm.trans hintent))⟩
  · intro h
    obtain ⟨⟨stale, hstale⟩, rfl⟩ := h
    exact evaluate_eq_ok hstale hdecided

section
variable {ctx : OutreachOrchestrationContext}
  (hactive : ctx.outreachState.any (terminalStates.contains ·) ≠ true)
  (hadvised : ctx.aiGovernanceTier ≠ some "IN_FLIGHT")
include hactive hadvised

theorem decidedIntent_late (spent : Bool) :
    decidedIntent ctx spent =
      if spent then .escalate
      else if ctx.outreachState = some "NO_RESPONSE" then .retryOutreach
      else if ctx.outreachState = none ∨ ctx.outreachState = some "ELIGIBLE" ∨
        ctx.outreachState = some "QUEUED" then .initiateOutreach
      else .hold := by
  rw [decidedIntent, if_neg hactive, if_neg hadvised]

theorem decidedIntent_escalate_iff : decidedIntent ctx spent = .escalate ↔ spent = true := by
  rw [decidedIntent_late hactive hadvised]
  split_ifs with hspent <;> simp [hspent]

theorem decidedIntent_contact_iff :
    decidedIntent ctx spent = .initiateOutreach ∨ decidedIntent ctx spent = .retryOutreach ↔
      ¬ spent = true ∧ ContactState ctx := by
  rw [decidedIntent_late hactive hadvised, ContactState]
  split_ifs with hspent hretry hinitial
  · simp [hspent]
  · simp [hspent, hretry]
  · simp [hspent, hinitial]
  · simp [hspent, hretry, hinitial]

end

theorem records_iff (hspent : retriesExhausted ctx (orchestrationBindings ctx) = .ok spent)
    (hhold : intent ≠ .hold) (hdefer : intent ≠ .deferPendingAi) :
    Records keys ctx intent ↔ ReachesCeiling keys ctx ∧ decidedIntent ctx spent = intent := by
  rw [coordinate_records_iff, evaluate_records_iff hspent]
  constructor
  · intro h
    obtain ⟨hgate, hrunning, horiginal, hsync, hintent⟩ := h
    have hactive : ctx.outreachState.any (terminalStates.contains ·) ≠ true :=
      fun hterminal => hhold (hintent.symm.trans (if_pos hterminal))
    have hadvised : ctx.aiGovernanceTier ≠ some "IN_FLIGHT" :=
      fun hflight => hdefer (hintent.symm.trans ((if_neg hactive).trans (if_pos hflight)))
    exact ⟨⟨hgate, hrunning, horiginal, hsync, hactive, hadvised⟩, hintent⟩
  · intro h
    obtain ⟨hreaches, hintent⟩ := h
    exact ⟨hreaches.gate, hreaches.running, hreaches.original, hreaches.sync, hintent⟩

/-- The cycle escalates for want of retries. -/
def Exhausts (keys : List String) (ctx : OutreachOrchestrationContext) : Prop :=
  Records keys ctx .escalate

def RecommendsContact (keys : List String) (ctx : OutreachOrchestrationContext) : Prop :=
  Records keys ctx .initiateOutreach ∨ Records keys ctx .retryOutreach

theorem exhausts_iff (keys : List String) (ctx : OutreachOrchestrationContext) :
    Exhausts keys ctx ↔ ReachesCeiling keys ctx ∧
      RetriesSpent (ctx.configRuleSet.getD []) ctx.contactAttemptCount := by
  obtain ⟨spent, hexhausted, hspent⟩ := retriesExhausted_eq ctx
  rw [Exhausts, records_iff hexhausted Intent.noConfusion Intent.noConfusion, ← hspent]
  apply and_congr_right
  intro hreaches
  exact decidedIntent_escalate_iff hreaches.active hreaches.advised

theorem recommendsContact_iff (keys : List String) (ctx : OutreachOrchestrationContext) :
    RecommendsContact keys ctx ↔ ReachesCeiling keys ctx ∧
      ¬ RetriesSpent (ctx.configRuleSet.getD []) ctx.contactAttemptCount ∧ ContactState ctx := by
  obtain ⟨spent, hexhausted, hspent⟩ := retriesExhausted_eq ctx
  rw [RecommendsContact, records_iff hexhausted Intent.noConfusion Intent.noConfusion,
    records_iff hexhausted Intent.noConfusion Intent.noConfusion, ← and_or_left, ← hspent]
  apply and_congr_right
  intro hreaches
  exact decidedIntent_contact_iff hreaches.active hreaches.advised

end Outreach

end StudentSuccess
