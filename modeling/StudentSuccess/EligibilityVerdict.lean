import StudentSuccess.LiveCandidacy

namespace StudentSuccess
namespace Eligibility
set_option autoImplicit true

open RuleChain

/-- How an evaluation past RULE 0 ends. -/
inductive Ending
  | closed
  | hold
  | revoked
  | suspended
  | deferred
  | noContact
  | excluded
  | replayBlocked
  | exhausted
  | ambiguous
  /-- All the rules are passed; RULE 9 has found this priority. -/
  | complete (priority : Priority)
  deriving DecidableEq

/-- The condition of RULE 7. -/
def exclusionActive (env : RuleEnv) (ctx : EligibilityContext) : Bool :=
  match t ctx kExclWindow, ctx.operational.lastContactTimestamp with
  | some excl, some lastContact =>
    lastContact != "" && succeeds (withinWindow env lastContact excl)
  | _, _ => false

/-- The condition of RULES 8B and 8C. -/
def candidate (ctx : EligibilityContext) : Bool :=
  let op := ctx.operational
  decide (op.contactAttemptCount > 0 ∧ op.retryEligible) ||
    decide (op.contactAttemptCount = 0 ∧
      (op.outreachState = some "ELIGIBLE" ∨ op.outreachState = some "QUEUED" ∨
        op.outreachState = none))

def Deferred (ctx : EligibilityContext) : Prop :=
  (assessAiTier ctx).1 = .inFlight ∧ ctx.governance.executionType = "original"

instance : Decidable (Deferred ctx) := inferInstanceAs (Decidable (_ ∧ _))

def candidacyEnding (ctx : EligibilityContext) : Except Py.Error Ending :=
  match attemptsExhausted ctx with
  | .error e => .error e
  | .ok true => .ok .exhausted
  | .ok false =>
    if isReplayType ctx.governance.executionType ∨ candidate ctx then
      (assessRisk ctx).map fun risk => .complete risk.priority
    else .ok .ambiguous

/-- How the evaluation ends, as a function of what the rules test. -/
def ending (env : RuleEnv) (ctx : EligibilityContext) : Except Py.Error Ending :=
  let gov := ctx.governance
  if ctx.operational.outreachState = some "CLOSED" then .ok .closed
  else if gov.complianceHoldFlag then .ok .hold
  else if ctx.academic.accessState = some "REVOKED" then .ok .revoked
  else if ctx.academic.accessState = some "SUSPENDED" then .ok .suspended
  else if Deferred ctx then .ok .deferred
  else if noContact ctx then .ok .noContact
  else if exclusionActive env ctx then .ok .excluded
  else if isReplayType gov.executionType ∧ replayBlocks gov ≠ [] then .ok .replayBlocked
  else candidacyEnding ctx

def candidateScope (ctx : EligibilityContext) : Scope :=
  if isReplayType ctx.governance.executionType then .replay
  else if ctx.operational.contactAttemptCount > 0 then .retry
  else .outreach

/-- The tier that RULE 11 goes by. -/
def settledTier (ctx : EligibilityContext) : AiTier :=
  if isReplayType ctx.governance.executionType then .finalizedCopy
  else if (assessAiTier ctx).1 = .inFlight then .stale
  else (assessAiTier ctx).1

/-- The priority after RULE 11. -/
def advisedPriority (tier : AiTier) (intervention : Option String) (priority : Priority) :
    Priority :=
  if tier = .confident ∧ intervention = some "ESCALATE" then .critical
  else if tier = .confident ∧ intervention.any (upwardInterventions.contains ·) then
    priority.upgrade
  else if tier = .advisory ∧ intervention = some "ESCALATE" then priority.upgrade
  else priority

namespace Ending

def scope (ctx : EligibilityContext) : Ending → Scope
  | hold => .escalation
  | revoked => .escalation
  | deferred => .prioritizationOnly
  | complete _ => candidateScope ctx
  | _ => .none

def priority (ctx : EligibilityContext) : Ending → Priority
  | hold => .critical
  | revoked => .high
  | exhausted => .medium
  | complete priority =>
    advisedPriority (settledTier ctx) ctx.ai.aiRecommendedIntervention priority
  | _ => .unknown

def rule : Ending → String
  | closed => "RULE_1"
  | hold => "RULE_2"
  | revoked => "RULE_4"
  | suspended => "RULE_4"
  | deferred => "RULE_5A"
  | noContact => "RULE_6"
  | excluded => "RULE_7"
  | replayBlocked => "RULE_10"
  | exhausted => "RULE_8"
  | ambiguous => "RULE_8D"
  | complete _ => "RULE_12"

end Ending

structure EndsAs (ctx : EligibilityContext) (ending : Ending) (e : Emission) : Prop where
  scope : e.evaluation.scope = ending.scope ctx
  priority : e.evaluation.priority = ending.priority ctx
  rule : e.evaluation.path.getLast? = some ending.rule

theorem getLast?_rule (s : Evaluation) (name : String) :
    (s.rule name).path.getLast? = some name := List.getLast?_concat

theorem exclusionActive_iff (env : RuleEnv) (ctx : EligibilityContext) :
    exclusionActive env ctx = true ↔ ExclusionActive env ctx := by
  rw [exclusionActive, ExclusionActive]
  match t ctx kExclWindow, ctx.operational.lastContactTimestamp with
  | none, _ => simp
  | some excl, none => simp
  | some excl, some lastContact => simp [succeeds_iff]

theorem candidate_iff (ctx : EligibilityContext) :
    candidate ctx = true ↔ RetryCandidate ctx ∨ FirstOutreachCandidate ctx := by
  simp [candidate, RetryCandidate, FirstOutreachCandidate]

theorem rule11_advises (ctx : EligibilityContext) (s : Evaluation) :
    ∃ s', rule11 ctx s = .ok (.next s') ∧ s'.scope = s.scope ∧
      s'.priority = advisedPriority s.aiTier ctx.ai.aiRecommendedIntervention s.priority := by
  have hrule : (s.rule "RULE_11").aiTier = s.aiTier := rfl
  by_cases hescalate : s.aiTier = .confident ∧ ctx.ai.aiRecommendedIntervention = some "ESCALATE"
  · exact ⟨_, if_pos hescalate, rfl, (if_pos hescalate).symm⟩
  · by_cases hupward : s.aiTier = .confident ∧
        ctx.ai.aiRecommendedIntervention.any (upwardInterventions.contains ·)
    · exact ⟨_, (if_neg hescalate).trans (if_pos hupward), rfl,
        ((if_neg hescalate).trans (if_pos hupward)).symm⟩
    · by_cases hadvisory : s.aiTier = .advisory ∧
          ctx.ai.aiRecommendedIntervention = some "ESCALATE"
      · exact ⟨_, (if_neg hescalate).trans ((if_neg hupward).trans (if_pos hadvisory)), rfl,
          ((if_neg hescalate).trans ((if_neg hupward).trans (if_pos hadvisory))).symm⟩
      · rw [advisedPriority, if_neg hescalate, if_neg hupward, if_neg hadvisory, rule11]
        simp only [hrule, if_neg hescalate, if_neg hupward, if_neg hadvisory]
        split_ifs <;> exact ⟨_, rfl, rfl, rfl⟩

section
variable {env : RuleEnv} {ctx : EligibilityContext} {s : Evaluation}

theorem agree_rule11 (hpriority : s.priority = priority) (hscope : s.scope = candidateScope ctx)
    (htier : s.aiTier = settledTier ctx) :
    Agree (EndsAs ctx) (.ok (.complete priority) : Except Py.Error Ending)
      (eval rule12 [rule11 ctx] s) := by
  obtain ⟨s', hs', hscope', hpriority'⟩ := rule11_advises ctx s
  apply agree_next hs'
  rw [htier, hpriority] at hpriority'
  exact .ok ⟨hscope'.trans hscope, hpriority', getLast?_rule s' _⟩

theorem agree_rule9 (hscope : s.scope = candidateScope ctx) (htier : s.aiTier = settledTier ctx) :
    Agree (EndsAs ctx) ((assessRisk ctx).map fun risk => .complete risk.priority)
      (eval rule12 [rule9 ctx, rule11 ctx] s) := by
  match hrisk : assessRisk ctx with
  | .error e => exact agree_error (by rw [rule9, hrisk])
  | .ok risk =>
    apply agree_next (by rw [rule9, hrisk])
    apply agree_rule11
    · rfl
    · exact hscope
    · exact htier

theorem agree_candidacy (hreplay : isReplayType ctx.governance.executionType = false)
    (htier : s.aiTier = settledTier ctx) (hnext : r s = candidacy ctx (s.rule "RULE_8")) :
    Agree (EndsAs ctx)
      (if isReplayType ctx.governance.executionType ∨ candidate ctx then
        (assessRisk ctx).map fun risk => .complete risk.priority
      else .ok .ambiguous)
      (eval rule12 [r, rule9 ctx, rule11 ctx] s) := by
  by_cases hcandidate : candidate ctx = true
  · rw [if_pos (.inr hcandidate)]
    by_cases hretry : RetryCandidate ctx
    · apply agree_next (hnext.trans (if_pos hretry))
      apply agree_rule9
      · rw [candidateScope, hreplay, if_neg Bool.false_ne_true, if_pos hretry.1]
      · exact htier
    · have hfirst := ((candidate_iff ctx).1 hcandidate).resolve_left hretry
      apply agree_next (hnext.trans ((if_neg hretry).trans (if_pos hfirst)))
      apply agree_rule9
      · rw [candidateScope, hreplay, if_neg Bool.false_ne_true, hfirst.1]
        rfl
      · exact htier
  · rw [if_neg (by simp [hreplay, hcandidate])]
    have hnot := not_or.1 (mt (candidate_iff ctx).2 hcandidate)
    exact agree_exit (hnext.trans ((if_neg hnot.1).trans (if_neg hnot.2)))
      ⟨rfl, rfl, getLast?_rule _ _⟩

/-- The rules from RULE 8 on, as they are when the attempts are not exhausted. -/
theorem agree_rule8_of
    (hremain : attemptsExhausted ctx = .ok false →
      Agree (EndsAs ctx) (candidacyEnding ctx)
        (eval rule12 [rule8 ctx, rule9 ctx, rule11 ctx] s)) :
    Agree (EndsAs ctx) (candidacyEnding ctx)
      (eval rule12 [rule8 ctx, rule9 ctx, rule11 ctx] s) := by
  match hexhausted : attemptsExhausted ctx with
  | .error e =>
    rw [candidacyEnding, hexhausted]
    exact agree_error (by rw [rule8, hexhausted])
  | .ok true =>
    rw [candidacyEnding, hexhausted]
    exact agree_exit (by rw [rule8, hexhausted]; rfl) ⟨rfl, rfl, getLast?_rule _ _⟩
  | .ok false => exact hremain hexhausted

/-- The rules from RULE 8 on, for a student whom RULE 10 has not locked to a replay. -/
theorem agree_rule8 (hreplay : isReplayType ctx.governance.executionType = false)
    (hscope : s.scope = .none) (htier : s.aiTier = settledTier ctx) :
    Agree (EndsAs ctx) (candidacyEnding ctx)
      (eval rule12 [rule8 ctx, rule9 ctx, rule11 ctx] s) := by
  apply agree_rule8_of
  intro hexhausted
  rw [candidacyEnding, hexhausted]
  apply agree_candidacy hreplay htier
  exact rule8_remain ((attemptsExhausted_eq_false_iff ctx).1 hexhausted) hscope

/-- The rules from RULE 8 on, for a replay. -/
theorem agree_rule8_replay (hreplay : isReplayType ctx.governance.executionType = true)
    (hscope : s.scope = .replay) (htier : s.aiTier = .finalizedCopy) :
    Agree (EndsAs ctx) (candidacyEnding ctx)
      (eval rule12 [rule8 ctx, rule9 ctx, rule11 ctx] s) := by
  apply agree_rule8_of
  intro hexhausted
  have hnext : rule8 ctx s = .ok (.next (s.rule "RULE_8")) := by
    rw [rule8, hexhausted]
    exact if_pos hscope
  rw [candidacyEnding, hexhausted]
  dsimp only
  rw [if_pos (.inl hreplay)]
  apply agree_next hnext
  apply agree_rule9
  · exact hscope.trans (if_pos hreplay).symm
  · exact htier.trans (if_pos hreplay).symm

theorem rule10_accepts (hreplay : isReplayType ctx.governance.executionType = true)
    (hblock : replayBlocks ctx.governance = []) (s : Evaluation) :
    ∃ s', rule10 ctx s = .ok (.next s') ∧ s'.scope = .replay ∧ s'.aiTier = .finalizedCopy :=
  ⟨_, (if_pos hreplay).trans (if_neg (not_not_intro hblock)), rfl, rfl⟩

theorem rule10_blocks (hreplay : isReplayType ctx.governance.executionType = true)
    (hblock : replayBlocks ctx.governance ≠ []) (s : Evaluation) :
    ∃ e, rule10 ctx s = .ok (.exit e) ∧ EndsAs ctx .replayBlocked e :=
  ⟨_, (if_pos hreplay).trans (if_pos hblock), rfl, rfl, getLast?_rule _ _⟩

def passedTier (ctx : EligibilityContext) : AiTier :=
  if (assessAiTier ctx).1 = .inFlight then .stale else (assessAiTier ctx).1

theorem agree_rule10 (hscope : s.scope = .none) (htier : s.aiTier = passedTier ctx) :
    Agree (EndsAs ctx)
      (if isReplayType ctx.governance.executionType ∧ replayBlocks ctx.governance ≠ [] then
        .ok .replayBlocked else candidacyEnding ctx)
      (eval rule12 [rule10 ctx, rule8 ctx, rule9 ctx, rule11 ctx] s) := by
  cases hreplay : isReplayType ctx.governance.executionType with
  | false =>
    rw [if_neg (by simp)]
    apply agree_next (rule10_original hreplay s)
    apply agree_rule8 hreplay hscope
    rw [htier, settledTier, if_neg (by simp [hreplay]), passedTier]
  | true =>
    by_cases hblock : replayBlocks ctx.governance = []
    · rw [if_neg (by simp [hblock])]
      obtain ⟨s', hs', hscope', htier'⟩ := rule10_accepts hreplay hblock s
      exact agree_next hs' (agree_rule8_replay hreplay hscope' htier')
    · rw [if_pos ⟨rfl, hblock⟩]
      obtain ⟨e, he, hends⟩ := rule10_blocks hreplay hblock s
      exact agree_exit he hends

theorem rule7_excludes (h : ExclusionActive env ctx) (s : Evaluation) :
    ∃ e, rule7 env ctx s = .ok (.exit e) ∧ EndsAs ctx .excluded e := by
  obtain ⟨excl, lastContact, hexcl, hlast, hne, hwithin⟩ := h
  rw [rule7]
  rw [hexcl, hlast]
  simp only [if_neg hne, hwithin]
  exact ⟨_, rfl, rfl, rfl, getLast?_rule _ _⟩

/-- RULE 7 changes nothing but the path and the codes of a state that it hands on. -/
theorem rule7_hands_on (h : ¬ ExclusionActive env ctx) (s : Evaluation) :
    ∃ codes, rule7 env ctx s = .ok (.next { s.rule "RULE_7" with codes := codes }) := by
  unfold rule7
  match hexcl : t ctx kExclWindow, hlast : ctx.operational.lastContactTimestamp with
  | some excl, some lastContact =>
    by_cases hempty : lastContact = ""
    · exact ⟨_, if_pos hempty⟩
    · simp only [if_neg hempty]
      match hwithin : withinWindow env lastContact excl with
      | .ok true => exact absurd ⟨excl, lastContact, hexcl, hlast, hempty, hwithin⟩ h
      | .ok false => exact ⟨_, rfl⟩
      | .error _ => exact ⟨_, rfl⟩
  | some _, none => exact ⟨_, rfl⟩
  | none, _ => exact ⟨_, rfl⟩

theorem agree_rule7 (hscope : s.scope = .none) (htier : s.aiTier = passedTier ctx) :
    Agree (EndsAs ctx)
      (if exclusionActive env ctx then .ok .excluded
        else if isReplayType ctx.governance.executionType ∧ replayBlocks ctx.governance ≠ [] then
          .ok .replayBlocked else candidacyEnding ctx)
      (eval rule12 [rule7 env ctx, rule10 ctx, rule8 ctx, rule9 ctx, rule11 ctx] s) := by
  by_cases hactive : exclusionActive env ctx = true
  · rw [if_pos hactive]
    obtain ⟨e, he, hends⟩ := rule7_excludes ((exclusionActive_iff env ctx).1 hactive) s
    exact agree_exit he hends
  · rw [if_neg hactive]
    obtain ⟨codes, hcodes⟩ := rule7_hands_on (mt (exclusionActive_iff env ctx).2 hactive) s
    exact agree_next hcodes (agree_rule10 hscope htier)

theorem rule5_hands_on (h : ¬ Deferred ctx) (s : Evaluation) :
    ∃ s', rule5 ctx s = .ok (.next s') ∧ s'.scope = s.scope ∧ s'.aiTier = passedTier ctx := by
  rw [rule5, passedTier]
  by_cases hflight : (assessAiTier ctx).1 = .inFlight
  · have horiginal : ctx.governance.executionType ≠ "original" :=
      fun horiginal => h ⟨hflight, horiginal⟩
    simp only [hflight, if_true, if_neg horiginal]
    split_ifs
    · exact ⟨_, rfl, rfl, rfl⟩
    · exact ⟨_, rfl, rfl, rfl⟩
  · simp only [hflight, if_false]
    split_ifs
    · exact ⟨_, rfl, rfl, rfl⟩
    · exact ⟨_, rfl, rfl, rfl⟩

theorem rule5_defers (h : Deferred ctx) (s : Evaluation) :
    ∃ e, rule5 ctx s = .ok (.exit e) ∧ EndsAs ctx .deferred e :=
  ⟨_, (if_pos h.1).trans (if_pos h.2), rfl, rfl, getLast?_rule _ _⟩

theorem agree_rule6 (hscope : s.scope = .none) (htier : s.aiTier = passedTier ctx) :
    Agree (EndsAs ctx)
      (if noContact ctx then .ok .noContact
        else if exclusionActive env ctx then .ok .excluded
        else if isReplayType ctx.governance.executionType ∧ replayBlocks ctx.governance ≠ [] then
          .ok .replayBlocked else candidacyEnding ctx)
      (eval rule12 [rule6 ctx, rule7 env ctx, rule10 ctx, rule8 ctx, rule9 ctx, rule11 ctx] s) := by
  by_cases hcontact : noContact ctx = true
  · rw [if_pos hcontact]
    exact agree_exit (if_pos hcontact) ⟨rfl, rfl, getLast?_rule _ _⟩
  · rw [if_neg hcontact]
    apply agree_next (rule6_contact (Bool.not_eq_true _ ▸ hcontact) s)
    exact agree_rule7 hscope htier

/-- Past RULE 0 the rules end as the verdict says, or raise what it raises. -/
theorem agree_rules (env : RuleEnv) (ctx : EligibilityContext) :
    Agree (EndsAs ctx) (ending env ctx) (eval rule12 (rules env ctx) (start ctx)) := by
  rw [ending]
  by_cases hclosed : ctx.operational.outreachState = some "CLOSED"
  · simp only [if_pos hclosed]
    exact agree_exit (if_pos hclosed) ⟨rfl, rfl, getLast?_rule _ _⟩
  · simp only [if_neg hclosed]
    apply agree_next ((rule1_guards _).passes hclosed _)
    by_cases hhold : ctx.governance.complianceHoldFlag = true
    · simp only [if_pos hhold]
      exact agree_exit (if_pos hhold) ⟨rfl, rfl, getLast?_rule _ _⟩
    · simp only [if_neg hhold]
      apply agree_next ((rule2_guards _).passes hhold _)
      by_cases hrevoked : ctx.academic.accessState = some "REVOKED"
      · simp only [if_pos hrevoked]
        exact agree_exit (if_pos hrevoked) ⟨rfl, rfl, getLast?_rule _ _⟩
      · simp only [if_neg hrevoked]
        by_cases hsuspended : ctx.academic.accessState = some "SUSPENDED"
        · simp only [if_pos hsuspended]
          exact agree_exit ((if_neg hrevoked).trans (if_pos hsuspended))
            ⟨rfl, rfl, getLast?_rule _ _⟩
        · simp only [if_neg hsuspended]
          apply agree_next (rule4_open hrevoked hsuspended _)
          by_cases hdeferred : Deferred ctx
          · simp only [if_pos hdeferred]
            obtain ⟨e, he, hends⟩ := rule5_defers hdeferred _
            exact agree_exit he hends
          · simp only [if_neg hdeferred]
            obtain ⟨s', hs', hscope, htier⟩ := rule5_hands_on hdeferred _
            exact agree_next hs' (agree_rule6 hscope htier)

end

structure AssessedAs (ctx : EligibilityContext) (ending : Ending)
    (a : OrchestrationEligibilityAssessment) : Prop where
  scope : a.eligibilityScope = ending.scope ctx
  eligible : a.orchestrationEligible = decide (ending.scope ctx ∈ eligibleScopes)
  priority : a.orchestrationPriority = ending.priority ctx
  rule : a.rulePathTaken.getLast? = some ending.rule

theorem EndsAs.emit (env : RuleEnv) (h : EndsAs ctx x e) : AssessedAs ctx x (emit env ctx e) where
  scope := h.scope
  eligible := congrArg (fun scope => decide (scope ∈ eligibleScopes)) h.scope
  priority := h.priority
  rule := h.rule

theorem agree_assess (env : RuleEnv) (h0 : governancePreconditions ctx.governance = []) :
    Agree (AssessedAs ctx) (ending env ctx) (assessOrchestrationEligibility env ctx) := by
  rw [assessOrchestrationEligibility]
  rw [if_neg (not_not_intro h0)]
  exact (agree_rules env ctx).map_right fun _ _ hends => hends.emit env

end Eligibility
end StudentSuccess
