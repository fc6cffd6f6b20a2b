import StudentSuccess.CeilingChecks

namespace StudentSuccess
set_option autoImplicit true

/-- A student as the three engines are given it: one rule set, one attempt count, an original
execution. -/
structure Presentation where
  ruleSet : RuleSet
  attempts : Int
  eligibility : Eligibility.EligibilityContext
  decision : Decision.DecisionContext
  outreach : Outreach.OutreachOrchestrationContext
  eligibilityRules : eligibility.governance.configRuleSet = ruleSet
  decisionRules : decision.governance.configRuleSet = ruleSet
  outreachRules : outreach.configRuleSet = some ruleSet
  eligibilityAttempts : eligibility.operational.contactAttemptCount = attempts
  decisionAttempts : decision.operational.contactAttemptCount = attempts
  outreachAttempts : outreach.contactAttemptCount = attempts
  eligibilityType : eligibility.governance.executionType = "original"
  decisionType : decision.governance.executionType = "original"
  outreachType : outreach.executionType = "original"

namespace Presentation

/-- One of the engines treats its ceiling as reached. -/
def CeilingReached (env : RuleEnv) (keys : List String) (p : Presentation) : Prop :=
  Eligibility.Exhausts env p.eligibility ∨ Decision.Exhausts env p.decision ∨
    Outreach.Exhausts keys p.outreach

/-- No engine recommends contact when one treats the ceiling as reached. -/
def OneCeiling (env : RuleEnv) (keys : List String) (p : Presentation) : Prop :=
  CeilingReached env keys p → ¬ Eligibility.RecommendsContact env p.eligibility ∧
    ¬ Decision.RecommendsContact env p.decision ∧ ¬ Outreach.RecommendsContact keys p.outreach

def MaxAttemptsReached (p : Presentation) : Prop :=
  AtLeast (some p.attempts) (comparable (item p.ruleSet "outreach_max_attempts"))

def MaxRetriesReached (p : Presentation) : Prop := Outreach.RetriesSpent p.ruleSet p.attempts

/-- Eligibility or decision comes to its check of `outreach_max_attempts`. -/
def ChecksMaxAttempts (env : RuleEnv) (p : Presentation) : Prop :=
  Eligibility.governancePreconditions p.eligibility.governance = [] ∧
      Eligibility.ReachesRule8 env p.eligibility ∨
    Decision.preconditionCodes p.decision.governance = [] ∧ ¬ Decision.EndsEarly p.decision

/-- Eligibility or decision offers a contact under `outreach_max_attempts`. -/
def OffersContact (env : RuleEnv) (p : Presentation) : Prop :=
  Eligibility.governancePreconditions p.eligibility.governance = [] ∧
      Eligibility.ContactCandidate env p.eligibility ∧ Eligibility.ReachesRule8 env p.eligibility ∨
    Decision.OffersContact p.decision

/-- One of the two keys stops a student whom the other lets through, and the engines that read them
come to the point where this shows. -/
def Split (env : RuleEnv) (keys : List String) (p : Presentation) : Prop :=
  Outreach.ReachesCeiling keys p.outreach ∧
    (p.MaxAttemptsReached ∧ ¬ p.MaxRetriesReached ∧ ChecksMaxAttempts env p ∧
        Outreach.ContactState p.outreach ∨
      p.MaxRetriesReached ∧ OffersContact env p)

section
variable {env : RuleEnv} (p : Presentation)

theorem eligibility_original :
    isReplayType p.eligibility.governance.executionType = false := by
  rw [p.eligibilityType]
  decide

theorem decision_original : isReplayType p.decision.governance.executionType = false := by
  rw [p.decisionType]
  decide

theorem eligibility_reached_iff :
    AtLeast (Eligibility.attempts p.eligibility)
        (Eligibility.t p.eligibility Eligibility.kMaxAttempts) ↔ p.MaxAttemptsReached := by
  have hkey : Eligibility.kMaxAttempts ∈ Eligibility.keyMap := by decide
  rw [Eligibility.attempts, Eligibility.t, Eligibility.thresholds,
    comparable_threshold takes_all hkey, p.eligibilityRules, p.eligibilityAttempts]
  rfl

theorem decision_reached_iff :
    AtLeast (Decision.attempts p.decision) (Decision.t p.decision Decision.kMaxAttempts) ↔
      p.MaxAttemptsReached := by
  have hkey : Decision.kMaxAttempts ∈ Decision.thresholdKeys := by decide
  rw [Decision.attempts, Decision.t, Decision.thresholds,
    comparable_threshold Decision.takes_resolvable hkey, p.decisionRules, p.decisionAttempts]
  rfl

theorem outreach_reached_iff :
    Outreach.RetriesSpent (p.outreach.configRuleSet.getD []) p.outreach.contactAttemptCount ↔
      p.MaxRetriesReached := by
  rw [p.outreachRules, p.outreachAttempts]
  rfl

theorem exhausts_max_iff (env : RuleEnv) :
    Eligibility.Exhausts env p.eligibility ∨ Decision.Exhausts env p.decision ↔
      ChecksMaxAttempts env p ∧ p.MaxAttemptsReached := by
  rw [Eligibility.exhausts_iff p.eligibility_original, p.eligibility_reached_iff,
    Decision.exhausts_iff p.decision_original, p.decision_reached_iff, ← and_assoc, ← and_assoc,
    ← or_and_right]
  rfl

theorem recommends_max_iff (env : RuleEnv) :
    Eligibility.RecommendsContact env p.eligibility ∨ Decision.RecommendsContact env p.decision ↔
      OffersContact env p := by
  rw [Eligibility.recommendsContact_iff p.eligibility_original,
    Decision.recommendsContact_iff p.decision_original]
  apply or_congr_left
  constructor
  · intro h
    obtain ⟨h0, hlate, hremain, hcandidacy, hrisk⟩ := h
    exact ⟨h0, ⟨Bool.eq_false_of_not_eq_true hlate.contact, hlate.window, hremain, hcandidacy,
      hrisk⟩, hlate⟩
  · intro h
    obtain ⟨h0, hcandidate, hlate⟩ := h
    exact ⟨h0, hlate, hcandidate.attempts, hcandidate.candidacy, hcandidate.risk⟩

theorem OffersContact.not_reached (h : OffersContact env p) : ¬ p.MaxAttemptsReached := by
  rcases h with ⟨-, hcandidate, -⟩ | hoffers
  · rw [← p.eligibility_reached_iff]
    exact hcandidate.attempts.2
  · rw [← p.decision_reached_iff]
    exact hoffers.scored.remaining

/-- The engines have one ceiling but for the presentations that split the two keys. -/
theorem oneCeiling_iff (env : RuleEnv) (keys : List String) (p : Presentation) :
    OneCeiling env keys p ↔ ¬ Split env keys p := by
  have hmax := p.exhausts_max_iff env
  have hoffers := p.recommends_max_iff env
  have hretry := Outreach.exhausts_iff keys p.outreach
  have hcontact := Outreach.recommendsContact_iff keys p.outreach
  rw [p.outreach_reached_iff] at hretry hcontact
  rw [OneCeiling, CeilingReached]
  rw [← or_assoc, hmax, ← and_assoc, ← not_or, hoffers, hretry, hcontact, ← not_or]
  constructor
  · intro h hsplit
    obtain ⟨hreaches, ⟨hreached, hopen, hchecks, hstate⟩ | ⟨hspent, hcontacts⟩⟩ := hsplit
    · exact h (.inl ⟨hchecks, hreached⟩) (.inr ⟨hreaches, hopen, hstate⟩)
    · exact h (.inr ⟨hreaches, hspent⟩) (.inl hcontacts)
  · intro h hceiling hcontacts
    rcases hceiling with ⟨hchecks, hreached⟩ | ⟨hreaches, hspent⟩
    · rcases hcontacts with hcontacts | ⟨hreaches, hopen, hstate⟩
      · exact hcontacts.not_reached p hreached
      · exact h ⟨hreaches, .inl ⟨hreached, hopen, hchecks, hstate⟩⟩
    · rcases hcontacts with hcontacts | ⟨-, hopen, -⟩
      · exact h ⟨hreaches, .inr ⟨hspent, hcontacts⟩⟩
      · exact hopen hspent

end

/-- A student without response after three attempts, under `outreach_max_attempts` only. -/
def spentStudent : Presentation where
  ruleSet := [("outreach_max_attempts", .int 3)]
  attempts := 3
  eligibility :=
    { Eligibility.heldContext with
      governance :=
        { Eligibility.heldContext.governance with
          configRuleSet := [("outreach_max_attempts", .int 3)]
          complianceHoldFlag := false }
      operational :=
        { outreachState := some "NO_RESPONSE", contactAttemptCount := 3, retryEligible := true } }
  decision :=
    { Decision.trendDecision none with
      governance :=
        { (Decision.trendDecision none).governance with
          configRuleSet := [("outreach_max_attempts", .int 3)] }
      operational :=
        { outreachState := some "NO_RESPONSE", contactAttemptCount := 3, retryEligible := true } }
  outreach :=
    { configVersionId := some "v1"
      executionMode := "LIVE"
      executionType := "original"
      correlationId := some "c-1"
      configRuleSet := some [("outreach_max_attempts", .int 3)]
      originSource := some "scheduler"
      originAuthority := some "platform"
      actorIdentity := some "worker"
      outreachState := some "NO_RESPONSE"
      contactAttemptCount := 3 }
  eligibilityRules := rfl
  decisionRules := rfl
  outreachRules := rfl
  eligibilityAttempts := rfl
  decisionAttempts := rfl
  outreachAttempts := rfl
  eligibilityType := rfl
  decisionType := rfl
  outreachType := rfl

theorem spentStudent_exhausted :
    Eligibility.Exhausts Eligibility.heldEnv spentStudent.eligibility := by
  have hdeferred : ¬ Eligibility.Deferred spentStudent.eligibility := by
    intro h
    cases h.1
  have hwindow : ¬ Eligibility.ExclusionActive Eligibility.heldEnv spentStudent.eligibility := by
    intro h
    obtain ⟨excl, lastContact, -, hlast, -⟩ := h
    cases hlast
  have hlate : Eligibility.ReachesRule8 Eligibility.heldEnv spentStudent.eligibility :=
    ⟨by decide, by decide, by decide, by decide, hdeferred, by decide, hwindow⟩
  have hgate : Eligibility.governancePreconditions spentStudent.eligibility.governance = [] :=
    Eligibility.heldContext_gate
  exact (Eligibility.exhausts_iff spentStudent.eligibility_original).2
    ⟨hgate, hlate, spentStudent.eligibility_reached_iff.2 ⟨3, .int 3, 3, rfl, rfl, rfl, le_rfl⟩⟩

theorem spentStudent_retried : Outreach.RecommendsContact [] spentStudent.outreach := by
  have hunset : ∀ attempts, ¬ Outreach.RetriesSpent spentStudent.ruleSet attempts := by
    intro attempts h
    obtain ⟨v, limit, hget, -⟩ := h
    exact absurd hget (by simp [spentStudent, Py.get?, Outreach.kOutreachMaxRetryAttempts])
  have hreaches : Outreach.ReachesCeiling [] spentStudent.outreach :=
    ⟨by decide, rfl, by decide, ⟨false, rfl⟩, by decide, by decide⟩
  exact (Outreach.recommendsContact_iff [] spentStudent.outreach).2
    ⟨hreaches, hunset _, .inl rfl⟩

/-- Eligibility has exhausted the attempts of the student whom outreach retries. -/
theorem spentStudent_split :
    Eligibility.Exhausts Eligibility.heldEnv spentStudent.eligibility ∧
      Outreach.RecommendsContact [] spentStudent.outreach ∧
      ¬ OneCeiling Eligibility.heldEnv [] spentStudent := by
  refine ⟨spentStudent_exhausted, spentStudent_retried, ?_⟩
  intro h
  exact (h (.inl spentStudent_exhausted)).2.2 spentStudent_retried

end Presentation

end StudentSuccess
