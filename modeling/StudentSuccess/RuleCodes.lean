import StudentSuccess.EligibilityVerdict

namespace StudentSuccess
namespace Eligibility
set_option autoImplicit true

open RuleChain

def riskCodes : List String :=
  ["HWS_DELINQUENCY_HIGH_RISK", "HWS_DELINQUENCY_MODERATE", "EFFORT_DECLINE",
    "INACTIVITY_HIGH_RISK", "INACTIVITY_MODERATE", "PAYMENT_RISK", "ESCALATION_RECURRENCE",
    "HISTORICAL_TREND_CRITICAL", "HISTORICAL_TREND_DECLINING", "PARTIAL_RISK_ASSESSMENT"]

/-- What the rules may add to the codes, but for the codes of RULE 7 and RULE 8 that end an
evaluation. -/
def ruleCodes : List String :=
  riskCodes ++
  ["OUTREACH_CLOSED_TERMINAL", "COMPLIANCE_HOLD_ACTIVE", "ACCESS_REVOKED_SQL_SERVER_AUTHORITATIVE",
    "ACCESS_SUSPENDED_AWAIT_RESTORATION", "AI_UNAVAILABLE_FALLBACK_APPLIED",
    "AI_INSIGHT_IN_FLIGHT_DEFER_PENDING", "NO_CONTACT_INFO",
    "EXCLUSION_WINDOW_TIMESTAMP_PARSE_ERROR", "REPLAY_LIVE_MODE_BLOCKED",
    "REPLAY_SOURCE_ARTIFACT_MISSING", "REPLAY_FINGERPRINT_MISSING", "REPLAY_CANDIDATE",
    "RETRY_CANDIDATE", "FIRST_OUTREACH_CANDIDATE", "OUTREACH_STATE_AMBIGUOUS",
    "AI_ESCALATION_SIGNAL_CONFIDENT", "AI_INTERVENTION_SIGNAL_CONFIDENT",
    "AI_ESCALATION_SIGNAL_ADVISORY", "STALE_AI_PRIORITIZATION_SKIPPED",
    "STALE_AI_LIVE_MODE_RESTRICTED", "AI_FINALIZED_COPY_NOT_APPLIED"]

/-- Every code so far is of the kind `P`. -/
def Coded (P : String → Prop) (s : Evaluation) : Prop := ∀ code ∈ s.codes, P code

/-- `Q` holds of the exits of the rules but RULE 8 when their codes are of the kind `P`. -/
def Admits (P : String → Prop) (Q : Emission → Prop) : Prop :=
  ∀ e : Emission, Coded P e.evaluation → e.evaluation.path.getLast? ≠ some "RULE_8" → Q e

/-- `Q` holds of the exits of RULE 8 when the codes before its own are of the kind `P`. -/
def AdmitsExhausted (P : String → Prop) (Q : Emission → Prop) : Prop :=
  ∀ (s : Evaluation) (e : Emission), Coded P s →
    e.evaluation.codes = s.codes ++ ["MAX_ATTEMPTS_EXHAUSTED"] →
      e.evaluation.path.getLast? = some "RULE_8" → Q e

/-- The rule adds codes of the kind `P` only, and its exits are of the kind `Q`. -/
def AddsCodes (P : String → Prop) (Q : Emission → Prop) (r : Rule Evaluation Emission) : Prop :=
  Keeps (Coded P) (Coded P) Q r

section
variable {env : RuleEnv} {ctx : EligibilityContext} {s : Evaluation}
variable {P : String → Prop} {Q : Emission → Prop}

theorem Coded.append {codes : List String} (h : Coded P s) (hcodes : ∀ code ∈ codes, P code) :
    ∀ code ∈ s.codes ++ codes, P code := List.forall_mem_append.2 ⟨h, hcodes⟩

theorem Coded.code (h : Coded P s) (hnew : P new) : Coded P (s.code new) :=
  h.append (List.forall_mem_singleton.2 hnew)

theorem coded_start (hP : ∀ key, P (thresholdMissingFlag key)) : Coded P (start ctx) := by
  intro code hmem
  obtain ⟨key, -, rfl⟩ := List.mem_map.1 hmem
  exact hP key

theorem Admits.exit (hQ : Admits P Q) (hcodes : Coded P e.evaluation)
    (hpath : e.evaluation.path.getLast? = some name) (hname : name ≠ "RULE_8") : Q e := by
  apply hQ e hcodes
  rw [hpath]
  exact fun heq => hname (Option.some.inj heq)

section
variable (hP : ∀ code ∈ ruleCodes, P code)
include hP

theorem replayBlocks_codes (gov : GovernanceCtx) : ∀ code ∈ replayBlocks gov, P code := by
  intro code hmem
  have hknown : code ∈ ruleCodes := by
    simp only [replayBlocks, List.mem_append, List.mem_ite_nil_right, List.mem_singleton] at hmem
    rcases hmem with (⟨-, rfl⟩ | ⟨-, rfl⟩) | ⟨-, rfl⟩ <;> decide
  exact hP code hknown

variable (hQ : Admits P Q)
include hQ

theorem rule1_codes : AddsCodes P Q (rule1 ctx) := by
  intro s hs
  unfold rule1
  dsimp only
  split_ifs
  · exact hQ.exit (hs.code (hP _ (by decide))) (getLast?_rule s _) (by decide)
  · exact hs

theorem rule2_codes : AddsCodes P Q (rule2 ctx) := by
  intro s hs
  rw [rule2]
  dsimp only
  split_ifs
  · exact hQ.exit (hs.code (hP _ (by decide))) (getLast?_rule s _) (by decide)
  · exact hs

theorem rule4_codes : AddsCodes P Q (rule4 ctx) := by
  intro s hs
  unfold rule4
  dsimp only
  split_ifs
  · exact hQ.exit (hs.code (hP _ (by decide))) (getLast?_rule s _) (by decide)
  · exact hQ.exit (hs.code (hP _ (by decide))) (getLast?_rule s _) (by decide)
  · exact hs

theorem rule5_codes : AddsCodes P Q (rule5 ctx) := by
  intro s hs
  have hfallback : Coded P (s.code "AI_UNAVAILABLE_FALLBACK_APPLIED") := hs.code (hP _ (by decide))
  rw [rule5]
  dsimp only
  split_ifs
  · exact hQ.exit (hfallback.code (hP _ (by decide))) (getLast?_rule (s.rule "RULE_5") _)
      (by decide)
  · exact hQ.exit (hs.code (hP _ (by decide))) (getLast?_rule (s.rule "RULE_5") _) (by decide)
  · exact hfallback
  · exact hs
  · exact hfallback
  · exact hs

theorem rule6_codes : AddsCodes P Q (rule6 ctx) := by
  intro s hs
  unfold rule6
  dsimp only
  split_ifs
  · exact hQ.exit (hs.code (hP _ (by decide))) (getLast?_rule s _) (by decide)
  · exact hs

/-- RULE 7 adds its own code when the last contact is within the window. -/
theorem rule7_codes (hexcluded : ExclusionActive env ctx → P "EXCLUSION_WINDOW_ACTIVE") :
    AddsCodes P Q (rule7 env ctx) := by
  intro s hs
  rw [rule7]
  dsimp only
  split
  · next excl lastContact hexcl hlast =>
    split_ifs with hempty
    · exact hs
    · split
      · next hwithin =>
        have hcode := hexcluded ⟨excl, lastContact, hexcl, hlast, hempty, hwithin⟩
        exact hQ.exit (hs.code hcode) (getLast?_rule s _) (by decide)
      · exact hs
      · exact hs.code (hP _ (by decide))
  · exact hs

theorem rule10_codes : AddsCodes P Q (rule10 ctx) := by
  intro s hs
  rw [rule10]
  dsimp only
  split_ifs
  · exact hQ.exit (hs.append (replayBlocks_codes hP _)) (getLast?_rule s _) (by decide)
  · exact hs.code (hP _ (by decide))
  · exact hs.code (hP _ (by decide))
  · exact hs

theorem candidacy_codes : AddsCodes P Q (candidacy ctx) := by
  intro s hs
  rw [candidacy]
  dsimp only
  split_ifs
  · exact hs.code (hP _ (by decide))
  · exact hs.code (hP _ (by decide))
  · exact hQ.exit (hs.code (hP _ (by decide))) (getLast?_rule s _) (by decide)

/-- RULE 8 adds its own code when the attempts are exhausted. -/
theorem rule8_codes (hexhausted : attemptsExhausted ctx = .ok true → AdmitsExhausted P Q) :
    AddsCodes P Q (rule8 ctx) := by
  intro s hs
  rw [rule8]
  dsimp only
  split
  · trivial
  · next h => exact hexhausted h (s.rule "RULE_8") _ hs rfl (getLast?_rule s _)
  · split_ifs
    · exact hs
    · exact candidacy_codes hP hQ (s.rule "RULE_8") hs

end

theorem factor_codes (hlabel : ∀ code ∈ risk.codes, P code) (h : factor crossed risk = .ok found) :
    ∀ code ∈ found.codes, P code := by
  obtain ⟨crossed, -, rfl⟩ := Py.map_eq_ok.1 h
  cases crossed with
  | true => exact hlabel
  | false => exact fun _ hmem => absurd hmem List.not_mem_nil

theorem check_codes (hhigh : P highLabel) (hmed : P medLabel)
    (h : check val highThr medThr highLabel medLabel = .ok risk) : ∀ code ∈ risk.codes, P code := by
  rw [check] at h
  split_ifs at h
  · cases h
    exact fun _ hmem => absurd hmem List.not_mem_nil
  · obtain ⟨high, -, h⟩ := Py.bind_eq_ok.1 h
    cases high with
    | true =>
      cases h
      exact List.forall_mem_singleton.2 hhigh
    | false => exact factor_codes (List.forall_mem_singleton.2 hmed) h

section
variable (hP : ∀ code ∈ ruleCodes, P code)
include hP

theorem trendRisk_codes (ctx : EligibilityContext) : ∀ code ∈ (trendRisk ctx).codes, P code := by
  rw [trendRisk]
  split_ifs
  · exact List.forall_mem_singleton.2 (hP _ (by decide))
  · exact List.forall_mem_singleton.2 (hP _ (by decide))
  · exact fun _ hmem => absurd hmem List.not_mem_nil

theorem effortRisk_codes (h : effortRisk ctx = .ok risk) : ∀ code ∈ risk.codes, P code := by
  rw [effortRisk] at h
  split_ifs at h
  · cases h
    exact fun _ hmem => absurd hmem List.not_mem_nil
  · exact factor_codes (List.forall_mem_singleton.2 (hP _ (by decide))) h

theorem assessRisk_codes (h : assessRisk ctx = .ok risk) : ∀ code ∈ risk.codes, P code := by
  obtain ⟨hws, hhws, h⟩ := Py.bind_eq_ok.1 h
  obtain ⟨effort, heffort, h⟩ := Py.bind_eq_ok.1 h
  obtain ⟨inactivity, hinactivity, h⟩ := Py.bind_eq_ok.1 h
  obtain ⟨payment, hpayment, h⟩ := Py.bind_eq_ok.1 h
  obtain ⟨escalation, hescalation, h⟩ := Py.bind_eq_ok.1 h
  cases h
  have hhws' := check_codes (hP _ (by decide)) (hP _ (by decide)) hhws
  have heffort' := effortRisk_codes hP heffort
  have hinactivity' := check_codes (hP _ (by decide)) (hP _ (by decide)) hinactivity
  have hpayment' := factor_codes (List.forall_mem_singleton.2 (hP _ (by decide))) hpayment
  have hescalation' := factor_codes (List.forall_mem_singleton.2 (hP _ (by decide))) hescalation
  have htrend := trendRisk_codes hP ctx
  simp only [Risk.add, List.forall_mem_append]
  exact ⟨⟨⟨⟨⟨hhws', heffort'⟩, hinactivity'⟩, hpayment'⟩, hescalation'⟩, htrend⟩

theorem rule9_codes : AddsCodes P Q (rule9 ctx) := by
  intro s hs
  unfold rule9
  dsimp only
  split
  · trivial
  · next risk hrisk =>
    apply List.forall_mem_append.2 ⟨hs.append (assessRisk_codes hP hrisk), ?_⟩
    split_ifs
    · exact List.forall_mem_singleton.2 (hP _ (by decide))
    · exact fun _ hmem => absurd hmem List.not_mem_nil

theorem rule11_codes : AddsCodes P Q (rule11 ctx) := by
  intro s hs
  have hstale : Coded P (s.code "STALE_AI_PRIORITIZATION_SKIPPED") := hs.code (hP _ (by decide))
  rw [rule11]
  dsimp only
  split_ifs
  · exact hs.code (hP _ (by decide))
  · exact hs.code (hP _ (by decide))
  · exact hs.code (hP _ (by decide))
  · exact hstale.code (hP _ (by decide))
  · exact hstale
  · exact hs.code (hP _ (by decide))
  · exact hs.code (hP _ (by decide))
  · exact hs

variable (hQ : Admits P Q)
include hQ

/-- The codes of an evaluation are flags of missing thresholds, codes of the rules, and those of
RULE 7 and RULE 8 where their conditions hold. -/
theorem rules_codes (hexcluded : ExclusionActive env ctx → P "EXCLUSION_WINDOW_ACTIVE")
    (hexhausted : attemptsExhausted ctx = .ok true → AdmitsExhausted P Q) :
    Ensures rule12 (Coded P) Q (rules env ctx) := by
  apply ensures_of_keeps
  · intro r hr
    simp only [rules, List.mem_cons, List.not_mem_nil, or_false] at hr
    rcases hr with rfl | rfl | rfl | rfl | rfl | rfl | rfl | rfl | rfl | rfl
    · exact rule1_codes hP hQ
    · exact rule2_codes hP hQ
    · exact rule4_codes hP hQ
    · exact rule5_codes hP hQ
    · exact rule6_codes hP hQ
    · exact rule7_codes hP hQ hexcluded
    · exact rule10_codes hP hQ
    · exact rule8_codes hP hQ hexhausted
    · exact rule9_codes hP
    · exact rule11_codes hP
  · intro s hs
    exact hQ.exit hs (getLast?_rule s _) (by decide)

end

/-- The codes of an assessment, with the code of RULE 8 only where the attempts are exhausted. -/
theorem assess_codes (hP : ∀ code ∈ ruleCodes, P code) (hP' : ∀ key, P (thresholdMissingFlag key))
    (hexcluded : ExclusionActive env ctx → P "EXCLUSION_WINDOW_ACTIVE")
    (hexhausted : attemptsExhausted ctx = .ok true → P "MAX_ATTEMPTS_EXHAUSTED")
    (h0 : governancePreconditions ctx.governance = [])
    (ha : assessOrchestrationEligibility env ctx = .ok a) : ∀ code ∈ a.reasonCodes, P code := by
  obtain ⟨e, he, rfl⟩ := (assess_eq_ok_iff h0).1 ha
  have hQ : Admits P fun e => Coded P e.evaluation := fun _ hcodes _ => hcodes
  have hlast : attemptsExhausted ctx = .ok true →
      AdmitsExhausted P fun e => Coded P e.evaluation := by
    intro h s e hs hcodes _ code hmem
    rw [hcodes] at hmem
    exact hs.append (List.forall_mem_singleton.2 (hexhausted h)) code hmem
  exact rules_codes hP hQ hexcluded hlast (start ctx) (coded_start hP') e he

end

end Eligibility
end StudentSuccess
