import StudentSuccess.RuleCodes

namespace StudentSuccess
namespace Eligibility
set_option autoImplicit true

open RuleChain

/-- RULES 0 to 6 let the evaluation through to RULE 7. -/
structure ReachesRule7 (ctx : EligibilityContext) : Prop where
  governed : governancePreconditions ctx.governance = []
  opened : ctx.operational.outreachState ≠ some "CLOSED"
  free : ctx.governance.complianceHoldFlag = false
  notRevoked : ctx.academic.accessState ≠ some "REVOKED"
  notSuspended : ctx.academic.accessState ≠ some "SUSPENDED"
  advised : ¬ Deferred ctx
  contact : noContact ctx = false

/-- The instants, in microseconds, that ISO-8601 gives to texts, where one without a zone is taken
as UTC. What `datetime.fromisoformat` reads is among them. -/
structure IsoReading (env : RuleEnv) where
  instant : String → Option Int
  reads : ∀ s last, env.fromIsoformat (s.replace "Z" "+00:00") = some last →
    instant s = some last.utc

/-- The reading of the texts that `datetime.fromisoformat` reads, and of no other. -/
def IsoReading.python (env : RuleEnv) : IsoReading env where
  instant text := (env.fromIsoformat (text.replace "Z" "+00:00")).map Py.DateTime.utc
  reads _ _ h := congrArg (Option.map Py.DateTime.utc) h

def Within (env : RuleEnv) (instant : Int) (excl : Py.Value) : Prop :=
  ∃ hours, excl.num? = some hours ∧ ((env.now - instant : Int) : Rat) / Py.microsPerHour < hours

/-- The last contact is an instant within the resolved exclusion window. -/
structure ContactedWithin (env : RuleEnv) (iso : IsoReading env) (ctx : EligibilityContext)
    (text : String) : Prop where
  last : ctx.operational.lastContactTimestamp = some text
  nonempty : text ≠ ""
  within : ∃ excl instant, t ctx kExclWindow = some excl ∧ iso.instant text = some instant ∧
    Within env instant excl

/-- The result is scope NONE with the code of RULE 7. -/
def FailsClosed (env : RuleEnv) (ctx : EligibilityContext) : Prop :=
  ∃ a, assessOrchestrationEligibility env ctx = .ok a ∧ a.eligibilityScope = .none ∧
    "EXCLUSION_WINDOW_ACTIVE" ∈ a.reasonCodes

/-- The text, with its `Z` replaced, is read as a datetime that has a zone. -/
def Zoned (env : RuleEnv) (text : String) : Prop :=
  ∃ m, env.fromIsoformat (text.replace "Z" "+00:00") = some (.aware m)

section
variable {env : RuleEnv} {ctx : EligibilityContext} {text : String}

theorem withinWindow_zoned (hzone : env.fromIsoformat (text.replace "Z" "+00:00") = some (.aware m))
    (hwithin : Within env m excl) : withinWindow env text excl = .ok true := by
  obtain ⟨hours, hhours, hlt⟩ := hwithin
  have hread : fromIsoformatZ env text = .ok (.aware m) := by rw [fromIsoformatZ, hzone]
  rw [withinWindow, hread]
  change Py.ltValue _ excl = _
  rw [Py.ltValue, hhours]
  exact congrArg Except.ok (decide_eq_true hlt)

/-- The subtraction from an aware now raises on a datetime without a zone. -/
theorem zoned_of_withinWindow (h : withinWindow env text excl = .ok true) : Zoned env text := by
  obtain ⟨last, hlast, h⟩ := Py.bind_eq_ok.1 h
  obtain ⟨elapsed, hsub, -⟩ := Py.bind_eq_ok.1 h
  rw [fromIsoformatZ] at hlast
  split at hlast
  · next time htime =>
    cases hlast
    cases last with
    | naive m => cases hsub
    | aware m => exact ⟨m, htime⟩
  · cases hlast

/-- Of the last contacts within the window RULE 7 sees those that have a zone. -/
theorem exclusionActive_iff_zoned (iso : IsoReading env) (h : ContactedWithin env iso ctx text) :
    ExclusionActive env ctx ↔ Zoned env text := by
  obtain ⟨hlast, hne, excl, instant, hexcl, hinstant, hwithin⟩ := h
  constructor
  · intro hactive
    obtain ⟨excl', text', -, hlast', -, hactive⟩ := hactive
    cases hlast.symm.trans hlast'
    exact zoned_of_withinWindow hactive
  · intro hzoned
    obtain ⟨m, hm⟩ := hzoned
    cases hinstant.symm.trans (iso.reads text _ hm)
    exact ⟨excl, text, hexcl, hlast, hne, withinWindow_zoned hm hwithin⟩

theorem rule7_codes_exit (h : ExclusionActive env ctx) (s : Evaluation) :
    ∃ e, rule7 env ctx s = .ok (.exit e) ∧ e.evaluation.scope = .none ∧
      "EXCLUSION_WINDOW_ACTIVE" ∈ e.evaluation.codes := by
  obtain ⟨excl, lastContact, hexcl, hlast, hne, hwithin⟩ := h
  rw [rule7]
  rw [hexcl, hlast]
  simp only [if_neg hne, hwithin]
  exact ⟨_, rfl, rfl, List.mem_append_right _ (List.mem_singleton_self _)⟩

def laterRules (env : RuleEnv) (ctx : EligibilityContext) : List (Rule Evaluation Emission) :=
  [rule7 env ctx, rule10 ctx, rule8 ctx, rule9 ctx, rule11 ctx]

theorem eval_atRule7 (env : RuleEnv) (h : ReachesRule7 ctx) :
    ∃ s, eval rule12 (rules env ctx) (start ctx) = eval rule12 (laterRules env ctx) s := by
  obtain ⟨s, hs, -⟩ := rule5_hands_on h.advised
    (((((start ctx).rule "RULE_1").rule "RULE_2").rule "RULE_4"))
  refine ⟨s.rule "RULE_6", ?_⟩
  rw [rules, eval_next ((rule1_guards _).passes h.opened _),
    eval_next ((rule2_guards _).passes (ne_true_of_eq_false h.free) _),
    eval_next (rule4_open h.notRevoked h.notSuspended _), eval_next hs,
    eval_next (rule6_contact h.contact _), laterRules]

/-- An evaluation that reaches RULE 7 fails closed exactly when the condition of RULE 7 holds. -/
theorem failsClosed_iff_exclusionActive (h : ReachesRule7 ctx) :
    FailsClosed env ctx ↔ ExclusionActive env ctx := by
  constructor
  · intro hclosed
    obtain ⟨a, ha, -, hcode⟩ := hclosed
    by_contra hactive
    have hflag : ∀ key, thresholdMissingFlag key ≠ "EXCLUSION_WINDOW_ACTIVE" :=
      fun key => thresholdMissingFlag_ne key (by decide)
    have hother : ∀ code ∈ a.reasonCodes, code ≠ "EXCLUSION_WINDOW_ACTIVE" :=
      assess_codes (by decide) hflag (fun h => absurd h hactive) (fun _ => by decide) h.governed ha
    exact hother _ hcode rfl
  · intro hactive
    obtain ⟨s, hs⟩ := eval_atRule7 env h
    obtain ⟨e, he, hscope, hcode⟩ := rule7_codes_exit hactive s
    refine ⟨emit env ctx e, ?_, hscope, hcode⟩
    rw [assessOrchestrationEligibility, if_neg (not_not_intro h.governed), hs, laterRules,
      eval_exit he]
    rfl

def EligibilityContext.withoutLastContact (ctx : EligibilityContext) : EligibilityContext :=
  { ctx with operational := { ctx.operational with lastContactTimestamp := none } }

theorem exclusionActive_withoutLastContact (env : RuleEnv) (ctx : EligibilityContext) :
    exclusionActive env ctx.withoutLastContact = false := by
  rw [exclusionActive]
  split
  · next hlast => cases hlast
  · rfl

theorem ending_unseen (h : ¬ ExclusionActive env ctx) :
    ending env ctx = ending env ctx.withoutLastContact := by
  have hunseen : exclusionActive env ctx = false :=
    Bool.not_eq_true _ ▸ mt (exclusionActive_iff env ctx).1 h
  simp only [ending]
  rw [hunseen, exclusionActive_withoutLastContact]
  rfl

/-- The exclusion window fails closed on the last contacts that carry a zone, and on no other. -/
theorem exclusion_failsClosed_iff (iso : IsoReading env) (h : ReachesRule7 ctx)
    (hwithin : ContactedWithin env iso ctx text) : FailsClosed env ctx ↔ Zoned env text :=
  (failsClosed_iff_exclusionActive h).trans (exclusionActive_iff_zoned iso hwithin)

end

/-- A student contacted on 2026-01-01 at noon, under a window of a day. -/
def contactedContext (lastContact : String) : EligibilityContext where
  governance :=
    { configVersionId := some "v1"
      configVersionStatus := "ACTIVE"
      configRuleSet := [("outreach_exclusion_window_hours", .int 24)]
      executionMode := "SHADOW"
      executionType := "original"
      correlationId := some "c1"
      causationId := none
      attributionContext :=
        [("origin_source", .str "worker"), ("origin_authority", .str "worker"),
          ("actor_identity", .str "worker"), ("attribution_timestamp", .str "2026-01-01T00:00:00Z")]
      fingerprintContext := none
      idempotencyKey := none }
  academic :=
    { userId := none
      accessState := some "ACTIVE"
      hwsBehind := none
      avgEffRating := none
      lastActivityDays := none
      paymentBalance := none
      email := some "student@example.org"
      phoneNumber := none }
  operational :=
    { outreachState := some "ELIGIBLE"
      contactAttemptCount := 0
      retryEligible := false
      lastContactTimestamp := some lastContact }
  ai :=
    { aiInsightState := none
      aiConfidenceScore := none
      aiStaleFlag := false
      aiFinalizedCopy := false }

def noon : Int := 739616 * 86400000000 + 43200000000

def afternoonEnv (text : String) (time : Py.DateTime) : RuleEnv where
  now := noon + 3600000000
  fromIsoformat s := if s = text.replace "Z" "+00:00" then some time else none
  sha256 _ := ""

theorem afternoonEnv_reads (text : String) (time : Py.DateTime) :
    (afternoonEnv text time).fromIsoformat (text.replace "Z" "+00:00") = some time := if_pos rfl

theorem contactedContext_reaches (lastContact : String) :
    ReachesRule7 (contactedContext lastContact) where
  governed := rfl
  opened := by simp [contactedContext]
  free := rfl
  notRevoked := by simp [contactedContext]
  notSuspended := by simp [contactedContext]
  advised h := by cases h.1
  contact := rfl

theorem contactedContext_within (hne : text ≠ "") (htime : time.utc = noon) :
    ContactedWithin (afternoonEnv text time) (.python _) (contactedContext text) text where
  last := rfl
  nonempty := hne
  within := by
    refine ⟨.int 24, noon, rfl, ?_, 24, rfl, ?_⟩
    · have hread := congrArg (Option.map Py.DateTime.utc) (afternoonEnv_reads text time)
      exact hread.trans (congrArg some htime)
    · have helapsed : (afternoonEnv text time).now - noon = 3600000000 := by
        change noon + 3600000000 - noon = 3600000000
        omega
      rw [helapsed, Py.microsPerHour]
      decide +kernel

/-- A contact an hour ago, whose text has no zone: the student is an outreach candidate. -/
theorem unzoned_contact_fails_open :
    ReachesRule7 (contactedContext "2026-01-01T12:00:00") ∧
      ContactedWithin (afternoonEnv "2026-01-01T12:00:00" (.naive noon)) (.python _)
        (contactedContext "2026-01-01T12:00:00") "2026-01-01T12:00:00" ∧
      ¬ FailsClosed (afternoonEnv "2026-01-01T12:00:00" (.naive noon))
        (contactedContext "2026-01-01T12:00:00") ∧
      ∃ a, assessOrchestrationEligibility (afternoonEnv "2026-01-01T12:00:00" (.naive noon))
          (contactedContext "2026-01-01T12:00:00") = .ok a ∧ a.eligibilityScope = .outreach := by
  have hreaches := contactedContext_reaches "2026-01-01T12:00:00"
  have hwithin : ContactedWithin (afternoonEnv "2026-01-01T12:00:00" (.naive noon)) (.python _)
      (contactedContext "2026-01-01T12:00:00") "2026-01-01T12:00:00" :=
    contactedContext_within (by decide) rfl
  have hunzoned : ¬ Zoned (afternoonEnv "2026-01-01T12:00:00" (.naive noon))
      "2026-01-01T12:00:00" := by
    intro h
    obtain ⟨m, hm⟩ := h
    cases (afternoonEnv_reads _ _).symm.trans hm
  have hactive := mt (exclusionActive_iff_zoned _ hwithin).1 hunzoned
  refine ⟨hreaches, hwithin, mt (failsClosed_iff_exclusionActive hreaches).1 hactive, ?_⟩
  have hending : ending (afternoonEnv "2026-01-01T12:00:00" (.naive noon))
      (contactedContext "2026-01-01T12:00:00") = .ok (.complete .low) := by
    have hinactive := mt (exclusionActive_iff _ _).1 hactive
    simp only [ending, if_neg hinactive]
    decide +kernel
  obtain ⟨a, ha, hassessed⟩ := (agree_assess _ hreaches.governed).to_ok hending
  exact ⟨a, ha, hassessed.scope⟩

theorem exclusion_failsClosed_iff_zulu :
    FailsClosed (afternoonEnv "2026-01-01T12:00:00Z" (.aware noon))
        (contactedContext "2026-01-01T12:00:00Z") ↔
      Zoned (afternoonEnv "2026-01-01T12:00:00Z" (.aware noon)) "2026-01-01T12:00:00Z" :=
  exclusion_failsClosed_iff (.python _) (contactedContext_reaches _)
    (contactedContext_within (by decide) rfl)

end Eligibility
end StudentSuccess
