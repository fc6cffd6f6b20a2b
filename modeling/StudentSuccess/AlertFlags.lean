import StudentSuccess.AlertSeverity
import Mathlib.Data.List.Nodup

namespace StudentSuccess
namespace Alerts
set_option autoImplicit true

open DecisionList (Clause)

/-- A flag of a domain: its signal is there, and its signal is past what the severity of the
domain compares it with. -/
structure Alarm where
  name : String
  present : Bool
  past : Except Py.Error Bool

def knownDomain (ctx : AlertClassificationContext) : String :=
  if validAlertDomains.contains (domainOf ctx) then domainOf ctx else "unknown"

def alarmOf (domain d name : String) (present : Bool) (past : Except Py.Error Bool) : Alarm where
  name := name
  present := decide (domain = d) && present
  past := if domain = d then past else .ok false

/-- The time a workflow is stuck, against the limit of the domain if it has one. -/
def stuckPast (ctx : AlertClassificationContext) (thresholds : RuleSet) (domain : String) :
    Except Py.Error Bool :=
  if domain = "scheduler" ∨ domain = "orchestration" then
    exceeds thresholds kStuckWorkflowHighHours ctx.workflowStuckHours
  else if domain = "compliance" then
    exceeds thresholds kStuckComplianceHighHours ctx.workflowStuckHours
  else .ok false

def stuckAlarm (ctx : AlertClassificationContext) (thresholds : RuleSet) (domain : String) :
    Alarm where
  name := "WORKFLOW_STUCK"
  present := ctx.workflowStuckHours.isSome
  past := stuckPast ctx thresholds domain

/-- The flags of RULE 8 in their order, each with what it says of its signal. -/
def alarms (ctx : AlertClassificationContext) (thresholds : RuleSet) (domain : String) :
    List Alarm :=
  [alarmOf domain "scheduler" "SCHEDULER_HEARTBEAT_MISSED" ctx.schedulerLagMs.isSome
      (exceeds thresholds kSchedulerHeartbeatMs (schedulerLag ctx)),
    alarmOf domain "synchronization" "SYNC_STALE" ctx.syncLagHours.isSome
      (exceeds thresholds kSyncStaleHours ctx.syncLagHours),
    alarmOf domain "ai" "AI_ABSENT" ctx.aiAbsentHours.isSome
      (exceeds thresholds kAiAbsentCriticalHours ctx.aiAbsentHours),
    alarmOf domain "ai" "AI_STALE" ctx.aiStaleHours.isSome
      (exceeds thresholds kAiStaleHighHours ctx.aiStaleHours),
    alarmOf domain "provider" "CIRCUIT_BREAKER_OPEN" ctx.circuitBreakerOpen
      (.ok ctx.circuitBreakerOpen),
    alarmOf domain "provider" "PROVIDER_OUTAGE" ctx.providerOutageActive
      (.ok ctx.providerOutageActive),
    alarmOf domain "provider" "PROVIDER_RETRY_EXHAUSTED" ctx.retryCount.isSome
      (reaches Py.geValue thresholds kProviderRetryLimit (retries ctx)),
    alarmOf domain "compliance" "COMPLIANCE_HOLD_ACTIVE" ctx.complianceHoldActive
      (.ok ctx.complianceHoldActive),
    alarmOf domain "fingerprint" "FINGERPRINT_DIVERGENCE" ctx.fingerprintDivergence
      (.ok ctx.fingerprintDivergence),
    alarmOf domain "observability" "OBSERVABILITY_DEGRADED" ctx.isObservabilityDegraded
      (.ok ctx.isObservabilityDegraded),
    alarmOf domain "attribution" "ATTRIBUTION_DEGRADED" true (.ok true),
    stuckAlarm ctx thresholds domain]

def raised (alarms : List Alarm) : List String := (alarms.filter Alarm.present).map Alarm.name

section
variable {ctx : AlertClassificationContext} {thresholds : RuleSet} {domain : String}

theorem raised_cons (a : Alarm) (rest : List Alarm) :
    raised (a :: rest) = (if a.present then [a.name] else []) ++ raised rest := by
  simp only [raised]
  cases h : a.present <;> simp [h]

theorem degradationFlags_eq (ctx : AlertClassificationContext) (thresholds : RuleSet)
    (domain : String) :
    degradationFlags ctx domain = raised (alarms ctx thresholds domain) := by
  have hflag : ∀ (d : String) (present : Bool) (name : String) (past : Except Py.Error Bool),
      (if domain = d ∧ present then [name] else []) =
        if (alarmOf domain d name present past).present then
          [(alarmOf domain d name present past).name] else [] := by
    intro d present name past
    simp only [alarmOf, Bool.and_eq_true, decide_eq_true_eq]
  unfold degradationFlags alarms
  simp only [raised_cons, ← hflag, List.append_assoc]
  simp only [raised, stuckAlarm, List.filter_nil, List.map_nil, List.append_nil]
  rfl

theorem mem_raised {as : List Alarm} {flag : String} :
    flag ∈ raised as ↔ ∃ a ∈ as, a.present = true ∧ a.name = flag := by
  simp only [raised, List.mem_map, List.mem_filter, and_assoc]

theorem alarm_unique {a a' : Alarm} (h : a ∈ alarms ctx thresholds domain)
    (h' : a' ∈ alarms ctx thresholds domain) (hname : a.name = a'.name) : a = a' := by
  have hnames : ((alarms ctx thresholds domain).map Alarm.name).Nodup := by
    simp only [alarms, alarmOf, stuckAlarm, List.map_cons, List.map_nil]
    decide
  exact List.inj_on_of_nodup_map hnames h h' hname

theorem reaches_isSome {rel : Rat → Py.Value → Except Py.Error Bool} {key : String}
    {signal : Option Rat} (h : reaches rel thresholds key signal = .ok true) :
    signal.isSome = true := by
  cases signal with
  | none => cases h
  | some x => rfl

theorem schedulerLag_isSome (ctx : AlertClassificationContext) :
    (schedulerLag ctx).isSome = ctx.schedulerLagMs.isSome := by
  rw [schedulerLag_eq, Option.isSome_map]

theorem retries_isSome (ctx : AlertClassificationContext) :
    (retries ctx).isSome = ctx.retryCount.isSome := by
  rw [retries_eq, Option.isSome_map]

theorem ok_true {b : Bool} (h : (.ok b : Except Py.Error Bool) = .ok true) : b = true := by
  cases h
  rfl

end

/-- The flag is due: its signal is there and past the limit of the domain. -/
def Due (ctx : AlertClassificationContext) (thresholds : RuleSet) (flag : String) : Prop :=
  ∃ a ∈ alarms ctx thresholds (knownDomain ctx),
    a.name = flag ∧ a.present = true ∧ a.past = .ok true

/-- The flags that are raised are those that are due. -/
def FlagsFaithful (ctx : AlertClassificationContext) (thresholds : RuleSet) : Prop :=
  ∀ flag, flag ∈ degradationFlags ctx (knownDomain ctx) ↔ Due ctx thresholds flag

/-- A severity that calls for an escalation is assigned for a flag that is raised. -/
def ReasonsFlagged (ctx : AlertClassificationContext) (thresholds : RuleSet) : Prop :=
  ∀ g, grade ctx thresholds = .ok g → g.severity.Grave →
    ∃ flag, g.reason = some flag ∧ flag ∈ degradationFlags ctx (knownDomain ctx)

/-- Every signal that the domain has a flag for is past its limit, if it is there. -/
def SignalsPast (ctx : AlertClassificationContext) (thresholds : RuleSet) : Prop :=
  ∀ a ∈ alarms ctx thresholds (knownDomain ctx), a.present = true → a.past = .ok true

section
variable {ctx : AlertClassificationContext} {thresholds : RuleSet} {domain : String}

theorem flagsFaithful_iff : FlagsFaithful ctx thresholds ↔ SignalsPast ctx thresholds := by
  rw [FlagsFaithful]
  rw [degradationFlags_eq ctx thresholds]
  simp only [mem_raised]
  constructor
  · intro h a ha hpresent
    obtain ⟨a', ha', hname, -, hpast⟩ := (h a.name).1 ⟨a, ha, hpresent, rfl⟩
    rwa [alarm_unique ha ha' hname.symm]
  · rintro h flag
    constructor
    · rintro ⟨a, ha, hpresent, hname⟩
      exact ⟨a, ha, hname, hpresent, h a ha hpresent⟩
    · rintro ⟨a, ha, hname, hpresent, -⟩
      exact ⟨a, ha, hpresent, hname⟩

theorem knownDomain_eq (h : domainOf ctx = domain)
    (hknown : validAlertDomains.contains domain = true) : knownDomain ctx = domain := by
  rw [knownDomain]
  rw [h, if_pos hknown]

theorem own_flag (thresholds : RuleSet) (n : Nat) {d name : String} {present : Bool}
    {past : Except Py.Error Bool}
    (ha : (alarms ctx thresholds (knownDomain ctx))[n]? =
      some (alarmOf (knownDomain ctx) d name present past))
    (hdomain : knownDomain ctx = d) (hpresent : present = true) :
    name ∈ degradationFlags ctx (knownDomain ctx) := by
  rw [degradationFlags_eq ctx thresholds, mem_raised]
  refine ⟨_, List.mem_of_getElem? ha, ?_, rfl⟩
  simp only [alarmOf, hpresent, decide_eq_true hdomain, Bool.and_true]

theorem stuck_flag (hpresent : ctx.workflowStuckHours.isSome = true) :
    "WORKFLOW_STUCK" ∈ degradationFlags ctx (knownDomain ctx) := by
  rw [degradationFlags_eq ctx [], mem_raised]
  refine ⟨stuckAlarm ctx [] (knownDomain ctx), ?_, hpresent, rfl⟩
  simp only [alarms, List.mem_cons, or_true, true_or]

/-- The clauses that hold and are grave have a flag for their reason, and it is raised. -/
def Flags (ctx : AlertClassificationContext) (clauses : List (Clause Py.Error Grade)) : Prop :=
  ∀ c ∈ clauses, c.condition = .ok true → c.verdict.severity.Grave →
    ∃ flag, c.verdict.reason = some flag ∧ flag ∈ degradationFlags ctx (knownDomain ctx)

theorem flags_nil : Flags ctx [] := nofun

theorem flags_cons {x : Except Py.Error Bool} {severity : Severity} {flag : String}
    {rest : List (Clause Py.Error Grade)}
    (h : x = .ok true → flag ∈ degradationFlags ctx (knownDomain ctx)) (hrest : Flags ctx rest) :
    Flags ctx (clause x severity (some flag) :: rest) := by
  intro c hc hholds hgrave
  rcases List.mem_cons.1 hc with rfl | hmem
  · exact ⟨flag, rfl, h hholds⟩
  · exact hrest c hmem hholds hgrave

theorem flags_mild {x : Except Py.Error Bool} {severity : Severity} {reason : Option String}
    (h : ¬ severity.Grave) : Flags ctx [clause x severity reason] := by
  intro c hc _ hgrave
  rw [List.mem_singleton.1 hc] at hgrave
  exact absurd hgrave h

theorem flags_ite {p : Prop} [Decidable p] {xs ys : List (Clause Py.Error Grade)}
    (hx : p → Flags ctx xs) (hy : ¬ p → Flags ctx ys) : Flags ctx (if p then xs else ys) := by
  by_cases h : p
  · rw [if_pos h]
    exact hx h
  · rw [if_neg h]
    exact hy h

theorem medium_mild : ¬ Severity.medium.Grave := by simp [Severity.Grave]

theorem info_mild : ¬ Severity.info.Grave := by simp [Severity.Grave]

theorem holdStuck_eq_true (h : holdStuck ctx thresholds = .ok true) :
    ctx.workflowStuckHours.isSome = true := by
  rw [holdStuck] at h
  split_ifs at h
  · exact reaches_isSome h
  · cases h

/-- Outside of orchestration, the reasons of grave severities have raised their flags. -/
theorem severityLadder_flags (thresholds : RuleSet) (h : domainOf ctx ≠ "orchestration") :
    Flags ctx (severityLadder ctx thresholds) := by
  rw [severityLadder]
  refine flags_ite (fun hscheduler => ?_) fun _ => ?_
  · have hflag := own_flag thresholds 0 rfl (knownDomain_eq hscheduler (by decide))
    exact flags_cons (fun hpast => hflag (schedulerLag_isSome ctx ▸ reaches_isSome hpast))
      (flags_cons (fun hpast => stuck_flag (reaches_isSome hpast))
        (flags_cons (fun hpresent => hflag (ok_true hpresent)) flags_nil))
  refine flags_ite (fun hsync => ?_) fun _ => ?_
  · have hflag := own_flag thresholds 1 rfl (knownDomain_eq hsync (by decide))
    exact flags_cons (fun hpast => hflag (reaches_isSome hpast)) (flags_mild medium_mild)
  refine flags_ite (fun hai => ?_) fun _ => ?_
  · have hknown := knownDomain_eq hai (by decide)
    exact flags_cons (fun hpast => own_flag thresholds 2 rfl hknown (reaches_isSome hpast))
      (flags_cons (fun hpast => own_flag thresholds 3 rfl hknown (reaches_isSome hpast))
        (flags_mild medium_mild))
  refine flags_ite (fun hprovider => ?_) fun _ => ?_
  · have hknown := knownDomain_eq hprovider (by decide)
    have hretries := own_flag thresholds 6 rfl hknown
    exact flags_cons (fun hopen => own_flag thresholds 4 rfl hknown (ok_true hopen))
      (flags_cons (fun houtage => own_flag thresholds 5 rfl hknown (ok_true houtage))
        (flags_cons (fun hpast => hretries (retries_isSome ctx ▸ reaches_isSome hpast))
          (flags_mild medium_mild)))
  refine flags_ite (fun hcompliance => ?_) fun _ => ?_
  · have hknown := knownDomain_eq hcompliance (by decide)
    exact flags_cons (fun hpast => stuck_flag (holdStuck_eq_true hpast))
      (flags_cons (fun hhold => own_flag thresholds 7 rfl hknown (ok_true hhold)) flags_nil)
  refine flags_ite (fun horchestration => absurd horchestration h) fun _ => ?_
  refine flags_ite (fun _ => flags_mild medium_mild) fun _ => ?_
  refine flags_ite (fun hattribution => ?_) fun _ => ?_
  · have hknown := knownDomain_eq hattribution (by decide)
    exact flags_cons (fun _ => own_flag thresholds 10 rfl hknown rfl) flags_nil
  refine flags_ite (fun _ => flags_mild medium_mild) fun _ => ?_
  exact flags_ite (fun _ => flags_mild info_mild) fun _ => flags_nil

theorem ungraded_mild : ¬ ungraded.severity.Grave := by simp [Severity.Grave, ungraded]

theorem reasonsFlagged_of_ne (h : domainOf ctx ≠ "orchestration") :
    ReasonsFlagged ctx thresholds := by
  intro g hg hgrave
  rcases DecisionList.decide_eq_ok hg with rfl | ⟨c, hc, hholds, rfl⟩
  · exact absurd hgrave ungraded_mild
  · exact severityLadder_flags thresholds h c hc hholds hgrave

/-- What orchestration asks: it is grave whether the workflow is stuck or not. -/
theorem severityLadder_orchestration (h : domainOf ctx = "orchestration") :
    severityLadder ctx thresholds =
      [clause (exceeds thresholds kStuckWorkflowHighHours ctx.workflowStuckHours) .high
          "WORKFLOW_STUCK",
        clause (.ok true) .high none] := by
  rw [severityLadder]
  rw [h]
  simp

/-- The base line of orchestration is a severity without a flag. -/
theorem reasonsFlagged_orchestration (h : domainOf ctx = "orchestration") :
    ReasonsFlagged ctx thresholds ↔
      exceeds thresholds kStuckWorkflowHighHours ctx.workflowStuckHours ≠ .ok false := by
  rw [ReasonsFlagged, grade]
  rw [severityLadder_orchestration h]
  constructor
  · intro hflagged hpast
    obtain ⟨flag, hreason, -⟩ :=
      hflagged _ ((DecisionList.decide_fails hpast).trans (DecisionList.decide_holds rfl))
        (.inl rfl)
    cases hreason
  · intro hpast g hg _
    obtain ⟨hholds, rfl⟩ | ⟨hfails, -⟩ := DecisionList.decide_cons_eq_ok hg
    · exact ⟨_, rfl, stuck_flag (reaches_isSome hholds)⟩
    · exact absurd hfails hpast

theorem knownDomain_iff (ctx : AlertClassificationContext) (domain : String)
    (hknown : validAlertDomains.contains domain = true) :
    knownDomain ctx = domain ↔ domainOf ctx = domain := by
  refine ⟨fun h => ?_, fun h => knownDomain_eq h hknown⟩
  rw [knownDomain] at h
  split_ifs at h
  · exact h
  · rw [← h] at hknown
    exact absurd hknown (by decide)

theorem stuckPast_known (ctx : AlertClassificationContext) (thresholds : RuleSet) :
    stuckPast ctx thresholds (knownDomain ctx) = stuckPast ctx thresholds (domainOf ctx) := by
  have hscheduler := knownDomain_iff ctx "scheduler" (by decide)
  have horchestration := knownDomain_iff ctx "orchestration" (by decide)
  have hcompliance := knownDomain_iff ctx "compliance" (by decide)
  simp only [stuckPast, hscheduler, horchestration, hcompliance]

theorem alarmOf_past_iff {d name : String} {present : Bool} {past : Except Py.Error Bool} :
    ((alarmOf domain d name present past).present = true →
        (alarmOf domain d name present past).past = .ok true) ↔
      (domain = d → present = true → past = .ok true) := by
  simp only [alarmOf, Bool.and_eq_true, decide_eq_true_eq]
  constructor
  · intro h hdomain hpresent
    simpa only [if_pos hdomain] using h ⟨hdomain, hpresent⟩
  · rintro h ⟨hdomain, hpresent⟩
    rw [if_pos hdomain]
    exact h hdomain hpresent

end

/-- The measured signals of the domain are past its limits, if they are there; orchestration has
the signal that its severity is assigned for. -/
structure PastLimits (ctx : AlertClassificationContext) (thresholds : RuleSet) : Prop where
  heartbeat : domainOf ctx = "scheduler" → ctx.schedulerLagMs.isSome = true →
    exceeds thresholds kSchedulerHeartbeatMs (schedulerLag ctx) = .ok true
  stale : domainOf ctx = "synchronization" → ctx.syncLagHours.isSome = true →
    exceeds thresholds kSyncStaleHours ctx.syncLagHours = .ok true
  aiAbsent : domainOf ctx = "ai" → ctx.aiAbsentHours.isSome = true →
    exceeds thresholds kAiAbsentCriticalHours ctx.aiAbsentHours = .ok true
  aiStale : domainOf ctx = "ai" → ctx.aiStaleHours.isSome = true →
    exceeds thresholds kAiStaleHighHours ctx.aiStaleHours = .ok true
  retries : domainOf ctx = "provider" → ctx.retryCount.isSome = true →
    reaches Py.geValue thresholds kProviderRetryLimit (retries ctx) = .ok true
  stuck : ctx.workflowStuckHours.isSome = true → stuckPast ctx thresholds (domainOf ctx) = .ok true
  orchestration : domainOf ctx = "orchestration" → ctx.workflowStuckHours.isSome = true

/-- The flags and the severity agree on what is degraded. -/
def Faithful (ctx : AlertClassificationContext) (thresholds : RuleSet) : Prop :=
  FlagsFaithful ctx thresholds ∧ ReasonsFlagged ctx thresholds

section
variable {ctx : AlertClassificationContext} {thresholds : RuleSet}

theorem signalsPast_of_pastLimits (h : PastLimits ctx thresholds) :
    SignalsPast ctx thresholds := by
  simp only [SignalsPast, alarms, List.forall_mem_cons, alarmOf_past_iff]
  refine ⟨fun hd => h.heartbeat ((knownDomain_iff ctx _ (by decide)).1 hd),
    fun hd => h.stale ((knownDomain_iff ctx _ (by decide)).1 hd),
    fun hd => h.aiAbsent ((knownDomain_iff ctx _ (by decide)).1 hd),
    fun hd => h.aiStale ((knownDomain_iff ctx _ (by decide)).1 hd),
    fun _ => congrArg Except.ok, fun _ => congrArg Except.ok,
    fun hd => h.retries ((knownDomain_iff ctx _ (by decide)).1 hd),
    fun _ => congrArg Except.ok, fun _ => congrArg Except.ok, fun _ => congrArg Except.ok,
    fun _ _ => trivial, ?_, nofun⟩
  intro hstuck
  exact (stuckPast_known ctx thresholds).trans (h.stuck hstuck)

theorem stuckPast_orchestration (h : domainOf ctx = "orchestration") :
    stuckPast ctx thresholds (domainOf ctx) =
      exceeds thresholds kStuckWorkflowHighHours ctx.workflowStuckHours := by
  rw [stuckPast]
  rw [if_pos (.inr h)]

theorem pastLimits_of_signalsPast (h : SignalsPast ctx thresholds)
    (hstuck : domainOf ctx = "orchestration" → ctx.workflowStuckHours.isSome = true) :
    PastLimits ctx thresholds := by
  simp only [SignalsPast, alarms, List.forall_mem_cons, alarmOf_past_iff] at h
  obtain ⟨hlag, hsync, habsent, hstale, -, -, hretries, -, -, -, -, hworkflow, -⟩ := h
  exact {
    heartbeat := fun hd => hlag ((knownDomain_iff ctx _ (by decide)).2 hd)
    stale := fun hd => hsync ((knownDomain_iff ctx _ (by decide)).2 hd)
    aiAbsent := fun hd => habsent ((knownDomain_iff ctx _ (by decide)).2 hd)
    aiStale := fun hd => hstale ((knownDomain_iff ctx _ (by decide)).2 hd)
    retries := fun hd => hretries ((knownDomain_iff ctx _ (by decide)).2 hd)
    stuck := fun hpresent => (stuckPast_known ctx thresholds).symm.trans (hworkflow hpresent)
    orchestration := hstuck }

/-- Flags and severity agree exactly on signals that are past their limits. -/
theorem faithful_iff_pastLimits (ctx : AlertClassificationContext) (thresholds : RuleSet) :
    Faithful ctx thresholds ↔ PastLimits ctx thresholds := by
  rw [Faithful]
  rw [flagsFaithful_iff]
  constructor
  · rintro ⟨hsignals, hreasons⟩
    apply pastLimits_of_signalsPast hsignals
    intro hdomain
    cases hstuck : ctx.workflowStuckHours with
    | some x => rfl
    | none =>
      refine absurd ?_ ((reasonsFlagged_orchestration hdomain).1 hreasons)
      rw [hstuck]
      rfl
  · intro h
    refine ⟨signalsPast_of_pastLimits h, ?_⟩
    by_cases hdomain : domainOf ctx = "orchestration"
    · rw [reasonsFlagged_orchestration hdomain, ← stuckPast_orchestration hdomain,
        h.stuck (h.orchestration hdomain)]
      exact nofun
    · exact reasonsFlagged_of_ne hdomain

/-- What the classification records: the flags of RULE 8, beside the severity of the ladder. -/
theorem evaluate_flags {record : DegradationAlertRecord} (h : evaluate ctx = .ok record) :
    record.degradationFlags = degradationFlags ctx (knownDomain ctx) ∧
      (grade ctx (resolveAlertThresholds ctx)).map Grade.severity = .ok record.severity := by
  obtain ⟨severity, hseverity, h⟩ := Py.bind_eq_ok.1 h
  cases h
  exact ⟨rfl, (classifySeverity_eq _ _).symm.trans hseverity⟩

end

def firstAttempt : AlertClassificationContext where
  configVersionId := some "v1"
  executionMode := "LIVE"
  executionType := "original"
  correlationId := some "c1"
  degradationDomain := some "provider"
  failureCause := none
  errorClass := none
  configRuleSet := some [(kProviderRetryLimit, .int 3)]
  originSource := some "scheduler"
  originAuthority := some "platform"
  actorIdentity := some "system"
  retryCount := some 0

/-- No retry of three is taken for all of them. -/
theorem first_attempt_exhausted :
    (∃ record, (classifyDegradationAlert [] firstAttempt).2 = .ok record ∧
      record.severity = .medium ∧ record.degradationFlags = ["PROVIDER_RETRY_EXHAUSTED"]) ∧
    ¬ Faithful firstAttempt (resolveAlertThresholds firstAttempt) := by
  have hretries : reaches Py.geValue (resolveAlertThresholds firstAttempt) kProviderRetryLimit
      (retries firstAttempt) = .ok false := by
    decide +kernel
  refine ⟨⟨_, rfl, rfl, rfl⟩, ?_⟩
  rintro ⟨hflags, -⟩
  have halarm : alarmOf "provider" "provider" "PROVIDER_RETRY_EXHAUSTED" true
      (reaches Py.geValue (resolveAlertThresholds firstAttempt) kProviderRetryLimit
        (retries firstAttempt)) ∈
      alarms firstAttempt (resolveAlertThresholds firstAttempt) (knownDomain firstAttempt) :=
    List.mem_of_getElem? (i := 6) rfl
  cases hretries.symm.trans (flagsFaithful_iff.1 hflags _ halarm rfl)

end Alerts
end StudentSuccess
