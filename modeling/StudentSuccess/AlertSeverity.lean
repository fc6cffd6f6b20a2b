import StudentSuccess.MalformedThresholds
import StudentSuccess.DecisionList
import Mathlib.Data.Option.Basic

namespace StudentSuccess
namespace Alerts
set_option autoImplicit true

open DecisionList (Clause Implies Widens)

/-- The place of a severity; no classification is below them all. -/
def Severity.rank : Severity → Nat
  | .unknown => 0
  | .info => 1
  | .medium => 2
  | .high => 3
  | .critical => 4

/-- A severity with the flag of the signal that it is assigned for, if there is such a flag. -/
structure Grade where
  severity : Severity
  reason : Option String

instance : Preorder Grade := Preorder.lift fun grade => grade.severity.rank

def ungraded : Grade := ⟨.unknown, none⟩

def clause (condition : Except Py.Error Bool) (severity : Severity) (reason : Option String) :
    Clause Py.Error Grade := ⟨condition, severity, reason⟩

def holdStuck (ctx : AlertClassificationContext) (thresholds : RuleSet) : Except Py.Error Bool :=
  if ctx.complianceHoldActive then
    exceeds thresholds kStuckComplianceHighHours ctx.workflowStuckHours
  else .ok false

/-- The questions that the severity of a domain asks, in their order. -/
def severityLadder (ctx : AlertClassificationContext) (thresholds : RuleSet) :
    List (Clause Py.Error Grade) :=
  let domain := domainOf ctx
  if domain = "scheduler" then
    [clause (exceeds thresholds kSchedulerHeartbeatMs (schedulerLag ctx)) .critical
        "SCHEDULER_HEARTBEAT_MISSED",
      clause (exceeds thresholds kStuckWorkflowHighHours ctx.workflowStuckHours) .high
        "WORKFLOW_STUCK",
      clause (.ok ctx.schedulerLagMs.isSome) .high "SCHEDULER_HEARTBEAT_MISSED"]
  else if domain = "synchronization" then
    [clause (exceeds thresholds kSyncStaleHours ctx.syncLagHours) .high "SYNC_STALE",
      clause (.ok ctx.syncLagHours.isSome) .medium "SYNC_STALE"]
  else if domain = "ai" then
    [clause (exceeds thresholds kAiAbsentCriticalHours ctx.aiAbsentHours) .critical "AI_ABSENT",
      clause (exceeds thresholds kAiStaleHighHours ctx.aiStaleHours) .high "AI_STALE",
      clause (.ok (ctx.aiStaleHours.isSome || ctx.aiAbsentHours.isSome)) .medium none]
  else if domain = "provider" then
    [clause (.ok ctx.circuitBreakerOpen) .critical "CIRCUIT_BREAKER_OPEN",
      clause (.ok ctx.providerOutageActive) .high "PROVIDER_OUTAGE",
      clause (reaches Py.geValue thresholds kProviderRetryLimit (retries ctx)) .high
        "PROVIDER_RETRY_EXHAUSTED",
      clause (.ok ctx.retryCount.isSome) .medium "PROVIDER_RETRY_EXHAUSTED"]
  else if domain = "compliance" then
    [clause (holdStuck ctx thresholds) .critical "WORKFLOW_STUCK",
      clause (.ok ctx.complianceHoldActive) .high "COMPLIANCE_HOLD_ACTIVE"]
  else if domain = "orchestration" then
    [clause (exceeds thresholds kStuckWorkflowHighHours ctx.workflowStuckHours) .high
        "WORKFLOW_STUCK",
      clause (.ok true) .high none]
  else if domain = "observability" then
    [clause (.ok ctx.isObservabilityDegraded) .medium "OBSERVABILITY_DEGRADED"]
  else if domain = "attribution" then [clause (.ok true) .high "ATTRIBUTION_DEGRADED"]
  else if domain = "fingerprint" then
    [clause (.ok ctx.fingerprintDivergence) .medium "FINGERPRINT_DIVERGENCE"]
  else if domain = "replay" then [clause (.ok true) .info none]
  else []

def grade (ctx : AlertClassificationContext) (thresholds : RuleSet) : Except Py.Error Grade :=
  DecisionList.decide ungraded (severityLadder ctx thresholds)

section
variable {ctx ctx' : AlertClassificationContext} {thresholds : RuleSet}

theorem test_eq {x : Except Py.Error Bool} {rest : Except Py.Error Severity}
    {clauses : List (Clause Py.Error Grade)} (severity : Severity) (reason : Option String)
    (h : rest = (DecisionList.decide ungraded clauses).map Grade.severity) :
    (x >>= fun b => if b then pure severity else rest) =
      (DecisionList.decide ungraded (clause x severity reason :: clauses)).map Grade.severity := by
  match x with
  | .error e => rfl
  | .ok true => rfl
  | .ok false => exact h

theorem ite_eq {b : Bool} {rest : Except Py.Error Severity}
    {clauses : List (Clause Py.Error Grade)} (severity : Severity) (reason : Option String)
    (h : rest = (DecisionList.decide ungraded clauses).map Grade.severity) :
    (if b then pure severity else rest) =
      (DecisionList.decide ungraded (clause (.ok b) severity reason :: clauses)).map
        Grade.severity := by
  cases b with
  | true => rfl
  | false => exact h

theorem signalled_eq (severity : Severity) (present : Bool) (reason : Option String) :
    .ok (signalled severity present) =
      (DecisionList.decide ungraded [clause (.ok present) severity reason]).map Grade.severity := by
  cases present <;> rfl

theorem ladder_ite {p : Prop} [Decidable p] {x y : Except Py.Error Severity}
    {xs ys : List (Clause Py.Error Grade)}
    (hx : x = (DecisionList.decide ungraded xs).map Grade.severity)
    (hy : y = (DecisionList.decide ungraded ys).map Grade.severity) :
    (if p then x else y) =
      (DecisionList.decide ungraded (if p then xs else ys)).map Grade.severity := by
  by_cases h : p
  · rw [if_pos h, if_pos h]
    exact hx
  · rw [if_neg h, if_neg h]
    exact hy

theorem complianceSeverity_eq (ctx : AlertClassificationContext) (thresholds : RuleSet) :
    complianceSeverity ctx thresholds =
      (DecisionList.decide ungraded
        [clause (holdStuck ctx thresholds) .critical "WORKFLOW_STUCK",
          clause (.ok ctx.complianceHoldActive) .high "COMPLIANCE_HOLD_ACTIVE"]).map
        Grade.severity := by
  rw [complianceSeverity, holdStuck]
  cases ctx.complianceHoldActive with
  | true => exact test_eq .critical _ rfl
  | false => rfl

theorem classifySeverity_eq (ctx : AlertClassificationContext) (thresholds : RuleSet) :
    classifySeverity ctx thresholds = (grade ctx thresholds).map Grade.severity := by
  rw [classifySeverity, grade, severityLadder]
  apply ladder_ite
  · exact test_eq .critical _ (test_eq .high _ (signalled_eq .high _ _))
  apply ladder_ite
  · exact test_eq .high _ (signalled_eq .medium _ _)
  apply ladder_ite
  · exact test_eq .critical _ (test_eq .high _ (signalled_eq .medium _ _))
  apply ladder_ite
  · exact ite_eq .critical _ (ite_eq .high _ (test_eq .high _ (signalled_eq .medium _ _)))
  apply ladder_ite
  · exact complianceSeverity_eq ctx thresholds
  apply ladder_ite
  · exact test_eq .high _ rfl
  apply ladder_ite
  · exact signalled_eq .medium _ _
  apply ladder_ite
  · rfl
  apply ladder_ite
  · exact signalled_eq .medium _ _
  apply ladder_ite
  · rfl
  · rfl

end

/-- A measured signal has become worse: it is there, if it was, and it is at least what it was. -/
def Rises [LE α] (before after : Option α) : Prop :=
  ∀ x, before = some x → ∃ y, after = some y ∧ x ≤ y

theorem Rises.isSome [LE α] {x y : Option α} (h : Rises x y) (hx : x.isSome = true) :
    y.isSome = true := by
  obtain ⟨a, rfl⟩ := Option.isSome_iff_exists.1 hx
  obtain ⟨b, rfl, -⟩ := h a rfl
  rfl

theorem Rises.cast {x y : Option Int} (h : Rises x y) :
    Rises (x.map ((↑) : Int → Rat)) (y.map ((↑) : Int → Rat)) := by
  intro _ hx
  obtain ⟨n, rfl, rfl⟩ := Option.map_eq_some_iff.1 hx
  obtain ⟨m, rfl, hle⟩ := h n rfl
  exact ⟨m, rfl, by exact_mod_cast hle⟩

/-- The same domain, with no degradation signal less than it was. -/
structure AlertClassificationContext.Worsens (ctx ctx' : AlertClassificationContext) : Prop where
  domain : ctx'.degradationDomain = ctx.degradationDomain
  schedulerLagMs : Rises ctx.schedulerLagMs ctx'.schedulerLagMs
  syncLagHours : Rises ctx.syncLagHours ctx'.syncLagHours
  aiStaleHours : Rises ctx.aiStaleHours ctx'.aiStaleHours
  aiAbsentHours : Rises ctx.aiAbsentHours ctx'.aiAbsentHours
  retryCount : Rises ctx.retryCount ctx'.retryCount
  workflowStuckHours : Rises ctx.workflowStuckHours ctx'.workflowStuckHours
  circuitBreakerOpen : ctx.circuitBreakerOpen = true → ctx'.circuitBreakerOpen = true
  providerOutageActive : ctx.providerOutageActive = true → ctx'.providerOutageActive = true
  complianceHoldActive : ctx.complianceHoldActive = true → ctx'.complianceHoldActive = true
  fingerprintDivergence : ctx.fingerprintDivergence = true → ctx'.fingerprintDivergence = true
  isObservabilityDegraded :
    ctx.isObservabilityDegraded = true → ctx'.isObservabilityDegraded = true

/-- A comparison that still holds when its left side grows. -/
def Upward (rel : Rat → Py.Value → Except Py.Error Bool) : Prop :=
  ∀ x y v, x ≤ y → rel x v = .ok true → rel y v = .ok true

theorem gtValue_upward : Upward Py.gtValue := by
  intro x y v hle h
  unfold Py.gtValue at *
  cases hv : v.num? with
  | none => simp [hv] at h
  | some z =>
    simp only [hv, Except.ok.injEq, decide_eq_true_eq] at h ⊢
    exact lt_of_lt_of_le h hle

theorem geValue_upward : Upward Py.geValue := by
  intro x y v hle h
  unfold Py.geValue at *
  cases hv : v.num? with
  | none => simp [hv] at h
  | some z =>
    simp only [hv, Except.ok.injEq, decide_eq_true_eq] at h ⊢
    exact le_trans h hle

section
variable {ctx ctx' : AlertClassificationContext} {thresholds : RuleSet}

theorem reaches_implies {rel : Rat → Py.Value → Except Py.Error Bool} (hrel : Upward rel)
    (key : String) {x y : Option Rat} (h : Rises x y) :
    Implies (reaches rel thresholds key x) (reaches rel thresholds key y) := by
  intro hx b hb
  unfold reaches at *
  match x, hlimit : thresholdValue thresholds key with
  | none, _ => simp at hx
  | some a, none => simp [hlimit] at hx
  | some a, some v =>
    obtain ⟨c, rfl, hle⟩ := h a rfl
    simp only [hlimit] at hx hb
    rw [hrel a c v hle hx] at hb
    cases hb
    rfl

theorem exceeds_implies (key : String) {x y : Option Rat} (h : Rises x y) :
    Implies (exceeds thresholds key x) (exceeds thresholds key y) :=
  reaches_implies gtValue_upward key h

theorem ok_implies {x y : Bool} (h : x = true → y = true) :
    Implies (.ok x : Except Py.Error Bool) (.ok y) := by
  intro hx b hb
  cases hx
  cases hb
  exact h rfl

theorem clause_widens {x y : Except Py.Error Bool} (severity : Severity) (reason : Option String)
    (h : Implies x y) : Widens (clause x severity reason) (clause y severity reason) :=
  ⟨h, rfl⟩

theorem widens_ite {p : Prop} [Decidable p] {xs xs' ys ys' : List (Clause Py.Error Grade)}
    (hx : List.Forall₂ Widens xs xs') (hy : List.Forall₂ Widens ys ys') :
    List.Forall₂ Widens (if p then xs else ys) (if p then xs' else ys') := by
  by_cases h : p
  · rw [if_pos h, if_pos h]
    exact hx
  · rw [if_neg h, if_neg h]
    exact hy

theorem schedulerLag_eq (ctx : AlertClassificationContext) :
    schedulerLag ctx = ctx.schedulerLagMs.map ((↑) : Int → Rat) := by
  rw [schedulerLag]
  cases ctx.schedulerLagMs <;> rfl

theorem retries_eq (ctx : AlertClassificationContext) :
    retries ctx = ctx.retryCount.map ((↑) : Int → Rat) := by
  rw [retries]
  cases ctx.retryCount <;> rfl

theorem schedulerLag_rises (h : ctx.Worsens ctx') :
    Rises (schedulerLag ctx) (schedulerLag ctx') := by
  rw [schedulerLag_eq, schedulerLag_eq]
  exact h.schedulerLagMs.cast

theorem retries_rises (h : ctx.Worsens ctx') : Rises (retries ctx) (retries ctx') := by
  rw [retries_eq, retries_eq]
  exact h.retryCount.cast

theorem holdStuck_implies (h : ctx.Worsens ctx') :
    Implies (holdStuck ctx thresholds) (holdStuck ctx' thresholds) := by
  simp only [holdStuck]
  cases hhold : ctx.complianceHoldActive with
  | false =>
    intro hx
    cases hx
  | true =>
    rw [h.complianceHoldActive hhold]
    exact exceeds_implies _ h.workflowStuckHours

/-- Every question that a context answers with yes, a worse one does too. -/
theorem severityLadder_widens (h : ctx.Worsens ctx') (thresholds : RuleSet) :
    List.Forall₂ Widens (severityLadder ctx thresholds) (severityLadder ctx' thresholds) := by
  have hdomain : domainOf ctx' = domainOf ctx := by
    simp only [domainOf]
    rw [h.domain]
  have hlag : Implies (.ok ctx.schedulerLagMs.isSome : Except Py.Error Bool)
      (.ok ctx'.schedulerLagMs.isSome) := ok_implies h.schedulerLagMs.isSome
  have hai : Implies (.ok (ctx.aiStaleHours.isSome || ctx.aiAbsentHours.isSome) :
      Except Py.Error Bool) (.ok (ctx'.aiStaleHours.isSome || ctx'.aiAbsentHours.isSome)) := by
    apply ok_implies
    intro hsignal
    rw [Bool.or_eq_true] at hsignal ⊢
    exact hsignal.imp h.aiStaleHours.isSome h.aiAbsentHours.isSome
  simp only [severityLadder]
  rw [hdomain]
  apply widens_ite
  · exact .cons (clause_widens _ _ (exceeds_implies _ (schedulerLag_rises h)))
      (.cons (clause_widens _ _ (exceeds_implies _ h.workflowStuckHours))
        (.cons (clause_widens _ _ hlag) .nil))
  apply widens_ite
  · exact .cons (clause_widens _ _ (exceeds_implies _ h.syncLagHours))
      (.cons (clause_widens _ _ (ok_implies h.syncLagHours.isSome)) .nil)
  apply widens_ite
  · exact .cons (clause_widens _ _ (exceeds_implies _ h.aiAbsentHours))
      (.cons (clause_widens _ _ (exceeds_implies _ h.aiStaleHours))
        (.cons (clause_widens _ _ hai) .nil))
  apply widens_ite
  · exact .cons (clause_widens _ _ (ok_implies h.circuitBreakerOpen))
      (.cons (clause_widens _ _ (ok_implies h.providerOutageActive))
        (.cons (clause_widens _ _ (reaches_implies geValue_upward _ (retries_rises h)))
          (.cons (clause_widens _ _ (ok_implies h.retryCount.isSome)) .nil)))
  apply widens_ite
  · exact .cons (clause_widens _ _ (holdStuck_implies h))
      (.cons (clause_widens _ _ (ok_implies h.complianceHoldActive)) .nil)
  apply widens_ite
  · exact .cons (clause_widens _ _ (exceeds_implies _ h.workflowStuckHours))
      (.cons (clause_widens _ _ (ok_implies id)) .nil)
  apply widens_ite
  · exact .cons (clause_widens _ _ (ok_implies h.isObservabilityDegraded)) .nil
  apply widens_ite
  · exact .cons (clause_widens _ _ (ok_implies id)) .nil
  apply widens_ite
  · exact .cons (clause_widens _ _ (ok_implies h.fingerprintDivergence)) .nil
  apply widens_ite
  · exact .cons (clause_widens _ _ (ok_implies id)) .nil
  · exact .nil

/-- In every domain the graver severity is asked for first. -/
theorem severityLadder_falling (ctx : AlertClassificationContext) (thresholds : RuleSet) :
    DecisionList.Falling ungraded (severityLadder ctx thresholds) := by
  have hrank : ∀ g g' : Grade, g ≤ g' ↔ g.severity.rank ≤ g'.severity.rank := by
    intro g g'
    rfl
  have hite : ∀ {p : Prop} [Decidable p] {xs ys : List (Clause Py.Error Grade)},
      DecisionList.Falling ungraded xs → DecisionList.Falling ungraded ys →
      DecisionList.Falling ungraded (if p then xs else ys) := by
    intro p _ xs ys hx hy
    by_cases h : p
    · rwa [if_pos h]
    · rwa [if_neg h]
  unfold severityLadder
  dsimp only
  repeat' apply hite
  all_goals simp [DecisionList.Falling, hrank, clause, ungraded, Severity.rank]

/-- Worse signals never get a lower severity. -/
theorem classifySeverity_mono {severity severity' : Severity} (h : ctx.Worsens ctx')
    (hseverity : classifySeverity ctx thresholds = .ok severity)
    (hseverity' : classifySeverity ctx' thresholds = .ok severity') :
    severity.rank ≤ severity'.rank := by
  rw [classifySeverity_eq] at hseverity hseverity'
  obtain ⟨g, hg, rfl⟩ := Py.map_eq_ok.1 hseverity
  obtain ⟨g', hg', rfl⟩ := Py.map_eq_ok.1 hseverity'
  have hle : g ≤ g' :=
    DecisionList.decide_mono (severityLadder_falling ctx thresholds)
      (severityLadder_widens h thresholds) hg hg'
  exact hle

/-- Limits that are numbers, where there are any, never keep a context from its severity. -/
theorem severityCompares_of_numeric (h : ∀ key ∈ comparedKeys, Numeric (limit ctx key)) :
    SeverityCompares ctx := by
  have hcompares : ∀ key ∈ comparedKeys, ∀ signal, LimitCompares ctx key signal :=
    fun key hkey _ => .inr (h key hkey)
  exact ⟨fun _ => ⟨hcompares _ (by decide) _, .inr (hcompares _ (by decide) _)⟩,
    fun _ => hcompares _ (by decide) _,
    fun _ => ⟨hcompares _ (by decide) _, .inr (hcompares _ (by decide) _)⟩,
    fun _ _ _ => hcompares _ (by decide) _, fun _ _ => hcompares _ (by decide) _,
    fun _ => hcompares _ (by decide) _⟩

end

/-- The severities that call for an escalation. -/
def Severity.Grave (severity : Severity) : Prop := severity = .high ∨ severity = .critical

/-- The execution has no live effects: it is a replay, or the platform is in maintenance. -/
def AlertClassificationContext.Suspended (ctx : AlertClassificationContext) : Prop :=
  ctx.executionType ∈ replayTypes ∨ ctx.maintenanceModeActive = true

def GraveDomain (ctx : AlertClassificationContext) : Prop :=
  ∃ severity, classifySeverity ctx (resolveAlertThresholds ctx) = .ok severity ∧ severity.Grave

/-- The scopes under which nothing reaches the live system. -/
def suppressedScopes : List String := ["REPLAY_ONLY", "MAINTENANCE"]

/-- A record that neither escalates nor leaves the scopes. -/
structure DegradationAlertRecord.Contained (record : DegradationAlertRecord)
    (scopes : List String) : Prop where
  candidacy : record.escalationCandidacy = false
  action : record.recoveryAction ≠ .escalationCandidacy
  scope : record.governanceScope ∈ scopes
  suppressed : record.liveEffectsSuppressed = true

section
variable {keys : List String} {ctx : AlertClassificationContext}
  {record : DegradationAlertRecord}

theorem grave_iff (severity : Severity) :
    (severity == .critical || severity == .high) = true ↔ severity.Grave := by
  cases severity <;> simp [Severity.Grave]

theorem evaluate_candidacy (h : evaluate ctx = .ok record) :
    record.escalationCandidacy = true ↔ GraveDomain ctx := by
  obtain ⟨severity, hseverity, h⟩ := Py.bind_eq_ok.1 h
  cases h
  rw [GraveDomain]
  rw [hseverity]
  exact (grave_iff severity).trans
    ⟨fun hgrave => ⟨severity, rfl, hgrave⟩, fun ⟨_, heq, hgrave⟩ => by cases heq; exact hgrave⟩

/-- What the gate lets through is put aside if it is suspended, and evaluated if it is not. -/
theorem classify_cases (hgate : governancePreconditionGate keys ctx = [])
    (h : (classifyDegradationAlert keys ctx).2 = .ok record) :
    ctx.Suspended ∧ record.Contained suppressedScopes ∨
      ¬ ctx.Suspended ∧ evaluate ctx = .ok record := by
  unfold classifyDegradationAlert at h
  dsimp only at h
  rw [if_neg (not_not_intro hgate)] at h
  by_cases hmaintenance : ctx.maintenanceModeActive = true
  · rw [if_pos hmaintenance] at h
    cases h
    exact .inl ⟨.inr hmaintenance, rfl, nofun, .tail _ (.head _), rfl⟩
  · rw [if_neg hmaintenance] at h
    by_cases hreplay : ctx.executionType ∈ replayTypes
    · rw [if_pos hreplay] at h
      cases h
      exact .inl ⟨.inl hreplay, rfl, nofun, .head _, rfl⟩
    · rw [if_neg hreplay] at h
      exact .inr ⟨fun hsuspended => hsuspended.elim hreplay hmaintenance, h⟩

theorem blocked_contained (hgate : governancePreconditionGate keys ctx ≠ [])
    (h : (classifyDegradationAlert keys ctx).2 = .ok record) :
    record.Contained ["UNAVAILABLE"] := by
  unfold classifyDegradationAlert at h
  dsimp only at h
  rw [if_pos hgate] at h
  cases h
  exact ⟨rfl, nofun, .head _, rfl⟩

theorem candidacy_iff (hgate : governancePreconditionGate keys ctx = [])
    (h : (classifyDegradationAlert keys ctx).2 = .ok record) :
    record.escalationCandidacy = true ↔ GraveDomain ctx ∧ ¬ ctx.Suspended := by
  obtain ⟨hsuspended, hcontained⟩ | ⟨hlive, heval⟩ := classify_cases hgate h
  · rw [hcontained.candidacy]
    simp [hsuspended]
  · rw [evaluate_candidacy heval, and_iff_left hlive]

theorem suspended_contained (hgate : governancePreconditionGate keys ctx = [])
    (hsuspended : ctx.Suspended) (h : (classifyDegradationAlert keys ctx).2 = .ok record) :
    record.Contained suppressedScopes := by
  obtain ⟨-, hcontained⟩ | ⟨hlive, -⟩ := classify_cases hgate h
  · exact hcontained
  · exact absurd hsuspended hlive

end

/-- For fixed thresholds, no context has a lower severity than one that it worsens. -/
def NeverFalls (thresholds : RuleSet) : Prop :=
  ∀ ctx ctx' : AlertClassificationContext, ctx.Worsens ctx' → ∀ severity severity',
    classifySeverity ctx thresholds = .ok severity →
    classifySeverity ctx' thresholds = .ok severity' → severity.rank ≤ severity'.rank

/-- A context whose limits are numbers, where it has any, is classified. -/
def Answers (keys : List String) (ctx : AlertClassificationContext) : Prop :=
  (∀ key ∈ comparedKeys, Numeric (limit ctx key)) →
    Py.Returns (classifyDegradationAlert keys ctx).2

/-- The record escalates exactly on grave severities, and not when it is suspended. -/
def Escalates (keys : List String) (ctx : AlertClassificationContext)
    (record : DegradationAlertRecord) : Prop :=
  governancePreconditionGate keys ctx = [] →
    (record.escalationCandidacy = true ↔ GraveDomain ctx ∧ ¬ ctx.Suspended)

/-- A suspended execution is contained, and one that is not let in is unavailable. -/
def Contains (keys : List String) (ctx : AlertClassificationContext)
    (record : DegradationAlertRecord) : Prop :=
  (governancePreconditionGate keys ctx = [] → ctx.Suspended → record.Contained suppressedScopes) ∧
    (governancePreconditionGate keys ctx ≠ [] → record.Contained ["UNAVAILABLE"])

/-- Severities follow the signals, and escalations the severities of live executions. -/
theorem severity_monotone_contained (thresholds : RuleSet) (keys : List String)
    (ctx : AlertClassificationContext) :
    NeverFalls thresholds ∧ Answers keys ctx ∧
      ∀ record, (classifyDegradationAlert keys ctx).2 = .ok record →
        Escalates keys ctx record ∧ Contains keys ctx record := by
  refine ⟨fun _ _ hworse _ _ => classifySeverity_mono hworse, ?_, ?_⟩
  · intro hnumeric
    exact (classify_returns_iff keys ctx).2 fun _ => severityCompares_of_numeric hnumeric
  · intro record h
    exact ⟨fun hgate => candidacy_iff hgate h,
      fun hgate hsuspended => suspended_contained hgate hsuspended h,
      fun hgate => blocked_contained hgate h⟩

def lateScheduler : AlertClassificationContext where
  configVersionId := some "v1"
  executionMode := "SHADOW"
  executionType := "original"
  correlationId := some "c1"
  degradationDomain := some "scheduler"
  failureCause := none
  errorClass := none
  originSource := some "scheduler"
  originAuthority := some "platform"
  actorIdentity := some "system"
  schedulerLagMs := some 90000

theorem severity_monotone_contained_late :
    ∃ record, (classifyDegradationAlert [] lateScheduler).2 = .ok record ∧
      record.escalationCandidacy = true ∧ Escalates [] lateScheduler record ∧
      Contains [] lateScheduler record :=
  ⟨_, rfl, rfl, (severity_monotone_contained [] [] lateScheduler).2.2 _ rfl⟩

end Alerts
end StudentSuccess
