import StudentSuccess.CivilDate
import StudentSuccess.FiredWindows
import StudentSuccess.Models
import StudentSuccess.Thresholds

namespace StudentSuccess
namespace Scheduler
set_option autoImplicit true
open FiredWindows

def replayModes : List String := ["REPLAY", "REGENERATION"]

def validModes : List String :=
  ["LIVE", "SHADOW", "REPLAY", "REGENERATION", "DEGRADED", "MAINTENANCE"]

def domainOrchestrationEvaluation : String := "orchestration_evaluation"

def domainProviderSync : String := "provider_synchronization"

def domainObservabilityHeartbeat : String := "observability_heartbeat"

def requiredAttribution : List String :=
  ["origin_source", "origin_authority", "actor_identity", "attribution_timestamp"]

/-- The record of a trigger, less its timestamps. -/
structure TriggerRecord where
  domain : String
  cycleId : String
  executionMode : String
  configVersionId : Option String
  idempotencyKey : String
  idempotencyOutcome : String
  triggerOutcome : String
  degradationFlags : List String
  missingKeys : List String
  windowStart : String
  windowEnd : String
  governanceScope : String
  reasonCodes : List String

/-- What the scheduler logs, less timestamps and durations. -/
inductive Record
  | preconditionFailed (executionMode : String) (configVersionId : Option String)
    (reasonCodes : List String)
  | trigger (record : TriggerRecord)
  | triggerSuppressed (domain reason executionMode : String)
  | heartbeat (cycleId executionMode governanceScope : String) (configVersionId : Option String)
    (schedulerRunning : Bool)
  | cycleComplete (cycleId executionMode executionType governanceScope loopOutcome : String)
    (reasonCodes : List String)

/-- What the coordination returns, less its duration. -/
structure Coordination where
  coordinationProduced : Bool
  governanceScope : String
  executionMode : String
  configVersionId : Option String
  orchestrationCycleId : Option String
  reasonCodes : List String
  cycleIds : List (String × Option String)
  blocked : Bool

/-- One call: its arguments, the clock, a fresh id for each place that draws one, and whether the
job scheduler runs. -/
structure Cycle where
  executionMode : String
  configVersionId : Option String
  configRuleSet : Option RuleSet
  attributionContext : Option (List (String × Py.Value))
  now : Instant
  makeCycleId : Nat → String
  schedulerRunning : Bool

def idempotencyKey (domain cycleDate executionMode : String) : String :=
  domain ++ "|" ++ cycleDate ++ "|" ++ executionMode

/-- Whether the window is new, and the store with it. -/
def checkAndRegisterIdempotency (executedWindows : List String) (key : String) :
    Bool × List String :=
  if key ∈ executedWindows then (false, executedWindows) else (true, executedWindows ++ [key])

def missingKeys (ruleSet : RuleSet) (keys : List String) : List String :=
  missingThresholdKeys (fun v => !isUnknownV0 v) keys ruleSet

def attributionComplete : Option (List (String × Py.Value)) → Bool
  | none => false
  | some ctx => !ctx.isEmpty && requiredAttribution.all fun k => ((Py.get? k ctx).getD .null).truthy

def governanceScope (executionMode : String) : String :=
  if executionMode ∈ replayModes then "REPLAY_ONLY"
  else if executionMode = "SHADOW" then "SHADOW_ONLY"
  else if executionMode = "MAINTENANCE" then "MAINTENANCE_ONLY"
  else if executionMode = "DEGRADED" then "DEGRADED_ONLY"
  else "SHADOW_ONLY"

/-- The reasons why the gate of RULE 0 stops a cycle. -/
def governancePreconditionGate (cycle : Cycle) : List String :=
  (if cycle.executionMode ∈ validModes then [] else ["INVALID_EXECUTION_MODE"]) ++
    (if Py.truthyText cycle.configVersionId then [] else ["CONFIG_VERSION_ID_MISSING"]) ++
    if attributionComplete cycle.attributionContext then [] else ["ATTRIBUTION_INCOMPLETE"]

/-- The id of the cycle that a trigger starts, the records it leaves and the store after it. -/
abbrev Triggered := Option String × List Record × List String

def degradationFlags (missing : List String) : List String := missing.map thresholdMissingFlag

/-- The record of a window that fires. -/
def emittedRecord (domain key cycleDate scope cycleId : String) (cycle : Cycle)
    (missing : List String) : TriggerRecord where
  domain := domain
  cycleId := cycleId
  executionMode := cycle.executionMode
  configVersionId := cycle.configVersionId
  idempotencyKey := key
  idempotencyOutcome := "NEW_WINDOW"
  triggerOutcome := "emitted"
  degradationFlags := degradationFlags missing
  missingKeys := missing
  windowStart := cycleDate ++ "T00:00:00+00:00"
  windowEnd := cycleDate ++ "T23:59:59+00:00"
  governanceScope := scope
  reasonCodes := degradationFlags missing

def duplicateRecord (domain key cycleDate scope : String) (cycle : Cycle) : TriggerRecord where
  domain := domain
  cycleId := "DUPLICATE"
  executionMode := cycle.executionMode
  configVersionId := cycle.configVersionId
  idempotencyKey := key
  idempotencyOutcome := "DUPLICATE_SUPPRESSED"
  triggerOutcome := "suppressed"
  degradationFlags := []
  missingKeys := []
  windowStart := cycleDate
  windowEnd := cycleDate
  governanceScope := scope
  reasonCodes := ["IDEMPOTENCY_DUPLICATE"]

def triggerOrchestrationEvaluation (cycle : Cycle) (config : RuleSet) (scope cycleDate : String)
    (cycleId : String) (executedWindows : List String) : Triggered :=
  let domain := domainOrchestrationEvaluation
  if cycle.executionMode = "MAINTENANCE" then
    (none, [.triggerSuppressed domain "MAINTENANCE_MODE" cycle.executionMode], executedWindows)
  else
    let missing :=
      missingKeys config ["outreach_daily_trigger_hour_cst", "outreach_retry_window_days"]
    let key := idempotencyKey domain cycleDate cycle.executionMode
    match checkAndRegisterIdempotency executedWindows key with
    | (false, executedWindows) =>
      (none, [.trigger (duplicateRecord domain key cycleDate scope cycle)], executedWindows)
    | (true, executedWindows) =>
      (some cycleId, [.trigger (emittedRecord domain key cycleDate scope cycleId cycle missing)],
        executedWindows)

def triggerProviderSynchronization (cycle : Cycle) (config : RuleSet) (scope cycleDate : String)
    (cycleId : String) (executedWindows : List String) : Triggered :=
  let domain := domainProviderSync
  if cycle.executionMode ∈ replayModes then
    (none, [.triggerSuppressed domain "REPLAY_EXECUTION" cycle.executionMode], executedWindows)
  else if cycle.executionMode = "MAINTENANCE" then
    (none, [.triggerSuppressed domain "MAINTENANCE_MODE" cycle.executionMode], executedWindows)
  else
    let missing := missingKeys config ["sql_server_max_sync_age_hours"]
    let key := idempotencyKey domain cycleDate cycle.executionMode
    match checkAndRegisterIdempotency executedWindows key with
    -- unlike the evaluation, a duplicate leaves no record
    | (false, executedWindows) => (none, [], executedWindows)
    | (true, executedWindows) =>
      (some cycleId, [.trigger (emittedRecord domain key cycleDate scope cycleId cycle missing)],
        executedWindows)

/-- What the coordination returns, the records it leaves and the store after it. -/
def coordinateOrchestrationCycle (cycle : Cycle) (executedWindows : List String) :
    Coordination × List Record × List String :=
  let ruleSet := cycle.configRuleSet.getD []
  let scope := governanceScope cycle.executionMode
  let stopped (codes : List String) (blocked : Bool) : Coordination :=
    ⟨false, scope, cycle.executionMode, cycle.configVersionId, none, codes, [], blocked⟩
  let codes := governancePreconditionGate cycle
  if codes ≠ [] then
    (stopped codes true, [.preconditionFailed cycle.executionMode cycle.configVersionId codes],
      executedWindows)
  else
    let cycleDate := Calendar.dateText (cycle.now / Calendar.microsPerDay)
    if cycle.executionMode ∈ replayModes then
      let codes := ["REPLAY_LIVE_BATCH_SUPPRESSED"]
      (stopped codes false,
        [.cycleComplete (cycle.makeCycleId 0) cycle.executionMode cycle.executionMode.toLower scope
          "suppressed_replay" codes],
        executedWindows)
    else
      let heartbeat (id : String) : Record :=
        .heartbeat id cycle.executionMode scope cycle.configVersionId cycle.schedulerRunning
      let complete (id : String) (codes : List String) : Record :=
        .cycleComplete id cycle.executionMode "original" scope "success" codes
      let produced (id : String) (codes : List String) (ids : List (String × Option String)) :
          Coordination :=
        ⟨true, scope, cycle.executionMode, cycle.configVersionId, some id, codes, ids, false⟩
      if cycle.executionMode = "MAINTENANCE" then
        let codes := ["MAINTENANCE_ORCHESTRATION_SUPPRESSED"]
        let hb := cycle.makeCycleId 0
        let id := cycle.makeCycleId 1
        (produced id codes [(domainObservabilityHeartbeat, some hb)],
          [heartbeat hb, complete id codes], executedWindows)
      else
        let (evalId, evalRecords, executedWindows) :=
          triggerOrchestrationEvaluation cycle ruleSet scope cycleDate (cycle.makeCycleId 0)
            executedWindows
        let (syncId, syncRecords, executedWindows) :=
          triggerProviderSynchronization cycle ruleSet scope cycleDate (cycle.makeCycleId 1)
            executedWindows
        let hb := cycle.makeCycleId 2
        let id := cycle.makeCycleId 3
        (produced id []
            [(domainOrchestrationEvaluation, evalId), (domainProviderSync, syncId),
              (domainObservabilityHeartbeat, some hb)],
          evalRecords ++ syncRecords ++ [heartbeat hb, complete id []], executedWindows)

/-- One firing of a domain: at most one is allowed for a UTC date and a mode. -/
structure Window where
  domain : String
  day : Nat
  mode : String

abbrev Entry := Cycle × Record

/-- The window that an entry of the log fires. -/
def firedWindow : Entry → Option Window
  | (cycle, .trigger r) =>
    if r.triggerOutcome = "emitted" then
      some ⟨r.domain, cycle.now / Calendar.microsPerDay, r.executionMode⟩
    else none
  | _ => none

def windowKey (w : Window) : String :=
  idempotencyKey w.domain (Calendar.dateText w.day) w.mode

def Cycle.window (cycle : Cycle) (domain : String) : Window :=
  ⟨domain, cycle.now / Calendar.microsPerDay, cycle.executionMode⟩

/-- The store and the log after a part of the cycle left the records. -/
def leave (cycle : Cycle) (s : State String Entry) (records : List Record)
    (executedWindows : List String) : State String Entry :=
  ⟨executedWindows, s.log ++ records.map (Prod.mk cycle)⟩

def cycleStep (s : State String Entry) (cycle : Cycle) : State String Entry :=
  let (_, records, executedWindows) := coordinateOrchestrationCycle cycle s.taken
  leave cycle s records executedWindows

def init : State String Entry := ⟨[], []⟩

/-- The cycle comes to the two domains. -/
structure Coordinates (cycle : Cycle) : Prop where
  gate : governancePreconditionGate cycle = []
  replay : cycle.executionMode ∉ replayModes
  maintenance : cycle.executionMode ≠ "MAINTENANCE"

/-- What a domain does with a window: `duplicate` is what it leaves of one that is taken. -/
def triggerWindow (duplicate : List Record) (emitted : Record) (cycleId key : String)
    (executedWindows : List String) : Triggered :=
  if key ∈ executedWindows then (none, duplicate, executedWindows)
  else (some cycleId, [emitted], executedWindows ++ [key])

namespace Cycle

def key (cycle : Cycle) (domain : String) : String := windowKey (cycle.window domain)

def emitted (cycle : Cycle) (domain cycleId : String) (missing : List String) : TriggerRecord :=
  emittedRecord domain (cycle.key domain)
    (Calendar.dateText (cycle.now / Calendar.microsPerDay)) (governanceScope cycle.executionMode)
    cycleId cycle missing

def duplicate (cycle : Cycle) (domain : String) : TriggerRecord :=
  duplicateRecord domain (cycle.key domain)
    (Calendar.dateText (cycle.now / Calendar.microsPerDay)) (governanceScope cycle.executionMode)
    cycle

/-- The evaluation domain, which leaves a record of a duplicate. -/
def evaluation (cycle : Cycle) (missing : List String) (executedWindows : List String) :
    Triggered :=
  triggerWindow [.trigger (cycle.duplicate domainOrchestrationEvaluation)]
    (.trigger (cycle.emitted domainOrchestrationEvaluation (cycle.makeCycleId 0) missing))
    (cycle.makeCycleId 0) (cycle.key domainOrchestrationEvaluation) executedWindows

/-- The provider domain, which leaves none. -/
def provider (cycle : Cycle) (missing : List String) (executedWindows : List String) : Triggered :=
  triggerWindow []
    (.trigger (cycle.emitted domainProviderSync (cycle.makeCycleId 1) missing))
    (cycle.makeCycleId 1) (cycle.key domainProviderSync) executedWindows

/-- What every coordinated cycle leaves after its domains. -/
def closing (cycle : Cycle) : List Record :=
  [.heartbeat (cycle.makeCycleId 2) cycle.executionMode (governanceScope cycle.executionMode)
      cycle.configVersionId cycle.schedulerRunning,
    .cycleComplete (cycle.makeCycleId 3) cycle.executionMode "original"
      (governanceScope cycle.executionMode) "success" []]

theorem check_taken (cycle : Cycle) (h : cycle.key domain ∈ executedWindows) :
    checkAndRegisterIdempotency executedWindows
        (idempotencyKey domain (Calendar.dateText (cycle.now / Calendar.microsPerDay))
          cycle.executionMode) = (false, executedWindows) := if_pos h

theorem check_new (cycle : Cycle) (h : cycle.key domain ∉ executedWindows) :
    checkAndRegisterIdempotency executedWindows
        (idempotencyKey domain (Calendar.dateText (cycle.now / Calendar.microsPerDay))
          cycle.executionMode) = (true, executedWindows ++ [cycle.key domain]) := if_neg h

end Cycle

theorem triggerOrchestrationEvaluation_eq (h : Coordinates cycle) (config : RuleSet)
    (executedWindows : List String) :
    triggerOrchestrationEvaluation cycle config (governanceScope cycle.executionMode)
        (Calendar.dateText (cycle.now / Calendar.microsPerDay)) (cycle.makeCycleId 0)
        executedWindows =
      cycle.evaluation
        (missingKeys config ["outreach_daily_trigger_hour_cst", "outreach_retry_window_days"])
        executedWindows := by
  simp only [triggerOrchestrationEvaluation, if_neg h.maintenance, Cycle.evaluation, triggerWindow]
  by_cases hkey : cycle.key domainOrchestrationEvaluation ∈ executedWindows
  · simp only [cycle.check_taken hkey, if_pos hkey]
    rfl
  · simp only [cycle.check_new hkey, if_neg hkey]
    rfl

theorem triggerProviderSynchronization_eq (h : Coordinates cycle) (config : RuleSet)
    (executedWindows : List String) :
    triggerProviderSynchronization cycle config (governanceScope cycle.executionMode)
        (Calendar.dateText (cycle.now / Calendar.microsPerDay)) (cycle.makeCycleId 1)
        executedWindows =
      cycle.provider (missingKeys config ["sql_server_max_sync_age_hours"]) executedWindows := by
  simp only [triggerProviderSynchronization, if_neg h.replay, if_neg h.maintenance, Cycle.provider,
    triggerWindow]
  by_cases hkey : cycle.key domainProviderSync ∈ executedWindows
  · simp only [cycle.check_taken hkey, if_pos hkey]
  · simp only [cycle.check_new hkey, if_neg hkey]
    rfl

/-- A coordinated cycle is its two domains, one after the other, and the closing records. -/
theorem coordinate_of_coordinates (h : Coordinates cycle) (executedWindows : List String) :
    ∃ missing missing',
      let evaluated := cycle.evaluation missing executedWindows
      let synchronized := cycle.provider missing' evaluated.2.2
      (coordinateOrchestrationCycle cycle executedWindows).2 =
        (evaluated.2.1 ++ synchronized.2.1 ++ cycle.closing, synchronized.2.2) := by
  let ruleSet := cycle.configRuleSet.getD []
  refine ⟨missingKeys ruleSet ["outreach_daily_trigger_hour_cst", "outreach_retry_window_days"],
    missingKeys ruleSet ["sql_server_max_sync_age_hours"], ?_⟩
  simp only [coordinateOrchestrationCycle, h.gate, ne_eq, not_true_eq_false, if_false,
    if_neg h.replay, if_neg h.maintenance, triggerOrchestrationEvaluation_eq h,
    triggerProviderSynchronization_eq h]
  rfl

/-- Another cycle leaves the store as it is and fires nothing; past the gate it says why. -/
theorem coordinate_of_not_coordinates (h : ¬ Coordinates cycle) (executedWindows : List String) :
    (coordinateOrchestrationCycle cycle executedWindows).2.2 = executedWindows ∧
      (∀ r, .trigger r ∉ (coordinateOrchestrationCycle cycle executedWindows).2.1) ∧
      (governancePreconditionGate cycle = [] →
        ∃ cycleId executionType loopOutcome codes,
          .cycleComplete cycleId cycle.executionMode executionType
              (governanceScope cycle.executionMode) loopOutcome codes ∈
            (coordinateOrchestrationCycle cycle executedWindows).2.1 ∧
          ("REPLAY_LIVE_BATCH_SUPPRESSED" ∈ codes ∨
            "MAINTENANCE_ORCHESTRATION_SUPPRESSED" ∈ codes)) := by
  by_cases hgate : governancePreconditionGate cycle = []
  · by_cases hreplay : cycle.executionMode ∈ replayModes
    · simp only [coordinateOrchestrationCycle, hgate, ne_eq, not_true_eq_false, if_false,
        if_pos hreplay]
      refine ⟨trivial, by simp, fun _ => ⟨_, _, _, _, .head _, .inl (.head _)⟩⟩
    · by_cases hmaintenance : cycle.executionMode = "MAINTENANCE"
      · simp only [coordinateOrchestrationCycle, hgate, ne_eq, not_true_eq_false, if_false,
          if_neg hreplay, if_pos hmaintenance]
        refine ⟨trivial, by simp, fun _ => ⟨_, _, _, _, .tail _ (.head _), .inr (.head _)⟩⟩
      · exact absurd ⟨hgate, hreplay, hmaintenance⟩ h
  · simp only [coordinateOrchestrationCycle, ne_eq, hgate, not_false_eq_true, if_true]
    exact ⟨trivial, by simp, fun hpass => absurd hpass (by simp)⟩

theorem triggerWindow_takes (cycle : Cycle) (domain cycleId : String) (missing : List String)
    (hduplicate : (duplicate.map (Prod.mk cycle)).filterMap firedWindow = [])
    (s : State String Entry) :
    let result := triggerWindow duplicate (.trigger (cycle.emitted domain cycleId missing)) cycleId
      (cycle.key domain) s.taken
    FiredWindows.Takes firedWindow windowKey s (leave cycle s result.2.1 result.2.2)
      (result.2.1.map (Prod.mk cycle)) := by
  intro result
  by_cases h : cycle.key domain ∈ s.taken
  · simp only [result, triggerWindow, if_pos h]
    exact FiredWindows.Takes.silent hduplicate s
  · simp only [result, triggerWindow, if_neg h]
    exact FiredWindows.Takes.fire rfl h

theorem cycleStep_takes (s : State String Entry) (cycle : Cycle) :
    ∃ added, FiredWindows.Takes firedWindow windowKey s (cycleStep s cycle) added := by
  by_cases h : Coordinates cycle
  · obtain ⟨missing, missing', heq⟩ := coordinate_of_coordinates h s.taken
    let s₁ := leave cycle s (cycle.evaluation missing s.taken).2.1
      (cycle.evaluation missing s.taken).2.2
    let s₂ := leave cycle s₁ (cycle.provider missing' s₁.taken).2.1
      (cycle.provider missing' s₁.taken).2.2
    have hevaluation : FiredWindows.Takes firedWindow windowKey s s₁ _ :=
      triggerWindow_takes cycle domainOrchestrationEvaluation (cycle.makeCycleId 0) missing rfl s
    have hprovider : FiredWindows.Takes firedWindow windowKey s₁ s₂ _ :=
      triggerWindow_takes cycle domainProviderSync (cycle.makeCycleId 1) missing' rfl s₁
    have hclosing : FiredWindows.Takes firedWindow windowKey s₂
        (leave cycle s₂ cycle.closing s₂.taken) (cycle.closing.map (Prod.mk cycle)) :=
      FiredWindows.Takes.silent rfl s₂
    have hstep : cycleStep s cycle = leave cycle s₂ cycle.closing s₂.taken := by
      simp only [cycleStep, heq, leave, s₂, s₁, List.map_append, List.append_assoc]
    rw [hstep]
    exact ⟨_, (hevaluation.trans hprovider).trans hclosing⟩
  · obtain ⟨hstore, hrecords, -⟩ := coordinate_of_not_coordinates h s.taken
    let records := (coordinateOrchestrationCycle cycle s.taken).2.1
    have hsilent : (records.map (Prod.mk cycle)).filterMap firedWindow = [] := by
      rw [List.filterMap_map, List.filterMap_eq_nil_iff]
      intro record hrecord
      cases record with
      | trigger r => exact absurd hrecord (hrecords r)
      | _ => rfl
    have hstep : cycleStep s cycle = ⟨s.taken, s.log ++ records.map (Prod.mk cycle)⟩ := by
      simp only [cycleStep, leave, hstore, records]
    rw [hstep]
    exact ⟨_, FiredWindows.Takes.silent hsilent s⟩

/-- The domain fires: a trigger record with the outcome `emitted`. -/
def Fires (domain : String) (records : List Record) : Prop :=
  ∃ r, .trigger r ∈ records ∧ r.domain = domain ∧ r.triggerOutcome = "emitted"

/-- The record says why the domain did not fire. -/
def Explains (domain : String) : Record → Prop
  | .trigger r => r.domain = domain ∧ r.triggerOutcome = "suppressed" ∧ r.reasonCodes ≠ []
  | .triggerSuppressed d _ _ => d = domain
  | .cycleComplete _ _ _ _ _ codes =>
    "REPLAY_LIVE_BATCH_SUPPRESSED" ∈ codes ∨ "MAINTENANCE_ORCHESTRATION_SUPPRESSED" ∈ codes
  | _ => False

def records (s : State String Entry) (cycle : Cycle) : List Record :=
  (coordinateOrchestrationCycle cycle s.taken).2.1

def domains : List String := [domainOrchestrationEvaluation, domainProviderSync]

/-- A blocked, replay, regeneration or maintenance cycle registers no window and fires nothing. -/
def Quiet (s : State String Entry) (cycle : Cycle) : Prop :=
  governancePreconditionGate cycle ≠ [] ∨ cycle.executionMode = "REPLAY" ∨
      cycle.executionMode = "REGENERATION" ∨ cycle.executionMode = "MAINTENANCE" →
    (cycleStep s cycle).taken = s.taken ∧ ∀ domain, ¬ Fires domain (records s cycle)

/-- Past RULE 0 a domain fires or leaves a record that says why it did not. -/
def NeverSilent (s : State String Entry) (cycle : Cycle) : Prop :=
  governancePreconditionGate cycle = [] →
    ∀ domain ∈ domains, Fires domain (records s cycle) ∨ ∃ r ∈ records s cycle, Explains domain r

/-- The window of the provider domain is not taken before a coordinated cycle. -/
def NewProviderWindow (s : State String Entry) (cycle : Cycle) : Prop :=
  Coordinates cycle → cycle.key domainProviderSync ∉ s.taken

theorem quiet (s : State String Entry) (cycle : Cycle) : Quiet s cycle := by
  intro hmode
  have h : ¬ Coordinates cycle := by
    intro h
    rcases hmode with hgate | hreplay | hregeneration | hmaintenance
    · exact hgate h.gate
    · exact h.replay (by rw [hreplay]; decide)
    · exact h.replay (by rw [hregeneration]; decide)
    · exact h.maintenance hmaintenance
  obtain ⟨hstore, hrecords, -⟩ := coordinate_of_not_coordinates h s.taken
  refine ⟨hstore, ?_⟩
  rintro domain ⟨r, hr, -⟩
  exact hrecords r hr

theorem key_ne (cycle : Cycle) :
    cycle.key domainProviderSync ≠ cycle.key domainOrchestrationEvaluation := by
  intro h
  have hprovider : domainProviderSync.toList = 'p' :: "rovider_synchronization".toList := by decide
  have hevaluation : domainOrchestrationEvaluation.toList =
      'o' :: "rchestration_evaluation".toList := by decide
  have hlist := congrArg String.toList h
  simp only [Cycle.key, windowKey, Cycle.window, idempotencyKey, String.toList_append, hprovider,
    hevaluation, List.cons_append, List.cons.injEq] at hlist
  exact absurd hlist.1 (by decide)

/-- The evaluation takes no key of the provider domain. -/
theorem provider_key_of_evaluation (cycle : Cycle) (missing executedWindows : List String) :
    cycle.key domainProviderSync ∈ (cycle.evaluation missing executedWindows).2.2 ↔
      cycle.key domainProviderSync ∈ executedWindows := by
  rw [Cycle.evaluation, triggerWindow]
  split_ifs
  · exact Iff.rfl
  · rw [List.mem_append, List.mem_singleton]
    exact or_iff_left (key_ne cycle)

/-- A coordinated evaluation leaves a record of its own in every case. -/
theorem evaluation_fires_or_explains (cycle : Cycle) (missing executedWindows : List String) :
    Fires domainOrchestrationEvaluation (cycle.evaluation missing executedWindows).2.1 ∨
      ∃ r ∈ (cycle.evaluation missing executedWindows).2.1,
        Explains domainOrchestrationEvaluation r := by
  rw [Cycle.evaluation, triggerWindow]
  split_ifs
  · exact .inr ⟨_, .head _, rfl, rfl, List.cons_ne_nil _ _⟩
  · exact .inl ⟨_, .head _, rfl, rfl⟩

/-- No record of the evaluation and no closing record is about the provider domain. -/
theorem provider_not_elsewhere (cycle : Cycle) (missing executedWindows : List String)
    (hmem : r ∈ (cycle.evaluation missing executedWindows).2.1 ++ cycle.closing) :
    ¬ Explains domainProviderSync r ∧
      ∀ record, r = .trigger record → record.domain ≠ domainProviderSync := by
  have hdomains : domainOrchestrationEvaluation ≠ domainProviderSync := by decide
  rw [List.mem_append] at hmem
  rcases hmem with hmem | hmem
  · rw [Cycle.evaluation, triggerWindow] at hmem
    split_ifs at hmem
    · rw [List.mem_singleton] at hmem
      subst hmem
      refine ⟨fun h => hdomains h.1, ?_⟩
      rintro record ⟨⟩
      exact hdomains
    · rw [List.mem_singleton] at hmem
      subst hmem
      refine ⟨fun h => hdomains h.1, ?_⟩
      rintro record ⟨⟩
      exact hdomains
  · rw [Cycle.closing, List.mem_cons, List.mem_singleton] at hmem
    rcases hmem with rfl | rfl
    · exact ⟨fun h => h, fun record h => nomatch h⟩
    · exact ⟨fun h => h.elim (fun h => nomatch h) (fun h => nomatch h), fun record h => nomatch h⟩

/-- The law of a cycle holds exactly when it does not find its provider window taken. -/
theorem neverSilent_iff (s : State String Entry) (cycle : Cycle) :
    NeverSilent s cycle ↔ NewProviderWindow s cycle := by
  by_cases h : Coordinates cycle
  · obtain ⟨missing, missing', heq⟩ := coordinate_of_coordinates h s.taken
    have hrecords : records s cycle = (cycle.evaluation missing s.taken).2.1 ++
        (cycle.provider missing' (cycle.evaluation missing s.taken).2.2).2.1 ++ cycle.closing := by
      rw [records, heq]
    constructor
    · intro hlaw _ htaken
      have hkey := (provider_key_of_evaluation cycle missing s.taken).2 htaken
      rw [Cycle.provider, triggerWindow, if_pos hkey, List.append_nil] at hrecords
      rcases hlaw h.gate domainProviderSync (.tail _ (.head _)) with
        ⟨r, hr, hdomain, -⟩ | ⟨r, hr, hexplains⟩
      · rw [hrecords] at hr
        exact (provider_not_elsewhere cycle missing s.taken hr).2 r rfl hdomain
      · rw [hrecords] at hr
        exact (provider_not_elsewhere cycle missing s.taken hr).1 hexplains
    · intro hnew _ domain hdomain
      rw [hrecords]
      rw [domains, List.mem_cons, List.mem_singleton] at hdomain
      rcases hdomain with rfl | rfl
      · rcases evaluation_fires_or_explains cycle missing s.taken with
          ⟨r, hr, hfires⟩ | ⟨r, hr, hexplains⟩
        · exact .inl ⟨r, List.mem_append_left _ (List.mem_append_left _ hr), hfires⟩
        · exact .inr ⟨r, List.mem_append_left _ (List.mem_append_left _ hr), hexplains⟩
      · have hkey := mt (provider_key_of_evaluation cycle missing s.taken).1 (hnew h)
        refine .inl ⟨cycle.emitted domainProviderSync (cycle.makeCycleId 1) missing', ?_, rfl, rfl⟩
        rw [Cycle.provider, triggerWindow, if_neg hkey]
        exact List.mem_append_left _ (List.mem_append_right _ (.head _))
  · obtain ⟨-, -, hexplains⟩ := coordinate_of_not_coordinates h s.taken
    constructor
    · intro _ hcoordinates
      exact absurd hcoordinates h
    · intro _ hgate domain _
      obtain ⟨cycleId, executionType, loopOutcome, codes, hmem, hcodes⟩ := hexplains hgate
      exact .inr ⟨_, hmem, hcodes⟩

/-- What the scheduler promises of a run. -/
structure FiresOnceNeverSilently (cycles : List Cycle) : Prop where
  once : ((Runs.final cycleStep init cycles).log.filterMap firedWindow).Nodup
  quiet : Runs.EveryStep cycleStep Quiet init cycles
  neverSilent : Runs.EveryStep cycleStep NeverSilent init cycles

/-- No window fires twice and only coordinated cycles fire, always; no suppressed domain is silent
exactly in the runs whose coordinated cycles find their provider windows new. -/
theorem firesOnceNeverSilently_iff (cycles : List Cycle) :
    FiresOnceNeverSilently cycles ↔ Runs.EveryStep cycleStep NewProviderWindow init cycles := by
  constructor
  · intro h
    exact h.neverSilent.imp fun s cycle => (neverSilent_iff s cycle).1
  · intro h
    refine ⟨(final_once cycleStep_takes [] cycles).nodup, ?_, ?_⟩
    · exact h.imp fun s cycle _ => quiet s cycle
    · exact h.imp fun s cycle => (neverSilent_iff s cycle).2

def shadowCycle : Cycle where
  executionMode := "SHADOW"
  configVersionId := some "cfg-1"
  configRuleSet := none
  attributionContext := some (requiredAttribution.map fun k => (k, .str "scheduler"))
  now := 738944 * Calendar.microsPerDay
  makeCycleId := fun n => "cycle-" ++ toString n
  schedulerRunning := true

theorem shadowCycle_coordinates : Coordinates shadowCycle :=
  ⟨by decide, by decide, by decide⟩

theorem provider_key_taken (h : Coordinates cycle) (s : State String Entry) :
    cycle.key domainProviderSync ∈ (cycleStep s cycle).taken := by
  obtain ⟨missing, missing', heq⟩ := coordinate_of_coordinates h s.taken
  simp only [cycleStep, heq, leave]
  rw [Cycle.provider, triggerWindow]
  split_ifs with hkey
  · exact hkey
  · exact List.mem_append_right _ (.head _)

/-- The second cycle of a day leaves nothing about the provider domain. -/
theorem second_cycle_silent : ¬ FiresOnceNeverSilently [shadowCycle, shadowCycle] := by
  intro h
  obtain ⟨-, hsecond, -⟩ := h.neverSilent
  exact (neverSilent_iff _ _).1 hsecond shadowCycle_coordinates
    (provider_key_taken shadowCycle_coordinates init)

end Scheduler
end StudentSuccess
