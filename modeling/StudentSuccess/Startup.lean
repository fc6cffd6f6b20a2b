import StudentSuccess.Bootstrap
import StudentSuccess.KeyTexts
import StudentSuccess.SchedulerCycles

namespace StudentSuccess
namespace Startup
set_option autoImplicit true
open Bootstrap FiredWindows IsoText
open Scheduler hiding init

/-- The settings that the startup reads. -/
structure Settings where
  executionMode : ExecutionMode := .shadow
  schedulerHour : Int := 18
  schedulerMinute : Int := 0
  schedulerTimezone : String := "America/Chicago"

/-- What `configure_scheduler` stores. -/
structure SchedulerConfig where
  executionMode : String
  configVersionId : Option String
  configRuleSet : RuleSet
  attributionContext : List (String × Py.Value)

/-- The fields of a `CronTrigger`. -/
structure CronTrigger where
  day : Option String := none
  hour : Py.Value
  minute : Py.Value
  timezone : String

structure Job where
  id : String
  trigger : CronTrigger
  misfireGraceTime : Nat

/-- The globals of the scheduler module, with what the process has logged. -/
structure Process where
  schedulerConfig : Option SchedulerConfig
  running : Bool
  jobs : List Job
  lastRunAt : Option String
  windows : State String Entry

def Process.initial : Process := ⟨none, false, [], none, Scheduler.init⟩

def configureScheduler (config : SchedulerConfig) (p : Process) : Process :=
  { p with schedulerConfig := some config }

/-- `add_job(…, replace_existing=True)` -/
def addJob (job : Job) (p : Process) : Process :=
  { p with jobs := p.jobs.filter (·.id ≠ job.id) ++ [job] }

def startScheduler (triggerHour triggerMinute : Py.Value) (timezoneStr : String) (p : Process) :
    Process :=
  { addJob ⟨"governance_orchestration_cycle",
      { hour := triggerHour, minute := triggerMinute, timezone := timezoneStr }, 3600⟩ p with
    running := true }

def startMonthlyReportJob (timezoneStr : String) : Process → Process :=
  addJob ⟨"monthly_report_generation",
    { day := some "1", hour := .int 2, minute := .int 0, timezone := timezoneStr }, 7200⟩

def startDailySyncJob (timezoneStr : String) : Process → Process :=
  addJob ⟨"daily_mssql_sync",
    { hour := .int 1, minute := .int 0, timezone := timezoneStr }, 3600⟩

def startMonthEndCaptureJob (timezoneStr : String) : Process → Process :=
  addJob ⟨"month_end_state_capture",
    { day := some "last", hour := .int 23, minute := .int 30, timezone := timezoneStr }, 3600⟩

/-- `stop_scheduler` and the event of the shutdown. -/
def stopScheduler (p : Process) : Process := if p.running then { p with running := false } else p

/-- What a startup meets: the registry, and what it draws from `uuid4` and the clock. -/
structure Boot where
  registry : Except String (List ConfigVersionRegistry)
  correlationId : String
  now : Datetime
  /-- `str` of a row of the registry. -/
  str_ : ConfigVersionRow → String

def bootstrapContext (settings : Settings) (boot : Boot) : RuntimeBootstrapContext :=
  initializeRuntimeContext boot.str_
    { executionMode := settings.executionMode.value
      activeConfigs := some (loadActiveConfigVersions boot.registry)
      attribution := none
      configRuleSet := none
      schedulerFallbackHour := settings.schedulerHour
      schedulerFallbackMinute := settings.schedulerMinute
      schedulerFallbackTimezone := settings.schedulerTimezone
      correlationId := boot.correlationId
      now := boot.now }

def schedulerConfig (ctx : RuntimeBootstrapContext) : SchedulerConfig where
  executionMode := ctx.executionMode
  configVersionId := some ctx.configVersionId
  configRuleSet := []
  attributionContext :=
    [("origin_source", .str "bootstrap"), ("origin_authority", .str "runtime_context"),
      ("attribution_timestamp", .str ctx.startupTimestamp),
      ("startup_correlation_id", .str ctx.startupCorrelationId),
      ("actor_identity", .str "startup_lifecycle")]

/-- `on_startup`, after `init_db`. -/
def onStartup (settings : Settings) (boot : Boot) (p : Process) : Process :=
  let ctx := bootstrapContext settings boot
  let timing := ctx.schedulerTiming
  startMonthEndCaptureJob "UTC" (startDailySyncJob "UTC" (startMonthlyReportJob "UTC"
    (startScheduler timing.triggerHour timing.triggerMinute timing.timezoneStr
      (configureScheduler (schedulerConfig ctx) p))))

/-- What a run of the cycle's job draws from the clock and from `uuid4`. -/
structure Firing where
  at_ : Instant
  nowIso : String
  makeCycleId : Nat → String

def cycleOf (config : Option SchedulerConfig) (running : Bool) (firing : Firing) : Cycle where
  executionMode := (config.map (·.executionMode)).getD "SHADOW"
  configVersionId := config.bind (·.configVersionId)
  configRuleSet := some ((config.map (·.configRuleSet)).getD [])
  attributionContext := some ((config.map (·.attributionContext)).getD [])
  now := firing.at_
  makeCycleId := firing.makeCycleId
  schedulerRunning := running

def scheduledCycle (firing : Firing) (p : Process) : Process :=
  { p with
    lastRunAt := some firing.nowIso
    windows := cycleStep p.windows (cycleOf p.schedulerConfig p.running firing) }

structure SchedulerStatus where
  running : Bool
  executionMode : String
  governanceScope : String
  configVersionId : Option String
  liveDispatchEnabled : Bool
  deriving DecidableEq

def getSchedulerStatus (p : Process) : SchedulerStatus where
  running := p.running
  executionMode := (p.schedulerConfig.map (·.executionMode)).getD "SHADOW"
  governanceScope := governanceScope ((p.schedulerConfig.map (·.executionMode)).getD "SHADOW")
  configVersionId := p.schedulerConfig.bind (·.configVersionId)
  liveDispatchEnabled := false

inductive Event
  | fire (firing : Firing)
  | shutdown

/-- A scheduler that does not run fires no job. -/
def step (p : Process) : Event → Process
  | .fire firing => if p.running then scheduledCycle firing p else p
  | .shutdown => stopScheduler p

def firings : List Event → List Firing
  | [] => []
  | .fire firing :: events => firing :: firings events
  | .shutdown :: _ => []

/-- What a part of a cycle's text may hold besides the bars around it. -/
def Plain (w : Window) : Prop := '|' ∉ w.domain.toList ∧ '|' ∉ w.mode.toList

theorem twoDigits_toList (n : Nat) :
    (Calendar.dateText.twoDigits n).toList =
      (if n < 10 then ['0'] else []) ++ (toString n).toList := by
  rw [Calendar.dateText.twoDigits]
  split_ifs
  · rw [String.toList_append]
    rfl
  · rfl

theorem twoDigits_injective
    (h : Calendar.dateText.twoDigits m = Calendar.dateText.twoDigits n) : m = n := by
  have hread : ∀ k, Nat.ofDigitChars 10 (Calendar.dateText.twoDigits k).toList 0 = k := by
    intro k
    rw [twoDigits_toList]
    have hdigits : Nat.ofDigitChars 10 (toString k).toList 0 = k := by
      change Nat.ofDigitChars 10 k.repr.toList 0 = k
      rw [Nat.toList_repr, Nat.ofDigitChars_ten_toDigits]
    split_ifs
    · exact hdigits
    · exact hdigits
  rw [← hread m, h, hread]

theorem dash_not_mem_twoDigits (n : Nat) : '-' ∉ (Calendar.dateText.twoDigits n).toList := by
  rw [twoDigits_toList, List.mem_append]
  rintro (h | h)
  · split_ifs at h
    · cases List.mem_singleton.1 h
    · cases h
  · exact absurd (Py.isDigit_of_mem_natText h) (by decide)

theorem dateText_injective (h : Calendar.dateText d = Calendar.dateText d') : d = d' := by
  have hyear : ∀ n : Nat, '-' ∉ (toString n).toList := fun n hmem =>
    absurd (Py.isDigit_of_mem_natText hmem) (by decide)
  have htext : ∀ d, (Calendar.dateText d).toList = (toString (Calendar.monthOf d).year).toList ++
      '-' :: ((Calendar.dateText.twoDigits (Calendar.monthOf d).month).toList ++ '-' ::
        (Calendar.dateText.twoDigits (d - (Calendar.monthOf d).firstDay + 1)).toList) := by
    intro d
    simp only [Calendar.dateText, String.toList_append, List.append_assoc]
    rfl
  have hlist := congrArg String.toList h
  rw [htext, htext] at hlist
  obtain ⟨hfirst, hrest⟩ := Separators.first_inj (hyear _) (hyear _) hlist
  obtain ⟨hsecond, hthird⟩ := Separators.first_inj (dash_not_mem_twoDigits _)
    (dash_not_mem_twoDigits _) hrest
  have hmonth : Calendar.monthOf d = Calendar.monthOf d' :=
    Calendar.Month.ext (Py.natText_injective (String.toList_inj.1 hfirst))
      (twoDigits_injective (String.toList_inj.1 hsecond))
  have hday := twoDigits_injective (String.toList_inj.1 hthird)
  have hle := (Calendar.monthOf_spec d).1
  have hle' := (Calendar.monthOf_spec d').1
  rw [hmonth] at hday hle
  exact (tsub_left_inj hle hle').1 (Nat.succ.inj hday)

theorem windowKey_inj (hw : Plain w) (hw' : Plain w') (h : windowKey w = windowKey w') :
    w = w' := by
  have htext : ∀ w, (windowKey w).toList = w.domain.toList ++
      '|' :: ((Calendar.dateText w.day).toList ++ '|' :: w.mode.toList) := by
    intro w
    simp only [windowKey, idempotencyKey, String.toList_append, List.append_assoc]
    rfl
  have hlist := congrArg String.toList h
  rw [htext, htext] at hlist
  obtain ⟨hdomain, hday, hmode⟩ := Separators.both_inj hw.1 hw'.1 hw.2 hw'.2 hlist
  obtain ⟨domain, day, mode⟩ := w
  obtain ⟨domain', day', mode'⟩ := w'
  cases String.toList_inj.1 hdomain
  cases dateText_injective (String.toList_inj.1 hday)
  cases String.toList_inj.1 hmode
  rfl

/-- The windows that the log has fired. -/
def fired (s : State String Entry) : List Window := s.log.filterMap firedWindow

/-- Every taken key is that of a fired window, and the bars of the keys can be told. -/
structure Booked (s : State String Entry) : Prop where
  taken : ∀ k ∈ s.taken, ∃ w ∈ fired s, windowKey w = k
  plain : ∀ w ∈ fired s, Plain w

theorem booked_init : Booked Scheduler.init := ⟨nofun, nofun⟩

/-- The keys that the domains of a cycle read from the rule set. -/
def configKeys (domain : String) : List String :=
  if domain = domainOrchestrationEvaluation then
    ["outreach_daily_trigger_hour_cst", "outreach_retry_window_days"]
  else ["sql_server_max_sync_age_hours"]

/-- The cycle comes to its domains without a value of the configuration. -/
structure Plainly (mode : String) (cycle : Cycle) : Prop where
  coordinates : Coordinates cycle
  ruleSet : cycle.configRuleSet = some []
  mode_eq : cycle.executionMode = mode

def triggered (cycle : Cycle) (s : State String Entry) (t : Triggered) : State String Entry :=
  leave cycle s t.2.1 t.2.2

theorem triggered_booked (cycle : Cycle) (hs : Booked s) (hplain : Plain (cycle.window domain))
    (duplicate : List Record) (cycleId : String) (missing : List String)
    (hduplicate : (duplicate.map (Prod.mk cycle)).filterMap firedWindow = []) :
    let s' := triggered cycle s (triggerWindow duplicate
      (.trigger (cycle.emitted domain cycleId missing)) cycleId (cycle.key domain) s.taken)
    Booked s' ∧ ∀ w, w ∈ fired s' ↔ w ∈ fired s ∨ w = cycle.window domain := by
  intro s'
  by_cases hkey : cycle.key domain ∈ s.taken
  · have hs' : s' = ⟨s.taken, s.log ++ duplicate.map (Prod.mk cycle)⟩ := by
      simp only [s', triggered, leave, triggerWindow, if_pos hkey]
    have hfired : fired s' = fired s := by
      rw [hs', fired, List.filterMap_append, hduplicate, List.append_nil]
      rfl
    have htaken : s'.taken = s.taken := by rw [hs']
    refine ⟨⟨?_, ?_⟩, fun w => ?_⟩
    · rw [hfired, htaken]
      exact hs.taken
    · rw [hfired]
      exact hs.plain
    · obtain ⟨w', hw', hkey'⟩ := hs.taken _ hkey
      have heq : w' = cycle.window domain := windowKey_inj (hs.plain w' hw') hplain hkey'
      rw [hfired]
      constructor
      · exact .inl
      · rintro (hw | rfl)
        · exact hw
        · exact heq ▸ hw'
  · have hs' : s' = ⟨s.taken ++ [cycle.key domain],
        s.log ++ [(cycle, .trigger (cycle.emitted domain cycleId missing))]⟩ := by
      simp only [s', triggered, leave, triggerWindow, if_neg hkey]
      rfl
    have hfired : fired s' = fired s ++ [cycle.window domain] := by
      rw [hs', fired, List.filterMap_append]
      rfl
    refine ⟨⟨?_, ?_⟩, fun w => ?_⟩
    · intro k hk
      rw [hs', List.mem_append, List.mem_singleton] at hk
      rw [hfired]
      rcases hk with hk | rfl
      · obtain ⟨w', hw', hkey'⟩ := hs.taken k hk
        exact ⟨w', List.mem_append_left _ hw', hkey'⟩
      · exact ⟨cycle.window domain, List.mem_append_right _ (.head _), rfl⟩
    · intro w hw
      rw [hfired, List.mem_append, List.mem_singleton] at hw
      rcases hw with hw | rfl
      · exact hs.plain w hw
      · exact hplain
    · rw [hfired, List.mem_append, List.mem_singleton]

/-- A coordinated cycle without a rule set, with what its domains miss of the configuration. -/
theorem cycleStep_eq (h : Plainly mode cycle) (s : State String Entry) :
    let s₁ := triggered cycle s
      (cycle.evaluation (configKeys domainOrchestrationEvaluation) s.taken)
    let s₂ := triggered cycle s₁ (cycle.provider (configKeys domainProviderSync) s₁.taken)
    cycleStep s cycle = leave cycle s₂ cycle.closing s₂.taken := by
  intro s₁ s₂
  have hruleSet : cycle.configRuleSet.getD [] = [] := by rw [h.ruleSet]; rfl
  have hcoordinates := h.coordinates
  simp only [cycleStep, coordinateOrchestrationCycle, hcoordinates.gate, ne_eq, not_true_eq_false,
    if_false, if_neg hcoordinates.replay, if_neg hcoordinates.maintenance, hruleSet,
    triggerOrchestrationEvaluation_eq hcoordinates, triggerProviderSynchronization_eq hcoordinates,
    s₂, s₁, triggered, leave, List.map_append, List.append_assoc]
  rfl

/-- After a cycle its day has fired in both domains, and nothing else has fired by it. -/
theorem cycleStep_fired (h : Plainly mode cycle) (hmode : '|' ∉ mode.toList) (hs : Booked s) :
    Booked (cycleStep s cycle) ∧
      ∀ w, w ∈ fired (cycleStep s cycle) ↔
        w ∈ fired s ∨ ∃ domain ∈ domains, w = cycle.window domain := by
  have hplain : ∀ domain, '|' ∉ domain.toList → Plain (cycle.window domain) := by
    intro domain hdomain
    refine ⟨hdomain, ?_⟩
    rw [Cycle.window, h.mode_eq]
    exact hmode
  obtain ⟨hbooked, hfired⟩ := triggered_booked cycle hs
    (hplain domainOrchestrationEvaluation (by decide))
    [.trigger (cycle.duplicate domainOrchestrationEvaluation)] (cycle.makeCycleId 0)
    (configKeys domainOrchestrationEvaluation) rfl
  obtain ⟨hbooked', hfired'⟩ := triggered_booked cycle hbooked
    (hplain domainProviderSync (by decide)) [] (cycle.makeCycleId 1)
    (configKeys domainProviderSync) rfl
  have hclosing : ∀ s' : State String Entry, fired (leave cycle s' cycle.closing s'.taken) =
      fired s' := by
    intro s'
    simp only [fired, leave, List.filterMap_append]
    exact List.append_nil _
  rw [cycleStep_eq h s]
  constructor
  · refine ⟨?_, ?_⟩
    · rw [hclosing]
      exact hbooked'.taken
    · rw [hclosing]
      exact hbooked'.plain
  · intro w
    rw [hclosing]
    refine (hfired' w).trans ?_
    rw [hfired w]
    simp only [domains, List.mem_cons, List.not_mem_nil, or_false, exists_eq_or_imp,
      exists_eq_left, or_assoc]

/-- The days of the cycles fire in both domains, and no other day. -/
theorem fired_iff (hmode : '|' ∉ mode.toList) (cycles : List Cycle)
    (hcycles : ∀ cycle ∈ cycles, Plainly mode cycle) (hs : Booked s) (w : Window) :
    w ∈ fired (Runs.final cycleStep s cycles) ↔
      w ∈ fired s ∨ ∃ cycle ∈ cycles, ∃ domain ∈ domains, w = cycle.window domain := by
  induction cycles generalizing s with
  | nil => simp
  | cons cycle cycles ih =>
    obtain ⟨hbooked, hfired⟩ := cycleStep_fired (hcycles cycle (.head _)) hmode hs
    rw [Runs.final_cons, ih (fun c hc => hcycles c (.tail _ hc)) hbooked, hfired, or_assoc]
    simp only [List.mem_cons, exists_eq_or_imp]

/-- A record of a contained cycle: nothing is stopped, nothing is in a scope beyond the shadow, and
what fires says that the configuration gave it no value. -/
def Contained (mode : String) : Record → Prop
  | .preconditionFailed _ _ _ => False
  | .trigger r => r.governanceScope = "SHADOW_ONLY" ∧ r.executionMode = mode ∧
      (r.triggerOutcome = "emitted" → r.missingKeys = configKeys r.domain)
  | .triggerSuppressed _ _ _ => False
  | .heartbeat _ executionMode governanceScope _ _ =>
    governanceScope = "SHADOW_ONLY" ∧ executionMode = mode
  | .cycleComplete _ executionMode _ governanceScope loopOutcome reasonCodes =>
    governanceScope = "SHADOW_ONLY" ∧ executionMode = mode ∧ loopOutcome = "success" ∧
      reasonCodes = []

theorem cycleStep_contained (h : Plainly mode cycle) (hscope : governanceScope mode = "SHADOW_ONLY")
    (hs : ∀ entry ∈ s.log, Contained mode entry.2) :
    ∀ entry ∈ (cycleStep s cycle).log, Contained mode entry.2 := by
  have hscope' : governanceScope cycle.executionMode = "SHADOW_ONLY" := by
    rw [h.mode_eq]
    exact hscope
  have hleave : ∀ (s : State String Entry) records taken,
      (∀ entry ∈ s.log, Contained mode entry.2) → (∀ r ∈ records, Contained mode r) →
      ∀ entry ∈ (leave cycle s records taken).log, Contained mode entry.2 := by
    intro s records taken hs hrecords entry hentry
    rw [leave, List.mem_append] at hentry
    rcases hentry with hentry | hentry
    · exact hs entry hentry
    · obtain ⟨r, hr, rfl⟩ := List.mem_map.1 hentry
      exact hrecords r hr
  have hemitted : ∀ domain cycleId, Contained mode
      (.trigger (cycle.emitted domain cycleId (configKeys domain))) :=
    fun _ _ => ⟨hscope', h.mode_eq, fun _ => rfl⟩
  have hevaluation : ∀ taken, ∀ r ∈ (cycle.evaluation (configKeys domainOrchestrationEvaluation)
      taken).2.1, Contained mode r := by
    intro taken r hr
    rw [Cycle.evaluation, triggerWindow] at hr
    split_ifs at hr
    · cases List.mem_singleton.1 hr
      have hsuppressed : (cycle.duplicate domainOrchestrationEvaluation).triggerOutcome =
          "suppressed" := rfl
      exact ⟨hscope', h.mode_eq, fun hout => absurd (hsuppressed.symm.trans hout) (by decide)⟩
    · cases List.mem_singleton.1 hr
      exact hemitted _ _
  have hprovider : ∀ taken, ∀ r ∈ (cycle.provider (configKeys domainProviderSync) taken).2.1,
      Contained mode r := by
    intro taken r hr
    rw [Cycle.provider, triggerWindow] at hr
    split_ifs at hr
    · cases hr
    · cases List.mem_singleton.1 hr
      exact hemitted _ _
  have hclosing : ∀ r ∈ cycle.closing, Contained mode r := by
    intro r hr
    rw [Cycle.closing, List.mem_cons, List.mem_singleton] at hr
    rcases hr with rfl | rfl
    · exact ⟨hscope', h.mode_eq⟩
    · exact ⟨hscope', h.mode_eq, rfl, rfl⟩
  rw [cycleStep_eq h s]
  exact hleave _ _ _ (hleave _ _ _ (hleave _ _ _ hs (hevaluation _)) (hprovider _)) hclosing

theorem cycles_contained (hscope : governanceScope mode = "SHADOW_ONLY") (cycles : List Cycle)
    (hcycles : ∀ cycle ∈ cycles, Plainly mode cycle)
    (hs : ∀ entry ∈ s.log, Contained mode entry.2) :
    ∀ entry ∈ (Runs.final cycleStep s cycles).log, Contained mode entry.2 := by
  induction cycles generalizing s with
  | nil => exact hs
  | cons cycle cycles ih =>
    exact ih (fun c hc => hcycles c (.tail _ hc))
      (cycleStep_contained (hcycles cycle (.head _)) hscope hs)

/-- The startup resolves the configured mode to itself. -/
theorem bootstrapContext_mode (settings : Settings) (boot : Boot) :
    (bootstrapContext settings boot).executionMode = settings.executionMode.value := by
  cases hmode : settings.executionMode <;>
    simp [bootstrapContext, initializeRuntimeContext, classifyExecutionMode, hmode,
      ExecutionMode.value, validBootstrapModes]

/-- Whatever the registry is, the startup has a version to give. -/
theorem bootstrapContext_version (settings : Settings) (boot : Boot) :
    (bootstrapContext settings boot).configVersionId ≠ "" := by
  have hversion : ∀ codes, (validateConfigV2 boot.str_
      (some (loadActiveConfigVersions boot.registry)) codes).1.1 ≠ "" := by
    intro codes
    have hrows : ∀ row ∈ loadActiveConfigVersions boot.registry, row.versionId ≠ "" := by
      intro row hrow
      unfold loadActiveConfigVersions at hrow
      split at hrow
      · obtain ⟨r, -, rfl⟩ := List.mem_map.1 hrow
        exact Py.intText_ne_empty _
      · cases hrow
    match hload : loadActiveConfigVersions boot.registry with
    | [] => exact (by decide : Bootstrap.unknownV0 ≠ "")
    | [row] =>
      have hrow := hrows row (by rw [hload]; exact .head _)
      rw [validateConfigV2, ConfigVersionRow.text, if_pos hrow]
      exact hrow
    | _ :: _ :: _ => exact (by decide : Bootstrap.unknownV0 ≠ "")
  exact hversion _

theorem isoformat_ne_empty (d : Datetime) : d.isoformat ≠ "" := by
  intro h
  have hlt := d.empty_lt_isoformat
  rw [h] at hlt
  exact absurd hlt (by decide)

theorem schedulerConfig_complete (settings : Settings) (boot : Boot) :
    attributionComplete
      (some (schedulerConfig (bootstrapContext settings boot)).attributionContext) = true := by
  have hstamp : (Py.Value.str boot.now.isoformat).truthy = true :=
    bne_iff_ne.2 (isoformat_ne_empty boot.now)
  simp only [attributionComplete, schedulerConfig, requiredAttribution, List.all_cons,
    List.all_nil, Bool.and_true, Bool.and_eq_true]
  exact ⟨rfl, rfl, rfl, rfl, hstamp⟩

theorem gate_of_complete (hmode : cycle.executionMode ∈ validModes)
    (hversion : Py.truthyText cycle.configVersionId = true)
    (hcomplete : attributionComplete cycle.attributionContext = true) :
    governancePreconditionGate cycle = [] := by
  rw [governancePreconditionGate, if_pos hmode, if_pos hversion, if_pos hcomplete]
  rfl

theorem cycleOf_plainly (settings : Settings) (boot : Boot) (running : Bool) (firing : Firing) :
    Plainly settings.executionMode.value
      (cycleOf (some (schedulerConfig (bootstrapContext settings boot))) running firing) := by
  have hmode := bootstrapContext_mode settings boot
  have hversion := bootstrapContext_version settings boot
  refine ⟨⟨?_, ?_, ?_⟩, rfl, hmode⟩
  · have hvalid : (bootstrapContext settings boot).executionMode ∈ validModes := by
      rw [hmode]
      cases settings.executionMode <;> decide
    have htruthy : Py.truthyText (some (bootstrapContext settings boot).configVersionId) = true :=
      bne_iff_ne.2 hversion
    exact gate_of_complete hvalid htruthy (schedulerConfig_complete settings boot)
  · change (bootstrapContext settings boot).executionMode ∉ replayModes
    rw [hmode]
    cases settings.executionMode <;> decide
  · change (bootstrapContext settings boot).executionMode ≠ "MAINTENANCE"
    rw [hmode]
    cases settings.executionMode <;> decide

def cyclesOf (settings : Settings) (boot : Boot) (events : List Event) : List Cycle :=
  (firings events).map (cycleOf (some (schedulerConfig (bootstrapContext settings boot))) true)

theorem stopped_windows (p : Process) (hstopped : p.running = false) (events : List Event) :
    Runs.final step p events = p := by
  induction events with
  | nil => rfl
  | cons event events ih =>
    have hsame : step p event = p := by
      cases event with
      | fire firing => simp [step, hstopped]
      | shutdown => simp [step, stopScheduler, hstopped]
    rw [Runs.final_cons, hsame]
    exact ih

/-- A running process coordinates its firings one after the other, up to the shutdown. -/
theorem running_windows (p : Process) (hrunning : p.running = true) (events : List Event) :
    (Runs.final step p events).windows = Runs.final cycleStep p.windows
      ((firings events).map (cycleOf p.schedulerConfig true)) := by
  induction events generalizing p with
  | nil => rfl
  | cons event events ih =>
    cases event with
    | fire firing =>
      have hstep : step p (.fire firing) = scheduledCycle firing p := by simp [step, hrunning]
      rw [Runs.final_cons, hstep, ih (scheduledCycle firing p) hrunning, firings, List.map_cons,
        Runs.final_cons]
      simp only [scheduledCycle, hrunning]
    | shutdown =>
      have hstep : step p .shutdown = { p with running := false } := by
        simp [step, stopScheduler, hrunning]
      rw [Runs.final_cons, hstep, stopped_windows _ rfl]
      rfl

theorem started_windows (settings : Settings) (boot : Boot) (events : List Event) :
    (Runs.final step (onStartup settings boot .initial) events).windows =
      Runs.final cycleStep Scheduler.init (cyclesOf settings boot events) :=
  running_windows (onStartup settings boot .initial) rfl events

theorem cyclesOf_plainly (settings : Settings) (boot : Boot) (events : List Event) :
    ∀ cycle ∈ cyclesOf settings boot events, Plainly settings.executionMode.value cycle := by
  intro cycle hcycle
  obtain ⟨firing, -, rfl⟩ := List.mem_map.1 hcycle
  exact cycleOf_plainly settings boot true firing

/-- A process in any configured mode and with any registry of configurations: each UTC day on which
the job of the cycle has run since the startup has fired in both domains, once, and nothing else
has; no cycle is stopped, and every record is of the shadow scope. -/
theorem onStartup_fires_each_day (settings : Settings) (boot : Boot) (events : List Event) :
    (fired (Runs.final step (onStartup settings boot .initial) events).windows).Nodup ∧
      (∀ w, w ∈ fired (Runs.final step (onStartup settings boot .initial) events).windows ↔
        w.domain ∈ domains ∧ w.mode = settings.executionMode.value ∧
          ∃ firing ∈ firings events, w.day = firing.at_ / Calendar.microsPerDay) ∧
      ∀ entry ∈ (Runs.final step (onStartup settings boot .initial) events).windows.log,
        Contained settings.executionMode.value entry.2 := by
  have hplainly := cyclesOf_plainly settings boot events
  have hmode : '|' ∉ settings.executionMode.value.toList := by
    cases settings.executionMode <;> decide
  have hscope : governanceScope settings.executionMode.value = "SHADOW_ONLY" := by
    cases settings.executionMode <;> decide
  rw [started_windows]
  refine ⟨(final_once cycleStep_takes [] _).nodup, fun w => ?_,
    cycles_contained hscope _ hplainly nofun⟩
  rw [fired_iff hmode _ hplainly booked_init]
  constructor
  · rintro (hw | ⟨cycle, hcycle, domain, hdomain, rfl⟩)
    · cases hw
    · obtain ⟨firing, hfiring, rfl⟩ := List.mem_map.1 hcycle
      exact ⟨hdomain, bootstrapContext_mode settings boot, firing, hfiring, rfl⟩
  · rintro ⟨hdomain, hw, firing, hfiring, hday⟩
    refine .inr ⟨_, List.mem_map_of_mem hfiring, w.domain, hdomain, ?_⟩
    obtain ⟨domain, day, mode⟩ := w
    cases hw
    cases hday
    exact congrArg (Window.mk domain _) (bootstrapContext_mode settings boot).symm

/-- What the startup makes of the active configurations. -/
theorem bootstrapContext_config (settings : Settings) (boot : Boot) :
    let config := validateConfigV2 boot.str_ (some (loadActiveConfigVersions boot.registry)) []
    (bootstrapContext settings boot).configVersionId = config.1.1 ∧
      (bootstrapContext settings boot).degradationState = !config.2.isEmpty := by
  cases hmode : settings.executionMode <;>
    simp [bootstrapContext, initializeRuntimeContext, classifyExecutionMode, hmode,
      ExecutionMode.value, validBootstrapModes, given]

theorem verifyStartupDbState_counts (seen : Verification) (htables : seen.tables = .ok (n + 1))
    (hseen : seen.registry = .ok rows) :
    (verifyStartupDbState seen).activeConfigCount = (activeRows rows).length ∧
      (verifyStartupDbState seen).activeConfigVersionNumber = singleVersion (activeRows rows) := by
  cases hrevision : seen.revision <;>
    simp [verifyStartupDbState, htables, hseen, hrevision, DbState.revised]

/-- Where the verification and the load see one registry, the startup is degraded unless the
verification counts one active version, and runs with the version that it counts. -/
theorem verifyStartupDbState_agrees (settings : Settings) (boot : Boot) (seen : Verification)
    (hload : boot.registry = .ok rows) (htables : seen.tables = .ok (n + 1))
    (hseen : seen.registry = .ok rows) :
    ((bootstrapContext settings boot).degradationState = false ↔
        (verifyStartupDbState seen).activeConfigCount = 1) ∧
      ∀ v, (verifyStartupDbState seen).activeConfigVersionNumber = some v →
        (bootstrapContext settings boot).configVersionId = toString v := by
  obtain ⟨hversion, hdegraded⟩ := bootstrapContext_config settings boot
  obtain ⟨hcount, hnumber⟩ := verifyStartupDbState_counts seen htables hseen
  rw [hversion, hdegraded, hcount, hnumber, hload, loadActiveConfigVersions]
  match activeRows rows with
  | [] => exact ⟨iff_of_false (by simp [validateConfigV2]) nofun, nofun⟩
  | [row] =>
    refine ⟨iff_of_true rfl rfl, ?_⟩
    rintro v ⟨⟩
    exact if_pos (Py.intText_ne_empty _)
  | _ :: _ :: rest =>
    exact ⟨iff_of_false (by simp [validateConfigV2]) (by simp), nofun⟩

end Startup
end StudentSuccess
