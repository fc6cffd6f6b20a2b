import StudentSuccess.OnceGate
import StudentSuccess.KeyStores
import StudentSuccess.Outreach
import StudentSuccess.Sync
import StudentSuccess.Timeline
import StudentSuccess.Alerts
import StudentSuccess.PriorityAdvisory

namespace StudentSuccess
set_option autoImplicit true

/-- A service with an idempotency store: RULE 0, whose last code is that of a key it has seen, then
the suspension in maintenance mode, the containment of replays and the evaluation proper. -/
structure KeyedService (γ ρ : Type) where
  call : List String → γ → List String × ρ
  rule0 : List String → γ → List String
  duplicateCode : String
  idempotencyKey : γ → Option String
  executionType : γ → String
  maintenance : γ → Bool
  Stores : γ → Prop
  [decidableStores : DecidablePred Stores]
  Replay : γ → Prop
  [decidableReplay : DecidablePred Replay]
  refused : γ → List String → ρ
  suspended : γ → ρ
  replayed : γ → ρ
  evaluated : γ → ρ
  Blocked : ρ → Prop
  original_stores : ∀ ctx, executionType ctx = "original" → Stores ctx
  original_live : ∀ ctx, executionType ctx = "original" → ¬ Replay ctx
  rule0_eq : ∀ keys ctx,
    rule0 keys ctx = rule0 [] ctx ++ duplicateCodes duplicateCode keys (idempotencyKey ctx)
  call_eq : ∀ keys ctx, call keys ctx =
    if rule0 keys ctx ≠ [] then (keys, refused ctx (rule0 keys ctx))
    else if maintenance ctx then
      (register (Stores ctx) keys (idempotencyKey ctx), suspended ctx)
    else if Replay ctx then (register (Stores ctx) keys (idempotencyKey ctx), replayed ctx)
    else (register (Stores ctx) keys (idempotencyKey ctx), evaluated ctx)
  blocked_refused : ∀ ctx codes, Blocked (refused ctx codes)
  suspended_unblocked : ∀ ctx, ¬ Blocked (suspended ctx)
  replayed_unblocked : ∀ ctx, ¬ Blocked (replayed ctx)
  evaluated_unblocked : ∀ ctx, ¬ Blocked (evaluated ctx)

/-- A record came back, and it says that the call was blocked. -/
def ReturnsBlocked (blocked : ρ → Bool) (result : Except ε ρ) : Prop :=
  ∃ record, result = .ok record ∧ blocked record = true

@[simp] theorem returnsBlocked_ok {blocked : ρ → Bool} :
    ReturnsBlocked blocked (.ok record : Except ε ρ) ↔ blocked record = true := by
  simp [ReturnsBlocked]

namespace KeyedService

attribute [instance] decidableStores decidableReplay

variable {γ ρ : Type} (service : KeyedService γ ρ)

def serve (keys : List String) (ctx : γ) : List String := (service.call keys ctx).1

/-- The call gets past RULE 0 unblocked. -/
def Admits (keys : List String) (ctx : γ) : Prop := ¬ service.Blocked (service.call keys ctx).2

def onceGate : OnceGate String γ where
  key ctx := nonEmptyKey (service.idempotencyKey ctx)
  Sound ctx := service.rule0 [] ctx = []
  Stores := service.Stores
  Original ctx := service.executionType ctx = "original"
  Replay := service.Replay
  original_stores := service.original_stores
  original_live := service.original_live

/-- At most once per idempotency key, over a run of calls from the empty store. -/
def AtMostOnce (calls : List γ) : Prop :=
  service.onceGate.AtMostOnce service.serve service.Admits calls

theorem call_of_refused (h : service.rule0 keys ctx ≠ []) :
    service.call keys ctx = (keys, service.refused ctx (service.rule0 keys ctx)) := by
  rw [service.call_eq, if_pos h]

theorem call_of_passed (h : service.rule0 keys ctx = []) :
    (service.serve keys ctx = register (service.Stores ctx) keys (service.idempotencyKey ctx)) ∧
      service.Admits keys ctx := by
  rw [serve, Admits]
  rw [service.call_eq, if_neg (not_not_intro h)]
  by_cases hmaintenance : service.maintenance ctx = true
  · rw [if_pos hmaintenance]
    exact ⟨rfl, service.suspended_unblocked ctx⟩
  · rw [if_neg hmaintenance]
    by_cases hreplay : service.Replay ctx
    · rw [if_pos hreplay]
      exact ⟨rfl, service.replayed_unblocked ctx⟩
    · rw [if_neg hreplay]
      exact ⟨rfl, service.evaluated_unblocked ctx⟩

theorem admits_iff (keys : List String) (ctx : γ) :
    service.Admits keys ctx ↔ service.rule0 keys ctx = [] := by
  constructor
  · intro hadmits
    by_contra h
    apply hadmits
    rw [service.call_of_refused h]
    exact service.blocked_refused ctx _
  · intro h
    exact (service.call_of_passed h).2

theorem guards : service.onceGate.Guards service.serve service.Admits where
  admits_iff keys ctx := by
    rw [admits_iff, service.rule0_eq, List.append_eq_nil_iff, duplicateCodes_eq_nil_iff]
    rfl
  mem_step keys ctx key := by
    rw [admits_iff]
    by_cases h : service.rule0 keys ctx = []
    · rw [eq_true h, true_and]
      rw [(service.call_of_passed h).1]
      exact mem_register_iff
    · rw [eq_false h, false_and, or_false]
      exact Iff.of_eq (congrArg (key ∈ ·.1) (service.call_of_refused h))

theorem atMostOnce_iff (calls : List γ) :
    service.AtMostOnce calls ↔ service.onceGate.Separate calls :=
  service.guards.atMostOnce_iff calls

/-- A call with the key of a call that got past RULE 0 and left it is refused for nothing else. -/
theorem call_after (hkey : service.idempotencyKey ctx = some key) (hne : key ≠ "")
    (hstores : service.Stores ctx) (before between : List γ)
    (hpass : service.rule0 (Runs.final service.serve [] before) ctx = [])
    (hkey' : service.idempotencyKey ctx' = some key) (hsound : service.rule0 [] ctx' = []) :
    (service.call (Runs.final service.serve [] (before ++ ctx :: between)) ctx').2 =
      service.refused ctx' [service.duplicateCode] := by
  have hregisters : service.onceGate.Registers key ctx := by
    refine ⟨⟨?_, nonEmptyKey_eq_some_iff.2 ⟨hkey, hne⟩⟩, hstores⟩
    exact service.guards.sound_of_admits ((service.admits_iff _ ctx).2 hpass)
  have hmem : key ∈ Runs.final service.serve [] (before ++ ctx :: between) :=
    (service.guards.mem_final key _).2 ⟨ctx, by simp, hregisters⟩
  have hcodes : service.rule0 (Runs.final service.serve [] (before ++ ctx :: between)) ctx' =
      [service.duplicateCode] := by
    rw [service.rule0_eq, hsound, hkey', duplicateCodes_of_mem hne hmem]
    rfl
  rw [service.call_of_refused (by simp [hcodes]), hcodes]

theorem rule0_of_suspended
    (h : (service.call keys ctx).2 = service.suspended ctx) : service.rule0 keys ctx = [] := by
  rw [← service.admits_iff]
  rw [Admits]
  rw [h]
  exact service.suspended_unblocked ctx

theorem rule0_nil (h : service.rule0 keys ctx = []) : service.rule0 [] ctx = [] := by
  rw [service.rule0_eq] at h
  exact (List.append_eq_nil_iff.1 h).1

/-- The key of a call that is suspended is left before the suspension is looked at. -/
theorem call_after_suspended (hstores : service.Stores ctx)
    (hkey : service.idempotencyKey ctx = some key) (hne : key ≠ "") (before between : List γ)
    (hsuspended : (service.call (Runs.final service.serve [] before) ctx).2 = service.suspended ctx)
    (hkey' : service.idempotencyKey ctx' = some key)
    (hrule0 : service.rule0 [] ctx' = service.rule0 [] ctx) :
    (service.call (Runs.final service.serve [] (before ++ ctx :: between)) ctx').2 =
      service.refused ctx' [service.duplicateCode] := by
  have hpass := service.rule0_of_suspended hsuspended
  exact service.call_after hkey hne hstores before between hpass hkey'
    (hrule0.trans (service.rule0_nil hpass))

end KeyedService

namespace Outreach

theorem gate_eq (keys : List String) (ctx : OutreachOrchestrationContext) :
    governancePreconditionGate keys ctx = governancePreconditionGate [] ctx ++
      duplicateCodes "IDEMPOTENCY_DUPLICATE_DETECTED" keys ctx.idempotencyKey := by
  simp only [governancePreconditionGate, duplicateCodes]
  cases ctx.idempotencyKey with
  | none => simp
  | some key => simp

theorem evaluate_unblocked (h : evaluate ctx = .ok record) :
    record.orchestrationBlocked = false := by
  rw [evaluate] at h
  rw [Py.bind_eq_ok] at h
  obtain ⟨stale, -, h⟩ := h
  rw [Py.bind_eq_ok] at h
  obtain ⟨intent, -, h⟩ := h
  cases h
  rfl

def service :
    KeyedService OutreachOrchestrationContext (Except Py.Error OutreachCoordinationRecord) where
  call := coordinateOrchestrationCycle
  rule0 := governancePreconditionGate
  duplicateCode := "IDEMPOTENCY_DUPLICATE_DETECTED"
  idempotencyKey ctx := ctx.idempotencyKey
  executionType ctx := ctx.executionType
  maintenance ctx := ctx.maintenanceModeActive
  Stores ctx := ctx.executionType = "original"
  Replay ctx := ctx.executionType ∈ replayTypes
  refused ctx codes := .ok (makeBlockedRecord ctx codes ["RULE_0"] codes.head?)
  suspended ctx :=
    .ok (makeMaintenanceRecord ctx ["MAINTENANCE_MODE_ACTIVE"] ["RULE_0", "RULE_1"])
  replayed ctx :=
    .ok (makeReplayRecord ctx
      (["REPLAY_MODE_ACTIVE"] ++
        if !Py.truthyText ctx.sourceArtifactId then ["REPLAY_SOURCE_ARTIFACT_MISSING"] else [])
      ["RULE_0", "RULE_1", "RULE_2"])
  evaluated := evaluate
  Blocked := ReturnsBlocked OutreachCoordinationRecord.orchestrationBlocked
  original_stores _ h := h
  original_live _ h := by
    rw [h]
    decide
  rule0_eq := gate_eq
  call_eq _ _ := rfl
  blocked_refused _ _ := returnsBlocked_ok.2 rfl
  suspended_unblocked _ h := Bool.noConfusion (returnsBlocked_ok.1 h)
  replayed_unblocked _ h := Bool.noConfusion (returnsBlocked_ok.1 h)
  evaluated_unblocked ctx h := by
    obtain ⟨record, hrecord, hblocked⟩ := h
    exact Bool.noConfusion (hblocked.symm.trans (evaluate_unblocked hrecord))

end Outreach

namespace Sync

theorem gate_eq (keys : List String) (ctx : SyncOrchestrationContext) :
    governancePreconditionGate keys ctx = governancePreconditionGate [] ctx ++
      duplicateCodes "IDEMPOTENCY_DUPLICATE_DETECTED" keys ctx.idempotencyKey := by
  simp only [governancePreconditionGate, duplicateCodes]
  cases ctx.idempotencyKey with
  | none => simp
  | some key => simp

def service : KeyedService SyncOrchestrationContext (Except Py.Error SyncCoordinationRecord) where
  call := coordinateSyncCycle
  rule0 := governancePreconditionGate
  duplicateCode := "IDEMPOTENCY_DUPLICATE_DETECTED"
  idempotencyKey ctx := ctx.idempotencyKey
  executionType ctx := ctx.executionType
  maintenance ctx := ctx.maintenanceModeActive
  Stores ctx := ctx.executionType = "original"
  Replay ctx := ctx.executionType ∈ replayTypes
  refused ctx codes := .ok (makeBlockedRecord ctx codes ["RULE_0"] codes.head?)
  suspended ctx :=
    .ok (makeMaintenanceRecord ctx ["MAINTENANCE_MODE_ACTIVE"] ["RULE_0", "RULE_1"])
  replayed ctx :=
    .ok (makeReplayRecord ctx
      (["REPLAY_MODE_ACTIVE"] ++
        if !Py.truthyText ctx.sourceArtifactId then ["REPLAY_SOURCE_ARTIFACT_MISSING"] else [])
      ["RULE_0", "RULE_1", "RULE_2"])
  evaluated := evaluate
  Blocked := ReturnsBlocked SyncCoordinationRecord.orchestrationBlocked
  original_stores _ h := h
  original_live _ h := by
    rw [h]
    decide
  rule0_eq := gate_eq
  call_eq _ _ := rfl
  blocked_refused _ _ := returnsBlocked_ok.2 rfl
  suspended_unblocked _ h := Bool.noConfusion (returnsBlocked_ok.1 h)
  replayed_unblocked _ h := Bool.noConfusion (returnsBlocked_ok.1 h)
  evaluated_unblocked ctx h := by
    obtain ⟨record, hrecord, hblocked⟩ := h
    exact Bool.noConfusion (hblocked.symm.trans (evaluate_readOnly hrecord).2.2.2)

end Sync

namespace Timeline

theorem gate_eq (keys : List String) (ctx : TimelineEventContext) :
    governancePreconditionGate keys ctx = governancePreconditionGate [] ctx ++
      duplicateCodes "IDEMPOTENCY_DUPLICATE_DETECTED" keys ctx.idempotencyKey := by
  simp only [governancePreconditionGate, duplicateCodes]
  cases ctx.idempotencyKey with
  | none => simp
  | some key => simp

def service : KeyedService TimelineEventContext TimelineLineageRecord where
  call := classifyTimelineEvent
  rule0 := governancePreconditionGate
  duplicateCode := "IDEMPOTENCY_DUPLICATE_DETECTED"
  idempotencyKey ctx := ctx.idempotencyKey
  executionType ctx := ctx.executionType
  maintenance ctx := ctx.maintenanceModeActive
  Stores ctx := ctx.executionType = "original"
  Replay ctx := ctx.executionType ∈ replayTypes
  refused ctx codes := makeBlockedLineageRecord ctx codes ["RULE_0"] codes.head?
  suspended ctx :=
    makeMaintenanceLineageRecord ctx ["MAINTENANCE_MODE_ACTIVE"] ["RULE_0", "RULE_1"]
  replayed ctx :=
    makeReplayLineageRecord ctx
      (["REPLAY_MODE_ACTIVE"] ++
        if !Py.truthyText ctx.sourceArtifactId then ["REPLAY_SOURCE_ARTIFACT_MISSING"] else [])
      ["RULE_0", "RULE_1", "RULE_2"]
  evaluated := evaluate
  Blocked record := record.orchestrationBlocked = true
  original_stores _ h := h
  original_live _ h := by
    rw [h]
    decide
  rule0_eq := gate_eq
  call_eq _ _ := rfl
  blocked_refused _ _ := rfl
  suspended_unblocked _ h := Bool.noConfusion h
  replayed_unblocked _ h := Bool.noConfusion h
  evaluated_unblocked ctx h := Bool.noConfusion h

end Timeline

namespace Prioritization

theorem gate_eq (keys : List String) (ctx : PrioritizationContext) :
    governancePreconditionGate keys ctx = governancePreconditionGate [] ctx ++
      duplicateCodes "IDEMPOTENCY_DUPLICATE_DETECTED" keys ctx.idempotencyKey := by
  simp only [governancePreconditionGate, duplicateCodes]
  cases ctx.idempotencyKey with
  | none => simp
  | some key => simp

theorem evaluate_unblocked (ctx : PrioritizationContext) :
    (evaluate ctx).orchestrationBlocked = false := by
  unfold evaluate
  dsimp only
  split_ifs
  · rfl
  · rfl

def service : KeyedService PrioritizationContext PrioritizationRecord where
  call := assessOrchestrationPriority
  rule0 := governancePreconditionGate
  duplicateCode := "IDEMPOTENCY_DUPLICATE_DETECTED"
  idempotencyKey ctx := ctx.idempotencyKey
  executionType ctx := ctx.executionType
  maintenance ctx := ctx.maintenanceModeActive
  Stores ctx := ctx.executionType = "original"
  Replay ctx := isReplayType ctx.executionType = true
  refused ctx codes := makeBlockedPriorityRecord ctx codes ["RULE_0"] codes.head?
  suspended ctx :=
    makeMaintenancePriorityRecord ctx ["MAINTENANCE_MODE_ACTIVE"] ["RULE_0", "RULE_1"]
  replayed ctx :=
    makeReplayPriorityRecord ctx
      (["REPLAY_MODE_ACTIVE"] ++
        if !Py.truthyText ctx.sourceArtifactId then ["REPLAY_SOURCE_ARTIFACT_MISSING"] else [])
      ["RULE_0", "RULE_1", "RULE_2"] []
  evaluated := evaluate
  Blocked record := record.orchestrationBlocked = true
  original_stores _ h := h
  original_live _ h := by
    rw [h]
    decide
  rule0_eq := gate_eq
  call_eq _ _ := rfl
  blocked_refused _ _ := rfl
  suspended_unblocked _ h := Bool.noConfusion h
  replayed_unblocked _ h := Bool.noConfusion h
  evaluated_unblocked ctx h := Bool.noConfusion (h.symm.trans (evaluate_unblocked ctx))

end Prioritization

namespace Alerts

theorem gate_eq (keys : List String) (ctx : AlertClassificationContext) :
    governancePreconditionGate keys ctx = governancePreconditionGate [] ctx ++
      duplicateCodes "IDEMPOTENCY_KEY_DUPLICATE" keys ctx.idempotencyKey := by
  simp only [governancePreconditionGate, duplicateCodes]
  cases ctx.idempotencyKey with
  | none => simp
  | some key => simp

theorem evaluate_unblocked (h : evaluate ctx = .ok record) :
    record.orchestrationBlocked = false := by
  rw [evaluate] at h
  rw [Py.bind_eq_ok] at h
  obtain ⟨severity, -, h⟩ := h
  cases h
  rfl

theorem registerKey_eq (keys : List String) (ctx : AlertClassificationContext) :
    registerKey keys ctx = register True keys ctx.idempotencyKey := by
  simp only [registerKey, register]
  cases ctx.idempotencyKey with
  | none => rfl
  | some key => simp

/-- The alert classification and its idempotency store: a call of any type leaves its key. -/
def service : KeyedService AlertClassificationContext (Except Py.Error DegradationAlertRecord) where
  call := classifyDegradationAlert
  rule0 := governancePreconditionGate
  duplicateCode := "IDEMPOTENCY_KEY_DUPLICATE"
  idempotencyKey ctx := ctx.idempotencyKey
  executionType ctx := ctx.executionType
  maintenance ctx := ctx.maintenanceModeActive
  Stores _ := True
  Replay ctx := ctx.executionType ∈ replayTypes
  refused ctx codes := .ok (makeBlockedAlertRecord ctx codes
    ["RULE_0_GOVERNANCE_GATE"] ("; ".intercalate codes))
  suspended ctx :=
    .ok (makeMaintenanceAlertRecord ctx ["MAINTENANCE_MODE_ACTIVE"]
      ["RULE_0_GOVERNANCE_GATE", "RULE_1_MAINTENANCE"])
  replayed ctx :=
    .ok (makeReplayAlertRecord ctx ["REPLAY_EXECUTION_TYPE"]
      ["RULE_0_GOVERNANCE_GATE", "RULE_2_REPLAY"] (resolveAlertThresholds ctx))
  evaluated := evaluate
  Blocked := ReturnsBlocked DegradationAlertRecord.orchestrationBlocked
  original_stores _ _ := trivial
  original_live _ h := by
    rw [h]
    decide
  rule0_eq := gate_eq
  call_eq keys ctx := by
    rw [← registerKey_eq]
    rfl
  blocked_refused _ _ := returnsBlocked_ok.2 rfl
  suspended_unblocked _ h := Bool.noConfusion (returnsBlocked_ok.1 h)
  replayed_unblocked _ h := Bool.noConfusion (returnsBlocked_ok.1 h)
  evaluated_unblocked ctx h := by
    obtain ⟨record, hrecord, hblocked⟩ := h
    exact Bool.noConfusion (hblocked.symm.trans (evaluate_unblocked hrecord))

end Alerts

inductive Coordinator
  | outreach
  | sync
  | timeline
  | prioritization
  | alerts
  deriving DecidableEq, Repr

namespace Coordinator

def Context : Coordinator → Type
  | outreach => Outreach.OutreachOrchestrationContext
  | sync => Sync.SyncOrchestrationContext
  | timeline => Timeline.TimelineEventContext
  | prioritization => Prioritization.PrioritizationContext
  | alerts => Alerts.AlertClassificationContext

def Result : Coordinator → Type
  | outreach => Except Py.Error Outreach.OutreachCoordinationRecord
  | sync => Except Py.Error Sync.SyncCoordinationRecord
  | timeline => Timeline.TimelineLineageRecord
  | prioritization => Prioritization.PrioritizationRecord
  | alerts => Except Py.Error Alerts.DegradationAlertRecord

def service : (c : Coordinator) → KeyedService c.Context c.Result
  | outreach => Outreach.service
  | sync => Sync.service
  | timeline => Timeline.service
  | prioritization => Prioritization.service
  | alerts => Alerts.service

def setMaintenance : (c : Coordinator) → c.Context → Bool → c.Context
  | outreach, ctx, b =>
    { (ctx : Outreach.OutreachOrchestrationContext) with maintenanceModeActive := b }
  | sync, ctx, b => { (ctx : Sync.SyncOrchestrationContext) with maintenanceModeActive := b }
  | timeline, ctx, b => { (ctx : Timeline.TimelineEventContext) with maintenanceModeActive := b }
  | prioritization, ctx, b =>
    { (ctx : Prioritization.PrioritizationContext) with maintenanceModeActive := b }
  | alerts, ctx, b => { (ctx : Alerts.AlertClassificationContext) with maintenanceModeActive := b }

theorem setMaintenance_frame (c : Coordinator) (ctx : c.Context) (b : Bool) :
    c.service.idempotencyKey (c.setMaintenance ctx b) = c.service.idempotencyKey ctx ∧
      c.service.executionType (c.setMaintenance ctx b) = c.service.executionType ctx ∧
      c.service.rule0 [] (c.setMaintenance ctx b) = c.service.rule0 [] ctx := by
  cases c with
  | outreach => exact ⟨rfl, rfl, rfl⟩
  | sync => exact ⟨rfl, rfl, rfl⟩
  | timeline => exact ⟨rfl, rfl, rfl⟩
  | prioritization => exact ⟨rfl, rfl, rfl⟩
  | alerts => exact ⟨rfl, rfl, rfl⟩

end Coordinator

/-- A coordination service keeps its promise of at most once per idempotency key over exactly the
runs whose calls with one key keep apart. -/
theorem at_most_once_iff (c : Coordinator) (calls : List c.Context) :
    c.service.AtMostOnce calls ↔ c.service.onceGate.Separate calls :=
  c.service.atMostOnce_iff calls

def outreachCall (executionType : String) : Outreach.OutreachOrchestrationContext where
  configVersionId := some "config-v1"
  executionMode := "SHADOW"
  executionType := executionType
  correlationId := some "corr-1"
  idempotencyKey := some "key-1"
  originSource := some "scheduler"
  originAuthority := some "system"
  actorIdentity := some "worker"

def alertCall (executionType : String) : Alerts.AlertClassificationContext where
  configVersionId := some "config-v1"
  executionMode := "SHADOW"
  executionType := executionType
  correlationId := some "corr-1"
  degradationDomain := some "provider"
  failureCause := none
  errorClass := none
  idempotencyKey := some "key-1"
  originSource := some "scheduler"
  originAuthority := some "system"
  actorIdentity := some "worker"
  historicalConfigVersionId := some "config-v0"

/-- Two recoveries get through with one key; a replay is refused after its original; and a replay
of an alert takes the key from the original. -/
theorem keys_not_at_most_once :
    ¬ Outreach.service.AtMostOnce [outreachCall "recovery", outreachCall "recovery"] ∧
    ¬ Outreach.service.AtMostOnce [outreachCall "original", outreachCall "replay"] ∧
    ¬ Alerts.service.AtMostOnce [alertCall "replay", alertCall "original"] := by
  have hrecovery : "recovery" ∉ Outreach.replayTypes := by decide
  have hreplay : "replay" ∈ Outreach.replayTypes := by decide
  refine ⟨?_, ?_, ?_⟩
  · intro h
    have hfirst : Outreach.service.Admits [] (outreachCall "recovery") :=
      (Outreach.service.admits_iff _ _).2 (by decide)
    have hsecond : Outreach.service.Admits
        (Outreach.service.serve [] (outreachCall "recovery")) (outreachCall "recovery") :=
      (Outreach.service.admits_iff _ _).2 (by decide)
    exact h.live [] _ [] _ [] "key-1" rfl hrecovery hrecovery rfl rfl hfirst hsecond
  · intro h
    have horiginal : Outreach.service.Admits [] (outreachCall "original") :=
      (Outreach.service.admits_iff _ _).2 (by decide)
    have hsound : Outreach.service.Admits [] (outreachCall "replay") :=
      (Outreach.service.admits_iff _ _).2 (by decide)
    have hpass := h.replay [] _ [] _ [] "key-1" rfl rfl hreplay rfl rfl horiginal hsound
    exact absurd ((Outreach.service.admits_iff _ _).1 hpass) (by decide)
  · intro h
    have hsound : Alerts.service.Admits [] (alertCall "original") :=
      (Alerts.service.admits_iff _ _).2 (by decide)
    have hpass := h.original [alertCall "replay"] _ [] "key-1" rfl rfl rfl hsound ?_
    · exact absurd ((Alerts.service.admits_iff _ _).1 hpass) (by decide)
    · intro b r m hsplit hlive
      have hmem : r ∈ [alertCall "replay"] := by simp [hsplit]
      obtain rfl := List.mem_singleton.1 hmem
      exact absurd hreplay hlive

/-- Work suspended in maintenance mode burns its key: the same context out of maintenance mode is
refused as a duplicate, whatever was called before and in between. -/
theorem suspended_work_burns_its_key (c : Coordinator) (before between : List c.Context)
    (ctx : c.Context) (key : String) (horiginal : c.service.executionType ctx = "original")
    (hkey : c.service.idempotencyKey ctx = some key) (hne : key ≠ "")
    (hsuspended : (c.service.call (Runs.final c.service.serve [] before)
      (c.setMaintenance ctx true)).2 = c.service.suspended (c.setMaintenance ctx true)) :
    (c.service.call
      (Runs.final c.service.serve [] (before ++ c.setMaintenance ctx true :: between))
      (c.setMaintenance ctx false)).2 =
        c.service.refused (c.setMaintenance ctx false) [c.service.duplicateCode] := by
  obtain ⟨hkeyTrue, htypeTrue, hruleTrue⟩ := c.setMaintenance_frame ctx true
  obtain ⟨hkeyFalse, -, hruleFalse⟩ := c.setMaintenance_frame ctx false
  have hstores : c.service.Stores (c.setMaintenance ctx true) :=
    c.service.original_stores _ (htypeTrue.trans horiginal)
  exact c.service.call_after_suspended hstores (hkeyTrue.trans hkey) hne before between hsuspended
    (hkeyFalse.trans hkey) (hruleFalse.trans hruleTrue.symm)

def otherCall (key : String) : Outreach.OutreachOrchestrationContext :=
  { outreachCall "original" with idempotencyKey := some key }

theorem suspended_outreach_burns_its_key :
    (Outreach.coordinateOrchestrationCycle
      (Runs.final Outreach.service.serve []
        [otherCall "key-0", { outreachCall "original" with maintenanceModeActive := true },
          otherCall "key-2", otherCall "key-0"])
      { outreachCall "original" with maintenanceModeActive := false }).2 =
        Outreach.service.refused { outreachCall "original" with maintenanceModeActive := false }
          ["IDEMPOTENCY_DUPLICATE_DETECTED"] :=
  suspended_work_burns_its_key .outreach [otherCall "key-0"] [otherCall "key-2", otherCall "key-0"]
    (outreachCall "original") "key-1" rfl rfl (by decide) rfl

/-- A suspended call gets past RULE 0, and the same call out of maintenance mode does not. -/
theorem suspended_outreach_not_retried :
    Outreach.service.Admits [] { outreachCall "original" with maintenanceModeActive := true } ∧
    ¬ Outreach.service.Admits
      (Outreach.service.serve [] { outreachCall "original" with maintenanceModeActive := true })
      { outreachCall "original" with maintenanceModeActive := false } := by
  constructor
  · exact (Outreach.service.admits_iff _ _).2 (by decide)
  · intro hpass
    exact absurd ((Outreach.service.admits_iff _ _).1 hpass) (by decide)

end StudentSuccess
