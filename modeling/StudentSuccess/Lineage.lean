import StudentSuccess.IdempotencyKeys

namespace StudentSuccess
set_option autoImplicit true

/-- Where an execution comes from, and whether it runs again what has run before. -/
structure Lineage where
  originSource : Option String
  originAuthority : Option String
  actorIdentity : Option String
  attributionTimestamp : Option String
  upstreamCorrelationId : Option String
  correlationId : Option String
  causationId : Option String
  orchestrationCycleId : Option String
  configVersionId : Option String
  historicalConfigVersionId : Option String
  isReplay : Bool

namespace Lineage

variable {l : Lineage}

/-- The lineage as of an execution that runs nothing again. -/
def fresh (l : Lineage) : Lineage := { l with isReplay := false }

/-- What is left of a lineage that is taken for a fresh one without a historical configuration. -/
def truncated (l : Lineage) : Lineage := { l.fresh with historicalConfigVersionId := none }

def Historical (l : Lineage) : Prop := l.isReplay = true ∨ l.historicalConfigVersionId ≠ none

theorem replay_eq {replays : Bool} (h : replays = l.isReplay) :
    { l with isReplay := replays } = l := by
  cases h
  rfl

theorem fresh_eq (h : l.isReplay = false) : l.fresh = l := replay_eq h.symm

theorem truncated_eq_iff (l : Lineage) : l.truncated = l ↔ ¬ l.Historical := by
  rw [Historical, not_or, not_not, Bool.not_eq_true]
  constructor
  · intro h
    exact ⟨(congrArg isReplay h).symm, (congrArg historicalConfigVersionId h).symm⟩
  · intro h
    obtain ⟨hreplay, hconfig⟩ := h
    cases l
    cases hreplay
    cases hconfig
    rfl

end Lineage

/-- Whatever record comes back has the lineage. -/
def ReturnsLineage (lineage : ρ → Lineage) (l : Lineage) (result : Except ε ρ) : Prop :=
  ∀ record, result = .ok record → lineage record = l

theorem returnsLineage_ok {lineage : ρ → Lineage} :
    ReturnsLineage lineage l (.ok record : Except ε ρ) ↔ lineage record = l := by
  constructor
  · intro h
    exact h record rfl
  · intro h record' hrecord
    cases hrecord
    exact h

/-- What the exits of a service carry of the lineage of a context. -/
structure CopiesLineage (service : KeyedService γ ρ) (lineage : γ → Lineage)
    (Carries : Lineage → ρ → Prop) : Prop where
  replay_iff : ∀ ctx, service.Replay ctx ↔ (lineage ctx).isReplay = true
  refused : ∀ ctx codes, Carries (lineage ctx) (service.refused ctx codes)
  suspended_iff : ∀ ctx l, Carries l (service.suspended ctx) ↔ (lineage ctx).truncated = l
  replayed : ∀ ctx, (lineage ctx).isReplay = true → Carries (lineage ctx) (service.replayed ctx)
  evaluated : ∀ ctx, Carries (lineage ctx).fresh (service.evaluated ctx)

/-- A service loses the lineages with a history that the maintenance check suspends, and no
other. -/
theorem CopiesLineage.carries_call_iff {service : KeyedService γ ρ}
    (hcopies : CopiesLineage service lineage Carries) (keys : List String) (ctx : γ) :
    Carries (lineage ctx) (service.call keys ctx).2 ↔ ¬ (service.rule0 keys ctx = [] ∧
      service.maintenance ctx = true ∧ (lineage ctx).Historical) := by
  rw [service.call_eq]
  by_cases hpasses : service.rule0 keys ctx = []
  · rw [if_neg (not_not_intro hpasses)]
    by_cases hsuspends : service.maintenance ctx = true
    · rw [if_pos hsuspends, hcopies.suspended_iff, (lineage ctx).truncated_eq_iff]
      exact not_congr ⟨fun h => ⟨hpasses, hsuspends, h⟩, fun h => h.2.2⟩
    · rw [if_neg hsuspends]
      apply iff_of_true _ fun h => hsuspends h.2.1
      by_cases hreplays : service.Replay ctx
      · rw [if_pos hreplays]
        exact hcopies.replayed ctx ((hcopies.replay_iff ctx).1 hreplays)
      · rw [if_neg hreplays]
        have hfresh : (lineage ctx).isReplay = false :=
          Bool.eq_false_of_not_eq_true (mt (hcopies.replay_iff ctx).2 hreplays)
        have hevaluated := hcopies.evaluated ctx
        rw [Lineage.fresh_eq hfresh] at hevaluated
        exact hevaluated
  · rw [if_pos hpasses]
    exact iff_of_true (hcopies.refused ctx _) fun h => hpasses h.1

theorem contains_replay (executionType : String) :
    ["replay", "regeneration"].contains executionType = isReplayType executionType := by
  rw [isReplayType, List.contains_cons, List.contains_cons, List.contains_nil, Bool.or_false]

theorem mem_replay_iff (executionType : String) :
    executionType ∈ ["replay", "regeneration"] ↔ isReplayType executionType = true := by
  rw [← contains_replay, List.contains_iff_mem]

namespace Outreach

def OutreachOrchestrationContext.lineage (ctx : OutreachOrchestrationContext) : Lineage where
  originSource := ctx.originSource
  originAuthority := ctx.originAuthority
  actorIdentity := ctx.actorIdentity
  attributionTimestamp := ctx.attributionTimestamp
  upstreamCorrelationId := ctx.upstreamCorrelationId
  correlationId := ctx.correlationId
  causationId := ctx.causationId
  orchestrationCycleId := ctx.orchestrationCycleId
  configVersionId := ctx.configVersionId
  historicalConfigVersionId := ctx.historicalConfigVersionId
  isReplay := isReplayType ctx.executionType

def OutreachCoordinationRecord.lineage (record : OutreachCoordinationRecord) : Lineage where
  originSource := record.originSource
  originAuthority := record.originAuthority
  actorIdentity := record.actorIdentity
  attributionTimestamp := record.attributionTimestamp
  upstreamCorrelationId := record.upstreamCorrelationId
  correlationId := record.correlationId
  causationId := record.causationId
  orchestrationCycleId := record.orchestrationCycleId
  configVersionId := record.configVersionId
  historicalConfigVersionId := record.historicalConfigVersionId
  isReplay := record.isReplay

theorem evaluate_lineage (h : evaluate ctx = .ok record) : record.lineage = ctx.lineage.fresh := by
  obtain ⟨stale, -, h⟩ := Py.bind_eq_ok.1 h
  obtain ⟨intent, -, h⟩ := Py.bind_eq_ok.1 h
  cases h
  rfl

theorem service_copies :
    CopiesLineage service (·.lineage) (ReturnsLineage OutreachCoordinationRecord.lineage) where
  replay_iff _ := mem_replay_iff _
  refused ctx _ := by
    have hreplay : replayTypes.contains ctx.executionType = ctx.lineage.isReplay :=
      contains_replay _
    exact returnsLineage_ok.2 (Lineage.replay_eq hreplay)
  suspended_iff _ _ := returnsLineage_ok
  replayed _ h := returnsLineage_ok.2 (Lineage.replay_eq h.symm)
  evaluated _ _ := evaluate_lineage

end Outreach

namespace Sync

def SyncOrchestrationContext.lineage (ctx : SyncOrchestrationContext) : Lineage where
  originSource := ctx.originSource
  originAuthority := ctx.originAuthority
  actorIdentity := ctx.actorIdentity
  attributionTimestamp := ctx.attributionTimestamp
  upstreamCorrelationId := ctx.upstreamCorrelationId
  correlationId := ctx.correlationId
  causationId := ctx.causationId
  orchestrationCycleId := ctx.orchestrationCycleId
  configVersionId := ctx.configVersionId
  historicalConfigVersionId := ctx.historicalConfigVersionId
  isReplay := isReplayType ctx.executionType

def SyncCoordinationRecord.lineage (record : SyncCoordinationRecord) : Lineage where
  originSource := record.originSource
  originAuthority := record.originAuthority
  actorIdentity := record.actorIdentity
  attributionTimestamp := record.attributionTimestamp
  upstreamCorrelationId := record.upstreamCorrelationId
  correlationId := record.correlationId
  causationId := record.causationId
  orchestrationCycleId := record.orchestrationCycleId
  configVersionId := record.configVersionId
  historicalConfigVersionId := record.historicalConfigVersionId
  isReplay := record.isReplay

theorem evaluate_lineage (h : evaluate ctx = .ok record) : record.lineage = ctx.lineage.fresh := by
  obtain ⟨lag, -, h⟩ := Py.bind_eq_ok.1 h
  obtain ⟨intent, -, h⟩ := Py.bind_eq_ok.1 h
  cases h
  rfl

theorem service_copies :
    CopiesLineage service (·.lineage) (ReturnsLineage SyncCoordinationRecord.lineage) where
  replay_iff _ := mem_replay_iff _
  refused ctx _ := by
    have hreplay : replayTypes.contains ctx.executionType = ctx.lineage.isReplay :=
      contains_replay _
    exact returnsLineage_ok.2 (Lineage.replay_eq hreplay)
  suspended_iff _ _ := returnsLineage_ok
  replayed _ h := returnsLineage_ok.2 (Lineage.replay_eq h.symm)
  evaluated _ _ := evaluate_lineage

end Sync

namespace Timeline

def TimelineEventContext.lineage (ctx : TimelineEventContext) : Lineage where
  originSource := ctx.originSource
  originAuthority := ctx.originAuthority
  actorIdentity := ctx.actorIdentity
  attributionTimestamp := ctx.attributionTimestamp
  upstreamCorrelationId := ctx.upstreamCorrelationId
  correlationId := ctx.correlationId
  causationId := ctx.causationId
  orchestrationCycleId := ctx.orchestrationCycleId
  configVersionId := ctx.configVersionId
  historicalConfigVersionId := ctx.historicalConfigVersionId
  isReplay := isReplayType ctx.executionType

def TimelineLineageRecord.lineage (record : TimelineLineageRecord) : Lineage where
  originSource := record.originSource
  originAuthority := record.originAuthority
  actorIdentity := record.actorIdentity
  attributionTimestamp := record.attributionTimestamp
  upstreamCorrelationId := record.upstreamCorrelationId
  correlationId := record.correlationId
  causationId := record.causationId
  orchestrationCycleId := record.orchestrationCycleId
  configVersionId := record.configVersionId
  historicalConfigVersionId := record.historicalConfigVersionId
  isReplay := record.isReplay

theorem service_copies :
    CopiesLineage service (·.lineage) (fun l record => record.lineage = l) where
  replay_iff _ := mem_replay_iff _
  refused ctx _ := by
    have hreplay : replayTypes.contains ctx.executionType = ctx.lineage.isReplay :=
      contains_replay _
    exact Lineage.replay_eq hreplay
  suspended_iff _ _ := Iff.rfl
  replayed _ h := Lineage.replay_eq h.symm
  evaluated _ := rfl

end Timeline

namespace Prioritization

def PrioritizationContext.lineage (ctx : PrioritizationContext) : Lineage where
  originSource := ctx.originSource
  originAuthority := ctx.originAuthority
  actorIdentity := ctx.actorIdentity
  attributionTimestamp := ctx.attributionTimestamp
  upstreamCorrelationId := ctx.upstreamCorrelationId
  correlationId := ctx.correlationId
  causationId := ctx.causationId
  orchestrationCycleId := ctx.orchestrationCycleId
  configVersionId := ctx.configVersionId
  historicalConfigVersionId := ctx.historicalConfigVersionId
  isReplay := isReplayType ctx.executionType

def PrioritizationRecord.lineage (record : PrioritizationRecord) : Lineage where
  originSource := record.originSource
  originAuthority := record.originAuthority
  actorIdentity := record.actorIdentity
  attributionTimestamp := record.attributionTimestamp
  upstreamCorrelationId := record.upstreamCorrelationId
  correlationId := record.correlationId
  causationId := record.causationId
  orchestrationCycleId := record.orchestrationCycleId
  configVersionId := record.configVersionId
  historicalConfigVersionId := record.historicalConfigVersionId
  isReplay := record.isReplay

theorem evaluate_lineage (ctx : PrioritizationContext) :
    (evaluate ctx).lineage = ctx.lineage.fresh := by
  unfold evaluate
  dsimp only
  split_ifs
  · rfl
  · rfl

theorem service_copies :
    CopiesLineage service (·.lineage) (fun l record => record.lineage = l) where
  replay_iff _ := Iff.rfl
  refused _ _ := rfl
  suspended_iff _ _ := Iff.rfl
  replayed _ h := Lineage.replay_eq h.symm
  evaluated := evaluate_lineage

end Prioritization

namespace Alerts

def AlertClassificationContext.lineage (ctx : AlertClassificationContext) : Lineage where
  originSource := ctx.originSource
  originAuthority := ctx.originAuthority
  actorIdentity := ctx.actorIdentity
  attributionTimestamp := ctx.attributionTimestamp
  upstreamCorrelationId := ctx.upstreamCorrelationId
  correlationId := ctx.correlationId
  causationId := ctx.causationId
  orchestrationCycleId := ctx.orchestrationCycleId
  configVersionId := ctx.configVersionId
  historicalConfigVersionId := ctx.historicalConfigVersionId
  isReplay := isReplayType ctx.executionType

def DegradationAlertRecord.lineage (record : DegradationAlertRecord) : Lineage where
  originSource := record.originSource
  originAuthority := record.originAuthority
  actorIdentity := record.actorIdentity
  attributionTimestamp := record.attributionTimestamp
  upstreamCorrelationId := record.upstreamCorrelationId
  correlationId := record.correlationId
  causationId := record.causationId
  orchestrationCycleId := record.orchestrationCycleId
  configVersionId := record.configVersionId
  historicalConfigVersionId := record.historicalConfigVersionId
  isReplay := record.isReplay

theorem evaluate_lineage (h : evaluate ctx = .ok record) : record.lineage = ctx.lineage.fresh := by
  obtain ⟨severity, -, h⟩ := Py.bind_eq_ok.1 h
  cases h
  rfl

theorem service_copies :
    CopiesLineage service (·.lineage) (ReturnsLineage DegradationAlertRecord.lineage) where
  replay_iff _ := mem_replay_iff _
  refused ctx _ := by
    have hreplay : replayTypes.contains ctx.executionType = ctx.lineage.isReplay :=
      contains_replay _
    exact returnsLineage_ok.2 (Lineage.replay_eq hreplay)
  suspended_iff _ _ := returnsLineage_ok
  replayed _ h := returnsLineage_ok.2 (Lineage.replay_eq h.symm)
  evaluated _ _ := evaluate_lineage

end Alerts

namespace Coordinator

def lineage : (c : Coordinator) → c.Context → Lineage
  | outreach => Outreach.OutreachOrchestrationContext.lineage
  | sync => Sync.SyncOrchestrationContext.lineage
  | timeline => Timeline.TimelineEventContext.lineage
  | prioritization => Prioritization.PrioritizationContext.lineage
  | alerts => Alerts.AlertClassificationContext.lineage

/-- The record that comes back, if one does, has the lineage. -/
def Carries : (c : Coordinator) → Lineage → c.Result → Prop
  | outreach => ReturnsLineage Outreach.OutreachCoordinationRecord.lineage
  | sync => ReturnsLineage Sync.SyncCoordinationRecord.lineage
  | timeline => fun l record => Timeline.TimelineLineageRecord.lineage record = l
  | prioritization => fun l record => Prioritization.PrioritizationRecord.lineage record = l
  | alerts => ReturnsLineage Alerts.DegradationAlertRecord.lineage

theorem service_copies (c : Coordinator) : CopiesLineage c.service c.lineage c.Carries := by
  cases c with
  | outreach => exact Outreach.service_copies
  | sync => exact Sync.service_copies
  | timeline => exact Timeline.service_copies
  | prioritization => exact Prioritization.service_copies
  | alerts => exact Alerts.service_copies

def KeepsLineage (c : Coordinator) (keys : List String) (ctx : c.Context) : Prop :=
  c.Carries (c.lineage ctx) (c.service.call keys ctx).2

end Coordinator

/-- A coordination service keeps the lineage of exactly the contexts that it does not suspend for
maintenance, or that have no history. -/
theorem lineage_kept_iff (c : Coordinator) (keys : List String) (ctx : c.Context) :
    c.KeepsLineage keys ctx ↔ ¬ (c.service.rule0 keys ctx = [] ∧
      c.service.maintenance ctx = true ∧ (c.lineage ctx).Historical) :=
  c.service_copies.carries_call_iff keys ctx

namespace Alerts

/-- A replay of a provider alert while the maintenance mode is on. -/
def suspendedReplay : AlertClassificationContext where
  configVersionId := some "config-v1"
  executionMode := "LIVE"
  executionType := "replay"
  correlationId := some "corr-1"
  degradationDomain := some "provider"
  failureCause := none
  errorClass := none
  maintenanceModeActive := true
  originSource := some "scheduler"
  originAuthority := some "system"
  actorIdentity := some "worker"
  historicalConfigVersionId := some "config-v0"

theorem suspendedReplay_loses_lineage :
    governancePreconditionGate [] suspendedReplay = [] ∧
    (∃ record, (classifyDegradationAlert [] suspendedReplay).2 = .ok record ∧
      record.executionType = "replay" ∧ record.isReplay = false ∧
      record.historicalConfigVersionId = none) ∧
    ¬ Coordinator.alerts.KeepsLineage [] suspendedReplay := by
  have hrecord : (classifyDegradationAlert [] suspendedReplay).2 =
      .ok (makeMaintenanceAlertRecord suspendedReplay ["MAINTENANCE_MODE_ACTIVE"]
        ["RULE_0_GOVERNANCE_GATE", "RULE_1_MAINTENANCE"]) := rfl
  have hlost : ¬ Coordinator.alerts.KeepsLineage [] suspendedReplay := by
    intro hkeeps
    have hreplay : false = true := congrArg Lineage.isReplay (hkeeps _ hrecord)
    cases hreplay
  exact ⟨rfl, ⟨_, hrecord, rfl, rfl, rfl⟩, hlost⟩

end Alerts
end StudentSuccess
