import StudentSuccess.Worker
import StudentSuccess.Lineage

namespace StudentSuccess
set_option autoImplicit true

variable {γ ρ : Type}

/-- Every field of the tuple is there and not empty. -/
def Populated (fields : List (γ → Option String)) (x : γ) : Prop :=
  ∀ field ∈ fields, Py.truthyText (field x) = true

theorem populated_nil {x : γ} : Populated [] x := fun _ h => nomatch h

theorem Populated.cons {x : γ} (h : Py.truthyText (field x) = true) (hfields : Populated fields x) :
    Populated (field :: fields) x :=
  List.forall_mem_cons.2 ⟨h, hfields⟩

theorem code_eq_nil_iff {p : Prop} [Decidable p] :
    (if p then [code] else []) = ([] : List String) ↔ ¬ p := by
  rw [ite_eq_right_iff]
  exact ⟨fun h hp => List.cons_ne_nil _ _ (h hp), fun h hp => absurd hp h⟩

theorem missing_eq_nil_iff :
    (if !Py.truthyText text then [code] else []) = ([] : List String) ↔
      Py.truthyText text = true := by
  rw [code_eq_nil_iff, Bool.not_eq_true, Bool.not_eq_false']

structure Lineage.Attributed (l : Lineage) : Prop where
  originSource : Py.truthyText l.originSource = true
  originAuthority : Py.truthyText l.originAuthority = true
  actorIdentity : Py.truthyText l.actorIdentity = true

/-- A service whose RULE 0 checks the attribution attributes what it does not block, also what it
suspends or replays. -/
theorem CopiesLineage.attributes {service : KeyedService γ ρ}
    (hcopies : CopiesLineage service lineage Carries)
    (hgate : service.rule0 keys ctx = [] → (lineage ctx).Attributed)
    (hadmits : service.Admits keys ctx) :
    ∃ l, Carries l (service.call keys ctx).2 ∧ l.Attributed := by
  have hpasses := (service.admits_iff keys ctx).1 hadmits
  have hattributed := hgate hpasses
  rw [service.call_eq, if_neg (not_not_intro hpasses)]
  by_cases hsuspends : service.maintenance ctx = true
  · rw [if_pos hsuspends]
    exact ⟨_, (hcopies.suspended_iff ctx _).2 rfl, hattributed.originSource,
      hattributed.originAuthority, hattributed.actorIdentity⟩
  · rw [if_neg hsuspends]
    by_cases hreplays : service.Replay ctx
    · rw [if_pos hreplays]
      exact ⟨_, hcopies.replayed ctx ((hcopies.replay_iff ctx).1 hreplays), hattributed⟩
    · rw [if_neg hreplays]
      exact ⟨_, hcopies.evaluated ctx, hattributed.originSource, hattributed.originAuthority,
        hattributed.actorIdentity⟩

namespace Outreach

def requiredOutreachAttribution : List (OutreachOrchestrationContext → Option String) :=
  [(·.originSource), (·.originAuthority), (·.actorIdentity)]

def recordAttribution : List (OutreachCoordinationRecord → Option String) :=
  [(·.originSource), (·.originAuthority), (·.actorIdentity)]

theorem gate_attributes (h : governancePreconditionGate keys ctx = []) :
    ctx.lineage.Attributed := by
  simp only [governancePreconditionGate, List.append_eq_nil_iff, missing_eq_nil_iff,
    and_assoc] at h
  obtain ⟨-, -, -, -, hsource, hauthority, hactor, -⟩ := h
  exact ⟨hsource, hauthority, hactor⟩

theorem gate_populates (h : governancePreconditionGate keys ctx = []) :
    Populated requiredOutreachAttribution ctx :=
  have hattributed := gate_attributes h
  .cons hattributed.originSource (.cons hattributed.originAuthority
    (.cons hattributed.actorIdentity populated_nil))

theorem unblocked_populated (h : (coordinateOrchestrationCycle keys ctx).2 = .ok record)
    (hunblocked : record.orchestrationBlocked = false) : Populated recordAttribution record := by
  have hadmits : service.Admits keys ctx := by
    intro hblocked
    obtain ⟨record', hrecord', hblocked⟩ := hblocked
    cases h.symm.trans hrecord'
    exact Bool.noConfusion (hunblocked.symm.trans hblocked)
  obtain ⟨l, hcarries, hattributed⟩ := service_copies.attributes gate_attributes hadmits
  have hlineage : record.lineage = l := hcarries record h
  cases hlineage
  exact .cons hattributed.originSource (.cons hattributed.originAuthority
    (.cons hattributed.actorIdentity populated_nil))

end Outreach

namespace Prioritization

def requiredPriorityAttribution : List (PrioritizationContext → Option String) :=
  [(·.originSource), (·.originAuthority), (·.actorIdentity)]

def recordAttribution : List (PrioritizationRecord → Option String) :=
  [(·.originSource), (·.originAuthority), (·.actorIdentity)]

theorem gate_attributes (h : governancePreconditionGate keys ctx = []) :
    ctx.lineage.Attributed := by
  simp only [governancePreconditionGate, List.append_eq_nil_iff, missing_eq_nil_iff,
    and_assoc] at h
  obtain ⟨-, -, -, -, hsource, hauthority, hactor, -⟩ := h
  exact ⟨hsource, hauthority, hactor⟩

theorem gate_populates (h : governancePreconditionGate keys ctx = []) :
    Populated requiredPriorityAttribution ctx :=
  have hattributed := gate_attributes h
  .cons hattributed.originSource (.cons hattributed.originAuthority
    (.cons hattributed.actorIdentity populated_nil))

theorem unblocked_populated
    (hunblocked : (assessOrchestrationPriority keys ctx).2.orchestrationBlocked = false) :
    Populated recordAttribution (assessOrchestrationPriority keys ctx).2 := by
  have hadmits : service.Admits keys ctx :=
    fun hblocked => Bool.noConfusion (hunblocked.symm.trans hblocked)
  obtain ⟨l, hcarries, hattributed⟩ := service_copies.attributes gate_attributes hadmits
  have hlineage : (assessOrchestrationPriority keys ctx).2.lineage = l := hcarries
  cases hlineage
  exact .cons hattributed.originSource (.cons hattributed.originAuthority
    (.cons hattributed.actorIdentity populated_nil))

end Prioritization

namespace Provider

def requiredProviderAttribution : List (ProviderOrchestrationContext → Option String) :=
  [(·.originSource), (·.originAuthority), (·.correlationId), (·.actorIdentity)]

/-- The fields of the tuple that RULE 0 checks. -/
def gatedAttribution : List (ProviderOrchestrationContext → Option String) :=
  [(·.originSource), (·.originAuthority), (·.correlationId)]

def assessmentAttribution : List (ProviderOrchestrationAssessment → Option String) :=
  [(·.originSource), (·.originAuthority), (·.correlationId)]

/-- What passes RULE 0. -/
structure Passes (ctx : ProviderOrchestrationContext) : Prop where
  executionMode : ctx.executionMode ∈ validProviderModes
  executionType : ctx.executionType ∈ validTypes
  configVersionId : Py.truthyText ctx.configVersionId = true
  correlationId : Py.truthyText ctx.correlationId = true
  originSource : Py.truthyText ctx.originSource = true
  originAuthority : Py.truthyText ctx.originAuthority = true

theorem gate_eq_nil_iff (ctx : ProviderOrchestrationContext) :
    governancePreconditionGate ctx = [] ↔ Passes ctx := by
  simp only [governancePreconditionGate, List.append_eq_nil_iff, code_eq_nil_iff,
    not_not, and_assoc, Bool.not_eq_true, Bool.not_eq_false']
  constructor
  · intro h
    obtain ⟨hmode, htype, hconfig, hcorrelation, hsource, hauthority⟩ := h
    exact ⟨hmode, htype, hconfig, hcorrelation, hsource, hauthority⟩
  · intro h
    exact ⟨h.executionMode, h.executionType, h.configVersionId, h.correlationId, h.originSource,
      h.originAuthority⟩

theorem gate_of_invalid_type {ctx : ProviderOrchestrationContext}
    (hmode : ctx.executionMode ∈ validProviderModes) (htype : ctx.executionType ∉ validTypes)
    (hconfig : Py.truthyText ctx.configVersionId = true)
    (hcorrelation : Py.truthyText ctx.correlationId = true)
    (hsource : Py.truthyText ctx.originSource = true)
    (hauthority : Py.truthyText ctx.originAuthority = true) :
    governancePreconditionGate ctx = ["INVALID_EXECUTION_TYPE"] := by
  rw [governancePreconditionGate, if_neg (not_not_intro hmode), if_pos htype, hconfig,
    hcorrelation, hsource, hauthority]
  rfl

theorem gate_populates (h : governancePreconditionGate ctx = []) :
    Populated gatedAttribution ctx :=
  have hpasses := (gate_eq_nil_iff ctx).1 h
  .cons hpasses.originSource (.cons hpasses.originAuthority
    (.cons hpasses.correlationId populated_nil))

theorem unblocked_populated
    (h : assessProviderOrchestration keys ctx = .ok (keys', assessment))
    (hunblocked : assessment.providerBlocked = false) :
    Populated assessmentAttribution assessment := by
  obtain ⟨codes, rulePath, bindings, verdict, hmade⟩ := assessProviderOrchestration_makes h
  have hgate : governancePreconditionGate ctx = [] := by
    by_contra hblocked
    rw [assessProviderOrchestration, if_pos hblocked] at h
    cases h
    exact Bool.noConfusion hunblocked
  have hpasses := (gate_eq_nil_iff ctx).1 hgate
  cases hmade
  exact .cons hpasses.originSource (.cons hpasses.originAuthority
    (.cons hpasses.correlationId populated_nil))

end Provider

namespace Worker

def requiredWorkerAttribution : List (WorkerJobContext → Option String) :=
  [(·.originSource), (·.originAuthority), (·.correlationId), (·.actorIdentity)]

def recordAttribution : List (WorkerExecutionRecord → Option String) :=
  [(·.originSource), (·.originAuthority), (·.correlationId), (·.actorIdentity)]

structure Passes (ctx : WorkerJobContext) : Prop where
  configVersionId : Py.truthyText ctx.configVersionId = true
  configVersionKnown : ctx.configVersionId ≠ some "UNKNOWN_V0"
  executionMode : ctx.executionMode ∈ validExecutionModes
  executionType : ctx.executionType ∈ validExecutionTypes
  correlationId : Py.truthyText ctx.correlationId = true
  originSource : Py.truthyText ctx.originSource = true
  originAuthority : Py.truthyText ctx.originAuthority = true
  actorIdentity : Py.truthyText ctx.actorIdentity = true

theorem gate_eq_nil_iff (ctx : WorkerJobContext) :
    governancePreconditionGate ctx = [] ↔ Passes ctx := by
  simp only [governancePreconditionGate, List.append_eq_nil_iff, code_eq_nil_iff,
    not_not, and_assoc, Bool.or_eq_true, not_or, Bool.not_eq_true, Bool.not_eq_false', beq_iff_eq]
  constructor
  · intro h
    obtain ⟨hconfig, hknown, hmode, htype, hcorrelation, hsource, hauthority, hactor⟩ := h
    exact ⟨hconfig, hknown, hmode, htype, hcorrelation, hsource, hauthority, hactor⟩
  · intro h
    exact ⟨h.configVersionId, h.configVersionKnown, h.executionMode, h.executionType,
      h.correlationId, h.originSource, h.originAuthority, h.actorIdentity⟩

theorem gate_populates (h : governancePreconditionGate ctx = []) :
    Populated requiredWorkerAttribution ctx :=
  have hpasses := (gate_eq_nil_iff ctx).1 h
  .cons hpasses.originSource (.cons hpasses.originAuthority
    (.cons hpasses.correlationId (.cons hpasses.actorIdentity populated_nil)))

theorem unblocked_populated
    (h : coordinateWorkerExecution env keys jobId record student attempt = .ok (keys', exec))
    (hunblocked : exec.executionBlocked = false) : Populated recordAttribution exec := by
  obtain ⟨rulePath, codes, exit, hbuilt⟩ := coordinateWorkerExecution_builds h
  have hgate :
      governancePreconditionGate (makeJobContext env record student attempt jobId) = [] := by
    by_contra hblocked
    simp only [coordinateWorkerExecution, if_pos hblocked] at h
    cases h
    exact Bool.noConfusion hunblocked
  have hpasses := (gate_eq_nil_iff _).1 hgate
  cases hbuilt
  exact .cons hpasses.originSource (.cons hpasses.originAuthority
    (.cons hpasses.correlationId (.cons hpasses.actorIdentity populated_nil)))

theorem mem_validExecutionTypes_iff {executionType : String} :
    executionType ∈ validExecutionTypes ↔
      executionType ∈ Provider.validTypes ∨ executionType = "recovery" := by
  rw [validExecutionTypes, Provider.validTypes]
  simp only [List.mem_cons, List.not_mem_nil, or_false, or_assoc]

/-- A job that passes the worker's RULE 0 passes the provider's, except for a recovery, which the
provider refuses for its type alone. -/
theorem provider_gate (h : governancePreconditionGate ctx = []) :
    Provider.governancePreconditionGate (makeProviderContext ctx) =
      if ctx.executionType = "recovery" then ["INVALID_EXECUTION_TYPE"] else [] := by
  have hpasses := (gate_eq_nil_iff ctx).1 h
  have hmode : ctx.executionMode ∈ Provider.validProviderModes := hpasses.executionMode
  by_cases hrecovery : ctx.executionType = "recovery"
  · rw [if_pos hrecovery]
    have htype : (makeProviderContext ctx).executionType ∉ Provider.validTypes := by
      change ctx.executionType ∉ Provider.validTypes
      rw [hrecovery]
      decide
    exact Provider.gate_of_invalid_type hmode htype hpasses.configVersionId hpasses.correlationId
      hpasses.originSource hpasses.originAuthority
  · rw [if_neg hrecovery, Provider.gate_eq_nil_iff]
    have htype := (mem_validExecutionTypes_iff.1 hpasses.executionType).resolve_right hrecovery
    exact ⟨hmode, htype, hpasses.configVersionId, hpasses.correlationId, hpasses.originSource,
      hpasses.originAuthority⟩

theorem provider_populated (h : governancePreconditionGate ctx = []) :
    Populated Provider.requiredProviderAttribution (makeProviderContext ctx) :=
  have hpasses := (gate_eq_nil_iff ctx).1 h
  .cons hpasses.originSource (.cons hpasses.originAuthority
    (.cons hpasses.correlationId (.cons hpasses.actorIdentity populated_nil)))

/-- What RULE 0 of a layer says of the attribution of the contexts that pass it and of the records
of the runs that it does not block. -/
structure LayerAttributes (Passes : γ → Prop) (required : List (γ → Option String))
    (Unblocked : ρ → Prop) (recorded : List (ρ → Option String)) : Prop where
  gate : ∀ ctx, Passes ctx → Populated required ctx
  record : ∀ record, Unblocked record → Populated recorded record

/-- The gates of the layers compose, up to the recoveries that the provider has no type for. -/
theorem gates_compose :
    (∀ ctx, governancePreconditionGate ctx = [] →
      Populated Provider.requiredProviderAttribution (makeProviderContext ctx) ∧
      Provider.governancePreconditionGate (makeProviderContext ctx) =
        if ctx.executionType = "recovery" then ["INVALID_EXECUTION_TYPE"] else []) ∧
    LayerAttributes (fun ctx => ∃ keys, Outreach.governancePreconditionGate keys ctx = [])
      Outreach.requiredOutreachAttribution
      (fun record => record.orchestrationBlocked = false ∧
        ∃ keys ctx, (Outreach.coordinateOrchestrationCycle keys ctx).2 = .ok record)
      Outreach.recordAttribution ∧
    LayerAttributes (fun ctx => ∃ keys, Prioritization.governancePreconditionGate keys ctx = [])
      Prioritization.requiredPriorityAttribution
      (fun record => record.orchestrationBlocked = false ∧
        ∃ keys ctx, (Prioritization.assessOrchestrationPriority keys ctx).2 = record)
      Prioritization.recordAttribution ∧
    LayerAttributes (fun ctx => governancePreconditionGate ctx = []) requiredWorkerAttribution
      (fun exec => exec.executionBlocked = false ∧ ∃ env keys jobId record student attempt keys',
        coordinateWorkerExecution env keys jobId record student attempt = .ok (keys', exec))
      recordAttribution ∧
    LayerAttributes (fun ctx => Provider.governancePreconditionGate ctx = [])
      Provider.gatedAttribution
      (fun assessment => assessment.providerBlocked = false ∧ ∃ keys ctx keys',
        Provider.assessProviderOrchestration keys ctx = .ok (keys', assessment))
      Provider.assessmentAttribution := by
  refine ⟨fun ctx h => ⟨provider_populated h, provider_gate h⟩, ⟨?_, ?_⟩, ⟨?_, ?_⟩, ⟨?_, ?_⟩,
    ⟨?_, ?_⟩⟩
  · intro ctx h
    obtain ⟨keys, h⟩ := h
    exact Outreach.gate_populates h
  · intro record h
    obtain ⟨hunblocked, keys, ctx, h⟩ := h
    exact Outreach.unblocked_populated h hunblocked
  · intro ctx h
    obtain ⟨keys, h⟩ := h
    exact Prioritization.gate_populates h
  · intro record h
    obtain ⟨hunblocked, keys, ctx, rfl⟩ := h
    exact Prioritization.unblocked_populated hunblocked
  · intro ctx h
    exact gate_populates h
  · intro exec h
    obtain ⟨hunblocked, env, keys, jobId, record, student, attempt, keys', h⟩ := h
    exact unblocked_populated h hunblocked
  · intro ctx h
    exact Provider.gate_populates h
  · intro assessment h
    obtain ⟨hunblocked, keys, ctx, keys', h⟩ := h
    exact Provider.unblocked_populated h hunblocked

def recoveryJob : WorkerJobContext where
  governanceScope := "SHADOW_ONLY"
  intentType := some "HOLD"
  isReplay := false
  liveEffectsSuppressed := true
  dispatchAuthorized := false
  dispatchBlockedReason := none
  correlationId := some "corr-1"
  causationId := none
  orchestrationCycleId := none
  originSource := some "scheduler"
  originAuthority := some "system"
  actorIdentity := some "worker"
  attributionTimestamp := none
  configVersionId := some "config-v1"
  executionMode := "SHADOW"
  executionType := "recovery"
  thresholdBindings := []
  idempotencyKey := none
  studentIdOpaque := none
  checkpointType := none
  contactAttempt := 1
  degraded := false
  degradationCause := none
  degradationFlags := []
  complianceHoldActive := false
  jobId := "job-1"

theorem recoveryJob_refused : governancePreconditionGate recoveryJob = [] ∧
    Provider.governancePreconditionGate (makeProviderContext recoveryJob) =
      ["INVALID_EXECUTION_TYPE"] :=
  ⟨by decide, by decide⟩

end Worker
end StudentSuccess
