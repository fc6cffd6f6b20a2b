import StudentSuccess.PyText
import StudentSuccess.PyValue
import StudentSuccess.Models

namespace StudentSuccess
namespace Middleware
set_option autoImplicit true

def validExecutionModes : List String :=
  ["LIVE", "SHADOW", "REPLAY", "REGENERATION", "DEGRADED", "MAINTENANCE"]

def validExecutionTypes : List String := ["original", "replay", "regeneration", "recovery"]

def replayExecutionTypes : List String := ["replay", "regeneration"]

def replayModes : List String := ["REPLAY", "REGENERATION"]

/-- The headers of a request as they were sent, with names in any case. -/
abbrev HttpHeaders := List (String × String)

/-- `request.headers.get(name)`; the names are compared without regard to case. -/
def headerGet (headers : HttpHeaders) (name : String) : Option String :=
  Py.get? name.toLower (headers.map fun h => (h.1.toLower, h.2))

theorem headerGet_nil : headerGet [] name = none :=
  rfl

theorem headerGet_cons :
    headerGet ((key, value) :: headers) name =
      if key.toList.map Char.toLower = name.toList.map Char.toLower then some value
      else headerGet headers name := by
  have hlower : key.toLower = name.toLower ↔
      key.toList.map Char.toLower = name.toList.map Char.toLower := by
    rw [← String.toList_inj, Py.toList_toLower, Py.toList_toLower]
  rw [← ite_cond_congr (propext hlower)]
  rfl

theorem headerGet_eq_none
    (h : ∀ header ∈ headers, header.1.toList.map Char.toLower ≠ name.toList.map Char.toLower) :
    headerGet headers name = none := by
  induction headers with
  | nil => exact headerGet_nil
  | cons header headers ih =>
    rw [headerGet_cons, if_neg (h header List.mem_cons_self)]
    exact ih fun other hother => h other (List.mem_cons_of_mem _ hother)

structure AttributionContext where
  correlationId : String
  causationId : Option String
  configVersionId : Option String
  executionMode : String
  executionType : String
  governanceScope : String
  orchestrationCycleId : Option String
  originSource : Option String
  originAuthority : Option String
  historicalConfigVersionId : Option String
  attributionTimestamp : Option String
  correlationIdGenerated : Bool
  isReplay : Bool
  attributionComplete : Bool
  liveEffectsSuppressed : Bool
  rulePathTaken : List String

def checkListed (valid : List String) (code value : String) : List String :=
  if value ∉ valid then [code] else []

def checkExecutionMode : String → List String :=
  checkListed validExecutionModes "INVALID_EXECUTION_MODE"

def checkExecutionType : String → List String :=
  checkListed validExecutionTypes "INVALID_EXECUTION_TYPE"

def checkReplayLineage (executionType : String) (historicalConfigVersionId : Option String) :
    List String :=
  if executionType ∈ replayExecutionTypes ∧ !Py.truthyText historicalConfigVersionId then
    ["REPLAY_LINEAGE_INCOMPLETE"] else []

def checkAttributionPartial (originSource originAuthority : Option String) : List String :=
  if Py.truthyText originSource != Py.truthyText originAuthority then ["ATTRIBUTION_PARTIAL"]
  else []

/-- RULE 0: the blocking codes of the explicit headers. -/
def governancePreconditionGate (executionMode executionType historicalConfigVersionId originSource
    originAuthority : Option String) : List String :=
  (match executionMode with
    | some mode => checkExecutionMode mode
    | none => []) ++
  (match executionType with
    | some type =>
      if checkExecutionType type = [] then checkReplayLineage type historicalConfigVersionId
      else checkExecutionType type
    | none => []) ++
  checkAttributionPartial originSource originAuthority

/-- RULE 1: the correlation id, and whether it was generated. -/
def resolveCorrelationId (headerValue : Option String) (newUuid : Uuid) : String × Bool :=
  match headerValue with
  | some value => if value ≠ "" then (value, false) else (newUuid, true)
  | none => (newUuid, true)

/-- The header's value if it is a listed one, else the fallback. -/
def resolveListed (valid : List String) (fallback : String) : Option String → String
  | some value => if value ∈ valid then value else fallback
  | none => fallback

/-- RULE 2. -/
def resolveExecutionMode (headerValue : Option String) (settingsMode : String) : String :=
  resolveListed validExecutionModes settingsMode headerValue

/-- RULE 3. -/
def resolveExecutionType (headerValue : Option String) : String :=
  resolveListed validExecutionTypes "original" headerValue

/-- RULE 4. -/
def deriveGovernanceScope (executionMode executionType : String) : String :=
  if executionType ∈ replayExecutionTypes then "REPLAY_ONLY"
  else if executionMode ∈ replayModes then "REPLAY_ONLY"
  else if executionMode = "MAINTENANCE" then "MAINTENANCE"
  else "SHADOW_ONLY"

/-- RULES 5 and 6, from the values of rules 1 to 4 and the headers. -/
def buildAttributionContext (headers : HttpHeaders) (correlationId : String)
    (correlationIdGenerated : Bool) (executionMode executionType governanceScope : String)
    (rulePath : List String) : AttributionContext :=
  let originSource := headerGet headers "X-Origin-Source"
  let originAuthority := headerGet headers "X-Origin-Authority"
  { correlationId := correlationId
    causationId := headerGet headers "X-Causation-ID"
    configVersionId := headerGet headers "X-Config-Version-ID"
    executionMode := executionMode
    executionType := executionType
    governanceScope := governanceScope
    orchestrationCycleId := headerGet headers "X-Orchestration-Cycle-ID"
    originSource := originSource
    originAuthority := originAuthority
    historicalConfigVersionId := headerGet headers "X-Historical-Config-Version-ID"
    attributionTimestamp := headerGet headers "X-Attribution-Timestamp"
    correlationIdGenerated := correlationIdGenerated
    isReplay := replayExecutionTypes.contains executionType
    attributionComplete := Py.truthyText originSource && Py.truthyText originAuthority
    liveEffectsSuppressed := governanceScope != "AUTHORIZED"
    rulePathTaken := rulePath }

def makeBlockedContext (correlationId : String) (executionMode executionType : Option String)
    (rulePath : List String) : AttributionContext :=
  let mode := resolveExecutionMode executionMode "SHADOW"
  let type := resolveExecutionType executionType
  { correlationId := correlationId
    causationId := none
    configVersionId := none
    executionMode := mode
    executionType := type
    governanceScope := deriveGovernanceScope mode type
    orchestrationCycleId := none
    originSource := none
    originAuthority := none
    historicalConfigVersionId := none
    attributionTimestamp := none
    correlationIdGenerated := false
    isReplay := replayExecutionTypes.contains type
    attributionComplete := false
    liveEffectsSuppressed := true
    rulePathTaken := rulePath }

/-- How the middleware serves a request: it answers 400 itself, or it hands the request on with
its context and sets headers on the response. -/
inductive Dispatch
  | blocked (correlationId : String) (blockingCodes : List String) (ctx : AttributionContext)
  | handled (ctx : AttributionContext) (responseHeaders : List (String × String))

def responseAttribution (ctx : AttributionContext) : List (String × String) :=
  [("X-Correlation-ID", ctx.correlationId), ("X-Execution-Mode", ctx.executionMode),
    ("X-Governance-Scope", ctx.governanceScope)] ++
  (match ctx.causationId with
    | some causationId => if causationId ≠ "" then [("X-Causation-ID", causationId)] else []
    | none => [])

def gateCodes (headers : HttpHeaders) : List String :=
  governancePreconditionGate (headerGet headers "X-Execution-Mode")
    (headerGet headers "X-Execution-Type") (headerGet headers "X-Historical-Config-Version-ID")
    (headerGet headers "X-Origin-Source") (headerGet headers "X-Origin-Authority")

def attributionOf (settings : ExecutionMode) (headers : HttpHeaders) (newUuid : Uuid) :
    AttributionContext :=
  let (correlationId, generated) :=
    resolveCorrelationId (headerGet headers "X-Correlation-ID") newUuid
  let executionMode := resolveExecutionMode (headerGet headers "X-Execution-Mode") settings.value
  let executionType := resolveExecutionType (headerGet headers "X-Execution-Type")
  buildAttributionContext headers correlationId generated executionMode executionType
    (deriveGovernanceScope executionMode executionType)
    ["RULE_0_GOVERNANCE_GATE", "RULE_1_CORRELATION_ID", "RULE_2_EXECUTION_MODE",
      "RULE_3_EXECUTION_TYPE", "RULE_4_GOVERNANCE_SCOPE", "RULE_5_ATTRIBUTION_COMPLETENESS",
      "RULE_6_CONTEXT_BUILD"]

def dispatch (settings : ExecutionMode) (headers : HttpHeaders) (newUuid : Uuid) : Dispatch :=
  if gateCodes headers ≠ [] then
    let correlationId := Py.orText (headerGet headers "X-Correlation-ID") newUuid
    .blocked correlationId (gateCodes headers)
      (makeBlockedContext correlationId (headerGet headers "X-Execution-Mode")
        (headerGet headers "X-Execution-Type") ["RULE_0_GOVERNANCE_GATE"])
  else
    let ctx := attributionOf settings headers newUuid
    .handled ctx (responseAttribution ctx)

theorem dispatch_eq_handled_iff :
    dispatch settings headers newUuid = .handled ctx responseHeaders ↔
      gateCodes headers = [] ∧ ctx = attributionOf settings headers newUuid ∧
        responseHeaders = responseAttribution ctx := by
  rw [dispatch]
  constructor
  · intro h
    split_ifs at h with hgate
    cases h
    exact ⟨not_not.1 hgate, rfl, rfl⟩
  · intro h
    obtain ⟨hgate, rfl, rfl⟩ := h
    rw [if_neg (not_not_intro hgate)]

theorem dispatch_eq_handled (h : gateCodes headers = []) (settings : ExecutionMode)
    (newUuid : Uuid) :
    dispatch settings headers newUuid =
      .handled (attributionOf settings headers newUuid)
        (responseAttribution (attributionOf settings headers newUuid)) :=
  dispatch_eq_handled_iff.2 ⟨h, rfl, rfl⟩

/-- Replay coherence of an attribution. -/
structure ReplayCoherent (ctx : AttributionContext) : Prop where
  replay_iff : ctx.isReplay = true ↔ ctx.governanceScope = "REPLAY_ONLY"
  lineage : ctx.governanceScope = "REPLAY_ONLY" →
    Py.truthyText ctx.historicalConfigVersionId = true
  unauthorized : ctx.governanceScope ≠ "AUTHORIZED" ∧ ctx.governanceScope ≠ "LIVE_AUTHORIZED"

theorem deriveGovernanceScope_eq_replay_iff (executionMode executionType : String) :
    deriveGovernanceScope executionMode executionType = "REPLAY_ONLY" ↔
      executionType ∈ replayExecutionTypes ∨ executionMode ∈ replayModes := by
  rw [deriveGovernanceScope]
  split_ifs with htype hmode hmaintenance
  · exact iff_of_true rfl (.inl htype)
  · exact iff_of_true rfl (.inr hmode)
  · exact iff_of_false (by decide) (not_or.2 ⟨htype, hmode⟩)
  · exact iff_of_false (by decide) (not_or.2 ⟨htype, hmode⟩)

theorem deriveGovernanceScope_unauthorized (executionMode executionType : String) :
    deriveGovernanceScope executionMode executionType ≠ "AUTHORIZED" ∧
      deriveGovernanceScope executionMode executionType ≠ "LIVE_AUTHORIZED" := by
  rw [deriveGovernanceScope]
  split_ifs
  · decide
  · decide
  · decide
  · decide

theorem checkListed_eq_nil_iff (valid : List String) (code value : String) :
    checkListed valid code value = [] ↔ value ∈ valid := by
  by_cases h : value ∈ valid
  · rw [checkListed, if_neg (not_not_intro h)]
    exact iff_of_true rfl h
  · rw [checkListed, if_pos h]
    exact iff_of_false (List.cons_ne_nil _ _) h

theorem gateCodes_eq_nil (h : gateCodes headers = []) :
    (∀ mode, headerGet headers "X-Execution-Mode" = some mode → mode ∈ validExecutionModes) ∧
      ∀ type, headerGet headers "X-Execution-Type" = some type →
        type ∈ validExecutionTypes ∧ (type ∈ replayExecutionTypes →
          Py.truthyText (headerGet headers "X-Historical-Config-Version-ID") = true) := by
  simp only [gateCodes, governancePreconditionGate] at h
  rw [List.append_eq_nil_iff, List.append_eq_nil_iff] at h
  obtain ⟨⟨hmode, htype⟩, -⟩ := h
  constructor
  · intro mode hheader
    rw [hheader] at hmode
    exact (checkListed_eq_nil_iff _ _ mode).1 hmode
  · intro type hheader
    rw [hheader] at htype
    dsimp only at htype
    split_ifs at htype with hvalid
    · refine ⟨(checkListed_eq_nil_iff _ _ type).1 hvalid, ?_⟩
      intro hreplay
      by_contra hlineage
      exact absurd htype (by simp [checkReplayLineage, hreplay, hlineage])
    · exact absurd htype hvalid

theorem resolveListed_some (valid : List String) (fallback value : String) :
    resolveListed valid fallback (some value) = if value ∈ valid then value else fallback :=
  rfl

theorem resolveListed_mem (hfallback : fallback ∈ valid) :
    resolveListed valid fallback headerValue ∈ valid := by
  cases headerValue with
  | none => exact hfallback
  | some value =>
    rw [resolveListed_some]
    split_ifs with hvalid
    · exact hvalid
    · exact hfallback

theorem resolveListed_replay_iff {valid replays : List String}
    (hsub : ∀ value ∈ replays, value ∈ valid) (hfallback : fallback ∉ replays) :
    resolveListed valid fallback headerValue ∈ replays ↔
      ∃ value, headerValue = some value ∧ value ∈ replays := by
  cases headerValue with
  | none =>
    apply iff_of_false hfallback
    intro h
    obtain ⟨value, hnone, -⟩ := h
    cases hnone
  | some value =>
    rw [resolveListed_some]
    constructor
    · intro h
      split_ifs at h with hvalid
      · exact ⟨value, rfl, h⟩
      · exact absurd h hfallback
    · intro h
      obtain ⟨value', hvalue, hreplay⟩ := h
      cases hvalue
      rw [if_pos (hsub value hreplay)]
      exact hreplay

theorem resolveExecutionType_replay_iff :
    resolveExecutionType headerValue ∈ replayExecutionTypes ↔
      ∃ type, headerValue = some type ∧ type ∈ replayExecutionTypes :=
  resolveListed_replay_iff (by decide) (by decide)

/-- The settings never ask for a replay mode; only the header does. -/
theorem resolveExecutionMode_replay_iff (settings : ExecutionMode) :
    resolveExecutionMode headerValue settings.value ∈ replayModes ↔
      ∃ mode, headerValue = some mode ∧ mode ∈ replayModes := by
  apply resolveListed_replay_iff (by decide)
  cases settings with
  | shadow => decide
  | live => decide

theorem attributionOf_correlationId :
    (attributionOf settings headers newUuid).correlationId =
      (resolveCorrelationId (headerGet headers "X-Correlation-ID") newUuid).1 :=
  rfl

theorem attributionOf_executionMode :
    (attributionOf settings headers newUuid).executionMode =
      resolveExecutionMode (headerGet headers "X-Execution-Mode") settings.value :=
  rfl

theorem attributionOf_historicalConfigVersionId :
    (attributionOf settings headers newUuid).historicalConfigVersionId =
      headerGet headers "X-Historical-Config-Version-ID" :=
  rfl

theorem attributionOf_isReplay_iff :
    (attributionOf settings headers newUuid).isReplay = true ↔
      ∃ type, headerGet headers "X-Execution-Type" = some type ∧ type ∈ replayExecutionTypes := by
  rw [← resolveExecutionType_replay_iff]
  exact List.contains_iff_mem

theorem attributionOf_scope_iff :
    (attributionOf settings headers newUuid).governanceScope = "REPLAY_ONLY" ↔
      (∃ type, headerGet headers "X-Execution-Type" = some type ∧ type ∈ replayExecutionTypes) ∨
        ∃ mode, headerGet headers "X-Execution-Mode" = some mode ∧ mode ∈ replayModes := by
  rw [← resolveExecutionType_replay_iff, ← resolveExecutionMode_replay_iff settings]
  exact deriveGovernanceScope_eq_replay_iff _ _

/-- An accepted request has a coherent attribution exactly when a replay mode comes with a replay
type. -/
theorem replayCoherent_iff (settings : ExecutionMode) (headers : HttpHeaders) (newUuid : Uuid)
    (h : dispatch settings headers newUuid = .handled ctx responseHeaders) :
    ReplayCoherent ctx ↔
      ((∃ mode, headerGet headers "X-Execution-Mode" = some mode ∧ mode ∈ replayModes) →
        ∃ type, headerGet headers "X-Execution-Type" = some type ∧
          type ∈ replayExecutionTypes) := by
  obtain ⟨hgate, rfl, -⟩ := dispatch_eq_handled_iff.1 h
  constructor
  · intro hcoherent hmode
    exact attributionOf_isReplay_iff.1
      (hcoherent.replay_iff.2 (attributionOf_scope_iff.2 (.inr hmode)))
  · intro hmode
    have htype : (attributionOf settings headers newUuid).governanceScope = "REPLAY_ONLY" →
        ∃ type, headerGet headers "X-Execution-Type" = some type ∧ type ∈ replayExecutionTypes := by
      intro hscope
      obtain htype | hheader := attributionOf_scope_iff.1 hscope
      · exact htype
      · exact hmode hheader
    refine ⟨?_, ?_, deriveGovernanceScope_unauthorized _ _⟩
    · constructor
      · intro hreplay
        exact attributionOf_scope_iff.2 (.inl (attributionOf_isReplay_iff.1 hreplay))
      · intro hscope
        exact attributionOf_isReplay_iff.2 (htype hscope)
    · intro hscope
      obtain ⟨type, hheader, hreplay⟩ := htype hscope
      exact ((gateCodes_eq_nil hgate).2 type hheader).2 hreplay

def requestUuid : Uuid := ⟨"9c4b5d1e-2f60-4f6a-8a1b-7f0f3b9d2c11", by decide⟩

def replayTypeHeaders : HttpHeaders :=
  [("X-Execution-Type", "replay"), ("x-historical-config-version-id", "12")]

def replayModeHeaders : HttpHeaders := [("x-execution-mode", "REPLAY")]

theorem replay_type_coherent :
    ReplayCoherent (attributionOf .shadow replayTypeHeaders requestUuid) := by
  have hmode : headerGet replayTypeHeaders "X-Execution-Mode" = none :=
    headerGet_eq_none (by decide)
  have htype : headerGet replayTypeHeaders "X-Execution-Type" = some "replay" := by
    rw [replayTypeHeaders, headerGet_cons, if_pos (by decide)]
  have hlineage : headerGet replayTypeHeaders "X-Historical-Config-Version-ID" = some "12" := by
    rw [replayTypeHeaders, headerGet_cons, if_neg (by decide), headerGet_cons,
      if_pos (by decide)]
  have hsource : headerGet replayTypeHeaders "X-Origin-Source" = none :=
    headerGet_eq_none (by decide)
  have hauthority : headerGet replayTypeHeaders "X-Origin-Authority" = none :=
    headerGet_eq_none (by decide)
  have hgate : gateCodes replayTypeHeaders = [] := by
    rw [gateCodes, hmode, htype, hlineage, hsource, hauthority]
    decide
  exact (replayCoherent_iff .shadow replayTypeHeaders requestUuid
    (dispatch_eq_handled hgate .shadow requestUuid)).2 fun _ => ⟨"replay", htype, by decide⟩

/-- A replay mode alone gets the replay scope, without a replay's flag and without lineage. -/
theorem replay_mode_incoherent :
    ∃ ctx responseHeaders,
      dispatch .shadow replayModeHeaders requestUuid = .handled ctx responseHeaders ∧
        ctx.governanceScope = "REPLAY_ONLY" ∧ ctx.isReplay = false ∧
          ctx.historicalConfigVersionId = none ∧ ¬ ReplayCoherent ctx := by
  have hmode : headerGet replayModeHeaders "X-Execution-Mode" = some "REPLAY" := by
    rw [replayModeHeaders, headerGet_cons, if_pos (by decide)]
  have htype : headerGet replayModeHeaders "X-Execution-Type" = none :=
    headerGet_eq_none (by decide)
  have hlineage : headerGet replayModeHeaders "X-Historical-Config-Version-ID" = none :=
    headerGet_eq_none (by decide)
  have hsource : headerGet replayModeHeaders "X-Origin-Source" = none :=
    headerGet_eq_none (by decide)
  have hauthority : headerGet replayModeHeaders "X-Origin-Authority" = none :=
    headerGet_eq_none (by decide)
  have hgate : gateCodes replayModeHeaders = [] := by
    rw [gateCodes, hmode, htype, hlineage, hsource, hauthority]
    decide
  have hscope : (attributionOf .shadow replayModeHeaders requestUuid).governanceScope =
      "REPLAY_ONLY" := attributionOf_scope_iff.2 (.inr ⟨"REPLAY", hmode, by decide⟩)
  have hid : (attributionOf .shadow replayModeHeaders requestUuid).historicalConfigVersionId =
      none := attributionOf_historicalConfigVersionId.trans hlineage
  refine ⟨attributionOf .shadow replayModeHeaders requestUuid, _,
    dispatch_eq_handled hgate .shadow requestUuid, hscope, ?_, hid, ?_⟩
  · apply Bool.eq_false_iff.2
    intro hreplay
    obtain ⟨type, hheader, -⟩ := attributionOf_isReplay_iff.1 hreplay
    rw [htype] at hheader
    cases hheader
  · intro h
    have hsupplied := h.lineage hscope
    rw [hid] at hsupplied
    cases hsupplied

end Middleware
end StudentSuccess
