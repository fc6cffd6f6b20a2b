import StudentSuccess.AttributionMiddleware
import StudentSuccess.Webhook

namespace StudentSuccess
namespace Router
set_option autoImplicit true
open Repository Middleware

/-- `dict(request.headers)`: the names are lower-case in Starlette's headers. -/
def headerDict (headers : HttpHeaders) : Headers := headers.map fun h => (h.1.toLower, h.2)

def requestAttribution (settings : ExecutionMode) (headers : HttpHeaders) (newUuid : Uuid) :
    AttributionFields :=
  buildRequestAttribution settings.str (extractCorrelationId (headerDict headers) newUuid)
    (extractCausationId (headerDict headers)) "original" none none

def webhookResponse : WebhookOutcome → APIResponse
  | .reply response => response
  | .commit _ response => response

theorem processWebhook_metaData
    (h : processWebhook env mode session request raw attribution = .ok outcome) :
    (webhookResponse outcome).metaData = makeGovernanceMeta attribution request.now := by
  simp only [processWebhook, Py.bind_eq_ok] at h
  obtain ⟨known, -, h⟩ := h
  split_ifs at h
  · cases h
    rfl
  · rw [Py.bind_eq_ok] at h
    obtain ⟨payload, -, h⟩ := h
    split at h
    · cases h
      rfl
    · rw [Py.bind_eq_ok] at h
      obtain ⟨found, -, h⟩ := h
      cases found with
      | none =>
        cases h
        rfl
      | some tracking =>
        cases h
        rfl

/-- Every answer of the webhook carries the attribution of its request. -/
theorem ghlWebhook_metaData (h : ghlWebhook env mode session request = .ok outcome) :
    (webhookResponse outcome).metaData =
      makeGovernanceMeta (webhookAttribution mode request) request.now := by
  rw [ghlWebhook] at h
  dsimp only at h
  split at h
  · rw [Py.bind_eq_ok] at h
    obtain ⟨⟨inserted, record, recorded⟩, -, h⟩ := h
    cases inserted with
    | true => exact processWebhook_metaData h
    | false =>
      cases h
      rfl
  · cases h

theorem webhookAttribution_eq (h : request.headers = headerDict headers) :
    webhookAttribution settings.str request =
      requestAttribution settings headers request.correlationUuid := by
  rw [webhookAttribution, h]
  rfl

/-- A name with a capital letter is in no such dictionary. -/
theorem get?_headerDict (hc : c ∈ name.toList) (hupper : c.isUpper = true)
    (headers : HttpHeaders) : Py.get? name (headerDict headers) = none := by
  induction headers with
  | nil => rfl
  | cons header headers ih =>
    have hname : header.1.toLower ≠ name := Py.toLower_ne hc hupper header.1
    simp only [headerDict, List.map_cons, Py.get?, hname, if_false]
    exact ih

theorem headerValue_headerDict (hc : c ∈ name.toList) (hupper : c.isUpper = true)
    (headers : HttpHeaders) : headerValue (headerDict headers) name = none := by
  have hblank : ¬ ("" ≠ "" ∧ Py.strip "" ≠ "") := fun h => h.1 rfl
  rw [headerValue]
  rw [get?_headerDict hc hupper headers]
  exact if_neg hblank

/-- The headers of the request reach no handler: each builds the same attribution, under a fresh
correlation id. -/
theorem requestAttribution_eq (settings : ExecutionMode) (headers : HttpHeaders) (newUuid : Uuid) :
    requestAttribution settings headers newUuid =
      { correlationId := newUuid
        executionMode := settings.str
        executionType := "original"
        governanceScope := "LIVE_AUTHORIZED" } := by
  have hcorrelation : extractCorrelationId (headerDict headers) newUuid = newUuid := by
    rw [extractCorrelationId, headerValue_headerDict (c := 'X') (by decide) (by decide)]
    rfl
  have hcausation : extractCausationId (headerDict headers) = none :=
    headerValue_headerDict (c := 'X') (by decide) (by decide) headers
  rw [requestAttribution, hcorrelation, hcausation]
  cases settings with
  | shadow => rfl
  | live => rfl

/-- `str(settings.EXECUTION_MODE)` is never the mode that the middleware gives the request. -/
theorem executionMode_ne (settings : ExecutionMode) (headers : HttpHeaders) (newUuid : Uuid) :
    settings.str ≠ (attributionOf settings headers newUuid).executionMode := by
  have hfallback : settings.value ∈ Middleware.validExecutionModes := by
    cases settings with
    | shadow => decide
    | live => decide
  have hvalid : (attributionOf settings headers newUuid).executionMode ∈
      Middleware.validExecutionModes := resolveListed_mem hfallback
  intro h
  rw [← h] at hvalid
  cases settings with
  | shadow => exact absurd hvalid (by decide)
  | live => exact absurd hvalid (by decide)

theorem causationId_eq_iff :
    (requestAttribution settings headers routerUuid).causationId =
        (attributionOf settings headers newUuid).causationId ↔
      headerGet headers "X-Causation-ID" = none := by
  rw [requestAttribution_eq]
  exact eq_comm

theorem executionType_eq_iff (hgate : gateCodes headers = []) :
    (requestAttribution settings headers routerUuid).executionType =
        (attributionOf settings headers newUuid).executionType ↔
      ∀ type, headerGet headers "X-Execution-Type" = some type → type = "original" := by
  have htype : (attributionOf settings headers newUuid).executionType =
      resolveExecutionType (headerGet headers "X-Execution-Type") := rfl
  rw [requestAttribution_eq, htype]
  cases hheader : headerGet headers "X-Execution-Type" with
  | none => exact iff_of_true rfl (fun type h => absurd h (Option.some_ne_none type).symm)
  | some type =>
    rw [resolveExecutionType, resolveListed, if_pos ((gateCodes_eq_nil hgate).2 type hheader).1]
    constructor
    · intro h type' htype'
      exact (Option.some.inj htype').symm.trans h.symm
    · intro h
      exact (h type rfl).symm

/-- The identity of the request is the same in what the router layer persists, in what it answers,
in the middleware's context and in the middleware's own response headers. -/
structure SameIdentity (ctx : AttributionContext) (responseHeaders : List (String × String))
    (persisted : AttributionFields) (metaData : GovernanceMeta) : Prop where
  correlationId : persisted.correlationId = ctx.correlationId ∧
    metaData.correlationId = ctx.correlationId
  causationId : persisted.causationId = ctx.causationId ∧ metaData.causationId = ctx.causationId
  executionMode : persisted.executionMode = ctx.executionMode ∧
    metaData.executionMode = ctx.executionMode
  executionType : persisted.executionType = ctx.executionType ∧
    metaData.executionType = ctx.executionType
  response : ("X-Correlation-ID", metaData.correlationId) ∈ responseHeaders ∧
    ("X-Execution-Mode", metaData.executionMode) ∈ responseHeaders

/-- The answer shows that live effects are suppressed. -/
structure ShadowSuppressed (metaData : GovernanceMeta) : Prop where
  governanceScope : metaData.governanceScope = "SHADOW_ONLY"
  suppressionCodes : metaData.suppressionCodes = ["SHADOW_MODE_ACTIVE", "LIVE_EFFECTS_SUPPRESSED"]

/-- The attribution of an accepted request goes on in the router layer. -/
def AttributionContinues (settings : ExecutionMode) (ctx : AttributionContext)
    (responseHeaders : List (String × String)) (persisted : AttributionFields)
    (metaData : GovernanceMeta) : Prop :=
  SameIdentity ctx responseHeaders persisted metaData ∧
    (settings = .shadow → ShadowSuppressed metaData)

theorem not_sameIdentity (metaData : GovernanceMeta) :
    ¬ SameIdentity (attributionOf settings headers newUuid) responseHeaders
        (requestAttribution settings headers routerUuid) metaData := by
  intro h
  have hmode := h.executionMode.1
  rw [requestAttribution_eq] at hmode
  exact executionMode_ne settings headers newUuid hmode

/-- Under every configured mode the answer claims live authority. -/
theorem not_shadowSuppressed (settings : ExecutionMode) (headers : HttpHeaders)
    (routerUuid : Uuid) (now : Instant) :
    ¬ ShadowSuppressed
        (makeGovernanceMeta (requestAttribution settings headers routerUuid) now) := by
  intro h
  have hscope := h.governanceScope
  rw [requestAttribution_eq] at hscope
  have hlive : "LIVE_AUTHORIZED" = "SHADOW_ONLY" := hscope
  exact absurd hlive (by decide)

/-- No accepted request keeps its attribution in the router layer. -/
theorem not_attributionContinues (settings : ExecutionMode) (headers : HttpHeaders)
    (newUuid routerUuid : Uuid) (now : Instant)
    (h : dispatch settings headers newUuid = .handled ctx responseHeaders) :
    ¬ AttributionContinues settings ctx responseHeaders
        (requestAttribution settings headers routerUuid)
        (makeGovernanceMeta (requestAttribution settings headers routerUuid) now) := by
  obtain ⟨-, rfl, -⟩ := dispatch_eq_handled_iff.1 h
  intro hcontinues
  exact not_sameIdentity _ hcontinues.1

/-- No answer of the webhook keeps the identity or shows the suppression. -/
theorem webhook_not_continues (hheaders : request.headers = headerDict headers)
    (h : ghlWebhook env settings.str session request = .ok outcome) :
    ¬ SameIdentity (attributionOf settings headers newUuid) responseHeaders
        (webhookAttribution settings.str request) (webhookResponse outcome).metaData ∧
      ¬ ShadowSuppressed (webhookResponse outcome).metaData := by
  rw [ghlWebhook_metaData h, webhookAttribution_eq hheaders]
  exact ⟨not_sameIdentity _, not_shadowSuppressed settings headers _ _⟩

def routerUuid : Uuid := ⟨"41d0a6c2-6b0e-4a55-9a3e-52c1e0f7b8aa", by decide⟩

theorem gateCodes_nil : gateCodes [] = [] := by decide

theorem plain_request_not_continued :
    ¬ AttributionContinues .shadow (attributionOf .shadow [] requestUuid)
        (responseAttribution (attributionOf .shadow [] requestUuid))
        (requestAttribution .shadow [] routerUuid)
        (makeGovernanceMeta (requestAttribution .shadow [] routerUuid) 0) :=
  not_attributionContinues .shadow [] requestUuid routerUuid 0
    (dispatch_eq_handled gateCodes_nil .shadow requestUuid)

def correlatedHeaders : HttpHeaders := [("X-Correlation-ID", "enrolment-42")]

/-- The middleware answers with the client's correlation id and the mode `SHADOW`, the handler with
an id of its own, the mode `ExecutionMode.SHADOW` and a live scope. -/
theorem correlated_request_not_continued :
    ∃ ctx responseHeaders,
      dispatch .shadow correlatedHeaders requestUuid = .handled ctx responseHeaders ∧
        ctx.correlationId = "enrolment-42" ∧ ctx.executionMode = "SHADOW" ∧
        (requestAttribution .shadow correlatedHeaders routerUuid).correlationId = routerUuid ∧
        (requestAttribution .shadow correlatedHeaders routerUuid).executionMode =
          "ExecutionMode.SHADOW" ∧
        (requestAttribution .shadow correlatedHeaders routerUuid).governanceScope =
          "LIVE_AUTHORIZED" ∧
        ¬ AttributionContinues .shadow ctx responseHeaders
            (requestAttribution .shadow correlatedHeaders routerUuid)
            (makeGovernanceMeta (requestAttribution .shadow correlatedHeaders routerUuid) 0) := by
  have hcorrelation : headerGet correlatedHeaders "X-Correlation-ID" = some "enrolment-42" := by
    rw [correlatedHeaders, headerGet_cons, if_pos (by decide)]
  have hmode : headerGet correlatedHeaders "X-Execution-Mode" = none :=
    headerGet_eq_none (by decide)
  have hgate : gateCodes correlatedHeaders = [] := by
    rw [gateCodes, hmode, headerGet_eq_none (by decide), headerGet_eq_none (by decide),
      headerGet_eq_none (by decide), headerGet_eq_none (by decide)]
    decide
  have hid : (attributionOf .shadow correlatedHeaders requestUuid).correlationId =
      "enrolment-42" := by
    rw [attributionOf_correlationId, hcorrelation]
    rfl
  have hshadow : (attributionOf .shadow correlatedHeaders requestUuid).executionMode =
      "SHADOW" := by
    rw [attributionOf_executionMode, hmode]
    rfl
  refine ⟨attributionOf .shadow correlatedHeaders requestUuid, _,
    dispatch_eq_handled hgate .shadow requestUuid, hid, hshadow, ?_, ?_, ?_, ?_⟩
  · rw [requestAttribution_eq]
  · rw [requestAttribution_eq]
    rfl
  · rw [requestAttribution_eq]
  · intro h
    exact not_sameIdentity _ h.1

end Router
end StudentSuccess
