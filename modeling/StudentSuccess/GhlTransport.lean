import StudentSuccess.Provider

namespace StudentSuccess
namespace GhlTransport
set_option autoImplicit true
open Provider

/-- The scopes without a live dispatch. -/
def suppressedScopes : List String :=
  ["SHADOW_ONLY", "REPLAY_ONLY", "BLOCKED", "UNAVAILABLE", "DUPLICATE_SUPPRESSED"]

def scopeOutcome : String → String
  | "SHADOW_ONLY" => "shadow_only"
  | "REPLAY_ONLY" => "suppressed_replay"
  | "BLOCKED" => "blocked"
  | "UNAVAILABLE" => "unavailable"
  | "DUPLICATE_SUPPRESSED" => "duplicate_suppressed"
  | _ => "shadow_only"

abbrev Student := List (String × Py.Value)

/-- `student.get(key)`. -/
def field (student : Student) (key : String) : Py.Value := (Py.get? key student).getD .null

def buildGhlPayload (locationId : String) (student : Student) (channel : String) (attempt : Int) :
    List (String × Py.Value) :=
  [("locationId", .str locationId),
    ("user", .dict [("id", field student "UserID"), ("email", field student "Email"),
      ("phone", field student "PhoneNumber")]),
    ("workflow", .dict [("channel", .str channel), ("attempt", .int attempt),
      ("checkpoint", field student "PathName")]),
    ("risk", .dict [("hwsBehind", field student "HWsBehind"),
      ("avgEffRating", field student "AvgEffRating"),
      ("lastActivityDays", field student "LastActivityDays")])]

structure DispatchResult where
  governanceScope : String
  providerEventType : Option String
  outboundSuppressed : Bool
  correlationId : Option String
  causationId : Option String
  upstreamIntentId : Option String
  originSource : Option String
  originAuthority : Option String
  executionMode : String
  executionType : String
  isReplay : Bool
  configVersionId : Option String
  degraded : Bool
  degradationCause : Option String
  providerBlocked : Bool
  blockingReason : Option String
  outcome : String
  reasonCodes : List String
  ghlWorkflowId : Option String
  providerResponseCode : Option Int

def makeDispatchResult (assessment : ProviderOrchestrationAssessment) (outcome : String)
    (providerResponseCode : Option Int) (ghlWorkflowId : Option String) : DispatchResult where
  governanceScope := assessment.governanceScope
  providerEventType := assessment.providerEventType
  outboundSuppressed := assessment.outboundSuppressed
  correlationId := assessment.correlationId
  causationId := assessment.causationId
  upstreamIntentId := assessment.upstreamIntentId
  originSource := assessment.originSource
  originAuthority := assessment.originAuthority
  executionMode := assessment.executionMode
  executionType := assessment.executionType
  isReplay := assessment.isReplay
  configVersionId := assessment.configVersionId
  degraded := assessment.degraded
  degradationCause := assessment.degradationCause
  providerBlocked := assessment.providerBlocked
  blockingReason := assessment.blockingReason
  outcome := outcome
  reasonCodes := assessment.reasonCodes
  ghlWorkflowId := ghlWorkflowId
  providerResponseCode := providerResponseCode

/-- The branches of the dispatch: the simulation, and the place of the live call. -/
inductive Branch
  | suppressed
  | live
  deriving DecidableEq

def dispatchBranch (assessment : ProviderOrchestrationAssessment) : Branch :=
  if assessment.governanceScope ∈ suppressedScopes ∨ assessment.outboundSuppressed = true ∨
      assessment.providerBlocked = true
  then .suppressed else .live

/-- `execute_ghl_dispatch`; its live branch stops at the Phase-12 gate. -/
def executeGhlDispatch (assessment : ProviderOrchestrationAssessment)
    (_payload : List (String × Py.Value)) : DispatchResult :=
  match dispatchBranch assessment with
  | .suppressed =>
    makeDispatchResult assessment (scopeOutcome assessment.governanceScope) none none
  | .live =>
    { makeDispatchResult assessment "shadow_only" none none with
      reasonCodes := assessment.reasonCodes ++ ["LIVE_SCOPE_REQUIRES_PHASE12_CERT"] }

theorem dispatchBranch_of_outboundSuppressed (h : assessment.outboundSuppressed = true) :
    dispatchBranch assessment = .suppressed :=
  if_pos (.inr (.inl h))

theorem executeGhlDispatch_outboundSuppressed (assessment : ProviderOrchestrationAssessment)
    (payload : List (String × Py.Value)) :
    (executeGhlDispatch assessment payload).outboundSuppressed =
      assessment.outboundSuppressed := by
  rw [executeGhlDispatch]
  cases dispatchBranch assessment <;> rfl

end GhlTransport
end StudentSuccess
