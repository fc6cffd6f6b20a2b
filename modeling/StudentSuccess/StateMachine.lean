import Mathlib.Data.List.Basic

namespace StudentSuccess
set_option autoImplicit true

inductive OutreachState
  | eligible
  | queued
  | contacted
  | noResponse
  | retry
  | responded
  | analyzed
  | interventionRequired
  | resolved
  | closed
  deriving DecidableEq, Repr

/-- The text of a state, as the tracking row and the transition log store it. -/
def OutreachState.text : OutreachState → String
  | .eligible => "ELIGIBLE"
  | .queued => "QUEUED"
  | .contacted => "CONTACTED"
  | .noResponse => "NO_RESPONSE"
  | .retry => "RETRY"
  | .responded => "RESPONDED"
  | .analyzed => "ANALYZED"
  | .interventionRequired => "INTERVENTION_REQUIRED"
  | .resolved => "RESOLVED"
  | .closed => "CLOSED"

def transitions : OutreachState → List OutreachState
  | .eligible => [.queued, .closed]
  | .queued => [.contacted, .closed]
  | .contacted => [.noResponse, .responded, .closed, .interventionRequired]
  | .noResponse => [.retry, .closed, .interventionRequired]
  | .retry => [.contacted, .closed, .interventionRequired]
  | .responded => [.analyzed, .resolved, .closed, .interventionRequired]
  | .analyzed => [.interventionRequired, .resolved, .closed]
  | .interventionRequired => [.resolved, .closed]
  | .resolved => [.closed]
  | .closed => []

def terminal : List OutreachState := [.closed]

def canTransition (fromState toState : OutreachState) : Bool :=
  (transitions fromState).contains toState

def isTerminal (state : OutreachState) : Bool := terminal.contains state

theorem canTransition_ne (h : canTransition s t = true) : s ≠ t := by
  rintro rfl
  cases s <;> simp [canTransition, transitions] at h

theorem canTransition_closed (t : OutreachState) : canTransition .closed t = false := rfl

/-- The declared terminal states are the states that the table lets nothing leave. -/
theorem isTerminal_iff (s : OutreachState) :
    isTerminal s = true ↔ ∀ t, canTransition s t = false := by
  constructor
  · intro h t
    have hs : s = .closed := by simpa [isTerminal, terminal] using h
    exact hs ▸ canTransition_closed t
  · intro h
    have hclosed := h .closed
    cases s <;> simp [isTerminal, terminal, canTransition, transitions] at hclosed ⊢

end StudentSuccess
