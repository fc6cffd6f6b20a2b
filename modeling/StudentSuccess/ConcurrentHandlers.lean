import StudentSuccess.ExactlyOnce
import StudentSuccess.ReadCheckWrite

namespace StudentSuccess
namespace Concurrent
set_option autoImplicit true
open Repository ReadCheckWrite

/-- A handler working on the row: the webhook's payload is read from its request before. -/
inductive Handler
  | manual (action : ManualAction)
  | webhook (payload : GHLWebhookPayload)

/-- The transition the handler makes from the state that its `SELECT` returned. -/
def Handler.move : Handler → OutreachState → Option OutreachState
  | .manual action, state =>
    match actionTypeToState action.actionType with
    | none => none
    | some targetState => if canTransition state targetState then some targetState else none
  | .webhook payload, state => webhookMove payload state

/-- The statements of a handler that are behind it. -/
inductive HandlerPc
  | start
  /-- The webhook has inserted its event. -/
  | recorded
  | selected (state : OutreachState) (seen : Nat)
  /-- The new state is flushed, the row is locked. -/
  | flushed (state : OutreachState) (seen : Nat) (toState : OutreachState)
  /-- The log entry, and the webhook's history row, are appended or refused. -/
  | appended (state : OutreachState) (seen : Nat) (toState : OutreachState)
  | finished

/-- One tracking row and the handlers on it; `commits` counts the committed writes of the row. -/
structure Row (ι : Type) where
  state : OutreachState
  commits : Nat
  holder : Option ι
  pc : ι → HandlerPc

variable {ι : Type} [DecidableEq ι]

def Row.initial (state : OutreachState) : Row ι := ⟨state, 0, none, fun _ => .start⟩

def Row.setPc (row : Row ι) (i : ι) (p : HandlerPc) : Row ι :=
  { row with pc := Function.update row.pc i p }

/-- The next statement of a handler, or its failure with the rollback that follows. -/
def step (handlers : ι → Handler) (mode : String) (row : Row ι) : Tick ι → Row ι
  | .advance i =>
    match row.pc i, handlers i with
    | .start, .manual action =>
      row.setPc i (match actionTypeToState action.actionType with
        | none => .finished
        | some _ => .selected row.state row.commits)
    | .start, .webhook _ =>
      row.setPc i (if mode ∈ validExecutionModes then .recorded else .finished)
    | .recorded, _ => row.setPc i (.selected row.state row.commits)
    | .selected state seen, _ =>
      match (handlers i).move state with
      | none => row.setPc i .finished
      | some toState =>
        match row.holder with
        | some _ => row
        | none => { row.setPc i (.flushed state seen toState) with holder := some i }
    | .flushed state seen toState, _ => row.setPc i (.appended state seen toState)
    | .appended _ _ toState, _ =>
      { row.setPc i .finished with
        state := toState, commits := row.commits + 1, holder := none }
    | .finished, _ => row
  | .fail i =>
    match row.pc i with
    | .flushed _ _ _ => { row.setPc i .finished with holder := none }
    | .appended _ _ _ => { row.setPc i .finished with holder := none }
    | _ => row.setPc i .finished

/-- The handler's next statement reads the row. -/
def Selects (handlers : ι → Handler) (row : Row ι) (i : ι) : Prop :=
  match row.pc i, handlers i with
  | .start, .manual _ => True
  | .recorded, _ => True
  | _, _ => False

/-- The handler has read a state that it leaves, and has not committed. -/
def Open (handlers : ι → Handler) (row : Row ι) (i : ι) : Prop :=
  match row.pc i with
  | .selected state _ => (handlers i).move state ≠ none
  | .flushed _ _ _ => True
  | .appended _ _ _ => True
  | _ => False

/-- A handler whose check passes takes its `SELECT` only when no other such handler is between
its `SELECT` and its `COMMIT`. -/
def Serialised (handlers : ι → Handler) (row : Row ι) (t : Tick ι) : Prop :=
  ∀ i, t = .advance i → Selects handlers row i → (handlers i).move row.state ≠ none →
    ∀ j, ¬ Open handlers row j

/-- The step keeps the state machine: a committed change is a transition from the state committed
before it, `CLOSED` is not left, and a commit overwrites the state that its handler read. -/
structure KeepsStateMachine (handlers : ι → Handler) (mode : String) (row : Row ι)
    (t : Tick ι) : Prop where
  transition : (step handlers mode row t).state ≠ row.state →
    canTransition row.state (step handlers mode row t).state = true
  closed : row.state = .closed → (step handlers mode row t).state = .closed
  commit : ∀ i state seen toState, t = .advance i → row.pc i = .appended state seen toState →
    canTransition row.state toState = true ∧ seen = row.commits

/-- The transaction a handler is to the row. -/
def HandlerPc.transaction : HandlerPc → Pc OutreachState
  | .start => .idle
  | .recorded => .idle
  | .selected state seen => .read state seen
  | .flushed state seen toState => .wrote state seen toState
  | .appended state seen toState => .wrote state seen toState
  | .finished => .done

def Row.cell (row : Row ι) : Cell ι OutreachState where
  value := row.state
  commits := row.commits
  holder := row.holder
  pc := fun i => (row.pc i).transaction

theorem Handler.move_canTransition (handler : Handler) (h : handler.move state = some toState) :
    canTransition state toState = true := by
  cases handler with
  | manual action =>
    simp only [Handler.move] at h
    split at h
    · cases h
    · split_ifs at h with hcan
      cases h
      exact hcan
  | webhook payload =>
    exact ((webhookMove_eq_some_iff payload state toState).1 h).2

def plans (handlers : ι → Handler) (i : ι) (state : OutreachState) : Option OutreachState :=
  (handlers i).move state

theorem setPc_cell (row : Row ι) (i : ι) (p : HandlerPc) :
    (row.setPc i p).cell = row.cell.setPc i p.transaction := by
  have hpc : (fun j => (Function.update row.pc i p j).transaction) =
      Function.update (fun j => (row.pc j).transaction) i p.transaction := by
    funext j
    by_cases hj : j = i
    · subst hj
      simp only [Function.update_self]
    · simp only [Function.update_of_ne hj]
  simp only [Row.cell, Row.setPc, Cell.setPc, hpc]

variable {handlers : ι → Handler} {row : Row ι} {t : Tick ι}

omit [DecidableEq ι] in
theorem open_iff (handlers : ι → Handler) (row : Row ι) (i : ι) :
    Open handlers row i ↔ (row.cell.pc i).open? (plans handlers i) ≠ none := by
  cases hpc : row.pc i <;> simp [Open, Row.cell, hpc, HandlerPc.transaction, Pc.open?, plans]

omit [DecidableEq ι] in
theorem serial_of_serialised (hserial : Serialised handlers row (.advance i))
    (hselects : Selects handlers row i) : Serial (plans handlers) row.cell (.advance i) := by
  intro j hj hidle hmove k
  cases hj
  have hclosed := hserial i rfl hselects hmove k
  rw [open_iff] at hclosed
  exact not_not.1 hclosed

omit [DecidableEq ι] in
theorem serial_fail (row : Row ι) (i : ι) : Serial (plans handlers) row.cell (.fail i) :=
  fun _ h => nomatch h

omit [DecidableEq ι] in
theorem serial_of_not_idle (hpc : row.cell.pc i ≠ .idle) :
    Serial (plans handlers) row.cell (.advance i) := by
  intro j hj hidle
  cases hj
  exact absurd hidle hpc

omit [DecidableEq ι] in
@[simp] theorem cell_pc (row : Row ι) (i : ι) : row.cell.pc i = (row.pc i).transaction := rfl

/-- Ending a handler that has not flushed is the failure of its transaction. -/
theorem finish_cell (row : Row ι) (i : ι)
    (hpc : ∀ v n new, (row.pc i).transaction ≠ .wrote v n new) :
    (row.setPc i .finished).cell =
      ReadCheckWrite.step (plans handlers) row.cell (.fail i) := by
  rw [setPc_cell]
  cases h : (row.pc i).transaction with
  | wrote v n new => exact absurd h (hpc v n new)
  | _ =>
    simp only [ReadCheckWrite.step, cell_pc, h]
    rfl

theorem fail_cell (mode : String) (row : Row ι) (i : ι) :
    (step handlers mode row (.fail i)).cell =
      ReadCheckWrite.step (plans handlers) row.cell (.fail i) := by
  cases hpc : row.pc i with
  | flushed state seen toState =>
    simp only [step, ReadCheckWrite.step, cell_pc, hpc, HandlerPc.transaction]
    exact congrArg (fun c : Cell ι OutreachState => { c with holder := none })
      (setPc_cell row i .finished)
  | appended state seen toState =>
    simp only [step, ReadCheckWrite.step, cell_pc, hpc, HandlerPc.transaction]
    exact congrArg (fun c : Cell ι OutreachState => { c with holder := none })
      (setPc_cell row i .finished)
  | _ =>
    simp only [step, hpc]
    refine finish_cell row i ?_
    simp [hpc, HandlerPc.transaction]

theorem silent_cell (row : Row ι) (i : ι) {p : HandlerPc}
    (hp : p.transaction = (row.pc i).transaction) : (row.setPc i p).cell = row.cell := by
  rw [setPc_cell, hp]
  simp only [Cell.setPc]
  exact congrArg (fun pc => Cell.mk row.state row.commits row.holder pc)
    (Function.update_eq_self i row.cell.pc)

theorem select_cell (row : Row ι) (i : ι) (hpc : (row.pc i).transaction = .idle) :
    (row.setPc i (.selected row.state row.commits)).cell =
      ReadCheckWrite.step (plans handlers) row.cell (.advance i) := by
  rw [setPc_cell]
  simp only [ReadCheckWrite.step, cell_pc, hpc]
  rfl

theorem flush_cell (mode : String) (hpc : row.pc i = .selected state seen) :
    (step handlers mode row (.advance i)).cell =
      ReadCheckWrite.step (plans handlers) row.cell (.advance i) := by
  have hread : row.cell.pc i = .read state seen := by rw [cell_pc, hpc]; rfl
  cases hmove : (handlers i).move state with
  | none =>
    simp only [step, hpc, hmove, ReadCheckWrite.step, hread, plans, setPc_cell]
    rfl
  | some toState =>
    cases hholder : row.holder with
    | none =>
      have hfree : row.cell.holder = none := hholder
      simp only [step, hpc, hmove, hholder, ReadCheckWrite.step, hread, plans, hfree]
      exact congrArg (fun c : Cell ι OutreachState => { c with holder := some i })
        (setPc_cell row i (.flushed state seen toState))
    | some k =>
      have hheld : row.cell.holder = some k := hholder
      simp only [step, hpc, hmove, hholder, ReadCheckWrite.step, hread, plans, hheld]

theorem commit_cell (mode : String) (hpc : row.pc i = .appended state seen toState) :
    (step handlers mode row (.advance i)).cell =
      ReadCheckWrite.step (plans handlers) row.cell (.advance i) := by
  have hwrote : row.cell.pc i = .wrote state seen toState := by rw [cell_pc, hpc]; rfl
  simp only [step, hpc, ReadCheckWrite.step, hwrote]
  exact congrArg (fun c : Cell ι OutreachState =>
    { c with value := toState, commits := row.commits + 1, holder := none })
    (setPc_cell row i .finished)

/-- Every statement of a handler is a step of its transaction, or nothing to the row. -/
theorem cell_step (mode : String) (hserial : Serialised handlers row t) :
    (step handlers mode row t).cell = row.cell ∨
      ∃ t', (step handlers mode row t).cell = ReadCheckWrite.step (plans handlers) row.cell t' ∧
        Serial (plans handlers) row.cell t' := by
  cases t with
  | fail i => exact .inr ⟨.fail i, fail_cell mode row i, serial_fail row i⟩
  | advance i =>
    cases hpc : row.pc i with
    | start =>
      have hidle : (row.pc i).transaction = .idle := by rw [hpc]; rfl
      have hquiet : ∀ v n new, (row.pc i).transaction ≠ .wrote v n new := by simp [hidle]
      cases hhandler : handlers i with
      | manual action =>
        cases htarget : actionTypeToState action.actionType with
        | none =>
          simp only [step, hpc, hhandler, htarget]
          exact .inr ⟨.fail i, finish_cell row i hquiet, serial_fail row i⟩
        | some targetState =>
          simp only [step, hpc, hhandler, htarget]
          refine .inr ⟨.advance i, select_cell row i hidle, serial_of_serialised hserial ?_⟩
          simp only [Selects, hpc, hhandler]
      | webhook payload =>
        by_cases hmode : mode ∈ validExecutionModes
        · left
          simp only [step, hpc, hhandler, if_pos hmode]
          exact silent_cell row i (by rw [hpc]; rfl)
        · simp only [step, hpc, hhandler, if_neg hmode]
          exact .inr ⟨.fail i, finish_cell row i hquiet, serial_fail row i⟩
    | recorded =>
      simp only [step, hpc]
      refine .inr ⟨.advance i, select_cell row i (by rw [hpc]; rfl),
        serial_of_serialised hserial ?_⟩
      simp only [Selects, hpc]
    | selected state seen =>
      exact .inr ⟨.advance i, flush_cell mode hpc,
        serial_of_not_idle (by simp [hpc, HandlerPc.transaction])⟩
    | flushed state seen toState =>
      left
      simp only [step, hpc]
      exact silent_cell row i (by rw [hpc]; rfl)
    | appended state seen toState =>
      exact .inr ⟨.advance i, commit_cell mode hpc,
        serial_of_not_idle (by simp [hpc, HandlerPc.transaction])⟩
    | finished => exact .inl (by simp only [step, hpc])

theorem exclusive_step (mode : String) (hex : Exclusive (plans handlers) row.cell)
    (hserial : Serialised handlers row t) :
    Exclusive (plans handlers) (step handlers mode row t).cell := by
  obtain hsame | ⟨t', hstep, hserial'⟩ := cell_step mode hserial
  · rw [hsame]
    exact hex
  · rw [hstep]
    exact hex.preserved hserial'

theorem step_state (handlers : ι → Handler) (mode : String) (row : Row ι) (t : Tick ι) :
    (step handlers mode row t).state = row.state ∨
      ∃ i state seen toState, t = .advance i ∧ row.pc i = .appended state seen toState ∧
        (step handlers mode row t).state = toState := by
  cases t with
  | fail i => cases hpc : row.pc i <;> exact .inl (by simp only [step, hpc, Row.setPc])
  | advance i =>
    cases hpc : row.pc i with
    | appended state seen toState =>
      exact .inr ⟨i, state, seen, toState, rfl, hpc, by simp only [step, hpc]⟩
    | start => cases hhandler : handlers i <;>
        exact .inl (by simp only [step, hpc, hhandler, Row.setPc])
    | selected state seen =>
      left
      cases hmove : (handlers i).move state with
      | none => simp only [step, hpc, hmove, Row.setPc]
      | some toState =>
        cases hholder : row.holder <;> simp only [step, hpc, hmove, hholder, Row.setPc]
    | recorded => exact .inl (by simp only [step, hpc, Row.setPc])
    | flushed state seen toState => exact .inl (by simp only [step, hpc, Row.setPc])
    | finished => exact .inl (by simp only [step, hpc])

theorem keeps_of_exclusive (mode : String) (hex : Exclusive (plans handlers) row.cell)
    (t : Tick ι) : KeepsStateMachine handlers mode row t := by
  have hplan : ∀ i v new, plans handlers i v = some new → canTransition v new = true :=
    fun i _ _ h => (handlers i).move_canTransition h
  have hcommit : ∀ i state seen toState, t = .advance i →
      row.pc i = .appended state seen toState →
      canTransition row.state toState = true ∧ seen = row.commits := by
    intro i state seen toState _ hpc
    have hwrote : row.cell.pc i = .wrote state seen toState := by rw [cell_pc, hpc]; rfl
    obtain ⟨hvalue, hcommits⟩ := step_commit (plans handlers) hwrote
    obtain ⟨-, hlegal, hseen⟩ :=
      hex.lawful (R := fun s s' => canTransition s s' = true) hplan (.advance i)
    refine ⟨?_, hseen i state seen toState rfl hwrote⟩
    have hne : (ReadCheckWrite.step (plans handlers) row.cell (.advance i)).commits ≠
        row.cell.commits := by
      rw [hcommits]
      exact Nat.succ_ne_self _
    exact hvalue ▸ hlegal hne
  have htransition : (step handlers mode row t).state ≠ row.state →
      canTransition row.state (step handlers mode row t).state = true := by
    intro hne
    obtain hsame | ⟨i, state, seen, toState, ht, hpc, hstate⟩ := step_state handlers mode row t
    · exact absurd hsame hne
    · exact hstate ▸ (hcommit i state seen toState ht hpc).1
  refine ⟨htransition, fun hclosed => ?_, hcommit⟩
  by_contra hne
  have hleft := htransition (hclosed ▸ hne)
  rw [hclosed, canTransition_closed] at hleft
  exact absurd hleft (by decide)

/-- A handler alone on the row leaves it where its move leads; a webhook gets so far when the gate
lists the mode's text. -/
theorem handler_alone (handler : Handler) (mode : String) (state : OutreachState)
    (hmode : ∀ payload, handler = .webhook payload → mode ∈ validExecutionModes) :
    (Runs.final (step (fun _ : Unit => handler) mode) (Row.initial state)
      (List.replicate 5 (.advance ()))).state = (handler.move state).getD state := by
  cases handler with
  | manual action =>
    cases htarget : actionTypeToState action.actionType with
    | none => simp [List.replicate, step, Row.initial, Row.setPc, htarget, Handler.move]
    | some targetState =>
      cases hcan : canTransition state targetState <;>
        simp [List.replicate, step, Row.initial, Row.setPc, htarget, Handler.move, hcan]
  | webhook payload =>
    have hvalid := hmode payload rfl
    cases hmove : webhookMove payload state <;>
      simp [List.replicate, step, Row.initial, Row.setPc, Handler.move, hmove, hvalid]

/-- The sequential handler leaves the row where the move of its transaction leads. -/
theorem stateOf_executeManualAction (mode : String) (session : Session) (action : ManualAction)
    (hlatest : latestTracking session.db action.userId = some tracking) :
    (executeManualAction mode session action).1.db.stateOf tracking.id =
      some (((Handler.manual action).move tracking.state).getD tracking.state) := by
  have hstate := stateOf_of_mem (latestTracking_mem hlatest)
  cases htarget : actionTypeToState action.actionType with
  | none =>
    simp only [executeManualAction, Handler.move, htarget]
    exact hstate
  | some targetState =>
    cases hcan : canTransition tracking.state targetState with
    | false =>
      simp only [executeManualAction, Handler.move, htarget, hlatest, hcan, Bool.not_false, if_true,
        Bool.false_eq_true, if_false]
      exact hstate
    | true =>
      rw [executeManualAction_accepted htarget hlatest hcan]
      simp only [Handler.move, htarget, hcan, if_true, Option.getD_some]
      exact stateOf_transition session (fun _ => some action.uuid) action.now
        (manualTransition action tracking targetState) _ hstate

/-- Every run of handlers on a row, from every state of it, keeps the state machine at every
step, if the handlers that pass their check are serialised. -/
theorem keepsStateMachine_of_serialised (handlers : ι → Handler) (mode : String)
    (state : OutreachState) (ticks : List (Tick ι))
    (h : Runs.EveryStep (step handlers mode) (Serialised handlers) (Row.initial state) ticks) :
    Runs.EveryStep (step handlers mode) (KeepsStateMachine handlers mode) (Row.initial state)
      ticks := by
  have hinitial : Exclusive (plans handlers) (Row.initial (ι := ι) state).cell :=
    exclusive_start state
  have hruns := h.strengthen (I := fun row => Exclusive (plans handlers) row.cell)
    (fun _ _ hex hserial => exclusive_step mode hex hserial) hinitial
  exact hruns.imp fun row t hc => keeps_of_exclusive mode hc.1 t

def escalate : ManualAction where
  userId := 7
  actionType := "ESCALATE"
  notes := none
  uuid := ⟨"a3a1c1de-7d55-4f0b-b0c5-6a3f3e6b8a03", by decide⟩
  now := 1

/-- One operator closes the case, another one escalates it. -/
def closeAndEscalate : Bool → Handler
  | false => .manual closeCase
  | true => .manual escalate

theorem keepsStateMachine_escalateThenClose :
    Runs.EveryStep (step closeAndEscalate ExecutionMode.shadow.str)
      (KeepsStateMachine closeAndEscalate ExecutionMode.shadow.str) (Row.initial .contacted)
      [.advance true, .advance true, .advance true, .advance true,
        .advance false, .advance false, .advance false, .advance false] := by
  refine keepsStateMachine_of_serialised closeAndEscalate ExecutionMode.shadow.str .contacted _ ?_
  have hquiet : ∀ (row : Row Bool) (i : Bool), ¬ Selects closeAndEscalate row i →
      Serialised closeAndEscalate row (.advance i) := by
    intro row i hselects j hj hselects'
    cases hj
    exact absurd hselects' hselects
  refine ⟨?_, hquiet _ _ id, hquiet _ _ id, hquiet _ _ id, ?_, hquiet _ _ id, hquiet _ _ id,
    hquiet _ _ id, trivial⟩
  · intro i _ _ _ j
    cases j <;> exact id
  · intro i _ _ _ j
    cases j <;> exact id

/-- Both operators read `CONTACTED`; the escalation overwrites the committed `CLOSED`. -/
theorem escalate_overwrites_closed :
    (Runs.final (step closeAndEscalate ExecutionMode.shadow.str) (Row.initial .contacted)
      [.advance false, .advance true, .advance false, .advance false, .advance false]).state =
        .closed ∧
    (Runs.final (step closeAndEscalate ExecutionMode.shadow.str) (Row.initial .contacted)
      [.advance false, .advance true, .advance false, .advance false, .advance false,
        .advance true, .advance true, .advance true]).state = .interventionRequired ∧
    ¬ Runs.EveryStep (step closeAndEscalate ExecutionMode.shadow.str)
      (KeepsStateMachine closeAndEscalate ExecutionMode.shadow.str) (Row.initial .contacted)
      [.advance false, .advance true, .advance false, .advance false, .advance false,
        .advance true, .advance true, .advance true] := by
  refine ⟨rfl, rfl, fun h => ?_⟩
  obtain ⟨-, -, -, -, -, -, -, hlast, -⟩ := h
  exact nomatch hlast.closed rfl

end Concurrent
end StudentSuccess
