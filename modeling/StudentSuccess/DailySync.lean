import StudentSuccess.MirrorFrame
import StudentSuccess.MirrorPipeline

namespace StudentSuccess
namespace MirrorPipeline
set_option autoImplicit true
open Py MirrorSync Scripts Upserts

/-- A row of one of the two student sources is about the student. -/
def Named (request : Request) (userId : Int) : Prop :=
  (∃ rows, request.sources.mssql = .ok rows ∧
      ∃ row ∈ rows, mssqlId request.env.driver row = some userId) ∨
    ∃ rows, request.sources.ipbc = .ok rows ∧
      ∃ row ∈ rows, ipbcId request.env.driver row = some userId

/-- What the sources of the request say last of a column of the student. -/
def said (request : Request) (userId : Int) (c : String) : Option Cell :=
  lastSet userId c ((committed request).mirror.map Write.entry)

/-- The statements of the two student sources, and the updates after them. -/
structure Script (request : Request) (students ipbc : List (Int × MirrorChange))
    (updates : List MirrorWrite) : Prop where
  mssqlWrites : upsertWrites (mssqlStatement request.env.driver) request.sources.mssql =
    .ok (upserts students)
  ipbcWrites : upsertWrites (ipbcStatement request.env.driver) request.sources.ipbc =
    .ok (upserts ipbc)
  makes : made updates = []
  mirror : (committed request).mirror = upserts (students ++ ipbc) ++ updates

theorem runStages_ok {stages : List Stage} {state : State τ}
    (h : (runStages env sources stages state).1 = .ok ()) (hstage : stage ∈ stages)
    (hcampaign : stage ≠ .campaign) : ∃ log, stage.log env sources = .ok log := by
  induction stages generalizing state with
  | nil => cases hstage
  | cons first stages ih =>
    rw [runStages] at h
    cases hrun : first.run env sources state with
    | mk result state' =>
      rw [hrun] at h
      cases result with
      | error e => cases h
      | ok _ =>
        rcases List.mem_cons.1 hstage with rfl | hrest
        · have hfollows := stage_follows env sources state hcampaign
          rw [Follows] at hfollows
          cases hlog : stage.log env sources with
          | ok log => exact ⟨log, rfl⟩
          | error e =>
            rw [hlog] at hfollows
            obtain ⟨e', herror⟩ := hfollows
            rw [hrun] at herror
            cases herror
        · exact ih h hrest

theorem upsertWrites_ok (h : upsertWrites prepare fetched = .ok ws) :
    ∃ changes, ws = upserts changes := by
  rw [upsertWrites.eq_def] at h
  split at h
  · cases h
    exact ⟨[], rfl⟩
  · obtain ⟨changes, -, h⟩ := bind_eq_ok.1 h
    cases h
    exact ⟨changes, rfl⟩

theorem mssql_log_ok (h : Stage.mssql.log env sources = .ok log) :
    ∃ students, upsertWrites (mssqlStatement env.driver) sources.mssql = .ok (upserts students) ∧
      log = { mirror := upserts students } := by
  rw [Stage.log] at h
  cases hwrites : upsertWrites (mssqlStatement env.driver) sources.mssql with
  | error e =>
    rw [hwrites] at h
    cases h
  | ok ws =>
    rw [hwrites] at h
    obtain ⟨students, rfl⟩ := upsertWrites_ok hwrites
    cases h
    exact ⟨students, rfl, rfl⟩

theorem ipbc_log_ok (h : Stage.ipbc.log env sources = .ok log) :
    ∃ ipbc, upsertWrites (ipbcStatement env.driver) sources.ipbc = .ok (upserts ipbc) ∧
      log.mirror = upserts ipbc := by
  rw [Stage.log] at h
  cases hstudents : upsertWrites (ipbcStatement env.driver) sources.ipbc with
  | error e =>
    rw [hstudents] at h
    cases h
  | ok ws =>
    rw [hstudents] at h
    cases hmentors : upsertWrites (ipbcMentorStatement env.driver sources.now) sources.ipbc with
    | error e =>
      rw [hmentors] at h
      cases h
    | ok mentors =>
      rw [hmentors] at h
      obtain ⟨ipbc, rfl⟩ := upsertWrites_ok hstudents
      cases h
      exact ⟨ipbc, rfl, rfl⟩

theorem made_paymentWrites (rows : List Payment.PaymentRow) : made (paymentWrites rows) = [] := by
  induction rows with
  | nil => rfl
  | cons row rows ih =>
    rw [paymentWrites, List.filterMap_cons]
    cases row.student with
    | none => exact ih
    | some userId => exact ih

theorem payments_log_ok (h : Stage.payments.log env sources = .ok log) : made log.mirror = [] := by
  rw [Stage.log] at h
  split at h
  · cases h
    rfl
  · dsimp only at h
    split_ifs at h
    cases h
    exact made_paymentWrites _

theorem made_collectPlans {prepare : SourceRow → Except PaymentPlans.PlanError
      (Option (Int × PaymentPlans.Patch))} (h : collectPlans prepare students = .ok ws) :
    made ws = [] := by
  induction students generalizing ws with
  | nil =>
    cases h
    rfl
  | cons student students ih =>
    rw [collectPlans, bind_eq_ok] at h
    obtain ⟨entry, -, h⟩ := h
    obtain ⟨rest, hrest, h⟩ := bind_eq_ok.1 h
    cases h
    have hmade := ih hrest
    cases entry with
    | none => exact hmade
    | some entry => exact hmade

theorem plans_log_ok (h : Stage.plans.log env sources = .ok log) : made log.mirror = [] := by
  rw [Stage.log] at h
  split at h
  · cases h
  · next ws hwrites =>
    cases h
    rw [planWrites.eq_def] at hwrites
    split at hwrites
    · cases hwrites
      rfl
    · cases hwrites
      rfl
    · cases hwrites
      rfl
    · dsimp only at hwrites
      obtain ⟨lookups, -, hwrites⟩ := bind_eq_ok.1 hwrites
      split_ifs at hwrites
      · cases hwrites
        rfl
      · exact made_collectPlans hwrites

theorem stagesLog_script {stages : List Stage}
    (hstudents : upsertWrites (mssqlStatement env.driver) sources.mssql = .ok (upserts students))
    (hipbc : Stage.ipbc.log env sources = .ok ipbcLog) (hmirror : ipbcLog.mirror = upserts ipbc) :
    (stagesLog env sources (.mssql :: .ipbc :: stages)).mirror =
      upserts (students ++ ipbc) ++ (stagesLog env sources stages).mirror := by
  have hmssql : Stage.mssql.log env sources = .ok { mirror := upserts students } := by
    rw [Stage.log, hstudents]
  rw [stagesLog, hmssql, stagesLog, hipbc]
  simp only [Log.append, hmirror, upserts, List.map_append, List.append_assoc]

theorem made_stagesLog {stages : List Stage}
    (h : ∀ stage ∈ stages, stage ≠ .mssql ∧ stage ≠ .ipbc) :
    made (stagesLog env sources stages).mirror = [] := by
  induction stages with
  | nil => rfl
  | cons stage stages ih =>
    have hrest := ih fun stage' hstage' => h stage' (.tail _ hstage')
    rw [stagesLog]
    cases hlog : stage.log env sources with
    | error e => rfl
    | ok log =>
      have hmade : made log.mirror = [] := by
        cases stage with
        | mssql => exact absurd rfl (h _ (.head _)).1
        | ipbc => exact absurd rfl (h _ (.head _)).2
        | payments => exact payments_log_ok hlog
        | plans => exact plans_log_ok hlog
        | mentorship =>
          rw [Stage.log] at hlog
          split at hlog <;> cases hlog
          rfl
        | campaign =>
          cases hlog
          rfl
      dsimp only [Log.append]
      rw [made_append, hmade, hrest]
      rfl

/-- The two operations that begin with the student sources. -/
def Operation.Full (operation : Operation) : Prop :=
  operation = .runDailyMssqlSync ∨ operation = .runPipeline

theorem Operation.Full.stages {operation : Operation} (h : operation.Full) :
    ∃ rest, operation.stages = .mssql :: .ipbc :: rest ∧
      ∀ stage ∈ rest, stage ≠ .mssql ∧ stage ≠ .ipbc := by
  rcases h with rfl | rfl
  · exact ⟨[.payments, .campaign], rfl, by decide⟩
  · exact ⟨[.payments, .plans], rfl, by decide⟩

theorem script_of_ok {request : Request} {state : State τ} (hfull : request.operation.Full)
    (h : (respond state request).1 = .ok ()) :
    ∃ students ipbc updates, Script request students ipbc updates := by
  obtain ⟨rest, hstages, hrest⟩ := hfull.stages
  rw [respond, hstages] at h
  obtain ⟨log, hlog⟩ := runStages_ok h (.head _) (by decide)
  obtain ⟨students, hstudents, -⟩ := mssql_log_ok hlog
  obtain ⟨ipbcLog, hipbcLog⟩ := runStages_ok h (.tail _ (.head _)) (by decide)
  obtain ⟨ipbc, hipbc, hmirror⟩ := ipbc_log_ok hipbcLog
  refine ⟨students, ipbc, (stagesLog request.env request.sources rest).mirror, hstudents, hipbc,
    made_stagesLog hrest, ?_⟩
  rw [committed, hstages]
  exact stagesLog_script hstudents hipbcLog hmirror

theorem upserts_inj (h : upserts changes = (upserts changes' : List MirrorWrite)) :
    changes = changes' := by
  rw [← entry_upserts changes, ← entry_upserts changes', h]

theorem mem_statements_iff (hprepares : Prepares driver rowId view prepare)
    (h : upsertWrites prepare fetched = .ok (upserts changes)) :
    userId ∈ changes.map Prod.fst ↔
      ∃ rows, fetched = .ok rows ∧ ∃ row ∈ rows, rowId row = some userId := by
  cases fetched with
  | error e =>
    rw [upsertWrites_error] at h
    obtain rfl : [] = changes := upserts_inj (Except.ok.inj h)
    constructor
    · intro hmem
      cases hmem
    · rintro ⟨rows, hrows, -⟩
      cases hrows
  | ok rows =>
    obtain ⟨changes', hcollect, h⟩ := bind_eq_ok.1 h
    obtain rfl : changes' = changes := upserts_inj (Except.ok.inj h)
    rw [hprepares.mem_ids_iff hcollect]
    constructor
    · intro hrow
      exact ⟨rows, rfl, hrow⟩
    · rintro ⟨rows', hrows, hrow⟩
      cases hrows
      exact hrow

theorem Script.named_iff (h : Script request students ipbc updates) :
    userId ∈ (students ++ ipbc).map Prod.fst ↔ Named request userId := by
  rw [List.map_append, List.mem_append, mem_statements_iff (mssql_prepares _) h.mssqlWrites,
    mem_statements_iff (ipbc_prepares _) h.ipbcWrites]
  rfl

theorem Script.said_eq (h : Script request students ipbc updates) (userId : Int) (c : String) :
    said request userId c = lastSet userId c ((students ++ ipbc) ++ updates.map Write.entry) := by
  rw [said, h.mirror, List.map_append, entry_upserts]

/-- The mirror after the syncs of the script, whatever it was before. -/
theorem Script.replay_mirror (h : Script request students ipbc updates) (mirror : Mirror) :
    (∀ userId, Named request userId →
        replay blankRow mirror (committed request).mirror userId =
          some fun c => (said request userId c).getD (((mirror userId).getD blankRow) c)) ∧
      ∀ userId, ¬ Named request userId →
        replay blankRow mirror (committed request).mirror userId =
          (mirror userId).map fun row c => (said request userId c).getD (row c) := by
  constructor
  · intro userId hnamed
    rw [h.mirror, replay_upserted (h.named_iff.2 hnamed), Option.some_inj]
    funext c
    rw [h.said_eq]
  · intro userId hnamed
    cases hrow : mirror userId with
    | some row =>
      rw [replay_present hrow]
      rfl
    | none =>
      have hmade : userId ∉ made (committed request).mirror := by
        rw [h.mirror, made_append, h.makes, List.append_nil, made_upserts]
        exact mt h.named_iff.1 hnamed
      rw [replay_absent hrow, if_neg hmade]
      rfl

/-- A daily sync or a pipeline sync that has gone through once makes of every mirror, whatever
earlier or failed syncs have left in it, one whose named students have in each column what the
sources say last of it (the updates over the IPBC rows, these over the JRP rows), and keeps the
rest; a second time it changes nothing. -/
theorem full_sync_converges (request : Request) (hfull : request.operation.Full) (state : State τ)
    (h : (respond state request).1 = .ok ()) (state' : State τ) :
    let mirror := state'.tables.mirror
    let synced := (serve state' request).tables.mirror
    (∀ userId, Named request userId → synced userId =
        some fun c => (said request userId c).getD (((mirror userId).getD blankRow) c)) ∧
      (∀ userId, ¬ Named request userId → synced userId =
        (mirror userId).map fun row c => (said request userId c).getD (row c)) ∧
      (serve (serve state' request) request).tables.mirror = synced ∧
      ∃ students ipbc updates, Script request students ipbc updates ∧
        ∀ userId c, said request userId c = (lastSet userId c (updates.map Write.entry)).or
          ((lastSet userId c ipbc).or (lastSet userId c students)) := by
  intro mirror synced
  obtain ⟨students, ipbc, updates, hscript⟩ := script_of_ok hfull h
  have hserve : ∀ state : State τ, (serve state request).tables.mirror =
      replay blankRow state.tables.mirror (committed request).mirror := by
    intro state
    rw [serve_tables]
    rfl
  obtain ⟨hnamed, hother⟩ := hscript.replay_mirror mirror
  refine ⟨?_, ?_, ?_, students, ipbc, updates, hscript, ?_⟩
  · intro userId huser
    rw [← hnamed userId huser]
    exact congrFun (hserve state') userId
  · intro userId huser
    rw [← hother userId huser]
    exact congrFun (hserve state') userId
  · show _ = (serve state' request).tables.mirror
    rw [hserve, hserve, hscript.mirror]
    exact replay_replay hscript.makes state'.tables.mirror (students ++ ipbc)
  · intro userId c
    rw [hscript.said_eq, lastSet_append, lastSet_append]

def planColumns : List (String × String) :=
  [("PlanName", "planname"), ("DOWNPAYMENTAMT", "downpaymentamt"), ("Email", "email")]

def adaPlans : PaymentPlans.PlanEnv where
  lower := fun s => (get? s planColumns).getD s
  strip := id
  str := fun val => match val with
    | .text s => s
    | _ => ""
  int := plainDriver.int
  float := fun val => match val with
    | .int n => some n
    | _ => none
  accepts := fun _ _ => true

/-- A pipeline sync of two students of the JRP, one of them of the IPBC too, with a payment and a
plan. -/
def adaSync : Request where
  env :=
    { driver := plainDriver
      payments := Payment.decimalPayments
      plans := adaPlans
      activity := CampaignSync.plainEnv }
  sources :=
    { now := 0
      mssql := .ok [nameRow, [("UserID", .int 8), ("FirstName", .text "Alan")]]
      ipbc := .ok [[("UserID", .int 7), ("FirstName", .text "Ada L.")]]
      payments := .ok [⟨some 7, some 5000, some 2000, none, none⟩]
      planRows := .ok
        [[("PlanName", .text "gold"), ("DOWNPAYMENTAMT", .int 500), ("Email", .text "ada@x.org")]]
      planStudents := .ok [[("UserID", .int 7), ("Email", .text "ada@x.org")]]
      mentorship := .ok []
      events := .error "SQL Server not configured"
      call := CampaignSync.quietCall }
  operation := .runPipeline

def emptyState : State Unit := ⟨noStudents, ⟨.empty, ()⟩⟩

theorem adaSync_converges : (serve (serve emptyState adaSync) adaSync).tables.mirror =
    (serve emptyState adaSync).tables.mirror :=
  (full_sync_converges adaSync (.inr rfl) emptyState rfl emptyState).2.2.1

end MirrorPipeline
end StudentSuccess
