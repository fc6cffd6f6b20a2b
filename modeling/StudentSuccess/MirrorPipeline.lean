import StudentSuccess.CampaignSync
import StudentSuccess.Payment
import StudentSuccess.PaymentPlans
import StudentSuccess.Runs
import StudentSuccess.Scripts

namespace StudentSuccess
namespace MirrorPipeline
set_option autoImplicit true
open Py MirrorSync PaymentPlans Scripts Sessions Upserts
open Payment (PaymentEnv PaymentError PaymentRow SourcePayment)

abbrev MirrorWrite := Write Int String Cell

/-- The columns that `_PAYMENT_UPDATE_SQL` sets. -/
def paymentChange (row : PaymentRow) : MirrorChange := fun c =>
  if c = "Total_Payments" then some (.float (rounded row.totalPayments))
  else if c = "ClassValue" then some (.float (rounded row.classValue))
  else if c = "ClassFeesPaid" then some (.float (rounded row.classFeesPaid))
  else if c = "PaymentBalance" then some (.float (rounded row.paymentBalance))
  else none

def patchPayments (env : PaymentEnv) :
    List PaymentRow → PlanCounts → Mirror → Except PaymentError (PlanCounts × Mirror)
  | [], counts, mirror => .ok (counts, mirror)
  | row :: rows, counts, mirror =>
    match row.student with
    | none => patchPayments env rows ⟨counts.updated, counts.skipped + 1⟩ mirror
    | some userId =>
      if env.accepts userId row then
        if (mirror userId).isSome then
          patchPayments env rows ⟨counts.updated + 1, counts.skipped⟩
            (Scripts.update mirror userId (paymentChange row))
        else patchPayments env rows ⟨counts.updated, counts.skipped + 1⟩ mirror
      else .error .dbapi

def syncMirrorPayments (env : PaymentEnv) (fetched : Except String (List SourcePayment))
    (mirror : Mirror) : Except PaymentError (Payment.SyncResult × Mirror) :=
  match checkError fetched with
  | .error error => .ok (.failed error, mirror)
  | .ok sources => do
    let (counts, mirror) ← patchPayments env (sources.map (·.select env)) ⟨0, 0⟩ mirror
    return (.ok sources.length counts.updated counts.skipped, mirror)

def columnName : MirrorColumn → String
  | .userId => "UserID"
  | .firstName => "FirstName"
  | .lastName => "LastName"
  | .email => "Email"
  | .phoneNumber => "PhoneNumber"
  | .pathName => "PathName"
  | .hwsBehind => "HWsBehind"
  | .avgEffRating => "AvgEffRating"
  | .lastActivityDays => "LastActivityDays"
  | .attendancePercentage => "AttendancePercentage"
  | .currentSection => "CurrentSection"
  | .ipbcStartDate => "IPBCStartDate"
  | .past10DaysLogon => "Past10DaysLogon"
  | .totalPayments => "Total_Payments"
  | .totalCredits => "Total_Credits"
  | .paymentBalance => "PaymentBalance"
  | .classValue => "ClassValue"
  | .feePaid => "FeePaid"
  | .classFeesPaid => "ClassFeesPaid"
  | .className => "ClassName"
  | .classSignupsId => "ClassSignupsID"
  | .activeStatus => "ActiveStatus"
  | .statusI => "StatusI"
  | .statusII => "StatusII"
  | .studentStartDate => "StudentStartDate"
  | .classStartDate => "ClassStartDate"
  | .lastActivitySection => "LastActivitySection"
  | .lastLoginDays => "LastLoginDays"
  | .lastSubmitted => "LastSubmitted"

def columnOf (c : String) : Option MirrorColumn :=
  Capture.mirrorCols.find? fun col => columnName col = c

def rowOf (student : StudentTriggerData) : String → Cell := fun c =>
  match columnOf c with
  | some .userId => .null
  | some col => student.cell student.userId col
  | none =>
    if c = "plan_name" then .ofOption .text student.planName
    else if c = "down_payment_amt" then .ofOption .float student.downPaymentAmt
    else .null

def mirrorOf (students : Table StudentTriggerData (·.userId)) : Mirror := fun userId =>
  (students.find? userId).map rowOf

theorem columnOf_eq_some (h : columnOf c = some col) : columnName col = c := by
  rw [columnOf] at h
  have hfound := List.find?_some h
  exact of_decide_eq_true hfound

theorem columnOf_columnName (col : MirrorColumn) : columnOf (columnName col) = some col := by
  cases col <;> rfl

theorem rowOf_patch (row : PaymentRow) (student : StudentTriggerData) :
    rowOf (row.patch student) = Change.apply (paymentChange row) (rowOf student) := by
  funext c
  rw [Change.apply]
  cases hcolumn : columnOf c with
  | none =>
    have hother : ∀ col : MirrorColumn, c ≠ columnName col := by
      rintro col rfl
      rw [columnOf_columnName] at hcolumn
      cases hcolumn
    have hnone : paymentChange row c = none := by
      refine (if_neg (hother .totalPayments)).trans ((if_neg (hother .classValue)).trans ?_)
      exact (if_neg (hother .classFeesPaid)).trans (if_neg (hother .paymentBalance))
    rw [hnone, rowOf, rowOf, hcolumn]
    rfl
  | some col =>
    obtain rfl := columnOf_eq_some hcolumn
    rw [rowOf, rowOf, columnOf_columnName]
    cases col <;> rfl

theorem mirrorOf_update (students : Table StudentTriggerData (·.userId)) (userId : Int)
    (row : PaymentRow) :
    mirrorOf (students.update userId row.patch fun _ => rfl) =
      Scripts.update (mirrorOf students) userId (paymentChange row) := by
  funext u
  rw [Scripts.update, mirrorOf, mirrorOf]
  split_ifs with hu
  · subst hu
    have hself := Table.find?_update_self students u row.patch fun _ => rfl
    refine (congrArg (Option.map rowOf) hself).trans ?_
    rw [Option.map_map, Option.map_map]
    congr 1
    funext student
    exact rowOf_patch row student
  · exact congrArg (Option.map rowOf) (Table.find?_update_of_ne students hu row.patch fun _ => rfl)

/-- A row does to the mirror of the table what it does to the table. -/
theorem patchPayments_cons (env : PaymentEnv) (state : Payment.Syncing) (row : PaymentRow)
    (rows : List PaymentRow) :
    patchPayments env (row :: rows) ⟨state.updated, state.skipped⟩ (mirrorOf state.triggerdata) =
      if row.taken env then
        let state := Payment.patchPayment state row
        patchPayments env rows ⟨state.updated, state.skipped⟩ (mirrorOf state.triggerdata)
      else .error .dbapi := by
  rw [patchPayments, PaymentRow.taken, Payment.patchPayment]
  cases row.student with
  | none => rfl
  | some userId =>
    have hrow : (mirrorOf state.triggerdata userId).isSome =
        (state.triggerdata.find? userId).isSome := Option.isSome_map
    dsimp only [Option.all_some]
    rw [hrow]
    by_cases hmirrored : (state.triggerdata.find? userId).isSome = true
    · rw [if_pos hmirrored, if_pos hmirrored]
      dsimp only
      rw [mirrorOf_update]
    · rw [if_neg hmirrored, if_neg hmirrored]

theorem patchPayments_mirrorOf (env : PaymentEnv) (rows : List PaymentRow)
    (state : Payment.Syncing) :
    patchPayments env rows ⟨state.updated, state.skipped⟩ (mirrorOf state.triggerdata) =
      (rows.foldlM (Payment.syncPayment env) state).map fun final =>
        (⟨final.updated, final.skipped⟩, mirrorOf final.triggerdata) := by
  induction rows generalizing state with
  | nil => rfl
  | cons row rows ih =>
    rw [patchPayments_cons, List.foldlM_cons, Payment.syncPayment]
    cases row.taken env with
    | false => rfl
    | true => exact ih (Payment.patchPayment state row)

/-- The payment sync of the table of students is that of its mirror. -/
theorem syncPayments_mirrorOf (env : PaymentEnv) (fetched : Except String (List SourcePayment))
    (platform : Platform) :
    match Payment.syncPayments env fetched platform with
    | (synced, .ok result) =>
      syncMirrorPayments env fetched (mirrorOf platform.triggerdata) =
        .ok (result, mirrorOf synced.triggerdata)
    | (synced, .error e) =>
      syncMirrorPayments env fetched (mirrorOf platform.triggerdata) = .error e ∧
        synced = platform := by
  rw [Payment.syncPayments, syncMirrorPayments]
  cases checkError fetched with
  | error message => rfl
  | ok sources =>
    have hloop := patchPayments_mirrorOf env (sources.map (·.select env))
      { triggerdata := platform.triggerdata }
    dsimp only at hloop ⊢
    rw [hloop]
    cases (sources.map (·.select env)).foldlM (Payment.syncPayment env)
      { triggerdata := platform.triggerdata } with
    | error e => exact ⟨rfl, rfl⟩
    | ok final => rfl

structure Env where
  driver : Driver
  payments : PaymentEnv
  plans : PlanEnv
  activity : CampaignSync.SyncEnv

/-- What the fetches of a request give, and the time. -/
structure Sources where
  now : Instant
  mssql : Except String (List SourceRow)
  ipbc : Except String (List SourceRow)
  payments : Except String (List SourcePayment)
  planRows : Except String (List SourceRow)
  planStudents : Except String (List SourceRow)
  mentorship : Except String (List SourceRow)
  events : Except String (List SourceRow)
  call : CampaignSync.Call

inductive Raised
  | sync (e : SyncError)
  | payment (e : PaymentError)
  | plan (e : PlanError)
  | campaign (e : CampaignSync.Raised)

/-- The tables that the syncs write. -/
structure State (τ : Type) where
  tables : MirrorTables
  campaign : CampaignSync.Database τ

inductive Stage
  | mssql
  | ipbc
  | payments
  | plans
  | mentorship
  | campaign
  deriving DecidableEq

/-- A sync commits at its end, so what it has not committed when it raises is lost. -/
def Stage.run (env : Env) (sources : Sources) (state : State τ) :
    Stage → Except Raised Unit × State τ
  | .mssql =>
    match syncFromMssql env.driver sources.mssql state.tables.mirror with
    | .error e => (.error (.sync e), state)
    | .ok (mirror, _) => (.ok (), { state with tables := { state.tables with mirror := mirror } })
  | .ipbc =>
    match syncIpbcStudents env.driver sources.now sources.ipbc state.tables with
    | .error e => (.error (.sync e), state)
    | .ok tables => (.ok (), { state with tables := tables })
  | .payments =>
    match syncMirrorPayments env.payments sources.payments state.tables.mirror with
    | .error e => (.error (.payment e), state)
    | .ok (_, mirror) => (.ok (), { state with tables := { state.tables with mirror := mirror } })
  | .plans =>
    match syncIpbcPaymentPlans env.plans sources.planRows sources.planStudents
      state.tables.mirror with
    | .error e => (.error (.plan e), state)
    | .ok (_, mirror) => (.ok (), { state with tables := { state.tables with mirror := mirror } })
  | .mentorship =>
    match syncMentorshipAssignments env.driver sources.now sources.mentorship
      state.tables.assignments with
    | .error e => (.error (.sync e), state)
    | .ok (assignments, _) =>
      (.ok (), { state with tables := { state.tables with assignments := assignments } })
  | .campaign =>
    match withSession (CampaignSync.syncCampaignActivity env.activity sources.call sources.events)
      state.campaign with
    | (.error e, db) => (.error (.campaign e), { state with campaign := db })
    | (.ok _, db) => (.ok (), { state with campaign := db })

/-- One sync after the other, until one raises. -/
def runStages (env : Env) (sources : Sources) : List Stage → State τ → Except Raised Unit × State τ
  | [], state => (.ok (), state)
  | stage :: stages, state =>
    match stage.run env sources state with
    | (.error e, state) => (.error e, state)
    | (.ok _, state) => runStages env sources stages state

/-- `run_daily_mssql_sync`, the syncs of `run_pipeline`, and the endpoints with one sync each. -/
inductive Operation
  | runDailyMssqlSync
  | runPipeline
  | manual (stage : Stage)

def Operation.stages : Operation → List Stage
  | .runDailyMssqlSync => [.mssql, .ipbc, .payments, .campaign]
  | .runPipeline => [.mssql, .ipbc, .payments, .plans]
  | .manual stage => [stage]

structure Request where
  env : Env
  sources : Sources
  operation : Operation

def respond (state : State τ) (request : Request) : Except Raised Unit × State τ :=
  runStages request.env request.sources request.operation.stages state

def serve (state : State τ) (request : Request) : State τ := (respond state request).2

/-- What is written to the mirror and to the assignments. -/
structure Log where
  mirror : List MirrorWrite := []
  assignments : List MirrorWrite := []

def Log.append (log log' : Log) : Log :=
  ⟨log.mirror ++ log'.mirror, log.assignments ++ log'.assignments⟩

def Log.replay (log : Log) (tables : MirrorTables) : MirrorTables :=
  ⟨Scripts.replay blankRow tables.mirror log.mirror,
    Scripts.replay blankRow tables.assignments log.assignments⟩

def paymentWrites (rows : List PaymentRow) : List MirrorWrite :=
  rows.filterMap fun row => row.student.map fun userId => .update userId (paymentChange row)

/-- The columns that `_PLAN_UPDATE_SQL` sets. -/
def planChange (patch : Patch) : MirrorChange := fun c =>
  if c = "plan_name" then some (.ofOption .text patch.planName)
  else if c = "down_payment_amt" then some (.float patch.downPaymentAmt)
  else none

/-- The updates of a plan sync, whether they find their row or not. -/
def collectPlans (statement : SourceRow → Except PlanError (Option (Int × Patch))) :
    List SourceRow → Except PlanError (List MirrorWrite)
  | [] => .ok []
  | student :: students => do
    let entry ← statement student
    let rest ← collectPlans statement students
    .ok ((entry.map fun (uid, patch) => .update uid (planChange patch)).toList ++ rest)

def planWrites (env : PlanEnv) (planRows studentRows : Except String (List SourceRow)) :
    Except PlanError (List MirrorWrite) :=
  match checkError planRows, checkError studentRows with
  | .error _, _ => .ok []
  | _, .error _ => .ok []
  | .ok [], .ok _ => .ok []
  | .ok (row :: rest), .ok students => do
    let planRows := row :: rest
    let hasEmail := hasEmail env planRows
    let hasName := hasName env planRows
    let lookups ← buildLookups env hasEmail hasName planRows ⟨[], []⟩
    if !hasEmail && !hasName then .ok []
    else collectPlans (planStatement env hasEmail hasName lookups) students

/-- The statements of one upserting sync. -/
def upsertWrites (prepare : SourceRow → Except SyncError (Option (Int × MirrorChange)))
    (fetched : Except String (List SourceRow)) : Except SyncError (List MirrorWrite) :=
  match checkError fetched with
  | .error _ => .ok []
  | .ok rows => do
    let changes ← collect prepare rows
    .ok (upserts changes)

/-- The empty text of an error leaves no rows to write. -/
theorem upsertWrites_error (prepare : SourceRow → Except SyncError (Option (Int × MirrorChange)))
    (message : String) : upsertWrites prepare (.error message) = .ok [] := by
  rw [upsertWrites, checkError]
  split_ifs <;> rfl

/-- What a sync commits, whatever the tables hold; it raises if the sync does. -/
def Stage.log (env : Env) (sources : Sources) : Stage → Except Raised Log
  | .mssql =>
    match upsertWrites (mssqlStatement env.driver) sources.mssql with
    | .error e => .error (.sync e)
    | .ok ws => .ok { mirror := ws }
  | .ipbc =>
    match upsertWrites (ipbcStatement env.driver) sources.ipbc,
      upsertWrites (ipbcMentorStatement env.driver sources.now) sources.ipbc with
    | .ok students, .ok mentors => .ok ⟨students, mentors⟩
    | .error e, _ => .error (.sync e)
    | _, .error e => .error (.sync e)
  | .payments =>
    match checkError sources.payments with
    | .error _ => .ok {}
    | .ok sources =>
      let rows := sources.map (·.select env.payments)
      if rows.all (·.taken env.payments) then .ok { mirror := paymentWrites rows }
      else .error (.payment .dbapi)
  | .plans =>
    match planWrites env.plans sources.planRows sources.planStudents with
    | .error e => .error (.plan e)
    | .ok ws => .ok { mirror := ws }
  | .mentorship =>
    match upsertWrites (mentorshipStatement env.driver sources.now) sources.mentorship with
    | .error e => .error (.sync e)
    | .ok ws => .ok { assignments := ws }
  | .campaign => .ok {}

def stagesLog (env : Env) (sources : Sources) : List Stage → Log
  | [] => {}
  | stage :: stages =>
    match stage.log env sources with
    | .error _ => {}
    | .ok log => log.append (stagesLog env sources stages)

def committed (request : Request) : Log :=
  stagesLog request.env request.sources request.operation.stages

def committedRun : List Request → Log
  | [] => {}
  | request :: requests => (committed request).append (committedRun requests)

theorem Log.append_replay (log log' : Log) (tables : MirrorTables) :
    (log.append log').replay tables = log'.replay (log.replay tables) := by
  simp only [Log.replay, Log.append, replay_append]

theorem patchPayments_mirror (env : PaymentEnv) (rows : List PaymentRow) (counts : PlanCounts)
    (mirror : Mirror) :
    (patchPayments env rows counts mirror).map Prod.snd =
      if rows.all (·.taken env) then .ok (replay blankRow mirror (paymentWrites rows))
      else .error .dbapi := by
  induction rows generalizing counts mirror with
  | nil => rfl
  | cons row rows ih =>
    rw [patchPayments, List.all_cons, PaymentRow.taken]
    cases huser : row.student with
    | none =>
      have hwrites : paymentWrites (row :: rows) = paymentWrites rows := by
        rw [paymentWrites, List.filterMap_cons_none (by rw [huser]; rfl)]
        rfl
      rw [hwrites]
      exact ih _ mirror
    | some userId =>
      have hwrites : paymentWrites (row :: rows) =
          .update userId (paymentChange row) :: paymentWrites rows := by
        rw [paymentWrites, List.filterMap_cons_some (by rw [huser]; rfl)]
        rfl
      rw [hwrites, replay, Write.apply]
      by_cases haccepts : env.accepts userId row = true
      · simp only [haccepts, Option.all_some, Bool.true_and, if_true]
        by_cases hrow : (mirror userId).isSome = true
        · rw [if_pos hrow]
          exact ih _ _
        · rw [if_neg hrow, update_absent (Option.not_isSome_iff_eq_none.1 hrow)]
          exact ih _ mirror
      · simp only [haccepts, Option.all_some, Bool.false_and, Bool.false_eq_true, if_false]
        rfl

theorem updatePlan_eq (mirror : Mirror) (uid : Int) (patch : Patch) :
    updatePlan mirror uid patch = Scripts.update mirror uid (planChange patch) := by
  funext u
  rw [updatePlan, Scripts.update]
  split_ifs
  · congr 1
    funext row c
    rw [Patch.apply, Change.apply, planChange]
    split_ifs <;> rfl
  · rfl

theorem patchStudents_mirror {statement : SourceRow → Except PlanError (Option (Int × Patch))}
    (students : List SourceRow) (counts : PlanCounts) (mirror : Mirror) :
    (patchStudents statement students counts mirror).map Prod.snd =
      (collectPlans statement students).map (replay blankRow mirror) := by
  induction students generalizing counts mirror with
  | nil => rfl
  | cons student students ih =>
    rw [patchStudents, collectPlans]
    cases statement student with
    | error e => rfl
    | ok entry =>
      cases entry with
      | none =>
        refine (ih _ mirror).trans ?_
        cases collectPlans statement students <;> rfl
      | some entry =>
        obtain ⟨uid, patch⟩ := entry
        dsimp only [bind, Except.bind, Option.map, Option.toList]
        by_cases hrow : (mirror uid).isSome = true
        · rw [if_pos hrow, ih, updatePlan_eq]
          cases collectPlans statement students <;> rfl
        · rw [if_neg hrow, ih]
          cases collectPlans statement students with
          | error e => rfl
          | ok ws =>
            have hnone := update_absent (Option.not_isSome_iff_eq_none.1 hrow) (planChange patch)
            refine congrArg Except.ok ?_
            rw [List.singleton_append, replay, Write.apply, hnone]

/-- A sync raises exactly when one of its statements does. -/
theorem syncLoop_cases (prepare : SourceRow → Except SyncError (Option (Int × MirrorChange)))
    (rows : List SourceRow) (store : Store Int String Cell) (count : Nat) :
    (∃ e e', collect prepare rows = .error e ∧ syncLoop prepare rows store count = .error e') ∨
      ∃ changes, collect prepare rows = .ok changes ∧
        syncLoop prepare rows store count =
          .ok (replay blankRow store (upserts changes), count + changes.length) := by
  cases hcollect : collect prepare rows with
  | error e =>
    cases hloop : syncLoop prepare rows store count with
    | error e' => exact .inl ⟨e, e', rfl, rfl⟩
    | ok result =>
      obtain ⟨changes, hchanges, -⟩ := syncLoop_eq_ok.1 hloop
      rw [hcollect] at hchanges
      cases hchanges
  | ok changes =>
    refine .inr ⟨changes, rfl, ?_⟩
    rw [replay_upserts]
    exact syncLoop_eq_ok.2 ⟨changes, hcollect, rfl, rfl⟩

theorem ipbcLoop_cases (driver : Driver) (now : Instant) (rows : List SourceRow)
    (tables : MirrorTables) :
    (∃ e, (collect (ipbcStatement driver) rows = .error e ∨
        collect (ipbcMentorStatement driver now) rows = .error e) ∧
      ∃ e', ipbcLoop driver now rows tables = .error e') ∨
      ∃ students mentors, collect (ipbcStatement driver) rows = .ok students ∧
        collect (ipbcMentorStatement driver now) rows = .ok mentors ∧
        ipbcLoop driver now rows tables =
          .ok ((⟨upserts students, upserts mentors⟩ : Log).replay tables) := by
  cases hloop : ipbcLoop driver now rows tables with
  | error e' =>
    left
    cases hstudents : collect (ipbcStatement driver) rows with
    | error e => exact ⟨e, .inl rfl, e', rfl⟩
    | ok students =>
      cases hmentors : collect (ipbcMentorStatement driver now) rows with
      | error e => exact ⟨e, .inr rfl, e', rfl⟩
      | ok mentors =>
        have hok : ipbcLoop driver now rows tables = .ok ⟨batch blankRow tables.mirror students,
            batch blankRow tables.assignments mentors⟩ :=
          ipbcLoop_eq_ok.2 ⟨students, mentors, hstudents, hmentors, rfl⟩
        rw [hloop] at hok
        cases hok
  | ok tables' =>
    obtain ⟨students, mentors, hstudents, hmentors, rfl⟩ := ipbcLoop_eq_ok.1 hloop
    refine .inr ⟨students, mentors, hstudents, hmentors, ?_⟩
    rw [Log.replay, replay_upserts, replay_upserts]

/-- What a sync of the students or of the mentors does: it raises and leaves the tables as they are,
or it replays its log. -/
def Follows (env : Env) (sources : Sources) (state : State τ) (stage : Stage) : Prop :=
  match stage.log env sources with
  | .error _ => ∃ e, stage.run env sources state = (.error e, state)
  | .ok log =>
    stage.run env sources state = (.ok (), { state with tables := log.replay state.tables })

theorem mssql_follows (env : Env) (sources : Sources) (state : State τ) :
    Follows env sources state .mssql := by
  rw [Follows, Stage.log, Stage.run, upsertWrites.eq_def, syncFromMssql.eq_def]
  cases checkError sources.mssql with
  | error e => rfl
  | ok rows =>
    dsimp only
    rcases syncLoop_cases (mssqlStatement env.driver) rows state.tables.mirror 0 with
      ⟨e, e', hcollect, hloop⟩ | ⟨changes, hcollect, hloop⟩
    · rw [hcollect, hloop]
      exact ⟨_, rfl⟩
    · rw [hcollect, hloop]
      rfl

theorem ipbc_follows (env : Env) (sources : Sources) (state : State τ) :
    Follows env sources state .ipbc := by
  rw [Follows, Stage.log, Stage.run, upsertWrites.eq_def, upsertWrites.eq_def,
    syncIpbcStudents.eq_def]
  cases checkError sources.ipbc with
  | error e => rfl
  | ok rows =>
    dsimp only
    rcases ipbcLoop_cases env.driver sources.now rows state.tables with
      ⟨e, hcollect, e', hloop⟩ | ⟨students, mentors, hstudents, hmentors, hloop⟩
    · rw [hloop]
      rcases hcollect with hstudents | hmentors
      · rw [hstudents]
        exact ⟨_, rfl⟩
      · rw [hmentors]
        cases collect (ipbcStatement env.driver) rows <;> exact ⟨_, rfl⟩
    · rw [hstudents, hmentors, hloop]
      rfl

theorem payments_follows (env : Env) (sources : Sources) (state : State τ) :
    Follows env sources state .payments := by
  rw [Follows, Stage.log, Stage.run, syncMirrorPayments]
  cases checkError sources.payments with
  | error e => rfl
  | ok sources =>
    have hmirror := patchPayments_mirror env.payments (sources.map (·.select env.payments)) ⟨0, 0⟩
      state.tables.mirror
    dsimp only
    split_ifs at hmirror ⊢
    · obtain ⟨⟨counts, mirror⟩, hpatched, hreplay⟩ := map_eq_ok.1 hmirror
      rw [hpatched]
      obtain rfl : mirror = _ := hreplay
      rfl
    · cases hpatched : patchPayments env.payments (sources.map (·.select env.payments)) ⟨0, 0⟩
        state.tables.mirror with
      | error e => exact ⟨_, rfl⟩
      | ok patched =>
        rw [hpatched] at hmirror
        cases hmirror

theorem mentorship_follows (env : Env) (sources : Sources) (state : State τ) :
    Follows env sources state .mentorship := by
  rw [Follows, Stage.log, Stage.run, upsertWrites.eq_def, syncMentorshipAssignments.eq_def]
  cases checkError sources.mentorship with
  | error e => rfl
  | ok rows =>
    dsimp only
    rcases syncLoop_cases (mentorshipStatement env.driver sources.now) rows
      state.tables.assignments 0 with ⟨e, e', hcollect, hloop⟩ | ⟨changes, hcollect, hloop⟩
    · rw [hcollect, hloop]
      exact ⟨_, rfl⟩
    · rw [hcollect, hloop]
      rfl

theorem syncIpbcPaymentPlans_mirror (env : PlanEnv)
    (planRows studentRows : Except String (List SourceRow)) (mirror : Mirror) :
    (syncIpbcPaymentPlans env planRows studentRows mirror).map Prod.snd =
      (planWrites env planRows studentRows).map (replay blankRow mirror) := by
  rw [syncIpbcPaymentPlans, planWrites]
  cases checkError planRows with
  | error e => rfl
  | ok rows =>
    cases checkError studentRows with
    | error e =>
      cases rows <;> rfl
    | ok students =>
      cases rows with
      | nil => rfl
      | cons row rest =>
        dsimp only
        cases buildLookups env (hasEmail env (row :: rest)) (hasName env (row :: rest))
          (row :: rest) ⟨[], []⟩ with
        | error e => rfl
        | ok lookups =>
          dsimp only [bind, Except.bind]
          split_ifs
          · rfl
          · rw [← patchStudents_mirror students ⟨0, 0⟩ mirror]
            cases patchStudents (planStatement env (hasEmail env (row :: rest))
              (hasName env (row :: rest)) lookups) students ⟨0, 0⟩ mirror <;> rfl

theorem plans_follows (env : Env) (sources : Sources) (state : State τ) :
    Follows env sources state .plans := by
  have hmirror := syncIpbcPaymentPlans_mirror env.plans sources.planRows sources.planStudents
    state.tables.mirror
  rw [Follows, Stage.log, Stage.run]
  cases hwrites : planWrites env.plans sources.planRows sources.planStudents with
  | error e =>
    rw [hwrites] at hmirror
    cases hsync : syncIpbcPaymentPlans env.plans sources.planRows sources.planStudents
      state.tables.mirror with
    | error e' => exact ⟨_, rfl⟩
    | ok result =>
      rw [hsync] at hmirror
      cases hmirror
  | ok ws =>
    rw [hwrites] at hmirror
    cases hsync : syncIpbcPaymentPlans env.plans sources.planRows sources.planStudents
      state.tables.mirror with
    | error e' =>
      rw [hsync] at hmirror
      cases hmirror
    | ok result =>
      rw [hsync] at hmirror
      obtain ⟨answer, mirror⟩ := result
      obtain rfl : mirror = replay blankRow state.tables.mirror ws := Except.ok.inj hmirror
      rfl

theorem stage_follows (env : Env) (sources : Sources) (state : State τ) {stage : Stage}
    (h : stage ≠ .campaign) : Follows env sources state stage := by
  cases stage with
  | mssql => exact mssql_follows env sources state
  | ipbc => exact ipbc_follows env sources state
  | payments => exact payments_follows env sources state
  | plans => exact plans_follows env sources state
  | mentorship => exact mentorship_follows env sources state
  | campaign => exact absurd rfl h

theorem campaign_tables (env : Env) (sources : Sources) (state : State τ) :
    (Stage.campaign.run env sources state).2.tables = state.tables := by
  rw [Stage.run]
  cases withSession (CampaignSync.syncCampaignActivity env.activity sources.call sources.events)
    state.campaign with
  | mk result db => cases result <;> rfl

theorem campaign_alone (env : Env) (sources : Sources) (state : State τ) :
    (runStages env sources [.campaign] state).2.tables = state.tables := by
  have htables := campaign_tables env sources state
  rw [runStages]
  cases hrun : Stage.campaign.run env sources state with
  | mk result state' =>
    rw [hrun] at htables
    cases result with
    | error e => exact htables
    | ok _ => exact htables

def CampaignLast : List Stage → Prop
  | [] => True
  | [_] => True
  | stage :: stages => stage ≠ .campaign ∧ CampaignLast stages

theorem runStages_tables (env : Env) (sources : Sources) {stages : List Stage}
    (h : CampaignLast stages) (state : State τ) :
    (runStages env sources stages state).2.tables =
      (stagesLog env sources stages).replay state.tables := by
  induction stages generalizing state with
  | nil => rfl
  | cons stage stages ih =>
    by_cases hcampaign : stage = .campaign
    · subst hcampaign
      cases stages with
      | nil =>
        rw [campaign_alone]
        rfl
      | cons stage' stages => exact absurd rfl h.1
    · have hrest : CampaignLast stages := by
        cases stages with
        | nil => trivial
        | cons stage' stages => exact h.2
      have hfollows := stage_follows env sources state hcampaign
      rw [Follows] at hfollows
      rw [runStages, stagesLog]
      cases hlog : stage.log env sources with
      | error e =>
        rw [hlog] at hfollows
        obtain ⟨e', hrun⟩ := hfollows
        rw [hrun]
        rfl
      | ok log =>
        rw [hlog] at hfollows
        rw [hfollows]
        dsimp only
        rw [ih hrest, Log.append_replay]

theorem campaignLast_stages (operation : Operation) : CampaignLast operation.stages := by
  cases operation with
  | runDailyMssqlSync => exact ⟨by decide, by decide, by decide, trivial⟩
  | runPipeline => exact ⟨by decide, by decide, by decide, trivial⟩
  | manual stage => trivial

theorem serve_tables (state : State τ) (request : Request) :
    (serve state request).tables = (committed request).replay state.tables :=
  runStages_tables request.env request.sources (campaignLast_stages request.operation) state

theorem run_tables (requests : List Request) (state : State τ) :
    (Runs.final serve state requests).tables = (committedRun requests).replay state.tables := by
  induction requests generalizing state with
  | nil => rfl
  | cons request requests ih =>
    rw [Runs.final_cons, ih, serve_tables, committedRun, Log.append_replay]

def noStudents : MirrorTables := ⟨fun _ => none, fun _ => none⟩

/-- What a log of writes leaves in an empty table. -/
def lastWritten (ws : List MirrorWrite) : Store Int String Cell := fun userId =>
  if userId ∈ made ws then
    some fun c => (lastSet userId c ((since userId ws).map Write.entry)).getD .null
  else none

/-- After every run of the daily job, the pipeline's syncs and the single syncs, raising ones
included, the mirror and the mentor assignments hold in each column what was committed last to it
since the row was made. -/
theorem mirror_last_written (campaign : CampaignSync.Database τ) (requests : List Request) :
    let tables := (Runs.final serve ⟨noStudents, campaign⟩ requests).tables
    tables.mirror = lastWritten (committedRun requests).mirror ∧
      tables.assignments = lastWritten (committedRun requests).assignments := by
  intro tables
  have htables : tables = (committedRun requests).replay noStudents := run_tables requests _
  rw [htables]
  constructor
  · funext userId
    exact replay_absent rfl
  · funext userId
    exact replay_absent rfl

end MirrorPipeline
end StudentSuccess
