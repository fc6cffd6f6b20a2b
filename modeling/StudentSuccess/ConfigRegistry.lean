import StudentSuccess.Bootstrap
import StudentSuccess.Models
import StudentSuccess.Runs
import Mathlib.Data.List.Pairwise

namespace StudentSuccess
namespace ConfigRegistry
set_option autoImplicit true
open Table (Scan)

/-- The values of the rules, sections 12.1 to 12.6. -/
structure RuleColumns where
  capHopefulMinPercomp : Rat
  launchHopefulMinPercomp : Rat
  capSectionExclusionPatternsJson : List String
  launchSectionInclusionPattern : String
  placementSectionInclusionPattern : String
  hwAtRiskMinBehind : Int
  hwAtRiskMaxEffRating : Rat
  hwCriticalMinBehind : Int
  hwCriticalMaxEffRating : Rat
  paymentMediumThreshold : Rat
  paymentHighThreshold : Rat
  paymentDeviationAlertThreshold : Option Rat
  priorityHwWeight : Rat
  priorityHwCap : Rat
  priorityEffWeight : Rat
  priorityEffCap : Rat
  priorityInactivityWeight : Rat
  priorityInactivityCap : Rat
  aiInsightTtlHours : Int
  outreachRetryWindowDays : Int
  placementInactivityAlertDays : Int
  accessRevocationAlertHours : Int
  aiLlmProvider : String
  outreachProvider : String

structure ConfigVersion where
  id : Int
  versionNumber : Int
  status : String
  priorVersionId : Option Int
  supersededByVersionId : Option Int
  effectiveFrom : Option Instant
  activatedAt : Option Instant
  activatedBy : Option String
  deactivatedAt : Option Instant
  proposedBy : Option String
  approvedBy : Option String
  approvalTimestamp : Option Instant
  changeRationale : Option String
  governanceNotes : Option String
  rules : RuleColumns
  ruleSetSnapshotJson : Option Py.Value
  createdAt : Instant

def statuses : List String :=
  ["PROPOSED", "UNDER_REVIEW", "APPROVED", "ACTIVE", "ARCHIVED", "SUPERSEDED"]

def active (r : ConfigVersion) : Bool := r.status = "ACTIVE"

/-- `chk_cvr_status` and `chk_cvr_version_positive`. -/
def Checks (r : ConfigVersion) : Prop := r.status ∈ statuses ∧ 0 < r.versionNumber

instance : DecidablePred Checks := fun _ => inferInstanceAs (Decidable (_ ∧ _))

/-- The primary key, `uq_cvr_version_number` and `uq_cvr_active_singleton` let both rows in. -/
def Distinct (r r' : ConfigVersion) : Prop :=
  r.id ≠ r'.id ∧ r.versionNumber ≠ r'.versionNumber ∧ ¬ (active r = true ∧ active r' = true)

instance : DecidableRel Distinct := fun _ _ => inferInstanceAs (Decidable (_ ∧ _))

/-- `fk_cvr_prior_version` and `fk_cvr_superseded_by`, for one row. -/
def Refers (rows : List ConfigVersion) (r : ConfigVersion) : Prop :=
  (∀ p ∈ r.priorVersionId, p ∈ rows.map (·.id)) ∧
    ∀ p ∈ r.supersededByVersionId, p ∈ rows.map (·.id)

instance (rows : List ConfigVersion) : DecidablePred (Refers rows) :=
  fun _ => inferInstanceAs (Decidable (_ ∧ _))

structure Constraints (rows : List ConfigVersion) : Prop where
  checks : ∀ r ∈ rows, Checks r
  distinct : rows.Pairwise Distinct
  refers : ∀ r ∈ rows, Refers rows r

structure Registry where
  rows : List ConfigVersion
  constraints : Constraints rows

inductive Role
  | appServiceUser
  | finalizationServiceUser
  | configAdminUser
  deriving DecidableEq, Repr

inductive Privilege
  | select
  | insert
  | update (column : String)
  | delete
  deriving DecidableEq

def grants : Role → List Privilege
  | .appServiceUser => [.select]
  | .finalizationServiceUser => [.select]
  | .configAdminUser =>
    [.select, .insert, .update "status", .update "superseded_by_version_id",
      .update "deactivated_at"]

/-- What an `UPDATE` sets of the governance metadata, computed from the row, and the other columns
that it names. -/
structure SetClause where
  status : Option (ConfigVersion → String) := none
  supersededByVersionId : Option (ConfigVersion → Option Int) := none
  deactivatedAt : Option (ConfigVersion → Option Instant) := none
  others : List String := []

def SetClause.columns (set : SetClause) : List String :=
  (if set.status.isSome then ["status"] else []) ++
    (if set.supersededByVersionId.isSome then ["superseded_by_version_id"] else []) ++
    (if set.deactivatedAt.isSome then ["deactivated_at"] else []) ++ set.others

def SetClause.apply (set : SetClause) (r : ConfigVersion) : ConfigVersion :=
  { r with
    status := set.status.getD (·.status) r
    supersededByVersionId := set.supersededByVersionId.getD (·.supersededByVersionId) r
    deactivatedAt := set.deactivatedAt.getD (·.deactivatedAt) r }

inductive Statement
  | select
  | insert (rows : List ConfigVersion)
  | update (set : SetClause) (filter : ConfigVersion → Bool) (scan : Scan ConfigVersion)
  | delete (filter : ConfigVersion → Bool)

inductive DbError
  | permissionDenied
  | dataException
  | checkViolation
  | uniqueViolation
  | foreignKeyViolation
  deriving DecidableEq, Repr

/-- The privileges that the statement needs. -/
def Statement.needs : Statement → List Privilege
  | .select => [.select]
  | .insert _ => [.insert]
  | .update set _ _ => set.columns.map .update
  | .delete _ => [.delete]

/-- The checks and the unique indexes as one row is written; they do not wait. -/
def writeRow (others : List ConfigVersion) (r : ConfigVersion) : Except DbError Unit :=
  if Checks r then
    if ∀ r' ∈ others, Distinct r' r then .ok () else .error .uniqueViolation
  else .error .checkViolation

def except (rows : List ConfigVersion) (id : Int) : List ConfigVersion :=
  rows.filter fun r => r.id ≠ id

def setRow (set : SetClause) (rows : List ConfigVersion) (id : Int) : List ConfigVersion :=
  rows.map fun r => if r.id = id then set.apply r else r

/-- One row of an `UPDATE`. -/
def updateRow (set : SetClause) (rows : List ConfigVersion) (id : Int) :
    Except DbError (List ConfigVersion) := do
  forM (rows.filter fun r => r.id = id) fun r => writeRow (except rows id) (set.apply r)
  return setRow set rows id

/-- The foreign keys at the end of a statement; they are not deferrable. -/
def endStatement (rows : List ConfigVersion) : Except DbError (List ConfigVersion) :=
  if ∀ r ∈ rows, Refers rows r then .ok rows else .error .foreignKeyViolation

section
variable (takes : ConfigVersion → Bool)

/-- The types of the columns. -/
def takeRow (row : ConfigVersion) : Except DbError Unit :=
  if takes row then .ok () else .error .dataException

def insertRow (rows : List ConfigVersion) (row : ConfigVersion) :
    Except DbError (List ConfigVersion) := do
  takeRow takes row
  writeRow rows row
  return rows ++ [row]

/-- A statement on the rows; `takes` says which rows the types of the columns take. -/
def perform (rows : List ConfigVersion) : Statement → Except DbError (List ConfigVersion)
  | .select => .ok rows
  | .insert new => do
    let rows ← new.foldlM (insertRow takes) rows
    endStatement rows
  | .update set filter scan => do
    let ids := ((scan.order rows).filter filter).map (·.id)
    let rows ← ids.foldlM (updateRow set) rows
    endStatement rows
  | .delete filter => endStatement (rows.filter fun r => !filter r)

def Statement.permitted (role : Role) (statement : Statement) : Bool :=
  statement.needs.all (· ∈ grants role)

def execute (role : Role) (rows : List ConfigVersion) (statement : Statement) :
    Except DbError (List ConfigVersion) :=
  if statement.permitted role then perform takes rows statement else .error .permissionDenied

structure Transaction where
  role : Role
  statements : List Statement

/-- The rows that the statements of a transaction leave, or the error that ends it. -/
def Transaction.body (tx : Transaction) (rows : List ConfigVersion) :
    Except DbError (List ConfigVersion) :=
  tx.statements.foldlM (execute takes tx.role) rows

end

section
variable {takes : ConfigVersion → Bool} {rows rows' : List ConfigVersion} {r r' : ConfigVersion}
  {set : SetClause} {id : Int}

theorem Distinct.symm (h : Distinct r r') : Distinct r' r :=
  ⟨h.1.symm, h.2.1.symm, fun hboth => h.2.2 hboth.symm⟩

theorem writeRow_eq_ok : writeRow rows r = .ok u ↔ Checks r ∧ ∀ r' ∈ rows, Distinct r' r := by
  rw [writeRow]
  split_ifs with hchecks hdistinct
  · exact ⟨fun _ => ⟨hchecks, hdistinct⟩, fun _ => rfl⟩
  · exact ⟨nofun, fun h => absurd h.2 hdistinct⟩
  · exact ⟨nofun, fun h => absurd h.1 hchecks⟩

theorem endStatement_eq_ok :
    endStatement rows = .ok rows' ↔ rows' = rows ∧ ∀ r ∈ rows, Refers rows r := by
  rw [endStatement]
  split_ifs with hrefers
  · exact ⟨fun h => ⟨(Except.ok.inj h).symm, hrefers⟩, fun h => h.1 ▸ rfl⟩
  · exact ⟨nofun, fun h => absurd h.2 hrefers⟩

/-- The constraints that hold while a statement runs. -/
structure Sound (rows : List ConfigVersion) : Prop where
  checks : ∀ r ∈ rows, Checks r
  distinct : rows.Pairwise Distinct

theorem Constraints.sound (h : Constraints rows) : Sound rows := ⟨h.checks, h.distinct⟩

theorem Sound.concat (h : Sound rows) (hr : Checks r) (hdistinct : ∀ r' ∈ rows, Distinct r' r) :
    Sound (rows ++ [r]) := by
  constructor
  · intro r' hr'
    rcases List.mem_append.1 hr' with hr' | hr'
    · exact h.checks r' hr'
    · rw [List.mem_singleton.1 hr']
      exact hr
  · refine List.pairwise_append.2 ⟨h.distinct, List.pairwise_singleton _ _, ?_⟩
    intro r' hr' r'' hr''
    rw [List.mem_singleton.1 hr'']
    exact hdistinct r' hr'

theorem Sound.distinct_of_ne (h : Sound rows) (hr : r ∈ rows) (hr' : r' ∈ rows) (hne : r ≠ r') :
    Distinct r r' := by
  have hsymm : Std.Symm Distinct := ⟨fun _ _ hd => hd.symm⟩
  exact h.distinct.forall hr hr' hne

theorem Sound.eq_of_id (h : Sound rows) (hr : r ∈ rows) (hr' : r' ∈ rows) (hid : r.id = r'.id) :
    r = r' := by
  by_contra hne
  exact (h.distinct_of_ne hr hr' hne).1 hid

theorem Sound.filter_id (h : Sound rows) (hr : r ∈ rows) :
    rows.filter (fun r' => r'.id = r.id) = [r] := by
  obtain ⟨before, after, rfl⟩ := List.append_of_mem hr
  obtain ⟨-, hafter, hbefore⟩ := List.pairwise_append.1 h.distinct
  have hnone : ∀ rows' : List ConfigVersion, (∀ r' ∈ rows', r'.id ≠ r.id) →
      rows'.filter (fun r' => r'.id = r.id) = [] := by
    intro rows' hne
    apply List.filter_eq_nil_iff.2
    intro r' hr'
    simpa using hne r' hr'
  rw [List.filter_append, List.filter_cons_of_pos (by simp),
    hnone before fun r' hr' => (hbefore r' hr' r (.head _)).1,
    hnone after fun r' hr' => ((List.pairwise_cons.1 hafter).1 r' hr').1.symm, List.nil_append]

theorem forM_eq_ok {f : α → Except ε Unit} {xs : List α} :
    forM xs f = .ok () ↔ ∀ x ∈ xs, f x = .ok () := by
  induction xs with
  | nil => simp [pure, Except.pure]
  | cons x xs ih =>
    rw [List.forM_cons, Py.bind_eq_ok, List.forall_mem_cons, ← ih]
    constructor
    · rintro ⟨_, hx, hxs⟩
      exact ⟨hx, hxs⟩
    · rintro ⟨hx, hxs⟩
      exact ⟨(), hx, hxs⟩

theorem takeRow_eq_ok : takeRow takes r = .ok u ↔ takes r = true := by
  rw [takeRow]
  split_ifs with htaken
  · exact ⟨fun _ => htaken, fun _ => rfl⟩
  · exact ⟨nofun, fun h => absurd h htaken⟩

theorem insertRow_eq_ok : insertRow takes rows r = .ok rows' ↔
    rows' = rows ++ [r] ∧ takes r = true ∧ Checks r ∧ ∀ r' ∈ rows, Distinct r' r := by
  rw [insertRow, Py.bind_eq_ok]
  constructor
  · rintro ⟨_, htakes, h⟩
    obtain ⟨_, hwrite, h⟩ := Py.bind_eq_ok.1 h
    exact ⟨(Except.ok.inj h).symm, takeRow_eq_ok.1 htakes, writeRow_eq_ok.1 hwrite⟩
  · rintro ⟨rfl, htakes, hwrite⟩
    exact ⟨(), takeRow_eq_ok.2 htakes, Py.bind_eq_ok.2 ⟨(), writeRow_eq_ok.2 hwrite, rfl⟩⟩

theorem insertRows_ok {new : List ConfigVersion} (h : Sound rows)
    (hinsert : new.foldlM (insertRow takes) rows = .ok rows') :
    rows' = rows ++ new ∧ Sound rows' := by
  induction new generalizing rows with
  | nil =>
    cases hinsert
    exact ⟨(List.append_nil _).symm, h⟩
  | cons r new ih =>
    rw [List.foldlM_cons] at hinsert
    obtain ⟨rows₁, hone, hrest⟩ := Py.bind_eq_ok.1 hinsert
    obtain ⟨rfl, -, hchecks, hdistinct⟩ := insertRow_eq_ok.1 hone
    obtain ⟨rfl, hsound⟩ := ih (h.concat hchecks hdistinct) hrest
    exact ⟨List.append_assoc _ _ _, hsound⟩

theorem updateRow_eq_ok : updateRow set rows id = .ok rows' ↔ rows' = setRow set rows id ∧
    ∀ r ∈ rows, r.id = id → Checks (set.apply r) ∧
      ∀ r' ∈ rows, r'.id ≠ id → Distinct r' (set.apply r) := by
  rw [updateRow, Py.bind_eq_ok]
  have hwrites : (forM (rows.filter fun r => r.id = id)
      fun r => writeRow (except rows id) (set.apply r)) = .ok () ↔
      ∀ r ∈ rows, r.id = id → Checks (set.apply r) ∧
        ∀ r' ∈ rows, r'.id ≠ id → Distinct r' (set.apply r) := by
    rw [forM_eq_ok]
    simp only [writeRow_eq_ok, except, List.mem_filter, decide_eq_true_iff, and_imp]
  constructor
  · rintro ⟨_, hall, hset⟩
    exact ⟨(Except.ok.inj hset).symm, hwrites.1 hall⟩
  · rintro ⟨rfl, hall⟩
    exact ⟨(), hwrites.2 hall, rfl⟩

theorem updateRow_sound (h : Sound rows) (hupdate : updateRow set rows id = .ok rows') :
    Sound rows' := by
  obtain ⟨rfl, hrows⟩ := updateRow_eq_ok.1 hupdate
  constructor
  · intro r hr
    obtain ⟨r₀, hr₀, rfl⟩ := List.mem_map.1 hr
    by_cases hid : r₀.id = id
    · rw [if_pos hid]
      exact (hrows r₀ hr₀ hid).1
    · rw [if_neg hid]
      exact h.checks r₀ hr₀
  · rw [setRow, List.pairwise_map]
    refine h.distinct.imp_of_mem fun {r r'} hr hr' hdistinct => ?_
    by_cases hid : r.id = id
    · have hid' : r'.id ≠ id := fun hid' => hdistinct.1 (hid.trans hid'.symm)
      rw [if_pos hid, if_neg hid']
      exact ((hrows r hr hid).2 r' hr' hid').symm
    · rw [if_neg hid]
      by_cases hid' : r'.id = id
      · rw [if_pos hid']
        exact (hrows r' hr' hid').2 r hr hid
      · rw [if_neg hid']
        exact hdistinct

theorem updateRows_sound {ids : List Int} (h : Sound rows)
    (hupdate : ids.foldlM (updateRow set) rows = .ok rows') : Sound rows' := by
  induction ids generalizing rows with
  | nil =>
    cases hupdate
    exact h
  | cons id ids ih =>
    rw [List.foldlM_cons] at hupdate
    obtain ⟨rows₁, hone, hrest⟩ := Py.bind_eq_ok.1 hupdate
    exact ih (updateRow_sound h hone) hrest

theorem not_permitted_delete (role : Role) (filter : ConfigVersion → Bool) :
    (Statement.delete filter).permitted role = false := by
  show [Privilege.delete].all (· ∈ grants role) = false
  cases role <;> decide

/-- A statement that goes through keeps the constraints. -/
theorem execute_constraints {role : Role} (h : Constraints rows)
    (hexecute : execute takes role rows statement = .ok rows') : Constraints rows' := by
  rw [execute] at hexecute
  split_ifs at hexecute with hpermitted
  cases statement with
  | select =>
    cases hexecute
    exact h
  | insert new =>
    obtain ⟨rows₁, hrows, hexecute⟩ := Py.bind_eq_ok.1 hexecute
    obtain ⟨rfl, hrefers⟩ := endStatement_eq_ok.1 hexecute
    obtain ⟨-, hsound⟩ := insertRows_ok h.sound hrows
    exact ⟨hsound.checks, hsound.distinct, hrefers⟩
  | update set filter scan =>
    obtain ⟨rows₁, hrows, hexecute⟩ := Py.bind_eq_ok.1 hexecute
    obtain ⟨rfl, hrefers⟩ := endStatement_eq_ok.1 hexecute
    have hsound := updateRows_sound h.sound hrows
    exact ⟨hsound.checks, hsound.distinct, hrefers⟩
  | delete filter =>
    rw [not_permitted_delete] at hpermitted
    exact absurd hpermitted Bool.false_ne_true

theorem body_constraints (tx : Transaction) (h : Constraints rows)
    (hbody : tx.body takes rows = .ok rows') : Constraints rows' := by
  obtain ⟨role, statements⟩ := tx
  rw [Transaction.body] at hbody
  induction statements generalizing rows with
  | nil =>
    cases hbody
    exact h
  | cons statement statements ih =>
    rw [List.foldlM_cons] at hbody
    obtain ⟨rows₁, hone, hrest⟩ := Py.bind_eq_ok.1 hbody
    exact ih (execute_constraints h hone) hrest

end

/-- The registry after a transaction, which is committed unless one of its statements fails. -/
def commit (takes : ConfigVersion → Bool) (registry : Registry) (tx : Transaction) : Registry :=
  match h : tx.body takes registry.rows with
  | .ok rows => ⟨rows, body_constraints tx registry.constraints h⟩
  | .error _ => registry

/-- `rule_set_snapshot_json` of the values of the rules. -/
def RuleColumns.snapshot (rules : RuleColumns) : Py.Value :=
  .dict
    [("cap_hopeful_min_percomp", .float rules.capHopefulMinPercomp),
      ("launch_hopeful_min_percomp", .float rules.launchHopefulMinPercomp),
      ("cap_section_exclusion_patterns",
        .list (rules.capSectionExclusionPatternsJson.map .str)),
      ("launch_section_inclusion_pattern", .str rules.launchSectionInclusionPattern),
      ("placement_section_inclusion_pattern", .str rules.placementSectionInclusionPattern),
      ("hw_at_risk_min_behind", .int rules.hwAtRiskMinBehind),
      ("hw_at_risk_max_eff_rating", .float rules.hwAtRiskMaxEffRating),
      ("hw_critical_min_behind", .int rules.hwCriticalMinBehind),
      ("hw_critical_max_eff_rating", .float rules.hwCriticalMaxEffRating),
      ("payment_medium_threshold", .float rules.paymentMediumThreshold),
      ("payment_high_threshold", .float rules.paymentHighThreshold),
      ("payment_deviation_alert_threshold",
        (rules.paymentDeviationAlertThreshold.map Py.Value.float).getD .null),
      ("priority_hw_weight", .float rules.priorityHwWeight),
      ("priority_hw_cap", .float rules.priorityHwCap),
      ("priority_eff_weight", .float rules.priorityEffWeight),
      ("priority_eff_cap", .float rules.priorityEffCap),
      ("priority_inactivity_weight", .float rules.priorityInactivityWeight),
      ("priority_inactivity_cap", .float rules.priorityInactivityCap),
      ("ai_insight_ttl_hours", .int rules.aiInsightTtlHours),
      ("outreach_retry_window_days", .int rules.outreachRetryWindowDays),
      ("placement_inactivity_alert_days", .int rules.placementInactivityAlertDays),
      ("access_revocation_alert_hours", .int rules.accessRevocationAlertHours),
      ("ai_llm_provider", .str rules.aiLlmProvider),
      ("outreach_provider", .str rules.outreachProvider)]

def seedRules : RuleColumns where
  capHopefulMinPercomp := 30 / 100
  launchHopefulMinPercomp := 59 / 100
  capSectionExclusionPatternsJson := ["%launch%", "%CAP%"]
  launchSectionInclusionPattern := "%CAP%"
  placementSectionInclusionPattern := "%launch%"
  hwAtRiskMinBehind := 1
  hwAtRiskMaxEffRating := 3
  hwCriticalMinBehind := 3
  hwCriticalMaxEffRating := 2
  paymentMediumThreshold := 1 / 100
  paymentHighThreshold := 1000
  paymentDeviationAlertThreshold := none
  priorityHwWeight := 10
  priorityHwCap := 50
  priorityEffWeight := 7
  priorityEffCap := 35
  priorityInactivityWeight := 2
  priorityInactivityCap := 50
  aiInsightTtlHours := 24
  outreachRetryWindowDays := 3
  placementInactivityAlertDays := 7
  accessRevocationAlertHours := 48
  aiLlmProvider := "anthropic"
  outreachProvider := "ghl"

/-- The V1 record that the migration inserts at `now()`; its snapshot repeats its rules. -/
def seedVersion (now : Instant) : ConfigVersion where
  id := 1
  versionNumber := 1
  status := "ACTIVE"
  priorVersionId := none
  supersededByVersionId := none
  effectiveFrom := some now
  activatedAt := some now
  activatedBy := some "system_migration_0003"
  deactivatedAt := none
  proposedBy := some "system_migration_0003"
  approvedBy := some "system_migration_0003"
  approvalTimestamp := some now
  changeRationale := some ("V1 baseline configuration — initial platform defaults per spec/01 " ++
    "Sections 12.1 through 12.7. All threshold values derived from SQL operational heuristics. " ++
    "This is the only version that does not require a prior human authorization workflow: it " ++
    "captures pre-existing operational defaults at platform launch.")
  governanceNotes :=
    some "Seeded automatically by Alembic migration 0003. No prior version exists."
  rules := seedRules
  ruleSetSnapshotJson := some seedRules.snapshot
  createdAt := now

/-- The registry as the migration leaves it. -/
def migrated (now : Instant) : Registry where
  rows := [seedVersion now]
  constraints := by
    constructor
    · intro r hr
      rw [List.mem_singleton.1 hr]
      exact ⟨List.mem_of_elem_eq_true rfl, Int.zero_lt_one⟩
    · exact List.pairwise_singleton _ _
    · intro r hr
      rw [List.mem_singleton.1 hr]
      exact ⟨nofun, nofun⟩

end ConfigRegistry
end StudentSuccess
