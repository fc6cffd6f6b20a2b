import StudentSuccess.ReportContent

namespace StudentSuccess
set_option autoImplicit true
open Calendar (Day Month)
open Report (ReportContent)

structure StudentSnapshots extends MirrorColumns where
  id : Nat
  studentId : Int
  snapshotMonth : Month
  status : String
  lineageVersion : Int
  executionMode : String
  correlationId : Option String
  hwsBehind : Option Int
  avgEffRating : Option Rat
  lastActivityDays : Option Int
  segmentClassification : Option String
  paymentRiskLabel : Option String
  actualBalance : Option Rat
  isBundleDeal : Option Bool
  weeksInProgram : Option Int
  daysSinceLastSubmission : Option Int
  totalOutreachAttempts : Option Int
  totalResponses : Option Int
  lastContactDate : Option Day
  daysSinceLastContact : Option Int
  channelBreakdown : Option (List (String × Nat))
  fingerprintSchemaVersion : Option String
  fingerprintConfigRegistryVersion : Option String
  fingerprintReportTemplateVersion : Option String
  fingerprintComputedAt : Option Instant
  finalizedAt : Option Instant

def StudentSnapshots.finalized (r : StudentSnapshots) : Bool := r.status == "FINALIZED"

/-- `warehouse.snapshot_ai_narratives`: each text column under the type of insight it is copied
from; the one of the sentiment analysis is `trend_interpretation_text`. -/
structure SnapshotAiNarratives where
  id : Nat
  snapshotId : Nat
  texts : NarrativeType → Option String
  copiedAt : Instant

structure MonthlyReports where
  id : Nat
  cohortId : String
  reportMonth : Month
  templateVersion : String
  lineageVersion : Int
  status : String
  reportIdempotencyKey : String
  /-- The snapshot id of `source_snapshot_fingerprint_json`. -/
  sourceSnapshotFingerprint : Option Nat
  reportContent : Option ReportContent
  generatedAt : Option Instant
  publishedAt : Option Instant
  generatedBy : Option String
  correlationId : Option String
  executionMode : String

def MonthlyReports.published (r : MonthlyReports) : Bool := r.status == "REPORT_PUBLISHED"

/-- What the partial index on published reports tells apart. -/
def MonthlyReports.publication (r : MonthlyReports) : String × Month × Int :=
  (r.cohortId, r.reportMonth, r.lineageVersion)

/-- The warehouse schema, with its unique indexes and the foreign key of the narratives. -/
structure Warehouse where
  studentSnapshots : Table StudentSnapshots (·.id)
  snapshotAiNarratives : Table SnapshotAiNarratives (·.id)
  monthlyReports : Table MonthlyReports (·.id)
  /-- The sequence of the ids starts at 1. -/
  snapshotIdPos : ∀ r ∈ studentSnapshots.rows, 0 < r.id
  uqFinalizedStudentMonth : ((studentSnapshots.rows.filter (·.finalized)).map
    fun r => (r.studentId, r.snapshotMonth)).Nodup
  uqSnapshotId : (snapshotAiNarratives.rows.map (·.snapshotId)).Nodup
  fkSnapshot : ∀ n ∈ snapshotAiNarratives.rows, n.snapshotId ∈ studentSnapshots.rows.map (·.id)
  uqIdempotencyKey : (monthlyReports.rows.map (·.reportIdempotencyKey)).Nodup
  uqPublishedLineage :
    ((monthlyReports.rows.filter (·.published)).map (·.publication)).Nodup

namespace Warehouse

variable (w : Warehouse)

/-- The finalized snapshot of the student for the month; the index leaves at most one. -/
def finalizedSnapshot (studentId : Int) (month : Month) : Option StudentSnapshots :=
  w.studentSnapshots.rows.find? fun r =>
    r.studentId = studentId && r.snapshotMonth = month && r.finalized

theorem finalizedSnapshot_eq_none_iff :
    w.finalizedSnapshot studentId month = none ↔
      ∀ r ∈ w.studentSnapshots.rows, r.finalized = true →
        (r.studentId, r.snapshotMonth) ≠ (studentId, month) := by
  simp only [finalizedSnapshot, List.find?_eq_none, Bool.and_eq_true, decide_eq_true_eq, ne_eq,
    Prod.mk.injEq]
  constructor
  · intro h r hr hfinal hkey
    exact h r hr ⟨hkey, hfinal⟩
  · intro h r hr hrow
    exact h r hr hrow.2 hrow.1

theorem mem_of_finalizedSnapshot (h : w.finalizedSnapshot studentId month = some r) :
    r ∈ w.studentSnapshots.rows := List.mem_of_find?_eq_some h

/-- `INSERT` of a snapshot that is no second finalized one, and of its narratives. -/
def insertSnapshot (snapshot : Nat → StudentSnapshots)
    (texts : NarrativeType → Option String) (copiedAt : Instant)
    (hid : ∀ n, (snapshot n).id = n)
    (hnew : ∀ n, ∀ r ∈ w.studentSnapshots.rows, r.finalized = true →
      (r.studentId, r.snapshotMonth) ≠ ((snapshot n).studentId, (snapshot n).snapshotMonth)) :
    Warehouse :=
  { w with
    studentSnapshots := w.studentSnapshots.insertNew snapshot hid
    snapshotAiNarratives := w.snapshotAiNarratives.insertNew
      (fun n => ⟨n, w.studentSnapshots.nextId, texts, copiedAt⟩) fun _ => rfl
    snapshotIdPos := by
      intro r hr
      rw [Table.insertNew_rows, List.mem_append, List.mem_singleton] at hr
      rcases hr with hr | rfl
      · exact w.snapshotIdPos r hr
      · rw [hid]
        exact w.studentSnapshots.nextId_pos
    uqFinalizedStudentMonth := by
      rw [Table.insertNew_rows, List.filter_append]
      cases hfinal : (snapshot w.studentSnapshots.nextId).finalized with
      | false =>
        rw [List.filter_cons_of_neg (by simp [hfinal]), List.filter_nil, List.append_nil]
        exact w.uqFinalizedStudentMonth
      | true =>
        rw [List.filter_cons_of_pos (by simp [hfinal]), List.filter_nil]
        apply Table.nodup_map_concat w.uqFinalizedStudentMonth
        intro r hr
        obtain ⟨hmem, hrow⟩ := List.mem_filter.1 hr
        exact hnew _ r hmem hrow
    uqSnapshotId := by
      rw [Table.insertNew_rows]
      apply Table.nodup_map_concat w.uqSnapshotId
      intro n hn heq
      have hfresh : n.snapshotId = w.studentSnapshots.nextId := heq
      exact w.studentSnapshots.nextId_not_mem (hfresh ▸ w.fkSnapshot n hn)
    fkSnapshot := by
      intro n hn
      rw [Table.insertNew_rows, List.mem_append, List.mem_singleton] at hn
      rw [Table.insertNew_rows, List.map_append, List.mem_append]
      rcases hn with hn | rfl
      · exact .inl (w.fkSnapshot n hn)
      · exact .inr (by simp [hid]) }

/-- `UPDATE snapshot_ai_narratives` of the text columns. -/
def updateNarratives (f : SnapshotAiNarratives → NarrativeType → Option String) : Warehouse :=
  { w with
    snapshotAiNarratives :=
      { rows := w.snapshotAiNarratives.rows.map fun n => { n with texts := f n }
        unique := by
          rw [List.map_map]
          exact w.snapshotAiNarratives.unique }
    uqSnapshotId := by
      rw [List.map_map]
      exact w.uqSnapshotId
    fkSnapshot := by
      intro n hn
      obtain ⟨n', hn', rfl⟩ := List.mem_map.1 hn
      exact w.fkSnapshot n' hn' }

def publishedReport (publication : String × Month × Int) : Option MonthlyReports :=
  w.monthlyReports.rows.find? fun r => r.publication = publication && r.published

theorem publishedReport_eq_none_iff :
    w.publishedReport publication = none ↔
      ∀ r ∈ w.monthlyReports.rows, r.published = true → r.publication ≠ publication := by
  simp only [publishedReport, List.find?_eq_none, Bool.and_eq_true, decide_eq_true_eq, ne_eq]
  constructor
  · intro h r hr hpublished hkey
    exact h r hr ⟨hkey, hpublished⟩
  · intro h r hr hrow
    exact h r hr hrow.2 hrow.1

theorem publishedReport_eq_some (h : w.publishedReport publication = some r) :
    r ∈ w.monthlyReports.rows ∧ r.published = true ∧ r.publication = publication := by
  have hrow := List.find?_some h
  rw [Bool.and_eq_true, decide_eq_true_eq] at hrow
  exact ⟨List.mem_of_find?_eq_some h, hrow.2, hrow.1⟩

def reportByKey (key : String) : Option MonthlyReports :=
  w.monthlyReports.rows.find? fun r => r.reportIdempotencyKey = key

theorem reportByKey_eq_none_iff :
    w.reportByKey key = none ↔
      ∀ r ∈ w.monthlyReports.rows, r.reportIdempotencyKey ≠ key := by
  simp [reportByKey]

/-- `UPDATE monthly_reports` of one row, outside the columns of the publication; no other row
may have the row's new idempotency key. -/
def updateReport (id : Nat) (f : MonthlyReports → MonthlyReports)
    (hf : ∀ r, (f r).id = r.id ∧ (f r).published = r.published ∧
      (f r).publication = r.publication)
    (hkey : ∀ r ∈ w.monthlyReports.rows, r.id = id → ∀ r' ∈ w.monthlyReports.rows, r'.id ≠ id →
      r'.reportIdempotencyKey ≠ (f r).reportIdempotencyKey) : Warehouse :=
  { w with
    monthlyReports := w.monthlyReports.update id f fun r => (hf r).1
    uqIdempotencyKey := by
      rw [Table.update_rows]
      exact Table.nodup_map_update w.monthlyReports.unique w.uqIdempotencyKey hkey
    uqPublishedLineage := by
      have hsame : ∀ r : MonthlyReports, (if r.id = id then f r else r).published = r.published ∧
          (if r.id = id then f r else r).publication = r.publication := by
        intro r
        by_cases h : r.id = id <;> simp [h, (hf r).2]
      rw [Table.update_rows, List.filter_map, List.map_map]
      simp only [Function.comp_def, fun r => (hsame r).1, fun r => (hsame r).2]
      exact w.uqPublishedLineage }

/-- `INSERT` of a report that neither index of the table knows. -/
def insertReport (report : Nat → MonthlyReports) (hid : ∀ n, (report n).id = n)
    (hkey : ∀ n, ∀ r ∈ w.monthlyReports.rows,
      r.reportIdempotencyKey ≠ (report n).reportIdempotencyKey)
    (hpublication : ∀ n, ∀ r ∈ w.monthlyReports.rows, r.published = true →
      r.publication ≠ (report n).publication) : Warehouse :=
  { w with
    monthlyReports := w.monthlyReports.insertNew report hid
    uqIdempotencyKey := by
      rw [Table.insertNew_rows]
      exact Table.nodup_map_concat w.uqIdempotencyKey (hkey _)
    uqPublishedLineage := by
      rw [Table.insertNew_rows, List.filter_append]
      cases hpublished : (report w.monthlyReports.nextId).published with
      | false =>
        rw [List.filter_cons_of_neg (by simp [hpublished]), List.filter_nil, List.append_nil]
        exact w.uqPublishedLineage
      | true =>
        rw [List.filter_cons_of_pos (by simp [hpublished]), List.filter_nil]
        apply Table.nodup_map_concat w.uqPublishedLineage
        intro r hr
        obtain ⟨hmem, hrow⟩ := List.mem_filter.1 hr
        exact hpublication _ r hmem hrow }

end Warehouse
end StudentSuccess
