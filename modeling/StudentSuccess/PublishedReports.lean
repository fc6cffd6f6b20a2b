import StudentSuccess.FinalizedRows
import StudentSuccess.PyText

namespace StudentSuccess
namespace Pipeline
set_option autoImplicit true
open Calendar (Month)
open Snapshot Report

/-- What the writer does to the table of the reports: the published row is refreshed, the key is
taken, or a new row is published. -/
theorem insertMonthlyReport_cases
    (h : insertMonthlyReport call w args snapshotId content lineageVersion =
      .ok (w', reportId)) :
    (∃ existing, w.publishedReport (args.publication lineageVersion) = some existing ∧
      ∃ key, w'.monthlyReports.rows = w.monthlyReports.rows.map fun r =>
        if r.id = existing.id then refresh content snapshotId key call.now r else r) ∨
    w.publishedReport (args.publication lineageVersion) = none ∧
      (w' = w ∨ ∃ report, report.publication = args.publication lineageVersion ∧
        w'.monthlyReports.rows = w.monthlyReports.rows ++ [report]) := by
  rw [insertMonthlyReport] at h
  rw [Py.bind_eq_ok] at h
  obtain ⟨correlationId, -, h⟩ := h
  split at h
  · next existing hpublished =>
    split at h
    · cases h
      exact .inl ⟨existing, hpublished, _, rfl⟩
    · cases h
  · next hpublished =>
    split at h
    · cases h
      exact .inr ⟨hpublished, .inl rfl⟩
    · cases h
      exact .inr ⟨hpublished, .inr ⟨_, rfl, rfl⟩⟩

theorem generateStudentReport_cases
    (h : generateStudentReport platform call w args = .ok (w', result)) :
    loadFinalizedSnapshot w args.studentId args.snapshotMonth = none ∧ w' = w ∨
      ∃ loaded content reportId,
      loadFinalizedSnapshot w args.studentId args.snapshotMonth = some loaded ∧
      insertMonthlyReport call w args loaded.snapshot.id content (lineageOf loaded.snapshot) =
        .ok (w', reportId) ∧
      result = .ok reportId args.executionMode content := by
  rw [generateStudentReport] at h
  split at h
  · next hnone =>
    cases h
    exact .inl ⟨hnone, rfl⟩
  · next loaded hloaded =>
    rw [Py.bind_eq_ok] at h
    obtain ⟨content, -, h⟩ := h
    rw [Py.bind_eq_ok] at h
    obtain ⟨⟨w'', reportId⟩, hinsert, h⟩ := h
    cases h
    exact .inr ⟨loaded, content, reportId, hloaded, hinsert, rfl⟩

theorem generateStudentReport_content
    (h : generateStudentReport platform call w args = .ok (w', .ok reportId mode content)) :
    ∃ loaded outreachIntel,
      loadFinalizedSnapshot w args.studentId args.snapshotMonth = some loaded ∧
      loadOutreachIntelligence platform args.studentId args.snapshotMonth = .ok outreachIntel ∧
      content = buildReportContent loaded
        ((Report.stateTransitions platform args.studentId args.snapshotMonth).map toTransition)
        call.generatedAt (lineageOf loaded.snapshot)
        (loadTrendData w args.studentId args.snapshotMonth) outreachIntel
        (loadLifecyclePatterns platform w args.studentId) := by
  rw [generateStudentReport] at h
  split at h
  · cases h
  · next loaded hloaded =>
    rw [Py.bind_eq_ok] at h
    obtain ⟨content', hcontent, h⟩ := h
    rw [Py.bind_eq_ok] at h
    obtain ⟨⟨w'', reportId'⟩, -, h⟩ := h
    cases h
    rw [reportContent] at hcontent
    rw [Py.bind_eq_ok] at hcontent
    obtain ⟨outreachIntel, hintel, hcontent⟩ := hcontent
    cases hcontent
    exact ⟨loaded, outreachIntel, hloaded, hintel, rfl⟩

theorem generateStudentReport_of_snapshot
    (hrow : w.finalizedSnapshot args.studentId args.snapshotMonth = some row)
    (h : generateStudentReport platform call w args = .ok (w', .ok reportId mode content)) :
    ∃ outreachIntel,
      loadOutreachIntelligence platform args.studentId args.snapshotMonth = .ok outreachIntel ∧
      content = buildReportContent
        ⟨row, fun type => (narrativesOf w row.id).bind (·.texts type)⟩
        ((Report.stateTransitions platform args.studentId args.snapshotMonth).map toTransition)
        call.generatedAt (lineageOf row) (loadTrendData w args.studentId args.snapshotMonth)
        outreachIntel (loadLifecyclePatterns platform w args.studentId) := by
  obtain ⟨loaded, outreachIntel, hloaded, hintel, rfl⟩ := generateStudentReport_content h
  rw [loadFinalizedSnapshot] at hloaded
  rw [hrow, Option.map_some, Option.some_inj] at hloaded
  subst hloaded
  exact ⟨outreachIntel, hintel, rfl⟩

/-- The columns of a report that its publication fixes. -/
structure SameColumns (r r' : MonthlyReports) : Prop where
  template : r'.templateVersion = r.templateVersion
  content : r'.reportContent = r.reportContent
  key : r'.reportIdempotencyKey = r.reportIdempotencyKey
  generated : r'.generatedAt = r.generatedAt
  published : r'.publishedAt = r.publishedAt

/-- The report is still published, with the same columns unless its template has been renewed. -/
structure KeptAs (r r' : MonthlyReports) : Prop where
  id : r'.id = r.id
  status : r'.published = true
  publication : r'.publication = r.publication
  columns : SameColumns r r' ∨
    r.templateVersion ≠ templateVersion ∧ r'.templateVersion = templateVersion

/-- The reports published in `w` are in `w'` as they were published. -/
def ReportsKept (w w' : Warehouse) : Prop :=
  ∀ r ∈ w.monthlyReports.rows, r.published = true → ∃ r' ∈ w'.monthlyReports.rows, KeptAs r r'

theorem KeptAs.refl (h : r.published = true) : KeptAs r r :=
  ⟨rfl, h, rfl, .inl ⟨rfl, rfl, rfl, rfl, rfl⟩⟩

theorem KeptAs.trans (h : KeptAs r r') (h' : KeptAs r' r'') : KeptAs r r'' where
  id := h'.id.trans h.id
  status := h'.status
  publication := h'.publication.trans h.publication
  columns := by
    rcases h.columns with hsame | ⟨hold, hnew⟩
    · rcases h'.columns with hsame' | ⟨hold', hnew'⟩
      · exact .inl ⟨hsame'.template.trans hsame.template, hsame'.content.trans hsame.content,
          hsame'.key.trans hsame.key, hsame'.generated.trans hsame.generated,
          hsame'.published.trans hsame.published⟩
      · exact .inr ⟨hsame.template ▸ hold', hnew'⟩
    · rcases h'.columns with hsame' | ⟨hold', -⟩
      · exact .inr ⟨hold, hsame'.template.trans hnew⟩
      · exact absurd hnew hold'

theorem ReportsKept.refl (w : Warehouse) : ReportsKept w w :=
  fun r hr hpublished => ⟨r, hr, KeptAs.refl hpublished⟩

theorem ReportsKept.trans (h : ReportsKept w w') (h' : ReportsKept w' w'') :
    ReportsKept w w'' := by
  intro r hr hpublished
  obtain ⟨r', hr', hkept⟩ := h r hr hpublished
  obtain ⟨r'', hr'', hkept'⟩ := h' r' hr' hkept.status
  exact ⟨r'', hr'', hkept.trans hkept'⟩

/-- The report is the published one of the student's finalized snapshot, and its template is
the current one. -/
structure Current (w : Warehouse) (args : ReportArgs) (existing : MonthlyReports) : Prop where
  mem : existing ∈ w.monthlyReports.rows
  published : existing.published = true
  template : existing.templateVersion = templateVersion
  publication : ∃ loaded, loadFinalizedSnapshot w args.studentId args.snapshotMonth =
    some loaded ∧ existing.publication = args.publication (lineageOf loaded.snapshot)

def NotCurrent (w : Warehouse) (args : ReportArgs) : Prop := ∀ existing, ¬ Current w args existing

/-- A call that finds no current report leaves every published one as it was. -/
theorem generateStudentReport_kept (hcurrent : NotCurrent w args)
    (h : generateStudentReport platform call w args = .ok (w', result)) : ReportsKept w w' := by
  rcases generateStudentReport_cases h with
    ⟨-, rfl⟩ | ⟨loaded, content, reportId, hloaded, hinsert, -⟩
  · exact ReportsKept.refl w'
  · rcases insertMonthlyReport_cases hinsert with
      ⟨existing, hpublished, key, hrows⟩ | ⟨-, rfl | ⟨report, -, hrows⟩⟩
    · intro r hr hstatus
      obtain ⟨hmem, hexisting, hpublication⟩ := w.publishedReport_eq_some hpublished
      by_cases hid : r.id = existing.id
      · have heq : r = existing := List.inj_on_of_nodup_map w.monthlyReports.unique hr hmem hid
        subst heq
        have hold : r.templateVersion ≠ templateVersion :=
          fun htemplate => hcurrent r ⟨hr, hstatus, htemplate, loaded, hloaded, hpublication⟩
        refine ⟨refresh content loaded.snapshot.id key call.now r, ?_, rfl, hstatus, rfl,
          .inr ⟨hold, rfl⟩⟩
        rw [hrows]
        exact List.mem_map.2 ⟨r, hr, if_pos rfl⟩
      · refine ⟨r, ?_, KeptAs.refl hstatus⟩
        rw [hrows]
        exact List.mem_map.2 ⟨r, hr, if_neg hid⟩
    · exact ReportsKept.refl w'
    · intro r hr hstatus
      refine ⟨r, ?_, KeptAs.refl hstatus⟩
      rw [hrows]
      exact List.mem_append_left _ hr

theorem generateStudentReport_other
    (h : generateStudentReport platform call w args = .ok (w', result))
    (hne : args'.studentId ≠ args.studentId) (hcurrent : NotCurrent w args') :
    NotCurrent w' args' := by
  intro r' hr'
  obtain ⟨hmem, hstatus, htemplate, loaded', hloaded', hpublication'⟩ := hr'
  have hload : loadFinalizedSnapshot w args'.studentId args'.snapshotMonth = some loaded' := by
    obtain ⟨hsnapshots, hnarratives⟩ := generateStudentReport_sameSnapshots h
    rw [← hloaded']
    simp only [loadFinalizedSnapshot, Warehouse.finalizedSnapshot, narrativesOf, hsnapshots,
      hnarratives]
  have hcohort : r'.cohortId ≠ toString args.studentId := by
    intro heq
    have hcohort' : r'.cohortId = toString args'.studentId := congrArg (·.1) hpublication'
    exact hne (Py.intText_injective (hcohort'.symm.trans heq))
  suffices hold : r' ∈ w.monthlyReports.rows from
    hcurrent r' ⟨hold, hstatus, htemplate, loaded', hload, hpublication'⟩
  rcases generateStudentReport_cases h with ⟨-, rfl⟩ | ⟨loaded, content, reportId, -, hinsert, -⟩
  · exact hmem
  · rcases insertMonthlyReport_cases hinsert with
      ⟨existing, hpublished, key, hrows⟩ | ⟨-, rfl | ⟨report, hreport, hrows⟩⟩
    · rw [hrows] at hmem
      obtain ⟨r, hr, heq⟩ := List.mem_map.1 hmem
      by_cases hid : r.id = existing.id
      · obtain ⟨hexisting, -, hpublication⟩ := w.publishedReport_eq_some hpublished
        have hsame : r = existing :=
          List.inj_on_of_nodup_map w.monthlyReports.unique hr hexisting hid
        rw [if_pos hid] at heq
        subst heq hsame
        exact absurd (congrArg (·.1) hpublication) hcohort
      · rw [if_neg hid] at heq
        exact heq ▸ hr
    · exact hmem
    · rw [hrows, List.mem_append, List.mem_singleton] at hmem
      rcases hmem with hmem | rfl
      · exact hmem
      · exact absurd (congrArg (·.1) hreport) hcohort

theorem generateEach_kept (hargs : ∀ sid, (args sid).studentId = sid) (counts : CohortCounts)
    (hnodup : sids.Nodup) (hcurrent : ∀ sid ∈ sids, NotCurrent w (args sid)) :
    ReportsKept w (generateEach platform calls args counts sids w).1 := by
  induction sids generalizing counts w with
  | nil => exact ReportsKept.refl w
  | cons sid sids ih =>
    rw [List.nodup_cons] at hnodup
    rw [generateEach]
    cases hgenerate : generateStudentReport platform (calls sid) w (args sid) with
    | error e => exact ReportsKept.refl w
    | ok generated =>
      obtain ⟨w', result⟩ := generated
      have hrest : ∀ sid' ∈ sids, NotCurrent w' (args sid') := by
        intro sid' hsid'
        apply generateStudentReport_other hgenerate _ (hcurrent sid' (.tail _ hsid'))
        rw [hargs, hargs]
        intro heq
        exact hnodup.1 (heq ▸ hsid')
      exact (generateStudentReport_kept (hcurrent sid (.head _)) hgenerate).trans
        (ih _ hnodup.2 hrest)

/-- A student has one finalized snapshot for the month at most, so a cohort lists nobody twice. -/
theorem cohort_nodup (w : Warehouse) (cohortId : String) (month : Month) :
    (cohort w cohortId month).Nodup := by
  have hpairs := w.uqFinalizedStudentMonth
  rw [List.nodup_map_iff_inj_on (w.studentSnapshots.unique.of_map _ |>.filter _)] at hpairs
  apply List.Nodup.map_on _ (w.studentSnapshots.unique.of_map _ |>.filter _)
  intro r hr r' hr' heq
  simp only [List.mem_filter, Bool.and_eq_true, decide_eq_true_eq] at hr hr'
  apply hpairs
  · exact List.mem_filter.2 ⟨hr.1, hr.2.1.2⟩
  · exact List.mem_filter.2 ⟨hr'.1, hr'.2.1.2⟩
  · rw [heq, hr.2.1.1, hr'.2.1.1]

inductive Generation
  | student (args : ReportArgs)
  | cohort (cohortId : String) (month : Month) (executionMode : String)

/-- A call that generates reports, with what it finds outside the warehouse. -/
structure GenerationCall where
  platform : Platform
  call : Int → Report.Call
  generation : Generation

def cohortArgs (month : Month) (executionMode : String) (sid : Int) : ReportArgs where
  studentId := sid
  snapshotMonth := month
  executionMode := executionMode

def generate (w : Warehouse) (g : GenerationCall) : Warehouse :=
  match g.generation with
  | .student args =>
    committed w (generateStudentReport g.platform (g.call args.studentId) w args)
  | .cohort cohortId month executionMode =>
    (generateCohortReport g.platform g.call cohortId month executionMode w).1

/-- No report that the call is to make is published already. -/
def Unpublished (w : Warehouse) (g : GenerationCall) : Prop :=
  match g.generation with
  | .student args => NotCurrent w args
  | .cohort cohortId month executionMode =>
    ∀ sid ∈ cohort w cohortId month, NotCurrent w (cohortArgs month executionMode sid)

/-- Where the report is published already, the call returns it and writes nothing. -/
def Idempotent (w : Warehouse) (g : GenerationCall) : Prop :=
  match g.generation with
  | .student args => ∀ existing, Current w args existing →
      ∃ content, existing.reportContent = some content ∧
        generateStudentReport g.platform (g.call args.studentId) w args =
          .ok (w, .ok existing.id args.executionMode content)
  | .cohort .. => True

theorem generate_kept (h : Unpublished w g) : ReportsKept w (generate w g) := by
  obtain ⟨platform, call, generation⟩ := g
  cases generation with
  | student args =>
    exact committed_of (ReportsKept.refl w) fun w' result => generateStudentReport_kept h
  | cohort cohortId month executionMode =>
    exact generateEach_kept (fun _ => rfl) {} (cohort_nodup w cohortId month) h

theorem idempotent_of_unpublished (h : Unpublished w g) : Idempotent w g := by
  obtain ⟨platform, call, generation⟩ := g
  cases generation with
  | student args => exact fun existing hcurrent => absurd hcurrent (h existing)
  | cohort => trivial

theorem publishedReport_of_current (h : Current w args existing)
    (hloaded : loadFinalizedSnapshot w args.studentId args.snapshotMonth = some loaded) :
    w.publishedReport (args.publication (lineageOf loaded.snapshot)) = some existing := by
  obtain ⟨loaded', hloaded', hpublication⟩ := h.publication
  cases hloaded.symm.trans hloaded'
  cases hreport : w.publishedReport (args.publication (lineageOf loaded.snapshot)) with
  | none =>
    exact absurd hpublication
      (w.publishedReport_eq_none_iff.1 hreport existing h.mem h.published)
  | some r =>
    obtain ⟨hmem, hstatus, hpublication'⟩ := w.publishedReport_eq_some hreport
    have hpairs := w.uqPublishedLineage
    have hinj := List.inj_on_of_nodup_map hpairs (List.mem_filter.2 ⟨hmem, hstatus⟩)
      (List.mem_filter.2 ⟨h.mem, h.published⟩) (hpublication'.trans hpublication.symm)
    rw [hinj]

/-- A call for a current report writes the clock of the call into it. -/
theorem not_idempotent_of_current (hcurrent : Current w args existing)
    (hclock : existing.generatedAt ≠ some (call args.studentId).now) :
    ¬ Idempotent w ⟨platform, call, .student args⟩ := by
  intro h
  obtain ⟨content, -, hsame⟩ := h existing hcurrent
  rcases generateStudentReport_cases hsame with
    ⟨hnone, -⟩ | ⟨loaded, content', reportId, hloaded, hinsert, -⟩
  · obtain ⟨loaded, hloaded, -⟩ := hcurrent.publication
    exact absurd (hnone.symm.trans hloaded) nofun
  · rcases insertMonthlyReport_cases hinsert with ⟨r, hpublished, key, hrows⟩ | ⟨hnone, -⟩
    · cases (publishedReport_of_current hcurrent hloaded).symm.trans hpublished
      have hrow := Table.map_eq_self_iff.1 hrows.symm existing hcurrent.mem
      rw [if_pos rfl] at hrow
      exact hclock (congrArg MonthlyReports.generatedAt hrow).symm
    · rw [publishedReport_of_current hcurrent hloaded] at hnone
      exact absurd hnone nofun

/-- Published reports stay as they are along a run that publishes each report once, and a second
call for a report rewrites it as soon as the clock has moved on. -/
theorem published_stable_of_unpublished (w : Warehouse) (gs : List GenerationCall) :
    (Runs.EveryStep generate Unpublished w gs →
      Runs.Stable generate ReportsKept w gs ∧ Runs.EveryStep generate Idempotent w gs) ∧
    ∀ (w : Warehouse) (platform : Platform) (call : Int → Report.Call) (args : ReportArgs)
      (existing : MonthlyReports), Current w args existing →
      existing.generatedAt ≠ some (call args.studentId).now →
        ¬ Idempotent w ⟨platform, call, .student args⟩ := by
  constructor
  · intro h
    constructor
    · rw [Runs.stable_iff ReportsKept.refl fun _ _ _ h h' => h.trans h']
      exact h.imp fun _ _ => generate_kept
    · exact h.imp fun _ _ => idempotent_of_unpublished
  · intro w platform call args existing
    exact not_idempotent_of_current

def assembledWarehouse : Warehouse := Runs.final serve emptyWarehouse [assembleThenBackfill[0]]

def generateAt (now : Instant) : GenerationCall where
  platform := platformWith .empty
  call _ := ⟨some, id, now, now, ⟨"u-2", by decide⟩⟩
  generation := .student { studentId := 7, snapshotMonth := january }

/-- The warehouse with the snapshots of two months. -/
def twoMonths : Warehouse :=
  Runs.final serve assembledWarehouse
    [⟨surroundings .empty, .assemble { studentId := 7, snapshotMonth := january.next }⟩]

def generateNext : GenerationCall where
  platform := platformWith .empty
  call := (generateAt 1).call
  generation := .student { studentId := 7, snapshotMonth := january.next }

theorem twoMonths_report :
    (generate twoMonths (generateAt 0)).monthlyReports.rows.map (fun r => r.publication) =
      [("7", january, 1)] := rfl

/-- The report of January stands while that of February is made. -/
theorem published_stable_generateAt :
    Runs.Stable generate ReportsKept twoMonths [generateAt 0, generateNext] ∧
      Runs.EveryStep generate Idempotent twoMonths [generateAt 0, generateNext] := by
  apply (published_stable_of_unpublished twoMonths [generateAt 0, generateNext]).1
  refine ⟨?_, ?_, trivial⟩
  · intro existing hcurrent
    have hmem : existing ∈ ([] : List MonthlyReports) := hcurrent.mem
    exact absurd hmem List.not_mem_nil
  · intro existing hcurrent
    obtain ⟨loaded, hloaded, hpublication⟩ := hcurrent.publication
    have hmem := List.mem_map_of_mem (f := fun r => r.publication) hcurrent.mem
    rw [twoMonths_report, List.mem_singleton, hpublication] at hmem
    have hmonth : january.next = january := congrArg (·.2.1) hmem
    exact absurd hmonth (by decide)

theorem generated_rows (now : Instant) :
    (Runs.final generate assembledWarehouse [generateAt now]).monthlyReports.rows.map
      (fun r => (r.published, r.templateVersion, r.generatedAt)) =
        [(true, templateVersion, some now)] := rfl

theorem regenerated_rows (now later : Instant) :
    (Runs.final generate assembledWarehouse
      [generateAt now, generateAt later]).monthlyReports.rows.map
      (fun r => (r.published, r.templateVersion, r.generatedAt)) =
        [(true, templateVersion, some later)] := rfl

theorem regeneration_rewrites_published :
    ¬ Runs.Stable generate ReportsKept assembledWarehouse [generateAt 0, generateAt 1] := by
  intro h
  have hkept := h [generateAt 0] [generateAt 1] [] rfl
  have hpublished := List.mem_singleton_self (true, templateVersion, some (0 : Instant))
  rw [← generated_rows 0] at hpublished
  obtain ⟨r, hr, heq⟩ := List.mem_map.1 hpublished
  obtain ⟨r', hr', hkeptAs⟩ := hkept r hr (congrArg (·.1) heq)
  have hrow := List.mem_map_of_mem
    (f := fun r => (r.published, r.templateVersion, r.generatedAt)) hr'
  rw [List.singleton_append, regenerated_rows 0 1, List.mem_singleton] at hrow
  rcases hkeptAs.columns with hsame | ⟨hold, -⟩
  · have hgenerated : some (1 : Instant) = some 0 :=
      (congrArg (·.2.2) hrow).symm.trans (hsame.generated.trans (congrArg (·.2.2) heq))
    exact absurd hgenerated (by decide)
  · exact hold (congrArg (·.2.1) heq)

end Pipeline
end StudentSuccess
