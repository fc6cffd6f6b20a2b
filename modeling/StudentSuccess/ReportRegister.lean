import StudentSuccess.MonthlyCoverage
import StudentSuccess.RouterHelpers

namespace StudentSuccess
namespace Report
set_option autoImplicit true
open Calendar (Month)

/-- What `get_report_content` returns. -/
structure ReportRead where
  reportId : Nat
  studentId : Int
  reportMonth : Month
  executionMode : String
  generatedAt : Option Instant
  lineageVersion : Int
  reportContent : Option ReportContent

def publishedRows (w : Warehouse) (studentId : Int) (month : Month) : List MonthlyReports :=
  w.monthlyReports.rows.filter fun r =>
    r.cohortId = toString studentId && r.reportMonth = month && r.published

def readOf (studentId : Int) (month : Month) (r : MonthlyReports) : ReportRead where
  reportId := r.id
  studentId := studentId
  reportMonth := month
  executionMode := r.executionMode
  generatedAt := r.generatedAt
  lineageVersion := r.lineageVersion
  reportContent := r.reportContent

/-- `get_report_content`: the one with the highest id. -/
def getReportContent (w : Warehouse) (studentId : Int) (month : Month) : Option ReportRead :=
  ((publishedRows w studentId month).argmax (·.id)).map (readOf studentId month)

def getMonthlyReport (w : Warehouse) (studentId : Int) (month : Month) :
    Router.Response ReportRead :=
  match getReportContent w studentId month with
  | some report => .ok report none
  | none => .fail "REPORT_NOT_FOUND" ("No published report for student " ++ toString studentId ++
      " month " ++ toString month.year ++ "-" ++ padded 2 month.month ++ ". " ++
      "Assemble the snapshot first, then call POST /reports/monthly/generate.") none

/-- A report that `generate_student_report` has returned, and the time it was written at. -/
structure Generated where
  studentId : Int
  month : Month
  reportId : Nat
  executionMode : String
  content : ReportContent
  writtenAt : Instant

def generatedBy (args : ReportArgs) (writtenAt : Instant) : ReportResult → List Generated
  | .ok reportId executionMode content =>
    [⟨args.studentId, args.snapshotMonth, reportId, executionMode, content, writtenAt⟩]
  | .error _ => []

/-- What the loop of a cohort generates. -/
def generatedEach (platform : Platform) (calls : Int → Call) (args : Int → ReportArgs) :
    List Int → Warehouse → List Generated
  | [], _ => []
  | sid :: rest, w =>
    match generateStudentReport platform (calls sid) w (args sid) with
    | .error _ => []
    | .ok (w', result) =>
      generatedBy (args sid) (calls sid).now result ++ generatedEach platform calls args rest w'

def ofStudent (trace : List Generated) (studentId : Int) (month : Month) : List Generated :=
  trace.filter fun g => g.studentId = studentId ∧ g.month = month

/-- What a trace leaves to read: the last content, under the id and the mode of the first. -/
def shown (trace : List Generated) (studentId : Int) (month : Month) : Option ReportRead :=
  let reports := ofStudent trace studentId month
  match reports.head?, reports.getLast? with
  | some first, some last => some
      { reportId := first.reportId
        studentId := studentId
        reportMonth := month
        executionMode := first.executionMode
        generatedAt := some last.writtenAt
        lineageVersion := 1
        reportContent := some last.content }
  | _, _ => none

end Report

namespace Pipeline
open Calendar (Month)
open Snapshot Report Narratives

def generatedSegments (env : Surroundings) (month : Month) (executionMode : String) :
    List String → Warehouse → List Generated
  | [], _ => []
  | segment :: rest, w =>
    generatedEach env.platform env.reportCall (cohortArgs month executionMode)
        (cohort w segment month) w ++
      match generateCohortReport env.platform env.reportCall segment month executionMode w with
      | (_, .error _) => []
      | (w', .ok _) => generatedSegments env month executionMode rest w'

def generated (w : Warehouse) (request : Request) : List Generated :=
  let env := request.env
  match request.operation with
  | .assemble _ => []
  | .assembleAll _ _ _ => []
  | .backfillNarratives => []
  | .finalizeReports month executionMode =>
    generatedSegments env month executionMode segments (backfill env.platform w)
  | .generateStudent args =>
    match generateStudentReport env.platform (env.reportCall args.studentId) w args with
    | .error _ => []
    | .ok (_, result) => generatedBy args (env.reportCall args.studentId).now result
  | .generateCohort cohortId month executionMode =>
    generatedEach env.platform env.reportCall (cohortArgs month executionMode)
      (cohort w cohortId month) w
  | .generateAll month executionMode => generatedSegments env month executionMode segments w
  | .monthlyRun month executionMode configVersionId =>
    match assembleAllActiveSnapshots env.parseUuid env.platform env.snapshotCall month
        executionMode configVersionId w with
    | (_, .error _) => []
    | (w', .ok _) => generatedSegments env month executionMode segments w'

def generatedRun : Warehouse → List Request → List Generated
  | _, [] => []
  | w, request :: requests => generated w request ++ generatedRun (serve w request) requests

/-- The reports of the warehouse are those that the trace leaves to read. -/
def Shows (w : Warehouse) (trace : List Generated) : Prop :=
  ∀ studentId month, getReportContent w studentId month = shown trace studentId month

theorem shows_empty : Shows emptyWarehouse [] := fun _ _ => rfl

/-- There is one published report of a student and a month at most. -/
theorem getReportContent_eq (hw : Regular sha256 w) (studentId : Int) (month : Month) :
    getReportContent w studentId month =
      (w.publishedReport (toString studentId, month, 1)).map (readOf studentId month) := by
  have hrow : ∀ r ∈ w.monthlyReports.rows, (decide (r.cohortId = toString studentId) &&
      decide (r.reportMonth = month) && r.published) =
        (decide (r.publication = (toString studentId, month, 1)) && r.published) := by
    intro r hr
    obtain ⟨-, s, -, hpublication, -⟩ := hw.report r hr
    have hlineage : r.lineageVersion = 1 := congrArg (·.2.2) hpublication
    rw [Bool.eq_iff_iff]
    simp [MonthlyReports.publication, hlineage]
  rw [getReportContent, publishedRows, List.filter_congr hrow]
  cases hfound : w.publishedReport (toString studentId, month, 1) with
  | none =>
    have hnone : (w.monthlyReports.rows.filter fun r =>
        decide (r.publication = (toString studentId, month, 1)) && r.published) = [] := by
      rw [List.filter_eq_nil_iff]
      exact List.find?_eq_none.1 hfound
    rw [hnone]
    rfl
  | some r =>
    obtain ⟨hr, hpublished, hpublication⟩ := w.publishedReport_eq_some hfound
    let t : Table MonthlyReports (·.publication) :=
      ⟨w.monthlyReports.rows.filter (·.published), w.uqPublishedLineage⟩
    have hone := Table.filter_of_find? (Table.find?_of_mem (t := t)
      (List.mem_filter.2 ⟨hr, hpublished⟩))
    rw [List.filter_filter, hpublication] at hone
    rw [hone]
    rfl

theorem publishedReport_updateReport (w : Warehouse) (hexisting : existing ∈ w.monthlyReports.rows)
    (hstatus : existing.published = true) {f : MonthlyReports → MonthlyReports}
    (hf : ∀ r, (f r).id = r.id ∧ (f r).published = r.published ∧ (f r).publication = r.publication)
    (hkey : ∀ r ∈ w.monthlyReports.rows, r.id = existing.id → ∀ r' ∈ w.monthlyReports.rows,
      r'.id ≠ existing.id → r'.reportIdempotencyKey ≠ (f r).reportIdempotencyKey)
    (publication : String × Month × Int) :
    (w.updateReport existing.id f hf hkey).publishedReport publication =
      if publication = existing.publication then some (f existing)
      else w.publishedReport publication := by
  have hsame : ∀ r : MonthlyReports, (decide ((if r.id = existing.id then f r else r).publication =
        publication) && (if r.id = existing.id then f r else r).published) =
      (decide (r.publication = publication) && r.published) := by
    intro r
    by_cases h : r.id = existing.id <;> simp [h, (hf r).2]
  rw [Warehouse.publishedReport, Warehouse.updateReport]
  dsimp only
  rw [Table.update_rows, List.find?_map]
  simp only [Function.comp_def, hsame]
  split_ifs with hpublication
  · have hfound : w.publishedReport publication = some existing := by
      have hone := Table.find?_of_mem
        (t := ⟨w.monthlyReports.rows.filter (·.published), w.uqPublishedLineage⟩)
        (List.mem_filter.2 ⟨hexisting, hstatus⟩)
      rw [Table.find?, List.find?_filter, ← hpublication] at hone
      rw [Warehouse.publishedReport, ← hone]
      congr 1
      funext r
      rw [Bool.eq_iff_iff]
      simp [and_comm]
    rw [← Warehouse.publishedReport, hfound, Option.map_some, if_pos rfl]
  · cases hfound : w.publishedReport publication with
    | none =>
      rw [← Warehouse.publishedReport, hfound]
      rfl
    | some r =>
      obtain ⟨hr, -, hrow⟩ := w.publishedReport_eq_some hfound
      have hne : r.id ≠ existing.id := by
        intro hid
        obtain rfl : r = existing :=
          List.inj_on_of_nodup_map w.monthlyReports.unique hr hexisting hid
        exact hpublication hrow.symm
      rw [← Warehouse.publishedReport, hfound, Option.map_some, if_neg hne]

theorem publishedReport_insertReport (w : Warehouse) {report : Nat → MonthlyReports}
    (hid : ∀ n, (report n).id = n)
    (hkey : ∀ n, ∀ r ∈ w.monthlyReports.rows,
      r.reportIdempotencyKey ≠ (report n).reportIdempotencyKey)
    (hpublication : ∀ n, ∀ r ∈ w.monthlyReports.rows, r.published = true →
      r.publication ≠ (report n).publication)
    (hpublished : ∀ n, (report n).published = true) (publication : String × Month × Int) :
    (w.insertReport report hid hkey hpublication).publishedReport publication =
      if publication = (report w.monthlyReports.nextId).publication then
        some (report w.monthlyReports.nextId)
      else w.publishedReport publication := by
  rw [Warehouse.publishedReport, Warehouse.insertReport]
  dsimp only
  rw [Table.insertNew_rows, List.find?_append, ← Warehouse.publishedReport, List.find?_singleton,
    hpublished, Bool.and_true]
  simp only [decide_eq_true_eq]
  split_ifs with hnew hsame hsame
  · have hnone : w.publishedReport publication = none := by
      rw [w.publishedReport_eq_none_iff]
      exact fun r hr hstatus heq => hpublication _ r hr hstatus (heq.trans hnew.symm)
    rw [hnone]
    rfl
  · exact absurd hnew.symm hsame
  · exact absurd hsame.symm hnew
  · exact Option.or_none

/-- What the writer leaves under each publication: the refreshed report or a fresh one, and the
others as they were. -/
theorem insertMonthlyReport_written (hw : Regular call.sha256 w)
    (hdistinct : Distinct call.sha256 w)
    (hs : s ∈ w.studentSnapshots.rows) (hkey : s.key = (args.studentId, args.snapshotMonth))
    (h : insertMonthlyReport call w args snapshotId content 1 = .ok (w', reportId)) :
    ∃ r, (∀ publication, w'.publishedReport publication =
        if publication = args.publication 1 then some r else w.publishedReport publication) ∧
      r.id = reportId ∧ r.lineageVersion = 1 ∧ r.reportContent = some content ∧
      r.generatedAt = some call.now ∧
      match w.publishedReport (args.publication 1) with
      | some existing => r.id = existing.id ∧ r.executionMode = existing.executionMode
      | none => r.executionMode = args.executionMode := by
  obtain ⟨hid, hmonth⟩ := Prod.mk.inj hkey
  rw [insertMonthlyReport] at h
  rw [Py.bind_eq_ok] at h
  obtain ⟨correlationId, -, h⟩ := h
  split at h
  · next existing hpublished =>
    obtain ⟨hexisting, hstatus, hpublication⟩ := w.publishedReport_eq_some hpublished
    split at h
    · next hothers =>
      cases h
      refine ⟨refresh content snapshotId (reportIdempotencyKey call.sha256 args.studentId
        args.snapshotMonth 1) call.now existing, ?_, rfl, ?_, rfl, rfl, ?_⟩
      · intro publication
        refine (publishedReport_updateReport w hexisting hstatus _ _ publication).trans ?_
        rw [hpublication]
      · exact congrArg (·.2.2) hpublication
      · rw [hpublished]
        exact ⟨rfl, rfl⟩
    · cases h
  · next hpublished =>
    split at h
    · next existing hreport =>
      have hfound := List.find?_some hreport
      rw [decide_eq_true_eq] at hfound
      have hmem := List.mem_of_find?_eq_some hreport
      rw [← hid, ← hmonth] at hfound
      have hpublication := hw.publication_of_key hdistinct hmem hs hfound
      rw [publicationOf, hid, hmonth] at hpublication
      exact absurd hpublication
        (w.publishedReport_eq_none_iff.1 hpublished existing hmem (hw.report existing hmem).1)
    · cases h
      refine ⟨freshReport args content snapshotId 1 (reportIdempotencyKey call.sha256
        args.studentId args.snapshotMonth 1) correlationId call.now w.monthlyReports.nextId,
        ?_, rfl, rfl, rfl, rfl, ?_⟩
      · intro publication
        exact publishedReport_insertReport w _ _ _ (fun _ => rfl) publication
      · rw [hpublished]
        rfl

theorem shown_nil (h : ofStudent trace studentId month = []) :
    shown trace studentId month = none := by
  rw [shown, h]
  rfl

theorem shown_isSome (h : g ∈ ofStudent trace studentId month) :
    ∃ first last, (ofStudent trace studentId month).head? = some first ∧
      (ofStudent trace studentId month).getLast? = some last := by
  have hne : ofStudent trace studentId month ≠ [] := List.ne_nil_of_mem h
  exact ⟨_, _, List.head?_eq_some_head hne, List.getLast?_eq_some_getLast hne⟩

theorem shown_append_other {g : Generated} (h : ¬ (g.studentId = studentId ∧ g.month = month))
    (trace : List Generated) :
    shown (trace ++ [g]) studentId month = shown trace studentId month := by
  have hreports : ofStudent (trace ++ [g]) studentId month = ofStudent trace studentId month := by
    rw [ofStudent, List.filter_append, List.filter_cons_of_neg (by simpa using h), List.filter_nil,
      List.append_nil]
    rfl
  rw [shown, shown, hreports]

theorem shown_append_same {g : Generated} (trace : List Generated) :
    shown (trace ++ [g]) g.studentId g.month = some
      { reportId := ((shown trace g.studentId g.month).map (·.reportId)).getD g.reportId
        studentId := g.studentId
        reportMonth := g.month
        executionMode := ((shown trace g.studentId g.month).map (·.executionMode)).getD
          g.executionMode
        generatedAt := some g.writtenAt
        lineageVersion := 1
        reportContent := some g.content } := by
  have hreports : ofStudent (trace ++ [g]) g.studentId g.month =
      ofStudent trace g.studentId g.month ++ [g] := by
    rw [ofStudent, List.filter_append, List.filter_cons_of_pos (by simp), List.filter_nil]
    rfl
  rw [shown, shown, hreports]
  cases ofStudent trace g.studentId g.month with
  | nil => rfl
  | cons first rest =>
    have hne : first :: rest ≠ [] := List.cons_ne_nil first rest
    rw [List.getLast?_concat, List.getLast?_eq_some_getLast hne]
    rfl

/-- A regular warehouse shows the trace, if its digests tell the reports apart. -/
structure Tracks (sha256 : String → String) (w : Warehouse) (trace : List Generated) : Prop where
  regular : Regular sha256 w
  shows : Distinct sha256 w → Shows w trace

theorem generateStudentReport_tracks (hw : Tracks call.sha256 w trace)
    (h : generateStudentReport platform call w args = .ok (w', result)) :
    Tracks call.sha256 w' (trace ++ generatedBy args call.now result) := by
  have hregular := generateStudentReport_regular hw.regular h
  refine ⟨hregular, fun hdistinct' => ?_⟩
  have hdistinct : Distinct call.sha256 w :=
    (generateStudentReport_sameSnapshots h).distinct_iff.1 hdistinct'
  have hshows := hw.shows hdistinct
  rcases generateStudentReport_cases h with
    ⟨hnone, rfl⟩ | ⟨loaded, content, reportId, hloaded, hinsert, rfl⟩
  · have hresult : generatedBy args call.now result = [] := by
      rw [generateStudentReport, hnone] at h
      cases h
      rfl
    rw [hresult, List.append_nil]
    exact hshows
  · obtain ⟨hs, -, hkey⟩ := loadFinalizedSnapshot_eq_some hloaded
    rw [hw.regular.lineageOf hs] at hinsert
    obtain ⟨r, hwritten, hid, hlineage, hcontent, hgenerated, hfirst⟩ :=
      insertMonthlyReport_written hw.regular hdistinct hs hkey hinsert
    have hpublication : args.publication 1 = (toString args.studentId, args.snapshotMonth, 1) := rfl
    rw [hpublication] at hwritten hfirst
    intro studentId month
    rw [getReportContent_eq hregular, hwritten]
    have hbefore := hshows studentId month
    rw [getReportContent_eq hw.regular] at hbefore
    by_cases hsame : args.studentId = studentId ∧ args.snapshotMonth = month
    · obtain ⟨rfl, rfl⟩ := hsame
      have happend := shown_append_same (g := ⟨args.studentId, args.snapshotMonth, reportId,
        args.executionMode, content, call.now⟩) trace
      rw [generatedBy, happend, ← hbefore, if_pos rfl]
      cases hexisting : w.publishedReport (toString args.studentId, args.snapshotMonth, 1) with
      | none =>
        rw [hexisting] at hfirst
        simp only [Option.map_some, Option.map_none, Option.getD_none, readOf, hid, hfirst,
          hlineage,
          hcontent, hgenerated]
      | some existing =>
        rw [hexisting] at hfirst
        simp only [Option.map_some, Option.getD_some, readOf, hfirst.1, hfirst.2, hlineage,
          hcontent,
          hgenerated]
    · rw [generatedBy, shown_append_other hsame, ← hbefore, if_neg]
      intro hother
      obtain ⟨hcohort, hrest⟩ := Prod.mk.inj hother
      exact hsame ⟨Py.intText_injective hcohort.symm, (congrArg Prod.fst hrest).symm⟩

/-- What one report keeps of the warehouse and of what has been generated, the loop of a cohort
keeps. -/
theorem generatedEach_induction {P : Warehouse → List Generated → Prop}
    (hreport : ∀ sid w trace w' result,
      generateStudentReport platform (calls sid) w (args sid) = .ok (w', result) → P w trace →
      P w' (trace ++ generatedBy (args sid) (calls sid).now result))
    (counts : CohortCounts) (sids : List Int) (hw : P w trace) :
    P (generateEach platform calls args counts sids w).1
      (trace ++ generatedEach platform calls args sids w) := by
  induction sids generalizing counts w trace with
  | nil =>
    rw [generatedEach, List.append_nil]
    exact hw
  | cons sid sids ih =>
    rw [generateEach, generatedEach]
    cases hone : generateStudentReport platform (calls sid) w (args sid) with
    | error e =>
      rw [List.append_nil]
      exact hw
    | ok generated =>
      have hall := ih (counts.add generated.2) (hreport sid w trace _ _ hone hw)
      rw [List.append_assoc] at hall
      exact hall

theorem generatedSegments_induction {P : Warehouse → List Generated → Prop}
    (hreport : ∀ sid w args trace w' result,
      generateStudentReport env.platform (env.reportCall sid) w args = .ok (w', result) →
      P w trace → P w' (trace ++ generatedBy args (env.reportCall sid).now result))
    (cohorts : List String) (hw : P w trace) :
    P (generateSegments env month executionMode cohorts w)
      (trace ++ generatedSegments env month executionMode cohorts w) := by
  induction cohorts generalizing w trace with
  | nil =>
    rw [generatedSegments, List.append_nil]
    exact hw
  | cons segment cohorts ih =>
    have hcohort : P (generateCohortReport env.platform env.reportCall segment month
        executionMode w).1 (trace ++ generatedEach env.platform env.reportCall
          (cohortArgs month executionMode) (cohort w segment month) w) :=
      generatedEach_induction
        (fun sid w trace w' result h hw => hreport sid w _ trace w' result h hw)
        {} _ hw
    rw [generateSegments, generatedSegments, ← List.append_assoc]
    cases hresult :
        generateCohortReport env.platform env.reportCall segment month executionMode w with
    | mk w' counts =>
      rw [hresult] at hcohort
      cases counts with
      | error e =>
        rw [List.append_nil]
        exact hcohort
      | ok counts => exact ih hcohort

/-- What an assembly, the backfill and a report keep of the warehouse and of what has been
generated, every request keeps. -/
theorem serve_generated_induction {P : Warehouse → List Generated → Prop} (request : Request)
    (hbackfill : ∀ w trace, P w trace → P (backfill request.env.platform w) trace)
    (hassemble : ∀ call w args trace w' result,
      assembleSnapshot request.env.parseUuid request.env.platform call w args = .ok (w', result) →
      P w trace → P w' trace)
    (hreport : ∀ sid w args trace w' result,
      generateStudentReport request.env.platform (request.env.reportCall sid) w args =
        .ok (w', result) →
      P w trace → P w' (trace ++ generatedBy args (request.env.reportCall sid).now result))
    (hw : P w trace) : P (serve w request) (trace ++ generated w request) := by
  obtain ⟨env, operation⟩ := request
  cases operation with
  | assemble args =>
    rw [generated, List.append_nil]
    exact committed_of (P := (P · trace)) hw fun w' result h => hassemble _ _ _ _ _ _ h hw
  | assembleAll month executionMode configVersionId =>
    rw [generated, List.append_nil]
    exact assembleEach_induction (P := (P · trace))
      (fun call w args w' result h hw => hassemble call w args trace w' result h hw) {} _ hw
  | backfillNarratives =>
    rw [generated, List.append_nil]
    exact hbackfill w trace hw
  | finalizeReports month executionMode =>
    exact generatedSegments_induction hreport segments (hbackfill w trace hw)
  | generateStudent args =>
    dsimp only [serve, generated]
    cases hone : generateStudentReport env.platform (env.reportCall args.studentId) w args with
    | error e =>
      rw [List.append_nil]
      exact hw
    | ok result => exact hreport _ _ _ _ _ _ hone hw
  | generateCohort cohortId month executionMode =>
    exact generatedEach_induction
      (fun sid w trace w' result h hw => hreport sid w _ trace w' result h hw)
      {} _ hw
  | generateAll month executionMode => exact generatedSegments_induction hreport segments hw
  | monthlyRun month executionMode configVersionId =>
    have hassembled : P (assembleAllActiveSnapshots env.parseUuid env.platform env.snapshotCall
        month executionMode configVersionId w).1 trace :=
      assembleEach_induction (P := (P · trace))
        (fun call w args w' result h hw => hassemble call w args trace w' result h hw) {} _ hw
    dsimp only [serve, generated]
    rw [runMonthlyReports]
    cases hall : assembleAllActiveSnapshots env.parseUuid env.platform env.snapshotCall month
        executionMode configVersionId w with
    | mk w' counts =>
      rw [hall] at hassembled
      cases counts with
      | error e =>
        rw [List.append_nil]
        exact hassembled
      | ok counts => exact generatedSegments_induction hreport segments hassembled

/-- What every request that `Q` allows keeps, a run of such requests keeps. -/
theorem run_generated_induction {P : Warehouse → List Generated → Prop} {Q : Request → Prop}
    (hserve : ∀ w trace request, Q request → P w trace →
      P (serve w request) (trace ++ generated w request))
    (hrequests : Runs.EveryStep serve (fun _ => Q) w requests) (hw : P w trace) :
    P (Runs.final serve w requests) (trace ++ generatedRun w requests) := by
  induction requests generalizing w trace with
  | nil =>
    rw [generatedRun, List.append_nil]
    exact hw
  | cons request requests ih =>
    have hall := ih hrequests.2 (hserve w trace request hrequests.1 hw)
    rw [List.append_assoc] at hall
    exact hall

theorem Shows.congr (h : Shows w trace) (hreports : w'.monthlyReports = w.monthlyReports) :
    Shows w' trace := by
  intro studentId month
  rw [← h studentId month, getReportContent, getReportContent, publishedRows, publishedRows,
    hreports]

/-- Digests that tell the reports of later snapshots apart tell those of the earlier ones apart. -/
theorem Distinct.earlier (hdistinct : Distinct sha256 w') (hw : Regular sha256 w)
    (hkept : KeepsSnapshots w w') : Distinct sha256 w := by
  intro s hs s' hs' heq
  exact hdistinct s (hkept s hs (hw.snapshot s hs).1) s' (hkept s' hs' (hw.snapshot s' hs').1) heq

/-- What a request generates is what is read after it. -/
theorem serve_tracks (hw : Tracks sha256 w trace) (hhash : Hashes sha256 request) :
    Tracks sha256 (serve w request) (trace ++ generated w request) := by
  refine serve_generated_induction (P := Tracks sha256) request ?_ ?_ ?_ hw
  · intro w trace hw
    exact ⟨backfill_regular _ hw.regular, fun hdistinct => (hw.shows hdistinct).congr rfl⟩
  · intro call w args trace w' result h hw
    have hkept : KeepsSnapshots w w' :=
      fun r hr hfinal => (assembleSnapshot_frozen h).snapshot r hr hfinal
    exact ⟨assembleSnapshot_regular hw.regular h, fun hdistinct =>
      (hw.shows (hdistinct.earlier hw.regular hkept)).congr (assembleSnapshot_monthlyReports h)⟩
  · intro sid w args trace w' result h hw
    rw [← hhash sid] at hw ⊢
    exact generateStudentReport_tracks hw h

theorem run_tracks
    (hhashes : Runs.EveryStep serve (fun _ => Hashes sha256) emptyWarehouse requests) :
    Tracks sha256 (Runs.final serve emptyWarehouse requests)
      (generatedRun emptyWarehouse requests) := by
  have hempty : Tracks sha256 emptyWarehouse [] := ⟨regular_empty sha256, fun _ => shows_empty⟩
  exact run_generated_induction (fun _ _ _ hhash hw => serve_tracks hw hhash) hhashes hempty

/-- After every run of the requests, what is read of a student's month is the content that was
generated last for it, under the id and the mode of the report that was generated first; and there
is nothing to read exactly if nothing was generated. -/
theorem report_read_is_last_generated (sha256 : String → String) (requests : List Request)
    (hhashes : Runs.EveryStep serve (fun _ => Hashes sha256) emptyWarehouse requests)
    (hdistinct : Distinct sha256 (Runs.final serve emptyWarehouse requests)) (studentId : Int)
    (month : Month) :
    getReportContent (Runs.final serve emptyWarehouse requests) studentId month =
        shown (generatedRun emptyWarehouse requests) studentId month ∧
      ((getMonthlyReport (Runs.final serve emptyWarehouse requests) studentId month).status =
        "error" ↔ ∀ g ∈ generatedRun emptyWarehouse requests,
          ¬ (g.studentId = studentId ∧ g.month = month)) := by
  have hread := (run_tracks hhashes).shows hdistinct studentId month
  refine ⟨hread, ?_⟩
  rw [getMonthlyReport, hread]
  constructor
  · intro herror g hg hsame
    have hmem : g ∈ ofStudent (generatedRun emptyWarehouse requests) studentId month :=
      List.mem_filter.2 ⟨hg, decide_eq_true hsame⟩
    obtain ⟨first, last, hfirst, hlast⟩ := shown_isSome hmem
    rw [shown, hfirst, hlast] at herror
    exact absurd (show "success" = "error" from herror) (by decide)
  · intro hnone
    have hempty : ofStudent (generatedRun emptyWarehouse requests) studentId month = [] := by
      rw [ofStudent, List.filter_eq_nil_iff]
      exact fun g hg hsame => hnone g hg (of_decide_eq_true hsame)
    rw [shown_nil hempty]
    rfl

def januaryRun : Request where
  env := digestSurroundings 0
  operation := .monthlyRun january "SHADOW" none

/-- The cohort reports once more, at the next instant. -/
def januaryRefresh : Request where
  env := digestSurroundings 1
  operation := .finalizeReports january "SHADOW"

theorem januaryRefresh_snapshots :
    (Runs.final serve emptyWarehouse [januaryRun, januaryRefresh]).studentSnapshots.rows =
      [assembledRow, secondRow] := by
  refine Eq.trans ?_ digestSurroundings_rows
  exact congrArg Table.rows (generateSegments_sameSnapshots segments _).1

/-- What is read for the second student is his refreshed report. -/
theorem januaryRun_read_is_last_generated :
    getReportContent (Runs.final serve emptyWarehouse [januaryRun, januaryRefresh]) 8 january =
      shown (generatedRun emptyWarehouse [januaryRun, januaryRefresh]) 8 january :=
  (report_read_is_last_generated _ [januaryRun, januaryRefresh]
    ⟨fun _ => rfl, fun _ => rfl, trivial⟩ (distinct_of_rows januaryRefresh_snapshots) 8 january).1

end Pipeline
end StudentSuccess
