import StudentSuccess.PublishedReports
import StudentSuccess.ResponseIntervals
import StudentSuccess.SnapshotUniqueness

namespace StudentSuccess
set_option autoImplicit true
open Calendar (Month)

namespace Report

theorem reportContent_ends (platform : Platform) (call : Call) (w : Warehouse) (args : ReportArgs)
    (loaded : LoadedSnapshot) :
    ∃ content, reportContent platform call w args loaded = .ok content := by
  obtain ⟨intel, hintel, -⟩ :=
    ResponseIntervals.loadOutreachIntelligence_avg platform args.studentId args.snapshotMonth
  rw [reportContent]
  dsimp only
  rw [hintel]
  exact ⟨_, rfl⟩

/-- Each row that the writer leaves was there before, or is the published report of the call under
its idempotency key. -/
theorem insertMonthlyReport_mem
    (h : insertMonthlyReport call w args snapshotId content lineageVersion = .ok (w', reportId))
    (hr : r ∈ w'.monthlyReports.rows) :
    r ∈ w.monthlyReports.rows ∨
      r.published = true ∧ r.publication = args.publication lineageVersion ∧
        r.reportIdempotencyKey =
          reportIdempotencyKey call.sha256 args.studentId args.snapshotMonth lineageVersion := by
  rw [insertMonthlyReport] at h
  rw [Py.bind_eq_ok] at h
  obtain ⟨correlationId, -, h⟩ := h
  split at h
  · next existing hpublished =>
    split at h
    · cases h
      obtain ⟨hexisting, hstatus, hpublication⟩ := w.publishedReport_eq_some hpublished
      obtain ⟨r', hr', rfl⟩ := List.mem_map.1 hr
      by_cases hid : r'.id = existing.id
      · cases List.inj_on_of_nodup_map w.monthlyReports.unique hr' hexisting hid
        rw [if_pos rfl]
        exact .inr ⟨hstatus, hpublication, rfl⟩
      · rw [if_neg hid]
        exact .inl hr'
    · cases h
  · split at h
    · cases h
      exact .inl hr
    · cases h
      rcases List.mem_append.1 hr with hr | hr
      · exact .inl hr
      · cases List.mem_singleton.1 hr
        exact .inr ⟨rfl, rfl, rfl⟩

end Report

namespace Pipeline
open Snapshot Report Narratives

theorem classifySegment_mem (today : Calendar.Day) (student : MirrorColumns) :
    classifySegment today student ∈ segments := by
  unfold classifySegment
  dsimp only
  split
  · decide
  · split
    · decide
    · split
      · decide
      · split
        · split <;> decide
        · decide

/-- The publication of the report that is made of the snapshot. -/
def publicationOf (s : StudentSnapshots) : String × Month × Int :=
  (toString s.studentId, s.snapshotMonth, 1)

def keyOf (sha256 : String → String) (s : StudentSnapshots) : String :=
  reportIdempotencyKey sha256 s.studentId s.snapshotMonth 1

/-- What the rows of a warehouse are that only the requests have written: snapshots of one of the
cohorts, and published reports of them. -/
structure Regular (sha256 : String → String) (w : Warehouse) : Prop where
  snapshot : ∀ s ∈ w.studentSnapshots.rows, s.finalized = true ∧ s.lineageVersion = 1 ∧
    ∃ segment ∈ segments, s.segmentClassification = some segment
  report : ∀ r ∈ w.monthlyReports.rows, r.published = true ∧
    ∃ s ∈ w.studentSnapshots.rows,
      r.publication = publicationOf s ∧ r.reportIdempotencyKey = keyOf sha256 s

theorem regular_empty (sha256 : String → String) : Regular sha256 emptyWarehouse where
  snapshot _ hs := nomatch hs
  report _ hr := nomatch hr

/-- More snapshots of the cohorts leave a warehouse regular. -/
theorem Regular.append_snapshots (hw : Regular sha256 w)
    (hsnapshots : w'.studentSnapshots.rows = w.studentSnapshots.rows ++ added)
    (hadded : ∀ s ∈ added, s.finalized = true ∧ s.lineageVersion = 1 ∧
      ∃ segment ∈ segments, s.segmentClassification = some segment)
    (hreports : w'.monthlyReports = w.monthlyReports) : Regular sha256 w' := by
  constructor
  · intro s hs
    rw [hsnapshots] at hs
    rcases List.mem_append.1 hs with hs | hs
    · exact hw.snapshot s hs
    · exact hadded s hs
  · intro r hr
    rw [hreports] at hr
    obtain ⟨hpublished, s, hs, hrow⟩ := hw.report r hr
    exact ⟨hpublished, s, hsnapshots ▸ List.mem_append_left _ hs, hrow⟩

theorem backfill_regular (platform : Platform) (hw : Regular sha256 w) :
    Regular sha256 (backfill platform w) := ⟨hw.snapshot, hw.report⟩

theorem assembleSnapshot_monthlyReports
    (h : assembleSnapshot parseUuid platform call w args = .ok (w', result)) :
    w'.monthlyReports = w.monthlyReports := by
  rw [assembleSnapshot] at h
  split at h
  · cases h
    rfl
  · split at h
    · cases h
      rfl
    · rw [Py.bind_eq_ok] at h
      obtain ⟨correlationId, -, h⟩ := h
      cases h
      rfl

theorem assembleSnapshot_regular (hw : Regular sha256 w)
    (h : assembleSnapshot parseUuid platform call w args = .ok (w', result)) :
    Regular sha256 w' := by
  have hreports := assembleSnapshot_monthlyReports h
  cases assembleSnapshot_cases h with
  | «exists» existing hfound hsame => exact hsame ▸ hw
  | error message hstudent hsame => exact hsame ▸ hw
  | created student correlationId segment risk mode available hnone hstudent huuid hsnapshots =>
    refine hw.append_snapshots hsnapshots ?_ hreports
    intro s hs
    cases List.mem_singleton.1 hs
    exact ⟨rfl, rfl, _, classifySegment_mem _ _, rfl⟩

theorem loadFinalizedSnapshot_eq_some
    (h : loadFinalizedSnapshot w studentId month = some loaded) :
    loaded.snapshot ∈ w.studentSnapshots.rows ∧ loaded.snapshot.finalized = true ∧
      loaded.snapshot.key = (studentId, month) := by
  obtain ⟨s, hs, rfl⟩ := Option.map_eq_some_iff.1 h
  exact w.finalizedSnapshot_eq_some hs

theorem Regular.lineageOf (hw : Regular sha256 w) (hs : s ∈ w.studentSnapshots.rows) :
    Report.lineageOf s = 1 := by
  rw [Report.lineageOf, (hw.snapshot s hs).2.1]
  rfl

theorem generateStudentReport_regular (hw : Regular call.sha256 w)
    (h : generateStudentReport platform call w args = .ok (w', result)) :
    Regular call.sha256 w' := by
  obtain ⟨hsame, -⟩ := generateStudentReport_sameSnapshots h
  constructor
  · intro s hs
    exact hw.snapshot s (hsame ▸ hs)
  · rcases generateStudentReport_cases h with
      ⟨-, rfl⟩ | ⟨loaded, content, reportId, hloaded, hinsert, -⟩
    · exact hw.report
    · obtain ⟨hs, -, hkey⟩ := loadFinalizedSnapshot_eq_some hloaded
      obtain ⟨hid, hmonth⟩ := Prod.mk.inj hkey
      intro r hr
      rcases insertMonthlyReport_mem hinsert hr with hr | ⟨hpublished, hpublication, hrkey⟩
      · obtain ⟨hpublished, s, hs, hrow⟩ := hw.report r hr
        exact ⟨hpublished, s, hsame ▸ hs, hrow⟩
      · rw [hw.lineageOf hs] at hpublication hrkey
        refine ⟨hpublished, loaded.snapshot, hsame ▸ hs, ?_, ?_⟩
        · rw [hpublication, publicationOf, hid, hmonth]
          rfl
        · rw [hrkey, keyOf, hid, hmonth]

theorem generateStudentReport_hashed (hhash : call.sha256 = sha256) (hw : Regular sha256 w)
    (h : generateStudentReport platform call w args = .ok (w', result)) : Regular sha256 w' := by
  subst hhash
  exact generateStudentReport_regular hw h

/-- Every call of the request hashes with the function. -/
def Hashes (sha256 : String → String) (request : Request) : Prop :=
  ∀ sid, (request.env.reportCall sid).sha256 = sha256

theorem serve_regular (hw : Regular sha256 w) (hhash : Hashes sha256 request) :
    Regular sha256 (serve w request) := by
  refine serve_steps (P := Regular sha256) w request (fun _ => backfill_regular _)
    (fun _ _ _ _ _ h hw => assembleSnapshot_regular hw h) ?_ hw
  exact fun sid _ _ _ _ h hw => generateStudentReport_hashed (hhash sid) hw h

/-- The digests tell the snapshots' reports apart. -/
def Distinct (sha256 : String → String) (w : Warehouse) : Prop :=
  ∀ s ∈ w.studentSnapshots.rows, ∀ s' ∈ w.studentSnapshots.rows,
    keyOf sha256 s = keyOf sha256 s' → s.key = s'.key

def Reported (w : Warehouse) (studentId : Int) (month : Month) : Prop :=
  ∃ r ∈ w.monthlyReports.rows, r.published = true ∧ r.publication = (toString studentId, month, 1)

theorem Regular.publication_of_key (hw : Regular sha256 w) (hdistinct : Distinct sha256 w)
    (hr : r ∈ w.monthlyReports.rows) (hs : s ∈ w.studentSnapshots.rows)
    (hkey : r.reportIdempotencyKey = keyOf sha256 s) : r.publication = publicationOf s := by
  obtain ⟨-, s', hs', hpublication, hkey'⟩ := hw.report r hr
  have hsame : s'.key = s.key := hdistinct s' hs' s hs (hkey'.symm.trans hkey)
  obtain ⟨hid, hmonth⟩ := Prod.mk.inj hsame
  rw [hpublication, publicationOf, publicationOf, hid, hmonth]

theorem Reported.generated (hreported : Reported w studentId month)
    (h : generateStudentReport platform call w args = .ok (w', result)) :
    Reported w' studentId month := by
  rcases generateStudentReport_cases h with ⟨-, rfl⟩ | ⟨loaded, content, reportId, -, hinsert, -⟩
  · exact hreported
  · obtain ⟨r, hr, hpublished, hpublication⟩ := hreported
    rcases insertMonthlyReport_cases hinsert with
      ⟨existing, -, key, hrows⟩ | ⟨-, rfl | ⟨report, -, hrows⟩⟩
    · refine ⟨_, hrows ▸ List.mem_map_of_mem hr, ?_⟩
      by_cases hid : r.id = existing.id
      · rw [if_pos hid]
        exact ⟨hpublished, hpublication⟩
      · rw [if_neg hid]
        exact ⟨hpublished, hpublication⟩
    · exact ⟨r, hr, hpublished, hpublication⟩
    · exact ⟨r, hrows ▸ List.mem_append_left _ hr, hpublished, hpublication⟩

/-- The writer publishes the report of a snapshot, whatever reports there are. -/
theorem insertMonthlyReport_ends (hw : Regular call.sha256 w) (hdistinct : Distinct call.sha256 w)
    (hs : s ∈ w.studentSnapshots.rows) (hkey : s.key = (args.studentId, args.snapshotMonth))
    (hargs : args.correlationId = none) :
    ∃ w' reportId, insertMonthlyReport call w args snapshotId content 1 = .ok (w', reportId) ∧
      Reported w' args.studentId args.snapshotMonth := by
  obtain ⟨hid, hmonth⟩ := Prod.mk.inj hkey
  have huuid : callUuid call.parseUuid call.uuid args.correlationId = .ok call.uuid.1 := by
    rw [hargs]
    rfl
  have hnone : ∀ r ∈ w.monthlyReports.rows, r.reportIdempotencyKey =
      reportIdempotencyKey call.sha256 args.studentId args.snapshotMonth 1 →
      r.publication = args.publication 1 := by
    intro r hr hrkey
    rw [← hid, ← hmonth] at hrkey
    rw [hw.publication_of_key hdistinct hr hs hrkey, publicationOf, hid, hmonth]
    rfl
  rw [insertMonthlyReport]
  rw [huuid]
  dsimp only [bind, Except.bind]
  split
  · next existing hpublished =>
    obtain ⟨hexisting, hstatus, hpublication⟩ := w.publishedReport_eq_some hpublished
    have hothers : ∀ r ∈ w.monthlyReports.rows, r.id ≠ existing.id → r.reportIdempotencyKey ≠
        reportIdempotencyKey call.sha256 args.studentId args.snapshotMonth 1 := by
      intro r hr hne hrkey
      have hsame : r = existing := List.inj_on_of_nodup_map w.uqPublishedLineage
        (List.mem_filter.2 ⟨hr, (hw.report r hr).1⟩) (List.mem_filter.2 ⟨hexisting, hstatus⟩)
        ((hnone r hr hrkey).trans hpublication.symm)
      exact hne (congrArg (·.id) hsame)
    rw [dif_pos hothers]
    refine ⟨_, _, rfl, _, List.mem_map_of_mem hexisting, ?_⟩
    rw [if_pos rfl]
    exact ⟨hstatus, hpublication⟩
  · next hpublished =>
    split
    · next existing hreport =>
      have hfound := List.find?_some hreport
      rw [decide_eq_true_eq] at hfound
      have hmem := List.mem_of_find?_eq_some hreport
      exact absurd (hnone existing hmem hfound)
        (w.publishedReport_eq_none_iff.1 hpublished existing hmem (hw.report existing hmem).1)
    · exact ⟨_, _, rfl, _, List.mem_append_right _ (List.mem_singleton_self _), rfl, rfl⟩

theorem generateStudentReport_reports (hw : Regular call.sha256 w)
    (hdistinct : Distinct call.sha256 w) (hargs : args.correlationId = none)
    (hpresent : Present w (args.studentId, args.snapshotMonth)) :
    ∃ w' result, generateStudentReport platform call w args = .ok (w', result) ∧
      Reported w' args.studentId args.snapshotMonth := by
  obtain ⟨s, hs, hfinal, hkey⟩ := hpresent
  obtain ⟨loaded, hloaded, rfl⟩ : ∃ loaded, loadFinalizedSnapshot w args.studentId
      args.snapshotMonth = some loaded ∧ loaded.snapshot = s := by
    rw [loadFinalizedSnapshot, w.finalizedSnapshot_of_mem hs hfinal hkey]
    exact ⟨_, rfl, rfl⟩
  obtain ⟨content, hcontent⟩ := reportContent_ends platform call w args loaded
  obtain ⟨w', reportId, hinsert, hreported⟩ : ∃ w' reportId,
      insertMonthlyReport call w args loaded.snapshot.id content 1 = .ok (w', reportId) ∧
      Reported w' args.studentId args.snapshotMonth :=
    insertMonthlyReport_ends hw hdistinct hs hkey hargs
  refine ⟨w', .ok reportId args.executionMode content, ?_, hreported⟩
  rw [generateStudentReport]
  rw [hloaded]
  dsimp only
  rw [hcontent, hw.lineageOf hs]
  dsimp only [bind, Except.bind]
  rw [hinsert]
  rfl

theorem SameSnapshots.distinct_iff (h : SameSnapshots w w') :
    Distinct sha256 w' ↔ Distinct sha256 w := by
  simp only [Distinct]
  rw [h.1]

theorem SameSnapshots.present (h : SameSnapshots w w') (hw : Present w key) : Present w' key := by
  obtain ⟨s, hs, hrow⟩ := hw
  exact ⟨s, h.1 ▸ hs, hrow⟩

theorem SameSnapshots.cohort (h : SameSnapshots w w') (cohortId : String) (month : Month) :
    cohort w' cohortId month = cohort w cohortId month := by
  simp only [Report.cohort]
  rw [h.1]

/-- The loop over a cohort publishes the report of each of its students. -/
theorem generateEach_reports (hhash : ∀ sid, (calls sid).sha256 = sha256) (hw : Regular sha256 w)
    (hdistinct : Distinct sha256 w)
    (hpresent : ∀ sid ∈ sids, Present w (sid, month)) (counts : CohortCounts) :
    ∃ w' counts', generateEach platform calls (cohortArgs month executionMode) counts sids w =
        (w', .ok counts') ∧ ∀ sid ∈ sids, Reported w' sid month := by
  induction sids generalizing counts w with
  | nil => exact ⟨w, counts, rfl, fun _ hsid => nomatch hsid⟩
  | cons sid sids ih =>
    obtain ⟨w', result, hone, hreported⟩ : ∃ w' result, generateStudentReport platform (calls sid)
        w (cohortArgs month executionMode sid) = .ok (w', result) ∧ Reported w' sid month :=
      generateStudentReport_reports ((hhash sid).symm ▸ hw) ((hhash sid).symm ▸ hdistinct) rfl
        (hpresent sid (.head _))
    have hsame := generateStudentReport_sameSnapshots hone
    have hw' : Regular sha256 w' := generateStudentReport_hashed (hhash sid) hw hone
    obtain ⟨w'', counts', hrest, hreports⟩ := ih hw' (hsame.distinct_iff.2 hdistinct)
      (fun sid' hsid' => hsame.present (hpresent sid' (.tail _ hsid'))) (counts.add result)
    have hall : generateEach platform calls (cohortArgs month executionMode) counts (sid :: sids)
        w = (w'', .ok counts') := by
      rw [generateEach, hone]
      exact hrest
    refine ⟨w'', counts', hall, ?_⟩
    intro sid' hsid'
    cases hsid' with
    | head =>
      have hkept : Reported (generateEach platform calls (cohortArgs month executionMode)
          (counts.add result) sids w').1 sid month :=
        generateEach_induction (P := (Reported · sid month))
          (fun _ _ _ _ _ h hr => hr.generated h) _ _ hreported
      rw [hrest] at hkept
      exact hkept
    | tail _ hsid' => exact hreports sid' hsid'

theorem mem_cohort_present (h : sid ∈ cohort w cohortId month) : Present w (sid, month) := by
  obtain ⟨s, hs, rfl⟩ := List.mem_map.1 h
  obtain ⟨hmem, hrow⟩ := List.mem_filter.1 hs
  rw [Bool.and_eq_true, Bool.and_eq_true, decide_eq_true_eq, decide_eq_true_eq] at hrow
  exact ⟨s, hmem, hrow.1.2, Prod.ext rfl hrow.1.1⟩

/-- The job's loop publishes the report of each student in one of the cohorts. -/
theorem generateSegments_reports (hhash : ∀ sid, (env.reportCall sid).sha256 = sha256)
    (hw : Regular sha256 w) (hdistinct : Distinct sha256 w) (hsegment : cohortId ∈ cohorts)
    (hsid : sid ∈ cohort w cohortId month) :
    Reported (generateSegments env month executionMode cohorts w) sid month := by
  induction cohorts generalizing w with
  | nil => cases hsegment
  | cons first cohorts ih =>
    obtain ⟨w', counts, hfirst, hreports⟩ : ∃ w' counts, generateCohortReport env.platform
        env.reportCall first month executionMode w = (w', .ok counts) ∧
        ∀ sid ∈ cohort w first month, Reported w' sid month :=
      generateEach_reports hhash hw hdistinct (fun _ hsid => mem_cohort_present hsid) {}
    have hsame : SameSnapshots w (generateCohortReport env.platform env.reportCall first month
        executionMode w).1 := generateCohortReport_sameSnapshots w
    have hw' : Regular sha256 (generateCohortReport env.platform env.reportCall first month
        executionMode w).1 :=
      generateEach_induction (fun sid _ _ _ _ h hw => generateStudentReport_hashed (hhash sid) hw h)
        {} _ hw
    rw [hfirst] at hsame hw'
    rw [generateSegments, hfirst]
    dsimp only
    cases hsegment with
    | head =>
      exact generateSegments_induction (P := (Reported · sid month))
        (fun _ _ _ _ _ h hr => hr.generated h) cohorts (hreports sid hsid)
    | tail _ hsegment =>
      exact ih hw' (hsame.distinct_iff.2 hdistinct) hsegment
        ((hsame.cohort cohortId month).symm ▸ hsid)

/-- Students who have their snapshots get no other. -/
theorem assembleEach_of_present (hkey : ∀ sid, (args sid).key = (sid, month))
    (hpresent : ∀ sid ∈ sids, Present w (sid, month)) (counts : AssembleCounts) :
    (assembleEach parseUuid platform calls args counts sids w).1 = w := by
  induction sids generalizing counts with
  | nil => rfl
  | cons sid sids ih =>
    obtain ⟨s, hs, hfinal, hskey⟩ := hpresent sid (.head _)
    have hfound : w.finalizedSnapshot (args sid).studentId (args sid).snapshotMonth = some s :=
      w.finalizedSnapshot_of_mem hs hfinal (hskey.trans (hkey sid).symm)
    rw [assembleEach, assembleSnapshot_of_found hfound]
    exact ih (fun sid hsid => hpresent sid (.tail _ hsid)) _

/-- After the assembly the run writes no snapshot. -/
theorem runMonthlyReports_sameSnapshots (env : Surroundings) (month : Month)
    (executionMode : String) (configVersionId : Option String) (w : Warehouse) :
    SameSnapshots (assembleAllActiveSnapshots env.parseUuid env.platform env.snapshotCall month
        executionMode configVersionId w).1
      (runMonthlyReports env month executionMode configVersionId w) := by
  rw [runMonthlyReports]
  split
  · next w' e heq =>
    rw [heq]
    exact SameSnapshots.refl w'
  · next w' counts heq =>
    rw [heq]
    exact generateSegments_sameSnapshots segments w'

theorem runMonthlyReports_of_present
    (hpresent : ∀ student ∈ env.platform.triggerdata.rows, Present w (student.userId, month)) :
    SameSnapshots w (runMonthlyReports env month executionMode configVersionId w) := by
  have hassembled : (assembleAllActiveSnapshots env.parseUuid env.platform env.snapshotCall month
      executionMode configVersionId w).1 = w := by
    apply assembleEach_of_present (fun _ => rfl)
    intro sid hsid
    obtain ⟨student, hstudent, rfl⟩ := List.mem_map.1 hsid
    exact hpresent student hstudent
  have hsame := runMonthlyReports_sameSnapshots env month executionMode configVersionId w
  rw [hassembled] at hsame
  exact hsame

theorem mem_cohort_of_present (hw : Regular sha256 w) (h : Present w (sid, month)) :
    ∃ segment ∈ segments, sid ∈ cohort w segment month := by
  obtain ⟨s, hs, hfinal, hkey⟩ := h
  obtain ⟨-, -, segment, hsegment, hlabel⟩ := hw.snapshot s hs
  obtain ⟨rfl, rfl⟩ := Prod.mk.inj hkey
  refine ⟨segment, hsegment, List.mem_map.2 ⟨s, List.mem_filter.2 ⟨hs, ?_⟩, rfl⟩⟩
  rw [hfinal, hlabel, decide_eq_true rfl, decide_eq_true rfl]
  rfl

/-- What the monthly run leaves for the students it finds in the mirror. -/
structure CoversEveryone (env : Surroundings) (month : Month) (w : Warehouse) : Prop where
  snapshot : ∀ student ∈ env.platform.triggerdata.rows, Present w (student.userId, month)
  report : ∀ student ∈ env.platform.triggerdata.rows, Reported w student.userId month
  /-- A second run over the same students creates no further snapshot. -/
  rerun : ∀ env' executionMode configVersionId,
    (∀ student ∈ env'.platform.triggerdata.rows,
      student.userId ∈ env.platform.triggerdata.rows.map (·.userId)) →
    (runMonthlyReports env' month executionMode configVersionId w).studentSnapshots =
      w.studentSnapshots

/-- Whatever the requests before it were, the monthly run covers every student of the mirror, as
long as no two of the reports' digests agree. -/
theorem monthly_run_covers (sha256 : String → String) (requests : List Request)
    (hhashes : Runs.EveryStep serve (fun _ => Hashes sha256) emptyWarehouse requests)
    (env : Surroundings) (hhash : ∀ sid, (env.reportCall sid).sha256 = sha256) (month : Month)
    (executionMode : String) (configVersionId : Option String)
    (hdistinct : Distinct sha256 (runMonthlyReports env month executionMode configVersionId
      (Runs.final serve emptyWarehouse requests))) :
    CoversEveryone env month (runMonthlyReports env month executionMode configVersionId
        (Runs.final serve emptyWarehouse requests)) ∧
      ∀ today student, classifySegment today student ∈ segments := by
  refine ⟨?_, classifySegment_mem⟩
  have hw : Regular sha256 (Runs.final serve emptyWarehouse requests) :=
    hhashes.invariant (fun _ _ hw hhash => serve_regular hw hhash) (regular_empty sha256)
  obtain ⟨w', counts, hall, -, hpresent⟩ := assembleAll_counted env.parseUuid env.platform
    env.snapshotCall month executionMode configVersionId (Runs.final serve emptyWarehouse requests)
  have hw' : Regular sha256 (assembleAllActiveSnapshots env.parseUuid env.platform
      env.snapshotCall month executionMode configVersionId
      (Runs.final serve emptyWarehouse requests)).1 :=
    assembleEach_induction (fun _ _ _ _ _ h hw => assembleSnapshot_regular hw h) {} _ hw
  rw [hall] at hw'
  have hrun : runMonthlyReports env month executionMode configVersionId
      (Runs.final serve emptyWarehouse requests) =
      generateSegments env month executionMode segments w' := by
    rw [runMonthlyReports, hall]
  rw [hrun] at hdistinct ⊢
  have hsame : SameSnapshots w' (generateSegments env month executionMode segments w') :=
    generateSegments_sameSnapshots segments w'
  constructor
  · exact fun student hstudent => hsame.present (hpresent student hstudent)
  · intro student hstudent
    obtain ⟨segment, hsegment, hsid⟩ := mem_cohort_of_present hw' (hpresent student hstudent)
    exact generateSegments_reports hhash hw' (hsame.distinct_iff.1 hdistinct) hsegment hsid
  · intro env' executionMode' configVersionId' hmirror
    have hpresent' : ∀ student ∈ env'.platform.triggerdata.rows,
        Present (generateSegments env month executionMode segments w') (student.userId, month) := by
      intro student hstudent
      obtain ⟨student', hstudent', hid⟩ := List.mem_map.1 (hmirror student hstudent)
      exact hid ▸ hsame.present (hpresent student' hstudent')
    exact (runMonthlyReports_of_present hpresent').1

/-- The digests of the keys of the reports of two students. -/
def keyDigest (text : String) : String :=
  if text = "student:7|month:2026-01-01|lineage:1|template:1.2" then
    "c210b8711b9c1ac6c4728393c35af8e918a84b6774d2166ba1a114eb4391ffc4"
  else "9a7848bdc265b84f7509984e1882101cb36e2d27fa95546e8674749dd2078e53"

def secondMirrored : StudentTriggerData :=
  { mirrored with firstName := some "Alan", email := some "second@example.org", userId := 8 }

def digestSurroundings (now : Instant) : Surroundings :=
  { surroundings .empty with
    platform :=
      { platformWith .empty with triggerdata := ⟨[mirrored, secondMirrored], by decide⟩ }
    reportCall := fun studentId =>
      { (surroundings .empty).reportCall studentId with
        sha256 := keyDigest, generatedAt := now, now := now } }

def secondRow : StudentSnapshots :=
  finalizedRow (digestSurroundings 0).platform ((digestSurroundings 0).snapshotCall 8)
    { studentId := 8, snapshotMonth := january } "u-1" secondMirrored.toStudentState 2

theorem keyOf_secondRow : keyOf keyDigest assembledRow ≠ keyOf keyDigest secondRow := by
  decide +kernel

theorem distinct_of_rows (h : w.studentSnapshots.rows = [assembledRow, secondRow]) :
    Distinct keyDigest w := by
  intro s hs s' hs' hkey
  rw [h, List.mem_pair] at hs hs'
  rcases hs with rfl | rfl
  · rcases hs' with rfl | rfl
    · rfl
    · exact absurd hkey keyOf_secondRow
  · rcases hs' with rfl | rfl
    · exact absurd hkey.symm keyOf_secondRow
    · rfl

theorem digestSurroundings_rows :
    (runMonthlyReports (digestSurroundings 0) january "SHADOW" none
      emptyWarehouse).studentSnapshots.rows = [assembledRow, secondRow] := by
  obtain ⟨hsame, -⟩ := runMonthlyReports_sameSnapshots (digestSurroundings 0) january "SHADOW" none
    emptyWarehouse
  have hrows : (assembleAllActiveSnapshots (digestSurroundings 0).parseUuid
      (digestSurroundings 0).platform (digestSurroundings 0).snapshotCall january "SHADOW" none
      emptyWarehouse).1.studentSnapshots.rows = [assembledRow, secondRow] := rfl
  rw [hsame, hrows]

theorem monthly_run_covers_mirrored :
    CoversEveryone (digestSurroundings 0) january
      (runMonthlyReports (digestSurroundings 0) january "SHADOW" none emptyWarehouse) :=
  (monthly_run_covers _ [] trivial (digestSurroundings 0) (fun _ => rfl) january "SHADOW" none
    (distinct_of_rows digestSurroundings_rows)).1

end Pipeline
end StudentSuccess
