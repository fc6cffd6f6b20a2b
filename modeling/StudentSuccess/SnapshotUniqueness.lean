import StudentSuccess.FinalizedRows

namespace StudentSuccess
set_option autoImplicit true
open Calendar (Month)

/-- What a snapshot is unique for. -/
def StudentSnapshots.key (r : StudentSnapshots) : Int × Month := (r.studentId, r.snapshotMonth)

namespace Snapshot

def AssembleArgs.key (args : AssembleArgs) : Int × Month := (args.studentId, args.snapshotMonth)

inductive Assembled (parseUuid : String → Option String) (platform : Platform) (call : Call)
    (w : Warehouse) (args : AssembleArgs) (w' : Warehouse) : AssembleResult → Prop
  | exists (existing : StudentSnapshots)
      (hfound : w.finalizedSnapshot args.studentId args.snapshotMonth = some existing)
      (hsame : w' = w) : Assembled parseUuid platform call w args w' (.exists existing.id)
  | error (message : String)
      (hstudent : studentForMonth platform args.studentId args.snapshotMonth = none)
      (hsame : w' = w) : Assembled parseUuid platform call w args w' (.error message)
  | created (student : StudentState) (correlationId segment risk mode : String) (available : Bool)
      (hnone : w.finalizedSnapshot args.studentId args.snapshotMonth = none)
      (hstudent : studentForMonth platform args.studentId args.snapshotMonth = some student)
      (huuid : callUuid parseUuid call.uuid args.correlationId = .ok correlationId)
      (hsnapshots : w'.studentSnapshots.rows = w.studentSnapshots.rows ++
        [finalizedRow platform call args correlationId student w.studentSnapshots.nextId])
      (hnarratives : w'.snapshotAiNarratives.rows = w.snapshotAiNarratives.rows ++
        [⟨w.snapshotAiNarratives.nextId, w.studentSnapshots.nextId,
          (aiNarratives platform args.studentId).texts, call.transactionNow⟩]) :
      Assembled parseUuid platform call w args w'
        (.created w.studentSnapshots.nextId segment risk available mode)

theorem assembleSnapshot_cases
    (h : assembleSnapshot parseUuid platform call w args = .ok (w', result)) :
    Assembled parseUuid platform call w args w' result := by
  rw [assembleSnapshot] at h
  split at h
  · next existing hexists =>
    cases h
    exact .exists existing hexists rfl
  · next hnone =>
    split at h
    · next hstudent =>
      cases h
      exact .error _ hstudent rfl
    · next student hstudent =>
      rw [Py.bind_eq_ok] at h
      obtain ⟨correlationId, huuid, h⟩ := h
      cases h
      exact .created student correlationId _ _ _ _ hnone hstudent huuid rfl rfl

theorem assembleSnapshot_of_found
    (h : w.finalizedSnapshot args.studentId args.snapshotMonth = some existing) :
    assembleSnapshot parseUuid platform call w args = .ok (w, .exists existing.id) := by
  unfold assembleSnapshot
  split
  · next r hr =>
    cases hr.symm.trans h
    rfl
  · next hnone => exact absurd (hnone.symm.trans h) nofun

theorem assembleSnapshot_of_uuid
    (h : callUuid parseUuid call.uuid args.correlationId = .ok correlationId) :
    ∃ w' result, assembleSnapshot parseUuid platform call w args = .ok (w', result) := by
  rw [assembleSnapshot]
  split
  · exact ⟨_, _, rfl⟩
  · split
    · exact ⟨_, _, rfl⟩
    · rw [h]
      exact ⟨_, _, rfl⟩

/-- A call without a correlation id gets a fresh one and ends. -/
theorem assembleSnapshot_ends (h : args.correlationId = none) :
    ∃ w' result, assembleSnapshot parseUuid platform call w args = .ok (w', result) := by
  have huuid : callUuid parseUuid call.uuid args.correlationId = .ok call.uuid.1 := by
    rw [h]
    rfl
  exact assembleSnapshot_of_uuid huuid

def AssembleCounts.total (counts : AssembleCounts) : Nat :=
  counts.created + counts.skippedExisting + counts.errors

theorem AssembleCounts.total_add (counts : AssembleCounts) (result : AssembleResult) :
    (counts.add result).total = counts.total + 1 := by
  cases result with
  | «exists» => exact Nat.add_right_comm _ 1 _
  | error => rfl
  | created => simp only [add, total, Nat.add_right_comm _ 1]

theorem assembleEach_counts (hargs : ∀ sid, (args sid).correlationId = none)
    (counts : AssembleCounts) (sids : List Int) (w : Warehouse) :
    ∃ counts', (assembleEach parseUuid platform calls args counts sids w).2 = .ok counts' ∧
      counts'.total = counts.total + sids.length := by
  induction sids generalizing counts w with
  | nil => exact ⟨counts, rfl, rfl⟩
  | cons sid sids ih =>
    obtain ⟨w', result, hone⟩ : ∃ w' result, assembleSnapshot parseUuid platform (calls sid) w
        (args sid) = .ok (w', result) := assembleSnapshot_ends (hargs sid)
    obtain ⟨counts', hcounts, htotal⟩ := ih (counts.add result) w'
    refine ⟨counts', ?_, ?_⟩
    · rw [assembleEach, hone]
      exact hcounts
    · rw [htotal, AssembleCounts.total_add, List.length_cons]
      omega

end Snapshot
open Snapshot

/-- The index leaves one finalized snapshot for a student and a month. -/
theorem Warehouse.finalized_unique (w : Warehouse) (hr : r ∈ w.studentSnapshots.rows)
    (hr' : r' ∈ w.studentSnapshots.rows) (hfinal : r.finalized = true)
    (hfinal' : r'.finalized = true) (hkey : r.key = r'.key) : r = r' :=
  List.inj_on_of_nodup_map w.uqFinalizedStudentMonth (List.mem_filter.2 ⟨hr, hfinal⟩)
    (List.mem_filter.2 ⟨hr', hfinal'⟩) hkey

theorem Warehouse.finalizedSnapshot_eq_some (w : Warehouse)
    (h : w.finalizedSnapshot studentId month = some r) :
    r ∈ w.studentSnapshots.rows ∧ r.finalized = true ∧ r.key = (studentId, month) := by
  have hrow := List.find?_some h
  rw [Bool.and_eq_true, Bool.and_eq_true, decide_eq_true_eq, decide_eq_true_eq] at hrow
  exact ⟨w.mem_of_finalizedSnapshot h, hrow.2, Prod.ext hrow.1.1 hrow.1.2⟩

theorem Warehouse.finalizedSnapshot_of_mem (w : Warehouse) (hr : r ∈ w.studentSnapshots.rows)
    (hfinal : r.finalized = true) (hkey : r.key = (studentId, month)) :
    w.finalizedSnapshot studentId month = some r := by
  cases hfind : w.finalizedSnapshot studentId month with
  | none =>
    exact absurd hkey (w.finalizedSnapshot_eq_none_iff.1 hfind r hr hfinal)
  | some r' =>
    obtain ⟨hr', hfinal', hkey'⟩ := w.finalizedSnapshot_eq_some hfind
    rw [w.finalized_unique hr' hr hfinal' hfinal (hkey'.trans hkey.symm)]

namespace Pipeline
open Narratives

/-- Every finalized snapshot has its narratives, once. -/
def Companioned (w : Warehouse) : Prop :=
  ∀ r ∈ w.studentSnapshots.rows, r.finalized = true → ∃ n, companions w r.id = [n]

theorem SameSnapshots.companioned (h : SameSnapshots w w') (hw : Companioned w) :
    Companioned w' := by
  obtain ⟨hsnapshots, hnarratives⟩ := h
  intro r hr hfinal
  rw [companions, hnarratives]
  exact hw r (hsnapshots ▸ hr) hfinal

theorem backfill_companioned (platform : Platform) (hw : Companioned w) :
    Companioned (backfill platform w) := by
  intro r hr hfinal
  obtain ⟨n, hn⟩ := hw r hr hfinal
  rw [companions_backfill, hn]
  exact ⟨_, rfl⟩

theorem companions_nextId (w : Warehouse) : companions w w.studentSnapshots.nextId = [] := by
  apply List.filter_eq_nil_iff.2
  intro n hn hid
  rw [decide_eq_true_eq] at hid
  exact w.studentSnapshots.nextId_not_mem (hid ▸ w.fkSnapshot n hn)

theorem assembleSnapshot_companioned (hw : Companioned w)
    (h : assembleSnapshot parseUuid platform call w args = .ok (w', result)) :
    Companioned w' := by
  have hfrozen := assembleSnapshot_frozen h
  cases assembleSnapshot_cases h with
  | «exists» existing hfound hsame => exact hsame ▸ hw
  | error message hstudent hsame => exact hsame ▸ hw
  | created student correlationId segment risk mode available hnone hstudent huuid hsnapshots
      hnarratives =>
    intro r hr hfinal
    rw [hsnapshots, List.mem_append, List.mem_singleton] at hr
    rcases hr with hr | rfl
    · rw [hfrozen.companion r hr hfinal]
      exact hw r hr hfinal
    · have hold := companions_nextId w
      rw [companions] at hold
      use ⟨w.snapshotAiNarratives.nextId, w.studentSnapshots.nextId,
        (aiNarratives platform args.studentId).texts, call.transactionNow⟩
      rw [companions, hnarratives, List.filter_append]
      exact congrArg₂ (· ++ ·) hold (List.filter_cons_of_pos (decide_eq_true rfl))

/-- What an assembly, the backfill and a report keep every request keeps. -/
theorem serve_steps {P : Warehouse → Prop} (w : Warehouse) (request : Request)
    (hbackfill : ∀ w, P w → P (backfill request.env.platform w))
    (hassemble : ∀ call w args w' result,
      assembleSnapshot request.env.parseUuid request.env.platform call w args = .ok (w', result) →
      P w → P w')
    (hreport : ∀ sid w args w' result,
      Report.generateStudentReport request.env.platform (request.env.reportCall sid) w args =
        .ok (w', result) → P w → P w')
    (hw : P w) : P (serve w request) := by
  obtain ⟨env, operation⟩ := request
  cases operation with
  | assemble args => exact committed_of hw fun w' result h => hassemble _ _ _ _ _ h hw
  | assembleAll => exact assembleEach_induction hassemble {} _ hw
  | backfillNarratives => exact hbackfill w hw
  | finalizeReports => exact generateSegments_induction hreport segments (hbackfill w hw)
  | generateStudent args => exact committed_of hw fun w' result h => hreport _ _ _ _ _ h hw
  | generateCohort => exact generateEach_induction hreport {} _ hw
  | generateAll => exact generateSegments_induction hreport segments hw
  | monthlyRun month executionMode configVersionId =>
    have hall : P (assembleAllActiveSnapshots env.parseUuid env.platform env.snapshotCall month
        executionMode configVersionId w).1 := assembleEach_induction hassemble {} _ hw
    dsimp only [serve]
    rw [runMonthlyReports]
    split
    · next w' e heq =>
      rw [heq] at hall
      exact hall
    · next w' counts heq =>
      rw [heq] at hall
      exact generateSegments_induction hreport segments hall

/-- What an assembly and the backfill keep, and only the tables of the snapshots tell, every
request keeps. -/
theorem serve_induction {P : Warehouse → Prop}
    (hsame : ∀ w w', SameSnapshots w w' → P w → P w')
    (hbackfill : ∀ platform w, P w → P (backfill platform w))
    (hassemble : ∀ parseUuid platform call w args w' result,
      assembleSnapshot parseUuid platform call w args = .ok (w', result) → P w → P w')
    (w : Warehouse) (request : Request) (hw : P w) : P (serve w request) :=
  serve_steps w request (hbackfill _) (hassemble _ _)
    (fun _ _ _ _ _ h => hsame _ _ (generateStudentReport_sameSnapshots h)) hw

theorem serve_companioned (w : Warehouse) (request : Request) (hw : Companioned w) :
    Companioned (serve w request) :=
  serve_induction (fun _ _ => SameSnapshots.companioned)
    (fun platform _ => backfill_companioned platform)
    (fun _ _ _ _ _ _ _ h hw => assembleSnapshot_companioned hw h) w request hw

/-- The finalized snapshots of `w` stay in the table. -/
def KeepsSnapshots (w w' : Warehouse) : Prop :=
  ∀ r ∈ w.studentSnapshots.rows, r.finalized = true → r ∈ w'.studentSnapshots.rows

theorem assembleSnapshot_keepsSnapshots
    (h : assembleSnapshot parseUuid platform call w' args = .ok (w'', result))
    (hw : KeepsSnapshots w w') : KeepsSnapshots w w'' :=
  fun r hr hfinal => (assembleSnapshot_frozen h).snapshot r (hw r hr hfinal) hfinal

theorem serve_keepsSnapshots (w : Warehouse) (request : Request) :
    KeepsSnapshots w (serve w request) :=
  serve_induction (fun _ _ hsame hw r hr hfinal => hsame.1 ▸ hw r hr hfinal)
    (fun _ _ hw => hw) (fun _ _ _ _ _ _ _ h hw => assembleSnapshot_keepsSnapshots h hw) w request
    fun _ hr _ => hr

def Present (w : Warehouse) (key : Int × Month) : Prop :=
  ∃ r ∈ w.studentSnapshots.rows, r.finalized = true ∧ r.key = key

theorem KeepsSnapshots.present (h : KeepsSnapshots w w') (hpresent : Present w key) :
    Present w' key := by
  obtain ⟨r, hr, hfinal, hkey⟩ := hpresent
  exact ⟨r, h r hr hfinal, hfinal, hkey⟩

theorem finalizedSnapshot_of_created
    (h : assembleSnapshot parseUuid platform call w args =
      .ok (made, .created snapshotId segmentName risk available mode)) :
    ∃ student correlationId,
      studentForMonth platform args.studentId args.snapshotMonth = some student ∧
      made.finalizedSnapshot args.studentId args.snapshotMonth =
        some (finalizedRow platform call args correlationId student w.studentSnapshots.nextId) := by
  cases assembleSnapshot_cases h with
  | created student correlationId _ _ _ _ hnone hstudent huuid hsnapshots =>
    let row := finalizedRow platform call args correlationId student w.studentSnapshots.nextId
    have hmem : row ∈ made.studentSnapshots.rows := by
      rw [hsnapshots]
      exact List.mem_append_right _ (List.mem_singleton_self _)
    exact ⟨student, correlationId, hstudent, made.finalizedSnapshot_of_mem hmem rfl rfl⟩

theorem KeepsSnapshots.finalizedSnapshot (h : KeepsSnapshots w w')
    (hrow : w.finalizedSnapshot studentId month = some row) :
    w'.finalizedSnapshot studentId month = some row := by
  obtain ⟨hmem, hfinal, hkey⟩ := w.finalizedSnapshot_eq_some hrow
  exact w'.finalizedSnapshot_of_mem (h row hmem hfinal) hfinal hkey

theorem present_of_created (h : assembleSnapshot parseUuid platform call w args =
      .ok (w', .created snapshotId segmentName risk available mode)) :
    ∃ r ∈ w'.studentSnapshots.rows, r.finalized = true ∧ r.key = args.key ∧ r.id = snapshotId := by
  cases assembleSnapshot_cases h with
  | created student correlationId segment risk mode available hnone hstudent huuid hsnapshots
      hnarratives =>
    refine ⟨finalizedRow platform call args correlationId student w.studentSnapshots.nextId, ?_,
      rfl, rfl, rfl⟩
    rw [hsnapshots]
    exact List.mem_append_right _ (List.mem_singleton_self _)

theorem assembleSnapshot_present
    (hstudent : studentForMonth platform args.studentId args.snapshotMonth ≠ none)
    (h : assembleSnapshot parseUuid platform call w args = .ok (w', result)) :
    Present w' args.key := by
  cases assembleSnapshot_cases h with
  | «exists» existing hfound hsame =>
    obtain ⟨hmem, hfinal, hkey⟩ := w.finalizedSnapshot_eq_some hfound
    exact hsame ▸ ⟨existing, hmem, hfinal, hkey⟩
  | error message hnone hsame => exact absurd hnone hstudent
  | created =>
    obtain ⟨r, hr, hfinal, hkey, -⟩ := present_of_created h
    exact ⟨r, hr, hfinal, hkey⟩

theorem assembleEach_present (hargs : ∀ sid, (args sid).correlationId = none)
    (hkey : ∀ sid, (args sid).key = (sid, month)) (counts : AssembleCounts)
    (hstudents : ∀ sid ∈ sids, studentForMonth platform sid month ≠ none) :
    ∀ sid ∈ sids,
      Present (assembleEach parseUuid platform calls args counts sids w).1 (sid, month) := by
  induction sids generalizing counts w with
  | nil => exact fun sid hsid => absurd hsid List.not_mem_nil
  | cons sid sids ih =>
    obtain ⟨w', result, hone⟩ : ∃ w' result, assembleSnapshot parseUuid platform (calls sid) w
        (args sid) = .ok (w', result) := assembleSnapshot_ends (hargs sid)
    have hsid : (args sid).studentId = sid := congrArg (·.1) (hkey sid)
    have hmonth : (args sid).snapshotMonth = month := congrArg (·.2) (hkey sid)
    have hstudent : studentForMonth platform (args sid).studentId (args sid).snapshotMonth ≠
        none := by
      rw [hsid, hmonth]
      exact hstudents sid (.head _)
    have hrest : KeepsSnapshots w'
        (assembleEach parseUuid platform calls args (counts.add result) sids w').1 :=
      assembleEach_induction (fun _ _ _ _ _ h hw => assembleSnapshot_keepsSnapshots h hw) _ _
        fun _ hr _ => hr
    intro sid' hsid'
    rw [assembleEach, hone]
    cases hsid' with
    | head => exact hrest.present (hkey sid ▸ assembleSnapshot_present hstudent hone)
    | tail _ hsid' => exact ih _ (fun sid hsid => hstudents sid (.tail _ hsid)) sid' hsid'

/-- What the finalized snapshots of a warehouse and the next call in it satisfy. -/
structure SnapshotsUnique (w : Warehouse) : Prop where
  atMostOne : ∀ r ∈ w.studentSnapshots.rows, ∀ r' ∈ w.studentSnapshots.rows,
    r.finalized = true → r'.finalized = true → r.key = r'.key → r = r'
  companion : Companioned w
  created : ∀ parseUuid platform call args w' snapshotId segment risk available mode,
    assembleSnapshot parseUuid platform call w args =
      .ok (w', .created snapshotId segment risk available mode) →
    ∃ r ∈ w'.studentSnapshots.rows, r.finalized = true ∧ r.key = args.key ∧ r.id = snapshotId
  assembleAll : ∀ parseUuid platform calls month executionMode configVersionId,
    ∃ w' counts, assembleAllActiveSnapshots parseUuid platform calls month executionMode
        configVersionId w = (w', .ok counts) ∧
      counts.total = platform.triggerdata.rows.length ∧
      ∀ student ∈ platform.triggerdata.rows, Present w' (student.userId, month)

theorem studentForMonth_of_mem (platform : Platform) (month : Month)
    (h : student ∈ platform.triggerdata.rows) :
    studentForMonth platform student.userId month ≠ none := by
  rw [studentForMonth]
  cases platform.mirrorHistory.find? (month, student.userId) with
  | some row => exact nofun
  | none =>
    rw [Table.find?_of_mem h]
    exact nofun

theorem assembleAll_counted (parseUuid : String → Option String) (platform : Platform)
    (calls : Int → Call) (month : Month) (executionMode : String)
    (configVersionId : Option String) (w : Warehouse) :
    ∃ w' counts, assembleAllActiveSnapshots parseUuid platform calls month executionMode
        configVersionId w = (w', .ok counts) ∧
      counts.total = platform.triggerdata.rows.length ∧
      ∀ student ∈ platform.triggerdata.rows, Present w' (student.userId, month) := by
  have hstudents : ∀ sid ∈ platform.triggerdata.rows.map (·.userId),
      studentForMonth platform sid month ≠ none := by
    intro sid hsid
    obtain ⟨student, hstudent, rfl⟩ := List.mem_map.1 hsid
    exact studentForMonth_of_mem platform month hstudent
  obtain ⟨counts, hcounts, htotal⟩ : ∃ counts,
      (assembleAllActiveSnapshots parseUuid platform calls month executionMode configVersionId
        w).2 = .ok counts ∧
      counts.total = 0 + (platform.triggerdata.rows.map (·.userId)).length :=
    assembleEach_counts (fun _ => rfl) {} _ w
  refine ⟨_, counts, Prod.ext rfl hcounts, ?_, ?_⟩
  · rw [htotal, Nat.zero_add, List.length_map]
  · intro student hstudent
    exact assembleEach_present (fun _ => rfl) (fun _ => rfl) {} hstudents student.userId
      (List.mem_map_of_mem hstudent)

/-- Along every run the finalized snapshots are unique, and a snapshot once finalized is what
every later call for its student and month returns. -/
theorem snapshots_unique (hw : Companioned w) (before after : List Request) :
    SnapshotsUnique (Runs.final serve (Runs.final serve w before) after) ∧
      ∀ r ∈ (Runs.final serve w before).studentSnapshots.rows, r.finalized = true →
        ∀ parseUuid platform call (args : AssembleArgs), args.key = r.key →
          assembleSnapshot parseUuid platform call
              (Runs.final serve (Runs.final serve w before) after) args =
            .ok (Runs.final serve (Runs.final serve w before) after, .exists r.id) := by
  have hkeeps : KeepsSnapshots (Runs.final serve w before)
      (Runs.final serve (Runs.final serve w before) after) :=
    Runs.related (fun _ _ hr _ => hr)
      (fun _ _ _ h h' r hr hfinal => h' r (h r hr hfinal) hfinal) serve_keepsSnapshots _ after
  constructor
  · constructor
    · exact fun r hr r' hr' hfinal hfinal' hkey =>
        Warehouse.finalized_unique _ hr hr' hfinal hfinal' hkey
    · exact Runs.invariant serve_companioned (Runs.invariant serve_companioned hw before) after
    · intro parseUuid platform call args w' snapshotId segment risk available mode h
      exact present_of_created h
    · intro parseUuid platform calls month executionMode configVersionId
      exact assembleAll_counted parseUuid platform calls month executionMode configVersionId _
  · intro r hr hfinal parseUuid platform call args hkey
    exact assembleSnapshot_of_found
      (Warehouse.finalizedSnapshot_of_mem _ (hkeeps r hr hfinal) hfinal hkey.symm)

theorem companioned_emptyWarehouse : Companioned emptyWarehouse := fun _ hr => nomatch hr

theorem snapshots_unique_assembled :
    SnapshotsUnique (Runs.final serve (Runs.final serve emptyWarehouse
        [assembleThenBackfill[0]]) [assembleThenBackfill[1]]) ∧
      ∀ parseUuid platform call,
        assembleSnapshot parseUuid platform call (Runs.final serve (Runs.final serve emptyWarehouse
            [assembleThenBackfill[0]]) [assembleThenBackfill[1]])
            { studentId := 7, snapshotMonth := january } =
          .ok (Runs.final serve (Runs.final serve emptyWarehouse [assembleThenBackfill[0]])
            [assembleThenBackfill[1]], .exists 1) := by
  have hmem : assembledRow ∈ (Runs.final serve emptyWarehouse
      [assembleThenBackfill[0]]).studentSnapshots.rows := by
    rw [assembled_rows]
    exact List.mem_singleton_self _
  obtain ⟨hunique, hrepeated⟩ := snapshots_unique companioned_emptyWarehouse
    [assembleThenBackfill[0]] [assembleThenBackfill[1]]
  exact ⟨hunique, fun parseUuid platform call =>
    hrepeated assembledRow hmem rfl parseUuid platform call _ rfl⟩

end Pipeline
end StudentSuccess
