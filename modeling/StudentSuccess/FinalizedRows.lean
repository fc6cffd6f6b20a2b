import StudentSuccess.WarehouseRuns

namespace StudentSuccess
namespace Pipeline
set_option autoImplicit true
open Calendar (Month)
open Snapshot Report Narratives

/-- The narratives stored with a snapshot. -/
def companions (w : Warehouse) (snapshotId : Nat) : List SnapshotAiNarratives :=
  w.snapshotAiNarratives.rows.filter (·.snapshotId = snapshotId)

/-- The snapshots finalized in `w` are in `w'` as they were, and so are their narratives. -/
structure Frozen (w w' : Warehouse) : Prop where
  snapshot : ∀ r ∈ w.studentSnapshots.rows, r.finalized = true → r ∈ w'.studentSnapshots.rows
  companion : ∀ r ∈ w.studentSnapshots.rows, r.finalized = true →
    companions w' r.id = companions w r.id

theorem Frozen.refl (w : Warehouse) : Frozen w w :=
  ⟨fun _ hr _ => hr, fun _ _ _ => rfl⟩

theorem Frozen.trans (h : Frozen w w') (h' : Frozen w' w'') : Frozen w w'' where
  snapshot r hr hfinal := h'.snapshot r (h.snapshot r hr hfinal) hfinal
  companion r hr hfinal :=
    (h'.companion r (h.snapshot r hr hfinal) hfinal).trans (h.companion r hr hfinal)

def SameSnapshots (w w' : Warehouse) : Prop :=
  w'.studentSnapshots = w.studentSnapshots ∧ w'.snapshotAiNarratives = w.snapshotAiNarratives

theorem SameSnapshots.refl (w : Warehouse) : SameSnapshots w w := ⟨rfl, rfl⟩

theorem SameSnapshots.trans (h : SameSnapshots w w') (h' : SameSnapshots w' w'') :
    SameSnapshots w w'' := ⟨h'.1.trans h.1, h'.2.trans h.2⟩

theorem SameSnapshots.frozen_iff (h : SameSnapshots w' w'') : Frozen w w'' ↔ Frozen w w' := by
  obtain ⟨hsnapshots, hnarratives⟩ := h
  constructor
  · intro hfrozen
    refine ⟨fun r hr hfinal => hsnapshots ▸ hfrozen.snapshot r hr hfinal, fun r hr hfinal => ?_⟩
    have hcompanion := hfrozen.companion r hr hfinal
    rwa [companions, hnarratives] at hcompanion
  · intro hfrozen
    refine ⟨fun r hr hfinal => hsnapshots ▸ hfrozen.snapshot r hr hfinal, fun r hr hfinal => ?_⟩
    rw [companions, hnarratives]
    exact hfrozen.companion r hr hfinal

theorem SameSnapshots.frozen (h : SameSnapshots w w') : Frozen w w' :=
  h.frozen_iff.2 (Frozen.refl w)

/-- A new snapshot has an id that no narratives refer to. -/
theorem insertSnapshot_frozen (w : Warehouse) (snapshot : Nat → StudentSnapshots)
    (texts : NarrativeType → Option String) (copiedAt : Instant)
    (hid : ∀ n, (snapshot n).id = n)
    (hnew : ∀ n, ∀ r ∈ w.studentSnapshots.rows, r.finalized = true →
      (r.studentId, r.snapshotMonth) ≠ ((snapshot n).studentId, (snapshot n).snapshotMonth)) :
    Frozen w (w.insertSnapshot snapshot texts copiedAt hid hnew) where
  snapshot r hr _ := List.mem_append_left _ hr
  companion r hr _ := by
    have hfresh : w.studentSnapshots.nextId ≠ r.id := by
      intro heq
      exact w.studentSnapshots.nextId_not_mem (heq ▸ List.mem_map_of_mem hr)
    simp [companions, Warehouse.insertSnapshot, List.filter_append, hfresh]

theorem assembleSnapshot_frozen
    (h : assembleSnapshot parseUuid platform call w args = .ok (w', result)) : Frozen w w' := by
  rw [assembleSnapshot] at h
  split at h
  · cases h
    exact Frozen.refl w
  · split at h
    · cases h
      exact Frozen.refl w
    · rw [Py.bind_eq_ok] at h
      obtain ⟨correlationId, -, h⟩ := h
      cases h
      exact insertSnapshot_frozen w _ _ _ _ _

/-- What one assembly keeps the loop over the students keeps. -/
theorem assembleEach_induction {P : Warehouse → Prop}
    (hassemble : ∀ call w args w' result,
      assembleSnapshot parseUuid platform call w args = .ok (w', result) → P w → P w')
    (counts : AssembleCounts) (sids : List Int) (hw : P w) :
    P (assembleEach parseUuid platform calls args counts sids w).1 := by
  induction sids generalizing counts w with
  | nil => exact hw
  | cons sid sids ih =>
    rw [assembleEach]
    cases hone : assembleSnapshot parseUuid platform (calls sid) w (args sid) with
    | error e => exact hw
    | ok assembled => exact ih _ (hassemble _ _ _ _ _ hone hw)

theorem generateEach_induction {P : Warehouse → Prop}
    (hreport : ∀ sid w args w' result,
      generateStudentReport platform (calls sid) w args = .ok (w', result) → P w → P w')
    (counts : CohortCounts) (sids : List Int) (hw : P w) :
    P (generateEach platform calls args counts sids w).1 := by
  induction sids generalizing counts w with
  | nil => exact hw
  | cons sid sids ih =>
    rw [generateEach]
    cases hone : generateStudentReport platform (calls sid) w (args sid) with
    | error e => exact hw
    | ok generated => exact ih _ (hreport _ _ _ _ _ hone hw)

theorem generateSegments_induction {P : Warehouse → Prop}
    (hreport : ∀ sid w args w' result,
      generateStudentReport env.platform (env.reportCall sid) w args = .ok (w', result) →
      P w → P w')
    (cohorts : List String) (hw : P w) :
    P (generateSegments env month executionMode cohorts w) := by
  induction cohorts generalizing w with
  | nil => exact hw
  | cons cohortId cohorts ih =>
    have hcohort : P (generateCohortReport env.platform env.reportCall cohortId month
        executionMode w).1 := generateEach_induction hreport {} _ hw
    rw [generateSegments]
    split
    · next w' e heq =>
      rw [heq] at hcohort
      exact hcohort
    · next w' counts heq =>
      rw [heq] at hcohort
      exact ih hcohort

theorem assembleEach_frozen (counts : AssembleCounts) (sids : List Int) (w : Warehouse) :
    Frozen w (assembleEach parseUuid platform calls args counts sids w).1 :=
  assembleEach_induction (fun _ _ _ _ _ h hw => hw.trans (assembleSnapshot_frozen h)) counts sids
    (Frozen.refl w)

theorem insertMonthlyReport_sameSnapshots
    (h : insertMonthlyReport call w args snapshotId content lineageVersion =
      .ok (w', reportId)) :
    SameSnapshots w w' := by
  rw [insertMonthlyReport] at h
  rw [Py.bind_eq_ok] at h
  obtain ⟨correlationId, -, h⟩ := h
  split at h
  · split at h
    · cases h
      exact ⟨rfl, rfl⟩
    · cases h
  · split at h
    · cases h
      exact SameSnapshots.refl w
    · cases h
      exact ⟨rfl, rfl⟩

theorem generateStudentReport_sameSnapshots
    (h : generateStudentReport platform call w args = .ok (w', result)) : SameSnapshots w w' := by
  rw [generateStudentReport] at h
  split at h
  · cases h
    exact SameSnapshots.refl w
  · rw [Py.bind_eq_ok] at h
    obtain ⟨content, -, h⟩ := h
    rw [Py.bind_eq_ok] at h
    obtain ⟨⟨w'', reportId⟩, hinsert, h⟩ := h
    cases h
    exact insertMonthlyReport_sameSnapshots hinsert

theorem generateEach_sameSnapshots (counts : CohortCounts) (sids : List Int) (w : Warehouse) :
    SameSnapshots w (generateEach platform calls args counts sids w).1 :=
  generateEach_induction (fun _ _ _ _ _ h hw => hw.trans (generateStudentReport_sameSnapshots h))
    counts sids (SameSnapshots.refl w)

theorem generateCohortReport_sameSnapshots (w : Warehouse) :
    SameSnapshots w (generateCohortReport platform calls cohortId month executionMode w).1 :=
  generateEach_sameSnapshots _ _ w

theorem generateSegments_sameSnapshots (cohorts : List String) (w : Warehouse) :
    SameSnapshots w (generateSegments env month executionMode cohorts w) :=
  generateSegments_induction
    (fun _ _ _ _ _ h hw => hw.trans (generateStudentReport_sameSnapshots h)) cohorts
    (SameSnapshots.refl w)

theorem runMonthlyReports_frozen (w : Warehouse) :
    Frozen w (runMonthlyReports env month executionMode configVersionId w) := by
  have hassemble : Frozen w (assembleAllActiveSnapshots env.parseUuid env.platform
      env.snapshotCall month executionMode configVersionId w).1 := assembleEach_frozen _ _ w
  rw [runMonthlyReports]
  match hall : assembleAllActiveSnapshots env.parseUuid env.platform env.snapshotCall month
      executionMode configVersionId w with
  | (w', .error e) =>
    rw [hall] at hassemble
    exact hassemble
  | (w', .ok counts) =>
    rw [hall] at hassemble
    exact hassemble.trans (generateSegments_sameSnapshots segments w').frozen

/-- The narratives belong to a finalized snapshot. -/
def OfFinalized (w : Warehouse) (n : SnapshotAiNarratives) : Prop :=
  ∃ r ∈ w.studentSnapshots.rows, r.finalized = true ∧ n.snapshotId = r.id

/-- No narratives of a finalized snapshot lack a text that the backfill would find. -/
def NothingToFill (platform : Platform) (w : Warehouse) : Prop :=
  ∀ n ∈ w.snapshotAiNarratives.rows, OfFinalized w n → ¬ Fillable platform w n

theorem companions_backfill (platform : Platform) (w : Warehouse) (snapshotId : Nat) :
    companions (backfill platform w) snapshotId =
      (companions w snapshotId).map fun n => { n with texts := filled platform w n } := by
  simp only [companions, backfill, Warehouse.updateNarratives, List.filter_map, Function.comp_def]

/-- The backfill leaves the finalized rows as they are exactly when it has nothing to fill. -/
theorem backfill_frozen_iff (platform : Platform) (w : Warehouse) :
    Frozen w (backfill platform w) ↔ NothingToFill platform w := by
  constructor
  · intro h n hn hfinalized
    obtain ⟨r, hr, hfinal, hid⟩ := hfinalized
    have hmem : n ∈ companions w r.id := List.mem_filter.2 ⟨hn, by simp [hid]⟩
    have hsame := h.companion r hr hfinal
    rw [companions_backfill, Table.map_eq_self_iff] at hsame
    have htexts := congrArg SnapshotAiNarratives.texts (hsame n hmem)
    exact (filled_eq_iff platform w n).1 htexts
  · intro h
    refine ⟨fun r hr _ => hr, fun r hr hfinal => ?_⟩
    rw [companions_backfill, Table.map_eq_self_iff]
    intro n hn
    obtain ⟨hmem, hid⟩ := List.mem_filter.1 hn
    rw [decide_eq_true_eq] at hid
    rw [(filled_eq_iff platform w n).2 (h n hmem ⟨r, hr, hfinal, hid⟩)]

def Harmless (w : Warehouse) (request : Request) : Prop :=
  match request.operation with
  | .backfillNarratives => NothingToFill request.env.platform w
  | .finalizeReports _ _ => NothingToFill request.env.platform w
  | _ => True

theorem serve_frozen_iff (w : Warehouse) (request : Request) :
    Frozen w (serve w request) ↔ Harmless w request := by
  obtain ⟨env, operation⟩ := request
  cases operation with
  | assemble args =>
    exact iff_of_true (committed_of (Frozen.refl w) fun w' result h =>
      assembleSnapshot_frozen h) trivial
  | assembleAll => exact iff_of_true (assembleEach_frozen _ _ w) trivial
  | backfillNarratives => exact backfill_frozen_iff env.platform w
  | finalizeReports =>
    exact (generateSegments_sameSnapshots segments _).frozen_iff.trans
      (backfill_frozen_iff env.platform w)
  | generateStudent args =>
    exact iff_of_true (committed_of (Frozen.refl w) fun w' result h =>
      (generateStudentReport_sameSnapshots h).frozen) trivial
  | generateCohort => exact iff_of_true (generateCohortReport_sameSnapshots w).frozen trivial
  | generateAll => exact iff_of_true (generateSegments_sameSnapshots segments w).frozen trivial
  | monthlyRun => exact iff_of_true (runMonthlyReports_frozen w) trivial

/-- Finalized rows keep what they hold along a run exactly when no request of it finds a text
to fill in. -/
theorem finalized_stable_iff (w : Warehouse) (requests : List Request) :
    Runs.Stable serve Frozen w requests ↔ Runs.EveryStep serve Harmless w requests := by
  rw [Runs.stable_iff Frozen.refl fun _ _ _ h h' => h.trans h']
  exact Runs.everyStep_congr (I := fun _ => True) (fun _ _ _ => trivial)
    (fun w request _ => serve_frozen_iff w request) w trivial requests

def emptyWarehouse : Warehouse where
  studentSnapshots := .empty
  snapshotAiNarratives := .empty
  monthlyReports := .empty
  snapshotIdPos _ hr := nomatch hr
  uqFinalizedStudentMonth := List.nodup_nil
  uqSnapshotId := List.nodup_nil
  fkSnapshot _ hn := nomatch hn
  uqIdempotencyKey := List.nodup_nil
  uqPublishedLineage := List.nodup_nil

def mirrored : StudentTriggerData where
  firstName := some "Ada"
  lastName := none
  email := some "student@example.org"
  phoneNumber := none
  pathName := some "JRP"
  attendancePercentage := some 80
  currentSection := none
  ipbcStartDate := none
  past10DaysLogon := none
  totalPayments := none
  totalCredits := none
  paymentBalance := none
  classValue := none
  feePaid := none
  classFeesPaid := none
  className := none
  classSignupsId := none
  activeStatus := none
  statusI := none
  statusII := none
  studentStartDate := none
  classStartDate := none
  lastActivitySection := none
  lastLoginDays := none
  lastSubmitted := none
  hwsBehind := 0
  avgEffRating := 4
  lastActivityDays := 1
  userId := 7
  planName := none
  downPaymentAmt := none

def platformWith (insights : Table AIInsight (·.id)) : Platform where
  tracking := .empty
  outreachHistory := .empty
  stateTransitionLog := .empty
  processedEvents := .empty
  uqStudentCheckpoint := List.nodup_nil
  triggerdata := ⟨[mirrored], List.nodup_singleton _⟩
  mirrorHistory := .empty
  campaignActivity := .empty
  aiInsights := insights

def lateInsight : AIInsight where
  id := 1
  userId := 7
  insightType := "risk_summary"
  contentText := some "At risk."
  isFinalized := true
  createdAt := 1

def january : Month := ⟨2026, 1, by decide, by decide, by decide⟩

def surroundings (insights : Table AIInsight (·.id)) : Surroundings where
  platform := platformWith insights
  snapshotCall _ := ⟨0, 0, 0, ⟨"u-1", by decide⟩⟩
  reportCall _ := ⟨some, id, 0, 0, ⟨"u-1", by decide⟩⟩
  parseUuid := some

def assembleThenBackfill : List Request :=
  [⟨surroundings .empty, .assemble { studentId := 7, snapshotMonth := january }⟩,
    ⟨surroundings ⟨[lateInsight], List.nodup_singleton _⟩, .backfillNarratives⟩]

def assembledRow : StudentSnapshots :=
  finalizedRow (platformWith .empty) ⟨0, 0, 0, ⟨"u-1", by decide⟩⟩
    { studentId := 7, snapshotMonth := january } "u-1" mirrored.toStudentState 1

theorem assembled_rows :
    (Runs.final serve emptyWarehouse [assembleThenBackfill[0]]).studentSnapshots.rows =
      [assembledRow] := rfl

theorem backfill_changes_finalized :
    ¬ Runs.Stable serve Frozen emptyWarehouse assembleThenBackfill := by
  intro h
  have hfrozen := h [assembleThenBackfill[0]] [assembleThenBackfill[1]] [] rfl
  have hmem : assembledRow ∈
      (Runs.final serve emptyWarehouse [assembleThenBackfill[0]]).studentSnapshots.rows := by
    rw [assembled_rows]
    exact List.mem_singleton_self _
  have htexts := congrArg (List.map fun n => n.texts .riskSummary)
    (hfrozen.companion assembledRow hmem rfl)
  exact absurd htexts (by decide)

end Pipeline
end StudentSuccess
