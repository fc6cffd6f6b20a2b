import StudentSuccess.FinalizedRows
import StudentSuccess.Pagination
import StudentSuccess.Streaks

namespace StudentSuccess
namespace SegmentTenure
set_option autoImplicit true
open Report Streaks

def history (w : Warehouse) (studentId : Int) : List StudentSnapshots :=
  newestFirst (w.studentSnapshots.rows.filter fun r => r.studentId = studentId && r.finalized)

def window (w : Warehouse) (studentId : Int) : List StudentSnapshots :=
  (history w studentId).take 6

/-- The older snapshot is of the month before and in the same segment. -/
def Continues (newer older : StudentSnapshots) : Prop :=
  older.snapshotMonth.index + 1 = newer.snapshotMonth.index ∧
    older.segmentClassification = newer.segmentClassification

instance : DecidableRel Continues := fun _ _ => inferInstanceAs (Decidable (_ ∧ _))

def currentRun (w : Warehouse) (studentId : Int) : List StudentSnapshots :=
  streak Continues (history w studentId)

/-- A student who was in the current segment in a month of the window was in it in every month
since then. -/
def Uninterrupted (w : Warehouse) (studentId : Int) : Prop :=
  ∀ newest ∈ (window w studentId).head?, ∀ r ∈ window w studentId,
    r.segmentClassification = newest.segmentClassification →
      ∀ i, r.snapshotMonth.index ≤ i → i ≤ newest.snapshotMonth.index →
        ∃ r' ∈ window w studentId, r'.snapshotMonth.index = i ∧
          r'.segmentClassification = newest.segmentClassification

theorem newestFirst_pairwise (rows : List StudentSnapshots) :
    (newestFirst rows).Pairwise fun r r' => r'.snapshotMonth.index ≤ r.snapshotMonth.index :=
  Pagination.ranked_pairwise rows

/-- The index on finalized snapshots leaves a student one of them for a month. -/
theorem months_pairwise (w : Warehouse) (studentId : Int) :
    (w.studentSnapshots.rows.filter fun r => r.studentId = studentId && r.finalized).Pairwise
      fun r r' => r.snapshotMonth ≠ r'.snapshotMonth := by
  have hunique := List.pairwise_map.1 w.uqFinalizedStudentMonth
  rw [← List.filter_filter]
  refine (hunique.sublist List.filter_sublist).imp_of_mem fun {r r'} hr hr' hne hmonth => hne ?_
  have hstudent := of_decide_eq_true (List.mem_filter.1 hr).2
  have hstudent' := of_decide_eq_true (List.mem_filter.1 hr').2
  rw [hstudent, hstudent', hmonth]

theorem history_pairwise (w : Warehouse) (studentId : Int) :
    (history w studentId).Pairwise fun r r' => r'.snapshotMonth.index < r.snapshotMonth.index := by
  have hmonths : (history w studentId).Pairwise fun r r' => r.snapshotMonth ≠ r'.snapshotMonth :=
    (List.perm_insertionSort _ _).symm.pairwise (months_pairwise w studentId) Ne.symm
  refine ((newestFirst_pairwise _).and hmonths).imp fun {r r'} h => ?_
  refine lt_of_le_of_ne h.1 fun hindex => h.2 ?_
  rw [← Calendar.Month.ofIndex_index r.snapshotMonth, ← hindex, Calendar.Month.ofIndex_index]

theorem segment_of_chain (h : (a :: l).IsChain Continues) (hr : r ∈ a :: l) :
    r.segmentClassification = a.segmentClassification := by
  induction l generalizing a with
  | nil => rw [List.mem_singleton.1 hr]
  | cons b l ih =>
    obtain ⟨hstep, htail⟩ := List.isChain_cons_cons.1 h
    rcases List.mem_cons.1 hr with rfl | hr
    · rfl
    · exact (ih htail hr).trans hstep.2

theorem streak_window (w : Warehouse) (studentId : Int) :
    streak Continues (window w studentId) = (currentRun w studentId).take 6 :=
  streak_take 6 (history w studentId)

section Window
variable {w : Warehouse} {studentId : Int} {newest : StudentSnapshots}
  {run rest : List StudentSnapshots}

theorem uninterrupted_of_rest (hrun : streak Continues (window w studentId) = newest :: run)
    (hwindow : newest :: run ++ rest = window w studentId)
    (hrest : ∀ r ∈ rest, r.segmentClassification ≠ newest.segmentClassification) :
    Uninterrupted w studentId := by
  intro newest' hhead r hr hsegment i hlow hhigh
  rw [← hwindow] at hhead
  cases hhead
  have hchain : (newest :: run).IsChain Continues := hrun ▸ streak_isChain _
  have hmem : r ∈ newest :: run := by
    rw [← hwindow] at hr
    rcases List.mem_append.1 hr with hmem | hmem
    · exact hmem
    · exact absurd hsegment (hrest r hmem)
  obtain ⟨r', hr', hindex⟩ := exists_between (hchain.imp fun _ _ h => h.1) hmem hlow hhigh
  refine ⟨r', ?_, hindex, segment_of_chain hchain hr'⟩
  rw [← hwindow]
  exact List.mem_append_left _ hr'

/-- The month before the run is missing in the window, or is of another segment. -/
theorem rest_of_uninterrupted (hrun : streak Continues (window w studentId) = newest :: run)
    (hwindow : newest :: run ++ rest = window w studentId) (h : Uninterrupted w studentId) :
    ∀ r ∈ rest, r.segmentClassification ≠ newest.segmentClassification := by
  intro r hr hsegment
  cases rest with
  | nil => exact absurd hr List.not_mem_nil
  | cons next rest =>
    have hchain : (newest :: run).IsChain Continues := hrun ▸ streak_isChain _
    obtain ⟨init, last, hlast⟩ : ∃ init last, newest :: run = init ++ [last] :=
      (List.eq_nil_or_concat' _).resolve_left (List.cons_ne_nil _ _)
    have hmem : last ∈ newest :: run := hlast ▸ List.mem_append_right _ (List.mem_singleton_self _)
    have hpairs := (history_pairwise w studentId).sublist (List.take_sublist 6 _)
    change (window w studentId).Pairwise _ at hpairs
    rw [← hwindow] at hpairs
    obtain ⟨hrunPairs, hrestPairs, hcross⟩ := List.pairwise_append.1 hpairs
    have holdest : ∀ x ∈ newest :: run, last.snapshotMonth.index ≤ x.snapshotMonth.index := by
      intro x hx
      rw [hlast] at hx hrunPairs
      rcases List.mem_append.1 hx with hinit | hsingle
      · exact (List.pairwise_append.1 hrunPairs).2.2 x hinit last (List.mem_singleton_self _) |>.le
      · rw [List.mem_singleton.1 hsingle]
    have hnext : ∀ x ∈ rest, x.snapshotMonth.index < next.snapshotMonth.index :=
      (List.pairwise_cons.1 hrestPairs).1
    have holder : next.snapshotMonth.index < last.snapshotMonth.index :=
      hcross last hmem next List.mem_cons_self
    have hlow : r.snapshotMonth.index ≤ next.snapshotMonth.index := by
      rcases List.mem_cons.1 hr with rfl | hr
      · exact le_rfl
      · exact (hnext r hr).le
    obtain ⟨r', hr', hindex, hsegment'⟩ := h newest (by rw [← hwindow]; rfl) r
      (hwindow ▸ List.mem_append_right _ hr) hsegment (last.snapshotMonth.index - 1) (by omega)
      ((Nat.sub_le _ _).trans (holdest newest List.mem_cons_self))
    -- The month before the run's last is the one of the next snapshot, which would continue it.
    have hcontinues : Continues last next := by
      rw [← hwindow] at hr'
      rcases List.mem_append.1 hr' with hr' | hr'
      · have hle := holdest r' hr'
        omega
      · rcases List.mem_cons.1 hr' with rfl | hr'
        · exact ⟨by omega, hsegment'.trans (segment_of_chain hchain hmem).symm⟩
        · have hlt := hnext r' hr'
          omega
    refine not_rel_of_streak (l := window w studentId) (by rw [hrun, hwindow]) ?_ hcontinues
    rw [hrun, hlast, List.getLast?_concat]
    rfl

end Window

theorem computeSegmentTenure_eq (w : Warehouse) (studentId : Int) :
    computeSegmentTenure w studentId =
      match window w studentId with
      | [] => (0, none)
      | newest :: _ =>
        ((window w studentId).countP fun r : StudentSnapshots =>
          r.segmentClassification = newest.segmentClassification, newest.segmentClassification) :=
  rfl

theorem countP_eq_length_iff {p : α → Bool} {run rest : List α} (hp : ∀ a ∈ run, p a = true) :
    (run ++ rest).countP p = run.length ↔ ∀ a ∈ rest, ¬ p a = true := by
  rw [List.countP_append, List.countP_eq_length.2 hp, ← List.countP_eq_zero]
  omega

/-- The tenure counts the months of the window in the current segment: it is the current run,
as the window shows it, where no other month is in it. -/
theorem computeSegmentTenure_iff (w : Warehouse) (studentId : Int) :
    (computeSegmentTenure w studentId).1 = min 6 (currentRun w studentId).length ↔
      Uninterrupted w studentId := by
  have hshown : (streak Continues (window w studentId)).length =
      min 6 (currentRun w studentId).length := by
    rw [streak_window, List.length_take]
  rw [← hshown]
  cases hrows : window w studentId with
  | nil =>
    constructor
    · intro _ newest hhead
      rw [hrows] at hhead
      cases hhead
    · intro _
      rw [computeSegmentTenure_eq, hrows]
      rfl
  | cons newest rows =>
    obtain ⟨run, hrun⟩ := streak_cons (R := Continues) newest rows
    obtain ⟨rest, hrest⟩ := streak_initial (R := Continues) (newest :: rows)
    rw [hrun] at hrest
    rw [← hrows] at hrun hrest
    have hsegment : ∀ r ∈ newest :: run,
        decide (r.segmentClassification = newest.segmentClassification) = true := fun r hr =>
      decide_eq_true (segment_of_chain (hrun ▸ streak_isChain _) hr)
    have htenure : (computeSegmentTenure w studentId).1 = (newest :: run ++ rest).countP
        fun r => r.segmentClassification = newest.segmentClassification := by
      rw [computeSegmentTenure_eq, hrest]
      simp only [hrows]
    rw [htenure, ← hrows, hrun, countP_eq_length_iff hsegment]
    simp only [decide_eq_true_eq]
    exact ⟨uninterrupted_of_rest hrun hrest, rest_of_uninterrupted hrun hrest⟩

section Stays
open Pipeline (assembledRow january emptyWarehouse)

def recorded (rows : List StudentSnapshots) (ids : (rows.map (·.id)).Nodup)
    (positive : ∀ r ∈ rows, 0 < r.id)
    (months : ((rows.filter (·.finalized)).map fun r => (r.studentId, r.snapshotMonth)).Nodup) :
    Warehouse :=
  { emptyWarehouse with
    studentSnapshots := ⟨rows, ids⟩
    snapshotIdPos := positive
    uqFinalizedStudentMonth := months
    fkSnapshot := fun _ hn => absurd hn List.not_mem_nil }

def stay (id : Nat) (month : Calendar.Month) (segment : String) : StudentSnapshots :=
  { assembledRow with id := id, snapshotMonth := month, segmentClassification := some segment }

def returned : Warehouse :=
  recorded [stay 1 january "CAP_HOPEFULS", stay 2 january.next "ENGAGEMENT",
    stay 3 january.next.next "CAP_HOPEFULS"] (by decide) (by decide) (by decide)

def missed : Warehouse :=
  recorded [stay 1 january "CAP_HOPEFULS", stay 2 january.next.next "CAP_HOPEFULS"]
    (by decide) (by decide) (by decide)

theorem tenure_not_current_run :
    (computeSegmentTenure returned 7).1 = 2 ∧ (currentRun returned 7).length = 1 ∧
      (computeSegmentTenure missed 7).1 = 2 ∧ (currentRun missed 7).length = 1 ∧
      ¬ ∀ w studentId,
        (computeSegmentTenure w studentId).1 = min 6 (currentRun w studentId).length := by
  refine ⟨rfl, rfl, rfl, rfl, fun h => ?_⟩
  exact absurd (h returned 7) (by decide)

end Stays

end SegmentTenure
end StudentSuccess
