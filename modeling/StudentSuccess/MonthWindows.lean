import StudentSuccess.FinalizedRows

namespace StudentSuccess
set_option autoImplicit true
open Calendar (Month boundary)

theorem month_ofIndex_bijective : Function.Bijective Month.ofIndex := by
  constructor
  · intro i j heq
    rw [← Calendar.Month.index_ofIndex i, heq, Calendar.Month.index_ofIndex]
  · intro month
    exact ⟨month.index, Calendar.Month.ofIndex_index month⟩

theorem boundary_index (month : Month) : boundary month.index = month.start := by
  rw [boundary, Calendar.Month.ofIndex_index]

theorem boundary_index_succ (month : Month) : boundary (month.index + 1) = month.stop := by
  rw [boundary, Calendar.Month.ofIndex_succ, Calendar.Month.ofIndex_index]
  rfl

/-- The assembly's windows are the closed ones. -/
theorem snapshot_inWindow_iff (month : Month) (t : Instant) :
    Snapshot.inWindow month t = true ↔ t ∈ Windows.closed boundary month.index := by
  rw [Windows.closed, boundary_index, boundary_index_succ, Set.mem_Icc]
  simp only [Snapshot.inWindow, Bool.and_eq_true, decide_eq_true_eq]

/-- The report's windows are the half-open ones. -/
theorem report_inWindow_iff (month : Month) (t : Instant) :
    Report.inWindow month t = true ↔ t ∈ Windows.halfOpen boundary month.index := by
  rw [Windows.halfOpen, boundary_index, boundary_index_succ, Set.mem_Ico]
  simp only [Report.inWindow, Bool.and_eq_true, decide_eq_true_eq]

theorem ne_stop_iff (t : Instant) :
    (∀ i, t ≠ boundary (i + 1)) ↔ ∀ month : Month, t ≠ month.stop := by
  constructor
  · intro h month
    rw [← boundary_index_succ]
    exact h month.index
  · intro h i
    have hstop := boundary_index_succ (Month.ofIndex i)
    rw [Calendar.Month.index_ofIndex] at hstop
    rw [hstop]
    exact h (Month.ofIndex i)

/-- The assembly counts an instant in one month unless it ends a month. -/
theorem snapshot_existsUnique_iff (t : Instant) :
    (∃! month : Month, Snapshot.inWindow month t = true) ↔ ∀ month : Month, t ≠ month.stop := by
  rw [month_ofIndex_bijective.existsUnique_iff, ← ne_stop_iff,
    ← Calendar.boundaries.existsUnique_closed_iff]
  simp only [snapshot_inWindow_iff, Calendar.Month.index_ofIndex]

/-- The two windows agree on an instant unless it ends a month. -/
theorem sameWindows_iff (t : Instant) :
    (∀ month : Month, Snapshot.inWindow month t = Report.inWindow month t) ↔
      ∀ month : Month, t ≠ month.stop := by
  rw [month_ofIndex_bijective.surjective.forall, ← ne_stop_iff,
    ← Windows.closed_iff_halfOpen_iff Calendar.boundary_strictMono]
  apply forall_congr'
  intro i
  rw [Bool.eq_iff_iff, snapshot_inWindow_iff, report_inWindow_iff, Calendar.Month.index_ofIndex]

/-- The windows of the months partition the events, and the report's select the same rows. -/
structure Partitioned (platform : Platform) : Prop where
  outreach : ∀ r ∈ platform.outreachHistory.rows,
    ∃! month, r ∈ Snapshot.outreachRows platform r.userId month
  campaign : ∀ r ∈ platform.campaignActivity.rows, r.activityDate.isSome = true →
    ∃! month, r ∈ Snapshot.campaignRows platform r.studentUserId month
  transitions : ∀ r ∈ platform.stateTransitionLog.rows,
    ∃! month, r ∈ Snapshot.stateTransitions platform r.userId month
  sameOutreach : ∀ studentId month r, r ∈ Snapshot.outreachRows platform studentId month ↔
    r ∈ Report.outreachRows platform studentId month
  sameTransitions : ∀ studentId month r,
    r ∈ Snapshot.stateTransitions platform studentId month ↔
      r ∈ Report.stateTransitions platform studentId month

def eventTimes (platform : Platform) : List Instant :=
  platform.outreachHistory.rows.map (·.createdAt) ++
    platform.campaignActivity.rows.filterMap (·.activityDate) ++
    platform.stateTransitionLog.rows.map (·.createdAt)

theorem mem_outreachRows_iff : r ∈ Snapshot.outreachRows platform studentId month ↔
    r ∈ platform.outreachHistory.rows ∧ r.userId = studentId ∧
      Snapshot.inWindow month r.createdAt = true := by
  simp only [Snapshot.outreachRows, List.mem_filter, Bool.and_eq_true, decide_eq_true_eq]

theorem mem_report_outreachRows_iff : r ∈ Report.outreachRows platform studentId month ↔
    r ∈ platform.outreachHistory.rows ∧ r.userId = studentId ∧
      Report.inWindow month r.createdAt = true := by
  simp only [Report.outreachRows, mem_orderBy, List.mem_filter, Bool.and_eq_true,
    decide_eq_true_eq]

theorem mem_campaignRows_iff (ht : r.activityDate = some t) :
    r ∈ Snapshot.campaignRows platform studentId month ↔
      r ∈ platform.campaignActivity.rows ∧ r.studentUserId = studentId ∧
        Snapshot.inWindow month t = true := by
  rw [Snapshot.campaignRows, List.mem_filter, ht, Option.any_some, Bool.and_eq_true,
    decide_eq_true_eq]

theorem mem_stateTransitions_iff : r ∈ Snapshot.stateTransitions platform studentId month ↔
    r ∈ platform.stateTransitionLog.rows ∧ r.userId = studentId ∧
      Snapshot.inWindow month r.createdAt = true := by
  simp only [Snapshot.stateTransitions, mem_orderBy, List.mem_filter, Bool.and_eq_true,
    decide_eq_true_eq]

theorem mem_report_stateTransitions_iff :
    r ∈ Report.stateTransitions platform studentId month ↔
      r ∈ platform.stateTransitionLog.rows ∧ r.userId = studentId ∧
        Report.inWindow month r.createdAt = true := by
  simp only [Report.stateTransitions, mem_orderBy, List.mem_filter, Bool.and_eq_true,
    decide_eq_true_eq]

/-- The months partition the events exactly when no event falls on the instant that ends one
month and begins the next. -/
theorem partitioned_iff (platform : Platform) :
    Partitioned platform ↔ ∀ t ∈ eventTimes platform, ∀ month : Month, t ≠ month.stop := by
  constructor
  · intro h t ht
    rw [eventTimes, List.mem_append, List.mem_append] at ht
    rw [← snapshot_existsUnique_iff]
    rcases ht with (ht | ht) | ht
    · obtain ⟨r, hr, rfl⟩ := List.mem_map.1 ht
      simpa only [mem_outreachRows_iff, hr, true_and] using h.outreach r hr
    · obtain ⟨r, hr, hdate⟩ := List.mem_filterMap.1 ht
      simpa only [mem_campaignRows_iff hdate, hr, true_and] using
        h.campaign r hr (hdate ▸ rfl)
    · obtain ⟨r, hr, rfl⟩ := List.mem_map.1 ht
      simpa only [mem_stateTransitions_iff, hr, true_and] using h.transitions r hr
  · intro h
    have hwindow : ∀ t ∈ eventTimes platform, ∃! month : Month, Snapshot.inWindow month t = true :=
      fun t ht => (snapshot_existsUnique_iff t).2 (h t ht)
    have hsame : ∀ t ∈ eventTimes platform, ∀ month : Month,
        Snapshot.inWindow month t = Report.inWindow month t :=
      fun t ht => (sameWindows_iff t).2 (h t ht)
    have houtreach : ∀ r ∈ platform.outreachHistory.rows, r.createdAt ∈ eventTimes platform :=
      fun r hr => List.mem_append_left _ (List.mem_append_left _ (List.mem_map_of_mem hr))
    have htransitions : ∀ r ∈ platform.stateTransitionLog.rows,
        r.createdAt ∈ eventTimes platform :=
      fun r hr => List.mem_append_right _ (List.mem_map_of_mem hr)
    constructor
    · intro r hr
      simpa only [mem_outreachRows_iff, hr, true_and] using hwindow _ (houtreach r hr)
    · intro r hr hdate
      obtain ⟨t, ht⟩ := Option.isSome_iff_exists.1 hdate
      have hmem : t ∈ eventTimes platform :=
        List.mem_append_left _ (List.mem_append_right _ (List.mem_filterMap.2 ⟨r, hr, ht⟩))
      simpa only [mem_campaignRows_iff ht, hr, true_and] using hwindow t hmem
    · intro r hr
      simpa only [mem_stateTransitions_iff, hr, true_and] using hwindow _ (htransitions r hr)
    · intro studentId month r
      rw [mem_outreachRows_iff, mem_report_outreachRows_iff]
      exact and_congr_right fun hr => by rw [hsame _ (houtreach r hr) month]
    · intro studentId month r
      rw [mem_stateTransitions_iff, mem_report_stateTransitions_iff]
      exact and_congr_right fun hr => by rw [hsame _ (htransitions r hr) month]

def midnightAttempt : OutreachHistory where
  id := 1
  trackingId := 1
  userId := 7
  checkpointType := "GENERAL"
  attemptNumber := 1
  channel := some "SMS"
  action := none
  executionMode := "SHADOW"
  simulatedStatus := "SIMULATED"
  payload := none
  decision := none
  stateBefore := none
  stateAfter := none
  correlationId := none
  causationId := none
  configVersionId := none
  executionType := "original"
  governanceScope := "SHADOW_ONLY"
  orchestrationCycleId := none
  originSource := none
  originAuthority := none
  isReplay := false
  attributionComplete := true
  idempotencyKey := none
  replayContext := none
  createdAt := Pipeline.january.stop

def midnightPlatform : Platform where
  toDb := { (Pipeline.platformWith .empty).toDb with
    outreachHistory := ⟨[midnightAttempt], List.nodup_singleton _⟩ }
  triggerdata := .empty
  mirrorHistory := .empty
  campaignActivity := .empty
  aiInsights := .empty

theorem midnight_counted_twice : ¬ Partitioned midnightPlatform := by
  intro h
  have hunique := h.outreach midnightAttempt (List.mem_singleton_self _)
  have hends : midnightAttempt ∈ Snapshot.outreachRows midnightPlatform 7 Pipeline.january :=
    mem_outreachRows_iff.2 ⟨List.mem_singleton_self _, rfl, by decide⟩
  have hbegins :
      midnightAttempt ∈ Snapshot.outreachRows midnightPlatform 7 Pipeline.january.next :=
    mem_outreachRows_iff.2 ⟨List.mem_singleton_self _, rfl, by decide⟩
  exact absurd (hunique.unique hends hbegins) (by decide)

end StudentSuccess
