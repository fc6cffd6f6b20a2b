import StudentSuccess.MonthWindows
import StudentSuccess.SnapshotUniqueness
import Mathlib.Tactic.Ring

namespace StudentSuccess
namespace Snapshot
set_option autoImplicit true
open Calendar (Day Month)
open Pipeline (emptyWarehouse january mirrored platformWith)

/-- A call after the month, in a zone that is `zone` microseconds ahead of UTC. -/
structure After (zone : Int) (month : Month) (call : Call) : Prop where
  now : month.stop ≤ call.now
  today : month.next.firstDay ≤ call.today
  clock : (call.today : Int) = (call.now + zone) / (Calendar.microsPerDay : Int)

/-- The rows differ at most in the generated ids and the timestamps of the finalization. -/
def SameContent (r r' : StudentSnapshots) : Prop :=
  { r with
    id := r'.id
    correlationId := r'.correlationId
    fingerprintComputedAt := r'.fingerprintComputedAt
    finalizedAt := r'.finalizedAt } = r'

/-- The call inserts the snapshot, with these narratives. -/
def Inserts (parseUuid : String → Option String) (platform : Platform) (call : Call)
    (w : Warehouse) (args : AssembleArgs) (row : StudentSnapshots)
    (narratives : SnapshotAiNarratives) : Prop :=
  ∃ w' result, assembleSnapshot parseUuid platform call w args = .ok (w', result) ∧
    w'.studentSnapshots.rows = w.studentSnapshots.rows ++ [row] ∧
    w'.snapshotAiNarratives.rows = w.snapshotAiNarratives.rows ++ [narratives]

/-- Two calls after the month that insert its snapshot insert the same one. -/
def Reproducible (parseUuid : String → Option String) (zone : Int) (platform : Platform)
    (studentId : Int) (month : Month) : Prop :=
  (platform.mirrorHistory.find? (month, studentId)).isSome = true →
    ∀ call call', After zone month call → After zone month call' →
      ∀ w (args : AssembleArgs), args.key = (studentId, month) →
        ∀ row narratives row' narratives', Inserts parseUuid platform call w args row narratives →
          Inserts parseUuid platform call' w args row' narratives' →
            SameContent row row' ∧ narratives.texts = narratives'.texts

/-- The captured state says nothing of a start, and nobody was in contact in the month. -/
def Timeless (platform : Platform) (studentId : Int) (month : Month) : Prop :=
  ∀ row, platform.mirrorHistory.find? (month, studentId) = some row →
    row.ipbcStartDate = none ∧ outreachRows platform studentId month = [] ∧
      campaignRows platform studentId month = []

theorem adjustRelativeFields_start (row : StudentMirrorHistory) (month : Month) :
    (adjustRelativeFields row month).ipbcStartDate = row.ipbcStartDate := by
  rw [adjustRelativeFields]
  dsimp only
  split_ifs
  · rfl
  · rfl

theorem Inserts.inserted (h : Inserts parseUuid platform call w args row narratives) :
    ∃ student correlationId,
      studentForMonth platform args.studentId args.snapshotMonth = some student ∧
      row = finalizedRow platform call args correlationId student w.studentSnapshots.nextId ∧
      narratives.texts = (aiNarratives platform args.studentId).texts := by
  obtain ⟨w', result, hassemble, hrows, hnarratives⟩ := h
  cases assembleSnapshot_cases hassemble with
  | «exists» existing hfound hsame =>
    rw [hsame] at hrows
    exact absurd (List.self_eq_append_right.1 hrows) (List.cons_ne_nil _ _)
  | error message hnone hsame =>
    rw [hsame] at hrows
    exact absurd (List.self_eq_append_right.1 hrows) (List.cons_ne_nil _ _)
  | created student correlationId segment risk mode available hnone hstudent huuid hsnapshots
      htexts =>
    rw [hsnapshots, List.append_cancel_left_eq, List.singleton_inj] at hrows
    rw [htexts, List.append_cancel_left_eq, List.singleton_inj] at hnarratives
    exact ⟨student, correlationId, hstudent, hrows.symm, congrArg (·.texts) hnarratives.symm⟩

/-- A student in the mirror is inserted when the month has no snapshot and the call brings no
correlation id. -/
theorem inserts_of_student (hstudent : studentForMonth platform args.studentId args.snapshotMonth =
      some student) (hnone : w.finalizedSnapshot args.studentId args.snapshotMonth = none)
    (hcorrelation : args.correlationId = none) :
    ∃ narratives, Inserts parseUuid platform call w args
      (finalizedRow platform call args call.uuid student w.studentSnapshots.nextId)
      narratives := by
  obtain ⟨w', result, hassemble⟩ : ∃ w' result,
      assembleSnapshot parseUuid platform call w args = .ok (w', result) :=
    assembleSnapshot_ends hcorrelation
  cases assembleSnapshot_cases hassemble with
  | «exists» existing hfound => exact absurd (hnone.symm.trans hfound) nofun
  | error message hmissing => exact absurd (hstudent.symm.trans hmissing) nofun
  | created student' correlationId segment risk mode available hnone hstudent' huuid hsnapshots
      htexts =>
    cases hstudent.symm.trans hstudent'
    have hfresh : correlationId = call.uuid := by
      rw [hcorrelation] at huuid
      exact (Except.ok.inj huuid).symm
    exact ⟨_, w', _, hassemble, hfresh ▸ hsnapshots, htexts⟩

theorem classifySegment_of_none (h : student.ipbcStartDate = none) (today today' : Day) :
    classifySegment today student = classifySegment today' student := by
  simp only [classifySegment, h]

theorem weeksInProgram_of_none (h : student.ipbcStartDate = none) (today : Day) :
    weeksInProgram today student = none := by
  rw [weeksInProgram, h, Option.map_none]

def contacts (platform : Platform) (studentId : Int) (month : Month) : List Instant :=
  (outreachRows platform studentId month).map (·.createdAt) ++
    (campaignRows platform studentId month).filterMap (·.activityDate)

theorem daysSinceContact_eq (platform : Platform) (call : Call) (studentId : Int)
    (month : Month) : (outreachSummary platform call studentId month).daysSinceContact =
      (contacts platform studentId month).max?.map fun t => daysBetween call.now t := rfl

theorem contacts_eq_nil_iff : contacts platform studentId month = [] ↔
    outreachRows platform studentId month = [] ∧ campaignRows platform studentId month = [] := by
  rw [contacts, List.append_eq_nil_iff, List.map_eq_nil_iff]
  apply and_congr_right
  intro _
  constructor
  · intro h
    apply List.eq_nil_iff_forall_not_mem.2
    intro r hr
    have hwindow := (List.mem_filter.1 hr).2
    rw [Bool.and_eq_true] at hwindow
    obtain ⟨t, ht, -⟩ := (Option.any_eq_true _ _).1 hwindow.2
    exact List.not_mem_nil (h ▸ List.mem_filterMap.2 ⟨r, hr, ht⟩)
  · intro h
    rw [h, List.filterMap_nil]

/-- Without contacts the summary does not read the clock. -/
theorem outreachSummary_of_nil (h : contacts platform studentId month = [])
    (call call' : Call) :
    outreachSummary platform call studentId month =
      outreachSummary platform call' studentId month := by
  obtain ⟨houtreach, hcampaign⟩ := contacts_eq_nil_iff.1 h
  simp only [outreachSummary, houtreach, hcampaign, List.map_nil, List.filterMap_nil,
    List.append_nil, List.max?_nil, Option.map_none]

theorem finalizedRow_sameContent (hstart : student.ipbcStartDate = none)
    (hcontacts : contacts platform args.studentId args.snapshotMonth = []) :
    SameContent (finalizedRow platform call args correlationId student n)
      (finalizedRow platform call' args correlationId' student n') := by
  simp only [SameContent, finalizedRow]
  rw [classifySegment_of_none hstart call.today call'.today, weeksInProgram_of_none hstart,
    weeksInProgram_of_none hstart, outreachSummary_of_nil hcontacts call call']

/-- The microseconds by which a clock of the zone can be behind the day. -/
def slack (zone : Int) : Nat := (zone.natAbs + zone).toNat

def callAfter (zone : Int) (month : Month) (days : Nat) : Call where
  today := month.next.firstDay + days + slack zone / Calendar.microsPerDay
  now := month.stop + (zone.natAbs + days * Calendar.microsPerDay)
  transactionNow := 0
  uuid := ⟨"u-3", by decide⟩

theorem slack_eq (zone : Int) : (slack zone : Int) = zone.natAbs + zone := by
  rw [slack]
  omega

theorem callAfter_after (zone : Int) (month : Month) (days : Nat) :
    After zone month (callAfter zone month days) where
  now := Nat.le_add_right month.stop _
  today := by
    simp only [callAfter, Nat.add_assoc]
    exact Nat.le_add_right _ _
  clock := by
    have hsplit : ((callAfter zone month days).now : Int) + zone =
        ((slack zone + (month.next.firstDay + days) * Calendar.microsPerDay : Nat) : Int) := by
      simp only [callAfter, Month.stop, Month.start, Nat.cast_add, slack_eq, Nat.cast_mul]
      ring
    rw [hsplit, ← Int.natCast_div, Nat.add_mul_div_right _ _ (by decide), Nat.add_comm]
    rfl

theorem callAfter_weeks (start : Instant) (zone : Int) (month : Month) :
    daysIn (callAfter zone month 7).today start / 7 =
      daysIn (callAfter zone month 0).today start / 7 + 1 := by
  simp only [daysIn, callAfter]
  omega

theorem callAfter_daysBetween (t : Instant) (zone : Int) (month : Month) :
    daysBetween (callAfter zone month 7).now t =
      daysBetween (callAfter zone month 0).now t + 7 := by
  have hsplit : (((callAfter zone month 7).now : Int) - t) =
      (callAfter zone month 0).now - t + 7 * (Calendar.microsPerDay : Int) := by
    simp only [callAfter]
    push_cast
    ring
  rw [daysBetween, hsplit, Int.add_mul_ediv_right _ _ (by decide), daysBetween]

theorem Timeless.reproducible (h : Timeless platform studentId month) :
    Reproducible parseUuid zone platform studentId month := by
  intro hcaptured call call' _ _ w args hkey row narratives row' narratives' hrow hrow'
  obtain ⟨captured, hcaptured⟩ := Option.isSome_iff_exists.1 hcaptured
  obtain ⟨hstart, hempty⟩ := h captured hcaptured
  obtain ⟨rfl, rfl⟩ : args.studentId = studentId ∧ args.snapshotMonth = month :=
    Prod.mk.inj hkey
  obtain ⟨student, correlationId, hstudent, rfl, htexts⟩ := hrow.inserted
  obtain ⟨student', correlationId', hstudent', rfl, htexts'⟩ := hrow'.inserted
  cases hstudent.symm.trans hstudent'
  refine ⟨finalizedRow_sameContent ?_ (contacts_eq_nil_iff.2 hempty), htexts.trans htexts'.symm⟩
  rw [studentForMonth, hcaptured, Option.some_inj] at hstudent
  rw [← hstudent, adjustRelativeFields_start, hstart]

theorem Reproducible.timeless (h : Reproducible parseUuid zone platform studentId month) :
    Timeless platform studentId month := by
  intro captured hcaptured
  have hstudent : studentForMonth platform studentId month =
      some (adjustRelativeFields captured month) := by rw [studentForMonth, hcaptured]
  let args : AssembleArgs := { studentId := studentId, snapshotMonth := month }
  obtain ⟨narratives, hfirst⟩ : ∃ narratives, Inserts parseUuid platform (callAfter zone month 0)
      emptyWarehouse args _ narratives := inserts_of_student hstudent rfl rfl
  obtain ⟨narratives', hlater⟩ : ∃ narratives, Inserts parseUuid platform
      (callAfter zone month 7) emptyWarehouse args _ narratives :=
    inserts_of_student hstudent rfl rfl
  obtain ⟨hsame, -⟩ := h (hcaptured ▸ rfl) _ _ (callAfter_after zone month 0)
    (callAfter_after zone month 7) emptyWarehouse args rfl _ _ _ _ hfirst hlater
  constructor
  · cases hstart : captured.ipbcStartDate with
    | none => rfl
    | some start =>
      have hweeks : weeksInProgram (callAfter zone month 0).today
          (adjustRelativeFields captured month).toMirrorColumns =
            weeksInProgram (callAfter zone month 7).today
              (adjustRelativeFields captured month).toMirrorColumns :=
        congrArg StudentSnapshots.weeksInProgram hsame
      rw [weeksInProgram, weeksInProgram, adjustRelativeFields_start, hstart, Option.map_some,
        Option.map_some, callAfter_weeks, Option.some_inj] at hweeks
      omega
  · rw [← contacts_eq_nil_iff, ← List.max?_eq_none_iff]
    cases hlast : (contacts platform studentId month).max? with
    | none => rfl
    | some t =>
      have hdays : (outreachSummary platform (callAfter zone month 0) studentId
          month).daysSinceContact = (outreachSummary platform (callAfter zone month 7) studentId
            month).daysSinceContact :=
        congrArg StudentSnapshots.daysSinceLastContact hsame
      rw [daysSinceContact_eq, daysSinceContact_eq, hlast, Option.map_some, Option.map_some,
        callAfter_daysBetween, Option.some_inj] at hdays
      omega

/-- A month's snapshot is reproducible exactly when the state captured for it has no start date
and the month has no contact. -/
theorem reproducible_iff (parseUuid : String → Option String) (zone : Int) (platform : Platform)
    (studentId : Int) (month : Month) :
    Reproducible parseUuid zone platform studentId month ↔ Timeless platform studentId month :=
  ⟨Reproducible.timeless, Timeless.reproducible⟩

def december : Month := ⟨2025, 12, by decide, january.month_le, by decide⟩

def july : Month := ⟨2026, 7, january.year_pos, by decide, by decide⟩

/-- A student who started in December, as the mirror was captured at the end of January. -/
def captured : StudentMirrorHistory where
  toStudentState := { mirrored.toStudentState with
    attendancePercentage := none
    ipbcStartDate := some december.start }
  snapshotMonth := january
  userId := 7
  capturedAt := monthLastDay january * Calendar.microsPerDay

def capturedPlatform : Platform where
  toDb := (platformWith .empty).toDb
  triggerdata := .empty
  mirrorHistory := ⟨[captured], List.nodup_singleton _⟩
  campaignActivity := .empty
  aiInsights := .empty

def callIn (month : Month) : Call := ⟨month.firstDay, month.start, month.start, ⟨"u-3", by decide⟩⟩

theorem callIn_after (hmonth : january.next.firstDay ≤ month.firstDay) :
    After 0 january (callIn month) where
  now := Nat.mul_le_mul_right _ hmonth
  today := hmonth
  clock := by
    rw [callIn, Int.add_zero, Month.start, Nat.cast_mul, Int.mul_ediv_cancel _ (by decide)]

/-- January's snapshot shows a newcomer when it is assembled in February, and none when it is
assembled in July. -/
theorem january_not_reproducible : ¬ Reproducible some 0 capturedPlatform 7 january := by
  intro h
  let args : AssembleArgs := { studentId := 7, snapshotMonth := january }
  have hstudent : studentForMonth capturedPlatform args.studentId args.snapshotMonth =
      some (adjustRelativeFields captured january) := rfl
  obtain ⟨narratives, hfebruary⟩ : ∃ narratives, Inserts some capturedPlatform
      (callIn january.next) emptyWarehouse args _ narratives := inserts_of_student hstudent rfl rfl
  obtain ⟨narratives', hjuly⟩ : ∃ narratives, Inserts some capturedPlatform (callIn july)
      emptyWarehouse args _ narratives :=
    inserts_of_student hstudent rfl rfl
  obtain ⟨hsame, -⟩ := h rfl _ _ (callIn_after le_rfl) (callIn_after (by decide)) emptyWarehouse
    args rfl _ _ _ _ hfebruary hjuly
  have hsegment : some (classifySegment (callIn january.next).today captured.toMirrorColumns) =
      some (classifySegment (callIn july).today captured.toMirrorColumns) :=
    congrArg StudentSnapshots.segmentClassification hsame
  exact absurd hsegment (by decide +kernel)

end Snapshot
end StudentSuccess
