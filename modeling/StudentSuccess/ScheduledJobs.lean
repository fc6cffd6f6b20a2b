import StudentSuccess.CivilDate
import StudentSuccess.MonthCapture
import StudentSuccess.WarehouseRuns

namespace StudentSuccess
namespace Scheduler
set_option autoImplicit true
open Calendar

/-- The zone of the host: what local time is ahead of UTC, in microseconds, at each instant. -/
structure Zone where
  offset : Instant → Int
  offset_gt : ∀ t, -(microsPerDay : Int) < offset t
  offset_lt : ∀ t, offset t < microsPerDay

def Zone.utc : Zone := ⟨fun _ => 0, fun _ => by decide, fun _ => by decide⟩

def minute : Nat := 60000000

def hour : Nat := 60 * minute

/-- The local time of the host; at the times of the jobs it is not before year 1. -/
def Zone.localTime (zone : Zone) (t : Instant) : Nat := ((t : Int) + zone.offset t).toNat

/-- The month of `date.today()`. -/
def Zone.today (zone : Zone) (t : Instant) : Month := monthOf (zone.localTime t / microsPerDay)

theorem december_pos : 1 ≤ 12 := by decide

theorem december_le : 12 ≤ 12 := le_rfl

/-- The month that the report job computes from today's; `date` refuses the year 0. -/
def reportMonthOf (today : Month) : Option Month :=
  if today.month = 1 then
    if h : 1 ≤ today.year - 1 then some ⟨today.year - 1, 12, h, december_pos, december_le⟩ else none
  else if h : 1 ≤ today.month - 1 then
    some ⟨today.year, today.month - 1, today.year_pos, h, (Nat.sub_le _ _).trans today.month_le⟩
  else none

/-- `_month_end_capture_job`, started at the instant: what `capture_month_state` commits. -/
def monthEndCaptureJob (conversions : Capture.Conversions) (zone : Zone) (t : Instant)
    (platform : Platform) : Option (Capture.History × Nat) :=
  Capture.captureMonthState conversions (zone.today t) t platform

/-- `_monthly_report_job`, started at the instant: the warehouse after `run_monthly_reports`, if
the month is a date. -/
def monthlyReportJob (env : Pipeline.Surroundings) (executionMode : String)
    (configVersionId : Option String) (zone : Zone) (t : Instant) (w : Warehouse) :
    Option Warehouse :=
  (reportMonthOf (zone.today t)).map fun month =>
    Pipeline.runMonthlyReports env month executionMode configVersionId w

/-- `CronTrigger(day="last", hour=23, minute=30, timezone="UTC")` in the month. -/
def captureTime (m : Month) : Instant := m.stop - 30 * minute

/-- `CronTrigger(day=1, hour=2, minute=0, timezone="UTC")` in the month after. -/
def reportTime (m : Month) : Instant := m.stop + 2 * hour

def captureGrace : Nat := 3600 * 1000000

def reportGrace : Nat := 7200 * 1000000

/-- A start that the grace time of the job admits, in microseconds after its time. -/
abbrev Delay (grace : Nat) := { d : Nat // d ≤ grace }

/-- The capture job scheduled for the end of the month captures the month. -/
def CapturesMonth (zone : Zone) (m : Month) (d : Delay captureGrace) : Prop :=
  zone.today (captureTime m + d.1) = m

/-- The report job scheduled for the day after the month reports the month. -/
def ReportsMonth (zone : Zone) (m : Month) (d : Delay reportGrace) : Prop :=
  reportMonthOf (zone.today (reportTime m + d.1)) = some m

theorem days_ge (m : Month) : 28 ≤ m.days := by
  rw [Month.days]
  simp only [daysInMonth]
  split
  · split_ifs <;> decide
  · decide
  · decide
  · decide
  · decide
  · decide

theorem start_add_le_stop (m : Month) : m.start + 28 * microsPerDay ≤ m.stop := by
  have hdays := Nat.mul_le_mul_right microsPerDay (days_ge m)
  rw [Month.stop, Month.start, Month.start, firstDay_next, Nat.add_mul]
  exact Nat.add_le_add_left hdays _

theorem reportMonthOf_eq_some_iff (today m : Month) :
    reportMonthOf today = some m ↔ today = m.next := by
  obtain ⟨year, month, hyear, hmonth, hle⟩ := today
  obtain ⟨year', month', hyear', hmonth', hle'⟩ := m
  simp only [reportMonthOf, Month.next]
  split_ifs
  all_goals simp only [Option.some.injEq, Month.mk.injEq, false_iff]
  all_goals omega

theorem today_eq_iff (zone : Zone) (t : Instant) (m : Month) :
    zone.today t = m ↔ m.start ≤ zone.localTime t ∧ zone.localTime t < m.stop :=
  monthOf_eq_iff (zone.localTime t) m

/-- The month ends half an hour after the time of the capture job. -/
theorem capturesMonth_iff (zone : Zone) (m : Month) (d : Delay captureGrace) :
    CapturesMonth zone m d ↔ zone.offset (captureTime m + d.1) + d.1 < 30 * minute := by
  have hlong := start_add_le_stop m
  have hgt := zone.offset_gt (captureTime m + d.1)
  have hgrace := d.2
  rw [CapturesMonth, today_eq_iff, Zone.localTime]
  generalize zone.offset (captureTime m + d.1) = offset at hgt
  simp only [captureTime, captureGrace, minute, microsPerDay] at *
  omega

/-- The month after starts two hours before the time of the report job. -/
theorem reportsMonth_iff (zone : Zone) (m : Month) (d : Delay reportGrace) :
    ReportsMonth zone m d ↔ -(2 * hour : Int) ≤ zone.offset (reportTime m + d.1) + d.1 := by
  have hlong := start_add_le_stop m
  have hnext := start_add_le_stop m.next
  have hlt := zone.offset_lt (reportTime m + d.1)
  have hgt := zone.offset_gt (reportTime m + d.1)
  have hgrace := d.2
  rw [ReportsMonth, reportMonthOf_eq_some_iff, today_eq_iff, Zone.localTime]
  generalize zone.offset (reportTime m + d.1) = offset at hgt hlt
  have hstop : m.next.start = m.stop := rfl
  simp only [reportTime, reportGrace, hour, minute, microsPerDay] at *
  omega

/-- Both jobs act on the month they were scheduled for, on every table they may find. -/
structure ActOnMonth (zone : Zone) (m : Month) (d : Delay captureGrace) (d' : Delay reportGrace) :
    Prop where
  captures : CapturesMonth zone m d
  reports : ReportsMonth zone m d'
  captured : ∀ conversions platform,
    monthEndCaptureJob conversions zone (captureTime m + d.1) platform =
      Capture.captureMonthState conversions m (captureTime m + d.1) platform
  reported : ∀ env executionMode configVersionId w,
    monthlyReportJob env executionMode configVersionId zone (reportTime m + d'.1) w =
      some (Pipeline.runMonthlyReports env m executionMode configVersionId w)

theorem actOnMonth_of (hcaptures : CapturesMonth zone m d) (hreports : ReportsMonth zone m d') :
    ActOnMonth zone m d d' := by
  refine ⟨hcaptures, hreports, ?_, ?_⟩
  · intro conversions platform
    rw [monthEndCaptureJob, hcaptures]
  · intro env executionMode configVersionId w
    rw [monthlyReportJob, hreports]
    rfl

/-- The local date must not be past the month at the start of the capture and not before its end
at the start of the report. -/
theorem actOnMonth_iff (zone : Zone) (m : Month) (d : Delay captureGrace)
    (d' : Delay reportGrace) :
    ActOnMonth zone m d d' ↔
      zone.offset (captureTime m + d.1) + d.1 < 30 * minute ∧
        -(2 * hour : Int) ≤ zone.offset (reportTime m + d'.1) + d'.1 := by
  rw [← capturesMonth_iff, ← reportsMonth_iff]
  constructor
  · intro h
    exact ⟨h.captures, h.reports⟩
  · rintro ⟨hcaptures, hreports⟩
    exact actOnMonth_of hcaptures hreports

/-- On a host in UTC a capture that starts half an hour late captures February. -/
theorem late_capture_takes_next_month :
    ¬ ∀ (zone : Zone) (m : Month) (d : Delay captureGrace) (d' : Delay reportGrace),
      ActOnMonth zone m d d' := by
  intro h
  have hcaptures := (h .utc Pipeline.january ⟨30 * minute, by decide⟩ ⟨0, by decide⟩).captures
  rw [capturesMonth_iff] at hcaptures
  exact absurd hcaptures (by decide)

end Scheduler
end StudentSuccess
