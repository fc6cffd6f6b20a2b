import StudentSuccess.CivilDate
import StudentSuccess.Snapshot
import Mathlib.Order.Bounds.Basic

namespace StudentSuccess
namespace RelativeFields
set_option autoImplicit true
open Calendar (Day Month monthOf)
open Snapshot (monthLastDay adjustRelativeFields)

theorem monthOf_eq_iff_day (d : Day) (m : Month) :
    monthOf d = m ↔ m.firstDay ≤ d ∧ d < m.next.firstDay := by
  have hpos : 0 < Calendar.microsPerDay := by decide
  have h := Calendar.monthOf_eq_iff (d * Calendar.microsPerDay) m
  rw [Nat.mul_div_cancel d hpos, Month.start, Month.stop, Month.start,
    Nat.mul_le_mul_right_iff hpos, Nat.mul_lt_mul_right hpos] at h
  exact h

theorem monthLastDay_succ (month : Month) :
    monthLastDay month + 1 = month.firstDay + month.days := by
  rw [monthLastDay, Calendar.firstDay_next]
  exact Nat.sub_add_cancel (Nat.le_add_left_of_le (Calendar.days_pos month))

theorem monthLastDay_isGreatest (month : Month) :
    IsGreatest {d | monthOf d = month} (monthLastDay month) := by
  have hnext : monthLastDay month + 1 = month.next.firstDay := by
    rw [Calendar.firstDay_next, monthLastDay_succ]
  constructor
  · refine (monthOf_eq_iff_day _ _).2 ⟨Nat.le_of_lt_succ ?_, ?_⟩
    · rw [Nat.succ_eq_add_one, monthLastDay_succ]
      exact Nat.lt_add_of_pos_right (Calendar.days_pos month)
    · rw [← hnext]
      exact Nat.lt_succ_self _
  · intro d hd
    have hlt := ((monthOf_eq_iff_day d month).1 hd).2
    rw [← hnext] at hlt
    exact Nat.le_of_lt_succ hlt

/-- The days from the capture to the end of the month, counted back. -/
def lateness (row : StudentMirrorHistory) (month : Month) : Int :=
  (dayOf row.capturedAt : Int) - monthLastDay month

/-- The day that a number of days before the capture names. -/
def dayBefore (row : StudentMirrorHistory) (days : Int) : Int := (dayOf row.capturedAt : Int) - days

/-- The row as of the end of the month: each of the two counts runs from the day it counts from,
when that is not past the end, to the end of the month. -/
structure AsOfMonthEnd (row : StudentMirrorHistory) (month : Month) (state : StudentState) :
    Prop where
  inTime : lateness row month ≤ 0 → state = row.toStudentState
  late : 0 < lateness row month → state =
    { row.toStudentState with
      lastActivityDays := max 0 (row.lastActivityDays - lateness row month)
      lastLoginDays := row.lastLoginDays.map fun days => max 0 (days - lateness row month) }
  activity : 0 < lateness row month → dayBefore row row.lastActivityDays ≤ monthLastDay month →
    state.lastActivityDays = monthLastDay month - dayBefore row row.lastActivityDays
  login : 0 < lateness row month → ∀ days ∈ row.lastLoginDays,
    dayBefore row days ≤ monthLastDay month →
      state.lastLoginDays = some (monthLastDay month - dayBefore row days)

theorem clamp_eq (days : Int) (h : dayBefore row days ≤ monthLastDay month) :
    max 0 (days - lateness row month) = monthLastDay month - dayBefore row days := by
  simp only [dayBefore, lateness] at h ⊢
  omega

theorem adjustRelativeFields_asOfMonthEnd (row : StudentMirrorHistory) (month : Month) :
    AsOfMonthEnd row month (adjustRelativeFields row month) ∧
      IsGreatest {d | monthOf d = month} (monthLastDay month) ∧
      monthLastDay month + 1 = month.firstDay + month.days := by
  refine ⟨?_, monthLastDay_isGreatest month, monthLastDay_succ month⟩
  have hlate (hpos : 0 < lateness row month) : adjustRelativeFields row month =
      { row.toStudentState with
        lastActivityDays := max 0 (row.lastActivityDays - lateness row month)
        lastLoginDays := row.lastLoginDays.map fun days => max 0 (days - lateness row month) } :=
    if_neg (not_le.2 hpos)
  constructor
  · intro hle
    exact if_pos hle
  · exact hlate
  · intro hpos hday
    rw [hlate hpos]
    exact clamp_eq row.lastActivityDays hday
  · intro hpos days hdays hday
    rw [hlate hpos, Option.mem_def.1 hdays]
    exact congrArg some (clamp_eq days hday)

end RelativeFields
end StudentSuccess
