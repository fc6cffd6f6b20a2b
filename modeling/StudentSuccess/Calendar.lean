import StudentSuccess.Windows
import Mathlib.Data.Nat.Basic
import Mathlib.Tactic.IntervalCases

set_option autoImplicit true

namespace Calendar

/-- A day of the proleptic Gregorian calendar, counted from 0001-01-01. -/
abbrev Day := Nat

/-- A month of a year, as `date(year, month, 1)` accepts it. -/
@[ext]
structure Month where
  year : Nat
  month : Nat
  year_pos : 1 ≤ year
  month_pos : 1 ≤ month
  month_le : month ≤ 12
  deriving DecidableEq

def isLeap (year : Nat) : Bool := year % 4 = 0 && (year % 100 ≠ 0 || year % 400 = 0)

def daysBeforeYear (year : Nat) : Nat :=
  (year - 1) * 365 + (year - 1) / 4 - (year - 1) / 100 + (year - 1) / 400

def daysBefore : Nat → Nat
  | 2 => 31
  | 3 => 59
  | 4 => 90
  | 5 => 120
  | 6 => 151
  | 7 => 181
  | 8 => 212
  | 9 => 243
  | 10 => 273
  | 11 => 304
  | 12 => 334
  | _ => 0

def daysBeforeMonth (year month : Nat) : Nat :=
  daysBefore month + if 2 < month ∧ isLeap year then 1 else 0

def daysInMonth (year : Nat) : Nat → Nat
  | 2 => if isLeap year then 29 else 28
  | 4 => 30
  | 6 => 30
  | 9 => 30
  | 11 => 30
  | _ => 31

namespace Month

def days (m : Month) : Nat := daysInMonth m.year m.month

def firstDay (m : Month) : Day := daysBeforeYear m.year + daysBeforeMonth m.year m.month

def next (m : Month) : Month :=
  if h : m.month = 12 then ⟨m.year + 1, 1, by omega, le_rfl, by omega⟩
  else
    have := m.month_le
    ⟨m.year, m.month + 1, m.year_pos, by omega, by omega⟩

/-- The months that precede the month, from the first of year 1. -/
def index (m : Month) : Nat := 12 * (m.year - 1) + (m.month - 1)

def ofIndex (i : Nat) : Month where
  year := i / 12 + 1
  month := i % 12 + 1
  year_pos := by omega
  month_pos := by omega
  month_le := by omega

@[simp] theorem index_ofIndex (i : Nat) : (ofIndex i).index = i := by
  simp only [index, ofIndex]
  omega

@[simp] theorem ofIndex_index (m : Month) : ofIndex m.index = m := by
  obtain ⟨year, month, hyear, hpos, hle⟩ := m
  rw [Month.ext_iff]
  simp only [index, ofIndex]
  omega

@[simp] theorem index_next (m : Month) : m.next.index = m.index + 1 := by
  obtain ⟨year, month, hyear, hpos, hle⟩ := m
  simp only [next, index]
  split_ifs with h
  · simp only at h ⊢
    omega
  · simp only
    omega

theorem ofIndex_succ (i : Nat) : ofIndex (i + 1) = (ofIndex i).next := by
  rw [← ofIndex_index (ofIndex i).next, index_next, index_ofIndex]

end Month

theorem days_pos (m : Month) : 0 < m.days := by
  simp only [Month.days, daysInMonth]
  split
  · split_ifs <;> decide
  · decide
  · decide
  · decide
  · decide
  · decide

theorem isLeap_iff (year : Nat) :
    isLeap year = true ↔ year % 4 = 0 ∧ (year % 100 ≠ 0 ∨ year % 400 = 0) := by
  simp [isLeap]

theorem daysBeforeYear_succ (hyear : 1 ≤ year) :
    daysBeforeYear (year + 1) = daysBeforeYear year + 365 + if isLeap year then 1 else 0 := by
  obtain ⟨n, rfl⟩ := Nat.exists_eq_add_of_le' hyear
  have hfour : 100 ∣ n + 1 → 4 ∣ n + 1 := Nat.dvd_trans (by decide)
  have hcentury : 400 ∣ n + 1 → 100 ∣ n + 1 := Nat.dvd_trans (by decide)
  have hbound : n / 100 ≤ n / 4 := Nat.div_le_div_left (by decide) (by decide)
  simp only [daysBeforeYear, Nat.add_sub_cancel, isLeap_iff, ← Nat.dvd_iff_mod_eq_zero,
    Nat.succ_div, ne_eq]
  by_cases h4 : 4 ∣ n + 1
  · by_cases h100 : 100 ∣ n + 1
    · by_cases h400 : 400 ∣ n + 1
      · simp only [h4, h100, h400, if_true, not_true_eq_false, or_true, and_self]
        omega
      · simp only [h4, h100, h400, if_true, if_false, not_true_eq_false, or_self, and_false]
        omega
    · have h400 : ¬ 400 ∣ n + 1 := fun h => h100 (hcentury h)
      simp only [h4, h100, h400, if_true, if_false, not_false_eq_true, or_false, and_self]
      omega
  · have h100 : ¬ 100 ∣ n + 1 := fun h => h4 (hfour h)
    have h400 : ¬ 400 ∣ n + 1 := fun h => h100 (hcentury h)
    simp only [h4, h100, h400, if_false, false_and]
    omega

theorem daysBeforeMonth_december (year : Nat) :
    daysBeforeMonth year 12 + daysInMonth year 12 = 365 + if isLeap year then 1 else 0 := by
  simp only [daysBeforeMonth, daysBefore, daysInMonth]
  split_ifs <;> simp_all

theorem daysBeforeMonth_succ (year : Nat) (hpos : 1 ≤ month) (hle : month < 12) :
    daysBeforeMonth year (month + 1) = daysBeforeMonth year month + daysInMonth year month := by
  simp only [daysBeforeMonth, daysInMonth]
  interval_cases month <;> simp [daysBefore] <;> split_ifs <;> rfl

theorem firstDay_next (m : Month) : m.next.firstDay = m.firstDay + m.days := by
  obtain ⟨year, month, hyear, hpos, hle⟩ := m
  simp only [Month.next, Month.firstDay, Month.days]
  split_ifs with h
  · simp only at h ⊢
    subst h
    have hfirst : daysBeforeMonth (year + 1) 1 = 0 := by simp [daysBeforeMonth, daysBefore]
    rw [daysBeforeYear_succ hyear, hfirst, Nat.add_assoc _ (daysBeforeMonth year 12),
      daysBeforeMonth_december, Nat.add_zero, Nat.add_assoc]
  · simp only at h ⊢
    rw [daysBeforeMonth_succ year hpos (by omega), Nat.add_assoc]

def microsPerDay : Nat := 86400000000

def Month.start (m : Month) : Nat := m.firstDay * microsPerDay

def Month.stop (m : Month) : Nat := m.next.start

theorem start_next_lt (m : Month) : m.start < m.next.start := by
  have hdays := days_pos m
  rw [Month.start, Month.start, firstDay_next]
  apply Nat.mul_lt_mul_of_pos_right
  · omega
  · decide

def boundary (i : Nat) : Nat := (Month.ofIndex i).start

theorem boundary_strictMono : StrictMono boundary := by
  apply strictMono_nat_of_lt_succ
  intro i
  simp only [boundary]
  rw [Month.ofIndex_succ]
  exact start_next_lt _

/-- The months cut the time line from year 1 on. -/
theorem boundaries : Windows.Boundaries boundary where
  strictMono := boundary_strictMono
  bottom t := by
    have hzero : boundary 0 = 0 := by decide
    rw [hzero]
    exact Nat.zero_le t
  unbounded t := by
    have hle := boundary_strictMono.le_apply (x := t + 1)
    exact ⟨t + 1, by omega⟩

end Calendar
