import StudentSuccess.Calendar
import Mathlib.Data.String.Basic

set_option autoImplicit true

namespace IsoText
open Calendar

/-- The decimal text of `n`, filled with zeros to the width. -/
def pad : Nat → Nat → List Char
  | 0, _ => []
  | width + 1, n => (n / 10 ^ width % 10).digitChar :: pad width (n % 10 ^ width)

theorem pad_length (width n : Nat) : (pad width n).length = width := by
  induction width generalizing n with
  | zero => rfl
  | succ width ih => rw [pad, List.length_cons, ih]

theorem digitChar_lt (h : m < n) (hn : n < 10) : m.digitChar < n.digitChar := by
  interval_cases n <;> interval_cases m <;> decide

theorem pad_lt (h : m < n) (hn : n < 10 ^ width) : pad width m < pad width n := by
  induction width generalizing m n with
  | zero => omega
  | succ width ih =>
    have hpos : 0 < 10 ^ width := Nat.pow_pos (by decide)
    have hdigit : n / 10 ^ width < 10 := by
      rw [Nat.div_lt_iff_lt_mul hpos, Nat.mul_comm]
      exact hn
    have hle : m / 10 ^ width ≤ n / 10 ^ width := Nat.div_le_div_right h.le
    rw [pad, pad, Nat.mod_eq_of_lt hdigit, Nat.mod_eq_of_lt (hle.trans_lt hdigit),
      List.cons_lt_cons_iff]
    rcases hle.lt_or_eq with hlt | heq
    · exact .inl (digitChar_lt hlt hdigit)
    · refine .inr ⟨by rw [heq], ih ?_ (Nat.mod_lt n hpos)⟩
      have hm := Nat.div_add_mod m (10 ^ width)
      have hn := Nat.div_add_mod n (10 ^ width)
      rw [heq] at hm
      omega

/-- The first difference decides, whatever follows it. -/
theorem append_lt_append [LT α] {xs ys : List α} (hlength : xs.length = ys.length) (h : xs < ys)
    (s t : List α) : xs ++ s < ys ++ t := by
  induction xs generalizing ys with
  | nil =>
    cases ys with
    | nil => exact nomatch h
    | cons y ys => exact nomatch hlength
  | cons x xs ih =>
    cases ys with
    | nil => exact nomatch hlength
    | cons y ys =>
      rw [List.cons_append, List.cons_append, List.cons_lt_cons_iff]
      rcases List.cons_lt_cons_iff.1 h with hlt | ⟨heq, hlt⟩
      · exact .inl hlt
      · exact .inr ⟨heq, ih (Nat.succ.inj hlength) hlt⟩

/-- A date and time of the UTC calendar, as `datetime` builds it. -/
structure Datetime where
  month : Month
  day : Nat
  hour : Nat
  minute : Nat
  second : Nat
  microsecond : Nat
  year_le : month.year ≤ 9999
  day_pos : 1 ≤ day
  day_le : day ≤ month.days
  hour_lt : hour < 24
  minute_lt : minute < 60
  second_lt : second < 60
  microsecond_lt : microsecond < 1000000

namespace Datetime

def dayNumber (d : Datetime) : Nat := d.month.firstDay + (d.day - 1)

def secondOfDay (d : Datetime) : Nat := (d.hour * 60 + d.minute) * 60 + d.second

/-- The microseconds since 0001-01-01T00:00. -/
def instant (d : Datetime) : Nat :=
  (d.dayNumber * 86400 + d.secondOfDay) * 1000000 + d.microsecond

def monthText (m : Month) : List Char := pad 4 m.year ++ '-' :: pad 2 m.month

def dateText (d : Datetime) : List Char := monthText d.month ++ '-' :: pad 2 d.day

def clockText (d : Datetime) : List Char :=
  pad 2 d.hour ++ ':' :: (pad 2 d.minute ++ ':' :: pad 2 d.second)

/-- The microseconds, left out when there are none, and the offset. -/
def fractionText (microsecond : Nat) : List Char :=
  (if microsecond = 0 then [] else '.' :: pad 6 microsecond) ++ ['+', '0', '0', ':', '0', '0']

def isoChars (d : Datetime) : List Char :=
  d.dateText ++ 'T' :: (d.clockText ++ fractionText d.microsecond)

def isoformat (d : Datetime) : String := String.ofList d.isoChars

theorem monthText_length (m : Month) : (monthText m).length = 7 := by
  simp only [monthText, List.length_append, List.length_cons, pad_length]

theorem dateText_length (d : Datetime) : d.dateText.length = 10 := by
  simp only [dateText, List.length_append, List.length_cons, pad_length, monthText_length]

theorem clockText_length (d : Datetime) : d.clockText.length = 8 := by
  simp only [clockText, List.length_append, List.length_cons, pad_length]

theorem monthText_lt (hyear : m'.year ≤ 9999) (h : m.index < m'.index) :
    monthText m < monthText m' := by
  have hmonth := m.month_pos
  have hle := m.month_le
  have hpos' := m'.month_pos
  have hle' := m'.month_le
  have hyears := m.year_pos
  have hyears' := m'.year_pos
  simp only [Month.index] at h
  rcases Nat.lt_or_ge m.year m'.year with hlt | hge
  · apply append_lt_append
    · rw [pad_length, pad_length]
    · exact pad_lt hlt (by omega)
  · have heq : m.year = m'.year := by omega
    rw [monthText, monthText, heq]
    apply List.append_left_lt
    rw [List.cons_lt_cons_iff]
    exact .inr ⟨rfl, pad_lt (by omega) (by omega)⟩

theorem days_le (m : Month) : m.days ≤ 31 := by
  rw [Month.days]
  simp only [daysInMonth]
  split
  · split_ifs <;> decide
  · decide
  · decide
  · decide
  · decide
  · decide

theorem dayNumber_lt_of_index_lt {a b : Datetime} (h : a.month.index < b.month.index) :
    a.dayNumber < b.dayNumber := by
  have hday := a.day_le
  have hpos := a.day_pos
  have hmono : a.month.next.start ≤ b.month.start := by
    have hle := boundary_strictMono.monotone (Nat.succ_le_of_lt h)
    rw [boundary, boundary, Month.ofIndex_succ, Month.ofIndex_index, Month.ofIndex_index] at hle
    exact hle
  rw [Month.start, Month.start, firstDay_next] at hmono
  have hfirst := Nat.le_of_mul_le_mul_right hmono (by decide)
  simp only [dayNumber]
  omega

theorem dateText_lt {a b : Datetime} (h : a.dayNumber < b.dayNumber) : a.dateText < b.dateText := by
  rcases Nat.lt_trichotomy a.month.index b.month.index with hlt | heq | hgt
  · apply append_lt_append
    · rw [monthText_length, monthText_length]
    · exact monthText_lt b.year_le hlt
  · have hmonth : a.month = b.month := by
      rw [← Month.ofIndex_index a.month, heq, Month.ofIndex_index]
    have hday := b.day_le
    have hdays := days_le b.month
    simp only [dayNumber, hmonth] at h
    rw [dateText, dateText, hmonth]
    apply List.append_left_lt
    rw [List.cons_lt_cons_iff]
    exact .inr ⟨rfl, pad_lt (by omega) (by omega)⟩
  · exact absurd (dayNumber_lt_of_index_lt hgt) (by omega)

theorem dateText_congr {a b : Datetime} (h : a.dayNumber = b.dayNumber) :
    a.dateText = b.dateText := by
  rcases Nat.lt_trichotomy a.month.index b.month.index with hlt | heq | hgt
  · exact absurd (dayNumber_lt_of_index_lt hlt) (by omega)
  · have hmonth : a.month = b.month := by
      rw [← Month.ofIndex_index a.month, heq, Month.ofIndex_index]
    have hpos := a.day_pos
    have hpos' := b.day_pos
    have hday : a.day = b.day := by
      simp only [dayNumber, hmonth] at h
      omega
    rw [dateText, dateText, hmonth, hday]
  · exact absurd (dayNumber_lt_of_index_lt hgt) (by omega)

theorem clockText_lt {a b : Datetime} (h : a.secondOfDay < b.secondOfDay) :
    a.clockText < b.clockText := by
  have hhour := b.hour_lt
  have hminute := b.minute_lt
  have hsecond := b.second_lt
  have hminute' := a.minute_lt
  have hsecond' := a.second_lt
  simp only [secondOfDay] at h
  rcases Nat.lt_or_ge a.hour b.hour with hlt | hge
  · apply append_lt_append
    · rw [pad_length, pad_length]
    · exact pad_lt hlt (by omega)
  · have heq : a.hour = b.hour := by omega
    rw [clockText, clockText, heq]
    apply List.append_left_lt
    rw [List.cons_lt_cons_iff]
    refine .inr ⟨rfl, ?_⟩
    rcases Nat.lt_or_ge a.minute b.minute with hlt | hge
    · apply append_lt_append
      · rw [pad_length, pad_length]
      · exact pad_lt hlt (by omega)
    · have heq' : a.minute = b.minute := by omega
      rw [heq']
      apply List.append_left_lt
      rw [List.cons_lt_cons_iff]
      exact .inr ⟨rfl, pad_lt (by omega) (by omega)⟩

theorem clockText_congr {a b : Datetime} (h : a.secondOfDay = b.secondOfDay) :
    a.clockText = b.clockText := by
  have hminute := b.minute_lt
  have hsecond := b.second_lt
  have hminute' := a.minute_lt
  have hsecond' := a.second_lt
  simp only [secondOfDay] at h
  have hhours : a.hour = b.hour := by omega
  have hminutes : a.minute = b.minute := by omega
  have hseconds : a.second = b.second := by omega
  rw [clockText, clockText, hhours, hminutes, hseconds]

/-- The sign of the offset comes before the point of the fraction. -/
theorem fractionText_lt (h : m < n) (hn : n < 1000000) : fractionText m < fractionText n := by
  have hpos : n ≠ 0 := by omega
  rw [fractionText, fractionText, if_neg hpos]
  by_cases hm : m = 0
  · rw [if_pos hm, List.nil_append, List.cons_append, List.cons_lt_cons_iff]
    exact .inl (by decide)
  · rw [if_neg hm]
    apply append_lt_append
    · rw [List.length_cons, List.length_cons, pad_length, pad_length]
    · rw [List.cons_lt_cons_iff]
      exact .inr ⟨rfl, pad_lt h hn⟩

/-- The texts of instants come in the order of time. -/
theorem isoformat_lt {a b : Datetime} (h : a.instant < b.instant) : a.isoformat < b.isoformat := by
  rw [isoformat, isoformat, String.lt_iff_toList_lt, String.toList_ofList, String.toList_ofList]
  have hmicros := a.microsecond_lt
  have hmicros' := b.microsecond_lt
  have hclock (d : Datetime) : d.secondOfDay < 86400 := by
    have hhour := d.hour_lt
    have hminute := d.minute_lt
    have hsecond := d.second_lt
    simp only [secondOfDay]
    omega
  have ha := hclock a
  have hb := hclock b
  simp only [instant] at h
  rcases Nat.lt_or_ge a.dayNumber b.dayNumber with hlt | hge
  · apply append_lt_append
    · rw [dateText_length, dateText_length]
    · exact dateText_lt hlt
  · have hdays : a.dayNumber = b.dayNumber := by omega
    rw [isoChars, isoChars, dateText_congr hdays]
    apply List.append_left_lt
    rw [List.cons_lt_cons_iff]
    refine .inr ⟨rfl, ?_⟩
    rcases Nat.lt_or_ge a.secondOfDay b.secondOfDay with hlt | hge
    · apply append_lt_append
      · rw [clockText_length, clockText_length]
      · exact clockText_lt hlt
    · have hseconds : a.secondOfDay = b.secondOfDay := by omega
      rw [clockText_congr hseconds]
      exact List.append_left_lt (fractionText_lt (by omega) hmicros')

example : isoformat ⟨⟨2026, 1, by decide, by decide, by decide⟩, 31, 23, 30, 0, 50, by decide,
    by decide, by decide, by decide, by decide, by decide, by decide⟩ =
      "2026-01-31T23:30:00.000050+00:00" := by decide

theorem empty_lt_isoformat (d : Datetime) : "" < d.isoformat := by
  have hlength := d.dateText_length
  cases hdate : d.dateText with
  | nil => rw [hdate] at hlength; exact nomatch hlength
  | cons c cs =>
    rw [isoformat, String.lt_iff_toList_lt, String.toList_ofList, String.toList_ofList, isoChars,
      hdate]
    exact List.nil_lt_cons c _

end Datetime
end IsoText
