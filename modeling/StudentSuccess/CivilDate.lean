import StudentSuccess.Calendar

set_option autoImplicit true

namespace Calendar

/-- The year of a day: whole cycles of 400, 100 and 4 years and single years; the last day of a
leap cycle would start a fifth part of it. -/
def yearOf (d : Nat) : Nat :=
  let n400 := d / 146097
  let n100 := d % 146097 / 36524
  let n4 := d % 146097 % 36524 / 1461
  let n1 := d % 146097 % 36524 % 1461 / 365
  let year := n400 * 400 + n100 * 100 + n4 * 4 + n1
  if n1 = 4 ∨ n100 = 4 then year else year + 1

/-- The month of a day of the year: a guess that is at most one too high. -/
def monthIn (year n : Nat) : Nat :=
  let month := (n + 50) / 32
  if n < daysBeforeMonth year month then month - 1 else month

theorem yearOf_pos (d : Nat) : 1 ≤ yearOf d := by
  simp only [yearOf]
  split_ifs with h
  · rcases h with h | h
    · omega
    · omega
  · omega

theorem daysBeforeYear_cycles (a : Nat) {b c e : Nat} (hb : b ≤ 3) (hc : c ≤ 24) (he : e ≤ 3) :
    daysBeforeYear (a * 400 + b * 100 + c * 4 + e + 1) =
      a * 146097 + b * 36524 + c * 1461 + e * 365 := by
  have hfour : (a * 400 + b * 100 + c * 4 + e) / 4 = a * 100 + b * 25 + c := by omega
  have hcentury : (a * 400 + b * 100 + c * 4 + e) / 100 = a * 4 + b := by omega
  have hcycle : (a * 400 + b * 100 + c * 4 + e) / 400 = a := by omega
  rw [daysBeforeYear, Nat.add_sub_cancel, hfour, hcentury, hcycle]
  omega

theorem isLeap_cycle {a b c : Nat} (h : c ≤ 23 ∨ b = 3 ∧ c = 24) :
    isLeap (a * 400 + b * 100 + c * 4 + 4) = true := by
  rw [isLeap_iff]
  rcases h with hc | ⟨rfl, rfl⟩
  · have hcentury : (a * 400 + b * 100 + c * 4 + 4) % 100 = c * 4 + 4 := by omega
    exact ⟨by omega, .inl (by omega)⟩
  · exact ⟨by omega, .inr (by omega)⟩

theorem daysBeforeYear_yearOf (d : Nat) :
    daysBeforeYear (yearOf d) ≤ d ∧ d < daysBeforeYear (yearOf d + 1) := by
  simp only [yearOf]
  generalize ha : d / 146097 = a
  generalize hb : d % 146097 / 36524 = b
  generalize hc : d % 146097 % 36524 / 1461 = c
  generalize he : d % 146097 % 36524 % 1461 / 365 = e
  split_ifs with h
  · rcases h with rfl | rfl
    · have hle : b ≤ 3 ∧ c ≤ 23 := by omega
      have hbefore := daysBeforeYear_cycles a hle.1 (hle.2.trans (by decide)) (le_refl 3)
      have hnext := daysBeforeYear_succ (Nat.le_add_left 1 (a * 400 + b * 100 + c * 4 + 3))
      rw [hbefore, isLeap_cycle (.inl hle.2), if_pos rfl] at hnext
      rw [hnext, hbefore]
      omega
    · have hzero : c = 0 ∧ e = 0 := by omega
      obtain ⟨rfl, rfl⟩ := hzero
      have hyear : a * 400 + 4 * 100 + 0 * 4 + 0 = a * 400 + 3 * 100 + 24 * 4 + 3 + 1 := by omega
      have hbefore := daysBeforeYear_cycles a (le_refl 3) (le_refl 24) (le_refl 3)
      have hnext := daysBeforeYear_succ (Nat.le_add_left 1 (a * 400 + 3 * 100 + 24 * 4 + 3))
      rw [hbefore, isLeap_cycle (.inr ⟨rfl, rfl⟩), if_pos rfl] at hnext
      rw [hyear, hnext, hbefore]
      omega
  · have hle : b ≤ 3 ∧ c ≤ 24 ∧ e ≤ 3 := by omega
    have hbefore := daysBeforeYear_cycles a hle.1 hle.2.1 hle.2.2
    have hnext := daysBeforeYear_succ (Nat.le_add_left 1 (a * 400 + b * 100 + c * 4 + e))
    rw [hnext, hbefore]
    omega

theorem daysBeforeMonth_bounds (year : Nat) (hpos : 1 ≤ month) (hle : month ≤ 12) :
    32 * month ≤ daysBeforeMonth year month + 50 ∧
      daysBeforeMonth year month + 18 ≤ 32 * month := by
  have htable : 32 * month ≤ daysBefore month + 50 ∧ daysBefore month + 19 ≤ 32 * month := by
    interval_cases month <;> decide
  rw [daysBeforeMonth]
  split_ifs
  · omega
  · omega

theorem monthIn_spec {year n : Nat} (hn : n < 365 + if isLeap year then 1 else 0) :
    1 ≤ monthIn year n ∧ monthIn year n ≤ 12 ∧ daysBeforeMonth year (monthIn year n) ≤ n ∧
      n < daysBeforeMonth year (monthIn year n) + daysInMonth year (monthIn year n) := by
  have hlow : 1 ≤ (n + 50) / 32 := by omega
  have hhigh : (n + 50) / 32 ≤ 12 := by
    split_ifs at hn
    · omega
    · omega
  have hguess : 32 * ((n + 50) / 32) ≤ n + 50 ∧ n + 50 < 32 * ((n + 50) / 32) + 32 := by omega
  simp only [monthIn]
  generalize (n + 50) / 32 = month at hlow hhigh hguess
  split_ifs with hlt
  · -- the guess is one too high
    have hmonth : 2 ≤ month := by
      by_contra hone
      have heq : month = 1 := by omega
      subst heq
      exact absurd hlt (Nat.not_lt_zero n)
    obtain ⟨before, rfl⟩ := Nat.exists_eq_add_of_le' hlow
    have hpos : 1 ≤ before := by omega
    have hbounds := daysBeforeMonth_bounds year hpos (by omega)
    have hsucc := daysBeforeMonth_succ year hpos (by omega)
    rw [Nat.add_sub_cancel]
    omega
  · refine ⟨hlow, hhigh, Nat.le_of_not_lt hlt, ?_⟩
    rcases Nat.lt_or_ge month 12 with hless | hge
    · have hbounds := daysBeforeMonth_bounds year (Nat.le_add_left 1 month) hless
      have hsucc := daysBeforeMonth_succ year hlow hless
      omega
    · have heq : month = 12 := by omega
      subst heq
      rw [daysBeforeMonth_december]
      exact hn

theorem dayOfYear_lt (d : Nat) :
    d - daysBeforeYear (yearOf d) < 365 + if isLeap (yearOf d) then 1 else 0 := by
  have hyear := daysBeforeYear_yearOf d
  rw [daysBeforeYear_succ (yearOf_pos d)] at hyear
  omega

def monthOf (d : Nat) : Month :=
  have hspec := monthIn_spec (dayOfYear_lt d)
  ⟨yearOf d, monthIn (yearOf d) (d - daysBeforeYear (yearOf d)), yearOf_pos d, hspec.1, hspec.2.1⟩

theorem monthOf_spec (d : Nat) :
    (monthOf d).firstDay ≤ d ∧ d < (monthOf d).next.firstDay := by
  have hyear := (daysBeforeYear_yearOf d).1
  obtain ⟨-, -, hle, hlt⟩ := monthIn_spec (dayOfYear_lt d)
  rw [firstDay_next]
  have hfirst : daysBeforeYear (yearOf d) + daysBeforeMonth (yearOf d)
      (monthIn (yearOf d) (d - daysBeforeYear (yearOf d))) ≤ d := by omega
  have hlast : d < daysBeforeYear (yearOf d) + daysBeforeMonth (yearOf d)
      (monthIn (yearOf d) (d - daysBeforeYear (yearOf d))) +
      daysInMonth (yearOf d) (monthIn (yearOf d) (d - daysBeforeYear (yearOf d))) := by omega
  exact ⟨hfirst, hlast⟩

theorem mem_halfOpen_iff (m : Month) (t : Nat) :
    t ∈ Windows.halfOpen boundary m.index ↔ m.start ≤ t ∧ t < m.stop := by
  rw [Windows.halfOpen, Set.mem_Ico, boundary, boundary, Month.ofIndex_succ, Month.ofIndex_index]
  rfl

theorem monthOf_eq_iff (t : Nat) (m : Month) :
    monthOf (t / microsPerDay) = m ↔ m.start ≤ t ∧ t < m.stop := by
  have hpos : 0 < microsPerDay := by decide
  have hmem : t ∈ Windows.halfOpen boundary (monthOf (t / microsPerDay)).index := by
    have hspec := monthOf_spec (t / microsPerDay)
    rw [mem_halfOpen_iff, Month.stop, Month.start, Month.start]
    exact ⟨(Nat.le_div_iff_mul_le hpos).1 hspec.1, (Nat.div_lt_iff_lt_mul hpos).1 hspec.2⟩
  constructor
  · rintro rfl
    exact (mem_halfOpen_iff _ t).1 hmem
  · intro h
    have hindex := boundaries.halfOpen_unique hmem ((mem_halfOpen_iff m t).2 h)
    rw [← Month.ofIndex_index (monthOf (t / microsPerDay)), hindex, Month.ofIndex_index]

/-- The text of a day, `strftime("%Y-%m-%d")`. -/
def dateText (d : Nat) : String :=
  toString (monthOf d).year ++ "-" ++ twoDigits (monthOf d).month ++ "-" ++
    twoDigits (d - (monthOf d).firstDay + 1)
where
  twoDigits (n : Nat) : String := if n < 10 then "0" ++ toString n else toString n

example : dateText 738944 = "2024-02-29" := by decide +kernel

end Calendar
