import StudentSuccess.Report
import StudentSuccess.StudentDetail
import StudentSuccess.WorkQueue
import Mathlib.Tactic.Linarith

namespace StudentSuccess
namespace DisplayScores
set_option autoImplicit true
open WorkQueue (StudentPriorityScore statePoints)

/-- What the display reads of a student, each column null or not. -/
structure Columns where
  hwsBehind : Option Int
  lastActivityDays : Option Int
  avgEffRating : Option Rat
  paymentBalance : Option Rat

def riskLevelForDisplay : Option Columns → String
  | none => "UNKNOWN"
  | some profile =>
    let hws := profile.hwsBehind
    let inactivity := profile.lastActivityDays
    if hws.any (3 ≤ ·) || inactivity.any (14 < ·) then "HIGH"
    else if hws.any (1 ≤ ·) || inactivity.any (7 < ·) then "MEDIUM"
    else "LOW"

def homeworkPoints (hws : Int) : List (Rat × String) :=
  if hws ≥ 3 then [(40, "HWS_BEHIND_HIGH_RISK")]
  else if hws ≥ 1 then [(20, "HWS_BEHIND_MODERATE")] else []

def inactivityPoints (inactivity : Int) : List (Rat × String) :=
  if inactivity > 14 then [(30, "INACTIVITY_HIGH_RISK")]
  else if inactivity > 7 then [(15, "INACTIVITY_MODERATE")] else []

def effortPoints (eff : Option Rat) : List (Rat × String) :=
  if eff.any (· < 3) then [(20, "EFF_RATING_LOW")] else []

def balancePoints (balance : Rat) : List (Rat × String) :=
  if balance > 0 then [(10, "PAYMENT_BALANCE_RISK")] else []

def scorePoints (student : Columns) (state : Option OutreachState) : List (Rat × String) :=
  [homeworkPoints (student.hwsBehind.getD 0), inactivityPoints (student.lastActivityDays.getD 0),
    effortPoints student.avgEffRating, balancePoints (student.paymentBalance.getD 0),
    statePoints state].flatten

def levelOf (score : Rat) : String × String :=
  if score ≥ 60 then ("CRITICAL", "ESCALATE")
  else if score ≥ 40 then ("HIGH", "CONTACT_IMMEDIATELY")
  else if score ≥ 20 then ("MEDIUM", "SCHEDULE_OUTREACH")
  else ("LOW", "MONITOR")

def total (points : List (Rat × String)) : Rat := (points.map (·.1)).sum

/-- `score_student`, of a row and the state of the tracking if there is one. -/
def scoreStudent (student : Columns) (state : Option OutreachState) : StudentPriorityScore :=
  let points := scorePoints student state
  let (level, action) := levelOf (total points)
  ⟨level, total points, action, points.map (·.2)⟩

/-- No student is an empty dict. -/
def columnsOf (student : Option StudentTriggerData) : Columns where
  hwsBehind := student.map (·.hwsBehind)
  lastActivityDays := student.map (·.lastActivityDays)
  avgEffRating := student.map (·.avgEffRating)
  paymentBalance := student.bind (·.paymentBalance)

/-- The queues score the rows of the mirror, whose columns are not null. -/
theorem scoreStudent_columnsOf (student : Option StudentTriggerData)
    (tracking : Option (OutreachState × Int)) :
    scoreStudent (columnsOf student) (tracking.map (·.1)) =
      WorkQueue.scoreStudent student tracking := rfl

theorem riskLevelForDisplay_columnsOf (profile : Option StudentTriggerData) :
    riskLevelForDisplay (profile.map fun s => columnsOf (some s)) =
      StudentSuccess.riskLevelForDisplay profile := by
  cases profile with
  | none => rfl
  | some s => simp [riskLevelForDisplay, StudentSuccess.riskLevelForDisplay, columnsOf]

/-- A missing number is below every threshold, as zero is. -/
theorem any_le_getD (hn : 0 < n) (x : Option Int) : x.any (n ≤ ·) = decide (n ≤ x.getD 0) := by
  cases x with
  | none => exact (decide_eq_false (by simp only [Option.getD_none]; omega)).symm
  | some v => rfl

theorem any_lt_getD (hn : 0 ≤ n) (x : Option Int) : x.any (n < ·) = decide (n < x.getD 0) := by
  cases x with
  | none => exact (decide_eq_false (by simp only [Option.getD_none]; omega)).symm
  | some v => rfl

theorem riskLevelForDisplay_eq (profile : Columns) (snap : StudentSnapshots)
    (hhws : snap.hwsBehind = profile.hwsBehind)
    (hinactivity : snap.lastActivityDays = profile.lastActivityDays) :
    riskLevelForDisplay (some profile) = Report.deriveRiskLevel snap := by
  simp only [riskLevelForDisplay, Report.deriveRiskLevel, hhws, hinactivity,
    any_le_getD (n := 3) (by decide), any_le_getD (n := 1) (by decide),
    any_lt_getD (n := 14) (by decide), any_lt_getD (n := 7) (by decide), Bool.or_eq_true,
    decide_eq_true_eq, ge_iff_le, gt_iff_lt]

/-- The signals get worse; a null counts as zero, and a null rating is not a low one. -/
structure Columns.Worsens (s s' : Columns) : Prop where
  hwsBehind : s.hwsBehind.getD 0 ≤ s'.hwsBehind.getD 0
  lastActivityDays : s.lastActivityDays.getD 0 ≤ s'.lastActivityDays.getD 0
  avgEffRating : Option.le (· ≥ ·) s.avgEffRating s'.avgEffRating
  paymentBalance : s.paymentBalance.getD 0 ≤ s'.paymentBalance.getD 0

theorem total_singleton (points : Rat) (code : String) : total [(points, code)] = points := by
  rw [total, List.map_singleton, List.sum_singleton]

theorem total_flatten (blocks : List (List (Rat × String))) :
    total blocks.flatten = (blocks.map total).sum := by
  rw [total, List.map_flatten, List.sum_flatten, List.map_map]
  rfl

section Steps
variable {high high' moderate moderate' : Prop} [Decidable high] [Decidable high']
  [Decidable moderate] [Decidable moderate'] {p q : Rat} {c d : String}

theorem total_step_mono (h : high → high') (hp : 0 ≤ p) :
    total (if high then [(p, c)] else []) ≤ total (if high' then [(p, c)] else []) := by
  by_cases hhigh : high
  · rw [if_pos hhigh, if_pos (h hhigh)]
  · rw [if_neg hhigh]
    split_ifs
    · rw [total_singleton]
      exact hp
    · exact le_rfl

/-- Points of two steps, the higher the more, never fall when a step is passed. -/
theorem total_steps_mono (hhigh : high → high') (hmoderate : moderate → moderate') (hq : 0 ≤ q)
    (hqp : q ≤ p) :
    total (if high then [(p, c)] else if moderate then [(q, d)] else []) ≤
      total (if high' then [(p, c)] else if moderate' then [(q, d)] else []) := by
  by_cases h : high
  · rw [if_pos h, if_pos (hhigh h)]
  · rw [if_neg h]
    by_cases h' : high'
    · rw [if_pos h', total_singleton]
      split_ifs
      · rw [total_singleton]
        exact hqp
      · exact hq.trans hqp
    · rw [if_neg h']
      exact total_step_mono hmoderate hq

end Steps

theorem eff_low_mono (h : Option.le (· ≥ ·) eff eff') (hlow : eff.any (· < (3 : Rat)) = true) :
    eff'.any (· < (3 : Rat)) = true := by
  cases eff with
  | none => cases hlow
  | some e =>
    cases eff' with
    | none => cases h
    | some e' => exact decide_eq_true (lt_of_le_of_lt h (of_decide_eq_true hlow))

theorem total_mono (h : s.Worsens s') (state : Option OutreachState) :
    total (scorePoints s state) ≤ total (scorePoints s' state) := by
  have hhws : total (homeworkPoints (s.hwsBehind.getD 0)) ≤
      total (homeworkPoints (s'.hwsBehind.getD 0)) :=
    total_steps_mono h.hwsBehind.trans' h.hwsBehind.trans' (by norm_num) (by norm_num)
  have hinactivity : total (inactivityPoints (s.lastActivityDays.getD 0)) ≤
      total (inactivityPoints (s'.lastActivityDays.getD 0)) :=
    total_steps_mono h.lastActivityDays.trans_lt' h.lastActivityDays.trans_lt' (by norm_num)
      (by norm_num)
  have heffort : total (effortPoints s.avgEffRating) ≤ total (effortPoints s'.avgEffRating) :=
    total_step_mono (eff_low_mono h.avgEffRating) (by norm_num)
  have hbalance : total (balancePoints (s.paymentBalance.getD 0)) ≤
      total (balancePoints (s'.paymentBalance.getD 0)) :=
    total_step_mono h.paymentBalance.trans_lt' (by norm_num)
  rw [scorePoints, scorePoints, total_flatten, total_flatten]
  simp only [List.map_cons, List.sum_cons]
  exact add_le_add hhws (add_le_add hinactivity (add_le_add heffort (add_le_add hbalance le_rfl)))

def levelRank (level : String) : Nat := ["LOW", "MEDIUM", "HIGH", "CRITICAL"].idxOf level

theorem levelRank_mono {x y : Rat} (h : x ≤ y) :
    levelRank (levelOf x).1 ≤ levelRank (levelOf y).1 := by
  rw [levelOf, levelOf]
  split_ifs <;> first | decide | linarith

theorem total_step_nonneg {high : Prop} [Decidable high] {p : Rat} {c : String} (hp : 0 ≤ p) :
    0 ≤ total (if high then [(p, c)] else []) := by
  split_ifs
  · rw [total_singleton]
    exact hp
  · exact le_rfl

theorem statePoints_nonneg (state : Option OutreachState) : 0 ≤ total (statePoints state) := by
  unfold statePoints
  split
  · rw [total_singleton]
    norm_num
  · rw [total_singleton]
    norm_num
  · exact le_rfl

theorem level_critical (hhws : 3 ≤ s.hwsBehind.getD 0)
    (hinactivity : 14 < s.lastActivityDays.getD 0)
    (state : Option OutreachState) : (scoreStudent s state).level = "CRITICAL" := by
  have heffort : 0 ≤ total (effortPoints s.avgEffRating) := total_step_nonneg (by norm_num)
  have hbalance : 0 ≤ total (balancePoints (s.paymentBalance.getD 0)) :=
    total_step_nonneg (by norm_num)
  have hstate := statePoints_nonneg state
  have hscore : 60 ≤ total (scorePoints s state) := by
    rw [scorePoints, total_flatten, homeworkPoints, if_pos hhws, inactivityPoints,
      if_pos hinactivity]
    simp only [List.map_cons, List.map_nil, List.sum_cons, List.sum_nil, total_singleton]
    linarith
  change (levelOf (total (scorePoints s state))).1 = "CRITICAL"
  rw [levelOf, if_pos hscore]

def Columns.homeworkOnly (s : Columns) : Columns := ⟨s.hwsBehind, none, none, none⟩

def Columns.inactivityOnly (s : Columns) : Columns := ⟨none, s.lastActivityDays, none, none⟩

theorem riskLevelForDisplay_high_iff (profile : Columns) :
    riskLevelForDisplay (some profile) = "HIGH" ↔
      3 ≤ profile.hwsBehind.getD 0 ∨ 14 < profile.lastActivityDays.getD 0 := by
  simp only [riskLevelForDisplay, any_le_getD (n := 3) (by decide),
    any_lt_getD (n := 14) (by decide), Bool.or_eq_true, decide_eq_true_eq]
  split_ifs with hhigh
  · exact iff_of_true rfl hhigh
  · exact iff_of_false (by decide) hhigh
  · exact iff_of_false (by decide) hhigh

theorem display_scores_coherent :
    (∀ (profile : Columns) (snap : StudentSnapshots), snap.hwsBehind = profile.hwsBehind →
      snap.lastActivityDays = profile.lastActivityDays →
        riskLevelForDisplay (some profile) = Report.deriveRiskLevel snap) ∧
    (∀ (s s' : Columns) (state : Option OutreachState), s.Worsens s' →
      (scoreStudent s state).score ≤ (scoreStudent s' state).score ∧
        levelRank (scoreStudent s state).level ≤ levelRank (scoreStudent s' state).level) ∧
    (∀ (s : Columns) (state : Option OutreachState),
      riskLevelForDisplay (some s.homeworkOnly) = "HIGH" →
        riskLevelForDisplay (some s.inactivityOnly) = "HIGH" →
          (scoreStudent s state).level = "CRITICAL") := by
  refine ⟨riskLevelForDisplay_eq, fun s s' state h => ?_, fun s state hhws hinactivity => ?_⟩
  · have hscore := total_mono h state
    exact ⟨hscore, levelRank_mono hscore⟩
  · have hhomework : 3 ≤ s.hwsBehind.getD 0 :=
      ((riskLevelForDisplay_high_iff s.homeworkOnly).1 hhws).resolve_right
        (show ¬ (14 : Int) < 0 by decide)
    have hlong : 14 < s.lastActivityDays.getD 0 :=
      ((riskLevelForDisplay_high_iff s.inactivityOnly).1 hinactivity).resolve_left
        (show ¬ (3 : Int) ≤ 0 by decide)
    exact level_critical hhomework hlong state

end DisplayScores
end StudentSuccess
