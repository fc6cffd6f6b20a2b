import StudentSuccess.FinalizedRows

namespace StudentSuccess
namespace EngagementReadings
set_option autoImplicit true
open Report

/-- The days since the last login and the last activity, as the depth reads them. -/
def loginDays (snap : StudentSnapshots) : Int := snap.lastLoginDays.getD 0

def activityDays (snap : StudentSnapshots) : Int := snap.lastActivityDays.getD 0

def ReportsNonSubmitter (depth : EngagementDepth) : Prop :=
  depth.activityPattern = "ACTIVE_NON_SUBMITTER" ∨ depth.gapInterpretation = "ACTIVE_NON_SUBMITTER"

/-- The pattern and the interpretation of the gap agree, and a student who is reported active
without submissions logged in after he last submitted. -/
structure Coherent (snap : StudentSnapshots) (depth : EngagementDepth) : Prop where
  inactive : depth.activityPattern = "INACTIVE" ↔ depth.gapInterpretation = "INACTIVE"
  nonSubmitter : depth.activityPattern = "ACTIVE_NON_SUBMITTER" ↔
    depth.gapInterpretation = "ACTIVE_NON_SUBMITTER"
  loggedIn : ReportsNonSubmitter depth → loginDays snap < activityDays snap

section Readings
variable (snap : StudentSnapshots) (trendData : TrendData)

theorem pattern_inactive_iff :
    (buildEngagementDepth snap trendData).activityPattern = "INACTIVE" ↔
      14 < activityDays snap := by
  simp only [buildEngagementDepth, activityDays]
  split_ifs with hactivity hgap hrecent
  · exact iff_of_true rfl hactivity
  · exact iff_of_false (by decide) hactivity
  · exact iff_of_false (by decide) hactivity
  · exact iff_of_false (by decide) hactivity

theorem pattern_nonSubmitter_iff :
    (buildEngagementDepth snap trendData).activityPattern = "ACTIVE_NON_SUBMITTER" ↔
      activityDays snap ≤ 14 ∧ 5 < loginDays snap - activityDays snap := by
  simp only [buildEngagementDepth, activityDays, loginDays]
  split_ifs with hactivity hgap hrecent
  · exact iff_of_false (by decide) fun h => absurd hactivity (by omega)
  · exact iff_of_true rfl ⟨by omega, hgap⟩
  · exact iff_of_false (by decide) fun h => hgap h.2
  · exact iff_of_false (by decide) fun h => hgap h.2

theorem interpretation_inactive_iff :
    (buildEngagementDepth snap trendData).gapInterpretation = "INACTIVE" ↔
      14 < activityDays snap ∧ loginDays snap - activityDays snap ≤ 5 := by
  simp only [buildEngagementDepth, activityDays, loginDays]
  split_ifs with hgap hactivity
  · exact iff_of_false (by decide) fun h => absurd hgap (by omega)
  · exact iff_of_true rfl ⟨hactivity, by omega⟩
  · exact iff_of_false (by decide) fun h => hactivity h.1

theorem interpretation_nonSubmitter_iff :
    (buildEngagementDepth snap trendData).gapInterpretation = "ACTIVE_NON_SUBMITTER" ↔
      5 < loginDays snap - activityDays snap := by
  simp only [buildEngagementDepth, activityDays, loginDays]
  split_ifs with hgap hactivity
  · exact iff_of_true rfl hgap
  · exact iff_of_false (by decide) hgap
  · exact iff_of_false (by decide) hgap

theorem reportsNonSubmitter_iff :
    ReportsNonSubmitter (buildEngagementDepth snap trendData) ↔
      5 < loginDays snap - activityDays snap := by
  rw [ReportsNonSubmitter, pattern_nonSubmitter_iff, interpretation_nonSubmitter_iff]
  exact or_iff_right_of_imp And.right

theorem inactive_agree_iff :
    ((buildEngagementDepth snap trendData).activityPattern = "INACTIVE" ↔
        (buildEngagementDepth snap trendData).gapInterpretation = "INACTIVE") ↔
      (14 < activityDays snap → loginDays snap - activityDays snap ≤ 5) := by
  rw [pattern_inactive_iff, interpretation_inactive_iff]
  exact ⟨fun h hactivity => (h.1 hactivity).2, fun h => ⟨fun ha => ⟨ha, h ha⟩, And.left⟩⟩

/-- The gap counts from the submission to the login: where it is long, the login is the older. -/
theorem engagement_readings_iff :
    Coherent snap (buildEngagementDepth snap trendData) ↔
      loginDays snap - activityDays snap ≤ 5 := by
  constructor
  · intro h
    by_contra hgap
    have hreported := (reportsNonSubmitter_iff snap trendData).2 (by omega)
    have hlater := h.loggedIn hreported
    omega
  · intro hgap
    refine ⟨(inactive_agree_iff snap trendData).2 fun _ => hgap, ?_, fun hreported => ?_⟩
    · rw [pattern_nonSubmitter_iff, interpretation_nonSubmitter_iff]
      omega
    · have hlong := (reportsNonSubmitter_iff snap trendData).1 hreported
      omega

end Readings

def submittedSince : StudentSnapshots :=
  { Pipeline.assembledRow with lastLoginDays := some 20, lastActivityDays := some 3 }

def longInactive : StudentSnapshots :=
  { Pipeline.assembledRow with lastLoginDays := some 25, lastActivityDays := some 15 }

def noTrends : TrendData := loadTrendData Pipeline.emptyWarehouse 1 Pipeline.january

theorem readings_not_coherent :
    (buildEngagementDepth submittedSince noTrends).activityPattern = "ACTIVE_NON_SUBMITTER" ∧
      ¬ Coherent submittedSince (buildEngagementDepth submittedSince noTrends) ∧
      (buildEngagementDepth longInactive noTrends).activityPattern = "INACTIVE" ∧
      (buildEngagementDepth longInactive noTrends).gapInterpretation = "ACTIVE_NON_SUBMITTER" ∧
      ¬ Coherent longInactive (buildEngagementDepth longInactive noTrends) := by
  refine ⟨rfl, fun h => ?_, rfl, rfl, fun h => ?_⟩
  · exact absurd (h.loggedIn (.inl rfl)) (by decide)
  · exact absurd (h.inactive.1 rfl) (by decide)

end EngagementReadings
end StudentSuccess
