import StudentSuccess.Platform

namespace StudentSuccess
namespace Report
set_option autoImplicit true
open Calendar (Day Month)

/-- A transition of the month, as a report lists it. -/
structure Transition where
  transitionDate : Instant
  fromState : OutreachState
  toState : OutreachState
  trigger : String
  actor : String
  correlationId : Option String
  executionMode : String

structure Identity where
  fullName : String
  userId : Int
  email : Option String
  phone : Option String
  programPath : Option String
  ipbcStartDate : Option Day
  weeksInProgram : Option Int

structure RiskPriority where
  riskLevel : String
  paymentRiskLabel : String
  segmentClassification : Option String

structure AcademicPerformance where
  hwsBehind : Option Int
  avgEffRating : Option Rat
  hwSubmittedDaysAgo : Option Int
  attendancePct : Option Rat
  activeStatus : String
  currentSection : Option String
  statusI : Option String
  statusII : Option String

structure AcademicTrends where
  hwVelocity : List (Month × Option Int)
  efficiencyTrend : List (Month × Option Rat)
  sectionProgression : List (Month × Option String)
  submissionMomentum : String
  monthsOfData : Nat

structure Engagement where
  lastActivityDays : Option Int
  lastLoginDays : Option Int
  currentClassName : Option String
  lastActivitySection : Option String
  lastSubmitted : Option String

structure EngagementDepth where
  loginSubmissionGap : Int
  gapInterpretation : String
  peakActivityLogins10d : Option Int
  activityPattern : String
  attendanceTrend : List (Month × Option Rat)

structure Financial where
  classValue : Option Rat
  totalPayments : Option Rat
  totalCredits : Option Rat
  paymentBalanceStored : Option Rat
  actualBalance : Option Rat
  feePaid : Option Bool
  classFeesPaid : Option Rat
  isBundleDeal : Option Bool

structure FinancialTrends where
  balanceTrend : List (Month × Option Rat)
  paymentBehavior : String
  remainingAfterCredits : Rat
  enrollmentFeeOnly : Bool
  enrollmentFeePaid : Option Bool
  classFeesPaid : Rat
  totalCredits : Rat
  classValue : Rat

structure OutreachSummary where
  totalAttempts : Int
  channelsUsed : List (String × Nat)
  lastContactDate : Option Day
  daysSinceLastContact : Option Int
  totalResponses : Int
  responseReceived : Bool

structure ChannelStats where
  attempts : Nat := 0
  responses : Nat := 0
  responseRate : Rat := 0

structure OutreachIntelligence where
  channelResponseRates : List (String × ChannelStats)
  totalAttempts : Nat
  totalResponses : Nat
  fatigueScore : Int
  fatigueFlag : Bool
  avgDaysToResponse : Option Int
  mostResponsiveChannel : Option String

structure LifecyclePatterns where
  currentLifecycleState : Option OutreachState
  currentAttemptNumber : Option Int
  lastContactAt : Option Instant
  nextRetryAt : Option Instant
  totalStateTransitions : Nat
  interventionCycleCount : Nat
  daysFirstContactToResponse : Option Int
  segmentTenureMonths : Nat
  currentSegment : Option String

structure AiNarratives where
  texts : NarrativeType → String
  aiGovernanceTier : String
  aiContentAvailable : Bool

structure GovernanceMetadata where
  snapshotId : Nat
  snapshotMonth : Month
  lifecycleState : String
  fingerprintSchemaVersion : Option String
  fingerprintConfigRegistryVersion : Option String
  fingerprintReportTemplateVersion : Option String
  fingerprintComputedAt : Option Instant
  executionModeAtFinalization : String
  reportGeneratedDate : Instant
  reportLineageVersion : Int

/-- `report_content_json`; its dates and times stand for their ISO texts. -/
structure ReportContent where
  reportVersion : String
  studentId : Int
  snapshotMonth : Month
  generatedAt : Instant
  lineageVersion : Int
  identity : Identity
  riskPriority : RiskPriority
  academicPerformance : AcademicPerformance
  academicTrends : AcademicTrends
  engagement : Engagement
  engagementDepth : EngagementDepth
  financial : Financial
  financialTrends : FinancialTrends
  outreachSummary : OutreachSummary
  outreachIntelligence : OutreachIntelligence
  lifecyclePatterns : LifecyclePatterns
  aiNarratives : AiNarratives
  stateHistory : List Transition
  governanceMetadata : GovernanceMetadata

end Report
end StudentSuccess
