import StudentSuccess.Models
import StudentSuccess.Calendar
import Mathlib.Data.List.MinMax
import Mathlib.Data.List.Sort

namespace StudentSuccess
set_option autoImplicit true

open Calendar (Day Month)

/-- The columns of a mirrored student that may be null in every table that has them. -/
structure MirrorColumns where
  firstName : Option String
  lastName : Option String
  email : Option String
  phoneNumber : Option String
  pathName : Option String
  attendancePercentage : Option Rat
  currentSection : Option String
  /-- Of the wall clock, as the source stores it. -/
  ipbcStartDate : Option Instant
  past10DaysLogon : Option Int
  totalPayments : Option Rat
  totalCredits : Option Rat
  paymentBalance : Option Rat
  classValue : Option Rat
  feePaid : Option Bool
  classFeesPaid : Option Rat
  className : Option String
  classSignupsId : Option String
  activeStatus : Option String
  statusI : Option String
  statusII : Option String
  studentStartDate : Option Instant
  classStartDate : Option Instant
  lastActivitySection : Option String
  lastLoginDays : Option Int
  lastSubmitted : Option String

/-- A mirrored student as the snapshot assembly reads it. -/
structure StudentState extends MirrorColumns where
  hwsBehind : Int
  avgEffRating : Rat
  lastActivityDays : Int

structure StudentTriggerData extends StudentState where
  userId : Int
  planName : Option String
  downPaymentAmt : Option Rat

/-- The mirror as it was captured at the end of a month. -/
structure StudentMirrorHistory extends StudentState where
  snapshotMonth : Month
  userId : Int
  capturedAt : Instant

/-- Operator-logged campaign activities per student. -/
structure StudentCampaignActivity where
  id : Nat
  studentUserId : Int
  activityDate : Option Instant
  channel : Option String

/-- The insights that a snapshot holds a copy of. -/
inductive NarrativeType
  | riskSummary
  | progressSummary
  | monthlyNarrative
  | interventionRecommendation
  | sentimentAnalysis
  deriving DecidableEq, Repr

def NarrativeType.text : NarrativeType → String
  | .riskSummary => "risk_summary"
  | .progressSummary => "progress_summary"
  | .monthlyNarrative => "monthly_narrative"
  | .interventionRecommendation => "intervention_recommendation"
  | .sentimentAnalysis => "sentiment_analysis"

structure AIInsight where
  id : Nat
  userId : Int
  insightType : String
  contentText : Option String
  isFinalized : Bool
  createdAt : Instant

/-- The tables outside the warehouse schema that the snapshots and reports are made from. -/
structure Platform extends Db where
  triggerdata : Table StudentTriggerData (·.userId)
  mirrorHistory : Table StudentMirrorHistory fun r => (r.snapshotMonth, r.userId)
  campaignActivity : Table StudentCampaignActivity (·.id)
  aiInsights : Table AIInsight (·.id)

/-- `ORDER BY created_at`; rows of the same instant keep the order of the table. -/
def orderBy (at_ : ρ → Nat) (rows : List ρ) : List ρ :=
  rows.insertionSort fun r r' => at_ r ≤ at_ r'

theorem mem_orderBy {at_ : ρ → Nat} : r ∈ orderBy at_ rows ↔ r ∈ rows :=
  (List.perm_insertionSort _ rows).mem_iff

theorem orderBy_pairwise (at_ : ρ → Nat) (rows : List ρ) :
    (orderBy at_ rows).Pairwise fun r r' => at_ r ≤ at_ r' := by
  have htotal : Std.Total fun r r' : ρ => at_ r ≤ at_ r' := ⟨fun r r' => le_total (at_ r) (at_ r')⟩
  have htrans : IsTrans ρ fun r r' => at_ r ≤ at_ r' := ⟨fun _ _ _ => le_trans⟩
  exact List.pairwise_insertionSort _ rows

def latestInsight (platform : Platform) (userId : Int) (type : NarrativeType) : Option AIInsight :=
  (platform.aiInsights.rows.filter fun r =>
    r.userId = userId && r.insightType = type.text && r.isFinalized).argmax (·.createdAt)

def dayOf (t : Instant) : Day := t / Calendar.microsPerDay

/-- The whole days of `a - b`, rounded down. -/
def daysBetween (a b : Instant) : Int := ((a : Int) - b) / (Calendar.microsPerDay : Int)

end StudentSuccess
