import StudentSuccess.BalanceAgreement
import StudentSuccess.Dashboard

namespace StudentSuccess
namespace Dashboard
set_option autoImplicit true
open Payment (isBundle isBundle_iff buildPaymentRow drawerPayment)
open Snapshot (Call AssembleArgs finalizedRow)
open Pipeline (platformWith january mirrored)

theorem countP_eq_iff {p q : α → Bool} {xs : List α} (h : ∀ x ∈ xs, p x = true → q x = true) :
    xs.countP p = xs.countP q ↔ ∀ x ∈ xs, q x = true → p x = true := by
  induction xs with
  | nil => exact iff_of_true rfl nofun
  | cons x xs ih =>
    obtain ⟨hx, hxs⟩ := List.forall_mem_cons.1 h
    have hle : xs.countP p ≤ xs.countP q := List.countP_mono_left hxs
    rw [List.forall_mem_cons, ← ih hxs, List.countP_cons, List.countP_cons]
    cases hq : q x with
    | false =>
      have hp : p x = false := Bool.eq_false_of_not_eq_true fun hp => by simp [hx hp] at hq
      simp [hp]
    | true =>
      cases hp : p x with
      | true => simp
      | false =>
        simp only [if_true, Bool.false_eq_true, if_false, true_imp_iff, false_and, iff_false]
        omega

theorem countP_add_eq_length_iff {p q : α → Bool} {xs : List α}
    (h : ∀ x ∈ xs, q x = true → p x = false) :
    xs.countP p + xs.countP q = xs.length ↔ ∀ x ∈ xs, p x = false → q x = true := by
  have hnot : ∀ x, (decide ¬ p x = true) = !p x := by
    intro x
    cases p x <;> rfl
  rw [List.length_eq_countP_add_countP p, Nat.add_left_cancel_iff]
  simp only [hnot]
  rw [countP_eq_iff fun x hx hq => by rw [h x hx hq]; rfl]
  simp only [Bool.not_eq_true']

/-- The flag of the snapshot, which is written from the record as the mirror has it, is the one
of the payment row and the one of the drawer. -/
def BundleViewsAgree (student : StudentTriggerData) : Prop :=
  ∀ (platform : Platform) (call : Call) (args : AssembleArgs) (correlationId : String) (id : Nat),
    (finalizedRow platform call args correlationId student.toStudentState id).isBundleDeal =
        some (buildPaymentRow student).isBundleDeal ∧
      (drawerPayment student).isBundleDeal = (buildPaymentRow student).isBundleDeal

/-- Every student has a balance or has paid, and has one exactly if something is left to pay. -/
def KpisAgree (response : KpiResponse) (students : List StudentTriggerData) : Prop :=
  ∀ kpis, response = .kpis kpis →
    kpis.payment.studentsWithBalance + kpis.payment.fullyPaid = kpis.totalStudents ∧
      kpis.payment.studentsWithBalance =
        students.countP fun s => computeBalance s.toMirrorColumns > 0

/-- The views of the finances of a set of students agree. -/
def FinancialViewsAgree (executionMode : String) (now : Instant)
    (students : List StudentTriggerData) : Prop :=
  (∀ s ∈ students, BundleViewsAgree s) ∧ KpisAgree (kpiExtended executionMode now students) students

/-- A student with credits has no balance stored, and has a class with a value. -/
def CreditsBundled (student : MirrorColumns) : Prop :=
  student.totalCredits.getD 0 > 0 →
    student.paymentBalance.getD 0 = 0 ∧ student.classValue.getD 0 > 0

/-- Nothing is left to pay of the class of a bundle, as the floats have it. -/
def BundlePaid (student : MirrorColumns) : Prop :=
  isBundle student = true →
    Py.subFloat (Py.subFloat (student.classValue.getD 0) (student.totalPayments.getD 0))
      (student.totalCredits.getD 0) ≤ 0

section
variable {student : StudentTriggerData} {students : List StudentTriggerData}

theorem snapshot_bundle_iff (student : MirrorColumns) :
    student.totalCredits.any (· > 0) = true ↔ student.totalCredits.getD 0 > 0 := by
  cases student.totalCredits with
  | none => simp
  | some credits => simp

theorem bundleViewsAgree_eq :
    BundleViewsAgree student ↔
      student.totalCredits.any (· > 0) = isBundle student.toMirrorColumns := by
  constructor
  · intro h
    have hrow := h (platformWith .empty) ⟨0, 0, 0, ⟨"u-1", by decide⟩⟩
      { studentId := student.userId, snapshotMonth := january } "u-1" 1
    exact Option.some.inj hrow.1
  · intro h platform call args correlationId id
    exact ⟨congrArg some h, rfl⟩

theorem bundleViewsAgree_iff :
    BundleViewsAgree student ↔ CreditsBundled student.toMirrorColumns := by
  rw [bundleViewsAgree_eq, Bool.eq_iff_iff, snapshot_bundle_iff, isBundle_iff, CreditsBundled]
  exact ⟨fun h hcredits => (h.1 hcredits).2,
    fun h => ⟨fun hcredits => ⟨hcredits, h hcredits⟩, And.left⟩⟩

theorem computeBalance_of_not_bundle {student : MirrorColumns} (h : isBundle student ≠ true) :
    computeBalance student = paymentBalance student := by
  rw [computeBalance, if_neg (isBundle_iff.not.1 h), paymentBalance]

theorem computeBalance_of_bundle {student : MirrorColumns} (h : isBundle student = true) :
    computeBalance student = Payment.amountDue (student.classValue.getD 0)
      (student.totalPayments.getD 0) (student.totalCredits.getD 0) := by
  rw [computeBalance, if_pos (isBundle_iff.1 h), Payment.amountDue]

theorem computeBalance_pos {student : MirrorColumns} (h : paymentBalance student > 0) :
    computeBalance student > 0 := by
  have hplain : isBundle student ≠ true := by
    intro hbundle
    exact absurd (isBundle_iff.1 hbundle).2.1 (ne_of_gt h)
  rwa [computeBalance_of_not_bundle hplain]

/-- A balance that the KPIs do not count is what is left to pay of a bundle. -/
theorem balance_counted_iff {student : MirrorColumns} :
    (computeBalance student > 0 → paymentBalance student > 0) ↔ BundlePaid student := by
  rw [BundlePaid]
  by_cases hbundle : isBundle student = true
  · have hstored : ¬ paymentBalance student > 0 := by
      rw [paymentBalance, (isBundle_iff.1 hbundle).2.1]
      exact lt_irrefl 0
    rw [computeBalance_of_bundle hbundle, Payment.amountDue]
    simp [hbundle, hstored]
  · rw [computeBalance_of_not_bundle hbundle]
    exact iff_of_true id fun h => absurd h hbundle

theorem studentsWithBalance_iff :
    (paymentKpis students).studentsWithBalance =
        students.countP (fun s => computeBalance s.toMirrorColumns > 0) ↔
      ∀ s ∈ students, BundlePaid s.toMirrorColumns := by
  rw [paymentKpis, countP_eq_iff]
  · refine forall₂_congr fun s _ => ?_
    rw [decide_eq_true_eq, decide_eq_true_eq]
    exact balance_counted_iff
  · intro s _ h
    exact decide_eq_true (computeBalance_pos (of_decide_eq_true h))

theorem partition_iff :
    (paymentKpis students).studentsWithBalance + (paymentKpis students).fullyPaid =
        students.length ↔
      ∀ s ∈ students, 0 ≤ paymentBalance s.toMirrorColumns := by
  rw [paymentKpis, countP_add_eq_length_iff]
  · refine forall₂_congr fun s _ => ?_
    rw [decide_eq_false_iff_not, decide_eq_true_eq, gt_iff_lt, not_lt]
    exact ⟨fun h => le_of_not_gt fun hneg => absurd (h hneg.le) (ne_of_lt hneg),
      fun h hle => le_antisymm hle h⟩
  · intro s _ h
    rw [of_decide_eq_true h]
    rfl

end

/-- A student that the views agree on: credits belong to a bundle, no balance is negative, and
bundles are paid. -/
structure Settled (student : MirrorColumns) : Prop where
  credits : CreditsBundled student
  balance : 0 ≤ paymentBalance student
  bundle : BundlePaid student

theorem settled_iff {student : MirrorColumns} :
    Settled student ↔
      CreditsBundled student ∧ 0 ≤ paymentBalance student ∧ BundlePaid student :=
  ⟨fun h => ⟨h.credits, h.balance, h.bundle⟩, fun h => ⟨h.1, h.2.1, h.2.2⟩⟩

theorem kpisAgree_iff (executionMode : String) (now : Instant)
    (students : List StudentTriggerData) :
    KpisAgree (kpiExtended executionMode now students) students ↔
      (∀ s ∈ students, 0 ≤ paymentBalance s.toMirrorColumns) ∧
        ∀ s ∈ students, BundlePaid s.toMirrorColumns := by
  rw [← partition_iff, ← studentsWithBalance_iff]
  cases students with
  | nil => exact iff_of_true nofun ⟨rfl, rfl⟩
  | cons s rest =>
    constructor
    · intro h
      exact h _ rfl
    · rintro h kpis ⟨⟩
      exact h

/-- The views of the finances agree exactly on students whose accounts are settled. -/
theorem financial_views_agree_iff (executionMode : String) (now : Instant)
    (students : List StudentTriggerData) :
    FinancialViewsAgree executionMode now students ↔
      ∀ s ∈ students, Settled s.toMirrorColumns := by
  rw [FinancialViewsAgree, kpisAgree_iff]
  simp only [bundleViewsAgree_iff, settled_iff]
  constructor
  · rintro ⟨hcredits, hbalance, hbundle⟩ s hs
    exact ⟨hcredits s hs, hbalance s hs, hbundle s hs⟩
  · intro h
    exact ⟨fun s hs => (h s hs).1, fun s hs => (h s hs).2.1, fun s hs => (h s hs).2.2⟩

/-- A class of 5000 of which 2000 are paid and 3000 are stored as the balance, with credits. -/
def owingStudent : StudentTriggerData :=
  { mirrored with
    totalPayments := some 2000
    totalCredits := some 1000
    paymentBalance := some 3000
    classValue := some 5000 }

/-- A bundle that is paid to the cent may have a balance in floats. -/
example : ¬ BundlePaid
    { owingStudent.toMirrorColumns with
      classValue := some (Py.rounded 4109.81)
      totalPayments := some (Py.rounded 2279.79)
      totalCredits := some (Py.rounded 1830.02)
      paymentBalance := some 0 } := by
  unfold BundlePaid
  decide +kernel

theorem owing_student_differs :
    (finalizedRow (platformWith .empty) ⟨0, 0, 0, ⟨"u-1", by decide⟩⟩
        { studentId := 7, snapshotMonth := january } "u-1" owingStudent.toStudentState
        1).isBundleDeal = some true ∧
      (buildPaymentRow owingStudent).isBundleDeal = false ∧
      (drawerPayment owingStudent).isBundleDeal = false ∧
      ¬ FinancialViewsAgree "SHADOW" 0 [owingStudent] := by
  have hbundle : isBundle owingStudent.toMirrorColumns = false := by
    decide +kernel
  have hcredits : owingStudent.totalCredits.any (· > 0) = true := by
    decide +kernel
  refine ⟨congrArg some hcredits, hbundle, hbundle, ?_⟩
  rintro ⟨hviews, -⟩
  have heq := bundleViewsAgree_eq.1 (hviews _ (.head _))
  rw [hcredits, hbundle] at heq
  cases heq

end Dashboard
end StudentSuccess
