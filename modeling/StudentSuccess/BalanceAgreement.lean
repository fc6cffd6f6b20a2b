import StudentSuccess.Payment
import StudentSuccess.PublishedReports
import StudentSuccess.SnapshotUniqueness

namespace StudentSuccess
namespace Payment
set_option autoImplicit true
open Calendar (Month)
open Snapshot Report Pipeline
open Segmentation (filterByRole)

/-- The last of the rows that the student is patched with. -/
def lastPayment (userId : Int) : List PaymentRow → Option PaymentRow
  | [] => none
  | row :: rows =>
    (lastPayment userId rows).or (if row.student = some userId then some row else none)

def patched (row : Option PaymentRow) (student : StudentTriggerData) : StudentTriggerData :=
  row.elim student (·.patch student)

theorem find?_patchPayment (state : Syncing) (row : PaymentRow) (userId : Int) :
    (patchPayment state row).triggerdata.find? userId =
      (state.triggerdata.find? userId).map
        (patched (if row.student = some userId then some row else none)) := by
  have hsame : state.triggerdata.find? userId =
      (state.triggerdata.find? userId).map (patched none) := Option.map_id'.symm ▸ rfl
  rw [patchPayment]
  cases hid : row.student with
  | none => exact hsame
  | some key =>
    dsimp only
    by_cases hkey : key = userId
    · subst hkey
      rw [if_pos rfl]
      by_cases hmirrored : (state.triggerdata.find? key).isSome
      · rw [if_pos hmirrored]
        exact Table.find?_update_self state.triggerdata key row.patch fun _ => rfl
      · rw [if_neg hmirrored, Option.not_isSome_iff_eq_none.1 hmirrored]
        rfl
    · rw [if_neg fun h => hkey (Option.some.inj h), ← hsame]
      by_cases hmirrored : (state.triggerdata.find? key).isSome
      · rw [if_pos hmirrored]
        exact Table.find?_update_of_ne state.triggerdata (Ne.symm hkey) row.patch fun _ => rfl
      · rw [if_neg hmirrored]

theorem patched_patched (later earlier : Option PaymentRow) (student : StudentTriggerData) :
    patched later (patched earlier student) = patched (later.or earlier) student := by
  cases later with
  | none => rfl
  | some later => cases earlier <;> rfl

theorem find?_foldl_patchPayment (rows : List PaymentRow) (state : Syncing) (userId : Int) :
    (rows.foldl patchPayment state).triggerdata.find? userId =
      (state.triggerdata.find? userId).map (patched (lastPayment userId rows)) := by
  induction rows generalizing state with
  | nil => exact Option.map_id'.symm ▸ rfl
  | cons row rows ih =>
    rw [List.foldl_cons, ih, find?_patchPayment, Option.map_map, lastPayment]
    exact Option.map_congr fun student _ => patched_patched _ _ student

/-- What the source says of the student's payments, if the sync goes through. -/
def received (env : PaymentEnv) (fetched : Except String (List SourcePayment)) (userId : Int) :
    Option PaymentRow :=
  match Py.checkError fetched with
  | .error _ => none
  | .ok sources =>
    let rows := sources.map (·.select env)
    if rows.all (·.taken env) then lastPayment userId rows else none

theorem find?_syncPayments (env : PaymentEnv) (fetched : Except String (List SourcePayment))
    (platform : Platform) (userId : Int) :
    (syncPayments env fetched platform).1.triggerdata.find? userId =
      (platform.triggerdata.find? userId).map (patched (received env fetched userId)) := by
  rw [syncPayments, received]
  cases Py.checkError fetched with
  | error message => exact Option.map_id'.symm ▸ rfl
  | ok sources =>
    dsimp only
    rw [foldlM_syncPayment]
    cases (sources.map (·.select env)).all (·.taken env) with
    | false => exact Option.map_id'.symm ▸ rfl
    | true => exact find?_foldl_patchPayment _ _ userId

/-- What `class_value - total_payments - total_credits` comes to, not less than zero. -/
def amountDue (classValue totalPayments totalCredits : Rat) : Rat :=
  max 0 (Py.subFloat (Py.subFloat classValue totalPayments) totalCredits)

/-- The balance with the credits taken off, of a student whose amounts are all present. -/
def owed (student : MirrorColumns) : Option Rat :=
  student.classValue.bind fun classValue =>
    student.totalPayments.bind fun totalPayments =>
      student.totalCredits.map fun totalCredits =>
        amountDue classValue totalPayments totalCredits

/-- What a screen shows of a balance, and the label of the risk beside it. -/
def Shown (v actualBalance : Rat) (risk : String) : Prop :=
  actualBalance = v ∧ risk = paymentRiskLabel v

/-- The finalized snapshot of the warehouse has the balance. -/
def HasBalance (w : Warehouse) (args : AssembleArgs) (v : Rat) : Prop :=
  ∃ r, w.finalizedSnapshot args.studentId args.snapshotMonth = some r ∧
    r.actualBalance = some v ∧ r.paymentRiskLabel = some (paymentRiskLabel v)

def ReportsBalance (content : ReportContent) (v : Rat) : Prop :=
  content.financial.actualBalance = some v ∧
    content.riskPriority.paymentRiskLabel = paymentRiskLabel v ∧
    content.financialTrends.remainingAfterCredits = v

/-- The snapshot made of the student as mirrored, and each report made of it later. -/
def SnapshotShows (platform : Platform) (student : StudentTriggerData) (v : Rat) : Prop :=
  ∀ parseUuid call w args made snapshotId segment risk available mode,
    args.studentId = student.userId →
    (studentForMonth platform args.studentId args.snapshotMonth).map (·.toMirrorColumns) =
      some student.toMirrorColumns →
    assembleSnapshot parseUuid platform call w args =
      .ok (made, .created snapshotId segment risk available mode) →
    HasBalance made args v ∧
    ∀ platform' call' later reportArgs w' reportId reportMode content,
      KeepsSnapshots made later → reportArgs.studentId = args.studentId →
      reportArgs.snapshotMonth = args.snapshotMonth →
      generateStudentReport platform' call' later reportArgs =
        .ok (w', .ok reportId reportMode content) →
      ReportsBalance content v

structure ShowsBalance (platform : Platform) (student : StudentTriggerData) (v : Rat) : Prop where
  computed : computeBalance student.toMirrorColumns = v
  reconciliation : ∀ role risk limit offset,
    ∀ r ∈ (paymentReconciliation platform role risk limit offset).rows,
      r.userId = student.userId → Shown v r.actualBalance r.paymentRisk
  detail : ∀ r, studentPayment platform student.userId = some r →
    Shown v r.actualBalance r.paymentRisk
  /-- The drawer shows the balance in whole cents. -/
  drawer : (drawerPayment student).actualBalance = Py.roundFloat v 2 ∧
    (drawerPayment student).paymentRisk = paymentRiskLabel v
  snapshot : SnapshotShows platform student v

/-- Every reader of the mirrored student has the balance with the credits taken off. -/
def BalancesAgree (platform : Platform) (userId : Int) : Prop :=
  ∀ student, platform.triggerdata.find? userId = some student →
    ∀ v ∈ owed student.toMirrorColumns, ShowsBalance platform student v

theorem owed_eq_some (h : owed student = some v) :
    amountDue (student.classValue.getD 0) (student.totalPayments.getD 0)
      (student.totalCredits.getD 0) = v := by
  rw [owed] at h
  obtain ⟨classValue, hvalue, h⟩ := Option.bind_eq_some_iff.1 h
  obtain ⟨totalPayments, hpayments, h⟩ := Option.bind_eq_some_iff.1 h
  obtain ⟨totalCredits, hcredits, h⟩ := Option.map_eq_some_iff.1 h
  rw [hvalue, hpayments, hcredits]
  exact h

theorem orText_paymentRiskLabel (v : Rat) (default : String) :
    Py.orText (some (paymentRiskLabel v)) default = paymentRiskLabel v := by
  rw [paymentRiskLabel]
  split
  · rfl
  · split <;> rfl

theorem mem_paymentReconciliation
    (h : r ∈ (paymentReconciliation platform role risk limit offset).rows) :
    ∃ student ∈ platform.triggerdata.rows, r = buildPaymentRow student := by
  have hsorted := List.mem_of_mem_drop (List.mem_of_mem_take h)
  have hrow := (List.perm_insertionSort _ _).mem_iff.1 hsorted
  have hfiltered : r ∈ filterByRole (fun r : PaymentView => r.toMirrorColumns)
      (platform.triggerdata.rows.map buildPaymentRow) role := by
    unfold reconciled at hrow
    dsimp only at hrow
    split at hrow
    · exact List.mem_of_mem_filter hrow
    · exact hrow
  obtain ⟨student, hstudent, rfl⟩ :=
    List.mem_map.1 ((Segmentation.filterByRole_sublist _ _ _ _).subset hfiltered)
  exact ⟨student, hstudent, rfl⟩

theorem reportsBalance_of_snapshot
    (hrow : w.finalizedSnapshot args.studentId args.snapshotMonth = some r)
    (hbalance : r.actualBalance = some v)
    (hrisk : r.paymentRiskLabel = some (paymentRiskLabel v))
    (howed : amountDue (r.classValue.getD 0) (r.totalPayments.getD 0) (r.totalCredits.getD 0) = v)
    (h : generateStudentReport platform call w args = .ok (w', .ok reportId mode content)) :
    ReportsBalance content v := by
  obtain ⟨outreachIntel, -, rfl⟩ := generateStudentReport_of_snapshot hrow h
  refine ⟨hbalance, ?_, howed⟩
  have hlabel := orText_paymentRiskLabel v "UNKNOWN"
  rw [← hrisk] at hlabel
  exact hlabel

theorem snapshotShows (howed : owed student.toMirrorColumns = some v)
    (hcomputed : computeBalance student.toMirrorColumns = v) :
    SnapshotShows platform student v := by
  intro parseUuid call w args made snapshotId segment risk available mode hid hstate hmade
  obtain ⟨state, correlationId, hstudent, hrow⟩ := finalizedSnapshot_of_created hmade
  rw [hstudent, Option.map_some, Option.some_inj] at hstate
  have hbalance : computeBalance state.toMirrorColumns = v := hstate ▸ hcomputed
  have hstateOwed : owed state.toMirrorColumns = some v := hstate ▸ howed
  have hrowBalance : (finalizedRow platform call args correlationId state
      w.studentSnapshots.nextId).actualBalance = some v := congrArg some hbalance
  have hrowRisk : (finalizedRow platform call args correlationId state
      w.studentSnapshots.nextId).paymentRiskLabel = some (paymentRiskLabel v) :=
    congrArg (fun balance => some (paymentRiskLabel balance)) hbalance
  refine ⟨⟨_, hrow, hrowBalance, hrowRisk⟩, ?_⟩
  intro platform' call' later reportArgs w' reportId reportMode content hkept hsid hmonth hreport
  have hfound := hkept.finalizedSnapshot hrow
  rw [← hsid, ← hmonth] at hfound
  exact reportsBalance_of_snapshot hfound hrowBalance hrowRisk (owed_eq_some hstateOwed) hreport

/-- Whatever shows a balance computes it as `compute_balance` does. -/
theorem showsBalance_iff (hstudent : platform.triggerdata.find? userId = some student)
    (howed : owed student.toMirrorColumns = some v) :
    ShowsBalance platform student v ↔ computeBalance student.toMirrorColumns = v := by
  refine ⟨(·.computed), fun hcomputed => ?_⟩
  have hid : student.userId = userId := Table.find?_key hstudent
  have hshown : Shown v (buildPaymentRow student).actualBalance
      (buildPaymentRow student).paymentRisk := ⟨hcomputed, congrArg paymentRiskLabel hcomputed⟩
  refine ⟨hcomputed, ?_, ?_, ⟨congrArg (Py.roundFloat · 2) hcomputed,
    congrArg paymentRiskLabel hcomputed⟩, snapshotShows howed hcomputed⟩
  · intro role risk limit offset r hr hkey
    obtain ⟨student', hmem, rfl⟩ := mem_paymentReconciliation hr
    have hfound : platform.triggerdata.find? student'.userId = some student' :=
      Table.find?_of_mem hmem
    have hkey' : student'.userId = userId := Eq.trans hkey hid
    rw [hkey', hstudent] at hfound
    cases hfound
    exact hshown
  · intro r hr
    rw [studentPayment, hid, hstudent] at hr
    cases hr
    exact hshown

/-- The balance that a row brings has the credits taken off, or the row is paid and the credits make
it a bundle. -/
def CreditsCount (row : PaymentRow) (totalCredits : Rat) : Prop :=
  Py.rounded row.paymentBalance =
      amountDue (Py.rounded row.classValue) (Py.rounded row.totalPayments) totalCredits ∨
    Py.rounded row.paymentBalance = 0 ∧ 0 < totalCredits ∧ 0 < Py.rounded row.classValue

theorem computeBalance_patch_iff (hcredits : student.totalCredits = some totalCredits) :
    computeBalance (row.patch student).toMirrorColumns =
        amountDue (Py.rounded row.classValue) (Py.rounded row.totalPayments) totalCredits ↔
      CreditsCount row totalCredits := by
  have hcompute : computeBalance (row.patch student).toMirrorColumns =
      if totalCredits > 0 ∧ Py.rounded row.paymentBalance = 0 ∧ Py.rounded row.classValue > 0 then
        amountDue (Py.rounded row.classValue) (Py.rounded row.totalPayments) totalCredits
      else Py.rounded row.paymentBalance := by
    rw [computeBalance]
    simp only [PaymentRow.patch, hcredits, Option.getD_some, amountDue]
  rw [hcompute, CreditsCount]
  split
  · next hbundle =>
    obtain ⟨hpositive, hpaid, hvalue⟩ := hbundle
    exact iff_of_true rfl (.inr ⟨hpaid, hpositive, hvalue⟩)
  · next hplain =>
    refine ⟨.inl, ?_⟩
    rintro (hbalance | ⟨hpaid, hpositive, hvalue⟩)
    · exact hbalance
    · exact absurd ⟨hpositive, hpaid, hvalue⟩ hplain

theorem eq_max_sub_iff {unpaid credits : Rat} :
    unpaid = max 0 (unpaid - credits) ↔
      0 ≤ unpaid ∧ (credits = 0 ∨ unpaid = 0 ∧ 0 < credits) := by
  constructor
  · intro h
    have hnonneg : 0 ≤ unpaid := h ▸ le_max_left _ _
    refine ⟨hnonneg, ?_⟩
    rcases max_choice 0 (unpaid - credits) with hmax | hmax
    · have hzero : unpaid = 0 := h.trans hmax
      have hcredits : 0 ≤ credits := by
        have hle := le_max_right 0 (unpaid - credits)
        rw [hmax, hzero, zero_sub] at hle
        exact neg_nonpos.1 hle
      rcases hcredits.eq_or_lt with hcredits | hcredits
      · exact .inl hcredits.symm
      · exact .inr ⟨hzero, hcredits⟩
    · exact .inl (sub_eq_self.1 (h.trans hmax).symm)
  · rintro ⟨hnonneg, rfl | ⟨rfl, hcredits⟩⟩
    · rw [sub_zero, max_eq_right hnonneg]
    · rw [zero_sub, max_eq_left (neg_nonpos.2 hcredits.le)]

/-- Where no operation rounds, the credits count for nothing: there are none, or the class is paid
without them. -/
theorem creditsCount_of_exact {unpaid : Rat}
    (hunpaid : Py.subFloat (Py.rounded row.classValue) (Py.rounded row.totalPayments) = unpaid)
    (hbalance : Py.rounded row.paymentBalance = unpaid)
    (hexact : Py.subFloat unpaid totalCredits = unpaid - totalCredits) :
    CreditsCount row totalCredits ↔
      0 ≤ unpaid ∧ (totalCredits = 0 ∨ unpaid = 0 ∧ 0 < totalCredits) := by
  rw [CreditsCount, amountDue, hbalance, hunpaid, hexact, eq_max_sub_iff]
  refine or_iff_left_of_imp ?_
  rintro ⟨hpaid, hpositive, -⟩
  exact ⟨hpaid.ge, .inr ⟨hpaid, hpositive⟩⟩

/-- A student of whom the source says nothing is a bundle, or the stored balance has the credits
taken off already. -/
def StoredCounts (student : MirrorColumns) : Prop :=
  isBundle student = true ∨ ∀ v ∈ owed student, student.paymentBalance.getD 0 = v

theorem isBundle_iff :
    isBundle student = true ↔ student.totalCredits.getD 0 > 0 ∧
      student.paymentBalance.getD 0 = 0 ∧ student.classValue.getD 0 > 0 := by
  rw [isBundle, Bool.and_eq_true, Bool.and_eq_true, decide_eq_true_eq, decide_eq_true_eq,
    decide_eq_true_eq, and_assoc]

theorem computeBalance_stored_iff (howed : owed student = some v) :
    computeBalance student = v ↔ StoredCounts student := by
  have hcompute : computeBalance student =
      if isBundle student = true then v else student.paymentBalance.getD 0 := by
    rw [← owed_eq_some howed]
    simp only [computeBalance, isBundle_iff, amountDue]
  rw [hcompute]
  split
  · next hbundle => exact iff_of_true rfl (.inl hbundle)
  · next hplain =>
    constructor
    · intro hstored
      refine .inr fun v' hv' => ?_
      cases howed.symm.trans hv'
      exact hstored
    · rintro (hbundle | hstored)
      · exact absurd hbundle hplain
      · exact hstored v howed

theorem StoredCounts.of_owed_eq_none (h : owed student = none) : StoredCounts student := by
  refine .inr fun v hv => ?_
  cases h.symm.trans hv

/-- The credits of a student with a payment row count for nothing; of any other student they are
taken off in the balance as it is stored. -/
def CreditsSettled (row : Option PaymentRow) (student : StudentTriggerData) : Prop :=
  match row with
  | some row => ∀ totalCredits ∈ student.totalCredits, CreditsCount row totalCredits
  | none => StoredCounts student.toMirrorColumns

theorem computeBalance_patched_iff (row : Option PaymentRow) (student : StudentTriggerData) :
    (∀ v ∈ owed (patched row student).toMirrorColumns,
      computeBalance (patched row student).toMirrorColumns = v) ↔ CreditsSettled row student := by
  cases row with
  | none =>
    cases howed : owed student.toMirrorColumns with
    | none => exact iff_of_true (fun v hv => by cases howed.symm.trans hv) (.of_owed_eq_none howed)
    | some v =>
      refine Iff.trans ?_ (computeBalance_stored_iff howed)
      exact ⟨fun h => h v howed, fun h v' hv' => h.trans (Option.some.inj (howed.symm.trans hv'))⟩
  | some row =>
    have howed : owed (row.patch student).toMirrorColumns = student.totalCredits.map
        (amountDue (Py.rounded row.classValue) (Py.rounded row.totalPayments)) := rfl
    constructor
    · intro h totalCredits hcredits
      apply (computeBalance_patch_iff hcredits).1
      exact h _ (howed.trans (congrArg (Option.map _) hcredits))
    · intro h v hv
      obtain ⟨totalCredits, hcredits, rfl⟩ := Option.map_eq_some_iff.1 (howed.symm.trans hv)
      exact (computeBalance_patch_iff hcredits).2 (h totalCredits hcredits)

theorem balancesAgree_iff :
    BalancesAgree platform userId ↔ ∀ student, platform.triggerdata.find? userId = some student →
      ∀ v ∈ owed student.toMirrorColumns, computeBalance student.toMirrorColumns = v :=
  forall₂_congr fun _ hstudent => forall₂_congr fun _ howed => showsBalance_iff hstudent howed

/-- The readers agree on the student's balance after the sync exactly if the balance that the sync
leaves has the credits taken off, or makes the student a bundle. -/
theorem balances_agree_iff (env : PaymentEnv) (fetched : Except String (List SourcePayment))
    (platform : Platform) (userId : Int) :
    BalancesAgree (syncPayments env fetched platform).1 userId ↔
      ∀ student, platform.triggerdata.find? userId = some student →
        CreditsSettled (received env fetched userId) student := by
  rw [balancesAgree_iff, find?_syncPayments]
  constructor
  · intro h student hstudent
    rw [hstudent] at h
    exact (computeBalance_patched_iff _ student).1 (h _ rfl)
  · intro h student' hstudent'
    obtain ⟨student, hstudent, rfl⟩ := Option.map_eq_some_iff.1 hstudent'
    exact (computeBalance_patched_iff _ student).2 (h student hstudent)

/-- A class of 5000 of which 2000 are paid and 1000 credited. -/
def creditedStudent : StudentTriggerData := { mirrored with totalCredits := some 1000 }

def creditedPlatform : Platform :=
  { platformWith .empty with triggerdata := ⟨[creditedStudent], List.nodup_singleton _⟩ }

def creditedPayment : SourcePayment where
  userId := some 7
  totalCost := some 5000
  totalAmountInPaySimple := some 2000
  totalAmountInPayPal := none
  daFees := none

theorem creditedStudent_owes :
    ¬ BalancesAgree
      (syncPayments decimalPayments (.ok [creditedPayment]) creditedPlatform).1 7 := by
  intro h
  have hshown := h ((creditedPayment.select decimalPayments).patch creditedStudent) rfl 2000
    (by decide +kernel)
  exact absurd hshown.computed (by decide +kernel)

/-- Without credits too the source's own difference may not be the one of the floats. -/
example : ¬ CreditsCount ⟨some 7, 1418.91, 499.75, 0, 919.16⟩ 0 := by
  unfold CreditsCount
  decide +kernel

end Payment
end StudentSuccess
