import StudentSuccess.PyFloat
import StudentSuccess.Segmentation

namespace StudentSuccess
namespace Payment
set_option autoImplicit true
open Segmentation (filterByRole)

/-- A joined row of the payment query, before its `ISNULL`s. -/
structure SourcePayment where
  userId : Option Int
  totalCost : Option Rat
  totalAmountInPaySimple : Option Rat
  totalAmountInPayPal : Option Rat
  daFees : Option Rat

/-- A row of `_PAYMENT_QUERY`. -/
structure PaymentRow where
  userId : Option Int
  classValue : Rat
  totalPayments : Rat
  classFeesPaid : Rat
  paymentBalance : Rat

/-- The arithmetic of the query, which goes by the types of the columns on the server, and the
updates that the database takes. -/
structure PaymentEnv where
  add : Rat → Rat → Rat
  sub : Rat → Rat → Rat
  accepts : Int → PaymentRow → Bool

/-- The amounts are decimals, and the database takes every update. -/
def decimalPayments : PaymentEnv := ⟨(· + ·), (· - ·), fun _ _ => true⟩

/-- The `SELECT` list of `_PAYMENT_QUERY`. -/
def SourcePayment.select (env : PaymentEnv) (source : SourcePayment) : PaymentRow where
  userId := source.userId
  classValue := source.totalCost.getD 0
  totalPayments :=
    env.add (source.totalAmountInPaySimple.getD 0) (source.totalAmountInPayPal.getD 0)
  classFeesPaid := source.daFees.getD 0
  paymentBalance := env.sub
    (env.sub (source.totalCost.getD 0) (source.totalAmountInPaySimple.getD 0))
    (source.totalAmountInPayPal.getD 0)

/-- The columns that `_PAYMENT_UPDATE_SQL` sets, each to the `float` of what the query gives. -/
def PaymentRow.patch (row : PaymentRow) (student : StudentTriggerData) : StudentTriggerData :=
  { student with
    totalPayments := some (Py.rounded row.totalPayments)
    classValue := some (Py.rounded row.classValue)
    classFeesPaid := some (Py.rounded row.classFeesPaid)
    paymentBalance := some (Py.rounded row.paymentBalance) }

structure Syncing where
  triggerdata : Table StudentTriggerData (·.userId)
  updated : Nat := 0
  skipped : Nat := 0

inductive PaymentError
  | dbapi

def PaymentRow.student (row : PaymentRow) : Option Int := row.userId.filter (· ≠ 0)

def PaymentRow.taken (env : PaymentEnv) (row : PaymentRow) : Bool :=
  row.student.all fun userId => env.accepts userId row

/-- What a row does to the mirror: a row without a user id is skipped, and so is one whose student
is not mirrored. -/
def patchPayment (state : Syncing) (row : PaymentRow) : Syncing :=
  match row.student with
  | none => { state with skipped := state.skipped + 1 }
  | some userId =>
    if (state.triggerdata.find? userId).isSome then
      { state with
        triggerdata := state.triggerdata.update userId row.patch fun _ => rfl
        updated := state.updated + 1 }
    else { state with skipped := state.skipped + 1 }

def syncPayment (env : PaymentEnv) (state : Syncing) (row : PaymentRow) :
    Except PaymentError Syncing :=
  if row.taken env then .ok (patchPayment state row) else .error .dbapi

inductive SyncResult
  | failed (error : String)
  | ok (totalFetched updated skipped : Nat)

/-- `sync_payments`; the fetch gives the rows of the query or the text of its error. -/
def syncPayments (env : PaymentEnv) (fetched : Except String (List SourcePayment))
    (platform : Platform) : Platform × Except PaymentError SyncResult :=
  match Py.checkError fetched with
  | .error error => (platform, .ok (.failed error))
  | .ok sources =>
    let rows := sources.map (·.select env)
    match rows.foldlM (syncPayment env) { triggerdata := platform.triggerdata } with
    | .error e => (platform, .error e)
    | .ok final =>
      ({ platform with triggerdata := final.triggerdata },
        .ok (.ok sources.length final.updated final.skipped))

/-- The loop goes through exactly if the database takes the update of each row. -/
theorem foldlM_syncPayment (env : PaymentEnv) (rows : List PaymentRow) (state : Syncing) :
    rows.foldlM (syncPayment env) state =
      if rows.all (·.taken env) then .ok (rows.foldl patchPayment state) else .error .dbapi := by
  induction rows generalizing state with
  | nil => rfl
  | cons row rows ih =>
    rw [List.foldlM_cons, syncPayment, List.all_cons]
    cases row.taken env with
    | false => rfl
    | true => exact ih (patchPayment state row)

/-- A row of the reconciliation table; `IPBCStartDate` stands for its ISO text. -/
structure PaymentView extends StudentTriggerData where
  displayName : String
  actualBalance : Rat
  isBundleDeal : Bool
  pctPaid : Rat
  paymentRisk : String

/-- `f"{FirstName or ''} {LastName or ''}".strip() or f"#{UserID}"`. -/
def displayName (student : StudentTriggerData) : String :=
  Py.orText (some (Py.strip (student.firstName.getD "" ++ " " ++ student.lastName.getD "")))
    ("#" ++ toString student.userId)

def isBundle (student : MirrorColumns) : Bool :=
  student.totalCredits.getD 0 > 0 && student.paymentBalance.getD 0 = 0 &&
    student.classValue.getD 0 > 0

def buildPaymentRow (student : StudentTriggerData) : PaymentView :=
  let classValue := student.classValue.getD 0
  let totalPayments := student.totalPayments.getD 0
  let actualBal := computeBalance student.toMirrorColumns
  { student with
    displayName := displayName student
    actualBalance := actualBal
    isBundleDeal := isBundle student.toMirrorColumns
    pctPaid :=
      if classValue = 0 then 0
      else Py.roundFloat (Py.mulFloat (Py.divFloat totalPayments classValue) 100) 1
    paymentRisk := paymentRiskLabel actualBal }

/-- `str.upper`, as far as the labels of the risk are concerned: beside the letters of ASCII only
the dotless i has one of their letters as its upper case. -/
def riskUpper (risk : String) : String :=
  risk.map fun c => if c = 'ı' then 'I' else c.toUpper

structure Reconciliation where
  role : String
  riskFilter : Option String
  total : Nat
  totalOutstandingBalance : Rat
  bundleDealStudents : Nat
  highRiskCount : Nat
  clearCount : Nat
  rows : List PaymentView

/-- The rows of `payment_reconciliation` before they are sorted. -/
def reconciled (platform : Platform) (role risk : Option String) : List PaymentView :=
  let rows := filterByRole (fun r : PaymentView => r.toMirrorColumns)
    (platform.triggerdata.rows.map buildPaymentRow) role
  if Py.truthyText risk then rows.filter fun r => r.paymentRisk = riskUpper (risk.getD "")
  else rows

def paymentReconciliation (platform : Platform) (role risk : Option String)
    (limit offset : Nat) : Reconciliation :=
  let rows := reconciled platform role risk
  let sorted := rows.insertionSort fun r r' => r'.actualBalance ≤ r.actualBalance
  { role := Py.orText role "Support"
    riskFilter := risk
    total := sorted.length
    totalOutstandingBalance := Py.roundFloat (Py.sumFloat (rows.map (·.actualBalance))) 2
    bundleDealStudents := rows.countP (·.isBundleDeal)
    highRiskCount := rows.countP (·.paymentRisk = "HIGH")
    clearCount := rows.countP (·.paymentRisk = "CLEAR")
    rows := (sorted.drop offset).take limit }

/-- `student_payment`; a student who is not mirrored is not found. -/
def studentPayment (platform : Platform) (userId : Int) : Option PaymentView :=
  (platform.triggerdata.find? userId).map buildPaymentRow

structure DrawerPayment where
  classValue : Rat
  totalPayments : Rat
  totalCredits : Rat
  paymentBalanceStored : Rat
  actualBalance : Rat
  isBundleDeal : Bool
  feePaid : Option Bool
  classFeesPaid : Option Rat
  paymentRisk : String

def drawerPayment (student : StudentTriggerData) : DrawerPayment :=
  let actualBalance := computeBalance student.toMirrorColumns
  { classValue := student.classValue.getD 0
    totalPayments := student.totalPayments.getD 0
    totalCredits := student.totalCredits.getD 0
    paymentBalanceStored := student.paymentBalance.getD 0
    actualBalance := Py.roundFloat actualBalance 2
    isBundleDeal := isBundle student.toMirrorColumns
    feePaid := student.feePaid
    classFeesPaid := student.classFeesPaid
    paymentRisk := paymentRiskLabel actualBalance }

end Payment
end StudentSuccess
