import StudentSuccess.LastMatch
import StudentSuccess.MirrorSyncs

namespace StudentSuccess
namespace PaymentPlans
set_option autoImplicit true
open Py MirrorSync LastMatch

structure Patch where
  planName : Option String
  downPaymentAmt : Rat

/-- The methods of texts, the conversions, and the updates that the database takes. -/
structure PlanEnv where
  lower : String → String
  strip : String → String
  str : Cell → String
  int : Cell → Option Int
  float : Cell → Option Rat
  accepts : Int → Patch → Bool

inductive PlanError
  | attributeError
  | valueError
  | dbapi

def normalizeEmail (env : PlanEnv) (val : Cell) : String := env.lower (env.strip (env.str val))

/-- `a or b`. -/
def orCell (a b : Cell) : Cell := if a.truthy then a else b

/-- The key of the row among the e-mails, if it has one. -/
def emailOf (env : PlanEnv) (row : SourceRow) : Option String :=
  let email := getCell row "Email"
  if email.truthy then some (normalizeEmail env email) else none

/-- `(val or "").strip().lower()`. -/
def namePart (env : PlanEnv) (val : Cell) : Except PlanError String :=
  match orCell val (.text "") with
  | .text s => .ok (env.lower (env.strip s))
  | _ => .error .attributeError

/-- The key of the row among the names, if both are there. -/
def nameKey (env : PlanEnv) (row : SourceRow) : Except PlanError (Option String) := do
  let fn ← namePart env (getCell row "FirstName")
  let ln ← namePart env (getCell row "LastName")
  return if fn = "" ∨ ln = "" then none else some (fn ++ "|" ++ ln)

/-- The name is read only where the view has the two columns. -/
def nameKeyIf (env : PlanEnv) (hasName : Bool) (row : SourceRow) :
    Except PlanError (Option String) := if hasName then nameKey env row else .ok none

def viewCols (env : PlanEnv) : List SourceRow → List String
  | [] => []
  | row :: _ => row.map fun (k, _) => env.lower k

def hasEmail (env : PlanEnv) (planRows : List SourceRow) : Bool :=
  "email" ∈ viewCols env planRows

def hasName (env : PlanEnv) (planRows : List SourceRow) : Bool :=
  "firstname" ∈ viewCols env planRows ∧ "lastname" ∈ viewCols env planRows

structure Lookups where
  planByEmail : List (String × SourceRow)
  planByName : List (String × SourceRow)

/-- `d[key] = row`, if there is a key. -/
def setSome (key : Option String) (row : SourceRow) (d : List (String × SourceRow)) :
    List (String × SourceRow) :=
  match key with
  | some k => setItem k row d
  | none => d

def addPlanRow (env : PlanEnv) (hasEmail hasName : Bool) (lookups : Lookups) (row : SourceRow) :
    Except PlanError Lookups := do
  let planByEmail :=
    if hasEmail then setSome (emailOf env row) row lookups.planByEmail else lookups.planByEmail
  let name ← nameKeyIf env hasName row
  return ⟨planByEmail, setSome name row lookups.planByName⟩

def buildLookups (env : PlanEnv) (hasEmail hasName : Bool) :
    List SourceRow → Lookups → Except PlanError Lookups
  | [], lookups => .ok lookups
  | row :: planRows, lookups => do
    let lookups ← addPlanRow env hasEmail hasName lookups row
    buildLookups env hasEmail hasName planRows lookups

/-- The plan row of a student: by the e-mail and, if there is none, by the name. -/
def findPlanRow (env : PlanEnv) (hasEmail hasName : Bool) (lookups : Lookups)
    (student : SourceRow) : Except PlanError (Option SourceRow) :=
  let byEmail :=
    if hasEmail then (emailOf env student).bind fun k => get? k lookups.planByEmail else none
  match byEmail with
  | some row => .ok (some row)
  | none => do
    let name ← nameKeyIf env hasName student
    return name.bind fun k => get? k lookups.planByName

def planPatch (env : PlanEnv) (row : SourceRow) : Except PlanError Patch :=
  let planName := orCell (getCell row "PlanName") (getCell row "planname")
  let downPmt := orCell (orCell (getCell row "DOWNPAYMENTAMT") (getCell row "downpaymentamt"))
    (.int 0)
  match env.float downPmt with
  | some downPaymentAmt =>
    .ok ⟨if planName.truthy then some (env.str planName) else none, downPaymentAmt⟩
  | none => .error .valueError

/-- The id of a student; a row without one, or with one that is no number, is skipped. -/
def studentId (env : PlanEnv) (student : SourceRow) : Option Int :=
  let uidRaw := getCell student "UserID"
  if !uidRaw.truthy then none else env.int uidRaw

/-- The update for the student, if the student has an id and a plan row. -/
def planStatement (env : PlanEnv) (hasEmail hasName : Bool) (lookups : Lookups)
    (student : SourceRow) : Except PlanError (Option (Int × Patch)) :=
  match studentId env student with
  | none => .ok none
  | some uid => do
    match ← findPlanRow env hasEmail hasName lookups student with
    | none => return none
    | some row =>
      let patch ← planPatch env row
      if env.accepts uid patch then return some (uid, patch) else .error .dbapi

def Patch.apply (patch : Patch) (row : String → Cell) : String → Cell := fun c =>
  if c = "plan_name" then .ofOption .text patch.planName
  else if c = "down_payment_amt" then .float patch.downPaymentAmt
  else row c

/-- `UPDATE ai_chatbot_triggerdata … WHERE "UserID" = :user_id`. -/
def updatePlan (mirror : Mirror) (uid : Int) (patch : Patch) : Mirror := fun u =>
  if u = uid then (mirror u).map patch.apply else mirror u

structure PlanCounts where
  updated : Nat
  skipped : Nat

def patchStudents (statement : SourceRow → Except PlanError (Option (Int × Patch))) :
    List SourceRow → PlanCounts → Mirror → Except PlanError (PlanCounts × Mirror)
  | [], counts, mirror => .ok (counts, mirror)
  | student :: students, counts, mirror => do
    match ← statement student with
    | none => patchStudents statement students ⟨counts.updated, counts.skipped + 1⟩ mirror
    | some (uid, patch) =>
      if (mirror uid).isSome then
        patchStudents statement students ⟨counts.updated + 1, counts.skipped⟩
          (updatePlan mirror uid patch)
      else patchStudents statement students ⟨counts.updated, counts.skipped + 1⟩ mirror

inductive PlanResult
  | failed (error : String)
  | noPlanRows
  | noJoinKey (viewCols : List String)
  | done (planRowsFetched studentRowsFetched : Nat) (counts : PlanCounts)

/-- `sync_ipbc_payment_plans`: the result and the mirror that is committed. -/
def syncIpbcPaymentPlans (env : PlanEnv) (planRows studentRows : Except String (List SourceRow))
    (mirror : Mirror) : Except PlanError (PlanResult × Mirror) :=
  match checkError planRows, checkError studentRows with
  | .error err1, _ => .ok (.failed err1, mirror)
  | _, .error err2 => .ok (.failed err2, mirror)
  | .ok [], .ok _ => .ok (.noPlanRows, mirror)
  | .ok (row :: rest), .ok students => do
    let planRows := row :: rest
    let hasEmail := hasEmail env planRows
    let hasName := hasName env planRows
    let lookups ← buildLookups env hasEmail hasName planRows ⟨[], []⟩
    if !hasEmail && !hasName then
      return (.noJoinKey ((viewCols env planRows).eraseDups.mergeSort fun a b => a ≤ b), mirror)
    else
      let (counts, mirror) ←
        patchStudents (planStatement env hasEmail hasName lookups) students ⟨0, 0⟩ mirror
      return (.done planRows.length students.length counts, mirror)

end PaymentPlans
end StudentSuccess
