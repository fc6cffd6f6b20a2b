import StudentSuccess.MonthCapture
import StudentSuccess.NarrativeGeneration
import StudentSuccess.PyNumber

namespace StudentSuccess
namespace Narratives
set_option autoImplicit true

/-- `str(cell)`; a float and a timestamp have the text that `repr` gives them. -/
def cellText (repr : Cell → String) : Cell → String
  | .null => "None"
  | .bool b => if b then "True" else "False"
  | .int n => toString n
  | .text s => s
  | cell => repr cell

/-- `float(cell)`. -/
def cellFloat : Cell → Except Py.Error Py.Float
  | .bool b => Py.toFloat (.bool b)
  | .int n => Py.toFloat (.int n)
  | .float x => Py.toFloat (.float x)
  | .text s => Py.toFloat (.str s)
  | .null | .timestamp _ => .error .typeError

/-- `{c.key: getattr(row, c.key) for c in row.__table__.columns}`. -/
def rowDict (row : StudentTriggerData) : List (String × Cell) :=
  [("UserID", .int row.userId),
    ("FirstName", .ofOption .text row.firstName),
    ("LastName", .ofOption .text row.lastName),
    ("Email", .ofOption .text row.email),
    ("PhoneNumber", .ofOption .text row.phoneNumber),
    ("PathName", .ofOption .text row.pathName),
    ("HWsBehind", .int row.hwsBehind),
    ("AvgEffRating", .float row.avgEffRating),
    ("LastActivityDays", .int row.lastActivityDays),
    ("AttendancePercentage", .ofOption .float row.attendancePercentage),
    ("CurrentSection", .ofOption .text row.currentSection),
    ("IPBCStartDate", .ofOption .timestamp row.ipbcStartDate),
    ("Past10DaysLogon", .ofOption .int row.past10DaysLogon),
    ("Total_Payments", .ofOption .float row.totalPayments),
    ("Total_Credits", .ofOption .float row.totalCredits),
    ("PaymentBalance", .ofOption .float row.paymentBalance),
    ("ClassValue", .ofOption .float row.classValue),
    ("FeePaid", .ofOption .bool row.feePaid),
    ("ClassFeesPaid", .ofOption .float row.classFeesPaid),
    ("ClassName", .ofOption .text row.className),
    ("ClassSignupsID", .ofOption .text row.classSignupsId),
    ("ActiveStatus", .ofOption .text row.activeStatus),
    ("StatusI", .ofOption .text row.statusI),
    ("StatusII", .ofOption .text row.statusII),
    ("StudentStartDate", .ofOption .timestamp row.studentStartDate),
    ("ClassStartDate", .ofOption .timestamp row.classStartDate),
    ("LastActivitySection", .ofOption .text row.lastActivitySection),
    ("LastLoginDays", .ofOption .int row.lastLoginDays),
    ("LastSubmitted", .ofOption .text row.lastSubmitted),
    ("plan_name", .ofOption .text row.planName),
    ("down_payment_amt", .ofOption .float row.downPaymentAmt)]

/-- `student.get(key) or default`. -/
def getOr (student : List (String × Cell)) (key : String) (default : Cell) : Cell :=
  match Py.get? key student with
  | some cell => if cell.truthy then cell else default
  | none => default

def roundOne : Py.Float → Py.Float
  | .fin x => .fin (Py.roundTo x 1)
  | x => x

/-- The values that `_USER_TEMPLATE` is formatted with. -/
structure PromptValues where
  pathName : Cell
  section_ : Cell
  attendance : Cell
  hwBehind : Cell
  effRating : Py.Float
  lastActivity : Cell
  lastLogin : Cell
  recentLogins : Cell
  paymentBalance : Cell
  feePaid : String
  activeStatus : Cell
  statusI : Cell
  statusII : Cell

def promptValues (student : List (String × Cell)) : Except Py.Error PromptValues := do
  let effRating ← cellFloat (getOr student "p_AvgEffRating" (.float 0))
  return {
    pathName := getOr student "PathName" (.text "Unknown")
    section_ := getOr student "section" (.text "Unknown")
    attendance := getOr student "AttendancePercentage" (.int 0)
    hwBehind := getOr student "p_HWsBehind" (.int 0)
    effRating := roundOne effRating
    lastActivity := getOr student "p_LastActivityDays" (.int 0)
    lastLogin := getOr student "p_LastLoginDays" (.int 0)
    recentLogins := getOr student "Past10DaysLogon" (.int 0)
    paymentBalance := getOr student "PaymentBalance" (.int 0)
    feePaid := if (getOr student "FeePaid" .null).truthy then "Yes" else "No"
    activeStatus := getOr student "ActiveStatus" (.text "Unknown")
    statusI := getOr student "StatusI" (.text "")
    statusII := getOr student "StatusII" (.text "") }

/-- The lines of `_USER_TEMPLATE`; `floatText` is `str` of a float. -/
def promptLines (repr : Cell → String) (floatText : Py.Float → String) (values : PromptValues) :
    List String :=
  ["Program: " ++ cellText repr values.pathName,
    "Section: " ++ cellText repr values.section_,
    "Attendance: " ++ cellText repr values.attendance ++ "%",
    "HWs behind: " ++ cellText repr values.hwBehind,
    "Efficiency rating: " ++ floatText values.effRating ++ "/5",
    "Days since last activity: " ++ cellText repr values.lastActivity,
    "Days since last login: " ++ cellText repr values.lastLogin,
    "Recent 10-day logins: " ++ cellText repr values.recentLogins,
    "Payment balance owed: $" ++ cellText repr values.paymentBalance,
    "Fee paid: " ++ values.feePaid,
    "Active status: " ++ cellText repr values.activeStatus,
    "Status I: " ++ cellText repr values.statusI,
    "Status II: " ++ cellText repr values.statusII]

def buildContext (repr : Cell → String) (floatText : Py.Float → String)
    (student : List (String × Cell)) : Except Py.Error String := do
  let values ← promptValues student
  return "\n".intercalate (promptLines repr floatText values)

def columnNames : List String :=
  ["UserID", "FirstName", "LastName", "Email", "PhoneNumber", "PathName", "HWsBehind",
    "AvgEffRating", "LastActivityDays", "AttendancePercentage", "CurrentSection", "IPBCStartDate",
    "Past10DaysLogon", "Total_Payments", "Total_Credits", "PaymentBalance", "ClassValue",
    "FeePaid", "ClassFeesPaid", "ClassName", "ClassSignupsID", "ActiveStatus", "StatusI",
    "StatusII", "StudentStartDate", "ClassStartDate", "LastActivitySection", "LastLoginDays",
    "LastSubmitted", "plan_name", "down_payment_amt"]

theorem rowDict_keys (row : StudentTriggerData) : (rowDict row).map Prod.fst = columnNames := rfl

theorem get?_absent {entries : List (String × α)} (h : key ∉ entries.map Prod.fst) :
    Py.get? key entries = none := by
  induction entries with
  | nil => rfl
  | cons entry entries ih =>
    rw [List.map_cons, List.mem_cons, not_or] at h
    rw [Py.get?, if_neg (Ne.symm h.1)]
    exact ih h.2

/-- What is not a column has the default of the prompt. -/
theorem getOr_absent (key : String) (h : key ∉ columnNames) (row : StudentTriggerData)
    (default : Cell) : getOr (rowDict row) key default = default := by
  rw [getOr, get?_absent (rowDict_keys row ▸ h)]

/-- What the prompt shows of a column: what it holds, or that it is unknown. -/
def shownAs : Cell → Cell
  | .null => .text "Unknown"
  | cell => cell

/-- The prompt shows the row's own section, homework, rating and days, the rating rounded. -/
structure PromptFaithful (row : StudentTriggerData) (values : PromptValues) : Prop where
  section_ : values.section_ = shownAs (.ofOption .text row.currentSection)
  hwBehind : values.hwBehind = shownAs (.ofOption .int (some row.hwsBehind))
  effRating : values.effRating = .fin (Py.roundTo row.avgEffRating 1)
  lastActivity : values.lastActivity = shownAs (.ofOption .int (some row.lastActivityDays))
  lastLogin : values.lastLogin = shownAs (.ofOption .int row.lastLoginDays)

def Faithful (row : StudentTriggerData) : Prop :=
  ∃ values, promptValues (rowDict row) = .ok values ∧ PromptFaithful row values

/-- A student of whom there is nothing to tell: in no section, behind with no homework, with a
rating of zero, and active and logged in today. -/
structure Uneventful (row : StudentTriggerData) : Prop where
  section_ : row.currentSection = none ∨ row.currentSection = some "Unknown"
  homework : row.hwsBehind = 0
  rating : Py.roundTo row.avgEffRating 1 = 0
  activity : row.lastActivityDays = 0
  login : row.lastLoginDays = some 0

/-- The prompt of every row says the same in the places of the five values. -/
theorem promptValues_rowDict (row : StudentTriggerData) :
    ∃ values, promptValues (rowDict row) = .ok values ∧
      values.section_ = .text "Unknown" ∧ values.hwBehind = .int 0 ∧
      values.effRating = .fin 0 ∧ values.lastActivity = .int 0 ∧
      values.lastLogin = .int 0 := by
  have hrating : cellFloat (getOr (rowDict row) "p_AvgEffRating" (.float 0)) = .ok (.fin 0) := by
    rw [getOr_absent _ (by decide)]
    rfl
  refine ⟨_, Py.bind_eq_ok.2 ⟨_, hrating, rfl⟩, ?_, ?_, ?_, ?_, ?_⟩
  · exact getOr_absent "section" (by decide) row _
  · exact getOr_absent "p_HWsBehind" (by decide) row _
  · have hzero : Py.roundTo 0 1 = 0 := by
      decide +kernel
    exact congrArg Py.Float.fin hzero
  · exact getOr_absent "p_LastActivityDays" (by decide) row _
  · exact getOr_absent "p_LastLoginDays" (by decide) row _

theorem shownAs_text_iff (s : Option String) :
    .text "Unknown" = shownAs (.ofOption .text s) ↔ s = none ∨ s = some "Unknown" := by
  cases s with
  | none => simp [Cell.ofOption, shownAs]
  | some s => simp [Cell.ofOption, shownAs, eq_comm]

theorem shownAs_int_iff (n : Option Int) :
    .int 0 = shownAs (.ofOption .int n) ↔ n = some 0 := by
  cases n with
  | none => simp [Cell.ofOption, shownAs]
  | some n => simp [Cell.ofOption, shownAs, eq_comm]

/-- The prompt is true to the row only where there is nothing to tell. -/
theorem faithful_iff_uneventful (row : StudentTriggerData) : Faithful row ↔ Uneventful row := by
  obtain ⟨values, hvalues, hsection, hhomework, hrating, hactivity, hlogin⟩ :=
    promptValues_rowDict row
  constructor
  · rintro ⟨values', hvalues', h⟩
    cases hvalues.symm.trans hvalues'
    have hhws := (shownAs_int_iff _).1 (hhomework.symm.trans h.hwBehind)
    have hdays := (shownAs_int_iff _).1 (hactivity.symm.trans h.lastActivity)
    have hrated := hrating.symm.trans h.effRating
    exact {
      section_ := (shownAs_text_iff _).1 (hsection.symm.trans h.section_)
      homework := Option.some.inj hhws
      rating := (Py.Float.fin.inj hrated).symm
      activity := Option.some.inj hdays
      login := (shownAs_int_iff _).1 (hlogin.symm.trans h.lastLogin) }
  · intro h
    refine ⟨values, hvalues, ?_⟩
    exact {
      section_ := hsection.trans ((shownAs_text_iff _).2 h.section_)
      hwBehind := hhomework.trans ((shownAs_int_iff _).2 (congrArg some h.homework))
      effRating := hrating.trans (congrArg Py.Float.fin h.rating.symm)
      lastActivity := hactivity.trans ((shownAs_int_iff _).2 (congrArg some h.activity))
      lastLogin := hlogin.trans ((shownAs_int_iff _).2 h.login) }

/-- The prompt does not tell rows apart that differ in these columns only. -/
theorem buildContext_blind (repr : Cell → String) (floatText : Py.Float → String)
    (row : StudentTriggerData) (currentSection : Option String) (hwsBehind : Int)
    (avgEffRating : Rat) (lastActivityDays : Int) (lastLoginDays : Option Int) :
    buildContext repr floatText
        (rowDict { row with
          currentSection := currentSection
          hwsBehind := hwsBehind
          avgEffRating := avgEffRating
          lastActivityDays := lastActivityDays
          lastLoginDays := lastLoginDays }) =
      buildContext repr floatText (rowDict row) := by
  have hvalues : promptValues (rowDict { row with
      currentSection := currentSection
      hwsBehind := hwsBehind
      avgEffRating := avgEffRating
      lastActivityDays := lastActivityDays
      lastLoginDays := lastLoginDays }) = promptValues (rowDict row) := by
    simp only [promptValues, getOr_absent "section" (by decide),
      getOr_absent "p_HWsBehind" (by decide), getOr_absent "p_AvgEffRating" (by decide),
      getOr_absent "p_LastActivityDays" (by decide), getOr_absent "p_LastLoginDays" (by decide)]
    rfl
  rw [buildContext, buildContext, hvalues]

def strugglingStudent : StudentTriggerData :=
  { Pipeline.mirrored with
    currentSection := some "CAP Project"
    lastLoginDays := some 10
    hwsBehind := 3
    lastActivityDays := 12 }

/-- The prompt says that the student is in no known section, behind with nothing, and active. -/
theorem struggling_student_hidden :
    (∃ values, promptValues (rowDict strugglingStudent) = .ok values ∧
      values.section_ = .text "Unknown" ∧ values.hwBehind = .int 0 ∧
      values.effRating = .fin 0 ∧ values.lastActivity = .int 0 ∧
      values.lastLogin = .int 0) ∧
    ¬ Faithful strugglingStudent := by
  refine ⟨promptValues_rowDict strugglingStudent, ?_⟩
  rintro ⟨values, hvalues, h⟩
  obtain ⟨_, hvalues', -, hhomework, -⟩ := promptValues_rowDict strugglingStudent
  cases hvalues.symm.trans hvalues'
  have hhws := (shownAs_int_iff _).1 (hhomework.symm.trans h.hwBehind)
  exact absurd hhws (by decide)

end Narratives
end StudentSuccess
