import StudentSuccess.SnapshotUniqueness

namespace StudentSuccess
set_option autoImplicit true
open Calendar (Month)

/-- The columns that the mirror and its history share. -/
inductive MirrorColumn
  | userId
  | firstName
  | lastName
  | email
  | phoneNumber
  | pathName
  | hwsBehind
  | avgEffRating
  | lastActivityDays
  | attendancePercentage
  | currentSection
  | ipbcStartDate
  | past10DaysLogon
  | totalPayments
  | totalCredits
  | paymentBalance
  | classValue
  | feePaid
  | classFeesPaid
  | className
  | classSignupsId
  | activeStatus
  | statusI
  | statusII
  | studentStartDate
  | classStartDate
  | lastActivitySection
  | lastLoginDays
  | lastSubmitted
  deriving DecidableEq

/-- A value of a column, as the driver returns and takes it. -/
inductive Cell
  | null
  | int (n : Int)
  | float (x : Rat)
  | text (s : String)
  | bool (b : Bool)
  | timestamp (t : Instant)

namespace Cell

def ofOption (f : α → Cell) : Option α → Cell
  | some a => f a
  | none => .null

/-- `bool(val)`. -/
def truthy : Cell → Bool
  | .null => false
  | .int n => n != 0
  | .float x => x != 0
  | .text s => s != ""
  | .bool b => b
  | .timestamp _ => true

/-- `isinstance(val, str)`. -/
def isStr : Cell → Bool
  | .text _ => true
  | _ => false

/-- `isinstance(val, int)`; `bool` is a subclass of `int`. -/
def isInt : Cell → Bool
  | .int _ => true
  | .bool _ => true
  | _ => false

/-- The value that a nullable column of the type stores, if it is one of the type. -/
def text? : Cell → Option (Option String)
  | .null => some none
  | .text s => some (some s)
  | _ => none

def int? : Cell → Option (Option Int)
  | .null => some none
  | .int n => some (some n)
  | _ => none

def float? : Cell → Option (Option Rat)
  | .null => some none
  | .float x => some (some x)
  | _ => none

def bool? : Cell → Option (Option Bool)
  | .null => some none
  | .bool b => some (some b)
  | _ => none

def timestamp? : Cell → Option (Option Instant)
  | .null => some none
  | .timestamp t => some (some t)
  | _ => none

@[simp] theorem text?_ofOption (o : Option String) : (ofOption text o).text? = some o := by
  cases o <;> rfl

@[simp] theorem int?_ofOption (o : Option Int) : (ofOption int o).int? = some o := by
  cases o <;> rfl

@[simp] theorem float?_ofOption (o : Option Rat) : (ofOption float o).float? = some o := by
  cases o <;> rfl

@[simp] theorem bool?_ofOption (o : Option Bool) : (ofOption bool o).bool? = some o := by
  cases o <;> rfl

@[simp] theorem timestamp?_ofOption (o : Option Instant) :
    (ofOption timestamp o).timestamp? = some o := by
  cases o <;> rfl

@[simp] theorem int?_int (n : Int) : (int n).int? = some (some n) := rfl

@[simp] theorem float?_float (x : Rat) : (float x).float? = some (some x) := rfl

end Cell

def StudentState.cell (student : StudentState) (userId : Int) : MirrorColumn → Cell
  | .userId => .int userId
  | .firstName => .ofOption .text student.firstName
  | .lastName => .ofOption .text student.lastName
  | .email => .ofOption .text student.email
  | .phoneNumber => .ofOption .text student.phoneNumber
  | .pathName => .ofOption .text student.pathName
  | .hwsBehind => .int student.hwsBehind
  | .avgEffRating => .float student.avgEffRating
  | .lastActivityDays => .int student.lastActivityDays
  | .attendancePercentage => .ofOption .float student.attendancePercentage
  | .currentSection => .ofOption .text student.currentSection
  | .ipbcStartDate => .ofOption .timestamp student.ipbcStartDate
  | .past10DaysLogon => .ofOption .int student.past10DaysLogon
  | .totalPayments => .ofOption .float student.totalPayments
  | .totalCredits => .ofOption .float student.totalCredits
  | .paymentBalance => .ofOption .float student.paymentBalance
  | .classValue => .ofOption .float student.classValue
  | .feePaid => .ofOption .bool student.feePaid
  | .classFeesPaid => .ofOption .float student.classFeesPaid
  | .className => .ofOption .text student.className
  | .classSignupsId => .ofOption .text student.classSignupsId
  | .activeStatus => .ofOption .text student.activeStatus
  | .statusI => .ofOption .text student.statusI
  | .statusII => .ofOption .text student.statusII
  | .studentStartDate => .ofOption .timestamp student.studentStartDate
  | .classStartDate => .ofOption .timestamp student.classStartDate
  | .lastActivitySection => .ofOption .text student.lastActivitySection
  | .lastLoginDays => .ofOption .int student.lastLoginDays
  | .lastSubmitted => .ofOption .text student.lastSubmitted

/-- The columns of a row of the history, when each takes its value: three of them are not
nullable. -/
def StudentState.ofCells (cell : MirrorColumn → Cell) : Option StudentState := do
  return {
    firstName := ← (cell .firstName).text?
    lastName := ← (cell .lastName).text?
    email := ← (cell .email).text?
    phoneNumber := ← (cell .phoneNumber).text?
    pathName := ← (cell .pathName).text?
    hwsBehind := ← (cell .hwsBehind).int?.bind id
    avgEffRating := ← (cell .avgEffRating).float?.bind id
    lastActivityDays := ← (cell .lastActivityDays).int?.bind id
    attendancePercentage := ← (cell .attendancePercentage).float?
    currentSection := ← (cell .currentSection).text?
    ipbcStartDate := ← (cell .ipbcStartDate).timestamp?
    past10DaysLogon := ← (cell .past10DaysLogon).int?
    totalPayments := ← (cell .totalPayments).float?
    totalCredits := ← (cell .totalCredits).float?
    paymentBalance := ← (cell .paymentBalance).float?
    classValue := ← (cell .classValue).float?
    feePaid := ← (cell .feePaid).bool?
    classFeesPaid := ← (cell .classFeesPaid).float?
    className := ← (cell .className).text?
    classSignupsId := ← (cell .classSignupsId).text?
    activeStatus := ← (cell .activeStatus).text?
    statusI := ← (cell .statusI).text?
    statusII := ← (cell .statusII).text?
    studentStartDate := ← (cell .studentStartDate).timestamp?
    classStartDate := ← (cell .classStartDate).timestamp?
    lastActivitySection := ← (cell .lastActivitySection).text?
    lastLoginDays := ← (cell .lastLoginDays).int?
    lastSubmitted := ← (cell .lastSubmitted).text? }

theorem StudentState.ofCells_cell (student : StudentState) (userId : Int) :
    StudentState.ofCells (student.cell userId) = some student := by
  simp only [ofCells, cell, Cell.text?_ofOption, Cell.int?_ofOption, Cell.float?_ofOption,
    Cell.bool?_ofOption, Cell.timestamp?_ofOption, Cell.int?_int, Cell.float?_float,
    Option.bind_some, bind, pure, id]

namespace Capture

def mirrorCols : List MirrorColumn :=
  [.userId, .firstName, .lastName, .email, .phoneNumber, .pathName, .hwsBehind, .avgEffRating,
    .lastActivityDays, .attendancePercentage, .currentSection, .ipbcStartDate, .past10DaysLogon,
    .totalPayments, .totalCredits, .paymentBalance, .classValue, .feePaid, .classFeesPaid,
    .className, .classSignupsId, .activeStatus, .statusI, .statusII, .studentStartDate,
    .classStartDate, .lastActivitySection, .lastLoginDays, .lastSubmitted]

def boolCols : List MirrorColumn := [.feePaid]

def strCols : List MirrorColumn :=
  [.firstName, .lastName, .email, .phoneNumber, .pathName, .currentSection, .className,
    .classSignupsId, .activeStatus, .statusI, .statusII, .lastActivitySection, .lastSubmitted]

def intCols : List MirrorColumn :=
  [.userId, .hwsBehind, .lastActivityDays, .past10DaysLogon, .lastLoginDays]

/-- `str(val)` and `int(val)`, which may raise. -/
structure Conversions where
  str : Cell → String
  int : Cell → Option Int

def coerce (conversions : Conversions) (col : MirrorColumn) : Cell → Cell
  | .null => .null
  | val =>
    if col ∈ boolCols then .bool val.truthy
    else if col ∈ strCols ∧ !val.isStr then .text (conversions.str val)
    else if col ∈ intCols ∧ !val.isInt then
      match conversions.int val with
      | some n => .int n
      | none => val
    else val

/-- The defaults of the parameters that may not be null. -/
def nonNull : MirrorColumn → Cell → Cell
  | .hwsBehind, .null => .int 0
  | .avgEffRating, .null => .float 0
  | .lastActivityDays, .null => .int 0
  | _, val => val

/-- The parameter for the column, if the statement has one. -/
def params (conversions : Conversions) (row : MirrorColumn → Cell) (col : MirrorColumn) :
    Option Cell :=
  if col ∈ mirrorCols then some (nonNull col (coerce conversions col (row col))) else none

/-- What the schema of the history gives a column that the statement leaves out. -/
def serverDefault : MirrorColumn → Cell
  | .hwsBehind => .int 0
  | .avgEffRating => .float 0
  | .lastActivityDays => .int 0
  | _ => .null

/-- The proposed row, `EXCLUDED`. -/
def excluded (conversions : Conversions) (month : Month) (now : Instant)
    (row : MirrorColumn → Cell) : Option StudentMirrorHistory := do
  let cell col := (params conversions row col).getD (serverDefault col)
  let userId ← (cell .userId).int?.bind id
  let student ← StudentState.ofCells cell
  return { student with snapshotMonth := month, userId := userId, capturedAt := now }

/-- `DO UPDATE SET`, of the captured columns other than the key. -/
def updated (proposed existing : StudentMirrorHistory) : Option StudentMirrorHistory := do
  let cell col :=
    if col ∈ mirrorCols ∧ col ≠ .userId then proposed.cell proposed.userId col
    else existing.cell existing.userId col
  let student ← StudentState.ofCells cell
  return { existing with toStudentState := student, capturedAt := proposed.capturedAt }

abbrev History := Table StudentMirrorHistory fun r => (r.snapshotMonth, r.userId)

/-- The upsert of one row. -/
def upsert (proposed : StudentMirrorHistory) (history : History) : Option History :=
  match h : history.find? (proposed.snapshotMonth, proposed.userId) with
  | none => some (history.insert proposed (Table.find?_eq_none_iff.1 h))
  | some existing => do
    let row ← updated proposed existing
    return history.update (proposed.snapshotMonth, proposed.userId)
      (fun r => { r with toStudentState := row.toStudentState, capturedAt := row.capturedAt })
      fun _ => rfl

/-- The loop over the rows of the mirror; it counts the rows captured. -/
def captureEach (conversions : Conversions) (month : Month) (now : Instant) :
    List StudentTriggerData → History × Nat → Option (History × Nat)
  | [], captured => some captured
  | student :: rest, (history, count) =>
    let row := student.cell student.userId
    if (row .userId).truthy then do
      let proposed ← excluded conversions month now row
      let history' ← upsert proposed history
      captureEach conversions month now rest (history', count + 1)
    else captureEach conversions month now rest (history, count)

/-- `capture_month_state`: the history that is committed, if no statement fails. -/
def captureMonthState (conversions : Conversions) (month : Month) (now : Instant)
    (platform : Platform) : Option (History × Nat) :=
  captureEach conversions month now platform.triggerdata.rows (platform.mirrorHistory, 0)

theorem mem_mirrorCols (col : MirrorColumn) : col ∈ mirrorCols := by
  cases col <;> decide

theorem coerce_ofOption {f : α → Cell} (h : ∀ a, coerce conversions col (f a) = f a)
    (o : Option α) : coerce conversions col (.ofOption f o) = .ofOption f o := by
  cases o with
  | none => rfl
  | some a => exact h a

/-- The columns of the mirror hold values of their types, which no coercion changes. -/
theorem coerce_cell (conversions : Conversions) (student : StudentState) (userId : Int)
    (col : MirrorColumn) :
    coerce conversions col (student.cell userId col) = student.cell userId col := by
  cases col
  all_goals first
    | rfl
    | exact coerce_ofOption (fun _ => rfl) _

theorem nonNull_cell (student : StudentState) (userId : Int) (col : MirrorColumn) :
    nonNull col (student.cell userId col) = student.cell userId col := by
  cases col <;> rfl

theorem params_cell (conversions : Conversions) (student : StudentState) (userId : Int)
    (col : MirrorColumn) :
    params conversions (student.cell userId) col = some (student.cell userId col) := by
  rw [params, if_pos (mem_mirrorCols col), coerce_cell, nonNull_cell]

def capturedRow (month : Month) (now : Instant) (student : StudentTriggerData) :
    StudentMirrorHistory :=
  { student.toStudentState with
    snapshotMonth := month
    userId := student.userId
    capturedAt := now }

theorem excluded_eq (conversions : Conversions) (month : Month) (now : Instant)
    (student : StudentTriggerData) :
    excluded conversions month now (student.cell student.userId) =
      some (capturedRow month now student) := by
  have hcell : (fun col => (params conversions (student.cell student.userId) col).getD
      (serverDefault col)) = student.cell student.userId := by
    funext col
    rw [params_cell, Option.getD_some]
  simp only [excluded, hcell, StudentState.ofCells_cell]
  rfl

theorem updated_eq (hkey : proposed.userId = existing.userId) :
    updated proposed existing =
      some { existing with
        toStudentState := proposed.toStudentState
        capturedAt := proposed.capturedAt } := by
  have hcell : (fun col => if col ∈ mirrorCols ∧ col ≠ .userId then
      proposed.cell proposed.userId col else existing.cell existing.userId col) =
        proposed.cell proposed.userId := by
    funext col
    by_cases hcol : col = .userId
    · rw [if_neg fun h => h.2 hcol, hcol, ← hkey]
      rfl
    · rw [if_pos ⟨mem_mirrorCols col, hcol⟩]
  simp only [updated, hcell, StudentState.ofCells_cell]
  rfl

/-- The upsert leaves the proposed row under its key and every other row as it was. -/
theorem upsert_spec (proposed : StudentMirrorHistory) (history : History) :
    ∃ history', upsert proposed history = some history' ∧
      ∀ key, history'.find? key = if key = (proposed.snapshotMonth, proposed.userId) then
        some proposed else history.find? key := by
  rw [upsert]
  split
  · next hnone =>
    exact ⟨_, rfl, fun key => Table.find?_insert history proposed _ key⟩
  · next existing hexisting =>
    have hsame : (existing.snapshotMonth, existing.userId) =
        (proposed.snapshotMonth, proposed.userId) := Table.find?_key (t := history) hexisting
    obtain ⟨hmonth, huser⟩ := Prod.mk.inj hsame
    rw [updated_eq huser.symm]
    refine ⟨_, rfl, fun key => ?_⟩
    by_cases hkey : key = (proposed.snapshotMonth, proposed.userId)
    · rw [hkey, Table.find?_update_self, hexisting, if_pos rfl, Option.map_some, hmonth, huser]
    · rw [Table.find?_update_of_ne _ hkey, if_neg hkey]

/-- A captured student has an id other than zero. -/
def Captured (student : StudentTriggerData) : Prop := student.userId ≠ 0

/-- After the loop the captured students have their rows, and every other row is as it was. -/
theorem captureEach_spec (conversions : Conversions) (month : Month) (now : Instant)
    (hnodup : (students.map StudentTriggerData.userId).Nodup) (history : History) (count : Nat) :
    ∃ history' count', captureEach conversions month now students (history, count) =
        some (history', count') ∧
      (∀ student ∈ students, Captured student →
        history'.find? (month, student.userId) = some (capturedRow month now student)) ∧
      ∀ key, (∀ student ∈ students, Captured student → key ≠ (month, student.userId)) →
        history'.find? key = history.find? key := by
  induction students generalizing history count with
  | nil => exact ⟨history, count, rfl, fun _ h => absurd h List.not_mem_nil, fun _ _ => rfl⟩
  | cons student students ih =>
    rw [List.map_cons, List.nodup_cons] at hnodup
    by_cases hzero : student.userId = 0
    · obtain ⟨history', count', heach, hrows, hothers⟩ := ih hnodup.2 history count
      refine ⟨history', count', ?_, ?_, ?_⟩
      · simp only [captureEach, StudentState.cell, Cell.truthy, hzero, bne_self_eq_false,
          Bool.false_eq_true, if_false]
        exact heach
      · intro student' hmem hcaptured
        rcases List.mem_cons.1 hmem with rfl | hmem
        · exact absurd hzero hcaptured
        · exact hrows student' hmem hcaptured
      · intro key hkey
        exact hothers key fun student' hmem => hkey student' (.tail _ hmem)
    · obtain ⟨history₁, hupsert, hfind⟩ := upsert_spec (capturedRow month now student) history
      obtain ⟨history', count', heach, hrows, hothers⟩ := ih hnodup.2 history₁ (count + 1)
      have htruthy : (student.cell student.userId .userId).truthy = true := bne_iff_ne.2 hzero
      refine ⟨history', count', ?_, ?_, ?_⟩
      · rw [captureEach, if_pos htruthy, excluded_eq, Option.bind_eq_bind, Option.bind_some,
          hupsert]
        exact heach
      · intro student' hmem hcaptured
        rcases List.mem_cons.1 hmem with rfl | hmem
        · rw [hothers]
          · exact (hfind _).trans (if_pos rfl)
          · intro later hlater _ hkey
            have hid : student'.userId = later.userId := (Prod.mk.inj hkey).2
            exact hnodup.1 (hid ▸ List.mem_map_of_mem hlater)
        · exact hrows student' hmem hcaptured
      · intro key hkey
        rw [hothers key fun student' hmem => hkey student' (.tail _ hmem)]
        exact (hfind key).trans (if_neg (hkey student (.head _) hzero))

open Snapshot

/-- The platforms differ at most in the mirror and its history. -/
structure SameElsewhere (platform platform' : Platform) : Prop where
  db : platform.toDb = platform'.toDb
  campaignActivity : platform.campaignActivity = platform'.campaignActivity
  aiInsights : platform.aiInsights = platform'.aiInsights

/-- An assembly reads the mirror and its history for the student's state only. -/
theorem assembleSnapshot_congr (helsewhere : SameElsewhere platform platform')
    (hstudent : studentForMonth platform args.studentId args.snapshotMonth =
      studentForMonth platform' args.studentId args.snapshotMonth) :
    assembleSnapshot parseUuid platform call w args =
      assembleSnapshot parseUuid platform' call w args := by
  obtain ⟨db, triggerdata, mirrorHistory, campaignActivity, aiInsights⟩ := platform
  obtain ⟨db', triggerdata', mirrorHistory', campaignActivity', aiInsights'⟩ := platform'
  obtain ⟨rfl, rfl, rfl⟩ := helsewhere
  rw [assembleSnapshot]
  rw [hstudent]
  rfl

/-- What was captured by the end of the month needs no adjustment. -/
theorem adjustRelativeFields_inTime (hnow : dayOf now ≤ monthLastDay month)
    (student : StudentTriggerData) :
    adjustRelativeFields (capturedRow month now student) month = student.toStudentState := by
  have hoffset : (dayOf now : Int) - monthLastDay month ≤ 0 :=
    Int.sub_nonpos_of_le (Int.ofNat_le.2 hnow)
  exact if_pos hoffset

/-- The capture keeps what an assembly needs: for the students it is about, the month has one
row of the history, equal to the mirror's; the other months' rows are as they were; and a
snapshot assembled from a row captured in time is the one the live mirror would have given. -/
structure Lossless (About : StudentTriggerData → Prop) (month : Month) (now : Instant)
    (platform : Platform) (history : History) : Prop where
  row : ∀ student ∈ platform.triggerdata.rows, About student →
    history.rows.filter (fun r => (r.snapshotMonth, r.userId) = (month, student.userId)) =
      [capturedRow month now student]
  otherMonths : ∀ key : Month × Int, key.1 ≠ month →
    history.find? key = platform.mirrorHistory.find? key
  assembly : ∀ student ∈ platform.triggerdata.rows, About student →
    dayOf now ≤ monthLastDay month → ∀ later live : Platform,
      later.mirrorHistory.find? (month, student.userId) =
        history.find? (month, student.userId) →
      live.mirrorHistory.find? (month, student.userId) = none →
      live.triggerdata.find? student.userId = some student → SameElsewhere later live →
      ∀ parseUuid call w (args : AssembleArgs), args.key = (student.userId, month) →
        assembleSnapshot parseUuid later call w args = assembleSnapshot parseUuid live call w args

/-- Capturing a month and assembling from the capture loses nothing of the students whose id is
not zero. -/
theorem capture_lossless (conversions : Conversions) (month : Month) (now : Instant)
    (platform : Platform) :
    ∃ history count, captureMonthState conversions month now platform = some (history, count) ∧
      Lossless Captured month now platform history := by
  obtain ⟨history, count, hcapture, hrows, hothers⟩ := captureEach_spec conversions month now
    platform.triggerdata.unique platform.mirrorHistory 0
  refine ⟨history, count, hcapture, ?_, ?_, ?_⟩
  · intro student hmem hcaptured
    exact Table.filter_of_find? (hrows student hmem hcaptured)
  · intro key hmonth
    exact hothers key fun student _ _ hkey => hmonth (congrArg Prod.fst hkey)
  · intro student hmem hcaptured hnow later live hlater hnone hlive helsewhere parseUuid call w
      args hkey
    obtain ⟨hstudent, hmonth⟩ : args.studentId = student.userId ∧ args.snapshotMonth = month :=
      Prod.mk.inj hkey
    apply assembleSnapshot_congr helsewhere
    rw [hstudent, hmonth, studentForMonth, studentForMonth, hlater,
      hrows student hmem hcaptured, hnone, hlive]
    exact congrArg some (adjustRelativeFields_inTime hnow student)

def zeroPlatform : Platform :=
  { Pipeline.platformWith .empty with
    triggerdata := ⟨[{ Pipeline.mirrored with userId := 0 }], List.nodup_singleton _⟩ }

def unused : Conversions := ⟨fun _ => "", fun _ => none⟩

/-- The student with the id zero is not captured. -/
theorem zero_not_captured :
    ¬ ∃ history count, captureMonthState unused Pipeline.january 0 zeroPlatform =
        some (history, count) ∧
      Lossless (fun _ => True) Pipeline.january 0 zeroPlatform history := by
  rintro ⟨history, count, hcapture, hlossless⟩
  cases hcapture
  exact absurd (hlossless.row _ (List.mem_singleton_self _) trivial) (List.cons_ne_nil _ _).symm

end Capture
end StudentSuccess
