import StudentSuccess.MonthCapture
import StudentSuccess.NarrativePrompt
import StudentSuccess.Upserts

namespace StudentSuccess
namespace MirrorSync
set_option autoImplicit true
open Py Upserts
open Narratives (columnNames)

/-- A row of the source, as `dict(zip(cols, row))` holds it. -/
abbrev SourceRow := List (String × Cell)

/-- `row.get(key)`. -/
def getCell (row : SourceRow) (key : String) : Cell := (get? key row).getD .null

def booleanCols : List String := ["FeePaid"]

def stringCols : List String :=
  ["FirstName", "LastName", "Email", "PhoneNumber", "PathName", "CurrentSection", "ClassName",
    "ClassSignupsID", "ActiveStatus", "StatusI", "StatusII", "LastActivitySection",
    "LastSubmitted", "plan_name"]

/-- The columns that may not be null, with their defaults. -/
def defaults : List (String × Cell) :=
  [("HWsBehind", .int 0), ("AvgEffRating", .float 0), ("LastActivityDays", .int 0)]

/-- `str(val)`, `int(val)`, which may raise, and what a column of the database holds of a value,
if it takes it; a column takes its own default as it is. -/
structure Driver where
  str : Cell → String
  int : Cell → Option Int
  store : String → Cell → Option Cell
  store_default : ∀ k v, get? k defaults = some v → store k v = some v

inductive SyncError
  | valueError
  | dataError
  deriving DecidableEq

/-- A mirror row by its columns other than the key. -/
abbrev Mirror := Store Int String Cell

abbrev MirrorChange := Change String Cell

/-- What an insert leaves in a column that it does not set. -/
def blankRow : String → Cell := fun _ => .null

def coerce (driver : Driver) (col : String) : Cell → Cell
  | .null => .null
  | val =>
    if col ∈ booleanCols then .bool val.truthy
    else if col ∈ stringCols ∧ !val.isStr then .text (driver.str val)
    else val

/-- `values.setdefault(key, value)`. -/
def setDefault (values : SourceRow) (entry : String × Cell) : SourceRow :=
  match get? entry.1 values with
  | some _ => values
  | none => setItem entry.1 entry.2 values

/-- `if values.get(key) is None: values[key] = value`, of a key that is there. -/
def replaceNull (values : SourceRow) (entry : String × Cell) : SourceRow :=
  match get? entry.1 values with
  | some .null => setItem entry.1 entry.2 values
  | _ => values

/-- The values of a statement, from those of the row that are columns of the mirror. -/
def statementValues (driver : Driver) (values : SourceRow) : SourceRow :=
  let values := values.map fun (k, v) => (k, coerce driver k v)
  let values := defaults.foldl setDefault values
  defaults.foldl replaceNull values

def mirrorColumns (row : SourceRow) : SourceRow := row.filter fun (k, _) => k ∈ columnNames

/-- The statement for the student, which the database refuses if a column does not take its
value. -/
def statement (driver : Driver) (values : SourceRow) :
    Except SyncError (Int × MirrorChange) :=
  match driver.store "UserID" (getCell values "UserID") with
  | some (.int userId) =>
    if values.all fun (k, v) => (driver.store k v).isSome then
      .ok (userId, fun c => if c = "UserID" then none else (get? c values).bind (driver.store c))
    else .error .dataError
  | _ => .error .dataError

/-- What `sync_from_mssql` does with a row: nothing without a `UserID`. -/
def mssqlStatement (driver : Driver) (row : SourceRow) :
    Except SyncError (Option (Int × MirrorChange)) :=
  let values := mirrorColumns row
  if !(getCell values "UserID").truthy then .ok none
  else (statement driver (statementValues driver values)).map some

/-- The upserts of a sync, one for each row that it does not skip. -/
def syncLoop (prepare : SourceRow → Except SyncError (Option (Int × MirrorChange))) :
    List SourceRow → Mirror → Nat → Except SyncError (Mirror × Nat)
  | [], mirror, count => .ok (mirror, count)
  | row :: rows, mirror, count => do
    match ← prepare row with
    | none => syncLoop prepare rows mirror count
    | some (userId, change) =>
      syncLoop prepare rows (upsert blankRow mirror userId change) (count + 1)

/-- `sync_from_mssql`: the mirror that is committed and the count of the upserts; after a failed
fetch there is nothing to commit. -/
def syncFromMssql (driver : Driver) (fetched : Except String (List SourceRow)) (mirror : Mirror) :
    Except SyncError (Mirror × Nat) :=
  match checkError fetched with
  | .error _ => .ok (mirror, 0)
  | .ok rows => syncLoop (mssqlStatement driver) rows mirror 0

theorem syncFromMssql_ok : syncFromMssql driver (.ok rows) mirror =
    syncLoop (mssqlStatement driver) rows mirror 0 := rfl

/-- `_IPBC_RENAMES.get(k, k)`. -/
def ipbcRename (k : String) : String := if k = "IPBC_StartDate" then "IPBCStartDate" else k

def renamed (row : SourceRow) : SourceRow :=
  row.foldl (fun renamed (k, v) => setItem (ipbcRename k) v renamed) []

/-- The id of a row of the IPBC source; a row without one, or with one that is no number, is
skipped. -/
def ipbcUserId (driver : Driver) (row : SourceRow) : Option Int :=
  let uidRaw := getCell row "UserID"
  if !uidRaw.truthy then none else driver.int uidRaw

def ipbcStatement (driver : Driver) (row : SourceRow) :
    Except SyncError (Option (Int × MirrorChange)) :=
  match ipbcUserId driver row with
  | none => .ok none
  | some uid =>
    let values := setItem "UserID" (.int uid) (mirrorColumns (renamed row))
    (statement driver (statementValues driver values)).map some

/-- The columns of `mentorship_assignments` other than the key. -/
abbrev Assignments := Store Int String Cell

def mentorValues (row : SourceRow) (now : Instant) : SourceRow :=
  [("mm_mentor", getCell row "MM_Mentor"), ("mentor_email", getCell row "MentorEmail"),
    ("supermentor", getCell row "SuperMentor"),
    ("supermentor_email", getCell row "SuperMentorEmail"), ("ipbc_instructor", .null),
    ("ipbc_instructor_email", .null), ("synced_at", .timestamp now)]

def assignmentStatement (driver : Driver) (now : Instant) (uid : Int) (row : SourceRow) :
    Except SyncError (Int × MirrorChange) :=
  match driver.store "user_id" (.int uid) with
  | some (.int userId) =>
    let values := mentorValues row now
    if values.all fun (k, v) => (driver.store k v).isSome then
      .ok (userId, fun c => (get? c values).bind (driver.store c))
    else .error .dataError
  | _ => .error .dataError

def namesMentor (row : SourceRow) : Bool :=
  (getCell row "MM_Mentor").truthy || (getCell row "SuperMentor").truthy

/-- What `sync_ipbc_students` does with the mentors of a row that it does not skip. -/
def ipbcMentorStatement (driver : Driver) (now : Instant) (row : SourceRow) :
    Except SyncError (Option (Int × MirrorChange)) :=
  match ipbcUserId driver row with
  | none => .ok none
  | some uid =>
    if namesMentor row then (assignmentStatement driver now uid row).map some else .ok none

/-- The two tables that `sync_ipbc_students` writes. -/
structure MirrorTables where
  mirror : Mirror
  assignments : Assignments

def upsertSome (store : Store Int String Cell) : Option (Int × MirrorChange) →
    Store Int String Cell
  | none => store
  | some (userId, change) => upsert blankRow store userId change

def ipbcLoop (driver : Driver) (now : Instant) :
    List SourceRow → MirrorTables → Except SyncError MirrorTables
  | [], tables => .ok tables
  | row :: rows, tables => do
    let student ← ipbcStatement driver row
    let mentors ← ipbcMentorStatement driver now row
    ipbcLoop driver now rows
      ⟨upsertSome tables.mirror student, upsertSome tables.assignments mentors⟩

/-- `sync_ipbc_students`, less its counts. -/
def syncIpbcStudents (driver : Driver) (now : Instant)
    (fetched : Except String (List SourceRow)) (tables : MirrorTables) :
    Except SyncError MirrorTables :=
  match checkError fetched with
  | .error _ => .ok tables
  | .ok rows => ipbcLoop driver now rows tables

theorem syncIpbcStudents_ok : syncIpbcStudents driver now (.ok rows) tables =
    ipbcLoop driver now rows tables := rfl

/-- `row.get("UserID") or row.get("user_id") or row.get("StudentID")`. -/
def mentorshipUid (row : SourceRow) : Cell :=
  if (getCell row "UserID").truthy then getCell row "UserID"
  else if (getCell row "user_id").truthy then getCell row "user_id"
  else getCell row "StudentID"

def mentorshipStatement (driver : Driver) (now : Instant) (row : SourceRow) :
    Except SyncError (Option (Int × MirrorChange)) :=
  let uid := mentorshipUid row
  if !uid.truthy then .ok none
  else
    match driver.int uid with
    | none => .error .valueError
    | some uid => (assignmentStatement driver now uid row).map some

def syncMentorshipAssignments (driver : Driver) (now : Instant)
    (fetched : Except String (List SourceRow)) (assignments : Assignments) :
    Except SyncError (Assignments × Nat) :=
  match checkError fetched with
  | .error _ => .ok (assignments, 0)
  | .ok rows => syncLoop (mentorshipStatement driver now) rows assignments 0

theorem syncMentorshipAssignments_ok : syncMentorshipAssignments driver now (.ok rows) assignments =
    syncLoop (mentorshipStatement driver now) rows assignments 0 := rfl

def collect (prepare : SourceRow → Except SyncError (Option (Int × MirrorChange))) :
    List SourceRow → Except SyncError (List (Int × MirrorChange))
  | [] => .ok []
  | row :: rows => do
    let entry ← prepare row
    let rest ← collect prepare rows
    .ok (entry.toList ++ rest)

section
variable {prepare : SourceRow → Except SyncError (Option (Int × MirrorChange))}

theorem collect_nil : collect prepare [] = .ok [] := rfl

theorem collect_cons_eq_ok : collect prepare (row :: rows) = .ok changes ↔
    ∃ entry rest, prepare row = .ok entry ∧ collect prepare rows = .ok rest ∧
      changes = entry.toList ++ rest := by
  rw [collect, bind_eq_ok]
  constructor
  · rintro ⟨entry, hentry, h⟩
    obtain ⟨rest, hrest, h⟩ := bind_eq_ok.1 h
    cases h
    exact ⟨entry, rest, hentry, hrest, rfl⟩
  · rintro ⟨entry, rest, hentry, hrest, rfl⟩
    exact ⟨entry, hentry, bind_eq_ok.2 ⟨rest, hrest, rfl⟩⟩

/-- A sync is the batch of its statements. -/
theorem syncLoop_eq_ok : syncLoop prepare rows store count = .ok (store', count') ↔
    ∃ changes, collect prepare rows = .ok changes ∧ store' = batch blankRow store changes ∧
      count' = count + changes.length := by
  induction rows generalizing store count with
  | nil =>
    rw [syncLoop, collect_nil]
    constructor
    · rintro ⟨⟩
      exact ⟨[], rfl, rfl, rfl⟩
    · rintro ⟨changes, ⟨⟩, rfl, rfl⟩
      rfl
  | cons row rows ih =>
    rw [syncLoop, bind_eq_ok]
    simp only [collect_cons_eq_ok]
    constructor
    · rintro ⟨entry, hentry, h⟩
      cases entry with
      | none =>
        obtain ⟨changes, hcollect, hstore, hcount⟩ := ih.1 h
        exact ⟨changes, ⟨none, changes, hentry, hcollect, rfl⟩, hstore, hcount⟩
      | some statement =>
        obtain ⟨changes, hcollect, hstore, hcount⟩ := ih.1 h
        refine ⟨statement :: changes, ⟨some statement, changes, hentry, hcollect, rfl⟩, hstore, ?_⟩
        rw [hcount, List.length_cons]
        omega
    · rintro ⟨changes, ⟨entry, rest, hentry, hcollect, rfl⟩, hstore, hcount⟩
      refine ⟨entry, hentry, ?_⟩
      cases entry with
      | none => exact ih.2 ⟨rest, hcollect, hstore, hcount⟩
      | some statement =>
        refine ih.2 ⟨rest, hcollect, hstore, ?_⟩
        rw [hcount, Option.toList_some, List.singleton_append, List.length_cons]
        omega

theorem mem_collect (h : collect prepare rows = .ok changes) (hmem : entry ∈ changes) :
    ∃ row ∈ rows, prepare row = .ok (some entry) := by
  induction rows generalizing changes with
  | nil =>
    cases h
    cases hmem
  | cons row rows ih =>
    obtain ⟨first, rest, hfirst, hrest, rfl⟩ := collect_cons_eq_ok.1 h
    rcases List.mem_append.1 hmem with hmem | hmem
    · rw [Option.mem_toList] at hmem
      exact ⟨row, .head _, hmem ▸ hfirst⟩
    · obtain ⟨row', hrow', hprepare⟩ := ih hrest hmem
      exact ⟨row', .tail _ hrow', hprepare⟩

theorem collect_append (h : collect prepare (rows ++ rows') = .ok changes) :
    ∃ before after, collect prepare rows = .ok before ∧ collect prepare rows' = .ok after ∧
      changes = before ++ after := by
  induction rows generalizing changes with
  | nil => exact ⟨[], changes, rfl, h, rfl⟩
  | cons row rows ih =>
    rw [List.cons_append] at h
    obtain ⟨entry, rest, hentry, hrest, rfl⟩ := collect_cons_eq_ok.1 h
    obtain ⟨before, after, hbefore, hafter, rfl⟩ := ih hrest
    refine ⟨entry.toList ++ before, after, ?_, hafter, (List.append_assoc _ _ _).symm⟩
    exact collect_cons_eq_ok.2 ⟨entry, before, hentry, hbefore, rfl⟩

theorem mem_collect_of_row (h : collect prepare rows = .ok changes) (hrow : row ∈ rows)
    (hprepare : prepare row = .ok (some entry)) : entry ∈ changes := by
  obtain ⟨before, after, rfl⟩ := List.append_of_mem hrow
  obtain ⟨-, rest, -, hrest, rfl⟩ := collect_append h
  obtain ⟨entry', -, hentry', -, rfl⟩ := collect_cons_eq_ok.1 hrest
  rw [hprepare] at hentry'
  cases hentry'
  exact List.mem_append_right _ (.head _)

end

/-- The loop over the IPBC rows is the batch of the students and the batch of the mentors. -/
theorem ipbcLoop_eq_ok : ipbcLoop driver now rows tables = .ok tables' ↔
    ∃ students mentors, collect (ipbcStatement driver) rows = .ok students ∧
      collect (ipbcMentorStatement driver now) rows = .ok mentors ∧
      tables' = ⟨batch blankRow tables.mirror students,
        batch blankRow tables.assignments mentors⟩ := by
  induction rows generalizing tables with
  | nil =>
    rw [ipbcLoop]
    constructor
    · rintro ⟨⟩
      exact ⟨[], [], rfl, rfl, rfl⟩
    · rintro ⟨students, mentors, ⟨⟩, ⟨⟩, rfl⟩
      rfl
  | cons row rows ih =>
    have hsome (store : Store Int String Cell) (entry : Option (Int × MirrorChange))
        (rest : List (Int × MirrorChange)) :
        batch blankRow (upsertSome store entry) rest =
          batch blankRow store (entry.toList ++ rest) := by
      cases entry <;> rfl
    rw [ipbcLoop, bind_eq_ok]
    simp only [bind_eq_ok, ih, collect_cons_eq_ok, hsome]
    constructor
    · rintro ⟨student, hstudent, mentor, hmentor, students, mentors, hstudents, hmentors, rfl⟩
      exact ⟨_, _, ⟨student, students, hstudent, hstudents, rfl⟩,
        ⟨mentor, mentors, hmentor, hmentors, rfl⟩, rfl⟩
    · rintro ⟨-, -, ⟨student, students, hstudent, hstudents, rfl⟩,
        ⟨mentor, mentors, hmentor, hmentors, rfl⟩, rfl⟩
      exact ⟨student, hstudent, mentor, hmentor, students, mentors, hstudents, hmentors, rfl⟩

/-- What a statement writes of a value that the source carries. -/
def written (driver : Driver) (col : String) (val : Cell) : Cell :=
  match coerce driver col val with
  | .null => (get? col defaults).getD .null
  | val => val

theorem get?_map_values (f : String → Cell → Cell) (values : SourceRow) (c : String) :
    get? c (values.map fun (k, v) => (k, f k v)) = (get? c values).map (f c) := by
  induction values with
  | nil => rfl
  | cons entry values ih =>
    rw [List.map_cons, get?, get?]
    split_ifs with hk
    · rw [hk]
      rfl
    · exact ih

theorem get?_filter_keys (p : String → Bool) (values : SourceRow) (c : String) :
    get? c (values.filter fun (k, _) => p k) = if p c then get? c values else none := by
  induction values with
  | nil => simp
  | cons entry values ih =>
    rw [List.filter_cons]
    by_cases hk : entry.1 = c
    · subst hk
      split_ifs with hp
      · rw [get?, if_pos rfl, get?, if_pos rfl]
      · rw [ih, if_neg hp]
    · have hskip : get? c (entry :: values) = get? c values := if_neg hk
      rw [hskip, ← ih]
      split_ifs with hp
      · exact if_neg hk
      · rfl

theorem get?_setDefault (values : SourceRow) (k : String) (d : Cell) (c : String) :
    get? c (setDefault values (k, d)) = (get? c values).or (if k = c then some d else none) := by
  rw [setDefault]
  cases hvalues : get? k values with
  | some v =>
    split_ifs with hk
    · subst hk
      rw [hvalues, Option.some_or]
    · rw [Option.or_none]
  | none =>
    split_ifs with hk
    · subst hk
      rw [hvalues, Option.none_or, get?_setItem_self]
    · rw [get?_setItem_of_ne (Ne.symm hk), Option.or_none]

/-- `None` gives way to the value. -/
def orDefault (d : Cell) : Cell → Cell
  | .null => d
  | val => val

theorem get?_replaceNull (values : SourceRow) (k : String) (d : Cell) (c : String) :
    get? c (replaceNull values (k, d)) =
      (get? c values).map (fun v => if k = c then orDefault d v else v) := by
  rw [replaceNull]
  by_cases hk : k = c
  · subst hk
    cases hvalues : get? k values with
    | none => rw [hvalues]; rfl
    | some v =>
      cases v with
      | null => rw [get?_setItem_self, Option.map_some, if_pos rfl]; rfl
      | _ => rw [hvalues, Option.map_some, if_pos rfl]; rfl
  · simp only [if_neg hk, Option.map_id']
    split
    · rw [get?_setItem_of_ne (Ne.symm hk)]
    · rfl

theorem get?_foldl_setDefault (entries values : SourceRow) (c : String) :
    get? c (entries.foldl setDefault values) = (get? c values).or (get? c entries) := by
  induction entries generalizing values with
  | nil => rw [List.foldl_nil, get?, Option.or_none]
  | cons entry entries ih =>
    obtain ⟨k, d⟩ := entry
    rw [List.foldl_cons, ih, get?_setDefault, Option.or_assoc, get?]
    split_ifs
    · rw [Option.some_or]
    · rw [Option.none_or]

theorem orDefault_null : orDefault .null = id := by
  funext val
  cases val <;> rfl

theorem get?_foldl_replaceNull {entries : SourceRow} (h : (entries.map Prod.fst).Nodup)
    (values : SourceRow) (c : String) : get? c (entries.foldl replaceNull values) =
      (get? c values).map (orDefault ((get? c entries).getD .null)) := by
  induction entries generalizing values with
  | nil =>
    rw [List.foldl_nil, get?, Option.getD_none, orDefault_null, Option.map_id, id]
  | cons entry entries ih =>
    obtain ⟨k, d⟩ := entry
    rw [List.map_cons, List.nodup_cons] at h
    rw [List.foldl_cons, ih h.2, get?_replaceNull, Option.map_map, get?]
    congr 1
    funext val
    rw [Function.comp_apply]
    split_ifs with hk
    · subst hk
      rw [Narratives.get?_absent h.1, Option.getD_none, Option.getD_some, orDefault_null, id]
    · rfl

/-- The values of a statement: those that the row carries, coerced, and the defaults of the three
columns where it carries nothing. -/
theorem get?_statementValues (driver : Driver) (values : SourceRow) (c : String) :
    get? c (statementValues driver values) =
      ((get? c values).map (written driver c)).or (get? c defaults) := by
  have hkeys : (defaults.map Prod.fst).Nodup := by decide
  rw [statementValues, get?_foldl_replaceNull hkeys, get?_foldl_setDefault,
    get?_map_values (coerce driver)]
  cases get? c values with
  | some val =>
    rw [Option.map_some, Option.some_or, Option.map_some, Option.map_some, Option.some_or, written]
    cases coerce driver c val <;> rfl
  | none =>
    rw [Option.map_none, Option.none_or, Option.map_none, Option.none_or]
    cases hdefault : get? c defaults with
    | none => rfl
    | some d =>
      rw [Option.map_some, Option.getD_some, Option.some_inj]
      cases d <;> rfl

/-- What a statement sets of the row: every column that the row carries and the three defaults. -/
structure Sets (driver : Driver) (carried : SourceRow) (change : MirrorChange) : Prop where
  carries : ∀ c ∈ columnNames, c ≠ "UserID" → ∀ val, get? c carried = some val →
    ∃ stored, driver.store c (written driver c val) = some stored ∧ change c = some stored
  defaults : ∀ c ∈ columnNames, c ≠ "UserID" → get? c carried = none →
    change c = get? c MirrorSync.defaults
  others : ∀ c, c ∉ columnNames ∨ c = "UserID" → change c = none

theorem defaults_columns (h : get? c defaults = some d) : c ∈ columnNames ∧ c ≠ "UserID" := by
  have hkeys : ∀ k ∈ defaults.map Prod.fst, k ∈ columnNames ∧ k ≠ "UserID" := by decide
  apply hkeys
  by_contra habsent
  rw [Narratives.get?_absent habsent] at h
  cases h

def storedId (driver : Driver) (values : SourceRow) : Option Int :=
  match driver.store "UserID" (getCell values "UserID") with
  | some (.int userId) => some userId
  | _ => none

theorem all_stored {driver : Driver} {values : SourceRow}
    (h : (values.all fun (k, v) => (driver.store k v).isSome) = true)
    (hc : get? c values = some val) : ∃ stored, driver.store c val = some stored := by
  rw [List.all_eq_true] at h
  have hmem : (c, val) ∈ values := by
    induction values with
    | nil => cases hc
    | cons entry values ih =>
      rw [get?] at hc
      split_ifs at hc with hk
      · cases hc
        subst hk
        exact .head _
      · exact .tail _ (ih (fun entry hentry => h entry (.tail _ hentry)) hc)
  exact Option.isSome_iff_exists.1 (h _ hmem)

theorem statement_sets {driver : Driver} {values : SourceRow}
    (hcolumns : ∀ c ∉ columnNames, get? c values = none)
    (h : statement driver (statementValues driver values) = .ok (userId, change)) :
    storedId driver (statementValues driver values) = some userId ∧ Sets driver values change := by
  rw [statement] at h
  rw [storedId]
  split at h
  · rename_i stored hstored
    split_ifs at h with hall
    cases h
    refine ⟨rfl, ?_, ?_, ?_⟩
    · intro c hc huser val hval
      have hget : get? c (statementValues driver values) = some (written driver c val) := by
        rw [get?_statementValues, hval]
        rfl
      obtain ⟨stored, hstored⟩ := all_stored hall hget
      refine ⟨stored, hstored, ?_⟩
      simp only [if_neg huser, hget, Option.bind_some, hstored]
    · intro c hc huser hnone
      have hget : get? c (statementValues driver values) = get? c MirrorSync.defaults := by
        rw [get?_statementValues, hnone]
        rfl
      simp only [if_neg huser, hget]
      cases hdefault : get? c MirrorSync.defaults with
      | none => rfl
      | some d => exact driver.store_default c d hdefault
    · intro c hc
      by_cases huser : c = "UserID"
      · simp only [if_pos huser]
      · have hout := hc.resolve_right huser
        have hdefault : get? c MirrorSync.defaults = none := by
          cases hdefault : get? c MirrorSync.defaults with
          | none => rfl
          | some d => exact absurd (defaults_columns hdefault).1 hout
        simp only [if_neg huser, get?_statementValues, hcolumns c hout, hdefault]
        rfl
  · cases h

/-- The row as the mirror sees it: the source's columns that the mirror has. -/
def mssqlView (row : SourceRow) : SourceRow := mirrorColumns row

def ipbcView (row : SourceRow) : SourceRow := mirrorColumns (renamed row)

def mssqlId (driver : Driver) (row : SourceRow) : Option Int :=
  if (getCell (mssqlView row) "UserID").truthy then
    storedId driver (statementValues driver (mssqlView row))
  else none

def ipbcId (driver : Driver) (row : SourceRow) : Option Int :=
  (ipbcUserId driver row).bind fun uid =>
    storedId driver (statementValues driver (setItem "UserID" (.int uid) (ipbcView row)))

/-- What a sync makes of each row: nothing of a row about nobody, and of another the statement
that sets what the row carries. -/
structure Prepares (driver : Driver) (rowId : SourceRow → Option Int)
    (view : SourceRow → SourceRow)
    (prepare : SourceRow → Except SyncError (Option (Int × MirrorChange))) : Prop where
  skipped : ∀ row, prepare row = .ok none → rowId row = none
  applied : ∀ row userId change, prepare row = .ok (some (userId, change)) →
    rowId row = some userId ∧ Sets driver (view row) change

theorem mirrorColumns_others (row : SourceRow) (c : String) (h : c ∉ columnNames) :
    get? c (mirrorColumns row) = none := by
  rw [mirrorColumns, get?_filter_keys (fun k => decide (k ∈ columnNames)), decide_eq_false h]
  rfl

theorem mssql_prepares (driver : Driver) :
    Prepares driver (mssqlId driver) mssqlView (mssqlStatement driver) := by
  constructor
  · intro row h
    rw [mssqlStatement] at h
    rw [mssqlId, mssqlView]
    split_ifs at h with htruthy
    · rw [Bool.not_eq_true'] at htruthy
      rw [htruthy]
      rfl
    · obtain ⟨_, -, hsome⟩ := map_eq_ok.1 h
      cases hsome
  · intro row userId change h
    rw [mssqlStatement] at h
    split_ifs at h with htruthy
    · cases h
    · rw [Bool.not_eq_true', Bool.not_eq_false] at htruthy
      obtain ⟨entry, hstatement, hentry⟩ := map_eq_ok.1 h
      cases hentry
      rw [mssqlId, mssqlView, htruthy, if_pos rfl]
      exact statement_sets (mirrorColumns_others row) hstatement

/-- The id that the IPBC sync puts in is in no other column. -/
theorem sets_of_setItem (h : Sets driver (setItem "UserID" uid values) change) :
    Sets driver values change := by
  refine ⟨?_, ?_, h.others⟩
  · intro c hc huser val hval
    exact h.carries c hc huser val (by rw [get?_setItem_of_ne huser, hval])
  · intro c hc huser hnone
    exact h.defaults c hc huser (by rw [get?_setItem_of_ne huser, hnone])

theorem ipbc_prepares (driver : Driver) :
    Prepares driver (ipbcId driver) ipbcView (ipbcStatement driver) := by
  constructor
  · intro row h
    rw [ipbcStatement] at h
    rw [ipbcId]
    cases huid : ipbcUserId driver row with
    | none => rfl
    | some uid =>
      simp only [huid] at h
      obtain ⟨_, -, hsome⟩ := map_eq_ok.1 h
      cases hsome
  · intro row userId change h
    rw [ipbcStatement] at h
    rw [ipbcId]
    cases huid : ipbcUserId driver row with
    | none =>
      simp only [huid] at h
      cases h
    | some uid =>
      simp only [huid] at h
      obtain ⟨entry, hstatement, hentry⟩ := map_eq_ok.1 h
      cases hentry
      have hcolumns : ∀ c ∉ columnNames,
          get? c (setItem "UserID" (.int uid) (ipbcView row)) = none := by
        intro c hc
        have huser : c ≠ "UserID" := fun huser => hc (huser ▸ by decide)
        rw [get?_setItem_of_ne huser]
        exact mirrorColumns_others _ c hc
      obtain ⟨hid, hsets⟩ := statement_sets hcolumns hstatement
      exact ⟨hid, sets_of_setItem hsets⟩

end MirrorSync
end StudentSuccess
