import StudentSuccess.MirrorFrame

namespace StudentSuccess
namespace MirrorSync
set_option autoImplicit true
open Py Upserts

/-- The columns of an assignment that the source gives, each with its name there. -/
def mentorColumns : List (String × String) :=
  [("mm_mentor", "MM_Mentor"), ("mentor_email", "MentorEmail"), ("supermentor", "SuperMentor"),
    ("supermentor_email", "SuperMentorEmail")]

/-- What the assignments say of a user; a user without a row has no mentor. -/
def mentorOf (assignments : Assignments) (userId : Int) (c : String) : Cell :=
  ((assignments userId).getD blankRow) c

/-- A row whose id is there and is no number. -/
def ipbcMalformed (driver : Driver) (row : SourceRow) : Bool :=
  (getCell row "UserID").truthy && (driver.int (getCell row "UserID")).isNone

def mentorshipMalformed (driver : Driver) (row : SourceRow) : Bool :=
  (mentorshipUid row).truthy && (driver.int (mentorshipUid row)).isNone

/-- The key that the database makes of an id. -/
def assignmentKey (driver : Driver) (uid : Int) : Option Int :=
  match driver.store "user_id" (.int uid) with
  | some (.int userId) => some userId
  | _ => none

/-- The user whose assignment the row gives. -/
def mentorshipKey (driver : Driver) (row : SourceRow) : Option Int :=
  if (mentorshipUid row).truthy then (driver.int (mentorshipUid row)).bind (assignmentKey driver)
  else none

/-- The user whose assignment `sync_ipbc_students` takes from the row: only one that names a
mentor or a supermentor. -/
def ipbcMentorKey (driver : Driver) (row : SourceRow) : Option Int :=
  if namesMentor row then (ipbcUserId driver row).bind (assignmentKey driver) else none

/-- What the last of the user's rows says, or what was there if there is none. -/
def lastMentor (driver : Driver) (key : SourceRow → Option Int) (rows : List SourceRow)
    (before : Assignments) (userId : Int) (column : String × String) : Cell :=
  (((rows.filter fun row => key row = some userId).getLast?).bind fun row =>
    driver.store column.1 (getCell row column.2)).getD (mentorOf before userId column.1)

/-- The two syncs of the same rows: a malformed id hinders no other row, and both leave every
user with the assignment of the user's last row, a mentor that the source cleared included. -/
structure MentorsConsistent (driver : Driver) (now now' : Instant) (rows : List SourceRow)
    (tables : MirrorTables) : Prop where
  ipbcRobust : ∀ tables',
    syncIpbcStudents driver now (.ok (rows.filter fun row => !ipbcMalformed driver row)) tables =
      .ok tables' →
    syncIpbcStudents driver now (.ok rows) tables = .ok tables'
  mentorshipRobust : ∀ assignments' count,
    syncMentorshipAssignments driver now'
      (.ok (rows.filter fun row => !mentorshipMalformed driver row)) tables.assignments =
      .ok (assignments', count) →
    syncMentorshipAssignments driver now' (.ok rows) tables.assignments =
      .ok (assignments', count)
  agree : ∀ tables' assignments' count,
    syncIpbcStudents driver now (.ok rows) tables = .ok tables' →
    syncMentorshipAssignments driver now' (.ok rows) tables.assignments =
      .ok (assignments', count) →
    ∀ userId, ∀ column ∈ mentorColumns,
      mentorOf tables'.assignments userId column.1 = mentorOf assignments' userId column.1
  current : ∀ tables' assignments' count,
    syncIpbcStudents driver now (.ok rows) tables = .ok tables' →
    syncMentorshipAssignments driver now' (.ok rows) tables.assignments =
      .ok (assignments', count) →
    ∀ userId row, (rows.filter fun row => mentorshipKey driver row = some userId).getLast? =
      some row → ∀ column ∈ mentorColumns,
        driver.store column.1 (getCell row column.2) =
            some (mentorOf tables'.assignments userId column.1) ∧
          driver.store column.1 (getCell row column.2) =
            some (mentorOf assignments' userId column.1)

def MentorsTaken (driver : Driver) (now : Instant) (rows : List SourceRow) : Prop :=
  ∀ row ∈ rows, ∀ uid, (mentorshipUid row).truthy = true →
    driver.int (mentorshipUid row) = some uid →
    Returns (assignmentStatement driver now uid row)

def StudentsTaken (driver : Driver) (now : Instant) (rows : List SourceRow) : Prop :=
  ∀ row ∈ rows, Returns (ipbcStatement driver row) ∧ Returns (ipbcMentorStatement driver now row)

section
variable {driver : Driver} {rows : List SourceRow}
  {prepare : SourceRow → Except SyncError (Option (Int × MirrorChange))}

theorem assignmentStatement_sets (h : assignmentStatement driver now uid row = .ok (userId, change))
    (hcolumn : column ∈ mentorColumns) : assignmentKey driver uid = some userId ∧
      change column.1 = driver.store column.1 (getCell row column.2) ∧
      (driver.store column.1 (getCell row column.2)).isSome = true := by
  rw [assignmentStatement] at h
  split at h
  · rename_i stored hid
    simp only at h
    split_ifs at h with hall
    cases h
    have hget : get? column.1 (mentorValues row now) = some (getCell row column.2) := by
      simp only [mentorColumns, List.mem_cons, List.not_mem_nil, or_false] at hcolumn
      rcases hcolumn with rfl | rfl | rfl | rfl
      · rfl
      · rfl
      · rfl
      · rfl
    obtain ⟨stored, hstored⟩ := all_stored hall hget
    refine ⟨by rw [assignmentKey, hid], ?_, ?_⟩
    · simp only [hget, Option.bind_some]
    · rw [hstored]
      rfl
  · cases h

theorem value_of_key {value : SourceRow → Option Cell} {key : SourceRow → Option Int}
    (hskipped : ∀ row, prepare row = .ok none → key row = none)
    (happlied : ∀ row userId change, prepare row = .ok (some (userId, change)) →
      key row = some userId ∧ change c = value row ∧ (value row).isSome = true)
    (h : collect prepare rows = .ok changes) (hrow : row ∈ rows) (hkey : key row = some userId) :
    (value row).isSome = true := by
  obtain ⟨entry, hentry⟩ := collect_row_ok h hrow
  cases entry with
  | none =>
    rw [hskipped row hentry] at hkey
    cases hkey
  | some statement => exact (happlied row statement.1 statement.2 hentry).2.2

/-- A sync that writes whole assignments leaves what the user's last row says. -/
theorem lastSet_collect {value : SourceRow → Option Cell} {key : SourceRow → Option Int}
    (hskipped : ∀ row, prepare row = .ok none → key row = none)
    (happlied : ∀ row userId change, prepare row = .ok (some (userId, change)) →
      key row = some userId ∧ change c = value row ∧ (value row).isSome = true)
    (h : collect prepare rows = .ok changes) (userId : Int) :
    lastSet userId c changes =
      ((rows.filter fun row => key row = some userId).getLast?).bind value := by
  induction rows generalizing changes with
  | nil =>
    cases h
    rfl
  | cons row rows ih =>
    obtain ⟨entry, rest, hentry, hrest, rfl⟩ := collect_cons_eq_ok.1 h
    cases entry with
    | none =>
      have hkey : ¬ key row = some userId := by
        rw [hskipped row hentry]
        simp
      rw [List.filter_cons_of_neg (by simpa using hkey)]
      exact ih hrest
    | some statement =>
      obtain ⟨userId', change⟩ := statement
      obtain ⟨hkey, hchange, hsome⟩ := happlied row userId' change hentry
      rw [Option.toList_some, List.singleton_append, lastSet, ih hrest]
      by_cases huser : userId' = userId
      · subst huser
        rw [List.filter_cons_of_pos (by simpa using hkey), if_pos rfl, List.getLast?_cons]
        cases hlast : (rows.filter fun row => key row = some userId').getLast? with
        | none => rw [Option.bind_none, Option.none_or, hchange]; rfl
        | some row' =>
          obtain ⟨hrow', hkey'⟩ := List.mem_filter.1 (List.mem_of_getLast? hlast)
          have hsome' := value_of_key hskipped happlied hrest hrow' (of_decide_eq_true hkey')
          rw [Option.bind_some, Option.or_of_isSome hsome']
          rfl
      · have hother : ¬ key row = some userId := by
          rw [hkey, Option.some_inj]
          exact huser
        rw [List.filter_cons_of_neg (by simpa using hother), if_neg huser, Option.or_none]

theorem collect_returns_iff :
    Returns (collect prepare rows) ↔ ∀ row ∈ rows, Returns (prepare row) := by
  constructor
  · rintro ⟨changes, h⟩ row hrow
    exact collect_row_ok h hrow
  · intro h
    induction rows with
    | nil => exact returns_ok _
    | cons row rows ih =>
      rw [List.forall_mem_cons] at h
      obtain ⟨entry, hentry⟩ := h.1
      obtain ⟨rest, hrest⟩ := ih h.2
      exact ⟨_, collect_cons_eq_ok.2 ⟨entry, rest, hentry, hrest, rfl⟩⟩

theorem collect_filter {p : SourceRow → Bool}
    (h : ∀ row, p row = false → prepare row = .ok none) (rows : List SourceRow) :
    collect prepare (rows.filter p) = collect prepare rows := by
  induction rows with
  | nil => rfl
  | cons row rows ih =>
    cases hp : p row with
    | true =>
      rw [List.filter_cons_of_pos hp, collect, collect, ih]
    | false =>
      rw [List.filter_cons_of_neg (by simp [hp]), ih, collect, h row hp]
      cases collect prepare rows <;> rfl

theorem mentorOf_batch {key : SourceRow → Option Int} {column : String × String}
    (hskipped : ∀ row, prepare row = .ok none → key row = none)
    (happlied : ∀ row userId change, prepare row = .ok (some (userId, change)) →
      key row = some userId ∧ change column.1 = driver.store column.1 (getCell row column.2) ∧
        (driver.store column.1 (getCell row column.2)).isSome = true)
    (h : collect prepare rows = .ok changes) (before : Assignments) (userId : Int) :
    mentorOf (batch blankRow before changes) userId column.1 =
      lastMentor driver key rows before userId column := by
  have hlast := lastSet_collect hskipped happlied h userId
  rw [lastMentor, ← hlast, mentorOf]
  by_cases hmem : userId ∈ changes.map Prod.fst
  · rw [batch_present hmem]
    rfl
  · rw [batch_absent hmem, lastSet_absent hmem]
    rfl

theorem ipbcMentor_skipped (h : ipbcMentorStatement driver now row = .ok none) :
    ipbcMentorKey driver row = none := by
  rw [ipbcMentorStatement] at h
  rw [ipbcMentorKey]
  cases huid : ipbcUserId driver row with
  | none => simp
  | some uid =>
    simp only [huid] at h
    split_ifs at h with hnames
    · obtain ⟨_, -, hsome⟩ := map_eq_ok.1 h
      cases hsome
    · rw [if_neg hnames]

theorem ipbcMentor_applied (hcolumn : column ∈ mentorColumns)
    (h : ipbcMentorStatement driver now row = .ok (some (userId, change))) :
    ipbcMentorKey driver row = some userId ∧
      change column.1 = driver.store column.1 (getCell row column.2) ∧
      (driver.store column.1 (getCell row column.2)).isSome = true := by
  rw [ipbcMentorStatement] at h
  rw [ipbcMentorKey]
  cases huid : ipbcUserId driver row with
  | none =>
    simp only [huid] at h
    cases h
  | some uid =>
    simp only [huid] at h
    split_ifs at h with hnames
    · obtain ⟨entry, hstatement, hentry⟩ := map_eq_ok.1 h
      cases hentry
      rw [if_pos hnames]
      exact assignmentStatement_sets hstatement hcolumn
    · cases h

theorem mentorship_skipped (h : mentorshipStatement driver now row = .ok none) :
    mentorshipKey driver row = none := by
  rw [mentorshipStatement] at h
  rw [mentorshipKey]
  cases htruthy : (mentorshipUid row).truthy with
  | false => rfl
  | true =>
    simp only [htruthy, Bool.not_true, Bool.false_eq_true, if_false] at h
    split at h
    · cases h
    · obtain ⟨_, -, hsome⟩ := map_eq_ok.1 h
      cases hsome

theorem mentorship_applied (hcolumn : column ∈ mentorColumns)
    (h : mentorshipStatement driver now row = .ok (some (userId, change))) :
    mentorshipKey driver row = some userId ∧
      change column.1 = driver.store column.1 (getCell row column.2) ∧
      (driver.store column.1 (getCell row column.2)).isSome = true := by
  rw [mentorshipStatement] at h
  rw [mentorshipKey]
  cases htruthy : (mentorshipUid row).truthy with
  | false =>
    simp only [htruthy, Bool.not_false, if_true] at h
    cases h
  | true =>
    simp only [htruthy, Bool.not_true, Bool.false_eq_true, if_false] at h
    cases huid : driver.int (mentorshipUid row) with
    | none =>
      simp only [huid] at h
      cases h
    | some uid =>
      simp only [huid] at h
      obtain ⟨entry, hstatement, hentry⟩ := map_eq_ok.1 h
      cases hentry
      rw [if_pos rfl]
      exact assignmentStatement_sets hstatement hcolumn

/-- `sync_mentorship_assignments` stops at a malformed id and at what the database refuses. -/
theorem mentorshipStatement_returns_iff : Returns (mentorshipStatement driver now row) ↔
    mentorshipMalformed driver row = false ∧
      ∀ uid, (mentorshipUid row).truthy = true → driver.int (mentorshipUid row) = some uid →
        Returns (assignmentStatement driver now uid row) := by
  rw [mentorshipStatement, mentorshipMalformed]
  cases htruthy : (mentorshipUid row).truthy with
  | false => simp
  | true =>
    cases huid : driver.int (mentorshipUid row) with
    | none => simp
    | some uid => simp

theorem ipbcMalformed_skipped (now : Instant) (h : (!ipbcMalformed driver row) = false) :
    ipbcStatement driver row = .ok none ∧ ipbcMentorStatement driver now row = .ok none := by
  rw [Bool.not_eq_false', ipbcMalformed, Bool.and_eq_true, Option.isNone_iff_eq_none] at h
  have huid : ipbcUserId driver row = none := by
    rw [ipbcUserId, h.1]
    exact h.2
  rw [ipbcStatement, ipbcMentorStatement, huid]
  exact ⟨rfl, rfl⟩

theorem ipbc_robust (driver : Driver) (now : Instant) (rows : List SourceRow)
    (tables tables' : MirrorTables)
    (h : syncIpbcStudents driver now (.ok (rows.filter fun row => !ipbcMalformed driver row))
      tables = .ok tables') : syncIpbcStudents driver now (.ok rows) tables = .ok tables' := by
  rw [syncIpbcStudents_ok, ipbcLoop_eq_ok] at h ⊢
  rw [collect_filter (fun row hrow => (ipbcMalformed_skipped now hrow).1),
    collect_filter (fun row hrow => (ipbcMalformed_skipped now hrow).2)] at h
  exact h

theorem syncMentorship_eq_ok :
    syncMentorshipAssignments driver now (.ok rows) assignments = .ok (assignments', count) ↔
      ∃ changes, collect (mentorshipStatement driver now) rows = .ok changes ∧
        assignments' = batch blankRow assignments changes ∧ count = changes.length := by
  rw [syncMentorshipAssignments_ok, syncLoop_eq_ok]
  simp only [Nat.zero_add]

theorem ipbc_returns_iff : Returns (syncIpbcStudents driver now (.ok rows) tables) ↔
    StudentsTaken driver now rows := by
  constructor
  · rintro ⟨tables', h⟩ row hrow
    rw [syncIpbcStudents_ok, ipbcLoop_eq_ok] at h
    obtain ⟨students, mentors, hstudents, hmentors, -⟩ := h
    exact ⟨collect_row_ok hstudents hrow, collect_row_ok hmentors hrow⟩
  · intro h
    obtain ⟨students, hstudents⟩ := collect_returns_iff.2 fun row hrow => (h row hrow).1
    obtain ⟨mentors, hmentors⟩ := collect_returns_iff.2 fun row hrow => (h row hrow).2
    exact ⟨_, ipbcLoop_eq_ok.2 ⟨students, mentors, hstudents, hmentors, rfl⟩⟩

theorem mentorship_returns_iff :
    Returns (syncMentorshipAssignments driver now (.ok rows) assignments) ↔
      (∀ row ∈ rows, mentorshipMalformed driver row = false) ∧ MentorsTaken driver now rows := by
  have hcollect : Returns (syncMentorshipAssignments driver now (.ok rows) assignments) ↔
      Returns (collect (mentorshipStatement driver now) rows) := by
    constructor
    · rintro ⟨⟨assignments', count⟩, h⟩
      obtain ⟨changes, hchanges, -⟩ := syncMentorship_eq_ok.1 h
      exact ⟨changes, hchanges⟩
    · rintro ⟨changes, hchanges⟩
      exact ⟨_, syncMentorship_eq_ok.2 ⟨changes, hchanges, rfl, rfl⟩⟩
  rw [hcollect, collect_returns_iff]
  simp only [mentorshipStatement_returns_iff, MentorsTaken]
  exact forall₂_and

theorem mentorshipFiltered_returns_iff :
    Returns (syncMentorshipAssignments driver now
      (.ok (rows.filter fun row => !mentorshipMalformed driver row)) assignments) ↔
      MentorsTaken driver now rows := by
  rw [mentorship_returns_iff]
  constructor
  · rintro ⟨-, htaken⟩ row hrow uid htruthy huid
    have hwell : mentorshipMalformed driver row = false := by
      rw [mentorshipMalformed, huid]
      exact Bool.and_false _
    exact htaken row (List.mem_filter.2 ⟨hrow, by rw [hwell]; rfl⟩) uid htruthy huid
  · intro htaken
    refine ⟨?_, ?_⟩
    · intro row hrow
      simpa using (List.mem_filter.1 hrow).2
    · intro row hrow
      exact htaken row (List.mem_filter.1 hrow).1

theorem mentorOf_ipbc (h : syncIpbcStudents driver now (.ok rows) tables = .ok tables')
    (hcolumn : column ∈ mentorColumns) (userId : Int) :
    mentorOf tables'.assignments userId column.1 =
      lastMentor driver (ipbcMentorKey driver) rows tables.assignments userId column := by
  rw [syncIpbcStudents_ok, ipbcLoop_eq_ok] at h
  obtain ⟨students, mentors, -, hmentors, rfl⟩ := h
  exact mentorOf_batch (fun row hrow => ipbcMentor_skipped hrow)
    (fun row userId change hrow => ipbcMentor_applied hcolumn hrow) hmentors _ userId

theorem mentorOf_mentorship
    (h : syncMentorshipAssignments driver now (.ok rows) assignments = .ok (assignments', count))
    (hcolumn : column ∈ mentorColumns) (userId : Int) :
    mentorOf assignments' userId column.1 =
      lastMentor driver (mentorshipKey driver) rows assignments userId column := by
  obtain ⟨changes, hchanges, rfl, -⟩ := syncMentorship_eq_ok.1 h
  exact mentorOf_batch (fun row hrow => mentorship_skipped hrow)
    (fun row userId change hrow => mentorship_applied hcolumn hrow) hchanges _ userId

theorem lastMentor_last
    (h : syncMentorshipAssignments driver now (.ok rows) assignments = .ok (assignments', count))
    (hcolumn : column ∈ mentorColumns)
    (hlast : (rows.filter fun row => mentorshipKey driver row = some userId).getLast? = some row) :
    driver.store column.1 (getCell row column.2) =
      some (lastMentor driver (mentorshipKey driver) rows assignments userId column) := by
  obtain ⟨changes, hchanges, -⟩ := syncMentorship_eq_ok.1 h
  obtain ⟨hrow, hkey⟩ := List.mem_filter.1 (List.mem_of_getLast? hlast)
  obtain ⟨entry, hentry⟩ := collect_row_ok hchanges hrow
  cases entry with
  | none =>
    rw [mentorship_skipped hentry] at hkey
    exact absurd hkey (by simp)
  | some statement =>
    have hsome := (mentorship_applied hcolumn hentry).2.2
    rw [lastMentor, hlast, Option.bind_some]
    obtain ⟨stored, hstored⟩ := Option.isSome_iff_exists.1 hsome
    rw [hstored, Option.getD_some]

/-- The two syncs are robust and agree exactly when every id is a number and the last row of
every user says what the last that names a mentor says, unless the database takes no assignments. -/
theorem mentorsConsistent_iff (driver : Driver) (now now' : Instant) (rows : List SourceRow)
    (tables : MirrorTables) : MentorsConsistent driver now now' rows tables ↔
      ¬ MentorsTaken driver now' rows ∨
        ((∀ row ∈ rows, mentorshipMalformed driver row = false) ∧
          (StudentsTaken driver now rows → ∀ userId, ∀ column ∈ mentorColumns,
            lastMentor driver (ipbcMentorKey driver) rows tables.assignments userId column =
              lastMentor driver (mentorshipKey driver) rows tables.assignments userId column)) := by
  constructor
  · intro hlaw
    rw [or_iff_not_imp_left, not_not]
    intro htaken
    obtain ⟨⟨assignments', count⟩, hfiltered⟩ :
        Returns (syncMentorshipAssignments driver now'
          (.ok (rows.filter fun row => !mentorshipMalformed driver row)) tables.assignments) :=
      mentorshipFiltered_returns_iff.2 htaken
    have hfull := hlaw.mentorshipRobust _ _ hfiltered
    refine ⟨(mentorship_returns_iff.1 ⟨_, hfull⟩).1, ?_⟩
    intro hstudents userId column hcolumn
    obtain ⟨tables', htables⟩ : Returns (syncIpbcStudents driver now (.ok rows) tables) :=
      ipbc_returns_iff.2 hstudents
    rw [← mentorOf_ipbc htables hcolumn, ← mentorOf_mentorship hfull hcolumn]
    exact hlaw.agree _ _ _ htables hfull userId column hcolumn
  · rintro (hrefused | ⟨hwell, hsame⟩)
    · have hstops (assignments : Assignments) (result : Assignments × Nat) :
          syncMentorshipAssignments driver now' (.ok rows) assignments ≠ .ok result := by
        intro h
        exact hrefused (mentorship_returns_iff.1 ⟨_, h⟩).2
      refine ⟨fun tables' => ipbc_robust driver now rows tables tables', ?_, ?_, ?_⟩
      · intro assignments' count h
        exact absurd (mentorshipFiltered_returns_iff.1 ⟨_, h⟩) hrefused
      · intro tables' assignments' count _ h
        exact absurd h (hstops _ _)
      · intro tables' assignments' count _ h
        exact absurd h (hstops _ _)
    · refine ⟨fun tables' => ipbc_robust driver now rows tables tables', ?_, ?_, ?_⟩
      · intro assignments' count h
        rwa [List.filter_eq_self.2 fun row hrow => by rw [hwell row hrow]; rfl] at h
      · intro tables' assignments' count hipbc hmentorship userId column hcolumn
        rw [mentorOf_ipbc hipbc hcolumn, mentorOf_mentorship hmentorship hcolumn]
        exact hsame (ipbc_returns_iff.1 ⟨_, hipbc⟩) userId column hcolumn
      · intro tables' assignments' count hipbc hmentorship userId row hlast column hcolumn
        rw [mentorOf_ipbc hipbc hcolumn, mentorOf_mentorship hmentorship hcolumn,
          hsame (ipbc_returns_iff.1 ⟨_, hipbc⟩) userId column hcolumn, and_self]
        exact lastMentor_last hmentorship hcolumn hlast

end

/-- A row whose id is no number, and the row of a student with a mentor. -/
def wordRow : SourceRow := [("UserID", .text "x")]

def mentorRow : SourceRow := [("UserID", .int 7), ("MM_Mentor", .text "Grace")]

/-- A malformed id stops `sync_mentorship_assignments` for everybody. -/
theorem malformed_stops_others :
    ¬ ∀ driver now now' rows tables, MentorsConsistent driver now now' rows tables := by
  intro h
  have hlaw := h plainDriver 0 0 [wordRow, mentorRow] ⟨fun _ => none, fun _ => none⟩
  have hfull := hlaw.mentorshipRobust _ _ rfl
  cases hfull

end MirrorSync
end StudentSuccess
