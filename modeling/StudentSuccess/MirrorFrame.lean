import StudentSuccess.MirrorSyncs

namespace StudentSuccess
namespace MirrorSync
set_option autoImplicit true
open Py Upserts
open Narratives (columnNames)

/-- A sync of the rows changes only what they say: it keeps the rows of other students and the
columns that no row of a student carries, and a student's last row wins. -/
structure ChangesOnlySource (driver : Driver) (rowId : SourceRow → Option Int)
    (view : SourceRow → SourceRow) (rows : List SourceRow) (mirror mirror' : Mirror) : Prop where
  outside : ∀ userId, (∀ row ∈ rows, rowId row ≠ some userId) → mirror' userId = mirror userId
  notCarried : ∀ userId stored c, mirror userId = some stored →
    (∀ row ∈ rows, rowId row = some userId → get? c (view row) = none) →
    ∃ stored', mirror' userId = some stored' ∧ stored' c = stored c
  lastWins : ∀ before row after userId, rows = before ++ row :: after → rowId row = some userId →
    (∀ row' ∈ after, rowId row' ≠ some userId) →
    ∃ stored', mirror' userId = some stored' ∧
      ∀ c ∈ columnNames, c ≠ "UserID" → ∀ val, get? c (view row) = some val →
        driver.store c (written driver c val) = some (stored' c)

/-- Where no row of a student carries one of the three columns that have defaults, the mirror
already holds the default. -/
def DefaultsHarmless (rowId : SourceRow → Option Int) (view : SourceRow → SourceRow)
    (rows : List SourceRow) (mirror : Mirror) : Prop :=
  ∀ userId stored, mirror userId = some stored → (∃ row ∈ rows, rowId row = some userId) →
    ∀ c d, get? c defaults = some d →
      (∀ row ∈ rows, rowId row = some userId → get? c (view row) = none) → stored c = d

section
variable {driver : Driver} {rowId : SourceRow → Option Int} {view : SourceRow → SourceRow}
  {prepare : SourceRow → Except SyncError (Option (Int × MirrorChange))}

theorem collect_row_ok (h : collect prepare rows = .ok changes) (hrow : row ∈ rows) :
    ∃ entry, prepare row = .ok entry := by
  obtain ⟨before, after, rfl⟩ := List.append_of_mem hrow
  obtain ⟨-, rest, -, hrest, rfl⟩ := collect_append h
  obtain ⟨entry, -, hentry, -, -⟩ := collect_cons_eq_ok.1 hrest
  exact ⟨entry, hentry⟩

theorem Prepares.statement_of_row (hprepares : Prepares driver rowId view prepare)
    (h : collect prepare rows = .ok changes) (hrow : row ∈ rows) (hid : rowId row = some userId) :
    ∃ change, prepare row = .ok (some (userId, change)) ∧ Sets driver (view row) change := by
  obtain ⟨entry, hentry⟩ := collect_row_ok h hrow
  cases entry with
  | none =>
    rw [hprepares.skipped row hentry] at hid
    cases hid
  | some statement =>
    obtain ⟨userId', change⟩ := statement
    obtain ⟨hid', hsets⟩ := hprepares.applied row userId' change hentry
    rw [hid] at hid'
    cases hid'
    exact ⟨change, hentry, hsets⟩

theorem Prepares.row_of_statement (hprepares : Prepares driver rowId view prepare)
    (h : collect prepare rows = .ok changes) (hmem : (userId, change) ∈ changes) :
    ∃ row ∈ rows, rowId row = some userId ∧ Sets driver (view row) change := by
  obtain ⟨row, hrow, hprepare⟩ := mem_collect h hmem
  obtain ⟨hid, hsets⟩ := hprepares.applied row userId change hprepare
  exact ⟨row, hrow, hid, hsets⟩

theorem Prepares.mem_ids_iff (hprepares : Prepares driver rowId view prepare)
    (h : collect prepare rows = .ok changes) :
    userId ∈ changes.map Prod.fst ↔ ∃ row ∈ rows, rowId row = some userId := by
  constructor
  · intro hmem
    obtain ⟨⟨userId', change⟩, hchange, rfl⟩ := List.mem_map.1 hmem
    obtain ⟨row, hrow, hid, -⟩ := hprepares.row_of_statement h hchange
    exact ⟨row, hrow, hid⟩
  · rintro ⟨row, hrow, hid⟩
    obtain ⟨change, hprepare, -⟩ := hprepares.statement_of_row h hrow hid
    exact List.mem_map_of_mem (mem_collect_of_row h hrow hprepare)

/-- What a student's statements set in a column that no row of the student carries: its default,
if it has one. -/
theorem Prepares.lastSet_notCarried (hprepares : Prepares driver rowId view prepare)
    (h : collect prepare rows = .ok changes) (hmem : ∃ row ∈ rows, rowId row = some userId)
    (hcarried : ∀ row ∈ rows, rowId row = some userId → get? c (view row) = none) :
    lastSet userId c changes = get? c defaults := by
  have hset : ∀ change, (userId, change) ∈ changes → change c = get? c defaults := by
    intro change hchange
    obtain ⟨row, hrow, hid, hsets⟩ := hprepares.row_of_statement h hchange
    by_cases hcolumn : c ∈ columnNames ∧ c ≠ "UserID"
    · exact hsets.defaults c hcolumn.1 hcolumn.2 (hcarried row hrow hid)
    · rw [not_and_or, not_not] at hcolumn
      rw [hsets.others c hcolumn]
      cases hdefault : get? c defaults with
      | none => rfl
      | some d =>
        have hnone : ¬ (c ∈ columnNames ∧ c ≠ "UserID") := by
          rw [not_and_or, not_not]
          exact hcolumn
        exact absurd (defaults_columns hdefault) hnone
  cases hlast : lastSet userId c changes with
  | none =>
    obtain ⟨row, hrow, hid⟩ := hmem
    obtain ⟨change, hprepare, -⟩ := hprepares.statement_of_row h hrow hid
    have hchange := mem_collect_of_row h hrow hprepare
    rw [← hset change hchange, lastSet_eq_none_iff.1 hlast change hchange]
  | some v =>
    obtain ⟨change, hchange, hv⟩ := lastSet_mem hlast
    rw [← hset change hchange, hv]

theorem Prepares.lastWins (hprepares : Prepares driver rowId view prepare)
    (h : collect prepare (before ++ row :: after) = .ok changes) (hid : rowId row = some userId)
    (hafter : ∀ row' ∈ after, rowId row' ≠ some userId) (mirror : Mirror) :
    ∃ stored', batch blankRow mirror changes userId = some stored' ∧
      ∀ c ∈ columnNames, c ≠ "UserID" → ∀ val, get? c (view row) = some val →
        driver.store c (written driver c val) = some (stored' c) := by
  have hrow : row ∈ before ++ row :: after := List.mem_append_right _ (.head _)
  have hmem := (hprepares.mem_ids_iff h).2 ⟨row, hrow, hid⟩
  refine ⟨_, batch_present hmem, ?_⟩
  intro c hc huser val hval
  obtain ⟨change, hprepare, hsets⟩ := hprepares.statement_of_row h hrow hid
  obtain ⟨stored, hstored, hchange⟩ := hsets.carries c hc huser val hval
  obtain ⟨first, rest, -, hrest, rfl⟩ := collect_append h
  obtain ⟨entry, others, hentry, hothers, rfl⟩ := collect_cons_eq_ok.1 hrest
  rw [hprepare] at hentry
  cases hentry
  have hnot : userId ∉ others.map Prod.fst := by
    intro hmem
    obtain ⟨row', hrow', hid'⟩ := (hprepares.mem_ids_iff hothers).1 hmem
    exact hafter row' hrow' hid'
  rw [Option.toList_some, List.singleton_append, lastSet_last hnot hchange first]
  exact hstored

/-- A sync changes only what the source says exactly when its defaults change nothing. -/
theorem Prepares.changesOnlySource_iff (hprepares : Prepares driver rowId view prepare)
    (h : collect prepare rows = .ok changes) (mirror : Mirror) :
    ChangesOnlySource driver rowId view rows mirror (batch blankRow mirror changes) ↔
      DefaultsHarmless rowId view rows mirror := by
  constructor
  · intro hlaw userId stored hstored hmem c d hdefault hcarried
    obtain ⟨stored', hstored', heq⟩ := hlaw.notCarried userId stored c hstored hcarried
    have hset := hprepares.lastSet_notCarried h hmem hcarried
    rw [batch_present ((hprepares.mem_ids_iff h).2 hmem), Option.some_inj] at hstored'
    subst hstored'
    simp only [hset, hdefault, Option.getD_some] at heq
    exact heq.symm
  · intro hharmless
    refine ⟨?_, ?_, ?_⟩
    · intro userId hoffside
      apply batch_absent
      intro hmem
      obtain ⟨row, hrow, hid⟩ := (hprepares.mem_ids_iff h).1 hmem
      exact hoffside row hrow hid
    · intro userId stored c hstored hcarried
      by_cases hmem : ∃ row ∈ rows, rowId row = some userId
      · refine ⟨_, batch_present ((hprepares.mem_ids_iff h).2 hmem), ?_⟩
        rw [hprepares.lastSet_notCarried h hmem hcarried, hstored, Option.getD_some]
        cases hdefault : get? c defaults with
        | none => rfl
        | some d => exact (hharmless userId stored hstored hmem c d hdefault hcarried).symm
      · refine ⟨stored, ?_, rfl⟩
        rw [batch_absent (mt (hprepares.mem_ids_iff h).1 hmem), hstored]
    · rintro before row after userId rfl hid hafter
      exact hprepares.lastWins h hid hafter mirror

end

theorem syncFromMssql_eq_ok :
    syncFromMssql driver (.ok rows) mirror = .ok (mirror', count) ↔
      ∃ changes, collect (mssqlStatement driver) rows = .ok changes ∧
        mirror' = batch blankRow mirror changes ∧ count = changes.length := by
  rw [syncFromMssql_ok, syncLoop_eq_ok]
  simp only [Nat.zero_add]

theorem syncIpbcStudents_mirror (h : syncIpbcStudents driver now (.ok rows) tables = .ok tables') :
    ∃ changes, collect (ipbcStatement driver) rows = .ok changes ∧
      tables'.mirror = batch blankRow tables.mirror changes := by
  obtain ⟨students, mentors, hstudents, -, rfl⟩ := ipbcLoop_eq_ok.1 h
  exact ⟨students, hstudents, rfl⟩

/-- Each of the two syncs changes only what its source says, and nothing more when it is repeated,
exactly when its three defaults change no row that is there. -/
theorem mirrorSyncs_changeOnlySource_iff (driver : Driver) (rows : List SourceRow) :
    (∀ mirror mirror' count, syncFromMssql driver (.ok rows) mirror = .ok (mirror', count) →
      (ChangesOnlySource driver (mssqlId driver) mssqlView rows mirror mirror' ∧
          syncFromMssql driver (.ok rows) mirror' = .ok (mirror', count) ↔
        DefaultsHarmless (mssqlId driver) mssqlView rows mirror)) ∧
    ∀ now tables tables', syncIpbcStudents driver now (.ok rows) tables = .ok tables' →
      (ChangesOnlySource driver (ipbcId driver) ipbcView rows tables.mirror tables'.mirror ∧
          (∀ now' tables'', syncIpbcStudents driver now' (.ok rows) tables' = .ok tables'' →
            tables''.mirror = tables'.mirror) ↔
        DefaultsHarmless (ipbcId driver) ipbcView rows tables.mirror) := by
  constructor
  · intro mirror mirror' count h
    obtain ⟨changes, hcollect, rfl, rfl⟩ := syncFromMssql_eq_ok.1 h
    rw [(mssql_prepares driver).changesOnlySource_iff hcollect mirror]
    apply and_iff_left
    exact syncFromMssql_eq_ok.2 ⟨changes, hcollect, (batch_batch mirror changes).symm, rfl⟩
  · intro now tables tables' h
    obtain ⟨changes, hcollect, hmirror⟩ := syncIpbcStudents_mirror h
    rw [hmirror, (ipbc_prepares driver).changesOnlySource_iff hcollect tables.mirror]
    apply and_iff_left
    intro now' tables'' h'
    obtain ⟨changes', hcollect', hmirror'⟩ := syncIpbcStudents_mirror h'
    rw [hcollect] at hcollect'
    cases hcollect'
    rw [hmirror', hmirror, batch_batch]

def plainDriver : Driver where
  str := fun _ => ""
  int
    | .int n => some n
    | _ => none
  store := fun _ val => some val
  store_default := fun _ _ _ => rfl

def behindMirror : Mirror := fun userId =>
  if userId = 7 then some fun c => if c = "HWsBehind" then .int 3 else .null else none

/-- A row of a source that has no column for the homework. -/
def nameRow : SourceRow := [("UserID", .int 7), ("FirstName", .text "Ada")]

theorem nameRow_syncs : ∃ mirror', syncFromMssql plainDriver (.ok [nameRow]) behindMirror =
    .ok (mirror', 1) ∧ ∀ stored', mirror' 7 = some stored' → stored' "HWsBehind" = .int 0 := by
  refine ⟨_, rfl, ?_⟩
  intro stored' h
  rw [upsert_self, Option.some_inj] at h
  rw [← h]
  rfl

/-- A row that carries only a name sets the student's homework to zero. -/
theorem default_overwrites :
    ¬ ∀ driver rows mirror mirror' count,
      syncFromMssql driver (.ok rows) mirror = .ok (mirror', count) →
        ChangesOnlySource driver (mssqlId driver) mssqlView rows mirror mirror' := by
  intro h
  obtain ⟨mirror', hsync, hzero⟩ := nameRow_syncs
  have hcarried : ∀ row ∈ [nameRow], mssqlId plainDriver row = some 7 →
      get? "HWsBehind" (mssqlView row) = none := by
    intro row hrow _
    rw [List.mem_singleton] at hrow
    subst hrow
    decide +kernel
  obtain ⟨stored', hstored', heq⟩ :=
    (h _ _ _ _ _ hsync).notCarried 7 _ "HWsBehind" rfl hcarried
  rw [hzero stored' hstored'] at heq
  exact absurd heq (by simp)

theorem nameRow_changesOnlySource_iff : ∃ mirror',
    (ChangesOnlySource plainDriver (mssqlId plainDriver) mssqlView [nameRow] behindMirror mirror' ∧
        syncFromMssql plainDriver (.ok [nameRow]) mirror' = .ok (mirror', 1) ↔
      DefaultsHarmless (mssqlId plainDriver) mssqlView [nameRow] behindMirror) := by
  obtain ⟨mirror', hsync, -⟩ := nameRow_syncs
  exact ⟨mirror', (mirrorSyncs_changeOnlySource_iff plainDriver [nameRow]).1 behindMirror mirror' 1
    hsync⟩

end MirrorSync
end StudentSuccess
