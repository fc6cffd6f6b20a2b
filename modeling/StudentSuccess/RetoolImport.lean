import StudentSuccess.KeyedImports
import StudentSuccess.MirrorSyncs
import StudentSuccess.Sessions

namespace StudentSuccess
namespace RetoolImport
set_option autoImplicit true
open Py MirrorSync Sessions KeyedImports

inductive Raised
  | python (e : Py.Error)
  | dbapi

structure TableSpec where
  channel : String
  activityType : String
  labelCol : Option String
  subjectCol : Option String
  bodyCol : Option String

def tableSpecs : List (String × TableSpec) :=
  [("RETOOLCALLENGAGEMENT", ⟨"CALL", "call", some "CallType", none, some "Notes"⟩),
    ("RetoolEmailEngagement",
      ⟨"EMAIL", "email", some "EmailOutcome", some "Subject", some "EmailBody"⟩),
    ("RetoolNoteEngagement", ⟨"NOTE", "note", some "NoteType", none, some "NoteText"⟩)]

/-- A row of one of the source tables. -/
structure Source where
  table : String
  row : SourceRow

/-- An imported row of `student_campaign_activity`. `origin` is no column: it says which row of the
source it was made from. -/
structure RetoolActivity where
  studentUserId : Int
  activityDate : Option Instant
  activityType : String
  activityLabel : Cell
  channel : String
  subject : Cell
  messageBody : Cell
  source : String
  createdBy : String
  executionMode : String
  shadowOnly : Bool
  correlationId : String
  governanceScope : String
  isReplay : Bool
  attributionComplete : Bool
  origin : Source

/-- The keys of `retool_import_keys` and the imported activities. -/
structure Database where
  keys : List String
  activities : List RetoolActivity

def Database.empty : Database := ⟨[], []⟩

def Database.origins (db : Database) : List Source := db.activities.map (·.origin)

/-- The conversions of the script, the hexadecimal digest of a text cut to 48 places, and what the
table takes. -/
structure ImportEnv where
  str : Cell → String
  int : Cell → Except Py.Error Int
  digest : String → String
  accepts : RetoolActivity → Bool

/-- `f"{table}|{row.get('UserID')}|{row.get('CreateDate')}"`. -/
def rawKey (env : ImportEnv) (source : Source) : String :=
  source.table ++ "|" ++ env.str (getCell source.row "UserID") ++ "|" ++
    env.str (getCell source.row "CreateDate")

def importKey (env : ImportEnv) (source : Source) : String := env.digest (rawKey env source)

/-- What the database answers to the statements about one row. -/
structure RowAnswers where
  check : Except Raised Unit
  insert : Except Raised Unit
  mark : Except Raised Unit
  commit : Except Raised Unit
  rollback : Except Raised Unit

/-- What one table of a run meets: the fetch, and the answers of the database. -/
structure TableWorld where
  fetched : Except String (List SourceRow)
  ddl : Except Raised Unit
  ddlCommit : Except Raised Unit
  answers : Nat → RowAnswers

/-- One call of `run_import`. -/
structure Run where
  tables : Option (List String)
  dryRun : Bool
  correlationId : String
  world : Nat → TableWorld

/-- `row.get(col) if col else None`. -/
def columnOf (row : SourceRow) : Option String → Cell
  | some col => getCell row col
  | none => .null

/-- The parameters of the insert. -/
def newActivity (env : ImportEnv) (spec : TableSpec) (correlationId : String) (source : Source)
    (uid : Int) : RetoolActivity where
  studentUserId := uid
  activityDate :=
    match getCell source.row "CreateDate" with
    | .timestamp t => some t
    | _ => none
  activityType := spec.activityType
  activityLabel := columnOf source.row spec.labelCol
  channel := spec.channel
  subject := columnOf source.row spec.subjectCol
  messageBody := columnOf source.row spec.bodyCol
  source := "retool_import"
  createdBy :=
    let createdBy := getCell source.row "CreatedBy"
    env.str (if createdBy.truthy then createdBy else .text "retool")
  executionMode := "SHADOW"
  shadowOnly := true
  correlationId := correlationId
  governanceScope := "SHADOW_ONLY"
  isReplay := false
  attributionComplete := true
  origin := source

abbrev ImportAction := Action Raised Database Empty

/-- `SELECT 1 FROM retool_import_keys WHERE import_key = :k`. -/
def checkKey (answer : Except Raised Unit) (ikey : String) (db : Database) :
    Except Raised (Database × Bool) := answer.map fun _ => (db, ikey ∈ db.keys)

def insertActivity (env : ImportEnv) (answer : Except Raised Unit) (activity : RetoolActivity)
    (db : Database) : Except Raised (Database × Unit) := do
  answer
  if env.accepts activity then
    .ok ({ db with activities := db.activities ++ [activity] }, ())
  else .error .dbapi

/-- `INSERT INTO retool_import_keys … ON CONFLICT DO NOTHING`. -/
def markKey (answer : Except Raised Unit) (ikey : String) (db : Database) :
    Except Raised (Database × Unit) :=
  answer.map fun _ =>
    ({ db with keys := if ikey ∈ db.keys then db.keys else db.keys ++ [ikey] }, ())

/-- The script adds no objects to its session. -/
def noObjects : Empty → Database → Except Raised Database := fun obj => nomatch obj

/-- A row inserted, skipped or in error, as the loop counts it. -/
def inserted : Counts := ⟨1, 0, 0⟩

def skipped : Counts := ⟨0, 1, 0⟩

def errors : Counts := ⟨0, 0, 1⟩

/-- The body of the `try`. -/
def insertRow (env : ImportEnv) (spec : TableSpec) (correlationId : String) (answers : RowAnswers)
    (source : Source) : ImportAction Counts := do
  let uid := getCell source.row "UserID"
  if !uid.truthy then return skipped
  else
    let uid ← lift ((env.int uid).mapError .python)
    execute (insertActivity env answers.insert (newActivity env spec correlationId source uid))
    execute (markKey answers.mark (importKey env source))
    commit noObjects answers.commit
    return inserted

def importRow (env : ImportEnv) (spec : TableSpec) (run : Run) (answers : RowAnswers)
    (source : Source) : ImportAction Counts := do
  let existing ← execute (checkKey answers.check (importKey env source))
  if existing then return skipped
  else if run.dryRun then return inserted
  else
    attempt (insertRow env spec run.correlationId answers source) fun _ => do
      rollback
      lift answers.rollback
      return errors

/-- A row of the source and the answers that its statements get. -/
abbrev Item := Source × RowAnswers

def importRows (env : ImportEnv) (spec : TableSpec) (run : Run) :
    List Item → Counts → ImportAction Counts
  | [], counts => pure counts
  | (source, answers) :: items, counts => do
    let outcome ← importRow env spec run answers source
    importRows env spec run items (counts.add outcome)

structure Totals where
  fetched : Nat
  counts : Counts

def Totals.add (totals totals' : Totals) : Totals :=
  ⟨totals.fetched + totals'.fetched, totals.counts.add totals'.counts⟩

def itemsOf (table : String) (answers : Nat → RowAnswers) (rows : List SourceRow) : List Item :=
  rows.zipIdx.map fun (row, n) => (⟨table, row⟩, answers n)

/-- `CREATE TABLE IF NOT EXISTS retool_import_keys`. -/
def createKeys (world : TableWorld) : ImportAction Unit := do
  execute fun db => world.ddl.map fun _ => (db, ())
  commit noObjects world.ddlCommit

def importTable (env : ImportEnv) (table : String) (spec : TableSpec) (run : Run)
    (world : TableWorld) (db : Database) : Except Raised Totals × Database :=
  match checkError world.fetched with
  | .error _ => (.ok ⟨0, errors⟩, db)
  | .ok rows =>
    let body : ImportAction Totals := do
      createKeys world
      let counts ← importRows env spec run (itemsOf table world.answers rows) .none
      return ⟨rows.length, counts⟩
    withSession body db

def runTables (env : ImportEnv) (run : Run) :
    List String → Nat → Totals → Database → Except Raised Totals × Database
  | [], _, totals, db => (.ok totals, db)
  | table :: tables, n, totals, db =>
    match get? table tableSpecs with
    | none => runTables env run tables (n + 1) totals db
    | some spec =>
      match importTable env table spec run (run.world n) db with
      | (.ok result, db') => runTables env run tables (n + 1) (totals.add result) db'
      | (.error e, db') => (.error e, db')

/-- `tables or list(_TABLE_SPECS.keys())`. -/
def Run.targetTables (run : Run) : List String :=
  match run.tables with
  | some (table :: tables) => table :: tables
  | _ => tableSpecs.map Prod.fst

def runImport (env : ImportEnv) (run : Run) (db : Database) : Except Raised Totals × Database :=
  runTables env run run.targetTables 0 ⟨0, .none⟩ db

/-- The keys that are marked are those of the rows that were imported. -/
def Tracks (env : ImportEnv) (db : Database) : Prop := db.keys = db.origins.map (importKey env)

def Nobody (source : Source) : Prop := (getCell source.row "UserID").truthy = false

/-- The session has nothing that is not committed. -/
def Settled (s : Session Database Empty) : Prop := s.view = s.committed

/-- What a row makes of the tables: a step of the import, or nothing when the run ends there. -/
def Moves (env : ImportEnv) (dryRun : Bool) (source : Source) (db : Database) :
    Except Raised Counts → Session Database Empty → Prop
  | .ok outcome, s' => Settled s' ∧
    Step (importKey env) Nobody dryRun db.origins source outcome s'.committed.origins
  | .error _, s' => s'.committed = db

/-- What rows make of the tables, all of them or, when the run ends before, the first of them. -/
def Advances (env : ImportEnv) (dryRun : Bool) (sources : List Source) (counts : Counts)
    (db : Database) : Except Raised Counts → Session Database Empty → Prop
  | .ok counts', s' => Settled s' ∧ ∃ c, counts' = counts.add c ∧
    Steps (importKey env) Nobody dryRun db.origins sources c s'.committed.origins
  | .error _, s' => ∃ done rest c, sources = done ++ rest ∧
    Steps (importKey env) Nobody dryRun db.origins done c s'.committed.origins

section
variable {env : ImportEnv} {spec : TableSpec} {run : Run} {answers : RowAnswers} {source : Source}
  {s s' : Session Database Empty}

theorem insertRow_atomic : Atomic (insertRow env spec correlationId answers source) := by
  rw [insertRow]
  split_ifs
  · exact atomic_pure _
  · refine (uncommitted_lift _).bind_atomic fun uid => ?_
    refine (uncommitted_execute _).bind_atomic fun _ => ?_
    refine (uncommitted_execute _).bind_atomic fun _ => ?_
    exact (atomic_commit _ _).bind_pure fun _ => inserted

theorem flush_noObjects (added : List Empty) (db : Database) :
    flush noObjects added db = .ok db := by
  cases added with
  | nil => rfl
  | cons obj added => exact nomatch obj

theorem insertActivity_ok (h : insertActivity env answer activity db = .ok (db', u)) :
    db' = { db with activities := db.activities ++ [activity] } := by
  rw [insertActivity] at h
  obtain ⟨_, -, h⟩ := bind_eq_ok.1 h
  split_ifs at h
  cases h
  rfl

theorem markKey_ok (h : markKey answer ikey db = .ok (db', u)) (hnew : ikey ∉ db.keys) :
    db' = { db with keys := db.keys ++ [ikey] } := by
  rw [markKey, if_neg hnew] at h
  obtain ⟨_, -, h⟩ := map_eq_ok.1 h
  cases h
  rfl

def Database.record (db : Database) (ikey : String) (activity : RetoolActivity) : Database :=
  ⟨db.keys ++ [ikey], db.activities ++ [activity]⟩

theorem origins_record (db : Database) (ikey : String) (activity : RetoolActivity) :
    (db.record ikey activity).origins = db.origins ++ [activity.origin] := List.map_append

theorem Tracks.record (h : Tracks env db) (activity : RetoolActivity) :
    Tracks env (db.record (importKey env activity.origin) activity) := by
  rw [Tracks, origins_record, List.map_append, ← h]
  rfl

/-- A row that goes through without an exception names no student or is in the tables now. -/
theorem insertRow_ok (hsettled : Settled s) (htracks : Tracks env s.committed)
    (hnew : importKey env source ∉ s.committed.keys)
    (h : (insertRow env spec correlationId answers source).after s = (.ok outcome, s')) :
    Settled s' ∧ Tracks env s'.committed ∧
      (outcome = skipped ∧ Nobody source ∧ s'.committed = s.committed ∨
        outcome = inserted ∧ s'.committed.origins = s.committed.origins ++ [source]) := by
  rw [insertRow] at h
  split_ifs at h with huser
  · rw [Bool.not_eq_true'] at huser
    cases h
    exact ⟨hsettled, htracks, .inl ⟨rfl, huser, rfl⟩⟩
  · obtain ⟨uid, s₁, hint, h⟩ := after_bind_eq_ok.1 h
    obtain ⟨_, s₂, hinsert, h⟩ := after_bind_eq_ok.1 h
    obtain ⟨_, s₃, hmark, h⟩ := after_bind_eq_ok.1 h
    obtain ⟨_, s₄, hcommit, h⟩ := after_bind_eq_ok.1 h
    cases h
    have hlift : s = s₁ := congrArg Prod.snd hint
    subst hlift
    obtain ⟨db₁, hactivity, rfl⟩ := execute_eq_ok.1 hinsert
    rw [hsettled] at hactivity
    obtain rfl := insertActivity_ok hactivity
    obtain ⟨db₂, hkey, rfl⟩ := execute_eq_ok.1 hmark
    obtain rfl := markKey_ok hkey hnew
    obtain ⟨db₃, hflush, -, rfl⟩ := (commit_eq_ok rfl).1 hcommit
    rw [flush_noObjects] at hflush
    cases hflush
    refine ⟨rfl, htracks.record (newActivity env spec correlationId source uid), .inr ⟨rfl, ?_⟩⟩
    exact origins_record s.committed (importKey env source) _

/-- The check of a key opens a transaction and reads what is committed. -/
theorem check_after (hsettled : Settled s) (answer : Except Raised Unit) (ikey : String) :
    (execute (checkKey answer ikey)).after s =
      (answer.map fun _ => decide (ikey ∈ s.committed.keys),
        { s with transaction := some s.committed }) := by
  rw [Action.after, execute, checkKey, hsettled]
  cases answer with
  | ok _ => rfl
  | error e => rfl

theorem attempt_spec (hsettled : Settled s) (htracks : Tracks env s.committed)
    (hnew : importKey env source ∉ s.committed.keys)
    (h : (attempt (insertRow env spec correlationId answers source) fun _ => do
      rollback
      lift answers.rollback
      return errors).after s = (result, s')) :
    Tracks env s'.committed ∧ Moves env false source s.committed result s' := by
  have hnew' : importKey env source ∉ s.committed.origins.map (importKey env) := by
    rwa [← htracks]
  rw [after_attempt] at h
  cases hrow : (insertRow env spec correlationId answers source).after s with
  | mk result₁ s₁ =>
    rw [hrow] at h
    cases result₁ with
    | ok outcome =>
      cases h
      obtain ⟨hsettled', htracks', houtcome⟩ := insertRow_ok hsettled htracks hnew hrow
      refine ⟨htracks', hsettled', ?_⟩
      rcases houtcome with ⟨rfl, hnobody, hsame⟩ | ⟨rfl, hinserted⟩
      · rw [hsame]
        exact .passed hnew' rfl hnobody
      · rw [hinserted]
        exact .inserted hnew' rfl
    | error e =>
      have hsame : s₁.committed = s.committed := insertRow_atomic s e s₁ hrow
      rw [← hsame] at hnew' htracks ⊢
      cases hrollback : answers.rollback with
      | ok _ =>
        rw [hrollback] at h
        cases h
        exact ⟨htracks, rfl, .failed hnew' rfl⟩
      | error e' =>
        rw [hrollback] at h
        cases h
        exact ⟨htracks, rfl⟩

theorem importRow_spec (hsettled : Settled s) (htracks : Tracks env s.committed)
    (h : (importRow env spec run answers source).after s = (result, s')) :
    Tracks env s'.committed ∧ Moves env run.dryRun source s.committed result s' := by
  have hknown : importKey env source ∈ s.committed.keys ↔
      importKey env source ∈ s.committed.origins.map (importKey env) := by
    rw [← htracks]
  rw [importRow, after_bind, check_after hsettled] at h
  cases hanswer : answers.check with
  | error e =>
    rw [hanswer] at h
    cases h
    exact ⟨htracks, rfl⟩
  | ok _ =>
    rw [hanswer] at h
    by_cases hexisting : importKey env source ∈ s.committed.keys
    · simp only [hexisting] at h
      cases h
      exact ⟨htracks, rfl, .known (hknown.1 hexisting)⟩
    · cases hdry : run.dryRun with
      | true =>
        simp only [hexisting, hdry] at h
        cases h
        exact ⟨htracks, rfl, .counted (mt hknown.2 hexisting) rfl⟩
      | false =>
        simp only [hexisting, hdry] at h
        have hopened : Settled { s with transaction := some s.committed } := rfl
        have hspec := attempt_spec hopened htracks hexisting h
        exact hspec

theorem importRows_spec {items : List Item} (hsettled : Settled s)
    (htracks : Tracks env s.committed)
    (h : (importRows env spec run items counts).after s = (result, s')) :
    Tracks env s'.committed ∧
      Advances env run.dryRun (items.map Prod.fst) counts s.committed result s' := by
  induction items generalizing counts s with
  | nil =>
    cases h
    exact ⟨htracks, hsettled, .none, (Counts.add_none _).symm, .nil⟩
  | cons item items ih =>
    obtain ⟨source, answers⟩ := item
    rw [importRows, after_bind] at h
    cases hrow : (importRow env spec run answers source).after s with
    | mk outcome s₁ =>
      rw [hrow] at h
      obtain ⟨htracks₁, hmoves⟩ := importRow_spec hsettled htracks hrow
      cases outcome with
      | error e =>
        cases h
        refine ⟨htracks₁, [], source :: items.map Prod.fst, .none, rfl, ?_⟩
        rw [show s'.committed = s.committed from hmoves]
        exact .nil
      | ok outcome =>
        obtain ⟨hsettled₁, hstep⟩ := hmoves
        obtain ⟨htracks', hrest⟩ := ih hsettled₁ htracks₁ h
        refine ⟨htracks', ?_⟩
        cases result with
        | ok counts' =>
          obtain ⟨hsettled', c, rfl, hsteps⟩ := hrest
          exact ⟨hsettled', outcome.add c, Counts.add_assoc _ _ _, .cons hstep hsteps⟩
        | error e =>
          obtain ⟨done, rest, c, hsources, hsteps⟩ := hrest
          refine ⟨source :: done, rest, outcome.add c, ?_, .cons hstep hsteps⟩
          exact congrArg (source :: ·) hsources

theorem createKeys_after (world : TableWorld) (db : Database) :
    (createKeys world).after (.idle db) = (.ok (), .idle db) ∨
      ∃ e s', (createKeys world).after (.idle db) = (.error e, s') ∧ s'.committed = db := by
  rw [createKeys]
  cases hddl : world.ddl with
  | error e => exact .inr ⟨e, _, rfl, rfl⟩
  | ok _ =>
    cases world.ddlCommit with
    | error e => exact .inr ⟨e, _, rfl, rfl⟩
    | ok _ => exact .inl rfl

end

def TableWorld.rows (world : TableWorld) : List SourceRow :=
  match checkError world.fetched with
  | .error _ => []
  | .ok rows => rows

def TableWorld.items (world : TableWorld) (table : String) : List Item :=
  itemsOf table world.answers world.rows

def TableWorld.sources (world : TableWorld) (table : String) : List Source :=
  world.rows.map (Source.mk table)

theorem mem_itemsOf {item : Item} (h : item ∈ itemsOf table answers rows) :
    item.1.table = table ∧ ∃ n < rows.length, item.2 = answers n := by
  obtain ⟨⟨row, n⟩, hrow, rfl⟩ := List.mem_map.1 h
  obtain ⟨-, hn, -⟩ := List.mem_zipIdx hrow
  rw [Nat.zero_add] at hn
  exact ⟨rfl, n, hn, rfl⟩

theorem sources_items (world : TableWorld) (table : String) :
    (world.items table).map Prod.fst = world.sources table := by
  rw [TableWorld.items, itemsOf, List.map_map, TableWorld.sources]
  refine Eq.trans ?_ (congrArg (List.map (Source.mk table)) (List.zipIdx_map_fst 0 world.rows))
  rw [List.map_map]
  rfl

/-- A failed fetch counts as an error. -/
def TableWorld.failures (world : TableWorld) : Counts :=
  match checkError world.fetched with
  | .error _ => errors
  | .ok _ => .none

/-- What tables make of the database, with the counts of failed fetches. -/
def Imports (env : ImportEnv) (dryRun : Bool) (sources : List Source) (failures : Counts)
    (totals : Totals) (db : Database) : Except Raised Totals → Database → Prop
  | .ok totals', db' => ∃ c, totals' = totals.add ⟨sources.length, failures.add c⟩ ∧
    Steps (importKey env) Nobody dryRun db.origins sources c db'.origins
  | .error _, db' => ∃ done rest c, sources = done ++ rest ∧
    Steps (importKey env) Nobody dryRun db.origins done c db'.origins

theorem importTable_spec {db db' : Database} (htracks : Tracks env db)
    (h : importTable env table spec run world db = (result, db')) : Tracks env db' ∧
      Imports env run.dryRun (world.sources table) world.failures ⟨0, .none⟩ db result db' := by
  rw [importTable] at h
  rw [← sources_items, TableWorld.items, TableWorld.rows, TableWorld.failures]
  cases hfetched : checkError world.fetched with
  | error e =>
    rw [hfetched] at h
    cases h
    exact ⟨htracks, .none, rfl, .nil⟩
  | ok rows =>
    rw [hfetched] at h
    simp only [withSession, after_bind] at h
    rcases createKeys_after world db with hkeys | ⟨e, s', hkeys, hsame⟩
    · rw [hkeys] at h
      simp only at h
      cases hrows : (importRows env spec run (itemsOf table world.answers rows) .none).after
          (.idle db) with
      | mk loop s' =>
        rw [hrows] at h
        have hidle : Settled (.idle db) := rfl
        obtain ⟨htracks', hloop⟩ := importRows_spec hidle htracks hrows
        cases loop with
        | ok counts =>
          obtain ⟨-, c, rfl, hsteps⟩ := hloop
          cases h
          refine ⟨htracks', c, ?_, hsteps⟩
          rw [Totals.add, Counts.none_add, Counts.none_add, Nat.zero_add]
          congr 1
          rw [List.length_map, itemsOf, List.length_map, List.length_zipIdx]
        | error e =>
          cases h
          exact ⟨htracks', hloop⟩
    · rw [hkeys] at h
      cases h
      refine ⟨hsame ▸ htracks, [], (itemsOf table world.answers rows).map Prod.fst, .none, rfl, ?_⟩
      rw [hsame]
      exact .nil

/-- What an import that raised had done stays when more was to come. -/
theorem Imports.stopped (h : Imports env dryRun sources failures totals db (.error e) db')
    (sources' : List Source) (failures' : Counts) (totals' : Totals) :
    Imports env dryRun (sources ++ sources') failures' totals' db (.error e) db' := by
  obtain ⟨done, rest, c, hdone, hsteps⟩ := h
  refine ⟨done, rest ++ sources', c, ?_, hsteps⟩
  rw [hdone, List.append_assoc]

theorem Imports.append
    (h : Imports env dryRun sources failures ⟨0, .none⟩ db (.ok result₁) db₁)
    (hrest : Imports env dryRun sources' failures' (totals.add result₁) db₁ result db') :
    Imports env dryRun (sources ++ sources') (failures.add failures') totals db result db' := by
  obtain ⟨c₁, rfl, hsteps₁⟩ := h
  cases result with
  | error e =>
    obtain ⟨done, rest, c, hdone, hsteps⟩ := hrest
    refine ⟨sources ++ done, rest, c₁.add c, ?_, hsteps₁.append hsteps⟩
    rw [hdone, List.append_assoc]
  | ok totals' =>
    obtain ⟨c, rfl, hsteps⟩ := hrest
    refine ⟨c₁.add c, ?_, hsteps₁.append hsteps⟩
    simp only [Totals.add, Counts.add, Counts.none, List.length_append, Totals.mk.injEq,
      Counts.mk.injEq]
    omega

/-- The source rows of the tables from the `n`-th on that the script knows. -/
def Run.sourcesFrom (run : Run) : List String → Nat → List Source
  | [], _ => []
  | table :: tables, n =>
    match get? table tableSpecs with
    | none => run.sourcesFrom tables (n + 1)
    | some _ => (run.world n).sources table ++ run.sourcesFrom tables (n + 1)

def Run.failuresFrom (run : Run) : List String → Nat → Counts
  | [], _ => .none
  | table :: tables, n =>
    match get? table tableSpecs with
    | none => run.failuresFrom tables (n + 1)
    | some _ => (run.world n).failures.add (run.failuresFrom tables (n + 1))

theorem runTables_spec {db db' : Database} {tables : List String} (htracks : Tracks env db)
    (h : runTables env run tables n totals db = (result, db')) : Tracks env db' ∧
      Imports env run.dryRun (run.sourcesFrom tables n) (run.failuresFrom tables n) totals db
        result db' := by
  induction tables generalizing n totals db with
  | nil =>
    cases h
    refine ⟨htracks, .none, ?_, .nil⟩
    rw [Run.sourcesFrom, Run.failuresFrom, Counts.none_add, Totals.add, Counts.add_none]
    rfl
  | cons table tables ih =>
    rw [runTables] at h
    rw [Run.sourcesFrom, Run.failuresFrom]
    cases hspec : get? table tableSpecs with
    | none =>
      rw [hspec] at h
      exact ih htracks h
    | some spec =>
      rw [hspec] at h
      simp only at h ⊢
      cases htable : importTable env table spec run (run.world n) db with
      | mk result₁ db₁ =>
        rw [htable] at h
        obtain ⟨htracks₁, himports₁⟩ := importTable_spec htracks htable
        cases result₁ with
        | error e =>
          cases h
          exact ⟨htracks₁, himports₁.stopped _ _ _⟩
        | ok result₁ =>
          obtain ⟨htracks', hrest⟩ := ih htracks₁ h
          exact ⟨htracks', himports₁.append hrest⟩

end RetoolImport
end StudentSuccess
