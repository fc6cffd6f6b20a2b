import StudentSuccess.RetoolImport
import StudentSuccess.Runs

namespace StudentSuccess
namespace RetoolImport
set_option autoImplicit true
open Py MirrorSync Sessions KeyedImports

/-- The database carries out every statement for the row. -/
structure RowAnswers.Carried (answers : RowAnswers) : Prop where
  check : answers.check = .ok ()
  insert : answers.insert = .ok ()
  mark : answers.mark = .ok ()
  commit : answers.commit = .ok ()

/-- The row does not end the run: its key can be looked up, and what it leaves undone be rolled
back. -/
structure RowAnswers.Survived (answers : RowAnswers) : Prop where
  check : answers.check = .ok ()
  rollback : answers.rollback = .ok ()

/-- The id of the row is a number, and the table takes what the script makes of the row. -/
def Taken (env : ImportEnv) (spec : TableSpec) (correlationId : String) (source : Source) : Prop :=
  ∃ uid, env.int (getCell source.row "UserID") = .ok uid ∧
    env.accepts (newActivity env spec correlationId source uid) = true

/-- The run goes through all of the table's rows. -/
structure TableWorld.Survived (world : TableWorld) : Prop where
  ddl : world.ddl = .ok ()
  ddlCommit : world.ddlCommit = .ok ()
  rows : ∀ n < world.rows.length, (world.answers n).Survived

/-- The rows of the tables from the `n`-th on that the script knows, with their answers. -/
def Run.itemsFrom (run : Run) : List String → Nat → List Item
  | [], _ => []
  | table :: tables, n =>
    match get? table tableSpecs with
    | none => run.itemsFrom tables (n + 1)
    | some _ => (run.world n).items table ++ run.itemsFrom tables (n + 1)

/-- The table takes the row, whatever the script knows of its source table. -/
def Run.Takes (env : ImportEnv) (run : Run) (source : Source) : Prop :=
  ∀ spec, get? source.table tableSpecs = some spec → Taken env spec run.correlationId source

section
variable {env : ImportEnv} {spec : TableSpec} {run : Run} {answers : RowAnswers} {source : Source}
  {items : List Item} {world : TableWorld} {s s' : Session Database Empty} {db db' : Database}

theorem insertRow_carried (huser : ¬ Nobody source) (htaken : Taken env spec correlationId source)
    (h : answers.Carried) (s : Session Database Empty) :
    ∃ s', (insertRow env spec correlationId answers source).after s = (.ok inserted, s') := by
  obtain ⟨uid, hint, haccepts⟩ := htaken
  have hinsert (db : Database) : insertActivity env answers.insert
      (newActivity env spec correlationId source uid) db =
        .ok ({ db with activities := db.activities ++
          [newActivity env spec correlationId source uid] }, ()) := by
    rw [insertActivity, h.insert, if_pos haccepts]
    rfl
  have hmark (db : Database) : ∃ db', markKey answers.mark (importKey env source) db =
      .ok (db', ()) := by
    rw [markKey, h.mark]
    exact ⟨_, rfl⟩
  obtain ⟨db₁, hkey⟩ := hmark { s.view with activities := s.view.activities ++
    [newActivity env spec correlationId source uid] }
  rw [insertRow, if_neg (by rw [Bool.not_eq_true']; exact huser)]
  refine ⟨_, after_bind_eq_ok.2 ⟨uid, s, ?_, after_bind_eq_ok.2 ⟨(), _,
    execute_eq_ok.2 ⟨_, hinsert _, rfl⟩, after_bind_eq_ok.2 ⟨(), _,
      execute_eq_ok.2 ⟨db₁, hkey, rfl⟩, after_bind_eq_ok.2 ⟨(), _,
        (commit_eq_ok rfl).2 ⟨db₁, flush_noObjects _ _, h.commit, rfl⟩, rfl⟩⟩⟩⟩⟩
  rw [hint]
  rfl

theorem importRow_survived (hsettled : Settled s) (h : answers.Survived) :
    ∃ outcome s', (importRow env spec run answers source).after s = (.ok outcome, s') := by
  rw [importRow, after_bind, check_after hsettled, h.check]
  by_cases hexisting : importKey env source ∈ s.committed.keys
  · simp only [Except.map, hexisting, decide_true, if_true]
    exact ⟨_, _, rfl⟩
  · cases hdry : run.dryRun with
    | true =>
      simp only [Except.map, hexisting, decide_false, Bool.false_eq_true, if_false, if_true]
      exact ⟨_, _, rfl⟩
    | false =>
      simp only [Except.map, hexisting, decide_false, Bool.false_eq_true, if_false, after_attempt]
      cases (insertRow env spec run.correlationId answers source).after
          { s with transaction := some s.committed } with
      | mk result s₁ =>
        cases result with
        | ok outcome => exact ⟨_, _, rfl⟩
        | error e =>
          refine ⟨errors, .idle s₁.committed, ?_⟩
          simp only [after_bind, h.rollback]
          rfl

/-- A row that the database carries out is in the tables afterwards, if it was not there before. -/
theorem importRow_carried (hsettled : Settled s) (htracks : Tracks env s.committed)
    (hreal : run.dryRun = false) (huser : ¬ Nobody source)
    (htaken : Taken env spec run.correlationId source) (hcarried : answers.Carried)
    (h : (importRow env spec run answers source).after s = (result, s')) :
    importKey env source ∈ s'.committed.origins.map (importKey env) := by
  rw [importRow, after_bind, check_after hsettled, hcarried.check] at h
  by_cases hexisting : importKey env source ∈ s.committed.keys
  · simp only [Except.map, hexisting, decide_true, if_true] at h
    cases h
    rwa [htracks] at hexisting
  · simp only [Except.map, hexisting, hreal, decide_false, Bool.false_eq_true, if_false,
      after_attempt] at h
    have hopened : Settled { s with transaction := some s.committed } := rfl
    obtain ⟨s₁, hrow⟩ := insertRow_carried huser htaken hcarried
      { s with transaction := some s.committed }
    rw [hrow] at h
    cases h
    obtain ⟨-, -, ⟨hskipped, -⟩ | ⟨-, horigins⟩⟩ := insertRow_ok hopened htracks hexisting hrow
    · cases hskipped
    · rw [horigins]
      exact List.mem_map_of_mem (List.mem_append_right _ (.head _))

theorem importRows_survived (spec : TableSpec) (run : Run) (counts : Counts)
    (hsettled : Settled s) (htracks : Tracks env s.committed)
    (h : ∀ item ∈ items, item.2.Survived) :
    ∃ counts' s', (importRows env spec run items counts).after s = (.ok counts', s') := by
  induction items generalizing counts s with
  | nil => exact ⟨counts, s, rfl⟩
  | cons item items ih =>
    obtain ⟨source, answers⟩ := item
    rw [List.forall_mem_cons] at h
    obtain ⟨outcome, s₁, hrow⟩ := importRow_survived hsettled h.1
    obtain ⟨htracks₁, hsettled₁, -⟩ := importRow_spec hsettled htracks hrow
    rw [importRows, after_bind, hrow]
    exact ih _ hsettled₁ htracks₁ h.2

theorem importRows_carried (hsettled : Settled s) (htracks : Tracks env s.committed)
    (hreal : run.dryRun = false) (hitem : (source, answers) ∈ items) (huser : ¬ Nobody source)
    (htaken : Taken env spec run.correlationId source) (hcarried : answers.Carried)
    (h : (importRows env spec run items counts).after s = (.ok counts', s')) :
    importKey env source ∈ s'.committed.origins.map (importKey env) := by
  induction items generalizing counts s with
  | nil => cases hitem
  | cons item items ih =>
    rw [importRows] at h
    obtain ⟨outcome, s₁, hrow, hloop⟩ := after_bind_eq_ok.1 h
    obtain ⟨htracks₁, hsettled₁, -⟩ := importRow_spec hsettled htracks hrow
    rcases List.mem_cons.1 hitem with rfl | hrest
    · have hkey := importRow_carried hsettled htracks hreal huser htaken hcarried hrow
      obtain ⟨-, -, c, -, hsteps⟩ := importRows_spec hsettled₁ htracks₁ hloop
      exact hsteps.kept_key hkey
    · exact ih hsettled₁ htracks₁ hrest hloop

theorem createKeys_survived (hddl : world.ddl = .ok ()) (hcommit : world.ddlCommit = .ok ())
    (db : Database) : (createKeys world).after (.idle db) = (.ok (), .idle db) := by
  rw [createKeys, hddl, hcommit]
  rfl

theorem importTable_survived (table : String) (spec : TableSpec) (run : Run)
    (htracks : Tracks env db) (h : world.Survived) :
    ∃ totals db', importTable env table spec run world db = (.ok totals, db') := by
  have hrows := h.rows
  rw [TableWorld.rows] at hrows
  rw [importTable]
  cases hfetched : checkError world.fetched with
  | error e => exact ⟨_, _, rfl⟩
  | ok rows =>
    rw [hfetched] at hrows
    have hitems : ∀ item ∈ itemsOf table world.answers rows, item.2.Survived := by
      intro item hitem
      obtain ⟨-, n, hn, hanswers⟩ := mem_itemsOf hitem
      rw [hanswers]
      exact hrows n hn
    have hidle : Settled (.idle db) := rfl
    obtain ⟨counts, s', hloop⟩ := importRows_survived spec run .none hidle htracks hitems
    simp only [withSession, after_bind, createKeys_survived h.ddl h.ddlCommit, hloop]
    exact ⟨_, _, rfl⟩

theorem importTable_carried (htracks : Tracks env db) (hreal : run.dryRun = false)
    (hitem : (source, answers) ∈ world.items table) (huser : ¬ Nobody source)
    (htaken : Taken env spec run.correlationId source) (hcarried : answers.Carried)
    (h : importTable env table spec run world db = (.ok totals, db')) :
    importKey env source ∈ db'.origins.map (importKey env) := by
  rw [importTable] at h
  rw [TableWorld.items, TableWorld.rows] at hitem
  cases hfetched : checkError world.fetched with
  | error e =>
    rw [hfetched] at hitem
    cases hitem
  | ok rows =>
    rw [hfetched] at h hitem
    obtain ⟨s', hbody, rfl⟩ := withSession_eq_ok.1 h
    obtain ⟨_, s₁, hkeys, hbody⟩ := after_bind_eq_ok.1 hbody
    obtain ⟨counts, s₂, hloop, hbody⟩ := after_bind_eq_ok.1 hbody
    cases hbody
    rcases createKeys_after world db with hcreated | ⟨e, s₃, hcreated, -⟩
    · rw [hcreated] at hkeys
      cases hkeys
      have hidle : Settled (.idle db) := rfl
      exact importRows_carried hidle htracks hreal hitem huser htaken hcarried hloop
    · rw [hcreated] at hkeys
      cases hkeys

theorem runTables_survived {tables : List String} (htracks : Tracks env db)
    (h : ∀ i < tables.length, (run.world (n + i)).Survived) :
    ∃ totals' db', runTables env run tables n totals db = (.ok totals', db') := by
  induction tables generalizing n totals db with
  | nil => exact ⟨_, _, rfl⟩
  | cons table tables ih =>
    have hrest : ∀ i < tables.length, (run.world (n + 1 + i)).Survived := by
      intro i hi
      rw [Nat.add_assoc, Nat.add_comm 1 i]
      exact h (i + 1) (Nat.succ_lt_succ hi)
    rw [runTables]
    cases get? table tableSpecs with
    | none => exact ih htracks hrest
    | some spec =>
      obtain ⟨result, db₁, htable⟩ := importTable_survived table spec run htracks
        (h 0 (Nat.succ_pos _))
      rw [Nat.add_zero] at htable
      dsimp only
      rw [htable]
      exact ih (importTable_spec htracks htable).1 hrest

theorem runTables_carried {tables : List String} (htracks : Tracks env db)
    (hreal : run.dryRun = false) (hitem : (source, answers) ∈ run.itemsFrom tables n)
    (huser : ¬ Nobody source) (htaken : run.Takes env source) (hcarried : answers.Carried)
    (h : runTables env run tables n totals db = (.ok totals', db')) :
    importKey env source ∈ db'.origins.map (importKey env) := by
  induction tables generalizing n totals db with
  | nil => cases hitem
  | cons table tables ih =>
    rw [runTables] at h
    rw [Run.itemsFrom] at hitem
    cases hspec : get? table tableSpecs with
    | none =>
      rw [hspec] at h hitem
      exact ih htracks hitem h
    | some spec =>
      rw [hspec] at h hitem
      simp only at h
      cases htable : importTable env table spec run (run.world n) db with
      | mk result db₁ =>
        rw [htable] at h
        cases result with
        | error e => cases h
        | ok result =>
          have htracks₁ := (importTable_spec htracks htable).1
          rcases List.mem_append.1 hitem with hitem | hitem
          · have htable' := (mem_itemsOf hitem).1
            have hkey := importTable_carried htracks hreal hitem huser
              (htaken spec (htable' ▸ hspec)) hcarried htable
            obtain ⟨-, c, -, hsteps⟩ := runTables_spec htracks₁ h
            exact hsteps.kept_key hkey
          · exact ih htracks₁ hitem h

end

def Run.sources (run : Run) : List Source := run.sourcesFrom run.targetTables 0

def Run.items (run : Run) : List Item := run.itemsFrom run.targetTables 0

def Run.failures (run : Run) : Counts := run.failuresFrom run.targetTables 0

/-- The run goes through all of its rows. -/
def Run.Survived (run : Run) : Prop := ∀ n < run.targetTables.length, (run.world n).Survived

def fetchedSources (runs : List Run) : List Source := runs.flatMap Run.sources

/-- The rows that the runs are to import. -/
def importedSources (runs : List Run) : List Source :=
  (runs.filter fun run => !run.dryRun).flatMap Run.sources

def importStep (env : ImportEnv) (db : Database) (run : Run) : Database := (runImport env run db).2

def SameFetch (run run' : Run) : Prop :=
  run'.tables = run.tables ∧ ∀ n, (run'.world n).fetched = (run.world n).fetched

/-- One of the runs comes as far as the row, and the database carries out what it does there. -/
def Served (env : ImportEnv) (runs : List Run) (source : Source) : Prop :=
  ∃ run ∈ runs, run.dryRun = false ∧ run.Survived ∧ run.Takes env source ∧
    ∃ answers, (source, answers) ∈ run.items ∧ answers.Carried

section
variable {env : ImportEnv} {run run' : Run} {runs : List Run} {source : Source}
  {answers : RowAnswers} {db db' : Database}

theorem runImport_spec (htracks : Tracks env db) (h : runImport env run db = (result, db')) :
    Tracks env db' ∧
      Imports env run.dryRun run.sources run.failures ⟨0, .none⟩ db result db' :=
  runTables_spec htracks h

theorem sourcesFrom_congr (h : ∀ n, (run'.world n).fetched = (run.world n).fetched)
    (tables : List String) (n : Nat) : run'.sourcesFrom tables n = run.sourcesFrom tables n := by
  induction tables generalizing n with
  | nil => rfl
  | cons table tables ih =>
    rw [Run.sourcesFrom, Run.sourcesFrom, ih, TableWorld.sources, TableWorld.sources,
      TableWorld.rows, TableWorld.rows, h]

theorem SameFetch.sources (h : SameFetch run run') : run'.sources = run.sources := by
  rw [Run.sources, Run.sources, Run.targetTables, Run.targetTables, h.1]
  exact sourcesFrom_congr h.2 _ _

/-- A run that returns or not has gone through some of its rows. -/
theorem importStep_steps (htracks : Tracks env db) (run : Run) :
    Tracks env (importStep env db run) ∧ ∃ done c, (∀ source ∈ done, source ∈ run.sources) ∧
      Steps (importKey env) Nobody run.dryRun db.origins done c
        (importStep env db run).origins := by
  cases hrun : runImport env run db with
  | mk result db' =>
    have hstep : importStep env db run = db' := by rw [importStep, hrun]
    rw [hstep]
    obtain ⟨htracks', himports⟩ := runImport_spec htracks hrun
    refine ⟨htracks', ?_⟩
    cases result with
    | ok totals =>
      obtain ⟨c, -, hsteps⟩ := himports
      exact ⟨run.sources, c, fun _ h => h, hsteps⟩
    | error e =>
      obtain ⟨done, rest, c, hsources, hsteps⟩ := himports
      refine ⟨done, c, ?_, hsteps⟩
      intro source hsource
      rw [hsources]
      exact List.mem_append_left _ hsource

theorem mem_importedSources : source ∈ importedSources runs ↔
    ∃ run ∈ runs, run.dryRun = false ∧ source ∈ run.sources := by
  rw [importedSources, List.mem_flatMap]
  simp only [List.mem_filter, Bool.not_eq_true', and_assoc]

theorem importedSources_subset (h : source ∈ importedSources runs) :
    source ∈ fetchedSources runs := by
  obtain ⟨run, hrun, -, hsource⟩ := mem_importedSources.1 h
  exact List.mem_flatMap.2 ⟨run, hrun, hsource⟩

theorem runImport_returns (htracks : Tracks env db) (h : run.Survived) :
    ∃ totals db', runImport env run db = (.ok totals, db') := by
  apply runTables_survived htracks
  intro i hi
  rw [Nat.zero_add]
  exact h i hi

/-- The invariant of the runs: the marked keys are those of the imported rows, every key is there
once, and every imported row was to be imported. -/
structure Held (env : ImportEnv) (sources : List Source) (db : Database) : Prop where
  tracks : Tracks env db
  unique : (db.origins.map (importKey env)).Nodup
  fetched : ∀ source ∈ db.origins, source ∈ sources

theorem Held.step (hheld : Held env sources db)
    (hrun : run.dryRun = false → ∀ source ∈ run.sources, source ∈ sources) :
    Held env sources (importStep env db run) := by
  obtain ⟨htracks, done, c, hdone, hsteps⟩ := importStep_steps hheld.tracks run
  refine ⟨htracks, hsteps.nodup hheld.unique, ?_⟩
  intro source hsource
  cases hdry : run.dryRun with
  | true =>
    rw [hdry] at hsteps
    rw [hsteps.inserted_dry.1] at hsource
    exact hheld.fetched source hsource
  | false =>
    rcases hsteps.mem hsource with hold | hnew
    · exact hheld.fetched source hold
    · exact hrun hdry source (hdone source hnew)

theorem importStep_kept (htracks : Tracks env db) (h : source ∈ db.origins) :
    source ∈ (importStep env db run).origins := by
  obtain ⟨-, done, c, -, hsteps⟩ := importStep_steps htracks run
  exact hsteps.kept h

/-- What the database carries out for a row of a run that comes to an end is in the tables. -/
theorem importStep_carried (htracks : Tracks env db) (hreal : run.dryRun = false)
    (hsurvived : run.Survived) (hitem : (source, answers) ∈ run.items) (huser : ¬ Nobody source)
    (htaken : run.Takes env source) (hcarried : answers.Carried) :
    importKey env source ∈ (importStep env db run).origins.map (importKey env) := by
  obtain ⟨totals, db', hresult⟩ := runImport_returns htracks hsurvived
  rw [importStep, hresult]
  exact runTables_carried htracks hreal hitem huser htaken hcarried hresult

theorem Held.final (hheld : Held env (importedSources runs) db) {later : List Run}
    (hlater : ∀ run ∈ later, run ∈ runs) :
    Held env (importedSources runs) (Runs.final (importStep env) db later) := by
  induction later generalizing db with
  | nil => exact hheld
  | cons run later ih =>
    rw [List.forall_mem_cons] at hlater
    refine ih (hheld.step fun hreal source hsource => ?_) hlater.2
    exact mem_importedSources.2 ⟨run, hlater.1, hreal, hsource⟩

theorem final_kept (htracks : Tracks env db) (h : source ∈ db.origins) (later : List Run) :
    source ∈ (Runs.final (importStep env) db later).origins := by
  induction later generalizing db with
  | nil => exact h
  | cons run later ih => exact ih (importStep_steps htracks run).1 (importStep_kept htracks h)

/-- A row that one of the runs is served with is in the table from then on. -/
theorem Held.served (hheld : Held env (importedSources runs) db)
    (hkeys : ∀ source ∈ fetchedSources runs, ∀ source' ∈ fetchedSources runs,
      importKey env source = importKey env source' → source = source')
    {later : List Run} (hlater : ∀ run ∈ later, run ∈ runs) (hsource : source ∈ fetchedSources runs)
    (huser : ¬ Nobody source) (h : Served env later source) :
    source ∈ (Runs.final (importStep env) db later).origins := by
  induction later generalizing db with
  | nil =>
    obtain ⟨run, hrun, -⟩ := h
    cases hrun
  | cons first later ih =>
    rw [List.forall_mem_cons] at hlater
    have hstep : Held env (importedSources runs) (importStep env db first) :=
      hheld.step fun hreal source hsource =>
        mem_importedSources.2 ⟨first, hlater.1, hreal, hsource⟩
    obtain ⟨run, hrun, hreal, hsurvived, htaken, answers, hitem, hcarried⟩ := h
    rcases List.mem_cons.1 hrun with rfl | hrun
    · have hkey := importStep_carried hheld.tracks hreal hsurvived hitem huser htaken hcarried
      obtain ⟨source', hsource', heq⟩ := List.mem_map.1 hkey
      have hfetched := importedSources_subset (hstep.fetched source' hsource')
      obtain rfl := hkeys source' hfetched source hsource heq
      exact final_kept hstep.tracks hsource' later
    · exact ih hstep hlater.2 ⟨run, hrun, hreal, hsurvived, htaken, answers, hitem, hcarried⟩

end

def plainEnv : ImportEnv where
  str
    | .int n => toString n
    | .text s => s
    | _ => "None"
  int
    | .int n => .ok n
    | _ => .error .typeError
  digest := id
  accepts := fun _ => true

/-- The database carries out everything, but the insert of the row. -/
def answering (insert : Except Raised Unit) : RowAnswers := ⟨.ok (), insert, .ok (), .ok (), .ok ()⟩

def note (date text : String) : SourceRow :=
  [("UserID", .int 7), ("CreateDate", .text date), ("NoteText", .text text)]

end RetoolImport
end StudentSuccess
