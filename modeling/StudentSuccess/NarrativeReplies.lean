import StudentSuccess.InsightFinalization
import StudentSuccess.NarrativeGeneration
import StudentSuccess.Sessions

namespace StudentSuccess
namespace NarrativeReplies
set_option autoImplicit true
open Repository (Insight)
open Snapshot Narratives Sessions

abbrev Insights := Table Insight (·.id)

/-- An exception with its class. -/
structure Raised where
  className : String
  message : String

/-- `f"{type(exc).__name__}: {exc}"`. -/
def Raised.text (exc : Raised) : String := exc.className ++ ": " ++ exc.message

/-- How the model call for a student ends: it raises, or the message has no content, a content
that is no JSON, or the JSON text of a value. -/
inductive Reply
  | raised (exc : Raised)
  | empty
  | invalid (exc : Raised)
  | json (value : Py.Value)

/-- `json.loads(resp.choices[0].message.content or "{}")`, with what the guard around it catches. -/
def Reply.narratives : Reply → Except Raised Py.Value
  | .raised exc => .error exc
  | .empty => .ok (.dict [])
  | .invalid exc => .error exc
  | .json value => .ok value

/-- The settings, the answers of the model and of the database, and the clocks and the ids of a
student's turn. A reply is also given where the context of the student cannot be built. -/
structure NarrativeEnv where
  llmApiKey : String
  llmModel : String
  complete : StudentTriggerData → Reply
  repr : Py.Value → String
  takes : Insight → Except Raised Unit
  now : Int → Instant
  createdAt : Int → Instant
  uuid4 : Int → NarrativeType → String

def typeName : Py.Value → String
  | .null => "NoneType"
  | .bool _ => "bool"
  | .int _ => "int"
  | .float _ => "float"
  | .str _ => "str"
  | .list _ => "list"
  | .dict _ => "dict"

def getNarrative (narratives : Py.Value) (key : String) : Except Raised (Option Py.Value) :=
  match narratives with
  | .dict entries => .ok (Py.get? key entries)
  | v => .error ⟨"AttributeError", "'" ++ typeName v ++ "' object has no attribute 'get'"⟩

/-- The row for a type; the database gives it its id. -/
def narrativeRow (env : NarrativeEnv) (userId : Int) (type : NarrativeType) (content : Py.Value) :
    Insight where
  id := 0
  userId := userId
  insightType := type.text
  contentText := some (content.text env.repr)
  contentJson := none
  modelUsed := some env.llmModel
  isFinalized := true
  finalizedAt := some (env.now userId)
  correlationId := some (env.uuid4 userId type)
  causationId := none
  configVersionId := none
  executionMode := "SHADOW"
  executionType := "original"
  governanceScope := "SHADOW_ONLY"
  originSource := some "generate_monthly_narratives"
  originAuthority := some "narrative_generation_service"
  isReplay := false
  createdAt := env.createdAt userId
  expiresAt := none

def insertInsight (env : NarrativeEnv) (obj : Insight) (insights : Insights) :
    Except Raised Insights :=
  (env.takes obj).map fun _ => insights.insertNew (fun id => { obj with id := id }) fun _ => rfl

/-- The columns of the insights that the narratives are looked up by. -/
def narrated (insights : Insights) : Table AIInsight (·.id) where
  rows := insights.rows.map (·.toAIInsight)
  unique := by
    rw [List.map_map]
    exact insights.unique

def addNarratives (env : NarrativeEnv) (userId : Int) (narratives : Py.Value) :
    List NarrativeType → Action Raised Insights Insight (List NarrativeType)
  | [] => pure []
  | type :: rest => do
    let content ← lift (getNarrative narratives type.text)
    match content.filter (·.truthy) with
    | none => addNarratives env userId narratives rest
    | some content => do
      add (narrativeRow env userId type content)
      let generated ← addNarratives env userId narratives rest
      return type :: generated

/-- What `generate_student_narratives` does with the value of a reply. -/
def persistNarratives (env : NarrativeEnv) (userId : Int) (skipped needed : List NarrativeType)
    (narratives : Py.Value) : Action Raised Insights Insight GenerateResult := do
  let generated ← addNarratives env userId narratives needed
  if generated = [] then return ⟨[], skipped, none⟩
  else do
    commit (insertInsight env) (.ok ())
    return ⟨generated, skipped, none⟩

def generateStudentNarratives (env : NarrativeEnv) (student : StudentTriggerData) :
    Action Raised Insights Insight GenerateResult := do
  let skipped ← execute fun insights =>
    .ok (insights, alreadyFinalized (narrated insights) student.userId)
  let needed := narrativeTypes.filter fun type => type ∉ skipped
  if needed = [] then return ⟨[], skipped, none⟩
  else
    match (env.complete student).narratives with
    | .error exc => return ⟨[], skipped, some exc.text⟩
    | .ok narratives => persistNarratives env student.userId skipped needed narratives

def generateStudents (env : NarrativeEnv) (counts : GenerateCounts) :
    List StudentTriggerData → Action Raised Insights Insight GenerateCounts
  | [] => pure counts
  | row :: rest => do
    let result ← generateStudentNarratives env row
    generateStudents env (counts.add row.userId result) rest

def generateAllMonthlyNarratives (env : NarrativeEnv)
    (mirror : Table StudentTriggerData (·.userId)) :
    Action Raised Insights Insight GenerateAllResult :=
  if env.llmApiKey = "" then return .notConfigured "LLM_API_KEY not configured in .env"
  else do
    let rows ← execute fun insights => .ok (insights, mirror.rows)
    let counts ← generateStudents env {} rows
    return .done rows.length counts env.llmModel

/-- The value of a type that the loop takes for a content. -/
def content (entries : List (String × Py.Value)) (type : NarrativeType) : Option Py.Value :=
  (Py.get? type.text entries).filter (·.truthy)

def given (entries : List (String × Py.Value)) (types : List NarrativeType) :
    List NarrativeType :=
  types.filter fun type => (content entries type).isSome

def madeRows (env : NarrativeEnv) (userId : Int) (entries : List (String × Py.Value))
    (types : List NarrativeType) : List Insight :=
  types.filterMap fun type => (content entries type).map (narrativeRow env userId type)

/-- The rows without what the sequence of the table decides. -/
def contents (insights : Insights) : List Insight := insights.rows.map fun r => { r with id := 0 }

abbrev Made := Option (GenerateResult × List Insight)

def madeOf (env : NarrativeEnv) (userId : Int) (skipped needed : List NarrativeType) :
    Py.Value → Made
  | .dict entries =>
    if ∀ r ∈ madeRows env userId entries needed, (env.takes r).isOk then
      some (⟨given entries needed, skipped, none⟩, madeRows env userId entries needed)
    else none
  | _ => none

def made (env : NarrativeEnv) (student : StudentTriggerData) (skipped : List NarrativeType) :
    Made :=
  let needed := narrativeTypes.filter fun type => type ∉ skipped
  if needed = [] then some (⟨[], skipped, none⟩, [])
  else
    match (env.complete student).narratives with
    | .error exc => some (⟨[], skipped, some exc.text⟩, [])
    | .ok narratives => madeOf env student.userId skipped needed narratives

/-- The session between two statements: nothing is pending. -/
structure Rests (s : Session Insights Insight) (insights : Insights) : Prop where
  view : s.view = insights
  committed : s.committed = insights
  added : s.added = []

section
variable {env : NarrativeEnv} {student : StudentTriggerData} {s : Session Insights Insight}

theorem rests_idle (insights : Insights) : Rests (.idle insights) insights := ⟨rfl, rfl, rfl⟩

theorem given_cons_none (h : content entries type = none) (types : List NarrativeType) :
    given entries (type :: types) = given entries types := by
  rw [given, List.filter_cons_of_neg (by rw [h]; exact Bool.false_ne_true)]
  rfl

theorem given_cons_some (h : content entries type = some value) (types : List NarrativeType) :
    given entries (type :: types) = type :: given entries types := by
  rw [given, List.filter_cons_of_pos (by rw [h]; rfl)]
  rfl

theorem madeRows_cons_none (h : content entries type = none) (types : List NarrativeType) :
    madeRows env userId entries (type :: types) = madeRows env userId entries types :=
  List.filterMap_cons_none (by rw [h]; rfl)

theorem madeRows_cons_some (h : content entries type = some value) (types : List NarrativeType) :
    madeRows env userId entries (type :: types) =
      narrativeRow env userId type value :: madeRows env userId entries types :=
  List.filterMap_cons_some (by rw [h]; rfl)

theorem addNarratives_dict (env : NarrativeEnv) (userId : Int)
    (entries : List (String × Py.Value)) (types : List NarrativeType)
    (s : Session Insights Insight) :
    (addNarratives env userId (.dict entries) types).after s =
      (.ok (given entries types),
        { s with added := s.added ++ madeRows env userId entries types }) := by
  induction types generalizing s with
  | nil => simp [addNarratives, given, madeRows]
  | cons type types ih =>
    have hget : (lift (getNarrative (.dict entries) type.text) :
        Action Raised Insights Insight _).after s = (.ok (Py.get? type.text entries), s) := rfl
    rw [addNarratives, after_bind, hget]
    cases hcontent : content entries type with
    | none =>
      rw [given_cons_none hcontent, madeRows_cons_none hcontent, ← ih]
      rw [content] at hcontent
      simp only [hcontent]
    | some value =>
      have hadd : (add (narrativeRow env userId type value) :
          Action Raised Insights Insight _).after s =
          (.ok (), { s with added := s.added ++ [narrativeRow env userId type value] }) := rfl
      rw [given_cons_some hcontent, madeRows_cons_some hcontent]
      rw [content] at hcontent
      simp only [hcontent]
      rw [after_bind, hadd]
      dsimp only
      rw [after_bind, ih, List.append_assoc]
      rfl

theorem addNarratives_other (env : NarrativeEnv) (userId : Int) (s : Session Insights Insight)
    (hdict : ∀ entries, narratives ≠ .dict entries) (htypes : types ≠ []) :
    ∃ e, (addNarratives env userId narratives types).after s = (.error e, s) := by
  cases types with
  | nil => exact absurd rfl htypes
  | cons type types =>
    cases narratives with
    | dict entries => exact absurd rfl (hdict entries)
    | null | bool | int | float | str | list =>
      exact ⟨_, rfl⟩

@[simp] theorem contents_insertNew (insights : Insights) (obj : Insight)
    (h : ∀ id, ({ obj with id := id } : Insight).id = id) :
    contents (insights.insertNew (fun id => { obj with id := id }) h) =
      contents insights ++ [{ obj with id := 0 }] := by
  rw [contents, Table.insertNew_rows, List.map_append]
  rfl

theorem flush_taken {rows : List Insight} (hid : ∀ r ∈ rows, r.id = 0)
    (htakes : ∀ r ∈ rows, (env.takes r).isOk = true) (insights : Insights) :
    ∃ insights', flush (insertInsight env) rows insights = .ok insights' ∧
      contents insights' = contents insights ++ rows := by
  induction rows generalizing insights with
  | nil => exact ⟨insights, rfl, (List.append_nil _).symm⟩
  | cons r rows ih =>
    have htake := htakes r (.head _)
    cases hanswer : env.takes r with
    | error e =>
      rw [hanswer] at htake
      cases htake
    | ok u =>
      obtain ⟨insights', hflush, hcontents⟩ := ih (fun r' h => hid r' (.tail _ h))
        (fun r' h => htakes r' (.tail _ h))
        (insights.insertNew (fun id => { r with id := id }) fun _ => rfl)
      refine ⟨insights', ?_, ?_⟩
      · rw [flush, List.foldlM_cons, insertInsight, hanswer]
        exact hflush
      · have hr : ({ r with id := 0 } : Insight) = r := by rw [← hid r (.head _)]
        rw [hcontents, contents_insertNew, hr, List.append_assoc]
        rfl

theorem flush_refused {rows : List Insight} (h : ∃ r ∈ rows, (env.takes r).isOk = false)
    (insights : Insights) : ∃ e, flush (insertInsight env) rows insights = .error e := by
  induction rows generalizing insights with
  | nil =>
    obtain ⟨r, hr, -⟩ := h
    cases hr
  | cons r rows ih =>
    rw [flush, List.foldlM_cons, insertInsight]
    cases hanswer : env.takes r with
    | error e => exact ⟨e, rfl⟩
    | ok u =>
      obtain ⟨r', hr', hrefused⟩ := h
      cases hr' with
      | head => simp [hanswer, Except.isOk, Except.toBool] at hrefused
      | tail _ hr' => exact ih ⟨r', hr', hrefused⟩ _

theorem madeRows_id {entries : List (String × Py.Value)} {types : List NarrativeType} :
    ∀ r ∈ madeRows env userId entries types, r.id = 0 := by
  intro r hr
  obtain ⟨type, -, hr⟩ := List.mem_filterMap.1 hr
  obtain ⟨value, -, rfl⟩ := Option.map_eq_some_iff.1 hr
  rfl

theorem madeRows_of_given (h : given entries types = []) :
    madeRows env userId entries types = [] := by
  rw [given, List.filter_eq_nil_iff] at h
  rw [madeRows, List.filterMap_eq_nil_iff]
  intro type htype
  rw [Option.map_eq_none_iff, ← Option.not_isSome_iff_eq_none]
  exact h type htype

theorem madeRows_ne_nil (h : given entries types ≠ []) :
    madeRows env userId entries types ≠ [] := by
  intro hrows
  rw [madeRows, List.filterMap_eq_nil_iff] at hrows
  apply h
  rw [given, List.filter_eq_nil_iff]
  intro type htype
  rw [Option.not_isSome_iff_eq_none]
  exact Option.map_eq_none_iff.1 (hrows type htype)

/-- In a session that rests, a commit of new rows is the outcome of their inserts. -/
theorem commit_rows {rows : List Insight} (hs : Rests s insights) (hrows : rows ≠ []) :
    (commit (insertInsight env) (.ok ()) : Action Raised Insights Insight Unit).after
        { s with added := s.added ++ rows } =
      match flush (insertInsight env) rows insights with
      | .ok insights' => (.ok (), .idle insights')
      | .error e => (.error e, .idle insights) := by
  have hdirty : ({ s with added := s.added ++ rows } : Session Insights Insight).clean = false := by
    rw [Session.clean, hs.added]
    cases rows with
    | nil => exact absurd rfl hrows
    | cons r rows => exact Bool.and_false _
  have hview : flush (insertInsight env) (s.added ++ rows)
      ({ s with added := s.added ++ rows } : Session Insights Insight).view =
        flush (insertInsight env) rows insights := by
    rw [hs.added, ← hs.view]
    rfl
  cases hflush : flush (insertInsight env) rows insights with
  | error e =>
    rw [hflush] at hview
    rw [commit_flush_error hdirty hview, hs.committed]
  | ok insights' =>
    rw [hflush] at hview
    exact (commit_eq_ok hdirty).2 ⟨insights', hview, rfl, rfl⟩

theorem commit_rests {rows : List Insight} (hs : Rests s insights) (hid : ∀ r ∈ rows, r.id = 0)
    (htakes : ∀ r ∈ rows, (env.takes r).isOk = true) (hrows : rows ≠ []) :
    ∃ s' insights', (commit (insertInsight env) (.ok ()) :
      Action Raised Insights Insight Unit).after
        { s with added := s.added ++ rows } = (.ok (), s') ∧ Rests s' insights' ∧
      contents insights' = contents insights ++ rows := by
  obtain ⟨insights', hflush, hcontents⟩ := flush_taken hid htakes insights
  refine ⟨.idle insights', insights', ?_, rests_idle insights', hcontents⟩
  rw [commit_rows hs hrows, hflush]

theorem commit_refused {rows : List Insight} (hs : Rests s insights)
    (hrefused : ∃ r ∈ rows, (env.takes r).isOk = false) :
    ∃ e s', (commit (insertInsight env) (.ok ()) : Action Raised Insights Insight Unit).after
        { s with added := s.added ++ rows } = (.error e, s') ∧ Rests s' insights := by
  obtain ⟨e, hflush⟩ := flush_refused hrefused insights
  refine ⟨e, .idle insights, ?_, rests_idle insights⟩
  obtain ⟨r, hr, -⟩ := hrefused
  rw [commit_rows hs (List.ne_nil_of_mem hr), hflush]

/-- A run that ends with what was made: the rows are committed with the others, or nothing is. -/
def Ends (insights : Insights) (result : Except Raised GenerateResult × Session Insights Insight) :
    Made → Prop
  | some (returned, rows) => ∃ insights', result.1 = .ok returned ∧ Rests result.2 insights' ∧
      contents insights' = contents insights ++ rows
  | none => ∃ e, result.1 = .error e ∧ Rests result.2 insights

theorem ends_without_rows (hs : Rests s insights) (returned : GenerateResult) :
    Ends insights ((pure returned : Action Raised Insights Insight GenerateResult).after s)
      (some (returned, [])) :=
  ⟨insights, rfl, hs, (List.append_nil _).symm⟩

theorem persistNarratives_dict {skipped needed : List NarrativeType} (hs : Rests s insights) :
    Ends insights ((persistNarratives env userId skipped needed (.dict entries)).after s)
      (madeOf env userId skipped needed (.dict entries)) := by
  rw [persistNarratives, after_bind, addNarratives_dict, madeOf]
  dsimp only
  by_cases hgiven : given entries needed = []
  · rw [if_pos hgiven, madeRows_of_given hgiven, hgiven, List.append_nil,
      if_pos (List.forall_mem_nil _)]
    exact ends_without_rows hs _
  · have hrows : madeRows env userId entries needed ≠ [] := madeRows_ne_nil hgiven
    rw [if_neg hgiven, after_bind]
    by_cases htakes : ∀ r ∈ madeRows env userId entries needed, (env.takes r).isOk = true
    · obtain ⟨s', insights', hcommit, hs', hcontents⟩ := commit_rests hs madeRows_id htakes hrows
      rw [hcommit, if_pos htakes]
      exact ⟨insights', rfl, hs', hcontents⟩
    · rw [if_neg htakes]
      push Not at htakes
      obtain ⟨r, hr, hrefused⟩ := htakes
      obtain ⟨e, s', hcommit, hs'⟩ := commit_refused hs ⟨r, hr, Bool.eq_false_iff.2 hrefused⟩
      rw [hcommit]
      exact ⟨e, rfl, hs'⟩

theorem persistNarratives_other {skipped needed : List NarrativeType} (hs : Rests s insights)
    (hneeded : needed ≠ []) (hdict : ∀ entries, narratives ≠ .dict entries) :
    Ends insights ((persistNarratives env userId skipped needed narratives).after s)
      (madeOf env userId skipped needed narratives) := by
  obtain ⟨e, hraise⟩ := addNarratives_other env userId s hdict hneeded
  rw [persistNarratives, after_bind, hraise]
  cases narratives with
  | dict entries => exact absurd rfl (hdict entries)
  | null | bool | int | float | str | list => exact ⟨e, rfl, hs⟩

theorem read_finalized (hs : Rests s insights) :
    (execute (fun insights =>
        .ok (insights, alreadyFinalized (narrated insights) student.userId)) :
      Action Raised Insights Insight (List NarrativeType)).after s =
        (.ok (alreadyFinalized (narrated insights) student.userId),
          { s with transaction := some s.view }) := by
  rw [← hs.view]
  rfl

theorem generateStudentNarratives_ends (env : NarrativeEnv) (student : StudentTriggerData)
    (hs : Rests s insights) :
    Ends insights ((generateStudentNarratives env student).after s)
      (made env student (alreadyFinalized (narrated insights) student.userId)) := by
  have hs' : Rests { s with transaction := some s.view } insights :=
    ⟨hs.view, hs.committed, hs.added⟩
  rw [generateStudentNarratives, after_bind, read_finalized hs, made]
  dsimp only
  split
  · exact ends_without_rows hs' _
  · next hneeded =>
    cases (env.complete student).narratives with
    | error exc => exact ends_without_rows hs' _
    | ok narratives =>
      by_cases hdict : ∃ entries, narratives = .dict entries
      · obtain ⟨entries, rfl⟩ := hdict
        exact persistNarratives_dict hs'
      · exact persistNarratives_other hs' hneeded fun entries h => hdict ⟨entries, h⟩

end

end NarrativeReplies
end StudentSuccess
