import StudentSuccess.NarrativeBatch
import StudentSuccess.NarrativeMonths
import StudentSuccess.PyText

namespace StudentSuccess
namespace NarrativeReplies
set_option autoImplicit true
open Repository (Insight)
open Calendar (Month)
open Snapshot Narratives Sessions

/-- The texts of a reply; one that is no object has none. -/
def replyTexts (repr : Py.Value → String) (narratives : Py.Value) (type : NarrativeType) :
    Option String :=
  match narratives with
  | .dict entries => (content entries type).map (·.text repr)
  | _ => none

/-- The model call, as far as the generation of the texts sees it. -/
def NarrativeEnv.texts (env : NarrativeEnv) : Complete := fun student =>
  match (env.complete student).narratives with
  | .error exc => .error exc.text
  | .ok narratives => .ok (replyTexts env.repr narratives)

/-- The session ends as the generation of the texts does, or it raises and the rows stay. -/
def Refines (insights : Insights) (result : Except Raised GenerateResult × Session Insights Insight)
    (texts : Table AIInsight (·.id) × GenerateResult) : Prop :=
  (∃ e, result.1 = .error e ∧ Rests result.2 insights) ∨
    ∃ insights', result.1 = .ok texts.2 ∧ Rests result.2 insights' ∧ narrated insights' = texts.1

section
variable {env : NarrativeEnv} {student : StudentTriggerData} {s : Session Insights Insight}

theorem text_ne_empty {v : Py.Value} (hrepr : ∀ v, env.repr v ≠ "") (h : v.truthy = true) :
    v.text env.repr ≠ "" := by
  cases v with
  | null => cases h
  | bool b =>
    cases h
    exact of_decide_eq_true rfl
  | int n => exact Py.intText_ne_empty n
  | str s => exact bne_iff_ne.1 h
  | float | list | dict => exact hrepr _

theorem narrated_rows (insights : Insights) :
    (narrated insights).rows = insights.rows.map (·.toAIInsight) := rfl

theorem nextId_narrated (insights : Insights) : (narrated insights).nextId = insights.nextId := by
  rw [Table.nextId, narrated_rows, List.map_map]
  rfl

/-- The row of a type has the columns that the generation of the texts gives it. -/
theorem narrated_insertNew (env : NarrativeEnv) (userId : Int) (type : NarrativeType)
    (value : Py.Value) (insights : Insights)
    (h : ∀ id, ({ narrativeRow env userId type value with id := id } : Insight).id = id)
    (h' : ∀ id, (narrativeInsight userId (env.createdAt userId) type (value.text env.repr)
      id).id = id) :
    narrated (insights.insertNew
        (fun id => { narrativeRow env userId type value with id := id }) h) =
      (narrated insights).insertNew
        (narrativeInsight userId (env.createdAt userId) type (value.text env.repr)) h' := by
  have hrows : ∀ t t' : Table AIInsight (·.id), t.rows = t'.rows → t = t' := by
    rintro ⟨rows, _⟩ ⟨_, _⟩ rfl
    rfl
  apply hrows
  rw [Table.insertNew_rows, nextId_narrated, narrated_rows, narrated_rows, Table.insertNew_rows,
    List.map_append]
  rfl

/-- The inserts that the database takes are the loop over the types. -/
theorem flush_madeRows (hrepr : ∀ v, env.repr v ≠ "") (userId : Int)
    (entries : List (String × Py.Value)) (types : List NarrativeType)
    (hflush : flush (insertInsight env) (madeRows env userId entries types) insights =
      .ok insights') :
    Narratives.addNarratives userId (env.createdAt userId) (replyTexts env.repr (.dict entries))
      types (narrated insights) = (narrated insights', given entries types) := by
  induction types generalizing insights with
  | nil =>
    cases hflush
    rfl
  | cons type types ih =>
    rw [Narratives.addNarratives, replyTexts]
    cases hcontent : content entries type with
    | none =>
      rw [madeRows_cons_none hcontent] at hflush
      rw [given_cons_none hcontent]
      exact ih hflush
    | some value =>
      have htruthy : value.truthy = true := by
        rw [content, Option.filter_eq_some_iff] at hcontent
        exact hcontent.2
      rw [madeRows_cons_some hcontent, flush, List.foldlM_cons, insertInsight] at hflush
      rw [given_cons_some hcontent, Option.map_some, Option.getD_some]
      dsimp only
      rw [if_neg (text_ne_empty hrepr htruthy),
        ← narrated_insertNew env userId type value insights (fun _ => rfl) fun _ => rfl]
      cases htakes : env.takes (narrativeRow env userId type value) with
      | error e =>
        rw [htakes] at hflush
        cases hflush
      | ok u =>
        rw [htakes] at hflush
        rw [ih hflush]

theorem persistNarratives_refines {skipped needed : List NarrativeType}
    (hrepr : ∀ v, env.repr v ≠ "") (hs : Rests s insights) (hneeded : needed ≠ [])
    (hadded : Narratives.addNarratives userId (env.createdAt userId)
      (replyTexts env.repr narratives) needed (narrated insights) = (texts, generated)) :
    Refines insights ((persistNarratives env userId skipped needed narratives).after s)
      (texts, ⟨generated, skipped, none⟩) := by
  rw [persistNarratives, after_bind]
  by_cases hdict : ∃ entries, narratives = .dict entries
  · obtain ⟨entries, rfl⟩ := hdict
    rw [addNarratives_dict]
    dsimp only
    by_cases hgiven : given entries needed = []
    · have hnone : flush (insertInsight env) (madeRows env userId entries needed) insights =
          .ok insights := by
        rw [madeRows_of_given hgiven]
        rfl
      cases (flush_madeRows hrepr userId entries needed hnone).symm.trans hadded
      rw [if_pos hgiven, madeRows_of_given hgiven, List.append_nil, hgiven]
      exact .inr ⟨insights, rfl, hs, rfl⟩
    · rw [if_neg hgiven, after_bind, commit_rows hs (madeRows_ne_nil hgiven)]
      cases hflush : flush (insertInsight env) (madeRows env userId entries needed) insights with
      | error e => exact .inl ⟨e, rfl, rests_idle insights⟩
      | ok insights' =>
        cases (flush_madeRows hrepr userId entries needed hflush).symm.trans hadded
        exact .inr ⟨insights', rfl, rests_idle insights', rfl⟩
  · obtain ⟨e, hraise⟩ := addNarratives_other env userId s
      (fun entries h => hdict ⟨entries, h⟩) hneeded
    rw [hraise]
    exact .inl ⟨e, rfl, hs⟩

/-- A student's session refines the generation of the student's texts. -/
theorem generateStudentNarratives_refines (hrepr : ∀ v, env.repr v ≠ "")
    (student : StudentTriggerData) (hs : Rests s insights) :
    Refines insights ((generateStudentNarratives env student).after s)
      (Narratives.generateStudentNarratives env.texts (env.createdAt student.userId) student.userId
        student (narrated insights)) := by
  have hs' : Rests { s with transaction := some s.view } insights :=
    ⟨hs.view, hs.committed, hs.added⟩
  rw [generateStudentNarratives, after_bind, read_finalized hs,
    Narratives.generateStudentNarratives]
  dsimp only
  rw [← neededTypes]
  split
  · exact .inr ⟨insights, rfl, hs', rfl⟩
  · next hneeded =>
    rw [NarrativeEnv.texts]
    cases (env.complete student).narratives with
    | error exc => exact .inr ⟨insights, rfl, hs', rfl⟩
    | ok narratives => exact persistNarratives_refines hrepr hs' hneeded rfl

/-- The batch refines the generation of the texts, up to the student at whom it raises. -/
theorem generateStudents_refines (hrepr : ∀ v, env.repr v ≠ "") (counts : GenerateCounts)
    (students : List StudentTriggerData) (hs : Rests s insights) :
    ∃ served insights', served <+: students ∧
      Rests ((generateStudents env counts students).after s).2 insights' ∧
      narrated insights' =
        (Narratives.generateStudents env.texts env.createdAt counts served (narrated insights)).1 ∧
      ∀ counts', ((generateStudents env counts students).after s).1 = .ok counts' →
        served = students ∧ counts' =
          (Narratives.generateStudents env.texts env.createdAt counts students
            (narrated insights)).2 := by
  induction students generalizing s insights counts with
  | nil =>
    refine ⟨[], insights, List.prefix_rfl, hs, rfl, ?_⟩
    rintro counts' ⟨⟩
    exact ⟨rfl, rfl⟩
  | cons student students ih =>
    have hturn := generateStudentNarratives_refines hrepr student hs
    rw [generateStudents, after_bind]
    cases hresult : (generateStudentNarratives env student).after s with
    | mk result s₁ =>
      rw [hresult] at hturn
      rcases hturn with hraise | hreturn
      · obtain ⟨e, rfl, hrests⟩ := hraise
        refine ⟨[], insights, List.nil_prefix, hrests, rfl, ?_⟩
        intro counts' hok
        cases hok
      · obtain ⟨insights₁, rfl, hrests, hsame⟩ := hreturn
        obtain ⟨served, insights', hserved, hrests', hsame', hcounts⟩ := ih (counts.add _ _) hrests
        rw [hsame] at hsame' hcounts
        refine ⟨student :: served, insights', List.cons_prefix_cons.2 ⟨rfl, hserved⟩, hrests',
          hsame', ?_⟩
        intro counts' hok
        obtain ⟨rfl, hcounts'⟩ := hcounts counts' hok
        exact ⟨rfl, hcounts'⟩

/-- The endpoint's session leaves the rows, and answers, as the generation of the texts does. -/
theorem generateAllMonthlyNarratives_refines (hrepr : ∀ v, env.repr v ≠ "")
    (mirror : Table StudentTriggerData (·.userId)) (before : Insights) :
    ∃ served, served <+: mirror.rows ∧
      narrated (withSession (generateAllMonthlyNarratives env mirror) before).2 =
        (Narratives.generateAllMonthlyNarratives env.llmApiKey env.llmModel env.texts
          env.createdAt served (narrated before)).1 ∧
      ∀ answer, (withSession (generateAllMonthlyNarratives env mirror) before).1 = .ok answer →
        served = mirror.rows ∧ answer =
          (Narratives.generateAllMonthlyNarratives env.llmApiKey env.llmModel env.texts
            env.createdAt mirror.rows (narrated before)).2 := by
  by_cases hkey : env.llmApiKey = ""
  · refine ⟨mirror.rows, List.prefix_rfl, ?_, ?_⟩
    · rw [batch_without_key mirror before hkey, Narratives.generateAllMonthlyNarratives,
        if_pos hkey]
    · rw [batch_without_key mirror before hkey, Narratives.generateAllMonthlyNarratives,
        if_pos hkey]
      rintro answer ⟨⟩
      exact ⟨rfl, rfl⟩
  · obtain ⟨served, after, hserved, hrests, hsame, hcounts⟩ :=
      generateStudents_refines hrepr {} mirror.rows (rests_read before)
    refine ⟨served, hserved, ?_⟩
    rw [withSession, generateAll_after mirror before hkey, after_bind,
      Narratives.generateAllMonthlyNarratives, Narratives.generateAllMonthlyNarratives,
      if_neg hkey, if_neg hkey]
    cases hresult : (generateStudents env {} mirror.rows).after
        { Session.idle before with transaction := some before } with
    | mk result s =>
      rw [hresult] at hrests hcounts
      rw [← hsame, ← hrests.committed]
      cases result with
      | error e =>
        refine ⟨rfl, ?_⟩
        intro answer hok
        cases hok
      | ok counts =>
        obtain ⟨hall, rfl⟩ := hcounts counts rfl
        refine ⟨rfl, ?_⟩
        rintro answer ⟨⟩
        exact ⟨hall, rfl⟩

/-- What the endpoint's session does to the rows is a run of the month's generations. -/
theorem generateAllMonthlyNarratives_writes (hrepr : ∀ v, env.repr v ≠ "") (month : Month)
    (mirror : Table StudentTriggerData (·.userId)) {s : NarrativeMonths.Records}
    (hs : narrated before = s.insights) :
    ∃ served, served <+: mirror.rows ∧
      narrated (withSession (generateAllMonthlyNarratives env mirror) before).2 =
        (Runs.final NarrativeMonths.step s (served.map fun row =>
          .generate month row (env.createdAt row.userId) env.texts)).insights := by
  by_cases hkey : env.llmApiKey = ""
  · refine ⟨[], List.nil_prefix, ?_⟩
    rw [batch_without_key mirror before hkey]
    exact hs
  · obtain ⟨served, hserved, hsame, -⟩ :=
      generateAllMonthlyNarratives_refines hrepr mirror before
    refine ⟨served, hserved, ?_⟩
    rw [hsame, hs, NarrativeMonths.generateAllMonthlyNarratives_run month env.llmModel env.texts
      env.createdAt served s hkey]

end
end NarrativeReplies
end StudentSuccess
