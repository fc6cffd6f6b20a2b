import StudentSuccess.FinalizedRows
import StudentSuccess.NarrativeReplies

namespace StudentSuccess
namespace NarrativeReplies
set_option autoImplicit true
open Repository (Insight)
open Snapshot Narratives Sessions

def alone (env : NarrativeEnv) (before : Insights) (student : StudentTriggerData) :
    Except Raised GenerateResult × Insights :=
  withSession (generateStudentNarratives env student) before

/-- A student's rows, without what the sequence of the table decides. -/
def rowsOf (insights : Insights) (userId : Int) : List Insight :=
  (contents insights).filter fun r => r.userId = userId

def finalizedRows (insights : Insights) (userId : Int) (type : NarrativeType) : List Insight :=
  insights.rows.filter fun r => Finalizes r.toAIInsight userId type

/-- The batch takes a student with the result for one whose narratives were all there. -/
def CountsFinalized (student : StudentTriggerData) (result : GenerateResult) : Prop :=
  (({} : GenerateCounts).add student.userId result).skipped = 1

/-- What a batch is to do, and to count: every student is treated as in a run of its own. -/
structure Faithful (env : NarrativeEnv) (mirror : List StudentTriggerData)
    (before after : Insights) (counts : GenerateCounts)
    (results : StudentTriggerData → GenerateResult) : Prop where
  own : ∀ student ∈ mirror, (alone env before student).1 = .ok (results student) ∧
    rowsOf after student.userId = rowsOf (alone env before student).2 student.userId
  others : ∀ userId, userId ∉ mirror.map (·.userId) → rowsOf after userId = rowsOf before userId
  counted : counts = mirror.foldl (fun counts student =>
    counts.add student.userId (results student)) {}
  total : mirror.length = counts.new + counts.skipped + counts.failed
  finalized : ∀ student ∈ mirror, CountsFinalized student (results student) →
    ∀ type, ∃ r ∈ before.rows, Finalizes r.toAIInsight student.userId type
  single : ∀ userId type, (finalizedRows after userId type).length ≤
    max 1 (finalizedRows before userId type).length

/-- The batch returns, and faithfully; without the key of the model it leaves the table. -/
def Honest (env : NarrativeEnv) (mirror : Table StudentTriggerData (·.userId))
    (before : Insights) : Prop :=
  match withSession (generateAllMonthlyNarratives env mirror) before with
  | (.ok (.notConfigured _), after) => after = before
  | (.ok (.done total counts _), after) => total = mirror.rows.length ∧
      ∃ results, Faithful env mirror.rows before after counts results
  | (.error _, _) => False

/-- The student needs no narrative, or its reply raises within the guard, or it is an object with a
content for one needed type at least, of which the database takes every row. -/
def Usable (env : NarrativeEnv) (before : Insights) (student : StudentTriggerData) : Prop :=
  let needed := neededTypes (narrated before) student.userId
  needed = [] ∨ (∃ exc, (env.complete student).narratives = .error exc) ∨
    ∃ entries, (env.complete student).narratives = .ok (.dict entries) ∧
      given entries needed ≠ [] ∧
      ∀ r ∈ madeRows env student.userId entries needed, (env.takes r).isOk = true

section
variable {env : NarrativeEnv} {student : StudentTriggerData} {insights before : Insights}
  {s : Session Insights Insight}

theorem finalizes_iff_rowsOf : (∃ r ∈ insights.rows, Finalizes r.toAIInsight userId type) ↔
    ∃ r ∈ rowsOf insights userId, Finalizes r.toAIInsight userId type := by
  constructor
  · rintro ⟨r, hr, hrow⟩
    refine ⟨{ r with id := 0 }, ?_, hrow⟩
    rw [rowsOf, List.mem_filter]
    exact ⟨List.mem_map_of_mem (f := fun r : Insight => { r with id := 0 }) hr,
      decide_eq_true hrow.1⟩
  · rintro ⟨r, hr, hrow⟩
    rw [rowsOf, List.mem_filter, contents, List.mem_map] at hr
    obtain ⟨⟨r', hr', rfl⟩, -⟩ := hr
    exact ⟨r', hr', hrow⟩

theorem alreadyFinalized_congr (h : rowsOf insights userId = rowsOf before userId) :
    alreadyFinalized (narrated insights) userId = alreadyFinalized (narrated before) userId := by
  have hany : ∀ insights : Insights, ∀ type, ((narrated insights).rows.any fun r =>
      Finalizes r userId type) = true ↔
        ∃ r ∈ insights.rows, Finalizes r.toAIInsight userId type := by
    intro insights type
    simp [narrated, List.any_map]
  rw [alreadyFinalized, alreadyFinalized]
  apply List.filter_congr
  intro type _
  rw [Bool.eq_iff_iff, hany, hany, finalizes_iff_rowsOf, finalizes_iff_rowsOf, h]

theorem mem_neededTypes_narrated : type ∈ neededTypes (narrated insights) userId ↔
    ¬ ∃ r ∈ insights.rows, Finalizes r.toAIInsight userId type := by
  rw [mem_neededTypes]
  simp [narrated]

theorem madeRows_userId : ∀ r ∈ madeRows env userId entries types, r.userId = userId := by
  intro r hr
  obtain ⟨type, -, hr⟩ := List.mem_filterMap.1 hr
  obtain ⟨value, -, rfl⟩ := Option.map_eq_some_iff.1 hr
  rfl

theorem made_cases (h : made env student skipped = some (result, rows)) :
    (rows = [] ∧ (result = ⟨[], skipped, none⟩ ∧ narrativeTypes.filter (· ∉ skipped) = [] ∨
      ∃ exc, (env.complete student).narratives = .error exc ∧
        result = ⟨[], skipped, some exc.text⟩)) ∨
    ∃ entries, (env.complete student).narratives = .ok (.dict entries) ∧
      rows = madeRows env student.userId entries (narrativeTypes.filter (· ∉ skipped)) ∧
      result = ⟨given entries (narrativeTypes.filter (· ∉ skipped)), skipped, none⟩ ∧
      ∀ r ∈ rows, (env.takes r).isOk = true := by
  rw [made] at h
  split at h
  · next hneeded =>
    cases h
    exact .inl ⟨rfl, .inl ⟨rfl, hneeded⟩⟩
  · cases hreply : (env.complete student).narratives with
    | error exc =>
      rw [hreply] at h
      cases h
      exact .inl ⟨rfl, .inr ⟨exc, rfl, rfl⟩⟩
    | ok narratives =>
      rw [hreply] at h
      cases narratives with
      | dict entries =>
        dsimp only [madeOf] at h
        split at h
        · next htakes =>
          cases h
          exact .inr ⟨entries, rfl, rfl, rfl, htakes⟩
        · cases h
      | null | bool | int | float | str | list => cases h

theorem exc_text_ne (exc : Raised) : exc.text ≠ "" := by
  intro h
  have hlength := congrArg String.length h
  simp [Raised.text] at hlength

theorem countsFinalized_iff (result : GenerateResult) : CountsFinalized student result ↔
    Py.truthyText result.error = false ∧ result.generated = [] := by
  rw [CountsFinalized, GenerateCounts.add]
  cases herror : Py.truthyText result.error with
  | true => simp
  | false => by_cases hgenerated : result.generated = [] <;> simp [hgenerated]

theorem made_of_needless (h : neededTypes (narrated before) student.userId = []) :
    made env student (alreadyFinalized (narrated before) student.userId) =
      some (⟨[], alreadyFinalized (narrated before) student.userId, none⟩, []) :=
  if_pos h

theorem made_of_error (h : neededTypes (narrated before) student.userId ≠ [])
    (hreply : (env.complete student).narratives = .error exc) :
    made env student (alreadyFinalized (narrated before) student.userId) =
      some (⟨[], alreadyFinalized (narrated before) student.userId, some exc.text⟩, []) :=
  (if_neg h).trans (by rw [hreply])

theorem made_of_dict (h : neededTypes (narrated before) student.userId ≠ [])
    (hreply : (env.complete student).narratives = .ok (.dict entries))
    (htakes : ∀ r ∈ madeRows env student.userId entries
      (neededTypes (narrated before) student.userId), (env.takes r).isOk = true) :
    made env student (alreadyFinalized (narrated before) student.userId) =
      some (⟨given entries (neededTypes (narrated before) student.userId),
          alreadyFinalized (narrated before) student.userId, none⟩,
        madeRows env student.userId entries (neededTypes (narrated before) student.userId)) := by
  refine (if_neg h).trans ?_
  rw [hreply]
  exact if_pos htakes

theorem usable_iff : Usable env before student ↔ ∃ result rows,
    made env student (alreadyFinalized (narrated before) student.userId) = some (result, rows) ∧
      (CountsFinalized student result → neededTypes (narrated before) student.userId = []) := by
  constructor
  · intro h
    by_cases hneeded : neededTypes (narrated before) student.userId = []
    · exact ⟨_, _, made_of_needless hneeded, fun _ => hneeded⟩
    · rcases h with h | ⟨exc, hreply⟩ | ⟨entries, hreply, hgiven, htakes⟩
      · exact absurd h hneeded
      · refine ⟨_, _, made_of_error hneeded hreply, ?_⟩
        rw [countsFinalized_iff]
        rintro ⟨herror, -⟩
        exact absurd herror (by simp [Py.truthyText, exc_text_ne])
      · refine ⟨_, _, made_of_dict hneeded hreply htakes, ?_⟩
        rw [countsFinalized_iff]
        exact fun h => absurd h.2 hgiven
  · rintro ⟨result, rows, hmade, hcounts⟩
    rcases made_cases hmade with ⟨-, ⟨-, hneeded⟩ | ⟨exc, hreply, -⟩⟩ |
      ⟨entries, hreply, rfl, rfl, htakes⟩
    · exact .inl hneeded
    · exact .inr (.inl ⟨exc, hreply⟩)
    · by_cases hgiven : given entries (neededTypes (narrated before) student.userId) = []
      · exact .inl (hcounts ((countsFinalized_iff _).2 ⟨rfl, hgiven⟩))
      · exact .inr (.inr ⟨entries, hreply, hgiven, htakes⟩)

theorem alone_of_made
    (h : made env student (alreadyFinalized (narrated before) student.userId) =
      some (result, rows)) :
    (alone env before student).1 = .ok result ∧
      contents (alone env before student).2 = contents before ++ rows := by
  have hends := generateStudentNarratives_ends env student (rests_idle before)
  rw [h] at hends
  obtain ⟨after, hresult, hrests, hcontents⟩ := hends
  refine ⟨hresult, ?_⟩
  rw [← hcontents, ← hrests.committed]
  rfl

theorem made_userId (h : made env student skipped = some (result, rows)) :
    ∀ r ∈ rows, r.userId = student.userId := by
  rcases made_cases h with ⟨rfl, -⟩ | ⟨entries, -, rfl, -, -⟩
  · exact fun r hr => absurd hr List.not_mem_nil
  · exact madeRows_userId

theorem rowsOf_of_contents (h : contents insights = contents before ++ rows) (userId : Int) :
    rowsOf insights userId = rowsOf before userId ++ rows.filter fun r => r.userId = userId := by
  rw [rowsOf, h, List.filter_append]
  rfl

theorem filter_of_others {rows : List Insight} (h : ∀ r ∈ rows, r.userId = userId')
    (hne : userId' ≠ userId) : (rows.filter fun r => r.userId = userId) = [] := by
  rw [List.filter_eq_nil_iff]
  intro r hr
  rw [decide_eq_true_eq, h r hr]
  exact hne

theorem turn_made (hs : Rests s insights)
    (h : made env student (alreadyFinalized (narrated insights) student.userId) =
      some (result, rows)) :
    ∃ s' insights', (generateStudentNarratives env student).after s = (.ok result, s') ∧
      Rests s' insights' ∧ contents insights' = contents insights ++ rows ∧
      ∀ userId, userId ≠ student.userId →
        alreadyFinalized (narrated insights') userId =
          alreadyFinalized (narrated insights) userId := by
  have hends := generateStudentNarratives_ends env student hs
  rw [h] at hends
  obtain ⟨insights', hresult, hs', hcontents⟩ := hends
  refine ⟨_, insights', Prod.ext hresult rfl, hs', hcontents, ?_⟩
  intro userId hne
  have hrows := rowsOf_of_contents hcontents userId
  rw [filter_of_others (made_userId h) hne.symm, List.append_nil] at hrows
  exact alreadyFinalized_congr hrows

theorem turn_not_made (hs : Rests s insights)
    (h : made env student (alreadyFinalized (narrated insights) student.userId) = none) :
    ∃ e s', (generateStudentNarratives env student).after s = (.error e, s') := by
  have hends := generateStudentNarratives_ends env student hs
  rw [h] at hends
  obtain ⟨e, hresult, -⟩ := hends
  exact ⟨e, _, Prod.ext hresult rfl⟩

theorem generateStudents_cons (student : StudentTriggerData) (students : List StudentTriggerData)
    (hturn : (generateStudentNarratives env student).after s = (.ok result, s')) :
    (generateStudents env counts (student :: students)).after s =
      (generateStudents env (counts.add student.userId result) students).after s' := by
  rw [generateStudents, after_bind, hturn]

theorem ne_userId_of_mem {students : List StudentTriggerData}
    (h : student.userId ∉ students.map (·.userId)) (hmem : student' ∈ students) :
    student'.userId ≠ student.userId :=
  fun heq => h (heq ▸ List.mem_map_of_mem (f := (·.userId)) hmem)

/-- The runs of a batch over distinct students, each on the table as the batch found it. -/
theorem generateStudents_runs {results : StudentTriggerData → GenerateResult × List Insight}
    (hs : Rests s insights) (hdistinct : (students.map (·.userId)).Nodup)
    (hmade : ∀ student ∈ students,
      made env student (alreadyFinalized (narrated insights) student.userId) =
        some (results student)) (counts : GenerateCounts) :
    ∃ s' insights', (generateStudents env counts students).after s =
        (.ok (students.foldl (fun counts student =>
          counts.add student.userId (results student).1) counts), s') ∧
      Rests s' insights' ∧
      contents insights' =
        contents insights ++ students.flatMap fun student => (results student).2 := by
  induction students generalizing s insights counts with
  | nil => exact ⟨s, insights, rfl, hs, (List.append_nil _).symm⟩
  | cons student students ih =>
    rw [List.map_cons, List.nodup_cons] at hdistinct
    obtain ⟨s₁, insights₁, hturn, hs₁, hcontents₁, hothers⟩ := turn_made hs (hmade _ (.head _))
    have hrest : ∀ student' ∈ students,
        made env student' (alreadyFinalized (narrated insights₁) student'.userId) =
          some (results student') := by
      intro student' hstudent'
      rw [hothers _ (ne_userId_of_mem hdistinct.1 hstudent')]
      exact hmade student' (.tail _ hstudent')
    obtain ⟨s', insights', hafter, hs', hcontents'⟩ :=
      ih hs₁ hdistinct.2 hrest (counts.add student.userId (results student).1)
    refine ⟨s', insights', ?_, hs', ?_⟩
    · rw [generateStudents_cons student students hturn, hafter]
      rfl
    · rw [hcontents', hcontents₁, List.flatMap_cons, List.append_assoc]

theorem generateStudents_raises (hs : Rests s insights)
    (hdistinct : (students.map (·.userId)).Nodup)
    (hnone : ∃ student ∈ students,
      made env student (alreadyFinalized (narrated insights) student.userId) = none)
    (counts : GenerateCounts) :
    ∃ e s', (generateStudents env counts students).after s = (.error e, s') := by
  induction students generalizing s insights counts with
  | nil =>
    obtain ⟨student, hstudent, -⟩ := hnone
    cases hstudent
  | cons student students ih =>
    rw [List.map_cons, List.nodup_cons] at hdistinct
    cases hmade : made env student (alreadyFinalized (narrated insights) student.userId) with
    | none =>
      obtain ⟨e, s', hturn⟩ := turn_not_made hs hmade
      refine ⟨e, s', ?_⟩
      rw [generateStudents, after_bind, hturn]
    | some results =>
      obtain ⟨s₁, insights₁, hturn, hs₁, -, hothers⟩ := turn_made hs hmade
      rw [generateStudents_cons student students hturn]
      apply ih hs₁ hdistinct.2
      obtain ⟨student', hstudent', hnone⟩ := hnone
      cases hstudent' with
      | head =>
        rw [hmade] at hnone
        cases hnone
      | tail _ hstudent' =>
        refine ⟨student', hstudent', ?_⟩
        rw [hothers _ (ne_userId_of_mem hdistinct.1 hstudent')]
        exact hnone

theorem total_add (counts : GenerateCounts) (userId : Int) (result : GenerateResult) :
    (counts.add userId result).new + (counts.add userId result).skipped +
      (counts.add userId result).failed = counts.new + counts.skipped + counts.failed + 1 := by
  rw [GenerateCounts.add]
  split_ifs <;> dsimp only <;> omega

theorem total_foldl (results : StudentTriggerData → GenerateResult)
    (students : List StudentTriggerData) (counts : GenerateCounts) :
    let counted := students.foldl (fun counts student =>
      counts.add student.userId (results student)) counts
    counted.new + counted.skipped + counted.failed =
      counts.new + counts.skipped + counts.failed + students.length := by
  induction students generalizing counts with
  | nil => rfl
  | cons student students ih =>
    dsimp only [List.foldl_cons, List.length_cons] at ih ⊢
    rw [ih, total_add]
    omega

theorem flatMap_filter_others {students : List StudentTriggerData}
    {rows : StudentTriggerData → List Insight}
    (hrows : ∀ student ∈ students, ∀ r ∈ rows student, r.userId = student.userId)
    (hnot : userId ∉ students.map (·.userId)) :
    ((students.flatMap rows).filter fun r => r.userId = userId) = [] := by
  rw [List.filter_eq_nil_iff]
  intro r hr
  obtain ⟨student, hstudent, hr⟩ := List.mem_flatMap.1 hr
  rw [decide_eq_true_eq, hrows student hstudent r hr]
  exact fun h => hnot (h ▸ List.mem_map_of_mem (f := (·.userId)) hstudent)

theorem flatMap_filter_userId {students : List StudentTriggerData}
    {rows : StudentTriggerData → List Insight}
    (hrows : ∀ student ∈ students, ∀ r ∈ rows student, r.userId = student.userId)
    (hdistinct : (students.map (·.userId)).Nodup) (hstudent : student ∈ students) :
    ((students.flatMap rows).filter fun r => r.userId = student.userId) = rows student := by
  induction students with
  | nil => cases hstudent
  | cons first students ih =>
    rw [List.map_cons, List.nodup_cons] at hdistinct
    have hrest : ∀ student ∈ students, ∀ r ∈ rows student, r.userId = student.userId :=
      fun student h => hrows student (.tail _ h)
    rw [List.flatMap_cons, List.filter_append]
    cases hstudent with
    | head =>
      rw [flatMap_filter_others hrest hdistinct.1, List.append_nil, List.filter_eq_self]
      exact fun r hr => decide_eq_true (hrows _ (.head _) r hr)
    | tail _ hstudent =>
      rw [filter_of_others (hrows first (.head _)) (ne_userId_of_mem hdistinct.1 hstudent).symm,
        List.nil_append]
      exact ih hrest hdistinct.2 hstudent

theorem length_finalizedRows (insights : Insights) (userId : Int) (type : NarrativeType) :
    (finalizedRows insights userId type).length =
      (rowsOf insights userId).countP fun r => Finalizes r.toAIInsight userId type := by
  rw [finalizedRows, ← List.countP_eq_length_filter, rowsOf, contents, List.countP_filter,
    List.countP_map]
  apply List.countP_congr
  intro r _
  simp only [Function.comp_apply, Bool.and_eq_true, decide_eq_true_eq]
  exact ⟨fun h => ⟨h, h.1⟩, fun h => h.1⟩

theorem countP_madeRows_le (entries : List (String × Py.Value)) (type : NarrativeType) :
    (madeRows env userId entries types).countP (fun r => Finalizes r.toAIInsight userId type) ≤
      types.count type := by
  rw [madeRows, List.countP_filterMap, List.count]
  apply List.countP_mono_left
  intro type' _ h
  cases hcontent : content entries type' with
  | none =>
    rw [hcontent] at h
    cases h
  | some value =>
    rw [hcontent] at h
    have hrow : Finalizes (narrativeRow env userId type' value).toAIInsight userId type :=
      of_decide_eq_true h
    exact beq_iff_eq.2 (typeText_injective hrow.2.1)

/-- A run adds a row for a type at most once, and none for a type that it skips. -/
theorem countP_made_le (h : made env student skipped = some (result, rows)) (type : NarrativeType) :
    rows.countP (fun r => Finalizes r.toAIInsight student.userId type) ≤
      (narrativeTypes.filter (· ∉ skipped)).count type := by
  rcases made_cases h with ⟨rfl, -⟩ | ⟨entries, -, rfl, -, -⟩
  · exact Nat.zero_le _
  · exact countP_madeRows_le entries type

theorem finalizedRows_le (h : made env student
      (alreadyFinalized (narrated before) student.userId) = some (result, rows))
    (hrows : rowsOf insights student.userId = rowsOf before student.userId ++ rows)
    (type : NarrativeType) :
    (finalizedRows insights student.userId type).length ≤
      max 1 (finalizedRows before student.userId type).length := by
  have hnew := countP_made_le h type
  have hcount : (narrativeTypes.filter
      (· ∉ alreadyFinalized (narrated before) student.userId)).count type ≤ 1 :=
    List.nodup_iff_count_le_one.1 (nodup_narrativeTypes.filter _) type
  rw [length_finalizedRows, hrows, List.countP_append, ← length_finalizedRows]
  by_cases hneeded : type ∈ neededTypes (narrated before) student.userId
  · have hnone : finalizedRows before student.userId type = [] := by
      rw [mem_neededTypes_narrated] at hneeded
      rw [finalizedRows, List.filter_eq_nil_iff]
      exact fun r hr hrow => hneeded ⟨r, hr, of_decide_eq_true hrow⟩
    rw [hnone]
    exact le_max_of_le_left ((Nat.zero_add _).trans_le (hnew.trans hcount))
  · have hzero : (narrativeTypes.filter
        (· ∉ alreadyFinalized (narrated before) student.userId)).count type = 0 :=
      List.count_eq_zero.2 hneeded
    omega

theorem faithful_of_runs {results : StudentTriggerData → GenerateResult × List Insight}
    (hdistinct : (mirror.map (·.userId)).Nodup)
    (hmade : ∀ student ∈ mirror,
      made env student (alreadyFinalized (narrated before) student.userId) =
        some (results student))
    (hcounts : ∀ student ∈ mirror, CountsFinalized student (results student).1 →
      neededTypes (narrated before) student.userId = [])
    (hcontents : contents insights =
      contents before ++ mirror.flatMap fun student => (results student).2) :
    Faithful env mirror before insights
      (mirror.foldl (fun counts student => counts.add student.userId (results student).1) {})
      fun student => (results student).1 := by
  have hown : ∀ student ∈ mirror, ∀ r ∈ (results student).2, r.userId = student.userId :=
    fun student h => made_userId (hmade student h)
  have hstudent : ∀ student ∈ mirror, rowsOf insights student.userId =
      rowsOf before student.userId ++ (results student).2 := by
    intro student h
    rw [rowsOf_of_contents hcontents, flatMap_filter_userId hown hdistinct h]
  have hothers : ∀ userId, userId ∉ mirror.map (·.userId) →
      rowsOf insights userId = rowsOf before userId := by
    intro userId h
    rw [rowsOf_of_contents hcontents, flatMap_filter_others hown h, List.append_nil]
  constructor
  · intro student h
    obtain ⟨hresult, hrows⟩ := alone_of_made (hmade student h)
    refine ⟨hresult, ?_⟩
    rw [hstudent student h, rowsOf_of_contents hrows, List.filter_eq_self.2]
    exact fun r hr => decide_eq_true (hown student h r hr)
  · exact hothers
  · rfl
  · have htotal := total_foldl (fun student => (results student).1) mirror {}
    dsimp only at htotal
    omega
  · intro student h hfinalized type
    by_contra hnone
    have hneeded := mem_neededTypes_narrated.2 hnone
    rw [hcounts student h hfinalized] at hneeded
    cases hneeded
  · intro userId type
    by_cases h : userId ∈ mirror.map (·.userId)
    · obtain ⟨student, hmem, rfl⟩ := List.mem_map.1 h
      exact finalizedRows_le (hmade student hmem) (hstudent student hmem) type
    · rw [length_finalizedRows, hothers userId h, ← length_finalizedRows]
      exact le_max_right _ _

def ran (env : NarrativeEnv) (before : Insights) (student : StudentTriggerData) :
    GenerateResult × List Insight :=
  (made env student (alreadyFinalized (narrated before) student.userId)).getD (⟨[], [], none⟩, [])

/-- The session when the mirror has been read. -/
theorem generateAll_after (mirror : Table StudentTriggerData (·.userId)) (before : Insights)
    (hkey : env.llmApiKey ≠ "") :
    (generateAllMonthlyNarratives env mirror).after (.idle before) =
      (generateStudents env {} mirror.rows >>= fun counts =>
        pure (.done mirror.rows.length counts env.llmModel)).after
        { Session.idle before with transaction := some before } := by
  rw [generateAllMonthlyNarratives, if_neg hkey, after_bind]
  rfl

theorem rests_read (before : Insights) :
    Rests { Session.idle before with transaction := some before } before := ⟨rfl, rfl, rfl⟩

theorem batch_runs {results : StudentTriggerData → GenerateResult × List Insight}
    (hkey : env.llmApiKey ≠ "")
    (hmade : ∀ student ∈ mirror.rows,
      made env student (alreadyFinalized (narrated before) student.userId) =
        some (results student)) :
    ∃ after, withSession (generateAllMonthlyNarratives env mirror) before =
        (.ok (.done mirror.rows.length (mirror.rows.foldl (fun counts student =>
          counts.add student.userId (results student).1) {}) env.llmModel), after) ∧
      contents after =
        contents before ++ mirror.rows.flatMap fun student => (results student).2 := by
  obtain ⟨s', after, hafter, hs', hcontents⟩ :=
    generateStudents_runs (rests_read before) mirror.unique hmade {}
  refine ⟨after, ?_, hcontents⟩
  rw [withSession, generateAll_after mirror before hkey, after_bind, hafter, ← hs'.committed]
  rfl

theorem batch_raises (env : NarrativeEnv) (mirror : Table StudentTriggerData (·.userId))
    (before : Insights) (hkey : env.llmApiKey ≠ "")
    (hnone : ∃ student ∈ mirror.rows,
      made env student (alreadyFinalized (narrated before) student.userId) = none) :
    ∃ e after,
      withSession (generateAllMonthlyNarratives env mirror) before = (.error e, after) := by
  obtain ⟨e, s', hafter⟩ := generateStudents_raises (rests_read before) mirror.unique hnone {}
  refine ⟨e, s'.committed, ?_⟩
  rw [withSession, generateAll_after mirror before hkey, after_bind, hafter]

theorem batch_without_key (mirror : Table StudentTriggerData (·.userId)) (before : Insights)
    (hkey : env.llmApiKey = "") :
    withSession (generateAllMonthlyNarratives env mirror) before =
      (.ok (.notConfigured "LLM_API_KEY not configured in .env"), before) := by
  rw [withSession, generateAllMonthlyNarratives, if_pos hkey]
  rfl

theorem usable_of_honest (hkey : env.llmApiKey ≠ "") (h : Honest env mirror before)
    (hstudent : student ∈ mirror.rows) : Usable env before student := by
  by_cases hnone : ∃ student ∈ mirror.rows,
      made env student (alreadyFinalized (narrated before) student.userId) = none
  · obtain ⟨e, after, hbatch⟩ := batch_raises env mirror before hkey hnone
    rw [Honest, hbatch] at h
    cases h
  · have hmade : ∀ student ∈ mirror.rows,
        made env student (alreadyFinalized (narrated before) student.userId) =
          some (ran env before student) := by
      intro student hstudent
      rw [ran]
      cases hcase : made env student (alreadyFinalized (narrated before) student.userId) with
      | none => exact absurd ⟨student, hstudent, hcase⟩ hnone
      | some result => rfl
    obtain ⟨after, hbatch, -⟩ := batch_runs hkey hmade
    rw [Honest, hbatch] at h
    obtain ⟨-, results, hfaithful⟩ := h
    refine usable_iff.2 ⟨_, _, hmade student hstudent, ?_⟩
    have hsame := (hfaithful.own student hstudent).1.symm.trans
      (alone_of_made (hmade student hstudent)).1
    rw [← Except.ok.inj hsame]
    intro hcounts
    rw [List.eq_nil_iff_forall_not_mem]
    intro type htype
    exact mem_neededTypes_narrated.1 htype (hfaithful.finalized student hstudent hcounts type)

/-- The batch is honest exactly if every student's reply can be used. -/
theorem generateAll_honest_iff (env : NarrativeEnv)
    (mirror : Table StudentTriggerData (·.userId)) (before : Insights) :
    Honest env mirror before ↔
      (env.llmApiKey ≠ "" → ∀ student ∈ mirror.rows, Usable env before student) := by
  constructor
  · intro h hkey student hstudent
    exact usable_of_honest hkey h hstudent
  · intro h
    by_cases hkey : env.llmApiKey = ""
    · rw [Honest, batch_without_key mirror before hkey]
    · have husable := fun student hstudent => usable_iff.1 (h hkey student hstudent)
      have hmade : ∀ student ∈ mirror.rows,
          made env student (alreadyFinalized (narrated before) student.userId) =
              some (ran env before student) ∧
            (CountsFinalized student (ran env before student).1 →
              neededTypes (narrated before) student.userId = []) := by
        intro student hstudent
        obtain ⟨result, rows, hcase, hcounts⟩ := husable student hstudent
        rw [ran, hcase]
        exact ⟨rfl, hcounts⟩
      obtain ⟨after, hbatch, hcontents⟩ :=
        batch_runs hkey fun student hstudent => (hmade student hstudent).1
      rw [Honest, hbatch]
      exact ⟨rfl, _, faithful_of_runs mirror.unique
        (fun student hstudent => (hmade student hstudent).1)
        (fun student hstudent => (hmade student hstudent).2) hcontents⟩

end

def answering (reply : Reply) : NarrativeEnv where
  llmApiKey := "sk-test"
  llmModel := "gpt-4o-mini"
  complete _ := reply
  repr _ := ""
  takes _ := .ok ()
  now _ := 1
  createdAt _ := 1
  uuid4 _ type := type.text

def oneStudent : Table StudentTriggerData (·.userId) := (Pipeline.platformWith .empty).triggerdata

/-- A reply that is a list ends the batch, and after an object without the keys the student is
counted as finalized before. -/
theorem unusable_replies : ¬ Honest (answering (.json (.list []))) oneStudent .empty ∧
    ¬ Honest (answering (.json (.dict []))) oneStudent .empty := by
  constructor
  · intro h
    obtain ⟨e, after, hbatch⟩ := batch_raises (answering (.json (.list []))) oneStudent .empty
      (by decide) ⟨Pipeline.mirrored, .head _, rfl⟩
    rw [Honest, hbatch] at h
    exact h
  · intro h
    rcases usable_of_honest (by decide) h (.head _) with
      hneeded | ⟨exc, hreply⟩ | ⟨entries, hreply, hgiven, -⟩
    · exact absurd hneeded (by decide)
    · cases hreply
    · cases hreply
      exact hgiven (by decide)

end NarrativeReplies
end StudentSuccess
