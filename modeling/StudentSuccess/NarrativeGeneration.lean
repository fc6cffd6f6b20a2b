import StudentSuccess.Narratives

namespace StudentSuccess
namespace Narratives
set_option autoImplicit true
open Snapshot

/-- The rows that both services ask for. -/
def Finalizes (r : AIInsight) (userId : Int) (type : NarrativeType) : Prop :=
  r.userId = userId ∧ r.insightType = type.text ∧ r.isFinalized = true

instance : Decidable (Finalizes r userId type) := by
  rw [Finalizes]
  infer_instance

/-- `already_finalized`, in the order of the types. -/
def alreadyFinalized (insights : Table AIInsight (·.id)) (userId : Int) : List NarrativeType :=
  narrativeTypes.filter fun type => insights.rows.any fun r => Finalizes r userId type

def neededTypes (insights : Table AIInsight (·.id)) (userId : Int) : List NarrativeType :=
  narrativeTypes.filter fun type => type ∉ alreadyFinalized insights userId

def narrativeInsight (userId : Int) (now : Instant) (type : NarrativeType) (content : String)
    (id : Nat) : AIInsight where
  id := id
  userId := userId
  insightType := type.text
  contentText := some content
  isFinalized := true
  createdAt := now

/-- What the model call makes of a student's data: the decoded object's texts, or the exception
that the call or the decoding ends with. -/
abbrev Complete := StudentTriggerData → Except String (NarrativeType → Option String)

/-- The loop over the needed types; a type without content gets no row. -/
def addNarratives (userId : Int) (now : Instant) (narratives : NarrativeType → Option String) :
    List NarrativeType → Table AIInsight (·.id) → Table AIInsight (·.id) × List NarrativeType
  | [], insights => (insights, [])
  | type :: rest, insights =>
    let content := (narratives type).getD ""
    if content = "" then addNarratives userId now narratives rest insights
    else
      let added := addNarratives userId now narratives rest
        (insights.insertNew (narrativeInsight userId now type content) fun _ => rfl)
      (added.1, type :: added.2)

structure GenerateResult where
  generated : List NarrativeType
  skipped : List NarrativeType
  error : Option String

def generateStudentNarratives (complete : Complete) (now : Instant) (userId : Int)
    (student : StudentTriggerData) (insights : Table AIInsight (·.id)) :
    Table AIInsight (·.id) × GenerateResult :=
  let skipped := alreadyFinalized insights userId
  let needed := neededTypes insights userId
  if needed = [] then (insights, ⟨[], skipped, none⟩)
  else
    match complete student with
    | .error message => (insights, ⟨[], skipped, some message⟩)
    | .ok narratives =>
      let added := addNarratives userId now narratives needed insights
      (added.1, ⟨added.2, skipped, none⟩)

/-- The counts of `generate_all_monthly_narratives`, with its samples of errors. -/
structure GenerateCounts where
  new : Nat := 0
  skipped : Nat := 0
  failed : Nat := 0
  errors : List (Int × String) := []

/-- `if result["error"] … elif result["generated"] … else`. -/
def GenerateCounts.add (counts : GenerateCounts) (userId : Int) (result : GenerateResult) :
    GenerateCounts :=
  if Py.truthyText result.error then
    { counts with
      failed := counts.failed + 1
      errors :=
        if counts.errors.length < 10 then counts.errors ++ [(userId, result.error.getD "")]
        else counts.errors }
  else if result.generated ≠ [] then { counts with new := counts.new + 1 }
  else { counts with skipped := counts.skipped + 1 }

/-- The loop over the mirror, each student at its own turn of the clock. -/
def generateStudents (complete : Complete) (now : Int → Instant) (counts : GenerateCounts) :
    List StudentTriggerData → Table AIInsight (·.id) → Table AIInsight (·.id) × GenerateCounts
  | [], insights => (insights, counts)
  | row :: rest, insights =>
    let made := generateStudentNarratives complete (now row.userId) row.userId row insights
    generateStudents complete now (counts.add row.userId made.2) rest made.1

inductive GenerateAllResult
  | notConfigured (error : String)
  | done (totalStudents : Nat) (counts : GenerateCounts) (model : String)

def generateAllMonthlyNarratives (apiKey model : String) (complete : Complete)
    (now : Int → Instant) (mirror : List StudentTriggerData) (insights : Table AIInsight (·.id)) :
    Table AIInsight (·.id) × GenerateAllResult :=
  if apiKey = "" then (insights, .notConfigured "LLM_API_KEY not configured in .env")
  else
    let made := generateStudents complete now {} mirror insights
    (made.1, .done mirror.length made.2 model)

theorem typeText_injective {type type' : NarrativeType} (h : type.text = type'.text) :
    type = type' := by
  cases type <;> cases type' <;> first | rfl | exact absurd h (by decide)

theorem mem_narrativeTypes (type : NarrativeType) : type ∈ narrativeTypes := by
  cases type <;> decide

theorem nodup_narrativeTypes : narrativeTypes.Nodup := by decide

theorem mem_alreadyFinalized {insights : Table AIInsight (·.id)} :
    type ∈ alreadyFinalized insights userId ↔ ∃ r ∈ insights.rows, Finalizes r userId type := by
  rw [alreadyFinalized, List.mem_filter, List.any_eq_true]
  constructor
  · intro h
    obtain ⟨-, r, hr, hrow⟩ := h
    exact ⟨r, hr, of_decide_eq_true hrow⟩
  · intro h
    obtain ⟨r, hr, hrow⟩ := h
    exact ⟨mem_narrativeTypes type, r, hr, decide_eq_true hrow⟩

theorem mem_neededTypes {insights : Table AIInsight (·.id)} :
    type ∈ neededTypes insights userId ↔ ∀ r ∈ insights.rows, ¬ Finalizes r userId type := by
  rw [neededTypes, List.mem_filter, decide_eq_true_eq, mem_alreadyFinalized]
  constructor
  · intro h r hr hrow
    exact h.2 ⟨r, hr, hrow⟩
  · intro h
    refine ⟨mem_narrativeTypes type, ?_⟩
    rintro ⟨r, hr, hrow⟩
    exact h r hr hrow

theorem generateStudentNarratives_skipped (complete : Complete) (now : Instant) (userId : Int)
    (student : StudentTriggerData) (insights : Table AIInsight (·.id)) :
    (generateStudentNarratives complete now userId student insights).2.skipped =
      alreadyFinalized insights userId := by
  rw [generateStudentNarratives]
  split
  · rfl
  · split <;> rfl

/-- What the table with no row for the types keeps while the loop adds one for each of them. -/
theorem addNarratives_induction {P : List NarrativeType → Table AIInsight (·.id) → Prop}
    (hskip : ∀ type types insights, P (type :: types) insights → P types insights)
    (hinsert : ∀ type types insights content, P (type :: types) insights →
      P types (insights.insertNew (narrativeInsight userId now type content) fun _ => rfl))
    (h : P types insights) : P [] (addNarratives userId now narratives types insights).1 := by
  induction types generalizing insights with
  | nil => exact h
  | cons type types ih =>
    rw [addNarratives]
    dsimp only
    split
    · exact ih (hskip type types insights h)
    · exact ih (hinsert type types insights _ h)

/-- The generation leaves the table or runs the loop over the types without a finalized row. -/
theorem generateStudentNarratives_cases (complete : Complete) (now : Instant) (userId : Int)
    (student : StudentTriggerData) (insights : Table AIInsight (·.id)) :
    (generateStudentNarratives complete now userId student insights).1 = insights ∨
      ∃ narratives, (generateStudentNarratives complete now userId student insights).1 =
        (addNarratives userId now narratives (neededTypes insights userId) insights).1 := by
  rw [generateStudentNarratives]
  split
  · exact .inl rfl
  · split
    · exact .inl rfl
    · next narratives _ => exact .inr ⟨narratives, rfl⟩

theorem generateStudentNarratives_keeps
    (hr : r ∈ insights.rows) :
    r ∈ (generateStudentNarratives complete now userId student insights).1.rows := by
  rcases generateStudentNarratives_cases complete now userId student insights with h | h
  · rw [h]
    exact hr
  · obtain ⟨narratives, h⟩ := h
    rw [h]
    apply addNarratives_induction (P := fun _ t => r ∈ t.rows)
    · exact fun _ _ _ h => h
    · exact fun _ _ _ _ h => List.mem_append_left _ h
    · exact hr

/-- Each student has one finalized insight of a type at most, and it has a text. -/
structure Settled (insights : Table AIInsight (·.id)) : Prop where
  text : ∀ r ∈ insights.rows, Finalizes r userId type → r.contentText ≠ none
  single : ∀ r ∈ insights.rows, ∀ r' ∈ insights.rows,
    Finalizes r userId type → Finalizes r' userId type → r = r'

theorem mem_insertNew {insights : Table AIInsight (·.id)} :
    r ∈ (insights.insertNew (narrativeInsight userId now type content) fun _ => rfl).rows ↔
      r ∈ insights.rows ∨ r = narrativeInsight userId now type content insights.nextId :=
  List.mem_append.trans (or_congr_right List.mem_singleton)

theorem Settled.insert (h : Settled insights)
    (hfree : ∀ r ∈ insights.rows, ¬ Finalizes r userId type) :
    Settled (insights.insertNew (narrativeInsight userId now type content) fun _ => rfl) := by
  have hnew : ∀ {id userId' type'}, Finalizes (narrativeInsight userId now type content id) userId'
      type' → userId' = userId ∧ type' = type :=
    fun hrow => ⟨hrow.1.symm, typeText_injective hrow.2.1.symm⟩
  constructor
  · intro userId' type' r hr hrow
    rw [mem_insertNew] at hr
    rcases hr with hr | rfl
    · exact h.text r hr hrow
    · exact nofun
  · intro userId' type' r hr r' hr' hrow hrow'
    rw [mem_insertNew] at hr hr'
    rcases hr with hr | rfl
    · rcases hr' with hr' | rfl
      · exact h.single r hr r' hr' hrow hrow'
      · obtain ⟨rfl, rfl⟩ := hnew hrow'
        exact absurd hrow (hfree r hr)
    · rcases hr' with hr' | rfl
      · obtain ⟨rfl, rfl⟩ := hnew hrow
        exact absurd hrow' (hfree r' hr')
      · rfl

/-- The generation adds a type's row only where there is none. -/
theorem generateStudentNarratives_settled (h : Settled insights) :
    Settled (generateStudentNarratives complete now userId student insights).1 := by
  rcases generateStudentNarratives_cases complete now userId student insights with hsame | hadds
  · rw [hsame]
    exact h
  · obtain ⟨narratives, hadds⟩ := hadds
    rw [hadds]
    have hloop : ([] : List NarrativeType).Nodup ∧
        (∀ type ∈ [], ∀ r ∈ (addNarratives userId now narratives (neededTypes insights userId)
          insights).1.rows, ¬ Finalizes r userId type) ∧
        Settled (addNarratives userId now narratives (neededTypes insights userId) insights).1 := by
      apply addNarratives_induction (P := fun types t => types.Nodup ∧
        (∀ type ∈ types, ∀ r ∈ t.rows, ¬ Finalizes r userId type) ∧ Settled t)
      · intro type types t ht
        obtain ⟨hnodup, hfree, ht⟩ := ht
        exact ⟨(List.nodup_cons.1 hnodup).2, fun type' h => hfree type' (.tail _ h), ht⟩
      · intro type types t content ht
        obtain ⟨hnodup, hfree, ht⟩ := ht
        obtain ⟨hnew, hnodup⟩ := List.nodup_cons.1 hnodup
        refine ⟨hnodup, ?_, ht.insert (hfree type (.head _))⟩
        intro type' htype' r hr hrow
        rw [mem_insertNew] at hr
        rcases hr with hr | rfl
        · exact hfree type' (.tail _ htype') r hr hrow
        · exact hnew (typeText_injective hrow.2.1 ▸ htype')
      · refine ⟨nodup_narrativeTypes.filter _, ?_, h⟩
        exact fun type htype => mem_neededTypes.1 htype
    exact hloop.2.2

end Narratives
end StudentSuccess
