import StudentSuccess.InsightFinalization

namespace StudentSuccess
namespace InsightCache
set_option autoImplicit true
open Repository

abbrev Insights := Table Insight (·.id)

/-- The settings, the language model and what the clocks and `uuid4` give during a call.
`complete` is the answer to a prompt: the content of the message, if it has one, or the class
of the exception; `createdAt` is the clock of the database, and `scan` the order in which it visits
the rows. -/
structure InsightEnv where
  llmApiKey : String
  llmModel : String
  executionMode : String
  complete : String → Except String (Option String)
  repr : Py.Value → String
  now : Instant
  createdAt : Instant
  scan : Table.Scan Insight
  correlationId : String

structure InsightCall where
  env : InsightEnv
  userId : Int
  insightType : String
  student : List (String × Py.Value)

/-- `_PROMPTS`: the text before the context and the text after it. -/
def prompts : List (String × String × String) :=
  [("OUTREACH_DRAFT",
      "Draft a concise, professional outreach message for a student at risk. " ++
        "Student context (no PII): ", ". Keep under 150 words."),
    ("INTERVENTION",
      "Recommend an intervention strategy for a student showing these risk signals: ",
      ". Be specific and actionable."),
    ("RISK_EXPLANATION",
      "Explain in plain language why this student is flagged as at-risk based on: ",
      ". Use 2-3 sentences."),
    ("INTERVIEW_COACHING",
      "Provide 3 targeted interview coaching tips for a student with this profile: ", ".")]

def defaultPrompt : String × String := ("Assess this student: ", ".")

def contextKeys : List String :=
  ["PathName", "AttendancePercentage", "LastLoginDays", "ActiveStatus", "StatusI", "StatusII",
    "Past10DaysLogon"]

def contextPart (repr : Py.Value → String) (student : List (String × Py.Value)) (k : String) :
    Option String :=
  match Py.get? k student with
  | none => none
  | some .null => none
  | some v => some (k ++ "=" ++ v.text repr)

namespace InsightCall

def contextStr (call : InsightCall) : String :=
  Py.orText
    (some ("; ".intercalate (contextKeys.filterMap (contextPart call.env.repr call.student))))
    "no context available"

def prompt (call : InsightCall) : String :=
  let template := (Py.get? call.insightType prompts).getD defaultPrompt
  template.1 ++ call.contextStr ++ template.2

/-- The content and the model of a new insight: a failure gives a content and no model. -/
def generate (call : InsightCall) : String × Option String :=
  if call.env.llmApiKey = "" then
    ("[AI advisory: " ++ call.insightType ++ " — LLM_API_KEY not configured. " ++
      "Shadow mode: governance assessment only.]", none)
  else
    match call.env.complete call.prompt with
    | .ok content => (content.getD "", some call.env.llmModel)
    | .error exc => ("[AI generation failed: " ++ exc ++ "]", none)

def inferences (call : InsightCall) : List String :=
  if call.env.llmApiKey = "" then [] else [call.prompt]

end InsightCall

def ttlHours : Nat := 24

def microsPerHour : Nat := 3600000000

def newInsight (call : InsightCall) (id : Nat) : Insight where
  id := id
  userId := call.userId
  insightType := call.insightType
  contentText := some call.generate.1
  contentJson := none
  modelUsed := call.generate.2
  isFinalized := false
  finalizedAt := none
  correlationId := some call.env.correlationId
  causationId := none
  configVersionId := none
  executionMode := call.env.executionMode
  executionType := "original"
  governanceScope := if call.env.executionMode = "REPLAY" then "REPLAY_ONLY" else "SHADOW_ONLY"
  originSource := some "get_or_generate"
  originAuthority := some "ai_insights_service"
  isReplay := call.env.executionMode = "REPLAY"
  createdAt := call.env.createdAt
  expiresAt := some (call.env.now + ttlHours * microsPerHour)

/-- `_serialize_insight`. -/
structure Serialized where
  id : Nat
  userId : Int
  insightType : String
  content : Option String
  model : Option String
  createdAt : Instant
  expiresAt : Option Instant
  isFinalized : Bool
  executionMode : String
  governanceScope : String
  correlationId : Option String

def serializeInsight (insight : Insight) : Serialized where
  id := insight.id
  userId := insight.userId
  insightType := insight.insightType
  content := insight.contentText
  model := insight.modelUsed
  createdAt := insight.createdAt
  expiresAt := insight.expiresAt
  isFinalized := insight.isFinalized
  executionMode := insight.executionMode
  governanceScope := insight.governanceScope
  correlationId := insight.correlationId

def Expired (now : Instant) (insight : Insight) : Prop :=
  ∃ t, insight.expiresAt = some t ∧ t < now

instance (now : Instant) (insight : Insight) : Decidable (Expired now insight) :=
  match h : insight.expiresAt with
  | none => .isFalse (by rw [Expired, h]; rintro ⟨t, ht, -⟩; cases ht)
  | some t =>
    if ht : t < now then .isTrue ⟨t, h, ht⟩
    else .isFalse (by rw [Expired, h]; rintro ⟨t', ⟨⟩, ht'⟩; exact ht ht')

def candidates (insights : Insights) (call : InsightCall) : List Insight :=
  (call.env.scan.order insights.rows).filter fun r =>
    r.userId = call.userId && r.insightType = call.insightType

/-- The one that was created last; of several the scan decides. -/
def existing (insights : Insights) (call : InsightCall) : Option Insight :=
  (candidates insights call).argmax (·.createdAt)

/-- The insight that the call may return as it is. -/
def cached (insights : Insights) (call : InsightCall) : Option Insight :=
  match existing insights call with
  | none => none
  | some insight =>
    if insight.isFinalized = false ∧ ¬ Expired call.env.now insight then some insight else none

/-- What a call returns, the prompts it sends and the table after it. -/
def getOrGenerate (insights : Insights) (call : InsightCall) :
    Serialized × List String × Insights :=
  match cached insights call with
  | some insight => (serializeInsight insight, [], insights)
  | none =>
    (serializeInsight (newInsight call insights.nextId), call.inferences,
      insights.insertNew (newInsight call) fun _ => rfl)

def insightStep (insights : Insights) (call : InsightCall) : Insights :=
  (getOrGenerate insights call).2.2

/-- The key is set and the model answers. -/
def Works (call : InsightCall) : Prop :=
  call.env.llmApiKey ≠ "" ∧ ∃ content, call.env.complete call.prompt = .ok content

/-- The row is what a call whose inference answered left, and its time is not over. -/
def LiveSuccess (call : InsightCall) (r : Insight) : Prop :=
  r.modelUsed ≠ none ∧ ¬ Expired call.env.now r

/-- What a call may do with the cache; a placeholder is a row without a model. -/
structure ServesSuccess (insights : Insights) (call : InsightCall) : Prop where
  noPlaceholder : Works call → ∀ r ∈ insights.rows, r.modelUsed = none →
    (getOrGenerate insights call).1 ≠ serializeInsight r
  served : (∃ r ∈ candidates insights call, LiveSuccess call r) →
    ∃ r ∈ candidates insights call, LiveSuccess call r ∧
      getOrGenerate insights call = (serializeInsight r, [], insights)
  kept : insights.rows <+: (insightStep insights call).rows

/-- The newest insight stands for the others: where it is open and its time is not over it has a
model, if the call would have one or any insight has one, and where it is not, no insight that has
a model is still good. -/
structure NewestDecides (insights : Insights) (call : InsightCall) : Prop where
  live : ∀ insight, existing insights call = some insight → insight.isFinalized = false →
    ¬ Expired call.env.now insight →
    (Works call ∨ ∃ r ∈ candidates insights call, LiveSuccess call r) → insight.modelUsed ≠ none
  ended : (∀ insight, existing insights call = some insight →
      insight.isFinalized = true ∨ Expired call.env.now insight) →
    ¬ ∃ r ∈ candidates insights call, LiveSuccess call r

theorem mem_rows_of_candidates (h : r ∈ candidates insights call) : r ∈ insights.rows :=
  (call.env.scan.perm insights.rows).mem_iff.1 (List.mem_filter.1 h).1

/-- The cache serves the newest insight while it is open and its time is not over. -/
theorem cached_eq_some_iff : cached insights call = some insight ↔
    existing insights call = some insight ∧ insight.isFinalized = false ∧
      ¬ Expired call.env.now insight := by
  rw [cached]
  cases existing insights call with
  | none => simp
  | some newest =>
    simp only [Option.some.injEq]
    split_ifs with hopen
    · rw [Option.some.injEq]
      constructor
      · rintro rfl
        exact ⟨rfl, hopen⟩
      · exact fun h => h.1
    · constructor
      · intro h
        cases h
      · rintro ⟨rfl, h⟩
        exact absurd h hopen

theorem cached_eq_none_iff : cached insights call = none ↔
    ∀ insight, existing insights call = some insight →
      insight.isFinalized = true ∨ Expired call.env.now insight := by
  constructor
  · intro h insight hexisting
    by_contra hopen
    rw [not_or, Bool.not_eq_true] at hopen
    rw [cached_eq_some_iff.2 ⟨hexisting, hopen⟩] at h
    cases h
  · intro h
    cases hcached : cached insights call with
    | none => rfl
    | some insight =>
      obtain ⟨hexisting, hopen, hlive⟩ := cached_eq_some_iff.1 hcached
      rcases h insight hexisting with hfinal | hexpired
      · cases hopen.symm.trans hfinal
      · exact absurd hexpired hlive

theorem mem_candidates_of_existing (h : existing insights call = some insight) :
    insight ∈ candidates insights call := List.argmax_mem h

theorem getOrGenerate_of_cached (h : cached insights call = some insight) :
    getOrGenerate insights call = (serializeInsight insight, [], insights) := by
  rw [getOrGenerate, h]

theorem getOrGenerate_of_none (h : cached insights call = none) :
    getOrGenerate insights call =
      (serializeInsight (newInsight call insights.nextId), call.inferences,
        insights.insertNew (newInsight call) fun _ => rfl) := by
  rw [getOrGenerate, h]

theorem rows_prefix (insights : Insights) (call : InsightCall) :
    insights.rows <+: (insightStep insights call).rows := by
  rw [insightStep]
  cases h : cached insights call with
  | some insight =>
    rewrite [getOrGenerate_of_cached h]
    exact List.prefix_rfl
  | none =>
    rw [getOrGenerate_of_none h]
    exact List.prefix_append _ _

theorem serialize_new_ne {insights : Insights} {call : InsightCall} (h : r ∈ insights.rows) :
    serializeInsight (newInsight call insights.nextId) ≠ serializeInsight r := by
  intro heq
  have hid : insights.nextId = r.id := congrArg Serialized.id heq
  exact insights.nextId_not_mem (hid ▸ List.mem_map_of_mem h)

/-- A call that is served from the cache serves a success when the newest insight is one. -/
theorem servesSuccess_of_cached (hcached : cached insights call = some insight) :
    ServesSuccess insights call ↔ NewestDecides insights call := by
  obtain ⟨hexisting, hopen, hlive⟩ := cached_eq_some_iff.1 hcached
  have hcandidate := mem_candidates_of_existing hexisting
  have hserved := getOrGenerate_of_cached hcached
  constructor
  · intro h
    refine ⟨?_, ?_⟩
    · intro newest hnewest _ _ hneeded hmodel
      rw [hexisting, Option.some.injEq] at hnewest
      subst hnewest
      rcases hneeded with hworks | hsuccess
      · apply h.noPlaceholder hworks insight (mem_rows_of_candidates hcandidate) hmodel
        rw [hserved]
      · obtain ⟨r, hr, hr', heq⟩ := h.served hsuccess
        rw [hserved] at heq
        have hmodels : insight.modelUsed = r.modelUsed :=
          congrArg (fun result => result.1.model) heq
        exact hr'.1 (hmodels ▸ hmodel)
    · intro hover
      rw [cached_eq_none_iff.2 hover] at hcached
      cases hcached
  · intro h
    refine ⟨?_, ?_, rows_prefix insights call⟩
    · intro hworks r hr hmodel heq
      rw [hserved] at heq
      have hmodels : insight.modelUsed = r.modelUsed := congrArg Serialized.model heq
      exact h.live insight hexisting hopen hlive (.inl hworks) (hmodels.trans hmodel)
    · intro hsuccess
      have hmodel := h.live insight hexisting hopen hlive (.inr hsuccess)
      exact ⟨insight, hcandidate, ⟨hmodel, hlive⟩, hserved⟩

/-- A call that makes a new insight passes over none that is still good. -/
theorem servesSuccess_of_none (hcached : cached insights call = none) :
    ServesSuccess insights call ↔ NewestDecides insights call := by
  have hover := cached_eq_none_iff.1 hcached
  have hgenerated := getOrGenerate_of_none hcached
  constructor
  · intro h
    refine ⟨?_, ?_⟩
    · intro newest hnewest hopen hlive
      rcases hover newest hnewest with hfinal | hexpired
      · cases hopen.symm.trans hfinal
      · exact absurd hexpired hlive
    · intro _ hsuccess
      obtain ⟨r, hr, -, heq⟩ := h.served hsuccess
      rw [hgenerated] at heq
      exact serialize_new_ne (mem_rows_of_candidates hr) (congrArg Prod.fst heq)
  · intro h
    refine ⟨?_, fun hsuccess => absurd hsuccess (h.ended hover), rows_prefix insights call⟩
    intro _ r hr _
    rw [hgenerated]
    exact serialize_new_ne hr

theorem servesSuccess_iff (insights : Insights) (call : InsightCall) :
    ServesSuccess insights call ↔ NewestDecides insights call := by
  cases hcached : cached insights call with
  | some insight => exact servesSuccess_of_cached hcached
  | none => exact servesSuccess_of_none hcached

/-- The cache serves what it is to serve throughout a run exactly when the newest insight decides
at every call of it. -/
theorem getOrGenerate_servesSuccess_iff (insights : Insights) (calls : List InsightCall) :
    Runs.EveryStep insightStep ServesSuccess insights calls ↔
      Runs.EveryStep insightStep NewestDecides insights calls := by
  constructor
  · exact fun h => h.imp fun insights call => (servesSuccess_iff insights call).1
  · exact fun h => h.imp fun insights call => (servesSuccess_iff insights call).2

def draftCall (llmApiKey : String) (hour : Nat) : InsightCall where
  env :=
    { llmApiKey := llmApiKey
      llmModel := "gpt-4o"
      executionMode := "ExecutionMode.SHADOW"
      complete := fun _ => .ok (some "Dear student")
      repr := fun _ => ""
      now := hour * microsPerHour
      createdAt := hour * microsPerHour
      scan := .inserted
      correlationId := "c" }
  userId := 7
  insightType := "OUTREACH_DRAFT"
  student := []

/-- The placeholder of an unconfigured call is what the next call returns, an hour later and with
a model that works. -/
theorem placeholder_served :
    ¬ Runs.EveryStep insightStep ServesSuccess Table.empty
      [draftCall "" 1, draftCall "key" 2] := by
  rintro ⟨-, h, -⟩
  let placeholder := newInsight (draftCall "" 1) 1
  apply h.noPlaceholder ⟨by decide, some "Dear student", rfl⟩ placeholder (.head _) rfl
  rfl

end InsightCache
end StudentSuccess
