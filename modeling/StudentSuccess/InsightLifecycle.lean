import StudentSuccess.InsightCache
import StudentSuccess.NarrativeBatch
import StudentSuccess.RouterHelpers

namespace StudentSuccess
namespace InsightLifecycle
set_option autoImplicit true
open Repository (Insight AttributionFields protectFinalizedAiInsight)
open Snapshot NarrativeReplies Router Sessions
open Narratives (GenerateCounts alreadyFinalized)
open InsightCache (InsightEnv InsightCall Serialized getOrGenerate serializeInsight)

/-- What `db.get` and `str.upper` give, besides the clocks, the ids and the settings. -/
structure EndpointEnv where
  insight : InsightEnv
  upper : String → String
  /-- The columns of the student's row. -/
  mirror : Int → Option (List (String × Py.Value))
  newUuid : Uuid
  metaNow : Instant

def EndpointEnv.governanceMeta (env : EndpointEnv) (headers : Headers) : GovernanceMeta :=
  makeGovernanceMeta (buildRequestAttribution env.insight.executionMode
    (extractCorrelationId headers env.newUuid) (extractCausationId headers) "original" none none)
    env.metaNow

def insightTypes : List String :=
  ["OUTREACH_DRAFT", "INTERVENTION", "RISK_EXPLANATION", "INTERVIEW_COACHING"]

structure InsightRequest where
  env : EndpointEnv
  userId : Int
  insightType : String
  headers : Headers

def InsightRequest.call (request : InsightRequest) : InsightCall where
  env := request.env.insight
  userId := request.userId
  insightType := request.env.upper request.insightType
  student := (request.env.mirror request.userId).getD [("UserID", .int request.userId)]

/-- `get_insight`, with the prompts sent and the table after it. -/
def getInsight (insights : Insights) (request : InsightRequest) :
    Response Serialized × List String × Insights :=
  if request.call.insightType ∉ insightTypes then
    (.fail "INVALID_TYPE" ("Must be one of: ['INTERVENTION', 'INTERVIEW_COACHING', " ++
      "'OUTREACH_DRAFT', 'RISK_EXPLANATION']") none, [], insights)
  else
    let (served, inferences, insights') := getOrGenerate insights request.call
    (.ok served (request.env.governanceMeta request.headers), inferences, insights')

/-- `build_governance_attribution_fields`. -/
structure LineageFields where
  correlationId : Option String
  causationId : Option String
  configVersionId : Option String
  executionMode : String
  executionType : String
  governanceScope : String
  isReplay : Bool
  attributionComplete : Bool

/-- The insights have no column of their own for the completeness. -/
def buildGovernanceAttributionFields (insight : Insight) : LineageFields where
  correlationId := insight.correlationId
  causationId := insight.causationId
  configVersionId := insight.configVersionId
  executionMode := insight.executionMode
  executionType := insight.executionType
  governanceScope := insight.governanceScope
  isReplay := insight.isReplay
  attributionComplete := false

/-- `_insight_item`; `replay_visibility_fields` sets `is_replay` once more. -/
structure InsightItem where
  id : Nat
  insightType : String
  content : Option String
  model : Option String
  createdAt : Instant
  expiresAt : Option Instant
  protection : FinalizedProtection
  lineage : LineageFields
  replayContext : Option String

def insightItem (insight : Insight) : InsightItem where
  id := insight.id
  insightType := insight.insightType
  content := insight.contentText
  model := insight.modelUsed
  createdAt := insight.createdAt
  expiresAt := insight.expiresAt
  protection := buildFinalizedProtectionFields insight.isFinalized insight.finalizedAt
  lineage := buildGovernanceAttributionFields insight
  replayContext := none

structure InsightListing where
  userId : Int
  count : Nat
  finalizedCount : Nat
  finalizedProtection : String
  insights : List InsightItem

/-- `ORDER BY created_at DESC`. -/
def newestFirst (rows : List Insight) : List Insight :=
  rows.insertionSort fun r r' => r'.createdAt ≤ r.createdAt

def studentInsights (insights : Insights) (userId : Int) : List Insight :=
  insights.rows.filter fun r => r.userId = userId

def listing (insights : Insights) (userId : Int) : InsightListing :=
  let items := newestFirst (studentInsights insights userId)
  { userId := userId
    count := items.length
    finalizedCount := items.countP (·.isFinalized)
    finalizedProtection := "ACTIVE — FINALIZED insights cannot be mutated (FAD-1)"
    insights := items.map insightItem }

def allInsights (env : EndpointEnv) (insights : Insights) (userId : Int) (headers : Headers) :
    Response InsightListing :=
  .ok (listing insights userId) (env.governanceMeta headers)

/-- What writes the table: the endpoint, the batch over the students, a student's turn in it
between two other requests, and `protect_finalized_ai_insight`. -/
inductive Request
  | getInsight (request : InsightRequest)
  | generateAll (env : NarrativeEnv) (mirror : Table StudentTriggerData (·.userId))
  | turn (env : NarrativeEnv) (student : StudentTriggerData)
  | finalize (id : Nat) (attribution : AttributionFields) (now : Instant)

theorem protect_id (now : Instant) (insight : Insight) (attribution : AttributionFields) :
    (protectFinalizedAiInsight now insight attribution).1.id = insight.id := by
  by_cases h : insight.isFinalized = false ∧ Repository.Accepted attribution
  · rw [(Repository.protect_accepted now h.1 h.2).1]
    rfl
  · rw [(Repository.protect_refused now h).1]

def step (insights : Insights) : Request → Insights
  | .getInsight request => (getInsight insights request).2.2
  | .generateAll env mirror => (withSession (generateAllMonthlyNarratives env mirror) insights).2
  | .turn env student => (alone env insights student).2
  | .finalize id attribution now =>
    insights.update id (fun insight => (protectFinalizedAiInsight now insight attribution).1)
      fun insight => protect_id now insight attribution

/-- A row as a later state has it: as it was, or finalized since. -/
def Later (r r' : Insight) : Prop := r' = r ∨ r.isFinalized = false ∧ ∃ now, r' = r.finalize now

instance : Std.Refl Later := ⟨fun _ => .inl rfl⟩

theorem Later.of_finalized (h : Later r r') (hfinal : r.isFinalized = true) : r' = r := by
  rcases h with rfl | ⟨hopen, -⟩
  · rfl
  · cases hopen.symm.trans hfinal

instance : IsTrans Insight Later where
  trans r r' r'' h h' := by
    rcases h with rfl | ⟨hopen, now, rfl⟩
    · exact h'
    · rw [h'.of_finalized rfl]
      exact .inr ⟨hopen, now, rfl⟩

/-- Every row stays, in the order of the table. -/
def Kept (insights insights' : Insights) : Prop :=
  List.SublistForall₂ Later insights.rows insights'.rows

section
variable {insights insights' insights'' : Insights}

theorem Kept.refl (insights : Insights) : Kept insights insights :=
  refl_of (List.SublistForall₂ Later) insights.rows

theorem Kept.trans (h : Kept insights insights') (h' : Kept insights' insights'') :
    Kept insights insights'' := trans_of (List.SublistForall₂ Later) h h'

theorem exists_of_sublistForall₂ {R : α → β → Prop} (h : List.SublistForall₂ R l l')
    (ha : a ∈ l) : ∃ b ∈ l', R a b := by
  induction h with
  | nil => cases ha
  | cons hab _ ih =>
    cases ha with
    | head => exact ⟨_, .head _, hab⟩
    | tail _ ha =>
      obtain ⟨b, hb, hr⟩ := ih ha
      exact ⟨b, .tail _ hb, hr⟩
  | cons_right _ ih =>
    obtain ⟨b, hb, hr⟩ := ih ha
    exact ⟨b, .tail _ hb, hr⟩

theorem countP_le_of_sublistForall₂ {R : α → β → Prop} {p : α → Bool} {q : β → Bool}
    (h : List.SublistForall₂ R l l') (hpq : ∀ a b, R a b → p a = true → q b = true) :
    l.countP p ≤ l'.countP q := by
  induction h with
  | nil => exact Nat.zero_le _
  | @cons a b l l' hab _ ih =>
    rw [List.countP_cons, List.countP_cons]
    apply Nat.add_le_add ih
    by_cases ha : p a = true
    · rw [if_pos ha, if_pos (hpq a b hab ha)]
    · rw [if_neg ha]
      exact Nat.zero_le _
  | cons_right _ ih =>
    rw [List.countP_cons]
    exact Nat.le_add_right_of_le ih

theorem Kept.finalized (h : Kept insights insights') (hr : r ∈ insights.rows)
    (hfinal : r.isFinalized = true) : r ∈ insights'.rows := by
  obtain ⟨r', hr', hlater⟩ := exists_of_sublistForall₂ h hr
  rwa [hlater.of_finalized hfinal] at hr'

/-- The rows of the table are only added to. -/
def Extends (insights insights' : Insights) : Prop := insights.rows <+: insights'.rows

theorem advances_addNarratives (env : NarrativeEnv) (userId : Int) (narratives : Py.Value)
    (types : List NarrativeType) :
    Advances Extends (addNarratives env userId narratives types) := by
  have hrefl : ∀ insights, Extends insights insights := fun _ => List.prefix_rfl
  have htrans : ∀ a b c, Extends a b → Extends b c → Extends a c := fun _ _ _ => List.IsPrefix.trans
  induction types with
  | nil => exact advances_pure hrefl _
  | cons type types ih =>
    rw [addNarratives]
    apply (advances_lift hrefl _).bind htrans
    intro content
    cases content.filter (·.truthy) with
    | none => exact ih
    | some value =>
      apply (advances_add hrefl _).bind htrans
      intro _
      exact ih.bind htrans fun generated => advances_pure hrefl _

theorem advances_generateStudentNarratives (env : NarrativeEnv) (student : StudentTriggerData) :
    Advances Extends (generateStudentNarratives env student) := by
  have hrefl : ∀ insights, Extends insights insights := fun _ => List.prefix_rfl
  have htrans : ∀ a b c, Extends a b → Extends b c → Extends a c := fun _ _ _ => List.IsPrefix.trans
  have hinsert : ∀ obj insights insights',
      insertInsight env obj insights = .ok insights' → Extends insights insights' := by
    intro obj insights insights' h
    rw [insertInsight] at h
    cases htakes : env.takes obj with
    | error e =>
      rw [htakes] at h
      cases h
    | ok u =>
      rw [htakes] at h
      cases h
      exact List.prefix_append _ _
  rw [generateStudentNarratives]
  apply (advances_execute hrefl htrans ?_).bind htrans
  · intro skipped
    dsimp only
    split
    · exact advances_pure hrefl _
    · cases (env.complete student).narratives with
      | error exc => exact advances_pure hrefl _
      | ok narratives =>
        apply (advances_addNarratives env student.userId narratives _).bind htrans
        intro generated
        split
        · exact advances_pure hrefl _
        · apply (advances_commit hrefl htrans hinsert _).bind htrans
          exact fun _ => advances_pure hrefl _
  · rintro insights insights' skipped ⟨⟩
    exact hrefl insights

theorem alone_extends (env : NarrativeEnv) (insights : Insights) (student : StudentTriggerData) :
    Extends insights (alone env insights student).2 :=
  (advances_generateStudentNarratives env student).withSession
    (fun insights => List.prefix_refl insights.rows) insights

def turn (env : NarrativeEnv) (insights : Insights) (student : StudentTriggerData) : Insights :=
  (alone env insights student).2

/-- A turn in a session that rests is a turn of its own. -/
theorem turn_rests {s : Session Insights Insight} (hs : Rests s insights) :
    Rests ((generateStudentNarratives env student).after s).2 (turn env insights student) := by
  have hsame : (generateStudentNarratives env student).after s =
      (generateStudentNarratives env student).after (.idle insights) := by
    obtain ⟨committed, transaction, added⟩ := s
    obtain ⟨hview, rfl, rfl⟩ := hs
    rw [generateStudentNarratives, after_bind, after_bind]
    simp only [Action.after, execute, hview]
    rfl
  have hends := generateStudentNarratives_ends env student hs
  have hcommitted : ∀ insights',
      Rests ((generateStudentNarratives env student).after s).2 insights' →
      turn env insights student = insights' := by
    intro insights' h
    rw [← h.committed, hsame]
    rfl
  cases hmade : made env student (alreadyFinalized (narrated insights) student.userId) with
  | none =>
    rw [hmade] at hends
    obtain ⟨e, -, hrests⟩ := hends
    rwa [hcommitted _ hrests]
  | some result =>
    rw [hmade] at hends
    obtain ⟨insights', -, hrests, -⟩ := hends
    rwa [hcommitted _ hrests]

theorem generateStudents_turns {s : Session Insights Insight} (hs : Rests s insights)
    (counts : GenerateCounts) (students : List StudentTriggerData) :
    ∃ served, served <+: students ∧ Rests ((generateStudents env counts students).after s).2
      (Runs.final (turn env) insights served) := by
  induction students generalizing s insights counts with
  | nil => exact ⟨[], List.prefix_rfl, hs⟩
  | cons student students ih =>
    have hturn : Rests ((generateStudentNarratives env student).after s).2
        (turn env insights student) := turn_rests hs
    rw [generateStudents, after_bind]
    cases hresult : (generateStudentNarratives env student).after s with
    | mk result s₁ =>
      rw [hresult] at hturn
      cases result with
      | error e => exact ⟨[student], ⟨students, rfl⟩, hturn⟩
      | ok result =>
        obtain ⟨served, hserved, hrests⟩ := ih hturn (counts.add student.userId result)
        exact ⟨student :: served, List.cons_prefix_cons.2 ⟨rfl, hserved⟩, hrests⟩

/-- The batch is a turn for each student, up to the first that raises. -/
theorem generateAll_turns (env : NarrativeEnv) (mirror : Table StudentTriggerData (·.userId))
    (insights : Insights) : ∃ served, served <+: mirror.rows ∧
      step insights (.generateAll env mirror) = Runs.final (turn env) insights served := by
  by_cases hkey : env.llmApiKey = ""
  · refine ⟨[], List.nil_prefix, ?_⟩
    rw [step, batch_without_key mirror insights hkey]
    rfl
  · obtain ⟨served, hserved, hrests⟩ : ∃ served, served <+: mirror.rows ∧
        Rests ((generateStudents env {} mirror.rows).after
          { Session.idle insights with transaction := some insights }).2
          (Runs.final (turn env) insights served) :=
      generateStudents_turns (rests_read insights) {} mirror.rows
    refine ⟨served, hserved, ?_⟩
    rw [step, withSession, generateAll_after mirror insights hkey, after_bind, ← hrests.committed]
    cases (generateStudents env {} mirror.rows).after
        { Session.idle insights with transaction := some insights } with
    | mk result s =>
      cases result with
      | ok counts => rfl
      | error e => rfl

theorem Extends.kept (h : Extends insights insights') : Kept insights insights' :=
  h.sublist.sublistForall₂

theorem getInsight_extends (insights : Insights) (request : InsightRequest) :
    Extends insights (getInsight insights request).2.2 := by
  rw [getInsight]
  split
  · exact List.prefix_rfl
  · exact InsightCache.rows_prefix insights request.call

theorem protect_later (now : Instant) (insight : Insight) (attribution : AttributionFields) :
    Later insight (protectFinalizedAiInsight now insight attribution).1 := by
  by_cases h : insight.isFinalized = false ∧ Repository.Accepted attribution
  · rw [(Repository.protect_accepted now h.1 h.2).1]
    exact .inr ⟨h.1, now, rfl⟩
  · rw [(Repository.protect_refused now h).1]
    exact .inl rfl

theorem step_kept (insights : Insights) (request : Request) :
    Kept insights (step insights request) := by
  cases request with
  | getInsight request => exact (getInsight_extends insights request).kept
  | generateAll env mirror =>
    obtain ⟨served, -, hturns⟩ := generateAll_turns env mirror insights
    rw [hturns]
    exact Runs.related Kept.refl (fun _ _ _ => Kept.trans)
      (fun insights student => (alone_extends env insights student).kept) insights served
  | turn env student => exact (alone_extends env insights student).kept
  | finalize id attribution now =>
    rw [Kept, step, Table.update_rows, List.sublistForall₂_map_right_iff]
    apply List.sublistForall₂_iff.2
    refine ⟨insights.rows, List.forall₂_same.2 fun r _ => ?_, List.Sublist.refl _⟩
    by_cases hid : r.id = id
    · rw [if_pos hid]
      exact protect_later now r attribution
    · rw [if_neg hid]
      exact .inl rfl

/-- What a student's list says of what an earlier one said. -/
structure ListingKept (insights insights' : Insights) (userId : Int) : Prop where
  readOnly : ∀ item ∈ (listing insights userId).insights,
    item.protection.lineageClassification = "FINALIZED_READ_ONLY" →
    item ∈ (listing insights' userId).insights
  items : ∀ item ∈ (listing insights userId).insights,
    ∃ item' ∈ (listing insights' userId).insights,
      { item' with protection := item.protection } = item
  count : (listing insights userId).count ≤ (listing insights' userId).count
  finalizedCount : (listing insights userId).finalizedCount ≤
    (listing insights' userId).finalizedCount

/-- The endpoint serves no finalized insight, and the list after it has what was served. -/
structure ServesOpen (insights : Insights) (request : InsightRequest) (served : Serialized) :
    Prop where
  isOpen : served.isFinalized = false
  listed : ∃ item ∈ (listing (getInsight insights request).2.2 request.userId).insights,
    item.id = served.id ∧ item.insightType = served.insightType ∧ item.content = served.content ∧
      item.protection.mutationPermitted = true

theorem mem_listing {item : InsightItem} : item ∈ (listing insights userId).insights ↔
    ∃ r ∈ insights.rows, r.userId = userId ∧ insightItem r = item := by
  rw [listing, List.mem_map]
  simp only [newestFirst, List.mem_insertionSort, studentInsights, List.mem_filter,
    decide_eq_true_eq, and_assoc]

theorem listing_count (insights : Insights) (userId : Int) :
    (listing insights userId).count = insights.rows.countP fun r => r.userId = userId := by
  rw [listing, newestFirst, List.length_insertionSort, studentInsights,
    ← List.countP_eq_length_filter]

theorem listing_finalizedCount (insights : Insights) (userId : Int) :
    (listing insights userId).finalizedCount =
      insights.rows.countP fun r => r.isFinalized && r.userId = userId := by
  rw [listing, newestFirst, (List.perm_insertionSort _ _).countP_eq, studentInsights,
    List.countP_filter]

theorem Later.userId (h : Later r r') : r'.userId = r.userId := by
  rcases h with rfl | ⟨-, now, rfl⟩
  · rfl
  · rfl

theorem Later.item (h : Later r r') :
    { insightItem r' with protection := (insightItem r).protection } = insightItem r := by
  rcases h with rfl | ⟨-, now, rfl⟩
  · rfl
  · rfl

theorem isFinalized_of_readOnly
    (h : (insightItem r).protection.lineageClassification = "FINALIZED_READ_ONLY") :
    r.isFinalized = true := by
  cases hfinal : r.isFinalized with
  | true => rfl
  | false =>
    simp [insightItem, hfinal, buildFinalizedProtectionFields] at h

theorem Kept.listing (h : Kept insights insights') (userId : Int) :
    ListingKept insights insights' userId where
  readOnly := by
    intro item hitem hreadOnly
    obtain ⟨r, hr, huser, rfl⟩ := mem_listing.1 hitem
    exact mem_listing.2 ⟨r, h.finalized hr (isFinalized_of_readOnly hreadOnly), huser, rfl⟩
  items := by
    intro item hitem
    obtain ⟨r, hr, huser, rfl⟩ := mem_listing.1 hitem
    obtain ⟨r', hr', hlater⟩ := exists_of_sublistForall₂ h hr
    exact ⟨insightItem r', mem_listing.2 ⟨r', hr', hlater.userId.trans huser, rfl⟩, hlater.item⟩
  count := by
    rw [listing_count, listing_count]
    apply countP_le_of_sublistForall₂ h
    intro r r' hlater hr
    rwa [hlater.userId]
  finalizedCount := by
    rw [listing_finalizedCount, listing_finalizedCount]
    apply countP_le_of_sublistForall₂ h
    intro r r' hlater hr
    rw [Bool.and_eq_true] at hr
    rw [hlater.of_finalized hr.1, Bool.and_eq_true]
    exact hr

theorem getInsight_servesOpen (h : (getInsight insights request).1.data = some served) :
    ServesOpen insights request served := by
  rw [getInsight] at h
  have hafter : request.call.insightType ∈ insightTypes →
      (getInsight insights request).2.2 = (getOrGenerate insights request.call).2.2 := by
    intro htype
    rw [getInsight, if_neg (not_not_intro htype)]
  split at h
  · cases h
  · next htype =>
    rw [Classical.not_not] at htype
    cases hcached : InsightCache.cached insights request.call with
    | some insight =>
      obtain ⟨hexisting, hopen, -⟩ := InsightCache.cached_eq_some_iff.1 hcached
      have hcandidate := InsightCache.mem_candidates_of_existing hexisting
      have huser : insight.userId = request.userId := by
        have hkey := (List.mem_filter.1 hcandidate).2
        rw [Bool.and_eq_true] at hkey
        exact of_decide_eq_true hkey.1
      rw [InsightCache.getOrGenerate_of_cached hcached] at h hafter
      cases h
      refine ⟨hopen, insightItem insight, ?_, rfl, rfl, rfl, ?_⟩
      · rw [hafter htype]
        exact mem_listing.2 ⟨insight, InsightCache.mem_rows_of_candidates hcandidate, huser, rfl⟩
      · rw [insightItem, hopen]
        rfl
    | none =>
      rw [InsightCache.getOrGenerate_of_none hcached] at h hafter
      cases h
      refine ⟨rfl, insightItem (InsightCache.newInsight request.call insights.nextId), ?_, rfl, rfl,
        rfl, rfl⟩
      rw [hafter htype, mem_listing]
      exact ⟨_, List.mem_append_right _ (.head _), rfl, rfl⟩

/-- Along every run of the requests, from any table, a finalized insight is listed as it was, an
open one is at most finalized, none is lost, and the endpoint serves open ones only. -/
theorem finalized_listed_as_it_was (insights : Insights) (requests : List Request) :
    Runs.Stable step (fun insights insights' => ∀ userId, ListingKept insights insights' userId)
        insights requests ∧
      Runs.EveryStep step (fun insights request => ∀ insightRequest served,
          request = .getInsight insightRequest →
          (getInsight insights insightRequest).1.data = some served →
          ServesOpen insights insightRequest served) insights requests := by
  constructor
  · intro before after rest _ userId
    rw [Runs.final_append]
    exact (Runs.related Kept.refl (fun _ _ _ => Kept.trans) step_kept _ after).listing userId
  · induction requests generalizing insights with
    | nil => trivial
    | cons request requests ih =>
      exact ⟨fun _ _ _ h => getInsight_servesOpen h, ih _⟩

/-- The rows of the types that snapshots copy are all finalized, with one for each student and type
at most. -/
structure OneEach (insights : Insights) : Prop where
  finalized : ∀ r ∈ insights.rows, ∀ type : NarrativeType, r.insightType = type.text →
    r.isFinalized = true
  single : ∀ userId type, (finalizedRows insights userId type).length ≤ 1

theorem oneEach_empty : OneEach Table.empty where
  finalized r hr := by cases hr
  single _ _ := Nat.zero_le _

theorem insightTypes_ne_text (h : insightType ∈ insightTypes) (type : NarrativeType) :
    insightType ≠ type.text := by
  have hdisjoint : ∀ insightType ∈ insightTypes, ∀ type ∈ narrativeTypes,
      insightType ≠ type.text := by decide
  exact hdisjoint insightType h type (Narratives.mem_narrativeTypes type)

theorem OneEach.getInsight (h : OneEach insights) (request : InsightRequest) :
    OneEach (step insights (.getInsight request)) := by
  rw [step, InsightLifecycle.getInsight]
  split
  · exact h
  · next htype =>
    rw [Classical.not_not] at htype
    cases hcached : InsightCache.cached insights request.call with
    | some insight => rwa [InsightCache.getOrGenerate_of_cached hcached]
    | none =>
      rw [InsightCache.getOrGenerate_of_none hcached]
      constructor
      · intro r hr type hr'
        rcases List.mem_append.1 hr with hr | hr
        · exact h.finalized r hr type hr'
        · rw [List.mem_singleton] at hr
          subst hr
          exact absurd hr' (insightTypes_ne_text htype type)
      · intro userId type
        show ((insights.rows ++ [InsightCache.newInsight request.call insights.nextId]).filter
          _).length ≤ 1
        have hopen : ¬ Narratives.Finalizes
            (InsightCache.newInsight request.call insights.nextId).toAIInsight userId type :=
          fun hrow => Bool.false_ne_true hrow.2.2
        rw [List.filter_append, List.filter_cons_of_neg (by simpa using hopen), List.filter_nil,
          List.append_nil]
        exact h.single userId type

theorem turn_of_not_made
    (h : made env student (alreadyFinalized (narrated insights) student.userId) = none) :
    turn env insights student = insights := by
  have hends := generateStudentNarratives_ends env student (rests_idle insights)
  rw [h] at hends
  obtain ⟨e, -, hrests⟩ := hends
  exact hrests.committed

theorem made_isFinalized (h : made env student skipped = some (result, rows)) :
    ∀ r ∈ rows, r.isFinalized = true := by
  rcases made_cases h with ⟨rfl, -⟩ | ⟨entries, -, rfl, -, -⟩
  · exact fun r hr => absurd hr List.not_mem_nil
  · intro r hr
    obtain ⟨type, -, hr⟩ := List.mem_filterMap.1 hr
    obtain ⟨value, -, rfl⟩ := Option.map_eq_some_iff.1 hr
    rfl

theorem OneEach.turn (h : OneEach insights) (env : NarrativeEnv) (student : StudentTriggerData) :
    OneEach (turn env insights student) := by
  cases hmade : made env student (alreadyFinalized (narrated insights) student.userId) with
  | none => rwa [turn_of_not_made hmade]
  | some result =>
    obtain ⟨result, rows⟩ := result
    have hcontents : contents (InsightLifecycle.turn env insights student) =
        contents insights ++ rows := (alone_of_made hmade).2
    constructor
    · intro r hr type htype
      have hr' : ({ r with id := 0 } : Insight) ∈ contents insights ++ rows :=
        hcontents ▸ List.mem_map_of_mem (f := fun r : Insight => { r with id := 0 }) hr
      rcases List.mem_append.1 hr' with hr' | hr'
      · obtain ⟨r₀, hr₀, heq⟩ := List.mem_map.1 hr'
        have hsame : r₀.insightType = r.insightType ∧ r₀.isFinalized = r.isFinalized :=
          ⟨congrArg (·.insightType) heq, congrArg (·.isFinalized) heq⟩
        rw [← hsame.2]
        exact h.finalized r₀ hr₀ type (hsame.1.trans htype)
      · have hfinal := made_isFinalized hmade _ hr'
        exact hfinal
    · intro userId type
      have hrows := rowsOf_of_contents hcontents userId
      by_cases huser : userId = student.userId
      · subst huser
        rw [List.filter_eq_self.2 fun r hr => decide_eq_true (made_userId hmade r hr)] at hrows
        have hsingle := finalizedRows_le hmade hrows type
        have hbefore := h.single student.userId type
        omega
      · rw [filter_of_others (made_userId hmade) (Ne.symm huser), List.append_nil] at hrows
        rw [length_finalizedRows, hrows, ← length_finalizedRows]
        exact h.single userId type

/-- The rows that a finalization changes are of none of the types. -/
theorem OneEach.finalize (h : OneEach insights) (id : Nat) (attribution : AttributionFields)
    (now : Instant) : OneEach (step insights (.finalize id attribution now)) := by
  have hlater : ∀ r ∈ insights.rows, Later r
      (if r.id = id then (protectFinalizedAiInsight now r attribution).1 else r) := by
    intro r _
    split_ifs
    · exact protect_later now r attribution
    · exact .inl rfl
  have htype : ∀ r r', Later r r' → r'.insightType = r.insightType := by
    rintro r r' (rfl | ⟨-, now, rfl⟩)
    · rfl
    · rfl
  constructor
  · intro r' hr' type htext
    obtain ⟨r, hr, rfl⟩ := List.mem_map.1 hr'
    have hfinal := h.finalized r hr type ((htype _ _ (hlater r hr)).symm.trans htext)
    rwa [(hlater r hr).of_finalized hfinal]
  · intro userId type
    refine le_of_eq_of_le ?_ (h.single userId type)
    rw [finalizedRows, finalizedRows, ← List.countP_eq_length_filter,
      ← List.countP_eq_length_filter, step, Table.update_rows, List.countP_map]
    apply List.countP_congr
    intro r hr
    simp only [Function.comp_apply, decide_eq_true_eq]
    constructor
    · intro hrow
      have hfinal := h.finalized r hr type ((htype _ _ (hlater r hr)).symm.trans hrow.2.1)
      rwa [(hlater r hr).of_finalized hfinal] at hrow
    · intro hrow
      rwa [(hlater r hr).of_finalized hrow.2.2]

theorem OneEach.step (h : OneEach insights) (request : Request) :
    OneEach (step insights request) := by
  cases request with
  | getInsight request => exact h.getInsight request
  | generateAll env mirror =>
    obtain ⟨served, -, hturns⟩ := generateAll_turns env mirror insights
    rw [hturns]
    exact Runs.invariant (I := OneEach) (fun _ student h => h.turn env student) h served
  | turn env student => exact h.turn env student
  | finalize id attribution now => exact h.finalize id attribution now

def Reads (platform : Platform) (insights : Insights) : Platform :=
  { platform with aiInsights := narrated insights }

/-- What the assembly and the backfill of the snapshots read of the insights, they read of the later
ones. -/
structure ReadsSame (platform : Platform) (insights insights' : Insights) : Prop where
  insight : ∀ userId type insight,
    latestInsight (Reads platform insights) userId type = some insight →
    latestInsight (Reads platform insights') userId type = some insight
  text : ∀ userId type text,
    (aiNarratives (Reads platform insights) userId).texts type = some text →
    (aiNarratives (Reads platform insights') userId).texts type = some text
  available : ∀ userId, (aiNarratives (Reads platform insights) userId).available = true →
    (aiNarratives (Reads platform insights') userId).available = true

theorem latestInsight_reads (platform : Platform) (insights : Insights) (userId : Int)
    (type : NarrativeType) : latestInsight (Reads platform insights) userId type =
      ((finalizedRows insights userId type).map (·.toAIInsight)).argmax (·.createdAt) := by
  have hsame : ∀ r : Insight, (decide (r.userId = userId) && decide (r.insightType = type.text) &&
      r.isFinalized) = decide (Narratives.Finalizes r.toAIInsight userId type) := by
    intro r
    rw [Bool.eq_iff_iff]
    rw [decide_eq_true_iff]
    simp [Narratives.Finalizes, and_assoc]
  rw [latestInsight, Reads, narrated, finalizedRows, List.filter_map]
  simp only [Function.comp_def, hsame]

theorem latestInsight_kept (hkept : Kept insights insights') (hafter : OneEach insights')
    (h : latestInsight (Reads platform insights) userId type = some insight) :
    latestInsight (Reads platform insights') userId type = some insight := by
  rw [latestInsight_reads] at h ⊢
  obtain ⟨r, hr, rfl⟩ := List.mem_map.1 (List.argmax_mem h)
  obtain ⟨hmem, hrow⟩ := List.mem_filter.1 hr
  have hrow' := of_decide_eq_true hrow
  have hlater : r ∈ finalizedRows insights' userId type :=
    List.mem_filter.2 ⟨hkept.finalized hmem hrow'.2.2, hrow⟩
  have hone : finalizedRows insights' userId type = [r] := by
    have hsingle := hafter.single userId type
    cases hrows : finalizedRows insights' userId type with
    | nil =>
      rw [hrows] at hlater
      cases hlater
    | cons r' rest =>
      rw [hrows, List.length_cons] at hsingle
      obtain rfl : rest = [] := List.eq_nil_of_length_eq_zero (by omega)
      rw [hrows, List.mem_singleton] at hlater
      rw [hlater]
  rw [hone]
  rfl

theorem readsSame (hkept : Kept insights insights') (hafter : OneEach insights') :
    ReadsSame platform insights insights' where
  insight _ _ _ h := latestInsight_kept hkept hafter h
  text userId type text h := by
    obtain ⟨insight, hinsight, htext⟩ := Option.bind_eq_some_iff.1 h
    exact Option.bind_eq_some_iff.2 ⟨insight, latestInsight_kept hkept hafter hinsight, htext⟩
  available userId h := by
    obtain ⟨type, htype, hsome⟩ := List.any_eq_true.1 h
    obtain ⟨insight, hinsight⟩ := Option.isSome_iff_exists.1 hsome
    refine List.any_eq_true.2 ⟨type, htype, ?_⟩
    rw [latestInsight_kept hkept hafter hinsight]
    rfl

/-- In every state that the requests reach there is one narrative for a student and a type at most,
and what the snapshots copy of it is the same from then on. -/
theorem narratives_written_once (platform : Platform) (requests : List Request) :
    (∀ before rest, requests = before ++ rest →
        OneEach (Runs.final InsightLifecycle.step .empty before)) ∧
      Runs.Stable InsightLifecycle.step (ReadsSame platform) .empty requests := by
  have hone : ∀ requests, OneEach (Runs.final InsightLifecycle.step .empty requests) :=
    Runs.invariant (fun insights request h => h.step request) oneEach_empty
  constructor
  · intro before rest _
    exact hone before
  · intro before after rest _
    have hkept : Kept (Runs.final InsightLifecycle.step .empty before)
        (Runs.final InsightLifecycle.step .empty (before ++ after)) := by
      rw [Runs.final_append]
      exact Runs.related Kept.refl (fun _ _ _ => Kept.trans) step_kept _ after
    exact readsSame hkept (hone (before ++ after))

end

end InsightLifecycle
end StudentSuccess
