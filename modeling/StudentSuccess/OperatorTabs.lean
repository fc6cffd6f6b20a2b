import StudentSuccess.FinalizedRows
import StudentSuccess.GroupedLatest
import StudentSuccess.LifecycleTabs
import StudentSuccess.OperatorDesk
import StudentSuccess.WorkQueue

namespace StudentSuccess
namespace OperatorDesk
set_option autoImplicit true
open CampaignSync GroupedLatest LifecycleTabs

/-- The orders in which the database lists the tables of the desk to one request. -/
structure Listing (desk : Desk) where
  activities : List ActivityRow
  actions : List QuickActionRow
  notes : List NoteRow
  activities_perm : activities.Perm desk.activities.rows
  actions_perm : actions.Perm desk.actions
  notes_perm : notes.Perm desk.notes

def Listing.inserted (desk : Desk) : Listing desk where
  activities := desk.activities.rows
  actions := desk.actions
  notes := desk.notes
  activities_perm := .rfl
  actions_perm := .rfl
  notes_perm := .rfl

/-- `max(1, min(limit, 200))`. -/
def pageLimit (limit : Int) : Nat := (max 1 (min limit 200)).toNat

section
variable {desk : Desk} (listing : Listing desk)

def getCampaignActivity (userId limit : Int) : List ActivityRow :=
  (Pagination.ranked (·.createdAt)
    (listing.activities.filter (·.studentUserId = userId))).take (pageLimit limit)

def getQuickActionLog (userId limit : Int) : List QuickActionRow :=
  (Pagination.ranked (·.createdAt)
    (listing.actions.filter (·.studentUserId = userId))).take (pageLimit limit)

def listNotes (userId : Int) : List NoteRow :=
  Pagination.ranked (·.createdAt) (listing.notes.filter (·.userId = userId))

/-- The rows of the users, the newest of each user. -/
def latestOf {ρ : Type} (owner : ρ → Int) (createdAt : ρ → Instant) (userIds : List Int)
    (rows : List ρ) : List ρ :=
  if userIds = [] then []
  else latest owner createdAt (rows.filter (owner · ∈ userIds))

def activityMap (userIds : List Int) : List ActivityRow :=
  latestOf (·.studentUserId) (·.createdAt) userIds listing.activities

def noteMap (userIds : List Int) : List NoteRow :=
  latestOf (·.userId) (·.createdAt) userIds listing.notes

end

/-- A student with the fields that `_merge_activity` attaches. -/
structure MergedRow where
  student : StudentTriggerData
  lastCampaignActivityDate : Option Moment
  lastCampaignActivityType : Option String
  lastCampaignActivity : Option String
  campaignNotes : Option String
  notes : Option String

/-- `_merge_activity`, for one row. -/
def mergeActivity (acts : List ActivityRow) (notes : List NoteRow) (student : StudentTriggerData) :
    MergedRow :=
  let a := acts.find? (·.studentUserId = student.userId)
  let n := notes.find? (·.userId = student.userId)
  { student := student
    lastCampaignActivityDate := a.bind (·.activityDate)
    lastCampaignActivityType := a.bind (·.activityType)
    lastCampaignActivity := a.bind (·.activityLabel)
    campaignNotes := n.map (·.content)
    notes := n.map (·.content) }

structure TabRow extends MergedRow where
  rowId : Nat
  studentName : String
  weeksInProgram : Option Int
  lastHwSubmittedDays : Int
  activeStudent : Nat
  downPayment : Option Rat

/-- `_name`. -/
def tabName (student : StudentTriggerData) : String :=
  Py.orText (some (WorkQueue.fullName student)) ("#" ++ toString student.userId)

def weeksInProgram (clock : Clock) (ipbcStart : Option Instant) : Option Int :=
  ipbcStart.map fun start => max 0 (daysBetween clock.utc start / 7)

/-- `str(last_submitted).strip().split(".")[0].replace(" ", "T")`. -/
def submittedText (lastSubmitted : String) : String :=
  String.ofList (((Py.strip lastSubmitted).toList.takeWhile (· ≠ '.')).map fun c =>
    if c = ' ' then 'T' else c)

/-- The instant of a `datetime`; one without a zone is taken as UTC. -/
def Moment.utc : Moment → Instant
  | .naive t => t
  | .aware t => t

def hwSubmittedDays (env : DeskEnv) (clock : Clock) (lastSubmitted : Option String)
    (fallbackDays : Int) : Int :=
  match lastSubmitted with
  | none => fallbackDays
  | some text =>
    if text = "" then fallbackDays
    else
      match env.fromisoformat (submittedText text) with
      | some dt => max 0 (daysBetween clock.utc (Moment.utc dt))
      | none => fallbackDays

def activeStudentFlag (env : DeskEnv) (activeStatus : Option String) : Nat :=
  if env.lower (Py.strip (Py.orText activeStatus "")) ∈ ["1", "active", "true", "yes"] then 1 else 0

/-- `_compute_common`, for the row at the index. -/
def computeCommon (env : DeskEnv) (clock : Clock) (row : MergedRow × Nat) : TabRow :=
  { row.1 with
    rowId := row.2 + 1
    studentName := tabName row.1.student
    weeksInProgram :=
      weeksInProgram clock (row.1.student.ipbcStartDate.or row.1.student.studentStartDate)
    lastHwSubmittedDays :=
      hwSubmittedDays env clock row.1.student.lastSubmitted row.1.student.lastActivityDays
    activeStudent := activeStudentFlag env row.1.student.activeStatus
    downPayment := row.1.student.downPaymentAmt }

inductive View
  | segment (tab : Tab)
  | engagement
  | hwRisk

def View.text : View → String
  | .segment tab => tab.text
  | .engagement => "engagement"
  | .hwRisk => "hw_risk"

def View.lists (clock : Clock) (student : StudentTriggerData) : View → Bool
  | .segment tab => LifecycleTabs.lists clock student.toMirrorColumns tab
  | .engagement | .hwRisk => true

structure ViewResponse where
  tab : String
  total : Nat
  rows : List TabRow

def listed (clock : Clock) (view : View) (limit : TabLimit) (mirror : List StudentTriggerData) :
    List StudentTriggerData :=
  (mirror.filter fun student => view.lists clock student).take limit.limit

/-- The tab of a segment lists the students that `lifecycleTab` gives. -/
theorem listed_segment (clock : Clock) (tab : Tab) (limit : TabLimit)
    (mirror : List StudentTriggerData) :
    listed clock (.segment tab) limit mirror = (lifecycleTab clock tab limit mirror).rows := rfl

/-- An endpoint of the lifecycle tabs; `mirror` is the mirror in the order that the database lists
it. -/
def lifecycleView {desk : Desk} (env : DeskEnv) (clock : Clock) (view : View) (limit : TabLimit)
    (mirror : List StudentTriggerData) (listing : Listing desk) : ViewResponse :=
  let students := listed clock view limit mirror
  let userIds := students.map (·.userId)
  let acts := activityMap listing userIds
  let notes := noteMap listing userIds
  let rows := (students.map (mergeActivity acts notes)).zipIdx.map (computeCommon env clock)
  ⟨view.text, rows.length, rows⟩

section
variable {desk : Desk} {listing : Listing desk} {env : DeskEnv} {clock : Clock} {limit : TabLimit}
  {mirror : List StudentTriggerData} {view : View}

/-- What the map of the users gives for one of them is a newest row of his. -/
theorem isNewest_latestOf {ρ : Type} {owner : ρ → Int} {createdAt : ρ → Instant}
    {userIds : List Int} {rows order : List ρ} (horder : order.Perm rows) (h : userId ∈ userIds) :
    IsNewest createdAt (rows.filter (owner · = userId))
      ((latestOf owner createdAt userIds order).find? (owner · = userId)) := by
  have hsame : (order.filter (owner · ∈ userIds)).filter (owner · = userId) =
      order.filter (owner · = userId) := by
    rw [List.filter_filter]
    apply List.filter_congr
    intro r _
    by_cases howner : owner r = userId
    · simp [howner, h]
    · simp [howner]
  have hnewest : IsNewest createdAt ((order.filter (owner · ∈ userIds)).filter (owner · = userId))
      ((latest owner createdAt (order.filter (owner · ∈ userIds))).find? (owner · = userId)) :=
    isNewest_find?_latest _ userId
  rw [latestOf, if_neg (List.ne_nil_of_mem h)]
  rw [hsame] at hnewest
  exact hnewest.perm (horder.filter _)

theorem one_le_pageLimit (limit : Int) : 1 ≤ pageLimit limit := by
  rw [pageLimit]
  omega

theorem isNewest_page {ρ : Type} {createdAt : ρ → Instant} {rows order : List ρ}
    (horder : order.Perm rows) (limit : Int) :
    IsNewest createdAt rows
      ((Pagination.ranked createdAt order).take (pageLimit limit)).head? := by
  have hpos : pageLimit limit ≠ 0 := Nat.ne_of_gt (one_le_pageLimit limit)
  rw [List.head?_take, if_neg hpos]
  exact (isNewest_ranked order).perm horder

theorem mem_getQuickActionLog {limit : Int} (h : click ∈ getQuickActionLog listing userId limit) :
    click ∈ desk.actions ∧ click.studentUserId = userId := by
  have hmem := List.mem_filter.1 (Pagination.mem_ranked.1 (List.mem_of_mem_take h))
  exact ⟨listing.actions_perm.mem_iff.1 hmem.1, of_decide_eq_true hmem.2⟩

def TabRow.ShowsActivity (row : TabRow) (shown : Option ActivityRow) : Prop :=
  row.lastCampaignActivityDate = shown.bind (·.activityDate) ∧
    row.lastCampaignActivityType = shown.bind (·.activityType) ∧
    row.lastCampaignActivity = shown.bind (·.activityLabel)

def TabRow.ShowsNote (row : TabRow) (shown : Option NoteRow) : Prop :=
  row.campaignNotes = shown.map (·.content) ∧ row.notes = shown.map (·.content)

def activitiesOf (desk : Desk) (userId : Int) : List ActivityRow :=
  desk.activities.rows.filter (·.studentUserId = userId)

/-- A row of a tab shows the newest of what the requests so far have left of its student, as the
student's own pages do. -/
structure ShowsLatest (env : DeskEnv) (served : List (OperatorDesk.Event × Answer)) (desk : Desk)
    (row : TabRow) : Prop where
  activity : ∃ shown, row.ShowsActivity shown ∧
    IsNewest (·.createdAt) (activitiesOf desk row.student.userId) shown ∧
    ∀ (listing : Listing desk) (limit : Int),
      shown.map (·.createdAt) =
        (getCampaignActivity listing row.student.userId limit).head?.map (·.createdAt) ∧
      ∀ click ∈ getQuickActionLog listing row.student.userId limit,
        ∃ a, shown = some a ∧ click.createdAt ≤ a.createdAt
  note : ∃ shown, row.ShowsNote shown ∧
    IsNewest (·.createdAt)
      ((served.filterMap notedRow).filter (·.userId = row.student.userId)) shown ∧
    ∀ listing : Listing desk, shown.map (·.createdAt) =
      (listNotes listing row.student.userId).head?.map (·.createdAt)
  click : ∀ click ∈ served.filterMap (loggedRow env), click.studentUserId = row.student.userId →
    (∀ a ∈ activitiesOf desk row.student.userId, entry a ≠ companion env click →
      a.createdAt < click.createdAt) →
    row.lastCampaignActivityDate = none ∧
      row.lastCampaignActivityType = click.tabName.map env.upper ∧
      row.lastCampaignActivity = click.actionLabel

theorem exists_companion (hinStep : InStep env desk) (h : click ∈ desk.actions) :
    ∃ a ∈ activitiesOf desk click.studentUserId, entry a = companion env click := by
  have hmem : companion env click ∈ operators desk := by
    rw [inStep_iff.1 hinStep]
    exact List.mem_map_of_mem h
  obtain ⟨a, ha, hentry⟩ := List.mem_map.1 hmem
  refine ⟨a, List.mem_filter.2 ⟨(List.mem_filter.1 ha).1, ?_⟩, hentry⟩
  exact decide_eq_true (congrArg (·.1.studentUserId) hentry)

theorem mem_lifecycleView (h : row ∈ (lifecycleView env clock view limit mirror listing).rows) :
    ∃ userIds, row.student.userId ∈ userIds ∧
      row.ShowsActivity
        ((activityMap listing userIds).find? (·.studentUserId = row.student.userId)) ∧
      row.ShowsNote ((noteMap listing userIds).find? (·.userId = row.student.userId)) := by
  obtain ⟨merged, hmerged, rfl⟩ := List.mem_map.1 h
  obtain ⟨student, hstudent, hrow⟩ := List.mem_map.1 (List.fst_mem_of_mem_zipIdx hmerged)
  refine ⟨(listed clock view limit mirror).map (·.userId), ?_, ?_, ?_⟩
  · show merged.1.student.userId ∈ _
    rw [← hrow]
    exact List.mem_map_of_mem hstudent
  · show _ ∧ _ ∧ _
    rw [computeCommon, ← hrow]
    exact ⟨rfl, rfl, rfl⟩
  · show _ ∧ _
    rw [computeCommon, ← hrow]
    exact ⟨rfl, rfl⟩

theorem lifecycleView_students : (lifecycleView env clock view limit mirror listing).rows.map
    (·.student) = listed clock view limit mirror := by
  rw [lifecycleView, List.map_map]
  show List.map (MergedRow.student ∘ Prod.fst) _ = _
  rw [← List.map_map, List.zipIdx_map_fst, List.map_map]
  exact List.map_id _

/-- A desk that began empty holds what its requests were answered for. -/
theorem run_from_empty (env : DeskEnv) (events : List OperatorDesk.Event) :
    InStep env (Runs.final (step env) Desk.empty events) ∧
      (Runs.final (step env) Desk.empty events).actions =
        (history env Desk.empty events).filterMap (loggedRow env) ∧
      (Runs.final (step env) Desk.empty events).notes =
        (history env Desk.empty events).filterMap notedRow :=
  have hgrows := run_grows env Desk.empty events
  ⟨hgrows.inStep_iff.2 rfl, hgrows.actions, hgrows.notes⟩

theorem showsLatest {served : List (OperatorDesk.Event × Answer)} (hinStep : InStep env desk)
    (hactions : desk.actions = served.filterMap (loggedRow env))
    (hnotes : desk.notes = served.filterMap notedRow)
    (hrow : row ∈ (lifecycleView env clock view limit mirror listing).rows) :
    ShowsLatest env served desk row := by
  obtain ⟨userIds, hid, hactivity, hnote⟩ := mem_lifecycleView hrow
  have hnewest : IsNewest (·.createdAt) (activitiesOf desk row.student.userId)
      ((activityMap listing userIds).find? (·.studentUserId = row.student.userId)) :=
    isNewest_latestOf listing.activities_perm hid
  have hnewestNote : IsNewest (·.createdAt) (desk.notes.filter (·.userId = row.student.userId))
      ((noteMap listing userIds).find? (·.userId = row.student.userId)) :=
    isNewest_latestOf listing.notes_perm hid
  have hcompanion : ∀ click ∈ desk.actions, click.studentUserId = row.student.userId →
      ∃ a, (activityMap listing userIds).find? (·.studentUserId = row.student.userId) = some a ∧
        a ∈ activitiesOf desk row.student.userId ∧ click.createdAt ≤ a.createdAt := by
    intro click hclick howner
    obtain ⟨b, hb, hentry⟩ := exists_companion hinStep hclick
    obtain ⟨a, hshown, ha, hle⟩ := hnewest.of_mem (howner ▸ hb)
    exact ⟨a, hshown, ha, (congrArg (·.2) hentry).symm.trans_le hle⟩
  constructor
  · refine ⟨_, hactivity, hnewest, ?_⟩
    intro listing' limit'
    refine ⟨hnewest.time_eq (isNewest_page (listing'.activities_perm.filter _) limit'), ?_⟩
    intro click hclick
    obtain ⟨hlogged, howner⟩ := mem_getQuickActionLog hclick
    obtain ⟨a, hshown, -, hle⟩ := hcompanion click hlogged howner
    exact ⟨a, hshown, hle⟩
  · refine ⟨_, hnote, hnotes ▸ hnewestNote, ?_⟩
    intro listing'
    exact hnewestNote.time_eq ((isNewest_ranked _).perm (listing'.notes_perm.filter _))
  · intro click hclick howner holder
    obtain ⟨a, hshown, ha, hle⟩ := hcompanion click (hactions ▸ hclick) howner
    have hentry : entry a = companion env click := by
      by_contra hne
      exact absurd hle (holder a ha hne).not_ge
    obtain ⟨hdate, htype, hlabel⟩ := hactivity
    rw [hshown] at hdate htype hlabel
    refine ⟨hdate.trans ?_, htype.trans ?_, hlabel.trans ?_⟩
    · exact congrArg (·.1.activityDate) hentry
    · exact congrArg (·.1.activityType) hentry
    · exact congrArg (·.1.activityLabel) hentry

end

/-- After any requests every lifecycle tab lists its students with the newest of what these requests
have recorded of them. -/
theorem tabs_show_latest (env : DeskEnv) (events : List OperatorDesk.Event) (clock : Clock)
    (view : View) (limit : TabLimit) (mirror : List StudentTriggerData)
    (listing : Listing (Runs.final (step env) Desk.empty events)) :
    (lifecycleView env clock view limit mirror listing).rows.map (·.student) =
        listed clock view limit mirror ∧
      ∀ row ∈ (lifecycleView env clock view limit mirror listing).rows,
        ShowsLatest env (history env Desk.empty events)
          (Runs.final (step env) Desk.empty events) row := by
  obtain ⟨hinStep, hactions, hnotes⟩ := run_from_empty env events
  exact ⟨lifecycleView_students, fun row hrow => showsLatest hinStep hactions hnotes hrow⟩

def plainDesk : DeskEnv where
  toSyncEnv :=
    { plainEnv with upper := fun text => if text = "newcomers" then "NEWCOMERS" else text }
  mode := .shadow
  acceptsAction _ := true
  acceptsNote _ := true

/-- The request of a moment, whose rows get the number of the request as id. -/
def deskCall (n : Nat) : DeskCall :=
  ⟨⟨"c1", by decide⟩, n, n, n, n, n, .ok ()⟩

def click (n : Nat) (label : String) : OperatorDesk.Event :=
  .quickAction (deskCall n) []
    { studentUserId := 7, actionKey := "contact", actionLabel := label, tabName := "newcomers" }

/-- Two clicks for a student and a note between them. -/
def contacts : List OperatorDesk.Event :=
  [click 1 "Called", .note (deskCall 2) { userId := 7, content := "No answer" },
    click 3 "Sent an e-mail"]

/-- The tab shows the second click and the note. -/
theorem contacts_shown :
    let view := lifecycleView plainDesk ⟨4, 4⟩ .engagement ⟨200, by decide, by decide⟩
      [Pipeline.mirrored] (.inserted (Runs.final (step plainDesk) Desk.empty contacts))
    view.rows.map (·.student) = [Pipeline.mirrored] ∧
      ∀ row ∈ view.rows, row.lastCampaignActivityType = some "NEWCOMERS" ∧
        row.lastCampaignActivity = some "Sent an e-mail" ∧ row.notes = some "No answer" := by
  intro view
  obtain ⟨hstudents, hshows⟩ := tabs_show_latest plainDesk contacts ⟨4, 4⟩ .engagement
    ⟨200, by decide, by decide⟩ [Pipeline.mirrored] (.inserted _)
  refine ⟨hstudents, fun row hrow => ?_⟩
  have hstudent : row.student = Pipeline.mirrored := by
    have hmem := List.mem_map_of_mem (f := fun row => row.student) hrow
    rw [hstudents] at hmem
    exact List.mem_singleton.1 hmem
  have howner : (7 : Int) = row.student.userId := by
    rw [hstudent]
    rfl
  have hactivity : row.lastCampaignActivityType = some "NEWCOMERS" ∧
      row.lastCampaignActivity = some "Sent an e-mail" := by
    refine ((hshows row hrow).click _ (.tail _ (.head _)) howner ?_).2
    rw [← howner]
    intro a ha hother
    -- The two activities that the clicks have left.
    rcases ha with _ | ⟨_, ha⟩
    · exact Nat.lt_of_sub_eq_succ rfl
    · rcases ha with _ | ⟨_, ha⟩
      · exact absurd rfl hother
      · cases ha
  obtain ⟨shown, ⟨-, hnotes⟩, hnewest, -⟩ := (hshows row hrow).note
  rw [← howner] at hnewest
  obtain ⟨note, rfl, hnote, -⟩ := hnewest.of_mem (.head _)
  rcases hnote with _ | ⟨_, hnote⟩
  · exact ⟨hactivity.1, hactivity.2, hnotes⟩
  · cases hnote

end OperatorDesk
end StudentSuccess
