import StudentSuccess.FinalizedRows
import StudentSuccess.WorkQueue
import Mathlib.Data.List.Dedup
import Mathlib.Data.List.Perm.Subperm

namespace StudentSuccess
namespace WorkQueue
set_option autoImplicit true
open Pagination

variable {db : Platform}

def Listing.inserted (db : Platform) : Listing db :=
  ⟨db.triggerdata.rows, db.tracking.rows, .refl _, .refl _⟩

theorem queueNamed_text (queue : Queue) : queueNamed queue.text = some queue := by
  cases queue <;> decide

def keepsStudent (db : Platform) (queue : Queue) (path : Option String)
    (student : StudentTriggerData) : Bool :=
  (queue ≠ .untracked || !tracked db.tracking.rows student.userId) && onPath path student

def keepsTracking (db : Platform) (queue : Queue) (path : Option String) (now : Instant)
    (t : StudentOutreachTracking) : Bool :=
  sourceOnPath path (db.triggerdata.find? t.userId) && selected queue now t

def joinedRow (db : Platform) (t : StudentOutreachTracking) : QueueRow :=
  trackingRow (db.triggerdata.find? t.userId) t

theorem sourceStudents_eq (listing : Listing db) (queue : Queue) (path : Option String) :
    sourceStudents listing queue path = listing.source.filter (keepsStudent db queue path) := by
  have htracked : ∀ userId, tracked listing.tracking userId = tracked db.tracking.rows userId :=
    fun userId => listing.tracking_perm.any_eq
  simp only [sourceStudents, List.filter_filter, htracked]
  rfl

theorem sourceOf_eq (listing : Listing db) {userIds : List Int} (h : userId ∈ userIds) :
    sourceOf (listing.source.filter (·.userId ∈ userIds)) userId =
      db.triggerdata.find? userId := by
  have hunique : (listing.source.map (·.userId)).Nodup :=
    (listing.source_perm.map _).nodup_iff.2 db.triggerdata.unique
  have hperm : Table.find? ⟨listing.source, hunique⟩ userId = db.triggerdata.find? userId :=
    Table.find?_eq_of_perm listing.source_perm userId
  have hwhere : ∀ student : StudentTriggerData,
      decide (decide (student.userId ∈ userIds) = true ∧ decide (student.userId = userId) = true) =
        decide (student.userId = userId) := by
    intro student
    apply decide_eq_decide.2
    rw [decide_eq_true_eq, decide_eq_true_eq]
    exact and_iff_right_of_imp fun hid => hid ▸ h
  rw [← hperm, sourceOf, List.find?_filter, Table.find?]
  exact congrArg (List.find? · listing.source) (funext hwhere)

theorem trackingRows_eq (listing : Listing db) (queue : Queue) (path : Option String)
    (now : Instant) :
    trackingRows listing queue path now =
      (listing.tracking.filter (keepsTracking db queue path now)).map (joinedRow db) := by
  have hsource : ∀ t ∈ listing.tracking.filter (selected queue now),
      sourceOf (listing.source.filter
          (·.userId ∈ (listing.tracking.filter (selected queue now)).map (·.userId))) t.userId =
        db.triggerdata.find? t.userId :=
    fun t ht => sourceOf_eq listing (List.mem_map_of_mem ht)
  have hkept : (listing.tracking.filter (selected queue now)).filter (fun t => sourceOnPath path
        (sourceOf (listing.source.filter
          (·.userId ∈ (listing.tracking.filter (selected queue now)).map (·.userId))) t.userId)) =
      listing.tracking.filter (keepsTracking db queue path now) := by
    rw [List.filter_congr fun t ht => congrArg (sourceOnPath path) (hsource t ht),
      List.filter_filter]
    rfl
  rw [trackingRows, hkept]
  apply List.map_congr_left
  intro t ht
  obtain ⟨ht, hkeeps⟩ := List.mem_filter.1 ht
  rw [hsource t (List.mem_filter.2 ⟨ht, (Bool.and_eq_true_iff.1 hkeeps).2⟩)]
  rfl

theorem queueRows_perm (listing : Listing db) (queue : Queue) (path : Option String)
    (now : Instant) :
    (queueRows listing queue path now).Perm (queueRows (Listing.inserted db) queue path now) := by
  rw [queueRows, queueRows]
  split
  · rw [sourceStudents_eq, sourceStudents_eq]
    exact (listing.source_perm.filter _).map _
  · rw [trackingRows_eq, trackingRows_eq]
    exact (listing.tracking_perm.filter _).map _

theorem queueRows_nodup (listing : Listing db) (queue : Queue) (path : Option String)
    (now : Instant) : (queueRows listing queue path now).Nodup := by
  rw [(queueRows_perm listing queue path now).nodup_iff, queueRows]
  split
  · rw [sourceStudents_eq]
    apply List.Nodup.of_map (·.userId)
    rw [List.map_map]
    exact db.triggerdata.unique.sublist (List.filter_sublist.map _)
  · rw [trackingRows_eq]
    apply List.Nodup.of_map fun row => (row.userId, row.checkpointType)
    have hkeys : (db.tracking.rows.map fun t => (t.userId, some t.checkpointType)).Nodup := by
      have hinjective : Function.Injective fun key : Int × String => (key.1, some key.2) :=
        fun _ _ h => Prod.ext (Prod.mk.inj h).1 (Option.some.inj (Prod.mk.inj h).2)
      have hmap := db.uqStudentCheckpoint.map hinjective
      rwa [List.map_map] at hmap
    rw [List.map_map]
    exact hkeys.sublist (List.filter_sublist.map _)

/-- Every order of the queue's rows comes from a listing. -/
theorem exists_listing {order : List QueueRow}
    (h : order.Perm (queueRows (Listing.inserted db) queue path now)) :
    ∃ listing : Listing db, queueRows listing queue path now = order := by
  by_cases hqueue : queue = .allSource ∨ queue = .untracked
  · rw [queueRows, if_pos hqueue, sourceStudents_eq] at h
    obtain ⟨source, hperm, horder⟩ := exists_order h
    use ⟨source, db.tracking.rows, hperm, .refl _⟩
    rw [queueRows, if_pos hqueue, sourceStudents_eq]
    exact horder
  · rw [queueRows, if_neg hqueue, trackingRows_eq] at h
    obtain ⟨tracking, hperm, horder⟩ := exists_order h
    use ⟨db.triggerdata.rows, tracking, .refl _, hperm⟩
    rw [queueRows, if_neg hqueue, trackingRows_eq]
    exact horder

theorem workQueueDetail_eq (listing : Listing db) (now : Instant) (queue : Queue)
    (path : Option String) (size : PageSize) (offset : Nat) :
    workQueueDetail listing now queue.text path size offset =
      .ok (respond queue (queueRows listing queue path now) size.limit offset) := by
  rw [workQueueDetail, queueNamed_text, queueRows]
  dsimp only
  split
  · rfl
  · rw [trackingQueue]
    split
    · next hempty =>
      have hrows : trackingRows listing queue path now = [] := by
        rw [trackingRows, hempty]
        rfl
      have hslice : slice offset size.limit
          (ranked (·.priorityScore) ([] : List QueueRow)) = [] := by
        rw [slice]
        exact (congrArg (List.take size.limit) List.drop_nil).trans List.take_nil
      rw [hrows, respond, hslice]
      rfl
    · rfl

def OnPage (listing : Listing db) (now : Instant) (queue : Queue) (path : Option String)
    (size : PageSize) (number : Nat) (row : QueueRow) : Prop :=
  ∃ response, workQueueDetail listing now queue.text path size (number * size.limit) =
      .ok response ∧ row ∈ response.rows

theorem onPage_iff {listing : Listing db} :
    OnPage listing now queue path size number row ↔
      row ∈ page size.limit number
        (ranked (·.priorityScore) (queueRows listing queue path now)) := by
  rw [OnPage, workQueueDetail_eq]
  constructor
  · intro h
    obtain ⟨response, hresponse, hrow⟩ := h
    cases hresponse
    exact hrow
  · exact fun h => ⟨_, rfl, h⟩

/-- Each row of the queue is on exactly one page, in whatever order the database lists the rows to
each request. -/
def PagesPartition (db : Platform) (now : Instant) (queue : Queue) (path : Option String)
    (size : PageSize) : Prop :=
  ∀ listings : Nat → Listing db, ∀ row ∈ queueRows (Listing.inserted db) queue path now,
    ∃ number, OnPage (listings number) now queue path size number row ∧
      ∀ number', OnPage (listings number') now queue path size number' row → number' = number

theorem pagesPartition_iff_paginates :
    PagesPartition db now queue path size ↔
      Paginates (·.priorityScore) size.limit
        (queueRows (Listing.inserted db) queue path now) := by
  constructor
  · intro h orders horders row hrow
    choose listings hlistings using fun number => exists_listing (horders number)
    obtain ⟨number, hpage, honly⟩ := h listings row hrow
    simp only [onPage_iff, hlistings] at hpage honly
    exact ⟨number, hpage, honly⟩
  · intro h listings row hrow
    obtain ⟨number, hpage, honly⟩ :=
      h _ (fun number => queueRows_perm (listings number) _ _ _) row hrow
    exact ⟨number, onPage_iff.2 hpage, fun number' h => honly number' (onPage_iff.1 h)⟩

/-- The pages of a size partition the queue exactly where ties of the score stand together. -/
theorem pagesPartition_iff :
    PagesPartition db now queue path size ↔
      TiesTogether (·.priorityScore) size.limit
        (queueRows (Listing.inserted db) queue path now) :=
  pagesPartition_iff_paginates.trans (paginates_iff_tiesTogether size.pos (queueRows_nodup _ _ _ _))

/-- Every tracked student is in the mirror. -/
def TrackedInSource (db : Platform) : Prop :=
  ∀ t ∈ db.tracking.rows, ∃ student ∈ db.triggerdata.rows, student.userId = t.userId

def ScoresDistinct (db : Platform) (now : Instant) : Prop :=
  ∀ queue, ((queueRows (Listing.inserted db) queue none now).map (·.priorityScore)).Nodup

theorem countP_state_cons {states : List OutreachState} (h : s ∉ states)
    (rows : List StudentOutreachTracking) :
    rows.countP (·.state ∈ s :: states) =
      rows.countP (·.state = s) + rows.countP (·.state ∈ states) := by
  induction rows with
  | nil => rfl
  | cons t rows ih =>
    rw [List.countP_cons, List.countP_cons, List.countP_cons, ih]
    by_cases hs : t.state = s
    · rw [hs]
      simp only [List.mem_cons, true_or, h, decide_true, decide_false, if_true]
      simp only [Bool.false_eq_true, if_false]
      omega
    · simp only [List.mem_cons, hs, false_or, decide_false, Bool.false_eq_true, if_false]
      omega

theorem countP_states {states : List OutreachState} (h : states.Nodup)
    (rows : List StudentOutreachTracking) :
    rows.countP (·.state ∈ states) = (states.map fun s => rows.countP (·.state = s)).sum := by
  induction states with
  | nil =>
    apply List.countP_eq_zero.2
    exact fun t _ => of_decide_eq_false rfl
  | cons s states ih =>
    obtain ⟨hs, hstates⟩ := List.nodup_cons.1 h
    rw [countP_state_cons hs, ih hstates]
    rfl

theorem length_trackingQueue (hqueue : ¬ (queue = .allSource ∨ queue = .untracked)) :
    (queueRows (Listing.inserted db) queue none now).length =
      db.tracking.rows.countP (selected queue now) := by
  rw [queueRows, if_neg hqueue, trackingRows_eq, List.length_map, List.countP_eq_length_filter]
  rfl

theorem length_statesQueue (hqueue : ¬ (queue = .allSource ∨ queue = .untracked))
    (states : List OutreachState) (hstates : states.Nodup)
    (hselected : ∀ t, selected queue now t = decide (t.state ∈ states)) :
    (queueRows (Listing.inserted db) queue none now).length =
      (states.map fun s => db.tracking.rows.countP (·.state = s)).sum := by
  rw [length_trackingQueue hqueue, funext hselected]
  exact countP_states hstates db.tracking.rows

/-- Beside the untracked students each count is the length of its queue. -/
theorem workQueueSummary_eq (hqueue : queue ≠ .untracked) :
    workQueueSummary db now queue = (queueRows (Listing.inserted db) queue none now).length := by
  cases queue with
  | allSource =>
    have hkept : db.triggerdata.rows.filter (keepsStudent db .allSource none) =
        db.triggerdata.rows := List.filter_eq_self.2 fun _ _ => rfl
    rw [queueRows, if_pos (.inl rfl), sourceStudents_eq, List.length_map, Listing.inserted, hkept]
    rfl
  | untracked => exact absurd rfl hqueue
  | eligible =>
    rw [length_statesQueue (by decide) [.eligible, .queued, .retry] (by decide) fun _ => rfl]
    simp only [workQueueSummary, List.map_cons, List.map_nil, List.sum_cons, List.sum_nil]
    omega
  | contacted =>
    rw [length_trackingQueue (by decide)]
    rfl
  | intervention =>
    rw [length_trackingQueue (by decide)]
    rfl
  | retryDue =>
    rw [length_trackingQueue (by decide)]
    rfl
  | resolvedClosed =>
    rw [length_statesQueue (by decide) [.resolved, .closed] (by decide) fun _ => rfl]
    simp only [workQueueSummary, List.map_cons, List.map_nil, List.sum_cons, List.sum_nil]
    omega

theorem length_dedup_eq_iff {ids sources : List Int} (h : sources.Nodup) :
    ids.dedup.length = (sources.filter (· ∈ ids)).length ↔ ∀ id ∈ ids, id ∈ sources := by
  have hsub : sources.filter (· ∈ ids) ⊆ ids.dedup := fun id hid =>
    List.mem_dedup.2 (of_decide_eq_true (List.mem_filter.1 hid).2)
  have hsubperm : (sources.filter (· ∈ ids)).Subperm ids.dedup :=
    List.subperm_of_subset (h.filter _) hsub
  constructor
  · intro hlength id hid
    have hperm := hsubperm.perm_of_length_le hlength.le
    exact (List.mem_filter.1 (hperm.mem_iff.2 (List.mem_dedup.2 hid))).1
  · intro hall
    apply List.Perm.length_eq
    apply (List.perm_ext_iff_of_nodup (List.nodup_dedup ids) (h.filter _)).2
    intro id
    rw [List.mem_dedup, List.mem_filter, decide_eq_true_eq]
    exact ⟨fun hid => ⟨hall id hid, hid⟩, fun hid => hid.2⟩

theorem tracked_eq (tracking : List StudentOutreachTracking) (userId : Int) :
    tracked tracking userId = decide (userId ∈ tracking.map (·.userId)) := by
  rw [Bool.eq_iff_iff, tracked, List.any_eq_true, decide_eq_true_eq, List.mem_map]
  simp only [decide_eq_true_eq]

/-- The count of the untracked students is the length of their queue exactly when no tracked
student is missing from the mirror. -/
theorem untracked_eq_iff :
    workQueueSummary db now .untracked =
        (queueRows (Listing.inserted db) .untracked none now).length ↔ TrackedInSource db := by
  have hparts : (queueRows (Listing.inserted db) .untracked none now).length +
      ((db.triggerdata.rows.map (·.userId)).filter
        (· ∈ db.tracking.rows.map (·.userId))).length = db.triggerdata.rows.length := by
    have hkept : keepsStudent db .untracked none =
        fun student => !decide (student.userId ∈ db.tracking.rows.map (·.userId)) := by
      funext student
      rw [← tracked_eq]
      exact Bool.and_true (!tracked db.tracking.rows student.userId)
    rw [queueRows, if_pos (.inr rfl), sourceStudents_eq, List.length_map, hkept, List.filter_map,
      List.length_map, Nat.add_comm]
    exact (List.length_eq_length_filter_add _).symm
  have hsummary : workQueueSummary db now .untracked = (db.triggerdata.rows.length : Int) -
      (db.tracking.rows.map (·.userId)).dedup.length := rfl
  have hdedup : (db.tracking.rows.map (·.userId)).dedup.length =
      ((db.triggerdata.rows.map (·.userId)).filter
        (· ∈ db.tracking.rows.map (·.userId))).length ↔
      ∀ userId ∈ db.tracking.rows.map (·.userId), userId ∈ db.triggerdata.rows.map (·.userId) :=
    length_dedup_eq_iff db.triggerdata.unique
  rw [hsummary, ← hparts]
  constructor
  · intro h t ht
    exact List.mem_map.1 (hdedup.1 (by omega) t.userId (List.mem_map_of_mem ht))
  · intro h
    have hlength := hdedup.2 fun userId huser => by
      obtain ⟨t, ht, rfl⟩ := List.mem_map.1 huser
      exact List.mem_map.2 (h t ht)
    omega

structure Consistent (db : Platform) (now : Instant) : Prop where
  counts : ∀ queue, ∀ listing : Listing db, ∀ size offset, ∃ response,
    workQueueDetail listing now queue.text none size offset = .ok response ∧
      workQueueSummary db now queue = response.total
  nonneg : ∀ queue, 0 ≤ workQueueSummary db now queue
  pages : ∀ queue path size, PagesPartition db now queue path size

theorem queueRows_path_sublist (queue : Queue) (path : Option String) (now : Instant) :
    (queueRows (Listing.inserted db) queue path now).Sublist
      (queueRows (Listing.inserted db) queue none now) := by
  rw [queueRows, queueRows]
  split
  · rw [sourceStudents_eq, sourceStudents_eq]
    apply List.Sublist.map
    apply List.monotone_filter_right
    intro student hkeeps
    exact Bool.and_eq_true_iff.2 ⟨(Bool.and_eq_true_iff.1 hkeeps).1, rfl⟩
  · rw [trackingRows_eq, trackingRows_eq]
    apply List.Sublist.map
    apply List.monotone_filter_right
    intro t hkeeps
    exact Bool.and_eq_true_iff.2 ⟨rfl, (Bool.and_eq_true_iff.1 hkeeps).2⟩

/-- Pages of every size partition every queue exactly where no two scores agree. -/
theorem pages_iff :
    (∀ queue path size, PagesPartition db now queue path size) ↔ ScoresDistinct db now := by
  have hsizes : ∀ queue path, (∀ size, PagesPartition db now queue path size) ↔
      ((queueRows (Listing.inserted db) queue path now).map (·.priorityScore)).Nodup := by
    intro queue path
    have hevery : (∀ limit, 1 ≤ limit ∧ limit ≤ 200 → Paginates (·.priorityScore) limit
          (queueRows (Listing.inserted db) queue path now)) ↔
        ((queueRows (Listing.inserted db) queue path now).map (·.priorityScore)).Nodup :=
      paginates_every_iff ⟨le_rfl, by decide⟩ (fun _ h => h.1) (queueRows_nodup _ _ _ _)
    rw [← hevery]
    constructor
    · intro h limit hlimit
      exact pagesPartition_iff_paginates.1 (h ⟨limit, hlimit.1, hlimit.2⟩)
    · intro h size
      exact pagesPartition_iff_paginates.2 (h size.limit ⟨size.pos, size.le⟩)
  constructor
  · intro h queue
    exact (hsizes queue none).1 (h queue none)
  · intro h queue path
    exact (hsizes queue path).2 ((h queue).sublist ((queueRows_path_sublist queue path now).map _))

/-- The summary, the totals and the pages agree exactly for a mirror with every tracked student in
it and queues without ties. -/
theorem work_queue_consistent_iff (db : Platform) (now : Instant) :
    Consistent db now ↔ TrackedInSource db ∧ ScoresDistinct db now := by
  have htotal : ∀ queue, ∀ listing : Listing db, (queueRows listing queue none now).length =
      (queueRows (Listing.inserted db) queue none now).length :=
    fun queue listing => (queueRows_perm listing queue none now).length_eq
  constructor
  · intro h
    refine ⟨?_, pages_iff.1 h.pages⟩
    obtain ⟨response, hresponse, hcount⟩ :=
      h.counts .untracked (Listing.inserted db) ⟨1, le_rfl, by decide⟩ 0
    rw [workQueueDetail_eq] at hresponse
    cases hresponse
    exact untracked_eq_iff.1 hcount
  · intro h
    have hcounts : ∀ queue, workQueueSummary db now queue =
        (queueRows (Listing.inserted db) queue none now).length := by
      intro queue
      by_cases hqueue : queue = .untracked
      · subst hqueue
        exact untracked_eq_iff.2 h.1
      · exact workQueueSummary_eq hqueue
    constructor
    · intro queue listing size offset
      refine ⟨_, workQueueDetail_eq listing now queue none size offset, ?_⟩
      rw [hcounts, ← htotal queue listing]
      rfl
    · intro queue
      rw [hcounts]
      exact Int.natCast_nonneg _
    · exact pages_iff.2 h.2

/-- A tracked student whom the mirror no longer has. -/
def orphan : StudentOutreachTracking where
  id := 1
  userId := 7
  checkpointType := "JRP"
  state := .eligible
  currentAttempt := 0
  lastContactAt := none
  nextRetryAt := none
  correlationId := none
  executionMode := "SHADOW"
  updatedAt := 0

def orphaned : Platform :=
  { Pipeline.platformWith .empty with
    triggerdata := .empty
    tracking := ⟨[orphan], List.nodup_singleton _⟩
    uqStudentCheckpoint := List.nodup_singleton _ }

theorem orphan_counted_negative : ¬ Consistent orphaned 0 := by
  intro h
  have hcount : workQueueSummary orphaned 0 .untracked = -1 := by decide
  have hnonneg := h.nonneg .untracked
  omega

end WorkQueue
end StudentSuccess
