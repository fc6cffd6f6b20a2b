import StudentSuccess.UniqueInserts
import StudentSuccess.SnapshotUniqueness

namespace StudentSuccess
set_option autoImplicit true
open Calendar (Month)
open Snapshot UniqueInserts

/-- `INSERT` of a finalized snapshot and of its narratives, both with ids drawn before. -/
def Warehouse.insertRows (w : Warehouse) (row : StudentSnapshots)
    (narratives : SnapshotAiNarratives)
    (hpos : 0 < row.id) (hid : row.id ∉ w.studentSnapshots.rows.map (·.id))
    (hnarratives : narratives.id ∉ w.snapshotAiNarratives.rows.map (·.id))
    (hrefers : narratives.snapshotId = row.id)
    (hnew : ∀ r ∈ w.studentSnapshots.rows, r.finalized = true → r.key ≠ row.key) : Warehouse :=
  { w with
    studentSnapshots := w.studentSnapshots.insert row hid
    snapshotAiNarratives := w.snapshotAiNarratives.insert narratives hnarratives
    snapshotIdPos := by
      intro r hr
      rw [Table.insert_rows, List.mem_append, List.mem_singleton] at hr
      rcases hr with hr | rfl
      · exact w.snapshotIdPos r hr
      · exact hpos
    uqFinalizedStudentMonth := by
      rw [Table.insert_rows, List.filter_append]
      cases hfinal : row.finalized with
      | false =>
        rw [List.filter_cons_of_neg (by simp [hfinal]), List.filter_nil, List.append_nil]
        exact w.uqFinalizedStudentMonth
      | true =>
        rw [List.filter_cons_of_pos (by simp [hfinal]), List.filter_nil]
        apply Table.nodup_map_concat w.uqFinalizedStudentMonth
        intro r hr
        obtain ⟨hmem, hrow⟩ := List.mem_filter.1 hr
        exact hnew r hmem hrow
    uqSnapshotId := by
      rw [Table.insert_rows]
      apply Table.nodup_map_concat w.uqSnapshotId
      intro n hn heq
      exact hid (hrefers ▸ heq ▸ w.fkSnapshot n hn)
    fkSnapshot := by
      intro n hn
      rw [Table.insert_rows, List.mem_append, List.mem_singleton] at hn
      rw [Table.insert_rows, List.map_append, List.mem_append]
      rcases hn with hn | rfl
      · exact .inl (w.fkSnapshot n hn)
      · exact .inr (by simp [hrefers]) }

namespace ConcurrentAssembly
open Pipeline

/-- What a call has read for its row. -/
structure Reads where
  student : StudentState
  /-- The tables as the statements of `_get_outreach_summary` saw them. -/
  outreach : Platform
  texts : NarrativeType → Option String
  available : Bool

/-- One of the `SELECT`s of `_get_ai_narratives`. -/
def Reads.read (reads : Reads) (type : NarrativeType) (insight : Option AIInsight) : Reads :=
  { reads with
    texts := Function.update reads.texts type (insight.bind (·.contentText))
    available := reads.available || insight.isSome }

/-- Where a call of `assemble_snapshot` stands. -/
inductive AssemblyPc
  | start
  | selected
  | mirrored (student : StudentState)
  /-- Before the queries for the types left. -/
  | reading (reads : Reads) (rest : List NarrativeType)
  /-- The row has its id from the sequence, and may wait for the index. -/
  | numbered (reads : Reads) (row : StudentSnapshots)
  | inserted (reads : Reads) (row : StudentSnapshots)
  | accompanied (reads : Reads) (row : StudentSnapshots) (narratives : SnapshotAiNarratives)
  | found (row : StudentSnapshots)
  | missing
  | created (reads : Reads) (row : StudentSnapshots)
  /-- `uuid.UUID` did not take the correlation id. -/
  | raised
  /-- `IntegrityError`. -/
  | refused
  | failed

structure Calls (ι : Type) where
  parseUuid : String → Option String
  call : ι → Snapshot.Call
  args : ι → AssembleArgs

def Calls.key (calls : Calls ι) (i : ι) : Int × Month := (calls.args i).key

/-- What is committed under READ COMMITTED, the sequences, and the uncommitted entries of
`uq_wss_finalized_student_month`. -/
structure Assembly (ι : Type) where
  snapshots : List StudentSnapshots
  narratives : List SnapshotAiNarratives
  nextSnapshotId : Nat
  nextNarrativesId : Nat
  holder : Int × Month → Option ι
  pc : ι → AssemblyPc

/-- A statement of a call, with the tables outside the warehouse as it sees them; or a failure of
the call with the rollback that follows. -/
inductive Tick (ι : Type)
  | advance (i : ι) (seen : Platform)
  | fail (i : ι)

variable {ι : Type} [DecidableEq ι]

def start (ι : Type) (w : Warehouse) : Assembly ι where
  snapshots := w.studentSnapshots.rows
  narratives := w.snapshotAiNarratives.rows
  nextSnapshotId := w.studentSnapshots.nextId
  nextNarrativesId := w.snapshotAiNarratives.nextId
  holder := fun _ => none
  pc := fun _ => .start

def Assembly.setPc (s : Assembly ι) (i : ι) (p : AssemblyPc) : Assembly ι :=
  { s with pc := Function.update s.pc i p }

/-- `_existing_finalized_snapshot_id` -/
def Assembly.finalizedSnapshot (s : Assembly ι) (key : Int × Month) : Option StudentSnapshots :=
  s.snapshots.find? fun r => r.key = key && r.finalized

def companion (call : Snapshot.Call) (reads : Reads) (row : StudentSnapshots) (id : Nat) :
    SnapshotAiNarratives := ⟨id, row.id, reads.texts, call.transactionNow⟩

def step (calls : Calls ι) (s : Assembly ι) : Tick ι → Assembly ι
  | .advance i seen =>
    match s.pc i with
    | .start =>
      match s.finalizedSnapshot (calls.key i) with
      | some row => s.setPc i (.found row)
      | none => s.setPc i .selected
    | .selected =>
      match studentForMonth seen (calls.args i).studentId (calls.args i).snapshotMonth with
      | none => s.setPc i .missing
      | some student => s.setPc i (.mirrored student)
    | .mirrored student =>
      s.setPc i (.reading ⟨student, seen, fun _ => none, false⟩ narrativeTypes)
    | .reading reads (type :: rest) =>
      s.setPc i
        (.reading (reads.read type (latestInsight seen (calls.args i).studentId type)) rest)
    | .reading reads [] =>
      match callUuid calls.parseUuid (calls.call i).uuid (calls.args i).correlationId with
      | .error _ => s.setPc i .raised
      | .ok correlationId =>
        let row := finalizedRow reads.outreach (calls.call i) (calls.args i) correlationId
          reads.student s.nextSnapshotId
        { s.setPc i (.numbered reads row) with nextSnapshotId := s.nextSnapshotId + 1 }
    | .numbered reads row =>
      -- An insert waits for the end of the transaction that has an entry of the key.
      match s.holder (calls.key i) with
      | some _ => s
      | none =>
        match s.finalizedSnapshot (calls.key i) with
        | some _ => s.setPc i .refused
        | none =>
          { s.setPc i (.inserted reads row) with
            holder := Function.update s.holder (calls.key i) (some i) }
    | .inserted reads row =>
      let narratives := companion (calls.call i) reads row s.nextNarrativesId
      { s.setPc i (.accompanied reads row narratives) with
        nextNarrativesId := s.nextNarrativesId + 1 }
    | .accompanied reads row narratives =>
      { s.setPc i (.created reads row) with
        snapshots := s.snapshots ++ [row]
        narratives := s.narratives ++ [narratives]
        holder := Function.update s.holder (calls.key i) none }
    | _ => s
  | .fail i =>
    match s.pc i with
    | .start => s.setPc i .failed
    | .selected => s.setPc i .failed
    | .mirrored _ => s.setPc i .failed
    | .reading _ _ => s.setPc i .failed
    | .numbered _ _ => s.setPc i .failed
    | .inserted _ _ =>
      { s.setPc i .failed with holder := Function.update s.holder (calls.key i) none }
    | .accompanied _ _ _ =>
      { s.setPc i .failed with holder := Function.update s.holder (calls.key i) none }
    | _ => s

/-- The transaction a call is to the rows and to the index. -/
def AssemblyPc.transaction : AssemblyPc → Pc StudentSnapshots
  | .start => .idle
  | .selected => .missed
  | .mirrored _ => .missed
  | .reading _ _ => .missed
  | .numbered _ _ => .missed
  | .inserted _ row => .inserted row
  | .accompanied _ row _ => .inserted row
  | .found row => .found row
  | .created _ row => .created row
  | .refused => .refused
  | .missing => .failed
  | .raised => .failed
  | .failed => .failed

/-- The row that waits for its commit. -/
def AssemblyPc.pending : AssemblyPc → Option StudentSnapshots
  | .numbered _ row => some row
  | .inserted _ row => some row
  | .accompanied _ row _ => some row
  | _ => none

def AssemblyPc.snapshotId (p : AssemblyPc) : Option Nat := p.pending.map (·.id)

def AssemblyPc.narrativesId : AssemblyPc → Option Nat
  | .accompanied _ _ narratives => some narratives.id
  | _ => none

def Assembly.store (s : Assembly ι) : Store ι (Int × Month) StudentSnapshots where
  rows := s.finalizedSnapshot
  holder := s.holder
  pc := fun i => (s.pc i).transaction

variable {calls : Calls ι} {s s' : Assembly ι} {w w' : Warehouse}

@[simp] theorem setPc_self (s : Assembly ι) (i : ι) (p : AssemblyPc) : (s.setPc i p).pc i = p := by
  simp [Assembly.setPc]

theorem setPc_of_ne (s : Assembly ι) {i j : ι} (h : j ≠ i) (p : AssemblyPc) :
    (s.setPc i p).pc j = s.pc j := by
  simp [Assembly.setPc, h]

/-- A reading of one call's place changes with that place. -/
theorem setPc_comp (s : Assembly ι) (i : ι) (p : AssemblyPc) (f : AssemblyPc → α) :
    (fun j => f ((s.setPc i p).pc j)) = Function.update (fun j => f (s.pc j)) i (f p) := by
  funext j
  by_cases hji : j = i
  · subst hji
    simp
  · rw [setPc_of_ne s hji, Function.update_of_ne hji]

theorem setPc_store (s : Assembly ι) (i : ι) (p : AssemblyPc) :
    (s.setPc i p).store = s.store.setPc i p.transaction :=
  congrArg (Store.mk _ _) (setPc_comp s i p AssemblyPc.transaction)

/-- A step of a call that its transaction does not show. -/
theorem setPc_store_same (s : Assembly ι) (i : ι) {p : AssemblyPc}
    (hp : p.transaction = (s.pc i).transaction) : (s.setPc i p).store = s.store := by
  rw [setPc_store, hp]
  exact congrArg (Store.mk _ _) (Function.update_eq_self i s.store.pc)

inductive Moved (calls : Calls ι) (s : Assembly ι) : Assembly ι → Prop
  | same : Moved calls s s
  /-- The call reads, or ends with nothing of its own in a table. -/
  | walk (i : ι) (p : AssemblyPc)
      (hmoved : UniqueInserts.Moved calls.key s.store (s.setPc i p).store)
      (hpending : p.pending = none) : Moved calls s (s.setPc i p)
  | numbered (i : ι) (reads : Reads) (correlationId : String)
      (hpc : s.pc i = .reading reads []) :
      Moved calls s
        { s.setPc i (.numbered reads (finalizedRow reads.outreach (calls.call i) (calls.args i)
            correlationId reads.student s.nextSnapshotId)) with
          nextSnapshotId := s.nextSnapshotId + 1 }
  | inserted (i : ι) (reads : Reads) (row : StudentSnapshots) (hpc : s.pc i = .numbered reads row)
      (hfree : s.holder (calls.key i) = none) (hnone : s.finalizedSnapshot (calls.key i) = none) :
      Moved calls s
        { s.setPc i (.inserted reads row) with
          holder := Function.update s.holder (calls.key i) (some i) }
  | accompanied (i : ι) (reads : Reads) (row : StudentSnapshots)
      (hpc : s.pc i = .inserted reads row) :
      Moved calls s
        { s.setPc i (.accompanied reads row
            (companion (calls.call i) reads row s.nextNarrativesId)) with
          nextNarrativesId := s.nextNarrativesId + 1 }
  | created (i : ι) (reads : Reads) (row : StudentSnapshots) (narratives : SnapshotAiNarratives)
      (hpc : s.pc i = .accompanied reads row narratives) :
      Moved calls s
        { s.setPc i (.created reads row) with
          snapshots := s.snapshots ++ [row]
          narratives := s.narratives ++ [narratives]
          holder := Function.update s.holder (calls.key i) none }
  | rolledBack (i : ι) (row : StudentSnapshots) (hpc : (s.pc i).transaction = .inserted row) :
      Moved calls s
        { s.setPc i .failed with holder := Function.update s.holder (calls.key i) none }

theorem Moved.ends (i : ι) (p : AssemblyPc) (hp : p.transaction = .failed)
    (hpending : p.pending = none)
    (hpc : (s.pc i).transaction = .idle ∨ (s.pc i).transaction = .missed) :
    Moved calls s (s.setPc i p) := by
  refine .walk i p ?_ hpending
  rw [setPc_store, hp]
  exact .failed i hpc

theorem Moved.reads (i : ι) (p : AssemblyPc) (hp : p.transaction = (s.pc i).transaction)
    (hpending : p.pending = none) : Moved calls s (s.setPc i p) := by
  refine .walk i p ?_ hpending
  rw [setPc_store_same s i hp]
  exact .same

theorem step_fail (calls : Calls ι) (s : Assembly ι) (i : ι) :
    Moved calls s (step calls s (.fail i)) := by
  cases hpc : s.pc i with
  | start =>
    simp only [step, hpc]
    exact .ends i .failed rfl rfl (.inl (by rw [hpc]; rfl))
  | inserted reads row =>
    simp only [step, hpc]
    exact .rolledBack i row (by rw [hpc]; rfl)
  | accompanied reads row narratives =>
    simp only [step, hpc]
    exact .rolledBack i row (by rw [hpc]; rfl)
  | found => simpa only [step, hpc] using .same
  | missing => simpa only [step, hpc] using .same
  | created => simpa only [step, hpc] using .same
  | raised => simpa only [step, hpc] using .same
  | refused => simpa only [step, hpc] using .same
  | failed => simpa only [step, hpc] using .same
  | _ =>
    simp only [step, hpc]
    exact .ends i .failed rfl rfl (.inr (by rw [hpc]; rfl))

theorem step_advance (calls : Calls ι) (s : Assembly ι) (i : ι) (seen : Platform) :
    Moved calls s (step calls s (.advance i seen)) := by
  cases hpc : s.pc i with
  | start =>
    cases hfound : s.finalizedSnapshot (calls.key i) with
    | some row =>
      simp only [step, hpc, hfound]
      refine .walk i _ ?_ rfl
      rw [setPc_store]
      exact .found i row (congrArg AssemblyPc.transaction hpc) hfound
    | none =>
      simp only [step, hpc, hfound]
      refine .walk i _ ?_ rfl
      rw [setPc_store]
      exact .missed i (congrArg AssemblyPc.transaction hpc) hfound
  | selected =>
    cases hstudent : studentForMonth seen (calls.args i).studentId (calls.args i).snapshotMonth with
    | none =>
      simp only [step, hpc, hstudent]
      exact .ends i .missing rfl rfl (.inr (by rw [hpc]; rfl))
    | some student =>
      simp only [step, hpc, hstudent]
      exact .reads i _ (by rw [hpc]; rfl) rfl
  | mirrored student =>
    simp only [step, hpc]
    exact .reads i _ (by rw [hpc]; rfl) rfl
  | reading reads rest =>
    cases rest with
    | cons type rest =>
      simp only [step, hpc]
      exact .reads i _ (by rw [hpc]; rfl) rfl
    | nil =>
      cases huuid : callUuid calls.parseUuid (calls.call i).uuid (calls.args i).correlationId with
      | error e =>
        simp only [step, hpc, huuid]
        exact .ends i .raised rfl rfl (.inr (by rw [hpc]; rfl))
      | ok correlationId =>
        simp only [step, hpc, huuid]
        exact .numbered i reads correlationId hpc
  | numbered reads row =>
    cases hfree : s.holder (calls.key i) with
    | some j => simpa only [step, hpc, hfree] using .same
    | none =>
      cases hfound : s.finalizedSnapshot (calls.key i) with
      | some row' =>
        simp only [step, hpc, hfree, hfound]
        refine .walk i _ ?_ rfl
        rw [setPc_store]
        exact .refused i row' (congrArg AssemblyPc.transaction hpc) hfound
      | none =>
        simp only [step, hpc, hfree, hfound]
        exact .inserted i reads row hpc hfree hfound
  | inserted reads row =>
    simp only [step, hpc]
    exact .accompanied i reads row hpc
  | accompanied reads row narratives =>
    simp only [step, hpc]
    exact .created i reads row narratives hpc
  | _ => simpa only [step, hpc] using .same

theorem step_moved (calls : Calls ι) (s : Assembly ι) (t : Tick ι) :
    Moved calls s (step calls s t) := by
  cases t with
  | advance i seen => exact step_advance calls s i seen
  | fail i => exact step_fail calls s i

/-- The warehouse that the committed rows are. -/
structure Backed (w : Warehouse) (s : Assembly ι) (w' : Warehouse) : Prop where
  snapshots : w'.studentSnapshots.rows = s.snapshots
  narratives : w'.snapshotAiNarratives.rows = s.narratives
  reports : w'.monthlyReports = w.monthlyReports
  frozen : Frozen w w'
  companioned : Companioned w'

/-- The row of a call is a finalized one of its key, and its narratives are those of the row. -/
def Placed (key : Int × Month) : AssemblyPc → Prop
  | .numbered _ row => row.finalized = true ∧ row.key = key
  | .inserted _ row => row.finalized = true ∧ row.key = key
  | .accompanied _ row narratives =>
    row.finalized = true ∧ row.key = key ∧ narratives.snapshotId = row.id
  | _ => True

/-- The invariant of the interleavings that start on the warehouse `w`. -/
structure Sound (calls : Calls ι) (w : Warehouse) (s : Assembly ι) : Prop where
  coherent : Coherent calls.key (start ι w).finalizedSnapshot s.store
  placed : ∀ i, Placed (calls.key i) (s.pc i)
  snapshotIds : Drawn (s.snapshots.map (·.id)) s.nextSnapshotId
    fun i => (s.pc i).snapshotId
  narrativesIds : Drawn (s.narratives.map (·.id)) s.nextNarrativesId
    fun i => (s.pc i).narrativesId
  backed : ∃ w', Backed w s w'

omit [DecidableEq ι] in
theorem Backed.of_rows (h : Backed w s w') (hsnapshots : s'.snapshots = s.snapshots)
    (hnarratives : s'.narratives = s.narratives) : Backed w s' w' where
  snapshots := h.snapshots.trans hsnapshots.symm
  narratives := h.narratives.trans hnarratives.symm
  reports := h.reports
  frozen := h.frozen
  companioned := h.companioned

omit [DecidableEq ι] in
theorem finalizedSnapshot_eq_some (h : s.finalizedSnapshot key = some row) :
    row ∈ s.snapshots ∧ row.finalized = true ∧ row.key = key := by
  have hrow := List.find?_some h
  rw [Bool.and_eq_true, decide_eq_true_eq] at hrow
  exact ⟨List.mem_of_find?_eq_some h, hrow.2, hrow.1⟩

omit [DecidableEq ι] in
theorem finalizedSnapshot_eq_none_iff :
    s.finalizedSnapshot key = none ↔ ∀ r ∈ s.snapshots, r.finalized = true → r.key ≠ key := by
  simp only [Assembly.finalizedSnapshot, List.find?_eq_none, Bool.and_eq_true, decide_eq_true_eq]
  constructor
  · intro h r hr hfinal hkey
    exact h r hr ⟨hkey, hfinal⟩
  · intro h r hr hrow
    exact h r hr hrow.2 hrow.1

theorem companions_insertRows {hpos hid hnarratives hrefers hnew}
    (hr : r ∈ w.studentSnapshots.rows) :
    companions (w.insertRows row narratives hpos hid hnarratives hrefers hnew) r.id =
      companions w r.id := by
  have hne : narratives.snapshotId ≠ r.id := by
    rw [hrefers]
    intro heq
    exact hid (heq ▸ List.mem_map_of_mem hr)
  simp [companions, Warehouse.insertRows, List.filter_append, hne]

omit [DecidableEq ι] in
theorem Backed.insert (h : Backed w s w') (hpos : 0 < row.id)
    (hid : row.id ∉ s.snapshots.map (·.id)) (hnarratives : n.id ∉ s.narratives.map (·.id))
    (hrefers : n.snapshotId = row.id) (hnone : s.finalizedSnapshot row.key = none)
    (hsnapshots : s'.snapshots = s.snapshots ++ [row])
    (hrows : s'.narratives = s.narratives ++ [n]) : ∃ w'', Backed w s' w'' := by
  have hid' : row.id ∉ w'.studentSnapshots.rows.map (·.id) := h.snapshots ▸ hid
  have hnarratives' : n.id ∉ w'.snapshotAiNarratives.rows.map (·.id) := h.narratives ▸ hnarratives
  have hnew : ∀ r ∈ w'.studentSnapshots.rows, r.finalized = true → r.key ≠ row.key := by
    rw [h.snapshots]
    exact finalizedSnapshot_eq_none_iff.1 hnone
  refine ⟨w'.insertRows row n hpos hid' hnarratives' hrefers hnew, ?_, ?_, h.reports, ?_, ?_⟩
  · rw [hsnapshots, ← h.snapshots]
    rfl
  · rw [hrows, ← h.narratives]
    rfl
  · refine h.frozen.trans ⟨fun r hr _ => List.mem_append_left _ hr, fun r hr _ => ?_⟩
    exact companions_insertRows hr
  · intro r hr hr'
    rcases List.mem_append.1 hr with hr | hr
    · rw [companions_insertRows hr]
      exact h.companioned r hr hr'
    · cases List.mem_singleton.1 hr
      refine ⟨n, ?_⟩
      have hold : companions w' row.id = [] := by
        apply List.filter_eq_nil_iff.2
        intro n' hn' hrow
        rw [decide_eq_true_eq] at hrow
        exact hid' (hrow ▸ w'.fkSnapshot n' hn')
      rw [companions] at hold
      rw [companions]
      exact (List.filter_append ..).trans
        (congrArg₂ (· ++ ·) hold (List.filter_cons_of_pos (decide_eq_true hrefers)))

theorem narrativesId_of_pending {p : AssemblyPc} (h : p.pending = none) :
    p.narrativesId = none := by
  cases p with
  | accompanied => cases h
  | _ => rfl

omit [DecidableEq ι] in
theorem sound_start (calls : Calls ι) (w : Warehouse) (hw : Companioned w) :
    Sound calls w (start ι w) where
  coherent := coherent_start calls.key (start ι w).finalizedSnapshot
  placed := fun _ => trivial
  snapshotIds := Drawn.start w.studentSnapshots.nextId_pos fun _ => w.studentSnapshots.lt_nextId
  narrativesIds := Drawn.start w.snapshotAiNarratives.nextId_pos
    fun _ => w.snapshotAiNarratives.lt_nextId
  backed := ⟨w, rfl, rfl, rfl, Frozen.refl w, hw⟩

theorem placed_setPc (h : ∀ j, Placed (calls.key j) (s.pc j)) (i : ι) (p : AssemblyPc)
    (hp : Placed (calls.key i) p) (j : ι) : Placed (calls.key j) ((s.setPc i p).pc j) := by
  by_cases hji : j = i
  · subst hji
    rwa [setPc_self]
  · rw [setPc_of_ne s hji]
    exact h j

theorem placed_of_pending {p : AssemblyPc} (h : p.pending = none) : Placed key p := by
  cases p with
  | numbered => cases h
  | inserted => cases h
  | accompanied => cases h
  | _ => trivial

/-- The entry in the index is the only thing that changes besides the places. -/
theorem holder_store (s : Assembly ι) (i : ι) (p : AssemblyPc) (holder : Int × Month → Option ι) :
    Assembly.store { s.setPc i p with holder := holder } =
      { s.store.setPc i p.transaction with holder := holder } :=
  congrArg (Store.mk _ _) (setPc_comp s i p AssemblyPc.transaction)

omit [DecidableEq ι] in
theorem finalizedSnapshot_append (hfinal : row.finalized = true)
    (hnone : s.finalizedSnapshot row.key = none) (hrows : s'.snapshots = s.snapshots ++ [row]) :
    s'.finalizedSnapshot = Function.update s.finalizedSnapshot row.key (some row) := by
  funext key
  rw [Assembly.finalizedSnapshot, hrows, List.find?_append]
  by_cases hkey : key = row.key
  · subst hkey
    rw [Assembly.finalizedSnapshot] at hnone
    rw [hnone, Function.update_self]
    simp [hfinal]
  · rw [Function.update_of_ne hkey, List.find?_cons_of_neg (by simp [Ne.symm hkey]),
      List.find?_nil, Option.or_none]
    rfl

theorem commit_store (s : Assembly ι) (i : ι) (reads : Reads) (narratives : SnapshotAiNarratives)
    (hfinal : row.finalized = true) (hnone : s.finalizedSnapshot row.key = none)
    {holder : Int × Month → Option ι} :
    Assembly.store { s.setPc i (.created reads row) with
      snapshots := s.snapshots ++ [row]
      narratives := s.narratives ++ [narratives]
      holder := holder } =
    { s.store.setPc i (.created row) with
      rows := Function.update s.finalizedSnapshot row.key (some row)
      holder := holder } := by
  have happend : Assembly.finalizedSnapshot { s with snapshots := s.snapshots ++ [row] } =
      Function.update s.finalizedSnapshot row.key (some row) :=
    finalizedSnapshot_append hfinal hnone rfl
  refine Eq.trans ?_ (congrArg (fun rows => Store.mk rows holder _) happend)
  exact congrArg (Store.mk _ _) (setPc_comp s i (.created reads row) AssemblyPc.transaction)

section
variable {ids : List Nat} {next n : Nat} {f : AssemblyPc → Option Nat}
  (h : Drawn ids next fun j => f (s.pc j)) (i : ι) (p : AssemblyPc)
include h

theorem drawn_drop (hp : f p = none) : Drawn ids next fun j => f ((s.setPc i p).pc j) := by
  rw [setPc_comp, hp]
  exact h.drop i

theorem drawn_keep (hp : f p = f (s.pc i)) : Drawn ids next fun j => f ((s.setPc i p).pc j) := by
  rw [setPc_comp, hp, Function.update_eq_self i fun j => f (s.pc j)]
  exact h

theorem drawn_draw (hp : f p = some next) :
    Drawn ids (next + 1) fun j => f ((s.setPc i p).pc j) := by
  rw [setPc_comp, hp]
  exact h.draw i

theorem drawn_commit (hp : f p = none) (hpc : f (s.pc i) = some n) :
    Drawn (ids ++ [n]) next fun j => f ((s.setPc i p).pc j) := by
  rw [setPc_comp, hp]
  exact h.commit hpc

end

/-- A call that has no row of its own goes on. -/
theorem Sound.walk (h : Sound calls w s) (i : ι) (p : AssemblyPc) (holder : Int × Month → Option ι)
    (hmoved : UniqueInserts.Moved calls.key s.store
      (Assembly.store { s.setPc i p with holder := holder }))
    (hpending : p.pending = none) : Sound calls w { s.setPc i p with holder := holder } where
  coherent := h.coherent.moved hmoved
  placed := placed_setPc h.placed i p (placed_of_pending hpending)
  snapshotIds := drawn_drop h.snapshotIds i p (congrArg (Option.map _) hpending)
  narrativesIds := drawn_drop h.narrativesIds i p (narrativesId_of_pending hpending)
  backed := h.backed.imp fun _ hback => hback.of_rows rfl rfl

theorem Sound.moved (h : Sound calls w s) (hmoved : Moved calls s s') : Sound calls w s' := by
  cases hmoved with
  | same => exact h
  | walk i p hmoved hpending => exact h.walk i p s.holder hmoved hpending
  | numbered i reads correlationId hpc =>
    constructor
    · have hstore := setPc_store_same s i (p := .numbered reads (finalizedRow reads.outreach
        (calls.call i) (calls.args i) correlationId reads.student s.nextSnapshotId))
        (by rw [hpc]; rfl)
      exact hstore.symm ▸ h.coherent
    · exact placed_setPc h.placed i _ ⟨rfl, rfl⟩
    · exact drawn_draw h.snapshotIds i _ rfl
    · exact drawn_drop h.narrativesIds i _ rfl
    · exact h.backed.imp fun _ hback => hback.of_rows rfl rfl
  | inserted i reads row hpc hfree hnone =>
    have hplaced := h.placed i
    rw [hpc] at hplaced
    constructor
    · rw [holder_store]
      exact h.coherent.moved
        (.inserted i row (congrArg AssemblyPc.transaction hpc) hfree hnone)
    · exact placed_setPc h.placed i _ hplaced
    · exact drawn_keep h.snapshotIds i _ (by rw [hpc]; rfl)
    · exact drawn_drop h.narrativesIds i _ rfl
    · exact h.backed.imp fun _ hback => hback.of_rows rfl rfl
  | accompanied i reads row hpc =>
    obtain ⟨hfinal, hkey⟩ : row.finalized = true ∧ row.key = calls.key i := by
      have hplaced := h.placed i
      rwa [hpc] at hplaced
    constructor
    · have hstore := setPc_store_same s i (p := .accompanied reads row
        (companion (calls.call i) reads row s.nextNarrativesId)) (by rw [hpc]; rfl)
      exact hstore.symm ▸ h.coherent
    · exact placed_setPc h.placed i _ ⟨hfinal, hkey, rfl⟩
    · exact drawn_keep h.snapshotIds i _ (by rw [hpc]; rfl)
    · exact drawn_draw h.narrativesIds i _ rfl
    · exact h.backed.imp fun _ hback => hback.of_rows rfl rfl
  | created i reads row narratives hpc =>
    obtain ⟨hfinal, hkey, hrefers⟩ : row.finalized = true ∧ row.key = calls.key i ∧
        narratives.snapshotId = row.id := by
      have hplaced := h.placed i
      rwa [hpc] at hplaced
    have hinserted : s.store.pc i = .inserted row := congrArg AssemblyPc.transaction hpc
    have hnone : s.finalizedSnapshot (calls.key i) = none := by
      have hknows := h.coherent.knows i
      rwa [hinserted] at hknows
    obtain ⟨hpos, -, hid⟩ := h.snapshotIds.drawn i row.id (by rw [hpc]; rfl)
    obtain ⟨-, -, hnarratives⟩ := h.narrativesIds.drawn i narratives.id (by rw [hpc]; rfl)
    constructor
    · rw [commit_store s i reads narratives hfinal (hkey ▸ hnone), hkey]
      exact h.coherent.moved (.committed i row hinserted)
    · exact placed_setPc h.placed i _ trivial
    · change Drawn ((s.snapshots ++ [row]).map (·.id)) _ _
      rw [List.map_append]
      exact drawn_commit h.snapshotIds i _ rfl (by rw [hpc]; rfl)
    · change Drawn ((s.narratives ++ [narratives]).map (·.id)) _ _
      rw [List.map_append]
      exact drawn_commit h.narrativesIds i _ rfl (by rw [hpc]; rfl)
    · obtain ⟨w', hback⟩ := h.backed
      exact hback.insert hpos hid hnarratives hrefers (hkey ▸ hnone) rfl rfl
  | rolledBack i row hpc =>
    refine h.walk i .failed _ ?_ rfl
    rw [holder_store]
    exact .rolledBack i row hpc

theorem sound_run (calls : Calls ι) (w : Warehouse) (hw : Companioned w) (ticks : List (Tick ι)) :
    Sound calls w (Runs.final (step calls) (start ι w) ticks) :=
  Runs.invariant (fun s t h => h.moved (step_moved calls s t)) (sound_start calls w hw) ticks

/-- What a call has come to, on the warehouse `w'` that started as `w`. -/
def Answered (calls : Calls ι) (w : Warehouse) (s : Assembly ι) (w' : Warehouse) (i : ι) : Prop :=
  match s.pc i with
  | .found row =>
    row ∈ w'.studentSnapshots.rows ∧ row.finalized = true ∧ row.key = calls.key i
  | .created _ row =>
    (row ∈ w'.studentSnapshots.rows ∧ row.finalized = true ∧ row.key = calls.key i) ∧
      ¬ Present w (calls.key i) ∧
      ∀ j reads row', s.pc j = .created reads row' → calls.key j = calls.key i → j = i
  | .refused =>
    ∃ j reads row, j ≠ i ∧ calls.key j = calls.key i ∧ s.pc j = .created reads row
  | _ => True

omit [DecidableEq ι] in
theorem created_of_transaction (h : (s.pc i).transaction = .created row) :
    ∃ reads, s.pc i = .created reads row := by
  cases hpc : s.pc i with
  | created reads row' =>
    rw [hpc] at h
    cases h
    exact ⟨reads, rfl⟩
  | _ =>
    rw [hpc] at h
    cases h

omit [DecidableEq ι] in
theorem Sound.answered (h : Sound calls w s) (hback : Backed w s w') (i : ι) :
    Answered calls w s w' i := by
  have hknows := h.coherent.knows i
  cases hpc : s.pc i with
  | found row =>
    have hplace : s.store.pc i = .found row := congrArg AssemblyPc.transaction hpc
    rw [hplace] at hknows
    simp only [Answered, hpc]
    exact hback.snapshots ▸ finalizedSnapshot_eq_some hknows
  | created reads row =>
    have hplace : s.store.pc i = .created row := congrArg AssemblyPc.transaction hpc
    have habsent := h.coherent.absent i (by rw [hplace]; trivial)
    rw [hplace] at hknows
    simp only [Answered, hpc]
    refine ⟨hback.snapshots ▸ finalizedSnapshot_eq_some hknows, ?_, ?_⟩
    · rintro ⟨r, hr, hfinal, hkey⟩
      exact finalizedSnapshot_eq_none_iff.1 habsent r hr hfinal hkey
    · intro j reads' row' hj hkey
      exact h.coherent.single j i row' row (congrArg AssemblyPc.transaction hj) hplace hkey
  | refused =>
    simp only [Answered, hpc]
    obtain ⟨j, row, hji, hkey, hcreated, -⟩ :=
      h.coherent.refused_by (congrArg AssemblyPc.transaction hpc)
    obtain ⟨reads, hj⟩ := created_of_transaction hcreated
    exact ⟨j, reads, row, hji, hkey, hj⟩
  | _ => simp only [Answered, hpc]

omit [DecidableEq ι] in
theorem Sound.origin (h : Sound calls w s) (hback : Backed w s w')
    (hr : r ∈ w'.studentSnapshots.rows) (hfinal : r.finalized = true) :
    r ∈ w.studentSnapshots.rows ∨ ∃ i reads, s.pc i = .created reads r := by
  have hmem : r ∈ s.snapshots := hback.snapshots ▸ hr
  have hrow : s.finalizedSnapshot r.key = some r := by
    cases hfound : s.finalizedSnapshot r.key with
    | none => exact absurd rfl (finalizedSnapshot_eq_none_iff.1 hfound r hmem hfinal)
    | some r' =>
      obtain ⟨hr', hfinal', hkey'⟩ := finalizedSnapshot_eq_some hfound
      rw [w'.finalized_unique (hback.snapshots ▸ hr') hr hfinal' hfinal hkey']
  rcases h.coherent.origin _ _ hrow with hold | ⟨i, -, hcreated⟩
  · exact .inl (finalizedSnapshot_eq_some hold).1
  · exact .inr ⟨i, created_of_transaction hcreated⟩

/-- Whatever statements of other calls come between its own, a call leaves one finalized snapshot
of its student and month with one row of narratives, and what was finalized stays as it was. -/
theorem assembleSnapshot_interleaved (calls : Calls ι) (w : Warehouse) (hw : Companioned w)
    (ticks : List (Tick ι)) :
    ∃ w', Backed w (Runs.final (step calls) (start ι w) ticks) w' ∧
      (∀ r ∈ w'.studentSnapshots.rows, r.finalized = true → r ∈ w.studentSnapshots.rows ∨
        ∃ i reads, (Runs.final (step calls) (start ι w) ticks).pc i = .created reads r) ∧
      ∀ i, Answered calls w (Runs.final (step calls) (start ι w) ticks) w' i := by
  have hsound := sound_run calls w hw ticks
  obtain ⟨w', hback⟩ := hsound.backed
  exact ⟨w', hback, fun r => hsound.origin hback, hsound.answered hback⟩

def twoCalls : Calls Bool where
  parseUuid := some
  call := fun _ => ⟨0, 0, 0, ⟨"5b0e7c34-9a1d-4c57-8f3e-2d6a1b90c417", by decide⟩⟩
  args := fun _ => { studentId := 7, snapshotMonth := january }

/-- Both of them look before either inserts. -/
def bothLook : List (Tick Bool) :=
  [false, true].flatMap (fun i => List.replicate 9 (.advance i (platformWith .empty))) ++
    [false, true, false, false, true].map (.advance · (platformWith .empty))

theorem companioned_emptyWarehouse : Companioned emptyWarehouse := fun _ hr => nomatch hr

theorem twoCalls_refused :
    (Runs.final (step twoCalls) (start Bool emptyWarehouse) bothLook).pc true = .refused ∧
      ∃ w', Backed emptyWarehouse
          (Runs.final (step twoCalls) (start Bool emptyWarehouse) bothLook) w' ∧
        Answered twoCalls emptyWarehouse
          (Runs.final (step twoCalls) (start Bool emptyWarehouse) bothLook) w' true := by
  refine ⟨rfl, ?_⟩
  obtain ⟨w', hback, -, hanswered⟩ :=
    assembleSnapshot_interleaved twoCalls emptyWarehouse companioned_emptyWarehouse bothLook
  exact ⟨w', hback, hanswered true⟩

def AssemblyPc.Ended : AssemblyPc → Prop
  | .found _ => True
  | .missing => True
  | .created _ _ => True
  | .raised => True
  | .refused => True
  | .failed => True
  | _ => False

/-- The statements that a call has before it. -/
def AssemblyPc.left : AssemblyPc → Nat
  | .start => 12
  | .selected => 11
  | .mirrored _ => 10
  | .reading _ rest => rest.length + 4
  | .numbered _ _ => 3
  | .inserted _ _ => 2
  | .accompanied _ _ _ => 1
  | _ => 0

/-- The state after statements of the calls in the order given, none of which fails. -/
def served (calls : Calls ι) (seen : Platform) (s : Assembly ι) (order : List ι) : Assembly ι :=
  Runs.final (step calls) s (order.map (.advance · seen))

theorem served_append (calls : Calls ι) (seen : Platform) (s : Assembly ι) (order order' : List ι) :
    served calls seen s (order ++ order') =
      served calls seen (served calls seen s order) order' := by
  rw [served, List.map_append, Runs.final_append]
  rfl

/-- At most `n` statements of the calls bring the call to its end. -/
def EndsWithin (calls : Calls ι) (seen : Platform) (s : Assembly ι) (i : ι) (n : Nat) : Prop :=
  ∃ order, order.length ≤ n ∧ ((served calls seen s order).pc i).Ended

theorem EndsWithin.cons (j : ι) (h : EndsWithin calls seen (step calls s (.advance j seen)) i n) :
    EndsWithin calls seen s i (n + 1) := by
  obtain ⟨order, hlength, hended⟩ := h
  exact ⟨j :: order, Nat.succ_le_succ hlength, hended⟩

theorem EndsWithin.append (order : List ι)
    (h : EndsWithin calls seen (served calls seen s order) i n) :
    EndsWithin calls seen s i (order.length + n) := by
  obtain ⟨order', hlength, hended⟩ := h
  refine ⟨order ++ order', ?_, ?_⟩
  · rw [List.length_append]
    exact Nat.add_le_add_left hlength _
  · rw [served_append]
    exact hended

theorem EndsWithin.mono (h : EndsWithin calls seen s i n) (hle : n ≤ m) :
    EndsWithin calls seen s i m := by
  obtain ⟨order, hlength, hended⟩ := h
  exact ⟨order, hlength.trans hle, hended⟩

theorem EndsWithin.ended (h : (s.pc i).Ended) :
    EndsWithin calls seen s i 0 := ⟨[], Nat.le_refl 0, h⟩

/-- The call has ended in `s'`, its key is free, and the other calls are where they were. -/
structure Done (calls : Calls ι) (i : ι) (s s' : Assembly ι) : Prop where
  ended : (s'.pc i).Ended
  free : s'.holder (calls.key i) = none
  others : ∀ j, j ≠ i → s'.pc j = s.pc j

theorem accompanied_commits (calls : Calls ι) (seen : Platform)
    (hpc : s.pc i = .accompanied reads row narratives) :
    Done calls i s (step calls s (.advance i seen)) := by
  simp only [step, hpc]
  refine ⟨?_, Function.update_self .., fun j hji => setPc_of_ne s hji _⟩
  exact (setPc_self s i (.created reads row)).symm ▸ trivial

/-- A call that has its entry in the index ends by itself and takes the entry with it. -/
theorem inserted_commits (calls : Calls ι) (seen : Platform) (s : Assembly ι) (i : ι)
    (h : (s.pc i).transaction = .inserted row) :
    ∃ order, order.length ≤ 2 ∧ Done calls i s (served calls seen s order) := by
  cases hpc : s.pc i with
  | inserted reads row' =>
    refine ⟨[i, i], Nat.le_refl 2, ?_⟩
    have hsecond : (step calls s (.advance i seen)).pc i = .accompanied reads row'
        (companion (calls.call i) reads row' s.nextNarrativesId) := by
      simp only [step, hpc]
      exact setPc_self s i _
    have hothers : ∀ j, j ≠ i → (step calls s (.advance i seen)).pc j = s.pc j := by
      intro j hji
      simp only [step, hpc]
      exact setPc_of_ne s hji _
    obtain ⟨hended, hfree, hrest⟩ := accompanied_commits calls seen hsecond
    exact ⟨hended, hfree, fun j hji => (hrest j hji).trans (hothers j hji)⟩
  | accompanied reads row' narratives =>
    exact ⟨[i], Nat.le_succ 1, accompanied_commits calls seen hpc⟩
  | _ =>
    rw [hpc] at h
    cases h

/-- An insert that does not wait is refused, or goes on to its commit. -/
theorem numbered_ends_free (hpc : s.pc i = .numbered reads row)
    (hfree : s.holder (calls.key i) = none) : EndsWithin calls seen s i 3 := by
  refine .cons i ?_
  cases hfound : s.finalizedSnapshot (calls.key i) with
  | some row' =>
    simp only [step, hpc, hfree, hfound]
    exact .mono (.ended ((setPc_self s i .refused).symm ▸ trivial)) (Nat.zero_le 2)
  | none =>
    simp only [step, hpc, hfree, hfound]
    obtain ⟨order, hlength, hdone⟩ := inserted_commits calls seen
      { s.setPc i (.inserted reads row) with
        holder := Function.update s.holder (calls.key i) (some i) } i
      (congrArg AssemblyPc.transaction (setPc_self s i (.inserted reads row)))
    exact ⟨order, hlength, hdone.ended⟩

/-- An insert that waits goes on when the call it waits for has ended. -/
theorem Sound.numbered_ends (h : Sound calls w s) (hpc : s.pc i = .numbered reads row) :
    EndsWithin calls seen s i 5 := by
  cases hfree : s.holder (calls.key i) with
  | none => exact (numbered_ends_free hpc hfree).mono (by omega)
  | some j =>
    obtain ⟨hkey, row', hinserted⟩ := (h.coherent.held _ j).1 hfree
    have hij : i ≠ j := by
      rintro rfl
      rw [show s.store.pc i = .missed from congrArg AssemblyPc.transaction hpc] at hinserted
      cases hinserted
    obtain ⟨order, hlength, hdone⟩ := inserted_commits calls seen s j hinserted
    have hends : EndsWithin calls seen (served calls seen s order) i 3 :=
      numbered_ends_free ((hdone.others i hij).trans hpc) (hkey ▸ hdone.free)
    exact (hends.append order).mono (by omega)

theorem Sound.reading_ends (h : Sound calls w s) (hpc : s.pc i = .reading reads rest) :
    EndsWithin calls seen s i (rest.length + 6) := by
  have hnext : Sound calls w (step calls s (.advance i seen)) := h.moved (step_moved calls s _)
  refine .cons i ?_
  induction rest generalizing s reads with
  | nil =>
    cases huuid : callUuid calls.parseUuid (calls.call i).uuid (calls.args i).correlationId with
    | error e =>
      simp only [step, hpc, huuid]
      exact .mono (.ended ((setPc_self s i .raised).symm ▸ trivial)) (Nat.zero_le 5)
    | ok correlationId =>
      have hnumbered : (step calls s (.advance i seen)).pc i = .numbered reads
          (finalizedRow reads.outreach (calls.call i) (calls.args i) correlationId reads.student
            s.nextSnapshotId) := by
        simp only [step, hpc, huuid]
        exact setPc_self s i _
      exact hnext.numbered_ends hnumbered
  | cons type rest ih =>
    have hreading : (step calls s (.advance i seen)).pc i =
        .reading (reads.read type (latestInsight seen (calls.args i).studentId type)) rest := by
      simp only [step, hpc]
      exact setPc_self s i _
    exact .cons i (ih hnext hreading (hnext.moved (step_moved calls _ _)))

theorem Sound.mirrored_ends (h : Sound calls w s) (hpc : s.pc i = .mirrored student) :
    EndsWithin calls seen s i 12 := by
  have hnext : Sound calls w (step calls s (.advance i seen)) := h.moved (step_moved calls s _)
  have hreading : (step calls s (.advance i seen)).pc i =
      .reading ⟨student, seen, fun _ => none, false⟩ narrativeTypes := by
    simp only [step, hpc]
    exact setPc_self s i _
  exact .cons i (hnext.reading_ends hreading)

theorem Sound.selected_ends (h : Sound calls w s) (hpc : s.pc i = .selected) :
    EndsWithin calls seen s i 13 := by
  have hnext : Sound calls w (step calls s (.advance i seen)) := h.moved (step_moved calls s _)
  refine .cons i ?_
  cases hstudent : studentForMonth seen (calls.args i).studentId (calls.args i).snapshotMonth with
  | none =>
    simp only [step, hpc, hstudent]
    exact .mono (.ended ((setPc_self s i .missing).symm ▸ trivial)) (Nat.zero_le 12)
  | some student =>
    have hmirrored : (step calls s (.advance i seen)).pc i = .mirrored student := by
      simp only [step, hpc, hstudent]
      exact setPc_self s i _
    exact hnext.mirrored_ends hmirrored

theorem Sound.start_ends (h : Sound calls w s) (hpc : s.pc i = .start) :
    EndsWithin calls seen s i 14 := by
  have hnext : Sound calls w (step calls s (.advance i seen)) := h.moved (step_moved calls s _)
  refine .cons i ?_
  cases hfound : s.finalizedSnapshot (calls.key i) with
  | some row =>
    simp only [step, hpc, hfound]
    exact .mono (.ended ((setPc_self s i (.found row)).symm ▸ trivial)) (Nat.zero_le 13)
  | none =>
    refine hnext.selected_ends ?_
    simp only [step, hpc, hfound]
    exact setPc_self s i _

theorem Sound.ends (h : Sound calls w s) (seen : Platform) (i : ι) :
    EndsWithin calls seen s i ((s.pc i).left + 2) := by
  cases hpc : s.pc i with
  | start => exact h.start_ends hpc
  | selected => exact h.selected_ends hpc
  | mirrored student => exact h.mirrored_ends hpc
  | reading reads rest => exact h.reading_ends hpc
  | numbered reads row => exact h.numbered_ends hpc
  | inserted reads row =>
    have hinserted : (s.pc i).transaction = .inserted row := by
      rw [hpc]
      rfl
    obtain ⟨order, hlength, hdone⟩ := inserted_commits calls seen s i hinserted
    exact ⟨order, hlength.trans (Nat.le_add_right 2 2), hdone.ended⟩
  | accompanied reads row narratives =>
    have hinserted : (s.pc i).transaction = .inserted row := by
      rw [hpc]
      rfl
    obtain ⟨order, hlength, hdone⟩ := inserted_commits calls seen s i hinserted
    exact ⟨order, hlength.trans (Nat.le_succ 2), hdone.ended⟩
  | _ =>
    have hended : (s.pc i).Ended := by
      rw [hpc]
      trivial
    exact EndsWithin.ended hended |>.mono (Nat.zero_le _)

theorem step_of_ended (calls : Calls ι) (seen : Platform) (h : (s.pc i).Ended) :
    step calls s (.advance i seen) = s := by
  cases hpc : s.pc i with
  | found => simp only [step, hpc]
  | missing => simp only [step, hpc]
  | created => simp only [step, hpc]
  | raised => simp only [step, hpc]
  | refused => simp only [step, hpc]
  | failed => simp only [step, hpc]
  | _ =>
    rw [hpc] at h
    cases h

theorem served_of_ended (calls : Calls ι) (seen : Platform) (h : (s.pc i).Ended) (n : Nat) :
    served calls seen s (List.replicate n i) = s := by
  induction n with
  | zero => rfl
  | succ n ih => exact (congrArg (served calls seen · _) (step_of_ended calls seen h)).trans ih

def Reads.all (calls : Calls ι) (seen : Platform) (i : ι) (reads : Reads)
    (types : List NarrativeType) : Reads :=
  types.foldl (fun reads type =>
    reads.read type (latestInsight seen (calls.args i).studentId type)) reads

theorem served_reading (calls : Calls ι) (seen : Platform) (s : Assembly ι) (i : ι) (reads : Reads)
    (types : List NarrativeType) :
    served calls seen (s.setPc i (.reading reads types)) (List.replicate types.length i) =
      s.setPc i (.reading (reads.all calls seen i types) []) := by
  induction types generalizing reads with
  | nil => rfl
  | cons type types ih =>
    have hstep : step calls (s.setPc i (.reading reads (type :: types))) (.advance i seen) =
        s.setPc i (.reading
          (reads.read type (latestInsight seen (calls.args i).studentId type)) types) := by
      simp only [step, setPc_self]
      simp only [Assembly.setPc, Function.update_idem]
    exact (congrArg (served calls seen · _) hstep).trans (ih _)

omit [DecidableEq ι] in
/-- On the tables of one moment the queries read what `_get_ai_narratives` returns. -/
theorem reads_all (calls : Calls ι) (seen : Platform) (i : ι) (student : StudentState) :
    Reads.all calls seen i ⟨student, seen, fun _ => none, false⟩ narrativeTypes =
      ⟨student, seen, (aiNarratives seen (calls.args i).studentId).texts,
        (aiNarratives seen (calls.args i).studentId).available⟩ := by
  simp only [Reads.all, narrativeTypes, List.foldl_cons, List.foldl_nil, Reads.read, aiNarratives,
    Reads.mk.injEq, true_and]
  constructor
  · funext type
    cases type <;> simp [Function.update]
  · simp [Bool.or_assoc]

/-- What a call that has ended returns. -/
def AssemblyPc.result (call : Snapshot.Call) (args : AssembleArgs) :
    AssemblyPc → Option AssembleResult
  | .found row => some (.exists row.id)
  | .missing => some (.error
      ("student " ++ toString args.studentId ++ " not found in ai_chatbot_triggerdata"))
  | .created reads row => some (.created row.id
      (classifySegment call.today reads.student.toMirrorColumns)
      (paymentRiskLabel (computeBalance reads.student.toMirrorColumns)) reads.available
      args.executionMode)
  | _ => none

omit [DecidableEq ι] in
theorem start_finalizedSnapshot (w : Warehouse) (args : AssembleArgs) :
    (start ι w).finalizedSnapshot args.key =
      w.finalizedSnapshot args.studentId args.snapshotMonth := by
  simp only [Assembly.finalizedSnapshot, Warehouse.finalizedSnapshot, StudentSnapshots.key,
    AssembleArgs.key, Prod.mk.injEq, Bool.decide_and, start]

theorem step_start (calls : Calls ι) (w : Warehouse) (seen : Platform) (i : ι)
    (hnone : (start ι w).finalizedSnapshot (calls.key i) = none) :
    step calls (start ι w) (.advance i seen) = (start ι w).setPc i .selected := by
  have hstart : (start ι w).pc i = .start := rfl
  simp only [step, hstart, hnone]

theorem served_reads (calls : Calls ι) (w : Warehouse) (seen : Platform) (i : ι)
    (hnone : (start ι w).finalizedSnapshot (calls.key i) = none)
    (hstudent : studentForMonth seen (calls.args i).studentId (calls.args i).snapshotMonth =
      some student) :
    served calls seen (start ι w) (List.replicate 8 i) =
      (start ι w).setPc i (.reading ⟨student, seen,
        (aiNarratives seen (calls.args i).studentId).texts,
        (aiNarratives seen (calls.args i).studentId).available⟩ []) := by
  have hfirst := step_start calls w seen i hnone
  have hsecond : step calls ((start ι w).setPc i .selected) (.advance i seen) =
      (start ι w).setPc i (.mirrored student) := by
    simp only [step, setPc_self, hstudent]
    simp only [Assembly.setPc, Function.update_idem]
  have hthird : step calls ((start ι w).setPc i (.mirrored student)) (.advance i seen) =
      (start ι w).setPc i (.reading ⟨student, seen, fun _ => none, false⟩ narrativeTypes) := by
    simp only [step, setPc_self]
    simp only [Assembly.setPc, Function.update_idem]
  calc served calls seen (start ι w) (List.replicate 8 i)
      = served calls seen (step calls (step calls (step calls (start ι w) (.advance i seen))
          (.advance i seen)) (.advance i seen)) (List.replicate 5 i) := rfl
    _ = served calls seen ((start ι w).setPc i
          (.reading ⟨student, seen, fun _ => none, false⟩ narrativeTypes))
          (List.replicate narrativeTypes.length i) := by rw [hfirst, hsecond, hthird]; rfl
    _ = _ := by rw [served_reading, reads_all]

theorem assembleSnapshot_of_missing
    (hnone : w.finalizedSnapshot args.studentId args.snapshotMonth = none)
    (hstudent : studentForMonth platform args.studentId args.snapshotMonth = none) :
    assembleSnapshot parseUuid platform call w args = .ok (w, .error
      ("student " ++ toString args.studentId ++ " not found in ai_chatbot_triggerdata")) := by
  unfold assembleSnapshot
  split
  · next existing hexists => cases hexists.symm.trans hnone
  · rw [hstudent]

theorem assembleSnapshot_of_student
    (hnone : w.finalizedSnapshot args.studentId args.snapshotMonth = none)
    (hstudent : studentForMonth platform args.studentId args.snapshotMonth = some student) :
    assembleSnapshot parseUuid platform call w args =
      (callUuid parseUuid call.uuid args.correlationId).map fun correlationId =>
        (w.insertSnapshot (finalizedRow platform call args correlationId student)
          (aiNarratives platform args.studentId).texts call.transactionNow (fun _ => rfl)
          fun _ => (w.finalizedSnapshot_eq_none_iff).1 hnone,
        .created w.studentSnapshots.nextId (classifySegment call.today student.toMirrorColumns)
          (paymentRiskLabel (computeBalance student.toMirrorColumns))
          (aiNarratives platform args.studentId).available args.executionMode) := by
  unfold assembleSnapshot
  split
  · next existing hexists => cases hexists.symm.trans hnone
  · rw [hstudent]
    cases callUuid parseUuid call.uuid args.correlationId with
    | error e => rfl
    | ok correlationId => rfl

/-- The call has left what the sequential `assemble_snapshot` leaves, and returns the same. -/
structure Alone (calls : Calls ι) (i : ι) (s : Assembly ι) (w : Warehouse)
    (outcome : Option AssembleResult) : Prop where
  snapshots : s.snapshots = w.studentSnapshots.rows
  narratives : s.narratives = w.snapshotAiNarratives.rows
  ended : (s.pc i).Ended
  result : (s.pc i).result (calls.call i) (calls.args i) = outcome

def Sequential (calls : Calls ι) (i : ι) (s : Assembly ι) (w : Warehouse) :
    Except Py.Error (Warehouse × AssembleResult) → Prop
  | .ok (w', result) => Alone calls i s w' (some result)
  | .error _ => Alone calls i s w none

/-- A call that ends without a row of its own. -/
theorem alone_setPc (calls : Calls ι) (w : Warehouse) (i : ι) (p : AssemblyPc) (hp : p.Ended)
    (hresult : p.result (calls.call i) (calls.args i) = outcome) :
    Alone calls i ((start ι w).setPc i p) w outcome :=
  ⟨rfl, rfl, (setPc_self _ i p).symm ▸ hp, (setPc_self _ i p).symm ▸ hresult⟩

theorem alone_raised (w : Warehouse) (seen : Platform)
    (huuid : callUuid calls.parseUuid (calls.call i).uuid (calls.args i).correlationId =
      .error e) :
    Alone calls i (served calls seen ((start ι w).setPc i (.reading reads []))
      (List.replicate 4 i)) w none := by
  have hraised : step calls ((start ι w).setPc i (.reading reads [])) (.advance i seen) =
      (start ι w).setPc i .raised := by
    simp only [step, setPc_self, huuid]
    simp only [Assembly.setPc, Function.update_idem]
  change Alone calls i (served calls seen (step calls ((start ι w).setPc i (.reading reads []))
    (.advance i seen)) (List.replicate 3 i)) w none
  rw [hraised, served_of_ended calls seen ((setPc_self _ i _).symm ▸ trivial) 3]
  exact alone_setPc calls w i .raised trivial rfl

theorem alone_created (hfound : w.finalizedSnapshot (calls.args i).studentId
      (calls.args i).snapshotMonth = none)
    (huuid : callUuid calls.parseUuid (calls.call i).uuid (calls.args i).correlationId =
      .ok correlationId) :
    Alone calls i (served calls seen ((start ι w).setPc i (.reading ⟨student, platform,
        (aiNarratives platform (calls.args i).studentId).texts, available⟩ []))
        (List.replicate 4 i))
      (w.insertSnapshot (finalizedRow platform (calls.call i) (calls.args i) correlationId student)
        (aiNarratives platform (calls.args i).studentId).texts (calls.call i).transactionNow
        (fun _ => rfl) fun _ => (w.finalizedSnapshot_eq_none_iff).1 hfound)
      (some (.created w.studentSnapshots.nextId
        (classifySegment (calls.call i).today student.toMirrorColumns)
        (paymentRiskLabel (computeBalance student.toMirrorColumns)) available
        (calls.args i).executionMode)) := by
  have hnone : (start ι w).finalizedSnapshot (calls.key i) = none :=
    (start_finalizedSnapshot w (calls.args i)).trans hfound
  let reads : Reads := ⟨student, platform,
    (aiNarratives platform (calls.args i).studentId).texts, available⟩
  let row := finalizedRow platform (calls.call i) (calls.args i) correlationId student
    w.studentSnapshots.nextId
  let narratives := companion (calls.call i) reads row w.snapshotAiNarratives.nextId
  let s₀ : Assembly ι := (start ι w).setPc i (.reading reads [])
  let s₁ : Assembly ι :=
    { s₀.setPc i (.numbered reads row) with nextSnapshotId := s₀.nextSnapshotId + 1 }
  let s₂ : Assembly ι :=
    { s₁.setPc i (.inserted reads row) with
      holder := Function.update s₁.holder (calls.key i) (some i) }
  let s₃ : Assembly ι :=
    { s₂.setPc i (.accompanied reads row narratives) with
      nextNarrativesId := s₂.nextNarrativesId + 1 }
  let s₄ : Assembly ι :=
    { s₃.setPc i (.created reads row) with
      snapshots := s₃.snapshots ++ [row]
      narratives := s₃.narratives ++ [narratives]
      holder := Function.update s₃.holder (calls.key i) none }
  have hnumbered : step calls s₀ (.advance i seen) = s₁ := by
    rw [step, setPc_self]
    simp only [huuid]
    rfl
  have hinserted : step calls s₁ (.advance i seen) = s₂ := by
    rw [step, show s₁.pc i = .numbered reads row from setPc_self s₀ i _,
      show s₁.holder (calls.key i) = none from rfl,
      show s₁.finalizedSnapshot (calls.key i) = none from hnone]
  have haccompanied : step calls s₂ (.advance i seen) = s₃ := by
    rw [step, show s₂.pc i = .inserted reads row from setPc_self s₁ i _]
    rfl
  have hcreated : step calls s₃ (.advance i seen) = s₄ := by
    rw [step, show s₃.pc i = .accompanied reads row narratives from setPc_self s₂ i _]
  have hserved : served calls seen s₀ (List.replicate 4 i) = s₄ := by
    rw [← hcreated, ← haccompanied, ← hinserted, ← hnumbered]
    rfl
  have hpc : s₄.pc i = .created reads row := setPc_self s₃ i _
  rw [hserved]
  refine ⟨rfl, rfl, ?_, ?_⟩
  · rw [hpc]
    trivial
  · rw [hpc]
    rfl

/-- Alone, on tables that stand still, a call is the sequential `assemble_snapshot`. -/
theorem assembleSnapshot_alone (calls : Calls ι) (w : Warehouse) (seen : Platform) (i : ι) :
    Sequential calls i (served calls seen (start ι w) (List.replicate 12 i)) w
      (assembleSnapshot calls.parseUuid seen (calls.call i) w (calls.args i)) := by
  have hstart : (start ι w).pc i = .start := rfl
  have hlook := start_finalizedSnapshot (ι := ι) w (calls.args i)
  cases hfound : w.finalizedSnapshot (calls.args i).studentId (calls.args i).snapshotMonth with
  | some existing =>
    have hfirst : step calls (start ι w) (.advance i seen) =
        (start ι w).setPc i (.found existing) := by
      simp only [step, hstart, Calls.key, hlook, hfound]
    have hserved : served calls seen (start ι w) (List.replicate 12 i) =
        (start ι w).setPc i (.found existing) := by
      change served calls seen (step calls (start ι w) (.advance i seen)) (List.replicate 11 i) = _
      rw [hfirst]
      exact served_of_ended calls seen ((setPc_self _ i _).symm ▸ trivial) 11
    rw [hserved, assembleSnapshot_of_found hfound]
    exact alone_setPc calls w i (.found existing) trivial rfl
  | none =>
    have hnone : (start ι w).finalizedSnapshot (calls.key i) = none := hlook.trans hfound
    cases hstudent : studentForMonth seen (calls.args i).studentId (calls.args i).snapshotMonth with
    | none =>
      have hserved : served calls seen (start ι w) (List.replicate 12 i) =
          (start ι w).setPc i .missing := by
        have hsecond : step calls ((start ι w).setPc i .selected) (.advance i seen) =
            (start ι w).setPc i .missing := by
          simp only [step, setPc_self, hstudent]
          simp only [Assembly.setPc, Function.update_idem]
        change served calls seen (step calls (step calls (start ι w) (.advance i seen))
          (.advance i seen)) (List.replicate 10 i) = _
        rw [step_start calls w seen i hnone, hsecond]
        exact served_of_ended calls seen ((setPc_self _ i _).symm ▸ trivial) 10
      rw [hserved, assembleSnapshot_of_missing hfound hstudent]
      exact alone_setPc calls w i .missing trivial rfl
    | some student =>
      have hreads := served_reads calls w seen i hnone hstudent
      have hsplit : served calls seen (start ι w) (List.replicate 12 i) =
          served calls seen (served calls seen (start ι w) (List.replicate 8 i))
            (List.replicate 4 i) :=
        served_append calls seen (start ι w) (List.replicate 8 i) (List.replicate 4 i)
      rw [hsplit, hreads, assembleSnapshot_of_student hfound hstudent]
      cases huuid : callUuid calls.parseUuid (calls.call i).uuid (calls.args i).correlationId with
      | error e => exact alone_raised w seen huuid
      | ok correlationId => exact alone_created hfound huuid

/-- No call waits for ever: whatever the calls and their failures have come to, statements without a
failure bring each call to its end. -/
theorem assembleSnapshot_never_stuck (calls : Calls ι) (w : Warehouse) (hw : Companioned w)
    (ticks : List (Tick ι)) (seen : Platform) (i : ι) :
    EndsWithin calls seen (Runs.final (step calls) (start ι w) ticks) i
      (((Runs.final (step calls) (start ι w) ticks).pc i).left + 2) :=
  (sound_run calls w hw ticks).ends seen i

theorem twoCalls_never_stuck :
    EndsWithin twoCalls (platformWith .empty)
      (Runs.final (step twoCalls) (start Bool emptyWarehouse) (bothLook.take 19)) true 5 :=
  assembleSnapshot_never_stuck twoCalls emptyWarehouse companioned_emptyWarehouse
    (bothLook.take 19) (platformWith .empty) true

end ConcurrentAssembly
end StudentSuccess
