import StudentSuccess.Repository
import StudentSuccess.KeyStores
import StudentSuccess.Runs
import StudentSuccess.Transactions

namespace StudentSuccess
namespace Repository
set_option autoImplicit true

/-- What a flush raises: the error of the statement, or, until the session is rolled back, the
error that says so. -/
inductive SessionError
  | flushFailed
  | pendingRollback
  deriving DecidableEq, Repr

/-- The outreach history with the open transactions of the process's sessions, the sessions whose
flush failed, and the idempotency keys in the memory of the process. -/
structure HistoryStore where
  history : TxTable Nat OutreachHistory
  nextId : Nat
  failed : List Nat
  keys : List String

namespace HistoryStore

def start (rows : List OutreachHistory) (nextId : Nat) : HistoryStore where
  history := .ofCommitted rows
  nextId := nextId
  failed := []
  keys := []

def blockedRecord (args : HistoryArgs) (attribution : AttributionFields)
    (blockingCodes : List String) : PersistenceRecord :=
  makePersistenceRecord attribution "outreach_history_append_blocked" "outreach_history"
    "append_only" true blockingCodes blockingCodes.head? "blocked" none args.idempotencyKey
    ["RULE_0_GOVERNANCE_GATE"]

def appendedRecord (args : HistoryArgs) (attribution : AttributionFields) (id : Nat) :
    PersistenceRecord :=
  makePersistenceRecord attribution "outreach_history_appended" "outreach_history"
    "append_only" false [] none "success" (some id) args.idempotencyKey
    ["RULE_0_GOVERNANCE_GATE", "RULE_1_APPEND_INSERT"]

/-- The key is added before the flush, and no rollback takes it out again. -/
def registered (store : HistoryStore) (args : HistoryArgs) (attribution : AttributionFields) :
    HistoryStore :=
  { store with
    keys := register (attribution.executionType ∉ replayExecutionTypes) store.keys
      args.idempotencyKey }

/-- `append_outreach_history` on a session, with a flush that may fail: a failed flush rolls the
transaction back, and the session flushes nothing more until it is rolled back itself. -/
def append (store : HistoryStore) (s : Nat) (flushes : Bool) (now : Instant) (args : HistoryArgs)
    (attribution : AttributionFields) :
    Except SessionError (Option OutreachHistory × PersistenceRecord) × HistoryStore :=
  let blockingCodes := governancePersistenceGate attribution args.idempotencyKey store.keys
    false false
  let registered := store.registered args attribution
  let row := historyRow now args attribution store.nextId
  if blockingCodes ≠ [] then (.ok (none, blockedRecord args attribution blockingCodes), store)
  else if s ∈ store.failed then (.error .pendingRollback, registered)
  else if flushes then
    (.ok (some row, appendedRecord args attribution store.nextId),
      { registered with
        history := store.history.insert s row
        nextId := store.nextId + 1 })
  else
    (.error .flushFailed,
      { registered with
        history := store.history.rollback s
        failed := s :: store.failed })

/-- A session whose flush failed cannot commit. -/
def commit (store : HistoryStore) (s : Nat) : HistoryStore :=
  if s ∈ store.failed then store else { store with history := store.history.commit s }

def rollback (store : HistoryStore) (s : Nat) : HistoryStore :=
  { store with
    history := store.history.rollback s
    failed := store.failed.filter (· ≠ s) }

end HistoryStore

inductive HistoryOp
  | append (s : Nat) (flushes : Bool) (now : Instant) (args : HistoryArgs)
      (attribution : AttributionFields)
  | commit (s : Nat)
  | rollback (s : Nat)

def HistoryStore.step (store : HistoryStore) : HistoryOp → HistoryStore
  | .append s flushes now args attribution => (store.append s flushes now args attribution).2
  | .commit s => store.commit s
  | .rollback s => store.rollback s

def keysOf (rows : List OutreachHistory) : List String :=
  rows.filterMap fun row => nonEmptyKey row.idempotencyKey

def liveKeysOf (rows : List OutreachHistory) : List String :=
  keysOf (rows.filter fun row => row.executionType ∉ replayExecutionTypes)

/-- The refusals of the gate tell which keys the table holds, and no two committed rows that are no
replays share one. -/
structure Coherent (store : HistoryStore) : Prop where
  refused_iff : ∀ s flushes now args attribution key, args.idempotencyKey = some key → key ≠ "" →
    attribution.executionType ∉ replayExecutionTypes →
    ((∃ record, (store.append s flushes now args attribution).1 = .ok (none, record) ∧
      "IDEMPOTENCY_DUPLICATE" ∈ record.blockingCodes) ↔ key ∈ keysOf store.history.values)
  unique : (liveKeysOf store.history.committed).Nodup

/-- Every key a transaction holds is held outside it too. -/
def RollbackSafe (store : HistoryStore) (s : Nat) : Prop :=
  ∀ key ∈ keysOf store.history.values, key ∈ keysOf (store.history.outside s)

/-- The append has no key to register: it comes without one, or for a replay. -/
def Unregistered (args : HistoryArgs) (attribution : AttributionFields) : Prop :=
  ∀ key, nonEmptyKey args.idempotencyKey = some key →
    attribution.executionType ∈ replayExecutionTypes

/-- The step leaves the keys in memory and those of the table the same, told from the state before
it: an append that registers its key is flushed, a replay's key is held already, and no transaction
that holds a key of its own ends without a commit. -/
def Safe (store : HistoryStore) : HistoryOp → Prop
  | .append s flushes _ args attribution =>
    governancePersistenceGate attribution args.idempotencyKey store.keys false false = [] →
      if s ∈ store.failed then Unregistered args attribution
      else if flushes then
        ∀ key, nonEmptyKey args.idempotencyKey = some key →
          attribution.executionType ∈ replayExecutionTypes → key ∈ keysOf store.history.values
      else Unregistered args attribution ∧ RollbackSafe store s
  | .commit _ => True
  | .rollback s => RollbackSafe store s

theorem mem_keysOf_iff :
    key ∈ keysOf rows ↔ ∃ row ∈ rows, nonEmptyKey row.idempotencyKey = some key :=
  List.mem_filterMap

theorem mem_keysOf_append :
    key ∈ keysOf (rows ++ [row]) ↔
      key ∈ keysOf rows ∨ nonEmptyKey row.idempotencyKey = some key := by
  simp only [keysOf]
  rw [List.filterMap_append, List.mem_append]
  simp

theorem keysOf_sublist (h : rows.Sublist rows') : (keysOf rows).Sublist (keysOf rows') :=
  h.filterMap _

theorem ne_empty_of_mem_keysOf (h : key ∈ keysOf rows) : key ≠ "" := by
  obtain ⟨row, -, hkey⟩ := mem_keysOf_iff.1 h
  exact (nonEmptyKey_eq_some_iff.1 hkey).2

theorem liveKeysOf_sublist (h : rows.Sublist rows') :
    (liveKeysOf rows).Sublist (liveKeysOf rows') :=
  keysOf_sublist (h.filter _)

/-- The gate's duplicate code says that a key that is no replay's is in the store. -/
theorem duplicate_mem_gate_iff (attribution : AttributionFields) :
    "IDEMPOTENCY_DUPLICATE" ∈
        governancePersistenceGate attribution idempotencyKey keys false false ↔
      ∃ key, nonEmptyKey idempotencyKey = some key ∧
        attribution.executionType ∉ replayExecutionTypes ∧ key ∈ keys := by
  have hfields := duplicate_not_mem_checkAttributionFields attribution
  simp only [governancePersistenceGate, checkFinalizedProtection, checkReplayLiveOverwrite,
    Bool.and_false, Bool.false_eq_true, if_false, List.append_nil, List.mem_append, hfields,
    false_or, nonEmptyKey_eq_some_iff]
  cases idempotencyKey with
  | none => simp [checkIdempotency]
  | some key =>
    unfold checkIdempotency
    dsimp only
    split_ifs with hempty hreplay hmem
    · simp [hempty]
    · simp [hreplay]
    · simp [hempty, hreplay, hmem]
    · simp [hmem]

/-- A key that passes the gate on anything but a replay is new to the store. -/
theorem not_mem_keys_of_gate
    (h : governancePersistenceGate attribution idempotencyKey keys false false = [])
    (hkey : nonEmptyKey idempotencyKey = some key)
    (hlive : attribution.executionType ∉ replayExecutionTypes) : key ∉ keys := by
  intro hmem
  have hcode := (duplicate_mem_gate_iff attribution).2 ⟨key, hkey, hlive, hmem⟩
  rw [h] at hcode
  cases hcode

/-- On a session that flushes, the append is `append_outreach_history` on the tables it sees. -/
theorem append_eq_appendOutreachHistory (store : HistoryStore) (session : Session)
    (hkeys : session.outreachHistoryKeys = store.keys)
    (hid : session.db.outreachHistory.nextId = store.nextId) (hs : s ∉ store.failed) :
    (store.append s true now args attribution).1 =
        .ok ((appendOutreachHistory session now args attribution).1,
          (appendOutreachHistory session now args attribution).2.1) ∧
      (store.append s true now args attribution).2.keys =
        (appendOutreachHistory session now args attribution).2.2.outreachHistoryKeys := by
  rw [HistoryStore.append, appendOutreachHistory]
  dsimp only
  rw [hkeys, hid, if_neg hs, if_pos rfl]
  split_ifs
  · exact ⟨rfl, hkeys.symm⟩
  · exact ⟨rfl, rfl⟩

theorem append_refused_iff (store : HistoryStore)
    (hkey : nonEmptyKey args.idempotencyKey = some key)
    (hlive : attribution.executionType ∉ replayExecutionTypes) :
    (∃ record, (store.append s flushes now args attribution).1 = .ok (none, record) ∧
      "IDEMPOTENCY_DUPLICATE" ∈ record.blockingCodes) ↔ key ∈ store.keys := by
  constructor
  · intro h
    obtain ⟨record, hrecord, hcode⟩ := h
    unfold HistoryStore.append at hrecord
    dsimp only at hrecord
    split_ifs at hrecord
    · cases hrecord
      obtain ⟨key', hkey', -, hmem⟩ := (duplicate_mem_gate_iff attribution).1 hcode
      rw [hkey] at hkey'
      cases hkey'
      exact hmem
    · cases hrecord
  · intro hmem
    have hcode := (duplicate_mem_gate_iff attribution).2 ⟨key, hkey, hlive, hmem⟩
    refine ⟨_, congrArg Prod.fst (if_pos (List.ne_nil_of_mem hcode)), hcode⟩

/-- The keys in memory are those of the table, committed or pending. -/
def Tracks (store : HistoryStore) : Prop :=
  ∀ key, key ≠ "" → (key ∈ store.keys ↔ key ∈ keysOf store.history.values)

theorem tracks_registered_iff (h : Tracks store)
    (hgate :
      governancePersistenceGate attribution args.idempotencyKey store.keys false false = []) :
    Tracks (store.registered args attribution) ↔ Unregistered args attribution := by
  constructor
  · intro htracks key hkey
    by_contra hlive
    have hnew := not_mem_keys_of_gate hgate hkey hlive
    have hne := (nonEmptyKey_eq_some_iff.1 hkey).2
    have hmem : key ∈ (store.registered args attribution).keys :=
      mem_register_iff.2 (.inr ⟨hlive, hkey⟩)
    exact hnew ((h key hne).2 ((htracks key hne).1 hmem))
  · intro hreplay key hne
    refine Iff.trans ?_ (h key hne)
    constructor
    · intro hmem
      obtain hmem | ⟨hlive, hkey⟩ := mem_register_iff.1 hmem
      · exact hmem
      · exact absurd (hreplay key hkey) hlive
    · intro hmem
      exact mem_register_iff.2 (.inl hmem)

/-- A flushed row keeps the two sets of keys the same unless it is a replay's with a new key. -/
theorem tracks_insert_iff (h : Tracks store) :
    Tracks { store.registered args attribution with
        history := store.history.insert s (historyRow now args attribution n)
        nextId := n' } ↔
      ∀ key, nonEmptyKey args.idempotencyKey = some key →
        attribution.executionType ∈ replayExecutionTypes → key ∈ keysOf store.history.values := by
  have hkeys : ∀ key, key ∈ keysOf
      (store.history.insert s (historyRow now args attribution n)).values ↔
      key ∈ keysOf store.history.values ∨ nonEmptyKey args.idempotencyKey = some key := by
    intro key
    rw [TxTable.values_insert, mem_keysOf_append]
    rfl
  constructor
  · intro htracks key hkey hreplay
    have hne := (nonEmptyKey_eq_some_iff.1 hkey).2
    obtain hmem | ⟨hlive, -⟩ := mem_register_iff.1 ((htracks key hne).2 ((hkeys key).2 (.inr hkey)))
    · exact (h key hne).1 hmem
    · exact absurd hreplay hlive
  · intro hheld key hne
    refine Iff.trans mem_register_iff (Iff.trans ?_ (hkeys key).symm)
    rw [h key hne]
    constructor
    · intro hmem
      obtain hmem | ⟨-, hkey⟩ := hmem
      · exact .inl hmem
      · exact .inr hkey
    · intro hmem
      obtain hmem | hkey := hmem
      · exact .inl hmem
      · by_cases hreplay : attribution.executionType ∈ replayExecutionTypes
        · exact .inl (hheld key hkey hreplay)
        · exact .inr ⟨hreplay, hkey⟩

theorem tracks_rollback_iff (h : Tracks store) (s : Nat) :
    Tracks (store.rollback s) ↔ RollbackSafe store s := by
  constructor
  · intro htracks key hkey
    have hne := ne_empty_of_mem_keysOf hkey
    exact (htracks key hne).1 ((h key hne).2 hkey)
  · intro hsafe key hne
    refine Iff.trans (h key hne) ?_
    constructor
    · intro hmem
      exact hsafe key hmem
    · intro hmem
      exact (keysOf_sublist (store.history.outside_sublist s)).mem hmem

/-- A failed flush registers the key and loses the rows of the transaction. -/
theorem tracks_failed_iff (h : Tracks store)
    (hgate : governancePersistenceGate attribution args.idempotencyKey store.keys false false = [])
    (s : Nat) :
    Tracks { store.registered args attribution with
        history := store.history.rollback s
        failed := failed } ↔ Unregistered args attribution ∧ RollbackSafe store s := by
  constructor
  · intro htracks
    have hreplay : Unregistered args attribution := by
      intro key hkey
      by_contra hlive
      have hne := (nonEmptyKey_eq_some_iff.1 hkey).2
      have hmem : key ∈ keysOf (store.history.outside s) :=
        (htracks key hne).1 (mem_register_iff.2 (.inr ⟨hlive, hkey⟩))
      exact not_mem_keys_of_gate hgate hkey hlive
        ((h key hne).2 ((keysOf_sublist (store.history.outside_sublist s)).mem hmem))
    refine ⟨hreplay, ?_⟩
    intro key hkey
    have hne := ne_empty_of_mem_keysOf hkey
    exact (htracks key hne).1 (mem_register_iff.2 (.inl ((h key hne).2 hkey)))
  · intro hsafe key hne
    have hregistered := (tracks_registered_iff h hgate).2 hsafe.1 key hne
    refine Iff.trans hregistered ?_
    exact ⟨fun hmem => hsafe.2 key hmem,
      fun hmem => (keysOf_sublist (store.history.outside_sublist s)).mem hmem⟩

theorem tracks_append_iff (h : Tracks store) :
    Tracks (store.append s flushes now args attribution).2 ↔
      Safe store (.append s flushes now args attribution) := by
  unfold Safe HistoryStore.append
  by_cases hgate :
      governancePersistenceGate attribution args.idempotencyKey store.keys false false = []
  · dsimp only
    rw [if_neg (not_not_intro hgate), imp_iff_right hgate]
    split_ifs
    · exact tracks_registered_iff h hgate
    · exact tracks_insert_iff h
    · exact tracks_failed_iff h hgate s
  · dsimp only
    rw [if_pos hgate]
    exact iff_of_true h (fun hpass => absurd hpass hgate)

theorem tracks_commit (h : Tracks store) (s : Nat) : Tracks (store.commit s) := by
  rw [HistoryStore.commit]
  split_ifs
  · exact h
  · intro key hne
    rw [TxTable.values_commit]
    exact h key hne

/-- The keys in memory stay those of the table through exactly the safe steps. -/
theorem tracks_step_iff (store : HistoryStore) (op : HistoryOp) (h : Tracks store) :
    Tracks (store.step op) ↔ Safe store op := by
  cases op with
  | append s flushes now args attribution => exact tracks_append_iff h
  | commit s => exact iff_of_true (tracks_commit h s) trivial
  | rollback s => exact tracks_rollback_iff h s

/-- Rows that are no replays have keys of their own, and the process remembers them. -/
structure LiveKeys (store : HistoryStore) : Prop where
  nodup : (liveKeysOf store.history.values).Nodup
  remembered : ∀ key ∈ liveKeysOf store.history.values, key ∈ store.keys

theorem LiveKeys.sublist (h : LiveKeys store)
    (hrows : store'.history.values.Sublist store.history.values)
    (hkeys : ∀ key ∈ store.keys, key ∈ store'.keys) : LiveKeys store' where
  nodup := h.nodup.sublist (liveKeysOf_sublist hrows)
  remembered key hkey := hkeys key (h.remembered key ((liveKeysOf_sublist hrows).mem hkey))

theorem liveKeysOf_insert (rows : List OutreachHistory) (row : OutreachHistory) :
    liveKeysOf (rows ++ [row]) = liveKeysOf rows ++
      if row.executionType ∈ replayExecutionTypes then []
      else (nonEmptyKey row.idempotencyKey).toList := by
  simp only [liveKeysOf, keysOf]
  rw [List.filter_append, List.filterMap_append]
  split_ifs with hreplay
  · simp [hreplay]
  · rw [List.filter_singleton, decide_eq_true hreplay]
    cases hkey : nonEmptyKey row.idempotencyKey with
    | none => simp [hkey]
    | some key => simp [hkey]

theorem LiveKeys.insert (h : LiveKeys store)
    (hgate :
      governancePersistenceGate attribution args.idempotencyKey store.keys false false = []) :
    LiveKeys { store.registered args attribution with
      history := store.history.insert s (historyRow now args attribution n)
      nextId := n' } := by
  have hvalues : liveKeysOf
      (store.history.insert s (historyRow now args attribution n)).values =
      liveKeysOf store.history.values ++
        if attribution.executionType ∈ replayExecutionTypes then []
        else (nonEmptyKey args.idempotencyKey).toList := by
    rw [TxTable.values_insert]
    exact liveKeysOf_insert _ _
  constructor
  · dsimp only
    rw [hvalues]
    split_ifs with hreplay
    · rw [List.append_nil]
      exact h.nodup
    · refine List.Nodup.append h.nodup ?_ ?_
      · cases nonEmptyKey args.idempotencyKey with
        | none => exact List.nodup_nil
        | some key => exact List.nodup_singleton key
      · intro key hkey hkey'
        exact not_mem_keys_of_gate hgate (Option.mem_toList.1 hkey') hreplay (h.remembered key hkey)
  · dsimp only
    rw [hvalues]
    intro key hkey
    obtain hkey | hkey := List.mem_append.1 hkey
    · exact mem_register_iff.2 (.inl (h.remembered key hkey))
    · split_ifs at hkey with hreplay
      · cases hkey
      · exact mem_register_iff.2 (.inr ⟨hreplay, Option.mem_toList.1 hkey⟩)

theorem LiveKeys.step (store : HistoryStore) (op : HistoryOp) (h : LiveKeys store) :
    LiveKeys (store.step op) := by
  have hregister : ∀ args attribution key, key ∈ store.keys →
      key ∈ (store.registered args attribution).keys :=
    fun args attribution key hkey => mem_register_iff.2 (.inl hkey)
  cases op with
  | append s flushes now args attribution =>
    unfold HistoryStore.step HistoryStore.append
    dsimp only
    split_ifs with hgate
    · exact h
    · exact h.sublist (List.Sublist.refl _) (hregister args attribution)
    · exact h.insert (not_not.1 hgate)
    · exact h.sublist (store.history.outside_sublist s) (hregister args attribution)
  | commit s =>
    unfold HistoryStore.step HistoryStore.commit
    dsimp only
    split_ifs
    · exact h
    · refine h.sublist ?_ (fun _ hkey => hkey)
      rw [TxTable.values_commit]
  | rollback s => exact h.sublist (store.history.outside_sublist s) (fun _ hkey => hkey)

theorem LiveKeys.unique (h : LiveKeys store) : (liveKeysOf store.history.committed).Nodup :=
  h.nodup.sublist (liveKeysOf_sublist store.history.committed_sublist)

theorem Coherent.tracks (h : Coherent store) : Tracks store := by
  intro key hne
  have hlive : "original" ∉ replayExecutionTypes := by decide
  have hrefused := h.refused_iff 0 true 0
    { trackingId := 0, userId := 0, checkpointType := "", attemptNumber := 0,
      idempotencyKey := some key }
    { correlationId := "", executionMode := "", executionType := "original",
      governanceScope := "" } key rfl hne hlive
  exact Iff.trans
    (append_refused_iff store (nonEmptyKey_eq_some_iff.2 ⟨rfl, hne⟩) hlive).symm hrefused

theorem Tracks.coherent (h : Tracks store) (hlive : LiveKeys store) : Coherent store where
  refused_iff _ _ _ _ _ key hkey hne htype :=
    Iff.trans (append_refused_iff store (nonEmptyKey_eq_some_iff.2 ⟨hkey, hne⟩) htype) (h key hne)
  unique := hlive.unique

theorem tracks_start_iff (rows : List OutreachHistory) (nextId : Nat) :
    Tracks (.start rows nextId) ↔ keysOf rows = [] := by
  rw [List.eq_nil_iff_forall_not_mem]
  rw [Tracks, HistoryStore.start]
  dsimp only
  rw [TxTable.values_ofCommitted]
  constructor
  · intro h key hkey
    cases (h key (ne_empty_of_mem_keysOf hkey)).2 hkey
  · intro h key _
    exact iff_of_false List.not_mem_nil (h key)

theorem liveKeys_start (h : keysOf rows = []) (nextId : Nat) : LiveKeys (.start rows nextId) := by
  have hlive : liveKeysOf (HistoryStore.start rows nextId).history.values = [] := by
    rw [HistoryStore.start]
    dsimp only
    rw [TxTable.values_ofCommitted, ← List.sublist_nil, ← h]
    exact keysOf_sublist List.filter_sublist
  constructor
  · rw [hlive]
    exact List.nodup_nil
  · rw [hlive]
    intro key hkey
    cases hkey

/-- The gate tells the table's keys after every part of a run exactly when the process starts on a
table without keys and every step of the run is safe. -/
theorem coherent_iff (rows : List OutreachHistory) (nextId : Nat) (ops : List HistoryOp) :
    (∀ before rest, ops = before ++ rest →
      Coherent (Runs.final HistoryStore.step (.start rows nextId) before)) ↔
    keysOf rows = [] ∧ Runs.EveryStep HistoryStore.step Safe (.start rows nextId) ops := by
  constructor
  · intro h
    have hrows : keysOf rows = [] :=
      (tracks_start_iff rows nextId).1 (h [] ops rfl).tracks
    refine ⟨hrows, ?_⟩
    rw [← Runs.everywhere_iff tracks_step_iff ((tracks_start_iff rows nextId).2 hrows)]
    intro before rest heq
    exact (h before rest heq).tracks
  · intro h before rest heq
    have htracks := (Runs.everywhere_iff tracks_step_iff
      ((tracks_start_iff rows nextId).2 h.1) ops).2 h.2 before rest heq
    exact htracks.coherent (Runs.invariant LiveKeys.step (liveKeys_start h.1 nextId) before)

def keyedArgs : HistoryArgs where
  trackingId := 1
  userId := 7
  checkpointType := "30_DAY"
  attemptNumber := 1
  idempotencyKey := some "key-1"

def originalAttribution : AttributionFields where
  correlationId := "corr-1"
  executionMode := "SHADOW"
  executionType := "original"
  governanceScope := "SHADOW_ONLY"

/-- After a failed flush, and after a rollback, the key is refused though no row holds it. -/
theorem rollback_not_coherent :
    ¬ Coherent (Runs.final HistoryStore.step (.start [] 1)
      [.append 0 false 0 keyedArgs originalAttribution, .rollback 0]) ∧
    ¬ Coherent (Runs.final HistoryStore.step (.start [] 1)
      [.append 0 true 0 keyedArgs originalAttribution, .rollback 0]) := by
  constructor
  · intro h
    exact absurd ((h.tracks "key-1" (by decide)).1 (by decide)) (by decide)
  · intro h
    exact absurd ((h.tracks "key-1" (by decide)).1 (by decide)) (by decide)

end Repository
end StudentSuccess
