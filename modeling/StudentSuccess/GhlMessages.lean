import StudentSuccess.Fills
import StudentSuccess.Models
import StudentSuccess.Runs

namespace StudentSuccess
namespace GhlSync
set_option autoImplicit true
open Py

def channelTypeMap : List (String × String) :=
  [("1", "SMS"), ("2", "EMAIL"), ("3", "CALL"), ("4", "WHATSAPP"), ("TYPE_SMS", "SMS"),
    ("TYPE_EMAIL", "EMAIL"), ("TYPE_CALL", "CALL"), ("TYPE_WHATSAPP", "WHATSAPP")]

structure MessageColumns where
  ghlMessageId : String
  userId : Int
  direction : String
  channel : String
  body : String
  status : String
  ghlCreatedAt : Option Instant
  syncedAt : Instant

structure GHLMessage extends MessageColumns where
  id : Nat

/-- `ghl_messages`; its identities start at 1. -/
structure Messages extends Table GHLMessage (·.ghlMessageId) where
  id_pos : ∀ r ∈ rows, 0 < r.id

/-- `repr` gives the texts of floats, lists and dicts, `fromIsoformat` is
`datetime.fromisoformat`, and `accepts` says whether the columns can hold the values. -/
structure SyncEnv where
  repr : Value → String
  fromIsoformat : String → Option Instant
  accepts : MessageColumns → Bool

inductive SyncError
  | typeError
  | dataError
  | multipleResultsFound
  deriving DecidableEq

abbrev Message := List (String × Value)

/-- `msg.get(key, default)`. -/
def getOr (msg : Message) (key : String) (dflt : Value) : Value := (get? key msg).getD dflt

/-- `a or b`. -/
def orElse (a b : Value) : Value := if a.truthy then a else b

/-- The identity of a message, `str(ghl_id)`; `None` if it has none. -/
def messageId (env : SyncEnv) (msg : Message) : Option String :=
  let ghlId := orElse (getOr msg "id" .null) (getOr msg "messageId" .null)
  if ghlId.truthy then some (ghlId.text env.repr) else none

def parseTs (env : SyncEnv) (raw : Value) : Option Instant :=
  if raw.truthy then
    match raw with
    | .str s => env.fromIsoformat (s.replace "Z" "+00:00")
    | _ => none
  else none

/-- `(body or "")[:2000]`; the slice of a list is not a text, and the column refuses it. -/
def bodyText (body : Value) : Except SyncError String :=
  match orElse body (.str "") with
  | .str s => .ok (s.take 2000).toString
  | .list _ => .error .dataError
  | _ => .error .typeError

def direction (env : SyncEnv) (msg : Message) : String :=
  let rawDir := getOr msg "direction" (.str "")
  if (rawDir.text env.repr).toLower ∈ ["outbound", "1"] then "OUTBOUND" else "INBOUND"

def channel (env : SyncEnv) (msg : Message) : String :=
  (get? ((getOr msg "type" (.str "")).text env.repr) channelTypeMap).getD "UNKNOWN"

def messageColumns (env : SyncEnv) (userId : Int) (now : Instant) (ghlId : String)
    (msg : Message) : Except SyncError MessageColumns := do
  let ghlTs := parseTs env (orElse (getOr msg "dateAdded" .null) (getOr msg "createdAt" .null))
  let body ← bodyText (orElse (getOr msg "body" .null) (getOr msg "message" .null))
  .ok
    { ghlMessageId := ghlId
      userId := userId
      direction := direction env msg
      channel := channel env msg
      body := body
      status := (orElse (getOr msg "status" .null) (.str "unknown")).text env.repr
      ghlCreatedAt := ghlTs
      syncedAt := now }

/-- `scalar_one_or_none()` of the ids of the rows. -/
def scalarOneOrNone : List Nat → Except SyncError (Option Nat)
  | [] => .ok none
  | [id] => .ok (some id)
  | _ => .error .multipleResultsFound

/-- `if exists.scalar_one_or_none():`, a test of the id. -/
def idTruthy : Option Nat → Bool
  | some id => id ≠ 0
  | none => false

namespace Messages

def freshId (table : Messages) : Nat := Table.freshId (table.rows.map (·.id))

/-- `INSERT`; the database refuses a value that its column cannot hold and a second row of an
identity. -/
def add (env : SyncEnv) (table : Messages) (columns : MessageColumns) :
    Except SyncError Messages :=
  if !env.accepts columns then .error .dataError
  else if h : columns.ghlMessageId ∈ table.rows.map (·.ghlMessageId) then .error .dataError
  else
    .ok
      { toTable := table.insert ⟨columns, table.freshId⟩ h
        id_pos := by
          intro r hr
          rw [Table.insert_rows, List.mem_append, List.mem_singleton] at hr
          rcases hr with hr | rfl
          · exact table.id_pos r hr
          · exact Nat.succ_pos _ }

end Messages

/-- `db.add(GHLMessage(…))`, with the flush that follows. -/
def insertMessage (env : SyncEnv) (userId : Int) (now : Instant) (table : Messages)
    (ghlId : String) (msg : Message) : Except SyncError Messages := do
  let columns ← messageColumns env userId now ghlId msg
  table.add env columns

/-- One message of the batch; the lookup sees the rows that wait for the commit. -/
def upsertMessage (env : SyncEnv) (userId : Int) (now : Instant) (table : Messages) (synced : Nat)
    (msg : Message) : Except SyncError (Messages × Nat) :=
  match messageId env msg with
  | none => .ok (table, synced)
  | some ghlId => do
    let found ← scalarOneOrNone ((table.rows.filter (·.ghlMessageId = ghlId)).map (·.id))
    if idTruthy found then .ok (table, synced)
    else
      let table ← insertMessage env userId now table ghlId msg
      .ok (table, synced + 1)

def upsertLoop (env : SyncEnv) (userId : Int) (now : Instant) :
    Messages → Nat → List Message → Except SyncError (Messages × Nat)
  | table, synced, [] => .ok (table, synced)
  | table, synced, msg :: messages => do
    let (table, synced) ← upsertMessage env userId now table synced msg
    upsertLoop env userId now table synced messages

/-- The count or the exception, and what the table is when the session is closed. -/
def upsertMessages (env : SyncEnv) (userId : Int) (now : Instant) (messages : List Message)
    (table : Messages) : Except SyncError Nat × Messages :=
  match upsertLoop env userId now table 0 messages with
  | .error e => (.error e, table)
  | .ok (pending, synced) => (.ok synced, if synced ≠ 0 then pending else table)

namespace Messages

theorem eq_of_rows {table table' : Messages} (h : table.rows = table'.rows) : table = table' := by
  obtain ⟨⟨rows, unique⟩, hpos⟩ := table
  obtain ⟨⟨rows', unique'⟩, hpos'⟩ := table'
  cases h
  rfl

theorem scalarOneOrNone_ids (table : Messages) (ghlId : String) :
    scalarOneOrNone ((table.rows.filter (·.ghlMessageId = ghlId)).map (·.id)) =
      .ok ((table.find? ghlId).map (·.id)) := by
  cases hfind : table.find? ghlId with
  | none =>
    have hnone := Table.find?_eq_none_iff.1 hfind
    have hfilter : table.rows.filter (·.ghlMessageId = ghlId) = [] := by
      apply List.filter_eq_nil_iff.2
      intro r hr hkey
      exact hnone (of_decide_eq_true hkey ▸ List.mem_map_of_mem hr)
    rw [hfilter]
    rfl
  | some r =>
    rw [Table.filter_of_find? hfind]
    rfl

theorem idTruthy_find? (table : Messages) (ghlId : String) :
    idTruthy ((table.find? ghlId).map (·.id)) = true ↔
      ghlId ∈ table.rows.map (·.ghlMessageId) := by
  cases hfind : table.find? ghlId with
  | none =>
    have hnone := Table.find?_eq_none_iff.1 hfind
    exact ⟨fun h => absurd h Bool.false_ne_true, fun h => absurd h hnone⟩
  | some r =>
    have hmem : r ∈ table.rows := List.mem_of_find?_eq_some hfind
    have hpos := table.id_pos r hmem
    have hkey := Table.find?_key hfind
    exact ⟨fun _ => hkey ▸ List.mem_map_of_mem hmem, fun _ => by simp [idTruthy]; omega⟩

theorem add_fills {table table' : Messages} (h : table.add env columns = .ok table') :
    table.Fills table'.toTable [columns.ghlMessageId] 1 := by
  rw [add] at h
  split_ifs at h with haccepts hmem
  cases h
  exact Table.Fills.insert table.toTable _ hmem

theorem add_of_absent {table : Messages} (haccepts : env.accepts columns = true)
    (h : columns.ghlMessageId ∉ table.rows.map (·.ghlMessageId)) :
    ∃ table', table.add env columns = .ok table' := by
  rw [add, haccepts, Bool.not_true, if_neg Bool.false_ne_true, dif_neg h]
  exact ⟨_, rfl⟩

end Messages

theorem messageColumns_ghlMessageId
    (h : messageColumns env userId now ghlId msg = .ok columns) : columns.ghlMessageId = ghlId := by
  rw [messageColumns, bind_eq_ok] at h
  obtain ⟨body, -, h⟩ := h
  cases h
  rfl

/-- Every column of the message has a value that the database takes. -/
def Storable (env : SyncEnv) (userId : Int) (now : Instant) (msg : Message) : Prop :=
  ∀ ghlId, messageId env msg = some ghlId →
    ∃ columns, messageColumns env userId now ghlId msg = .ok columns ∧
      env.accepts columns = true

theorem insertMessage_fills
    (h : insertMessage env userId now table ghlId msg = .ok table') :
    table.Fills table'.toTable [ghlId] 1 := by
  rw [insertMessage, bind_eq_ok] at h
  obtain ⟨columns, hcolumns, hadd⟩ := h
  have hfills := Messages.add_fills hadd
  rw [messageColumns_ghlMessageId hcolumns] at hfills
  exact hfills

theorem insertMessage_returns (h : Storable env userId now msg)
    (hid : messageId env msg = some ghlId) {table : Messages}
    (hmem : ghlId ∉ table.rows.map (·.ghlMessageId)) :
    Returns (insertMessage env userId now table ghlId msg) := by
  obtain ⟨columns, hcolumns, haccepts⟩ := h ghlId hid
  rw [← messageColumns_ghlMessageId hcolumns] at hmem
  rw [insertMessage, returns_bind]
  exact ⟨columns, hcolumns, Messages.add_of_absent haccepts hmem⟩

theorem upsertMessage_eq (env : SyncEnv) (userId : Int) (now : Instant) (table : Messages)
    (synced : Nat) (msg : Message) :
    upsertMessage env userId now table synced msg =
      match messageId env msg with
      | none => .ok (table, synced)
      | some ghlId =>
        if ghlId ∈ table.rows.map (·.ghlMessageId) then .ok (table, synced)
        else insertMessage env userId now table ghlId msg >>= fun table' =>
          .ok (table', synced + 1) := by
  rw [upsertMessage]
  cases messageId env msg with
  | none => rfl
  | some ghlId =>
    simp only [Messages.scalarOneOrNone_ids, ← Messages.idTruthy_find?]
    rfl

theorem upsertMessage_fills
    (h : upsertMessage env userId now table synced msg = .ok (table', synced')) :
    ∃ n, synced' = synced + n ∧ table.Fills table'.toTable (messageId env msg).toList n := by
  rw [upsertMessage_eq] at h
  cases hid : messageId env msg with
  | none =>
    rw [hid] at h
    cases h
    exact ⟨0, rfl, Table.Fills.nil _⟩
  | some ghlId =>
    simp only [hid] at h
    split_ifs at h with hmem
    · cases h
      exact ⟨0, rfl, Table.Fills.present hmem⟩
    · rw [bind_eq_ok] at h
      obtain ⟨table₁, hinsert, h⟩ := h
      cases h
      exact ⟨1, rfl, insertMessage_fills hinsert⟩

theorem upsertMessage_returns (h : Storable env userId now msg) (table : Messages) (synced : Nat) :
    Returns (upsertMessage env userId now table synced msg) := by
  rw [upsertMessage_eq]
  cases hid : messageId env msg with
  | none => exact returns_ok _
  | some ghlId =>
    simp only
    split_ifs with hmem
    · exact returns_ok _
    · obtain ⟨table', hinsert⟩ := insertMessage_returns h hid hmem
      rw [returns_bind]
      exact ⟨table', hinsert, returns_ok _⟩

def messageIds (env : SyncEnv) (messages : List Message) : List String :=
  messages.flatMap fun msg => (messageId env msg).toList

theorem upsertLoop_fills
    (h : upsertLoop env userId now table synced messages = .ok (table', synced')) :
    ∃ n, synced' = synced + n ∧ table.Fills table'.toTable (messageIds env messages) n := by
  induction messages generalizing table synced with
  | nil =>
    cases h
    exact ⟨0, rfl, Table.Fills.nil _⟩
  | cons msg messages ih =>
    rw [upsertLoop, bind_eq_ok] at h
    obtain ⟨⟨table₁, synced₁⟩, hmessage, h⟩ := h
    obtain ⟨n, rfl, hfills⟩ := upsertMessage_fills hmessage
    obtain ⟨m, rfl, hfills'⟩ := ih h
    exact ⟨n + m, Nat.add_assoc synced n m, hfills.trans hfills'⟩

theorem upsertLoop_returns (h : ∀ msg ∈ messages, Storable env userId now msg) (table : Messages)
    (synced : Nat) : Returns (upsertLoop env userId now table synced messages) := by
  induction messages generalizing table synced with
  | nil => exact returns_ok _
  | cons msg messages ih =>
    rw [List.forall_mem_cons] at h
    obtain ⟨⟨table₁, synced₁⟩, hmessage⟩ := upsertMessage_returns h.1 table synced
    rw [upsertLoop, returns_bind]
    exact ⟨(table₁, synced₁), hmessage, ih h.2 table₁ synced₁⟩

/-- A batch whose identities all have rows needs no value of its messages. -/
theorem upsertLoop_known (h : ∀ k ∈ messageIds env messages, k ∈ table.rows.map (·.ghlMessageId))
    (synced : Nat) : upsertLoop env userId now table synced messages = .ok (table, synced) := by
  induction messages with
  | nil => rfl
  | cons msg messages ih =>
    rw [messageIds, List.flatMap_cons] at h
    simp only [List.mem_append] at h
    have hmessage : upsertMessage env userId now table synced msg = .ok (table, synced) := by
      rw [upsertMessage_eq]
      cases hid : messageId env msg with
      | none => rfl
      | some ghlId =>
        have hmem := h ghlId (.inl (by rw [hid]; exact .head _))
        exact if_pos hmem
    rw [upsertLoop, hmessage]
    exact ih fun k hk => h k (.inr hk)

/-- One call: the student, the clock and the fetched messages. -/
structure Call where
  userId : Int
  now : Instant
  messages : List Message

def Call.run (env : SyncEnv) (call : Call) (table : Messages) : Except SyncError Nat × Messages :=
  upsertMessages env call.userId call.now call.messages table

def upsertStep (env : SyncEnv) (table : Messages) (call : Call) : Messages := (call.run env table).2

/-- What a call that counts `n` messages leaves. -/
structure Upserted (env : SyncEnv) (call : Call) (table table' : Messages) (n : Nat) : Prop where
  kept : table.rows <+: table'.rows
  count : table'.rows.length = table.rows.length + n
  one : ∀ k ∈ messageIds env call.messages,
    ∃ r, table'.rows.filter (·.ghlMessageId = k) = [r]
  only : ∀ r ∈ table'.rows, r ∈ table.rows ∨ r.ghlMessageId ∈ messageIds env call.messages
  again : ∀ call' : Call, call'.messages = call.messages → call'.run env table' = (.ok 0, table')

theorem run_cases (env : SyncEnv) (call : Call) (table : Messages) :
    (∃ e, upsertLoop env call.userId call.now table 0 call.messages = .error e ∧
      call.run env table = (.error e, table)) ∨
    ∃ n table', table.Fills table'.toTable (messageIds env call.messages) n ∧
      call.run env table = (.ok n, table') := by
  rw [Call.run, upsertMessages]
  cases hloop : upsertLoop env call.userId call.now table 0 call.messages with
  | error e => exact .inl ⟨e, rfl, rfl⟩
  | ok result =>
    obtain ⟨pending, synced⟩ := result
    obtain ⟨n, hn, hfills⟩ := upsertLoop_fills hloop
    rw [Nat.zero_add] at hn
    subst hn
    refine .inr ⟨synced, pending, hfills, ?_⟩
    by_cases hzero : synced = 0
    · obtain ⟨rows, happend, hlength, -⟩ := hfills.added
      rw [hzero, List.length_eq_zero_iff] at hlength
      rw [hlength, List.append_nil] at happend
      simp only [Messages.eq_of_rows happend, ite_self]
    · simp only [ne_eq, hzero, not_false_eq_true, if_true]

theorem run_known {call : Call} {table : Messages}
    (h : ∀ k ∈ messageIds env call.messages, k ∈ table.rows.map (·.ghlMessageId)) :
    call.run env table = (.ok 0, table) := by
  rw [Call.run, upsertMessages, upsertLoop_known h 0]
  rfl

theorem upserted_of_run {call : Call} (h : call.run env table = (.ok n, table')) :
    Upserted env call table table' n := by
  rcases run_cases env call table with ⟨e, -, herror⟩ | ⟨m, table₁, hfills, hok⟩
  · rw [herror] at h
    cases h
  · rw [hok] at h
    cases h
    obtain ⟨rows, happend, -, hkeys⟩ := hfills.added
    refine ⟨⟨rows, happend.symm⟩, hfills.length, fun k hk => hfills.exactly_one hk, ?_, ?_⟩
    · intro r hr
      rw [happend, List.mem_append] at hr
      exact hr.imp_right (hkeys r)
    · intro call' hmessages
      rw [← hmessages] at hfills
      exact run_known hfills.covers

theorem rows_kept (env : SyncEnv) (table : Messages) (calls : List Call) :
    table.rows <+: (Runs.final (upsertStep env) table calls).rows := by
  induction calls generalizing table with
  | nil => exact List.prefix_rfl
  | cons call calls ih =>
    apply List.IsPrefix.trans ?_ (ih (upsertStep env table call))
    rw [upsertStep]
    rcases run_cases env call table with ⟨e, -, herror⟩ | ⟨n, table', hfills, hok⟩
    · rewrite [herror]
      exact List.prefix_rfl
    · rw [hok]
      exact (upserted_of_run hok).kept

/-- The identity was in a batch whose call returned. -/
def Seen (env : SyncEnv) (table : Messages) (calls : List Call) (k : String) : Prop :=
  ∃ before call after, calls = before ++ call :: after ∧ k ∈ messageIds env call.messages ∧
    Returns (call.run env (Runs.final (upsertStep env) table before)).1

theorem one_row_of_seen (h : Seen env table calls k) :
    ∃ r, (Runs.final (upsertStep env) table calls).rows.filter (·.ghlMessageId = k) = [r] := by
  obtain ⟨before, call, after, rfl, hk, n, hreturns⟩ := h
  have hrun : call.run env (Runs.final (upsertStep env) table before) =
      (.ok n, upsertStep env (Runs.final (upsertStep env) table before) call) :=
    Prod.ext hreturns rfl
  obtain ⟨r, hone⟩ := (upserted_of_run hrun).one k hk
  have hr := List.mem_filter.1 (hone ▸ List.mem_singleton_self r)
  rw [Runs.final_append, Runs.final_cons]
  have hkept := (rows_kept env (upsertStep env (Runs.final (upsertStep env) table before) call)
    after).subset hr.1
  have hfind := Table.find?_of_mem hkept
  rw [of_decide_eq_true hr.2] at hfind
  exact ⟨r, Table.filter_of_find? hfind⟩

/-- After every run of calls each identity seen has its one row; a further call counts the rows
it adds and adds none when it is repeated, or it raises and leaves the table as it is. -/
theorem upsertMessages_idempotent (env : SyncEnv) (table₀ : Messages) (calls : List Call)
    (call : Call) :
    let table := Runs.final (upsertStep env) table₀ calls
    (table.rows.map (·.ghlMessageId)).Nodup ∧
      (∀ k, Seen env table₀ calls k → ∃ r, table.rows.filter (·.ghlMessageId = k) = [r]) ∧
      (∀ n, Runs.final (upsertStep env) table (List.replicate (n + 1) call) =
        upsertStep env table call) ∧
      match call.run env table with
      | (.ok n, table') => Upserted env call table table' n
      | (.error _, table') =>
        table' = table ∧ ∃ msg ∈ call.messages, ¬ Storable env call.userId call.now msg := by
  intro table
  refine ⟨table.unique, fun k hk => one_row_of_seen hk, ?_, ?_⟩
  · intro n
    rw [List.replicate_succ, Runs.final_cons]
    apply Runs.final_replicate
    rcases run_cases env call table with ⟨e, -, herror⟩ | ⟨m, table', hfills, hok⟩
    · simp only [upsertStep, herror]
    · have hagain := (upserted_of_run hok).again call rfl
      simp only [upsertStep, hok, hagain]
  · rcases run_cases env call table with ⟨e, hloop, herror⟩ | ⟨m, table', hfills, hok⟩
    · rw [herror]
      refine ⟨rfl, ?_⟩
      by_contra hstorable
      have hall : ∀ msg ∈ call.messages, Storable env call.userId call.now msg :=
        fun msg hmsg => by_contra fun hnot => hstorable ⟨msg, hmsg, hnot⟩
      obtain ⟨result, hreturns⟩ := upsertLoop_returns hall table 0
      rw [hreturns] at hloop
      cases hloop
    · rw [hok]
      exact upserted_of_run hok

end GhlSync
end StudentSuccess
