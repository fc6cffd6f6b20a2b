import StudentSuccess.FirstWriters
import StudentSuccess.GhlMessages
import StudentSuccess.Platform
import StudentSuccess.PyNumber

namespace StudentSuccess
namespace GhlSync
set_option autoImplicit true
open Py FirstWriters

/-- `re.sub(r"\D", "", raw)`. -/
def digitsOf (raw : String) : List Char := raw.toList.filter fun c => (digitValue? c).isSome

def normalizePhone (raw : String) : String :=
  let digits := digitsOf raw
  "+" ++ String.ofList (if digits.length = 10 then '1' :: digits else digits)

/-- A normalized number is its own normal form, so each number is looked up under one spelling. -/
theorem normalizePhone_normalizePhone (raw : String) :
    normalizePhone (normalizePhone raw) = normalizePhone raw := by
  have hdigits : ∀ cs : List Char, (∀ c ∈ cs, (digitValue? c).isSome = true) →
      digitsOf ("+" ++ String.ofList cs) = cs := by
    intro cs hcs
    have htext : ("+" ++ String.ofList cs).toList = '+' :: cs := by simp
    rw [digitsOf, htext, List.filter_cons_of_neg (by decide)]
    exact List.filter_eq_self.2 hcs
  have hraw : ∀ c ∈ digitsOf raw, (digitValue? c).isSome = true :=
    fun c hc => (List.mem_filter.1 hc).2
  by_cases hten : (digitsOf raw).length = 10
  · have hlong : ('1' :: digitsOf raw).length ≠ 10 := by simp [hten]
    simp only [normalizePhone, if_pos hten]
    rw [hdigits _ (List.forall_mem_cons.2 ⟨by decide, hraw⟩), if_neg hlong]
  · simp only [normalizePhone, if_neg hten]
    rw [hdigits _ hraw, if_neg hten]

/-- What `_ghl_get` returns or lets through; a reply without a JSON body raises. -/
inductive Reply
  | data (body : Value)
  | failed (err : String)
  | undecodable

/-- The three endpoints, as they reply while one student is synced. -/
structure Api where
  contacts : String → Reply
  conversations : Value → Reply
  messages : Value → Reply

inductive Raised
  | sync (e : SyncError)
  | attributeError
  | keyError
  | typeError
  | decodeError
  | dataError
  deriving DecidableEq

/-- `(data or {}).get(key, [])`. -/
def listed (key : String) (data : Value) : Except Raised Value :=
  match data with
  | .dict entries => .ok ((get? key entries).getD (.list []))
  | v => if v.truthy then .error .attributeError else .ok (.list [])

/-- `xs[0].get("id")`. -/
def firstId : Value → Except Raised Value
  | .list (.dict entries :: _) => .ok ((get? "id" entries).getD .null)
  | .list _ => .error .attributeError
  | .str _ => .error .attributeError
  | .dict _ => .error .keyError
  | _ => .error .typeError

/-- `_lookup_contact_by_phone` and `_get_conversation_id`: the id and the error. -/
def lookup (key : String) : Reply → Except Raised (Value × Option String)
  | .undecodable => .error .decodeError
  | .failed err => .ok (.null, if err = "" then none else some err)
  | .data body => do
    let xs ← listed key body
    if xs.truthy then
      let id ← firstId xs
      .ok (id, none)
    else .ok (.null, none)

def fetchMessages : Reply → Except Raised (Value × Option String)
  | .undecodable => .error .decodeError
  | .failed err => .ok (.list [], if err = "" then none else some err)
  | .data body => do
    let messages ← listed "messages" body
    .ok (messages, none)

structure SyncResult where
  status : String
  synced : Option Nat := none
  totalGhl : Option Nat := none
  phone : Option String := none
  phoneE164 : Option String := none
  contactId : Option Value := none
  conversationId : Option Value := none
  alreadyStored : Option Int := none
  error : Option String := none
  step : Option String := none
  message : Option String := none

def failedAt (step err : String) : SyncResult :=
  { status := "error", error := some err, step := some step, synced := some 0, totalGhl := some 0 }

structure Located where
  phoneE164 : String
  contactId : Value
  conversationId : Value
  messages : Value

/-- The settings, the mirror and the outside world while a request is served. -/
structure World where
  /-- `settings.GHL_API_KEY`. -/
  apiKey : String
  mirror : Table StudentTriggerData (·.userId)
  api : Int → Api
  now : Int → Instant

/-- The steps of `sync_by_phone` up to the messages; it returns where one of them finds nothing. -/
def locate (world : World) (userId : Int) (phone : String) :
    Except Raised (Except SyncResult Located) :=
  if world.apiKey = "" then
    .ok (.error { status := "not_configured", synced := some 0, totalGhl := some 0,
                  phone := some phone })
  else if phone = "" ∨ strip phone = "" then
    .ok (.error { status := "no_phone", synced := some 0, totalGhl := some 0 })
  else
    let phoneE164 := normalizePhone (strip phone)
    match lookup "contacts" ((world.api userId).contacts phoneE164) with
    | .error e => .error e
    | .ok (_, some err) => .ok (.error (failedAt "contact_lookup" err))
    | .ok (contactId, none) =>
      if contactId.truthy then
        match lookup "conversations" ((world.api userId).conversations contactId) with
        | .error e => .error e
        | .ok (_, some err) => .ok (.error (failedAt "conversation_search" err))
        | .ok (convId, none) =>
          if convId.truthy then
            match fetchMessages ((world.api userId).messages convId) with
            | .error e => .error e
            | .ok (_, some err) => .ok (.error (failedAt "messages_fetch" err))
            | .ok (messages, none) => .ok (.ok ⟨phoneE164, contactId, convId, messages⟩)
          else
            .ok (.error { status := "no_conversation", contactId := some contactId,
                          synced := some 0, totalGhl := some 0 })
      else
        .ok (.error { status := "not_found"
                      message := some ("No GHL contact for phone " ++ phoneE164)
                      synced := some 0, totalGhl := some 0 })

/-- What `for msg in messages` goes through. -/
def iterated : Value → Except Raised (List Value)
  | .list xs => .ok xs
  | .dict entries => .ok (entries.map fun entry => .str entry.1)
  | .str s => .ok (s.toList.map fun c => .str (String.singleton c))
  | _ => .error .typeError

/-- The messages before the first item without a `get`. -/
def leadingMessages : List Value → List Message
  | .dict entries :: items => entries :: leadingMessages items
  | _ => []

/-- `_upsert_messages` of the items; one without a `get` raises when the loop comes to it. -/
def upsertItems (env : SyncEnv) (userId : Int) (now : Instant) (items : List Value)
    (table : Messages) : Except Raised Nat × Messages :=
  let messages := leadingMessages items
  if messages.length = items.length then
    match upsertMessages env userId now messages table with
    | (.error e, table') => (.error (.sync e), table')
    | (.ok synced, table') => (.ok synced, table')
  else
    match upsertLoop env userId now table 0 messages with
    | .error e => (.error (.sync e), table)
    | .ok _ => (.error .attributeError, table)

def syncByPhone (env : SyncEnv) (world : World) (userId : Int) (phone : String)
    (table : Messages) : Except Raised SyncResult × Messages :=
  match locate world userId phone with
  | .error e => (.error e, table)
  | .ok (.error result) => (.ok result, table)
  | .ok (.ok located) =>
    match iterated located.messages with
    | .error e => (.error e, table)
    | .ok items =>
      match upsertItems env userId (world.now userId) items table with
      | (.error e, table') => (.error e, table')
      | (.ok synced, table') =>
        (.ok { status := "success"
               phoneE164 := some located.phoneE164
               contactId := some located.contactId
               conversationId := some located.conversationId
               synced := some synced
               totalGhl := some items.length
               alreadyStored := some (items.length - synced) }, table')

def syncStudentByUserId (env : SyncEnv) (world : World) (userId : Int) (table : Messages) :
    Except Raised SyncResult × Messages :=
  match world.mirror.find? userId with
  | none =>
    (.ok { status := "error"
           error := some ("Student " ++ toString userId ++
             " not in local mirror. Run SQL Server sync first.") }, table)
  | some student =>
    if truthyText student.phoneNumber then
      syncByPhone env world userId (student.phoneNumber.getD "") table
    else
      (.ok { status := "no_phone"
             error := some ("Student " ++ toString userId ++
               " has no PhoneNumber in the mirror.") }, table)

structure BatchResult where
  status : String
  totalSynced : Nat
  studentsProcessed : Nat
  results : List (Int × SyncResult)

def syncEach (env : SyncEnv) (world : World) :
    Nat → List (Int × SyncResult) → List StudentTriggerData → Messages →
      Except Raised (Nat × List (Int × SyncResult)) × Messages
  | total, results, [], table => (.ok (total, results), table)
  | total, results, s :: students, table =>
    match syncByPhone env world s.userId (s.phoneNumber.getD "") table with
    | (.error e, table') => (.error e, table')
    | (.ok r, table') =>
      syncEach env world (total + r.synced.getD 0) (results ++ [(s.userId, r)]) students table'

/-- `SELECT … WHERE "PhoneNumber" IS NOT NULL LIMIT n`. -/
def withPhone (world : World) (limit : Int) : List StudentTriggerData :=
  (world.mirror.rows.filter (·.phoneNumber.isSome)).take limit.toNat

/-- `sync_all_students`; the database refuses a negative limit. -/
def syncAllStudents (env : SyncEnv) (world : World) (limit : Int) (table : Messages) :
    Except Raised BatchResult × Messages :=
  if world.apiKey = "" then (.ok ⟨"not_configured", 0, 0, []⟩, table)
  else if limit < 0 then (.error .dataError, table)
  else
    match syncEach env world 0 [] (withPhone world limit) table with
    | (.error e, table') => (.error e, table')
    | (.ok (total, results), table') =>
      (.ok ⟨"success", total, (withPhone world limit).length, results⟩, table')

structure SyncStatus where
  ghlConfigured : Bool
  totalMessagesStored : Nat
  latestSyncAt : Option Instant
  shadowMode : Bool

def getSyncStatus (apiKey : String) (isShadow : Bool) (table : Messages) : SyncStatus where
  ghlConfigured := apiKey ≠ ""
  totalMessagesStored := table.rows.length
  latestSyncAt := (table.rows.map (·.syncedAt)).max?
  shadowMode := isShadow

inductive Operation
  | student (userId : Int)
  | batch (limit : Int)

structure Request where
  world : World
  operation : Operation

/-- The messages that an answer counts, and the table after the request. -/
def respond (env : SyncEnv) (table : Messages) (request : Request) :
    Except Raised Nat × Messages :=
  match request.operation with
  | .student userId =>
    match syncStudentByUserId env request.world userId table with
    | (.error e, table') => (.error e, table')
    | (.ok r, table') => (.ok (r.synced.getD 0), table')
  | .batch limit =>
    match syncAllStudents env request.world limit table with
    | (.error e, table') => (.error e, table')
    | (.ok r, table') => (.ok r.totalSynced, table')

def serve (env : SyncEnv) (table : Messages) (request : Request) : Messages :=
  (respond env table request).2

/-- A message with an identity that a sync which returned has fetched. -/
structure Fetched where
  userId : Int
  now : Instant
  ghlId : String
  message : Message

def fetchedBy (env : SyncEnv) (userId : Int) (now : Instant) (messages : List Message) :
    List Fetched :=
  messages.filterMap fun msg => (messageId env msg).map fun ghlId => ⟨userId, now, ghlId, msg⟩

def fetchedByPhone (env : SyncEnv) (world : World) (userId : Int) (phone : String)
    (table : Messages) : List Fetched :=
  match locate world userId phone, (syncByPhone env world userId phone table).1 with
  | .ok (.ok located), .ok _ =>
    match iterated located.messages with
    | .ok items => fetchedBy env userId (world.now userId) (leadingMessages items)
    | .error _ => []
  | _, _ => []

/-- What the loop over the students fetches until a sync raises. -/
def fetchedEach (env : SyncEnv) (world : World) : List StudentTriggerData → Messages → List Fetched
  | [], _ => []
  | s :: students, table =>
    fetchedByPhone env world s.userId (s.phoneNumber.getD "") table ++
      match syncByPhone env world s.userId (s.phoneNumber.getD "") table with
      | (.error _, _) => []
      | (.ok _, table') => fetchedEach env world students table'

def fetched (env : SyncEnv) (table : Messages) (request : Request) : List Fetched :=
  let world := request.world
  match request.operation with
  | .student userId =>
    match world.mirror.find? userId with
    | some student =>
      if truthyText student.phoneNumber then
        fetchedByPhone env world userId (student.phoneNumber.getD "") table
      else []
    | none => []
  | .batch limit =>
    if world.apiKey = "" ∨ limit < 0 then []
    else fetchedEach env world (withPhone world limit) table

def fetchedRun (env : SyncEnv) : Messages → List Request → List Fetched
  | _, [] => []
  | table, request :: requests =>
    fetched env table request ++ fetchedRun env (serve env table request) requests

/-- The row holds what the message gives its columns. -/
def StoredAs (env : SyncEnv) (g : Fetched) (r : GHLMessage) : Prop :=
  messageColumns env g.userId g.now g.ghlId g.message = .ok r.toMessageColumns

/-- The rows are the messages fetched first under their identities, in the order of the fetches. -/
def Holds (env : SyncEnv) (trace : List Fetched) (table : Messages) : Prop :=
  List.Forall₂ (StoredAs env) (firsts (·.ghlId) trace) table.rows

theorem StoredAs.key (h : StoredAs env g r) : r.ghlMessageId = g.ghlId :=
  messageColumns_ghlMessageId h

theorem StoredAs.userId (h : StoredAs env g r) : r.userId = g.userId := by
  rw [StoredAs, messageColumns, bind_eq_ok] at h
  obtain ⟨body, -, h⟩ := h
  rw [← Except.ok.inj h]

theorem Holds.nothing (h : Holds env trace table) : Holds env (trace ++ []) table := by
  rw [List.append_nil]
  exact h

theorem Holds.keys (h : Holds env trace table) :
    (firsts (·.ghlId) trace).map (·.ghlId) = table.rows.map (·.ghlMessageId) := by
  rw [← List.forall₂_eq_eq_eq, List.forall₂_map_left_iff, List.forall₂_map_right_iff]
  exact h.imp fun _ _ hstored => hstored.key.symm

theorem Holds.known (h : Holds env trace table)
    (hmem : g.ghlId ∈ table.rows.map (·.ghlMessageId)) : Holds env (trace ++ [g]) table := by
  rw [← h.keys] at hmem
  rw [Holds, firsts_append, offer_known hmem]
  exact h

theorem Messages.add_rows {table : Messages} (h : table.add env columns = .ok table') :
    table'.rows = table.rows ++ [⟨columns, table.freshId⟩] := by
  rw [Messages.add] at h
  split_ifs at h
  cases h
  rfl

theorem Holds.insert (h : Holds env trace table)
    (hmem : g.ghlId ∉ table.rows.map (·.ghlMessageId))
    (hinsert : insertMessage env g.userId g.now table g.ghlId g.message = .ok table') :
    Holds env (trace ++ [g]) table' := by
  rw [insertMessage, bind_eq_ok] at hinsert
  obtain ⟨columns, hcolumns, hadd⟩ := hinsert
  rw [← h.keys] at hmem
  rw [Holds, firsts_append, offer_new hmem, Messages.add_rows hadd]
  exact List.rel_append h (.cons hcolumns .nil)

theorem upsertMessage_holds (h : Holds env trace table)
    (hok : upsertMessage env userId now table synced msg = .ok (table', synced')) :
    Holds env (trace ++ fetchedBy env userId now [msg]) table' := by
  rw [upsertMessage_eq] at hok
  cases hid : messageId env msg with
  | none =>
    rw [hid] at hok
    cases hok
    have hnothing : fetchedBy env userId now [msg] = [] := by
      rw [fetchedBy, List.filterMap_cons_none (by rw [hid]; rfl), List.filterMap_nil]
    rw [hnothing, List.append_nil]
    exact h
  | some ghlId =>
    have hone : fetchedBy env userId now [msg] = [⟨userId, now, ghlId, msg⟩] := by
      rw [fetchedBy, List.filterMap_cons_some (by rw [hid]; rfl), List.filterMap_nil]
    rw [hone]
    simp only [hid] at hok
    split_ifs at hok with hmem
    · cases hok
      exact h.known hmem
    · rw [bind_eq_ok] at hok
      obtain ⟨table₁, hinsert, hok⟩ := hok
      cases hok
      exact h.insert hmem hinsert

theorem upsertLoop_holds (h : Holds env trace table)
    (hok : upsertLoop env userId now table synced messages = .ok (table', synced')) :
    Holds env (trace ++ fetchedBy env userId now messages) table' := by
  induction messages generalizing trace table synced with
  | nil =>
    cases hok
    rw [fetchedBy, List.filterMap_nil, List.append_nil]
    exact h
  | cons msg messages ih =>
    rw [upsertLoop, bind_eq_ok] at hok
    obtain ⟨⟨table₁, synced₁⟩, hmessage, hrest⟩ := hok
    have hall := ih (upsertMessage_holds h hmessage) hrest
    rwa [List.append_assoc, fetchedBy, fetchedBy, ← List.filterMap_append,
      List.singleton_append] at hall

/-- A batch that returns stores what it counts, one that raises leaves the table as it is. -/
theorem upsertMessages_cases (env : SyncEnv) (userId : Int) (now : Instant)
    (messages : List Message) (table : Messages) :
    (∃ e, upsertMessages env userId now messages table = (.error e, table)) ∨
      ∃ synced table', upsertMessages env userId now messages table = (.ok synced, table') ∧
        upsertLoop env userId now table 0 messages = .ok (table', synced) ∧
        table'.rows.length = table.rows.length + synced := by
  rw [upsertMessages]
  cases hloop : upsertLoop env userId now table 0 messages with
  | error e => exact .inl ⟨e, rfl⟩
  | ok result =>
    obtain ⟨pending, synced⟩ := result
    obtain ⟨n, hn, hfills⟩ := upsertLoop_fills hloop
    rw [Nat.zero_add] at hn
    subst hn
    refine .inr ⟨synced, pending, ?_, rfl, hfills.length⟩
    by_cases hzero : synced = 0
    · obtain ⟨rows, happend, hlength, -⟩ := hfills.added
      rw [hzero, List.length_eq_zero_iff] at hlength
      rw [hlength, List.append_nil] at happend
      simp only [Messages.eq_of_rows happend, ite_self]
    · simp only [ne_eq, hzero, not_false_eq_true, if_true]

theorem upsertItems_cases (env : SyncEnv) (userId : Int) (now : Instant) (items : List Value)
    (table : Messages) :
    (∃ e, upsertItems env userId now items table = (.error e, table)) ∨
      ∃ synced table', upsertItems env userId now items table = (.ok synced, table') ∧
        upsertLoop env userId now table 0 (leadingMessages items) = .ok (table', synced) ∧
        table'.rows.length = table.rows.length + synced := by
  rw [upsertItems]
  split_ifs with hall
  · rcases upsertMessages_cases env userId now (leadingMessages items) table with
      ⟨e, herror⟩ | ⟨synced, table', hok, hloop, hlength⟩
    · rw [herror]
      exact .inl ⟨.sync e, rfl⟩
    · rw [hok]
      exact .inr ⟨synced, table', rfl, hloop, hlength⟩
  · left
    cases upsertLoop env userId now table 0 (leadingMessages items) with
    | error e => exact ⟨.sync e, rfl⟩
    | ok _ => exact ⟨.attributeError, rfl⟩

theorem locate_synced (h : locate world userId phone = .ok (.error r)) : r.synced.getD 0 = 0 := by
  rw [locate] at h
  split_ifs at h with hkey hphone
  · cases h
    rfl
  · cases h
    rfl
  · dsimp only at h
    split at h
    · cases h
    · cases h
      rfl
    · split_ifs at h with hcontact
      · split at h
        · cases h
        · cases h
          rfl
        · split_ifs at h with hconversation
          · split at h
            · cases h
            · cases h
              rfl
            · cases h
          · cases h
            rfl
      · cases h
        rfl

/-- A sync that raises leaves the table as it is; one that returns has stored what it fetched and
counts what it has added. -/
theorem syncByPhone_cases (env : SyncEnv) (world : World) (userId : Int) (phone : String)
    (table : Messages) :
    (∃ e, syncByPhone env world userId phone table = (.error e, table) ∧
      fetchedByPhone env world userId phone table = []) ∨
    ∃ r table', syncByPhone env world userId phone table = (.ok r, table') ∧
      table'.rows.length = table.rows.length + r.synced.getD 0 ∧
      ∀ trace, Holds env trace table →
        Holds env (trace ++ fetchedByPhone env world userId phone table) table' := by
  rw [fetchedByPhone, syncByPhone]
  cases hlocate : locate world userId phone with
  | error e => exact .inl ⟨e, rfl, rfl⟩
  | ok found =>
    cases found with
    | error r =>
      exact .inr ⟨r, table, rfl, (locate_synced hlocate).symm ▸ rfl, fun trace h => h.nothing⟩
    | ok located =>
      dsimp only
      cases hitems : iterated located.messages with
      | error e => exact .inl ⟨e, rfl, rfl⟩
      | ok items =>
        dsimp only
        rcases upsertItems_cases env userId (world.now userId) items table with
          ⟨e, herror⟩ | ⟨synced, table', hok, hloop, hlength⟩
        · rw [herror]
          exact .inl ⟨e, rfl, rfl⟩
        · rw [hok]
          refine .inr ⟨_, table', rfl, hlength, fun trace h => ?_⟩
          dsimp only
          rw [hitems]
          exact upsertLoop_holds h hloop

theorem syncEach_cases (env : SyncEnv) (world : World) (students : List StudentTriggerData)
    (total : Nat) (results : List (Int × SyncResult)) (table : Messages) :
    (∀ trace, Holds env trace table → Holds env (trace ++ fetchedEach env world students table)
        (syncEach env world total results students table).2) ∧
      ∀ total' results', (syncEach env world total results students table).1 =
          .ok (total', results') →
        (syncEach env world total results students table).2.rows.length + total =
          table.rows.length + total' := by
  induction students generalizing total results table with
  | nil =>
    refine ⟨fun trace h => h.nothing, fun total' results' h => ?_⟩
    cases h
    rfl
  | cons s students ih =>
    rw [syncEach, fetchedEach]
    rcases syncByPhone_cases env world s.userId (s.phoneNumber.getD "") table with
      ⟨e, herror, hnothing⟩ | ⟨r, table', hok, hlength, hholds⟩
    · rw [herror, hnothing]
      exact ⟨fun trace h => h.nothing, fun total' results' h => nomatch h⟩
    · rw [hok]
      obtain ⟨hrest, hcount⟩ := ih (total + r.synced.getD 0) (results ++ [(s.userId, r)]) table'
      refine ⟨fun trace h => ?_, fun total' results' h => ?_⟩
      · rw [← List.append_assoc]
        exact hrest _ (hholds trace h)
      · have hall := hcount total' results' h
        dsimp only at hall ⊢
        omega

theorem respond_cases (env : SyncEnv) (table : Messages) (request : Request) :
    (∀ trace, Holds env trace table →
        Holds env (trace ++ fetched env table request) (serve env table request)) ∧
      ∀ n, (respond env table request).1 = .ok n →
        (serve env table request).rows.length = table.rows.length + n := by
  obtain ⟨world, operation⟩ := request
  cases operation with
  | student userId =>
    rw [serve, fetched, respond]
    dsimp only
    rw [syncStudentByUserId]
    cases world.mirror.find? userId with
    | none =>
      refine ⟨fun trace h => h.nothing, fun n h => ?_⟩
      cases h
      rfl
    | some student =>
      dsimp only
      split_ifs with hphone
      · rcases syncByPhone_cases env world userId (student.phoneNumber.getD "") table with
          ⟨e, herror, hnothing⟩ | ⟨r, table', hok, hlength, hholds⟩
        · rw [herror, hnothing]
          exact ⟨fun trace h => h.nothing, fun n h => nomatch h⟩
        · rw [hok]
          refine ⟨hholds, fun n h => ?_⟩
          cases h
          exact hlength
      · refine ⟨fun trace h => h.nothing, fun n h => ?_⟩
        cases h
        rfl
  | batch limit =>
    rw [serve, fetched, respond]
    dsimp only
    rw [syncAllStudents]
    by_cases hkey : world.apiKey = ""
    · rw [if_pos hkey, if_pos (.inl hkey)]
      refine ⟨fun trace h => h.nothing, fun n h => ?_⟩
      cases h
      rfl
    · by_cases hlimit : limit < 0
      · rw [if_neg hkey, if_pos hlimit, if_pos (.inr hlimit)]
        exact ⟨fun trace h => h.nothing, fun n h => nomatch h⟩
      · rw [if_neg hkey, if_neg hlimit, if_neg (not_or.2 ⟨hkey, hlimit⟩)]
        obtain ⟨hholds, hcount⟩ := syncEach_cases env world (withPhone world limit) 0 [] table
        cases heach : syncEach env world 0 [] (withPhone world limit) table with
        | mk result table' =>
          rw [heach] at hholds hcount
          cases result with
          | error e => exact ⟨hholds, fun n h => nomatch h⟩
          | ok counted =>
            obtain ⟨total, results⟩ := counted
            refine ⟨hholds, fun n h => ?_⟩
            cases h
            exact hcount total results rfl

theorem Holds.length (h : Holds env trace table) :
    (firsts (·.ghlId) trace).length = table.rows.length := List.Forall₂.length_eq h

theorem owner_of_stored (h : List.Forall₂ (StoredAs env) gs rs) (ghlId : String) :
    (rs.find? (·.ghlMessageId = ghlId)).map (·.userId) =
      (gs.find? (·.ghlId = ghlId)).map (·.userId) := by
  induction h with
  | nil => rfl
  | cons hstored _ ih =>
    rw [List.find?_cons, List.find?_cons, hstored.key]
    split
    · exact congrArg some hstored.userId
    · exact ih

/-- The row of an identity belongs to the student whose sync fetched it first. -/
theorem Holds.owner (h : Holds env trace table) (ghlId : String) :
    (table.find? ghlId).map (·.userId) = (trace.find? (·.ghlId = ghlId)).map (·.userId) := by
  rw [← find?_firsts]
  exact owner_of_stored h ghlId

/-- The messages that the answers of a run count. -/
def reported (env : SyncEnv) : Messages → List Request → Nat
  | _, [] => 0
  | table, request :: requests =>
    (match (respond env table request).1 with
      | .ok n => n
      | .error _ => 0) + reported env (serve env table request) requests

theorem run_holds (h : Holds env trace table) (requests : List Request) :
    Holds env (trace ++ fetchedRun env table requests) (Runs.final (serve env) table requests) := by
  induction requests generalizing trace table with
  | nil => exact h.nothing
  | cons request requests ih =>
    have hall := ih ((respond_cases env table request).1 trace h)
    rwa [List.append_assoc] at hall

theorem reported_le (h : Holds env trace table) (requests : List Request) :
    table.rows.length + reported env table requests ≤
      (Runs.final (serve env) table requests).rows.length := by
  induction requests generalizing trace table with
  | nil => exact le_rfl
  | cons request requests ih =>
    obtain ⟨hholds, hcount⟩ := respond_cases env table request
    have hrest := ih (hholds trace h)
    have hgrown : table.rows.length ≤ (serve env table request).rows.length := by
      rw [← h.length, ← (hholds trace h).length, firsts_append]
      exact (prefix_offer _ _).length_le
    rw [reported, Runs.final_cons]
    cases hanswer : (respond env table request).1 with
    | error e =>
      dsimp only
      omega
    | ok n =>
      have hone := hcount n hanswer
      dsimp only
      omega

theorem reported_eq (hreturns : Runs.EveryStep (serve env)
      (fun table request => Returns (respond env table request).1) table requests) :
    table.rows.length + reported env table requests =
      (Runs.final (serve env) table requests).rows.length := by
  induction requests generalizing table with
  | nil => rfl
  | cons request requests ih =>
    obtain ⟨⟨n, hanswer⟩, hrest⟩ := hreturns
    have hone := (respond_cases env table request).2 n hanswer
    have hall := ih hrest
    rw [reported, Runs.final_cons, hanswer]
    dsimp only
    omega

def noMessages : Messages := { Table.empty with id_pos := fun _ hr => nomatch hr }

theorem holds_empty (env : SyncEnv) : Holds env [] noMessages := .nil

/-- After every run of the requests, whatever the provider replies in it, the table holds of each
identity the message that was fetched first under it, with the columns and the student of that
fetch, in the order of these fetches and nothing else; the answers count no more messages than are
stored, and exactly these if no request raises. -/
theorem first_fetched_message_stored (env : SyncEnv) (requests : List Request) :
    let table := Runs.final (serve env) noMessages requests
    let trace := fetchedRun env noMessages requests
    List.Forall₂ (StoredAs env) (firsts (·.ghlId) trace) table.rows ∧
      (∀ ghlId, (table.find? ghlId).map (·.userId) =
        (trace.find? (·.ghlId = ghlId)).map (·.userId)) ∧
      reported env noMessages requests ≤ table.rows.length ∧
      (Runs.EveryStep (serve env) (fun table request => Returns (respond env table request).1)
          noMessages requests →
        reported env noMessages requests = table.rows.length) := by
  intro table trace
  have hholds : Holds env trace table := run_holds (holds_empty env) requests
  refine ⟨hholds, hholds.owner, ?_, fun hreturns => ?_⟩
  · have hle := reported_le (holds_empty env) requests
    rwa [show noMessages.rows.length = 0 from rfl, Nat.zero_add] at hle
  · have heq := reported_eq hreturns
    rwa [show noMessages.rows.length = 0 from rfl, Nat.zero_add] at heq

end GhlSync
end StudentSuccess
