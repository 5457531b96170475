import AeroRisk.Library.ReadModifyWrite
import AeroRisk.Redis

/-!
# Records of accounts in Redis

The engine keeps a JSON record for every account and for every breaker.  Both
managers get the record of an account, which is a new one when there is none,
and set it for a day under the key of the account which it names.  A call
sends `Get` and `Set` as messages, so calls may overlap.
-/

namespace AeroRisk.Cache

open AeroRisk.Library
open AeroRisk.Library.Messages
open AeroRisk.Library.ReadModifyWrite

/-- A message to the server; expirations are milliseconds. -/
inductive RedisRequest where
  | get (key : String)
  | set (key : String) (value : RedisValue) (expiration : Nat)
deriving DecidableEq, Repr

/-- An error or what the server returns, which may be nothing. -/
abbrev RedisResponse := Except String (Option RedisValue)

/-- A program of messages to the server. -/
abbrev RedisProgram (Value : Type) :=
  Program RedisRequest RedisResponse Value

/-- The server handles a message at some time, without an error. -/
def serve (now : Nat) (store : RedisStore) :
    RedisRequest → RedisResponse × RedisStore
  | .get key => (.ok (ExpiringStore.get store now key), store)
  | .set key value expiration =>
      (.ok none, ExpiringStore.set store key value (some (now + expiration)))

/-- The error of a response. -/
def responseError : RedisResponse → Option String
  | .ok _ => none
  | .error error => some error

namespace RedisClient

/-- `RedisClient.Get`. -/
def get (key : String) : RedisProgram RedisResponse :=
  .send (.get key) .done

/-- `RedisClient.Set`. -/
def set (key : String) (value : RedisValue) (expiration : Nat) :
    RedisProgram (Option String) :=
  .send (.set key value expiration) fun response =>
    .done (responseError response)

end RedisClient

/-- `json.Marshal` and `json.Unmarshal` for one type of records. -/
structure RecordCodec (Record : Type) where
  marshal : Record → Except String RedisValue
  unmarshal : RedisValue → Except String Record
  roundTrip :
    ∀ record data, marshal record = .ok data → unmarshal data = .ok record

namespace RecordCodec

variable {Record : Type}

/-- The row of a text, when no two rows have the same one. -/
theorem find?_text {rows : List (Record × String)}
    (distinct : (rows.map Prod.snd).Nodup) {row : Record × String}
    (member : row ∈ rows) :
    (rows.find? fun other => RedisValue.text other.2 = .text row.2) =
      some row := by
  induction rows with
  | nil => cases member
  | cons first rest inductionHypothesis =>
      rw [List.map_cons, List.nodup_cons] at distinct
      rcases List.mem_cons.mp member with rfl | later
      · exact List.find?_cons_of_pos (by simp)
      · rw [List.find?_cons_of_neg]
        · exact inductionHypothesis distinct.2 later
        · have different : first.2 ≠ row.2 := by
            intro same
            exact distinct.1 (same ▸ List.mem_map_of_mem later)
          simpa using different

/-- The records of some rows, each with its own text. -/
def ofRows [DecidableEq Record] (rows : List (Record × String))
    (distinct : (rows.map Prod.snd).Nodup) : RecordCodec Record where
  marshal := fun record =>
    match rows.find? fun row => row.1 = record with
    | some row => .ok (.text row.2)
    | none => .error "json: unsupported value"
  unmarshal := fun data =>
    match rows.find? fun row => RedisValue.text row.2 = data with
    | some row => .ok row.1
    | none => .error "invalid character"
  roundTrip := by
    intro record data encoded
    cases found : rows.find? fun row => row.1 = record with
    | none =>
        rw [found] at encoded
        cases encoded
    | some row =>
        rw [found] at encoded
        cases encoded
        rw [find?_text distinct (List.mem_of_find?_eq_some found)]
        have isRecord : row.1 = record := by
          simpa using List.find?_some found
        exact congrArg Except.ok isRecord

end RecordCodec

/-- `24 * time.Hour`. -/
def day : Nat :=
  24 * 60 * 60 * 1000

/-- What a manager of records knows about them. -/
structure RecordManager (Record : Type) where
  codec : RecordCodec Record
  /-- The key of an account. -/
  key : String → String
  /-- The account which a record names. -/
  accountID : Record → String
  /-- The new record of an account. -/
  newRecord : Nat → String → Record
  accountID_newRecord :
    ∀ now account, accountID (newRecord now account) = account

namespace RecordManager

variable {Record : Type} (m : RecordManager Record)

/-- The record in a response to `Get`. -/
def decode (now : Nat) (accountID : String) :
    RedisResponse → Except String Record
  | .error error => .error error
  | .ok none => .ok (m.newRecord now accountID)
  | .ok (some data) => m.codec.unmarshal data

/-- `Get` of a manager. -/
def get (now : Nat) (accountID : String) :
    RedisProgram (Except String Record) :=
  (RedisClient.get (m.key accountID)).bind fun response =>
    .done (m.decode now accountID response)

/--
`Set` of a manager.  It changes the caller's record only after encoding it,
and no caller goes on with the record.
-/
def set (record : Record) (expiration : Nat) : RedisProgram (Option String) :=
  match m.codec.marshal record with
  | .error error => .done (some error)
  | .ok data => RedisClient.set (m.key (m.accountID record)) data expiration

/-- A call which gets the record of an account, changes it and sets it. -/
def modify (now : Nat) (accountID : String) (update : Record → Record) :
    RedisProgram (Option String) :=
  (m.get now accountID).bind fun result =>
    match result with
    | .error error => .done (some error)
    | .ok record => m.set (update record) day

/-- The record which was last set for an account, which may be none. -/
def stored (store : RedisStore) (accountID : String) : Record :=
  match store.lookup (m.key accountID) with
  | none => m.newRecord 0 accountID
  | some entry =>
      match m.codec.unmarshal entry.value with
      | .error _ => m.newRecord 0 accountID
      | .ok record => record

/-- What is set for an account is a record of that account. -/
def Owned (accountID : String) (store : RedisStore) : Prop :=
  ∀ entry record,
    store.lookup (m.key accountID) = some entry →
      m.codec.unmarshal entry.value = .ok record →
        m.accountID record = accountID

variable {m}

@[simp]
theorem stored_set {store : RedisStore} {accountID : String}
    {record : Record} {data : RedisValue}
    (encoded : m.codec.marshal record = .ok data) (expiresAt : Option Nat) :
    m.stored (ExpiringStore.set store (m.key accountID) data expiresAt)
        accountID = record := by
  rw [stored, ExpiringStore.set, AList.lookup_insert]
  dsimp only
  rw [m.codec.roundTrip record data encoded]

/-- A call executed alone. -/
theorem exec_modify (clock now : Nat) (accountID : String)
    (update : Record → Record) (store : RedisStore) :
    (m.modify clock accountID update).exec (serve now) store =
      match
        m.decode clock accountID
          (.ok (ExpiringStore.get store now (m.key accountID)))
      with
      | .error error => (some error, store)
      | .ok record =>
          match m.codec.marshal (update record) with
          | .error error => (some error, store)
          | .ok data =>
              (none,
                ExpiringStore.set store (m.key (m.accountID (update record)))
                  data (some (now + day))) := by
  rw [modify, get, RedisClient.get, Program.exec_bind, Program.exec_bind,
    Program.exec_send, serve]
  simp only [Program.exec_done]
  cases m.decode clock accountID
      (.ok (ExpiringStore.get store now (m.key accountID))) with
  | error error => rfl
  | ok record =>
      dsimp only
      rw [set]
      cases m.codec.marshal (update record) <;> rfl

/-! ## Concurrent calls on one account -/

section Concurrent

variable {Client : Type}

variable (m) in
/-- Clients which each make one call that modifies the record. -/
def protocol (clock : Client → Nat) (accountID : String)
    (update : Client → Record → Record) :
    Protocol Client RedisRequest RedisResponse Record String where
  get := .get (m.key accountID)
  read := fun client response => m.decode (clock client) accountID response
  update := update
  write := fun record =>
    (m.codec.marshal record).map fun data =>
      .set (m.key (m.accountID record)) data day
  confirm := responseError

variable
    {clock : Client → Nat} {accountID : String}
    {update : Client → Record → Record}

theorem program_eq_modify (client : Client) :
    (m.protocol clock accountID update).program client =
      m.modify (clock client) accountID (update client) := by
  rw [Protocol.program, modify, get, RedisClient.get, Program.bind,
    Program.bind]
  congr 1
  funext response
  rw [Protocol.reading, Program.bind, Program.bind]
  dsimp only [protocol]
  cases m.decode (clock client) accountID response with
  | error error => rfl
  | ok record =>
      dsimp only
      rw [set]
      cases m.codec.marshal (update client record) <;> rfl

theorem write_eq_ok {record : Record} {request : RedisRequest}
    (writes :
      (m.protocol clock accountID update).write record = .ok request) :
    ∃ data,
      m.codec.marshal record = .ok data ∧
        request = .set (m.key (m.accountID record)) data day := by
  dsimp only [protocol] at writes
  cases encoded : m.codec.marshal record with
  | error error =>
      rw [encoded] at writes
      cases writes
  | ok data =>
      rw [encoded] at writes
      cases writes
      exact ⟨data, rfl, rfl⟩

/-- A record which is read belongs to the account. -/
theorem Owned.decode {store : RedisStore} (owned : m.Owned accountID store)
    (clock now : Nat) {record : Record}
    (reads :
      m.decode clock accountID
        (.ok (ExpiringStore.get store now (m.key accountID))) = .ok record) :
    m.accountID record = accountID := by
  cases found : ExpiringStore.get store now (m.key accountID) with
  | none =>
      rw [found, RecordManager.decode] at reads
      cases reads
      exact m.accountID_newRecord clock accountID
  | some data =>
      rw [found, RecordManager.decode] at reads
      obtain ⟨entry, stored, rfl⟩ := ExpiringStore.lookup_of_get found
      exact owned entry record stored reads

theorem Owned.set {store : RedisStore} {record : Record} {data : RedisValue}
    (isOwn : m.accountID record = accountID)
    (encoded : m.codec.marshal record = .ok data) (expiresAt : Option Nat) :
    m.Owned accountID
      (ExpiringStore.set store (m.key accountID) data expiresAt) := by
  intro entry other stored decoded
  rw [ExpiringStore.set, AList.lookup_insert, Option.some.injEq] at stored
  rw [← stored, m.codec.roundTrip record data encoded] at decoded
  cases decoded
  exact isOwn

/-- What the clients of a manager rely on. -/
theorem kept
    (updateOwned :
      ∀ client record,
        m.accountID (update client record) = m.accountID record)
    {View : Type} (recordView : Record → View) :
    (m.protocol clock accountID update).Kept serve
      (fun store => recordView (m.stored store accountID)) recordView
      (m.Owned accountID) (fun record => m.accountID record = accountID) where
  store_get := fun _ _ => rfl
  own_read := by
    intro now store client record owned reads
    exact owned.decode (clock client) now reads
  own_update := fun client record isOwn =>
    (updateOwned client record).trans isOwn
  good_write := by
    intro now store record request owned isOwn writes
    obtain ⟨data, encoded, rfl⟩ := write_eq_ok writes
    rw [isOwn]
    exact Owned.set isOwn encoded _
  view_write := by
    intro now store record request isOwn writes
    obtain ⟨data, encoded, rfl⟩ := write_eq_ok writes
    rw [isOwn, serve]
    dsimp only
    rw [stored_set encoded]
  confirm_write := by
    intro now store record request writes
    obtain ⟨data, encoded, rfl⟩ := write_eq_ok writes
    rfl

end Concurrent

end RecordManager

end AeroRisk.Cache
