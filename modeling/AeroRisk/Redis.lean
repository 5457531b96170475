import AeroRisk.Library.Commands
import AeroRisk.Library.ExpiringStore

/-!
# The Redis server

The engine and the guardrail share one server.  Its clock counts milliseconds.
A command either fails with an exception and has no effect, or has the effect
which Redis documents.
-/

namespace AeroRisk

open AeroRisk.Library

/-- A value: the text of an integer is kept as that integer. -/
inductive RedisValue where
  | text (content : String)
  | integer (number : Int)
deriving DecidableEq, Repr

/-- The text which a client receives for a value. -/
def RedisValue.content : RedisValue → String
  | .text content => content
  | .integer number => toString number

/-- The keys of the server with their values and expiry times. -/
abbrev RedisStore := ExpiringStore String RedisValue

/--
What a client works on: the store, the time of the server and, for each of the
next commands, whether it fails.
-/
structure RedisConnection where
  store : RedisStore
  now : Nat
  faults : List Bool
deriving DecidableEq

/-- A program of Redis commands; exceptions are known by their text. -/
abbrev RedisM := EStateM String RedisConnection

namespace RedisM

open ExpiringStore

/-- A command: it fails, or it has an effect at the time of the server. -/
def command {Value : Type}
    (effect : Nat → RedisStore → Except String (Value × RedisStore)) :
    RedisM Value := fun connection =>
  let after := { connection with faults := connection.faults.tail }
  if connection.faults.headD false then
    .error "connection error" after
  else
    match effect connection.now connection.store with
    | .ok (value, store) => .ok value { after with store }
    | .error error => .error error after

/-- `GET`. -/
def get (key : String) : RedisM (Option RedisValue) :=
  command fun now store => .ok (ExpiringStore.get store now key, store)

/-- `SET`, with the option `EX` in seconds or without. -/
def set (key : String) (value : RedisValue) (ex : Option Nat) :
    RedisM Unit :=
  command fun now store =>
    .ok ((), ExpiringStore.set store key value
      (ex.map fun seconds => now + 1000 * seconds))

/-- `DEL`. -/
def delete (key : String) : RedisM Unit :=
  command fun _ store => .ok ((), ExpiringStore.delete store key)

/-- `EXPIRE`, in seconds. -/
def expire (key : String) (seconds : Nat) : RedisM Unit :=
  command fun now store =>
    .ok ((), expireAt store now key (now + 1000 * seconds))

/-- `INCR`: a new key starts from zero and does not expire. -/
def incr (key : String) : RedisM Int :=
  command fun now store =>
    match find store now key with
    | none => .ok (1, ExpiringStore.set store key (.integer 1) none)
    | some entry =>
        match entry.value with
        | .integer number =>
            if number < Int64.maxValue.toInt then
              .ok (number + 1,
                ExpiringStore.set store key (.integer (number + 1))
                  entry.expiresAt)
            else
              .error "ERR increment or decrement would overflow"
        | .text _ =>
            .error "ERR value is not an integer or out of range"

/-- The key matches the pattern of a head, a star and a tail. -/
def matchesStar (head tail key : String) : Bool :=
  head.toList.isPrefixOf key.toList && tail.toList.isSuffixOf key.toList &&
    head.length + tail.length ≤ key.length

/-- `KEYS`, for the pattern of a head, a star and a tail. -/
def keys (head tail : String) : RedisM (List String) :=
  command fun now store =>
    .ok ((liveKeys store now).filter (matchesStar head tail), store)

/-- A command which does not fail has its effect. -/
theorem command_ok {Value : Type}
    {effect : Nat → RedisStore → Except String (Value × RedisStore)}
    {connection : RedisConnection}
    (noFault : connection.faults.headD false = false) {value : Value}
    {store : RedisStore}
    (executed :
      effect connection.now connection.store = .ok (value, store)) :
    command effect connection =
      .ok value
        { connection with store, faults := connection.faults.tail } := by
  simp only [command, noFault, executed, Bool.false_eq_true, if_false]

/-- `INCR` of a key which is not found. -/
theorem incr_of_absent {key : String} {connection : RedisConnection}
    (noFault : connection.faults.headD false = false)
    (absent : find connection.store connection.now key = none) :
    incr key connection =
      .ok 1
        { connection with
          store := ExpiringStore.set connection.store key (.integer 1) none
          faults := connection.faults.tail } := by
  apply command_ok noFault
  rw [absent]

/-- `INCR` of a counter keeps its expiry time. -/
theorem incr_of_found {key : String} {connection : RedisConnection}
    (noFault : connection.faults.headD false = false) {number : Int}
    {expiresAt : Option Nat}
    (found :
      find connection.store connection.now key =
        some { value := .integer number, expiresAt })
    (below : number < Int64.maxValue.toInt) :
    incr key connection =
      .ok (number + 1)
        { connection with
          store :=
            ExpiringStore.set connection.store key (.integer (number + 1))
              expiresAt
          faults := connection.faults.tail } := by
  apply command_ok noFault
  rw [found]
  exact if_pos below

/-- A command which does not raise does not fail. -/
theorem noFault_of_command_eq_ok {Value : Type}
    {effect : Nat → RedisStore → Except String (Value × RedisStore)}
    {connection reached : RedisConnection} {value : Value}
    (executed : command effect connection = .ok value reached) :
    connection.faults.headD false = false := by
  simp only [command] at executed
  split at executed
  · cases executed
  · next noFault => simpa using noFault

/-- What `INCR` does when it does not raise. -/
theorem incr_eq_ok {key : String} {connection reached : RedisConnection}
    {newCount : Int} (executed : incr key connection = .ok newCount reached) :
    (find connection.store connection.now key = none ∧
        reached =
          { connection with
            store := ExpiringStore.set connection.store key (.integer 1) none
            faults := connection.faults.tail } ∧
        newCount = 1) ∨
      ∃ entry,
        find connection.store connection.now key = some entry ∧
          reached =
            { connection with
              store :=
                ExpiringStore.set connection.store key (.integer newCount)
                  entry.expiresAt
              faults := connection.faults.tail } := by
  simp only [incr, command] at executed
  split at executed
  · cases executed
  cases found : find connection.store connection.now key with
  | none =>
      rw [found] at executed
      cases executed
      exact Or.inl ⟨rfl, rfl, rfl⟩
  | some entry =>
      rcases entry with ⟨value, expiresAt⟩
      rw [found] at executed
      cases value with
      | text content => cases executed
      | integer number =>
          dsimp only at executed
          split at executed
          · next incremented =>
              split at incremented
              · cases incremented
                cases executed
                exact Or.inr ⟨_, rfl, rfl⟩
              · cases incremented
          · cases executed

/-- `INCR` of a counter returns the next number. -/
theorem count_of_incr {key : String} {connection reached : RedisConnection}
    {newCount number : Int} {expiresAt : Option Nat}
    (found :
      find connection.store connection.now key =
        some { value := .integer number, expiresAt })
    (executed : incr key connection = .ok newCount reached) :
    newCount = number + 1 := by
  have noFault := noFault_of_command_eq_ok executed
  simp only [incr, command, noFault, found, Bool.false_eq_true, if_false]
    at executed
  split at executed
  · next incremented =>
      split at incremented
      · cases incremented
        cases executed
        rfl
      · cases incremented
  · cases executed

/-- A command which raises has no effect on the store. -/
theorem store_of_command_eq_error {Value : Type}
    {effect : Nat → RedisStore → Except String (Value × RedisStore)}
    {connection reached : RedisConnection} {error : String}
    (executed : command effect connection = .error error reached) :
    reached.store = connection.store := by
  simp only [command] at executed
  split at executed
  · cases executed
    rfl
  · split at executed
    · cases executed
    · cases executed
      rfl

/-- A command keeps a property of the store when its effect does. -/
theorem preserves_command_of_store {property : RedisStore → Prop}
    {Value : Type}
    {effect : Nat → RedisStore → Except String (Value × RedisStore)}
    (keeps :
      ∀ now store value next,
        property store → effect now store = .ok (value, next) →
          property next) :
    Commands.Preserves (fun connection => property connection.store)
      (command effect) := by
  intro connection holds
  simp only [Commands.after, command]
  cases connection.faults.headD false with
  | true => exact holds
  | false =>
      cases executed : effect connection.now connection.store with
      | error error => exact holds
      | ok result => exact keeps _ _ result.1 result.2 holds executed

/-! ## What a command leaves alone -/

/-- The entry of a key is this one, at every time. -/
def Holds (key : String) (entry : Nat → Option (Entry RedisValue))
    (connection : RedisConnection) : Prop :=
  ∀ now, find connection.store now key = entry now

variable {key other : String} {entry : Nat → Option (Entry RedisValue)}

/-- A command keeps the entry of a key when its effect on the store does. -/
theorem preserves_command {Value : Type}
    {effect : Nat → RedisStore → Except String (Value × RedisStore)}
    (keeps :
      ∀ now store value next later,
        effect now store = .ok (value, next) →
          find next later key = find store later key) :
    Commands.Preserves (Holds key entry) (command effect) := by
  intro connection holds later
  simp only [Commands.after, command]
  cases connection.faults.headD false with
  | true => exact holds later
  | false =>
      cases executed : effect connection.now connection.store with
      | error error => exact holds later
      | ok result =>
          exact
            (keeps _ _ result.1 result.2 later executed).trans (holds later)

theorem preserves_get : Commands.Preserves (Holds key entry) (get other) := by
  apply preserves_command
  rintro now store value next later executed
  cases executed
  rfl

theorem preserves_set (different : key ≠ other) (value : RedisValue)
    (ex : Option Nat) :
    Commands.Preserves (Holds key entry) (set other value ex) := by
  apply preserves_command
  rintro now store value next later executed
  cases executed
  exact find_set_of_ne store later different _ _

theorem preserves_delete (different : key ≠ other) :
    Commands.Preserves (Holds key entry) (delete other) := by
  apply preserves_command
  rintro now store value next later executed
  cases executed
  exact find_delete_of_ne store later different

theorem preserves_expire (different : key ≠ other) (seconds : Nat) :
    Commands.Preserves (Holds key entry) (expire other seconds) := by
  apply preserves_command
  rintro now store value next later executed
  cases executed
  exact find_expireAt_of_ne store now different _ later

theorem preserves_incr (different : key ≠ other) :
    Commands.Preserves (Holds key entry) (incr other) := by
  apply preserves_command
  rintro now store value next later executed
  split at executed
  · cases executed
    exact find_set_of_ne store later different _ _
  · split at executed
    · split at executed
      · cases executed
        exact find_set_of_ne store later different _ _
      · cases executed
    · cases executed

theorem preserves_keys (head tail : String) :
    Commands.Preserves (Holds key entry) (keys head tail) := by
  apply preserves_command
  rintro now store value next later executed
  cases executed
  rfl

end RedisM

end AeroRisk
