import AeroRisk.Library.LabelledRun
import AeroRisk.Redis

/-!
# The circuit breaker writer of the guardrail

`CircuitBreakerWriter` counts triggers of a symbol and opens its breaker at
the fifth.  Every method handles its exceptions, so a failing Redis command
ends a method early and does not raise.
-/

namespace AeroRisk.Guardrail

open AeroRisk.Library

/-- What `get_status` returns. -/
structure BreakerStatus where
  symbol : String
  status : String
  triggerCount : Int
  threshold : Int
deriving DecidableEq, Repr

namespace CircuitBreakerWriter

/-- `_prefix`. -/
def keyPrefix : String :=
  "circuit_breaker:"

/-- `_trigger_threshold`. -/
def triggerThreshold : Int :=
  5

/-- `_open_duration`, in seconds. -/
def openDuration : Nat :=
  300

/-- `status_key`. -/
def statusKey (symbol : String) : String :=
  keyPrefix ++ symbol ++ ":status"

/-- `trigger_key`. -/
def triggerKey (symbol : String) : String :=
  keyPrefix ++ symbol ++ ":triggers"

/-- `_publish_circuit_event`: it writes nothing to Redis, and may raise. -/
def publishCircuitEvent : RedisM Unit :=
  RedisM.command fun _ store => .ok ((), store)

/-- `_open_circuit`. -/
def openCircuit (symbol : String) : RedisM Unit :=
  tryCatch
    (do
      RedisM.set (statusKey symbol) (.text "OPEN") (some openDuration)
      publishCircuitEvent)
    fun _ => pure ()

/-- The expiry of the first trigger. -/
def expireFirst (symbol : String) (newCount : Int) : RedisM Unit :=
  if newCount = 1 then
    RedisM.expire (triggerKey symbol) openDuration
  else
    pure ()

/-- The check whether the circuit should open. -/
def openIfReached (symbol : String) (newCount : Int) : RedisM Unit :=
  if triggerThreshold ≤ newCount then openCircuit symbol else pure ()

/-- `increment_trigger_count`. -/
def incrementTriggerCount (symbol : String) : RedisM Int :=
  tryCatch
    (do
      let newCount ← RedisM.incr (triggerKey symbol)
      expireFirst symbol newCount
      openIfReached symbol newCount
      pure newCount)
    fun _ => pure (-1)

/-- `close_circuit`. -/
def closeCircuit (symbol : String) : RedisM Unit :=
  tryCatch
    (do
      RedisM.set (statusKey symbol) (.text "CLOSED") none
      RedisM.delete (triggerKey symbol)
      publishCircuitEvent)
    fun _ => pure ()

/-- `status or "CLOSED"`. -/
def statusOr (status : Option RedisValue) : String :=
  match status.map RedisValue.content with
  | none => "CLOSED"
  | some content => if content = "" then "CLOSED" else content

/-- `int(triggers) if triggers else 0`. -/
def countOf : Option RedisValue → Except String Int
  | none => .ok 0
  | some (.integer number) => .ok number
  | some (.text content) =>
      if content = "" then
        .ok 0
      else
        match content.toInt? with
        | some number => .ok number
        | none => .error "invalid literal for int() with base 10"

/-- `get_status`. -/
def getStatus (symbol : String) : RedisM BreakerStatus :=
  tryCatch
    (do
      let status ← RedisM.get (statusKey symbol)
      let triggers ← RedisM.get (triggerKey symbol)
      let triggerCount ← MonadExcept.ofExcept (countOf triggers)
      pure
        { symbol
          status := statusOr status
          triggerCount
          threshold := triggerThreshold })
    fun _ =>
      pure
        { symbol
          status := "ERROR"
          triggerCount := 0
          threshold := triggerThreshold }

/-- The letters which remain when a pattern is taken out, from the left. -/
def removeLetters (pattern : List Char) : Nat → List Char → List Char
  | _, [] => []
  | skipped + 1, _ :: rest => removeLetters pattern skipped rest
  | 0, letter :: rest =>
      if pattern.isPrefixOf (letter :: rest) then
        removeLetters pattern (pattern.length - 1) rest
      else
        letter :: removeLetters pattern 0 rest

/-- `text.replace(pattern, "")`, for a pattern which is not empty. -/
def remove (text pattern : String) : String :=
  String.ofList (removeLetters pattern.toList 0 text.toList)

/-- The symbol which `reset_all` reads off a key. -/
def symbolOfKey (key : String) : String :=
  remove (remove key keyPrefix) ":status"

/-- `reset_all`. -/
def resetAll : RedisM Unit :=
  tryCatch
    (do
      let keys ← RedisM.keys keyPrefix ":status"
      keys.forM fun key => closeCircuit (symbolOfKey key))
    fun _ => pure ()

end CircuitBreakerWriter

/-- A method of the writer with its arguments. -/
inductive WriterMethod where
  | incrementTriggerCount (symbol : String)
  | closeCircuit (symbol : String)
  | getStatus (symbol : String)
  | resetAll
deriving DecidableEq, Repr

/-- A call of a method at a time, where some of its commands may fail. -/
structure WriterCall where
  method : WriterMethod
  now : Nat
  faults : List Bool
deriving DecidableEq, Repr

namespace CircuitBreakerWriter

/-- The commands which a call executes. -/
def program : WriterMethod → RedisM Unit
  | .incrementTriggerCount symbol => do
      let _ ← incrementTriggerCount symbol
      pure ()
  | .closeCircuit symbol => closeCircuit symbol
  | .getStatus symbol => do
      let _ ← getStatus symbol
      pure ()
  | .resetAll => resetAll

/-- The store after a call. -/
def next (store : RedisStore) (call : WriterCall) : RedisStore :=
  (Commands.after (program call.method)
    { store, now := call.now, faults := call.faults }).store

/-- What `get_status` returns at a time, while no command fails. -/
def statusAt (store : RedisStore) (now : Nat) (symbol : String) :
    Option BreakerStatus :=
  match getStatus symbol { store, now, faults := [] } with
  | .ok status _ => some status
  | .error _ _ => none

/-! ## What the writer leaves alone -/

variable {key : String} {entry : Nat → Option (Entry RedisValue)}

/-- The key is not one of the writer. -/
def Foreign (key : String) : Prop :=
  ∀ symbol tail, key ≠ keyPrefix ++ symbol ++ tail

theorem preserves_publishCircuitEvent :
    Commands.Preserves (RedisM.Holds key entry) publishCircuitEvent := by
  apply RedisM.preserves_command
  rintro now store value next later executed
  cases executed
  rfl

theorem preserves_openCircuit {symbol : String}
    (notStatus : key ≠ statusKey symbol) :
    Commands.Preserves (RedisM.Holds key entry) (openCircuit symbol) := by
  apply Commands.preserves_tryCatch
  · apply Commands.preserves_bind
    · exact RedisM.preserves_set notStatus _ _
    · exact fun _ => preserves_publishCircuitEvent
  · exact fun _ => Commands.preserves_pure ()

theorem preserves_incrementTriggerCount {symbol : String}
    (notTrigger : key ≠ triggerKey symbol)
    (notStatus : key ≠ statusKey symbol) :
    Commands.Preserves (RedisM.Holds key entry)
      (incrementTriggerCount symbol) := by
  apply Commands.preserves_tryCatch
  · apply Commands.preserves_bind
    · exact RedisM.preserves_incr notTrigger
    intro newCount
    apply Commands.preserves_bind
    · apply Commands.preserves_ite
      · exact RedisM.preserves_expire notTrigger _
      · exact Commands.preserves_pure ()
    intro _
    apply Commands.preserves_bind
    · apply Commands.preserves_ite
      · exact preserves_openCircuit notStatus
      · exact Commands.preserves_pure ()
    exact fun _ => Commands.preserves_pure newCount
  · exact fun _ => Commands.preserves_pure (-1)

theorem preserves_closeCircuit (foreign : Foreign key) (symbol : String) :
    Commands.Preserves (RedisM.Holds key entry) (closeCircuit symbol) := by
  apply Commands.preserves_tryCatch
  · apply Commands.preserves_bind
    · exact RedisM.preserves_set (foreign symbol _) _ _
    intro _
    apply Commands.preserves_bind
    · exact RedisM.preserves_delete (foreign symbol _)
    exact fun _ => preserves_publishCircuitEvent
  · exact fun _ => Commands.preserves_pure ()

theorem preserves_getStatus (symbol : String) :
    Commands.Preserves (RedisM.Holds key entry) (getStatus symbol) := by
  apply Commands.preserves_tryCatch
  · apply Commands.preserves_bind RedisM.preserves_get
    intro status
    apply Commands.preserves_bind RedisM.preserves_get
    intro triggers
    apply Commands.preserves_bind
    · exact Commands.preserves_ofExcept (countOf triggers)
    exact fun _ => Commands.preserves_pure _
  · exact fun _ => Commands.preserves_pure _

theorem preserves_resetAll (foreign : Foreign key) :
    Commands.Preserves (RedisM.Holds key entry) resetAll := by
  apply Commands.preserves_tryCatch
  · apply Commands.preserves_bind (RedisM.preserves_keys _ _)
    intro keys
    apply Commands.preserves_forM
    exact fun _ => preserves_closeCircuit foreign _
  · exact fun _ => Commands.preserves_pure ()

theorem preserves_program (foreign : Foreign key) (method : WriterMethod) :
    Commands.Preserves (RedisM.Holds key entry) (program method) := by
  cases method with
  | incrementTriggerCount symbol =>
      apply Commands.preserves_bind
      · exact
          preserves_incrementTriggerCount (foreign symbol _)
            (foreign symbol _)
      · exact fun _ => Commands.preserves_pure ()
  | closeCircuit symbol => exact preserves_closeCircuit foreign symbol
  | getStatus symbol =>
      apply Commands.preserves_bind
      · exact preserves_getStatus symbol
      · exact fun _ => Commands.preserves_pure ()
  | resetAll => exact preserves_resetAll foreign

/-- A run leaves the keys which are not of the writer. -/
theorem find_run (foreign : Foreign key) (store : RedisStore)
    (calls : List WriterCall) (now : Nat) :
    ExpiringStore.find (LabelledRun.run next store calls) now key =
      ExpiringStore.find store now key := by
  have preserved :
      ∀ (before : RedisStore) (call : WriterCall),
        (∀ now,
          ExpiringStore.find before now key =
            ExpiringStore.find store now key) →
          ∀ now,
            ExpiringStore.find (next before call) now key =
              ExpiringStore.find store now key := by
    intro before call same
    exact preserves_program foreign call.method _ same
  exact
    LabelledRun.run_invariant_of_every preserved calls (fun _ => rfl) now

end CircuitBreakerWriter

end AeroRisk.Guardrail
