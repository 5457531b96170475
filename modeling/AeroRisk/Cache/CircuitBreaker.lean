import AeroRisk.Redis

/-!
# The circuit breakers of the engine

`CircuitBreakerManager` keeps the breaker of an account as a JSON record in
Redis.  The decoder of the records is a parameter.  Scores are kept in a type
of their own, which is `float64` in the engine.  The clock counts nanoseconds.
-/

namespace AeroRisk.Cache

open AeroRisk.Library

/-- `CircuitBreakState`. -/
inductive CircuitBreakState where
  | circuitBreakClosed
  | circuitBreakOpen
  | circuitBreakHalfOpen
  /-- Any other integer. -/
  | unknown (value : Int64)
deriving DecidableEq, Repr

/-- `CircuitBreaker`. -/
structure CircuitBreaker (Score : Type) where
  accountID : String
  state : CircuitBreakState
  failureCount : Int64
  lastFailure : Int64
  openedAt : Int64
  reason : String
  riskScore : Score
  threshold : Score
  cooldownMs : Int64
  lastUpdated : Int64
deriving DecidableEq, Repr

/-- `time.Now().UnixNano()`. -/
def unixNano (now : Nat) : Int64 :=
  Int64.ofNat now

/-- The milliseconds of a time. -/
def milliseconds (now : Nat) : Nat :=
  now / 1000000

/-- `time.Now().UnixMilli()`. -/
def unixMilli (now : Nat) : Int64 :=
  Int64.ofNat (milliseconds now)

variable {Score : Type}

namespace CircuitBreaker

/-- `CircuitBreaker.IsOpen`, with the breaker which it leaves. -/
def isOpen (cb : CircuitBreaker Score) (now : Nat) :
    Bool × CircuitBreaker Score :=
  if cb.state = .circuitBreakClosed then
    (false, cb)
  else if cb.state = .circuitBreakOpen ∧ 0 < cb.cooldownMs ∧
      cb.cooldownMs ≤ unixMilli now - cb.openedAt then
    (false, { cb with state := .circuitBreakHalfOpen })
  else
    (cb.state = .circuitBreakOpen, cb)

/-- `CircuitBreaker.RecordSuccess`. -/
def recordSuccess (cb : CircuitBreaker Score) (now : Nat) :
    CircuitBreaker Score :=
  { cb with
    failureCount := 0
    state := .circuitBreakClosed
    lastUpdated := unixNano now }

/-- `CircuitBreaker.RecordFailure`. -/
def recordFailure [LE Score] [DecidableLE Score] (cb : CircuitBreaker Score)
    (now : Nat) (reason : String) (riskScore : Score) :
    CircuitBreaker Score :=
  let cb :=
    { cb with
      failureCount := cb.failureCount + 1
      lastFailure := unixNano now
      riskScore
      reason }
  let cb :=
    if cb.threshold ≤ cb.riskScore then
      { cb with
        state := .circuitBreakOpen
        openedAt := unixMilli now }
    else
      cb
  { cb with lastUpdated := unixNano now }

section Queries

variable {cb : CircuitBreaker Score} (now : Nat)

theorem isOpen_of_closed (closed : cb.state = .circuitBreakClosed) :
    cb.isOpen now = (false, cb) := by
  rw [isOpen, if_pos closed]

theorem isOpen_of_halfOpen (halfOpen : cb.state = .circuitBreakHalfOpen) :
    cb.isOpen now = (false, cb) := by
  simp [isOpen, halfOpen]

theorem isOpen_of_open (isOpen : cb.state = .circuitBreakOpen)
    (positive : 0 < cb.cooldownMs) :
    cb.isOpen now =
      if cb.cooldownMs ≤ unixMilli now - cb.openedAt then
        (false, { cb with state := .circuitBreakHalfOpen })
      else
        (true, cb) := by
  simp [CircuitBreaker.isOpen, isOpen, positive]

end Queries

section Fields

variable (cb : CircuitBreaker Score) (now : Nat)

@[simp]
theorem accountID_recordSuccess :
    (cb.recordSuccess now).accountID = cb.accountID :=
  rfl

variable [LE Score] [DecidableLE Score] (reason : String) (riskScore : Score)

@[simp]
theorem accountID_recordFailure :
    (cb.recordFailure now reason riskScore).accountID = cb.accountID := by
  simp only [recordFailure]
  split <;> rfl

@[simp]
theorem threshold_recordFailure :
    (cb.recordFailure now reason riskScore).threshold = cb.threshold := by
  simp only [recordFailure]
  split <;> rfl

@[simp]
theorem cooldownMs_recordFailure :
    (cb.recordFailure now reason riskScore).cooldownMs = cb.cooldownMs := by
  simp only [recordFailure]
  split <;> rfl

@[simp]
theorem failureCount_recordFailure :
    (cb.recordFailure now reason riskScore).failureCount =
      cb.failureCount + 1 := by
  simp only [recordFailure]
  split <;> rfl

@[simp]
theorem state_recordFailure :
    (cb.recordFailure now reason riskScore).state =
      if cb.threshold ≤ riskScore then .circuitBreakOpen else cb.state := by
  simp only [recordFailure]
  split <;> rfl

@[simp]
theorem openedAt_recordFailure :
    (cb.recordFailure now reason riskScore).openedAt =
      if cb.threshold ≤ riskScore then unixMilli now else cb.openedAt := by
  simp only [recordFailure]
  split <;> rfl

end Fields

end CircuitBreaker

variable [OfScientific Score]

/-- `NewCircuitBreaker`. -/
def newCircuitBreaker (now : Nat) (accountID : String) (threshold : Score)
    (cooldownMs : Int64) : CircuitBreaker Score where
  accountID := accountID
  state := .circuitBreakClosed
  failureCount := 0
  lastFailure := 0
  openedAt := 0
  reason := ""
  riskScore := 0.0
  threshold := threshold
  cooldownMs := cooldownMs
  lastUpdated := unixNano now

/-- `CircuitBreakKey`. -/
def circuitBreakKey (accountID : String) : String :=
  "cb:" ++ accountID

namespace CircuitBreakerManager

variable
    (unmarshal : RedisValue → Except String (CircuitBreaker Score))
    (store : RedisStore) (now : Nat) (accountID : String)

/-- `CircuitBreakerManager.Get`. -/
def get : Except String (CircuitBreaker Score) :=
  match
    ExpiringStore.get store (milliseconds now) (circuitBreakKey accountID)
  with
  | none => .ok (newCircuitBreaker now accountID 0.8 60000)
  | some data => unmarshal data

/-- `CircuitBreakerManager.IsBlocked`. -/
def isBlocked : Bool × Option String :=
  match get unmarshal store now accountID with
  | .ok cb => ((cb.isOpen now).1, none)
  | .error error => (false, some error)

/-- The store has a record of the account which decodes to an open breaker. -/
def HoldsOpenRecord : Prop :=
  ∃ data cb,
    ExpiringStore.get store (milliseconds now) (circuitBreakKey accountID) =
        some data ∧
      unmarshal data = .ok cb ∧ (cb.isOpen now).1 = true

/-- An account is blocked by its own record only. -/
theorem isBlocked_iff :
    (isBlocked unmarshal store now accountID).1 = true ↔
      HoldsOpenRecord unmarshal store now accountID := by
  rw [isBlocked, get, HoldsOpenRecord]
  cases ExpiringStore.get store (milliseconds now)
      (circuitBreakKey accountID) with
  | none => simp [newCircuitBreaker, CircuitBreaker.isOpen]
  | some data =>
      cases decoded : unmarshal data with
      | error error => simp [decoded]
      | ok cb => simp [decoded]

end CircuitBreakerManager

end AeroRisk.Cache
