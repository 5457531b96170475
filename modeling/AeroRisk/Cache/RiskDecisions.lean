import AeroRisk.Cache.CircuitBreaker
import AeroRisk.Cache.RedisClient
import Mathlib.Algebra.Order.Field.Rat

/-!
# Concurrent risk decisions

`RecordRiskDecision` gets the breaker of an account, records a success or a
failure and sets it.  Decisions overlap as cash updates do.  They serialize
when every `Set` still finds what its decision depends on; a success depends
on nothing, and a failure which opens the breaker not on its state.
-/

namespace AeroRisk.Cache

open AeroRisk.Library
open AeroRisk.Library.Messages
open AeroRisk.Library.ReadModifyWrite

/-- The arguments of a call of `RecordRiskDecision` on some account. -/
structure RiskDecision (Score : Type) where
  allowed : Bool
  riskScore : Score
  reason : String
deriving DecidableEq, Repr

variable {Score : Type}

section Decision

variable [LE Score] [DecidableLE Score]

/-- What `RecordRiskDecision` does to the breaker which it got. -/
def CircuitBreaker.recordDecision (cb : CircuitBreaker Score) (now : Nat)
    (decision : RiskDecision Score) : CircuitBreaker Score :=
  if decision.allowed then
    cb.recordSuccess now
  else
    cb.recordFailure now decision.reason decision.riskScore

/-- What decisions depend on. -/
structure Standing (Score : Type) where
  state : CircuitBreakState
  failureCount : Int64
  threshold : Score
deriving DecidableEq, Repr

/-- The standing of a breaker. -/
def CircuitBreaker.standing (cb : CircuitBreaker Score) : Standing Score where
  state := cb.state
  failureCount := cb.failureCount
  threshold := cb.threshold

/-- A decision changes the standing. -/
def Standing.recordDecision (standing : Standing Score)
    (decision : RiskDecision Score) : Standing Score :=
  if decision.allowed then
    { standing with
      state := .circuitBreakClosed
      failureCount := 0 }
  else
    { standing with
      state :=
        if standing.threshold ≤ decision.riskScore then
          .circuitBreakOpen
        else
          standing.state
      failureCount := standing.failureCount + 1 }

/-- Standings which agree on what a decision depends on go on alike. -/
theorem Standing.recordDecision_congr {standing other : Standing Score}
    {decision : RiskDecision Score}
    (threshold : standing.threshold = other.threshold)
    (needed :
      decision.allowed = true ∨
        standing.failureCount = other.failureCount ∧
          (other.threshold ≤ decision.riskScore ∨
            standing.state = other.state)) :
    standing.recordDecision decision = other.recordDecision decision := by
  cases standing
  cases other
  subst threshold
  rw [recordDecision, recordDecision]
  rcases needed with allowed | ⟨rfl, opens | rfl⟩
  · rw [if_pos allowed, if_pos allowed]
  · rw [if_pos opens, if_pos opens]
  · rfl

@[simp]
theorem standing_recordDecision (cb : CircuitBreaker Score) (now : Nat)
    (decision : RiskDecision Score) :
    (cb.recordDecision now decision).standing =
      cb.standing.recordDecision decision := by
  rw [CircuitBreaker.recordDecision, Standing.recordDecision]
  split
  · rfl
  · rw [CircuitBreaker.standing, CircuitBreaker.state_recordFailure,
      CircuitBreaker.failureCount_recordFailure,
      CircuitBreaker.threshold_recordFailure]
    rfl

@[simp]
theorem accountID_recordDecision (cb : CircuitBreaker Score) (now : Nat)
    (decision : RiskDecision Score) :
    (cb.recordDecision now decision).accountID = cb.accountID := by
  rw [CircuitBreaker.recordDecision]
  split <;> simp

end Decision

section Manager

variable [OfScientific Score] (codec : RecordCodec (CircuitBreaker Score))

/-- The records of `CircuitBreakerManager`. -/
def circuitBreakerManager : RecordManager (CircuitBreaker Score) where
  codec := codec
  key := circuitBreakKey
  accountID := CircuitBreaker.accountID
  newRecord := fun now accountID => newCircuitBreaker now accountID 0.8 60000
  accountID_newRecord := fun _ _ => rfl

namespace CircuitBreakerManager

/-- `CircuitBreakerManager.Set`. -/
def set (cb : CircuitBreaker Score) (expiration : Nat) :
    RedisProgram (Option String) :=
  (circuitBreakerManager codec).set cb expiration

/-- `CircuitBreakerManager.RecordRiskDecision`. -/
def recordRiskDecision [LE Score] [DecidableLE Score] (now : Nat)
    (accountID : String) (decision : RiskDecision Score) :
    RedisProgram (Option String) :=
  (circuitBreakerManager codec).modify now accountID fun cb =>
    cb.recordDecision now decision

end CircuitBreakerManager

variable
    [LE Score] [DecidableLE Score]
    {Client : Type}
    (accountID : String)
    (clock : Client → Nat)
    (decision : Client → RiskDecision Score)

/-- The clients before their calls of `RecordRiskDecision` on an account. -/
def riskDecisions (store : RedisStore) :
    System Client RedisStore RedisRequest RedisResponse (Option String) :=
  System.start store fun client =>
    CircuitBreakerManager.recordRiskDecision codec (clock client) accountID
      (decision client)

/-- The clients as clients which read, modify and write the breaker. -/
def decisionProtocol :
    Protocol Client RedisRequest RedisResponse (CircuitBreaker Score)
      String :=
  (circuitBreakerManager codec).protocol clock accountID fun client cb =>
    cb.recordDecision (clock client) (decision client)

/-- The breaker which was last set for the account. -/
def storedBreaker (store : RedisStore) : CircuitBreaker Score :=
  (circuitBreakerManager codec).stored store accountID

/--
A `Set` finds what its decision depends on as its client got it: for a failure
the count and, if it does not open the breaker, the state.
-/
def FindsCurrent
    (system :
      System Client RedisStore RedisRequest RedisResponse (Option String))
    (label : Client × Nat) : Prop :=
  ∀ cb,
    (decisionProtocol codec accountID clock decision).pending system label.1 =
        some cb →
      (storedBreaker codec accountID system.store).threshold = cb.threshold ∧
        ((decision label.1).allowed = true ∨
          (storedBreaker codec accountID system.store).failureCount =
              cb.failureCount ∧
            (cb.threshold ≤ (decision label.1).riskScore ∨
              (storedBreaker codec accountID system.store).state = cb.state))

instance [DecidableEq Score]
    (system :
      System Client RedisStore RedisRequest RedisResponse (Option String))
    (label : Client × Nat) :
    Decidable (FindsCurrent codec accountID clock decision system label) :=
  Option.decidableForallMem
    ((decisionProtocol codec accountID clock decision).pending system label.1)

variable {codec accountID clock decision}

theorem riskDecisions_eq_start (store : RedisStore) :
    riskDecisions codec accountID clock decision store =
      System.start store
        (decisionProtocol codec accountID clock decision).program := by
  rw [riskDecisions]
  congr 1
  funext client
  rw [decisionProtocol, RecordManager.program_eq_modify]
  rfl

/-- A current `Set` has the effect of its decision on what is stored. -/
theorem FindsCurrent.effect
    {system :
      System Client RedisStore RedisRequest RedisResponse (Option String)}
    {label : Client × Nat}
    (current : FindsCurrent codec accountID clock decision system label)
    {cb : CircuitBreaker Score}
    (held :
      (decisionProtocol codec accountID clock decision).pending system
        label.1 = some cb) :
    (cb.recordDecision (clock label.1) (decision label.1)).standing =
      (storedBreaker codec accountID system.store).standing.recordDecision
        (decision label.1) := by
  obtain ⟨threshold, needed⟩ := current cb held
  rw [standing_recordDecision]
  exact (Standing.recordDecision_congr threshold needed).symm

variable [DecidableEq Client]

variable (codec accountID clock decision) in
/-- The clients of a breaker after some messages, each at its time. -/
def afterDecisions (store : RedisStore) (schedule : List (Client × Nat)) :
    System Client RedisStore RedisRequest RedisResponse (Option String) :=
  LabelledRun.run (System.next serve)
    (riskDecisions codec accountID clock decision store) schedule

variable (clock decision) in
/-- A breaker after some clients made their decisions one after another. -/
def executed (cb : CircuitBreaker Score) (order : List Client) :
    CircuitBreaker Score :=
  order.foldl
    (fun cb client => cb.recordDecision (clock client) (decision client)) cb

omit [OfScientific Score] [DecidableEq Client] in
theorem standing_executed (cb : CircuitBreaker Score) (order : List Client) :
    (executed clock decision cb order).standing =
      order.foldl
        (fun standing client => standing.recordDecision (decision client))
        cb.standing := by
  symm
  apply List.foldl_hom
  intro cb client
  exact (standing_recordDecision cb (clock client) (decision client)).symm

end Manager

/--
Once all calls have returned without an error, the state and the failure count
are those of the decisions made one after another in some order, when every
`Set` found what its decision depends on as its client had got it.
-/
theorem risk_decisions_serialize {Score : Type} [OfScientific Score]
    [LE Score] [DecidableLE Score] {Client : Type} [DecidableEq Client]
    (codec : RecordCodec (CircuitBreaker Score)) (accountID : String)
    (clock : Client → Nat) (decision : Client → RiskDecision Score)
    (store : RedisStore)
    (owned : (circuitBreakerManager codec).Owned accountID store)
    (schedule : List (Client × Nat))
    (returned :
      ∀ client,
        (afterDecisions codec accountID clock decision store
          schedule).Returned client none)
    (current :
      LabelledRun.Along (System.next serve)
        (FindsCurrent codec accountID clock decision)
        (riskDecisions codec accountID clock decision store) schedule) :
    ∃ order : List Client,
      order.Nodup ∧
        (∀ client, client ∈ order) ∧
        (storedBreaker codec accountID
            (afterDecisions codec accountID clock decision store
              schedule).store).state =
          (executed clock decision (storedBreaker codec accountID store)
            order).state ∧
        (storedBreaker codec accountID
            (afterDecisions codec accountID clock decision store
              schedule).store).failureCount =
          (executed clock decision (storedBreaker codec accountID store)
            order).failureCount := by
  have kept :
      (decisionProtocol codec accountID clock decision).Kept serve
        (fun store => (storedBreaker codec accountID store).standing)
        CircuitBreaker.standing
        ((circuitBreakerManager codec).Owned accountID)
        (fun cb => cb.accountID = accountID) := by
    apply RecordManager.kept
    intro client cb
    exact accountID_recordDecision cb _ _
  let protocol := decisionProtocol codec accountID clock decision
  let start := System.start store protocol.program
  have reachable :
      protocol.Reachable ((circuitBreakerManager codec).Owned accountID)
        (fun cb => cb.accountID = accountID) start :=
    Protocol.reachable_start owned
  rw [afterDecisions, riskDecisions_eq_start] at returned ⊢
  rw [riskDecisions_eq_start] at current
  obtain ⟨nodup, -, wrote⟩ :=
    Protocol.writeOrder_spec kept reachable schedule
  have effects :
      LabelledRun.Along (System.next serve)
        (fun system label =>
          ∀ cb,
            protocol.pending system label.1 = some cb →
              (cb.recordDecision (clock label.1)
                  (decision label.1)).standing =
                (storedBreaker codec accountID
                  system.store).standing.recordDecision (decision label.1))
        start schedule := by
    apply LabelledRun.Along.imp _ current
    intro system label finds cb held
    exact finds.effect held
  have standing :=
    Protocol.view_run_of_effects kept
      (fun standing client => standing.recordDecision (decision client))
      reachable effects
  refine ⟨protocol.writeOrder serve start schedule, nodup, ?_, ?_⟩
  · intro client
    exact
      (wrote client (returned client)).resolve_left
        (Protocol.not_returned_start store client none)
  · rw [← standing_executed] at standing
    exact
      ⟨congrArg Standing.state standing,
        congrArg Standing.failureCount standing⟩

/-- One client blocks with a high score and the other with a low one. -/
def twoBlocks (client : Bool) : RiskDecision ℚ :=
  if client then
    { allowed := false, riskScore := 0.9, reason := "high_risk" }
  else
    { allowed := false, riskScore := 0.1, reason := "low_risk" }

/-- The new breaker after some clients blocked, all at time zero. -/
def blockedBreaker (order : List Bool) : CircuitBreaker ℚ :=
  executed (fun _ => 0) twoBlocks
    (newCircuitBreaker 0 "acc-123" 0.8 60000) order

/-- The JSON text of such a breaker. -/
def blockedText (state failureCount reason riskScore : String) : String :=
  "\x7b\"account_id\":\"acc-123\",\"state\":" ++ state ++
    ",\"failure_count\":" ++ failureCount ++
    ",\"last_failure\":0,\"reason\":\"" ++ reason ++
    "\",\"risk_score\":" ++ riskScore ++
    ",\"threshold\":0.8,\"cooldown_ms\":60000,\"last_updated\":0\x7d"

/-- The codec of breakers, for the breakers of two blocks. -/
def blockedCodec : RecordCodec (CircuitBreaker ℚ) :=
  .ofRows
    [(blockedBreaker [true], blockedText "1" "1" "high_risk" "0.9"),
      (blockedBreaker [false], blockedText "0" "1" "low_risk" "0.1"),
      (blockedBreaker [true, false], blockedText "1" "2" "low_risk" "0.1")]
    (by decide)

theorem risk_decisions_serialize_sample :
    ∃ order : List Bool,
      order.Nodup ∧
        (∀ client, client ∈ order) ∧
        (storedBreaker blockedCodec "acc-123"
            (afterDecisions blockedCodec "acc-123" (fun _ => 0) twoBlocks ∅
              [(true, 1), (true, 2), (false, 3), (false, 4)]).store).state =
          (executed (fun _ => 0) twoBlocks
            (storedBreaker blockedCodec "acc-123" ∅) order).state ∧
        (storedBreaker blockedCodec "acc-123"
            (afterDecisions blockedCodec "acc-123" (fun _ => 0) twoBlocks ∅
              [(true, 1), (true, 2), (false, 3),
                (false, 4)]).store).failureCount =
          (executed (fun _ => 0) twoBlocks
            (storedBreaker blockedCodec "acc-123" ∅) order).failureCount :=
  risk_decisions_serialize blockedCodec "acc-123" (fun _ => 0) twoBlocks ∅
    (fun entry record stored => by cases stored)
    [(true, 1), (true, 2), (false, 3), (false, 4)] (by decide +kernel)
    (by decide +kernel)

/-- A stale record replaces the block which opened the breaker. -/
theorem risk_decisions_serialize_fails :
    ¬ ∀ (Client : Type) [DecidableEq Client]
        (codec : RecordCodec (CircuitBreaker ℚ)) (accountID : String)
        (clock : Client → Nat) (decision : Client → RiskDecision ℚ)
        (store : RedisStore) (schedule : List (Client × Nat)),
        (circuitBreakerManager codec).Owned accountID store →
        (∀ client,
          (afterDecisions codec accountID clock decision store
            schedule).Returned client none) →
        ∃ order : List Client,
          order.Nodup ∧
            (∀ client, client ∈ order) ∧
            (storedBreaker codec accountID
                (afterDecisions codec accountID clock decision store
                  schedule).store).state =
              (executed clock decision (storedBreaker codec accountID store)
                order).state ∧
            (storedBreaker codec accountID
                (afterDecisions codec accountID clock decision store
                  schedule).store).failureCount =
              (executed clock decision (storedBreaker codec accountID store)
                order).failureCount := by
  intro serialize
  obtain ⟨order, nodup, all, -, failureCount⟩ :=
    serialize Bool blockedCodec "acc-123" (fun _ => 0) twoBlocks ∅
      [(true, 1), (false, 2), (true, 3), (false, 4)]
      (fun entry record stored => by cases stored) (by decide +kernel)
  have everyone : order.Perm [true, false] := by
    rw [List.perm_ext_iff_of_nodup nodup (by decide)]
    intro client
    cases client <;> simp [all]
  obtain ⟨first, second, rfl⟩ := List.length_eq_two.mp everyone.length_eq
  revert failureCount
  revert first second
  decide +kernel

end AeroRisk.Cache
