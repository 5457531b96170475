import AeroRisk.Cache.CashUpdates
import AeroRisk.Cache.RiskDecisions

/-!
# Reading back what was set

Both managers encode a record, then put the time into the record of the
caller, and then send what they have encoded.  So the record which is read
back has the time stamp which it had before.
-/

namespace AeroRisk.Cache

open AeroRisk.Library
open AeroRisk.Library.Messages

/-- Records which carry the time of their last change. -/
structure StampedManager (Record : Type) extends RecordManager Record where
  lastUpdated : Record → Int64
  /-- The assignment to `LastUpdated`. -/
  stamp : Int64 → Record → Record
  lastUpdated_stamp : ∀ time record, lastUpdated (stamp time record) = time
  stamp_lastUpdated : ∀ record, stamp (lastUpdated record) record = record

namespace StampedManager

variable {Record : Type} (m : StampedManager Record)

/-- `Set` of a manager, with the record which it leaves to the caller. -/
def setLeaving (now : Nat) (record : Record) (expiration : Nat) :
    RedisProgram (Option String × Record) :=
  match m.codec.marshal record with
  | .error error => .done (some error, record)
  | .ok data =>
      (RedisClient.set (m.key (m.accountID record)) data expiration).bind
        fun error => .done (error, m.stamp (unixNano now) record)

variable {m} {record : Record} {now expiration served : Nat}
  {store : RedisStore}

/-- A `Set` without an error stores what was encoded. -/
theorem exec_setLeaving_of_ok
    (returned :
      ((m.setLeaving now record expiration).exec (serve served)
        store).1.1 = none) :
    ∃ data,
      m.codec.marshal record = .ok data ∧
        (m.setLeaving now record expiration).exec (serve served) store =
          ((none, m.stamp (unixNano now) record),
            ExpiringStore.set store (m.key (m.accountID record)) data
              (some (served + expiration))) := by
  rw [setLeaving] at returned ⊢
  cases encoded : m.codec.marshal record with
  | error error =>
      rw [encoded] at returned
      cases returned
  | ok data => exact ⟨data, rfl, rfl⟩

/-- What is read back is the record as it was before `Set`. -/
theorem exec_get_of_set
    (returned :
      ((m.setLeaving now record expiration).exec (serve served)
        store).1.1 = none)
    (clock : Nat) {later : Nat} (kept : later ≤ served + expiration) :
    ((m.get clock (m.accountID record)).exec (serve later)
        ((m.setLeaving now record expiration).exec (serve served)
          store).2).1 =
      .ok record := by
  obtain ⟨data, encoded, executed⟩ := exec_setLeaving_of_ok returned
  have live :
      ({ value := data
         expiresAt := some (served + expiration) } :
        Entry RedisValue).live later = true := by
    simpa [Entry.live] using kept
  rw [executed, RecordManager.get, RedisClient.get, Program.exec_bind,
    Program.exec_send, serve]
  simp only [Program.exec_done]
  rw [ExpiringStore.set,
    ExpiringStore.get_of_live (AList.lookup_insert _) live]
  exact m.codec.roundTrip record data encoded

/-- The record in memory is the one which is read back. -/
def ReadsBack (m : StampedManager Record) (now expiration served : Nat)
    (record : Record) (store : RedisStore) : Prop :=
  ∀ clock later, later ≤ served + expiration →
    ((m.get clock (m.accountID record)).exec (serve later)
        ((m.setLeaving now record expiration).exec (serve served)
          store).2).1 =
      .ok
        ((m.setLeaving now record expiration).exec (serve served) store).1.2

/-- It is exactly when the record already had the time of `Set`. -/
theorem readsBack_iff
    (returned :
      ((m.setLeaving now record expiration).exec (serve served)
        store).1.1 = none) :
    m.ReadsBack now expiration served record store ↔
      m.lastUpdated record = unixNano now := by
  obtain ⟨data, -, executed⟩ := exec_setLeaving_of_ok returned
  constructor
  · intro readsBack
    have same := readsBack now served (Nat.le_add_right _ _)
    rw [exec_get_of_set returned now (Nat.le_add_right _ _),
      executed] at same
    rw [Except.ok.inj same, m.lastUpdated_stamp]
  · intro current clock later kept
    rw [exec_get_of_set returned clock kept, executed, ← current,
      m.stamp_lastUpdated]

end StampedManager

/-- The accounts, with their time stamps. -/
def stampedAccounts (codec : RecordCodec AccountState) :
    StampedManager AccountState where
  toRecordManager := accountStateManager codec
  lastUpdated := AccountState.lastUpdated
  stamp := fun time state => { state with lastUpdated := time }
  lastUpdated_stamp := fun _ _ => rfl
  stamp_lastUpdated := fun _ => rfl

/-- The breakers, with their time stamps. -/
def stampedBreakers {Score : Type} [OfScientific Score]
    (codec : RecordCodec (CircuitBreaker Score)) :
    StampedManager (CircuitBreaker Score) where
  toRecordManager := circuitBreakerManager codec
  lastUpdated := CircuitBreaker.lastUpdated
  stamp := fun time cb => { cb with lastUpdated := time }
  lastUpdated_stamp := fun _ _ => rfl
  stamp_lastUpdated := fun _ => rfl

/-! ## The time stamps of the calls which modify a record -/

/-- A call which returns no error stores the record which it modified. -/
theorem RecordManager.stored_of_modify {Record : Type}
    {m : RecordManager Record} {accountID : String} {store : RedisStore}
    (owned : m.Owned accountID store) {clock served : Nat}
    {update : Record → Record}
    (updateOwned :
      ∀ record, m.accountID (update record) = m.accountID record)
    (returned :
      ((m.modify clock accountID update).exec (serve served) store).1 =
        none) :
    ∃ record,
      ((m.get clock accountID).exec (serve served) store).1 = .ok record ∧
        m.stored
            ((m.modify clock accountID update).exec (serve served) store).2
            accountID =
          update record := by
  have isGot :
      ((m.get clock accountID).exec (serve served) store).1 =
        m.decode clock accountID
          (.ok (ExpiringStore.get store served (m.key accountID))) := rfl
  rw [exec_modify] at returned ⊢
  rw [isGot]
  cases reads :
      m.decode clock accountID
        (.ok (ExpiringStore.get store served (m.key accountID))) with
  | error error =>
      rw [reads] at returned
      cases returned
  | ok record =>
      rw [reads] at returned
      dsimp only at returned ⊢
      cases encoded : m.codec.marshal (update record) with
      | error error =>
          rw [encoded] at returned
          cases returned
      | ok data =>
          refine ⟨record, rfl, ?_⟩
          dsimp only
          rw [updateOwned, owned.decode clock served reads]
          exact RecordManager.stored_set encoded _

@[simp]
theorem lastUpdated_recordDecision {Score : Type} [LE Score]
    [DecidableLE Score] (cb : CircuitBreaker Score) (now : Nat)
    (decision : RiskDecision Score) :
    (cb.recordDecision now decision).lastUpdated = unixNano now := by
  rw [CircuitBreaker.recordDecision]
  split
  · rfl
  · simp only [CircuitBreaker.recordFailure]

/--
A record which was set without an error is read back as `Set` left it to the
caller exactly when it had the time of `Set` already.  `UpdateCash` leaves the
time stamp which it got, and `RecordRiskDecision` stores its own time.
-/
theorem read_your_write (now served : Nat) (store : RedisStore) :
    (∀ (codec : RecordCodec AccountState) (state : AccountState)
        (expiration : Nat),
        (((stampedAccounts codec).setLeaving now state expiration).exec
            (serve served) store).1.1 = none →
          ((stampedAccounts codec).ReadsBack now expiration served state
              store ↔
            state.lastUpdated = unixNano now)) ∧
      (∀ (Score : Type) [OfScientific Score]
        (codec : RecordCodec (CircuitBreaker Score))
        (cb : CircuitBreaker Score) (expiration : Nat),
        (((stampedBreakers codec).setLeaving now cb expiration).exec
            (serve served) store).1.1 = none →
          ((stampedBreakers codec).ReadsBack now expiration served cb
              store ↔
            cb.lastUpdated = unixNano now)) ∧
      (∀ (codec : RecordCodec AccountState) (accountID : String)
        (delta : Int64),
        (accountStateManager codec).Owned accountID store →
        ((AccountStateManager.updateCash codec now accountID delta).exec
            (serve served) store).1 = none →
          ∃ state,
            ((AccountStateManager.get codec now accountID).exec
                (serve served) store).1 = .ok state ∧
              (unixNano now ≤
                  ((accountStateManager codec).stored
                    ((AccountStateManager.updateCash codec now accountID
                      delta).exec (serve served) store).2
                    accountID).lastUpdated ↔
                unixNano now ≤ state.lastUpdated)) ∧
      ∀ (Score : Type) [LE Score] [DecidableLE Score] [OfScientific Score]
        (codec : RecordCodec (CircuitBreaker Score)) (accountID : String)
        (decision : RiskDecision Score),
        (circuitBreakerManager codec).Owned accountID store →
        ((CircuitBreakerManager.recordRiskDecision codec now accountID
            decision).exec (serve served) store).1 = none →
          unixNano now ≤
            (storedBreaker codec accountID
              ((CircuitBreakerManager.recordRiskDecision codec now accountID
                decision).exec (serve served) store).2).lastUpdated := by
  refine ⟨?_, ?_, ?_, ?_⟩
  · intro codec state expiration returned
    exact StampedManager.readsBack_iff returned
  · intro Score _ codec cb expiration returned
    exact StampedManager.readsBack_iff returned
  · intro codec accountID delta owned returned
    have updateOwned :
        ∀ state : AccountState,
          (accountStateManager codec).accountID (state.updateCash delta) =
            (accountStateManager codec).accountID state :=
      fun _ => rfl
    obtain ⟨state, isGot, isStored⟩ :=
      RecordManager.stored_of_modify owned updateOwned returned
    refine ⟨state, isGot, ?_⟩
    rw [AccountStateManager.updateCash, isStored]
    rfl
  · intro Score _ _ _ codec accountID decision owned returned
    obtain ⟨cb, -, isStored⟩ :=
      RecordManager.stored_of_modify owned
        (fun cb => accountID_recordDecision cb now decision) returned
    rw [storedBreaker, CircuitBreakerManager.recordRiskDecision, isStored]
    exact Int64.le_of_eq (lastUpdated_recordDecision cb now decision).symm

theorem read_your_write_sample :
    ((stampedAccounts fundedCodec).ReadsBack 1 day 0 (fundedAccount 10) ∅ ↔
        (fundedAccount 10).lastUpdated = unixNano 1) ∧
      ((stampedBreakers blockedCodec).ReadsBack 1 day 0
          (blockedBreaker [true]) ∅ ↔
        (blockedBreaker [true]).lastUpdated = unixNano 1) ∧
      (∃ state,
        ((AccountStateManager.get fundedCodec 0 "acc-123").exec (serve 0)
            ∅).1 = .ok state ∧
          (unixNano 0 ≤
              ((accountStateManager fundedCodec).stored
                ((AccountStateManager.updateCash fundedCodec 0 "acc-123"
                  10).exec (serve 0) ∅).2 "acc-123").lastUpdated ↔
            unixNano 0 ≤ state.lastUpdated)) ∧
      unixNano 0 ≤
        (storedBreaker blockedCodec "acc-123"
          ((CircuitBreakerManager.recordRiskDecision blockedCodec 0 "acc-123"
            (twoBlocks true)).exec (serve 0) ∅).2).lastUpdated :=
  ⟨(read_your_write 1 0 ∅).1 fundedCodec (fundedAccount 10) day
      (by decide +kernel),
    (read_your_write 1 0 ∅).2.1 ℚ blockedCodec (blockedBreaker [true]) day
      (by decide +kernel),
    (read_your_write 0 0 ∅).2.2.1 fundedCodec "acc-123" 10
      (fun entry record stored => by cases stored) (by decide +kernel),
    (read_your_write 0 0 ∅).2.2.2 ℚ blockedCodec "acc-123" (twoBlocks true)
      (fun entry record stored => by cases stored) (by decide +kernel)⟩

/-- An account which is set a nanosecond after it was made. -/
theorem read_your_write_fails :
    ¬ ∀ (codec : RecordCodec AccountState) (state : AccountState)
        (now expiration served : Nat) (store : RedisStore),
        (((stampedAccounts codec).setLeaving now state expiration).exec
            (serve served) store).1.1 = none →
          (stampedAccounts codec).ReadsBack now expiration served state
            store := by
  intro readsBack
  have returned :
      (((stampedAccounts fundedCodec).setLeaving 1 (fundedAccount 10)
        day).exec (serve 0) ∅).1.1 = none := by
    decide +kernel
  have stale :=
    (StampedManager.readsBack_iff returned).mp
      (readsBack fundedCodec (fundedAccount 10) 1 day 0 ∅ returned)
  exact absurd stale (by decide)

end AeroRisk.Cache
