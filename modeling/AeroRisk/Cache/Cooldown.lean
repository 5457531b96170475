import AeroRisk.Cache.BreakerHistory

/-!
# What ends a cooldown

A decision which trips the breaker of an account blocks the account for the
cooldown.  A success closes the breaker at once, also while the cooldown lasts,
and then only another trip blocks the account again.  Records which expire and
calls which return an error play no part in this.
-/

namespace AeroRisk.Cache

open AeroRisk.Library
open AeroRisk.Library.Messages

variable {Score : Type} [LE Score] [DecidableLE Score] [OfScientific Score]

section Decisions

variable (cb : CircuitBreaker Score) (now : Nat)
  (decision : RiskDecision Score)

omit [OfScientific Score]

theorem state_recordDecision :
    (cb.recordDecision now decision).state =
      if decision.allowed then .circuitBreakClosed
      else if cb.threshold ≤ decision.riskScore then .circuitBreakOpen
      else cb.state := by
  rw [CircuitBreaker.recordDecision]
  split
  · rfl
  · exact cb.state_recordFailure now _ _

theorem openedAt_recordDecision :
    (cb.recordDecision now decision).openedAt =
      if decision.allowed = false ∧ cb.threshold ≤ decision.riskScore then
        unixMilli now
      else
        cb.openedAt := by
  rw [CircuitBreaker.recordDecision]
  by_cases allowed : decision.allowed = true
  · simp [allowed, CircuitBreaker.recordSuccess]
  · simp [allowed]

@[simp]
theorem threshold_recordDecision :
    (cb.recordDecision now decision).threshold = cb.threshold := by
  rw [CircuitBreaker.recordDecision]
  split
  · rfl
  · exact cb.threshold_recordFailure now _ _

@[simp]
theorem cooldownMs_recordDecision :
    (cb.recordDecision now decision).cooldownMs = cb.cooldownMs := by
  rw [CircuitBreaker.recordDecision]
  split
  · rfl
  · exact cb.cooldownMs_recordFailure now _ _

variable {call : ManagerCall Score} {decision}
  (operation : call.operation = .recordRiskDecision decision)

include operation

omit [LE Score] [DecidableLE Score] in
theorem succeeds_iff : call.timed.Succeeds ↔ decision.allowed = true := by
  rw [TimedCall.Succeeds, ManagerCall.timed, operation]
  cases allowed : decision.allowed <;> simp [allowed]

omit [DecidableLE Score] in
theorem trips_iff (threshold : Score) :
    call.timed.Trips threshold ↔
      decision.allowed = false ∧ threshold ≤ decision.riskScore := by
  rw [TimedCall.Trips, ManagerCall.timed, operation]
  cases allowed : decision.allowed <;> simp [allowed]

end Decisions

namespace CircuitBreakerManager

variable (codec : RecordCodec (CircuitBreaker Score)) (accountID : String)

/-- The call records a success on the account. -/
def RecordsSuccess (store : RedisStore) (call : ManagerCall Score) : Prop :=
  call.accountID = accountID ∧ (perform codec store call).1 = none ∧
    call.timed.Succeeds

/-- The call records a failure on the account which reaches the threshold. -/
def RecordsTrip (store : RedisStore) (call : ManagerCall Score) : Prop :=
  call.accountID = accountID ∧ (perform codec store call).1 = none ∧
    call.timed.Trips 0.8

omit [LE Score] [DecidableLE Score] in
/-- Every account has a breaker of its own with the default settings. -/
def DefaultBreakers (store : RedisStore) : Prop :=
  ∀ accountID entry,
    store.lookup (circuitBreakKey accountID) = some entry →
      ∃ cb,
        codec.unmarshal entry.value = .ok cb ∧
          cb.accountID = accountID ∧
          cb.threshold = 0.8 ∧
          cb.cooldownMs = 60000

omit [LE Score] [DecidableLE Score] [OfScientific Score] in
/--
The breaker of the account is open since the trip or a later time, and its
record lasts a day after the trip.
-/
def Blocks (trip : ClockTime) (now : Nat) (store : RedisStore) : Prop :=
  ∃ entry cb opened,
    store.lookup (circuitBreakKey accountID) = some entry ∧
      (∀ time ≤ milliseconds trip.now + day, entry.live time = true) ∧
      codec.unmarshal entry.value = .ok cb ∧
      cb.state = .circuitBreakOpen ∧
      cb.openedAt = unixMilli (ClockTime.now opened) ∧
      trip.now ≤ opened.now ∧ opened.now ≤ now

omit [LE Score] [DecidableLE Score] [OfScientific Score] in
/-- The breaker of the account is closed. -/
def Shut (store : RedisStore) : Prop :=
  ∀ entry cb,
    store.lookup (circuitBreakKey accountID) = some entry →
      codec.unmarshal entry.value = .ok cb →
        cb.state = .circuitBreakClosed

/-! ## What a call finds -/

variable {codec accountID} {store : RedisStore} {call : ManagerCall Score}

omit [LE Score] [DecidableLE Score] in
theorem DefaultBreakers.get (defaults : DefaultBreakers codec store)
    (now : Nat) (accountID : String) :
    ∃ cb,
      CircuitBreakerManager.get codec.unmarshal store now accountID =
          .ok cb ∧
        cb.accountID = accountID ∧
        cb.threshold = 0.8 ∧
        cb.cooldownMs = 60000 := by
  rw [CircuitBreakerManager.get]
  cases found :
      ExpiringStore.get store (milliseconds now)
        (circuitBreakKey accountID) with
  | none => exact ⟨_, rfl, rfl, rfl, rfl⟩
  | some data =>
      obtain ⟨entry, stored, rfl⟩ := ExpiringStore.lookup_of_get found
      exact defaults accountID entry stored

/-- A call which returns an error leaves the store as it was. -/
theorem next_of_error (refused : (perform codec store call).1 ≠ none) :
    CircuitBreakerManager.next codec store call = store := by
  rw [CircuitBreakerManager.next]
  rw [perform] at refused ⊢
  cases operation : call.operation with
  | isBlocked => rfl
  | recordRiskDecision decision =>
      rw [operation] at refused
      dsimp only at refused ⊢
      rw [recordRiskDecision, RecordManager.exec_modify] at refused ⊢
      cases decoded :
          (circuitBreakerManager codec).decode call.time.now call.accountID
            (.ok
              (ExpiringStore.get store (milliseconds call.time.now)
                ((circuitBreakerManager codec).key call.accountID))) with
      | error error => rfl
      | ok cb =>
          rw [decoded] at refused
          dsimp only at refused ⊢
          cases encoded :
              (circuitBreakerManager codec).codec.marshal
                (cb.recordDecision call.time.now decision) with
          | error error => rfl
          | ok data =>
              rw [encoded] at refused
              exact absurd rfl refused

/--
A call stores the changed breaker of its account, or it records nothing and
leaves the store as it was.
-/
theorem DefaultBreakers.next_cases (defaults : DefaultBreakers codec store)
    (call : ManagerCall Score) :
    ((∀ accountID,
        ¬ RecordsSuccess codec accountID store call ∧
          ¬ RecordsTrip codec accountID store call) ∧
        CircuitBreakerManager.next codec store call = store) ∨
      ∃ decision cb data,
        call.operation = .recordRiskDecision decision ∧
          (perform codec store call).1 = none ∧
          CircuitBreakerManager.get codec.unmarshal store call.time.now
              call.accountID =
            .ok cb ∧
          cb.accountID = call.accountID ∧
          cb.threshold = 0.8 ∧
          cb.cooldownMs = 60000 ∧
          codec.marshal (cb.recordDecision call.time.now decision) =
            .ok data ∧
          CircuitBreakerManager.next codec store call =
            ExpiringStore.set store (circuitBreakKey call.accountID) data
              (some (milliseconds call.time.now + day)) := by
  by_cases noError : (perform codec store call).1 = none
  · cases operation : call.operation with
    | isBlocked =>
        left
        refine ⟨fun accountID => ⟨?_, ?_⟩, ?_⟩
        · rintro ⟨-, -, succeeds⟩
          rw [TimedCall.Succeeds, ManagerCall.timed, operation] at succeeds
          cases succeeds
        · rintro ⟨-, -, reason, riskScore, isFailure, -⟩
          rw [ManagerCall.timed, operation] at isFailure
          cases isFailure
        · rw [CircuitBreakerManager.next, perform, operation]
    | recordRiskDecision decision =>
        right
        obtain ⟨cb, isGot, isOwn, threshold, cooldown⟩ :=
          defaults.get call.time.now call.accountID
        obtain ⟨data, encoded, isNext⟩ :=
          next_of_recorded operation noError isGot isOwn
        exact
          ⟨decision, cb, data, rfl, noError, isGot, isOwn, threshold,
            cooldown, encoded, isNext⟩
  · left
    refine ⟨fun accountID => ⟨?_, ?_⟩, next_of_error noError⟩
    · exact fun records => noError records.2.1
    · exact fun records => noError records.2.1

omit [LE Score] [DecidableLE Score] [OfScientific Score] in
theorem lookup_set (store : RedisStore) (accountID other : String)
    (data : RedisValue) (expiresAt : Option Nat) :
    (ExpiringStore.set store (circuitBreakKey accountID) data
        expiresAt).lookup (circuitBreakKey other) =
      if other = accountID then some { value := data, expiresAt }
      else store.lookup (circuitBreakKey other) := by
  by_cases same : other = accountID
  · rw [if_pos same, same]
    exact AList.lookup_insert _
  · rw [if_neg same]
    exact AList.lookup_insert_ne (circuitBreakKey_injective.ne same)

theorem DefaultBreakers.next (defaults : DefaultBreakers codec store)
    (call : ManagerCall Score) :
    DefaultBreakers codec (CircuitBreakerManager.next codec store call) := by
  rcases defaults.next_cases call with
    ⟨-, isNext⟩ |
      ⟨decision, cb, data, -, -, -, isOwn, threshold, cooldown, encoded,
        isNext⟩
  · rwa [isNext]
  · intro accountID entry stored
    rw [isNext, lookup_set] at stored
    split at stored
    · next same =>
        cases stored
        exact
          ⟨_, codec.roundTrip _ data encoded,
            ((accountID_recordDecision cb _ decision).trans isOwn).trans
              same.symm,
            (threshold_recordDecision cb _ decision).trans threshold,
            (cooldownMs_recordDecision cb _ decision).trans cooldown⟩
    · exact defaults accountID entry stored

omit [LE Score] [DecidableLE Score] [OfScientific Score] in
theorem Blocks.later {trip : ClockTime} {now : Nat}
    (blocks : Blocks codec accountID trip now store) {time : Nat}
    (ordered : now ≤ time) : Blocks codec accountID trip time store := by
  obtain
    ⟨entry, cb, opened, stored, live, decoded, isOpen, openedAt, after,
      before⟩ := blocks
  exact
    ⟨entry, cb, opened, stored, live, decoded, isOpen, openedAt, after,
      before.trans ordered⟩

/-- A trip which is recorded blocks its account. -/
theorem DefaultBreakers.blocks_of_trip
    (defaults : DefaultBreakers codec store)
    (records : RecordsTrip codec accountID store call) {trip : ClockTime}
    (ordered : trip.now ≤ call.time.now) :
    Blocks codec accountID trip call.time.now
      (CircuitBreakerManager.next codec store call) := by
  rcases defaults.next_cases call with
    ⟨nothing, -⟩ |
      ⟨decision, cb, data, operation, -, -, -, threshold, -, encoded, isNext⟩
  · exact absurd records (nothing accountID).2
  · obtain ⟨isAccount, -, trips⟩ := records
    obtain ⟨failure, reached⟩ := (trips_iff operation 0.8).mp trips
    rw [← threshold] at reached
    have later := milliseconds_le ordered
    refine
      ⟨⟨data, some (milliseconds call.time.now + day)⟩, _, call.time, ?_, ?_,
        codec.roundTrip _ data encoded, ?_, ?_, ordered, le_refl _⟩
    · rw [isNext, lookup_set, if_pos isAccount.symm]
    · intro time within
      simp only [Entry.live, Option.all_some, decide_eq_true_eq]
      omega
    · simp [state_recordDecision, failure, reached]
    · rw [openedAt_recordDecision, if_pos ⟨failure, reached⟩]

/-- A success which is recorded closes the breaker. -/
theorem DefaultBreakers.shut_of_success
    (defaults : DefaultBreakers codec store)
    (records : RecordsSuccess codec accountID store call) :
    Shut codec accountID (CircuitBreakerManager.next codec store call) := by
  rcases defaults.next_cases call with
    ⟨nothing, -⟩ |
      ⟨decision, cb, data, operation, -, -, -, -, -, encoded, isNext⟩
  · exact absurd records (nothing accountID).1
  · obtain ⟨isAccount, -, succeeds⟩ := records
    have allowed := (succeeds_iff operation).mp succeeds
    intro entry other stored decoded
    rw [isNext, lookup_set, if_pos isAccount.symm, Option.some.injEq] at stored
    rw [← stored, codec.roundTrip _ data encoded] at decoded
    cases decoded
    rw [state_recordDecision, if_pos allowed]

/-- A failure which is recorded and is no trip is below the threshold. -/
theorem below_of_not_trip {decision : RiskDecision Score}
    (operation : call.operation = .recordRiskDecision decision)
    (noError : (perform codec store call).1 = none)
    (noTrip : ¬ RecordsTrip codec call.accountID store call)
    (failure : ¬ decision.allowed = true) :
    ¬ 0.8 ≤ decision.riskScore := by
  intro reached
  refine noTrip ⟨rfl, noError, (trips_iff operation 0.8).mpr ?_⟩
  exact ⟨by simpa using failure, reached⟩

/-- A block lasts through calls which record no success. -/
theorem Blocks.next {trip : ClockTime} {now : Nat}
    (blocks : Blocks codec accountID trip now store)
    (defaults : DefaultBreakers codec store)
    (ordered : now ≤ call.time.now)
    (within : milliseconds call.time.now ≤ milliseconds trip.now + day)
    (noSuccess : ¬ RecordsSuccess codec accountID store call) :
    Blocks codec accountID trip call.time.now
      (CircuitBreakerManager.next codec store call) := by
  obtain
    ⟨entry, cb, opened, stored, live, decoded, isOpen, openedAt, after,
      before⟩ := blocks
  rcases defaults.next_cases call with
    ⟨-, isNext⟩ |
      ⟨decision, got, data, operation, noError, isGot, -, threshold, -,
        encoded, isNext⟩
  · rw [isNext]
    exact
      ⟨entry, cb, opened, stored, live, decoded, isOpen, openedAt, after,
        before.trans ordered⟩
  · by_cases isAccount : accountID = call.accountID
    · subst isAccount
      by_cases trips : RecordsTrip codec call.accountID store call
      · exact
          defaults.blocks_of_trip trips (after.trans (before.trans ordered))
      · have failure : ¬ decision.allowed = true := fun allowed =>
          noSuccess ⟨rfl, noError, (succeeds_iff operation).mpr allowed⟩
        have stays : ¬ got.threshold ≤ decision.riskScore := by
          rw [threshold]
          exact below_of_not_trip operation noError trips failure
        have isStored : got = cb := by
          rw [CircuitBreakerManager.get,
            ExpiringStore.get_of_live stored (live _ within)] at isGot
          exact Except.ok.inj (isGot.symm.trans decoded)
        subst isStored
        refine
          ⟨⟨data, some (milliseconds call.time.now + day)⟩, _, opened, ?_, ?_,
            codec.roundTrip _ data encoded, ?_, ?_, after,
            before.trans ordered⟩
        · rw [isNext, lookup_set, if_pos rfl]
        · intro time within
          have later := milliseconds_le (after.trans (before.trans ordered))
          simp only [Entry.live, Option.all_some, decide_eq_true_eq]
          omega
        · rw [state_recordDecision, if_neg failure, if_neg stays, isOpen]
        · rw [openedAt_recordDecision, if_neg (fun both => stays both.2),
            openedAt]
    · refine
        ⟨entry, cb, opened, ?_, live, decoded, isOpen, openedAt, after,
          before.trans ordered⟩
      rw [isNext, lookup_set, if_neg isAccount, stored]

/-- A closed breaker stays closed through calls which record no trip. -/
theorem Shut.next (shut : Shut codec accountID store)
    (defaults : DefaultBreakers codec store)
    (noTrip : ¬ RecordsTrip codec accountID store call) :
    Shut codec accountID (CircuitBreakerManager.next codec store call) := by
  rcases defaults.next_cases call with
    ⟨-, isNext⟩ |
      ⟨decision, got, data, operation, noError, isGot, -, threshold, -,
        encoded, isNext⟩
  · rwa [isNext]
  · by_cases isAccount : accountID = call.accountID
    · subst isAccount
      have closed : got.state = .circuitBreakClosed := by
        rw [CircuitBreakerManager.get] at isGot
        cases found :
            ExpiringStore.get store (milliseconds call.time.now)
              (circuitBreakKey call.accountID) with
        | none =>
            rw [found] at isGot
            cases isGot
            rfl
        | some value =>
            rw [found] at isGot
            obtain ⟨entry, stored, rfl⟩ := ExpiringStore.lookup_of_get found
            exact shut entry got stored isGot
      intro entry cb stored decoded
      rw [isNext, lookup_set, if_pos rfl, Option.some.injEq] at stored
      rw [← stored, codec.roundTrip _ data encoded] at decoded
      cases decoded
      rw [state_recordDecision, closed]
      split
      · rfl
      · next failure =>
          rw [if_neg]
          rw [threshold]
          exact below_of_not_trip operation noError noTrip failure
    · intro entry cb stored decoded
      rw [isNext, lookup_set, if_neg isAccount] at stored
      exact shut entry cb stored decoded

/-! ## What a query finds -/

omit [LE Score] [DecidableLE Score] in
theorem Blocks.isBlocked {trip t : ClockTime}
    (blocks : Blocks codec accountID trip t.now store)
    (defaults : DefaultBreakers codec store)
    (within :
      (milliseconds t.now : Int) - milliseconds trip.now < 60000) :
    (CircuitBreakerManager.isBlocked codec.unmarshal store t.now
      accountID).1 = true := by
  obtain
    ⟨entry, cb, opened, stored, live, decoded, isOpen, openedAt, after,
      before⟩ := blocks
  obtain ⟨other, isOther, -, -, cooldown⟩ := defaults accountID entry stored
  obtain rfl : other = cb := Except.ok.inj (isOther.symm.trans decoded)
  have isLive : entry.live (milliseconds t.now) = true := by
    apply live
    simp only [day]
    omega
  have positive : 0 < other.cooldownMs := by
    rw [cooldown]
    decide
  have elapsed := le_elapsed_iff before other.cooldownMs
  have later := milliseconds_le after
  have notOver :
      ¬ other.cooldownMs ≤ unixMilli t.now - other.openedAt := by
    rw [openedAt, elapsed, cooldown]
    have isMinute : (60000 : Int64).toInt = 60000 := rfl
    omega
  rw [CircuitBreakerManager.isBlocked, CircuitBreakerManager.get,
    ExpiringStore.get_of_live stored isLive]
  dsimp only
  rw [decoded]
  dsimp only
  rw [CircuitBreaker.isOpen_of_open _ isOpen positive, if_neg notOver]

omit [LE Score] [DecidableLE Score] in
theorem Shut.isBlocked (shut : Shut codec accountID store) (now : Nat) :
    (CircuitBreakerManager.isBlocked codec.unmarshal store now
      accountID).1 = false := by
  rw [← Bool.not_eq_true, isBlocked_iff]
  rintro ⟨data, cb, found, decoded, isOpen⟩
  obtain ⟨entry, stored, rfl⟩ := ExpiringStore.lookup_of_get found
  have closed := shut entry cb stored decoded
  rw [CircuitBreaker.isOpen_of_closed now closed] at isOpen
  cases isOpen

/-! ## What happens after a trip -/

/-- The store after some calls. -/
abbrev storeAfter (codec : RecordCodec (CircuitBreaker Score))
    (store : RedisStore) (calls : List (ManagerCall Score)) : RedisStore :=
  LabelledRun.run (CircuitBreakerManager.next codec) store calls

theorem DefaultBreakers.after (defaults : DefaultBreakers codec store)
    (calls : List (ManagerCall Score)) :
    DefaultBreakers codec (storeAfter codec store calls) :=
  LabelledRun.run_invariant_of_every (fun _ call held => held.next call)
    calls defaults

/--
After a recorded trip the account is blocked until a success is recorded, and
from then on shut until another trip is.
-/
theorem DefaultBreakers.after_trip (defaults : DefaultBreakers codec store)
    {trip : ManagerCall Score}
    (records : RecordsTrip codec accountID store trip)
    {later : List (ManagerCall Score)} {t : ClockTime}
    (ordered :
      ((trip :: later).map (fun call => call.time.now) ++ [t.now]).Pairwise
        (· ≤ ·))
    (within : milliseconds t.now ≤ milliseconds trip.time.now + day) :
    (LabelledRun.Unanswered (CircuitBreakerManager.next codec)
        (RecordsSuccess codec accountID) (RecordsTrip codec accountID)
        (CircuitBreakerManager.next codec store trip) later →
      Shut codec accountID (storeAfter codec store (trip :: later))) ∧
    (¬ LabelledRun.Unanswered (CircuitBreakerManager.next codec)
          (RecordsSuccess codec accountID) (RecordsTrip codec accountID)
          (CircuitBreakerManager.next codec store trip) later →
      Blocks codec accountID trip.time t.now
        (storeAfter codec store (trip :: later))) := by
  induction later using List.reverseRecOn generalizing t with
  | nil =>
      have tripped := defaults.blocks_of_trip records (le_refl _)
      have before : trip.time.now ≤ t.now := by simpa using ordered
      exact
        ⟨fun unanswered => absurd unanswered
            (LabelledRun.not_unanswered_nil _),
          fun _ => tripped.later before⟩
  | append_singleton later call inductionHypothesis =>
      rw [← List.cons_append, List.map_append, List.map_singleton,
        List.pairwise_append] at ordered
      have before : call.time.now ≤ t.now :=
        ordered.2.2 _ (by simp) _ (by simp)
      have earlier := milliseconds_le before
      obtain ⟨shut, blocks⟩ :=
        @inductionHypothesis call.time ordered.1 (by omega)
      have reached := defaults.after (trip :: later)
      have isNext :
          storeAfter codec store (trip :: (later ++ [call])) =
            CircuitBreakerManager.next codec
              (storeAfter codec store (trip :: later)) call := by
        rw [storeAfter, ← List.cons_append, LabelledRun.run_append]
        rfl
      rw [isNext, LabelledRun.unanswered_concat, ← LabelledRun.run_cons]
      constructor
      · rintro (success | ⟨unanswered, noTrip⟩)
        · exact reached.shut_of_success success
        · exact (shut unanswered).next reached noTrip
      · intro answered
        rw [not_or, not_and_not_right] at answered
        refine Blocks.later ?_ before
        by_cases isTrip :
            RecordsTrip codec accountID
              (storeAfter codec store (trip :: later)) call
        · have afterTrip : trip.time.now ≤ call.time.now :=
            (List.pairwise_append.mp ordered.1).2.2 _ (by simp) _ (by simp)
          exact reached.blocks_of_trip isTrip afterTrip
        · exact
            (blocks fun unanswered => isTrip (answered.2 unanswered)).next
              reached (le_refl _) (by omega) answered.1

end CircuitBreakerManager

open CircuitBreakerManager

/--
While the cooldown of a recorded trip lasts, its account is blocked exactly
when no success has been recorded since, or another trip after the last one.
-/
theorem cooldown_holds {Score : Type} [LE Score] [DecidableLE Score]
    [OfScientific Score] (codec : RecordCodec (CircuitBreaker Score))
    (accountID : String) (store : RedisStore)
    (defaults : DefaultBreakers codec store)
    (earlier : List (ManagerCall Score)) (trip : ManagerCall Score)
    (records :
      RecordsTrip codec accountID (storeAfter codec store earlier) trip)
    (later : List (ManagerCall Score)) (t : ClockTime)
    (ordered :
      ((trip :: later).map (fun call => call.time.now) ++ [t.now]).Pairwise
        (· ≤ ·))
    (within :
      (milliseconds t.now : Int) - milliseconds trip.time.now < 60000) :
    (isBlocked codec.unmarshal
        (storeAfter codec store (earlier ++ trip :: later)) t.now
        accountID).1 = true ↔
      ¬ LabelledRun.Unanswered (CircuitBreakerManager.next codec)
          (RecordsSuccess codec accountID) (RecordsTrip codec accountID)
          (storeAfter codec store (earlier ++ [trip])) later := by
  have reached := defaults.after earlier
  have lasts : milliseconds t.now ≤ milliseconds trip.time.now + day := by
    simp only [day]
    omega
  obtain ⟨shut, blocks⟩ := reached.after_trip records ordered lasts
  have atEnd := reached.after (trip :: later)
  rw [storeAfter, storeAfter, LabelledRun.run_append, LabelledRun.run_append]
  constructor
  · intro isBlocked unanswered
    rw [(shut unanswered).isBlocked] at isBlocked
    cases isBlocked
  · intro answered
    exact (blocks answered).isBlocked atEnd within

/-- A decision about the account of the tests, at time zero. -/
def decisionAtZero (decision : RiskDecision ℚ) : ManagerCall ℚ where
  accountID := "acc-123"
  time := ⟨0, by decide⟩
  operation := .recordRiskDecision decision

theorem cooldown_holds_sample :
    (isBlocked blockedCodec.unmarshal
        (storeAfter blockedCodec ∅
          [decisionAtZero (twoBlocks true), decisionAtZero (twoBlocks false)])
        59999999999 "acc-123").1 = true ↔
      ¬ LabelledRun.Unanswered (CircuitBreakerManager.next blockedCodec)
          (RecordsSuccess blockedCodec "acc-123")
          (RecordsTrip blockedCodec "acc-123")
          (storeAfter blockedCodec ∅ [decisionAtZero (twoBlocks true)])
          [decisionAtZero (twoBlocks false)] :=
  cooldown_holds blockedCodec "acc-123" ∅
    (fun accountID entry stored => by cases stored) []
    (decisionAtZero (twoBlocks true))
    ⟨rfl, by decide +kernel, "high_risk", 0.9, rfl, by decide +kernel⟩
    [decisionAtZero (twoBlocks false)] ⟨59999999999, by decide⟩
    (by simp [decisionAtZero]) (by decide)

/-- A decision about an earlier order which arrives after a block. -/
def allowedDecision : RiskDecision ℚ where
  allowed := true
  riskScore := 0.1
  reason := ""

/-- The codec for the breaker of a block and of an allowed decision after it. -/
def releasedCodec : RecordCodec (CircuitBreaker ℚ) :=
  .ofRows
    [(blockedBreaker [true], blockedText "1" "1" "high_risk" "0.9"),
      ((blockedBreaker [true]).recordDecision 0 allowedDecision,
        blockedText "0" "0" "high_risk" "0.9")]
    (by decide)

/-- The allowed decision opens the way again at once. -/
theorem cooldown_holds_fails :
    ¬ ∀ (codec : RecordCodec (CircuitBreaker ℚ)) (accountID : String)
        (store : RedisStore),
        (∀ account, store.lookup (circuitBreakKey account) = none) →
        ∀ (earlier : List (ManagerCall ℚ)) (trip : ManagerCall ℚ)
          (later : List (ManagerCall ℚ)) (t : ClockTime),
          RecordsTrip codec accountID (storeAfter codec store earlier) trip →
          ((earlier ++ trip :: later).map (fun call => call.time.now) ++
              [t.now]).Pairwise (· ≤ ·) →
          (milliseconds t.now : Int) - milliseconds trip.time.now < 60000 →
            (isBlocked codec.unmarshal
              (storeAfter codec store (earlier ++ trip :: later)) t.now
              accountID).1 = true := by
  intro holds
  have isBlocked :=
    holds releasedCodec "acc-123" ∅ (fun _ => rfl) []
      (decisionAtZero (twoBlocks true)) [decisionAtZero allowedDecision]
      ⟨0, by decide⟩
      ⟨rfl, by decide +kernel, "high_risk", 0.9, rfl, by decide +kernel⟩
      (by simp [decisionAtZero]) (by decide)
  exact absurd isBlocked (by decide +kernel)

end AeroRisk.Cache
