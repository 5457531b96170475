import AeroRisk.Cache.RiskDecisions
import AeroRisk.Financial

/-!
# What a breaker knows of its history

A breaker is open for its cooldown after the latest failure which tripped it,
unless a success came later.  Times are compared in whole milliseconds of the
clock, and so is the cooldown.  A query may change an open breaker to half
open, but whether it does depends on the time only, so that nothing is lost
when the manager does not store the change.
-/

namespace AeroRisk.Cache

open AeroRisk.Library
open AeroRisk.Library.Messages

/-- A reading of the clock whose milliseconds are an `int64`. -/
structure ClockTime where
  now : Nat
  representable : (milliseconds now : Int) ≤ Int64.maxValue.toInt

/-- A call on a breaker. -/
inductive BreakerCall (Score : Type) where
  | recordFailure (reason : String) (riskScore : Score)
  | recordSuccess
  | isOpen
deriving DecidableEq, Repr

/-- A call with the time at which it reads the clock. -/
structure TimedCall (Score : Type) where
  time : ClockTime
  call : BreakerCall Score

variable {Score : Type} [LE Score]

namespace TimedCall

/-- The call is a success. -/
def Succeeds (timed : TimedCall Score) : Prop :=
  timed.call = .recordSuccess

/-- The call is a failure with a score which reaches the threshold. -/
def Trips (threshold : Score) (timed : TimedCall Score) : Prop :=
  ∃ reason riskScore,
    timed.call = .recordFailure reason riskScore ∧ threshold ≤ riskScore

end TimedCall

/--
After the latest success there was a failure which reached the threshold, and
the time of the latest such failure has a property.
-/
def LatestTrip (threshold : Score) (past : List (TimedCall Score))
    (property : ClockTime → Prop) : Prop :=
  ∃ before trip after,
    past = before ++ trip :: after ∧
      trip.Trips threshold ∧
      (∀ later ∈ after, ¬ later.Succeeds ∧ ¬ later.Trips threshold) ∧
      property trip.time

/-- The times of some calls and of one more do not decrease. -/
def OrderedUntil (past : List (TimedCall Score)) (t : ClockTime) : Prop :=
  (past.map (fun timed => timed.time.now) ++ [t.now]).Pairwise (· ≤ ·)

namespace CircuitBreaker

variable [DecidableLE Score]

/-- The breaker after a call. -/
def next (cb : CircuitBreaker Score) (timed : TimedCall Score) :
    CircuitBreaker Score :=
  match timed.call with
  | .recordFailure reason riskScore =>
      cb.recordFailure timed.time.now reason riskScore
  | .recordSuccess => cb.recordSuccess timed.time.now
  | .isOpen => (cb.isOpen timed.time.now).2

end CircuitBreaker

/-! ## The time of the latest trip -/

section TripTime

variable (threshold : Score)

theorem latestTrip_concat (past : List (TimedCall Score))
    (timed : TimedCall Score) (property : ClockTime → Prop) :
    LatestTrip threshold (past ++ [timed]) property ↔
      timed.Trips threshold ∧ property timed.time ∨
        ¬ timed.Succeeds ∧ ¬ timed.Trips threshold ∧
          LatestTrip threshold past property := by
  constructor
  · rintro ⟨before, trip, after, split, trips, silent, holds⟩
    induction after using List.reverseRecOn with
    | nil =>
        obtain ⟨-, same⟩ := List.append_inj' split rfl
        rw [List.singleton_inj] at same
        exact .inl ⟨same ▸ trips, same ▸ holds⟩
    | append_singleton after last _ =>
        rw [← List.cons_append, ← List.append_assoc] at split
        obtain ⟨shorter, same⟩ := List.append_inj' split rfl
        rw [List.singleton_inj] at same
        rw [List.forall_mem_append, List.forall_mem_singleton] at silent
        obtain ⟨notSucceeds, notTrips⟩ := silent.2
        refine .inr ⟨same ▸ notSucceeds, same ▸ notTrips, ?_⟩
        exact ⟨before, trip, after, shorter, trips, silent.1, holds⟩
  · rintro (⟨trips, holds⟩ | ⟨notSucceeds, notTrips, latest⟩)
    · exact ⟨past, timed, [], rfl, trips, by simp, holds⟩
    · obtain ⟨before, trip, after, rfl, trips, silent, holds⟩ := latest
      refine
        ⟨before, trip, after ++ [timed], by simp, trips, ?_, holds⟩
      rw [List.forall_mem_append, List.forall_mem_singleton]
      exact ⟨silent, notSucceeds, notTrips⟩

variable [DecidableLE Score]

/-- How a call changes the time of the latest trip since a success. -/
def recordTrip (latest : Option ClockTime) (timed : TimedCall Score) :
    Option ClockTime :=
  match timed.call with
  | .recordFailure _ riskScore =>
      if threshold ≤ riskScore then some timed.time else latest
  | .recordSuccess => none
  | .isOpen => latest

/-- The time of the latest trip, if no success came later. -/
def tripTime (past : List (TimedCall Score)) : Option ClockTime :=
  past.foldl (recordTrip threshold) none

@[simp]
theorem tripTime_nil : tripTime threshold ([] : List (TimedCall Score)) = none :=
  rfl

@[simp]
theorem tripTime_concat (past : List (TimedCall Score))
    (timed : TimedCall Score) :
    tripTime threshold (past ++ [timed]) =
      recordTrip threshold (tripTime threshold past) timed := by
  rw [tripTime, List.foldl_append, tripTime]
  rfl

theorem recordTrip_of_trips {timed : TimedCall Score}
    (trips : timed.Trips threshold) (latest : Option ClockTime) :
    recordTrip threshold latest timed = some timed.time := by
  obtain ⟨reason, riskScore, call, reached⟩ := trips
  rw [recordTrip, call]
  exact if_pos reached

theorem recordTrip_of_succeeds {timed : TimedCall Score}
    (succeeds : timed.Succeeds) (latest : Option ClockTime) :
    recordTrip threshold latest timed = none := by
  rw [TimedCall.Succeeds] at succeeds
  rw [recordTrip, succeeds]

theorem recordTrip_of_neither {timed : TimedCall Score}
    (notSucceeds : ¬ timed.Succeeds) (notTrips : ¬ timed.Trips threshold)
    (latest : Option ClockTime) : recordTrip threshold latest timed = latest := by
  rw [recordTrip]
  cases call : timed.call with
  | recordFailure reason riskScore =>
      refine if_neg fun reached => notTrips ?_
      exact ⟨reason, riskScore, call, reached⟩
  | recordSuccess => exact absurd call notSucceeds
  | isOpen => rfl

/-- The latest trip has a property exactly when its time is known and has. -/
theorem latestTrip_iff (past : List (TimedCall Score))
    (property : ClockTime → Prop) :
    LatestTrip threshold past property ↔
      ∃ time, tripTime threshold past = some time ∧ property time := by
  induction past using List.reverseRecOn with
  | nil => simp [LatestTrip]
  | append_singleton past timed inductionHypothesis =>
      rw [latestTrip_concat, tripTime_concat, inductionHypothesis]
      by_cases trips : timed.Trips threshold
      · simp [trips, recordTrip_of_trips threshold trips]
      · by_cases succeeds : timed.Succeeds
        · simp [trips, succeeds, recordTrip_of_succeeds threshold succeeds]
        · simp [trips, succeeds,
            recordTrip_of_neither threshold succeeds trips]

end TripTime

/-! ## The breaker follows its history -/

theorem toInt_unixMilli (t : ClockTime) :
    (unixMilli t.now).toInt = milliseconds t.now := by
  have representable := t.representable
  rw [Int64.toInt_maxValue] at representable
  exact Int64.toInt_ofNat_of_lt (by omega)

theorem milliseconds_le {earlier later : Nat} (ordered : earlier ≤ later) :
    milliseconds earlier ≤ milliseconds later :=
  Nat.div_le_div_right ordered

/-- Milliseconds are counted exactly between two times. -/
theorem le_elapsed_iff {earlier later : ClockTime}
    (ordered : earlier.now ≤ later.now) (cooldownMs : Int64) :
    cooldownMs ≤ unixMilli later.now - unixMilli earlier.now ↔
      cooldownMs.toInt ≤
        (milliseconds later.now : Int) - milliseconds earlier.now := by
  have nonneg : 0 ≤ unixMilli earlier.now := by
    rw [← Financial.toInt_nonneg, toInt_unixMilli]
    omega
  have le : unixMilli earlier.now ≤ unixMilli later.now := by
    have milliseconds := milliseconds_le ordered
    rw [Int64.le_iff_toInt_le, toInt_unixMilli, toInt_unixMilli]
    omega
  rw [Int64.le_iff_toInt_le, Financial.toInt_sub_of_le nonneg le,
    toInt_unixMilli, toInt_unixMilli]

/--
The breaker at some time has followed the calls: it is closed when no trip
counts, and otherwise it keeps when the latest one happened, and is open until
a query finds that the cooldown is over.
-/
structure Tracks [DecidableLE Score] (threshold : Score) (cooldownMs : Int64)
    (past : List (TimedCall Score)) (now : Nat)
    (cb : CircuitBreaker Score) : Prop where
  sameThreshold : cb.threshold = threshold
  sameCooldown : cb.cooldownMs = cooldownMs
  closed :
    tripTime threshold past = none → cb.state = .circuitBreakClosed
  tripped :
    ∀ trip,
      tripTime threshold past = some trip →
        trip.now ≤ now ∧
          cb.openedAt = unixMilli trip.now ∧
          (cb.state = .circuitBreakOpen ∨
            cb.state = .circuitBreakHalfOpen ∧
              cooldownMs.toInt ≤
                (milliseconds now : Int) - milliseconds trip.now)

namespace Tracks

variable [DecidableLE Score]
  {threshold : Score} {cooldownMs : Int64}
  {past : List (TimedCall Score)} {now : Nat} {cb : CircuitBreaker Score}

/-- A new breaker follows calls of which no trip counts. -/
theorem newCircuitBreaker [OfScientific Score]
    (noTrip : tripTime threshold past = none) (created : Nat)
    (accountID : String) :
    Tracks threshold cooldownMs past now
      (Cache.newCircuitBreaker created accountID threshold cooldownMs) where
  sameThreshold := rfl
  sameCooldown := rfl
  closed := fun _ => rfl
  tripped := by
    intro trip known
    rw [noTrip] at known
    cases known

/-- Time goes on without a call. -/
theorem later (tracks : Tracks threshold cooldownMs past now cb)
    {time : Nat} (ordered : now ≤ time) :
    Tracks threshold cooldownMs past time cb where
  sameThreshold := tracks.sameThreshold
  sameCooldown := tracks.sameCooldown
  closed := tracks.closed
  tripped := by
    intro trip known
    obtain ⟨before, openedAt, state⟩ := tracks.tripped trip known
    refine ⟨before.trans ordered, openedAt, state.imp_right ?_⟩
    rintro ⟨halfOpen, cooled⟩
    have milliseconds := milliseconds_le ordered
    exact ⟨halfOpen, by omega⟩

/-- The breaker is open while its latest trip is within the cooldown. -/
theorem isOpen_iff (tracks : Tracks threshold cooldownMs past now cb)
    (positive : 0 < cooldownMs) {t : ClockTime} (ordered : now ≤ t.now) :
    (cb.isOpen t.now).1 = true ↔
      ∃ trip,
        tripTime threshold past = some trip ∧
          (milliseconds t.now : Int) - milliseconds trip.now <
            cooldownMs.toInt := by
  have sameCooldown := tracks.sameCooldown
  cases known : tripTime threshold past with
  | none =>
      rw [CircuitBreaker.isOpen_of_closed _ (tracks.closed known)]
      simp
  | some trip =>
      obtain ⟨before, openedAt, isOpen | ⟨halfOpen, cooled⟩⟩ :=
        tracks.tripped trip known
      · have elapsed := le_elapsed_iff (before.trans ordered) cooldownMs
        rw [CircuitBreaker.isOpen_of_open _ isOpen (sameCooldown ▸ positive)]
        simp only [openedAt, sameCooldown, elapsed]
        split <;> simp <;> omega
      · have milliseconds := milliseconds_le ordered
        rw [CircuitBreaker.isOpen_of_halfOpen _ halfOpen]
        simp
        omega

/-- A query keeps an open breaker or finds that the cooldown is over. -/
theorem isOpen (tracks : Tracks threshold cooldownMs past now cb)
    (positive : 0 < cooldownMs) {t : ClockTime} (ordered : now ≤ t.now) :
    Tracks threshold cooldownMs past t.now (cb.isOpen t.now).2 := by
  have later := tracks.later ordered
  have sameCooldown := tracks.sameCooldown
  cases known : tripTime threshold past with
  | none =>
      rw [CircuitBreaker.isOpen_of_closed _ (tracks.closed known)]
      exact later
  | some trip =>
      obtain ⟨before, openedAt, isOpen | ⟨halfOpen, cooled⟩⟩ :=
        later.tripped trip known
      · have elapsed := le_elapsed_iff before cooldownMs
        rw [CircuitBreaker.isOpen_of_open _ isOpen (sameCooldown ▸ positive)]
        split
        · next cooled =>
            rw [openedAt, sameCooldown, elapsed] at cooled
            exact
              { sameThreshold := later.sameThreshold
                sameCooldown := later.sameCooldown
                closed := by simp [known]
                tripped := by
                  intro other otherKnown
                  rw [known, Option.some.injEq] at otherKnown
                  subst otherKnown
                  exact ⟨before, openedAt, .inr ⟨rfl, cooled⟩⟩ }
        · exact later
      · rw [CircuitBreaker.isOpen_of_halfOpen _ halfOpen]
        exact later

/-- A success closes the breaker. -/
theorem recordSuccess (tracks : Tracks threshold cooldownMs past now cb)
    {timed : TimedCall Score} (succeeds : timed.Succeeds) :
    Tracks threshold cooldownMs (past ++ [timed]) timed.time.now
      (cb.recordSuccess timed.time.now) where
  sameThreshold := tracks.sameThreshold
  sameCooldown := tracks.sameCooldown
  closed := fun _ => rfl
  tripped := by
    intro trip known
    rw [tripTime_concat, recordTrip_of_succeeds threshold succeeds] at known
    cases known

/-- A failure opens the breaker when its score reaches the threshold. -/
theorem recordFailure (tracks : Tracks threshold cooldownMs past now cb)
    {timed : TimedCall Score} (ordered : now ≤ timed.time.now)
    {reason : String} {riskScore : Score}
    (call : timed.call = .recordFailure reason riskScore) :
    Tracks threshold cooldownMs (past ++ [timed]) timed.time.now
      (cb.recordFailure timed.time.now reason riskScore) := by
  have later := tracks.later ordered
  have sameThreshold :=
    (cb.threshold_recordFailure timed.time.now reason riskScore).trans
      tracks.sameThreshold
  have sameCooldown :=
    (cb.cooldownMs_recordFailure timed.time.now reason riskScore).trans
      tracks.sameCooldown
  by_cases reached : threshold ≤ riskScore
  · have known :
        tripTime threshold (past ++ [timed]) = some timed.time := by
      rw [tripTime_concat]
      exact recordTrip_of_trips threshold ⟨reason, riskScore, call, reached⟩ _
    have opens : cb.threshold ≤ riskScore := tracks.sameThreshold ▸ reached
    refine ⟨sameThreshold, sameCooldown, by simp [known], ?_⟩
    intro trip isTrip
    rw [known, Option.some.injEq] at isTrip
    subst isTrip
    refine ⟨le_refl _, ?_, .inl ?_⟩
    · rw [CircuitBreaker.openedAt_recordFailure, if_pos opens]
    · rw [CircuitBreaker.state_recordFailure, if_pos opens]
  · have notTrips : ¬ timed.Trips threshold := by
      rintro ⟨otherReason, otherScore, otherCall, otherReached⟩
      rw [call, BreakerCall.recordFailure.injEq] at otherCall
      exact reached (otherCall.2 ▸ otherReached)
    have notSucceeds : ¬ timed.Succeeds := by
      simp [TimedCall.Succeeds, call]
    have known :
        tripTime threshold (past ++ [timed]) = tripTime threshold past := by
      rw [tripTime_concat]
      exact recordTrip_of_neither threshold notSucceeds notTrips _
    have stays : ¬ cb.threshold ≤ riskScore := tracks.sameThreshold ▸ reached
    refine ⟨sameThreshold, sameCooldown, ?_, ?_⟩
    · rw [known, CircuitBreaker.state_recordFailure, if_neg stays]
      exact later.closed
    · rw [known, CircuitBreaker.state_recordFailure, if_neg stays,
        CircuitBreaker.openedAt_recordFailure, if_neg stays]
      exact later.tripped

theorem tripTime_query (past : List (TimedCall Score))
    {timed : TimedCall Score} (call : timed.call = .isOpen) :
    tripTime threshold (past ++ [timed]) = tripTime threshold past := by
  rw [tripTime_concat, recordTrip, call]

/-- A query adds nothing to the history. -/
theorem query (tracks : Tracks threshold cooldownMs past now cb)
    {timed : TimedCall Score} (call : timed.call = .isOpen) :
    Tracks threshold cooldownMs (past ++ [timed]) now cb := by
  refine ⟨tracks.sameThreshold, tracks.sameCooldown, ?_, ?_⟩
  · rw [tripTime_query past call]
    exact tracks.closed
  · rw [tripTime_query past call]
    exact tracks.tripped

theorem next (tracks : Tracks threshold cooldownMs past now cb)
    (positive : 0 < cooldownMs) {timed : TimedCall Score}
    (ordered : now ≤ timed.time.now) :
    Tracks threshold cooldownMs (past ++ [timed]) timed.time.now
      (cb.next timed) := by
  rw [CircuitBreaker.next]
  cases call : timed.call with
  | recordFailure reason riskScore => exact tracks.recordFailure ordered call
  | recordSuccess => exact tracks.recordSuccess call
  | isOpen => exact (tracks.isOpen positive ordered).query call

/-- A breaker follows all calls whose times do not decrease. -/
theorem run [OfScientific Score] (created : Nat) (accountID : String)
    (positive : 0 < cooldownMs) {t : ClockTime}
    (ordered : OrderedUntil past t) :
    Tracks threshold cooldownMs past t.now
      (LabelledRun.run CircuitBreaker.next
        (Cache.newCircuitBreaker created accountID threshold cooldownMs)
        past) := by
  induction past using List.reverseRecOn generalizing t with
  | nil => exact newCircuitBreaker rfl created accountID
  | append_singleton past timed inductionHypothesis =>
      rw [OrderedUntil, List.map_append, List.map_singleton,
        List.pairwise_append] at ordered
      have before := inductionHypothesis (t := timed.time) ordered.1
      rw [LabelledRun.run_append]
      refine (before.next positive (le_refl _)).later ?_
      exact ordered.2.2 _ (by simp) _ (by simp)

end Tracks

/-! ## Calls through the manager -/

/-- An operation of the manager on the breaker of an account. -/
inductive ManagerOperation (Score : Type) where
  | recordRiskDecision (decision : RiskDecision Score)
  | isBlocked
deriving DecidableEq, Repr

/-- A call of the manager with the time at which it reads the clock. -/
structure ManagerCall (Score : Type) where
  accountID : String
  time : ClockTime
  operation : ManagerOperation Score

omit [LE Score] in
/-- What a call of the manager is to the breaker of its account. -/
def ManagerCall.timed (call : ManagerCall Score) : TimedCall Score where
  time := call.time
  call :=
    match call.operation with
    | .recordRiskDecision decision =>
        if decision.allowed then
          .recordSuccess
        else
          .recordFailure decision.reason decision.riskScore
    | .isBlocked => .isOpen

/-- The calls on the breaker of an account, as they were made. -/
def breakerHistory (accountID : String) (calls : List (ManagerCall Score)) :
    List (TimedCall Score) :=
  (calls.filter fun call => call.accountID = accountID).map ManagerCall.timed

omit [LE Score] in
theorem breakerHistory_concat (accountID : String)
    (calls : List (ManagerCall Score)) (call : ManagerCall Score) :
    breakerHistory accountID (calls ++ [call]) =
      if call.accountID = accountID then
        breakerHistory accountID calls ++ [call.timed]
      else
        breakerHistory accountID calls := by
  rw [breakerHistory, List.filter_append, List.map_append]
  split
  · next same => simp [breakerHistory, same]
  · next different => simp [breakerHistory, different]

namespace CircuitBreakerManager

variable [DecidableLE Score] [OfScientific Score]
  (codec : RecordCodec (CircuitBreaker Score))

/-- A call executed alone: its error and the store which it leaves. -/
def perform (store : RedisStore) (call : ManagerCall Score) :
    Option String × RedisStore :=
  match call.operation with
  | .recordRiskDecision decision =>
      (recordRiskDecision codec call.time.now call.accountID decision).exec
        (serve (milliseconds call.time.now)) store
  | .isBlocked =>
      ((isBlocked codec.unmarshal store call.time.now call.accountID).2, store)

/-- The store after a call. -/
def next (store : RedisStore) (call : ManagerCall Score) : RedisStore :=
  (perform codec store call).2

/-- The call returns no error and finds no expired record. -/
def Undisturbed (store : RedisStore) (call : ManagerCall Score) : Prop :=
  (perform codec store call).1 = none ∧
    ∀ entry,
      store.lookup (circuitBreakKey call.accountID) = some entry →
        entry.live (milliseconds call.time.now) = true

instance (store : RedisStore) (call : ManagerCall Score) :
    Decidable (Undisturbed codec store call) :=
  @instDecidableAnd _ _ inferInstance
    (Option.decidableForallMem
      (store.lookup (circuitBreakKey call.accountID)))

/-- What is stored for every account follows the calls on its breaker. -/
def Follows (past : List (ManagerCall Score)) (now : Nat)
    (store : RedisStore) : Prop :=
  ∀ accountID,
    (store.lookup (circuitBreakKey accountID) = none →
      tripTime 0.8 (breakerHistory accountID past) = none) ∧
      ∀ entry,
        store.lookup (circuitBreakKey accountID) = some entry →
          ∃ cb,
            codec.unmarshal entry.value = .ok cb ∧
              cb.accountID = accountID ∧
              Tracks 0.8 60000 (breakerHistory accountID past) now cb

variable {codec} {past : List (ManagerCall Score)} {now : Nat}
  {store : RedisStore} {call : ManagerCall Score}

theorem circuitBreakKey_injective : Function.Injective circuitBreakKey := by
  intro first second same
  simpa [circuitBreakKey] using same

omit [LE Score] [DecidableLE Score] in
theorem get_eq_decode (store : RedisStore) (now : Nat) (accountID : String) :
    get codec.unmarshal store now accountID =
      (circuitBreakerManager codec).decode now accountID
        (.ok
          (ExpiringStore.get store (milliseconds now)
            (circuitBreakKey accountID))) := by
  rw [get]
  cases
    ExpiringStore.get store (milliseconds now)
      (circuitBreakKey accountID) <;> rfl

/-- What a call gets follows the calls before it. -/
theorem Follows.get (follows : Follows codec past now store)
    (live :
      ∀ entry,
        store.lookup (circuitBreakKey call.accountID) = some entry →
          entry.live (milliseconds call.time.now) = true) :
    ∃ cb,
      get codec.unmarshal store call.time.now call.accountID = .ok cb ∧
        cb.accountID = call.accountID ∧
        Tracks 0.8 60000 (breakerHistory call.accountID past) now cb := by
  rw [CircuitBreakerManager.get]
  cases stored : store.lookup (circuitBreakKey call.accountID) with
  | none =>
      have noTrip := (follows call.accountID).1 stored
      rw [ExpiringStore.get_of_lookup_none stored]
      exact ⟨_, rfl, rfl, .newCircuitBreaker noTrip _ _⟩
  | some entry =>
      rw [ExpiringStore.get_of_live stored (live entry stored)]
      exact (follows call.accountID).2 entry stored

theorem Follows.later (follows : Follows codec past now store) {time : Nat}
    (ordered : now ≤ time) : Follows codec past time store := by
  intro accountID
  refine ⟨(follows accountID).1, fun entry stored => ?_⟩
  obtain ⟨cb, decoded, isOwn, tracks⟩ := (follows accountID).2 entry stored
  exact ⟨cb, decoded, isOwn, tracks.later ordered⟩

/-- A call on an account leaves the other accounts alone. -/
theorem Follows.of_account {later : RedisStore}
    (follows : Follows codec past now store)
    (ordered : now ≤ call.time.now)
    (others :
      ∀ accountID, accountID ≠ call.accountID →
        later.lookup (circuitBreakKey accountID) =
          store.lookup (circuitBreakKey accountID))
    (own :
      (later.lookup (circuitBreakKey call.accountID) = none →
        tripTime 0.8
          (breakerHistory call.accountID past ++ [call.timed]) = none) ∧
        ∀ entry,
          later.lookup (circuitBreakKey call.accountID) = some entry →
            ∃ cb,
              codec.unmarshal entry.value = .ok cb ∧
                cb.accountID = call.accountID ∧
                Tracks 0.8 60000
                  (breakerHistory call.accountID past ++ [call.timed])
                  call.time.now cb) :
    Follows codec (past ++ [call]) call.time.now later := by
  intro accountID
  rw [breakerHistory_concat]
  by_cases same : accountID = call.accountID
  · subst same
    rwa [if_pos rfl]
  · rw [if_neg (Ne.symm same), others accountID same]
    exact follows.later ordered accountID

/-- A decision recorded without an error leaves the changed breaker stored. -/
theorem next_of_recorded
    {cb : CircuitBreaker Score} {decision : RiskDecision Score}
    (operation : call.operation = .recordRiskDecision decision)
    (noError : (perform codec store call).1 = none)
    (isGot :
      get codec.unmarshal store call.time.now call.accountID = .ok cb)
    (isOwn : cb.accountID = call.accountID) :
    ∃ data,
      codec.marshal (cb.recordDecision call.time.now decision) = .ok data ∧
        CircuitBreakerManager.next codec store call =
          ExpiringStore.set store (circuitBreakKey call.accountID) data
            (some (milliseconds call.time.now + day)) := by
  have decoded :
      (circuitBreakerManager codec).decode call.time.now call.accountID
          (.ok
            (ExpiringStore.get store (milliseconds call.time.now)
              ((circuitBreakerManager codec).key call.accountID))) =
        .ok cb :=
    (get_eq_decode store call.time.now call.accountID).symm.trans isGot
  have sameKey :
      (circuitBreakerManager codec).key
          ((circuitBreakerManager codec).accountID
            (cb.recordDecision call.time.now decision)) =
        circuitBreakKey call.accountID :=
    congrArg circuitBreakKey
      ((accountID_recordDecision cb _ decision).trans isOwn)
  rw [CircuitBreakerManager.next]
  rw [perform, operation] at noError ⊢
  dsimp only at noError ⊢
  rw [recordRiskDecision, RecordManager.exec_modify, decoded] at noError ⊢
  dsimp only at noError ⊢
  cases encoded :
      (circuitBreakerManager codec).codec.marshal
        (cb.recordDecision call.time.now decision) with
  | error error =>
      rw [encoded] at noError
      cases noError
  | ok data =>
      refine ⟨data, encoded, ?_⟩
      dsimp only
      rw [sameKey]

theorem Follows.next (follows : Follows codec past now store)
    (ordered : now ≤ call.time.now)
    (undisturbed : Undisturbed codec store call) :
    Follows codec (past ++ [call]) call.time.now (next codec store call) := by
  obtain ⟨noError, live⟩ := undisturbed
  obtain ⟨cb, isGot, isOwn, tracks⟩ := follows.get live
  cases operation : call.operation with
  | isBlocked =>
      have isQuery : call.timed.call = .isOpen := by
        rw [ManagerCall.timed, operation]
      rw [CircuitBreakerManager.next, perform, operation]
      apply follows.of_account ordered (fun _ _ => rfl)
      refine ⟨fun absent => ?_, fun entry stored => ?_⟩
      · rw [Tracks.tripTime_query _ isQuery]
        exact (follows call.accountID).1 absent
      · obtain ⟨cb, decoded, isOwn, tracks⟩ :=
          (follows call.accountID).2 entry stored
        exact ⟨cb, decoded, isOwn, (tracks.later ordered).query isQuery⟩
  | recordRiskDecision decision =>
      obtain ⟨data, encoded, isNext⟩ :=
        next_of_recorded operation noError isGot isOwn
      have onBreaker :
          cb.recordDecision call.time.now decision = cb.next call.timed := by
        rw [CircuitBreaker.next, ManagerCall.timed, operation,
          CircuitBreaker.recordDecision]
        dsimp only
        split <;> rfl
      have after :
          Tracks 0.8 60000
            (breakerHistory call.accountID past ++ [call.timed])
            call.time.now (cb.recordDecision call.time.now decision) := by
        rw [onBreaker]
        exact tracks.next (by decide) ordered
      rw [isNext]
      apply follows.of_account ordered
      · intro accountID different
        apply AList.lookup_insert_ne
        intro same
        exact different (circuitBreakKey_injective same)
      · rw [ExpiringStore.set, AList.lookup_insert]
        refine ⟨fun absent => (by cases absent), fun entry stored => ?_⟩
        cases stored
        exact
          ⟨_, codec.roundTrip _ data encoded,
            (accountID_recordDecision cb _ decision).trans isOwn, after⟩

/-- The store follows all calls which go undisturbed. -/
theorem Follows.run {store : RedisStore}
    (fresh : ∀ accountID, store.lookup (circuitBreakKey accountID) = none)
    {calls : List (ManagerCall Score)} {t : ClockTime}
    (ordered :
      (calls.map (fun call => call.time.now) ++ [t.now]).Pairwise (· ≤ ·))
    (undisturbed :
      LabelledRun.Along (CircuitBreakerManager.next codec)
        (Undisturbed codec) store calls) :
    Follows codec calls t.now
      (LabelledRun.run (CircuitBreakerManager.next codec) store calls) := by
  induction calls using List.reverseRecOn generalizing t with
  | nil =>
      intro accountID
      refine ⟨fun _ => rfl, fun entry stored => ?_⟩
      rw [LabelledRun.run_nil, fresh accountID] at stored
      cases stored
  | append_singleton calls call inductionHypothesis =>
      rw [List.map_append, List.map_singleton, List.pairwise_append] at ordered
      rw [LabelledRun.along_append, LabelledRun.along_cons] at undisturbed
      have before :=
        @inductionHypothesis call.time ordered.1 undisturbed.1
      have after := before.next (le_refl _) undisturbed.2.1
      have later : call.time.now ≤ t.now :=
        ordered.2.2 _ (by simp) _ (by simp)
      rw [LabelledRun.run_append]
      exact after.later later

end CircuitBreakerManager

/--
A breaker is open, and its account is blocked, exactly when after the latest
success there was a failure which reached the threshold, and the clock has
counted fewer milliseconds since the latest such failure than the cooldown.
-/
theorem breaker_history {Score : Type} [LE Score] [DecidableLE Score]
    [OfScientific Score] :
    (∀ (created : Nat) (accountID : String) (threshold : Score)
        (cooldownMs : Int64) (past : List (TimedCall Score)) (t : ClockTime),
        0 < cooldownMs → OrderedUntil past t →
          (((LabelledRun.run CircuitBreaker.next
              (newCircuitBreaker created accountID threshold cooldownMs)
              past).isOpen t.now).1 = true ↔
            LatestTrip threshold past fun trip =>
              (milliseconds t.now : Int) - milliseconds trip.now <
                cooldownMs.toInt)) ∧
      ∀ (codec : RecordCodec (CircuitBreaker Score)) (store : RedisStore)
        (calls : List (ManagerCall Score)) (accountID : String)
        (t : ClockTime),
        (∀ account, store.lookup (circuitBreakKey account) = none) →
        (calls.map (fun call => call.time.now) ++ [t.now]).Pairwise
            (· ≤ ·) →
        LabelledRun.Along (CircuitBreakerManager.next codec)
            (CircuitBreakerManager.Undisturbed codec) store
            (calls ++
              [{ accountID, time := t, operation := .isBlocked }]) →
          ((CircuitBreakerManager.isBlocked codec.unmarshal
              (LabelledRun.run (CircuitBreakerManager.next codec) store calls)
              t.now accountID).1 = true ↔
            LatestTrip 0.8 (breakerHistory accountID calls) fun trip =>
              (milliseconds t.now : Int) - milliseconds trip.now < 60000) := by
  constructor
  · intro created accountID threshold cooldownMs past t positive ordered
    rw [latestTrip_iff]
    exact
      (Tracks.run created accountID positive ordered).isOpen_iff positive
        (le_refl _)
  · intro codec store calls accountID t fresh ordered undisturbed
    rw [LabelledRun.along_append, LabelledRun.along_cons] at undisturbed
    have follows :=
      CircuitBreakerManager.Follows.run fresh ordered undisturbed.1
    obtain ⟨cb, isGot, -, tracks⟩ := follows.get undisturbed.2.1.2
    rw [latestTrip_iff, CircuitBreakerManager.isBlocked, isGot]
    exact tracks.isOpen_iff (by decide) (le_refl _)

/-- A failure which trips a breaker, at some time. -/
def tripAt (time : ClockTime) : TimedCall ℚ where
  time := time
  call := .recordFailure "high_risk" 0.9

theorem breaker_history_sample :
    (((LabelledRun.run CircuitBreaker.next
        (newCircuitBreaker 0 "acc-123" (0.8 : ℚ) 60000)
        [tripAt ⟨0, by decide⟩]).isOpen 5000000).1 = true ↔
      LatestTrip 0.8 [tripAt ⟨0, by decide⟩] fun trip =>
        (milliseconds 5000000 : Int) - milliseconds trip.now <
          (60000 : Int64).toInt) ∧
      ((CircuitBreakerManager.isBlocked blockedCodec.unmarshal
          (LabelledRun.run (CircuitBreakerManager.next blockedCodec) ∅
            [⟨"acc-123", ⟨0, by decide⟩, .recordRiskDecision (twoBlocks true)⟩])
          5000000 "acc-123").1 = true ↔
        LatestTrip 0.8
          (breakerHistory "acc-123"
            [⟨"acc-123", ⟨0, by decide⟩, .recordRiskDecision (twoBlocks true)⟩])
          fun trip =>
            (milliseconds 5000000 : Int) - milliseconds trip.now < 60000) :=
  ⟨breaker_history.1 0 "acc-123" 0.8 60000 [tripAt ⟨0, by decide⟩]
      ⟨5000000, by decide⟩ (by decide) (by simp [OrderedUntil, tripAt]),
    breaker_history.2 blockedCodec ∅
      [⟨"acc-123", ⟨0, by decide⟩, .recordRiskDecision (twoBlocks true)⟩]
      "acc-123" ⟨5000000, by decide⟩ (fun _ => rfl) (by simp)
      (by decide +kernel)⟩

/-- Times 0.2 ms apart are counted as one millisecond. -/
theorem breaker_history_fails :
    ¬ ∀ (created : Nat) (accountID : String) (threshold : ℚ)
        (cooldownMs : Int64) (past : List (TimedCall ℚ)) (t : ClockTime),
        0 < cooldownMs → OrderedUntil past t →
          (((LabelledRun.run CircuitBreaker.next
              (newCircuitBreaker created accountID threshold cooldownMs)
              past).isOpen t.now).1 = true ↔
            LatestTrip threshold past fun trip =>
              (t.now : Int) - trip.now < 1000000 * cooldownMs.toInt) := by
  intro history
  have opened :=
    (history 0 "acc-123" 0.8 1 [tripAt ⟨900000, by decide⟩]
      ⟨1100000, by decide⟩ (by decide) (by simp [OrderedUntil, tripAt])).mpr
  have trip :
      (tripAt ⟨900000, by decide⟩).Trips 0.8 :=
    ⟨"high_risk", 0.9, rfl, by decide +kernel⟩
  have isOpen := opened ⟨[], _, [], rfl, trip, by simp, by decide⟩
  exact absurd isOpen (by decide +kernel)

end AeroRisk.Cache
