import AeroRisk.Gateway.RateLimiter
import AeroRisk.Library.CriticalSections

/-!
# Concurrent calls of the rate limiter

Any number of goroutines call `Allow` of one limiter.  The call is given by its
single loads and stores and its readings of the clock, which the scheduler
interleaves in any way; it holds the mutex of the limiter for writing.  The
clock goes on by any time before each reading.

The answers are those of the calls one after the other, and the clock goes on
from one to the next, so the bound on what a user is allowed holds for every
interleaving.
-/

namespace AeroRisk.Gateway

open AeroRisk.Library
open AeroRisk.Library.CriticalSections

/-- The limiter and the clock. -/
structure ClockedLimiter where
  limiter : RateLimiter
  clock : Int

/-- A call of `Allow`, and the times which pass before its readings. -/
structure LimiterCall where
  userID : UInt64
  /-- The time before the reading of a call which makes its bucket. -/
  beforeMade : Nat
  /-- The time before the reading of `refill`. -/
  beforeNow : Nat
deriving DecidableEq, Repr

namespace RateLimiter

/-- What is loaded through the pointer to a bucket. -/
def loadField (rl : RateLimiter) (userID : UInt64)
    (field : TokenBucket → Int) : Int :=
  (rl.tokens.lookup userID).elim 0 field

/-- A store through the pointer to a bucket. -/
def storeField (rl : RateLimiter) (userID : UInt64)
    (change : TokenBucket → TokenBucket) : RateLimiter :=
  match rl.tokens.lookup userID with
  | none => rl
  | some bucket =>
      { rl with tokens := rl.tokens.insert userID (change bucket) }

end RateLimiter

abbrev LimiterSection := CriticalSection ClockedLimiter

open CriticalSection (load store)

/-- `time.Now()`. -/
def readClock (passed : Nat) : LimiterSection Int :=
  .access (fun m => { m with clock := m.clock + passed }) fun m =>
    .done (m.clock + passed)

/-- The load of a field of a bucket. -/
def loadBucket (userID : UInt64) (field : TokenBucket → Int) :
    LimiterSection Int :=
  load fun m => m.limiter.loadField userID field

/-- The store of a field of a bucket. -/
def storeBucket (userID : UInt64) (change : TokenBucket → TokenBucket) :
    LimiterSection PUnit :=
  store fun m => { m with limiter := m.limiter.storeField userID change }

/-- `rl.tokens[userID] = &tokenBucket{..}`. -/
def makeBucket (userID : UInt64) (bucket : TokenBucket) :
    LimiterSection PUnit :=
  store fun m =>
    { m with
      limiter :=
        { m.limiter with tokens := m.limiter.tokens.insert userID bucket } }

/-- `refill`, which returns its reading of the clock. -/
def refillBody (call : LimiterCall) : LimiterSection Int := do
  let now ← readClock call.beforeNow
  let lastRefill ← loadBucket call.userID TokenBucket.lastRefill
  let refillRate ← load fun m => m.limiter.refillRate.toInt
  let tokensToAdd := (timeSub now lastRefill).tdiv refillRate
  if 0 < tokensToAdd then
    let tokens ← loadBucket call.userID TokenBucket.tokens
    let maxTokens ← load fun m => m.limiter.maxTokens.toInt
    storeBucket call.userID fun bucket =>
      { bucket with tokens := min64 (tokens + tokensToAdd) maxTokens }
    storeBucket call.userID fun bucket => { bucket with lastRefill := now }
    pure now
  else
    pure now

/-- The end of `Allow`, after `refill`. -/
def takeBody (userID : UInt64) : LimiterSection Bool := do
  let tokens ← loadBucket userID TokenBucket.tokens
  if 0 < tokens then
    let tokens ← loadBucket userID TokenBucket.tokens
    storeBucket userID fun bucket => { bucket with tokens := tokens - 1 }
    pure true
  else
    pure false

/-- `Allow`, which returns its answer and its readings of the clock. -/
def allowBody (call : LimiterCall) : LimiterSection (AllowCall × Bool) := do
  if ← load fun m => decide (call.userID ∈ m.limiter.tokens) then
    let now ← refillBody call
    let answer ← takeBody call.userID
    pure ({ userID := call.userID, made := now, now }, answer)
  else
    let maxTokens ← load fun m => m.limiter.maxTokens.toInt
    let made ← readClock call.beforeMade
    makeBucket call.userID { tokens := maxTokens, lastRefill := made }
    let now ← refillBody call
    let answer ← takeBody call.userID
    pure ({ userID := call.userID, made, now }, answer)

/-! ## The call executed alone -/

namespace RateLimiter

/-- The limiter with a bucket for a user. -/
def withBucket (rl : RateLimiter) (userID : UInt64) (bucket : TokenBucket) :
    RateLimiter :=
  { rl with tokens := rl.tokens.insert userID bucket }

section WithBucket

variable (rl : RateLimiter) (userID : UInt64) (bucket : TokenBucket)

@[simp]
theorem maxTokens_withBucket :
    (rl.withBucket userID bucket).maxTokens = rl.maxTokens :=
  rfl

@[simp]
theorem refillRate_withBucket :
    (rl.withBucket userID bucket).refillRate = rl.refillRate :=
  rfl

@[simp]
theorem loadField_withBucket (field : TokenBucket → Int) :
    (rl.withBucket userID bucket).loadField userID field = field bucket := by
  simp [loadField, withBucket]

@[simp]
theorem storeField_withBucket (change : TokenBucket → TokenBucket) :
    (rl.withBucket userID bucket).storeField userID change =
      rl.withBucket userID (change bucket) := by
  simp [storeField, withBucket]

variable {rl userID bucket} in
/-- A limiter has the bucket which is looked up. -/
theorem withBucket_of_lookup (found : rl.tokens.lookup userID = some bucket) :
    rl.withBucket userID bucket = rl := by
  have same : rl.tokens.insert userID bucket = rl.tokens := by
    apply Finmap.ext_lookup
    intro other
    by_cases isUser : other = userID
    · rw [isUser, Finmap.lookup_insert, found]
    · rw [Finmap.lookup_insert_of_ne _ isUser]
  rw [withBucket, same]

end WithBucket

end RateLimiter

section Alone

variable (m : ClockedLimiter) (call : LimiterCall) (rl : RateLimiter)
    (clock : Int) (bucket : TokenBucket)

@[simp]
theorem exec_readClock (passed : Nat) :
    (readClock passed).exec m =
      (m.clock + passed, { m with clock := m.clock + passed }) :=
  rfl

@[simp]
theorem exec_makeBucket (userID : UInt64) :
    (makeBucket userID bucket).exec ⟨rl, clock⟩ =
      (⟨⟩, ⟨rl.withBucket userID bucket, clock⟩) :=
  rfl

/-- The readings of the clock by a call. -/
def readingsOf : AllowCall :=
  if call.userID ∈ m.limiter.tokens then
    { userID := call.userID
      made := m.clock + call.beforeNow
      now := m.clock + call.beforeNow }
  else
    { userID := call.userID
      made := m.clock + call.beforeMade
      now := m.clock + call.beforeMade + call.beforeNow }

/-- The limiter and the clock after a call. -/
def afterCall : ClockedLimiter where
  limiter := m.limiter.next (readingsOf m call)
  clock := (readingsOf m call).now

theorem exec_refillBody :
    (refillBody call).exec ⟨rl.withBucket call.userID bucket, clock⟩ =
      (clock + call.beforeNow,
        ⟨rl.withBucket call.userID
            (rl.refill bucket (clock + call.beforeNow)),
          clock + call.beforeNow⟩) := by
  by_cases refills :
      0 < (timeSub (clock + call.beforeNow) bucket.lastRefill).tdiv
        rl.refillRate.toInt <;>
    simp [refillBody, loadBucket, storeBucket, RateLimiter.refill, refills]

theorem exec_takeBody (userID : UInt64) :
    (takeBody userID).exec ⟨rl.withBucket userID bucket, clock⟩ =
      if 0 < bucket.tokens then
        (true,
          ⟨rl.withBucket userID { bucket with tokens := bucket.tokens - 1 },
            clock⟩)
      else
        (false, ⟨rl.withBucket userID bucket, clock⟩) := by
  by_cases isLeft : 0 < bucket.tokens <;>
    simp [takeBody, loadBucket, storeBucket, isLeft]

/-- What `refill` and the end of `Allow` do to the bucket of the call. -/
theorem allow_eq (reading : AllowCall) :
    rl.allow reading =
      ((decide (0 < (rl.refill (rl.bucketOf reading) reading.now).tokens)),
        rl.withBucket reading.userID (rl.bucketAfter reading)) := by
  rw [RateLimiter.allow, RateLimiter.bucketAfter]
  by_cases isLeft : 0 < (rl.refill (rl.bucketOf reading) reading.now).tokens <;>
    simp [RateLimiter.withBucket, isLeft]

/-- The end of `Allow` with the bucket which `refill` left. -/
theorem exec_takeBody_refill (reading : AllowCall) :
    (takeBody reading.userID).exec
        ⟨rl.withBucket reading.userID
            (rl.refill (rl.bucketOf reading) reading.now),
          clock⟩ =
      (rl.allowed reading, ⟨rl.next reading, clock⟩) := by
  rw [exec_takeBody, RateLimiter.allowed, RateLimiter.next, allow_eq,
    RateLimiter.bucketAfter]
  by_cases isLeft : 0 < (rl.refill (rl.bucketOf reading) reading.now).tokens <;>
    simp [isLeft]

theorem exec_allowBody :
    (allowBody call).exec m =
      ((readingsOf m call, m.limiter.allowed (readingsOf m call)),
        afterCall m call) := by
  obtain ⟨rl, clock⟩ := m
  by_cases present : call.userID ∈ rl.tokens
  · obtain ⟨bucket, found⟩ := Finmap.mem_iff.mp present
    -- The limiter is the one with the bucket which the call found.
    have refilled :
        (refillBody call).exec ⟨rl, clock⟩ =
          (clock + call.beforeNow,
            ⟨rl.withBucket call.userID
                (rl.refill bucket (clock + call.beforeNow)),
              clock + call.beforeNow⟩) := by
      have executed := exec_refillBody call rl clock bucket
      rwa [RateLimiter.withBucket_of_lookup found] at executed
    have taken :=
      exec_takeBody_refill rl (clock + call.beforeNow)
        { userID := call.userID
          made := clock + call.beforeNow
          now := clock + call.beforeNow }
    simp only [RateLimiter.bucketOf, found] at taken
    simp [allowBody, present, refilled, taken, readingsOf, afterCall]
  · have missing := Finmap.lookup_eq_none.mpr present
    have taken :=
      exec_takeBody_refill rl
        (clock + call.beforeMade + call.beforeNow)
        { userID := call.userID
          made := clock + call.beforeMade
          now := clock + call.beforeMade + call.beforeNow }
    simp only [RateLimiter.bucketOf, missing] at taken
    simp [allowBody, present, exec_refillBody, taken, readingsOf,
      afterCall]

end Alone

/-! ## The calls one after the other -/

/-- Every call locks for writing. -/
def limiterCalls :
    Protocol ClockedLimiter LimiterCall (AllowCall × Bool) where
  writes := fun _ => true
  body := allowBody
  readOnly := by
    intro call reads
    cases reads

@[simp]
theorem limiterCalls_after : limiterCalls.after = afterCall := by
  funext m call
  exact congrArg Prod.snd (exec_allowBody m call)

@[simp]
theorem limiterCalls_value (m : ClockedLimiter) (call : LimiterCall) :
    limiterCalls.value m call =
      (readingsOf m call, m.limiter.allowed (readingsOf m call)) :=
  congrArg Prod.fst (exec_allowBody m call)

/-- What the calls return one after the other. -/
def returnedFrom (m : ClockedLimiter) (calls : List LimiterCall) :
    List (AllowCall × Bool) :=
  LabelledRun.outputs limiterCalls.after limiterCalls.value m calls

/-- A call reads the clock after the one before it. -/
theorem readingsOf_ordered (m : ClockedLimiter) (call : LimiterCall) :
    m.clock ≤ (readingsOf m call).made ∧
      (readingsOf m call).made ≤ (readingsOf m call).now := by
  rw [readingsOf]
  split <;> dsimp only <;> omega

/-- A call which reads a clock and then the clock which goes on from it. -/
theorem clockFrom_of_ordered {time : Int} {call : AllowCall}
    {rest : List AllowCall} (later : time ≤ call.made)
    (ordered : call.made ≤ call.now)
    (clockRest : RateLimiter.ClockFrom call.now rest) :
    RateLimiter.ClockFrom time (call :: rest) := by
  have fromNow := (List.pairwise_cons.mp clockRest).1
  rw [RateLimiter.ClockFrom, clockReadings, List.pairwise_cons,
    List.pairwise_cons]
  refine ⟨?_, ?_, clockRest⟩
  · rw [List.forall_mem_cons, List.forall_mem_cons]
    exact
      ⟨later, later.trans ordered, fun reading member =>
        (later.trans ordered).trans (fromNow reading member)⟩
  · rw [List.forall_mem_cons]
    exact
      ⟨ordered, fun reading member =>
        ordered.trans (fromNow reading member)⟩

theorem clockFrom_returnedFrom (m : ClockedLimiter)
    (calls : List LimiterCall) :
    RateLimiter.ClockFrom m.clock ((returnedFrom m calls).map Prod.fst) := by
  induction calls generalizing m with
  | nil => exact List.pairwise_singleton _ _
  | cons call rest inductionHypothesis =>
      obtain ⟨later, ordered⟩ := readingsOf_ordered m call
      have clockRest := inductionHypothesis (afterCall m call)
      simp only [returnedFrom, LabelledRun.outputs_cons, limiterCalls_after,
        limiterCalls_value, List.map_cons] at clockRest ⊢
      exact clockFrom_of_ordered later ordered clockRest

/-- The answers are those to the readings of the clock. -/
theorem answers_returnedFrom (m : ClockedLimiter)
    (calls : List LimiterCall) :
    (returnedFrom m calls).map Prod.snd =
      LabelledRun.outputs RateLimiter.next RateLimiter.allowed m.limiter
        ((returnedFrom m calls).map Prod.fst) := by
  induction calls generalizing m with
  | nil => rfl
  | cons call rest inductionHypothesis =>
      have answers := inductionHypothesis (afterCall m call)
      simp only [returnedFrom, LabelledRun.outputs_cons, limiterCalls_after,
        limiterCalls_value, List.map_cons] at answers ⊢
      rw [answers]
      rfl

/-- The calls of a user in an interval which returned that they are allowed. -/
def granted (userID : UInt64) (s t : Int)
    (values : List (AllowCall × Bool)) : Nat :=
  values.countP fun value =>
    value.2 &&
      decide (value.1.userID = userID ∧ s ≤ value.1.now ∧ value.1.now ≤ t)

theorem granted_eq_allowedWithin (rl : RateLimiter) (userID : UInt64)
    (s t : Int) (values : List (AllowCall × Bool))
    (answers :
      values.map Prod.snd =
        LabelledRun.outputs RateLimiter.next RateLimiter.allowed rl
          (values.map Prod.fst)) :
    granted userID s t values =
      rl.allowedWithin userID s t (values.map Prod.fst) := by
  induction values generalizing rl with
  | nil => rfl
  | cons value rest inductionHypothesis =>
      rw [List.map_cons, List.map_cons, LabelledRun.outputs_cons,
        List.cons.injEq] at answers
      obtain ⟨isAnswer, answersRest⟩ := answers
      have later := inductionHypothesis (rl.next value.1) answersRest
      rw [List.map_cons, RateLimiter.allowedWithin_cons, ← later, granted,
        List.countP_cons, ← isAnswer, Nat.add_comm]
      by_cases visible :
          value.1.userID = userID ∧ s ≤ value.1.now ∧ value.1.now ≤ t
      · rw [if_pos visible, decide_eq_true visible, Bool.and_true]
        cases value.2 <;> rfl
      · rw [if_neg visible, decide_eq_false visible, Bool.and_false]
        rfl

/-! ## The calls of many goroutines -/

section Goroutines

variable {Goroutine : Type} [DecidableEq Goroutine]

/-- The limiter and its goroutines after a schedule. -/
def afterSchedule (maxTokens refillRate : Int64) (clock : Int)
    (schedule : List (Goroutine × LimiterCall)) :
    System Goroutine ClockedLimiter LimiterCall (AllowCall × Bool) :=
  LabelledRun.run limiterCalls.next
    (start ⟨newRateLimiter maxTokens refillRate, clock⟩) schedule

/--
In whatever way the goroutines interleave, the answers are those of a limiter
which is called with a clock that goes on, and a user is allowed in every
interval at most the most tokens, those of the interval and one more.
-/
theorem concurrent_rate_bound (maxTokens refillRate : Int64)
    (nonneg : 0 ≤ maxTokens) (pos : 0 < refillRate) (clock : Int)
    (schedule : List (Goroutine × LimiterCall)) :
    let returned :=
      (afterSchedule maxTokens refillRate clock schedule).values
    (clockReadings (returned.map Prod.fst)).Pairwise (· ≤ ·) ∧
      returned.map Prod.snd =
        LabelledRun.outputs RateLimiter.next RateLimiter.allowed
          (newRateLimiter maxTokens refillRate) (returned.map Prod.fst) ∧
      ∀ userID s t,
        s ≤ t →
          (granted userID s t returned : Int) ≤
            maxTokens.toInt + (t - s) / refillRate.toInt + 1 := by
  intro returned
  have sound :
      limiterCalls.Sound _
        (afterSchedule maxTokens refillRate clock schedule) :=
    Protocol.Sound.run schedule
  have isReturned :
      returned =
        returnedFrom ⟨newRateLimiter maxTokens refillRate, clock⟩
          (afterSchedule maxTokens refillRate clock schedule).calls :=
    sound.values
  have clockFrom :
      RateLimiter.ClockFrom clock (returned.map Prod.fst) := by
    rw [isReturned]
    exact
      clockFrom_returnedFrom ⟨newRateLimiter maxTokens refillRate, clock⟩ _
  have answers :
      returned.map Prod.snd =
        LabelledRun.outputs RateLimiter.next RateLimiter.allowed
          (newRateLimiter maxTokens refillRate) (returned.map Prod.fst) := by
    rw [isReturned]
    exact
      answers_returnedFrom ⟨newRateLimiter maxTokens refillRate, clock⟩ _
  refine ⟨(List.pairwise_cons.mp clockFrom).2, answers, ?_⟩
  intro userID s t interval
  have nonnegNew : 0 ≤ (newRateLimiter maxTokens refillRate).maxTokens :=
    nonneg
  have posNew : 0 < (newRateLimiter maxTokens refillRate).refillRate := pos
  rw [granted_eq_allowedWithin _ userID s t returned answers]
  exact
    RateLimiter.allowedWithin_le nonnegNew posNew
      (RateLimiter.bounded_newRateLimiter maxTokens refillRate)
      (RateLimiter.refilledBy_newRateLimiter maxTokens refillRate clock)
      clockFrom interval

end Goroutines

/-- Two goroutines in turn, both with the first call of a user. -/
def alternating : List (Bool × LimiterCall) :=
  (List.replicate 8
    [(false, { userID := 1, beforeMade := 2, beforeNow := 3 }),
      (true, { userID := 1, beforeMade := 4, beforeNow := 5 })]).flatten

theorem concurrent_rate_bound_sample :
    (granted 1 0 9 (afterSchedule 2 10 0 alternating).values : Int) ≤
      (2 : Int64).toInt + (9 - 0) / (10 : Int64).toInt + 1 :=
  (concurrent_rate_bound 2 10 (by decide) (by decide) 0 alternating).2.2 1 0 9
    (by decide)

end AeroRisk.Gateway
