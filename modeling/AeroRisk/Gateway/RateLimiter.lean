import AeroRisk.Library.LabelledRun
import Mathlib.Data.Finmap
import Mathlib.Algebra.Order.Group.Int
import Mathlib.Tactic.Linarith

/-!
# The rate limiter of the gateway

`RateLimiter` keeps a bucket of tokens for every user.  A call takes a token
when the bucket has one; buckets are refilled by the calls themselves, one
token for each `refillRate` since the last refill.

Times are nanoseconds of the monotonic clock, and token counts are exact
integers.  A call reads the clock when it refills the bucket, and once before
that when it makes the bucket.
-/

namespace AeroRisk.Gateway

open AeroRisk.Library

/-- `tokenBucket`. -/
structure TokenBucket where
  tokens : Int
  lastRefill : Int
deriving DecidableEq, Repr

/-- `RateLimiter`. -/
structure RateLimiter where
  tokens : Finmap fun _ : UInt64 => TokenBucket
  maxTokens : Int64
  refillRate : Int64
deriving DecidableEq

/-- `NewRateLimiter`. -/
def newRateLimiter (maxTokens refillRate : Int64) : RateLimiter where
  tokens := ∅
  maxTokens := maxTokens
  refillRate := refillRate

/-- `Time.Sub`: a difference of times is the nearest duration. -/
def timeSub (now earlier : Int) : Int :=
  max Int64.minValue.toInt (min (now - earlier) Int64.maxValue.toInt)

/-- `min64`. -/
def min64 (a b : Int) : Int :=
  if a < b then a else b

/-- A call of `Allow` with its readings of the clock. -/
structure AllowCall where
  userID : UInt64
  /-- The time at which the call makes the bucket, if it does. -/
  made : Int
  /-- The time at which the call refills the bucket. -/
  now : Int
deriving DecidableEq, Repr

/-- The readings of the clock by some calls, in order. -/
def clockReadings : List AllowCall → List Int
  | [] => []
  | call :: rest => call.made :: call.now :: clockReadings rest

namespace RateLimiter

/-- `RateLimiter.refill`. -/
def refill (rl : RateLimiter) (bucket : TokenBucket) (now : Int) :
    TokenBucket :=
  let elapsed := timeSub now bucket.lastRefill
  let tokensToAdd := elapsed.tdiv rl.refillRate.toInt
  if 0 < tokensToAdd then
    { tokens := min64 (bucket.tokens + tokensToAdd) rl.maxTokens.toInt
      lastRefill := now }
  else
    bucket

/-- The bucket which a call finds or makes. -/
def bucketOf (rl : RateLimiter) (call : AllowCall) : TokenBucket :=
  match rl.tokens.lookup call.userID with
  | some bucket => bucket
  | none => { tokens := rl.maxTokens.toInt, lastRefill := call.made }

/-- `RateLimiter.Allow`, with the limiter which it leaves. -/
def allow (rl : RateLimiter) (call : AllowCall) : Bool × RateLimiter :=
  let bucket := rl.refill (rl.bucketOf call) call.now
  if 0 < bucket.tokens then
    let bucket := { bucket with tokens := bucket.tokens - 1 }
    (true, { rl with tokens := rl.tokens.insert call.userID bucket })
  else
    (false, { rl with tokens := rl.tokens.insert call.userID bucket })

/-- The limiter after a call. -/
def next (rl : RateLimiter) (call : AllowCall) : RateLimiter :=
  (rl.allow call).2

/-- The answer of a call. -/
def allowed (rl : RateLimiter) (call : AllowCall) : Bool :=
  (rl.allow call).1

/-- The calls of a user in an interval which are allowed. -/
def allowedWithin (rl : RateLimiter) (userID : UInt64) (s t : Int)
    (calls : List AllowCall) : Nat :=
  (LabelledRun.outputsOf next allowed
    (fun call => call.userID = userID ∧ s ≤ call.now ∧ call.now ≤ t)
    rl calls).count true

/-- Every bucket has between no token and the most tokens. -/
def Bounded (rl : RateLimiter) : Prop :=
  ∀ userID bucket,
    rl.tokens.lookup userID = some bucket →
      0 ≤ bucket.tokens ∧ bucket.tokens ≤ rl.maxTokens.toInt

/-! ## One call -/

section OneCall

variable (rl : RateLimiter) (call : AllowCall)

/-- The bucket which a call leaves. -/
def bucketAfter : TokenBucket :=
  let bucket := rl.refill (rl.bucketOf call) call.now
  if 0 < bucket.tokens then
    { bucket with tokens := bucket.tokens - 1 }
  else
    bucket

theorem next_eq :
    rl.next call =
      { rl with
        tokens := rl.tokens.insert call.userID (rl.bucketAfter call) } := by
  rw [next, allow, bucketAfter]
  dsimp only
  split <;> rfl

@[simp]
theorem maxTokens_next : (rl.next call).maxTokens = rl.maxTokens := by
  rw [next_eq]

@[simp]
theorem refillRate_next : (rl.next call).refillRate = rl.refillRate := by
  rw [next_eq]

@[simp]
theorem lookup_next_self :
    (rl.next call).tokens.lookup call.userID = some (rl.bucketAfter call) := by
  rw [next_eq, Finmap.lookup_insert]

theorem lookup_next_of_ne {userID : UInt64} (different : userID ≠ call.userID) :
    (rl.next call).tokens.lookup userID = rl.tokens.lookup userID := by
  rw [next_eq, Finmap.lookup_insert_of_ne _ different]

/-- A call is allowed exactly when it takes a token. -/
theorem tokens_bucketAfter :
    (rl.bucketAfter call).tokens + (rl.allowed call).toNat =
      (rl.refill (rl.bucketOf call) call.now).tokens := by
  rw [bucketAfter, allowed, allow]
  dsimp only
  split <;> simp

@[simp]
theorem lastRefill_bucketAfter :
    (rl.bucketAfter call).lastRefill =
      (rl.refill (rl.bucketOf call) call.now).lastRefill := by
  rw [bucketAfter]
  split <;> rfl

end OneCall

/-! ## The bounds of the buckets -/

section Bounds

variable {rl : RateLimiter}

theorem bounded_refill {bucket : TokenBucket} (now : Int)
    (nonneg : 0 ≤ rl.maxTokens)
    (bounded : 0 ≤ bucket.tokens ∧ bucket.tokens ≤ rl.maxTokens.toInt) :
    0 ≤ (rl.refill bucket now).tokens ∧
      (rl.refill bucket now).tokens ≤ rl.maxTokens.toInt := by
  rw [Int64.le_iff_toInt_le, Int64.toInt_zero] at nonneg
  rw [refill]
  split
  · simp only [min64]
    split <;> omega
  · exact bounded

theorem Bounded.bucketOf (bounded : rl.Bounded) (nonneg : 0 ≤ rl.maxTokens)
    (call : AllowCall) :
    0 ≤ (rl.bucketOf call).tokens ∧
      (rl.bucketOf call).tokens ≤ rl.maxTokens.toInt := by
  rw [Int64.le_iff_toInt_le, Int64.toInt_zero] at nonneg
  rw [RateLimiter.bucketOf]
  cases found : rl.tokens.lookup call.userID with
  | none => exact ⟨nonneg, le_refl _⟩
  | some bucket => exact bounded _ _ found

theorem Bounded.bucketAfter (bounded : rl.Bounded)
    (nonneg : 0 ≤ rl.maxTokens) (call : AllowCall) :
    0 ≤ (rl.bucketAfter call).tokens ∧
      (rl.bucketAfter call).tokens ≤ rl.maxTokens.toInt := by
  have refilled :=
    bounded_refill call.now nonneg (bounded.bucketOf nonneg call)
  rw [RateLimiter.bucketAfter]
  split
  · dsimp only
    omega
  · exact refilled

theorem Bounded.next (bounded : rl.Bounded) (nonneg : 0 ≤ rl.maxTokens)
    (call : AllowCall) : (rl.next call).Bounded := by
  intro userID bucket found
  rw [maxTokens_next]
  by_cases same : userID = call.userID
  · rw [same, lookup_next_self, Option.some.injEq] at found
    rw [← found]
    exact bounded.bucketAfter nonneg call
  · rw [lookup_next_of_ne rl call same] at found
    exact bounded userID bucket found

theorem bounded_newRateLimiter (maxTokens refillRate : Int64) :
    (newRateLimiter maxTokens refillRate).Bounded := by
  intro userID bucket found
  simp [newRateLimiter] at found

end Bounds

/-! ## What a bucket allows up to a time -/

/-- The tokens of a bucket and those which it can get up to a time. -/
def allowance (rl : RateLimiter) (bucket : TokenBucket) (t : Int) : Int :=
  bucket.tokens + (t - bucket.lastRefill) / rl.refillRate.toInt

section Allowance

variable {rl : RateLimiter}

/-- Two parts of a time have no more full periods than the time. -/
theorem ediv_add_ediv_le {rate : Int} (pos : 0 < rate) (first second : Int) :
    first / rate + second / rate ≤ (first + second) / rate := by
  rw [Int.le_ediv_iff_mul_le pos, Int.add_mul]
  have firstPeriods := Int.ediv_mul_le first pos.ne'
  have secondPeriods := Int.ediv_mul_le second pos.ne'
  omega

/-- The tokens for the time since a refill, for a clock which went on. -/
theorem timeSub_tdiv (rate : Int) {now earlier : Int}
    (ordered : earlier ≤ now) :
    (timeSub now earlier).tdiv rate =
      min (now - earlier) Int64.maxValue.toInt / rate := by
  have nonneg : 0 ≤ min (now - earlier) Int64.maxValue.toInt := by
    rw [Int64.toInt_maxValue]
    omega
  have clamped :
      timeSub now earlier = min (now - earlier) Int64.maxValue.toInt := by
    rw [timeSub, Int64.toInt_minValue]
    omega
  rw [clamped, Int.tdiv_eq_ediv_of_nonneg nonneg]

@[simp]
theorem allowance_next (rl : RateLimiter) (call : AllowCall)
    (bucket : TokenBucket) (t : Int) :
    (rl.next call).allowance bucket t = rl.allowance bucket t := by
  rw [allowance, refillRate_next, allowance]

/-- A call which is allowed uses up one token of the allowance. -/
theorem allowance_bucketAfter (rl : RateLimiter) (call : AllowCall) (t : Int) :
    rl.allowance (rl.bucketAfter call) t + (rl.allowed call).toNat =
      rl.allowance (rl.refill (rl.bucketOf call) call.now) t := by
  have tokens := rl.tokens_bucketAfter call
  rw [allowance, allowance, lastRefill_bucketAfter]
  omega

/-- A refill anticipates tokens and adds none. -/
theorem allowance_refill_le (pos : 0 < rl.refillRate) {bucket : TokenBucket}
    {now t : Int} (ordered : bucket.lastRefill ≤ now) :
    rl.allowance (rl.refill bucket now) t ≤ rl.allowance bucket t := by
  rw [Int64.lt_iff_toInt_lt, Int64.toInt_zero] at pos
  rw [refill, timeSub_tdiv _ ordered]
  split
  · have fewer :
        min (now - bucket.lastRefill) Int64.maxValue.toInt /
            rl.refillRate.toInt ≤
          (now - bucket.lastRefill) / rl.refillRate.toInt :=
      Int.ediv_le_ediv pos (Int.min_le_left _ _)
    have parts :=
      ediv_add_ediv_le pos (now - bucket.lastRefill) (t - now)
    have whole : now - bucket.lastRefill + (t - now) = t - bucket.lastRefill :=
      by omega
    rw [whole] at parts
    simp only [allowance, min64]
    split <;> omega
  · exact le_refl _

/--
After a refill in an interval a bucket allows at most the most tokens, those
of the interval, and one which was begun before it.
-/
theorem allowance_refill_window (pos : 0 < rl.refillRate)
    {bucket : TokenBucket} {now s t : Int}
    (ordered : bucket.lastRefill ≤ now)
    (most : bucket.tokens ≤ rl.maxTokens.toInt) (begun : s ≤ now) :
    rl.allowance (rl.refill bucket now) t ≤
      rl.maxTokens.toInt + (t - s) / rl.refillRate.toInt + 1 := by
  rw [Int64.lt_iff_toInt_lt, Int64.toInt_zero] at pos
  have largest := Int64.toInt_le rl.refillRate
  rw [refill, timeSub_tdiv _ ordered]
  split
  · have later : (t - now) / rl.refillRate.toInt ≤
        (t - s) / rl.refillRate.toInt :=
      Int.ediv_le_ediv pos (by omega)
    simp only [allowance, min64]
    split <;> omega
  · next notRefilled =>
      have recent : now - bucket.lastRefill < rl.refillRate.toInt := by
        have short :
            min (now - bucket.lastRefill) Int64.maxValue.toInt <
              rl.refillRate.toInt := by
          by_contra long
          apply notRefilled
          have onePeriod :
              1 ≤ min (now - bucket.lastRefill) Int64.maxValue.toInt /
                rl.refillRate.toInt :=
            Int.le_ediv_of_mul_le pos (by omega)
          omega
        omega
      have onePeriod :
          (t - bucket.lastRefill) / rl.refillRate.toInt ≤
            (t - s + 1 * rl.refillRate.toInt) / rl.refillRate.toInt :=
        Int.ediv_le_ediv pos (by omega)
      rw [Int.add_mul_ediv_right _ _ pos.ne'] at onePeriod
      rw [allowance]
      omega

end Allowance

/-! ## The calls of a user in an interval -/

section Window

/-- No bucket was refilled after a time. -/
def RefilledBy (rl : RateLimiter) (time : Int) : Prop :=
  ∀ userID bucket,
    rl.tokens.lookup userID = some bucket → bucket.lastRefill ≤ time

variable {rl : RateLimiter}

theorem lastRefill_refill_le {bucket : TokenBucket} {now : Int}
    (ordered : bucket.lastRefill ≤ now) :
    (rl.refill bucket now).lastRefill ≤ now := by
  rw [refill]
  split
  · exact le_refl _
  · exact ordered

theorem RefilledBy.bucketOf {time : Int} (refilled : rl.RefilledBy time)
    {call : AllowCall} (later : time ≤ call.made)
    (ordered : call.made ≤ call.now) :
    (rl.bucketOf call).lastRefill ≤ call.now := by
  rw [RateLimiter.bucketOf]
  cases found : rl.tokens.lookup call.userID with
  | none => exact ordered
  | some bucket =>
      exact (refilled _ bucket found).trans (later.trans ordered)

theorem RefilledBy.next {time : Int} (refilled : rl.RefilledBy time)
    {call : AllowCall} (later : time ≤ call.made)
    (ordered : call.made ≤ call.now) :
    (rl.next call).RefilledBy call.now := by
  intro userID bucket found
  by_cases same : userID = call.userID
  · rw [same, lookup_next_self, Option.some.injEq] at found
    rw [← found, lastRefill_bucketAfter]
    exact lastRefill_refill_le (refilled.bucketOf later ordered)
  · rw [lookup_next_of_ne rl call same] at found
    exact (refilled userID bucket found).trans (later.trans ordered)

/-- What the clock read before some calls, and what they read from it. -/
def ClockFrom (time : Int) (calls : List AllowCall) : Prop :=
  (time :: clockReadings calls).Pairwise (· ≤ ·)

theorem clockFrom_cons {time : Int} {call : AllowCall}
    {rest : List AllowCall} (clock : ClockFrom time (call :: rest)) :
    time ≤ call.made ∧ call.made ≤ call.now ∧ ClockFrom call.now rest := by
  rw [ClockFrom, clockReadings, List.pairwise_cons, List.pairwise_cons] at clock
  exact
    ⟨clock.1 _ (by simp), clock.2.1 _ (by simp), clock.2.2⟩

theorem ClockFrom.le_now {time : Int} {calls : List AllowCall}
    (clock : ClockFrom time calls) : ∀ call ∈ calls, time ≤ call.now := by
  induction calls generalizing time with
  | nil => simp
  | cons call rest inductionHypothesis =>
      obtain ⟨later, ordered, clockRest⟩ := clockFrom_cons clock
      rw [List.forall_mem_cons]
      refine ⟨later.trans ordered, fun other member => ?_⟩
      have still := inductionHypothesis clockRest other member
      exact (later.trans ordered).trans still

/-- A clock which goes on has read some time before. -/
theorem exists_clockFrom {calls : List AllowCall}
    (clock : (clockReadings calls).Pairwise (· ≤ ·)) :
    ∃ time, ClockFrom time calls := by
  cases calls with
  | nil => exact ⟨0, List.pairwise_singleton _ _⟩
  | cons call rest =>
      refine ⟨call.made, List.pairwise_cons.mpr ⟨?_, clock⟩⟩
      rw [clockReadings, List.pairwise_cons] at clock
      rw [clockReadings, List.forall_mem_cons]
      exact ⟨le_refl _, clock.1⟩

theorem refilledBy_newRateLimiter (maxTokens refillRate : Int64) (time : Int) :
    (newRateLimiter maxTokens refillRate).RefilledBy time := by
  intro userID bucket found
  simp [newRateLimiter] at found

variable (rl) (userID : UInt64) (s t : Int)

theorem allowedWithin_cons (call : AllowCall) (rest : List AllowCall) :
    rl.allowedWithin userID s t (call :: rest) =
      (if call.userID = userID ∧ s ≤ call.now ∧ call.now ≤ t then
        (rl.allowed call).toNat
      else
        0) +
        (rl.next call).allowedWithin userID s t rest := by
  rw [allowedWithin, LabelledRun.outputsOf]
  split
  · rw [List.count_cons, allowedWithin, Nat.add_comm]
    cases rl.allowed call <;> rfl
  · rw [allowedWithin, Nat.zero_add]

/-- A call which is allowed is one call, in the interval or not. -/
theorem allowedWithin_cons_le (call : AllowCall) (rest : List AllowCall) :
    rl.allowedWithin userID s t (call :: rest) ≤
      (rl.allowed call).toNat +
        (rl.next call).allowedWithin userID s t rest := by
  rw [allowedWithin_cons]
  split <;> omega

variable {rl userID s t}

theorem allowedWithin_eq_zero {calls : List AllowCall}
    (tooLate : ∀ call ∈ calls, t < call.now) :
    rl.allowedWithin userID s t calls = 0 := by
  rw [allowedWithin, LabelledRun.outputsOf_eq_nil rl]
  · rfl
  · rintro call member ⟨-, -, inTime⟩
    exact absurd inTime (Int.not_le.mpr (tooLate call member))

theorem allowance_nonneg (pos : 0 < rl.refillRate) {bucket : TokenBucket}
    (tokens : 0 ≤ bucket.tokens) (begun : bucket.lastRefill ≤ t) :
    0 ≤ rl.allowance bucket t := by
  rw [Int64.lt_iff_toInt_lt, Int64.toInt_zero] at pos
  have periods : 0 ≤ (t - bucket.lastRefill) / rl.refillRate.toInt :=
    Int.ediv_nonneg (by omega) pos.le
  rw [allowance]
  omega

theorem allowedWithin_cons_of_not {call : AllowCall} (rest : List AllowCall)
    (hidden : ¬ (call.userID = userID ∧ s ≤ call.now ∧ call.now ≤ t)) :
    rl.allowedWithin userID s t (call :: rest) =
      (rl.next call).allowedWithin userID s t rest := by
  rw [allowedWithin_cons, if_neg hidden, Nat.zero_add]

/-- The allowance of a bucket bounds the calls which follow. -/
theorem allowedWithin_le_allowance (nonneg : 0 ≤ rl.maxTokens)
    (pos : 0 < rl.refillRate) (bounded : rl.Bounded)
    {bucket : TokenBucket} (found : rl.tokens.lookup userID = some bucket)
    (begun : bucket.lastRefill ≤ t) {time : Int}
    (refilled : rl.RefilledBy time) {calls : List AllowCall}
    (clock : ClockFrom time calls) :
    (rl.allowedWithin userID s t calls : Int) ≤ rl.allowance bucket t := by
  induction calls generalizing rl bucket time with
  | nil => exact allowance_nonneg pos (bounded _ _ found).1 begun
  | cons call rest inductionHypothesis =>
      obtain ⟨later, ordered, clockRest⟩ := clockFrom_cons clock
      have restBound :=
        @inductionHypothesis (rl.next call) (by simpa using nonneg)
          (by simpa using pos) (bounded.next nonneg call)
      have refilledNext := refilled.next later ordered
      by_cases isUser : call.userID = userID
      · subst isUser
        have isBucket : rl.bucketOf call = bucket := by
          rw [bucketOf, found]
        have bucketBefore : bucket.lastRefill ≤ call.now :=
          isBucket ▸ refilled.bucketOf later ordered
        by_cases inTime : call.now ≤ t
        · -- The call uses up what it is allowed; the rest has what remains.
          have refillTime : (rl.refill bucket call.now).lastRefill ≤ call.now :=
            lastRefill_refill_le bucketBefore
          have first := rl.allowedWithin_cons_le call.userID s t call rest
          have begunAfter : (rl.bucketAfter call).lastRefill ≤ t := by
            rw [lastRefill_bucketAfter, isBucket]
            omega
          have remaining :=
            restBound (rl.lookup_next_self call) begunAfter refilledNext
              clockRest
          have used := rl.allowance_bucketAfter call t
          have anticipated :
              rl.allowance (rl.refill bucket call.now) t ≤
                rl.allowance bucket t :=
            allowance_refill_le pos bucketBefore
          rw [allowance_next] at remaining
          rw [isBucket] at used
          omega
        · rw [allowedWithin_eq_zero]
          · exact allowance_nonneg pos (bounded _ _ found).1 begun
          · rw [List.forall_mem_cons]
            have tooLate := Int.not_le.mp inTime
            exact
              ⟨tooLate, fun other member =>
                tooLate.trans_le (clockRest.le_now other member)⟩
      · rw [allowedWithin_cons_of_not rest fun visible => isUser visible.1]
        have unchanged :
            (rl.next call).tokens.lookup userID = some bucket := by
          rw [rl.lookup_next_of_ne call (Ne.symm isUser), found]
        have bound := restBound unchanged begun refilledNext clockRest
        rwa [allowance_next] at bound

/--
In every interval a user is allowed at most the most tokens, those of the
interval, and one which was begun before it.
-/
theorem allowedWithin_le (nonneg : 0 ≤ rl.maxTokens)
    (pos : 0 < rl.refillRate) (bounded : rl.Bounded) {time : Int}
    (refilled : rl.RefilledBy time) {calls : List AllowCall}
    (clock : ClockFrom time calls) (interval : s ≤ t) :
    (rl.allowedWithin userID s t calls : Int) ≤
      rl.maxTokens.toInt + (t - s) / rl.refillRate.toInt + 1 := by
  induction calls generalizing rl time with
  | nil =>
      rw [Int64.le_iff_toInt_le, Int64.toInt_zero] at nonneg
      rw [Int64.lt_iff_toInt_lt, Int64.toInt_zero] at pos
      have periods : 0 ≤ (t - s) / rl.refillRate.toInt :=
        Int.ediv_nonneg (by omega) pos.le
      change (0 : Int) ≤ _
      omega
  | cons call rest inductionHypothesis =>
      obtain ⟨later, ordered, clockRest⟩ := clockFrom_cons clock
      have boundedNext := bounded.next nonneg call
      have refilledNext := refilled.next later ordered
      by_cases visible : call.userID = userID ∧ s ≤ call.now ∧ call.now ≤ t
      · -- From the first call in the interval on, its bucket decides.
        obtain ⟨rfl, begun, inTime⟩ := visible
        have bucketBefore := refilled.bucketOf later ordered
        have refillTime :
            (rl.refill (rl.bucketOf call) call.now).lastRefill ≤ call.now :=
          lastRefill_refill_le bucketBefore
        have begunAfter : (rl.bucketAfter call).lastRefill ≤ t := by
          rw [lastRefill_bucketAfter]
          omega
        have first := rl.allowedWithin_cons_le call.userID s t call rest
        have remaining :
            ((rl.next call).allowedWithin call.userID s t rest : Int) ≤
              (rl.next call).allowance (rl.bucketAfter call) t :=
          allowedWithin_le_allowance (by simpa using nonneg)
            (by simpa using pos) boundedNext (rl.lookup_next_self call)
            begunAfter refilledNext clockRest
        have used := rl.allowance_bucketAfter call t
        have window :
            rl.allowance (rl.refill (rl.bucketOf call) call.now) t ≤
              rl.maxTokens.toInt + (t - s) / rl.refillRate.toInt + 1 :=
          allowance_refill_window pos bucketBefore
            (bounded.bucketOf nonneg call).2 begun
        rw [allowance_next] at remaining
        omega
      · rw [allowedWithin_cons_of_not rest visible]
        have bound :=
          @inductionHypothesis (rl.next call) (by simpa using nonneg)
            (by simpa using pos) boundedNext call.now refilledNext clockRest
        rwa [maxTokens_next, refillRate_next] at bound

end Window

/-! ## Users do not share buckets -/

/-- The limiters have the same limits and the same bucket for a user. -/
structure SameUser (userID : UInt64) (rl other : RateLimiter) : Prop where
  maxTokens : rl.maxTokens = other.maxTokens
  refillRate : rl.refillRate = other.refillRate
  bucket : rl.tokens.lookup userID = other.tokens.lookup userID

namespace SameUser

variable {rl other : RateLimiter} {call : AllowCall}

theorem refill_bucketOf (same : SameUser call.userID rl other) :
    rl.refill (rl.bucketOf call) call.now =
      other.refill (other.bucketOf call) call.now := by
  rw [refill, refill, bucketOf, bucketOf, same.bucket, same.maxTokens,
    same.refillRate]

theorem allowed (same : SameUser call.userID rl other) :
    rl.allowed call = other.allowed call := by
  rw [RateLimiter.allowed, allow, RateLimiter.allowed, allow,
    same.refill_bucketOf]
  split <;> rfl

theorem next (same : SameUser call.userID rl other) :
    SameUser call.userID (rl.next call) (other.next call) where
  maxTokens := by rw [maxTokens_next, maxTokens_next, same.maxTokens]
  refillRate := by rw [refillRate_next, refillRate_next, same.refillRate]
  bucket := by
    rw [lookup_next_self, lookup_next_self, bucketAfter, bucketAfter,
      same.refill_bucketOf]

theorem next_of_ne {userID : UInt64} (same : SameUser userID rl other)
    (different : ¬ call.userID = userID) :
    SameUser userID (rl.next call) other where
  maxTokens := by rw [maxTokens_next, same.maxTokens]
  refillRate := by rw [refillRate_next, same.refillRate]
  bucket := by rw [lookup_next_of_ne rl call (Ne.symm different), same.bucket]

end SameUser

/-- The answers to a user are those given when nobody else calls. -/
theorem answers_of_user (rl : RateLimiter) (userID : UInt64)
    (calls : List AllowCall) :
    LabelledRun.outputsOf RateLimiter.next allowed
        (fun call => call.userID = userID) rl calls =
      LabelledRun.outputs RateLimiter.next allowed rl
        (calls.filter fun call => call.userID = userID) := by
  have sameOutput :
      ∀ state other call, SameUser userID state other →
        call.userID = userID → state.allowed call = other.allowed call := by
    rintro state other call same rfl
    exact same.allowed
  have moved :
      ∀ state other call, SameUser userID state other →
        call.userID = userID →
          SameUser userID (state.next call) (other.next call) := by
    rintro state other call same rfl
    exact same.next
  have unmoved :
      ∀ state other call, SameUser userID state other →
        ¬ call.userID = userID → SameUser userID (state.next call) other :=
    fun state other call same different => same.next_of_ne different
  exact
    LabelledRun.outputsOf_eq_outputs_filter sameOutput moved unmoved
      ⟨rfl, rfl, rfl⟩ calls

end RateLimiter

/--
Whatever the other users do, a user is allowed in every interval at most the
most tokens, those of the interval and one more; and no bucket ever has less
than no token or more than the most.
-/
theorem rate_bound (maxTokens refillRate : Int64) (nonneg : 0 ≤ maxTokens)
    (pos : 0 < refillRate) (calls : List AllowCall)
    (clock : (clockReadings calls).Pairwise (· ≤ ·)) :
    (∀ userID s t,
      s ≤ t →
        ((newRateLimiter maxTokens refillRate).allowedWithin userID s t
            calls : Int) ≤
          maxTokens.toInt + (t - s) / refillRate.toInt + 1) ∧
      (∀ userID,
        LabelledRun.outputsOf RateLimiter.next RateLimiter.allowed
            (fun call => call.userID = userID)
            (newRateLimiter maxTokens refillRate) calls =
          LabelledRun.outputs RateLimiter.next RateLimiter.allowed
            (newRateLimiter maxTokens refillRate)
            (calls.filter fun call => call.userID = userID)) ∧
      LabelledRun.Always RateLimiter.next
        (fun rl =>
          ∀ userID bucket,
            rl.tokens.lookup userID = some bucket →
              0 ≤ bucket.tokens ∧ bucket.tokens ≤ maxTokens.toInt)
        (newRateLimiter maxTokens refillRate) calls := by
  refine ⟨?_, ?_, ?_⟩
  · intro userID s t interval
    obtain ⟨time, clockFrom⟩ := RateLimiter.exists_clockFrom clock
    have nonnegNew : 0 ≤ (newRateLimiter maxTokens refillRate).maxTokens :=
      nonneg
    have posNew : 0 < (newRateLimiter maxTokens refillRate).refillRate := pos
    exact
      RateLimiter.allowedWithin_le nonnegNew posNew
        (RateLimiter.bounded_newRateLimiter maxTokens refillRate)
        (RateLimiter.refilledBy_newRateLimiter maxTokens refillRate time)
        clockFrom interval
  · intro userID
    exact RateLimiter.answers_of_user _ userID calls
  · intro earlier _
    let invariant : RateLimiter → Prop :=
      fun rl => rl.maxTokens = maxTokens ∧ rl.Bounded
    have preserved :
        ∀ rl call, invariant rl → invariant (rl.next call) := by
      rintro rl call ⟨rfl, bounded⟩
      exact ⟨rl.maxTokens_next call, bounded.next nonneg call⟩
    have initially : invariant (newRateLimiter maxTokens refillRate) :=
      ⟨rfl, RateLimiter.bounded_newRateLimiter maxTokens refillRate⟩
    have reached :=
      LabelledRun.run_invariant_of_every preserved earlier initially
    intro userID bucket found
    have bounds := reached.2 userID bucket found
    rwa [reached.1] at bounds

/-- A bucket of two tokens, one more each 10 ns, and two users. -/
def fourCalls : List AllowCall :=
  [{ userID := 1, made := 0, now := 3 }, { userID := 2, made := 4, now := 5 },
    { userID := 1, made := 6, now := 7 }, { userID := 1, made := 8, now := 12 }]

theorem rate_bound_sample :
    ((newRateLimiter 2 10).allowedWithin 1 3 12 fourCalls : Int) ≤
      (2 : Int64).toInt + (12 - 3) / (10 : Int64).toInt + 1 :=
  (rate_bound 2 10 (by decide) (by decide) fourCalls (by decide)).1 1 3 12
    (by decide)

end AeroRisk.Gateway
