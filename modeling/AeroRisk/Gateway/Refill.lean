import AeroRisk.Gateway.RateLimiter
import AeroRisk.Library.Accrual

/-!
# Refills and the times of the calls

A refill adds a token for every whole period since the last refill, and then
moves the last refill to the time of the call.  The rest of a period which had
passed by then never adds a token, so how many tokens a bucket gets depends on
when it is asked for them.
-/

namespace AeroRisk.Gateway

open AeroRisk.Library
open AeroRisk.Library.Accrual

namespace RateLimiter

/-- The tokens for the time since a refill. -/
def earned (rl : RateLimiter) (elapsed : Int) : Int :=
  (timeSub elapsed 0).tdiv rl.refillRate.toInt

/-- The tokens which the refill of a call adds. -/
def added (rl : RateLimiter) (call : AllowCall) : Int :=
  (rl.refill (rl.bucketOf call) call.now).tokens - (rl.bucketOf call).tokens

/-- The tokens which the refills of some calls add. -/
def totalAdded (rl : RateLimiter) (calls : List AllowCall) : Int :=
  (LabelledRun.outputs next added rl calls).sum

/-- The refill of a call does not reach beyond the most tokens. -/
def Uncapped (rl : RateLimiter) (call : AllowCall) : Prop :=
  (rl.bucketOf call).tokens +
      rl.earned (call.now - (rl.bucketOf call).lastRefill) ≤
    rl.maxTokens.toInt

instance (rl : RateLimiter) (call : AllowCall) : Decidable (rl.Uncapped call) :=
  inferInstanceAs (Decidable (_ ≤ _))

/-- The time of the last of some calls. -/
def finish (first : AllowCall) (rest : List AllowCall) : Int :=
  ((first :: rest).getLast (List.cons_ne_nil _ _)).now

/--
The calls are made by one user, who has no bucket before, at times of a clock
which goes on, and no refill is capped.
-/
structure Schedule (rl : RateLimiter) (userID : UInt64) (first : AllowCall)
    (rest : List AllowCall) : Prop where
  absent : rl.tokens.lookup userID = none
  oneUser : ∀ call ∈ first :: rest, call.userID = userID
  clock : (clockReadings (first :: rest)).Pairwise (· ≤ ·)
  uncapped : LabelledRun.Along next Uncapped rl (first :: rest)

/-- The time between the first and the last call which adds no token. -/
def unpaidTime (rl : RateLimiter) (first : AllowCall)
    (rest : List AllowCall) : Int :=
  leftOver rl.earned rl.refillRate.toInt first.made
    ((first :: rest).map AllowCall.now) (finish first rest)

section Refills

variable {rl : RateLimiter}

theorem refill_eq (rl : RateLimiter) (bucket : TokenBucket) (now : Int) :
    rl.refill bucket now =
      if 0 < rl.earned (now - bucket.lastRefill) then
        { tokens :=
            min64 (bucket.tokens + rl.earned (now - bucket.lastRefill))
              rl.maxTokens.toInt
          lastRefill := now }
      else
        bucket := by
  rw [refill, earned, timeSub, timeSub, sub_zero]

@[simp]
theorem earned_next (rl : RateLimiter) (call : AllowCall) :
    (rl.next call).earned = rl.earned := by
  funext elapsed
  rw [earned, earned, refillRate_next]

/-- The tokens of a time are worth no more than the time. -/
theorem earned_atMost (pos : 0 < rl.refillRate) (elapsed : Int)
    (nonneg : 0 ≤ elapsed) :
    rl.refillRate.toInt * rl.earned elapsed ≤ elapsed := by
  rw [Int64.lt_iff_toInt_lt, Int64.toInt_zero] at pos
  rw [earned, timeSub_tdiv _ nonneg, sub_zero, mul_comm]
  exact (Int.ediv_mul_le _ pos.ne').trans (min_le_left _ _)

theorem added_of_uncapped {call : AllowCall} (uncapped : rl.Uncapped call) :
    rl.added call =
      if 0 < rl.earned (call.now - (rl.bucketOf call).lastRefill) then
        rl.earned (call.now - (rl.bucketOf call).lastRefill)
      else
        0 := by
  rw [Uncapped] at uncapped
  rw [added, refill_eq]
  split
  · simp only [min64]
    split <;> omega
  · exact sub_self _

theorem lastRefill_bucketAfter_eq (call : AllowCall) :
    (rl.bucketAfter call).lastRefill =
      if 0 < rl.earned (call.now - (rl.bucketOf call).lastRefill) then
        call.now
      else
        (rl.bucketOf call).lastRefill := by
  rw [lastRefill_bucketAfter, refill_eq]
  split <;> rfl

/-- Refills which are not capped pay what the time between them earns. -/
theorem totalAdded_eq_paid {first : AllowCall} {rest : List AllowCall}
    (oneUser : ∀ call ∈ rest, call.userID = first.userID)
    (uncapped : LabelledRun.Along next Uncapped rl (first :: rest)) :
    rl.totalAdded (first :: rest) =
      paid rl.earned (rl.bucketOf first).lastRefill
        ((first :: rest).map AllowCall.now) := by
  induction rest generalizing rl first with
  | nil =>
      have adds := added_of_uncapped uncapped.1
      rw [totalAdded, LabelledRun.outputs_cons, List.sum_cons, adds]
      exact (paid_cons rl.earned _ first.now []).symm
  | cons second rest inductionHypothesis =>
      rw [List.forall_mem_cons] at oneUser
      obtain ⟨isUser, sameUser⟩ := oneUser
      have isBucket :
          (rl.next first).bucketOf second = rl.bucketAfter first := by
        rw [bucketOf, isUser, lookup_next_self]
      have adds := added_of_uncapped uncapped.1
      have remaining :=
        inductionHypothesis (fun call member => isUser ▸ sameUser call member)
          uncapped.2
      rw [isBucket, earned_next, lastRefill_bucketAfter_eq] at remaining
      rw [totalAdded, LabelledRun.outputs_cons, List.sum_cons, ← totalAdded,
        adds, remaining]
      exact (paid_cons _ _ _ _).symm

namespace Schedule

variable {userID : UInt64} {first : AllowCall} {rest : List AllowCall}
  (schedule : rl.Schedule userID first rest)

include schedule

theorem totalAdded_eq :
    rl.totalAdded (first :: rest) =
      paid rl.earned first.made ((first :: rest).map AllowCall.now) := by
  have same := schedule.oneUser
  rw [List.forall_mem_cons] at same
  have isNew : (rl.bucketOf first).lastRefill = first.made := by
    rw [bucketOf, same.1, schedule.absent]
  rw [← isNew]
  exact
    totalAdded_eq_paid (fun call member => same.1 ▸ same.2 call member)
      schedule.uncapped

/-- The times of the calls do not decrease, and the last one is the finish. -/
theorem ordered :
    (first.made ::
        ((first :: rest).map AllowCall.now ++ [finish first rest])).Pairwise
      (· ≤ ·) := by
  have readings : ∀ calls : List AllowCall,
      (calls.map AllowCall.now).Sublist (clockReadings calls) := by
    intro calls
    induction calls with
    | nil => exact .slnil
    | cons call calls inductionHypothesis =>
        exact (inductionHypothesis.cons_cons _).cons _
  have times :
      (first.made :: (first :: rest).map AllowCall.now).Pairwise (· ≤ ·) :=
    schedule.clock.sublist (((readings rest).cons_cons _).cons_cons _)
  rw [← List.cons_append, List.pairwise_append]
  refine ⟨times, List.pairwise_singleton _ _, fun time member => ?_⟩
  have isLast :
      (first.made :: (first :: rest).map AllowCall.now).getLast
          (List.cons_ne_nil _ _) =
        finish first rest := by
    rw [List.getLast_cons (by simp), List.getLast_map]
    rfl
  rw [List.forall_mem_singleton, ← isLast]
  exact times.rel_getLast member

theorem unpaidTime_nonneg (pos : 0 < rl.refillRate) :
    0 ≤ rl.unpaidTime first rest :=
  leftOver_nonneg (earned_atMost pos) schedule.ordered

end Schedule

end Refills

/--
The refills of some calls add a token for every whole period exactly when less
than one period between the first and the last call adds no token, and those
of two schedules for the same time add as many exactly when they lose as much
of the time.
-/
theorem refill_total (rl : RateLimiter) (pos : 0 < rl.refillRate)
    (userID : UInt64) (first : AllowCall) (rest : List AllowCall)
    (schedule : rl.Schedule userID first rest) :
    (rl.totalAdded (first :: rest) =
        (finish first rest - first.made) / rl.refillRate.toInt ↔
      rl.unpaidTime first rest < rl.refillRate.toInt) ∧
      ∀ other others,
        rl.Schedule userID other others →
          other.made = first.made → finish other others = finish first rest →
            (rl.totalAdded (first :: rest) = rl.totalAdded (other :: others) ↔
              rl.unpaidTime first rest = rl.unpaidTime other others) := by
  have posRate := pos
  rw [Int64.lt_iff_toInt_lt, Int64.toInt_zero] at posRate
  rw [schedule.totalAdded_eq]
  constructor
  · exact paid_eq_iff posRate (schedule.unpaidTime_nonneg pos)
  · intro other others otherSchedule sameStart sameFinish
    rw [otherSchedule.totalAdded_eq, unpaidTime, unpaidTime, sameStart,
      sameFinish]
    exact paid_eq_paid_iff posRate _ _ _

/-- A user of a limiter with a token each 10 ns asks twice, 15 ns apart. -/
def unevenCalls : List AllowCall :=
  [{ userID := 1, made := 15, now := 15 },
    { userID := 1, made := 30, now := 30 }]

theorem unevenCalls_schedule :
    (newRateLimiter 5 10).Schedule 1 { userID := 1, made := 0, now := 0 }
      unevenCalls where
  absent := rfl
  oneUser := by decide
  clock := by decide
  uncapped := by decide

theorem refill_total_sample :
    (newRateLimiter 5 10).totalAdded
          ({ userID := 1, made := 0, now := 0 } :: unevenCalls) =
        (finish { userID := 1, made := 0, now := 0 } unevenCalls - 0) /
          (10 : Int64).toInt ↔
      (newRateLimiter 5 10).unpaidTime { userID := 1, made := 0, now := 0 }
          unevenCalls < (10 : Int64).toInt :=
  (refill_total (newRateLimiter 5 10) (by decide) 1
    { userID := 1, made := 0, now := 0 } unevenCalls
    unevenCalls_schedule).1

/-- Two refills each lose 5 ns, and 30 ns add two tokens. -/
theorem refill_total_fails :
    ¬ ∀ (rl : RateLimiter) (userID : UInt64) (first : AllowCall)
        (rest : List AllowCall),
        0 < rl.refillRate → rl.Schedule userID first rest →
          rl.totalAdded (first :: rest) =
            (finish first rest - first.made) / rl.refillRate.toInt := by
  intro total
  have added :=
    total (newRateLimiter 5 10) 1 { userID := 1, made := 0, now := 0 }
      unevenCalls (by decide) unevenCalls_schedule
  exact absurd added (by decide)

end RateLimiter

end AeroRisk.Gateway
