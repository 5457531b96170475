import AeroRisk.Guardrail.RoundedFloat
import AeroRisk.Library.SlidingWindow
import Mathlib.Algebra.Order.Field.Basic

/-!
# The velocity check

`VelocityChecker` keeps the times of the events of every account in a window
and divides their number by the time since the oldest of them.  A burst after
a quiet time is therefore averaged over the quiet time.

Times are microseconds after `datetime.min`.
-/

namespace AeroRisk.Guardrail.Agent1

open AeroRisk.Library

variable {rounding : Rounding}

/-- The microseconds of a second. -/
def second : Int := 1000000

/-- `datetime.max`. -/
def maxDatetime : Int := 3652059 * 86400 * second - 1

/-- An event with the reading of the clock when it is checked. -/
structure Arrival (F : Type) where
  event : OrderEvent F
  now : Int

/-- The key of the window of an event. -/
def Arrival.account {F : Type} (arrival : Arrival F) : String :=
  arrival.event.accountID

/-- `max(value, 1.0)`. -/
def atLeastOne (value : rounding.Value) : rounding.Value :=
  if value < 1.0 then 1.0 else value

/-- `VelocityChecker`: its parameters. -/
structure VelocityChecker where
  windowSize : Int := 60
  maxOrdersPerSecond : Int := 100

namespace VelocityChecker

variable (checker : VelocityChecker)

/-- `now - timedelta(seconds=self.window_size)`. -/
def cutoff (now : Int) : Int :=
  now - checker.windowSize * second

/-- The cutoff is a date; otherwise it raises an exception. -/
def HasCutoff (now : Int) : Prop :=
  0 ≤ checker.cutoff now ∧ checker.cutoff now ≤ maxDatetime

instance (now : Int) : Decidable (checker.HasCutoff now) :=
  inferInstanceAs (Decidable (_ ∧ _))

/-- `rate`, for a window whose last entry is the current event. -/
def orderRate (window : List Int) (now : Int) :
    Except String rounding.Value := do
  let timeSpan : rounding.Value ←
    if 1 < window.length then
      PyFloat.trueDivide (now - window.headD now) second
    else
      pure 1.0
  let orderCount : rounding.Value ← PyFloat.toFloat window.length
  PyFloat.divide orderCount (atLeastOne timeSpan)

/-- The result for the current event; `rate` is compared without rounding. -/
def judge (arrival : Arrival rounding.Value) (window : List Int) :
    Except String (AnomalyResult rounding.Value) := do
  let rate : rounding.Value ← orderRate window arrival.now
  let isAnomalous := decide ((checker.maxOrdersPerSecond : Rat) < rate.exact)
  let severity : rounding.Value ←
    if isAnomalous then do
      let limit : rounding.Value ←
        PyFloat.toFloat checker.maxOrdersPerSecond
      let excess ← PyFloat.divide rate limit
      pure (atMostOne (excess - 1.0))
    else
      pure 0.0
  AnomalyResult.checked
    { anomalyType := .velocityViolation
      isAnomalous
      severityScore := severity
      confidence := 0.95
      details :=
        [ ("account_id", .string arrival.event.accountID),
          ("order_rate", .number (PyFloat.round rate 2)),
          ("max_allowed", .integer checker.maxOrdersPerSecond),
          ("window_size_seconds", .integer checker.windowSize),
          ("order_count", .integer window.length) ]
      recommendation := if 0.5 < severity then "BLOCK" else "FLAG" }

/-- `check`, on the window of the account. -/
def observe (window : List Int) (arrival : Arrival rounding.Value) :
    List Int × Except String (AnomalyResult rounding.Value) :=
  if checker.HasCutoff arrival.now then
    let window :=
      (window.dropWhile fun time => time < checker.cutoff arrival.now) ++
        [arrival.now]
    (window, checker.judge arrival window)
  else
    (window, .error "date value out of range")

/-- The windows after `check`. -/
def next :
    (String → List Int) → Arrival rounding.Value → String → List Int :=
  KeyedStates.next Arrival.account checker.observe

/-- What `check` returns or raises. -/
def check :
    (String → List Int) → Arrival rounding.Value →
      Except String (AnomalyResult rounding.Value) :=
  KeyedStates.emit Arrival.account checker.observe

section Ranged

variable {format : FloatFormat} (windows : String → List Int)
  (arrival : Arrival (RangedFloat format))

/-- The windows after `check`, for floats with a largest number. -/
def nextRanged : String → List Int :=
  @next format.rounding checker windows arrival

/--
What `check` returns or raises, for floats with a largest number.  The integers
which it converts are a number of entries and a limit below a rate.  These fit,
unless the limit is far below zero; then the check raises in any case, as its
severity is below zero.
-/
def checkRanged : Except String (AnomalyResult (RangedFloat format)) :=
  @check format.rounding checker windows arrival

end Ranged

/-- The windows after a sequence of events, from none. -/
def windowsAfter (earlier : List (Arrival rounding.Value)) :
    String → List Int :=
  LabelledRun.run checker.next (fun _ => []) earlier

end VelocityChecker

/-! ## Rates -/

/-- The average of a window, as the floats round it. -/
def averageRate (rounding : Rounding) (window : List Int) (now : Int) :
    Rat :=
  let seconds :=
    rounding.nearest (((now - window.headD now : Int) : Rat) / second)
  rounding.nearest (rounding.nearest window.length / max seconds 1)

theorem exact_atLeastOne (value : rounding.Value) :
    (atLeastOne value).exact = max value.exact 1 := by
  rw [atLeastOne]
  split
  · next below =>
      rw [lt_iff_exact, exact_one] at below
      rw [exact_one, max_eq_right below.le]
  · next above =>
      rw [lt_iff_exact, exact_one, not_lt] at above
      rw [max_eq_left above]

namespace VelocityChecker

variable {checker : VelocityChecker}

theorem divide_atLeastOne (count span : rounding.Value) :
    PyFloat.divide count (atLeastOne span) =
      .ok (rounding.round (count.exact / max span.exact 1)) := by
  have positive : 0 < max span.exact 1 := lt_max_of_lt_right one_pos
  rw [← exact_atLeastOne] at positive ⊢
  exact divide_eq positive.ne'

/-- The rate of a window is its average. -/
theorem orderRate_eq (window : List Int) (now : Int) :
    ∃ rate : rounding.Value,
      orderRate (window ++ [now]) now = .ok rate ∧
        rate.exact = averageRate rounding (window ++ [now]) now := by
  cases window with
  | nil =>
      refine ⟨_, divide_atLeastOne _ 1.0, ?_⟩
      simp [averageRate, rounding.nearest_zero]
  | cons oldest rest =>
      have several : 1 < (oldest :: rest ++ [now]).length := by simp
      have divided :=
        divide_atLeastOne
          (rounding.round (oldest :: rest ++ [now]).length)
          (rounding.round (((now - oldest : Int) : Rat) / second))
      rw [orderRate, if_pos several, trueDivide_eq (by decide)]
      exact ⟨_, divided, rfl⟩

/-- A rate above the limit has a severity from 0 to 1. -/
theorem severity_spec {limit : Int} (positive : 1 ≤ limit)
    {rate : rounding.Value} (above : (limit : Rat) < rate.exact) :
    ∃ excess : rounding.Value,
      PyFloat.divide rate (rounding.round limit) = .ok excess ∧
        0.0 ≤ atMostOne (excess - 1.0) ∧
        atMostOne (excess - 1.0) ≤ (1.0 : rounding.Value) := by
  have floor : 1 ≤ rounding.nearest limit :=
    Rounding.one_le_nearest (by exact_mod_cast positive)
  have positiveFloat : 0 < rounding.nearest limit := one_pos.trans_le floor
  have below : rounding.nearest limit ≤ rate.exact :=
    Rounding.nearest_le_exact above.le
  refine ⟨_, divide_eq positiveFloat.ne', ?_⟩
  have large :
      1 ≤ rounding.nearest (rate.exact / rounding.nearest limit) :=
    Rounding.one_le_nearest ((one_le_div positiveFloat).mpr below)
  have nonneg :
      0 ≤ rounding.nearest
        (rounding.nearest (rate.exact / rounding.nearest limit) - 1) :=
    Rounding.nearest_nonneg (sub_nonneg.mpr large)
  rw [atMostOne]
  split
  · next small =>
      refine ⟨?_, le_iff_exact.mpr (lt_iff_exact.mp small).le⟩
      simpa [le_iff_exact] using nonneg
  · simp [le_iff_exact]

/-- The result for an event which is the last of its window. -/
theorem judge_spec (positive : 1 ≤ checker.maxOrdersPerSecond)
    (arrival : Arrival rounding.Value) (window : List Int) :
    ∃ result,
      checker.judge arrival (window ++ [arrival.now]) = .ok result ∧
        (result.isAnomalous = true ↔
          (checker.maxOrdersPerSecond : Rat) <
            averageRate rounding (window ++ [arrival.now]) arrival.now) := by
  obtain ⟨rate, isRate, isAverage⟩ :
      ∃ rate : rounding.Value,
        orderRate (window ++ [arrival.now]) arrival.now = .ok rate ∧
          rate.exact =
            averageRate rounding (window ++ [arrival.now]) arrival.now :=
    orderRate_eq window arrival.now
  rw [← isAverage, judge, isRate]
  by_cases above : (checker.maxOrdersPerSecond : Rat) < rate.exact
  · rcases severity_spec positive above with ⟨excess, divided, inRange⟩
    simp [above, divided, bind, Except.bind, pure, Except.pure,
      AnomalyResult.checked, inRange]
  · simp [above, bind, Except.bind, pure, Except.pure,
      AnomalyResult.checked, le_iff_exact]

/-! ## Bursts -/

/-- The events of an account in the second up to the current one. -/
def lastSecond (earlier : List (Arrival rounding.Value))
    (current : Arrival rounding.Value) : List (Arrival rounding.Value) :=
  (earlier ++ [current]).filter fun arrival =>
    arrival.account = current.account ∧
      current.now - second ≤ arrival.now

variable (checker)

/-- There are more events in the last second than allowed. -/
def Burst (earlier : List (Arrival rounding.Value))
    (current : Arrival rounding.Value) : Prop :=
  checker.maxOrdersPerSecond < (lastSecond earlier current).length

/-- The result for the current event reports an anomaly. -/
def Flags (earlier : List (Arrival rounding.Value))
    (current : Arrival rounding.Value) : Prop :=
  ∃ result,
    checker.check (checker.windowsAfter earlier) current = .ok result ∧
      result.isAnomalous = true

/--
The times of the recorded events of an account which are not older than the
window, with the current one.  An event is recorded if its check had a cutoff.
-/
def recent (earlier : List (Arrival rounding.Value))
    (current : Arrival rounding.Value) : List Int :=
  let recorded :=
    SlidingWindow.logOf Arrival.account Arrival.now
      (fun arrival => checker.HasCutoff arrival.now) current.account earlier
  (recorded.filter fun time => checker.cutoff current.now ≤ time) ++
    [current.now]

/-- The recent events are on average more than allowed in a second. -/
def AverageExceeds (earlier : List (Arrival rounding.Value))
    (current : Arrival rounding.Value) : Prop :=
  checker.HasCutoff current.now ∧
    (checker.maxOrdersPerSecond : Rat) <
      averageRate rounding (checker.recent earlier current) current.now

instance (earlier : List (Arrival rounding.Value))
    (current : Arrival rounding.Value) :
    Decidable (checker.Burst earlier current) :=
  inferInstanceAs (Decidable (_ < _))

instance (earlier : List (Arrival rounding.Value))
    (current : Arrival rounding.Value) :
    Decidable (checker.AverageExceeds earlier current) :=
  inferInstanceAs (Decidable (_ ∧ _))

variable {checker}

/-- What a check leaves of the window, before it appends the event. -/
theorem evicted_eq {earlier : List (Arrival rounding.Value)}
    {current : Arrival rounding.Value}
    (ordered :
      (earlier ++ [current]).Pairwise fun older newer =>
        older.now ≤ newer.now) :
    ((checker.windowsAfter earlier current.account).dropWhile fun time =>
        time < checker.cutoff current.now) ++ [current.now] =
      checker.recent earlier current := by
  have split := List.pairwise_append.mp ordered
  have observed :
      ∀ (window : List Int) (arrival : Arrival rounding.Value),
        (checker.observe window arrival).1 =
          if checker.HasCutoff arrival.now then
            (window.dropWhile fun time =>
                time < checker.cutoff arrival.now) ++ [arrival.now]
          else
            window := by
    intro window arrival
    rw [observe]
    split <;> rfl
  have onward :
      ∀ older newer : Arrival rounding.Value, older.now ≤ newer.now →
        ∀ time, time < checker.cutoff older.now →
          time < checker.cutoff newer.now := by
    intro older newer inOrder time isStale
    rw [cutoff] at isStale ⊢
    omega
  have covers :=
    SlidingWindow.covers_run Arrival.account onward
      (fun arrival _ window _ => observed window arrival) split.1
      (fun arrival member => split.2.2 arrival member current (by simp))
      current.account
  have ageing :
      SlidingWindow.Ageing (fun time => time < checker.cutoff current.now)
        (SlidingWindow.logOf Arrival.account Arrival.now
          (fun arrival => checker.HasCutoff arrival.now) current.account
          earlier) := by
    rw [SlidingWindow.Ageing, SlidingWindow.logOf, List.pairwise_map]
    apply (split.1.filter _).imp
    intro older newer inOrder isStale
    omega
  rw [windowsAfter, next, covers.dropWhile_eq_filter ageing, recent]
  simp only [not_lt]

/-- An anomaly is reported when the average exceeds the limit. -/
theorem flags_iff (positive : 1 ≤ checker.maxOrdersPerSecond)
    {earlier : List (Arrival rounding.Value)}
    {current : Arrival rounding.Value}
    (ordered :
      (earlier ++ [current]).Pairwise fun older newer =>
        older.now ≤ newer.now) :
    checker.Flags earlier current ↔
      checker.AverageExceeds earlier current := by
  rw [Flags, AverageExceeds, check, KeyedStates.emit, observe]
  by_cases hasCutoff : checker.HasCutoff current.now
  · rcases judge_spec positive current
        ((checker.windowsAfter earlier current.account).dropWhile fun time =>
          time < checker.cutoff current.now) with
      ⟨result, isResult, anomalous⟩
    rw [evicted_eq ordered] at isResult anomalous
    rw [if_pos hasCutoff, evicted_eq ordered]
    dsimp only
    constructor
    · rintro ⟨found, isFound, isAnomalous⟩
      rw [isResult] at isFound
      cases isFound
      exact ⟨hasCutoff, anomalous.mp isAnomalous⟩
    · rintro ⟨-, exceeds⟩
      exact ⟨result, isResult, anomalous.mpr exceeds⟩
  · simp [hasCutoff]

/--
In the checks of events in the order of their times every burst is flagged
exactly when at every burst the cutoff is a date and the average over the
window, whose oldest event may be long ago, exceeds the limit as well.
-/
theorem bursts_flagged (positive : 1 ≤ checker.maxOrdersPerSecond)
    {arrivals : List (Arrival rounding.Value)}
    (ordered :
      arrivals.Pairwise fun older newer => older.now ≤ newer.now) :
    LabelledRun.Along LabelledRun.remember
        (fun earlier current =>
          checker.Burst earlier current → checker.Flags earlier current)
        [] arrivals ↔
      LabelledRun.Along LabelledRun.remember
        (fun earlier current =>
          checker.Burst earlier current →
            checker.AverageExceeds earlier current)
        [] arrivals := by
  rw [LabelledRun.along_remember_iff, LabelledRun.along_remember_iff]
  have flags :
      ∀ earlier current later,
        arrivals = earlier ++ current :: later →
          (checker.Flags earlier current ↔
            checker.AverageExceeds earlier current) := by
    rintro earlier current later rfl
    rw [List.append_cons] at ordered
    exact flags_iff positive (List.pairwise_append.mp ordered).1
  constructor
  · intro everyBurst earlier current later split burst
    exact (flags _ _ _ split).mp (everyBurst _ _ _ split burst)
  · intro everyBurst earlier current later split burst
    exact (flags _ _ _ split).mpr (everyBurst _ _ _ split burst)

end VelocityChecker

/-- An order of an account, at a second of the year 2025. -/
def orderAt (rounding : Rounding) (seconds : Int) :
    Arrival rounding.Value where
  event :=
    { orderID := "order-1"
      accountID := "account-1"
      symbol := "AAPL"
      side := .buy
      action := .submit
      price := 1500000
      quantity := 100
      timestamp := 0.0 }
  now := (63900000000 + seconds) * second

/-- An order, and three in the same second half a minute later. -/
def quietThenBurst : List (Arrival Rounding.identity.Value) :=
  [0, 32, 32, 32].map (orderAt .identity)

namespace VelocityChecker

/-- Two orders in a second are flagged when one is allowed. -/
theorem bursts_flagged_sample :
    LabelledRun.Along LabelledRun.remember
      (fun earlier current =>
        Burst { maxOrdersPerSecond := 1 } earlier current →
          Flags { maxOrdersPerSecond := 1 } earlier current)
      [] [orderAt Rounding.identity 0, orderAt Rounding.identity 0] :=
  (bursts_flagged (by decide) (by decide)).mpr (by decide +kernel)

/-- The quiet half of a minute hides the burst after it. -/
theorem bursts_flagged_fails :
    ¬ ∀ (rounding : Rounding) (checker : VelocityChecker)
        (arrivals : List (Arrival rounding.Value)),
        1 ≤ checker.maxOrdersPerSecond →
        (arrivals.Pairwise fun older newer => older.now ≤ newer.now) →
        LabelledRun.Along LabelledRun.remember
          (fun earlier current =>
            checker.Burst earlier current → checker.Flags earlier current)
          [] arrivals := by
  intro always
  have ordered :
      quietThenBurst.Pairwise fun older newer => older.now ≤ newer.now := by
    decide
  have flags :=
    (LabelledRun.along_remember_iff quietThenBurst).mp
      (always .identity { maxOrdersPerSecond := 2 } quietThenBurst
        (by decide) ordered)
      [orderAt .identity 0, orderAt .identity 32, orderAt .identity 32]
      (orderAt .identity 32) [] rfl (by decide)
  rw [flags_iff (by decide) ordered] at flags
  exact absurd flags (by decide +kernel)

end VelocityChecker

end AeroRisk.Guardrail.Agent1
