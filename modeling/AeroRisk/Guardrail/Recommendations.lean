import AeroRisk.Guardrail.RoundTrips
import AeroRisk.Guardrail.Spoofing
import AeroRisk.Guardrail.Velocity
import AeroRisk.Library.StateGraph

/-!
# Recommendations

The detectors take their recommendation from the severity, which is zero when
no anomaly is found.  Only the results with a reason of their own recommend to
allow an event; the others recommend to flag it.
-/

namespace AeroRisk.Guardrail.Agent1

open AeroRisk.Library

section Outcomes

variable {F : Type}

/--
The recommendation of a result, if one is returned, is `ALLOW` exactly when no
anomaly is reported.
-/
def FollowsVerdict (outcome : Except String (AnomalyResult F)) : Prop :=
  ∀ result, outcome = .ok result →
    (result.recommendation = "ALLOW" ↔ result.isAnomalous = false)

theorem followsVerdict_error (error : String) :
    FollowsVerdict (.error error : Except String (AnomalyResult F)) :=
  nofun

theorem followsVerdict_unremarkable [PyFloat F] (anomalyType : AnomalyType)
    (details : List (String × Detail F)) :
    FollowsVerdict (.ok (unremarkable anomalyType details)) := by
  rintro result ⟨⟩
  exact iff_of_true rfl rfl

/--
A detector which never recommends to allow follows its verdict when this is an
anomaly.
-/
theorem followsVerdict_iff {outcome : Except String (AnomalyResult F)}
    {anomalous : Prop}
    (advice :
      ∀ result, outcome = .ok result →
        result.recommendation ≠ "ALLOW" ∧
          (result.isAnomalous = true ↔ anomalous))
    (returns : ¬ anomalous → ∃ result, outcome = .ok result) :
    FollowsVerdict outcome ↔ anomalous := by
  constructor
  · intro follows
    by_contra normal
    rcases returns normal with ⟨result, isResult⟩
    rcases advice result isResult with ⟨notAllowed, verdict⟩
    apply notAllowed
    rw [follows result isResult, ← Bool.not_eq_true, verdict]
    exact normal
  · intro isAnomalous result isResult
    rcases advice result isResult with ⟨notAllowed, verdict⟩
    refine iff_of_false notAllowed ?_
    rw [verdict.mpr isAnomalous]
    decide

/-- The last steps of a judgement build its result from a severity. -/
theorem exists_of_bind_checked [PyFloat F] {severity : Except String F}
    {build : F → AnomalyResult F} {result : AnomalyResult F}
    (judged :
      (severity >>= fun value => (build value).checked) = .ok result) :
    ∃ value, result = build value := by
  rcases bind_eq_ok_iff.mp judged with ⟨value, -, checked⟩
  exact ⟨value, AnomalyResult.eq_of_checked checked⟩

/-- Neither of two recommendations is `ALLOW`. -/
theorem ite_ne_allow (condition : Prop) [Decidable condition] :
    (if condition then "BLOCK" else "FLAG") ≠ "ALLOW" ∧
      (if condition then "FLAG" else "BLOCK") ≠ "ALLOW" := by
  split <;> decide

end Outcomes

variable {rounding : Rounding}

/-- A result whose severity is zero passes its checks. -/
theorem checked_of_zero {result : AnomalyResult rounding.Value}
    (zero : result.severityScore = 0.0) :
    result.checked = .ok result := by
  rw [AnomalyResult.checked, if_pos]
  simp [zero, le_iff_exact]

namespace RangedFloat

variable {format : FloatFormat}

@[inherit_doc Agent1.checked_of_zero]
theorem checked_of_zero {result : AnomalyResult (RangedFloat format)}
    (zero : result.severityScore = 0.0) :
    result.checked = .ok result :=
  Agent1.checked_of_zero zero

/-- A severity which is cut off at one passes when it is not negative. -/
theorem checked_of_atMostOne {result : AnomalyResult (RangedFloat format)}
    {value : RangedFloat format}
    (isSeverity : result.severityScore = atMostOne value) :
    result.checked =
      if 0 ≤ value.exact then
        .ok result
      else
        .error "severity_score should be from 0 to 1" := by
  have passes_iff :
      0.0 ≤ result.severityScore ∧ result.severityScore ≤ 1.0 ↔
        0 ≤ value.exact := by
    rw [isSeverity, le_iff_exact, le_iff_exact, exact_zero, exact_one,
      exact_atMostOne, and_iff_left (min_le_right _ _), le_min_iff,
      and_iff_left zero_le_one]
  rw [AnomalyResult.checked]
  exact if_congr passes_iff rfl rfl

end RangedFloat

namespace VelocityChecker

variable (checker : VelocityChecker)

/-- The window of an account when the rate is calculated. -/
def windowOf (windows : String → List Int)
    (arrival : Arrival rounding.Value) : List Int :=
  ((windows arrival.account).dropWhile fun time =>
      time < checker.cutoff arrival.now) ++ [arrival.now]

/-- The average of the window exceeds the limit. -/
def Exceeds (windows : String → List Int)
    (arrival : Arrival rounding.Value) : Prop :=
  (checker.maxOrdersPerSecond : Rat) <
    averageRate rounding (checker.windowOf windows arrival) arrival.now

instance (windows : String → List Int) (arrival : Arrival rounding.Value) :
    Decidable (checker.Exceeds windows arrival) :=
  inferInstanceAs (Decidable ((_ : Rat) < _))

variable {checker}

/-- The recommendation for a rate is never `ALLOW`. -/
theorem advice_of_judge {arrival : Arrival rounding.Value}
    {window : List Int} {rate : rounding.Value}
    {result : AnomalyResult rounding.Value}
    (isRate : orderRate window arrival.now = .ok rate)
    (judged : checker.judge arrival window = .ok result) :
    result.recommendation ≠ "ALLOW" ∧
      (result.isAnomalous = true ↔
        (checker.maxOrdersPerSecond : Rat) < rate.exact) := by
  rw [judge, isRate] at judged
  rcases bind_eq_ok_iff.mp judged with ⟨_, ⟨⟩, judged⟩
  dsimp only at judged
  split at judged
  · rcases bind_eq_ok_iff.mp judged with ⟨limit, -, judged⟩
    rcases bind_eq_ok_iff.mp judged with ⟨excess, -, judged⟩
    rcases exists_of_bind_checked judged with ⟨severity, rfl⟩
    exact ⟨(ite_ne_allow _).1, decide_eq_true_iff⟩
  · rcases exists_of_bind_checked judged with ⟨severity, rfl⟩
    exact ⟨(ite_ne_allow _).1, decide_eq_true_iff⟩

theorem followsVerdict_check_iff (windows : String → List Int)
    (arrival : Arrival rounding.Value) :
    FollowsVerdict (checker.check windows arrival) ↔
      (checker.HasCutoff arrival.now → checker.Exceeds windows arrival) := by
  rw [check, KeyedStates.emit, observe]
  by_cases hasCutoff : checker.HasCutoff arrival.now
  · rw [if_pos hasCutoff, forall_prop_of_true hasCutoff]
    obtain ⟨rate, isRate, isAverage⟩ :
        ∃ rate : rounding.Value,
          orderRate (checker.windowOf windows arrival) arrival.now =
              .ok rate ∧
            rate.exact =
              averageRate rounding (checker.windowOf windows arrival)
                arrival.now :=
      orderRate_eq _ arrival.now
    rw [Exceeds, ← isAverage]
    apply followsVerdict_iff
    · exact fun result judged => advice_of_judge isRate judged
    · intro normal
      change ∃ result,
        checker.judge arrival (checker.windowOf windows arrival) = .ok result
      rw [judge, isRate]
      simp only [bind, Except.bind, normal, decide_false,
        Bool.false_eq_true, if_false, pure, Except.pure]
      exact ⟨_, checked_of_zero rfl⟩
  · rw [if_neg hasCutoff]
    exact
      iff_of_true (followsVerdict_error _) fun present =>
        absurd present hasCutoff

end VelocityChecker

variable {format : FloatFormat}

namespace VWAPMonitor

variable (monitor : VWAPMonitor (RangedFloat format))

/-- The relative deviation of a price. -/
def relativeDeviation (price vwap : Int) : Rat :=
  ((price - vwap).natAbs : Int) / vwap

/--
There is enough history, with an average price, for a comparison, and the
deviation is not too large for a float.
-/
def Compares (windows : String → List (VWAPEntry (RangedFloat format)))
    (reading : Reading (RangedFloat format)) : Prop :=
  (0 ≤ monitor.lookbackPeriods ∧ monitor.lookbackPeriods ≤ maxsize) ∧
    10 ≤
      min ((windows reading.key).length + 1)
        monitor.lookbackPeriods.toNat ∧
    calculateVwap (windows reading.key) ≠ 0 ∧
    format.FitsQuotient
      (relativeDeviation reading.event.price
        (calculateVwap (windows reading.key)))

/-- The price deviates by more than the threshold, as the floats round it. -/
def Deviates (windows : String → List (VWAPEntry (RangedFloat format)))
    (reading : Reading (RangedFloat format)) : Prop :=
  monitor.deviationThreshold.exact <
    format.rounding.nearest
      (relativeDeviation reading.event.price
        (calculateVwap (windows reading.key)))

variable {monitor}

/-- The division of the deviation, when it does not raise. -/
theorem trueDivide_relativeDeviation {price vwap : Int} (nonzero : vwap ≠ 0)
    (fits : format.FitsQuotient (relativeDeviation price vwap)) :
    PyFloat.trueDivide (price - vwap).natAbs vwap =
      .ok
        (RangedFloat.round (relativeDeviation price vwap) :
          RangedFloat format) :=
  RangedFloat.trueDivide_eq nonzero fits

/-- The recommendation for a deviation is never `ALLOW`. -/
theorem advice_of_judge {event : OrderEvent (RangedFloat format)}
    {currentVwap : Int} {windowSize : Nat}
    {result : AnomalyResult (RangedFloat format)} (long : 10 ≤ windowSize)
    (nonzero : currentVwap ≠ 0)
    (fits :
      format.FitsQuotient (relativeDeviation event.price currentVwap))
    (judged : monitor.judge event currentVwap windowSize = .ok result) :
    result.recommendation ≠ "ALLOW" ∧
      (result.isAnomalous = true ↔
        monitor.deviationThreshold.exact <
          format.rounding.nearest
            (relativeDeviation event.price currentVwap)) := by
  rw [judge, if_neg (Nat.not_lt.mpr long), if_neg nonzero,
    trueDivide_relativeDeviation nonzero fits] at judged
  rcases bind_eq_ok_iff.mp judged with ⟨deviation, ⟨⟩, judged⟩
  rw [← RangedFloat.exact_round, ← RangedFloat.lt_iff_exact]
  dsimp only at judged
  split at judged
  · rcases exists_of_bind_checked judged with ⟨severity, rfl⟩
    exact ⟨(ite_ne_allow _).2, decide_eq_true_iff⟩
  · rcases exists_of_bind_checked judged with ⟨severity, rfl⟩
    exact ⟨(ite_ne_allow _).2, decide_eq_true_iff⟩

theorem followsVerdict_check_iff
    (windows : String → List (VWAPEntry (RangedFloat format)))
    (reading : Reading (RangedFloat format)) :
    FollowsVerdict (monitor.check windows reading) ↔
      (monitor.Compares windows reading →
        monitor.Deviates windows reading) := by
  rw [check, KeyedStates.emit, Compares, ← dequeError_eq_none_iff]
  cases created : monitor.dequeError with
  | some error =>
      rw [observe_of_error created]
      exact iff_of_true (followsVerdict_error _) fun compares =>
        absurd compares.1 (Option.some_ne_none error)
  | none =>
      rw [observe, created]
      dsimp only
      rw [length_append, and_iff_right rfl]
      by_cases short :
          min ((windows reading.key).length + 1)
            monitor.lookbackPeriods.toNat < 10
      · rw [judge, if_pos short]
        refine iff_of_true (followsVerdict_unremarkable _ _) ?_
        rintro ⟨long, -⟩
        omega
      by_cases zero : calculateVwap (windows reading.key) = 0
      · rw [judge, if_neg short, if_pos zero]
        refine iff_of_true (followsVerdict_unremarkable _ _) ?_
        rintro ⟨-, nonzero, -⟩
        exact absurd zero nonzero
      by_cases fits :
          format.FitsQuotient
            (relativeDeviation reading.event.price
              (calculateVwap (windows reading.key)))
      · rw [forall_prop_of_true ⟨Nat.not_lt.mp short, zero, fits⟩, Deviates]
        apply followsVerdict_iff
        · exact fun result =>
            advice_of_judge (Nat.not_lt.mp short) zero fits
        · intro normal
          rw [← RangedFloat.exact_round, ← RangedFloat.lt_iff_exact]
            at normal
          rw [judge, if_neg short, if_neg zero,
            trueDivide_relativeDeviation zero fits]
          simp only [bind, Except.bind, decide_eq_true_eq]
          rw [if_neg normal]
          exact ⟨_, RangedFloat.checked_of_zero rfl⟩
      · rw [judge, if_neg short, if_neg zero,
          RangedFloat.trueDivide_of_not_fits zero fits]
        refine iff_of_true (followsVerdict_error _) ?_
        rintro ⟨-, -, inRange⟩
        exact absurd inRange fits

end VWAPMonitor

namespace WashTradeDetector

variable {detector : WashTradeDetector}

/-- The relative difference of the prices of a trade and an event. -/
def relativeDifference (event : OrderEvent (RangedFloat format))
    (trade : TradeRecord (RangedFloat format)) : Rat :=
  ((trade.price - event.price).natAbs : Int) / (max trade.price 1 : Int)

/-- Prices are compared when their difference is not too large. -/
theorem exists_answer_iff (event : OrderEvent (RangedFloat format))
    (trade : TradeRecord (RangedFloat format)) :
    (∃ answer, isMatch event trade = .ok answer) ↔
      (trade.side ≠ event.side →
        format.FitsQuotient (relativeDifference event trade)) := by
  have positive : max trade.price 1 ≠ 0 := by omega
  rw [isMatch]
  split
  · next otherSide =>
      rw [exists_bind_eq_ok_iff, forall_prop_of_true otherSide]
      simp only [pure, Except.pure, Except.ok.injEq, exists_eq', and_true]
      rw [RangedFloat.exists_trueDivide_iff, and_iff_right positive]
      rfl
  · next sameSide =>
      exact iff_of_true ⟨false, rfl⟩ fun otherSide =>
        absurd otherSide sameSide

/--
The time window is not too large for a float, and neither is a difference of
prices of the event and a trade on the other side.
-/
structure Searches (detector : WashTradeDetector)
    (window : List (TradeRecord (RangedFloat format)))
    (reading : Reading (RangedFloat format)) : Prop where
  timeWindow : format.Fits detector.timeWindowSeconds
  differences :
    ∀ trade ∈ detector.kept window reading,
      trade.side ≠ reading.event.side →
        format.FitsQuotient (relativeDifference reading.event trade)

/-- The search finds the matching trades, or it raises. -/
theorem searched_eq_ok_iff_of_searches
    {window : List (TradeRecord (RangedFloat format))}
    {reading : Reading (RangedFloat format)} {count : Nat} :
    detector.searched window reading = .ok count ↔
      detector.Searches window reading ∧
        (detector.matching window reading).length = count := by
  have converts_iff :
      (∃ seconds : RangedFloat format,
          PyFloat.toFloat detector.timeWindowSeconds = .ok seconds) ↔
        format.Fits detector.timeWindowSeconds := by
    simp only [RangedFloat.toFloat_eq_ok_iff, exists_and_left, exists_eq',
      and_true]
  rw [searched_eq_ok_iff, converts_iff, ← and_assoc]
  apply and_congr_left
  intro _
  simp only [exists_answer_iff]
  exact ⟨fun both => ⟨both.1, both.2⟩, fun searches =>
    ⟨searches.timeWindow, searches.differences⟩⟩

/-- The recommendation for round trips is never `ALLOW`. -/
theorem advice_of_judge {event : OrderEvent (RangedFloat format)}
    {count : Int} {result : AnomalyResult (RangedFloat format)}
    (judged : detector.judge event count = .ok result) :
    result.recommendation ≠ "ALLOW" ∧
      (result.isAnomalous = true ↔ detector.minRoundTrips ≤ count) := by
  refine ⟨?_, (judge_spec judged).1⟩
  rw [judge] at judged
  dsimp only at judged
  split at judged
  · rcases exists_of_bind_checked judged with ⟨severity, rfl⟩
    exact (ite_ne_allow _).1
  · rcases exists_of_bind_checked judged with ⟨severity, rfl⟩
    exact (ite_ne_allow _).1

/-- With few round trips no severity is computed. -/
theorem exists_judge_of_few {event : OrderEvent (RangedFloat format)}
    {count : Int} (few : ¬ detector.minRoundTrips ≤ count) :
    ∃ result, detector.judge event count = .ok result := by
  rw [judge]
  simp only [bind, Except.bind, few, decide_false, Bool.false_eq_true,
    if_false, pure, Except.pure]
  exact ⟨_, RangedFloat.checked_of_zero rfl⟩

theorem followsVerdict_check_iff
    (windows : String → List (TradeRecord (RangedFloat format)))
    (reading : Reading (RangedFloat format)) :
    FollowsVerdict (detector.check windows reading) ↔
      (detector.Searches (windows reading.key) reading →
        detector.minRoundTrips ≤
          (detector.matching (windows reading.key) reading).length) := by
  rw [check_eq]
  cases found : detector.searched (windows reading.key) reading with
  | error error =>
      refine iff_of_true (followsVerdict_error _) fun searches => ?_
      have isFound :=
        searched_eq_ok_iff_of_searches.mpr ⟨searches, rfl⟩
      cases found.symm.trans isFound
  | ok count =>
      obtain ⟨searches, rfl⟩ := searched_eq_ok_iff_of_searches.mp found
      rw [forall_prop_of_true searches]
      apply followsVerdict_iff
      · exact fun result => advice_of_judge
      · exact exists_judge_of_few

end WashTradeDetector

namespace SpoofingDetector

variable {detector : SpoofingDetector (RangedFloat format)}

/-- The share of cancelled orders of an account, as the floats round it. -/
def cancelledShare (state : SpoofingState (RangedFloat format))
    (accountID : String) : Rat :=
  format.rounding.nearest
    ((state.accountOrders accountID).countP
        (isCancelled state.orderLifecycles) /
      (state.accountOrders accountID).length)

/-- The last fill of an order as a part of its quantity. -/
def filledPart (lifecycle : OrderLifecycle (RangedFloat format)) : Rat :=
  lifecycle.filledQuantity / (max lifecycle.quantity 1 : Int)

/-- The event cancels a known order whose filled part is no float. -/
def Overflows (state : SpoofingState (RangedFloat format))
    (event : OrderEvent (RangedFloat format)) : Prop :=
  event.action = .cancel ∧
    ∃ lifecycle,
      state.orderLifecycles event.orderID = some lifecycle ∧
        ¬ format.FitsQuotient (filledPart lifecycle)

/--
The event cancels a known order early, with a filled part which is rounded to
zero.
-/
def Suspicious (state : SpoofingState (RangedFloat format))
    (event : OrderEvent (RangedFloat format)) : Prop :=
  event.action = .cancel ∧
    ∃ lifecycle,
      state.orderLifecycles event.orderID = some lifecycle ∧
        event.timestamp - lifecycle.submitTime < 1.0 ∧
        format.rounding.nearest (filledPart lifecycle) = 0

/-- The account of the event cancelled a larger share than the threshold. -/
def CancelsTooMany (detector : SpoofingDetector (RangedFloat format))
    (state : SpoofingState (RangedFloat format))
    (event : OrderEvent (RangedFloat format)) : Prop :=
  detector.cancellationThreshold.exact <
    cancelledShare (next state event) event.accountID

/-- At most all orders of an account are cancelled. -/
theorem cancelledShare_fits (state : SpoofingState (RangedFloat format))
    (accountID : String) :
    format.Fits
      ((state.accountOrders accountID).countP
          (isCancelled state.orderLifecycles) /
        (state.accountOrders accountID).length) := by
  have fewer :
      (state.accountOrders accountID).countP
          (isCancelled state.orderLifecycles) ≤
        (state.accountOrders accountID).length :=
    List.countP_le_length
  have atMostAll :
      ((state.accountOrders accountID).countP
            (isCancelled state.orderLifecycles) : Rat) /
          (state.accountOrders accountID).length ≤
        1 :=
    div_le_one_of_le₀ (by exact_mod_cast fewer) (by positivity)
  exact
    FloatFormat.fits_of_le_ten (by positivity)
      (atMostAll.trans (by norm_num))

theorem calculateCancellationRate_eq
    (state : SpoofingState (RangedFloat format)) (accountID : String) :
    ∃ rate : RangedFloat format,
      calculateCancellationRate state accountID = .ok rate ∧
        rate.exact = cancelledShare state accountID := by
  have fits := cancelledShare_fits state accountID
  rw [calculateCancellationRate, cancelledShare]
  cases orders : state.accountOrders accountID with
  | nil => exact ⟨0.0, rfl, by simp [format.rounding.nearest_zero]⟩
  | cons first rest =>
      have several : max (first :: rest).length 1 = (first :: rest).length := by
        simp
      rw [orders] at fits
      rw [several]
      exact
        ⟨_, RangedFloat.trueDivide_eq (by simp; omega) fits.fitsQuotient, rfl⟩

/-- A suspicious cancel is judged, and the check of another one may raise. -/
theorem check_cases (state : SpoofingState (RangedFloat format))
    (event : OrderEvent (RangedFloat format)) :
    (Suspicious state event ∧ ¬ Overflows state event ∧
        ∃ lifetime fillRatio,
          detector.check state event =
            detector.judge (next state event) event lifetime fillRatio) ∨
      (¬ Suspicious state event ∧ ¬ Overflows state event ∧
        ∃ details,
          detector.check state event =
            .ok (unremarkable .spoofing details)) ∨
      ¬ Suspicious state event ∧ Overflows state event ∧
        ∃ error, detector.check state event = .error error := by
  rw [check, Suspicious, Overflows]
  cases action : event.action with
  | submit => exact .inr (.inl ⟨by simp, by simp, _, rfl⟩)
  | fill => exact .inr (.inl ⟨by simp, by simp, _, rfl⟩)
  | modify => exact .inr (.inl ⟨by simp, by simp, _, rfl⟩)
  | cancel =>
      have lookup :
          (next state event).orderLifecycles event.orderID =
            (state.orderLifecycles event.orderID).map (cancelled event) := by
        rw [orderLifecycles_next, if_pos rfl, lifecycleAfter, action]
      dsimp only [checkCancel]
      rw [lookup]
      cases found : state.orderLifecycles event.orderID with
      | none => exact .inr (.inl ⟨by simp, by simp, _, rfl⟩)
      | some lifecycle =>
          have positive : max lifecycle.quantity 1 ≠ 0 := by omega
          simp only [true_and, Option.some.injEq, exists_eq_left',
            Option.map_some]
          by_cases fits : format.FitsQuotient (filledPart lifecycle)
          · have divided :
                PyFloat.trueDivide
                    (cancelled event lifecycle).filledQuantity
                    (max (cancelled event lifecycle).quantity 1) =
                  .ok
                    (RangedFloat.round (filledPart lifecycle) :
                      RangedFloat format) :=
              RangedFloat.trueDivide_eq positive fits
            have unfilled_iff (ratio : RangedFloat format) :
                (ratio == 0.0) = true ↔ ratio.exact = 0 := by
              rw [RangedFloat.beq_eq_true_iff, RangedFloat.exact_zero]
            simp only [divided, bind, Except.bind, unfilled_iff,
              RangedFloat.exact_round]
            split
            · next suspicious =>
                exact .inl ⟨suspicious, not_not_intro fits, _, _, rfl⟩
            · next normal =>
                exact .inr (.inl ⟨normal, not_not_intro fits, _, rfl⟩)
          · have raised :
                (PyFloat.trueDivide
                    (cancelled event lifecycle).filledQuantity
                    (max (cancelled event lifecycle).quantity 1) :
                    Except String (RangedFloat format)) =
                  .error "integer division result too large for a float" :=
              RangedFloat.trueDivide_of_not_fits positive fits
            rw [raised]
            refine .inr (.inr ⟨?_, fits, _, rfl⟩)
            rintro ⟨-, isZero⟩
            exact
              fits
                (FloatFormat.fits_of_nearest_eq_zero isZero).fitsQuotient

/-- The result for a suspicious cancel. -/
theorem judge_spec (state : SpoofingState (RangedFloat format))
    (event : OrderEvent (RangedFloat format)) (lifetime fillRatio : RangedFloat format) :
    ∃ result,
      detector.judge state event lifetime fillRatio = .ok result ∧
        result.recommendation ≠ "ALLOW" ∧
        (result.isAnomalous = true ↔
          detector.cancellationThreshold.exact <
            cancelledShare state event.accountID) ∧
        (result.isAnomalous = true →
          result.severityScore.exact =
            min (cancelledShare state event.accountID) 1) := by
  rcases calculateCancellationRate_eq state event.accountID with
    ⟨rate, isRate, isShare⟩
  have nonneg : 0 ≤ rate.exact := by
    rw [isShare]
    exact Rounding.nearest_nonneg (by positivity)
  rw [← isShare, ← RangedFloat.lt_iff_exact, judge, isRate]
  simp only [bind, Except.bind, decide_eq_true_eq]
  by_cases above : detector.cancellationThreshold < rate
  · rw [if_pos above]
    exact
      ⟨_, (RangedFloat.checked_of_atMostOne rfl).trans (if_pos nonneg),
        (ite_ne_allow _).1, decide_eq_true_iff, fun _ =>
          RangedFloat.exact_atMostOne rate⟩
  · rw [if_neg above]
    exact
      ⟨_, RangedFloat.checked_of_zero rfl, (ite_ne_allow _).1, decide_eq_true_iff,
        fun anomalous => absurd (of_decide_eq_true anomalous) above⟩

theorem followsVerdict_check_iff (state : SpoofingState (RangedFloat format))
    (event : OrderEvent (RangedFloat format)) :
    FollowsVerdict (detector.check state event) ↔
      (Suspicious state event → detector.CancelsTooMany state event) := by
  rcases detector.check_cases state event with
    ⟨suspicious, -, lifetime, fillRatio, judged⟩ |
      ⟨normal, -, details, allowed⟩ | ⟨normal, -, error, raised⟩
  · rw [judged, forall_prop_of_true suspicious, CancelsTooMany]
    rcases detector.judge_spec (next state event) event lifetime fillRatio with
      ⟨result, isResult, notAllowed, verdict, -⟩
    apply followsVerdict_iff
    · intro found isFound
      rw [isResult] at isFound
      cases isFound
      exact ⟨notAllowed, verdict⟩
    · exact fun _ => ⟨result, isResult⟩
  · rw [allowed]
    exact
      iff_of_true (followsVerdict_unremarkable _ _) fun suspicious =>
        absurd suspicious normal
  · rw [raised]
    exact
      iff_of_true (followsVerdict_error _) fun suspicious =>
        absurd suspicious normal

end SpoofingDetector

/-! ## All four detectors -/

/--
In every run of a detector every recommendation follows its verdict exactly
when every result which compares with a threshold reports an anomaly.
-/
theorem recommendations (checker : VelocityChecker)
    (monitor : VWAPMonitor (RangedFloat format)) (washTrades : WashTradeDetector)
    (spoofing : SpoofingDetector (RangedFloat format))
    (arrivals : List (Arrival rounding.Value))
    (readings : List (Reading (RangedFloat format)))
    (events : List (OrderEvent (RangedFloat format))) :
    (LabelledRun.Along checker.next
          (fun windows arrival =>
            FollowsVerdict (checker.check windows arrival))
          noWindows arrivals ↔
        LabelledRun.Along checker.next
          (fun windows arrival =>
            checker.HasCutoff arrival.now →
              checker.Exceeds windows arrival)
          noWindows arrivals) ∧
      (LabelledRun.Along monitor.next
          (fun windows reading =>
            FollowsVerdict (monitor.check windows reading))
          noWindows readings ↔
        LabelledRun.Along monitor.next
          (fun windows reading =>
            monitor.Compares windows reading →
              monitor.Deviates windows reading)
          noWindows readings) ∧
      (LabelledRun.Along washTrades.next
          (fun windows reading =>
            FollowsVerdict (washTrades.check windows reading))
          noWindows readings ↔
        LabelledRun.Along washTrades.next
          (fun windows reading =>
            washTrades.Searches (windows reading.key) reading →
              washTrades.minRoundTrips ≤
                (washTrades.matching (windows reading.key) reading).length)
          noWindows readings) ∧
      (LabelledRun.Along SpoofingDetector.next
          (fun state event => FollowsVerdict (spoofing.check state event))
          SpoofingState.initial events ↔
        LabelledRun.Along SpoofingDetector.next
          (fun state event =>
            SpoofingDetector.Suspicious state event →
              spoofing.CancelsTooMany state event)
          SpoofingState.initial events) := by
  simp only [VelocityChecker.followsVerdict_check_iff,
    VWAPMonitor.followsVerdict_check_iff,
    WashTradeDetector.followsVerdict_check_iff,
    SpoofingDetector.followsVerdict_check_iff, and_self]

/-- The first order of an account is recommended to be flagged. -/
theorem recommendations_fails :
    ¬ ∀ (rounding : Rounding) (checker : VelocityChecker)
        (arrivals : List (Arrival rounding.Value)),
        LabelledRun.Along checker.next
          (fun windows arrival =>
            FollowsVerdict (checker.check windows arrival))
          noWindows arrivals := by
  intro follows
  have exceeds :=
    (VelocityChecker.followsVerdict_check_iff _ _).mp
      (follows Rounding.identity { } [orderAt .identity 0]).1
  exact absurd (exceeds (by decide)) (by decide +kernel)

end AeroRisk.Guardrail.Agent1
