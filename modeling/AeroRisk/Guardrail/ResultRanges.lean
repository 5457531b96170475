import AeroRisk.Guardrail.Recommendations

/-!
# Ranges of the results

With exact divisions and for positive parameters the checks return results
within the bounds of the fields, and a severity above zero for the anomalies
only.  But the velocity check needs a date to look back to, the VWAP check a
window of a size which there is, and the wash trade check a clock which it can
read and a time window which is a float.
-/

namespace AeroRisk.Guardrail.Agent1

open AeroRisk.Library

/-- Exact divisions, and the integers which are converted to doubles. -/
def exactFormat : FloatFormat :=
  .exactQuotients (2 ^ 1024 - 2 ^ 970 - 1)

/-- Numbers which are not rounded. -/
abbrev Exact : Type :=
  RangedFloat exactFormat

/-- No quotient is too large. -/
theorem fitsQuotient_exact (x : Rat) : exactFormat.FitsQuotient x :=
  FloatFormat.fitsQuotient_exactQuotients _ x

/-- The scores are from 0 to 1, and the severity is above 0 for anomalies. -/
structure InRange (result : AnomalyResult Exact) : Prop where
  severity :
    0 ≤ result.severityScore.exact ∧ result.severityScore.exact ≤ 1
  confidence : 0 ≤ result.confidence.exact ∧ result.confidence.exact ≤ 1
  anomalous : 0 < result.severityScore.exact ↔ result.isAnomalous = true

/-- A check returns a result in range. -/
def Sound (outcome : Except String (AnomalyResult Exact)) : Prop :=
  ∃ result, outcome = .ok result ∧ InRange result

/-- A check raises an exception. -/
def Raises (outcome : Except String (AnomalyResult Exact)) : Prop :=
  ∃ error, outcome = .error error

theorem InRange.sound {result : AnomalyResult Exact}
    (inRange : InRange result) : Sound result.checked := by
  refine ⟨result, ?_, inRange⟩
  rw [AnomalyResult.checked, if_pos]
  simpa [RangedFloat.le_iff_exact] using inRange.severity

/-- A result without an anomaly. -/
theorem inRange_of_normal {result : AnomalyResult Exact}
    (normal : result.isAnomalous = false)
    (zero : result.severityScore = 0.0)
    (confidence :
      0 ≤ result.confidence.exact ∧ result.confidence.exact ≤ 1) :
    InRange result where
  severity := by simp [zero]
  confidence := confidence
  anomalous := by simp [zero, normal]

theorem sound_unremarkable (anomalyType : AnomalyType)
    (details : List (String × Detail Exact)) :
    Sound (.ok (unremarkable anomalyType details)) :=
  ⟨_, rfl, inRange_of_normal rfl rfl (by simp [unremarkable])⟩

/-- A result with an anomaly, whose severity is cut off at one. -/
theorem inRange_of_anomalous {result : AnomalyResult Exact} {value : Exact}
    (anomalous : result.isAnomalous = true)
    (isSeverity : result.severityScore = atMostOne value)
    (positive : 0 < value.exact)
    (confidence :
      0 ≤ result.confidence.exact ∧ result.confidence.exact ≤ 1) :
    InRange result where
  severity := by
    rw [isSeverity, RangedFloat.exact_atMostOne]
    exact ⟨le_min positive.le zero_le_one, min_le_right _ _⟩
  confidence := confidence
  anomalous := by
    rw [isSeverity, RangedFloat.exact_atMostOne]
    exact iff_of_true (lt_min positive one_pos) anomalous

/-- The confidences which the detectors give. -/
theorem confidence_mem :
    ∀ confidence ∈ ([0.80, 0.85, 0.90, 0.95] : List Exact),
      0 ≤ confidence.exact ∧ confidence.exact ≤ 1 := by
  decide +kernel

namespace VelocityChecker

variable {checker : VelocityChecker}

/-- The result of a check, before its fields are validated. -/
theorem check_spec (positive : 0 < checker.maxOrdersPerSecond)
    (windows : String → List Int) {arrival : Arrival Rounding.identity.Value}
    (hasCutoff : checker.HasCutoff arrival.now) :
    ∃ result : AnomalyResult Rounding.identity.Value,
      checker.check windows arrival = result.checked ∧
        (0 ≤ result.confidence.exact ∧ result.confidence.exact ≤ 1) ∧
        (result.isAnomalous = false ∧ result.severityScore = 0.0 ∨
          result.isAnomalous = true ∧
            ∃ value : Rounding.identity.Value,
              result.severityScore = atMostOne value ∧ 0 < value.exact) := by
  obtain ⟨rate, isRate, -⟩ :
      ∃ rate : Rounding.identity.Value,
        orderRate (checker.windowOf windows arrival) arrival.now =
            .ok rate ∧ _ :=
    orderRate_eq _ arrival.now
  have limit : (0 : Rat) < checker.maxOrdersPerSecond := by
    exact_mod_cast positive
  have divided :
      PyFloat.divide rate
          (Rounding.identity.round checker.maxOrdersPerSecond) =
        .ok (Rounding.identity.round
          (rate.exact / checker.maxOrdersPerSecond)) :=
    divide_eq limit.ne'
  have confidence := confidence_mem 0.95 (by simp)
  rw [check, KeyedStates.emit, observe, if_pos hasCutoff]
  change
    ∃ result : AnomalyResult Rounding.identity.Value,
      checker.judge arrival (checker.windowOf windows arrival) =
          result.checked ∧
        _
  rw [judge, isRate]
  by_cases above : (checker.maxOrdersPerSecond : Rat) < rate.exact
  · have excess :
        0 < rate.exact / checker.maxOrdersPerSecond - 1 :=
      sub_pos.mpr ((one_lt_div limit).mpr above)
    simp only [bind, Except.bind, above, decide_true, if_true, toFloat_eq,
      divided, pure, Except.pure]
    refine ⟨_, rfl, confidence, .inr ⟨rfl, _, rfl, ?_⟩⟩
    rw [exact_sub, exact_one]
    exact excess
  · simp only [bind, Except.bind, above, decide_false, Bool.false_eq_true,
      if_false, pure, Except.pure]
    exact ⟨_, rfl, confidence, .inl ⟨rfl, rfl⟩⟩

theorem sound_checkRanged (positive : 0 < checker.maxOrdersPerSecond)
    (windows : String → List Int) {arrival : Arrival Exact}
    (hasCutoff : checker.HasCutoff arrival.now) :
    Sound (checker.checkRanged windows arrival) := by
  obtain ⟨result, isChecked, confidence, verdict⟩ :=
    @check_spec checker positive windows arrival hasCutoff
  have sameCheck :
      checker.checkRanged windows arrival =
        AnomalyResult.checked (result : AnomalyResult Exact) :=
    isChecked
  rw [sameCheck]
  rcases verdict with ⟨normal, zero⟩ | ⟨anomalous, value, isSeverity, above⟩
  · exact (inRange_of_normal normal zero confidence).sound
  · exact (inRange_of_anomalous anomalous isSeverity above confidence).sound

theorem raises_checkRanged (windows : String → List Int)
    {arrival : Arrival Exact} (noCutoff : ¬ checker.HasCutoff arrival.now) :
    Raises (checker.checkRanged windows arrival) :=
  ⟨"date value out of range", congrArg Prod.snd (if_neg noCutoff)⟩

end VelocityChecker

namespace VWAPMonitor

variable {monitor : VWAPMonitor Exact}

/-- The division by the threshold does not raise. -/
theorem sound_judge (positive : 0 < monitor.deviationThreshold.exact)
    (event : OrderEvent Exact) (currentVwap : Int) (windowSize : Nat) :
    Sound (monitor.judge event currentVwap windowSize) := by
  rw [judge]
  split
  · exact sound_unremarkable _ _
  split
  · exact sound_unremarkable _ _
  next nonzero =>
    rw [RangedFloat.trueDivide_eq nonzero (fitsQuotient_exact _)]
    simp only [bind, Except.bind, decide_eq_true_eq]
    split
    · next above =>
        rw [RangedFloat.divide_eq positive.ne']
        refine
          (inRange_of_anomalous (decide_eq_true above) rfl ?_
            (confidence_mem _ (by simp))).sound
        exact div_pos (positive.trans above) positive
    · next below =>
        exact
          (inRange_of_normal (decide_eq_false below) rfl
            (confidence_mem _ (by simp))).sound

theorem sound_check (nonneg : 0 ≤ monitor.lookbackPeriods)
    (limited : monitor.lookbackPeriods ≤ maxsize)
    (positive : 0 < monitor.deviationThreshold.exact)
    (windows : String → List (VWAPEntry Exact)) (reading : Reading Exact) :
    Sound (monitor.check windows reading) := by
  rw [check, KeyedStates.emit, observe,
    dequeError_eq_none_iff.mpr ⟨nonneg, limited⟩]
  exact sound_judge positive _ _ _

/-- A window which is too long is refused at every check. -/
theorem raises_check (tooLong : ¬ monitor.lookbackPeriods ≤ maxsize)
    (windows : String → List (VWAPEntry Exact)) (reading : Reading Exact) :
    Raises (monitor.check windows reading) := by
  cases created : monitor.dequeError with
  | none => exact absurd (dequeError_eq_none_iff.mp created).2 tooLong
  | some error =>
      rw [check, KeyedStates.emit, observe_of_error created]
      exact ⟨error, rfl⟩

end VWAPMonitor

namespace WashTradeDetector

variable {detector : WashTradeDetector}

/-- The time window is a float, and the clock can be read. -/
def Readable (detector : WashTradeDetector) (timed : TimedEvent Exact) :
    Prop :=
  exactFormat.Fits detector.timeWindowSeconds ∧ timed.now.isOk = true

instance (timed : TimedEvent Exact) : Decidable (detector.Readable timed) :=
  inferInstanceAs (Decidable (_ ∧ _))

theorem sound_judge (positive : 0 < detector.minRoundTrips)
    (event : OrderEvent Exact) (count : Nat) :
    Sound (detector.judge event count) := by
  have nonzero : detector.minRoundTrips * 2 ≠ 0 := by omega
  rw [judge, RangedFloat.trueDivide_eq nonzero (fitsQuotient_exact _)]
  simp only [bind, Except.bind, decide_eq_true_eq]
  split
  · next enough =>
      refine
        (inRange_of_anomalous (decide_eq_true enough) rfl ?_
          (confidence_mem _ (by simp))).sound
      have counted : (0 : Rat) < (count : Int) := by
        exact_mod_cast positive.trans_le enough
      have divisor : (0 : Rat) < (detector.minRoundTrips * 2 : Int) := by
        exact_mod_cast (by omega : 0 < detector.minRoundTrips * 2)
      exact div_pos counted divisor
  · next few =>
      exact
        (inRange_of_normal (decide_eq_false few) rfl
          (confidence_mem _ (by simp))).sound

theorem sound_check (positive : 0 < detector.minRoundTrips)
    (fits : exactFormat.Fits detector.timeWindowSeconds)
    (windows : String → List (TradeRecord Exact)) (reading : Reading Exact) :
    Sound (detector.check windows reading) := by
  have searched :
      detector.searched (windows reading.key) reading =
        .ok (detector.matching (windows reading.key) reading).length :=
    searched_eq_ok_iff_of_searches.mpr
      ⟨⟨fits, fun _ _ _ => fitsQuotient_exact _⟩, rfl⟩
  rw [check_eq, searched]
  exact sound_judge positive reading.event _

theorem sound_checkTimed (positive : 0 < detector.minRoundTrips)
    (windows : String → List (TradeRecord Exact)) {timed : TimedEvent Exact}
    (readable : detector.Readable timed) :
    Sound (detector.checkTimed windows timed) := by
  obtain ⟨fits, isRead⟩ := readable
  rw [checkTimed]
  cases now : timed.now with
  | error error =>
      rw [now] at isRead
      cases isRead
  | ok time => exact sound_check positive fits windows _

/-- Without a time the windows are not changed. -/
theorem raises_checkTimed (windows : String → List (TradeRecord Exact))
    {timed : TimedEvent Exact} (unreadable : ¬ detector.Readable timed) :
    Raises (detector.checkTimed windows timed) ∧
      detector.nextTimed windows timed = windows := by
  rw [checkTimed, nextTimed]
  cases now : timed.now with
  | error error => exact ⟨⟨error, rfl⟩, rfl⟩
  | ok time =>
      have tooLarge : ¬ exactFormat.Fits detector.timeWindowSeconds := by
        intro fits
        exact unreadable ⟨fits, by rw [now]; rfl⟩
      have refused := RangedFloat.toFloat_of_not_fits tooLarge
      dsimp only
      rw [check, next, KeyedStates.emit, KeyedStates.next, observe, refused]
      exact ⟨⟨_, rfl⟩, Function.update_eq_self _ _⟩

end WashTradeDetector

namespace SpoofingDetector

variable {detector : SpoofingDetector Exact}

theorem not_overflows (state : SpoofingState Exact)
    (event : OrderEvent Exact) : ¬ Overflows state event := by
  rintro ⟨-, lifecycle, -, tooLarge⟩
  exact tooLarge (fitsQuotient_exact _)

theorem sound_check (positive : 0 < detector.cancellationThreshold.exact)
    (state : SpoofingState Exact) (event : OrderEvent Exact) :
    Sound (detector.check state event) := by
  rcases detector.check_cases state event with
    ⟨-, -, lifetime, fillRatio, judged⟩ | ⟨-, -, details, allowed⟩ |
      ⟨-, overflows, -⟩
  · rw [judged]
    rcases calculateCancellationRate_eq (next state event) event.accountID
      with ⟨rate, isRate, -⟩
    rw [judge, isRate]
    simp only [bind, Except.bind, decide_eq_true_eq]
    by_cases above : detector.cancellationThreshold < rate
    · rw [if_pos above]
      exact
        (inRange_of_anomalous (decide_eq_true above) rfl
          (positive.trans above) (confidence_mem _ (by simp))).sound
    · rw [if_neg above]
      exact
        (inRange_of_normal (decide_eq_false above) rfl
          (confidence_mem _ (by simp))).sound
  · rw [allowed]
    exact sound_unremarkable _ _
  · exact absurd overflows (not_overflows state event)

end SpoofingDetector

/-- The parameters of the four detectors are positive. -/
structure PositiveParameters (checker : VelocityChecker)
    (monitor : VWAPMonitor Exact) (washTrades : WashTradeDetector)
    (spoofing : SpoofingDetector Exact) : Prop where
  windowSize : 0 < checker.windowSize
  maxOrders : 0 < checker.maxOrdersPerSecond
  lookback : 0 < monitor.lookbackPeriods
  deviation : 0 < monitor.deviationThreshold.exact
  timeWindow : 0 < washTrades.timeWindowSeconds
  roundTrips : 0 < washTrades.minRoundTrips
  cancellation : 0 < spoofing.cancellationThreshold.exact

/--
Every check returns a result in range, with three exceptions.  A velocity check
raises when the start of its window is not a date; every VWAP check raises when
no window is as long as the lookback; and a wash trade check raises when the
clock cannot be read or the time window is not a float.
-/
def ChecksSound (checker : VelocityChecker) (monitor : VWAPMonitor Exact)
    (washTrades : WashTradeDetector) (spoofing : SpoofingDetector Exact)
    (arrivals : List (Arrival Exact)) (readings : List (Reading Exact))
    (timedEvents : List (TimedEvent Exact))
    (events : List (OrderEvent Exact)) : Prop :=
  LabelledRun.Along checker.nextRanged
      (fun windows arrival =>
        if checker.HasCutoff arrival.now then
          Sound (checker.checkRanged windows arrival)
        else
          Raises (checker.checkRanged windows arrival))
      noWindows arrivals ∧
    LabelledRun.Along monitor.next
      (fun windows reading =>
        if monitor.lookbackPeriods ≤ maxsize then
          Sound (monitor.check windows reading)
        else
          Raises (monitor.check windows reading))
      noWindows readings ∧
    LabelledRun.Along washTrades.nextTimed
      (fun windows timed =>
        if washTrades.Readable timed then
          Sound (washTrades.checkTimed windows timed)
        else
          Raises (washTrades.checkTimed windows timed))
      noWindows timedEvents ∧
    LabelledRun.Along SpoofingDetector.next
      (fun state event => Sound (spoofing.check state event))
      SpoofingState.initial events

/--
For positive parameters and with exact divisions every check of the four
detectors, in all runs, is sound but for the exceptions.
-/
theorem results_in_range {checker : VelocityChecker}
    {monitor : VWAPMonitor Exact} {washTrades : WashTradeDetector}
    {spoofing : SpoofingDetector Exact}
    (positive : PositiveParameters checker monitor washTrades spoofing)
    (arrivals : List (Arrival Exact)) (readings : List (Reading Exact))
    (timedEvents : List (TimedEvent Exact))
    (events : List (OrderEvent Exact)) :
    ChecksSound checker monitor washTrades spoofing arrivals readings
      timedEvents events := by
  refine ⟨?_, ?_, ?_, ?_⟩
  · rw [LabelledRun.along_iff_of_split]
    intro earlier arrival later _
    split
    · next hasCutoff =>
        exact
          VelocityChecker.sound_checkRanged positive.maxOrders _ hasCutoff
    · next noCutoff =>
        exact VelocityChecker.raises_checkRanged _ noCutoff
  · rw [LabelledRun.along_iff_of_split]
    intro earlier reading later _
    split
    · next limited =>
        exact
          VWAPMonitor.sound_check positive.lookback.le limited
            positive.deviation _ _
    · next tooLong => exact VWAPMonitor.raises_check tooLong _ _
  · rw [LabelledRun.along_iff_of_split]
    intro earlier timed later _
    split
    · next readable =>
        exact
          WashTradeDetector.sound_checkTimed positive.roundTrips _ readable
    · next unreadable =>
        exact (WashTradeDetector.raises_checkTimed _ unreadable).1
  · rw [LabelledRun.along_iff_of_split]
    intro earlier event later _
    exact SpoofingDetector.sound_check positive.cancellation _ _

/-- The default parameters are positive. -/
theorem positive_defaults : PositiveParameters { } { } { } { } where
  windowSize := by decide
  maxOrders := by decide
  lookback := by decide
  deviation := by decide +kernel
  timeWindow := by decide
  roundTrips := by decide
  cancellation := by decide +kernel

theorem results_in_range_sample :
    ChecksSound { } { } { } { } [orderAt _ 0, orderAt _ 1]
      [orderOf Exact "account-1" "AAPL"]
      [⟨(orderAt _ 0).event, .error "year 0 is out of range"⟩,
        ⟨(orderAt _ 0).event, .ok 0.0⟩]
      [(orderAt _ 0).event] :=
  results_in_range positive_defaults _ _ _ _

/-- No date is longer ago than 3000 years. -/
theorem results_in_range_fails :
    ¬ ∀ (checker : VelocityChecker) (arrivals : List (Arrival Exact)),
        0 < checker.windowSize → 0 < checker.maxOrdersPerSecond →
          LabelledRun.Along checker.nextRanged
            (fun windows arrival =>
              Sound (checker.checkRanged windows arrival))
            noWindows arrivals := by
  intro sound
  rcases (sound { windowSize := 100000000000 } [orderAt _ 0] (by decide)
    (by decide)).1 with ⟨result, isResult, -⟩
  obtain ⟨error, isError⟩ :
      Raises
        (VelocityChecker.checkRanged { windowSize := 100000000000 }
          noWindows (orderAt exactFormat.rounding 0)) :=
    VelocityChecker.raises_checkRanged _ (by decide)
  cases isResult.symm.trans isError

end AeroRisk.Guardrail.Agent1
