import AeroRisk.Guardrail.Anomaly
import AeroRisk.Library.KeyedStates

/-!
# The detectors with a window for every account and symbol

`VWAPMonitor` and `WashTradeDetector` keep their windows in a dictionary.  Its
key joins the account and the symbol with a colon, so it does not tell apart
pairs whose names contain colons.
-/

namespace AeroRisk.Guardrail.Agent1

open AeroRisk.Library

variable {F : Type} [PyFloat F]

/-- `f"{account_id}:{symbol}"`. -/
def windowKey (accountID symbol : String) : String :=
  accountID ++ ":" ++ symbol

/-- An event with the reading of the clock when it is checked. -/
structure Reading (F : Type) where
  event : OrderEvent F
  now : F

/-- An event with what `datetime.utcnow().timestamp()` returns or raises. -/
structure TimedEvent (F : Type) where
  event : OrderEvent F
  now : Except String F

namespace Reading

/-- The key of the window of an event. -/
def key (reading : Reading F) : String :=
  windowKey reading.event.accountID reading.event.symbol

/-- The event is one of an account and a symbol. -/
def OfPair (accountID symbol : String) (reading : Reading F) : Prop :=
  reading.event.accountID = accountID ∧ reading.event.symbol = symbol

instance (accountID symbol : String) :
    DecidablePred (@OfPair F accountID symbol) :=
  fun _ => inferInstanceAs (Decidable (_ = accountID ∧ _ = symbol))

end Reading

/-! ## The volume weighted average price -/

/-- `VWAPEntry`. -/
structure VWAPEntry (F : Type) where
  price : Int
  quantity : Int
  timestamp : F

/-- `sys.maxsize`. -/
def maxsize : Int := 9223372036854775807

/-- `VWAPMonitor`: its parameters. -/
structure VWAPMonitor (F : Type) [PyFloat F] where
  lookbackPeriods : Int := 300
  deviationThreshold : F := 0.05

namespace VWAPMonitor

variable (monitor : VWAPMonitor F)

/-- `_calculate_vwap`; the division rounds down. -/
def calculateVwap (entries : List (VWAPEntry F)) : Int :=
  if entries.isEmpty then
    0
  else
    let totalValue : Int :=
      entries.foldl (fun total e => total + e.price * e.quantity) 0
    let totalVolume : Int :=
      entries.foldl (fun total e => total + e.quantity) 0
    if totalVolume = 0 then 0 else totalValue.fdiv totalVolume

/-- What `deque(maxlen=self.lookback_periods)` raises, if it does. -/
def dequeError : Option String :=
  if monitor.lookbackPeriods < -maxsize - 1 ∨
      maxsize < monitor.lookbackPeriods then
    some "Python int too large to convert to C ssize_t"
  else if monitor.lookbackPeriods < 0 then
    some "maxlen must be non-negative"
  else
    none

/-- `window.append(entry)`, for a `deque` of `lookback_periods` entries. -/
def append (window : List (VWAPEntry F)) (entry : VWAPEntry F) :
    List (VWAPEntry F) :=
  let longer := window ++ [entry]
  longer.drop (longer.length - monitor.lookbackPeriods.toNat)

/-- The result for an event after `window_size` entries are in the window. -/
def judge (event : OrderEvent F) (currentVwap : Int) (windowSize : Nat) :
    Except String (AnomalyResult F) :=
  if windowSize < 10 then
    .ok
      (unremarkable .vwapDeviation
        [ ("reason", .string "insufficient_history"),
          ("window_size", .integer windowSize) ])
  else if currentVwap = 0 then
    .ok (unremarkable .vwapDeviation [("reason", .string "zero_vwap")])
  else do
    let deviation : F ←
      PyFloat.trueDivide (event.price - currentVwap).natAbs currentVwap
    let isAnomalous := decide (monitor.deviationThreshold < deviation)
    let severity : F ←
      if isAnomalous then
        atMostOne <$> PyFloat.divide deviation monitor.deviationThreshold
      else
        pure 0.0
    AnomalyResult.checked
      { anomalyType := .vwapDeviation
        isAnomalous
        severityScore := severity
        confidence := 0.90
        details :=
          [ ("account_id", .string event.accountID),
            ("symbol", .string event.symbol),
            ("current_price", .integer event.price),
            ("current_vwap", .integer currentVwap),
            ("deviation_pct",
              .number (PyFloat.round (deviation * 100.0) 2)),
            ("threshold_pct",
              .number (monitor.deviationThreshold * 100.0)) ]
        recommendation := if severity < 0.7 then "FLAG" else "BLOCK" }

/-- `check`, on the window of the event. -/
def observe (window : List (VWAPEntry F)) (reading : Reading F) :
    List (VWAPEntry F) × Except String (AnomalyResult F) :=
  match monitor.dequeError with
  | some error => (window, .error error)
  | none =>
      let event := reading.event
      let currentVwap := calculateVwap window
      let window :=
        monitor.append window
          { price := event.price
            quantity := event.quantity
            timestamp := event.timestamp }
      (window, monitor.judge event currentVwap window.length)

/-- The windows after `check`. -/
def next :
    (String → List (VWAPEntry F)) → Reading F → String →
      List (VWAPEntry F) :=
  KeyedStates.next Reading.key monitor.observe

/-- What `check` returns or raises. -/
def check :
    (String → List (VWAPEntry F)) → Reading F →
      Except String (AnomalyResult F) :=
  KeyedStates.emit Reading.key monitor.observe

end VWAPMonitor

/-! ## Wash trades -/

/-- `TradeRecord`. -/
structure TradeRecord (F : Type) where
  accountID : String
  symbol : String
  side : OrderSide
  price : Int
  quantity : Int
  timestamp : F

/-- `WashTradeDetector`: its parameters. -/
structure WashTradeDetector where
  timeWindowSeconds : Int := 300
  minRoundTrips : Int := 3

namespace WashTradeDetector

variable (detector : WashTradeDetector)

/-- The trade is on the other side of the event, at a price within 1%. -/
def isMatch (event : OrderEvent F) (trade : TradeRecord F) :
    Except String Bool :=
  if trade.side ≠ event.side then do
    let priceDiff : F ←
      PyFloat.trueDivide (trade.price - event.price).natAbs
        (max trade.price 1)
    return priceDiff < 0.01
  else
    return false

/-- The result for an event with a number of round trips. -/
def judge (event : OrderEvent F) (roundTrips : Int) :
    Except String (AnomalyResult F) := do
  let isAnomalous := decide (detector.minRoundTrips ≤ roundTrips)
  let severity : F ←
    if isAnomalous then
      atMostOne <$>
        PyFloat.trueDivide roundTrips (detector.minRoundTrips * 2)
    else
      pure 0.0
  AnomalyResult.checked
    { anomalyType := .washTrade
      isAnomalous
      severityScore := severity
      confidence := 0.85
      details :=
        [ ("account_id", .string event.accountID),
          ("symbol", .string event.symbol),
          ("round_trips_detected", .integer roundTrips),
          ("min_required", .integer detector.minRoundTrips),
          ("time_window_seconds", .integer detector.timeWindowSeconds),
          ("matching_trades", .integer roundTrips) ]
      recommendation := if 0.6 < severity then "BLOCK" else "FLAG" }

/--
`check`, on the window of the event.  An exception of the search leaves the
window without the event.
-/
def observe (window : List (TradeRecord F)) (reading : Reading F) :
    List (TradeRecord F) × Except String (AnomalyResult F) :=
  match PyFloat.toFloat detector.timeWindowSeconds with
  | .error error => (window, .error error)
  | .ok (seconds : F) =>
      let event := reading.event
      let cutoff := reading.now - seconds
      let window := window.dropWhile fun trade => trade.timestamp < cutoff
      match window.filterM (isMatch event) with
      | .error error => (window, .error error)
      | .ok matchingTrades =>
          let trade : TradeRecord F :=
            { accountID := event.accountID
              symbol := event.symbol
              side := event.side
              price := event.price
              quantity := event.quantity
              timestamp := reading.now }
          (window ++ [trade], detector.judge event matchingTrades.length)

/-- The windows after `check`. -/
def next :
    (String → List (TradeRecord F)) → Reading F → String →
      List (TradeRecord F) :=
  KeyedStates.next Reading.key detector.observe

/-- What `check` returns or raises. -/
def check :
    (String → List (TradeRecord F)) → Reading F →
      Except String (AnomalyResult F) :=
  KeyedStates.emit Reading.key detector.observe

/-- The windows after `check`, also when the reading of the clock raises. -/
def nextTimed (windows : String → List (TradeRecord F))
    (timed : TimedEvent F) : String → List (TradeRecord F) :=
  match timed.now with
  | .error _ => windows
  | .ok now => detector.next windows { event := timed.event, now }

/-- What `check` returns or raises, also when the clock raises. -/
def checkTimed (windows : String → List (TradeRecord F))
    (timed : TimedEvent F) : Except String (AnomalyResult F) :=
  match timed.now with
  | .error error => .error error
  | .ok now => detector.check windows { event := timed.event, now }

end WashTradeDetector

/-! ## Isolation of the pairs -/

/-- The windows of a new detector. -/
def noWindows {Entry : Type} : String → List Entry :=
  fun _ => []

/--
Both detectors return for the events of a pair what they return when these
are all the events.
-/
def Isolated (monitor : VWAPMonitor F) (detector : WashTradeDetector)
    (accountID symbol : String) (readings : List (Reading F)) : Prop :=
  let visible : Reading F → Prop := Reading.OfPair accountID symbol
  LabelledRun.outputsOf monitor.next monitor.check visible noWindows
        readings =
      LabelledRun.outputs monitor.next monitor.check noWindows
        (readings.filter fun reading => visible reading) ∧
    LabelledRun.outputsOf detector.next detector.check visible noWindows
        readings =
      LabelledRun.outputs detector.next detector.check noWindows
        (readings.filter fun reading => visible reading)

/-- No event of another pair has the key of this pair. -/
def Separate (accountID symbol : String) (readings : List (Reading F)) :
    Prop :=
  ∀ reading ∈ readings,
    reading.key = windowKey accountID symbol →
      reading.OfPair accountID symbol

theorem isolated_of_separate (monitor : VWAPMonitor F)
    (detector : WashTradeDetector) {accountID symbol : String}
    {readings : List (Reading F)}
    (separate : Separate accountID symbol readings) :
    Isolated monitor detector accountID symbol readings := by
  have onlyPair :
      ∀ reading ∈ readings,
        reading.OfPair accountID symbol ↔
          reading.key = windowKey accountID symbol := by
    intro reading member
    constructor
    · rintro ⟨rfl, rfl⟩
      rfl
    · exact separate reading member
  constructor
  · exact KeyedStates.outputsOf_of_separate _ _ noWindows onlyPair
  · exact KeyedStates.outputsOf_of_separate _ _ noWindows onlyPair

/-! ### Colons in names -/

/-- The first colon splits a list. -/
theorem append_colon_inj {first second other another : List Char}
    (firstPlain : ':' ∉ first) (secondPlain : ':' ∉ second)
    (same : other ++ ':' :: another = first ++ ':' :: second) :
    other = first ∧ another = second := by
  rcases List.append_eq_append_iff.mp same with
    ⟨between, isFirst, rest⟩ | ⟨between, isOther, rest⟩
  · cases between with
    | nil =>
        cases rest
        exact ⟨by simpa using isFirst.symm, rfl⟩
    | cons head tail =>
        cases rest
        exact absurd (by simp [isFirst]) firstPlain
  · cases between with
    | nil =>
        cases rest
        exact ⟨by simpa using isOther, rfl⟩
    | cons head tail =>
        cases rest
        exact absurd (by simp) secondPlain

/-- The name of a pair has no colon. -/
def Plain (accountID symbol : String) : Prop :=
  ':' ∉ accountID.toList ∧ ':' ∉ symbol.toList

/-- Without colons in its names a pair has its key for itself. -/
theorem eq_of_windowKey_eq {accountID symbol : String}
    (plain : Plain accountID symbol) {other another : String}
    (same : windowKey other another = windowKey accountID symbol) :
    other = accountID ∧ another = symbol := by
  have letters := congrArg String.toList same
  simp only [windowKey, String.toList_append, List.append_assoc] at letters
  have both := append_colon_inj plain.1 plain.2 letters
  exact ⟨String.toList_inj.mp both.1, String.toList_inj.mp both.2⟩

/-- With a colon in its names a pair shares its key with another one. -/
theorem exists_collision {accountID symbol : String}
    (colon : ¬ Plain accountID symbol) :
    ∃ other another,
      windowKey other another = windowKey accountID symbol ∧
        ¬ (other = accountID ∧ another = symbol) := by
  by_cases plainAccount : ':' ∈ accountID.toList
  · obtain ⟨before, after, split⟩ := List.append_of_mem plainAccount
    refine
      ⟨String.ofList before, String.ofList after ++ ":" ++ symbol, ?_, ?_⟩
    · apply String.toList_inj.mp
      simp [windowKey, String.toList_append, split]
    · rintro ⟨same, -⟩
      have lengths := congrArg (fun name => name.toList.length) same
      simp [split] at lengths
  · have colonSymbol : ':' ∈ symbol.toList := by
      by_contra plainSymbol
      exact colon ⟨plainAccount, plainSymbol⟩
    obtain ⟨before, after, split⟩ := List.append_of_mem colonSymbol
    refine
      ⟨accountID ++ ":" ++ String.ofList before, String.ofList after, ?_, ?_⟩
    · apply String.toList_inj.mp
      simp [windowKey, String.toList_append, split]
    · rintro ⟨-, same⟩
      have lengths := congrArg (fun name => name.toList.length) same
      simp only [String.toList_ofList, split, List.length_append,
        List.length_cons] at lengths
      omega

/-! ### A foreign entry in a window -/

namespace VWAPMonitor

variable {monitor : VWAPMonitor F}

/-- There is a window for every length from zero to the largest. -/
theorem dequeError_eq_none_iff :
    monitor.dequeError = none ↔
      0 ≤ monitor.lookbackPeriods ∧ monitor.lookbackPeriods ≤ maxsize := by
  have wide : -maxsize - 1 ≤ 0 := by decide
  rw [dequeError]
  split
  · simp only [reduceCtorEq, false_iff]
    omega
  · split
    · simp only [reduceCtorEq, false_iff]
      omega
    · simp only [true_iff]
      omega

/-- Without a window every check raises and leaves none behind. -/
theorem observe_of_error {error : String}
    (isError : monitor.dequeError = some error)
    (window : List (VWAPEntry F)) (reading : Reading F) :
    monitor.observe window reading = (window, .error error) := by
  rw [observe, isError]

theorem length_append (monitor : VWAPMonitor F)
    (window : List (VWAPEntry F)) (entry : VWAPEntry F) :
    (monitor.append window entry).length =
      min (window.length + 1) monitor.lookbackPeriods.toNat := by
  rw [append, List.length_drop, List.length_append, List.length_singleton]
  omega

/-- With a short history the result shows the number of entries. -/
theorem check_of_short {windows : String → List (VWAPEntry F)}
    {reading : Reading F} (long : 2 ≤ monitor.lookbackPeriods)
    (limited : monitor.lookbackPeriods ≤ maxsize)
    (short : (windows reading.key).length ≤ 1) :
    monitor.check windows reading =
      .ok
        (unremarkable .vwapDeviation
          [ ("reason", .string "insufficient_history"),
            ("window_size",
              .integer ((windows reading.key).length + 1 : Nat)) ]) := by
  have size :
      ∀ entry,
        (monitor.append (windows reading.key) entry).length =
          (windows reading.key).length + 1 := by
    intro entry
    rw [length_append]
    omega
  rw [check, KeyedStates.emit, observe,
    dequeError_eq_none_iff.mpr ⟨by omega, limited⟩]
  simp only [size]
  rw [judge, if_pos (by omega)]

/-- The window of a key after its first event has one entry. -/
theorem length_next_noWindows {reading : Reading F}
    (long : 2 ≤ monitor.lookbackPeriods)
    (limited : monitor.lookbackPeriods ≤ maxsize) :
    (monitor.next noWindows reading reading.key).length = 1 := by
  rw [next, KeyedStates.next, Function.update_self, observe,
    dequeError_eq_none_iff.mpr ⟨by omega, limited⟩]
  dsimp only
  rw [length_append, noWindows, List.length_nil]
  omega

end VWAPMonitor

/-- An order of an account. -/
def orderOf (F : Type) [PyFloat F] (accountID symbol : String) :
    Reading F where
  event :=
    { orderID := "order-1"
      accountID
      symbol
      side := .buy
      action := .submit
      price := 100
      quantity := 1
      timestamp := 0.0 }
  now := 0.0

/-- An event of another pair with the same key shows in the window size. -/
theorem not_isolated_of_collision {monitor : VWAPMonitor F}
    {detector : WashTradeDetector} {accountID symbol other another : String}
    (long : 2 ≤ monitor.lookbackPeriods)
    (limited : monitor.lookbackPeriods ≤ maxsize)
    (sameKey : windowKey other another = windowKey accountID symbol)
    (different : ¬ (other = accountID ∧ another = symbol)) :
    ¬ Isolated monitor detector accountID symbol
        [orderOf F other another, orderOf F accountID symbol] := by
  rintro ⟨isolated, -⟩
  have hidden : ¬ (orderOf F other another).OfPair accountID symbol :=
    different
  have visible : (orderOf F accountID symbol).OfPair accountID symbol :=
    ⟨rfl, rfl⟩
  have atKey :
      (monitor.next noWindows (orderOf F other another)
        (orderOf F accountID symbol).key).length = 1 := by
    have shared :
        (orderOf F accountID symbol).key =
          (orderOf F other another).key :=
      sameKey.symm
    rw [shared]
    exact VWAPMonitor.length_next_noWindows long limited
  simp only [LabelledRun.outputsOf, List.filter_cons, List.filter_nil,
    hidden, visible, if_true, if_false, decide_true, decide_false,
    Bool.false_eq_true, LabelledRun.outputs_cons,
    LabelledRun.outputs_nil, List.cons.injEq, and_true] at isolated
  have nobodyBefore :
      (noWindows (orderOf F accountID symbol).key :
        List (VWAPEntry F)).length ≤ 1 :=
    Nat.zero_le 1
  rw [VWAPMonitor.check_of_short long limited (Nat.le_of_eq atKey),
    VWAPMonitor.check_of_short long limited nobodyBefore, atKey] at isolated
  simp [unremarkable, noWindows] at isolated

/--
A pair is isolated in every sequence without an event of another pair with
the same key.  When the monitor looks back far enough to see another event, and
no farther than a window may, the pairs isolated in all sequences are those
without a colon in their names.
-/
theorem pairs_isolated (monitor : VWAPMonitor F)
    (detector : WashTradeDetector) (accountID symbol : String) :
    (∀ readings : List (Reading F), Separate accountID symbol readings →
        Isolated monitor detector accountID symbol readings) ∧
      (2 ≤ monitor.lookbackPeriods → monitor.lookbackPeriods ≤ maxsize →
        ((∀ readings : List (Reading F),
            Isolated monitor detector accountID symbol readings) ↔
          Plain accountID symbol)) := by
  refine ⟨fun _ => isolated_of_separate monitor detector,
    fun long limited => ?_⟩
  constructor
  · intro isolated
    by_contra colon
    obtain ⟨other, another, sameKey, different⟩ := exists_collision colon
    exact
      not_isolated_of_collision long limited sameKey different (isolated _)
  · intro plain readings
    apply isolated_of_separate
    intro reading member sameKey
    exact eq_of_windowKey_eq plain sameKey

/-- Accounts `a` and `a:b` share a window when they trade `b:c` and `c`. -/
theorem pairs_isolated_fails :
    ¬ ∀ (F : Type) (_ : PyFloat F) (monitor : VWAPMonitor F)
        (detector : WashTradeDetector) (accountID symbol : String)
        (readings : List (Reading F)),
        Isolated monitor detector accountID symbol readings := by
  intro isolated
  have sameKey : windowKey "a" "b:c" = windowKey "a:b" "c" := by decide
  exact
    not_isolated_of_collision (by decide) (by decide) sameKey (by decide)
      (isolated Rat _ { } { } "a:b" "c"
        [orderOf Rat "a" "b:c", orderOf Rat "a:b" "c"])

end AeroRisk.Guardrail.Agent1
