import AeroRisk.Guardrail.PairWindows
import AeroRisk.Guardrail.RoundedFloat
import AeroRisk.Library.FallibleFilter
import AeroRisk.Library.SlidingWindow
import AeroRisk.Library.StateGraph

/-!
# Round trips

`WashTradeDetector` counts the trades of the window on the other side of the
event and near its price.  The event is paired with each of them, so there can
be more round trips than events on its own side.
-/

namespace AeroRisk.Guardrail.Agent1

open AeroRisk.Library

variable {F : Type} [PyFloat F]

/-- There are two sides. -/
theorem OrderSide.eq_of_ne {first second third : OrderSide}
    (different : first ≠ second) (differentToo : second ≠ third) :
    first = third := by
  cases first <;> cases second <;> cases third <;> trivial

namespace WashTradeDetector

/-! ## The search for matching trades -/

/-- The trade is found by the search. -/
def isMatching (event : OrderEvent F) (trade : TradeRecord F) : Bool :=
  FallibleFilter.accepts (isMatch event trade)

/-- A matching trade is on the other side. -/
theorem side_ne_of_isMatching {event : OrderEvent F} {trade : TradeRecord F}
    (matching : isMatching event trade = true) : trade.side ≠ event.side := by
  intro sameSide
  simp [isMatching, isMatch, sameSide, pure, Except.pure,
    FallibleFilter.accepts] at matching

variable (detector : WashTradeDetector)

/-- The event is older than the time window which ends now. -/
def isStale (now timestamp : F) : Bool :=
  match (PyFloat.toFloat detector.timeWindowSeconds : Except String F) with
  | .error _ => false
  | .ok seconds => timestamp < now - seconds

/-- The trades of the window which are not evicted before an event. -/
def kept (window : List (TradeRecord F)) (reading : Reading F) :
    List (TradeRecord F) :=
  window.dropWhile fun trade =>
    detector.isStale reading.now trade.timestamp

/-- The trades of the window which match an event. -/
def matching (window : List (TradeRecord F)) (reading : Reading F) :
    List (TradeRecord F) :=
  (detector.kept window reading).filter (isMatching reading.event)

/-- The number of trades which the search finds, or its exception. -/
def searched (window : List (TradeRecord F)) (reading : Reading F) :
    Except String Nat := do
  let _ : F ← PyFloat.toFloat detector.timeWindowSeconds
  let found ←
    (detector.kept window reading).filterM (isMatch reading.event)
  return found.length

variable {detector}

/-- A result reports the number of matching trades. -/
theorem judge_spec {event : OrderEvent F} {count : Int}
    {result : AnomalyResult F}
    (isResult : detector.judge event count = .ok result) :
    (result.isAnomalous = true ↔ detector.minRoundTrips ≤ count) ∧
      ∀ roundTrips,
        ("round_trips_detected", Detail.integer roundTrips) ∈
            result.details ↔
          roundTrips = count := by
  rw [judge] at isResult
  by_cases enough : detector.minRoundTrips ≤ count
  · cases divided :
        (PyFloat.trueDivide count (detector.minRoundTrips * 2) :
          Except String F) with
    | error error =>
        simp [enough, divided, bind, Except.bind, Functor.map, Except.map]
          at isResult
    | ok severity =>
        simp only [enough, divided, decide_true, if_true, bind, Except.bind,
          Functor.map, Except.map] at isResult
        cases AnomalyResult.eq_of_checked isResult
        simp [enough]
  · simp only [enough, decide_false, Bool.false_eq_true, if_false, bind,
      Except.bind, pure, Except.pure] at isResult
    cases AnomalyResult.eq_of_checked isResult
    simp [enough]

theorem isStale_eq {seconds : F}
    (converted : PyFloat.toFloat detector.timeWindowSeconds = .ok seconds)
    (now timestamp : F) :
    detector.isStale now timestamp =
      decide (timestamp < now - seconds) := by
  rw [isStale, converted]

/-- The search converts the time window and compares the trades. -/
theorem searched_eq_ok_iff {window : List (TradeRecord F)}
    {reading : Reading F} {count : Nat} :
    detector.searched window reading = .ok count ↔
      (∃ seconds : F,
          PyFloat.toFloat detector.timeWindowSeconds = .ok seconds) ∧
        (∀ trade ∈ detector.kept window reading,
          ∃ answer, isMatch reading.event trade = .ok answer) ∧
        (detector.matching window reading).length = count := by
  rw [searched, bind_eq_ok_iff, exists_and_right]
  apply and_congr_right
  intro _
  rw [← FallibleFilter.exists_filterM_iff, bind_eq_ok_iff]
  simp only [pure, Except.pure, Except.ok.injEq]
  constructor
  · rintro ⟨found, isFound, isCount⟩
    refine ⟨⟨found, isFound⟩, ?_⟩
    rw [← isCount, FallibleFilter.eq_filter_of_filterM isFound]
    rfl
  · rintro ⟨⟨found, isFound⟩, isCount⟩
    refine ⟨found, isFound, ?_⟩
    rw [← isCount, FallibleFilter.eq_filter_of_filterM isFound]
    rfl

/-- A check judges the number of trades which its search finds. -/
theorem check_eq (windows : String → List (TradeRecord F))
    (reading : Reading F) :
    detector.check windows reading =
      detector.searched (windows reading.key) reading >>= fun count =>
        detector.judge reading.event count := by
  rw [check, KeyedStates.emit, observe, searched]
  cases converted :
      (PyFloat.toFloat detector.timeWindowSeconds : Except String F) with
  | error error => rfl
  | ok seconds =>
      simp only [kept, isStale_eq converted, bind, Except.bind]
      cases
        (List.dropWhile
            (fun trade => decide (trade.timestamp < reading.now - seconds))
            (windows reading.key)).filterM (isMatch reading.event) with
      | error error => rfl
      | ok found => rfl

/-- A check which returns a result has searched the window. -/
theorem searched_of_check {windows : String → List (TradeRecord F)}
    {reading : Reading F} {result : AnomalyResult F}
    (isResult : detector.check windows reading = .ok result) :
    detector.searched (windows reading.key) reading =
        .ok (detector.matching (windows reading.key) reading).length ∧
      detector.judge reading.event
          (detector.matching (windows reading.key) reading).length =
        .ok result := by
  rw [check_eq] at isResult
  rcases bind_eq_ok_iff.mp isResult with ⟨count, isFound, judged⟩
  obtain ⟨-, -, rfl⟩ := searched_eq_ok_iff.mp isFound
  exact ⟨isFound, judged⟩

/-- What a check returns is about the matching trades of the window. -/
theorem check_spec {windows : String → List (TradeRecord F)}
    {reading : Reading F} {result : AnomalyResult F}
    (isResult : detector.check windows reading = .ok result) :
    detector.judge reading.event
        (detector.matching (windows reading.key) reading).length =
      .ok result :=
  (searched_of_check isResult).2

/-- A check which returns a result has converted the time window. -/
theorem exists_seconds {windows : String → List (TradeRecord F)}
    {reading : Reading F} {result : AnomalyResult F}
    (isResult : detector.check windows reading = .ok result) :
    ∃ seconds : F,
      PyFloat.toFloat detector.timeWindowSeconds = .ok seconds :=
  (searched_eq_ok_iff.mp (searched_of_check isResult).1).1

/-! ## Round trips and events -/

variable (detector)

/-- The windows after a sequence of events, from none. -/
def windowsAfter (earlier : List (Reading F)) :
    String → List (TradeRecord F) :=
  LabelledRun.run detector.next (fun _ => []) earlier

/-- A check returns a result. -/
def Returns (earlier : List (Reading F)) (current : Reading F) : Prop :=
  ∃ result,
    detector.check (detector.windowsAfter earlier) current = .ok result

/-- The trades which match the current event. -/
def matchingTrades (earlier : List (Reading F)) (current : Reading F) :
    List (TradeRecord F) :=
  detector.matching (detector.windowsAfter earlier current.key) current

/--
The number of events on a side, of the account and the symbol of the current
one, which are not older than the time window; the current one is included.
-/
def sideCount (earlier : List (Reading F)) (current : Reading F)
    (side : OrderSide) : Nat :=
  (earlier.countP fun reading =>
      decide
          (reading.OfPair current.event.accountID current.event.symbol ∧
            reading.event.side = side) &&
        !detector.isStale current.now reading.now) +
    if current.event.side = side then 1 else 0

/-- Every round trip has an event on either side. -/
def RoundTripsReal (earlier : List (Reading F)) (current : Reading F) :
    Prop :=
  ∀ result,
    detector.check (detector.windowsAfter earlier) current = .ok result →
      (∀ roundTrips side,
        ("round_trips_detected", Detail.integer roundTrips) ∈
            result.details →
          roundTrips ≤ detector.sideCount earlier current side) ∧
        (result.isAnomalous = true →
          ∀ side,
            detector.minRoundTrips ≤
              detector.sideCount earlier current side)

/-- There are no more matching trades than events on a side. -/
def Paired (side : OrderSide) (earlier : List (Reading F))
    (current : Reading F) : Prop :=
  (detector.matchingTrades earlier current).length ≤
    detector.sideCount earlier current side

variable {detector}

/-- The round trips of a result are its matching trades. -/
theorem roundTripsReal_iff (earlier : List (Reading F))
    (current : Reading F) :
    detector.RoundTripsReal earlier current ↔
      (detector.Returns earlier current →
        ∀ side, detector.Paired side earlier current) := by
  constructor
  · rintro isReal ⟨result, isResult⟩ side
    have reported := (judge_spec (check_spec isResult)).2
    have bound := (isReal result isResult).1 _ side ((reported _).mpr rfl)
    exact Int.ofNat_le.mp bound
  · intro paired result isResult
    have everySide := paired ⟨result, isResult⟩
    rcases judge_spec (check_spec isResult) with ⟨anomalous, reported⟩
    have bound :
        ∀ side,
          ((detector.matchingTrades earlier current).length : Int) ≤
            detector.sideCount earlier current side :=
      fun side => Int.ofNat_le.mpr (everySide side)
    constructor
    · intro roundTrips side isReported
      rw [(reported roundTrips).mp isReported]
      exact bound side
    · intro isAnomalous side
      exact Int.le_trans (anomalous.mp isAnomalous) (bound side)

/-! ## Matching events -/

/--
The first time is not after the second one, as comparisons see them, also when
the same duration is taken from both.
-/
structure NotAfter (first second : F) : Prop where
  before : ∀ time : F, second < time → first < time
  earlier : ∀ duration time : F, time < first - duration →
    time < second - duration

/-- The clock does not go back. -/
def Forward (readings : List (Reading F)) : Prop :=
  readings.Pairwise fun older newer => NotAfter older.now newer.now

/-- Events with the same key are of the same account and symbol. -/
def NoSharing (readings : List (Reading F)) : Prop :=
  ∀ accountID symbol, Separate accountID symbol readings

/-- The trade which the check of an event appends. -/
def tradeOf (reading : Reading F) : TradeRecord F where
  accountID := reading.event.accountID
  symbol := reading.event.symbol
  side := reading.event.side
  price := reading.event.price
  quantity := reading.event.quantity
  timestamp := reading.now

/-- No comparison of two prices raises an exception. -/
def Comparable (readings : List (Reading F)) : Prop :=
  ∀ reading ∈ readings, ∀ other ∈ readings,
    ∃ answer, isMatch reading.event (tradeOf other) = .ok answer

variable (detector)

/--
The number of earlier events of the account and the symbol which match the
current one and are not older than the time window.
-/
def matchingEvents (earlier : List (Reading F)) (current : Reading F) : Nat :=
  earlier.countP fun reading =>
    decide (reading.OfPair current.event.accountID current.event.symbol) &&
      (isMatching current.event (tradeOf reading) &&
        !detector.isStale current.now reading.now)

variable {detector}

/-- Floats which round are compared by their exact values. -/
theorem notAfter_of_le {format : FloatFormat}
    {first second : RangedFloat format} (inOrder : first ≤ second) :
    NotAfter first second where
  before _ isBefore :=
    lt_of_le_of_lt (RangedFloat.le_iff_exact.mp inOrder) isBefore
  earlier duration _ isBefore :=
    lt_of_lt_of_le isBefore
      (format.rounding.monotone
        (sub_le_sub_right (RangedFloat.le_iff_exact.mp inOrder)
          duration.exact))

/-- A check whose comparisons raise no exception appends its trade. -/
theorem observe_eq {seconds : F}
    (converted : PyFloat.toFloat detector.timeWindowSeconds = .ok seconds)
    {window : List (TradeRecord F)} {reading : Reading F}
    (answers :
      ∀ trade ∈ window,
        ∃ answer, isMatch reading.event trade = .ok answer) :
    (detector.observe window reading).1 =
      (window.dropWhile fun trade =>
          detector.isStale reading.now trade.timestamp) ++
        [tradeOf reading] := by
  have searched :=
    FallibleFilter.filterM_of_answers fun trade member =>
      answers trade
        (List.dropWhile_subset
          (fun trade : TradeRecord F =>
            trade.timestamp < reading.now - seconds)
          member)
  simp only [isStale_eq converted]
  simp only [observe, converted, searched]
  rfl

section Windows

variable {seconds : F} {earlier : List (Reading F)} {current : Reading F}

/-- Older trades of a log become stale first. -/
theorem ageing_log
    (converted : PyFloat.toFloat detector.timeWindowSeconds = .ok seconds)
    (forward : Forward earlier) (now : F) :
    SlidingWindow.Ageing
      (fun trade : TradeRecord F =>
        detector.isStale now trade.timestamp = true)
      (SlidingWindow.logOf Reading.key tradeOf (fun _ => True) current.key
        earlier) := by
  rw [SlidingWindow.Ageing, SlidingWindow.logOf, List.pairwise_map]
  apply (forward.filter _).imp
  intro older newer notAfter stale
  rw [isStale_eq converted] at stale ⊢
  exact decide_eq_true (notAfter.before _ (of_decide_eq_true stale))

/-- The window of a key is its log without some stale trades. -/
theorem covers_windowsAfter
    (converted : PyFloat.toFloat detector.timeWindowSeconds = .ok seconds)
    (forward : Forward (earlier ++ [current]))
    (comparable : Comparable earlier) :
    SlidingWindow.Covers
      (fun trade : TradeRecord F =>
        detector.isStale current.now trade.timestamp = true)
      (SlidingWindow.logOf Reading.key tradeOf (fun _ => True) current.key
        earlier)
      (detector.windowsAfter earlier current.key) := by
  have split := List.pairwise_append.mp forward
  have stays :
      ∀ older newer : Reading F, NotAfter older.now newer.now →
        ∀ trade : TradeRecord F,
          detector.isStale older.now trade.timestamp = true →
            detector.isStale newer.now trade.timestamp = true := by
    intro older newer notAfter trade stale
    rw [isStale_eq converted] at stale ⊢
    exact decide_eq_true (notAfter.earlier _ _ (of_decide_eq_true stale))
  apply SlidingWindow.covers_run Reading.key stays
  · intro reading member window known
    have answers :
        ∀ trade ∈ window,
          ∃ answer, isMatch reading.event trade = .ok answer := by
      intro trade isOld
      rcases known trade isOld with ⟨other, isEarlier, rfl⟩
      exact comparable reading member other isEarlier
    simpa using observe_eq converted answers
  · exact split.1
  · exact fun reading member => split.2.2 reading member current (by simp)

/-- The trades of a window are compared as their events are. -/
theorem answers_windowsAfter
    (converted : PyFloat.toFloat detector.timeWindowSeconds = .ok seconds)
    (forward : Forward (earlier ++ [current]))
    (comparable : Comparable (earlier ++ [current])) :
    ∀ trade ∈
        detector.kept (detector.windowsAfter earlier current.key) current,
      ∃ answer, isMatch current.event trade = .ok answer := by
  have earlierComparable : Comparable earlier :=
    fun reading member other isOther =>
      comparable reading (List.mem_append_left _ member) other
        (List.mem_append_left _ isOther)
  intro trade isKept
  have isLogged :=
    (covers_windowsAfter converted forward earlierComparable).subset
      (List.dropWhile_subset _ isKept)
  rcases SlidingWindow.mem_logOf Reading.key isLogged with
    ⟨other, isEarlier, rfl⟩
  exact
    comparable current (by simp) other (List.mem_append_left _ isEarlier)

/-- The matching trades are those of the earlier events with the key. -/
theorem length_matchingTrades_of_key
    (converted : PyFloat.toFloat detector.timeWindowSeconds = .ok seconds)
    (forward : Forward (earlier ++ [current]))
    (comparable : Comparable earlier) :
    (detector.matchingTrades earlier current).length =
      earlier.countP fun reading =>
        decide (reading.key = current.key) &&
          (isMatching current.event (tradeOf reading) &&
            !detector.isStale current.now reading.now) := by
  have evicted :=
    (covers_windowsAfter converted forward comparable).dropWhile_eq_filter
      (ageing_log converted (List.pairwise_append.mp forward).1 current.now)
  simp only [Bool.decide_eq_true, Bool.not_eq_true,
    Bool.decide_eq_false] at evicted
  rw [matchingTrades, matching, kept, evicted, ← List.countP_eq_length_filter,
    List.countP_filter, SlidingWindow.logOf, List.countP_map,
    List.countP_filter]
  apply List.countP_congr
  intro reading member
  simp [tradeOf, and_comm]

/-- The matching trades are those of the matching events. -/
theorem length_matchingTrades
    (converted : PyFloat.toFloat detector.timeWindowSeconds = .ok seconds)
    (forward : Forward (earlier ++ [current]))
    (noSharing : NoSharing earlier) (comparable : Comparable earlier) :
    (detector.matchingTrades earlier current).length =
      detector.matchingEvents earlier current := by
  rw [length_matchingTrades_of_key converted forward comparable]
  apply List.countP_congr
  intro reading member
  have samePair :
      reading.key = current.key ↔
        reading.OfPair current.event.accountID current.event.symbol := by
    constructor
    · exact noSharing _ _ reading member
    · rintro ⟨sameAccount, sameSymbol⟩
      rw [Reading.key, Reading.key, sameAccount, sameSymbol]
  simp [samePair]

end Windows

/-- There are at most as many matching events as events on the other side. -/
theorem matchingEvents_le {earlier : List (Reading F)}
    {current : Reading F} {side : OrderSide}
    (otherSide : current.event.side ≠ side) :
    detector.matchingEvents earlier current ≤
      detector.sideCount earlier current side := by
  apply Nat.le_add_right_of_le
  apply List.countP_mono_left
  intro reading _ isCounted
  simp only [Bool.and_eq_true, decide_eq_true_eq] at isCounted ⊢
  rcases isCounted with ⟨samePair, isMatch, fresh⟩
  have opposite : reading.event.side ≠ current.event.side :=
    side_ne_of_isMatching isMatch
  exact ⟨⟨samePair, OrderSide.eq_of_ne opposite otherSide⟩, fresh⟩

/--
In every sequence of checks the round trips are real exactly when at every
check which returns a result there are no more matching trades than events on
either side.  When the clock does not go back, no other pair shares a key and
all prices are comparable, this is so exactly when no event matches more
events than there are on its own side.
-/
theorem round_trips (detector : WashTradeDetector)
    (readings : List (Reading F)) :
    (LabelledRun.Along LabelledRun.remember detector.RoundTripsReal []
        readings ↔
      LabelledRun.Along LabelledRun.remember
        (fun earlier current =>
          detector.Returns earlier current →
            ∀ side, detector.Paired side earlier current)
        [] readings) ∧
      (Forward readings → NoSharing readings → Comparable readings →
        (LabelledRun.Along LabelledRun.remember detector.RoundTripsReal []
            readings ↔
          LabelledRun.Along LabelledRun.remember
            (fun earlier current =>
              detector.Returns earlier current →
                detector.matchingEvents earlier current ≤
                  detector.sideCount earlier current current.event.side)
            [] readings)) := by
  simp only [LabelledRun.along_remember_iff, roundTripsReal_iff, true_and]
  intro forward noSharing comparable
  have counted :
      ∀ earlier current later,
        readings = earlier ++ current :: later →
          detector.Returns earlier current →
            (detector.matchingTrades earlier current).length =
              detector.matchingEvents earlier current := by
    rintro earlier current later rfl returns
    rw [List.append_cons] at forward
    have fromEarlier :
        ∀ reading ∈ earlier, reading ∈ earlier ++ current :: later :=
      fun _ => List.mem_append_left _
    rcases returns with ⟨result, isResult⟩
    rcases exists_seconds isResult with ⟨seconds, converted⟩
    apply length_matchingTrades converted (List.pairwise_append.mp forward).1
    · intro accountID symbol reading member
      exact noSharing accountID symbol reading (fromEarlier reading member)
    · intro reading member other isOther
      exact comparable reading (fromEarlier reading member) other
        (fromEarlier other isOther)
  constructor
  · intro everyCheck earlier current later split returns
    rw [← counted earlier current later split returns]
    exact everyCheck earlier current later split returns _
  · intro everyCheck earlier current later split returns side
    rw [Paired, counted earlier current later split returns]
    by_cases sameSide : current.event.side = side
    · rw [← sameSide]
      exact everyCheck earlier current later split returns
    · exact matchingEvents_le sameSide

/-- An order of an account on a side, in the year 2025. -/
def orderOn (side : OrderSide) : Reading Rat where
  event :=
    { orderID := "order-1"
      accountID := "account-1"
      symbol := "AAPL"
      side
      action := .submit
      price := 1500000
      quantity := 100
      timestamp := 1735689600 }
  now := 1735689600

/-- Three buy orders at the same price. -/
def threeBuys : List (Reading Rat) :=
  [orderOn .buy, orderOn .buy, orderOn .buy]

/-- After them one sell order is reported as three round trips. -/
theorem round_trips_fails :
    ¬ ∀ (F : Type) (_ : PyFloat F) (detector : WashTradeDetector)
        (readings : List (Reading F)),
        LabelledRun.Along LabelledRun.remember detector.RoundTripsReal []
          readings := by
  intro always
  have isReal : RoundTripsReal { } threeBuys (orderOn .sell) :=
    (LabelledRun.along_remember_iff _).mp
      (always Rat exactFloat { } (threeBuys ++ [orderOn .sell])) _ _ [] rfl
  have returns : Returns { } threeBuys (orderOn .sell) := by
    refine
      ⟨{ anomalyType := .washTrade
         isAnomalous := true
         severityScore := 0.5
         confidence := 0.85
         details :=
           [ ("account_id", .string "account-1"),
             ("symbol", .string "AAPL"),
             ("round_trips_detected", .integer 3),
             ("min_required", .integer 3),
             ("time_window_seconds", .integer 300),
             ("matching_trades", .integer 3) ]
         recommendation := "FLAG" }, ?_⟩
    decide +kernel
  have paired : Paired { } .sell threeBuys (orderOn .sell) :=
    (roundTripsReal_iff threeBuys _).mp isReal returns .sell
  exact absurd paired (Nat.not_le_of_lt (by decide +kernel))

end WashTradeDetector

end AeroRisk.Guardrail.Agent1
