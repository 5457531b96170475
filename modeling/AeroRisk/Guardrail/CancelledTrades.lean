import AeroRisk.Guardrail.Recommendations

/-!
# Cancelled orders as trades

`WashTradeDetector` appends a trade to its window for every event, also for a
cancel.  The run of all events is compared with the run of those which are not
cancels.
-/

namespace AeroRisk.Guardrail.Agent1

open AeroRisk.Library

variable {format : FloatFormat}

namespace Reading

variable {F : Type}

/-- The event submits an order or fills one. -/
def IsOrderOrFill (reading : Reading F) : Prop :=
  reading.event.action = .submit ∨ reading.event.action = .fill

/-- The event cancels an order. -/
def IsCancel (reading : Reading F) : Prop :=
  reading.event.action = .cancel

instance : DecidablePred (@IsOrderOrFill F) :=
  fun _ => inferInstanceAs (Decidable (_ ∨ _))

instance : DecidablePred (@IsCancel F) :=
  fun _ => inferInstanceAs (Decidable (_ = _))

theorem IsOrderOrFill.not_isCancel {reading : Reading F}
    (visible : reading.IsOrderOrFill) : ¬ reading.IsCancel := by
  intro cancels
  rw [IsCancel] at cancels
  rcases visible with submits | fills
  · rw [cancels] at submits
    cases submits
  · rw [cancels] at fills
    cases fills

end Reading

namespace WashTradeDetector

/--
Deleting all cancels does not change what the checks of orders and fills
return or raise.
-/
def CancelsIgnored (detector : WashTradeDetector)
    (readings : List (Reading (RangedFloat format))) : Prop :=
  LabelledRun.outputsOf detector.next detector.check Reading.IsOrderOrFill
      noWindows readings =
    LabelledRun.outputsOf detector.next detector.check Reading.IsOrderOrFill
      noWindows (readings.filter fun reading => ¬ reading.IsCancel)

/-! ## Results and numbers of round trips -/

/-- The quotient from which the severity of round trips is taken. -/
def quotientOf (detector : WashTradeDetector) (count : Nat) : Rat :=
  count / (detector.minRoundTrips * 2 : Int)

/-- The exception of the judgement of round trips, if there is one. -/
def exceptionOf (format : FloatFormat) (detector : WashTradeDetector)
    (count : Nat) : Option String :=
  if count < detector.minRoundTrips then
    none
  else if detector.minRoundTrips = 0 then
    some "division by zero"
  else if ¬ format.FitsQuotient (detector.quotientOf count) then
    some "integer division result too large for a float"
  else if format.rounding.nearest (detector.quotientOf count) < 0 then
    some "severity_score should be from 0 to 1"
  else
    none

/-- The exception of a check whose search has some outcome. -/
def raised (format : FloatFormat) (detector : WashTradeDetector) :
    Except String Nat → Option String
  | .error error => some error
  | .ok count => detector.exceptionOf format count

variable {detector : WashTradeDetector}
  {event : OrderEvent (RangedFloat format)}

/-- The severity of enough round trips. -/
theorem exists_computed (event : OrderEvent (RangedFloat format))
    {count : Nat} (nonzero : detector.minRoundTrips ≠ 0)
    (enough : detector.minRoundTrips ≤ count)
    (fits : format.FitsQuotient (detector.quotientOf count)) :
    ∃ computed : AnomalyResult (RangedFloat format),
      computed.severityScore =
          atMostOne (RangedFloat.round (detector.quotientOf count)) ∧
        detector.judge event count = computed.checked := by
  have divided :
      PyFloat.trueDivide count (detector.minRoundTrips * 2) =
        .ok
          (RangedFloat.round (detector.quotientOf count) :
            RangedFloat format) :=
    RangedFloat.trueDivide_eq (by omega) fits
  rw [judge]
  simp only [enough, decide_true, if_true, divided, Functor.map, Except.map,
    bind, Except.bind]
  exact ⟨_, rfl, rfl⟩

/-- The judgement of enough round trips divides. -/
theorem judge_of_error {count : Nat} {error : String}
    (enough : detector.minRoundTrips ≤ count)
    (refused :
      (PyFloat.trueDivide count (detector.minRoundTrips * 2) :
          Except String (RangedFloat format)) =
        .error error) :
    detector.judge event count = .error error := by
  rw [judge]
  simp only [enough, decide_true, if_true, refused, Functor.map, Except.map,
    bind, Except.bind]

/-- The judgement raises the exception of its number of round trips. -/
theorem judge_cases (event : OrderEvent (RangedFloat format))
    (count : Nat) :
    match detector.exceptionOf format count with
    | some error => detector.judge event count = .error error
    | none => ∃ result, detector.judge event count = .ok result := by
  rw [exceptionOf]
  by_cases few : count < detector.minRoundTrips
  · rw [if_pos few]
    exact exists_judge_of_few (not_le.mpr few)
  have enough := not_lt.mp few
  rw [if_neg few]
  by_cases zero : detector.minRoundTrips = 0
  · rw [if_pos zero]
    refine judge_of_error enough ?_
    rw [zero]
    rfl
  rw [if_neg zero]
  by_cases fits : format.FitsQuotient (detector.quotientOf count)
  · obtain ⟨computed, isSeverity, isComputed⟩ :=
      exists_computed event zero enough fits
    rw [if_neg (not_not_intro fits), isComputed,
      RangedFloat.checked_of_atMostOne isSeverity, RangedFloat.exact_round]
    by_cases negative :
        format.rounding.nearest (detector.quotientOf count) < 0
    · rw [if_pos negative]
      exact if_neg (not_le.mpr negative)
    · rw [if_neg negative]
      exact ⟨computed, if_pos (not_lt.mp negative)⟩
  · rw [if_pos fits]
    exact
      judge_of_error enough
        (RangedFloat.trueDivide_of_not_fits (by omega) fits)

/-- A check raises the exception of what its search found. -/
theorem raised_spec (event : OrderEvent (RangedFloat format))
    (found : Except String Nat) :
    match detector.raised format found with
    | some error =>
        (found >>= fun count => detector.judge event count) = .error error
    | none =>
        ∃ count result,
          found = .ok count ∧ detector.judge event count = .ok result := by
  cases found with
  | error error => exact rfl
  | ok count =>
      have cases := detector.judge_cases event count
      rw [raised]
      split
      · next error isError =>
          rw [isError] at cases
          exact cases
      · next noError =>
          rw [noError] at cases
          obtain ⟨result, judged⟩ := cases
          exact ⟨count, result, rfl, judged⟩

/-- The result shows the number of round trips, but for exceptions. -/
theorem judged_eq_iff (event : OrderEvent (RangedFloat format))
    (first second : Except String Nat) :
    (first >>= fun count => detector.judge event count) =
        (second >>= fun count => detector.judge event count) ↔
      first = second ∨
        ∃ error,
          detector.raised format first = some error ∧
            detector.raised format second = some error := by
  have firstSpec := detector.raised_spec event first
  have secondSpec := detector.raised_spec event second
  constructor
  · intro same
    cases firstRaised : detector.raised format first with
    | some error =>
        rw [firstRaised] at firstSpec
        cases secondRaised : detector.raised format second with
        | some other =>
            rw [secondRaised] at secondSpec
            cases firstSpec.symm.trans (same.trans secondSpec)
            exact .inr ⟨error, rfl, rfl⟩
        | none =>
            rw [secondRaised] at secondSpec
            obtain ⟨count, result, rfl, judged⟩ := secondSpec
            cases firstSpec.symm.trans (same.trans judged)
    | none =>
        rw [firstRaised] at firstSpec
        obtain ⟨count, result, rfl, judged⟩ := firstSpec
        cases secondRaised : detector.raised format second with
        | some other =>
            rw [secondRaised] at secondSpec
            cases judged.symm.trans (same.trans secondSpec)
        | none =>
            rw [secondRaised] at secondSpec
            obtain ⟨other, otherResult, rfl, otherJudged⟩ := secondSpec
            have isSecond := otherJudged.symm.trans (same.symm.trans judged)
            cases isSecond
            have reported := ((judge_spec judged).2 (count : Int)).mpr rfl
            have sameCount :=
              ((judge_spec otherJudged).2 (count : Int)).mp reported
            exact .inl (congrArg Except.ok (Int.ofNat_inj.mp sameCount))
  · rintro (rfl | ⟨error, firstRaised, secondRaised⟩)
    · rfl
    · rw [firstRaised] at firstSpec
      rw [secondRaised] at secondSpec
      exact firstSpec.trans secondSpec.symm

/-! ## The two runs -/

/--
The search finds as many trades in the windows with and without the cancels,
or both checks raise the same exception.
-/
def Agrees (detector : WashTradeDetector)
    (windows :
      (String → List (TradeRecord (RangedFloat format))) ×
        (String → List (TradeRecord (RangedFloat format))))
    (reading : Reading (RangedFloat format)) : Prop :=
  let withCancels := detector.searched (windows.1 reading.key) reading
  let withoutCancels := detector.searched (windows.2 reading.key) reading
  withCancels = withoutCancels ∨
    ∃ error,
      detector.raised format withCancels = some error ∧
        detector.raised format withoutCancels = some error

theorem cancelsIgnored_iff
    (readings : List (Reading (RangedFloat format))) :
    detector.CancelsIgnored readings ↔
      LabelledRun.Along
        (LabelledRun.skipping detector.next fun reading =>
          ¬ reading.IsCancel)
        (fun windows reading =>
          reading.IsOrderOrFill → detector.Agrees windows reading)
        (noWindows, noWindows) readings := by
  rw [CancelsIgnored,
    LabelledRun.outputsOf_eq_filter_iff fun _ visible =>
      visible.not_isCancel]
  simp only [check_eq, judged_eq_iff, Agrees]

/-! ## Cancels which match an order -/

/--
The earlier event has the key of the current one, matches it and is not older
than the time window.
-/
def isCounted (detector : WashTradeDetector)
    (current earlier : Reading (RangedFloat format)) : Bool :=
  decide (earlier.key = current.key) &&
    (isMatching current.event (tradeOf earlier) &&
      !detector.isStale current.now earlier.now)

/-- No cancel is counted for the current event. -/
def NoCancelCounted (detector : WashTradeDetector)
    (earlier : List (Reading (RangedFloat format)))
    (current : Reading (RangedFloat format)) : Prop :=
  ∀ reading ∈ earlier,
    reading.IsCancel → detector.isCounted current reading = false

/-- The events counted with and without the cancels raise one exception. -/
def RaisesAlike (detector : WashTradeDetector)
    (earlier : List (Reading (RangedFloat format)))
    (current : Reading (RangedFloat format)) : Prop :=
  ∃ error,
    detector.exceptionOf format
          (earlier.countP (detector.isCounted current)) =
        some error ∧
      detector.exceptionOf format
          ((earlier.filter fun reading => ¬ reading.IsCancel).countP
            (detector.isCounted current)) =
        some error

variable {earlier : List (Reading (RangedFloat format))}
  {current : Reading (RangedFloat format)}

/-- With a clock which does not go back the counted events are found. -/
theorem searched_run (fits : format.Fits detector.timeWindowSeconds)
    (forward :
      (earlier ++ [current]).Pairwise fun older newer =>
        older.now ≤ newer.now)
    (comparable : Comparable (earlier ++ [current])) :
    detector.searched
        (LabelledRun.run detector.next noWindows earlier current.key)
        current =
      .ok (earlier.countP (detector.isCounted current)) := by
  have converted := RangedFloat.toFloat_eq fits
  have earlierComparable : Comparable earlier := fun reading member other
      isOther =>
    comparable reading (List.mem_append_left _ member) other
      (List.mem_append_left _ isOther)
  have notAfter :
      Forward (earlier ++ [current]) :=
    forward.imp notAfter_of_le
  rw [searched_eq_ok_iff]
  refine ⟨⟨_, converted⟩, ?_, ?_⟩
  · exact answers_windowsAfter converted notAfter comparable
  · exact
      length_matchingTrades_of_key converted notAfter earlierComparable

/-- The counts agree when no cancel is counted. -/
theorem countP_eq_filter_iff :
    earlier.countP (detector.isCounted current) =
        (earlier.filter fun reading => ¬ reading.IsCancel).countP
          (detector.isCounted current) ↔
      detector.NoCancelCounted earlier current := by
  rw [List.countP_eq_countP_filter_add earlier
      (detector.isCounted current) fun reading => ¬ reading.IsCancel,
    Nat.add_eq_left, List.countP_eq_zero, NoCancelCounted]
  simp

/-- The two runs agree at an event when no cancel is counted for it. -/
theorem agrees_iff (fits : format.Fits detector.timeWindowSeconds)
    (forward :
      (earlier ++ [current]).Pairwise fun older newer =>
        older.now ≤ newer.now)
    (comparable : Comparable (earlier ++ [current])) :
    detector.Agrees
        (LabelledRun.run
          (LabelledRun.skipping detector.next fun reading =>
            ¬ reading.IsCancel)
          (noWindows, noWindows) earlier)
        current ↔
      detector.NoCancelCounted earlier current ∨
        detector.RaisesAlike earlier current := by
  have kept :
      ((earlier.filter fun reading => ¬ reading.IsCancel) ++
        [current]).Sublist (earlier ++ [current]) :=
    List.filter_sublist.append_right _
  have comparableKept :
      Comparable
        ((earlier.filter fun reading => ¬ reading.IsCancel) ++
          [current]) :=
    fun reading member other isOther =>
      comparable reading (kept.subset member) other (kept.subset isOther)
  rw [Agrees, LabelledRun.run_skipping]
  dsimp only
  rw [searched_run fits forward comparable,
    searched_run fits (forward.sublist kept) comparableKept,
    Except.ok.injEq, countP_eq_filter_iff]
  rfl

/-- A time window which is no float ends every search. -/
theorem agrees_of_not_fits (tooLarge : ¬ format.Fits detector.timeWindowSeconds)
    (windows :
      (String → List (TradeRecord (RangedFloat format))) ×
        (String → List (TradeRecord (RangedFloat format))))
    (reading : Reading (RangedFloat format)) :
    detector.Agrees windows reading := by
  have refused := RangedFloat.toFloat_of_not_fits tooLarge
  rw [Agrees, searched, searched, refused]
  exact .inl rfl

/--
In every sequence of checks the cancels are ignored exactly when at every
order and fill the searches with and without the cancels find as many trades,
or both checks raise the same exception.  When the clock does not go back and
all prices are comparable, this is so exactly when no cancel is counted for an
order or a fill, unless the numbers with and without the cancels raise the
same exception, or the time window ends every search.
-/
theorem cancels_ignored (detector : WashTradeDetector)
    (readings : List (Reading (RangedFloat format))) :
    (detector.CancelsIgnored readings ↔
      LabelledRun.Along
        (LabelledRun.skipping detector.next fun reading =>
          ¬ reading.IsCancel)
        (fun windows reading =>
          reading.IsOrderOrFill → detector.Agrees windows reading)
        (noWindows, noWindows) readings) ∧
      ((readings.Pairwise fun older newer => older.now ≤ newer.now) →
        Comparable readings →
        (detector.CancelsIgnored readings ↔
          (format.Fits detector.timeWindowSeconds →
            LabelledRun.Along LabelledRun.remember
              (fun earlier current =>
                current.IsOrderOrFill →
                  detector.NoCancelCounted earlier current ∨
                    detector.RaisesAlike earlier current)
              [] readings))) := by
  refine ⟨cancelsIgnored_iff readings, fun forward comparable => ?_⟩
  rw [cancelsIgnored_iff, LabelledRun.along_iff_of_split]
  by_cases fits : format.Fits detector.timeWindowSeconds
  · rw [forall_prop_of_true fits, LabelledRun.along_remember_iff]
    have agreesAt :
        ∀ earlier current later,
          readings = earlier ++ current :: later →
            (detector.Agrees
                (LabelledRun.run
                  (LabelledRun.skipping detector.next fun reading =>
                    ¬ reading.IsCancel)
                  (noWindows, noWindows) earlier)
                current ↔
              detector.NoCancelCounted earlier current ∨
                detector.RaisesAlike earlier current) := by
      rintro earlier current later rfl
      rw [List.append_cons] at forward comparable
      exact
        agrees_iff fits (List.pairwise_append.mp forward).1
          fun reading member other isOther =>
            comparable reading (List.mem_append_left _ member) other
              (List.mem_append_left _ isOther)
    constructor
    · intro everywhere earlier current later split visible
      rw [← agreesAt earlier current later split]
      exact everywhere earlier current later split visible
    · intro everywhere earlier current later split visible
      rw [agreesAt earlier current later split]
      exact everywhere earlier current later split visible
  · refine iff_of_true ?_ fun present => absurd present fits
    intro earlier current later split visible
    exact agrees_of_not_fits fits _ current

/-- A cancelled sell order. -/
def cancelledSell : Reading (RangedFloat exactDoubles) where
  event :=
    { (orderOf (RangedFloat exactDoubles) "account-1" "AAPL").event with
      side := .sell
      action := .cancel }
  now := 0.0

/-- Three cancelled sell orders are three round trips of a buy order. -/
theorem cancels_ignored_fails :
    ¬ ∀ (format : FloatFormat) (detector : WashTradeDetector)
        (readings : List (Reading (RangedFloat format))),
        detector.CancelsIgnored readings := by
  intro ignored
  have agrees :=
    (cancelsIgnored_iff _).mp
      (ignored exactDoubles { }
        [cancelledSell, cancelledSell, cancelledSell,
          orderOf _ "account-1" "AAPL"])
  rcases agrees.2.2.2.1 (Or.inl rfl) with sameCount | ⟨error, raises, -⟩
  · exact absurd sameCount (by decide +kernel)
  · have isRaised := Option.isSome_iff_exists.mpr ⟨error, raises⟩
    exact absurd isRaised (by decide +kernel)

end WashTradeDetector

end AeroRisk.Guardrail.Agent1
