import AeroRisk.Guardrail.Recommendations

/-!
# Verdicts about spoofing

The tables of a `SpoofingDetector` against the events which it checked, for
streams in which an order is submitted once and before it is cancelled or
filled.  A cancel is taken for one without fills when the last fill is zero as a
part of the quantity; as a float this part may also be too large or too small.
-/

namespace AeroRisk.Guardrail.Agent1

open AeroRisk.Library

variable {format : FloatFormat}

namespace SpoofingDetector

variable {detector : SpoofingDetector (RangedFloat format)}

/-! ## The verdict of one check -/

/-- What a check returns or raises, in the tables before it. -/
theorem check_spec (state : SpoofingState (RangedFloat format))
    (event : OrderEvent (RangedFloat format)) :
    (Overflows state event ∧
        ∃ error, detector.check state event = .error error) ∨
      ¬ Overflows state event ∧
        ∃ result,
          detector.check state event = .ok result ∧
            (result.isAnomalous = true ↔
              Suspicious state event ∧
                detector.CancelsTooMany state event) ∧
            (result.isAnomalous = true →
              result.severityScore.exact =
                min (cancelledShare (next state event) event.accountID)
                  1) := by
  rcases detector.check_cases state event with
    ⟨suspicious, noOverflow, lifetime, fillRatio, judged⟩ |
      ⟨normal, noOverflow, details, allowed⟩ | ⟨-, overflows, raised⟩
  · rcases detector.judge_spec (next state event) event lifetime fillRatio with
      ⟨result, isResult, -, verdict, severity⟩
    refine .inr ⟨noOverflow, result, judged.trans isResult, ?_, severity⟩
    rw [verdict, and_iff_right suspicious]
    rfl
  · exact
      .inr
        ⟨noOverflow, _, allowed,
          iff_of_false Bool.false_ne_true fun both => normal both.1,
          fun anomalous => absurd anomalous Bool.false_ne_true⟩
  · exact .inl ⟨overflows, raised⟩

/-! ## Events of an order -/

section Histories

variable {F : Type}

/-- There is an event of an order with this action. -/
def Has (history : List (OrderEvent F)) (action : OrderAction)
    (orderID : String) : Prop :=
  ∃ event ∈ history, event.action = action ∧ event.orderID = orderID

instance (history : List (OrderEvent F)) (action : OrderAction)
    (orderID : String) : Decidable (Has history action orderID) :=
  inferInstanceAs (Decidable (∃ event ∈ history, _ ∧ _))

/-- An event of the history submits the order. -/
def Submits (history : List (OrderEvent F)) (orderID : String)
    (order : OrderEvent F) : Prop :=
  order ∈ history ∧ order.action = .submit ∧ order.orderID = orderID

/-- The orders which an account submitted. -/
def submissions (accountID : String) (history : List (OrderEvent F)) :
    List (OrderEvent F) :=
  history.filter fun event =>
    event.action = .submit ∧ event.accountID = accountID

/-- Those of them which were cancelled. -/
def cancelledSubmissions (accountID : String)
    (history : List (OrderEvent F)) : List (OrderEvent F) :=
  (submissions accountID history).filter fun order =>
    Has history .cancel order.orderID

/-- The quantity of the last fill of an order, zero before the first one. -/
def lastFill (history : List (OrderEvent F)) (orderID : String) : Int :=
  history.foldl
    (fun filled event =>
      if event.action = .fill ∧ event.orderID = orderID then
        event.quantity
      else
        filled)
    0

/-- The last fill as a part of the quantity of the order. -/
def lastFillPart (history : List (OrderEvent F)) (order : OrderEvent F) :
    Rat :=
  lastFill history order.orderID / (max order.quantity 1 : Int)

/--
An order is submitted once and before its cancels and fills, and a filled
quantity is positive.
-/
structure Admissible (earlier : List (OrderEvent F)) (event : OrderEvent F) :
    Prop where
  submitsOnce :
    event.action = .submit →
      ∀ action, Has earlier action event.orderID → action = .modify
  fillsPositive : event.action = .fill → 0 < event.quantity

instance decidableAdmissible (earlier : List (OrderEvent F))
    (event : OrderEvent F) : Decidable (Admissible earlier event) :=
  decidable_of_iff
    ((event.action = .submit →
        ∀ other ∈ earlier, other.orderID = event.orderID →
          other.action = .modify) ∧
      (event.action = .fill → 0 < event.quantity))
    ⟨fun both =>
      ⟨fun submits _ ⟨other, member, isAction, isOrder⟩ =>
        isAction ▸ both.1 submits other member isOrder, both.2⟩,
    fun admissible =>
      ⟨fun submits other member isOrder =>
        admissible.submitsOnce submits _ ⟨other, member, rfl, isOrder⟩,
        admissible.fillsPositive⟩⟩

end Histories

/-- The part of the orders of an account which it cancelled, as a float. -/
def cancelledPart (accountID : String)
    (history : List (OrderEvent (RangedFloat format))) : Rat :=
  format.rounding.nearest
    ((cancelledSubmissions accountID history).length /
      (submissions accountID history).length)

/-- The account of the event cancelled more than the threshold. -/
def CancelsMany (detector : SpoofingDetector (RangedFloat format))
    (earlier : List (OrderEvent (RangedFloat format)))
    (event : OrderEvent (RangedFloat format)) : Prop :=
  detector.cancellationThreshold.exact <
    cancelledPart event.accountID (earlier ++ [event])

/--
The event cancels an order less than a second after its submission and without
an earlier fill, and its account cancelled a larger part of its orders than
the threshold.
-/
def Spoofs (detector : SpoofingDetector (RangedFloat format))
    (earlier : List (OrderEvent (RangedFloat format)))
    (event : OrderEvent (RangedFloat format)) : Prop :=
  event.action = .cancel ∧
    (∃ order,
      Submits earlier event.orderID order ∧
        event.timestamp - order.timestamp < 1.0) ∧
    ¬ Has earlier .fill event.orderID ∧
    detector.CancelsMany earlier event

/--
Of a filled order which is cancelled the last fill is not too large for a float,
as a part of the quantity.  It is not rounded to zero either when the cancel is
early and the account cancelled more than the threshold.
-/
def SeesFills (detector : SpoofingDetector (RangedFloat format))
    (earlier : List (OrderEvent (RangedFloat format)))
    (event : OrderEvent (RangedFloat format)) : Prop :=
  event.action = .cancel → Has earlier .fill event.orderID →
    ∀ order, Submits earlier event.orderID order →
      format.FitsQuotient (lastFillPart earlier order) ∧
        (event.timestamp - order.timestamp < 1.0 →
          detector.CancelsMany earlier event →
            format.rounding.nearest (lastFillPart earlier order) ≠ 0)

/-! ## The tables and the history -/

/-- What the lifecycle of an order records of the history. -/
structure Records (history : List (OrderEvent (RangedFloat format)))
    (orderID : String) (lifecycle : OrderLifecycle (RangedFloat format)) :
    Prop where
  submitted : Has history .submit orderID
  order :
    ∀ order, Submits history orderID order →
      order.timestamp = lifecycle.submitTime ∧
        order.quantity = lifecycle.quantity
  cancelled :
    lifecycle.cancelTime.isSome = true ↔ Has history .cancel orderID
  filled : lifecycle.filledQuantity = 0 ↔ ¬ Has history .fill orderID
  lastFill : lifecycle.filledQuantity = lastFill history orderID

/-- The tables after a history. -/
structure Tracks (history : List (OrderEvent (RangedFloat format)))
    (state : SpoofingState (RangedFloat format)) : Prop where
  orders :
    ∀ accountID,
      state.accountOrders accountID =
        (submissions accountID history).map OrderEvent.orderID
  unknown :
    ∀ orderID, state.orderLifecycles orderID = none →
      ¬ Has history .submit orderID
  known :
    ∀ orderID lifecycle, state.orderLifecycles orderID = some lifecycle →
      Records history orderID lifecycle

variable {earlier history : List (OrderEvent (RangedFloat format))}
  {event : OrderEvent (RangedFloat format)}
  {state : SpoofingState (RangedFloat format)}

theorem has_concat {action : OrderAction} {orderID : String} :
    Has (history ++ [event]) action orderID ↔
      Has history action orderID ∨
        event.action = action ∧ event.orderID = orderID := by
  simp only [Has, List.mem_append, List.mem_singleton, or_and_right,
    exists_or, exists_eq_left]

theorem submits_concat {orderID : String}
    {order : OrderEvent (RangedFloat format)} :
    Submits (history ++ [event]) orderID order ↔
      Submits history orderID order ∨
        order = event ∧ event.action = .submit ∧ event.orderID = orderID := by
  simp only [Submits, List.mem_append, List.mem_singleton, or_and_right]
  apply or_congr_right
  constructor
  · rintro ⟨rfl, submits⟩
    exact ⟨rfl, submits⟩
  · rintro ⟨rfl, submits⟩
    exact ⟨rfl, submits⟩

theorem lastFill_concat (orderID : String) :
    lastFill (history ++ [event]) orderID =
      if event.action = .fill ∧ event.orderID = orderID then
        event.quantity
      else
        lastFill history orderID :=
  List.foldl_append

theorem tracks_initial :
    Tracks ([] : List (OrderEvent (RangedFloat format)))
      SpoofingState.initial where
  orders _ := rfl
  unknown _ _ := by simp [Has]
  known _ _ found := by
    cases found

/-- Before its first fill nothing of an order is filled. -/
theorem lastFill_of_unfilled {orderID : String}
    (unfilled : ¬ Has history .fill orderID) : lastFill history orderID = 0 := by
  induction history using List.reverseRecOn with
  | nil => rfl
  | append_singleton history event inductionHypothesis =>
      rw [has_concat, not_or] at unfilled
      rw [lastFill_concat, if_neg unfilled.2]
      exact inductionHypothesis unfilled.1

/-- The lifecycle of another order still records the history. -/
theorem Records.of_other {orderID : String}
    {lifecycle : OrderLifecycle (RangedFloat format)}
    (records : Records history orderID lifecycle)
    (other : event.orderID ≠ orderID) :
    Records (history ++ [event]) orderID lifecycle where
  submitted := has_concat.mpr (Or.inl records.submitted)
  order := by
    intro order submits
    rcases submits_concat.mp submits with isOld | ⟨-, -, isOrder⟩
    · exact records.order order isOld
    · exact absurd isOrder other
  cancelled := by simp [has_concat, other, records.cancelled]
  filled := by simp [has_concat, other, records.filled]
  lastFill := by simp [lastFill_concat, other, records.lastFill]

/-- A submission starts a lifecycle. -/
theorem records_of_submit (admissible : Admissible history event)
    (submits : event.action = .submit) :
    Records (history ++ [event]) event.orderID (submitted event) := by
  have fresh (action : OrderAction) (notModified : action ≠ .modify) :
      ¬ Has history action event.orderID := fun present =>
    notModified (admissible.submitsOnce submits action present)
  have unfilled := fresh .fill (by decide)
  constructor
  · exact has_concat.mpr (Or.inr ⟨submits, rfl⟩)
  · intro order isSubmitted
    rcases submits_concat.mp isSubmitted with isOld | ⟨rfl, -⟩
    · exact
        absurd ⟨order, isOld.1, isOld.2⟩ (fresh .submit (by decide))
    · exact ⟨rfl, rfl⟩
  · simp [has_concat, fresh .cancel, submits, submitted]
  · simp [has_concat, unfilled, submits, submitted]
  · simp [lastFill_concat, submits, submitted, lastFill_of_unfilled unfilled]

/-- A cancel or a fill of the order is recorded in its lifecycle. -/
theorem Records.of_event {lifecycle after : OrderLifecycle (RangedFloat format)}
    (records : Records history event.orderID lifecycle)
    (admissible : Admissible history event)
    (notSubmit : event.action ≠ .submit)
    (isAfter : lifecycleAfter event (some lifecycle) = some after) :
    Records (history ++ [event]) event.orderID after := by
  have stillSubmitted : Has (history ++ [event]) .submit event.orderID :=
    has_concat.mpr (Or.inl records.submitted)
  have sameOrder :
      ∀ order, Submits (history ++ [event]) event.orderID order →
        order.timestamp = lifecycle.submitTime ∧
          order.quantity = lifecycle.quantity := by
    intro order submits
    rcases submits_concat.mp submits with isOld | ⟨-, isSubmit, -⟩
    · exact records.order order isOld
    · exact absurd isSubmit notSubmit
  cases action : event.action with
  | submit => exact absurd action notSubmit
  | cancel =>
      rw [lifecycleAfter, action] at isAfter
      cases isAfter
      exact
        { submitted := stillSubmitted
          order := sameOrder
          cancelled := by simp [has_concat, action, SpoofingDetector.cancelled]
          filled := by
            simp [has_concat, action, SpoofingDetector.cancelled,
              records.filled]
          lastFill := by
            simp [lastFill_concat, action, SpoofingDetector.cancelled,
              records.lastFill] }
  | fill =>
      have positive := admissible.fillsPositive action
      rw [lifecycleAfter, action] at isAfter
      cases isAfter
      exact
        { submitted := stillSubmitted
          order := sameOrder
          cancelled := by
            simp [has_concat, action, SpoofingDetector.filled,
              records.cancelled]
          filled := by
            simp [has_concat, action, SpoofingDetector.filled,
              positive.ne']
          lastFill := by
            simp [lastFill_concat, action, SpoofingDetector.filled] }
  | modify =>
      rw [lifecycleAfter, action] at isAfter
      cases isAfter
      exact
        { submitted := stillSubmitted
          order := sameOrder
          cancelled := by simp [has_concat, action, records.cancelled]
          filled := by simp [has_concat, action, records.filled]
          lastFill := by simp [lastFill_concat, action, records.lastFill] }

/-- An order without a lifecycle after a check was not submitted. -/
theorem Tracks.not_has_submit_next (tracks : Tracks history state)
    {orderID : String}
    (unknown : (next state event).orderLifecycles orderID = none) :
    ¬ Has (history ++ [event]) .submit orderID := by
  rw [orderLifecycles_next] at unknown
  rw [has_concat]
  split at unknown
  · next isOrder =>
      subst isOrder
      cases before : state.orderLifecycles event.orderID with
      | none =>
          rintro (present | ⟨submits, -⟩)
          · exact tracks.unknown _ before present
          · rw [lifecycleAfter_submit submits] at unknown
            cases unknown
      | some lifecycle =>
          rw [before, lifecycleAfter] at unknown
          cases action : event.action <;> simp [action] at unknown
  · next other =>
      rintro (present | ⟨-, isOrder⟩)
      · exact tracks.unknown _ unknown present
      · exact other isOrder.symm

/-- A lifecycle after a check records the history and the event. -/
theorem Tracks.records_next (tracks : Tracks history state)
    (admissible : Admissible history event) {orderID : String}
    {lifecycle : OrderLifecycle (RangedFloat format)}
    (found : (next state event).orderLifecycles orderID = some lifecycle) :
    Records (history ++ [event]) orderID lifecycle := by
  rw [orderLifecycles_next] at found
  split at found
  · next isOrder =>
      subst isOrder
      by_cases submits : event.action = .submit
      · rw [lifecycleAfter_submit submits] at found
        cases found
        exact records_of_submit admissible submits
      · cases before : state.orderLifecycles event.orderID with
        | none =>
            rw [before, lifecycleAfter_none submits] at found
            cases found
        | some earlier =>
            rw [before] at found
            exact (tracks.known _ _ before).of_event admissible submits found
  · next other =>
      exact (tracks.known _ _ found).of_other (Ne.symm other)

/-- A check keeps the tables in step with the history. -/
theorem Tracks.next (tracks : Tracks history state)
    (admissible : Admissible history event) :
    Tracks (history ++ [event]) (next state event) where
  orders := by
    intro accountID
    rw [accountOrders_next, tracks.orders accountID]
    by_cases submits : event.action = .submit ∧ event.accountID = accountID
    · simp [submissions, submits]
    · simp [submissions, submits]
  unknown _ unknown := tracks.not_has_submit_next unknown
  known _ _ found := tracks.records_next admissible found

/-- The tables record the events which were checked. -/
theorem tracks_run {events : List (OrderEvent (RangedFloat format))}
    (admissible :
      LabelledRun.Along LabelledRun.remember Admissible [] events) :
    Tracks events
      (LabelledRun.run SpoofingDetector.next SpoofingState.initial
        events) := by
  induction events using List.reverseRecOn with
  | nil => exact tracks_initial
  | append_singleton earlier event inductionHypothesis =>
      rw [LabelledRun.along_append, LabelledRun.run_remember,
        List.nil_append] at admissible
      rw [LabelledRun.run_append]
      exact (inductionHypothesis admissible.1).next admissible.2.1

/-! ## The verdict in the history -/

/-- An order which was submitted is cancelled in the table as in the history. -/
theorem Tracks.isCancelled_iff (tracks : Tracks history state)
    {orderID : String} (present : Has history .submit orderID) :
    isCancelled state.orderLifecycles orderID = true ↔
      Has history .cancel orderID := by
  rw [isCancelled]
  cases found : state.orderLifecycles orderID with
  | none => exact absurd present (tracks.unknown orderID found)
  | some lifecycle => exact (tracks.known orderID lifecycle found).cancelled

theorem Tracks.cancelledShare_eq (tracks : Tracks history state)
    (accountID : String) :
    cancelledShare state accountID = cancelledPart accountID history := by
  have sameCount :
      (state.accountOrders accountID).countP
          (isCancelled state.orderLifecycles) =
        (cancelledSubmissions accountID history).length := by
    rw [tracks.orders, List.countP_map, cancelledSubmissions,
      ← List.countP_eq_length_filter]
    apply List.countP_congr
    intro order isSubmission
    rw [submissions, List.mem_filter, decide_eq_true_eq] at isSubmission
    rw [Function.comp_apply, decide_eq_true_eq]
    exact
      tracks.isCancelled_iff
        ⟨order, isSubmission.1, isSubmission.2.1, rfl⟩
  rw [cancelledShare, cancelledPart, sameCount, tracks.orders,
    List.length_map]

/-- An account cancels its own orders only. -/
theorem cancelledPart_le_one (accountID : String)
    (history : List (OrderEvent (RangedFloat format))) :
    cancelledPart accountID history ≤ 1 := by
  have fewer :
      (cancelledSubmissions accountID history).length ≤
        (submissions accountID history).length :=
    List.length_filter_le _ _
  rw [cancelledPart, ← format.rounding.nearest_one]
  exact
    format.rounding.monotone
      (div_le_one_of_le₀ (by exact_mod_cast fewer) (by positivity))

/--
The check of an event after the earlier ones reports the spoofing cancels, with
the cancelled part of the orders as the severity.
-/
def ReportsSpoofing (detector : SpoofingDetector (RangedFloat format))
    (earlier : List (OrderEvent (RangedFloat format)))
    (event : OrderEvent (RangedFloat format)) : Prop :=
  ∃ result,
    detector.check
          (LabelledRun.run next SpoofingState.initial earlier) event =
        .ok result ∧
      (result.isAnomalous = true ↔ detector.Spoofs earlier event) ∧
      (detector.Spoofs earlier event →
        result.severityScore.exact =
            cancelledPart event.accountID (earlier ++ [event]) ∧
          cancelledPart event.accountID (earlier ++ [event]) ≤ 1)

/-- A result with the right verdict has the right severity. -/
theorem reportsSpoofing_iff_of_ok {detector : SpoofingDetector
    (RangedFloat format)} {result : AnomalyResult (RangedFloat format)}
    (isResult :
      detector.check
          (LabelledRun.run SpoofingDetector.next SpoofingState.initial
            earlier) event =
        .ok result)
    (severity :
      result.isAnomalous = true →
        result.severityScore.exact =
          min (cancelledPart event.accountID (earlier ++ [event])) 1) :
    detector.ReportsSpoofing earlier event ↔
      (result.isAnomalous = true ↔ detector.Spoofs earlier event) := by
  have atMostAll := cancelledPart_le_one event.accountID (earlier ++ [event])
  constructor
  · rintro ⟨found, isFound, verdict, -⟩
    cases isResult.symm.trans isFound
    exact verdict
  · intro verdict
    refine ⟨result, isResult, verdict, fun spoofs => ⟨?_, atMostAll⟩⟩
    rw [severity (verdict.mpr spoofs), min_eq_left atMostAll]

/-- The lifecycle of an order tells when the order was submitted. -/
theorem Records.early_iff {lifecycle : OrderLifecycle (RangedFloat format)}
    (records : Records earlier event.orderID lifecycle) :
    (∃ order,
        Submits earlier event.orderID order ∧
          event.timestamp - order.timestamp < 1.0) ↔
      event.timestamp - lifecycle.submitTime < 1.0 := by
  constructor
  · rintro ⟨order, submits, early⟩
    rwa [(records.order order submits).1] at early
  · intro early
    rcases records.submitted with ⟨order, member, submits⟩
    refine ⟨order, ⟨member, submits⟩, ?_⟩
    rwa [(records.order order ⟨member, submits⟩).1]

/-- The last fill is a part of the order as of its lifecycle. -/
theorem Records.lastFillPart_eq
    {lifecycle : OrderLifecycle (RangedFloat format)}
    (records : Records earlier event.orderID lifecycle)
    {order : OrderEvent (RangedFloat format)}
    (submits : Submits earlier event.orderID order) :
    lastFillPart earlier order = filledPart lifecycle := by
  rw [lastFillPart, filledPart, submits.2.2, (records.order order submits).2,
    records.lastFill]

/-- What is asked of the fills, in the lifecycle of the order. -/
theorem Records.seesFills_iff
    {lifecycle : OrderLifecycle (RangedFloat format)}
    (records : Records earlier event.orderID lifecycle)
    (cancels : event.action = .cancel)
    (detector : SpoofingDetector (RangedFloat format)) :
    detector.SeesFills earlier event ↔
      (Has earlier .fill event.orderID →
        format.FitsQuotient (filledPart lifecycle) ∧
          (event.timestamp - lifecycle.submitTime < 1.0 →
            detector.CancelsMany earlier event →
              format.rounding.nearest (filledPart lifecycle) ≠ 0)) := by
  rw [SeesFills, forall_prop_of_true cancels]
  apply imp_congr_right
  intro _
  constructor
  · intro everyOrder
    rcases records.submitted with ⟨order, member, submits⟩
    have ofOrder := everyOrder order ⟨member, submits⟩
    rwa [records.lastFillPart_eq ⟨member, submits⟩,
      (records.order order ⟨member, submits⟩).1] at ofOrder
  · intro ofLifecycle order submits
    rwa [records.lastFillPart_eq submits, (records.order order submits).1]

/-- What a check of an order with a lifecycle reports. -/
theorem Tracks.reportsSpoofing_of_known
    (tracks :
      Tracks earlier
        (LabelledRun.run SpoofingDetector.next SpoofingState.initial
          earlier))
    (admissible : Admissible earlier event)
    (detector : SpoofingDetector (RangedFloat format))
    (cancels : event.action = .cancel)
    {lifecycle : OrderLifecycle (RangedFloat format)}
    (found :
      (LabelledRun.run SpoofingDetector.next SpoofingState.initial
          earlier).orderLifecycles event.orderID =
        some lifecycle) :
    detector.ReportsSpoofing earlier event ↔
      detector.SeesFills earlier event := by
  set state :=
    LabelledRun.run SpoofingDetector.next SpoofingState.initial earlier
  have records := tracks.known _ _ found
  have share :=
    (tracks.next admissible).cancelledShare_eq event.accountID
  have unfilledPart (unfilled : ¬ Has earlier .fill event.orderID) :
      filledPart lifecycle = 0 := by
    rw [filledPart, records.filled.mpr unfilled, Int.cast_zero, zero_div]
  have overflows_iff :
      Overflows state event ↔ ¬ format.FitsQuotient (filledPart lifecycle) := by
    simp [Overflows, cancels, found]
  have suspicious_iff :
      Suspicious state event ↔
        event.timestamp - lifecycle.submitTime < 1.0 ∧
          format.rounding.nearest (filledPart lifecycle) = 0 := by
    simp [Suspicious, cancels, found]
  rw [records.seesFills_iff cancels]
  rcases detector.check_spec state event with
    ⟨overflows, error, raised⟩ |
      ⟨noOverflow, result, isResult, verdict, severity⟩
  · have tooLarge := overflows_iff.mp overflows
    apply iff_of_false
    · rintro ⟨result, isResult, -⟩
      cases raised.symm.trans isResult
    · intro sees
      by_cases filled : Has earlier .fill event.orderID
      · exact tooLarge (sees filled).1
      · apply tooLarge
        rw [unfilledPart filled]
        exact
          (FloatFormat.fits_of_le_ten le_rfl (by norm_num)).fitsQuotient
  · have fits := not_not.mp (overflows_iff.not.mp noOverflow)
    rw [share] at severity
    rw [reportsSpoofing_iff_of_ok isResult severity, verdict, suspicious_iff,
      CancelsTooMany, share, Spoofs, records.early_iff, and_iff_right cancels,
      ← CancelsMany]
    by_cases filled : Has earlier .fill event.orderID
    · -- A filled order is reported when its part is rounded to zero.
      simp only [filled, not_true_eq_false, false_and, and_false, iff_false,
        forall_const, fits, true_and, ne_eq]
      constructor
      · intro unreported early many rounds
        exact unreported ⟨⟨early, rounds⟩, many⟩
      · rintro sees ⟨⟨early, rounds⟩, many⟩
        exact sees early many rounds
    · have isZero :
          format.rounding.nearest (filledPart lifecycle) = 0 := by
        rw [unfilledPart filled, format.rounding.nearest_zero]
      simp [filled, isZero]

/-- Only the check of a cancel of an order with a lifecycle may fail. -/
theorem Tracks.reportsSpoofing_iff
    (tracks :
      Tracks earlier
        (LabelledRun.run SpoofingDetector.next SpoofingState.initial
          earlier))
    (admissible : Admissible earlier event)
    (detector : SpoofingDetector (RangedFloat format)) :
    detector.ReportsSpoofing earlier event ↔
      detector.SeesFills earlier event := by
  by_cases known :
      event.action = .cancel ∧ Has earlier .submit event.orderID
  · obtain ⟨cancels, submitted⟩ := known
    cases found :
        (LabelledRun.run SpoofingDetector.next SpoofingState.initial
          earlier).orderLifecycles event.orderID with
    | none => exact absurd submitted (tracks.unknown _ found)
    | some lifecycle =>
        exact
          tracks.reportsSpoofing_of_known admissible detector cancels found
  · have unknown (cancels : event.action = .cancel)
        {lifecycle : OrderLifecycle (RangedFloat format)} :
        (LabelledRun.run SpoofingDetector.next SpoofingState.initial
            earlier).orderLifecycles event.orderID ≠
          some lifecycle := fun found =>
      known ⟨cancels, (tracks.known _ _ found).submitted⟩
    have noSubmission (cancels : event.action = .cancel)
        {order : OrderEvent (RangedFloat format)} :
        ¬ Submits earlier event.orderID order := fun submits =>
      known ⟨cancels, order, submits.1, submits.2⟩
    have noOverflow :
        ¬ Overflows
          (LabelledRun.run SpoofingDetector.next SpoofingState.initial
            earlier) event := by
      rintro ⟨cancels, lifecycle, found, -⟩
      exact unknown cancels found
    obtain ⟨-, result, isResult, verdict, -⟩ :=
      (detector.check_spec
        (LabelledRun.run SpoofingDetector.next SpoofingState.initial
          earlier) event).resolve_left fun raises => noOverflow raises.1
    have normal : ¬ result.isAnomalous = true := by
      rw [verdict]
      rintro ⟨⟨cancels, lifecycle, found, -⟩, -⟩
      exact unknown cancels found
    apply iff_of_true
    · rw [reportsSpoofing_iff_of_ok isResult fun anomalous =>
        absurd anomalous normal]
      refine iff_of_false normal ?_
      rintro ⟨cancels, ⟨order, submits, -⟩, -⟩
      exact noSubmission cancels submits
    · intro cancels _ order submits
      exact absurd submits (noSubmission cancels)

end SpoofingDetector

/--
In every admissible stream of events an event is judged anomalous exactly when
it is a spoofing cancel, if and only if the part of a filled order which its
last fill is, is always a float, and not zero when an early cancel of the order
would spoof without the fill.
-/
theorem spoofing_verdicts (detector : SpoofingDetector (RangedFloat format))
    {events : List (OrderEvent (RangedFloat format))}
    (admissible :
      LabelledRun.Along LabelledRun.remember SpoofingDetector.Admissible []
        events) :
    LabelledRun.Along LabelledRun.remember detector.ReportsSpoofing []
        events ↔
      LabelledRun.Along LabelledRun.remember detector.SeesFills [] events := by
  have sameAt :
      ∀ earlier event later, events = earlier ++ event :: later →
        (detector.ReportsSpoofing earlier event ↔
          detector.SeesFills earlier event) := by
    rintro earlier event later rfl
    rw [LabelledRun.along_append, LabelledRun.along_cons,
      LabelledRun.run_remember, List.nil_append] at admissible
    exact
      (SpoofingDetector.tracks_run admissible.1).reportsSpoofing_iff
        admissible.2.1 detector
  rw [LabelledRun.along_remember_iff, LabelledRun.along_remember_iff]
  constructor
  · intro reports earlier event later split
    exact (sameAt earlier event later split).mp
      (reports earlier event later split)
  · intro sees earlier event later split
    exact (sameAt earlier event later split).mpr
      (sees earlier event later split)

/-- An event of an order of one account, at one time. -/
def eventOfOrder (orderID : String) (action : OrderAction) (quantity : Int) :
    OrderEvent (RangedFloat exactDoubles) :=
  { (orderOf (RangedFloat exactDoubles) "account-1" "AAPL").event with
    orderID
    action
    quantity }

/-- Two orders are cancelled, the first of them after it was filled by half. -/
def halfFilled : List (OrderEvent (RangedFloat exactDoubles)) :=
  [ eventOfOrder "order-1" .submit 2,
    eventOfOrder "order-2" .submit 1,
    eventOfOrder "order-1" .fill 1,
    eventOfOrder "order-2" .cancel 1,
    eventOfOrder "order-1" .cancel 2 ]

theorem admissible_halfFilled :
    LabelledRun.Along LabelledRun.remember SpoofingDetector.Admissible []
      halfFilled := by
  decide

theorem seesFills_halfFilled :
    LabelledRun.Along LabelledRun.remember
      (SpoofingDetector.SeesFills { }) [] halfFilled := by
  refine ⟨?_, ?_, ?_, ?_, ?_, trivial⟩
  · exact fun cancels => absurd cancels (by decide)
  · exact fun cancels => absurd cancels (by decide)
  · exact fun cancels => absurd cancels (by decide)
  · exact fun _ filled => absurd filled (by decide)
  · rintro - - order ⟨member, submits, isOrder⟩
    simp only [LabelledRun.remember, List.nil_append, List.cons_append,
      List.mem_cons, List.not_mem_nil, or_false] at member
    rcases member with rfl | rfl | rfl | rfl
    · exact ⟨by decide +kernel, fun _ _ => by decide +kernel⟩
    · exact absurd isOrder (by decide)
    · exact absurd submits (by decide)
    · exact absurd submits (by decide)

theorem spoofing_verdicts_sample :
    LabelledRun.Along LabelledRun.remember
      (SpoofingDetector.ReportsSpoofing { }) [] halfFilled :=
  (spoofing_verdicts { } admissible_halfFilled).mpr seesFills_halfFilled

/-- A fill which is no float as a part of its order. -/
def overfilled : List (OrderEvent (RangedFloat exactDoubles)) :=
  [ eventOfOrder "order-1" .submit 1,
    eventOfOrder "order-1" .fill (10 ^ 200 * 10 ^ 200),
    eventOfOrder "order-1" .cancel 1 ]

/-- The cancel of such an order raises an exception. -/
theorem spoofing_verdicts_fails :
    ¬ ∀ (format : FloatFormat)
        (detector : SpoofingDetector (RangedFloat format))
        (events : List (OrderEvent (RangedFloat format))),
        LabelledRun.Along LabelledRun.remember SpoofingDetector.Admissible []
            events →
          LabelledRun.Along LabelledRun.remember detector.ReportsSpoofing []
            events := by
  intro always
  have admissible :
      LabelledRun.Along LabelledRun.remember SpoofingDetector.Admissible []
        overfilled := by
    decide
  obtain ⟨-, -, ⟨result, isResult, -⟩, -⟩ :=
    always exactDoubles { } overfilled admissible
  have returns :
      (SpoofingDetector.check { }
          (LabelledRun.run SpoofingDetector.next SpoofingState.initial
            (overfilled.take 2))
          (eventOfOrder "order-1" .cancel 1)).isOk =
        true :=
    congrArg Except.isOk isResult
  exact absurd returns (by decide +kernel)

end AeroRisk.Guardrail.Agent1
