import AeroRisk.Guardrail.Anomaly
import AeroRisk.Library.LabelledRun
import Mathlib.Logic.Function.Basic

/-!
# The spoofing detector

`SpoofingDetector` keeps the order IDs of every account, and the lifecycles of
all orders in one table by order ID.  An account whose order IDs are used by
another account shares lifecycles with it.
-/

namespace AeroRisk.Guardrail.Agent1

open AeroRisk.Library

variable {F : Type}

/-- `OrderLifecycle`. -/
structure OrderLifecycle (F : Type) where
  orderID : String
  side : OrderSide
  price : Int
  quantity : Int
  submitTime : F
  cancelTime : Option F := none
  fillTime : Option F := none
  filledQuantity : Int := 0
deriving DecidableEq, Repr

/-- The tables of a `SpoofingDetector`. -/
structure SpoofingState (F : Type) where
  orderLifecycles : String → Option (OrderLifecycle F)
  accountOrders : String → List String

/-- The tables of a new detector. -/
def SpoofingState.initial : SpoofingState F where
  orderLifecycles := fun _ => none
  accountOrders := fun _ => []

/-- `SpoofingDetector`: its parameter. -/
structure SpoofingDetector (F : Type) [PyFloat F] where
  cancellationThreshold : F := 0.8

namespace SpoofingDetector

/-- The lifecycle of a new order. -/
def submitted (event : OrderEvent F) : OrderLifecycle F where
  orderID := event.orderID
  side := event.side
  price := event.price
  quantity := event.quantity
  submitTime := event.timestamp

/-- The lifecycle of an order which is cancelled. -/
def cancelled (event : OrderEvent F) (lifecycle : OrderLifecycle F) :
    OrderLifecycle F :=
  { lifecycle with cancelTime := some event.timestamp }

/-- The lifecycle of an order which is filled. -/
def filled (event : OrderEvent F) (lifecycle : OrderLifecycle F) :
    OrderLifecycle F :=
  { lifecycle with
    fillTime := some event.timestamp
    filledQuantity := event.quantity }

/-- The tables after `check`. -/
def next (state : SpoofingState F) (event : OrderEvent F) :
    SpoofingState F :=
  match event.action with
  | .submit =>
      { orderLifecycles :=
          Function.update state.orderLifecycles event.orderID
            (some (submitted event))
        accountOrders :=
          Function.update state.accountOrders event.accountID
            (state.accountOrders event.accountID ++ [event.orderID]) }
  | .cancel =>
      { state with
        orderLifecycles :=
          Function.update state.orderLifecycles event.orderID
            ((state.orderLifecycles event.orderID).map (cancelled event)) }
  | .fill =>
      { state with
        orderLifecycles :=
          Function.update state.orderLifecycles event.orderID
            ((state.orderLifecycles event.orderID).map (filled event)) }
  | .modify => state

/-- The order was cancelled. -/
def isCancelled (orderLifecycles : String → Option (OrderLifecycle F))
    (orderID : String) : Bool :=
  (orderLifecycles orderID).any fun lifecycle => lifecycle.cancelTime.isSome

section Results

variable [PyFloat F]

/-- `_calculate_cancellation_rate`. -/
def calculateCancellationRate (state : SpoofingState F)
    (accountID : String) : Except String F :=
  let orderIDs := state.accountOrders accountID
  if orderIDs.isEmpty then
    .ok 0.0
  else
    PyFloat.trueDivide
      (orderIDs.countP (isCancelled state.orderLifecycles))
      (max orderIDs.length 1 : Nat)

variable (detector : SpoofingDetector F)

/-- The result for an order which was cancelled early and without fills. -/
def judge (state : SpoofingState F) (event : OrderEvent F)
    (lifetime fillRatio : F) : Except String (AnomalyResult F) := do
  let cancellationRate ←
    calculateCancellationRate state event.accountID
  let isAnomalous := decide (detector.cancellationThreshold < cancellationRate)
  let severity := if isAnomalous then atMostOne cancellationRate else 0.0
  AnomalyResult.checked
    { anomalyType := .spoofing
      isAnomalous
      severityScore := severity
      confidence := 0.80
      details :=
        [ ("account_id", .string event.accountID),
          ("order_id", .string event.orderID),
          ("order_lifetime_seconds", .number (PyFloat.round lifetime 3)),
          ("fill_ratio", .number (PyFloat.round fillRatio 2)),
          ("account_cancellation_rate",
            .number (PyFloat.round cancellationRate 2)),
          ("threshold", .number detector.cancellationThreshold) ]
      recommendation := if 0.7 < severity then "BLOCK" else "FLAG" }

/-- The result of a cancel, in the tables after it. -/
def checkCancel (state : SpoofingState F) (event : OrderEvent F) :
    Except String (AnomalyResult F) :=
  let normal : AnomalyResult F :=
    unremarkable .spoofing [("reason", .string "normal_cancellation")]
  match state.orderLifecycles event.orderID with
  | none => .ok normal
  | some lifecycle => do
      let lifetime := event.timestamp - lifecycle.submitTime
      let fillRatio : F ←
        PyFloat.trueDivide lifecycle.filledQuantity
          (max lifecycle.quantity 1)
      if lifetime < 1.0 ∧ fillRatio == 0.0 then
        detector.judge state event lifetime fillRatio
      else
        return normal

/-- What `check` returns or raises. -/
def check (state : SpoofingState F) (event : OrderEvent F) :
    Except String (AnomalyResult F) :=
  match event.action with
  | .submit =>
      .ok
        (unremarkable .spoofing
          [ ("reason", .string "order_submission"),
            ("order_id", .string event.orderID) ])
  | .cancel => detector.checkCancel (next state event) event
  | .fill =>
      .ok
        (unremarkable .spoofing
          [("reason", .string "no_spoofing_indicators")])
  | .modify =>
      .ok
        (unremarkable .spoofing
          [("reason", .string "no_spoofing_indicators")])

end Results

/-! ## What one event changes -/

/-- What an event makes of the lifecycle of its order. -/
def lifecycleAfter (event : OrderEvent F)
    (before : Option (OrderLifecycle F)) : Option (OrderLifecycle F) :=
  match event.action with
  | .submit => some (submitted event)
  | .cancel => before.map (cancelled event)
  | .fill => before.map (filled event)
  | .modify => before

variable (state : SpoofingState F) {event : OrderEvent F}

theorem orderLifecycles_next (orderID : String) :
    (next state event).orderLifecycles orderID =
      if orderID = event.orderID then
        lifecycleAfter event (state.orderLifecycles orderID)
      else
        state.orderLifecycles orderID := by
  by_cases isOrder : orderID = event.orderID
  · subst isOrder
    rw [next, lifecycleAfter, if_pos rfl]
    cases event.action <;> simp
  · rw [next, if_neg isOrder]
    cases event.action <;> simp [isOrder]

theorem accountOrders_next (accountID : String) :
    (next state event).accountOrders accountID =
      if event.action = .submit ∧ event.accountID = accountID then
        state.accountOrders accountID ++ [event.orderID]
      else
        state.accountOrders accountID := by
  rw [next]
  by_cases isOwn : event.accountID = accountID
  · subst isOwn
    cases event.action <;> simp
  · cases event.action <;> simp [isOwn, Ne.symm isOwn]

/-- Only a submission creates a lifecycle. -/
theorem lifecycleAfter_none (notSubmitted : event.action ≠ .submit) :
    lifecycleAfter event none = none := by
  rw [lifecycleAfter]
  cases action : event.action with
  | submit => exact absurd action notSubmitted
  | cancel => rfl
  | fill => rfl
  | modify => rfl

/-- The lifecycle of a new order does not depend on an earlier one. -/
theorem lifecycleAfter_submit (isSubmitted : event.action = .submit)
    (before : Option (OrderLifecycle F)) :
    lifecycleAfter event before = some (submitted event) := by
  rw [lifecycleAfter, isSubmitted]

/-! ## What an account shares with the others -/

/--
Another account does not touch an order which the account submitted, and the
account does not cancel an order which only another account submitted.
-/
def KeepsApart (accountID : String) (state : SpoofingState F)
    (event : OrderEvent F) : Prop :=
  if event.accountID = accountID then
    event.action = .cancel →
      event.orderID ∈ state.accountOrders accountID ∨
        state.orderLifecycles event.orderID = none
  else
    event.action ≠ .modify →
      event.orderID ∉ state.accountOrders accountID

/--
The tables of a detector which checked all events, and of one which checked
those of an account alone.
-/
structure SameAccount (accountID : String) (state own : SpoofingState F) :
    Prop where
  orders : state.accountOrders accountID = own.accountOrders accountID
  lifecycles :
    ∀ orderID ∈ state.accountOrders accountID,
      state.orderLifecycles orderID = own.orderLifecycles orderID
  nothingElse :
    ∀ orderID, orderID ∉ state.accountOrders accountID →
      own.orderLifecycles orderID = none

namespace SameAccount

variable {accountID : String} {state own : SpoofingState F}
  {event : OrderEvent F}

/-- An order of the account has the same lifecycle after the same event. -/
theorem lifecycleAfter_eq (same : SameAccount accountID state own)
    {orderID : String}
    (known :
      event.action = .submit ∨ orderID ∈ state.accountOrders accountID) :
    lifecycleAfter event (state.orderLifecycles orderID) =
      lifecycleAfter event (own.orderLifecycles orderID) := by
  rcases known with isSubmitted | member
  · rw [lifecycleAfter_submit isSubmitted, lifecycleAfter_submit isSubmitted]
  · rw [same.lifecycles orderID member]

/-- An event of the account moves both detectors in the same way. -/
theorem moved (same : SameAccount accountID state own)
    (isOwn : event.accountID = accountID) :
    SameAccount accountID (next state event) (next own event) where
  orders := by
    rw [accountOrders_next, accountOrders_next, same.orders]
  lifecycles := by
    intro orderID member
    rw [accountOrders_next] at member
    rw [orderLifecycles_next, orderLifecycles_next]
    split at member
    · next submits =>
        split
        · exact same.lifecycleAfter_eq (Or.inl submits.1)
        · next otherOrder =>
            have before := (List.mem_append.mp member).resolve_right
              (by simpa using otherOrder)
            exact same.lifecycles orderID before
    · split
      · exact same.lifecycleAfter_eq (Or.inr member)
      · exact same.lifecycles orderID member
  nothingElse := by
    intro orderID absent
    rw [accountOrders_next] at absent
    rw [orderLifecycles_next]
    split at absent
    · next submits =>
        rw [List.mem_append, not_or, List.mem_singleton] at absent
        rw [if_neg absent.2]
        exact same.nothingElse orderID absent.1
    · next notSubmitted =>
        rw [same.nothingElse orderID absent]
        split
        · exact lifecycleAfter_none fun submits =>
            notSubmitted ⟨submits, isOwn⟩
        · rfl

/-- An event of another account which keeps apart is not noticed. -/
theorem unmoved (same : SameAccount accountID state own)
    (apart : KeepsApart accountID state event)
    (isOther : event.accountID ≠ accountID) :
    SameAccount accountID (next state event) own := by
  rw [KeepsApart, if_neg isOther] at apart
  have sameOrders :
      (next state event).accountOrders accountID =
        state.accountOrders accountID := by
    rw [accountOrders_next, if_neg fun both => isOther both.2]
  constructor
  · rw [sameOrders]
    exact same.orders
  · intro orderID member
    rw [sameOrders] at member
    rw [← same.lifecycles orderID member, orderLifecycles_next]
    split
    · next isOrder =>
        have modifies : event.action = .modify := by
          by_contra touches
          exact apart touches (isOrder ▸ member)
        rw [lifecycleAfter, modifies]
    · rfl
  · intro orderID absent
    rw [sameOrders] at absent
    exact same.nothingElse orderID absent

variable [PyFloat F]

theorem cancellationRate (same : SameAccount accountID state own) :
    calculateCancellationRate state accountID =
      calculateCancellationRate own accountID := by
  have sameCount :
      (state.accountOrders accountID).countP
          (isCancelled state.orderLifecycles) =
        (state.accountOrders accountID).countP
          (isCancelled own.orderLifecycles) := by
    apply List.countP_congr
    intro orderID member
    rw [isCancelled, isCancelled, same.lifecycles orderID member]
  rw [calculateCancellationRate, calculateCancellationRate, ← same.orders,
    sameCount]

/-- Both detectors return the same for an event of the account. -/
theorem check (detector : SpoofingDetector F)
    (same : SameAccount accountID state own)
    (apart : KeepsApart accountID state event)
    (isOwn : event.accountID = accountID) :
    detector.check state event = detector.check own event := by
  rw [SpoofingDetector.check, SpoofingDetector.check]
  cases action : event.action with
  | submit => rfl
  | fill => rfl
  | modify => rfl
  | cancel =>
      rw [KeepsApart, if_pos isOwn] at apart
      have after := same.moved isOwn
      have sameLifecycle :
          (next state event).orderLifecycles event.orderID =
            (next own event).orderLifecycles event.orderID := by
        rw [orderLifecycles_next, orderLifecycles_next, if_pos rfl,
          if_pos rfl]
        rcases apart action with member | unknown
        · exact same.lifecycleAfter_eq (Or.inr member)
        · by_cases member : event.orderID ∈ state.accountOrders accountID
          · exact same.lifecycleAfter_eq (Or.inr member)
          · rw [unknown, same.nothingElse _ member]
      have sameRate :
          calculateCancellationRate (next state event) event.accountID =
            calculateCancellationRate (next own event) event.accountID := by
        rw [isOwn]
        exact after.cancellationRate
      simp only [checkCancel, judge, sameLifecycle, sameRate]

end SameAccount

/--
In every run in which an account and the other accounts keep apart, the
results for the account are those of its own events alone.
-/
theorem account_isolated [PyFloat F] (detector : SpoofingDetector F)
    (accountID : String) (events : List (OrderEvent F))
    (apart :
      LabelledRun.Along next (KeepsApart accountID)
        SpoofingState.initial events) :
    LabelledRun.outputsOf next detector.check
        (fun event => event.accountID = accountID) SpoofingState.initial
        events =
      LabelledRun.outputs next detector.check SpoofingState.initial
        (events.filter fun event => event.accountID = accountID) := by
  have initially :
      SameAccount accountID (SpoofingState.initial : SpoofingState F)
        SpoofingState.initial :=
    ⟨rfl, fun _ _ => rfl, fun _ _ => rfl⟩
  exact
    LabelledRun.outputsOf_eq_outputs_filter_of_along
      (fun _ _ _ same keepsApart isOwn => same.check detector keepsApart isOwn)
      (fun _ _ _ same _ isOwn => same.moved isOwn)
      (fun _ _ _ same keepsApart isOther => same.unmoved keepsApart isOther)
      initially apart

/-- An event of the order `order-1`. -/
def eventOf (accountID : String) (action : OrderAction) (quantity : Int)
    (timestamp : Rat) : OrderEvent Rat where
  orderID := "order-1"
  accountID := accountID
  symbol := "AAPL"
  side := .buy
  action := action
  price := 100
  quantity := quantity
  timestamp := timestamp

/-- An account submits an order and cancels it after half a second. -/
def earlyCancel : List (OrderEvent Rat) :=
  [eventOf "a" .submit 100 0, eventOf "a" .cancel 100 (1 / 2)]

/-- Another account reports a fill for the ID of the order in between. -/
def foreignFill : List (OrderEvent Rat) :=
  [ eventOf "a" .submit 100 0,
    eventOf "b" .fill 50 0,
    eventOf "a" .cancel 100 (1 / 2) ]

theorem keepsApart_earlyCancel :
    LabelledRun.Along next (KeepsApart "a") SpoofingState.initial
      earlyCancel :=
  ⟨fun isCancel => absurd isCancel (by decide),
    fun _ => Or.inl (by decide), trivial⟩

theorem account_isolated_sample :
    LabelledRun.outputsOf next (check { })
        (fun event => event.accountID = "a") SpoofingState.initial
        earlyCancel =
      LabelledRun.outputs next (check { }) SpoofingState.initial
        (earlyCancel.filter fun event => event.accountID = "a") :=
  account_isolated { } "a" earlyCancel keepsApart_earlyCancel

/-- The foreign fill turns the `BLOCK` of the early cancel into an `ALLOW`. -/
theorem account_isolated_fails :
    ¬ ∀ (F : Type) (_ : PyFloat F) (detector : SpoofingDetector F)
        (accountID : String) (events : List (OrderEvent F)),
        LabelledRun.outputsOf next detector.check
            (fun event => event.accountID = accountID)
            SpoofingState.initial events =
          LabelledRun.outputs next detector.check SpoofingState.initial
            (events.filter fun event => event.accountID = accountID) := by
  intro isolated
  have same := isolated Rat exactFloat { } "a" foreignFill
  have sameAdvice :=
    congrArg
      (List.map fun result =>
        result.toOption.map AnomalyResult.recommendation)
      same
  exact absurd sameAdvice (by decide +kernel)

end SpoofingDetector

end AeroRisk.Guardrail.Agent1
