import AeroRisk.Orderbook.BestOfBook
import Mathlib.Algebra.BigOperators.Group.Finset.Basic
import Mathlib.Algebra.Order.BigOperators.Group.Finset
import Mathlib.Algebra.Ring.Int.Defs

/-!
# Fill completeness

A submission trades at most once, since the first trade resets the cached
price which the loop reads.  Its fill is therefore complete exactly when
nothing crosses its limit, or when the first order at the cached best price
crosses it and either has enough or is the only crossing order.
-/

namespace AeroRisk.Orderbook

open AeroRisk.Financial
open AeroRisk.Library

/-! ## Volumes -/

/-- The total remaining quantity of a queue. -/
def volume (heap : Heap) (queue : List OrderPtr) : Int :=
  (queue.map fun order => (heap order).quantity.toInt).sum

/-- The prices of a half at which somebody rests who crosses a limit. -/
def OrderBook.crossingPrices (ob : OrderBook) (side : BookSide)
    (limit : Price) : Finset Int64 :=
  (ob.restingPrices side).filter fun price => side.Crosses price limit

/-- The total remaining quantity of the orders which cross a limit. -/
def OrderBook.crossingVolume (ob : OrderBook) (heap : Heap)
    (side : BookSide) (limit : Price) : Int :=
  ∑ price ∈ ob.crossingPrices side limit,
    volume heap ((ob.levels side).ordersAt price)

@[simp]
theorem OrderBook.mem_crossingPrices (ob : OrderBook) (side : BookSide)
    (limit : Price) (price : Int64) :
    price ∈ ob.crossingPrices side limit ↔
      (ob.levels side).ordersAt price ≠ [] ∧ side.Crosses price limit := by
  simp [crossingPrices]

@[simp]
theorem volume_nil (heap : Heap) : volume heap [] = 0 :=
  rfl

@[simp]
theorem volume_cons (heap : Heap) (first : OrderPtr)
    (others : List OrderPtr) :
    volume heap (first :: others) =
      (heap first).quantity.toInt + volume heap others := by
  simp [volume]

section Volumes

variable {heap : Heap}

theorem volume_nonneg {queue : List OrderPtr}
    (positive : ∀ order ∈ queue, 0 < (heap order).quantity) :
    0 ≤ volume heap queue := by
  induction queue with
  | nil => exact le_refl 0
  | cons first others inductionHypothesis =>
      have firstPos := toInt_pos.mpr (positive first (by simp))
      have othersNonneg :=
        inductionHypothesis fun order member => positive order (by simp [member])
      rw [volume_cons]
      omega

theorem volume_pos {queue : List OrderPtr}
    (positive : ∀ order ∈ queue, 0 < (heap order).quantity)
    (queued : queue ≠ []) : 0 < volume heap queue := by
  obtain ⟨first, others, rfl⟩ := List.exists_cons_of_ne_nil queued
  have firstPos := toInt_pos.mpr (positive first (by simp))
  have othersNonneg : 0 ≤ volume heap others :=
    volume_nonneg fun order member => positive order (by simp [member])
  rw [volume_cons]
  omega

variable {ob : OrderBook} {side : BookSide} {limit : Price}

/-- Every order queued on the half has something left. -/
def OrderBook.Stocked (ob : OrderBook) (heap : Heap) (side : BookSide) :
    Prop :=
  ∀ price, ∀ order ∈ (ob.levels side).ordersAt price,
    0 < (heap order).quantity

/-- Nothing rests in total only where nobody rests. -/
theorem sum_volume_eq_zero (stocked : ob.Stocked heap side)
    {prices : Finset Int64}
    (resting : ∀ price ∈ prices, (ob.levels side).ordersAt price ≠ []) :
    ∑ price ∈ prices, volume heap ((ob.levels side).ordersAt price) = 0 ↔
      prices = ∅ := by
  rw [Finset.sum_eq_zero_iff_of_nonneg
    fun price _ => volume_nonneg (stocked price)]
  constructor
  · intro nothing
    apply Finset.eq_empty_of_forall_notMem
    intro price member
    have someVolume := volume_pos (stocked price) (resting price member)
    exact absurd (nothing price member) someVolume.ne'
  · rintro rfl price member
    simp at member

theorem crossingVolume_eq_zero (stocked : ob.Stocked heap side) :
    ob.crossingVolume heap side limit = 0 ↔
      ob.crossingPrices side limit = ∅ :=
  sum_volume_eq_zero stocked fun _ member =>
    ((ob.mem_crossingPrices side limit _).mp member).1

/-- The crossing volume beyond a crossing order at the front of its queue. -/
theorem crossingVolume_split (stocked : ob.Stocked heap side)
    {price : Int64} {first : OrderPtr} {others : List OrderPtr}
    (queue : (ob.levels side).ordersAt price = first :: others)
    (crosses : side.Crosses price limit) :
    ∃ beyond : Int,
      ob.crossingVolume heap side limit =
          (heap first).quantity.toInt + beyond ∧
        0 ≤ beyond ∧
        (beyond = 0 ↔
          others = [] ∧ ob.crossingPrices side limit = {price}) := by
  have member : price ∈ ob.crossingPrices side limit := by
    simp [queue, crosses]
  have split :=
    Finset.add_sum_erase (ob.crossingPrices side limit)
      (fun other => volume heap ((ob.levels side).ordersAt other)) member
  have othersStocked : ∀ order ∈ others, 0 < (heap order).quantity :=
    fun order isOther => stocked price order (by simp [queue, isOther])
  have othersZero : volume heap others = 0 ↔ others = [] := by
    constructor
    · intro isZero
      by_contra queued
      exact absurd isZero (volume_pos othersStocked queued).ne'
    · rintro rfl
      exact volume_nil heap
  have elsewhereZero :
      ∑ other ∈ (ob.crossingPrices side limit).erase price,
          volume heap ((ob.levels side).ordersAt other) = 0 ↔
        ob.crossingPrices side limit = {price} := by
    rw [sum_volume_eq_zero stocked, Finset.erase_eq_empty_iff]
    · exact or_iff_right (Finset.ne_empty_of_mem member)
    · intro other inErase
      have crossing := Finset.mem_of_mem_erase inErase
      exact ((ob.mem_crossingPrices side limit other).mp crossing).1
  have othersNonneg := volume_nonneg othersStocked
  have elsewhereNonneg :
      0 ≤ ∑ other ∈ (ob.crossingPrices side limit).erase price,
        volume heap ((ob.levels side).ordersAt other) :=
    Finset.sum_nonneg fun other _ => volume_nonneg (stocked other)
  rw [← othersZero, ← elsewhereZero]
  rw [queue, volume_cons] at split
  refine ⟨_, ?_, add_nonneg othersNonneg elsewhereNonneg, ?_⟩
  · rw [OrderBook.crossingVolume, ← split, add_assoc]
  · omega

end Volumes

/-! ## Complete fills -/

namespace State

variable (s : State) (order : OrderPtr)

/-- The prices at which somebody rests who crosses the limit of an order. -/
def crossingPrices : Finset Int64 :=
  (s.engine.getOrderBook (s.heap order).symbol).crossingPrices
    (s.heap order).side.bookSide.opposite (s.heap order).price

/-- The remaining quantity of the orders which cross the limit of an order. -/
def crossingVolume : Int :=
  (s.engine.getOrderBook (s.heap order).symbol).crossingVolume s.heap
    (s.heap order).side.bookSide.opposite (s.heap order).price

/-- The trades of a submission sum to what could be filled. -/
def FillsCompletely : Prop :=
  ((s.trades (.submit order)).map fun trade => trade.quantity.toInt).sum =
    min (s.heap order).quantity.toInt (s.crossingVolume order)

/--
Nothing crosses the limit of the order, or the first order at the cached best
price crosses it and either has enough or is the only crossing order.
-/
def FillsAtFront : Prop :=
  let side := (s.heap order).side.bookSide.opposite
  let book := s.engine.getOrderBook (s.heap order).symbol
  s.crossingPrices order = ∅ ∨
    ∃ first ∈ (book.half side).front,
      side.Crosses (book.best side) (s.heap order).price ∧
        ((s.heap order).quantity ≤ (s.heap first).quantity ∨
          (book.levels side).ordersAt (book.best side) = [first] ∧
            s.crossingPrices order = {book.best side})

instance : Decidable (s.FillsCompletely order) :=
  inferInstanceAs (Decidable (_ = _))

instance : Decidable (s.FillsAtFront order) :=
  inferInstanceAs
    (Decidable (_ = _ ∨ ∃ first ∈ _, _ ∧ (_ ≤ _ ∨ _ = _ ∧ _ = _)))

/-- The condition on a call of a session. -/
def CallFillsAtFront : Call → Prop
  | .submit order => s.FillsAtFront order
  | .cancel .. => True

instance (call : Call) : Decidable (s.CallFillsAtFront call) :=
  match call with
  | .submit order => inferInstanceAs (Decidable (s.FillsAtFront order))
  | .cancel .. => inferInstanceAs (Decidable True)

/-- Every resting bid price is strictly below every resting ask price. -/
def Uncrossed (symbol : Symbol) : Prop :=
  ∀ bid ∈ (s.engine.getOrderBook symbol).restingPrices .bid,
    ∀ ask ∈ (s.engine.getOrderBook symbol).restingPrices .ask, bid < ask

theorem mem_crossingPrices (price : Int64) :
    price ∈ s.crossingPrices order ↔
      (s.books.oppositeHalf order).queue price ≠ [] ∧
        (s.heap order).side.bookSide.opposite.Crosses price
          (s.heap order).price :=
  OrderBook.mem_crossingPrices _ _ _ _

end State

namespace Session

variable (session : Session) {order resting : OrderPtr}

/-- Every submission of the session is filled by the first order it finds. -/
def FillsAtFront : Prop :=
  LabelledRun.Along State.next State.CallFillsAtFront
    (State.initial session.orders) session.calls

instance : Decidable session.FillsAtFront :=
  inferInstanceAs (Decidable (LabelledRun.Along _ _ _ _))

theorem stocked (symbol : Symbol) (side : BookSide) :
    (session.state.engine.getOrderBook symbol).Stocked session.state.heap
      side :=
  fun price => session.sound.positive ⟨symbol, side, price⟩

/-- What lies beyond the first order at the cached best price. -/
theorem crossingVolume_of_counterparty
    (found : session.state.books.counterparty order = some resting) :
    ∃ beyond : Int,
      session.state.crossingVolume order =
          (session.state.heap resting).quantity.toInt + beyond ∧
        0 ≤ beyond ∧
        (beyond = 0 ↔
          session.state.books.queue (session.state.books.frontPlace order) =
              [resting] ∧
            session.state.crossingPrices order =
              {(session.state.books.frontPlace order).price}) := by
  obtain ⟨crosses, -, -, others, queue⟩ := Books.counterparty_spec found
  rw [queue, List.cons_eq_cons, eq_self, true_and]
  exact crossingVolume_split (session.stocked _ _) queue crosses

theorem fillsAtFront_of_counterparty
    (found : session.state.books.counterparty order = some resting) :
    session.state.FillsAtFront order ↔
      (session.state.heap order).quantity ≤
          (session.state.heap resting).quantity ∨
        session.state.books.queue (session.state.books.frontPlace order) =
            [resting] ∧
          session.state.crossingPrices order =
            {(session.state.books.frontPlace order).price} := by
  obtain ⟨crosses, -, -, others, queue⟩ := Books.counterparty_spec found
  have isFront := Books.front_of_counterparty found
  constructor
  · rintro (nobody | ⟨first, front, -, enough⟩)
    · have crossing :
          (session.state.books.frontPlace order).price ∈
            session.state.crossingPrices order := by
        rw [State.mem_crossingPrices]
        refine ⟨fun nothing => ?_, crosses⟩
        exact List.cons_ne_nil _ _ (queue.symm.trans nothing)
      rw [nobody] at crossing
      exact absurd crossing (Finset.notMem_empty _)
    · cases front.symm.trans isFront
      exact enough
  · intro enough
    exact Or.inr ⟨resting, isFront, crosses, enough⟩

/-- A submission which meets nobody meets the condition only if nobody crosses. -/
theorem fillsAtFront_of_nobody
    (positive : 0 < (session.state.heap order).quantity)
    (nobody : session.state.books.counterparty order = none) :
    session.state.FillsAtFront order ↔
      session.state.crossingPrices order = ∅ := by
  constructor
  · rintro (nothing | ⟨first, front, crosses, -⟩)
    · exact nothing
    · have condition :
          (session.state.heap order).side.bookSide.opposite.Crosses
              (session.state.books.oppositeHalf order).best
              (session.state.heap order).price ∧
            0 < (session.state.heap order).quantity := ⟨crosses, positive⟩
      have found :
          session.state.books.counterparty order = some first :=
        (if_pos condition).trans front
      rw [nobody] at found
      cases found
  · exact Or.inl

theorem fillsCompletely_iff
    (positive : 0 < (session.state.heap order).quantity) :
    session.state.FillsCompletely order ↔
      session.state.FillsAtFront order := by
  have orderPos := toInt_pos.mpr positive
  rw [State.FillsCompletely, State.trades_eq session.keyed, Books.trades]
  cases found : session.state.books.counterparty order with
  | none =>
      have nonneg : 0 ≤ session.state.crossingVolume order :=
        Finset.sum_nonneg fun price _ =>
          volume_nonneg (session.stocked _ _ price)
      have isZero :
          session.state.crossingVolume order = 0 ↔
            session.state.crossingPrices order = ∅ :=
        crossingVolume_eq_zero (session.stocked _ _)
      rw [session.fillsAtFront_of_nobody positive found, ← isZero,
        List.map_nil, List.sum_nil]
      omega
  | some resting =>
      obtain ⟨beyond, split, nonneg, isZero⟩ :=
        session.crossingVolume_of_counterparty found
      have traded :
          (Books.tradeOf session.state.heap order resting).quantity.toInt =
            min (session.state.heap order).quantity.toInt
              (session.state.heap resting).quantity.toInt :=
        minQuantity_toInt _ _
      rw [session.fillsAtFront_of_counterparty found, ← isZero, split,
        List.map_singleton, List.sum_singleton, Int64.le_iff_toInt_le]
      change
        (Books.tradeOf session.state.heap order resting).quantity.toInt =
          _ ↔ _
      rw [traded]
      omega

/-- What remains after a fill at the front crosses nobody. -/
theorem nobody_crosses (order : OrderPtr)
    (fills : session.state.FillsAtFront order)
    (remains :
      0 < ((session.state.books.matched order).heap order).quantity)
    (price : Int64)
    (queued :
      (session.state.books.matched order).queue
        ⟨(session.state.heap order).symbol,
          (session.state.heap order).side.bookSide.opposite, price⟩ ≠ []) :
    ¬ (session.state.heap order).side.bookSide.opposite.Crosses price
        (session.state.heap order).price := by
  intro crosses
  have queuedBefore :=
    ne_nil_of_sublist
      (Books.queue_matched_sublist session.state.books order _) queued
  have crossing : price ∈ session.state.crossingPrices order :=
    (session.state.mem_crossingPrices order price).mpr
      ⟨queuedBefore, crosses⟩
  cases found : session.state.books.counterparty order with
  | none =>
      rw [Books.matched, found] at remains
      rw [(session.fillsAtFront_of_nobody remains found).mp fills] at crossing
      exact Finset.notMem_empty price crossing
  | some resting =>
      have distinct := session.sound.ne_counterparty found
      rw [Books.matched, found] at remains queued
      have short :
          ¬ (session.state.heap order).quantity ≤
              (session.state.heap resting).quantity := by
        intro enough
        have used :=
          Books.heapAfter_order_filled session.state.books.heap distinct enough
        rw [Books.heap_execute, used] at remains
        exact Int64.lt_irrefl remains
      obtain ⟨alone, onlyPrice⟩ :=
        ((session.fillsAtFront_of_counterparty found).mp fills).resolve_left
          short
      have used :=
        Books.heapAfter_resting_filled session.state.books.heap distinct
          (Int64.le_of_lt (Int64.not_le.mp short))
      rw [onlyPrice, Finset.mem_singleton] at crossing
      subst crossing
      apply queued
      change
        (session.state.books.execute order resting).queue
          (session.state.books.frontPlace order) = []
      rw [Books.queue_execute, if_pos ⟨used, rfl⟩, alone, List.tail_cons]

theorem uncrossed_books (fills : session.FillsAtFront) :
    session.state.books.Uncrossed := by
  induction session using Session.induction with
  | start orders =>
      rw [books_eq]
      exact Books.Uncrossed.initial orders
  | step session call distinct inductionHypothesis =>
      have along := (LabelledRun.along_append _ _ _).mp fills
      have uncrossed := inductionHypothesis along.1
      rw [state_extend, State.books_next session.keyed]
      cases call with
      | submit order =>
          have samePlace := session.state.books.place_matched order order
          rw [Books.next_submit]
          apply Books.Uncrossed.rested
          · apply uncrossed.of_queues
            intro place
            exact
              ne_nil_of_sublist
                (Books.queue_matched_sublist session.state.books order place)
          · intro remains price queued
            have crossesNobody :=
              session.nobody_crosses order along.2.1 remains price
            change
              (session.state.books.matched order).queue
                ⟨((session.state.books.matched order).heap order).place.symbol,
                  ((session.state.books.matched order).heap
                    order).place.side.opposite, price⟩ ≠ [] at queued
            change
              ¬ ((session.state.books.matched order).heap
                  order).place.side.opposite.Crosses price
                  ((session.state.books.matched order).heap order).place.price
            rw [samePlace] at queued ⊢
            exact crossesNobody queued
      | cancel symbol orderID side price =>
          apply uncrossed.of_queues
          intro place
          exact
            ne_nil_of_sublist
              (Books.queue_cancel_sublist session.state.books symbol orderID
                side price place)

/--
A further submission fills completely exactly when it is filled at the front,
and when all submissions were, no book is crossed.
-/
theorem fill_completeness (session : Session) :
    (∀ order distinct,
      (session.extend (.submit order) distinct).PositiveOrders →
        (session.state.FillsCompletely order ↔
          session.state.FillsAtFront order)) ∧
      (session.FillsAtFront → ∀ symbol, session.state.Uncrossed symbol) := by
  constructor
  · intro order distinct positive
    have orderPositive : 0 < (session.orders order).quantity :=
      (positive order (by simp [extend])).2
    rw [← session.sound.untouched order distinct.fresh] at orderPositive
    exact session.fillsCompletely_iff orderPositive
  · intro fills symbol bid bidResting ask askResting
    have bids := (OrderBook.mem_restingPrices _ _ _).mp bidResting
    have asks := (OrderBook.mem_restingPrices _ _ _).mp askResting
    exact
      Int64.not_le.mp
        (session.uncrossed_books fills symbol .bid bid ask bids asks)

theorem fill_completeness_sample :
    (twoAsks.state.FillsCompletely 2 ↔ twoAsks.state.FillsAtFront 2) ∧
      twoAsks.state.Uncrossed "AAPL" :=
  ⟨(fill_completeness twoAsks).1 2 (by decide) (by decide),
    (fill_completeness twoAsks).2 (by decide) "AAPL"⟩

/-- The bid for 4 crosses both asks and trades only with the one at 9. -/
theorem fill_completeness_fails :
    ¬ ∀ session : Session, ∀ order distinct,
        (session.extend (.submit order) distinct).PositiveOrders →
          session.state.FillsCompletely order := by
  intro complete
  have filled := complete twoAsks 2 (by decide) (by decide)
  exact absurd filled (by decide)

end Session

end AeroRisk.Orderbook
