import AeroRisk.Library.FifoQueue
import AeroRisk.Orderbook.Sessions

/-!
# What a cancel removes

A cancel takes the order which it names out of its queue.  This module states
what it leaves alone, and that a removed order is never traded again: neither
a trade nor a cancel puts an order into a queue, and a submission adds only the
order which it names.
-/

namespace AeroRisk.Orderbook

open AeroRisk.Financial
open AeroRisk.Library

/-- The trade is one of the order with this ID. -/
def Trade.Names (trade : Trade) (orderID : UInt64) : Prop :=
  trade.buyerID = orderID ∨ trade.sellerID = orderID

/-- The calls submit no order with this ID. -/
def NotResubmitting (orders : Heap) (orderID : UInt64) (calls : List Call) :
    Prop :=
  ∀ order, .submit order ∈ calls → (orders order).id ≠ orderID

/--
The frame of a cancel: from the queue at one place the order with this ID is
gone, and everything else is as it was.
-/
structure CancelFrame (s after : State) (place : Place)
    (orderID : UInt64) : Prop where
  remaining : after.heap = s.heap
  queue :
    after.queue place =
      (s.queue place).filter fun order => (s.heap order).id ≠ orderID
  otherLevels :
    ∀ side price, (side, price) ≠ (place.side, place.price) →
      ((after.engine.getOrderBook place.symbol).levels side).lookup price =
        ((s.engine.getOrderBook place.symbol).levels side).lookup price
  bestPrices :
    ∀ side,
      (after.engine.getOrderBook place.symbol).best side =
        (s.engine.getOrderBook place.symbol).best side
  otherSymbols :
    ∀ symbol, symbol ≠ place.symbol →
      after.engine.getOrderBook symbol = s.engine.getOrderBook symbol

/-! ## The level maps -/

theorem Levels.lookup_cancelOrder_of_ne (heap : Heap) (levels : Levels)
    (orderID : UInt64) {price other : Price} (elsewhere : other ≠ price) :
    (levels.cancelOrder heap orderID price).lookup other =
      levels.lookup other := by
  rw [cancelOrder]
  cases found : levels.lookup price with
  | none => rfl
  | some level =>
      dsimp only
      split
      · exact Finmap.lookup_erase_ne elsewhere
      · exact Finmap.lookup_insert_of_ne _ elsewhere

theorem OrderBook.levels_cancelOrder (heap : Heap) (ob : OrderBook)
    (orderID : UInt64) (side : Side) (price : Price) (other : BookSide) :
    (ob.cancelOrder heap orderID side price).levels other =
      if other = side.bookSide then
        (ob.levels other).cancelOrder heap orderID price
      else
        ob.levels other := by
  cases side <;> cases other <;>
    simp [cancelOrder, Side.bookSide, levels]

theorem OrderBook.best_cancelOrder (heap : Heap) (ob : OrderBook)
    (orderID : UInt64) (side : Side) (price : Price) :
    (ob.cancelOrder heap orderID side price).best = ob.best := by
  ext other
  cases side <;> cases other <;> rfl

/-! ## Orders which rest nowhere -/

/-- No order with this ID rests in the books. -/
def Books.Absent (orderID : UInt64) (books : Books) : Prop :=
  ∀ place order, order ∈ books.queue place →
    (books.heap order).id ≠ orderID

namespace Books.Absent

variable {orderID : UInt64} {books : Books} {order : OrderPtr}

theorem matched (absent : books.Absent orderID) (order : OrderPtr) :
    (books.matched order).Absent orderID := by
  intro place other member
  have before := (queue_matched_sublist books order place).subset member
  rw [Books.matched]
  cases books.counterparty order with
  | none => exact absent place other before
  | some resting =>
      rw [heap_execute, heapAfter_id]
      exact absent place other before

theorem rested (absent : books.Absent orderID)
    (different : (books.heap order).id ≠ orderID) :
    (books.rested order).Absent orderID := by
  intro place other member
  rw [heap_rested]
  rw [queue_rested] at member
  split at member
  · rcases List.mem_append.mp member with before | isOrder
    · exact absent place other before
    · rwa [List.mem_singleton.mp isOrder]
  · exact absent place other member

theorem cancel (absent : books.Absent orderID) (symbol : Symbol)
    (cancelled : UInt64) (side : Side) (price : Price) :
    (books.next (.cancel symbol cancelled side price)).Absent orderID := by
  intro place other member
  exact
    absent place other
      ((queue_cancel_sublist books symbol cancelled side price place).subset
        member)

/-- A submission trades with a resting order, so with none of this ID. -/
theorem not_names (absent : books.Absent orderID)
    (different : (books.heap order).id ≠ orderID) {trade : Trade}
    (returned : trade ∈ books.trades (.submit order)) :
    ¬ trade.Names orderID := by
  rw [Books.trades] at returned
  cases found : books.counterparty order with
  | none => simp [found] at returned
  | some resting =>
      rw [found, List.mem_singleton] at returned
      have restingDifferent :=
        absent _ resting (mem_of_counterparty found)
      rw [returned, Trade.Names, tradeOf, not_or]
      constructor <;> dsimp only <;> split <;> assumption

end Books.Absent

/-- The ID of an order object never changes. -/
theorem Books.id_next (books : Books) (call : Call) (order : OrderPtr) :
    ((books.next call).heap order).id = (books.heap order).id := by
  cases call with
  | submit submitted =>
      rw [next_submit, heap_rested, matched]
      cases books.counterparty submitted with
      | none => rfl
      | some resting => rw [heap_execute, heapAfter_id]
  | cancel symbol orderID side price => rfl

/-- Calls which do not resubmit an absent order never trade it. -/
theorem Books.Absent.not_names_of_run {orders : Heap} {orderID : UInt64}
    {books : Books} (absent : books.Absent orderID)
    (sameIDs : ∀ order, (books.heap order).id = (orders order).id)
    {later : List Call} (notAgain : NotResubmitting orders orderID later) :
    ∀ trade ∈ (LabelledRun.outputs Books.next Books.trades books later).flatten,
      ¬ trade.Names orderID := by
  induction later generalizing books with
  | nil => simp
  | cons call rest inductionHypothesis =>
      have restNotAgain : NotResubmitting orders orderID rest :=
        fun order member => notAgain order (List.mem_cons_of_mem _ member)
      have stillSame :
          ∀ order, ((books.next call).heap order).id = (orders order).id := by
        intro order
        rw [id_next, sameIDs]
      rw [LabelledRun.outputs_cons, List.flatten_cons, List.forall_mem_append]
      cases call with
      | submit order =>
          have different : (books.heap order).id ≠ orderID := by
            rw [sameIDs]
            exact notAgain order List.mem_cons_self
          have unmoved :
              ((books.matched order).heap order).id ≠ orderID := by
            rw [← heap_rested, ← next_submit, id_next]
            exact different
          exact
            ⟨fun trade returned => absent.not_names different returned,
              inductionHypothesis ((absent.matched order).rested unmoved)
                stillSame restNotAgain⟩
      | cancel symbol cancelled side price =>
          refine ⟨by simp [Books.trades], ?_⟩
          exact
            inductionHypothesis (absent.cancel symbol cancelled side price)
              stillSame restNotAgain

/-! ## Cancels of a session -/

namespace Session

variable
    (session : Session) (symbol : Symbol) (orderID : UInt64) (side : Side)
    (price : Price)

/-- The queue at the place of a cancel loses the orders with the ID. -/
theorem queue_cancel :
    (session.state.next (.cancel symbol orderID side price)).queue
        ⟨symbol, side.bookSide, price⟩ =
      (session.state.queue ⟨symbol, side.bookSide, price⟩).filter
        fun order => (session.state.heap order).id ≠ orderID := by
  have injective :
      ∀ first ∈ submitted session.calls, ∀ second ∈ submitted session.calls,
        (session.orders first).id = (session.orders second).id →
          first = second :=
    fun first firstSeen second secondSeen =>
      session.distinctIDs.injective firstSeen secondSeen
  have erased :=
    session.state.books.queue_cancel symbol orderID side price
      ⟨symbol, side.bookSide, price⟩
  rw [if_pos rfl,
    FifoQueue.eraseP_eq_filter (session.sound.nodup _)
      (session.sound.unique_id injective orderID _),
    ← State.books_next session.keyed] at erased
  simp only [beq_iff_eq] at erased
  exact erased

theorem cancelFrame :
    CancelFrame session.state
      (session.state.next (.cancel symbol orderID side price))
      ⟨symbol, side.bookSide, price⟩ orderID where
  remaining := rfl
  queue := session.queue_cancel symbol orderID side price
  otherLevels := by
    intro otherSide otherPrice elsewhere
    rw [State.next, cancelOrder, State.getOrderBook_insert,
      Function.update_self, OrderBook.levels_cancelOrder]
    by_cases sameSide : otherSide = side.bookSide
    · have otherThanPrice : otherPrice ≠ price := by
        rintro rfl
        exact elsewhere (by rw [sameSide])
      rw [if_pos sameSide,
        Levels.lookup_cancelOrder_of_ne _ _ _ otherThanPrice]
    · rw [if_neg sameSide]
  bestPrices := by
    intro otherSide
    rw [State.next, cancelOrder, State.getOrderBook_insert,
      Function.update_self, OrderBook.best_cancelOrder]
  otherSymbols := by
    intro other elsewhere
    rw [State.next, cancelOrder, State.getOrderBook_insert,
      Function.update_of_ne elsewhere]

/-- After the cancel of a resting order no order with its ID rests. -/
theorem absent_cancel {order : OrderPtr}
    (rests : order ∈ session.state.queue ⟨symbol, side.bookSide, price⟩)
    (named : (session.state.heap order).id = orderID) :
    (session.state.next
      (.cancel symbol orderID side price)).books.Absent orderID := by
  have sound := session.sound
  rw [State.books_next session.keyed]
  intro place other member sameID
  rw [Books.heap_cancel] at sameID
  have before :=
    (Books.queue_cancel_sublist _ symbol orderID side price place).subset
      member
  have sameOrder : other = order := by
    apply session.distinctIDs.injective (sound.queuedSeen place other before)
      (sound.queuedSeen _ order rests)
    rw [← sound.id_eq, ← sound.id_eq, sameID]
    exact named.symm
  subst sameOrder
  have samePlace : place = ⟨symbol, side.bookSide, price⟩ :=
    (sound.placed place other before).symm.trans (sound.placed _ other rests)
  subst samePlace
  rw [← State.books_next session.keyed] at member
  have kept :
      other ∈
        (session.state.queue ⟨symbol, side.bookSide, price⟩).filter
          fun order => (session.state.heap order).id ≠ orderID :=
    session.queue_cancel symbol orderID side price ▸ member
  have notNamed := (List.mem_filter.mp kept).2
  exact absurd named (by simpa using notNamed)

/--
A cancel keeps everything but the order which it names.  If this order rests
where the cancel says, it rests nowhere afterwards and later calls which do
not resubmit its ID never trade it; if not, no order is removed.
-/
theorem cancel_removes_one :
    CancelFrame session.state
        (session.state.next (.cancel symbol orderID side price))
        ⟨symbol, side.bookSide, price⟩ orderID ∧
      (∀ order ∈ session.state.queue ⟨symbol, side.bookSide, price⟩,
        (session.state.heap order).id = orderID →
          (∀ place,
            order ∉
              (session.state.next
                (.cancel symbol orderID side price)).queue place) ∧
          ∀ later, NotResubmitting session.orders orderID later →
            ∀ trade ∈
                (LabelledRun.outputs State.next State.trades
                  (session.state.next (.cancel symbol orderID side price))
                  later).flatten,
              ¬ trade.Names orderID) ∧
      ((∀ order ∈ session.state.queue ⟨symbol, side.bookSide, price⟩,
          (session.state.heap order).id ≠ orderID) →
        ∀ place,
          (session.state.next
              (.cancel symbol orderID side price)).queue place =
            session.state.queue place) := by
  refine ⟨session.cancelFrame symbol orderID side price, ?_, ?_⟩
  · intro order rests named
    have absent := session.absent_cancel symbol orderID side price rests named
    constructor
    · intro place member
      exact absent place order member named
    · intro later notAgain
      rw [State.outputs_books (session.keyed.next _)]
      apply absent.not_names_of_run _ notAgain
      intro other
      exact session.sound.id_eq other
  · intro unnamed place
    have queues :=
      session.state.books.queue_cancel symbol orderID side price place
    rw [← State.books_next session.keyed] at queues
    refine queues.trans ?_
    split
    · next samePlace =>
        subst samePlace
        apply List.eraseP_of_forall_not
        intro order member sameID
        exact unnamed order member (beq_iff_eq.mp sameID)
    · rfl

end Session

end AeroRisk.Orderbook
