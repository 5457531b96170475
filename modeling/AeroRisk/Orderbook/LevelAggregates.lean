import AeroRisk.Orderbook.Sessions

/-!
# The aggregates of the levels

A level keeps the number of its orders and the sum of what remains of them.
`AddOrder` and `RemoveOrder` maintain both; a trade changes the order in place
and touches neither.
-/

namespace AeroRisk.Orderbook

open AeroRisk.Financial
open AeroRisk.Library

/-- What remains of the orders of a queue, modulo `2 ^ 64`. -/
def queuedQuantity (heap : Heap) : List OrderPtr → Quantity
  | [] => 0
  | order :: rest => (heap order).quantity + queuedQuantity heap rest

/-- The aggregates of a level are those of its queue, which is not empty. -/
structure Level.Aggregated (heap : Heap) (level : Level) : Prop where
  nonempty : level.orders ≠ []
  orderCount : level.orderCount = Int64.ofNat level.orders.length
  quantity : level.quantity = queuedQuantity heap level.orders

/-- All stored levels have the aggregates of their queues. -/
def State.Aggregated (s : State) : Prop :=
  ∀ symbol side price level,
    ((s.engine.getOrderBook symbol).levels side).lookup price = some level →
      level.Aggregated s.heap

/-- The call submits an order which crosses the best level on the other side. -/
def State.Crosses (s : State) : Call → Prop
  | .submit order =>
      0 < (s.heap order).quantity ∧
        ∃ best,
          (s.engine.getOrderBook (s.heap order).symbol).bestLevel
              (s.heap order).side.bookSide.opposite = some best ∧
            best.orders ≠ [] ∧
            (s.heap order).side.bookSide.opposite.Crosses best.price
              (s.heap order).price
  | .cancel .. => False

/-! ## Sums over queues -/

section Sums

variable (heap : Heap)

theorem queuedQuantity_append (first second : List OrderPtr) :
    queuedQuantity heap (first ++ second) =
      queuedQuantity heap first + queuedQuantity heap second := by
  induction first with
  | nil => simp [queuedQuantity]
  | cons order rest inductionHypothesis =>
      rw [List.cons_append, queuedQuantity, queuedQuantity,
        inductionHypothesis, Int64.add_assoc]

/-- An order which leaves a queue takes its quantity with it. -/
theorem queuedQuantity_eraseP {matching : OrderPtr → Bool}
    {orders : List OrderPtr} {order : OrderPtr}
    (found : orders.find? matching = some order) :
    queuedQuantity heap (orders.eraseP matching) =
      queuedQuantity heap orders - (heap order).quantity := by
  induction orders with
  | nil => cases found
  | cons head rest inductionHypothesis =>
      by_cases isMatch : matching head = true
      · rw [List.find?_cons_of_pos isMatch, Option.some.injEq] at found
        subst found
        rw [List.eraseP_cons_of_pos isMatch, queuedQuantity, Int64.add_comm,
          Int64.add_sub_cancel]
      · rw [List.find?_cons_of_neg isMatch] at found
        rw [List.eraseP_cons_of_neg isMatch, queuedQuantity, queuedQuantity,
          inductionHypothesis found, Int64.sub_eq_add_neg,
          Int64.sub_eq_add_neg, Int64.add_assoc]

theorem queuedQuantity_congr {heap other : Heap} {orders : List OrderPtr}
    (same : ∀ order ∈ orders, heap order = other order) :
    queuedQuantity heap orders = queuedQuantity other orders := by
  induction orders with
  | nil => rfl
  | cons order rest inductionHypothesis =>
      rw [List.forall_mem_cons] at same
      rw [queuedQuantity, queuedQuantity, same.1, inductionHypothesis same.2]

end Sums

/-! ## What keeps the aggregates -/

/-- All levels of a map have the aggregates of their queues. -/
def Levels.Aggregated (heap : Heap) (levels : Levels) : Prop :=
  ∀ price level, levels.lookup price = some level → level.Aggregated heap

/-- All levels of a book have the aggregates of their queues. -/
def OrderBook.Aggregated (heap : Heap) (ob : OrderBook) : Prop :=
  ∀ side, (ob.levels side).Aggregated heap

variable {heap : Heap}

theorem ofNat_add_one (count : Nat) :
    Int64.ofNat (count + 1) = Int64.ofNat count + 1 :=
  Int64.ofNat_add count 1

theorem Level.Aggregated.addOrder {level : Level}
    (count : level.orderCount = Int64.ofNat level.orders.length)
    (quantity : level.quantity = queuedQuantity heap level.orders)
    (order : OrderPtr) : (level.addOrder heap order).Aggregated heap where
  nonempty := by simp [Level.addOrder]
  orderCount := by
    rw [Level.addOrder, List.length_append, List.length_singleton,
      ofNat_add_one, count]
  quantity := by
    rw [Level.addOrder, queuedQuantity_append, quantity]
    simp [queuedQuantity]

theorem Level.Aggregated.removeOrder {level : Level}
    (aggregated : level.Aggregated heap) (orderID : UInt64)
    (remains : (level.removeOrder heap orderID).orders ≠ []) :
    (level.removeOrder heap orderID).Aggregated heap := by
  rw [Level.removeOrder] at remains ⊢
  cases found :
      level.orders.find? fun order => (heap order).id == orderID with
  | none => exact aggregated
  | some order =>
      rw [found] at remains
      have shorter :
          (level.orders.eraseP
            fun order => (heap order).id == orderID).length + 1 =
              level.orders.length := by
        have member := List.mem_of_find?_eq_some found
        have isFound := List.find?_some found
        have positive := List.length_pos_of_mem member
        rw [List.length_eraseP_of_mem member isFound]
        omega
      exact
        { nonempty := remains
          orderCount := by
            rw [aggregated.orderCount, ← shorter, ofNat_add_one]
            exact Int64.add_sub_cancel _ _
          quantity := by
            rw [queuedQuantity_eraseP heap found, aggregated.quantity] }

namespace Levels.Aggregated

variable {levels : Levels}

theorem addOrder (aggregated : levels.Aggregated heap) (price : Int64)
    (order : OrderPtr) : (levels.addOrder heap price order).Aggregated heap := by
  apply each_insert aggregated
  cases found : levels.lookup price with
  | none => exact Level.Aggregated.addOrder rfl rfl order
  | some level =>
      have known := aggregated price level found
      exact .addOrder known.orderCount known.quantity order

theorem cancelOrder (aggregated : levels.Aggregated heap)
    (orderID : UInt64) (price : Price) :
    (levels.cancelOrder heap orderID price).Aggregated heap := by
  rw [Levels.cancelOrder]
  cases found : levels.lookup price with
  | none => exact aggregated
  | some level =>
      dsimp only
      split
      · exact each_erase aggregated price
      · next remains =>
          apply each_insert aggregated
          apply (aggregated price level found).removeOrder
          intro nothing
          exact remains (by rw [nothing]; rfl)

end Levels.Aggregated

namespace OrderBook.Aggregated

variable {ob : OrderBook}

theorem addOrder (aggregated : ob.Aggregated heap) (order : OrderPtr) :
    (ob.addOrder heap order).Aggregated heap := by
  intro side
  have bids := aggregated .bid
  have asks := aggregated .ask
  rw [OrderBook.addOrder]
  split
  · cases side with
    | bid => exact bids.addOrder _ order
    | ask => exact asks
  · cases side with
    | bid => exact bids
    | ask => exact asks.addOrder _ order

theorem cancelOrder (aggregated : ob.Aggregated heap) (orderID : UInt64)
    (cancelled : Side) (price : Price) :
    (ob.cancelOrder heap orderID cancelled price).Aggregated heap := by
  intro side
  have bids := aggregated .bid
  have asks := aggregated .ask
  rw [OrderBook.cancelOrder]
  split
  · cases side with
    | bid => exact bids.cancelOrder _ _
    | ask => exact asks
  · cases side with
    | bid => exact bids
    | ask => exact asks.cancelOrder _ _

end OrderBook.Aggregated

namespace State

variable {s : State}

theorem aggregated_initial (orders : Heap) : (initial orders).Aggregated := by
  intro symbol side price level found
  rw [initial, newMatchingEngine, MatchingEngine.getOrderBook,
    Finmap.lookup_empty, Option.getD_none] at found
  cases side <;> simp [newOrderBook, OrderBook.levels] at found

/-- An engine in which one book was replaced. -/
theorem Aggregated.insert (aggregated : s.Aggregated) (symbol : Symbol)
    {book : OrderBook} (bookAggregated : book.Aggregated s.heap)
    (tradeChan : List Trade) :
    State.Aggregated
      { heap := s.heap
        engine :=
          { orderBooks := s.engine.orderBooks.insert symbol book
            tradeChan } } := by
  intro other
  rw [getOrderBook_insert]
  by_cases same : other = symbol
  · rw [same, Function.update_self]
    exact bookAggregated
  · rw [Function.update_of_ne same]
    exact aggregated other

/-- Without a crossing level the loop makes no iteration. -/
theorem matchLoop_of_not_crosses (keyed : s.Keyed) {order : OrderPtr}
    (notCrosses : ¬ s.Crosses (.submit order)) :
    matchLoop order (startMatching s order) = startMatching s order := by
  apply matchLoop_none (keyed.startMatching order)
  rw [Option.eq_none_iff_forall_ne_some]
  intro resting found
  obtain ⟨best, others, level, queue, crosses, remains⟩ :=
    bestLevel_of_counterparty (keyed.startMatching order) found
  have queued : best.orders ≠ [] := by simp [queue]
  exact notCrosses ⟨remains, best, level, queued, crosses⟩

/-- A call which does not trade keeps the aggregates. -/
theorem Aggregated.next (aggregated : s.Aggregated) (keyed : s.Keyed)
    {call : Call} (notCrosses : ¬ s.Crosses call) :
    (s.next call).Aggregated := by
  cases call with
  | submit order =>
      rw [State.next, submitOrder, matchOrder,
        matchLoop_of_not_crosses keyed notCrosses, restOrder]
      have book :
          (s.engine.getOrderBook (s.heap order).symbol).Aggregated s.heap :=
        aggregated _
      split
      · exact aggregated.insert _ (book.addOrder order) _
      · exact aggregated.insert _ book _
  | cancel symbol orderID side price =>
      have book : (s.engine.getOrderBook symbol).Aggregated s.heap :=
        aggregated symbol
      exact aggregated.insert symbol (book.cancelOrder orderID side price) _

end State

/-! ## A trade breaks the aggregates -/

theorem OrderBook.levels_storeTraded (ob : OrderBook) (level : Level)
    (side : BookSide) :
    (ob.storeTraded level side).levels side =
      (ob.levels side).insert (ob.best side) level := by
  cases side <;> rfl

theorem Level.quantity_afterTrade (heap : Heap) (level : Level) :
    (level.afterTrade heap).quantity = level.quantity := by
  rw [afterTrade]
  split
  · rfl
  · split <;> rfl

namespace Matching

variable (m : Matching) (order resting : OrderPtr) (best : Level)

@[simp]
theorem heap_restOrder : (restOrder order m).heap = m.heap := by
  rw [restOrder]
  split <;> rfl

/-- The level which traded is stored as it was, but for its queue. -/
theorem lookup_restOrder_traded :
    ((restOrder order (m.traded order resting best)).book.levels
        (m.heap order).side.bookSide.opposite).lookup
        (m.book.best (m.heap order).side.bookSide.opposite) =
      some (best.afterTrade (Books.heapAfter m.heap order resting)) := by
  have sameSide :
      ((m.traded order resting best).heap order).side =
        (m.heap order).side :=
    Books.heapAfter_side m.heap order resting order
  have unrested :
      (restOrder order (m.traded order resting best)).book.levels
          (m.heap order).side.bookSide.opposite =
        (m.traded order resting best).book.levels
          (m.heap order).side.bookSide.opposite := by
    rw [restOrder]
    split
    · rw [← sameSide]
      rw [OrderBook.levels_addOrder, if_neg (BookSide.opposite_ne _)]
    · rfl
  rw [unrested, traded, OrderBook.levels_storeTraded, Finmap.lookup_insert]

end Matching

/-- What a trading submission stores for the level with which it traded. -/
theorem State.lookup_after_trade {s : State} {order resting : OrderPtr}
    {best : Level} {others : List OrderPtr}
    (level :
      (s.engine.getOrderBook (s.heap order).symbol).bestLevel
        (s.heap order).side.bookSide.opposite = some best)
    (queue : best.orders = resting :: others)
    (crosses :
      (s.heap order).side.bookSide.opposite.Crosses best.price
        (s.heap order).price)
    (remains : 0 < (s.heap order).quantity) :
    (s.next (.submit order)).heap =
        Books.heapAfter s.heap order resting ∧
      ∃ price,
        (((s.next (.submit order)).engine.getOrderBook
          (s.heap order).symbol).levels
            (s.heap order).side.bookSide.opposite).lookup price =
          some
            (best.afterTrade (Books.heapAfter s.heap order resting)) := by
  have loop :
      matchLoop order (startMatching s order) =
        (startMatching s order).traded order resting best :=
    matchLoop_of_step
      (matchBody_eq_traded (m := startMatching s order) level queue crosses
        remains)
  have executed :
      s.next (.submit order) =
        finishMatching s order
          (restOrder order
            ((startMatching s order).traded order resting best)) := by
    rw [State.next, submitOrder, matchOrder, loop]
  rw [executed]
  constructor
  · exact Matching.heap_restOrder _ order
  · refine
      ⟨(startMatching s order).book.best
        (s.heap order).side.bookSide.opposite, ?_⟩
    rw [finishMatching, getOrderBook_insert, Function.update_self]
    exact (startMatching s order).lookup_restOrder_traded order resting best

/--
Levels are not both correct before and after their first order trades: what it
traded is still part of the sum.
-/
theorem Level.Aggregated.ne_afterTrade {heap after : Heap} {level : Level}
    {resting : OrderPtr} {others : List OrderPtr}
    (queue : level.orders = resting :: others)
    (changed :
      (after resting).quantity ≠ (heap resting).quantity)
    (positive : (heap resting).quantity ≠ 0)
    (unchanged : ∀ other ∈ others, after other = heap other)
    (before : level.Aggregated heap) :
    ¬ (level.afterTrade after).Aggregated after := by
  intro stored
  have sameSum := stored.quantity
  rw [quantity_afterTrade, before.quantity,
    orders_afterTrade after level queue, queue] at sameSum
  have rest : queuedQuantity after others = queuedQuantity heap others :=
    queuedQuantity_congr unchanged
  by_cases filled : (after resting).quantity = 0
  · rw [if_pos filled, List.tail_cons, queuedQuantity, rest] at sameSum
    exact positive (Int64.add_eq_right.mp sameSum)
  · rw [if_neg filled, queuedQuantity, queuedQuantity, rest,
      Int64.add_left_inj] at sameSum
    exact changed sameSum.symm

namespace Session

variable (session : Session)

/-- The quantity which an order trades is not taken off the level. -/
theorem not_aggregated_of_crosses {order : OrderPtr}
    (distinct : DistinctIDs session.orders (session.calls ++ [.submit order]))
    (aggregated : session.state.Aggregated)
    (crosses : session.state.Crosses (.submit order)) :
    ¬ (session.state.next (.submit order)).Aggregated := by
  intro stillAggregated
  obtain ⟨remains, best, level, queued, crossing⟩ := crosses
  obtain ⟨resting, others, queue⟩ := List.exists_cons_of_ne_nil queued
  obtain ⟨sameHeap, price, stored⟩ :=
    State.lookup_after_trade level queue crossing remains
  have sound := session.sound
  have queueAt :
      session.state.books.queue (session.state.books.frontPlace order) =
        resting :: others :=
    (OrderBook.front_of_bestLevel_some (session.keyed _) level).2.2.trans
      queue
  have notQueued := sound.not_queued distinct.fresh
  have nodup := sound.nodup (session.state.books.frontPlace order)
  specialize notQueued (session.state.books.frontPlace order)
  rw [queueAt] at notQueued nodup
  rw [List.mem_cons, not_or] at notQueued
  rw [List.nodup_cons] at nodup
  have positive : 0 < (session.state.heap resting).quantity :=
    sound.positive (session.state.books.frontPlace order) resting
      (by simp [queueAt])
  have traded :
      Books.tradedQuantity session.state.heap order resting ≠ 0 :=
    (Int64.ne_of_lt
      (Books.tradedQuantity_pos session.state.heap remains positive)).symm
  have before : best.Aggregated session.state.heap := by
    rw [OrderBook.bestLevel_eq] at level
    split at level
    · cases level
    · exact aggregated _ _ _ best level
  apply before.ne_afterTrade queue ?_ (Int64.ne_of_lt positive).symm ?_
    (sameHeap ▸ stillAggregated _ _ price _ stored)
  · rw [Books.heapAfter_resting _ notQueued.1]
    intro same
    exact traded (Int64.add_eq_left.mp (Int64.sub_eq_iff_eq_add.mp same).symm)
  · intro other member
    apply Books.heapAfter_of_ne
    · rintro rfl
      exact notQueued.2 member
    · rintro rfl
      exact nodup.1 member

/-- No submission of the session crosses the best level on the other side. -/
def NeverCrosses : Prop :=
  LabelledRun.Along State.next (fun s call => ¬ s.Crosses call)
    (State.initial session.orders) session.calls

/--
In every state of a session, all levels have the aggregates of their queues
exactly when no submission crosses the best level on the other side.
-/
theorem level_aggregates :
    LabelledRun.Always State.next State.Aggregated
        (State.initial session.orders) session.calls ↔
      session.NeverCrosses := by
  constructor
  · intro always
    rw [NeverCrosses, LabelledRun.along_iff_of_split]
    rintro earlier call later split crosses
    have isPrefixOf : earlier ++ [call] <+: session.calls :=
      ⟨later, by simp [split]⟩
    have shorter : earlier <+: session.calls := ⟨call :: later, split.symm⟩
    have after := always _ isPrefixOf
    rw [LabelledRun.run_append] at after
    cases call with
    | submit order =>
        apply (session.upTo earlier shorter).not_aggregated_of_crosses
          (session.upTo _ isPrefixOf).distinctIDs (always _ shorter) crosses
        exact after
    | cancel => exact crosses
  · let invariant : State → Prop := fun s => s.Aggregated ∧ s.Keyed
    have preserved :
        ∀ s call, invariant s → ¬ s.Crosses call → invariant (s.next call) :=
      fun s call known notCrosses =>
        ⟨known.1.next known.2 notCrosses, known.2.next call⟩
    apply LabelledRun.always_of_along (fun s known => known.1) preserved
    exact
      ⟨State.aggregated_initial session.orders,
        State.keyed_initial session.orders⟩

/-- An ask for 5 and a bid for 3 at its price. -/
def partialFillOrders : Heap
  | 0 => newOrder 1 "AAPL" .sell 10 5
  | _ => newOrder 2 "AAPL" .buy 10 3

/-- The ask keeps 2 when the bid is filled. -/
def partialFill : Session where
  orders := partialFillOrders
  calls := [.submit 0, .submit 1]
  distinctIDs := by decide

/-- The level of the ask still counts 5. -/
theorem level_aggregates_fails :
    ¬ ∀ session : Session,
        (∀ order ∈ submitted session.calls,
          0 < (session.orders order).quantity) →
        LabelledRun.Always State.next State.Aggregated
          (State.initial session.orders) session.calls := by
  intro aggregated
  have atEnd := aggregated partialFill (by decide) _ List.prefix_rfl
  have quantity :=
    (atEnd "AAPL" .ask 10
      { price := 10, orders := [0], orderCount := 1, quantity := 5 }
      (by decide)).quantity
  exact absurd quantity (by decide)

end Session

end AeroRisk.Orderbook
