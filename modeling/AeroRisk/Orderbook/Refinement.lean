import AeroRisk.Orderbook.Halves

/-!
# The engine refines its books

The queue at a price is read off the level maps, and every operation of the
engine is shown to be the corresponding update of halves.  Since the body of
a matching loop resets the cached price which its condition reads, a loop
makes at most one iteration.
-/

namespace AeroRisk.Orderbook

open AeroRisk.Financial
open AeroRisk.Library

/-! ## Reading halves off a book -/

/-- The queue at a price, empty where no level is stored. -/
def Levels.ordersAt (levels : Levels) (price : Int64) : List OrderPtr :=
  ((levels.lookup price).map Level.orders).getD []

namespace OrderBook

/-- The level map of one half. -/
def levels (ob : OrderBook) : BookSide → Levels
  | .bid => ob.bidLevels
  | .ask => ob.askLevels

/-- The cached best price of one half. -/
def best (ob : OrderBook) : BookSide → Int64
  | .bid => ob.bestBid
  | .ask => ob.bestAsk

/-- `BestBid()` or `BestAsk()`. -/
def bestLevel (ob : OrderBook) : BookSide → Option Level
  | .bid => ob.bestBidLevel
  | .ask => ob.bestAskLevel

/-- One half of a stored book. -/
def half (ob : OrderBook) (side : BookSide) : Half where
  queue := (ob.levels side).ordersAt
  best := ob.best side

/-- Every level carries the price under which it is stored. -/
def Keyed (ob : OrderBook) : Prop :=
  ∀ side price level,
    (ob.levels side).lookup price = some level → level.price = price

theorem bestLevel_eq (ob : OrderBook) (side : BookSide) :
    ob.bestLevel side =
      if ob.best side = -1 then none
      else (ob.levels side).lookup (ob.best side) := by
  cases side <;> rfl

end OrderBook

/-- The books of an engine state. -/
def State.books (s : State) : Books where
  heap := s.heap
  half := fun symbol side => (s.engine.getOrderBook symbol).half side

/-- Every stored level carries the price under which it is stored. -/
def State.Keyed (s : State) : Prop :=
  ∀ symbol, (s.engine.getOrderBook symbol).Keyed

/-! ## Level maps -/

namespace Levels

variable (heap : Heap) (levels : Levels)

theorem ordersAt_of_lookup {levels : Levels} {price : Int64} {level : Level}
    (found : levels.lookup price = some level) :
    levels.ordersAt price = level.orders := by
  simp [ordersAt, found]

@[simp]
theorem ordersAt_empty (price : Int64) :
    (∅ : Levels).ordersAt price = [] := by
  simp [ordersAt]

theorem ordersAt_insert (price : Int64) (level : Level) :
    Levels.ordersAt (Finmap.insert price level levels) =
      Function.update levels.ordersAt price level.orders := by
  funext other
  by_cases same : other = price
  · subst other
    simp [ordersAt]
  · simp [ordersAt, Finmap.lookup_insert_of_ne _ same,
      Function.update_of_ne same]

theorem ordersAt_erase (price : Int64) :
    Levels.ordersAt (Finmap.erase price levels) =
      Function.update levels.ordersAt price [] := by
  funext other
  by_cases same : other = price
  · subst other
    simp [ordersAt]
  · simp [ordersAt, Finmap.lookup_erase_ne same,
      Function.update_of_ne same]

theorem ordersAt_addOrder (price : Int64) (order : OrderPtr) :
    (levels.addOrder heap price order).ordersAt =
      Function.update levels.ordersAt price
        (levels.ordersAt price ++ [order]) := by
  rw [addOrder, ordersAt_insert]
  congr 1
  cases found : levels.lookup price with
  | none => simp [ordersAt, found, Level.addOrder, newLevelFromPrice]
  | some level => simp [ordersAt, found, Level.addOrder]

/-- `RemoveOrder` takes the first order with the ID out of the queue. -/
theorem orders_removeOrder (level : Level) (orderID : UInt64) :
    (level.removeOrder heap orderID).orders =
      level.orders.eraseP fun order => (heap order).id == orderID := by
  unfold Level.removeOrder
  cases found :
      level.orders.find? fun order => (heap order).id == orderID with
  | none =>
      have absent := List.find?_eq_none.mp found
      exact (List.eraseP_of_forall_not absent).symm
  | some order => rfl

theorem ordersAt_cancelOrder (orderID : UInt64) (price : Price) :
    (levels.cancelOrder heap orderID price).ordersAt =
      Function.update levels.ordersAt price
        ((levels.ordersAt price).eraseP
          fun order => (heap order).id == orderID) := by
  unfold cancelOrder
  cases found : levels.lookup price with
  | none =>
      have nothing : levels.ordersAt price = [] := by
        simp [ordersAt, found]
      rw [nothing, List.eraseP_nil, ← nothing, Function.update_eq_self]
  | some level =>
      rw [ordersAt_of_lookup found, ← orders_removeOrder]
      dsimp only
      split
      · next emptied =>
          rw [ordersAt_erase, List.eq_nil_of_length_eq_zero emptied]
      · exact ordersAt_insert levels price _

end Levels

/-! ## Stored levels stay keyed -/

namespace Levels

variable {property : Int64 → Level → Prop} {levels : Levels}

/-- What every level has, every level still has when such a level is stored. -/
theorem each_insert
    (each :
      ∀ price level, levels.lookup price = some level → property price level)
    {price : Int64} {level : Level} (stored : property price level) :
    ∀ other found,
      (Finmap.insert price level levels).lookup other = some found →
        property other found := by
  intro other found lookup
  by_cases same : other = price
  · subst other
    rw [Finmap.lookup_insert] at lookup
    cases lookup
    exact stored
  · rw [Finmap.lookup_insert_of_ne _ same] at lookup
    exact each other found lookup

theorem each_erase
    (each :
      ∀ price level, levels.lookup price = some level → property price level)
    (price : Int64) :
    ∀ other found,
      (Finmap.erase price levels).lookup other = some found →
        property other found := by
  intro other found lookup
  by_cases same : other = price
  · subst other
    rw [Finmap.lookup_erase] at lookup
    cases lookup
  · rw [Finmap.lookup_erase_ne same] at lookup
    exact each other found lookup

end Levels

/-- Every level of a map carries the price under which it is stored. -/
def Levels.Keyed (levels : Levels) : Prop :=
  ∀ price level, levels.lookup price = some level → level.price = price

namespace Levels.Keyed

variable {levels : Levels}

theorem empty : Levels.Keyed ∅ := by
  intro price level found
  simp at found

theorem insert (keyed : levels.Keyed) {price : Int64} {level : Level}
    (samePrice : level.price = price) :
    Levels.Keyed (Finmap.insert price level levels) :=
  each_insert keyed samePrice

theorem erase (keyed : levels.Keyed) (price : Int64) :
    Levels.Keyed (Finmap.erase price levels) :=
  each_erase keyed price

theorem addOrder (keyed : levels.Keyed) (heap : Heap) (price : Int64)
    (order : OrderPtr) : (levels.addOrder heap price order).Keyed := by
  apply keyed.insert
  cases found : levels.lookup price with
  | none => simp [Level.addOrder, newLevelFromPrice]
  | some level => simp [Level.addOrder, keyed price level found]

theorem cancelOrder (keyed : levels.Keyed) (heap : Heap)
    (orderID : UInt64) (price : Price) :
    (levels.cancelOrder heap orderID price).Keyed := by
  unfold Levels.cancelOrder
  cases found : levels.lookup price with
  | none => exact keyed
  | some level =>
      dsimp only
      split
      · exact keyed.erase price
      · apply keyed.insert
        have samePrice := keyed price level found
        unfold Level.removeOrder
        split <;> exact samePrice

end Levels.Keyed

theorem OrderBook.keyed_iff (ob : OrderBook) :
    ob.Keyed ↔ ∀ side, (ob.levels side).Keyed :=
  Iff.rfl

/-! ## Operations of one book -/

namespace OrderBook

variable (heap : Heap) (ob : OrderBook)

theorem levels_addOrder (order : OrderPtr) (side : BookSide) :
    (ob.addOrder heap order).levels side =
      if side = (heap order).side.bookSide then
        (ob.levels side).addOrder heap (heap order).price order
      else
        ob.levels side := by
  cases orderSide : (heap order).side <;> cases side <;>
    simp [addOrder, orderSide, Side.bookSide, levels]

theorem best_addOrder (order : OrderPtr) (side : BookSide) :
    (ob.addOrder heap order).best side =
      if side = (heap order).side.bookSide then
        if side.Improves (ob.best side) (heap order).price then
          (heap order).price
        else
          ob.best side
      else
        ob.best side := by
  cases orderSide : (heap order).side <;> cases side <;>
    simp [addOrder, orderSide, Side.bookSide, best, BookSide.Improves]
  all_goals rfl

theorem half_addOrder (order : OrderPtr) :
    (ob.addOrder heap order).half =
      Function.update ob.half (heap order).side.bookSide
        ((ob.half (heap order).side.bookSide).rest
          (heap order).side.bookSide (heap order).price order) := by
  funext side
  cases orderSide : (heap order).side <;> cases side <;>
    simp [addOrder, orderSide, Side.bookSide, half, levels, best, Half.rest,
      Levels.ordersAt_addOrder, BookSide.Improves]
  all_goals rfl

theorem half_cancelOrder (orderID : UInt64) (side : Side) (price : Price) :
    (ob.cancelOrder heap orderID side price).half =
      Function.update ob.half side.bookSide
        ((ob.half side.bookSide).withdraw heap orderID price) := by
  funext other
  cases side <;> cases other <;>
    simp [cancelOrder, Side.bookSide, half, levels, best, Half.withdraw,
      Levels.ordersAt_cancelOrder]

theorem Keyed.addOrder {ob : OrderBook} (keyed : ob.Keyed)
    (order : OrderPtr) : (ob.addOrder heap order).Keyed := by
  rw [keyed_iff] at keyed ⊢
  intro side
  cases orderSide : (heap order).side <;> cases side <;>
    simp only [OrderBook.addOrder, orderSide, levels, reduceCtorEq, ↓reduceIte]
  case unknown.bid => exact keyed .bid
  case unknown.ask => exact (keyed .ask).addOrder heap _ _
  case buy.bid => exact (keyed .bid).addOrder heap _ _
  case buy.ask => exact keyed .ask
  case sell.bid => exact keyed .bid
  case sell.ask => exact (keyed .ask).addOrder heap _ _

theorem Keyed.cancelOrder {ob : OrderBook} (keyed : ob.Keyed)
    (orderID : UInt64) (side : Side) (price : Price) :
    (ob.cancelOrder heap orderID side price).Keyed := by
  rw [keyed_iff] at keyed ⊢
  intro other
  cases side <;> cases other <;>
    simp only [OrderBook.cancelOrder, levels, reduceCtorEq, ↓reduceIte]
  case unknown.bid => exact keyed .bid
  case unknown.ask => exact (keyed .ask).cancelOrder heap _ _
  case buy.bid => exact (keyed .bid).cancelOrder heap _ _
  case buy.ask => exact keyed .ask
  case sell.bid => exact keyed .bid
  case sell.ask => exact (keyed .ask).cancelOrder heap _ _

theorem keyed_newOrderBook (symbol : Symbol) :
    (newOrderBook symbol).Keyed := by
  rw [keyed_iff]
  intro side
  cases side <;> exact Levels.Keyed.empty

theorem half_newOrderBook (symbol : Symbol) (side : BookSide) :
    (newOrderBook symbol).half side = Half.empty := by
  cases side <;>
    simp [newOrderBook, half, levels, best, Half.empty, funext_iff]

end OrderBook

/-! ## The matching loop -/

namespace Matching

/-- The resting order with which the loop of an incoming order would trade. -/
def counterparty (m : Matching) (order : OrderPtr) : Option OrderPtr :=
  let side := (m.heap order).side.bookSide.opposite
  if side.Crosses (m.book.best side) (m.heap order).price ∧
      0 < (m.heap order).quantity then
    (m.book.half side).front
  else
    none

/-- The local state after a trade with the given resting order. -/
def Executed (m : Matching) (order resting : OrderPtr) (after : Matching) :
    Prop :=
  after.heap = Books.heapAfter m.heap order resting ∧
    after.book.half =
      Function.update m.book.half (m.heap order).side.bookSide.opposite
        ((m.book.half (m.heap order).side.bookSide.opposite).trade
          ((Books.heapAfter m.heap order resting resting).quantity = 0)) ∧
    after.trades = m.trades ++ [Books.tradeOf m.heap order resting] ∧
    after.book.Keyed

end Matching

theorem Level.orders_afterTrade (heap : Heap) (level : Level)
    {first : OrderPtr} {others : List OrderPtr}
    (queue : level.orders = first :: others) :
    (level.afterTrade heap).orders =
      if (heap first).quantity = 0 then level.orders.tail
      else level.orders := by
  simp only [afterTrade, queue]
  split <;> simp [queue]

theorem Level.price_afterTrade (heap : Heap) (level : Level) :
    (level.afterTrade heap).price = level.price := by
  rw [afterTrade]
  split
  · rfl
  · split <;> rfl

namespace OrderBook

variable {ob : OrderBook} {side : BookSide}

theorem front_of_bestLevel_none (absent : ob.bestLevel side = none) :
    (ob.half side).front = none := by
  rw [bestLevel_eq] at absent
  by_cases unset : ob.best side = -1
  · simp [Half.front, half, unset]
  · rw [if_neg unset] at absent
    simp [Half.front, half, unset, Levels.ordersAt, absent]

/-- What the code reads of a best level is the price and the front order. -/
theorem front_of_bestLevel_some {level : Level} (keyed : ob.Keyed)
    (found : ob.bestLevel side = some level) :
    (ob.half side).front = level.orders.head? ∧
      level.price = ob.best side ∧
      (ob.half side).queue (ob.best side) = level.orders := by
  rw [bestLevel_eq] at found
  by_cases unset : ob.best side = -1
  · simp [unset] at found
  · rw [if_neg unset] at found
    have queue : (ob.half side).queue (ob.best side) = level.orders :=
      Levels.ordersAt_of_lookup found
    refine ⟨?_, keyed side _ level found, queue⟩
    rw [Half.front, ← queue]
    exact if_neg unset

/-- Store the level which traded and reset the cached price. -/
def storeTraded (ob : OrderBook) (level : Level) : BookSide → OrderBook
  | .bid =>
      { ob with
        bestBid := -1
        bidLevels := ob.bidLevels.insert ob.bestBid level }
  | .ask =>
      { ob with
        bestAsk := -1
        askLevels := ob.askLevels.insert ob.bestAsk level }

theorem half_storeTraded (ob : OrderBook) (level : Level)
    (side : BookSide) :
    (ob.storeTraded level side).half =
      Function.update ob.half side
        { queue :=
            Function.update (ob.half side).queue (ob.best side) level.orders
          best := -1 } := by
  funext other
  cases side <;> cases other <;>
    simp [storeTraded, half, levels, best, Levels.ordersAt_insert]

theorem Keyed.storeTraded (keyed : ob.Keyed) {level : Level}
    (price : level.price = ob.best side) :
    (ob.storeTraded level side).Keyed := by
  rw [keyed_iff] at keyed ⊢
  intro other
  cases side <;> cases other
  case bid.bid => exact (keyed .bid).insert price
  case bid.ask => exact keyed .ask
  case ask.bid => exact keyed .bid
  case ask.ask => exact (keyed .ask).insert price

end OrderBook

/-- Without a counterparty the loop condition fails or the loop breaks. -/
theorem matchBody_none {order : OrderPtr} {m : Matching}
    (keyed : m.book.Keyed) (nobody : m.counterparty order = none) :
    matchBody (m.heap order).side order m = none := by
  rw [Matching.counterparty] at nobody
  cases level :
      m.book.bestLevel (m.heap order).side.bookSide.opposite with
  | none =>
      cases orderSide : (m.heap order).side <;>
        simp_all [matchBody, matchBuyBody, matchSellBody, Side.bookSide,
          BookSide.opposite, OrderBook.bestLevel]
  | some best =>
      obtain ⟨front, price, -⟩ :=
        OrderBook.front_of_bestLevel_some keyed level
      rw [← price, front] at nobody
      cases queue : best.orders <;>
        cases orderSide : (m.heap order).side <;>
          simp_all [matchBody, matchBuyBody, matchSellBody, Side.bookSide,
            BookSide.opposite, OrderBook.bestLevel, BookSide.Crosses]

/-- The best level met by an order which finds a counterparty. -/
theorem bestLevel_of_counterparty {order resting : OrderPtr} {m : Matching}
    (keyed : m.book.Keyed) (found : m.counterparty order = some resting) :
    ∃ best others,
      m.book.bestLevel (m.heap order).side.bookSide.opposite = some best ∧
        best.orders = resting :: others ∧
        (m.heap order).side.bookSide.opposite.Crosses best.price
          (m.heap order).price ∧
        0 < (m.heap order).quantity := by
  rw [Matching.counterparty] at found
  cases level :
      m.book.bestLevel (m.heap order).side.bookSide.opposite with
  | none =>
      simp [OrderBook.front_of_bestLevel_none level] at found
  | some best =>
      obtain ⟨front, price, -⟩ :=
        OrderBook.front_of_bestLevel_some keyed level
      rw [← price, front] at found
      split at found
      · next condition =>
          obtain ⟨others, queue⟩ := List.head?_eq_some_iff.mp found
          exact ⟨best, others, rfl, queue, condition.1, condition.2⟩
      · cases found

/-- The local state after a trade with the first order of the best level. -/
def Matching.traded (m : Matching) (order resting : OrderPtr)
    (best : Level) : Matching :=
  let heap := Books.heapAfter m.heap order resting
  { heap
    book :=
      m.book.storeTraded (best.afterTrade heap)
        (m.heap order).side.bookSide.opposite
    trades := m.trades ++ [Books.tradeOf m.heap order resting]
    tradeChan := m.tradeChan ++ [Books.tradeOf m.heap order resting] }

/-- An iteration trades with the first order of a best level which crosses. -/
theorem matchBody_eq_traded {order resting : OrderPtr} {m : Matching}
    {best : Level} {others : List OrderPtr}
    (level :
      m.book.bestLevel (m.heap order).side.bookSide.opposite = some best)
    (queue : best.orders = resting :: others)
    (crosses :
      (m.heap order).side.bookSide.opposite.Crosses best.price
        (m.heap order).price)
    (remains : 0 < (m.heap order).quantity) :
    matchBody (m.heap order).side order m =
      some (m.traded order resting best) := by
  cases orderSide : (m.heap order).side <;>
    simp_all [matchBody, matchBuyBody, matchSellBody, Side.bookSide,
      BookSide.opposite, OrderBook.bestLevel, BookSide.Crosses,
      Books.tradeOf, Books.tradedQuantity, Books.heapAfter,
      OrderBook.storeTraded, Matching.traded]

theorem Matching.executed_traded {order resting : OrderPtr} {m : Matching}
    {best : Level} {others : List OrderPtr} (keyed : m.book.Keyed)
    (level :
      m.book.bestLevel (m.heap order).side.bookSide.opposite = some best)
    (queue : best.orders = resting :: others) :
    m.Executed order resting (m.traded order resting best) := by
  obtain ⟨-, price, queueAt⟩ :=
    OrderBook.front_of_bestLevel_some keyed level
  refine ⟨rfl, ?_, rfl, ?_⟩
  · let heap := Books.heapAfter m.heap order resting
    let side := (m.heap order).side.bookSide.opposite
    rw [traded, OrderBook.half_storeTraded,
      Level.orders_afterTrade heap best queue, Half.trade, ← queueAt]
    change
      Function.update m.book.half side
          { queue := _, best := (-1 : Int64) } =
        Function.update m.book.half side
          { queue := _, best := (-1 : Int64) }
    congr 2
    split
    · rfl
    · exact Function.update_eq_self _ _
  · exact keyed.storeTraded ((best.price_afterTrade _).trans price)

/-- With a counterparty the loop makes one iteration, which trades with it. -/
theorem matchBody_some {order resting : OrderPtr} {m : Matching}
    (keyed : m.book.Keyed) (found : m.counterparty order = some resting) :
    ∃ after,
      matchBody (m.heap order).side order m = some after ∧
        m.Executed order resting after := by
  obtain ⟨best, others, level, queue, crosses, remains⟩ :=
    bestLevel_of_counterparty keyed found
  exact
    ⟨m.traded order resting best,
      matchBody_eq_traded level queue crosses remains,
      Matching.executed_traded keyed level queue⟩

/--
An iteration resets the cached price which the loop condition reads, so no
second iteration follows.
-/
theorem matchBody_stops {side : Side} {order : OrderPtr}
    {m after : Matching} (step : matchBody side order m = some after) :
    matchBody side order after = none := by
  by_cases buys : side = .buy
  · rw [matchBody, if_pos buys, matchBuyBody] at step
    rw [matchBody, if_pos buys]
    split at step
    · cases step
    · split at step
      · split at step
        · cases step
        · cases step
          simp [matchBuyBody, OrderBook.bestAskLevel]
      · cases step
  · rw [matchBody, if_neg buys, matchSellBody] at step
    rw [matchBody, if_neg buys]
    split at step
    · cases step
    · split at step
      · split at step
        · cases step
        · cases step
          simp [matchSellBody, OrderBook.bestBidLevel]
      · cases step

theorem matchLoop_none {order : OrderPtr} {m : Matching}
    (keyed : m.book.Keyed) (nobody : m.counterparty order = none) :
    matchLoop order m = m :=
  BoundedLoop.iterate_of_none (matchBody_none keyed nobody) _

/-- An iteration is the whole loop. -/
theorem matchLoop_of_step {order : OrderPtr} {m after : Matching}
    (step : matchBody (m.heap order).side order m = some after) :
    matchLoop order m = after := by
  rw [matchLoop, matchBound, BoundedLoop.iterate_of_some step,
    BoundedLoop.iterate_of_none (matchBody_stops step)]

theorem matchLoop_some {order resting : OrderPtr} {m : Matching}
    (keyed : m.book.Keyed) (found : m.counterparty order = some resting) :
    m.Executed order resting (matchLoop order m) := by
  obtain ⟨after, step, executed⟩ := matchBody_some keyed found
  rwa [matchLoop_of_step step]

/-- The loop ends because its condition fails, not because of the bound. -/
theorem matchLoop_halts (order : OrderPtr) (m : Matching) :
    matchBody (m.heap order).side order (matchLoop order m) = none := by
  cases step : matchBody (m.heap order).side order m with
  | none => rwa [matchLoop, BoundedLoop.iterate_of_none step]
  | some after =>
      rw [matchLoop_of_step step]
      exact matchBody_stops step

/-! ## Calls on the engine -/

namespace State

variable {s : State}

theorem getOrderBook_insert (me : MatchingEngine) (symbol : Symbol)
    (book : OrderBook) (tradeChan : List Trade) (other : Symbol) :
    MatchingEngine.getOrderBook
        { orderBooks := me.orderBooks.insert symbol book, tradeChan } other =
      Function.update me.getOrderBook symbol book other := by
  by_cases same : other = symbol
  · subst other
    simp [MatchingEngine.getOrderBook]
  · simp [MatchingEngine.getOrderBook, Finmap.lookup_insert_of_ne _ same,
      Function.update_of_ne same]

theorem Keyed.startMatching (keyed : s.Keyed) (order : OrderPtr) :
    (startMatching s order).book.Keyed :=
  keyed _

/-- The books after storing the result of a matching. -/
theorem books_finishMatching (order : OrderPtr) (m : Matching) :
    (finishMatching s order m).books =
      { heap := m.heap
        half :=
          Function.update s.books.half (s.heap order).symbol m.book.half } := by
  rw [books, finishMatching]
  congr 1
  funext symbol
  rw [getOrderBook_insert]
  by_cases same : symbol = (s.heap order).symbol
  · simp [same]
  · simp [same, books]

theorem Keyed.finishMatching (keyed : s.Keyed) (order : OrderPtr)
    {m : Matching} (bookKeyed : m.book.Keyed) :
    (finishMatching s order m).Keyed := by
  intro symbol
  rw [Orderbook.finishMatching, getOrderBook_insert]
  by_cases same : symbol = (s.heap order).symbol
  · rwa [same, Function.update_self]
  · rw [Function.update_of_ne same]
    exact keyed symbol

/-- Resting what remains of an order is the same before and after storing. -/
theorem books_restOrder {order : OrderPtr} {m : Matching}
    (sameSymbol : (m.heap order).symbol = (s.heap order).symbol) :
    (finishMatching s order (restOrder order m)).books =
      (finishMatching s order m).books.rested order := by
  rw [restOrder, Books.rested, books_finishMatching order m]
  by_cases remains : 0 < (m.heap order).quantity
  · rw [if_pos remains, if_pos remains, books_finishMatching]
    simp [OrderBook.half_addOrder, Books.setHalf, Books.ownHalf, sameSymbol]
  · rw [if_neg remains, if_neg remains, books_finishMatching]

theorem books_matchLoop (keyed : s.Keyed) (order : OrderPtr) :
    (finishMatching s order
        (matchLoop order (startMatching s order))).books =
      s.books.matched order := by
  rw [Books.matched]
  cases found : s.books.counterparty order with
  | none =>
      rw [matchLoop_none (keyed.startMatching order) found,
        books_finishMatching]
      change Books.mk s.heap (Function.update s.books.half _ _) = s.books
      exact congrArg (Books.mk s.heap) (Function.update_eq_self _ _)
  | some resting =>
      obtain ⟨heap, half, -, -⟩ :=
        matchLoop_some (keyed.startMatching order) found
      rw [books_finishMatching, heap, half]
      rfl

theorem symbol_matchLoop (keyed : s.Keyed) (order : OrderPtr) :
    ((matchLoop order (startMatching s order)).heap order).symbol =
      (s.heap order).symbol := by
  cases found : s.books.counterparty order with
  | none =>
      rw [matchLoop_none (keyed.startMatching order) found]
      rfl
  | some resting =>
      rw [(matchLoop_some (keyed.startMatching order) found).1]
      simp [Books.heapAfter, startMatching]

/-- `SubmitOrder` computes the submission of the books. -/
theorem books_submitOrder (keyed : s.Keyed) (order : OrderPtr) :
    (submitOrder s order).books = s.books.next (.submit order) := by
  rw [submitOrder, matchOrder, books_restOrder (symbol_matchLoop keyed order),
    books_matchLoop keyed order, Books.next]

/-- `SubmitOrder` returns the trades of the books. -/
theorem submitTrades_eq (keyed : s.Keyed) (order : OrderPtr) :
    submitTrades s order = s.books.trades (.submit order) := by
  have unrested :
      submitTrades s order =
        (matchLoop order (startMatching s order)).trades := by
    rw [submitTrades, matchOrder, restOrder]
    split <;> rfl
  rw [unrested, Books.trades]
  cases found : s.books.counterparty order with
  | none =>
      rw [matchLoop_none (keyed.startMatching order) found]
      rfl
  | some resting =>
      rw [(matchLoop_some (keyed.startMatching order) found).2.2.1]
      rfl

/-- `CancelOrder` computes the withdrawal of the books. -/
theorem books_cancelOrder (symbol : Symbol) (orderID : UInt64)
    (side : Side) (price : Price) :
    (cancelOrder s symbol orderID side price).books =
      s.books.next (.cancel symbol orderID side price) := by
  rw [books, cancelOrder, Books.next, Books.setHalf]
  congr 1
  funext other
  rw [getOrderBook_insert]
  by_cases same : other = symbol
  · simp [same, books, OrderBook.half_cancelOrder]
  · simp [same, books]

theorem Keyed.submitOrder (keyed : s.Keyed) (order : OrderPtr) :
    (submitOrder s order).Keyed := by
  have loopKeyed :
      (matchLoop order (Orderbook.startMatching s order)).book.Keyed := by
    cases found : s.books.counterparty order with
    | none =>
        rw [matchLoop_none (keyed.startMatching order) found]
        exact keyed.startMatching order
    | some resting =>
        exact (matchLoop_some (keyed.startMatching order) found).2.2.2
  apply keyed.finishMatching
  rw [matchOrder, restOrder]
  split
  · exact loopKeyed.addOrder _ order
  · exact loopKeyed

theorem Keyed.cancelOrder (keyed : s.Keyed) (symbol : Symbol)
    (orderID : UInt64) (side : Side) (price : Price) :
    (cancelOrder s symbol orderID side price).Keyed := by
  intro other
  rw [Orderbook.cancelOrder, getOrderBook_insert]
  by_cases same : other = symbol
  · rw [same, Function.update_self]
    exact (keyed symbol).cancelOrder _ _ _ _
  · rw [Function.update_of_ne same]
    exact keyed other

theorem Keyed.next (keyed : s.Keyed) (call : Call) :
    (s.next call).Keyed := by
  cases call with
  | submit order => exact keyed.submitOrder order
  | cancel symbol orderID side price =>
      exact keyed.cancelOrder symbol orderID side price

theorem books_next (keyed : s.Keyed) (call : Call) :
    (s.next call).books = s.books.next call := by
  cases call with
  | submit order => exact books_submitOrder keyed order
  | cancel symbol orderID side price =>
      exact books_cancelOrder symbol orderID side price

theorem trades_eq (keyed : s.Keyed) (call : Call) :
    s.trades call = s.books.trades call := by
  cases call with
  | submit order => exact submitTrades_eq keyed order
  | cancel => rfl

theorem keyed_initial (orders : Heap) : (initial orders).Keyed := by
  intro symbol
  simpa [initial, newMatchingEngine, MatchingEngine.getOrderBook] using
    OrderBook.keyed_newOrderBook symbol

theorem books_initial (orders : Heap) :
    (initial orders).books = Books.initial orders := by
  rw [books, Books.initial]
  congr 1
  funext symbol side
  simpa [initial, newMatchingEngine, MatchingEngine.getOrderBook] using
    OrderBook.half_newOrderBook symbol side

theorem Keyed.run (keyed : s.Keyed) (calls : List Call) :
    (LabelledRun.run State.next s calls).Keyed :=
  LabelledRun.run_invariant_of_every
    (fun _ call keyed => keyed.next call) calls keyed

/-- The refinement of runs: the engine and its books stay in step. -/
theorem run_books (keyed : s.Keyed) (calls : List Call) :
    (LabelledRun.run State.next s calls).books =
      LabelledRun.run Books.next s.books calls := by
  induction calls generalizing s with
  | nil => rfl
  | cons call rest inductionHypothesis =>
      rw [LabelledRun.run_cons, LabelledRun.run_cons,
        inductionHypothesis (keyed.next call), books_next keyed]

theorem keyed_run (orders : Heap) (calls : List Call) :
    (LabelledRun.run next (initial orders) calls).Keyed :=
  (keyed_initial orders).run calls

theorem books_run (orders : Heap) (calls : List Call) :
    (LabelledRun.run next (initial orders) calls).books =
      LabelledRun.run Books.next (Books.initial orders) calls := by
  rw [run_books (keyed_initial orders), books_initial]

end State

end AeroRisk.Orderbook
