import AeroRisk.Orderbook.LevelAggregates

/-!
# The queues of the best levels

Levels which a trade empties stay in their maps.  The cached best price never
leads to one of them: a trade resets the cache, and it is set again only to
the price of an order which has just been queued.  A cancel deletes the level
it empties, so that a stale cache leads to no level.
-/

namespace AeroRisk.Orderbook

open AeroRisk.Financial
open AeroRisk.Library

/-- A level which the book shows as its best has an order in its queue. -/
def OrderBook.BestQueued (ob : OrderBook) : Prop :=
  ∀ side level, ob.bestLevel side = some level → level.orders ≠ []

namespace OrderBook.BestQueued

variable {ob : OrderBook} {side : BookSide} {level : Level}

theorem newOrderBook (symbol : Symbol) :
    (newOrderBook symbol).BestQueued := by
  intro side level found
  cases side <;> cases found

/-- The level under a price which is not marked as unknown is the best. -/
theorem of_lookup (queued : ob.BestQueued) (known : ob.best side ≠ -1)
    (stored : (ob.levels side).lookup (ob.best side) = some level) :
    level.orders ≠ [] := by
  apply queued side level
  rw [bestLevel_eq, if_neg known]
  exact stored

/-- What a best level is when it exists. -/
theorem lookup_of_bestLevel (found : ob.bestLevel side = some level) :
    ob.best side ≠ -1 ∧
      (ob.levels side).lookup (ob.best side) = some level := by
  rw [bestLevel_eq] at found
  split at found
  · cases found
  · exact ⟨by assumption, found⟩

theorem orders_addOrder (heap : Heap) (level : Level) (order : OrderPtr) :
    (level.addOrder heap order).orders ≠ [] := by
  simp [Level.addOrder]

/-- The cached price moves to the level which got the order, or not at all. -/
theorem addOrder (queued : ob.BestQueued) (heap : Heap) (order : OrderPtr) :
    (ob.addOrder heap order).BestQueued := by
  intro side level found
  rcases lookup_of_bestLevel found with ⟨known, stored⟩
  rw [best_addOrder] at known stored
  rw [levels_addOrder] at stored
  by_cases ownSide : side = (heap order).side.bookSide
  · rw [if_pos ownSide] at known stored
    rw [if_pos ownSide, Levels.addOrder] at stored
    by_cases improves : side.Improves (ob.best side) (heap order).price
    · rw [if_pos improves, Finmap.lookup_insert] at stored
      cases stored
      exact orders_addOrder heap _ order
    · rw [if_neg improves] at known stored
      by_cases samePrice : ob.best side = (heap order).price
      · rw [samePrice, Finmap.lookup_insert] at stored
        cases stored
        exact orders_addOrder heap _ order
      · rw [Finmap.lookup_insert_of_ne _ samePrice] at stored
        exact queued.of_lookup known stored
  · rw [if_neg ownSide] at known stored
    rw [if_neg ownSide] at stored
    exact queued.of_lookup known stored

/-- A level which a cancel leaves in its map is not empty, if it changed. -/
theorem lookup_cancelOrder {heap : Heap} {levels : Levels}
    {orderID : UInt64} {price other : Price}
    (stored :
      (levels.cancelOrder heap orderID price).lookup other = some level) :
    levels.lookup other = some level ∨ level.orders ≠ [] := by
  rw [Levels.cancelOrder] at stored
  split at stored
  · exact .inl stored
  · dsimp only at stored
    split at stored
    · by_cases samePrice : other = price
      · rw [samePrice, Finmap.lookup_erase] at stored
        cases stored
      · rw [Finmap.lookup_erase_ne samePrice] at stored
        exact .inl stored
    · next remains =>
        by_cases samePrice : other = price
        · rw [samePrice, Finmap.lookup_insert] at stored
          cases stored
          exact .inr (mt List.length_eq_zero_iff.mpr remains)
        · rw [Finmap.lookup_insert_of_ne _ samePrice] at stored
          exact .inl stored

theorem cancelOrder (queued : ob.BestQueued) (heap : Heap)
    (orderID : UInt64) (side : Side) (price : Price) :
    (ob.cancelOrder heap orderID side price).BestQueued := by
  intro half level found
  rcases lookup_of_bestLevel found with ⟨known, stored⟩
  have changed :
      ob.best half ≠ -1 ∧
        ((ob.levels half).lookup (ob.best half) = some level ∨
          level.orders ≠ []) := by
    cases half <;> cases side
    case bid.buy => exact ⟨known, lookup_cancelOrder stored⟩
    case ask.unknown => exact ⟨known, lookup_cancelOrder stored⟩
    case ask.sell => exact ⟨known, lookup_cancelOrder stored⟩
    all_goals exact ⟨known, .inl stored⟩
  rcases changed.2 with before | remains
  · exact queued.of_lookup changed.1 before
  · exact remains

/-- A trade leaves no best level on the side where it took place. -/
theorem bestLevel_storeTraded (ob : OrderBook) (level : Level)
    (side : BookSide) : (ob.storeTraded level side).bestLevel side = none := by
  cases side <;> rfl

theorem storeTraded (queued : ob.BestQueued) (level : Level)
    (side : BookSide) : (ob.storeTraded level side).BestQueued := by
  intro other shown found
  by_cases sameSide : other = side
  · rw [sameSide, bestLevel_storeTraded] at found
    cases found
  · apply queued other shown
    cases side <;> cases other
    case bid.bid => exact absurd rfl sameSide
    case ask.ask => exact absurd rfl sameSide
    all_goals exact found

end OrderBook.BestQueued

/-- An iteration trades with the first order of the best level. -/
theorem exists_traded_of_matchBody {order : OrderPtr} {m after : Matching}
    (keyed : m.book.Keyed)
    (step : matchBody (m.heap order).side order m = some after) :
    ∃ resting best others,
      m.book.bestLevel (m.heap order).side.bookSide.opposite = some best ∧
        best.orders = resting :: others ∧
          0 < (m.heap order).quantity ∧
            after = m.traded order resting best := by
  cases found : m.counterparty order with
  | none =>
      rw [matchBody_none keyed found] at step
      cases step
  | some resting =>
      obtain ⟨best, others, level, queue, crosses, remains⟩ :=
        bestLevel_of_counterparty keyed found
      rw [matchBody_eq_traded level queue crosses remains] at step
      cases step
      exact ⟨resting, best, others, level, queue, remains, rfl⟩

namespace State

variable {s : State}

/-- The best levels of all books have orders in their queues. -/
def BestQueued (s : State) : Prop :=
  ∀ symbol, (s.engine.getOrderBook symbol).BestQueued

theorem bestQueued_initial (orders : Heap) : (initial orders).BestQueued := by
  intro symbol
  simpa [initial, newMatchingEngine, MatchingEngine.getOrderBook] using
    OrderBook.BestQueued.newOrderBook symbol

theorem BestQueued.insert (queued : s.BestQueued) {heap : Heap}
    (symbol : Symbol) {book : OrderBook} (bookQueued : book.BestQueued)
    (tradeChan : List Trade) :
    State.BestQueued
      { heap
        engine :=
          { orderBooks := s.engine.orderBooks.insert symbol book
            tradeChan } } := by
  intro other
  rw [getOrderBook_insert]
  by_cases same : other = symbol
  · rw [same, Function.update_self]
    exact bookQueued
  · rw [Function.update_of_ne same]
    exact queued other

theorem BestQueued.matchLoop (queued : s.BestQueued) (keyed : s.Keyed)
    (order : OrderPtr) :
    (matchLoop order (startMatching s order)).book.BestQueued := by
  have before : (startMatching s order).book.BestQueued := queued _
  cases step :
      matchBody ((startMatching s order).heap order).side order
        (startMatching s order) with
  | none =>
      rw [Orderbook.matchLoop, BoundedLoop.iterate_of_none step]
      exact before
  | some after =>
      rw [matchLoop_of_step step]
      rcases exists_traded_of_matchBody (keyed.startMatching order) step with
        ⟨resting, best, others, -, -, -, rfl⟩
      exact before.storeTraded _ _

theorem BestQueued.next (queued : s.BestQueued) (keyed : s.Keyed)
    (call : Call) : (s.next call).BestQueued := by
  cases call with
  | submit order =>
      have loopQueued := queued.matchLoop keyed order
      apply queued.insert
      rw [matchOrder, restOrder]
      split
      · exact loopQueued.addOrder _ order
      · exact loopQueued
  | cancel symbol orderID side price =>
      exact queued.insert symbol ((queued symbol).cancelOrder _ _ _ _) _

/-- In every run the best levels have orders in their queues. -/
theorem bestQueued_run (orders : Heap) (calls : List Call) :
    (LabelledRun.run next (initial orders) calls).BestQueued := by
  have both :
      (LabelledRun.run next (initial orders) calls).BestQueued ∧
        (LabelledRun.run next (initial orders) calls).Keyed :=
    LabelledRun.run_invariant_of_every
      (fun (s : State) call (invariant : s.BestQueued ∧ s.Keyed) =>
        ⟨invariant.1.next invariant.2 call, invariant.2.next call⟩)
      calls ⟨bestQueued_initial orders, keyed_initial orders⟩
  exact both.1

end State

/-! ## What the loop finds -/

/-- A level in which matching finds orders, all open and at its price. -/
structure Level.Matchable (heap : Heap) (level : Level) : Prop where
  queued : level.orders ≠ []
  positive : ∀ order ∈ level.orders, 0 < (heap order).quantity
  samePrice : ∀ order ∈ level.orders, (heap order).price = level.price

namespace Session

variable (session : Session)

/-- The best levels of a session are matchable. -/
theorem matchable {symbol : Symbol} {side : BookSide} {level : Level}
    (found :
      (session.state.engine.getOrderBook symbol).bestLevel side =
        some level) :
    level.Matchable session.state.heap := by
  have sound := session.sound
  obtain ⟨-, price, queue⟩ :=
    OrderBook.front_of_bestLevel_some (session.keyed symbol) found
  have member :
      ∀ order ∈ level.orders,
        order ∈ session.state.books.queue ⟨symbol, side, level.price⟩ := by
    intro order isQueued
    rw [← queue, ← price] at isQueued
    exact isQueued
  constructor
  case queued =>
    exact State.bestQueued_run session.orders session.calls symbol side level
      found
  case positive =>
    intro order isQueued
    exact sound.positive _ order (member order isQueued)
  case samePrice =>
    intro order isQueued
    have placed := sound.placed _ order (member order isQueued)
    rw [← sound.toAnchored.place_eq] at placed
    exact congrArg Place.price placed

/-- The loop of a submission finds matchable levels only. -/
theorem matchable_of_passes {order : OrderPtr} {m : Matching}
    (passes :
      BoundedLoop.Passes (matchBody (session.state.heap order).side order)
        (startMatching session.state order) m)
    {level : Level}
    (found :
      m.book.bestLevel (session.state.heap order).side.bookSide.opposite =
        some level) :
    level.Matchable m.heap := by
  rcases Relation.ReflTransGen.cases_tail passes with
    isStart | ⟨earlier, reached, step⟩
  · subst isStart
    exact session.matchable found
  · -- the one iteration before has reset the cached price
    have isStart :=
      BoundedLoop.passes_of_stops_after_one
        (fun _ _ step => matchBody_stops step) reached step
    subst isStart
    rcases exists_traded_of_matchBody (session.keyed.startMatching order)
        step with
      ⟨resting, best, others, -, -, -, rfl⟩
    have none := OrderBook.BestQueued.bestLevel_storeTraded
      (startMatching session.state order).book
      (best.afterTrade
        (Books.heapAfter session.state.heap order resting))
      (session.state.heap order).side.bookSide.opposite
    rw [Matching.traded] at found
    exact absurd (none.symm.trans found) (Option.some_ne_none _).symm

/-- What an iteration trades is positive. -/
theorem exists_trade_of_passes {order : OrderPtr} {m after : Matching}
    (passes :
      BoundedLoop.Passes (matchBody (session.state.heap order).side order)
        (startMatching session.state order) m)
    (step : matchBody (session.state.heap order).side order m = some after) :
    ∃ trade,
      after.trades = m.trades ++ [trade] ∧ 0 < trade.quantity := by
  have isStart :=
    BoundedLoop.passes_of_stops_after_one
      (fun _ _ step => matchBody_stops step) passes step
  subst isStart
  rcases exists_traded_of_matchBody (session.keyed.startMatching order)
      step with
    ⟨resting, best, others, found, queue, remains, rfl⟩
  have restingPos :=
    (session.matchable found).positive resting (by simp [queue])
  refine ⟨_, rfl, ?_⟩
  rw [Books.tradeOf_quantity]
  exact Books.tradedQuantity_pos _ remains restingPos

/--
A best level of a session has orders in its queue, all with a quantity left
and at the price of the level.  The loop which a submission runs then finds an
order at every level it reads, trades a positive quantity in every iteration,
and ends because its body does.  The send of a trade is taken to return, which
`feed_delivers` and `feed_without_reader` are about.
-/
theorem best_levels_matchable (session : Session) :
    (∀ symbol side level,
        (session.state.engine.getOrderBook symbol).bestLevel side =
            some level →
          level.Matchable session.state.heap) ∧
      ∀ order,
        (∀ m,
            BoundedLoop.Passes
                (matchBody (session.state.heap order).side order)
                (startMatching session.state order) m →
              (∀ level,
                m.book.bestLevel
                      (session.state.heap order).side.bookSide.opposite =
                    some level →
                  level.Matchable m.heap) ∧
                ∀ after,
                  matchBody (session.state.heap order).side order m =
                      some after →
                    ∃ trade,
                      after.trades = m.trades ++ [trade] ∧
                        0 < trade.quantity) ∧
          matchBody (session.state.heap order).side order
              (matchLoop order (startMatching session.state order)) =
            none := by
  refine ⟨fun symbol side level => session.matchable, fun order => ⟨?_, ?_⟩⟩
  · intro m passes
    exact
      ⟨fun level => session.matchable_of_passes passes,
        fun after => session.exists_trade_of_passes passes⟩
  · exact matchLoop_halts order (startMatching session.state order)

end Session

end AeroRisk.Orderbook
