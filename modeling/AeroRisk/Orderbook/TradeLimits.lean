import AeroRisk.Orderbook.Sessions

/-!
# No trade through a limit

A trade joins an incoming order with the front of an opposite queue.  Soundness
puts that front at its own place, so its price is the price of the level which
the loop tested against the limit of the incoming order.
-/

namespace AeroRisk.Orderbook

open AeroRisk.Financial
open AeroRisk.Library

/-- The trades of a submission are those with its counterparty. -/
theorem Books.mem_trades_submit (books : Books) (order : OrderPtr)
    (trade : Trade) :
    trade ∈ books.trades (.submit order) ↔
      ∃ resting,
        books.counterparty order = some resting ∧
          trade = tradeOf books.heap order resting := by
  rw [Books.trades]
  cases books.counterparty order with
  | none => simp
  | some resting => simp

/-- A trade of two orders which keeps to both of their limits. -/
structure WithinLimits (orders : Heap) (buyer seller resting : OrderPtr)
    (trade : Trade) : Prop where
  quantity_pos : 0 < trade.quantity
  buyer_id : trade.buyerID = (orders buyer).id
  buyer_side : (orders buyer).side = .buy
  seller_id : trade.sellerID = (orders seller).id
  seller_side : (orders seller).side = .sell
  same_symbol : (orders buyer).symbol = (orders seller).symbol
  resting_price : trade.price = (orders resting).price
  buyer_limit : trade.price ≤ (orders buyer).price
  seller_limit : (orders seller).price ≤ trade.price

namespace Books.Sound

variable
    {orders : Heap} {seen : List OrderPtr} {books : Books}
    {order resting : OrderPtr}

/-- The front met by an order rests on the other side, at a crossing price. -/
theorem counterparty_place (sound : Sound orders seen books)
    (found : books.counterparty order = some resting) :
    (orders resting).symbol = (orders order).symbol ∧
      (orders resting).side.bookSide =
        (orders order).side.bookSide.opposite ∧
      (orders order).side.bookSide.opposite.Crosses
        (orders resting).price (orders order).price := by
  have atFront := sound.placed _ _ (mem_of_counterparty found)
  obtain ⟨crosses, -⟩ := counterparty_spec found
  rw [← atFront, sound.price_eq] at crosses
  rw [frontPlace, sound.symbol_eq, sound.side_eq] at atFront
  have sameSide :
      (orders resting).side.bookSide =
        (orders order).side.bookSide.opposite :=
    congrArg Place.side atFront
  exact ⟨congrArg Place.symbol atFront, sameSide, sameSide ▸ crosses⟩

theorem withinLimits (sound : Sound orders seen books)
    (orderSide : (orders order).side = .buy ∨ (orders order).side = .sell)
    (restingSide :
      (orders resting).side = .buy ∨ (orders resting).side = .sell)
    (found : books.counterparty order = some resting) :
    ∃ buyer seller,
      (buyer = order ∧ seller = resting ∨
        buyer = resting ∧ seller = order) ∧
        WithinLimits orders buyer seller resting
          (tradeOf books.heap order resting) := by
  obtain ⟨sameSymbol, opposite, crosses⟩ := sound.counterparty_place found
  obtain ⟨orderPos, restingPos⟩ := sound.counterparty_pos found
  have traded := tradedQuantity_pos books.heap orderPos restingPos
  rcases orderSide with buys | sells
  · have sells : (orders resting).side = .sell := by
      rcases restingSide with buysToo | sells
      · simp [buys, buysToo, Side.bookSide, BookSide.opposite] at opposite
      · exact sells
    rw [buys] at crosses
    refine ⟨order, resting, Or.inl ⟨rfl, rfl⟩, ?_⟩
    exact
      { quantity_pos := traded
        buyer_id := by simp [tradeOf, sound.side_eq, buys, sound.id_eq]
        buyer_side := buys
        seller_id := by simp [tradeOf, sound.side_eq, buys, sound.id_eq]
        seller_side := sells
        same_symbol := sameSymbol.symm
        resting_price := sound.price_eq resting
        buyer_limit := by rwa [tradeOf_price, sound.price_eq]
        seller_limit := by
          rw [tradeOf_price, sound.price_eq]
          exact Int64.le_refl _ }
  · have buys : (orders resting).side = .buy := by
      rcases restingSide with buys | sellsToo
      · exact buys
      · simp [sells, sellsToo, Side.bookSide, BookSide.opposite] at opposite
    rw [sells] at crosses
    refine ⟨resting, order, Or.inr ⟨rfl, rfl⟩, ?_⟩
    exact
      { quantity_pos := traded
        buyer_id := by simp [tradeOf, sound.side_eq, sells, sound.id_eq]
        buyer_side := buys
        seller_id := by simp [tradeOf, sound.side_eq, sells, sound.id_eq]
        seller_side := sells
        same_symbol := sameSymbol
        resting_price := sound.price_eq resting
        buyer_limit := by
          rw [tradeOf_price, sound.price_eq]
          exact Int64.le_refl _
        seller_limit := by rwa [tradeOf_price, sound.price_eq] }

end Books.Sound

namespace Session

/-- Every trade of a session is returned by the submission of some order. -/
theorem mem_allTrades_iff (session : Session) (trade : Trade) :
    trade ∈ session.allTrades ↔
      ∃ earlier incoming later,
        session.calls = earlier ++ .submit incoming :: later ∧
          trade ∈
            (LabelledRun.run State.next (State.initial session.orders)
              earlier).trades (.submit incoming) := by
  rw [allTrades, List.mem_flatten]
  constructor
  · rintro ⟨returned, isOutput, member⟩
    obtain ⟨earlier, call, later, split, rfl⟩ :=
      (LabelledRun.mem_outputs_iff _ _ _ _ _).mp isOutput
    cases call with
    | submit incoming => exact ⟨earlier, incoming, later, split, member⟩
    | cancel => simp [State.trades] at member
  · rintro ⟨earlier, incoming, later, split, member⟩
    exact
      ⟨_, (LabelledRun.mem_outputs_iff _ _ _ _ _).mpr
        ⟨earlier, .submit incoming, later, split, rfl⟩, member⟩

/--
Every trade ever returned joins an incoming order with an order which rested
when the call was made, and keeps to the limits of both.
-/
theorem trade_within_limits (session : Session)
    (sided :
      ∀ order ∈ submitted session.calls,
        (session.orders order).side = .buy ∨
          (session.orders order).side = .sell)
    (trade : Trade) (returned : trade ∈ session.allTrades) :
    ∃ earlier incoming later resting place buyer seller,
      session.calls = earlier ++ .submit incoming :: later ∧
      resting ∈ submitted earlier ∧
      resting ∈
        (LabelledRun.run State.next (State.initial session.orders)
          earlier).queue place ∧
      (buyer = incoming ∧ seller = resting ∨
        buyer = resting ∧ seller = incoming) ∧
      WithinLimits session.orders buyer seller resting trade := by
  obtain ⟨earlier, incoming, later, split, member⟩ :=
    (mem_allTrades_iff session trade).mp returned
  let before := session.upTo earlier ⟨_, split.symm⟩
  replace member : trade ∈ before.state.trades (.submit incoming) := member
  rw [State.trades_eq before.keyed, Books.mem_trades_submit] at member
  obtain ⟨resting, found, rfl⟩ := member
  have rests := Books.mem_of_counterparty found
  have restingSeen : resting ∈ submitted earlier :=
    before.sound.queuedSeen _ _ rests
  have incomingSided := sided incoming (by simp [split])
  have restingSided := sided resting (by simp [split, restingSeen])
  obtain ⟨buyer, seller, which, within⟩ :=
    before.sound.withinLimits incomingSided restingSided found
  exact
    ⟨earlier, incoming, later, resting, _, buyer, seller, split,
      restingSeen, rests, which, within⟩

/-- Two asks at different prices and a bid which trades with the lower one. -/
def sampleOrders : Heap
  | 0 => newOrder 1 "AAPL" .sell 10 5
  | 1 => newOrder 2 "AAPL" .sell 9 2
  | 2 => newOrder 3 "AAPL" .buy 10 4
  | 3 => newOrder 4 "AAPL" .sell 12 1
  | _ => newOrder 5 "AAPL" .sell 10 1

/-- The two asks are submitted and then the bid. -/
def sampleSession : Session where
  orders := sampleOrders
  calls := [.submit 0, .submit 1, .submit 2]
  distinctIDs := by decide

/-- The part of the sample session before the bid. -/
def twoAsks : Session :=
  sampleSession.upTo [.submit 0, .submit 1] ⟨[.submit 2], rfl⟩

theorem trade_within_limits_sample :
    ∃ earlier incoming later resting place buyer seller,
      sampleSession.calls = earlier ++ .submit incoming :: later ∧
      resting ∈ submitted earlier ∧
      resting ∈
        (LabelledRun.run State.next (State.initial sampleSession.orders)
          earlier).queue place ∧
      (buyer = incoming ∧ seller = resting ∨
        buyer = resting ∧ seller = incoming) ∧
      WithinLimits sampleSession.orders buyer seller resting
        { price := 9, quantity := 2, buyerID := 3, sellerID := 2 } :=
  trade_within_limits sampleSession (by decide) _ (by decide)

end Session

end AeroRisk.Orderbook
