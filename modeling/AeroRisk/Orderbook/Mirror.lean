import AeroRisk.Orderbook.Sessions

/-!
# Buying and selling mirror each other

Mirroring at a price `K` exchanges the sides and reflects every price `p` to
`K - p`.  Below `K` the reflection turns the order of the prices around, so a
mirrored engine does what the engine does, on the other side.
-/

namespace AeroRisk.Orderbook

open AeroRisk.Financial
open AeroRisk.Library

/-! ## Reflected prices -/

/-- A price strictly between zero and `K`. -/
def Within (K price : Price) : Prop :=
  0 < price ∧ price < K

instance (K price : Price) : Decidable (Within K price) :=
  inferInstanceAs (Decidable (0 < price ∧ price < K))

section Prices

variable {K price other : Price}

theorem reflect_reflect (K price : Price) : K - (K - price) = price := by
  rw [Int64.sub_eq_add_neg, Int64.neg_sub, Int64.add_comm,
    Int64.sub_add_cancel]

/-- A reflected price does not wrap around. -/
theorem Within.toInt_reflect (within : Within K price) :
    (K - price).toInt = K.toInt - price.toInt :=
  toInt_sub_of_le (Int64.le_of_lt within.1) (Int64.le_of_lt within.2)

theorem Within.reflect (within : Within K price) : Within K (K - price) := by
  have positive := Int64.lt_iff_toInt_lt.mp within.1
  have below := Int64.lt_iff_toInt_lt.mp within.2
  rw [Int64.toInt_zero] at positive
  constructor
  · rw [Int64.lt_iff_toInt_lt, within.toInt_reflect, Int64.toInt_zero]
    omega
  · rw [Int64.lt_iff_toInt_lt, within.toInt_reflect]
    omega

/-- A reflection turns the order of prices around. -/
theorem Within.reflect_lt (within : Within K price)
    (otherWithin : Within K other) :
    K - price < K - other ↔ other < price := by
  rw [Int64.lt_iff_toInt_lt, Int64.lt_iff_toInt_lt, within.toInt_reflect,
    otherWithin.toInt_reflect]
  omega

theorem Within.reflect_le (within : Within K price)
    (otherWithin : Within K other) :
    K - price ≤ K - other ↔ other ≤ price := by
  rw [Int64.le_iff_toInt_le, Int64.le_iff_toInt_le, within.toInt_reflect,
    otherWithin.toInt_reflect]
  omega

theorem Within.ne_unset (within : Within K price) : price ≠ -1 := by
  rintro rfl
  exact absurd within.1 (by decide)

theorem Within.unset_lt (within : Within K price) : -1 < price :=
  Int64.lt_trans (by decide) within.1

end Prices

/-! ## Mirrored objects -/

/-- The other side; every side but `SideBuy` counts as selling. -/
def Side.mirror : Side → Side
  | .buy => .sell
  | .sell => .buy
  | .unknown => .buy

/-- The order on the other side at the reflected price. -/
def Order.mirror (K : Price) (order : Order) : Order :=
  { order with side := order.side.mirror, price := K - order.price }

/-- All orders mirrored. -/
def Heap.mirror (K : Price) (heap : Heap) : Heap :=
  fun order => (heap order).mirror K

/-- The trade with the parties exchanged, at the reflected price. -/
def Trade.mirror (K : Price) (trade : Trade) : Trade where
  price := K - trade.price
  quantity := trade.quantity
  buyerID := trade.sellerID
  sellerID := trade.buyerID

/-- The call for the other side at the reflected price. -/
def Call.mirror (K : Price) : Call → Call
  | .submit order => .submit order
  | .cancel symbol orderID side price =>
      .cancel symbol orderID side.mirror (K - price)

/-- The price of the order which is submitted or cancelled. -/
def Call.price (orders : Heap) : Call → Price
  | .submit order => (orders order).price
  | .cancel _ _ _ price => price

/-- A cached best price mirrored; `-1` stays what it is. -/
def mirrorBest (K best : Int64) : Int64 :=
  if best = -1 then -1 else K - best

/-- The queues at the reflected prices. -/
def Half.mirror (K : Price) (half : Half) : Half where
  queue := fun price => half.queue (K - price)
  best := mirrorBest K half.best

/-- The halves of every book exchanged and mirrored. -/
def Books.mirror (K : Price) (books : Books) : Books where
  heap := books.heap.mirror K
  half := fun symbol side => (books.half symbol side.opposite).mirror K

@[simp]
theorem Side.bookSide_mirror (side : Side) :
    side.mirror.bookSide = side.bookSide.opposite := by
  cases side <;> rfl

theorem Side.mirror_eq_buy (side : Side) :
    side.mirror = .buy ↔ side ≠ .buy := by
  cases side <;> simp [mirror]

namespace Half

variable {K : Price} {half : Half}

/-- A cached best price is unset or within the range. -/
def CachedWithin (K : Price) (half : Half) : Prop :=
  half.best = -1 ∨ Within K half.best

theorem CachedWithin.front_mirror (cached : half.CachedWithin K) :
    (half.mirror K).front = half.front := by
  rcases cached with unset | within
  · simp [front, mirror, mirrorBest, unset]
  · simp [front, mirror, mirrorBest, within.ne_unset,
      within.reflect.ne_unset, reflect_reflect]

/-- A cached best price which is set is tested as the mirrored one is. -/
theorem crosses_mirror {price limit : Price} (side : BookSide)
    (within : Within K price) (limitWithin : Within K limit) :
    side.opposite.Crosses (K - price) (K - limit) ↔
      side.Crosses price limit := by
  cases side with
  | bid => exact within.reflect_le limitWithin
  | ask => exact limitWithin.reflect_le within

theorem CachedWithin.improves_mirror (cached : half.CachedWithin K)
    {price : Price} (side : BookSide) (within : Within K price) :
    side.opposite.Improves (half.mirror K).best (K - price) ↔
      side.Improves half.best price := by
  rcases cached with unset | cachedWithin
  · cases side <;>
      simp [BookSide.opposite, BookSide.Improves, mirror, mirrorBest, unset,
        within.unset_lt, within.reflect.unset_lt]
  · cases side with
    | bid =>
        simpa [BookSide.opposite, BookSide.Improves, mirror, mirrorBest,
          cachedWithin.ne_unset, cachedWithin.reflect.ne_unset]
          using within.reflect_lt cachedWithin
    | ask =>
        simpa [BookSide.opposite, BookSide.Improves, mirror, mirrorBest,
          cachedWithin.ne_unset, cachedWithin.reflect.ne_unset]
          using cachedWithin.reflect_lt within

/-- Queues which are updated at a price, seen at the reflected prices. -/
theorem update_reflect {Queue : Type} (queue : Int64 → Queue)
    (price : Price) (updated : Queue) :
    (fun other => Function.update queue price updated (K - other)) =
      Function.update (fun other => queue (K - other)) (K - price) updated := by
  funext other
  by_cases here : other = K - price
  · subst here
    simp [reflect_reflect]
  · have there : K - other ≠ price := by
      rintro rfl
      exact here (reflect_reflect K other).symm
    rw [Function.update_of_ne here, Function.update_of_ne there]

theorem mirror_rest (side : BookSide) (price : Price) (order : OrderPtr)
    (cached : half.CachedWithin K) (within : Within K price) :
    (half.rest side price order).mirror K =
      (half.mirror K).rest side.opposite (K - price) order := by
  have improves := cached.improves_mirror side within
  rw [rest, mirror, rest]
  congr 1
  · rw [update_reflect]
    simp only [mirror, reflect_reflect]
  · by_cases better : side.Improves half.best price
    · rw [if_pos better, if_pos (improves.mpr better), mirrorBest,
        if_neg within.ne_unset]
    · rw [if_neg better, if_neg (mt improves.mp better)]
      rfl

theorem mirror_trade (filled : Prop) [Decidable filled]
    (cached : half.CachedWithin K) (set : half.best ≠ -1) :
    (half.trade filled).mirror K = (half.mirror K).trade filled := by
  rcases cached with unset | within
  · exact absurd unset set
  · have sameBest : (half.mirror K).best = K - half.best := by
      simp [mirror, mirrorBest, set]
    rw [trade, trade, sameBest, mirror]
    congr 1
    split
    · rw [update_reflect]
      simp only [mirror, reflect_reflect]
    · rfl

theorem mirror_withdraw (heap : Heap) (orderID : UInt64) (price : Price) :
    (half.withdraw heap orderID price).mirror K =
      (half.mirror K).withdraw (heap.mirror K) orderID (K - price) := by
  rw [withdraw, mirror, withdraw]
  congr 1
  rw [update_reflect]
  simp only [mirror, reflect_reflect, Heap.mirror, Order.mirror]

theorem cachedWithin_rest (side : BookSide) {price : Price}
    (order : OrderPtr) (cached : half.CachedWithin K)
    (within : Within K price) :
    (half.rest side price order).CachedWithin K := by
  rw [CachedWithin, rest]
  split
  · exact Or.inr within
  · exact cached

end Half

/-! ## Mirrored trades -/

theorem Heap.mirror_setQuantity (K : Price) (heap : Heap) (order : OrderPtr)
    (quantity : Quantity) :
    (heap.setQuantity order quantity).mirror K =
      (heap.mirror K).setQuantity order quantity := by
  funext other
  by_cases isOrder : other = order
  · subst isOrder
    simp [mirror, setQuantity, Order.mirror]
  · simp [mirror, isOrder]

namespace Books

variable
    {K : Price} {orders : Heap} {books : Books} {order resting : OrderPtr}

theorem mirror_heapAfter (K : Price) (heap : Heap)
    (order resting : OrderPtr) :
    (heapAfter heap order resting).mirror K =
      heapAfter (heap.mirror K) order resting := by
  rw [heapAfter, heapAfter, Heap.mirror_setQuantity,
    Heap.mirror_setQuantity]
  congr 1
  by_cases same : resting = order
  · subst same
    simp [tradedQuantity, Heap.mirror, Order.mirror]
  · simp [tradedQuantity, Heap.mirror, Order.mirror, same]

theorem mirror_tradeOf (K : Price) (heap : Heap) (order resting : OrderPtr) :
    (tradeOf heap order resting).mirror K =
      tradeOf (heap.mirror K) order resting := by
  simp only [tradeOf, Trade.mirror, tradedQuantity, Heap.mirror,
    Order.mirror, Side.mirror_eq_buy, ne_eq, ite_not]

theorem oppositeHalf_mirror (K : Price) (books : Books) (order : OrderPtr) :
    (books.mirror K).oppositeHalf order =
      (books.oppositeHalf order).mirror K := by
  simp [oppositeHalf, mirror, Heap.mirror, Order.mirror]

theorem ownHalf_mirror (K : Price) (books : Books) (order : OrderPtr) :
    (books.mirror K).ownHalf order = (books.ownHalf order).mirror K := by
  simp [ownHalf, mirror, Heap.mirror, Order.mirror]

theorem mirror_setHalf (K : Price) (books : Books) (symbol : Symbol)
    (side : BookSide) (half : Half) :
    (books.setHalf symbol side half).mirror K =
      (books.mirror K).setHalf symbol side.opposite (half.mirror K) := by
  apply ext_half
  · rfl
  · intro other otherSide
    have sameSide : otherSide.opposite = side ↔ otherSide = side.opposite := by
      cases side <;> cases otherSide <;> simp [BookSide.opposite]
    rw [half_setHalf, mirror]
    simp only [half_setHalf, sameSide]
    split <;> rfl

/-- Every cached best price is unset or within the range. -/
def CachedWithin (K : Price) (books : Books) : Prop :=
  ∀ symbol side, (books.half symbol side).CachedWithin K

/-- Mirrored orders meet each other. -/
theorem CachedWithin.counterparty_mirror (cached : books.CachedWithin K)
    (within : Within K (books.heap order).price) :
    (books.mirror K).counterparty order = books.counterparty order := by
  have cachedOpposite : (books.oppositeHalf order).CachedWithin K :=
    cached _ _
  rw [counterparty, counterparty, oppositeHalf_mirror,
    cachedOpposite.front_mirror]
  rcases cachedOpposite with unset | bestWithin
  · simp [Half.front, unset]
  · have crosses :=
      Half.crosses_mirror (books.heap order).side.bookSide.opposite
        bestWithin within
    simp only [mirror, Heap.mirror, Order.mirror, Half.mirror, mirrorBest,
      bestWithin.ne_unset, if_false, Side.bookSide_mirror, crosses]

/-- Mirrored books trade at the mirrored place. -/
theorem CachedWithin.mirror_execute (cached : books.CachedWithin K)
    (set : (books.oppositeHalf order).best ≠ -1) :
    (books.execute order resting).mirror K =
      (books.mirror K).execute order resting := by
  apply ext_half
  · exact mirror_heapAfter K books.heap order resting
  · intro symbol side
    have cachedOpposite : (books.oppositeHalf order).CachedWithin K :=
      cached _ _
    have sameSide :
        side.opposite = (books.heap order).side.bookSide.opposite ↔
          side = ((books.mirror K).heap order).side.bookSide.opposite := by
      simp only [mirror, Heap.mirror, Order.mirror, Side.bookSide_mirror,
        BookSide.opposite_opposite]
      cases side <;> cases (books.heap order).side.bookSide <;>
        simp [BookSide.opposite]
    have sameSymbol :
        ((books.mirror K).heap order).symbol = (books.heap order).symbol :=
      rfl
    have sameFilled :
        (heapAfter (books.mirror K).heap order resting resting).quantity =
          (heapAfter books.heap order resting resting).quantity := by
      have sameHeap : (books.mirror K).heap = books.heap.mirror K := rfl
      rw [sameHeap, ← mirror_heapAfter]
      rfl
    rw [half_execute, mirror]
    simp only [half_execute, sameSide]
    split
    · next here =>
        rw [sameSymbol, if_pos here, oppositeHalf_mirror,
          Half.mirror_trade _ cachedOpposite set]
        simp only [sameFilled]
    · next elsewhere =>
        rw [sameSymbol, if_neg elsewhere]
        rfl

theorem CachedWithin.mirror_matched (cached : books.CachedWithin K)
    (within : Within K (books.heap order).price) :
    (books.matched order).mirror K = (books.mirror K).matched order := by
  rw [matched, matched, cached.counterparty_mirror within]
  cases found : books.counterparty order with
  | none => rfl
  | some resting =>
      exact cached.mirror_execute (counterparty_spec found).2.2.1

theorem CachedWithin.mirror_rested (cached : books.CachedWithin K)
    (within : Within K (books.heap order).price) :
    (books.rested order).mirror K = (books.mirror K).rested order := by
  have sameQuantity :
      ((books.mirror K).heap order).quantity =
        (books.heap order).quantity := rfl
  rw [rested, rested, sameQuantity]
  split
  · have cachedOwn : (books.ownHalf order).CachedWithin K := cached _ _
    rw [mirror_setHalf, Half.mirror_rest _ _ _ cachedOwn within,
      ← ownHalf_mirror]
    simp only [mirror, Heap.mirror, Order.mirror, Side.bookSide_mirror]
  · rfl

/-! ## Caches stay within the range -/

theorem CachedWithin.matched (cached : books.CachedWithin K)
    (order : OrderPtr) : (books.matched order).CachedWithin K := by
  intro symbol side
  rw [Books.matched]
  cases books.counterparty order with
  | none => exact cached symbol side
  | some resting =>
      dsimp only
      rw [half_execute]
      split
      · exact Or.inl rfl
      · exact cached symbol side

theorem CachedWithin.rested (cached : books.CachedWithin K)
    (within : Within K (books.heap order).price) :
    (books.rested order).CachedWithin K := by
  intro symbol side
  rw [half_rested]
  split
  · exact Half.cachedWithin_rest _ _ (cached _ _) within
  · exact cached symbol side

theorem price_matched (books : Books) (order other : OrderPtr) :
    ((books.matched order).heap other).price = (books.heap other).price := by
  rw [matched]
  cases books.counterparty order <;> simp

theorem CachedWithin.next (cached : books.CachedWithin K) {call : Call}
    (within : Within K (call.price books.heap)) :
    (books.next call).CachedWithin K := by
  cases call with
  | submit order =>
      apply (cached.matched order).rested
      rw [price_matched]
      exact within
  | cancel symbol orderID side price =>
      intro other otherSide
      rw [half_cancel]
      split
      · exact cached symbol side.bookSide
      · exact cached other otherSide

/-- A mirrored call does what the call does. -/
theorem CachedWithin.mirror_next (cached : books.CachedWithin K)
    {call : Call} (within : Within K (call.price books.heap)) :
    (books.next call).mirror K = (books.mirror K).next (call.mirror K) := by
  cases call with
  | submit order =>
      rw [next_submit, Call.mirror, next_submit,
        ← cached.mirror_matched within]
      apply (cached.matched order).mirror_rested
      rw [price_matched]
      exact within
  | cancel symbol orderID side price =>
      rw [Books.next, mirror_setHalf, Half.mirror_withdraw, Call.mirror,
        Books.next, Side.bookSide_mirror]
      simp only [mirror, BookSide.opposite_opposite]

/-- A mirrored call returns the mirrored trades. -/
theorem CachedWithin.trades_mirror (cached : books.CachedWithin K)
    {call : Call} (within : Within K (call.price books.heap)) :
    (books.mirror K).trades (call.mirror K) =
      (books.trades call).map (Trade.mirror K) := by
  cases call with
  | submit order =>
      rw [Call.mirror, trades, trades, cached.counterparty_mirror within]
      cases books.counterparty order with
      | none => rfl
      | some resting =>
          exact congrArg (fun trade => [trade])
            (mirror_tradeOf K books.heap order resting).symm
  | cancel => rfl

theorem Anchored.price_call (anchored : Anchored orders books)
    (call : Call) : call.price books.heap = call.price orders := by
  cases call with
  | submit order => exact anchored.price_eq order
  | cancel => rfl

/-- The simulation: mirrored calls on mirrored books. -/
theorem outputs_mirror (anchored : Anchored orders books)
    (cached : books.CachedWithin K) (calls : List Call)
    (within : ∀ call ∈ calls, Within K (call.price orders)) :
    LabelledRun.outputs Books.next Books.trades (books.mirror K)
        (calls.map (Call.mirror K)) =
      (LabelledRun.outputs Books.next Books.trades books calls).map
        (List.map (Trade.mirror K)) := by
  induction calls generalizing books with
  | nil => rfl
  | cons call rest inductionHypothesis =>
      rw [List.forall_mem_cons, ← anchored.price_call] at within
      rw [List.map_cons, LabelledRun.outputs_cons, LabelledRun.outputs_cons,
        List.map_cons, cached.trades_mirror within.1,
        ← cached.mirror_next within.1]
      congr 1
      exact
        inductionHypothesis (anchored.next call) (cached.next within.1)
          within.2

end Books

/--
A run whose prices lie strictly between zero and `K` returns, mirrored, what
the mirrored run returns.
-/
theorem mirrored_trades (K : Price) (orders : Heap) (calls : List Call)
    (within : ∀ call ∈ calls, Within K (call.price orders)) :
    LabelledRun.outputs State.next State.trades
        (State.initial (orders.mirror K)) (calls.map (Call.mirror K)) =
      (LabelledRun.outputs State.next State.trades (State.initial orders)
        calls).map (List.map (Trade.mirror K)) := by
  rw [State.outputs_eq, State.outputs_eq]
  have initially : Books.initial (orders.mirror K) =
      (Books.initial orders).mirror K := by
    apply Books.ext_half
    · rfl
    · intro symbol side
      rfl
  have cached : (Books.initial orders).CachedWithin K :=
    fun _ _ => Or.inl rfl
  rw [initially]
  exact
    Books.outputs_mirror (Books.Anchored.initial orders) cached calls within

/-- A buy order, a sell order which crosses it and a cancel of the rest. -/
def crossingOrders : Heap
  | 0 => newOrder 1 "AAPL" .buy 60 5
  | _ => newOrder 2 "AAPL" .sell 40 8

/-- The calls on the two orders. -/
def crossingCalls : List Call :=
  [.submit 0, .submit 1, .cancel "AAPL" 2 .sell 40]

theorem mirrored_trades_sample :
    LabelledRun.outputs State.next State.trades
        (State.initial (crossingOrders.mirror 100))
        (crossingCalls.map (Call.mirror 100)) =
      (LabelledRun.outputs State.next State.trades
        (State.initial crossingOrders) crossingCalls).map
          (List.map (Trade.mirror 100)) :=
  mirrored_trades 100 crossingOrders crossingCalls (by decide)

end AeroRisk.Orderbook
