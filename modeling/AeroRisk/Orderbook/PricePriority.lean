import AeroRisk.Orderbook.TradeLimits

/-!
# Price priority and the cached best price

The engine trades at the cached best price of a half.  A trade resets the
cache even when orders remain on that half, and the next order to rest there
becomes the cached best price whatever rests at better prices.  Price priority
is shown for the sessions in which this never happens, and refuted in general.
-/

namespace AeroRisk.Orderbook

open AeroRisk.Financial
open AeroRisk.Library

namespace BookSide

theorem Better.trans {side : BookSide} {first second third : Int64}
    (firstBetter : side.Better first second)
    (secondBetter : side.Better second third) : side.Better first third := by
  cases side with
  | bid => exact Int64.lt_trans secondBetter firstBetter
  | ask => exact Int64.lt_trans firstBetter secondBetter

theorem Better.irrefl (side : BookSide) (price : Int64) :
    ¬ side.Better price price := by
  cases side <;> exact Int64.lt_irrefl

/-- A positive price overwrites an unset cache. -/
theorem improves_unset (side : BookSide) {price : Int64}
    (positive : 0 < price) : side.Improves (-1) price := by
  cases side with
  | bid => exact Int64.lt_trans (by decide) positive
  | ask => exact Or.inl rfl

/-- A set cache is overwritten exactly by better prices. -/
theorem improves_iff_better (side : BookSide) {best : Int64}
    (cached : best ≠ -1) (price : Int64) :
    side.Improves best price ↔ side.Better price best := by
  cases side with
  | bid => exact Iff.rfl
  | ask => exact or_iff_right cached

end BookSide

/-- The loop fills an incoming order with the first order it finds. -/
def State.FilledOnArrival (s : State) (order : OrderPtr) : Prop :=
  let book := s.engine.getOrderBook (s.heap order).symbol
  let side := (s.heap order).side.bookSide.opposite
  ∃ level ∈ book.bestLevel side, ∃ first ∈ level.orders.head?,
    side.Crosses level.price (s.heap order).price ∧
      (s.heap order).quantity ≤ (s.heap first).quantity

instance (s : State) (order : OrderPtr) :
    Decidable (s.FilledOnArrival order) :=
  inferInstanceAs (Decidable (∃ level ∈ _, ∃ first ∈ _, _ ∧ _))

/--
An order does not come to rest on a half whose cached best price is unset
while an order rests there at a strictly better price.
-/
def State.KeepsLead (s : State) : Call → Prop
  | .submit order =>
      let book := s.engine.getOrderBook (s.heap order).symbol
      let side := (s.heap order).side.bookSide
      ¬ s.FilledOnArrival order → book.best side = -1 →
        ∀ price ∈ book.restingPrices side,
          ¬ side.Better price (s.heap order).price
  | .cancel .. => True

instance (s : State) (call : Call) : Decidable (s.KeepsLead call) :=
  match call with
  | .submit _ => inferInstanceAs (Decidable (¬ _ → _ → ∀ price ∈ _, ¬ _))
  | .cancel .. => inferInstanceAs (Decidable True)

/-- An order which is filled on arrival meets a counterparty. -/
theorem State.counterparty_of_filled {s : State} (keyed : s.Keyed)
    {order : OrderPtr} (positive : 0 < (s.heap order).quantity)
    (filled : s.FilledOnArrival order) :
    ∃ resting,
      s.books.counterparty order = some resting ∧
        (s.heap order).quantity ≤ (s.heap resting).quantity := by
  obtain ⟨level, found, first, isFirst, crosses, enough⟩ := filled
  obtain ⟨front, price, -⟩ :=
    OrderBook.front_of_bestLevel_some (keyed _) found
  refine ⟨first, ?_, enough⟩
  rw [price] at crosses
  have condition :
      (s.heap order).side.bookSide.opposite.Crosses
          (s.books.oppositeHalf order).best (s.heap order).price ∧
        0 < (s.heap order).quantity := ⟨crosses, positive⟩
  exact (if_pos condition).trans (front.trans isFirst)

/-- Nobody rests at a price better than a cached best price. -/
def Half.Leading (side : BookSide) (half : Half) : Prop :=
  half.best = -1 ∨
    ∀ price, half.queue price ≠ [] → ¬ side.Better price half.best

namespace Half.Leading

variable {side : BookSide} {half : Half}

/-- Taking orders out of queues leaves the cached price leading. -/
theorem of_sublist (leading : half.Leading side) {smaller : Half}
    (sameBest : smaller.best = half.best)
    (sublist :
      ∀ price, (smaller.queue price).Sublist (half.queue price)) :
    smaller.Leading side := by
  rw [Half.Leading, sameBest]
  refine leading.imp id fun leads price queued => leads price ?_
  intro nothing
  exact queued (List.sublist_nil.mp (nothing ▸ sublist price))

theorem rest (leading : half.Leading side) {price : Int64}
    (positive : 0 < price) (order : OrderPtr)
    (keepsLead :
      half.best = -1 →
        ∀ other, half.queue other ≠ [] → ¬ side.Better other price) :
    (half.rest side price order).Leading side := by
  right
  intro other queued better
  have queuedBefore : other = price ∨ half.queue other ≠ [] := by
    by_cases same : other = price
    · exact Or.inl same
    · simp only [Half.rest, Function.update_of_ne same] at queued
      exact Or.inr queued
  simp only [Half.rest] at better
  by_cases unset : half.best = -1
  · rw [unset, if_pos (side.improves_unset positive)] at better
    rcases queuedBefore with rfl | before
    · exact BookSide.Better.irrefl side other better
    · exact keepsLead unset other before better
  · have leads := leading.resolve_left unset
    split at better
    · next improves =>
        rcases queuedBefore with rfl | before
        · exact BookSide.Better.irrefl side other better
        · have priceBetter :=
            (side.improves_iff_better unset price).mp improves
          exact leads other before (better.trans priceBetter)
    · next kept =>
        rcases queuedBefore with rfl | before
        · exact kept ((side.improves_iff_better unset other).mpr better)
        · exact leads other before better

end Half.Leading

/-- The cached price of every half leads. -/
def Books.Leading (books : Books) : Prop :=
  ∀ symbol side, (books.half symbol side).Leading side

namespace Books.Leading

variable {books : Books} {order resting : OrderPtr}

theorem initial (orders : Heap) : (Books.initial orders).Leading :=
  fun _ _ => Or.inl rfl

/-- Replacing one half by a leading one keeps all of them leading. -/
theorem setHalf (leading : books.Leading) (symbol : Symbol)
    (side : BookSide) {half : Half} (halfLeading : half.Leading side) :
    (books.setHalf symbol side half).Leading := by
  intro other otherSide
  rw [half_setHalf]
  split
  · next same => exact same.2 ▸ halfLeading
  · exact leading other otherSide

/-- A trade unsets the cached price of the half it touches. -/
theorem matched (leading : books.Leading) (order : OrderPtr) :
    (books.matched order).Leading := by
  rw [Books.matched]
  cases books.counterparty order with
  | none => exact leading
  | some resting => exact leading.setHalf _ _ (Or.inl rfl)

theorem cancel (leading : books.Leading) (symbol : Symbol)
    (orderID : UInt64) (side : Side) (price : Price) :
    (books.next (.cancel symbol orderID side price)).Leading := by
  refine leading.setHalf _ _ ((leading symbol side.bookSide).of_sublist rfl ?_)
  intro other
  by_cases same : other = price
  · subst other
    simpa [Half.withdraw] using List.eraseP_sublist
  · simp [Half.withdraw, same]

end Books.Leading

/-- Matching changes no place at which an order rests. -/
theorem Books.place_matched (books : Books) (order other : OrderPtr) :
    ((books.matched order).heap other).place = (books.heap other).place := by
  rw [Books.matched]
  cases books.counterparty order with
  | none => rfl
  | some resting => simp [heapAfter]

/-- The half on which an order rests is not touched by matching it. -/
theorem Books.ownHalf_matched (books : Books) (order : OrderPtr) :
    (books.matched order).ownHalf order = books.ownHalf order := by
  rw [Books.matched]
  cases books.counterparty order with
  | none => rfl
  | some resting => simp [ownHalf, execute, half_setHalf, heapAfter]

/-- A submission keeps the lead when what remains keeps it. -/
theorem Books.Leading.submit {books : Books} (leading : books.Leading)
    {order : OrderPtr} (positive : 0 < (books.heap order).price)
    (keepsLead :
      0 < ((books.matched order).heap order).quantity →
        (books.ownHalf order).best = -1 →
          ∀ price, (books.ownHalf order).queue price ≠ [] →
            ¬ (books.heap order).side.bookSide.Better price
                (books.heap order).price) :
    (books.next (.submit order)).Leading := by
  have samePlace := books.place_matched order order
  have sameSide :
      ((books.matched order).heap order).side.bookSide =
        (books.heap order).side.bookSide :=
    congrArg Place.side samePlace
  have samePrice :
      ((books.matched order).heap order).price = (books.heap order).price :=
    congrArg Place.price samePlace
  rw [next_submit, rested]
  split
  · next remains =>
      apply (leading.matched order).setHalf
      rw [ownHalf_matched, sameSide, samePrice]
      exact
        (leading _ _).rest positive order fun unset price queued =>
          keepsLead remains unset price queued
  · exact leading.matched order

namespace Session

variable (session : Session)

/-- Every submitted order has a positive price and a positive quantity. -/
def PositiveOrders : Prop :=
  ∀ order ∈ submitted session.calls,
    0 < (session.orders order).price ∧ 0 < (session.orders order).quantity

/-- Every call keeps the cached best prices leading. -/
def KeepsLead : Prop :=
  LabelledRun.Along State.next State.KeepsLead
    (State.initial session.orders) session.calls

instance : Decidable session.PositiveOrders :=
  inferInstanceAs (Decidable (∀ order ∈ _, _ ∧ _))

instance : Decidable session.KeepsLead :=
  inferInstanceAs (Decidable (LabelledRun.Along _ _ _ _))

/-- An order of which something is left after matching was not filled. -/
theorem not_filledOnArrival {order : OrderPtr}
    (fresh : order ∉ submitted session.calls)
    (positive : 0 < (session.orders order).quantity)
    (remains :
      0 < ((session.state.books.matched order).heap order).quantity) :
    ¬ session.state.FilledOnArrival order := by
  intro filled
  have sound := session.sound
  have orderPos : 0 < (session.state.heap order).quantity := by
    rwa [← sound.untouched order fresh] at positive
  obtain ⟨resting, found, enough⟩ :=
    State.counterparty_of_filled session.keyed orderPos filled
  have used :=
    Books.heapAfter_order_filled session.state.heap
      (sound.ne_counterparty found) enough
  rw [Books.matched, found] at remains
  change 0 < (Books.heapAfter session.state.heap order resting
    order).quantity at remains
  rw [used] at remains
  exact Int64.lt_irrefl remains

theorem leading (positive : session.PositiveOrders)
    (keepsLead : session.KeepsLead) : session.state.books.Leading := by
  induction session using Session.induction with
  | start orders =>
      rw [books_eq]
      exact Books.Leading.initial orders
  | step session call distinct inductionHypothesis =>
      have along :=
        (LabelledRun.along_append _ _ _).mp keepsLead
      have leading :=
        inductionHypothesis
          (fun order member => positive order (by simp [extend, member]))
          along.1
      rw [state_extend, State.books_next session.keyed]
      cases call with
      | submit order =>
          have fresh := distinct.fresh
          have orderPositive := positive order (by simp [extend])
          have priceEq := session.sound.price_eq order
          apply leading.submit
          · rw [priceEq]
            exact orderPositive.1
          · intro remains unset price queued
            apply along.2.1
              (session.not_filledOnArrival fresh orderPositive.2 remains)
              unset price
            exact (OrderBook.mem_restingPrices _ _ _).mpr queued
      | cancel symbol orderID side price =>
          exact leading.cancel symbol orderID side price

/--
While the loop of a further submission trades, nobody rests at a price
strictly better than that of the trade.
-/
def TradesAtBest (order : OrderPtr) : Prop :=
  ∀ resting m after trade,
    TradeStep session.state order resting m after trade →
      ∀ price other,
        other ∈
            (m.book.levels
              (session.state.heap order).side.bookSide.opposite).ordersAt
                price →
          ¬ (session.state.heap order).side.bookSide.opposite.Better
              (m.heap other).price trade.price

/-- Price priority in the sessions whose calls all keep the lead. -/
theorem price_priority (positive : session.PositiveOrders)
    (keepsLead : session.KeepsLead) (order : OrderPtr) :
    session.TradesAtBest order := by
  intro resting m after trade tradeStep price other queued better
  have isStart := tradeStep.start
  obtain ⟨found, isTrade, -⟩ := session.tradeStep_spec tradeStep
  subst isStart isTrade
  obtain ⟨-, -, cached, others, queue⟩ := Books.counterparty_spec found
  have sound := session.sound
  have leads :=
    (session.leading positive keepsLead _ _).resolve_left cached
  have restingPrice :
      (session.state.heap resting).price =
        (session.state.books.frontPlace order).price := by
    have placed := sound.placed _ _ (Books.mem_of_counterparty found)
    rw [← sound.place_eq] at placed
    exact congrArg Place.price placed
  have otherPrice : (session.state.heap other).price = price := by
    have placed :=
      sound.placed
        ⟨(session.state.heap order).symbol,
          (session.state.heap order).side.bookSide.opposite, price⟩
        other queued
    rw [← sound.place_eq] at placed
    exact congrArg Place.price placed
  have tradePrice :
      (Books.tradeOf session.state.heap order resting).price =
        (session.state.books.frontPlace order).price := restingPrice
  apply leads price (List.ne_nil_of_mem queued)
  rw [← otherPrice]
  rwa [tradePrice] at better

theorem price_priority_sample :
    twoAsks.TradesAtBest 2 :=
  price_priority twoAsks (by decide) (by decide) 2

/-- Asks at 10 and at 9, and after a trade an ask at 12. -/
def coveredOrders : Heap
  | 0 => newOrder 1 "AAPL" .sell 10 5
  | 1 => newOrder 2 "AAPL" .sell 9 2
  | 2 => newOrder 3 "AAPL" .buy 10 1
  | 3 => newOrder 4 "AAPL" .sell 12 1
  | _ => newOrder 5 "AAPL" .buy 12 1

/-- The ask at 12 covers the asks which the trade left behind. -/
def coveredSession : Session where
  orders := coveredOrders
  calls := [.submit 0, .submit 1, .submit 2, .submit 3]
  distinctIDs := by decide

set_option maxRecDepth 2000 in
/-- A further bid trades at 12 while asks rest at 10 and at 9. -/
theorem price_priority_fails :
    ¬ ∀ session : Session, ∀ order distinct,
        (session.extend (.submit order) distinct).PositiveOrders →
          session.TradesAtBest order := by
  intro priority
  have atBest := priority coveredSession 4 (by decide) (by decide)
  obtain ⟨resting, after, tradeStep⟩ :=
    coveredSession.tradeStep_of_returned
      (show
        { price := 12, quantity := 1, buyerID := 5, sellerID := 4 } ∈
          coveredSession.state.trades (.submit 4) by decide)
  exact atBest _ _ _ _ tradeStep 10 0 (by decide) (by decide)

end Session

end AeroRisk.Orderbook
