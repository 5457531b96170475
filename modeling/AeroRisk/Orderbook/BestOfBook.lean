import AeroRisk.Orderbook.PricePriority

/-!
# The best prices which a book shows

`BestBid`, `BestAsk` and `Spread` read the cached best prices.  The caches are
right as long as every trade empties the half it trades with and no cancel
takes away the last order at a cached best price.  These are the two
operations which leave a cache behind that they do not recompute.

Orders may be submitted more than once here, so the invariant does not use
that a session names every order once.
-/

namespace AeroRisk.Orderbook

open AeroRisk.Financial
open AeroRisk.Library

namespace BookSide

/-- A price at least as good as a crossing one crosses too. -/
theorem Crosses.of_not_better {side : BookSide} {other best limit : Int64}
    (crosses : side.Crosses other limit)
    (notBetter : ¬ side.Better other best) : side.Crosses best limit := by
  cases side with
  | bid => exact Int64.le_trans crosses (Int64.not_lt.mp notBetter)
  | ask => exact Int64.le_trans (Int64.not_lt.mp notBetter) crosses

theorem crosses_opposite (side : BookSide) (price limit : Int64) :
    side.opposite.Crosses price limit ↔ side.Crosses limit price := by
  cases side <;> exact Iff.rfl

end BookSide

/-- A list from which something was taken had something in it. -/
theorem ne_nil_of_sublist {smaller queue : List OrderPtr}
    (sublist : smaller.Sublist queue) (queued : smaller ≠ []) :
    queue ≠ [] := by
  rintro rfl
  exact queued (List.sublist_nil.mp sublist)

/-! ## Accurate halves -/

namespace Half

/-- Nobody rests on the half, and no best price is cached. -/
structure Vacant (half : Half) : Prop where
  unset : half.best = -1
  nobody : ∀ price, half.queue price = []

/-- The cached price is the best price at which somebody rests. -/
structure Headed (side : BookSide) (half : Half) : Prop where
  cached : half.best ≠ -1
  queued : half.queue half.best ≠ []
  leads : ∀ price, half.queue price ≠ [] → ¬ side.Better price half.best

/-- The cached best price is what a search of the queues would find. -/
def Accurate (side : BookSide) (half : Half) : Prop :=
  half.Vacant ∨ half.Headed side

variable {side : BookSide} {half : Half} {price : Int64}

theorem vacant_empty : empty.Vacant where
  unset := rfl
  nobody := fun _ => rfl

/-- The first order at the cached price exists exactly on a headed half. -/
theorem Headed.front (headed : half.Headed side) :
    ∃ first others,
      half.front = some first ∧ half.queue half.best = first :: others := by
  obtain ⟨first, others, queue⟩ := List.exists_cons_of_ne_nil headed.queued
  exact ⟨first, others, by simp [Half.front, headed.cached, queue], queue⟩

theorem Vacant.rest (vacant : half.Vacant) (positive : 0 < price)
    (order : OrderPtr) : (half.rest side price order).Headed side := by
  have newBest : (half.rest side price order).best = price := by
    rw [Half.rest, vacant.unset]
    exact if_pos (side.improves_unset positive)
  have onlyPrice :
      ∀ other, (half.rest side price order).queue other ≠ [] →
        other = price := by
    intro other queued
    by_contra elsewhere
    simp [Half.rest, elsewhere, vacant.nobody] at queued
  constructor
  · rw [newBest]
    rintro rfl
    exact absurd positive (by decide)
  · rw [newBest]
    simp [Half.rest]
  · intro other queued
    rw [newBest, onlyPrice other queued]
    exact BookSide.Better.irrefl side price

theorem Headed.rest (headed : half.Headed side) (positive : 0 < price)
    (order : OrderPtr) : (half.rest side price order).Headed side := by
  have leading : half.Leading side := Or.inr headed.leads
  have cached : (half.rest side price order).best ≠ -1 := by
    simp only [Half.rest]
    split
    · rintro rfl
      exact absurd positive (by decide)
    · exact headed.cached
  constructor
  · exact cached
  · by_cases same : (half.rest side price order).best = price
    · rw [same]
      simp [Half.rest]
    · have kept : (half.rest side price order).best = half.best := by
        simp only [Half.rest] at same ⊢
        split
        · next improves => simp [improves] at same
        · rfl
      rw [kept] at same ⊢
      simpa [Half.rest, same] using headed.queued
  · have stillLeading :=
      leading.rest positive order fun unset => absurd unset headed.cached
    exact stillLeading.resolve_left cached

theorem Accurate.rest (accurate : half.Accurate side)
    (positive : 0 < price) (order : OrderPtr) :
    (half.rest side price order).Accurate side := by
  rcases accurate with vacant | headed
  · exact Or.inr (vacant.rest positive order)
  · exact Or.inr (headed.rest positive order)

/-- A trade which fills the only order of a half leaves the half vacant. -/
theorem vacant_trade {first : OrderPtr} {filled : Prop} [Decidable filled]
    (isFilled : filled) (alone : half.queue half.best = [first])
    (elsewhere : ∀ price, half.queue price ≠ [] → price = half.best) :
    (half.trade filled).Vacant where
  unset := rfl
  nobody := by
    intro price
    rw [Half.trade, if_pos isFilled]
    by_cases same : price = half.best
    · simp [same, alone]
    · by_contra queued
      simp only [Function.update_of_ne same] at queued
      exact same (elsewhere price queued)

/-- Withdrawing an order which is not the last at the best price. -/
theorem Accurate.withdraw {heap : Heap} (accurate : half.Accurate side)
    (orderID : UInt64)
    (keeps :
      price = half.best → half.queue price ≠ [] →
        (half.queue price).eraseP
            (fun order => (heap order).id == orderID) ≠ []) :
    (half.withdraw heap orderID price).Accurate side := by
  have smaller :
      ∀ other, (half.withdraw heap orderID price).queue other ≠ [] →
        half.queue other ≠ [] := by
    intro other queued nothing
    by_cases same : other = price
    · subst other
      simp [Half.withdraw, nothing] at queued
    · simp [Half.withdraw, same, nothing] at queued
  rcases accurate with vacant | headed
  · left
    constructor
    · exact vacant.unset
    · intro other
      by_contra queued
      exact smaller other queued (vacant.nobody other)
  · right
    constructor
    · exact headed.cached
    · change (half.withdraw heap orderID price).queue half.best ≠ []
      by_cases same : half.best = price
      · subst price
        simpa [Half.withdraw] using keeps rfl headed.queued
      · simpa [Half.withdraw, same] using headed.queued
    · exact fun other queued => headed.leads other (smaller other queued)

end Half

/-! ## Uncrossed books -/

/-- No order rests at a price which crosses a price of the other half. -/
def Books.Uncrossed (books : Books) : Prop :=
  ∀ symbol side price other,
    books.queue ⟨symbol, side, price⟩ ≠ [] →
      books.queue ⟨symbol, side.opposite, other⟩ ≠ [] →
        ¬ side.opposite.Crosses other price

namespace Books.Uncrossed

variable {books smaller : Books} {order : OrderPtr}

theorem initial (orders : Heap) : (Books.initial orders).Uncrossed := by
  intro symbol side price other queued
  exact absurd rfl queued

/-- Taking orders out of queues does not make a book crossed. -/
theorem of_queues (uncrossed : books.Uncrossed)
    (subset :
      ∀ place, smaller.queue place ≠ [] → books.queue place ≠ []) :
    smaller.Uncrossed := by
  intro symbol side price other queued otherQueued
  exact
    uncrossed symbol side price other (subset _ queued)
      (subset _ otherQueued)

/-- An order may rest where it crosses no order of the other half. -/
theorem rested (uncrossed : books.Uncrossed)
    (nobody :
      0 < (books.heap order).quantity →
        ∀ price, (books.oppositeHalf order).queue price ≠ [] →
          ¬ (books.heap order).side.bookSide.opposite.Crosses price
              (books.heap order).price) :
    (books.rested order).Uncrossed := by
  intro symbol side price other queued otherQueued crosses
  rw [queue_rested] at queued otherQueued
  split at queued
  · next isOrder =>
      split at otherQueued
      · next isOther =>
          have sameSide := congrArg Place.side (isOrder.2.trans isOther.2.symm)
          exact BookSide.ne_opposite side sameSide
      · obtain ⟨rfl, rfl, rfl⟩ := Place.mk.inj isOrder.2
        exact nobody isOrder.1 other otherQueued crosses
  · split at otherQueued
    · next isOther =>
        obtain ⟨rfl, opposite, rfl⟩ := Place.mk.inj isOther.2
        have isOpposite :
            side = (books.heap order).side.bookSide.opposite := by
          rw [← opposite, BookSide.opposite_opposite]
        subst isOpposite
        rw [BookSide.crosses_opposite] at crosses
        exact nobody isOther.1 price queued crosses
    · exact uncrossed symbol side price other queued otherQueued crosses

end Books.Uncrossed

/-! ## Books whose caches are right -/

/-- Books in which every cached best price is right and nothing crosses. -/
structure Books.Orderly (books : Books) : Prop where
  accurate : ∀ symbol side, (books.half symbol side).Accurate side
  uncrossed : books.Uncrossed
  positive : ∀ place, books.queue place ≠ [] → 0 < place.price

namespace Books.Orderly

variable {orders : Heap} {books : Books} {order : OrderPtr}

theorem initial (orders : Heap) : (Books.initial orders).Orderly where
  accurate := fun _ _ => Or.inl Half.vacant_empty
  uncrossed := Uncrossed.initial orders
  positive := fun _ queued => absurd rfl queued

theorem setHalf_accurate (orderly : books.Orderly) (symbol : Symbol)
    (side : BookSide) {half : Half} (halfAccurate : half.Accurate side)
    (other : Symbol) (otherSide : BookSide) :
    ((books.setHalf symbol side half).half other otherSide).Accurate
      otherSide := by
  rw [half_setHalf]
  split
  · next same => exact same.2 ▸ halfAccurate
  · exact orderly.accurate other otherSide

/-- An order which finds nobody crosses nobody. -/
theorem nobody_crosses (orderly : books.Orderly)
    (nobody : books.counterparty order = none)
    (remains : 0 < (books.heap order).quantity) (price : Int64)
    (queued : (books.oppositeHalf order).queue price ≠ []) :
    ¬ (books.heap order).side.bookSide.opposite.Crosses price
        (books.heap order).price := by
  intro crosses
  rcases orderly.accurate (books.heap order).symbol
    (books.heap order).side.bookSide.opposite with vacant | headed
  · exact queued (vacant.nobody price)
  · obtain ⟨first, others, front, -⟩ := headed.front
    have bestCrosses := crosses.of_not_better (headed.leads price queued)
    rw [counterparty, if_pos ⟨bestCrosses, remains⟩] at nobody
    exact absurd (front.symm.trans nobody) (by simp)

/-- The trade meets the only order of the half and fills it. -/
def Empties (books : Books) (order resting : OrderPtr) : Prop :=
  (books.oppositeHalf order).queue (books.oppositeHalf order).best =
      [resting] ∧
    (books.heap resting).quantity ≤ (books.heap order).quantity ∧
    ∀ price, (books.oppositeHalf order).queue price ≠ [] →
      price = (books.oppositeHalf order).best

/-- After a trade which empties its half nobody rests there. -/
theorem vacant_execute (anchored : Anchored orders books)
    {resting : OrderPtr}
    (found : books.counterparty order = some resting)
    (empties : Empties books order resting) :
    ((books.execute order resting).half (books.heap order).symbol
      (books.heap order).side.bookSide.opposite).Vacant := by
  have filled :=
    heapAfter_resting_filled books.heap (anchored.ne_counterparty found)
      empties.2.1
  rw [execute]
  simp only [half_setHalf, and_self, ↓reduceIte]
  exact Half.vacant_trade filled empties.1 empties.2.2

theorem matched (orderly : books.Orderly)
    (anchored : Anchored orders books)
    (empties :
      ∀ resting, books.counterparty order = some resting →
        Empties books order resting) :
    (books.matched order).Orderly where
  accurate := by
    rw [Books.matched]
    cases found : books.counterparty order with
    | none => exact orderly.accurate
    | some resting =>
        intro symbol side
        have vacant := vacant_execute anchored found (empties resting found)
        by_cases touched :
            symbol = (books.heap order).symbol ∧
              side = (books.heap order).side.bookSide.opposite
        · obtain ⟨rfl, rfl⟩ := touched
          exact Or.inl vacant
        · have untouched :
              (books.execute order resting).half symbol side =
                books.half symbol side := by
            simp [execute, half_setHalf, touched]
          exact untouched ▸ orderly.accurate symbol side
  uncrossed := by
    apply orderly.uncrossed.of_queues
    intro place
    exact ne_nil_of_sublist (queue_matched_sublist books order place)
  positive := by
    intro place queued
    apply orderly.positive place
    exact
      ne_nil_of_sublist (queue_matched_sublist books order place) queued

/-- After matching, what remains of the order crosses nobody. -/
theorem nobody_crosses_matched (orderly : books.Orderly)
    (anchored : Anchored orders books)
    (empties :
      ∀ resting, books.counterparty order = some resting →
        Empties books order resting)
    (remains : 0 < ((books.matched order).heap order).quantity)
    (price : Int64)
    (queued : ((books.matched order).oppositeHalf order).queue price ≠ []) :
    ¬ ((books.matched order).heap order).side.bookSide.opposite.Crosses
        price ((books.matched order).heap order).price := by
  rw [Books.matched] at remains queued ⊢
  cases found : books.counterparty order with
  | none =>
      rw [found] at remains queued
      exact orderly.nobody_crosses found remains price queued
  | some resting =>
      have vacant := vacant_execute anchored found (empties resting found)
      have samePlace :
          ((books.execute order resting).heap order).place =
            (books.heap order).place := by
        simp [heapAfter]
      rw [found] at queued
      change
        ((books.execute order resting).half
          ((books.execute order resting).heap order).place.symbol
          ((books.execute order resting).heap
            order).place.side.opposite).queue price ≠ [] at queued
      rw [samePlace] at queued
      exact absurd (vacant.nobody price) queued

theorem submit (orderly : books.Orderly) (anchored : Anchored orders books)
    (positive : 0 < (books.heap order).price)
    (empties :
      ∀ resting, books.counterparty order = some resting →
        Empties books order resting) :
    (books.next (.submit order)).Orderly where
  accurate := by
    have matched := orderly.matched anchored empties
    rw [next_submit, rested]
    split
    · apply matched.setHalf_accurate
      apply (matched.accurate _ _).rest
      have samePrice :
          ((books.matched order).heap order).price =
            (books.heap order).price :=
        congrArg Place.price (books.place_matched order order)
      rwa [samePrice]
    · exact matched.accurate
  uncrossed := by
    rw [next_submit]
    exact
      (orderly.matched anchored empties).uncrossed.rested
        (orderly.nobody_crosses_matched anchored empties)
  positive := by
    intro place queued
    rw [next_submit, queue_rested] at queued
    split at queued
    · next rests =>
        rw [rests.2, books.place_matched order order]
        exact positive
    · exact (orderly.matched anchored empties).positive place queued

theorem cancel (orderly : books.Orderly) (symbol : Symbol)
    (orderID : UInt64) (side : Side) (price : Price)
    (keeps :
      price = (books.half symbol side.bookSide).best →
        (books.half symbol side.bookSide).queue price ≠ [] →
          ((books.half symbol side.bookSide).queue price).eraseP
              (fun order => (books.heap order).id == orderID) ≠ []) :
    (books.next (.cancel symbol orderID side price)).Orderly where
  accurate :=
    orderly.setHalf_accurate _ _
      ((orderly.accurate symbol side.bookSide).withdraw orderID keeps)
  uncrossed := by
    apply orderly.uncrossed.of_queues
    intro place
    exact
      ne_nil_of_sublist
        (queue_cancel_sublist books symbol orderID side price place)
  positive := by
    intro place queued
    apply orderly.positive place
    exact
      ne_nil_of_sublist
        (queue_cancel_sublist books symbol orderID side price place) queued

end Books.Orderly

/-! ## What a book shows -/

/-- A call with an order of positive price and positive quantity. -/
def State.PositiveCall (s : State) : Call → Prop
  | .submit order =>
      0 < (s.heap order).price ∧ 0 < (s.heap order).quantity
  | .cancel _ _ _ price => 0 < price

instance (s : State) (call : Call) : Decidable (s.PositiveCall call) :=
  match call with
  | .submit _ => inferInstanceAs (Decidable (_ ∧ _))
  | .cancel _ _ _ price => inferInstanceAs (Decidable (0 < price))

/--
A submission trades only with an order which it fills and which is the only
one of its half.  A cancel does not take the last order from the queue at a
cached best price.
-/
def State.KeepsBest (s : State) : Call → Prop
  | .submit order =>
      let side := (s.heap order).side.bookSide.opposite
      let book := s.engine.getOrderBook (s.heap order).symbol
      ∀ first ∈ (book.half side).front,
        side.Crosses (book.best side) (s.heap order).price →
          (book.levels side).ordersAt (book.best side) = [first] ∧
            (s.heap first).quantity ≤ (s.heap order).quantity ∧
            ∀ price ∈ book.restingPrices side, price = book.best side
  | .cancel symbol orderID side price =>
      let book := s.engine.getOrderBook symbol
      let queue := (book.levels side.bookSide).ordersAt price
      price = book.best side.bookSide → queue ≠ [] →
        queue.eraseP (fun order => (s.heap order).id == orderID) ≠ []

instance (s : State) (call : Call) : Decidable (s.KeepsBest call) :=
  match call with
  | .submit _ =>
      inferInstanceAs
        (Decidable (∀ first ∈ _, _ → _ ∧ _ ∧ ∀ price ∈ _, _ = _))
  | .cancel .. => inferInstanceAs (Decidable (_ = _ → _ ≠ _ → _ ≠ _))

/--
`BestBid()` or `BestAsk()` is nil exactly when nobody rests on the half, and
otherwise the stored level of an order which nobody of the half beats.
-/
structure State.ShowsBest (s : State) (symbol : Symbol) (side : BookSide) :
    Prop where
  nil_iff :
    (s.engine.getOrderBook symbol).bestLevel side = none ↔
      ∀ price, s.queue ⟨symbol, side, price⟩ = []
  best :
    ∀ level,
      (s.engine.getOrderBook symbol).bestLevel side = some level →
        ((s.engine.getOrderBook symbol).levels side).lookup level.price =
            some level ∧
          ∃ first ∈ level.orders,
            (s.heap first).price = level.price ∧
              ∀ price, ∀ other ∈ s.queue ⟨symbol, side, price⟩,
                ¬ side.Better (s.heap other).price (s.heap first).price

/--
`Spread()` is the difference of the two best prices, or `-1` exactly when one
of the halves is empty.
-/
structure State.ShowsSpread (s : State) (symbol : Symbol) : Prop where
  difference :
    ∀ bid ask,
      (s.engine.getOrderBook symbol).bestBidLevel = some bid →
        (s.engine.getOrderBook symbol).bestAskLevel = some ask →
          (s.engine.getOrderBook symbol).spread.toInt =
            ask.price.toInt - bid.price.toInt
  empty_iff :
    (s.engine.getOrderBook symbol).spread = -1 ↔
      ∃ side, ∀ price, s.queue ⟨symbol, side, price⟩ = []

/-- The book of a symbol shows its best prices and its spread. -/
structure State.BestOfBook (s : State) (symbol : Symbol) : Prop where
  shown : ∀ side, s.ShowsBest symbol side
  spread : s.ShowsSpread symbol

namespace State

variable {orders : Heap} {s : State} {symbol : Symbol} {side : BookSide}

/-- A vacant half shows no best level. -/
theorem bestLevel_of_vacant (vacant : (s.books.half symbol side).Vacant) :
    (s.engine.getOrderBook symbol).bestLevel side = none := by
  rw [OrderBook.bestLevel_eq]
  exact if_pos vacant.unset

/-- A headed half shows the level stored at its cached price. -/
theorem bestLevel_of_headed
    (headed : (s.books.half symbol side).Headed side) :
    ∃ level,
      (s.engine.getOrderBook symbol).bestLevel side = some level ∧
        ((s.engine.getOrderBook symbol).levels side).lookup
            ((s.engine.getOrderBook symbol).best side) = some level ∧
        level.orders ≠ [] := by
  have queued := headed.queued
  change
    ((s.engine.getOrderBook symbol).levels side).ordersAt
      ((s.engine.getOrderBook symbol).best side) ≠ [] at queued
  have cached : (s.engine.getOrderBook symbol).best side ≠ -1 :=
    headed.cached
  rw [OrderBook.bestLevel_eq, if_neg cached]
  cases found :
      ((s.engine.getOrderBook symbol).levels side).lookup
        ((s.engine.getOrderBook symbol).best side) with
  | none => simp [Levels.ordersAt, found] at queued
  | some level =>
      rw [Levels.ordersAt_of_lookup found] at queued
      exact ⟨level, rfl, rfl, queued⟩

theorem showsBest (keyed : s.Keyed)
    (anchored : Books.Anchored orders s.books)
    (accurate : (s.books.half symbol side).Accurate side) :
    s.ShowsBest symbol side := by
  rcases accurate with vacant | headed
  · have nothing := bestLevel_of_vacant vacant
    constructor
    · exact ⟨fun _ => vacant.nobody, fun _ => nothing⟩
    · intro level found
      rw [nothing] at found
      cases found
  · obtain ⟨shown, isShown, stored, queued⟩ := bestLevel_of_headed headed
    have priceOf :
        ∀ price, ∀ order ∈ s.queue ⟨symbol, side, price⟩,
          (s.heap order).price = price := by
      intro price order member
      have placed := anchored.placed ⟨symbol, side, price⟩ order member
      rw [← anchored.place_eq] at placed
      exact congrArg Place.price placed
    have shownPrice :
        shown.price = (s.engine.getOrderBook symbol).best side :=
      keyed symbol side _ shown stored
    constructor
    · constructor
      · intro absent
        rw [absent] at isShown
        cases isShown
      · intro nobody
        exact absurd (nobody _) headed.queued
    · intro level found
      cases isShown.symm.trans found
      obtain ⟨first, others, queue⟩ := List.exists_cons_of_ne_nil queued
      have firstQueued :
          first ∈ s.queue
            ⟨symbol, side, (s.engine.getOrderBook symbol).best side⟩ := by
        change first ∈ Levels.ordersAt _ _
        rw [Levels.ordersAt_of_lookup stored, queue]
        exact List.mem_cons_self
      refine ⟨shownPrice ▸ stored, first, by simp [queue], ?_, ?_⟩
      · rw [priceOf _ first firstQueued, shownPrice]
      · intro price other member
        rw [priceOf _ first firstQueued, priceOf price other member]
        exact headed.leads price (List.ne_nil_of_mem member)

/-- Of two headed halves the asks are above the bids. -/
theorem spread_of_headed (orderly : s.books.Orderly)
    (bids : (s.books.half symbol .bid).Headed .bid)
    (asks : (s.books.half symbol .ask).Headed .ask) :
    (s.engine.getOrderBook symbol).spread.toInt =
        (s.engine.getOrderBook symbol).bestAsk.toInt -
          (s.engine.getOrderBook symbol).bestBid.toInt ∧
      0 < (s.engine.getOrderBook symbol).spread.toInt := by
  have bidPositive : 0 < (s.engine.getOrderBook symbol).bestBid :=
    orderly.positive
      ⟨symbol, .bid, (s.books.half symbol .bid).best⟩ bids.queued
  have ordered :
      (s.engine.getOrderBook symbol).bestBid <
        (s.engine.getOrderBook symbol).bestAsk :=
    Int64.not_le.mp
      (orderly.uncrossed symbol .bid _ _ bids.queued asks.queued)
  have isDifference :
      (s.engine.getOrderBook symbol).spread =
        (s.engine.getOrderBook symbol).bestAsk -
          (s.engine.getOrderBook symbol).bestBid := by
    rw [OrderBook.spread, if_neg]
    rintro (unset | unset)
    · exact bids.cached unset
    · exact asks.cached unset
  rw [isDifference,
    toInt_sub_of_le (Int64.le_of_lt bidPositive) (Int64.le_of_lt ordered)]
  have less := Int64.lt_iff_toInt_lt.mp ordered
  exact ⟨rfl, by omega⟩

theorem spread_of_vacant (vacant : (s.books.half symbol side).Vacant) :
    (s.engine.getOrderBook symbol).spread = -1 := by
  rw [OrderBook.spread, if_pos]
  cases side with
  | bid => exact Or.inl vacant.unset
  | ask => exact Or.inr vacant.unset

theorem showsSpread (keyed : s.Keyed) (orderly : s.books.Orderly) :
    s.ShowsSpread symbol where
  difference := by
    intro bid ask bidShown askShown
    have bidLevel :
        (s.engine.getOrderBook symbol).bestLevel .bid = some bid := bidShown
    have askLevel :
        (s.engine.getOrderBook symbol).bestLevel .ask = some ask := askShown
    rw [(OrderBook.front_of_bestLevel_some (keyed symbol) bidLevel).2.1,
      (OrderBook.front_of_bestLevel_some (keyed symbol) askLevel).2.1]
    rcases orderly.accurate symbol .bid with vacant | bids
    · have nothing : OrderBook.bestBidLevel _ = none :=
        bestLevel_of_vacant vacant
      rw [nothing] at bidShown
      cases bidShown
    · rcases orderly.accurate symbol .ask with vacant | asks
      · have nothing : OrderBook.bestAskLevel _ = none :=
          bestLevel_of_vacant vacant
        rw [nothing] at askShown
        cases askShown
      · exact (spread_of_headed orderly bids asks).1
  empty_iff := by
    constructor
    · intro isUnset
      rcases orderly.accurate symbol .bid with vacant | bids
      · exact ⟨.bid, vacant.nobody⟩
      · rcases orderly.accurate symbol .ask with vacant | asks
        · exact ⟨.ask, vacant.nobody⟩
        · have positive := (spread_of_headed orderly bids asks).2
          rw [isUnset] at positive
          exact absurd positive (by decide)
    · rintro ⟨side, nobody⟩
      rcases orderly.accurate symbol side with vacant | headed
      · exact spread_of_vacant vacant
      · exact absurd (nobody _) headed.queued

/-- The engine works on the given objects, and its caches are right. -/
structure InOrder (orders : Heap) (s : State) : Prop where
  keyed : s.Keyed
  anchored : Books.Anchored orders s.books
  orderly : s.books.Orderly

theorem InOrder.initial (orders : Heap) : InOrder orders (initial orders) where
  keyed := keyed_initial orders
  anchored := books_initial orders ▸ Books.Anchored.initial orders
  orderly := books_initial orders ▸ Books.Orderly.initial orders

/-- A call which keeps the best prices keeps the engine in order. -/
theorem InOrder.next (inOrder : InOrder orders s) {call : Call}
    (positive : s.PositiveCall call) (keepsBest : s.KeepsBest call) :
    InOrder orders (s.next call) where
  keyed := inOrder.keyed.next call
  anchored := books_next inOrder.keyed call ▸ inOrder.anchored.next call
  orderly := by
    rw [books_next inOrder.keyed]
    cases call with
    | submit order =>
        apply inOrder.orderly.submit inOrder.anchored positive.1
        intro resting found
        have crosses := (Books.counterparty_spec found).1
        obtain ⟨alone, enough, elsewhere⟩ :=
          keepsBest resting (Books.front_of_counterparty found) crosses
        refine ⟨alone, enough, fun price queued => elsewhere price ?_⟩
        exact (OrderBook.mem_restingPrices _ _ _).mpr queued
    | cancel symbol orderID side price =>
        exact inOrder.orderly.cancel symbol orderID side price keepsBest

/--
The best prices and the spread are right for every symbol after every
sequence of calls which all keep the best prices.
-/
theorem best_of_book (orders : Heap) (calls : List Call)
    (positive :
      LabelledRun.Along State.next State.PositiveCall (initial orders) calls)
    (keepsBest :
      LabelledRun.Along State.next State.KeepsBest (initial orders) calls)
    (symbol : Symbol) :
    (LabelledRun.run State.next (initial orders) calls).BestOfBook symbol := by
  have inOrder : InOrder orders (LabelledRun.run State.next _ calls) :=
    LabelledRun.run_invariant
      (fun _ _ inOrder met => inOrder.next met.1 met.2)
      (positive.and keepsBest) (InOrder.initial orders)
  exact
    { shown := fun side =>
        showsBest inOrder.keyed inOrder.anchored
          (inOrder.orderly.accurate symbol side)
      spread := showsSpread inOrder.keyed inOrder.orderly }

theorem best_of_book_sample :
    (LabelledRun.run State.next (initial Session.sampleOrders)
      [.submit 0, .submit 1, .cancel "AAPL" 1 .sell 10,
        .submit 2]).BestOfBook "AAPL" :=
  best_of_book _ _ (by decide) (by decide) "AAPL"

/-- Two bids, at 10 and at 9. -/
def bidOrders : Heap
  | 0 => newOrder 1 "AAPL" .buy 10 1
  | _ => newOrder 2 "AAPL" .buy 9 1

/-- After cancelling the bid at 10, `BestBid()` is nil while 9 is bid. -/
theorem best_of_book_fails :
    ¬ ∀ orders calls,
        LabelledRun.Along State.next State.PositiveCall (initial orders)
            calls →
          ∀ symbol,
            (LabelledRun.run State.next (initial orders) calls).BestOfBook
              symbol := by
  intro bestOfBook
  have shown :=
    (bestOfBook bidOrders
      [.submit 0, .submit 1, .cancel "AAPL" 1 .buy 10] (by decide)
      "AAPL").shown .bid
  have nobody := shown.nil_iff.mp (by decide) 9
  exact absurd nobody (by decide)

end State

end AeroRisk.Orderbook
