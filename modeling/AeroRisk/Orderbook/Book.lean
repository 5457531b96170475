import AeroRisk.Financial
import Mathlib.Data.Finmap
import Mathlib.Logic.Function.Basic

/-!
# Orders, price levels and one order book

The Go code shares `*Order` objects between its callers and the level queues
and changes their `Quantity` in place.  The objects therefore live in a heap
addressed by pointers, and a queue holds pointers.  Only the heap says how
much of an order remains.

The level maps are finite maps from prices to levels.  A `*Level` and an
`*OrderBook` are owned by the map which stores them, so an update through the
pointer is an update of the map.  The mutexes are left out: the engine calls
are considered one after another.
-/

namespace AeroRisk.Orderbook

open AeroRisk.Financial

/-- `SideUnknown`, `SideBuy` and `SideSell`. -/
inductive Side where
  | unknown
  | buy
  | sell
deriving DecidableEq, Repr

/-- An order object; only `quantity` changes after its creation. -/
structure Order where
  id : UInt64
  symbol : Symbol
  side : Side
  price : Price
  quantity : Quantity
deriving DecidableEq, Repr

/-- `NewOrder`. -/
def newOrder (id : UInt64) (symbol : Symbol) (side : Side)
    (price : Price) (quantity : Quantity) : Order :=
  { id, symbol, side, price, quantity }

/-- A `*Order`. -/
abbrev OrderPtr := Nat

/-- The order objects which the callers have created. -/
abbrev Heap := OrderPtr → Order

/-- The assignment `order.Quantity = quantity`. -/
def Heap.setQuantity (heap : Heap) (order : OrderPtr)
    (quantity : Quantity) : Heap :=
  Function.update heap order { heap order with quantity }

/-- One price level with its queue of orders. -/
structure Level where
  price : Int64
  quantity : Quantity
  orderCount : Int64
  orders : List OrderPtr
deriving DecidableEq, Repr

/-- `NewLevelFromPrice`. -/
def newLevelFromPrice (price : Int64) : Level where
  price := price
  quantity := 0
  orderCount := 0
  orders := []

/-- `Level.AddOrder`: append at the back of the queue. -/
def Level.addOrder (heap : Heap) (level : Level) (order : OrderPtr) :
    Level :=
  { level with
    orders := level.orders ++ [order]
    quantity := level.quantity + (heap order).quantity
    orderCount := level.orderCount + 1 }

/-- `Level.RemoveOrder`: take out the first order with the given ID. -/
def Level.removeOrder (heap : Heap) (level : Level) (orderID : UInt64) :
    Level :=
  match level.orders.find? fun order => (heap order).id == orderID with
  | none => level
  | some order =>
      { level with
        quantity := level.quantity - (heap order).quantity
        orderCount := level.orderCount - 1
        orders :=
          level.orders.eraseP fun order => (heap order).id == orderID }

/-- A level map, `map[int64]*Level`. -/
abbrev Levels := Finmap fun _ : Int64 => Level

/--
The book of one symbol.  `bestBid` and `bestAsk` cache the best prices, with
`-1` for "not known".
-/
structure OrderBook where
  symbol : Symbol
  bidLevels : Levels
  askLevels : Levels
  bestBid : Int64
  bestAsk : Int64
deriving DecidableEq

/-- `NewOrderBook`. -/
def newOrderBook (symbol : Symbol) : OrderBook where
  symbol := symbol
  bidLevels := ∅
  askLevels := ∅
  bestBid := -1
  bestAsk := -1

/-- `levels[price]`, created when it does not exist, with the order added. -/
def Levels.addOrder (heap : Heap) (levels : Levels) (price : Int64)
    (order : OrderPtr) : Levels :=
  let level := (levels.lookup price).getD (newLevelFromPrice price)
  levels.insert price (level.addOrder heap order)

/-- `OrderBook.AddOrder`. -/
def OrderBook.addOrder (heap : Heap) (ob : OrderBook) (order : OrderPtr) :
    OrderBook :=
  let price := (heap order).price
  if (heap order).side = .buy then
    { ob with
      bestBid := if price > ob.bestBid then price else ob.bestBid
      bidLevels := Levels.addOrder heap ob.bidLevels price order }
  else
    { ob with
      bestAsk :=
        if ob.bestAsk = -1 ∨ price < ob.bestAsk then price else ob.bestAsk
      askLevels := Levels.addOrder heap ob.askLevels price order }

/-- Remove an order from its level, and delete the level if it gets empty. -/
def Levels.cancelOrder (heap : Heap) (levels : Levels) (orderID : UInt64)
    (price : Price) : Levels :=
  match levels.lookup price with
  | none => levels
  | some level =>
      let level := level.removeOrder heap orderID
      if level.orders.length = 0 then
        levels.erase price
      else
        levels.insert price level

/-- `OrderBook.CancelOrder`.  The cached best prices stay as they are. -/
def OrderBook.cancelOrder (heap : Heap) (ob : OrderBook) (orderID : UInt64)
    (side : Side) (price : Price) : OrderBook :=
  if side = .buy then
    { ob with
      bidLevels := Levels.cancelOrder heap ob.bidLevels orderID price }
  else
    { ob with
      askLevels := Levels.cancelOrder heap ob.askLevels orderID price }

/-- `OrderBook.BestBid()`, with `none` for a nil level. -/
def OrderBook.bestBidLevel (ob : OrderBook) : Option Level :=
  if ob.bestBid = -1 then none else ob.bidLevels.lookup ob.bestBid

/-- `OrderBook.BestAsk()`, with `none` for a nil level. -/
def OrderBook.bestAskLevel (ob : OrderBook) : Option Level :=
  if ob.bestAsk = -1 then none else ob.askLevels.lookup ob.bestAsk

/-- `OrderBook.Spread()`. -/
def OrderBook.spread (ob : OrderBook) : Int64 :=
  if ob.bestBid = -1 ∨ ob.bestAsk = -1 then
    -1
  else
    ob.bestAsk - ob.bestBid

end AeroRisk.Orderbook
