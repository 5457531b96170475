import AeroRisk.Orderbook.Book
import AeroRisk.Library.BoundedLoop
import AeroRisk.Library.LabelledRun

/-!
# The matching engine

`matchOrder` runs one of two mirrored loops, one for buy orders against the
asks and one for all other orders against the bids, and then rests what
remains of the order.  The local state of a loop is the heap, the book, the
trades returned so far and the trades sent on the trade channel.  A send on
the channel blocks while 10000 trades are unread; the reader is taken to keep
up, so that every call returns.

A session is what the callers do: the order objects they create and the
`SubmitOrder` and `CancelOrder` calls they make, in order.
-/

namespace AeroRisk.Orderbook

open AeroRisk.Financial
open AeroRisk.Library

/-- A trade as returned to the caller. -/
structure Trade where
  price : Price
  quantity : Quantity
  buyerID : UInt64
  sellerID : UInt64
deriving DecidableEq, Repr

/-- The local state of the loops in `matchOrder`. -/
structure Matching where
  heap : Heap
  book : OrderBook
  trades : List Trade
  tradeChan : List Trade

/-- The queue of a level after its first order traded. -/
def Level.afterTrade (heap : Heap) (level : Level) : Level :=
  match level.orders with
  | [] => level
  | first :: rest =>
      if (heap first).quantity = 0 then
        { level with orders := rest }
      else
        level

/--
One iteration of the loop for buy orders.  The send of the trade is taken to
return; `TradeFeed` models the channel, on which it may wait.
-/
def matchBuyBody (order : OrderPtr) (m : Matching) : Option Matching :=
  match m.book.bestAskLevel with
  | none => none
  | some bestAsk =>
      if bestAsk.price ≤ (m.heap order).price ∧
          0 < (m.heap order).quantity then
        match bestAsk.orders with
        | [] => none
        | askOrder :: _ =>
            let matchQty :=
              minQuantity (m.heap order).quantity (m.heap askOrder).quantity
            let trade : Trade :=
              { price := (m.heap askOrder).price
                quantity := matchQty
                buyerID := (m.heap order).id
                sellerID := (m.heap askOrder).id }
            let heap :=
              m.heap.setQuantity order ((m.heap order).quantity - matchQty)
            let heap :=
              heap.setQuantity askOrder ((heap askOrder).quantity - matchQty)
            some
              { heap
                book :=
                  { m.book with
                    bestAsk := -1
                    askLevels :=
                      m.book.askLevels.insert m.book.bestAsk
                        (bestAsk.afterTrade heap) }
                trades := m.trades ++ [trade]
                tradeChan := m.tradeChan ++ [trade] }
      else
        none

/-- One iteration of the loop for the other orders, with the same send. -/
def matchSellBody (order : OrderPtr) (m : Matching) : Option Matching :=
  match m.book.bestBidLevel with
  | none => none
  | some bestBid =>
      if bestBid.price ≥ (m.heap order).price ∧
          0 < (m.heap order).quantity then
        match bestBid.orders with
        | [] => none
        | bidOrder :: _ =>
            let matchQty :=
              minQuantity (m.heap order).quantity (m.heap bidOrder).quantity
            let trade : Trade :=
              { price := (m.heap bidOrder).price
                quantity := matchQty
                buyerID := (m.heap bidOrder).id
                sellerID := (m.heap order).id }
            let heap :=
              m.heap.setQuantity order ((m.heap order).quantity - matchQty)
            let heap :=
              heap.setQuantity bidOrder ((heap bidOrder).quantity - matchQty)
            some
              { heap
                book :=
                  { m.book with
                    bestBid := -1
                    bidLevels :=
                      m.book.bidLevels.insert m.book.bestBid
                        (bestBid.afterTrade heap) }
                trades := m.trades ++ [trade]
                tradeChan := m.tradeChan ++ [trade] }
      else
        none

/-- The body of the loop which an order of the given side runs. -/
def matchBody (side : Side) (order : OrderPtr) :
    Matching → Option Matching :=
  if side = .buy then matchBuyBody order else matchSellBody order

/--
A bound on the iterations of a loop: none is made without quantity left, and
each one trades at least one unit of it.
-/
def matchBound (quantity : Quantity) : Nat :=
  quantity.toNatClampNeg + 2

/-- The loop of `matchOrder`. -/
def matchLoop (order : OrderPtr) (m : Matching) : Matching :=
  BoundedLoop.iterate (matchBody (m.heap order).side order)
    (matchBound (m.heap order).quantity) m

/-- `if order.Quantity > 0 { ob.AddOrder(order) }`. -/
def restOrder (order : OrderPtr) (m : Matching) : Matching :=
  if 0 < (m.heap order).quantity then
    { m with book := m.book.addOrder m.heap order }
  else
    m

/-- `MatchingEngine.matchOrder`. -/
def matchOrder (order : OrderPtr) (m : Matching) : Matching :=
  restOrder order (matchLoop order m)

/-- The engine: the book of every symbol and the trades sent on the channel. -/
structure MatchingEngine where
  orderBooks : Finmap fun _ : Symbol => OrderBook
  tradeChan : List Trade

/-- `NewMatchingEngine`. -/
def newMatchingEngine : MatchingEngine where
  orderBooks := ∅
  tradeChan := []

/-- The book which `GetOrderBook` returns; the caller stores it. -/
def MatchingEngine.getOrderBook (me : MatchingEngine) (symbol : Symbol) :
    OrderBook :=
  (me.orderBooks.lookup symbol).getD (newOrderBook symbol)

/-- The order objects together with the engine which works on them. -/
structure State where
  heap : Heap
  engine : MatchingEngine

/-- The start of the loop which `SubmitOrder` runs. -/
def startMatching (s : State) (order : OrderPtr) : Matching where
  heap := s.heap
  book := s.engine.getOrderBook (s.heap order).symbol
  trades := []
  tradeChan := s.engine.tradeChan

/-- The end of `SubmitOrder`: the book and the channel after matching. -/
def finishMatching (s : State) (order : OrderPtr) (m : Matching) : State where
  heap := m.heap
  engine :=
    { orderBooks :=
        s.engine.orderBooks.insert (s.heap order).symbol m.book
      tradeChan := m.tradeChan }

/-- The state after `MatchingEngine.SubmitOrder`. -/
def submitOrder (s : State) (order : OrderPtr) : State :=
  finishMatching s order (matchOrder order (startMatching s order))

/-- The trades which `MatchingEngine.SubmitOrder` returns. -/
def submitTrades (s : State) (order : OrderPtr) : List Trade :=
  (matchOrder order (startMatching s order)).trades

/-- `MatchingEngine.CancelOrder`. -/
def cancelOrder (s : State) (symbol : Symbol) (orderID : UInt64)
    (side : Side) (price : Price) : State :=
  { s with
    engine :=
      { s.engine with
        orderBooks :=
          s.engine.orderBooks.insert symbol
            ((s.engine.getOrderBook symbol).cancelOrder s.heap
              orderID side price) } }

/-- A call on the engine. -/
inductive Call where
  | submit (order : OrderPtr)
  | cancel (symbol : Symbol) (orderID : UInt64) (side : Side) (price : Price)
deriving DecidableEq, Repr

/-- The state after a call. -/
def State.next (s : State) : Call → State
  | .submit order => submitOrder s order
  | .cancel symbol orderID side price =>
      cancelOrder s symbol orderID side price

/-- The trades which a call returns. -/
def State.trades (s : State) : Call → List Trade
  | .submit order => submitTrades s order
  | .cancel .. => []

/-- A new engine, with the order objects as their callers created them. -/
def State.initial (orders : Heap) : State where
  heap := orders
  engine := newMatchingEngine

/-- The orders submitted by a list of calls, in order. -/
def submitted : List Call → List OrderPtr
  | [] => []
  | .submit order :: rest => order :: submitted rest
  | .cancel .. :: rest => submitted rest

@[simp]
theorem submitted_nil : submitted [] = [] :=
  rfl

@[simp]
theorem submitted_submit (order : OrderPtr) (rest : List Call) :
    submitted (.submit order :: rest) = order :: submitted rest :=
  rfl

@[simp]
theorem submitted_cancel (symbol : Symbol) (orderID : UInt64) (side : Side)
    (price : Price) (rest : List Call) :
    submitted (.cancel symbol orderID side price :: rest) = submitted rest :=
  rfl

@[simp]
theorem submitted_append (first second : List Call) :
    submitted (first ++ second) = submitted first ++ submitted second := by
  induction first with
  | nil => rfl
  | cons call rest inductionHypothesis =>
      cases call <;> simp [inductionHypothesis]

/-- No two submitted orders have the same ID. -/
def DistinctIDs (orders : Heap) (calls : List Call) : Prop :=
  ((submitted calls).map fun order => (orders order).id).Nodup

instance (orders : Heap) (calls : List Call) :
    Decidable (DistinctIDs orders calls) :=
  inferInstanceAs (Decidable (List.Nodup _))

/--
A session: the calls made on a new engine, where no two submitted orders have
the same ID.  In particular no object is submitted twice.
-/
structure Session where
  orders : Heap
  calls : List Call
  distinctIDs : DistinctIDs orders calls

namespace Session

/-- The state in which a session leaves the engine. -/
def state (session : Session) : State :=
  LabelledRun.run State.next (State.initial session.orders) session.calls

/-- All trades returned during a session, in order. -/
def allTrades (session : Session) : List Trade :=
  (LabelledRun.outputs State.next State.trades
    (State.initial session.orders) session.calls).flatten

end Session

end AeroRisk.Orderbook
