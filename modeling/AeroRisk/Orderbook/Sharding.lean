import AeroRisk.Orderbook.Sessions

/-!
# Symbols are independent

The books of different symbols share only the heap of orders, and a call
changes orders of its own symbol only.  The calls on one symbol therefore
return what they return on an engine of their own.
-/

namespace AeroRisk.Orderbook

open AeroRisk.Financial
open AeroRisk.Library

/-- The symbol on whose book a call works. -/
def Call.symbol (orders : Heap) : Call → Symbol
  | .submit order => (orders order).symbol
  | .cancel symbol _ _ _ => symbol

namespace Books

/-- Two sets of books which agree about one symbol. -/
structure SameShard (orders : Heap) (symbol : Symbol)
    (books other : Books) : Prop where
  anchored : Anchored orders books
  otherAnchored : Anchored orders other
  heap :
    ∀ order, (orders order).symbol = symbol →
      books.heap order = other.heap order
  half : ∀ side, books.half symbol side = other.half symbol side

namespace SameShard

variable
    {orders : Heap} {symbol : Symbol} {books other : Books}
    {order resting : OrderPtr}

theorem refl (orders : Heap) (symbol : Symbol) :
    SameShard orders symbol (Books.initial orders)
      (Books.initial orders) where
  anchored := .initial orders
  otherAnchored := .initial orders
  heap := fun _ _ => rfl
  half := fun _ => rfl

/-- An order of the symbol meets the same half. -/
theorem oppositeHalf (same : SameShard orders symbol books other)
    (isSymbol : (orders order).symbol = symbol) :
    books.oppositeHalf order = other.oppositeHalf order := by
  rw [Books.oppositeHalf, Books.oppositeHalf, ← same.heap order isSymbol,
    same.anchored.symbol_eq, isSymbol, same.half]

theorem ownHalf (same : SameShard orders symbol books other)
    (isSymbol : (orders order).symbol = symbol) :
    books.ownHalf order = other.ownHalf order := by
  rw [Books.ownHalf, Books.ownHalf, ← same.heap order isSymbol,
    same.anchored.symbol_eq, isSymbol, same.half]

theorem counterparty (same : SameShard orders symbol books other)
    (isSymbol : (orders order).symbol = symbol) :
    books.counterparty order = other.counterparty order := by
  rw [Books.counterparty, Books.counterparty, same.oppositeHalf isSymbol,
    same.heap order isSymbol]

end SameShard

/-- The symbol of a call can be read off the books. -/
theorem Anchored.symbol_call {orders : Heap} {books : Books}
    (anchored : Anchored orders books) (call : Call) :
    call.symbol books.heap = call.symbol orders := by
  cases call with
  | submit order => exact anchored.symbol_eq order
  | cancel => rfl

/-- A call leaves the halves of other symbols alone. -/
theorem half_next_of_ne (books : Books) (call : Call) {symbol : Symbol}
    (different : symbol ≠ call.symbol books.heap) (side : BookSide) :
    (books.next call).half symbol side = books.half symbol side := by
  cases call with
  | submit order =>
      have sameSymbol :
          ((books.matched order).heap order).symbol =
            (books.heap order).symbol := by
        rw [matched]
        cases books.counterparty order <;> simp
      rw [next_submit, half_rested, sameSymbol, if_neg (by tauto), matched]
      cases books.counterparty order with
      | none => rfl
      | some resting =>
          rw [half_execute, if_neg (by tauto)]
  | cancel cancelled orderID cancelledSide price =>
      rw [half_cancel, if_neg (by tauto)]

/-- An order meets orders of its own symbol. -/
theorem Anchored.counterparty_symbol {orders : Heap} {books : Books}
    {order resting : OrderPtr} (anchored : Anchored orders books)
    (found : books.counterparty order = some resting) :
    (orders resting).symbol = (orders order).symbol := by
  have placed := anchored.placed _ _ (mem_of_counterparty found)
  rw [← anchored.symbol_eq order]
  exact congrArg Place.symbol placed

/-- A submission leaves the orders of other symbols alone. -/
theorem Anchored.heap_submit_of_ne {orders : Heap} {books : Books}
    {order other : OrderPtr} (anchored : Anchored orders books)
    (different : (orders other).symbol ≠ (orders order).symbol) :
    (books.next (.submit order)).heap other = books.heap other := by
  rw [next_submit, heap_rested, Books.matched]
  cases found : books.counterparty order with
  | none => rfl
  | some resting =>
      apply heapAfter_of_ne
      · rintro rfl
        exact different rfl
      · rintro rfl
        exact different (anchored.counterparty_symbol found)

namespace SameShard

variable
    {orders : Heap} {symbol : Symbol} {books other : Books}
    {order resting : OrderPtr}

/-- A trade of two orders of the symbol is the same in both. -/
theorem heapAfter (same : SameShard orders symbol books other)
    (isSymbol : (orders order).symbol = symbol)
    (restingSymbol : (orders resting).symbol = symbol)
    {third : OrderPtr} (thirdSymbol : (orders third).symbol = symbol) :
    Books.heapAfter books.heap order resting third =
      Books.heapAfter other.heap order resting third := by
  have sameQuantity :
      tradedQuantity books.heap order resting =
        tradedQuantity other.heap order resting := by
    rw [tradedQuantity, tradedQuantity, same.heap order isSymbol,
      same.heap resting restingSymbol]
  have paid :
      ∀ quantity this, (orders this).symbol = symbol →
        books.heap.setQuantity order quantity this =
          other.heap.setQuantity order quantity this :=
    fun quantity this thisSymbol =>
      Heap.setQuantity_congr (same.heap this thisSymbol) order quantity
  simp only [Books.heapAfter, sameQuantity, same.heap order isSymbol,
    paid _ resting restingSymbol]
  exact Heap.setQuantity_congr (paid _ third thirdSymbol) resting _

/-- Cancelling reads the IDs of the orders, which never change. -/
theorem withdraw (same : SameShard orders symbol books other) (half : Half)
    (orderID : UInt64) (price : Price) :
    half.withdraw books.heap orderID price =
      half.withdraw other.heap orderID price := by
  simp only [Half.withdraw, same.anchored.id_eq, same.otherAnchored.id_eq]

theorem matched (same : SameShard orders symbol books other)
    (isSymbol : (orders order).symbol = symbol) :
    SameShard orders symbol (books.matched order) (other.matched order) := by
  have counterparties := same.counterparty isSymbol
  cases found : books.counterparty order with
  | none =>
      rw [Books.matched, Books.matched, ← counterparties, found]
      exact same
  | some resting =>
      have restingSymbol :=
        (same.anchored.counterparty_symbol found).trans isSymbol
      rw [Books.matched, Books.matched, ← counterparties, found]
      exact
        { anchored := same.anchored.execute order resting
          otherAnchored := same.otherAnchored.execute order resting
          heap := fun _ thirdSymbol =>
            same.heapAfter isSymbol restingSymbol thirdSymbol
          half := by
            intro side
            rw [half_execute, half_execute, same.half,
              ← same.heap order isSymbol, same.oppositeHalf isSymbol,
              same.heapAfter isSymbol restingSymbol restingSymbol] }

theorem rested (same : SameShard orders symbol books other)
    (isSymbol : (orders order).symbol = symbol) :
    SameShard orders symbol (books.rested order) (other.rested order) where
  anchored := same.anchored.rested order
  otherAnchored := same.otherAnchored.rested order
  heap := by
    simp only [heap_rested]
    exact same.heap
  half := by
    intro side
    rw [half_rested, half_rested, same.half, same.heap order isSymbol,
      same.ownHalf isSymbol]

/-- Calls on the symbol keep the agreement. -/
theorem next (same : SameShard orders symbol books other) {call : Call}
    (isSymbol : call.symbol orders = symbol) :
    SameShard orders symbol (books.next call) (other.next call) := by
  cases call with
  | submit order => exact (same.matched isSymbol).rested isSymbol
  | cancel cancelled orderID side price =>
      have isCancelled : cancelled = symbol := isSymbol
      subst isCancelled
      exact
        { anchored := same.anchored.next _
          otherAnchored := same.otherAnchored.next _
          heap := same.heap
          half := by
            intro otherSide
            rw [half_cancel, half_cancel, same.half, same.half,
              same.withdraw] }

/-- Calls on the symbol return the same trades. -/
theorem trades (same : SameShard orders symbol books other) {call : Call}
    (isSymbol : call.symbol orders = symbol) :
    books.trades call = other.trades call := by
  cases call with
  | submit order =>
      have counterparties := same.counterparty isSymbol
      rw [Books.trades, Books.trades, ← counterparties]
      cases found : books.counterparty order with
      | none => rfl
      | some resting =>
          have restingSymbol :=
            (same.anchored.counterparty_symbol found).trans isSymbol
          simp only [tradeOf, tradedQuantity, same.heap order isSymbol,
            same.heap resting restingSymbol]
  | cancel => rfl

/-- Calls on other symbols keep the agreement. -/
theorem next_of_ne (same : SameShard orders symbol books other) {call : Call}
    (different : call.symbol orders ≠ symbol) :
    SameShard orders symbol (books.next call) other where
  anchored := same.anchored.next call
  otherAnchored := same.otherAnchored
  heap := by
    intro third thirdSymbol
    rw [← same.heap third thirdSymbol]
    cases call with
    | submit order =>
        apply same.anchored.heap_submit_of_ne
        rw [thirdSymbol]
        exact Ne.symm different
    | cancel => rfl
  half := by
    intro side
    rw [half_next_of_ne _ _ (by
      rwa [← same.anchored.symbol_call, ne_comm] at different), same.half]

end SameShard

end Books

/--
The calls on a symbol return the trades which they return when only they are
executed, on a new engine.  All calls are taken to return: whether their sends of
trades do is the subject of `feed_delivers` and `feed_without_reader`.
-/
theorem symbols_shard (orders : Heap) (calls : List Call)
    (symbol : Symbol) :
    LabelledRun.outputsOf State.next State.trades
        (fun call => call.symbol orders = symbol)
        (State.initial orders) calls =
      LabelledRun.outputs State.next State.trades (State.initial orders)
        (calls.filter fun call => call.symbol orders = symbol) := by
  let related : State → State → Prop := fun s other =>
    s.Keyed ∧ other.Keyed ∧ Books.SameShard orders symbol s.books other.books
  have sameOutput :
      ∀ s other call, related s other → call.symbol orders = symbol →
        s.trades call = other.trades call := by
    rintro s other call ⟨keyed, otherKeyed, same⟩ isSymbol
    rw [State.trades_eq keyed, State.trades_eq otherKeyed]
    exact same.trades isSymbol
  have moved :
      ∀ s other call, related s other → call.symbol orders = symbol →
        related (s.next call) (other.next call) := by
    rintro s other call ⟨keyed, otherKeyed, same⟩ isSymbol
    refine ⟨keyed.next call, otherKeyed.next call, ?_⟩
    rw [State.books_next keyed, State.books_next otherKeyed]
    exact same.next isSymbol
  have unmoved :
      ∀ s other call, related s other → ¬ call.symbol orders = symbol →
        related (s.next call) other := by
    rintro s other call ⟨keyed, otherKeyed, same⟩ different
    refine ⟨keyed.next call, otherKeyed, ?_⟩
    rw [State.books_next keyed]
    exact same.next_of_ne different
  apply LabelledRun.outputsOf_eq_outputs_filter sameOutput moved unmoved
  refine ⟨State.keyed_initial orders, State.keyed_initial orders, ?_⟩
  rw [State.books_initial]
  exact .refl orders symbol

end AeroRisk.Orderbook
