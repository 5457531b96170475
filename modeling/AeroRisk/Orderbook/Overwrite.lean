import AeroRisk.Orderbook.PricePriority

/-!
# Books which differ in one cached price

Overwriting the cached best price of one half commutes with most operations.
Matching an order of that half never reads the overwritten price.  Resting an
order there reads it once, to decide whether to overwrite it again.  In one
case the overwritten price has no effect on any later call.
-/

namespace AeroRisk.Orderbook.Books

open AeroRisk.Financial
open AeroRisk.Library

/-- Overwrite the cached best price of one half. -/
def withBest (books : Books) (symbol : Symbol) (side : BookSide)
    (best : Int64) : Books :=
  books.setHalf symbol side
    { queue := (books.half symbol side).queue, best }

section WithBest

variable
    {books : Books} {symbol : Symbol} {side : BookSide} {best : Int64}
    {order : OrderPtr}

theorem half_withBest (other : Symbol) (otherSide : BookSide) :
    (books.withBest symbol side best).half other otherSide =
      if other = symbol ∧ otherSide = side then
        { queue := (books.half symbol side).queue, best }
      else
        books.half other otherSide :=
  half_setHalf _ _ _ _ _ _

@[simp]
theorem heap_withBest :
    (books.withBest symbol side best).heap = books.heap :=
  rfl

/-- Overwriting a cached price by itself changes nothing. -/
theorem withBest_self (cached : (books.half symbol side).best = best) :
    books.withBest symbol side best = books := by
  apply ext_half
  · rfl
  · intro other otherSide
    rw [half_withBest]
    split
    · next same =>
        rw [same.1, same.2, ← cached]
    · rfl

/-- The order is matched against the half in question. -/
def Meets (books : Books) (order : OrderPtr) (symbol : Symbol)
    (side : BookSide) : Prop :=
  (books.heap order).symbol = symbol ∧
    (books.heap order).side.bookSide.opposite = side

/-- The order rests on the half in question. -/
def RestsOn (books : Books) (order : OrderPtr) (symbol : Symbol)
    (side : BookSide) : Prop :=
  (books.heap order).symbol = symbol ∧
    (books.heap order).side.bookSide = side

theorem RestsOn.not_meets (rests : books.RestsOn order symbol side) :
    ¬ books.Meets order symbol side := by
  rintro ⟨-, opposite⟩
  rw [rests.2] at opposite
  exact side.opposite_ne opposite

theorem oppositeHalf_withBest (avoids : ¬ books.Meets order symbol side) :
    (books.withBest symbol side best).oppositeHalf order =
      books.oppositeHalf order :=
  (half_withBest _ _).trans (if_neg avoids)

theorem counterparty_withBest (avoids : ¬ books.Meets order symbol side) :
    (books.withBest symbol side best).counterparty order =
      books.counterparty order := by
  rw [counterparty, oppositeHalf_withBest avoids]
  rfl

theorem matched_withBest (avoids : ¬ books.Meets order symbol side) :
    (books.withBest symbol side best).matched order =
      (books.matched order).withBest symbol side best := by
  rw [matched, counterparty_withBest avoids, matched]
  cases books.counterparty order with
  | none => rfl
  | some resting =>
      apply ext_half
      · rfl
      · intro other otherSide
        simp only [half_execute, half_withBest, heap_withBest,
          oppositeHalf_withBest avoids]
        by_cases here : other = symbol ∧ otherSide = side
        · obtain ⟨rfl, rfl⟩ := here
          have elsewhere :
              ¬ (other = (books.heap order).symbol ∧
                  otherSide =
                    (books.heap order).side.bookSide.opposite) := by
            rintro ⟨sameSymbol, sameSide⟩
            exact avoids ⟨sameSymbol.symm, sameSide.symm⟩
          simp [elsewhere]
        · simp [here]

/-- Resting on another half does not read the overwritten price. -/
theorem rested_withBest_elsewhere
    (elsewhere : ¬ books.RestsOn order symbol side) :
    (books.withBest symbol side best).rested order =
      (books.rested order).withBest symbol side best := by
  have sameOwn :
      (books.withBest symbol side best).ownHalf order =
        books.ownHalf order :=
    (half_withBest _ _).trans (if_neg elsewhere)
  apply ext_half
  · simp
  · intro other otherSide
    simp only [half_rested, half_withBest, heap_withBest, sameOwn]
    by_cases here : other = symbol ∧ otherSide = side
    · obtain ⟨rfl, rfl⟩ := here
      have notHere :
          ¬ (other = (books.heap order).symbol ∧
              otherSide = (books.heap order).side.bookSide) := by
        rintro ⟨sameSymbol, sameSide⟩
        exact elsewhere ⟨sameSymbol.symm, sameSide.symm⟩
      simp [notHere]
    · simp [here]

/-- Resting on the half keeps or replaces the overwritten price. -/
theorem rested_withBest (rests : books.RestsOn order symbol side)
    (remains : 0 < (books.heap order).quantity) :
    (books.withBest symbol side best).rested order =
      (books.rested order).withBest symbol side
        (if side.Improves best (books.heap order).price then
          (books.heap order).price
        else best) := by
  obtain ⟨rfl, rfl⟩ := rests
  apply ext_half
  · simp
  · intro other otherSide
    simp only [half_rested, half_withBest, heap_withBest, remains, true_and]
    by_cases here :
        other = (books.heap order).symbol ∧
          otherSide = (books.heap order).side.bookSide
    · simp [here, ownHalf, half_withBest, Half.rest]
    · simp [here]

theorem rested_of_none (nothing : ¬ 0 < (books.heap order).quantity) :
    books.rested order = books := by
  rw [rested, if_neg nothing]

/-- Cancelling never reads a cached best price. -/
theorem cancel_withBest (cancelled : Symbol) (orderID : UInt64)
    (cancelledSide : Side) (price : Price) :
    (books.withBest symbol side best).next
        (.cancel cancelled orderID cancelledSide price) =
      (books.next
        (.cancel cancelled orderID cancelledSide price)).withBest
          symbol side best := by
  apply ext_half
  · rfl
  · intro other otherSide
    simp only [half_cancel, half_withBest, heap_withBest]
    by_cases here : other = symbol ∧ otherSide = side
    · obtain ⟨rfl, rfl⟩ := here
      by_cases isCancelled :
          other = cancelled ∧ otherSide = cancelledSide.bookSide
      · obtain ⟨rfl, rfl⟩ := isCancelled
        simp [Half.withdraw]
      · simp [isCancelled]
    · simp only [here, ↓reduceIte]
      split
      · next isCancelled =>
          obtain ⟨rfl, rfl⟩ := isCancelled
          rw [if_neg here]
      · rfl

end WithBest

/-! ## An overwritten cache which nobody notices -/

theorem counterparty_of_front_none {books : Books} {order : OrderPtr}
    (nobody : (books.oppositeHalf order).front = none) :
    books.counterparty order = none := by
  rw [counterparty, nobody]
  exact ite_self none

/--
The books agree, or they differ only in whether the cached best ask is unset
or the largest price, at which nobody rests.
-/
def Unnoticed (symbol : Symbol) (books other : Books) : Prop :=
  other = books ∨
    other = books.withBest symbol .ask Int64.maxValue ∧
      (books.half symbol .ask).best = -1 ∧
      (books.half symbol .ask).queue Int64.maxValue = []

namespace Unnoticed

variable
    {books other : Books} {symbol : Symbol} {order : OrderPtr}

/-- Neither book shows a counterparty on the half in question. -/
theorem counterparty_meets (meets : books.Meets order symbol .ask)
    (unset : (books.half symbol .ask).best = -1)
    (empty : (books.half symbol .ask).queue Int64.maxValue = []) :
    books.counterparty order = none ∧
      (books.withBest symbol .ask Int64.maxValue).counterparty order =
        none := by
  obtain ⟨rfl, opposite⟩ := meets
  constructor
  · apply counterparty_of_front_none
    rw [oppositeHalf, opposite, Half.front, if_pos unset]
  · apply counterparty_of_front_none
    rw [oppositeHalf, heap_withBest, opposite, half_withBest,
      if_pos ⟨rfl, rfl⟩, Half.front]
    simp [empty]

theorem counterparty (unnoticed : Unnoticed symbol books other)
    (order : OrderPtr) :
    other.counterparty order = books.counterparty order := by
  rcases unnoticed with rfl | ⟨rfl, unset, empty⟩
  · rfl
  · by_cases meets : books.Meets order symbol .ask
    · obtain ⟨nobody, nobodyThere⟩ := counterparty_meets meets unset empty
      rw [nobody, nobodyThere]
    · exact counterparty_withBest meets

theorem matched (unnoticed : Unnoticed symbol books other)
    (order : OrderPtr) :
    Unnoticed symbol (books.matched order) (other.matched order) := by
  rcases unnoticed with rfl | ⟨rfl, unset, empty⟩
  · exact Or.inl rfl
  · by_cases meets : books.Meets order symbol .ask
    · obtain ⟨nobody, nobodyThere⟩ := counterparty_meets meets unset empty
      rw [Books.matched, Books.matched, nobody, nobodyThere]
      exact Or.inr ⟨rfl, unset, empty⟩
    · right
      have sameHalf :
          (books.matched order).half symbol .ask =
            books.half symbol .ask := by
        rw [Books.matched]
        cases books.counterparty order with
        | none => rfl
        | some resting =>
            refine (half_execute _ _ _ _ _).trans (if_neg ?_)
            rintro ⟨rfl, opposite⟩
            exact meets ⟨rfl, opposite.symm⟩
      rw [sameHalf]
      exact ⟨matched_withBest meets, unset, empty⟩

/-- The next order to rest on the half makes the caches equal again. -/
theorem rested (unnoticed : Unnoticed symbol books other)
    (order : OrderPtr) :
    Unnoticed symbol (books.rested order) (other.rested order) := by
  rcases unnoticed with rfl | ⟨rfl, unset, empty⟩
  · exact Or.inl rfl
  · by_cases remains : 0 < (books.heap order).quantity
    · by_cases rests : books.RestsOn order symbol .ask
      · left
        rw [rested_withBest rests remains]
        apply withBest_self
        obtain ⟨rfl, sameSide⟩ := rests
        have improves :
            BookSide.ask.Improves (-1) (books.heap order).price := Or.inl rfl
        have newBest :
            (if BookSide.ask.Improves Int64.maxValue
                (books.heap order).price then
              (books.heap order).price
            else Int64.maxValue) = (books.heap order).price := by
          split
          · rfl
          · next notImproves =>
              have notLess :
                  ¬ (books.heap order).price < Int64.maxValue :=
                fun less => notImproves (Or.inr less)
              exact
                Int64.le_antisymm (Int64.not_lt.mp notLess)
                  (Int64.le_maxValue _)
        rw [half_rested, if_pos ⟨remains, rfl, sameSide.symm⟩, newBest,
          ownHalf, sameSide, Half.rest, unset]
        simp only [improves, ↓reduceIte]
      · right
        have sameHalf :
            (books.rested order).half symbol .ask =
              books.half symbol .ask := by
          rw [half_rested, if_neg]
          rintro ⟨-, rfl, sameSide⟩
          exact rests ⟨rfl, sameSide.symm⟩
        rw [sameHalf]
        exact ⟨rested_withBest_elsewhere rests, unset, empty⟩
    · have otherRested :
          (books.withBest symbol .ask Int64.maxValue).rested order =
            books.withBest symbol .ask Int64.maxValue :=
        rested_of_none remains
      rw [rested_of_none remains, otherRested]
      exact Or.inr ⟨rfl, unset, empty⟩

theorem next (unnoticed : Unnoticed symbol books other) (call : Call) :
    Unnoticed symbol (books.next call) (other.next call) := by
  cases call with
  | submit order => exact (unnoticed.matched order).rested order
  | cancel cancelled orderID cancelledSide price =>
      rcases unnoticed with rfl | ⟨rfl, unset, empty⟩
      · exact Or.inl rfl
      · right
        rw [cancel_withBest, half_cancel]
        split
        · next here =>
            obtain ⟨rfl, sameSide⟩ := here
            refine ⟨rfl, sameSide ▸ unset, ?_⟩
            rw [← sameSide, Half.withdraw]
            by_cases samePrice : price = Int64.maxValue
            · simp [samePrice, empty]
            · simp [Ne.symm samePrice, empty]
        · exact ⟨rfl, unset, empty⟩

theorem trades (unnoticed : Unnoticed symbol books other) (call : Call) :
    other.trades call = books.trades call := by
  have sameHeap : other.heap = books.heap := by
    rcases unnoticed with rfl | ⟨rfl, -, -⟩ <;> rfl
  cases call with
  | submit order =>
      rw [Books.trades, Books.trades, unnoticed.counterparty, sameHeap]
  | cancel => rfl

/-- No continuation tells the books apart. -/
theorem outputs (unnoticed : Unnoticed symbol books other)
    (later : List Call) :
    LabelledRun.outputs Books.next Books.trades other later =
      LabelledRun.outputs Books.next Books.trades books later :=
  (LabelledRun.outputs_eq_of_relation
    (fun _ _ call related => (related.trades call).symm)
    (fun _ _ call related => related.next call) unnoticed later).symm

end Unnoticed

end AeroRisk.Orderbook.Books
