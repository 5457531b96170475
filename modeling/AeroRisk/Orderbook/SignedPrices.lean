import AeroRisk.Orderbook.PricePriority

/-!
# The best prices of a book with signed prices

A price is any `int64`, and `-1` also stands for an unset cache.  This module
takes a book whose `BestBid` and `BestAsk` show the best levels and finds the
orders after whose `AddOrder` they still do.
-/

namespace AeroRisk.Orderbook

open AeroRisk.Financial

/-! ## Best levels -/

/-- A stored level such that no stored level has a better price. -/
def Levels.IsBest (side : BookSide) (levels : Levels) (level : Level) :
    Prop :=
  (∃ price, levels.lookup price = some level) ∧
    ∀ price other, levels.lookup price = some other →
      ¬ side.Better other.price level.price

/-- No level of the map has an empty queue. -/
def Levels.Occupied (levels : Levels) : Prop :=
  ∀ price level, levels.lookup price = some level → level.orders ≠ []

namespace OrderBook

/--
`BestBid()` or `BestAsk()` is the best level of its half, or nil when the half
has no level.
-/
def ShowsBest (ob : OrderBook) (side : BookSide) : Prop :=
  match ob.bestLevel side with
  | none => ob.levels side = ∅
  | some level => (ob.levels side).IsBest side level

/-- A book in order: no level is empty, and both best levels are right. -/
structure BestCorrect (ob : OrderBook) : Prop where
  keyed : ob.Keyed
  occupied : ∀ side, (ob.levels side).Occupied
  shows : ∀ side, ob.ShowsBest side

/--
The prices which `AddOrder` takes on one half.  On a half without levels the
price must reach the cached one, which a cancel may have left behind; and the
price `-1` must not become the best price.
-/
def Takes (ob : OrderBook) (side : BookSide) (price : Int64) : Prop :=
  if ob.levels side = ∅ then
    price ≠ -1 ∧ (price = ob.best side ∨ side.Improves (ob.best side) price)
  else
    price = -1 → ¬ side.Better price (ob.best side)

instance decidableTakes (ob : OrderBook) (side : BookSide) (price : Int64) :
    Decidable (ob.Takes side price) :=
  inferInstanceAs
    (Decidable
      (if ob.levels side = ∅ then
        price ≠ -1 ∧ (price = ob.best side ∨ side.Improves (ob.best side) price)
      else
        price = -1 → ¬ side.Better price (ob.best side)))

end OrderBook

/-! ## Cached prices -/

/-- The cached price is set, and it is the best one at which a level is. -/
structure Levels.Leads (side : BookSide) (levels : Levels) (best : Int64) :
    Prop where
  set : best ≠ -1
  stored : best ∈ levels
  first : ∀ price, price ∈ levels → ¬ side.Better price best

namespace Levels

variable {side : BookSide} {levels : Levels}

theorem mem_addOrder (heap : Heap) (levels : Levels) (price other : Int64)
    (order : OrderPtr) :
    other ∈ levels.addOrder heap price order ↔
      other = price ∨ other ∈ levels :=
  Finmap.mem_insert

theorem Occupied.addOrder (occupied : levels.Occupied) (heap : Heap)
    (price : Int64) (order : OrderPtr) :
    (levels.addOrder heap price order).Occupied := by
  apply each_insert occupied
  simp [Level.addOrder]

/-- In a keyed map the level at the leading price is the best one. -/
theorem isBest_iff (keyed : levels.Keyed) {best : Int64} {level : Level}
    (found : levels.lookup best = some level) :
    levels.IsBest side level ↔
      ∀ price, price ∈ levels → ¬ side.Better price best := by
  have samePrice := keyed best level found
  constructor
  · rintro ⟨-, first⟩ price member
    obtain ⟨other, otherFound⟩ := Finmap.mem_iff.mp member
    have notBetter := first price other otherFound
    rwa [keyed price other otherFound, samePrice] at notBetter
  · intro first
    refine ⟨⟨best, found⟩, ?_⟩
    intro price other otherFound
    rw [keyed price other otherFound, samePrice]
    exact first price (Finmap.mem_of_lookup_eq_some otherFound)

/-- The first level of a half leads when its price becomes the cached one. -/
theorem leads_first_iff (heap : Heap) (best price : Int64)
    (order : OrderPtr) :
    Leads side (Levels.addOrder heap ∅ price order)
        (if side.Improves best price then price else best) ↔
      price ≠ -1 ∧ (price = best ∨ side.Improves best price) := by
  constructor
  · rintro ⟨set, stored, -⟩
    simp only [mem_addOrder, Finmap.notMem_empty, or_false] at stored
    rw [stored] at set
    refine ⟨set, ?_⟩
    split at stored
    · next improves => exact Or.inr improves
    · exact Or.inl stored.symm
  · rintro ⟨set, reaches⟩
    have becomes :
        (if side.Improves best price then price else best) = price := by
      rcases reaches with same | improves
      · rw [← same, ite_self]
      · exact if_pos improves
    rw [becomes]
    refine ⟨set, ?_, ?_⟩
    · simp [mem_addOrder]
    · intro other member
      simp only [mem_addOrder, Finmap.notMem_empty, or_false] at member
      rw [member]
      exact BookSide.Better.irrefl side price

/-- A further price leaves a leading one unless it is `-1` and better. -/
theorem Leads.addOrder_iff {best : Int64} (leads : levels.Leads side best)
    (heap : Heap) (price : Int64) (order : OrderPtr) :
    Leads side (levels.addOrder heap price order)
        (if side.Improves best price then price else best) ↔
      (price = -1 → ¬ side.Better price best) := by
  have improves := side.improves_iff_better leads.set price
  by_cases better : side.Better price best
  · rw [if_pos (improves.mpr better)]
    constructor
    · intro after unset
      exact absurd unset after.set
    · intro kept
      refine ⟨fun unset => kept unset better, ?_, ?_⟩
      · simp [mem_addOrder]
      · intro other member isBetter
        rw [mem_addOrder] at member
        rcases member with rfl | member
        · exact BookSide.Better.irrefl side other isBetter
        · exact leads.first other member (isBetter.trans better)
  · rw [if_neg (mt improves.mp better)]
    refine iff_of_true ?_ (fun _ => better)
    refine ⟨leads.set, ?_, ?_⟩
    · exact (mem_addOrder heap levels price best order).mpr
        (Or.inr leads.stored)
    · intro other member
      rw [mem_addOrder] at member
      rcases member with rfl | member
      · exact better
      · exact leads.first other member

end Levels

/-! ## Adding an order -/

namespace OrderBook

variable {ob : OrderBook}

/-- A half without levels shows nil, whatever is cached. -/
theorem showsBest_of_empty {side : BookSide} (nothing : ob.levels side = ∅) :
    ob.ShowsBest side := by
  have shown : ob.bestLevel side = none := by
    rw [bestLevel_eq, nothing, Finmap.lookup_empty, ite_self]
  rw [ShowsBest, shown]
  exact nothing

/-- A half with levels shows the best one when the cached price leads. -/
theorem showsBest_iff_leads (keyed : ob.Keyed) {side : BookSide}
    (something : ob.levels side ≠ ∅) :
    ob.ShowsBest side ↔ (ob.levels side).Leads side (ob.best side) := by
  rw [ShowsBest, bestLevel_eq]
  by_cases unset : ob.best side = -1
  · rw [if_pos unset]
    exact
      iff_of_false something fun leads => leads.set unset
  · rw [if_neg unset]
    cases found : (ob.levels side).lookup (ob.best side) with
    | none =>
        have absent := Finmap.lookup_eq_none.mp found
        exact iff_of_false something fun leads => absent leads.stored
    | some level =>
        have member := Finmap.mem_of_lookup_eq_some found
        have best :
            (ob.levels side).IsBest side level ↔ _ :=
          Levels.isBest_iff (keyed side) found
        exact
          ⟨fun isBest => ⟨unset, member, best.mp isBest⟩,
            fun leads => best.mpr leads.first⟩

/-- The other half shows what it showed before. -/
theorem ShowsBest.addOrder_of_ne {side : BookSide}
    (shows : ob.ShowsBest side) {heap : Heap} {order : OrderPtr}
    (other : side ≠ (heap order).side.bookSide) :
    (ob.addOrder heap order).ShowsBest side := by
  rw [ShowsBest, bestLevel_eq, best_addOrder, levels_addOrder, if_neg other,
    if_neg other, ← bestLevel_eq]
  exact shows

/-- The half of the order shows its best level when it takes the price. -/
theorem BestCorrect.showsBest_addOrder_iff (correct : ob.BestCorrect)
    (heap : Heap) (order : OrderPtr) :
    (ob.addOrder heap order).ShowsBest (heap order).side.bookSide ↔
      ob.Takes (heap order).side.bookSide (heap order).price := by
  generalize onSide : (heap order).side.bookSide = side
  have added := ob.levels_addOrder heap order side
  have cached := ob.best_addOrder heap order side
  rw [if_pos onSide.symm] at added cached
  have something : (ob.addOrder heap order).levels side ≠ ∅ := by
    intro nothing
    have member :
        (heap order).price ∈ (ob.addOrder heap order).levels side := by
      simp [added, Levels.mem_addOrder]
    rw [nothing] at member
    exact Finmap.notMem_empty member
  rw [showsBest_iff_leads (correct.keyed.addOrder heap order) something,
    added, cached, Takes]
  by_cases nothing : ob.levels side = ∅
  · rw [if_pos nothing, nothing]
    exact Levels.leads_first_iff heap _ _ order
  · rw [if_neg nothing]
    have leads :=
      (showsBest_iff_leads correct.keyed nothing).mp (correct.shows side)
    exact leads.addOrder_iff heap _ order

/--
After `AddOrder` on a book in order both best levels are right again if and
only if the half of the order takes its price.
-/
theorem addOrder_bestCorrect (heap : Heap) (order : OrderPtr)
    (correct : ob.BestCorrect) :
    (ob.addOrder heap order).BestCorrect ↔
      ob.Takes (heap order).side.bookSide (heap order).price := by
  rw [← correct.showsBest_addOrder_iff heap order]
  constructor
  · intro after
    exact after.shows _
  · intro shows
    refine ⟨correct.keyed.addOrder heap order, ?_, ?_⟩
    · intro side
      rw [levels_addOrder]
      split
      · exact (correct.occupied side).addOrder heap _ order
      · exact correct.occupied side
    · intro side
      by_cases same : side = (heap order).side.bookSide
      · rw [same]
        exact shows
      · exact (correct.shows side).addOrder_of_ne same

theorem bestCorrect_newOrderBook (symbol : Symbol) :
    (newOrderBook symbol).BestCorrect where
  keyed := keyed_newOrderBook symbol
  occupied := by
    intro side price level found
    cases side <;> cases found
  shows := by
    intro side
    apply showsBest_of_empty
    cases side <;> rfl

/-- Bids at 5 and 7 and an ask at 10. -/
def bothSides : Heap
  | 0 => newOrder 1 "AAPL" .buy 5 10
  | 1 => newOrder 2 "AAPL" .sell 10 10
  | _ => newOrder 3 "AAPL" .buy 7 10

/-- The better bid comes to a book with a level on both sides. -/
theorem addOrder_bestCorrect_sample :
    ((((newOrderBook "AAPL").addOrder bothSides 0).addOrder bothSides
      1).addOrder bothSides 2).BestCorrect := by
  have bid :=
    (addOrder_bestCorrect bothSides 0 (bestCorrect_newOrderBook "AAPL")).mpr
      (by decide)
  have bidAndAsk := (addOrder_bestCorrect bothSides 1 bid).mpr (by decide)
  exact (addOrder_bestCorrect bothSides 2 bidAndAsk).mpr (by decide)

/-- An order object for which somebody bids a negative price. -/
def negativeBid : Heap := fun _ => newOrder 1 "AAPL" .buy (-5) 10

/-- The bid of `-5` rests, and `BestBid` of its book is nil. -/
theorem addOrder_bestCorrect_fails :
    ¬ ∀ (ob : OrderBook) (heap : Heap) (order : OrderPtr),
        (heap order).side ≠ .unknown → ob.BestCorrect →
          (ob.addOrder heap order).BestCorrect := by
  intro keeps
  have correct :=
    keeps (newOrderBook "AAPL") negativeBid 0 (by decide)
      (bestCorrect_newOrderBook "AAPL")
  have nothing :
      ((newOrderBook "AAPL").addOrder negativeBid 0).bidLevels = ∅ :=
    correct.shows .bid
  exact absurd nothing (by decide)

end OrderBook

end AeroRisk.Orderbook
