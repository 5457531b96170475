import Mathlib.Data.Int.Order.Basic
import Mathlib.Tactic.Common

/-!
# Fixed-width prices and quantities

`financial.Price` and `financial.Quantity` are Go `int64` values and
`financial.Symbol` is a string.  `Value()` is the identity conversion, so it
does not appear below.  The lemmas relate the wrapping arithmetic to exact
integers where a matching step needs no wrap-around.
-/

namespace AeroRisk.Financial

/-- `type Price int64`. -/
abbrev Price := Int64

/-- `type Quantity int64`. -/
abbrev Quantity := Int64

/-- `type Symbol string`. -/
abbrev Symbol := String

/-- The package-level `min` of the matching engine. -/
def minQuantity (a b : Quantity) : Quantity :=
  if a < b then a else b

theorem toInt_pos {quantity : Quantity} :
    0 < quantity.toInt ↔ 0 < quantity := by
  rw [Int64.lt_iff_toInt_lt]
  simp

theorem toInt_nonneg {quantity : Quantity} :
    0 ≤ quantity.toInt ↔ 0 ≤ quantity := by
  rw [Int64.le_iff_toInt_le]
  simp

/-- Taking a part from a non-negative quantity does not wrap around. -/
theorem toInt_sub_of_le {part whole : Quantity}
    (partNonneg : 0 ≤ part) (partLe : part ≤ whole) :
    (whole - part).toInt = whole.toInt - part.toInt := by
  have partNonneg' := toInt_nonneg.mpr partNonneg
  have partLe' := Int64.le_iff_toInt_le.mp partLe
  have wholeBound := Int64.toInt_lt whole
  rw [Int64.toInt_sub]
  apply Int.bmod_eq_of_le <;> omega

/-- Below the largest value one more does not wrap around. -/
theorem lt_add_one_of_ne_max {price : Price}
    (below : price ≠ Int64.maxValue) : price < price + 1 := by
  have less : price.toInt < Int64.maxValue.toInt :=
    Int64.lt_iff_toInt_lt.mp
      (Int64.lt_of_le_of_ne (Int64.le_maxValue price) below)
  have bound := Int64.le_toInt price
  rw [Int64.toInt_maxValue] at less
  rw [Int64.lt_iff_toInt_lt, Int64.toInt_add, Int64.toInt_one,
    Int.bmod_eq_of_le] <;> omega

theorem minQuantity_toInt (a b : Quantity) :
    (minQuantity a b).toInt = min a.toInt b.toInt := by
  unfold minQuantity
  split
  · next less =>
      rw [Int64.lt_iff_toInt_lt] at less
      omega
  · next notLess =>
      rw [Int64.lt_iff_toInt_lt] at notLess
      omega

theorem minQuantity_pos {a b : Quantity} (aPos : 0 < a) (bPos : 0 < b) :
    0 < minQuantity a b := by
  unfold minQuantity
  split <;> assumption

theorem minQuantity_le_left (a b : Quantity) : minQuantity a b ≤ a := by
  rw [Int64.le_iff_toInt_le, minQuantity_toInt]
  exact min_le_left _ _

theorem minQuantity_le_right (a b : Quantity) : minQuantity a b ≤ b := by
  rw [Int64.le_iff_toInt_le, minQuantity_toInt]
  exact min_le_right _ _

end AeroRisk.Financial
