import Mathlib.Algebra.Order.Field.Rat
import Mathlib.Tactic.NormNum

/-!
# Rounded arithmetic

The numbers of a format are the rationals which its rounding leaves alone, and
an operation rounds the exact result.  Of the rounding only what the directed
and the nearest roundings of all binary formats have in common is known, so
that a statement for every rounding is one about each of these formats, and
about exact arithmetic.  Infinities and signed zeros are left out.

A format adds the largest number, so that it is known which numbers do not
fit.  Its quotients of integers may be exempted from that, where they are read
as exact.  Another refinement says which integers are numbers of the format.
-/

namespace AeroRisk.Library

/-- A monotone map onto the numbers of a format, with zero and one. -/
structure Rounding where
  nearest : Rat → Rat
  monotone : ∀ {x y : Rat}, x ≤ y → nearest x ≤ nearest y
  idempotent : ∀ x : Rat, nearest (nearest x) = nearest x
  nearest_zero : nearest 0 = 0
  nearest_one : nearest 1 = 1

namespace Rounding

/-- Arithmetic which does not round. -/
def identity : Rounding where
  nearest x := x
  monotone ordered := ordered
  idempotent _ := rfl
  nearest_zero := rfl
  nearest_one := rfl

variable (rounding : Rounding)

/-- A number of the format. -/
structure Value where
  exact : Rat
  isKept : rounding.nearest exact = exact
deriving DecidableEq

/-- The number of the format for a rational. -/
def round (x : Rat) : rounding.Value where
  exact := rounding.nearest x
  isKept := rounding.idempotent x

variable {rounding}

@[simp]
theorem exact_round (x : Rat) :
    (rounding.round x).exact = rounding.nearest x :=
  rfl

/-- A number of the format stays above what rounds to one below it. -/
theorem nearest_le_exact {x : Rat} {value : rounding.Value}
    (below : x ≤ value.exact) : rounding.nearest x ≤ value.exact := by
  rw [← value.isKept]
  exact rounding.monotone below

theorem nearest_nonneg {x : Rat} (nonneg : 0 ≤ x) :
    0 ≤ rounding.nearest x := by
  rw [← rounding.nearest_zero]
  exact rounding.monotone nonneg

theorem one_le_nearest {x : Rat} (large : 1 ≤ x) :
    1 ≤ rounding.nearest x := by
  rw [← rounding.nearest_one]
  exact rounding.monotone large

end Rounding

/-- A rounding which leaves the integers up to a bound alone. -/
structure IntegralRounding (bound : Nat) extends Rounding where
  nearest_int : ∀ n : Int, n.natAbs ≤ bound → nearest n = n

/-- Exact arithmetic has all integers. -/
def IntegralRounding.identity (bound : Nat) : IntegralRounding bound where
  toRounding := Rounding.identity
  nearest_int _ _ := rfl

/-- A rounding and the largest number of its format, which is at least ten. -/
structure FloatFormat where
  rounding : Rounding
  largest : Rat
  ten_le : rounding.nearest 10 ≤ largest
  /-- A quotient of integers which does not fit is refused. -/
  limitsQuotients : Bool := true

namespace FloatFormat

/-- Exact arithmetic, but for the conversion of integers beyond a bound. -/
def exactQuotients (bound : Nat) : FloatFormat where
  rounding := .identity
  largest := max 10 bound
  ten_le := le_max_left 10 _
  limitsQuotients := false

variable (format : FloatFormat)

/-- The number is rounded to one which is not beyond the largest. -/
def Fits (x : Rat) : Prop :=
  -format.largest ≤ format.rounding.nearest x ∧
    format.rounding.nearest x ≤ format.largest

instance (x : Rat) : Decidable (format.Fits x) :=
  inferInstanceAs (Decidable (_ ∧ _))

/-- The number is a result which a division of integers may have. -/
def FitsQuotient (x : Rat) : Prop :=
  format.limitsQuotients = true → format.Fits x

instance (x : Rat) : Decidable (format.FitsQuotient x) :=
  inferInstanceAs (Decidable (_ → _))

variable {format} {x : Rat}

theorem largest_nonneg : 0 ≤ format.largest :=
  (Rounding.nearest_nonneg (by norm_num : (0 : Rat) ≤ 10)).trans
    format.ten_le

theorem fits_of_le_ten (nonneg : 0 ≤ x) (small : x ≤ 10) :
    format.Fits x := by
  have above : 0 ≤ format.rounding.nearest x :=
    Rounding.nearest_nonneg nonneg
  have below := (format.rounding.monotone small).trans format.ten_le
  exact ⟨(neg_nonpos.mpr (above.trans below)).trans above, below⟩

/-- What is rounded to zero fits. -/
theorem fits_of_nearest_eq_zero (isZero : format.rounding.nearest x = 0) :
    format.Fits x := by
  rw [Fits, isZero]
  exact ⟨neg_nonpos.mpr largest_nonneg, largest_nonneg⟩

theorem Fits.fitsQuotient (fits : format.Fits x) : format.FitsQuotient x :=
  fun _ => fits

theorem fitsQuotient_exactQuotients (bound : Nat) (x : Rat) :
    (exactQuotients bound).FitsQuotient x :=
  fun limited => absurd limited Bool.false_ne_true

end FloatFormat

end AeroRisk.Library
