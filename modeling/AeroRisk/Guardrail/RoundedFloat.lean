import AeroRisk.Guardrail.Anomaly
import AeroRisk.Library.Rounding
import Mathlib.Tactic.NormNum

/-!
# Floats which round

The floats of a rounding, with the operations of Python on them.  Among the
roundings is the one of the doubles, as long as no result is too large for it.
With a largest number the operations on integers raise as those of Python do.
-/

namespace AeroRisk.Guardrail.Agent1

open AeroRisk.Library

variable {rounding : Rounding}

/-- The nearest integer, the even one of two. -/
def roundHalfEven (x : Rat) : Int :=
  let fraction := x - x.floor
  if fraction < 1 / 2 ∨ fraction = 1 / 2 ∧ x.floor % 2 = 0 then
    x.floor
  else
    x.floor + 1

instance roundedFloat : PyFloat rounding.Value where
  sub minuend subtrahend :=
    rounding.round (minuend.exact - subtrahend.exact)
  mul first second := rounding.round (first.exact * second.exact)
  beq first second := first.exact == second.exact
  lt first second := first.exact < second.exact
  le first second := first.exact ≤ second.exact
  ofScientific mantissa negative exponent :=
    rounding.round (OfScientific.ofScientific mantissa negative exponent)
  decidableLT _ _ := inferInstanceAs (Decidable ((_ : Rat) < _))
  decidableLE _ _ := inferInstanceAs (Decidable ((_ : Rat) ≤ _))
  divide value divisor :=
    if divisor.exact = 0 then .error "float division by zero"
    else .ok (rounding.round (value.exact / divisor.exact))
  trueDivide numerator denominator :=
    if denominator = 0 then .error "division by zero"
    else .ok (rounding.round (numerator / denominator))
  toFloat value := .ok (rounding.round value)
  round value digits :=
    rounding.round
      (roundHalfEven (value.exact * 10 ^ digits) / 10 ^ digits)

theorem lt_iff_exact {first second : rounding.Value} :
    first < second ↔ first.exact < second.exact :=
  Iff.rfl

theorem le_iff_exact {first second : rounding.Value} :
    first ≤ second ↔ first.exact ≤ second.exact :=
  Iff.rfl

@[simp]
theorem exact_zero : (0.0 : rounding.Value).exact = 0 := by
  change rounding.nearest (0.0 : Rat) = 0
  norm_num [rounding.nearest_zero]

@[simp]
theorem exact_one : (1.0 : rounding.Value).exact = 1 := by
  change rounding.nearest (1.0 : Rat) = 1
  norm_num [rounding.nearest_one]

@[simp]
theorem exact_sub (minuend subtrahend : rounding.Value) :
    (minuend - subtrahend).exact =
      rounding.nearest (minuend.exact - subtrahend.exact) :=
  rfl

@[simp]
theorem toFloat_eq (value : Int) :
    PyFloat.toFloat value = .ok (rounding.round value) :=
  rfl

theorem divide_eq {value divisor : rounding.Value}
    (nonzero : divisor.exact ≠ 0) :
    PyFloat.divide value divisor =
      .ok (rounding.round (value.exact / divisor.exact)) :=
  if_neg nonzero

theorem trueDivide_eq {numerator denominator : Int}
    (nonzero : denominator ≠ 0) :
    PyFloat.trueDivide numerator denominator =
      .ok (rounding.round (numerator / denominator)) :=
  if_neg nonzero

theorem exact_atMostOne (value : rounding.Value) :
    (atMostOne value).exact = min value.exact 1 := by
  rw [atMostOne]
  split
  · next below =>
      rw [lt_iff_exact, exact_one] at below
      rw [min_eq_left below.le]
  · next above =>
      rw [lt_iff_exact, exact_one, not_lt] at above
      rw [exact_one, min_eq_right above]

/-! ## Floats with a largest number -/

/-- The floats of a format; a float beyond the largest stands for infinity. -/
def RangedFloat (format : FloatFormat) : Type :=
  format.rounding.Value

variable {format : FloatFormat}

/-- The number for which a float stands. -/
def RangedFloat.exact (value : RangedFloat format) : Rat :=
  Rounding.Value.exact value

/-- The float for a number. -/
def RangedFloat.round (x : Rat) : RangedFloat format :=
  format.rounding.round x

/-- An integer or a quotient of integers which does not fit raises. -/
instance rangedFloat : PyFloat (RangedFloat format) :=
  let rounded : PyFloat format.rounding.Value := roundedFloat
  { rounded with
    trueDivide := fun numerator denominator =>
      if denominator = 0 then
        .error "division by zero"
      else if format.FitsQuotient (numerator / denominator) then
        .ok (RangedFloat.round (numerator / denominator))
      else
        .error "integer division result too large for a float"
    toFloat := fun value =>
      if format.Fits value then
        .ok (RangedFloat.round value)
      else
        .error "int too large to convert to float" }

instance rangedFloatAdd : Add (RangedFloat format) where
  add first second := RangedFloat.round (first.exact + second.exact)

namespace RangedFloat

@[simp]
theorem exact_round (x : Rat) :
    (round x : RangedFloat format).exact = format.rounding.nearest x :=
  rfl

@[simp]
theorem exact_zero : (0.0 : RangedFloat format).exact = 0 :=
  Agent1.exact_zero

@[simp]
theorem exact_one : (1.0 : RangedFloat format).exact = 1 :=
  Agent1.exact_one

@[simp]
theorem exact_sub (minuend subtrahend : RangedFloat format) :
    (minuend - subtrahend).exact =
      format.rounding.nearest (minuend.exact - subtrahend.exact) :=
  rfl

theorem exact_atMostOne (value : RangedFloat format) :
    (atMostOne value).exact = min value.exact 1 :=
  Agent1.exact_atMostOne value

theorem lt_iff_exact {first second : RangedFloat format} :
    first < second ↔ first.exact < second.exact :=
  Iff.rfl

theorem le_iff_exact {first second : RangedFloat format} :
    first ≤ second ↔ first.exact ≤ second.exact :=
  Iff.rfl

theorem beq_eq_true_iff {first second : RangedFloat format} :
    (first == second) = true ↔ first.exact = second.exact := by
  change (first.exact == second.exact) = true ↔ _
  exact beq_iff_eq

/-! ### Divisions and conversions -/

theorem divide_eq {value divisor : RangedFloat format}
    (nonzero : divisor.exact ≠ 0) :
    PyFloat.divide value divisor =
      .ok (round (value.exact / divisor.exact) : RangedFloat format) :=
  Agent1.divide_eq nonzero

theorem trueDivide_eq {numerator denominator : Int}
    (nonzero : denominator ≠ 0)
    (fits : format.FitsQuotient (numerator / denominator)) :
    PyFloat.trueDivide numerator denominator =
      .ok (round (numerator / denominator) : RangedFloat format) :=
  (if_neg nonzero).trans (if_pos fits)

theorem trueDivide_of_not_fits {numerator denominator : Int}
    (nonzero : denominator ≠ 0)
    (tooLarge : ¬ format.FitsQuotient (numerator / denominator)) :
    (PyFloat.trueDivide numerator denominator :
        Except String (RangedFloat format)) =
      .error "integer division result too large for a float" :=
  (if_neg nonzero).trans (if_neg tooLarge)

theorem toFloat_eq {value : Int} (fits : format.Fits value) :
    PyFloat.toFloat value = .ok (round value : RangedFloat format) :=
  if_pos fits

theorem toFloat_of_not_fits {value : Int} (tooLarge : ¬ format.Fits value) :
    (PyFloat.toFloat value : Except String (RangedFloat format)) =
      .error "int too large to convert to float" :=
  if_neg tooLarge

theorem exists_divide_iff {value divisor : RangedFloat format} :
    (∃ quotient, PyFloat.divide value divisor = .ok quotient) ↔
      divisor.exact ≠ 0 := by
  by_cases zero : divisor.exact = 0
  · have raised :
        PyFloat.divide value divisor = .error "float division by zero" :=
      if_pos zero
    simp [raised, zero]
  · exact iff_of_true ⟨_, divide_eq zero⟩ zero

theorem exists_trueDivide_iff (numerator denominator : Int) :
    (∃ quotient : RangedFloat format,
        PyFloat.trueDivide numerator denominator = .ok quotient) ↔
      denominator ≠ 0 ∧ format.FitsQuotient (numerator / denominator) := by
  by_cases zero : denominator = 0
  · simp [PyFloat.trueDivide, zero]
  · by_cases fits : format.FitsQuotient (numerator / denominator)
    · exact iff_of_true ⟨_, trueDivide_eq zero fits⟩ ⟨zero, fits⟩
    · simp [trueDivide_of_not_fits zero fits, zero, fits]

theorem toFloat_eq_ok_iff {value : Int} {float : RangedFloat format} :
    PyFloat.toFloat value = .ok float ↔
      format.Fits value ∧ round value = float := by
  by_cases fits : format.Fits value
  · rw [toFloat_eq fits, Except.ok.injEq]
    exact (and_iff_right fits).symm
  · simp [toFloat_of_not_fits fits, fits]

end RangedFloat

/-- Numbers which are not rounded, up to the largest double. -/
def exactDoubles : FloatFormat where
  rounding := .identity
  largest := 1.7976931348623157e308
  ten_le := by decide +kernel

end AeroRisk.Guardrail.Agent1
