import Mathlib.Algebra.QuadraticDiscriminant
import Mathlib.Analysis.Real.Sqrt
import Mathlib.Tactic.Linarith
import Mathlib.Tactic.Ring

/-!
# Dot products of lists

The dot product of two lists of numbers multiplies the numbers in the same
places.  Its square is at most the product of the dot products of the lists
with themselves, since a quadratic polynomial without negative values has no
positive discriminant.
-/

namespace AeroRisk.Library.DotProducts

section Fields

variable {K : Type*} [Field K]

/-- The sum of the products of the numbers in the same places. -/
def dot (first second : List K) : K :=
  (List.zipWith (fun a b => a * b) first second).sum

@[simp]
theorem dot_nil : dot ([] : List K) [] = 0 :=
  rfl

@[simp]
theorem dot_cons (a b : K) (first second : List K) :
    dot (a :: first) (b :: second) = a * b + dot first second := by
  simp [dot]

theorem dot_self (numbers : List K) :
    dot numbers numbers = (numbers.map fun a => a * a).sum := by
  induction numbers with
  | nil => rfl
  | cons a rest inductionHypothesis =>
      rw [dot_cons, inductionHypothesis, List.map_cons, List.sum_cons]

variable [LinearOrder K] [IsStrictOrderedRing K]

theorem dot_nonneg {first second : List K}
    (firstNonneg : ∀ a ∈ first, 0 ≤ a)
    (secondNonneg : ∀ b ∈ second, 0 ≤ b) : 0 ≤ dot first second := by
  induction first generalizing second with
  | nil => simp [dot]
  | cons a first inductionHypothesis =>
      cases second with
      | nil => simp [dot]
      | cons b second =>
          rw [List.forall_mem_cons] at firstNonneg secondNonneg
          rw [dot_cons]
          exact
            add_nonneg (mul_nonneg firstNonneg.1 secondNonneg.1)
              (inductionHypothesis firstNonneg.2 secondNonneg.2)

/-- The squares of the differences to a multiple add up to this polynomial. -/
theorem quadratic_nonneg {first second : List K}
    (sameLength : first.length = second.length) (x : K) :
    0 ≤
      dot second second * (x * x) + -2 * dot first second * x +
        dot first first := by
  induction first generalizing second with
  | nil =>
      rw [List.length_nil] at sameLength
      rw [List.length_eq_zero_iff.mp sameLength.symm]
      simp
  | cons a first inductionHypothesis =>
      cases second with
      | nil => cases sameLength
      | cons b second =>
          have rest := inductionHypothesis (Nat.succ.inj sameLength)
          have square := mul_self_nonneg (a - b * x)
          rw [dot_cons, dot_cons, dot_cons]
          linarith

/-- The inequality of Cauchy and Schwarz. -/
theorem dot_sq_le {first second : List K}
    (sameLength : first.length = second.length) :
    dot first second ^ 2 ≤ dot first first * dot second second := by
  have discriminant := discrim_le_zero (quadratic_nonneg sameLength)
  rw [discrim] at discriminant
  linarith

end Fields

/-- A number whose square is at most a product, over the factors' roots. -/
theorem div_sqrt_mul_sqrt_le_one {x first second : ℝ} (nonneg : 0 ≤ first)
    (square : x ^ 2 ≤ first * second) :
    x / (√first * √second) ≤ 1 := by
  apply div_le_one_of_le₀
  · rw [← Real.sqrt_mul nonneg]
    exact Real.le_sqrt_of_sq_le square
  · exact mul_nonneg (Real.sqrt_nonneg first) (Real.sqrt_nonneg second)

end AeroRisk.Library.DotProducts
