import Mathlib.Algebra.BigOperators.Group.List.Basic
import Mathlib.Algebra.Order.Field.Basic
import Mathlib.Tactic.Linarith
import Mathlib.Tactic.Ring

/-!
# Weighted means

The mean of values with weights lies between their bounds.  A further value
raises the mean or leaves it exactly when it is not below it, wherever it is
put in; raising a value never lowers the mean.
-/

namespace AeroRisk.Library.WeightedMean

variable {K : Type*} [Field K] [LinearOrder K] [IsStrictOrderedRing K]

/-- A value with its weight. -/
structure Item (K : Type*) where
  weight : K
  value : K

/-- The sum of the weights. -/
def totalWeight (items : List (Item K)) : K :=
  (items.map Item.weight).sum

/-- The sum of the values, each times its weight. -/
def weightedSum (items : List (Item K)) : K :=
  (items.map fun item => item.weight * item.value).sum

/-- The weighted mean, which is zero when there is no weight. -/
def mean (items : List (Item K)) : K :=
  weightedSum items / totalWeight items

section Sums

variable (item : Item K) (items before after : List (Item K))

omit [LinearOrder K] [IsStrictOrderedRing K]

@[simp]
theorem totalWeight_nil : totalWeight ([] : List (Item K)) = 0 :=
  rfl

@[simp]
theorem weightedSum_nil : weightedSum ([] : List (Item K)) = 0 :=
  rfl

@[simp]
theorem totalWeight_cons :
    totalWeight (item :: items) = item.weight + totalWeight items := by
  simp [totalWeight]

@[simp]
theorem weightedSum_cons :
    weightedSum (item :: items) =
      item.weight * item.value + weightedSum items := by
  simp [weightedSum]

@[simp]
theorem totalWeight_append :
    totalWeight (before ++ after) =
      totalWeight before + totalWeight after := by
  simp [totalWeight]

@[simp]
theorem weightedSum_append :
    weightedSum (before ++ after) =
      weightedSum before + weightedSum after := by
  simp [weightedSum]

/-- A single value is its own mean. -/
theorem mean_singleton (weighs : item.weight ≠ 0) :
    mean [item] = item.value := by
  simp [mean, weighs]

end Sums

variable {items before after : List (Item K)} {bound : K}

theorem totalWeight_nonneg (weigh : ∀ item ∈ items, 0 < item.weight) :
    0 ≤ totalWeight items := by
  induction items with
  | nil => exact le_rfl
  | cons item rest inductionHypothesis =>
      rw [List.forall_mem_cons] at weigh
      rw [totalWeight_cons]
      exact add_nonneg weigh.1.le (inductionHypothesis weigh.2)

theorem totalWeight_pos (weigh : ∀ item ∈ items, 0 < item.weight)
    (nonempty : items ≠ []) : 0 < totalWeight items := by
  cases items with
  | nil => exact absurd rfl nonempty
  | cons item rest =>
      rw [List.forall_mem_cons] at weigh
      rw [totalWeight_cons]
      exact add_pos_of_pos_of_nonneg weigh.1 (totalWeight_nonneg weigh.2)

theorem weightedSum_le (weigh : ∀ item ∈ items, 0 < item.weight)
    (below : ∀ item ∈ items, item.value ≤ bound) :
    weightedSum items ≤ bound * totalWeight items := by
  induction items with
  | nil => simp
  | cons item rest inductionHypothesis =>
      rw [List.forall_mem_cons] at weigh below
      rw [weightedSum_cons, totalWeight_cons, mul_add]
      apply add_le_add _ (inductionHypothesis weigh.2 below.2)
      rw [mul_comm bound]
      exact mul_le_mul_of_nonneg_left below.1 weigh.1.le

theorem le_weightedSum (weigh : ∀ item ∈ items, 0 < item.weight)
    (above : ∀ item ∈ items, bound ≤ item.value) :
    bound * totalWeight items ≤ weightedSum items := by
  induction items with
  | nil => simp
  | cons item rest inductionHypothesis =>
      rw [List.forall_mem_cons] at weigh above
      rw [weightedSum_cons, totalWeight_cons, mul_add]
      apply add_le_add _ (inductionHypothesis weigh.2 above.2)
      rw [mul_comm bound]
      exact mul_le_mul_of_nonneg_left above.1 weigh.1.le

/-- A mean is not above a bound of the values. -/
theorem mean_le (weigh : ∀ item ∈ items, 0 < item.weight)
    (nonempty : items ≠ []) (below : ∀ item ∈ items, item.value ≤ bound) :
    mean items ≤ bound := by
  rw [mean, div_le_iff₀ (totalWeight_pos weigh nonempty)]
  exact weightedSum_le weigh below

/-- A mean is not below a bound of the values. -/
theorem le_mean (weigh : ∀ item ∈ items, 0 < item.weight)
    (nonempty : items ≠ []) (above : ∀ item ∈ items, bound ≤ item.value) :
    bound ≤ mean items := by
  rw [mean, le_div_iff₀ (totalWeight_pos weigh nonempty)]
  exact le_weightedSum weigh above

/-- A further value lowers the mean exactly when it is below it. -/
theorem mean_le_insert_iff {item : Item K}
    (weigh : ∀ other ∈ before ++ item :: after, 0 < other.weight)
    (nonempty : before ++ after ≠ []) :
    mean (before ++ after) ≤ mean (before ++ item :: after) ↔
      mean (before ++ after) ≤ item.value := by
  have weighs : 0 < item.weight := weigh item (by simp)
  have total : 0 < totalWeight (before ++ after) := by
    apply totalWeight_pos _ nonempty
    intro other member
    apply weigh other
    simp only [List.mem_append, List.mem_cons] at member ⊢
    tauto
  have sums :
      weightedSum (before ++ item :: after) =
        weightedSum (before ++ after) + item.weight * item.value := by
    simp only [weightedSum_append, weightedSum_cons]
    ring
  have totals :
      totalWeight (before ++ item :: after) =
        totalWeight (before ++ after) + item.weight := by
    simp only [totalWeight_append, totalWeight_cons]
    ring
  have larger : 0 < totalWeight (before ++ after) + item.weight :=
    add_pos total weighs
  rw [mean, mean, sums, totals, div_le_div_iff₀ total larger,
    div_le_iff₀ total]
  constructor
  · intro crossed
    have scaled :
        item.weight * weightedSum (before ++ after) ≤
          item.weight * (item.value * totalWeight (before ++ after)) := by
      linarith
    exact le_of_mul_le_mul_left scaled weighs
  · intro below
    have scaled := mul_le_mul_of_nonneg_left below weighs.le
    linarith

/-- Raising a value does not lower the mean. -/
theorem mean_le_raise {weight low high : K}
    (weigh : ∀ item ∈ before ++ ⟨weight, low⟩ :: after, 0 < item.weight)
    (raised : low ≤ high) :
    mean (before ++ ⟨weight, low⟩ :: after) ≤
      mean (before ++ ⟨weight, high⟩ :: after) := by
  have weighs : 0 < weight := weigh ⟨weight, low⟩ (by simp)
  have total := totalWeight_pos weigh (by simp)
  have sameTotal :
      totalWeight (before ++ ⟨weight, high⟩ :: after) =
        totalWeight (before ++ ⟨weight, low⟩ :: after) := by
    simp
  rw [mean, mean, sameTotal]
  apply div_le_div_of_nonneg_right _ total.le
  simp only [weightedSum_append, weightedSum_cons]
  have scaled := mul_le_mul_of_nonneg_left raised weighs.le
  linarith

end AeroRisk.Library.WeightedMean
