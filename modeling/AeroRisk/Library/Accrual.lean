import Mathlib.Algebra.Order.Group.Int
import Mathlib.Tactic.Linarith

/-!
# Whole units for the time that has passed

A meter is read from time to time.  When the time since it last paid has
earned something, it pays that and starts again at the time of the reading, so
that the time which earned nothing is left over.
-/

namespace AeroRisk.Library.Accrual

variable (earned : Int → Int) (rate : Int)

/-- What the meter pays at some readings, when it last paid at some time. -/
def paid : Int → List Int → Int
  | _, [] => 0
  | last, now :: rest =>
      if 0 < earned (now - last) then earned (now - last) + paid now rest
      else paid last rest

/-- The time up to the finish for which the meter does not pay. -/
def leftOver : Int → List Int → Int → Int
  | last, [], finish => finish - last
  | last, now :: rest, finish =>
      if 0 < earned (now - last) then
        now - last - rate * earned (now - last) + leftOver now rest finish
      else
        leftOver last rest finish

theorem paid_cons (last now : Int) (rest : List Int) :
    paid earned last (now :: rest) =
      (if 0 < earned (now - last) then earned (now - last) else 0) +
        paid earned (if 0 < earned (now - last) then now else last) rest := by
  rw [paid]
  split <;> simp

variable {earned rate}

/-- All time is paid for or left over. -/
theorem elapsed_eq (last : Int) (readings : List Int) (finish : Int) :
    finish - last =
      rate * paid earned last readings +
        leftOver earned rate last readings finish := by
  induction readings generalizing last with
  | nil => simp [paid, leftOver]
  | cons now rest inductionHypothesis =>
      rw [paid, leftOver]
      split
      · have later := inductionHypothesis now
        rw [mul_add]
        omega
      · exact inductionHypothesis last

theorem leftOver_nonneg
    (atMost : ∀ elapsed, 0 ≤ elapsed → rate * earned elapsed ≤ elapsed)
    {last : Int} {readings : List Int} {finish : Int}
    (ordered : (last :: (readings ++ [finish])).Pairwise (· ≤ ·)) :
    0 ≤ leftOver earned rate last readings finish := by
  induction readings generalizing last with
  | nil =>
      have later : last ≤ finish := by simpa using ordered
      rw [leftOver]
      omega
  | cons now rest inductionHypothesis =>
      rw [List.cons_append, List.pairwise_cons] at ordered
      have later := ordered.1 now List.mem_cons_self
      rw [leftOver]
      split
      · have remaining := inductionHypothesis ordered.2
        have enough := atMost (now - last) (by omega)
        omega
      · apply inductionHypothesis
        rw [List.pairwise_cons] at ordered ⊢
        exact
          ⟨fun time member => ordered.1 time (List.mem_cons_of_mem _ member),
            ordered.2.2⟩

/-- The meter pays for all whole periods when less than one is left over. -/
theorem paid_eq_iff (pos : 0 < rate) {last : Int} {readings : List Int}
    {finish : Int}
    (nonneg : 0 ≤ leftOver earned rate last readings finish) :
    paid earned last readings = (finish - last) / rate ↔
      leftOver earned rate last readings finish < rate := by
  rw [@elapsed_eq earned rate last readings finish,
    Int.mul_add_ediv_left _ _ pos.ne']
  constructor
  · intro all
    have noPeriod : leftOver earned rate last readings finish / rate < 1 := by
      omega
    rwa [Int.ediv_lt_iff_lt_mul pos, one_mul] at noPeriod
  · intro less
    rw [Int.ediv_eq_zero_of_lt nonneg less, add_zero]

/-- Two meters pay the same for the same time when they leave over the same. -/
theorem paid_eq_paid_iff (pos : 0 < rate) {last : Int}
    (readings others : List Int) (finish : Int) :
    paid earned last readings = paid earned last others ↔
      leftOver earned rate last readings finish =
        leftOver earned rate last others finish := by
  have first := @elapsed_eq earned rate last readings finish
  have second := @elapsed_eq earned rate last others finish
  constructor
  · intro same
    rw [same] at first
    omega
  · intro same
    rw [same] at first
    exact mul_left_cancel₀ pos.ne' (by omega)

end AeroRisk.Library.Accrual
