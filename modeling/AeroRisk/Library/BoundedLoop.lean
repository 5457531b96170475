import Mathlib.Logic.Relation

/-!
# Loops with a break

A loop is given by its body, which returns `none` when the loop condition
fails or the body breaks out, and the next local state otherwise.  The loop
is executed with a bound on the number of iterations.  The halting theorem
says that a bound above a measure which every iteration decreases is no
restriction: the loop then stops because its body does.
-/

namespace AeroRisk.Library.BoundedLoop

universe u

variable {Local : Type u}

/-- Execute at most `bound` iterations of a loop body. -/
def iterate (body : Local → Option Local) : Nat → Local → Local
  | 0, state => state
  | bound + 1, state =>
      match body state with
      | none => state
      | some following => iterate body bound following

/-- The local states which the loop passes through, the first one included. -/
def Passes (body : Local → Option Local) : Local → Local → Prop :=
  Relation.ReflTransGen fun state following => body state = some following

section Laws

variable {body : Local → Option Local}

theorem iterate_of_none {state : Local} (stops : body state = none)
    (bound : Nat) : iterate body bound state = state := by
  cases bound with
  | zero => rfl
  | succ bound => simp [iterate, stops]

theorem iterate_of_some {state following : Local}
    (continues : body state = some following) (bound : Nat) :
    iterate body (bound + 1) state = iterate body bound following := by
  simp [iterate, continues]

/-- The loop only ends in states it passes through. -/
theorem passes_iterate (bound : Nat) (state : Local) :
    Passes body state (iterate body bound state) := by
  induction bound generalizing state with
  | zero => exact Relation.ReflTransGen.refl
  | succ bound inductionHypothesis =>
      cases step : body state with
      | none =>
          rw [iterate_of_none step]
          exact Relation.ReflTransGen.refl
      | some following =>
          rw [iterate_of_some step]
          exact Relation.ReflTransGen.head step
            (inductionHypothesis following)

/--
With a bound above a measure which decreases as long as a property holds,
the loop ends by itself.
-/
theorem iterate_halts {property : Local → Prop} (measure : Local → Nat)
    (preserved :
      ∀ state following, property state → body state = some following →
        property following)
    (decreases :
      ∀ state following, property state → body state = some following →
        measure following < measure state)
    (bound : Nat) (state : Local) (initially : property state)
    (enough : measure state < bound) :
    body (iterate body bound state) = none := by
  induction bound generalizing state with
  | zero => exact absurd enough (Nat.not_lt_zero _)
  | succ bound inductionHypothesis =>
      cases step : body state with
      | none => rwa [iterate_of_none step]
      | some following =>
          rw [iterate_of_some step]
          have smaller := decreases state following initially step
          apply inductionHypothesis
          · exact preserved state following initially step
          · omega

/-- A property kept by every iteration holds at every state passed through. -/
theorem Passes.invariant {property : Local → Prop}
    (preserved :
      ∀ state following, property state → body state = some following →
        property following)
    {start state : Local} (passes : Passes body start state)
    (initially : property start) : property state := by
  induction passes with
  | refl => exact initially
  | tail _ step inductionHypothesis =>
      exact preserved _ _ inductionHypothesis step

/-- A loop whose body stops after every first iteration makes at most one. -/
theorem passes_of_stops_after_one
    (stops :
      ∀ state following, body state = some following →
        body following = none)
    {start state following : Local} (passes : Passes body start state)
    (step : body state = some following) : state = start := by
  cases passes with
  | refl => rfl
  | tail earlier last =>
      rw [stops _ _ last] at step
      cases step

end Laws

end AeroRisk.Library.BoundedLoop
