import Mathlib.Logic.Basic

/-!
# Loops whose body may fail

An iteration of such a loop fails, goes on with a new state, or leaves the
loop with a result.  The loop is executed with a bound on the number of
iterations, and running out of it counts as a failure, so that a result of the
bounded execution is a result of the loop.  The rule at the end is one of total
correctness: an invariant whose index decreases with every iteration makes the
loop deliver a result.
-/

namespace AeroRisk.Library.FallibleLoop

universe u v

variable {State : Type u}
variable {Result : Type v}

/-- Execute at most `bound` iterations of a loop body. -/
def run (body : State → Option (State ⊕ Result)) :
    Nat → State → Option Result
  | 0, _ => none
  | bound + 1, state =>
      match body state with
      | none => none
      | some (.inl following) => run body bound following
      | some (.inr result) => some result

/-- The states in which the iterations of a loop begin. -/
def trace (body : State → Option (State ⊕ Result)) : Nat → State → List State
  | 0, _ => []
  | bound + 1, state =>
      match body state with
      | some (.inl following) => state :: trace body bound following
      | _ => [state]

/--
What an iteration owes to a proof of total correctness: it does not fail, and
it leaves with a good result or goes on below the index it started at.
-/
inductive Delivers
    (invariant : Nat → State → Prop)
    (post : Result → Prop)
    (index : Nat) :
    Option (State ⊕ Result) → Prop where
  | again {following : State} {smaller : Nat}
      (decreases : smaller < index)
      (kept : invariant smaller following) :
      Delivers invariant post index (some (.inl following))
  | leave {result : Result} (good : post result) :
      Delivers invariant post index (some (.inr result))

section Rules

variable {body : State → Option (State ⊕ Result)}

theorem run_of_again {state following : State}
    (step : body state = some (.inl following)) (bound : Nat) :
    run body (bound + 1) state = run body bound following := by
  simp [run, step]

theorem run_of_leave {state : State} {result : Result}
    (step : body state = some (.inr result)) (bound : Nat) :
    run body (bound + 1) state = some result := by
  simp [run, step]

/-- Every iteration of a loop whose iterations deliver starts well. -/
theorem exists_of_mem_trace
    {invariant : Nat → State → Prop}
    {post : Result → Prop}
    (iteration :
      ∀ index state, invariant index state →
        Delivers invariant post index (body state))
    {index bound : Nat}
    {state reached : State}
    (initially : invariant index state)
    (member : reached ∈ trace body bound state) :
    ∃ smaller, invariant smaller reached := by
  induction bound generalizing index state with
  | zero => exact absurd member List.not_mem_nil
  | succ bound inductionHypothesis =>
      have delivered := iteration index state initially
      rw [trace] at member
      generalize body state = answer at delivered member
      cases delivered with
      | again decreases kept =>
          rcases List.mem_cons.mp member with rfl | later
          · exact ⟨index, initially⟩
          · exact inductionHypothesis kept later
      | leave good =>
          rw [List.mem_singleton.mp member]
          exact ⟨index, initially⟩

/-- A loop whose iterations deliver below the bound has a good result. -/
theorem run_delivers
    {invariant : Nat → State → Prop}
    {post : Result → Prop}
    (iteration :
      ∀ index state, invariant index state →
        Delivers invariant post index (body state))
    {index bound : Nat}
    {state : State}
    (initially : invariant index state)
    (enough : index < bound) :
    ∃ result, run body bound state = some result ∧ post result := by
  induction bound generalizing index state with
  | zero => exact absurd enough (Nat.not_lt_zero _)
  | succ bound inductionHypothesis =>
      have delivered := iteration index state initially
      generalize outcome : body state = answer at delivered
      cases delivered with
      | again decreases kept =>
          rw [run_of_again outcome]
          exact inductionHypothesis kept
            (Nat.lt_of_lt_of_le decreases (Nat.le_of_lt_succ enough))
      | leave good => exact ⟨_, run_of_leave outcome bound, good⟩

end Rules

end AeroRisk.Library.FallibleLoop
