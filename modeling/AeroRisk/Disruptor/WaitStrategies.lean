import AeroRisk.Library.LabelledRun
import Mathlib.Data.List.Range
import Mathlib.Tactic.Linarith

/-!
# Waiting for a sequence number

`Sequencer.Next` adds one to the cursor in one atomic step.  `WaitFor` loads
the cursor again and again until it has reached a sequence number, and the
strategies differ in when they yield between two loads.  Any number of
goroutines call `Next` and wait, in any interleaving of their atomic steps.
-/

namespace AeroRisk.Disruptor

open AeroRisk.Library

/-- `Sequencer`. -/
structure Sequencer where
  cursor : Int64
deriving DecidableEq, Repr

namespace Sequencer

/-- `NewSequencer`. -/
def newSequencer : Sequencer where
  cursor := -1

/-- `Next`, with the number which it returns. -/
def next (s : Sequencer) : Sequencer × Int64 :=
  ({ cursor := s.cursor + 1 }, s.cursor + 1)

end Sequencer

/-- The types which implement `WaitStrategy`. -/
inductive WaitStrategy where
  | busySpin
  | yielding
deriving DecidableEq, Repr

/-- Where a goroutine stands in `WaitFor`. -/
inductive WaitPhase where
  /-- Before a load of the cursor, with the counter of `Yielding`. -/
  | loading (counter : Int64)
  /-- In `runtime.Gosched`. -/
  | yielded (counter : Int64)
  | returned (available : Int64)
deriving DecidableEq, Repr

/-- What follows a load in the body of the loop of `WaitFor`. -/
def WaitStrategy.afterLoad (strategy : WaitStrategy) (sequence : Int64)
    (counter available : Int64) : WaitPhase :=
  if available ≥ sequence then
    .returned available
  else
    match strategy with
    | .busySpin => .yielded counter
    | .yielding =>
        if counter + 1 > 10 then
          .yielded (counter + 1)
        else
          .loading (counter + 1)

/-- The sequencer, what `Next` returned, and the waiting goroutines. -/
structure Sequencing where
  sequencer : Sequencer
  claimed : List Int64
  phase : Nat → WaitPhase

/-- A call of `Next`, or the next step of a waiting goroutine. -/
inductive SequencingStep where
  | next
  | wait (waiter : Nat)
deriving DecidableEq, Repr

namespace Sequencing

/-- No number was claimed, and every goroutine is before its first load. -/
def initial : Sequencing where
  sequencer := Sequencer.newSequencer
  claimed := []
  phase := fun _ => .loading 0

/-- The step of a goroutine which waits for a sequence number. -/
def await (strategy : WaitStrategy) (sequence : Int64)
    (sequencer : Sequencer) : WaitPhase → WaitPhase
  | .loading counter =>
      strategy.afterLoad sequence counter sequencer.cursor
  | .yielded counter => .loading counter
  | .returned available => .returned available

variable (strategies : Nat → WaitStrategy) (sequences : Nat → Int64)

/-- What a step does.  The strategy of a goroutine and the sequence number
for which it waits are given. -/
def next (state : Sequencing) : SequencingStep → Sequencing
  | .next =>
      { state with
        sequencer := state.sequencer.next.1
        claimed := state.claimed ++ [state.sequencer.next.2] }
  | .wait waiter =>
      { state with
        phase :=
          Function.update state.phase waiter
            (await (strategies waiter) (sequences waiter) state.sequencer
              (state.phase waiter)) }

/-- The state after some steps. -/
def after (steps : List SequencingStep) : Sequencing :=
  LabelledRun.run (next strategies sequences) initial steps

/-- The number of calls of `Next` in some steps. -/
def claimsIn (steps : List SequencingStep) : Nat :=
  steps.count .next

variable {strategies sequences} {steps more : List SequencingStep}
  {waiter : Nat}

theorem after_append (steps more : List SequencingStep) :
    after strategies sequences (steps ++ more) =
      LabelledRun.run (next strategies sequences)
        (after strategies sequences steps) more :=
  LabelledRun.run_append _ _ _ _

theorem after_concat (steps : List SequencingStep) (step : SequencingStep) :
    after strategies sequences (steps ++ [step]) =
      (after strategies sequences steps).next strategies sequences step :=
  after_append _ _

theorem claimsIn_concat (steps : List SequencingStep)
    (step : SequencingStep) :
    claimsIn (steps ++ [step]) =
      claimsIn steps + if step = .next then 1 else 0 := by
  rw [claimsIn, List.count_append, List.count_singleton, claimsIn]
  simp

theorem claimsIn_append (steps more : List SequencingStep) :
    claimsIn (steps ++ more) = claimsIn steps + claimsIn more :=
  List.count_append

/-- The cursor is the number of calls of `Next`, minus one. -/
theorem cursor_after (steps : List SequencingStep) :
    (after strategies sequences steps).sequencer.cursor =
      Int64.ofInt ((claimsIn steps : Int) - 1) := by
  induction steps using List.reverseRecOn with
  | nil => rfl
  | append_singleton steps step inductionHypothesis =>
      rw [after_concat, claimsIn_concat]
      cases step with
      | next =>
          simp only [next, Sequencer.next, inductionHypothesis, if_true]
          rw [show (1 : Int64) = Int64.ofInt 1 from rfl, ← Int64.ofInt_add]
          congr 1
          omega
      | wait waiter => simpa [next] using inductionHypothesis

/-- Below the overflow the cursor compares as the number of claims does. -/
theorem le_cursor_iff (fits : claimsIn steps ≤ 2 ^ 63) (sequence : Int64) :
    sequence ≤ (after strategies sequences steps).sequencer.cursor ↔
      sequence.toInt < claimsIn steps := by
  rw [cursor_after, Int64.le_iff_toInt_le, Int64.toInt_ofInt_of_le]
  · omega
  · omega
  · omega

/-- The calls of `Next` return the numbers from zero on. -/
theorem claimed_after (steps : List SequencingStep) :
    (after strategies sequences steps).claimed =
      (List.range (claimsIn steps)).map fun number : Nat =>
        Int64.ofInt number := by
  induction steps using List.reverseRecOn with
  | nil => rfl
  | append_singleton steps step inductionHypothesis =>
      rw [after_concat, claimsIn_concat]
      cases step with
      | next =>
          simp only [next, Sequencer.next, inductionHypothesis, if_true]
          rw [List.range_succ, List.map_append, cursor_after,
            show (1 : Int64) = Int64.ofInt 1 from rfl, ← Int64.ofInt_add]
          simp
      | wait waiter => simpa [next] using inductionHypothesis

/-! ## The waiting goroutines -/

variable {state : Sequencing} {counter available : Int64}

@[simp]
theorem phase_next : (state.next strategies sequences .next).phase =
    state.phase :=
  rfl

@[simp]
theorem phase_wait_self :
    (state.next strategies sequences (.wait waiter)).phase waiter =
      await (strategies waiter) (sequences waiter) state.sequencer
        (state.phase waiter) :=
  Function.update_self _ _ _

theorem phase_wait_of_ne {other : Nat} (isOther : waiter ≠ other) :
    (state.next strategies sequences (.wait other)).phase waiter =
      state.phase waiter :=
  Function.update_of_ne isOther _ _

/-- A goroutine which has returned stays so. -/
theorem returned_next (isReturned : state.phase waiter = .returned available)
    (step : SequencingStep) :
    (state.next strategies sequences step).phase waiter =
      .returned available := by
  cases step with
  | next => exact isReturned
  | wait other =>
      by_cases same : waiter = other
      · rw [← same, phase_wait_self, isReturned]
        rfl
      · rw [phase_wait_of_ne same]
        exact isReturned

/-- What is returned has reached the sequence number and is a cursor. -/
theorem returned_after (steps : List SequencingStep) (available : Int64)
    (fits : claimsIn steps ≤ 2 ^ 63)
    (isReturned :
      (after strategies sequences steps).phase waiter =
        .returned available) :
    sequences waiter ≤ available ∧ available.toInt < claimsIn steps := by
  induction steps using List.reverseRecOn with
  | nil => cases isReturned
  | append_singleton steps step inductionHypothesis =>
      have fewer : claimsIn steps ≤ claimsIn (steps ++ [step]) := by
        rw [claimsIn_concat]
        omega
      have before (isBefore :
          (after strategies sequences steps).phase waiter =
            .returned available) :
          sequences waiter ≤ available ∧
            available.toInt < claimsIn (steps ++ [step]) := by
        obtain ⟨reached, isClaimed⟩ :=
          inductionHypothesis (Nat.le_trans fewer fits) isBefore
        exact ⟨reached, by omega⟩
      rw [after_concat] at isReturned
      cases step with
      | next => exact before isReturned
      | wait other =>
          by_cases same : waiter = other
          · subst same
            rw [phase_wait_self] at isReturned
            cases phase :
                (after strategies sequences steps).phase waiter with
            | loading counter =>
                simp only [phase, await,
                  WaitStrategy.afterLoad] at isReturned
                split at isReturned
                · next reached =>
                    cases isReturned
                    have isClaimed :=
                      (le_cursor_iff (Nat.le_trans fewer fits) _).mp
                        (Int64.le_refl
                          (after strategies sequences
                            steps).sequencer.cursor)
                    exact ⟨reached, by omega⟩
                · split at isReturned
                  · cases isReturned
                  · split at isReturned <;> cases isReturned
            | yielded counter =>
                rw [phase] at isReturned
                cases isReturned
            | returned earlier =>
                rw [phase] at isReturned
                exact before (phase.trans isReturned)
          · rw [phase_wait_of_ne same] at isReturned
            exact before isReturned

/-- A number which is below the number of claims was claimed. -/
theorem mem_claimed {available : Int64}
    (nonneg : 0 ≤ available) (below : available.toInt < claimsIn steps) :
    available ∈ (after strategies sequences steps).claimed := by
  have least : 0 ≤ available.toInt := Int64.le_iff_toInt_le.mp nonneg
  rw [claimed_after, List.mem_map]
  refine ⟨available.toInt.toNat, List.mem_range.mpr (by omega), ?_⟩
  rw [Int.toNat_of_nonneg least, Int64.ofInt_toInt]

/-- A goroutine before a load returns at its next step, if it may. -/
theorem wait_of_loading (isLoading : state.phase waiter = .loading counter)
    (reached : sequences waiter ≤ state.sequencer.cursor) :
    (state.next strategies sequences (.wait waiter)).phase waiter =
      .returned state.sequencer.cursor := by
  rw [phase_wait_self, isLoading]
  exact if_pos reached

/-- How many steps a goroutine makes until it has loaded the cursor again. -/
def stepsToLoad : WaitPhase → Nat
  | .loading _ => 1
  | .yielded _ => 2
  | .returned _ => 0

/-- Once its number was claimed, a goroutine returns when it loads again. -/
theorem returned_of_claimed (steps more : List SequencingStep)
    (fits : claimsIn (steps ++ more) ≤ 2 ^ 63)
    (isClaimed : (sequences waiter).toInt < claimsIn steps)
    (enough :
      stepsToLoad ((after strategies sequences steps).phase waiter) ≤
        more.count (.wait waiter)) :
    ∃ available,
      (after strategies sequences (steps ++ more)).phase waiter =
        .returned available := by
  induction more generalizing steps with
  | nil =>
      rw [List.append_nil]
      cases phase : (after strategies sequences steps).phase waiter with
      | loading counter => simp [phase, stepsToLoad] at enough
      | yielded counter => simp [phase, stepsToLoad] at enough
      | returned available => exact ⟨available, rfl⟩
  | cons step rest inductionHypothesis =>
      have atOnce : steps ++ step :: rest = (steps ++ [step]) ++ rest := by
        simp
      have fewer : claimsIn steps ≤ 2 ^ 63 := by
        rw [claimsIn_append] at fits
        omega
      rw [atOnce] at fits ⊢
      refine inductionHypothesis (steps ++ [step]) fits ?_ ?_
      · rw [claimsIn_concat]
        omega
      · rw [after_concat]
        cases step with
        | next => simpa using enough
        | wait other =>
            by_cases same : waiter = other
            · subst same
              rw [List.count_cons_self] at enough
              cases phase :
                  (after strategies sequences steps).phase waiter with
              | loading counter =>
                  rw [wait_of_loading phase
                    ((le_cursor_iff fewer _).mpr isClaimed)]
                  exact Nat.zero_le _
              | yielded counter =>
                  rw [phase] at enough
                  rw [phase_wait_self, phase]
                  exact Nat.le_of_succ_le_succ enough
              | returned available =>
                  rw [returned_next phase]
                  exact Nat.zero_le _
            · rw [phase_wait_of_ne same]
              rw [List.count_cons_of_ne (by simpa using Ne.symm same)]
                at enough
              exact enough

/-! ## Every interleaving -/

/--
While at most `2 ^ 63` numbers are claimed: the calls of `Next` return the
numbers from zero on, each once and in order; a goroutine which has returned
from `WaitFor` was given a number which is not below its own, and a claimed
one when its own is at least zero; and once its own is claimed, a goroutine
returns with its second further step at the latest, whichever strategy it has.
-/
theorem waits_for_claims (strategies : Nat → WaitStrategy)
    (sequences : Nat → Int64) (steps : List SequencingStep)
    (fits : claimsIn steps ≤ 2 ^ 63) :
    (after strategies sequences steps).claimed.map Int64.toInt =
        (List.range (claimsIn steps)).map Int.ofNat ∧
      (∀ waiter available,
        (after strategies sequences steps).phase waiter =
            .returned available →
          sequences waiter ≤ available ∧
            available.toInt < claimsIn steps ∧
            (0 ≤ sequences waiter →
              0 ≤ available ∧
                available ∈ (after strategies sequences steps).claimed)) ∧
      ∀ waiter earlier later, steps = earlier ++ later →
        (sequences waiter).toInt < claimsIn earlier →
          2 ≤ later.count (.wait waiter) →
            ∃ available,
              (after strategies sequences steps).phase waiter =
                .returned available := by
  refine ⟨?_, ?_, ?_⟩
  · rw [claimed_after, List.map_map]
    refine List.map_congr_left fun number inRange => ?_
    have less := List.mem_range.mp inRange
    rw [Function.comp_apply, Int64.toInt_ofInt_of_le]
    · rfl
    · omega
    · omega
  · intro waiter available isReturned
    obtain ⟨reached, isCursor⟩ :=
      returned_after steps available fits isReturned
    refine ⟨reached, isCursor, fun nonneg => ?_⟩
    have least := Int64.le_trans nonneg reached
    exact ⟨least, mem_claimed least isCursor⟩
  · rintro waiter earlier later rfl isClaimed twice
    refine returned_of_claimed earlier later fits isClaimed ?_
    refine Nat.le_trans ?_ twice
    cases (after strategies sequences earlier).phase waiter with
    | loading counter => exact Nat.le_succ 1
    | yielded counter => exact Nat.le_refl 2
    | returned available => exact Nat.zero_le 2

theorem waits_for_claims_sample :
    ∃ available,
      (after (fun _ => .busySpin) (fun _ => 1)
            [.wait 0, .next, .next, .wait 0, .wait 0]).phase 0 =
          .returned available ∧
        available ∈
          (after (fun _ => .busySpin) (fun _ => 1)
            [.wait 0, .next, .next, .wait 0, .wait 0]).claimed := by
  obtain ⟨-, returned, returns⟩ :=
    waits_for_claims (fun _ => .busySpin) (fun _ => 1)
      [.wait 0, .next, .next, .wait 0, .wait 0] (by decide)
  obtain ⟨available, isReturned⟩ :=
    returns 0 [.wait 0, .next, .next] [.wait 0, .wait 0] rfl (by decide)
      (by decide)
  obtain ⟨-, -, isClaimed⟩ := returned 0 available isReturned
  exact ⟨available, isReturned, (isClaimed (by decide)).2⟩

end Sequencing

end AeroRisk.Disruptor
