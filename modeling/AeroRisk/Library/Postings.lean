import AeroRisk.Library.LabelledRun
import Mathlib.Algebra.BigOperators.Group.Finset.Piecewise
import Mathlib.Algebra.BigOperators.Group.List.Basic
import Mathlib.Tactic.Abel

/-!
# Postings to accounts

A posting adds an amount to one account.  A component which changes balances
only by the postings of its steps has, after every run, the balances which its
postings add up to, and together they hold the total of the postings.
-/

namespace AeroRisk.Library.Postings

open AeroRisk.Library

universe u v w

variable
    {Account : Type u} [DecidableEq Account]
    {Money : Type v} [AddCommGroup Money]

/-- What a list of postings adds to one account. -/
def balance (postings : List (Account × Money)) (account : Account) : Money :=
  ((postings.filter fun posting => posting.1 = account).map Prod.snd).sum

omit [DecidableEq Account] in
/-- What a list of postings adds to all accounts together. -/
def total (postings : List (Account × Money)) : Money :=
  (postings.map Prod.snd).sum

@[simp]
theorem balance_nil (account : Account) :
    balance ([] : List (Account × Money)) account = 0 :=
  rfl

@[simp]
theorem balance_cons (posting : Account × Money)
    (rest : List (Account × Money)) (account : Account) :
    balance (posting :: rest) account =
      (if posting.1 = account then posting.2 else 0) +
        balance rest account := by
  by_cases same : posting.1 = account <;> simp [balance, same]

@[simp]
theorem balance_append (first second : List (Account × Money))
    (account : Account) :
    balance (first ++ second) account =
      balance first account + balance second account := by
  simp [balance]

omit [DecidableEq Account] in
@[simp]
theorem total_nil : total ([] : List (Account × Money)) = 0 :=
  rfl

omit [DecidableEq Account] in
@[simp]
theorem total_cons (posting : Account × Money)
    (rest : List (Account × Money)) :
    total (posting :: rest) = posting.2 + total rest := by
  simp [total]

/-- The accounts posted to hold the total of the postings. -/
theorem sum_balance {accounts : Finset Account}
    (postings : List (Account × Money))
    (known : ∀ posting ∈ postings, posting.1 ∈ accounts) :
    ∑ account ∈ accounts, balance postings account = total postings := by
  induction postings with
  | nil => simp
  | cons posting rest inductionHypothesis =>
      rw [List.forall_mem_cons] at known
      simp only [balance_cons, total_cons, Finset.sum_add_distrib,
        inductionHypothesis known.2, Finset.sum_ite_eq, known.1, if_true]

section Runs

variable
    {State : Type w} {Label : Type*}
    {next : State → Label → State}

/--
A view to which every step from an invariant adds an amount adds up the
amounts of a run.
-/
theorem view_run_of_invariant {invariant : State → Prop}
    (preserved :
      ∀ state label, invariant state → invariant (next state label))
    (view : State → Money) (amount : State → Label → Money)
    (adds :
      ∀ state label,
        invariant state →
          view (next state label) = view state + amount state label)
    {start : State} (initially : invariant start) (labels : List Label) :
    view (LabelledRun.run next start labels) =
      view start + (LabelledRun.outputs next amount start labels).sum := by
  induction labels generalizing start with
  | nil => simp
  | cons label rest inductionHypothesis =>
      rw [LabelledRun.run_cons,
        inductionHypothesis (preserved start label initially),
        adds start label initially, LabelledRun.outputs_cons, List.sum_cons,
        add_assoc]

/-- A view to which every step adds an amount adds up the amounts of a run. -/
theorem view_run (view : State → Money) (amount : State → Label → Money)
    (adds :
      ∀ state label, view (next state label) = view state + amount state label)
    (start : State) (labels : List Label) :
    view (LabelledRun.run next start labels) =
      view start + (LabelledRun.outputs next amount start labels).sum := by
  let anyState : State → Prop := fun _ => True
  have preserved :
      ∀ state label, anyState state → anyState (next state label) :=
    fun _ _ known => known
  exact
    view_run_of_invariant preserved view amount
      (fun state label _ => adds state label) True.intro labels

/-- Steps which all add nothing add nothing together. -/
theorem sum_outputs_eq_zero {amount : State → Label → Money} {start : State}
    {labels : List Label}
    (nothing :
      LabelledRun.Along next (fun state label => amount state label = 0)
        start labels) :
    (LabelledRun.outputs next amount start labels).sum = 0 := by
  induction labels generalizing start with
  | nil => rfl
  | cons label rest inductionHypothesis =>
      rw [LabelledRun.outputs_cons, List.sum_cons, nothing.1, zero_add,
        inductionHypothesis nothing.2]

theorem sum_outputs_add (first second : State → Label → Money)
    (start : State) (labels : List Label) :
    (LabelledRun.outputs next
        (fun state label => first state label + second state label)
        start labels).sum =
      (LabelledRun.outputs next first start labels).sum +
        (LabelledRun.outputs next second start labels).sum := by
  induction labels generalizing start with
  | nil => simp
  | cons label rest inductionHypothesis =>
      simp only [LabelledRun.outputs_cons, List.sum_cons, inductionHypothesis]
      abel

theorem sum_outputs_neg (amount : State → Label → Money)
    (start : State) (labels : List Label) :
    (LabelledRun.outputs next (fun state label => -amount state label)
        start labels).sum =
      -(LabelledRun.outputs next amount start labels).sum := by
  induction labels generalizing start with
  | nil => simp
  | cons label rest inductionHypothesis =>
      simp only [LabelledRun.outputs_cons, List.sum_cons, inductionHypothesis]
      abel

end Runs

end AeroRisk.Library.Postings
