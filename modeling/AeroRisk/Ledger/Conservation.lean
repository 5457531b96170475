import AeroRisk.Ledger.Accounts
import Mathlib.Data.Int.ModEq

/-!
# Conservation of money

The balances are `int64` values which wrap around, so their sum is known
modulo `2 ^ 64`.  It is the money which came in by account openings and
deposits less the money which went out by withdrawals.
-/

namespace AeroRisk.Ledger

open AeroRisk.Financial
open AeroRisk.Library

/-- The sum of all account balances, as an exact integer. -/
def totalBalance (l : Ledger) : Int :=
  ∑ accountID ∈ l.accounts.keys, (l.balanceOf accountID).toInt

/-- The initial balance when the call opens an account. -/
def Request.opened : Request → Quantity
  | .createAccount _ initialBalance => initialBalance
  | _ => 0

/-- The amount when the call is a deposit. -/
def Request.deposited : Request → Quantity
  | .deposit _ amount => amount
  | _ => 0

/-- The amount when the call is a withdrawal. -/
def Request.withdrawn : Request → Quantity
  | .withdraw _ amount => amount
  | _ => 0

/-- An amount of a call, which counts when the call succeeds. -/
def successful (amount : Request → Quantity) (l : Ledger)
    (request : Request) : Quantity :=
  if l.error request = none then amount request else 0

/-- The sum of an amount over the successful calls of a run. -/
def sumOf (amount : Request → Quantity) (l : Ledger)
    (requests : List Request) : Int :=
  ((LabelledRun.outputs next (successful amount) l requests).map
    Int64.toInt).sum

/-! ## The sum of the balances modulo `2 ^ 64` -/

/-- The quantity to which an exact integer wraps around. -/
def wrap : Int →+ Quantity where
  toFun := Int64.ofInt
  map_zero' := rfl
  map_add' := Int64.ofInt_add

theorem wrap_toInt (quantity : Quantity) : wrap quantity.toInt = quantity :=
  Int64.ofInt_toInt quantity

/-- Integers wrap to one quantity when they agree modulo `2 ^ 64`. -/
theorem wrap_eq_iff (first second : Int) :
    wrap first = wrap second ↔ first ≡ second [ZMOD 2 ^ 64] := by
  have toInt_wrap : ∀ value, (wrap value).toInt = value.bmod (2 ^ 64) :=
    fun value => Int64.toInt_ofInt
  rw [← Int64.toInt_inj, toInt_wrap, toInt_wrap]
  constructor
  · intro sameBmod
    have sameEmod := congrArg (· % ((2 ^ 64 : Nat) : Int)) sameBmod
    simp only [Int.bmod_emod] at sameEmod
    exact sameEmod
  · intro sameEmod
    have sameBmod := congrArg (fun value => Int.bmod value (2 ^ 64)) sameEmod
    have isCast : (2 ^ 64 : Int) = ((2 ^ 64 : Nat) : Int) := rfl
    simpa only [isCast, Int.emod_bmod] using sameBmod

theorem wrap_totalBalance (l : Ledger) :
    wrap l.totalBalance =
      ∑ accountID ∈ l.accounts.keys, l.balanceOf accountID := by
  simp only [totalBalance, map_sum, wrap_toInt]

theorem wrap_sumOf (amount : Request → Quantity) (l : Ledger)
    (requests : List Request) :
    wrap (sumOf amount l requests) =
      (LabelledRun.outputs next (successful amount) l requests).sum := by
  have unwrapped : wrap ∘ Int64.toInt = id := funext wrap_toInt
  rw [sumOf, map_list_sum, List.map_map, unwrapped, List.map_id]

/-- A call adds the total of its postings to the sum of the balances. -/
theorem wrap_totalBalance_next (l : Ledger) (request : Request) :
    wrap (l.next request).totalBalance =
      wrap l.totalBalance + Postings.total (l.postings request) := by
  have grown : l.accounts.keys ⊆ (l.next request).accounts.keys := by
    intro accountID present
    rw [Finmap.mem_keys] at present ⊢
    exact (l.mem_next request accountID).mpr (Or.inl present)
  have newEmpty :
      ∀ accountID ∈ (l.next request).accounts.keys,
        accountID ∉ l.accounts.keys → l.balanceOf accountID = 0 := by
    intro accountID _ absent
    rw [Finmap.mem_keys] at absent
    exact l.balanceOf_of_notMem absent
  have known :
      ∀ posting ∈ l.postings request,
        posting.1 ∈ (l.next request).accounts.keys := by
    intro posting member
    rw [Finmap.mem_keys]
    exact (l.mem_next request posting.1).mpr (Or.inr ⟨posting, member, rfl⟩)
  rw [wrap_totalBalance, wrap_totalBalance, ← Postings.sum_balance _ known,
    Finset.sum_subset grown newEmpty, ← Finset.sum_add_distrib]
  exact Finset.sum_congr rfl fun accountID _ =>
    l.balanceOf_next request accountID

/-- What goes in, less what goes out; a transfer does neither. -/
theorem total_postings (l : Ledger) (request : Request) :
    Postings.total (l.postings request) =
      successful Request.opened l request +
        successful Request.deposited l request +
          -successful Request.withdrawn l request := by
  by_cases accepted : l.error request = none
  · cases request <;>
      simp [postings, successful, accepted, Request.postings, Request.opened,
        Request.deposited, Request.withdrawn]
  · simp [postings, successful, accepted]

/-- The sum of the balances after a run. -/
theorem wrap_totalBalance_run (l : Ledger) (requests : List Request) :
    wrap (LabelledRun.run next l requests).totalBalance =
      wrap
        (l.totalBalance + sumOf Request.opened l requests +
          sumOf Request.deposited l requests -
            sumOf Request.withdrawn l requests) := by
  have adds :
      ∀ (l : Ledger) request,
        wrap (l.next request).totalBalance =
          wrap l.totalBalance +
            (successful Request.opened l request +
              successful Request.deposited l request +
                -successful Request.withdrawn l request) := by
    intro l request
    rw [wrap_totalBalance_next, total_postings]
  have summed :=
    Postings.view_run (fun l => wrap (totalBalance l)) _ adds l requests
  rw [Postings.sum_outputs_add, Postings.sum_outputs_add,
    Postings.sum_outputs_neg] at summed
  rw [summed, map_sub, map_add, map_add, wrap_sumOf, wrap_sumOf, wrap_sumOf]
  abel

/--
The balances add up, modulo `2 ^ 64`, to the initial balances of the accounts
which were created plus the amounts of the successful deposits minus those of
the successful withdrawals.  No transfer changes their sum, whether it
succeeds or not.
-/
theorem conservation (requests : List Request) :
    (LabelledRun.run next newLedger requests).totalBalance ≡
        sumOf Request.opened newLedger requests +
          sumOf Request.deposited newLedger requests -
            sumOf Request.withdrawn newLedger requests [ZMOD 2 ^ 64] ∧
      ∀ (l : Ledger) (fromID toID : UInt64) (amount : Quantity),
        (l.transfer fromID toID amount).1.totalBalance ≡
          l.totalBalance [ZMOD 2 ^ 64] := by
  constructor
  · have summed := wrap_totalBalance_run newLedger requests
    have startsEmpty : newLedger.totalBalance = 0 := rfl
    rw [startsEmpty, zero_add] at summed
    exact (wrap_eq_iff _ _).mp summed
  · intro l fromID toID amount
    have kept := l.wrap_totalBalance_next (.transfer fromID toID amount)
    rw [total_postings] at kept
    apply (wrap_eq_iff _ _).mp
    calc
      wrap (l.transfer fromID toID amount).1.totalBalance =
          wrap (l.next (.transfer fromID toID amount)).totalBalance := rfl
      _ = wrap l.totalBalance := by
        simpa [successful, Request.opened, Request.deposited,
          Request.withdrawn] using kept

end AeroRisk.Ledger
