import AeroRisk.Ledger.Accounts

/-!
# Credits

`Deposit` and `Transfer` add an amount to the balance of an account without
looking at the sum.  This module finds the credits which the balance takes
without wrapping around.
-/

namespace AeroRisk.Ledger

open AeroRisk.Financial
open AeroRisk.Library

/-- The account which a call credits, and the amount. -/
def Request.credit : Request → Option (UInt64 × Quantity)
  | .deposit accountID amount => some (accountID, amount)
  | .transfer fromID toID amount =>
      if fromID = toID then none else some (toID, amount)
  | _ => none

/--
The credit of a call adds the exact amount to the balance when the call
succeeds, and a credit above the largest balance is refused.
-/
def CreditsExactly (l : Ledger) (request : Request) : Prop :=
  ∀ accountID amount, request.credit = some (accountID, amount) →
    0 ≤ amount →
      (l.error request = none →
          ((l.next request).balanceOf accountID).toInt =
            (l.balanceOf accountID).toInt + amount.toInt) ∧
        (Int64.maxValue.toInt <
            (l.balanceOf accountID).toInt + amount.toInt →
          l.error request ≠ none)

/--
The accounts of the call exist and the one which is debited holds the amount:
the only things for which the code looks.
-/
def Covered (l : Ledger) : Request → Prop
  | .createAccount id _ => id ∉ l.accounts
  | .deposit accountID _ => accountID ∈ l.accounts
  | .withdraw accountID amount =>
      accountID ∈ l.accounts ∧ amount ≤ l.balanceOf accountID
  | .transfer fromID toID amount =>
      fromID ∈ l.accounts ∧ toID ∈ l.accounts ∧ amount ≤ l.balanceOf fromID

/-- A covered call credits no balance with more than what it can hold. -/
def CreditFits (l : Ledger) (request : Request) : Prop :=
  ∀ accountID amount, request.credit = some (accountID, amount) →
    0 ≤ amount → l.Covered request →
      (l.balanceOf accountID).toInt + amount.toInt ≤ Int64.maxValue.toInt

/-- A call succeeds exactly when it is covered. -/
theorem error_eq_none_iff (l : Ledger) (request : Request) :
    l.error request = none ↔ l.Covered request := by
  cases request with
  | createAccount id initialBalance =>
      exact l.error_createAccount id initialBalance
  | deposit accountID amount => exact l.error_deposit accountID amount
  | withdraw accountID amount => exact l.error_withdraw accountID amount
  | transfer fromID toID amount => exact l.error_transfer fromID toID amount

/-- A sum with a non-negative amount is exact unless it is too large. -/
theorem toInt_add_eq_iff {balance amount : Quantity} (nonneg : 0 ≤ amount) :
    (balance + amount).toInt = balance.toInt + amount.toInt ↔
      balance.toInt + amount.toInt ≤ Int64.maxValue.toInt := by
  have amountNonneg := toInt_nonneg.mpr nonneg
  have balanceLow := Int64.le_toInt balance
  have balanceHigh := Int64.toInt_lt balance
  have amountHigh := Int64.toInt_lt amount
  rw [Int64.toInt_maxValue, Int64.toInt_add, Int.bmod_def]
  omega

/-- A successful call adds its credit to the balance of the account. -/
theorem balanceOf_next_of_credit {l : Ledger} {request : Request}
    {accountID : UInt64} {amount : Quantity}
    (credits : request.credit = some (accountID, amount))
    (accepted : l.error request = none) :
    (l.next request).balanceOf accountID =
      l.balanceOf accountID + amount := by
  rw [balanceOf_next_of_success l accepted]
  cases request with
  | createAccount id initialBalance => cases credits
  | deposit id deposited =>
      cases credits
      simp [Request.postings]
  | withdraw id withdrawn => cases credits
  | transfer fromID toID transferred =>
      rw [Request.credit] at credits
      split at credits
      · cases credits
      · next different =>
          cases credits
          simp [Request.postings, different]

/--
In every state which a new ledger reaches, a call credits the exact amount or
refuses it if and only if no covered credit is more than the balance can hold.
-/
theorem credit_exact (requests : List Request) (request : Request) :
    (LabelledRun.run next newLedger requests).CreditsExactly request ↔
      (LabelledRun.run next newLedger requests).CreditFits request := by
  generalize LabelledRun.run next newLedger requests = l
  constructor
  · intro exactly accountID amount credits nonneg covered
    have accepted := (l.error_eq_none_iff request).mpr covered
    have sum := (exactly accountID amount credits nonneg).1 accepted
    rw [balanceOf_next_of_credit credits accepted] at sum
    exact (toInt_add_eq_iff nonneg).mp sum
  · intro fits accountID amount credits nonneg
    constructor
    · intro accepted
      have covered := (l.error_eq_none_iff request).mp accepted
      rw [balanceOf_next_of_credit credits accepted]
      exact
        (toInt_add_eq_iff nonneg).mpr
          (fits accountID amount credits nonneg covered)
    · intro tooLarge accepted
      have covered := (l.error_eq_none_iff request).mp accepted
      have fitting := fits accountID amount credits nonneg covered
      exact absurd tooLarge (Int.not_lt.mpr fitting)

/-- A deposit of one into a full account succeeds with a negative balance. -/
theorem credit_exact_fails :
    ¬ ∀ (requests : List Request) (request : Request),
        (LabelledRun.run next newLedger requests).CreditsExactly
          request := by
  intro exactly
  have deposited :=
    exactly [.createAccount 1 Int64.maxValue] (.deposit 1 1) 1 1 rfl
      (by decide)
  exact absurd (deposited.1 (by decide)) (by decide)

/-- A transfer wraps the balance of the receiver in the same way. -/
example :
    (LabelledRun.run next newLedger
        [.createAccount 1 1, .createAccount 2 Int64.maxValue,
          .transfer 1 2 1]).balanceOf 2 = Int64.minValue := by
  decide

end AeroRisk.Ledger
