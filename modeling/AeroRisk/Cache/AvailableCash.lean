import AeroRisk.Cache.AccountState

/-!
# The range of the available cash

`ReserveForOrder` refuses an amount above the available cash.  Nothing bounds
an amount from below, looks at what a released reservation gives back, or
refuses a change of the cash.  This module finds the calls which take the
available cash below zero or above the cash balance.
-/

namespace AeroRisk.Cache

open AeroRisk.Financial
open AeroRisk.Library

namespace AccountState

/-- The available cash is not negative and within the cash balance. -/
def WithinCash (a : AccountState) : Prop :=
  0 ≤ a.availableCash ∧ a.availableCash ≤ a.cashBalance

instance (a : AccountState) : Decidable a.WithinCash :=
  inferInstanceAs (Decidable (_ ∧ _))

/-- The amount takes neither more than is available nor makes it too much. -/
def CanAdd (a : AccountState) (amount : Int64) : Prop :=
  -a.availableCash.toInt ≤ amount.toInt ∧
    amount.toInt ≤ a.cashBalance.toInt - a.availableCash.toInt

/--
A reservation which is not refused does not make more available than there is
cash, what a release gives back fits, and the cash changes by no more than
what is available below and what an `int64` holds above.
-/
def KeepsWithinCash (a : AccountState) : CashCall → Prop
  | .reserveForOrder _ amount =>
      amount ≤ a.availableCash →
        a.availableCash.toInt - a.cashBalance.toInt ≤ amount.toInt
  | .releaseOrderReservation orderID =>
      ∀ amount, a.pendingOrders.lookup orderID = some amount →
        a.CanAdd amount
  | .updateCash delta =>
      -a.availableCash.toInt ≤ delta.toInt ∧
        delta.toInt ≤ Int64.maxValue.toInt - a.cashBalance.toInt

section Calls

variable {a : AccountState} (within : a.WithinCash)

include within

/-- The bounds of the available cash, as exact integers. -/
theorem WithinCash.toInt :
    0 ≤ a.availableCash.toInt ∧
      a.availableCash.toInt ≤ a.cashBalance.toInt ∧
      a.cashBalance.toInt ≤ Int64.maxValue.toInt := by
  refine ⟨toInt_nonneg.mpr within.1, Int64.le_iff_toInt_le.mp within.2, ?_⟩
  exact Int64.le_iff_toInt_le.mp (Int64.le_maxValue _)

theorem withinCash_reserveForOrder (orderID : String) (amount : Int64) :
    (a.reserveForOrder orderID amount).2.WithinCash ↔
      a.KeepsWithinCash (.reserveForOrder orderID amount) := by
  rw [reserveForOrder, KeepsWithinCash]
  by_cases short : a.availableCash < amount
  · have rejected : ¬ amount ≤ a.availableCash := Int64.not_le.mpr short
    simp [short, rejected, within]
  · have enough : amount ≤ a.availableCash := Int64.not_lt.mp short
    obtain ⟨low, high, max⟩ := within.toInt
    have amountLow := Int64.le_toInt amount
    have amountLe := Int64.le_iff_toInt_le.mp enough
    rw [if_neg short, WithinCash, ← toInt_nonneg, Int64.le_iff_toInt_le,
      Int64.toInt_sub, Int.bmod_def]
    rw [Int64.toInt_maxValue] at max
    simp only [enough, true_imp_iff]
    omega

theorem withinCash_add (amount : Int64) :
    0 ≤ a.availableCash + amount ∧
        a.availableCash + amount ≤ a.cashBalance ↔
      a.CanAdd amount := by
  obtain ⟨low, high, max⟩ := within.toInt
  have amountLow := Int64.le_toInt amount
  have amountHigh := Int64.toInt_lt amount
  rw [Int64.toInt_maxValue] at max
  rw [CanAdd, ← toInt_nonneg, Int64.le_iff_toInt_le, Int64.toInt_add,
    Int.bmod_def]
  omega

theorem withinCash_releaseOrderReservation (orderID : String) :
    (a.releaseOrderReservation orderID).WithinCash ↔
      a.KeepsWithinCash (.releaseOrderReservation orderID) := by
  rw [releaseOrderReservation, KeepsWithinCash]
  cases found : a.pendingOrders.lookup orderID with
  | none => simp [within]
  | some amount =>
      simp only [Option.some.injEq, forall_eq']
      exact withinCash_add within amount

theorem withinCash_updateCash (delta : Int64) :
    (a.updateCash delta).WithinCash ↔
      a.KeepsWithinCash (.updateCash delta) := by
  obtain ⟨low, high, max⟩ := within.toInt
  have deltaLow := Int64.le_toInt delta
  have deltaHigh := Int64.toInt_lt delta
  rw [Int64.toInt_maxValue] at max
  rw [updateCash, WithinCash, KeepsWithinCash, ← toInt_nonneg,
    Int64.le_iff_toInt_le, Int64.toInt_add, Int64.toInt_add,
    Int64.toInt_maxValue, Int.bmod_def, Int.bmod_def]
  omega

/-- Exactly the calls which keep the cash within its range do so. -/
theorem withinCash_next (call : CashCall) :
    (a.next call).WithinCash ↔ a.KeepsWithinCash call := by
  cases call with
  | reserveForOrder orderID amount =>
      exact withinCash_reserveForOrder within orderID amount
  | releaseOrderReservation orderID =>
      exact withinCash_releaseOrderReservation within orderID
  | updateCash delta => exact withinCash_updateCash within delta

end Calls

end AccountState

/--
The available cash is within the cash balance in every state of exactly the
runs whose calls all keep it there.
-/
theorem available_cash (now : Nat) (accountID : String)
    (calls : List CashCall) :
    LabelledRun.Always AccountState.next AccountState.WithinCash
        (newAccountState now accountID) calls ↔
      LabelledRun.Along AccountState.next AccountState.KeepsWithinCash
        (newAccountState now accountID) calls := by
  apply LabelledRun.always_iff_along
  · exact fun account within => within
  · intro account call within keeps
    exact (AccountState.withinCash_next within call).mpr keeps
  · intro account call within after
    exact (AccountState.withinCash_next within call).mp after
  · exact ⟨Int64.le_refl 0, Int64.le_refl 0⟩

/-- Cash which is reserved can be paid out. -/
theorem available_cash_fails :
    ¬ ∀ now accountID calls,
        LabelledRun.Always AccountState.next AccountState.WithinCash
          (newAccountState now accountID) calls := by
  intro within
  have atEnd :=
    within 0 "acc-123"
      [.updateCash 100, .reserveForOrder "order-1" 60, .updateCash (-50)] _
      List.prefix_rfl
  exact absurd atEnd (by decide)

/-- A reservation of a negative amount makes more available than there is. -/
example :
    ¬ (LabelledRun.run AccountState.next (newAccountState 0 "acc-123")
        [.updateCash 100, .reserveForOrder "order-1" (-1)]).WithinCash := by
  decide

end AeroRisk.Cache
