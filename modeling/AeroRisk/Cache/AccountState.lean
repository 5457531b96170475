import AeroRisk.Cache.CircuitBreaker
import AeroRisk.Ledger.Accounts
import AeroRisk.Library.LabelledRun
import AeroRisk.Library.MapTotal

/-!
# Account states and their reservations

An account state is what the engine caches about an account: the cash, and
what of it is reserved by pending orders.  Cash amounts are counted in cents
and added as in the ledger, modulo `2 ^ 64`.
-/

namespace AeroRisk.Cache

open AeroRisk.Library
open AeroRisk.Library.MapTotal
open scoped AeroRisk.Ledger

/-- `AccountState`. -/
structure AccountState where
  accountID : String
  cashBalance : Int64
  availableCash : Int64
  pendingOrders : Finmap fun _ : String => Int64
  positions : Finmap fun _ : String => Int64
  riskLevel : String
  circuitBroken : Bool
  lastUpdated : Int64
deriving DecidableEq

/-- `NewAccountState`. -/
def newAccountState (now : Nat) (accountID : String) : AccountState where
  accountID := accountID
  cashBalance := 0
  availableCash := 0
  pendingOrders := ∅
  positions := ∅
  riskLevel := "normal"
  circuitBroken := false
  lastUpdated := unixNano now

namespace AccountState

/-- `AccountState.ReserveForOrder`, with the account which it leaves. -/
def reserveForOrder (a : AccountState) (orderID : String) (amount : Int64) :
    Bool × AccountState :=
  if a.availableCash < amount then
    (false, a)
  else
    (true,
      { a with
        availableCash := a.availableCash - amount
        pendingOrders := a.pendingOrders.insert orderID amount })

/-- `AccountState.ReleaseOrderReservation`. -/
def releaseOrderReservation (a : AccountState) (orderID : String) :
    AccountState :=
  match a.pendingOrders.lookup orderID with
  | none => a
  | some amount =>
      { a with
        availableCash := a.availableCash + amount
        pendingOrders := a.pendingOrders.erase orderID }

/-- The change which `AccountStateManager.UpdateCash` makes to an account. -/
def updateCash (a : AccountState) (delta : Int64) : AccountState :=
  { a with
    cashBalance := a.cashBalance + delta
    availableCash := a.availableCash + delta }

end AccountState

/-- A call which changes the cash of an account or what is reserved of it. -/
inductive CashCall where
  | reserveForOrder (orderID : String) (amount : Int64)
  | releaseOrderReservation (orderID : String)
  | updateCash (delta : Int64)
deriving DecidableEq, Repr

namespace AccountState

/-- The account after a call. -/
def next (a : AccountState) : CashCall → AccountState
  | .reserveForOrder orderID amount => (a.reserveForOrder orderID amount).2
  | .releaseOrderReservation orderID => a.releaseOrderReservation orderID
  | .updateCash delta => a.updateCash delta

/-- All cash is available or reserved by a pending order. -/
def Accounted (a : AccountState) : Prop :=
  a.cashBalance = a.availableCash + total a.pendingOrders

instance (a : AccountState) : Decidable a.Accounted :=
  inferInstanceAs (Decidable (_ = _))

/--
The call reserves an amount for an order which has one already: there is cash
for the new amount, and the old one is not zero.
-/
def ReservesAgain (a : AccountState) : CashCall → Prop
  | .reserveForOrder orderID amount =>
      amount ≤ a.availableCash ∧ valueAt a.pendingOrders orderID ≠ 0
  | .releaseOrderReservation _ => False
  | .updateCash _ => False

theorem accounted_newAccountState (now : Nat) (accountID : String) :
    (newAccountState now accountID).Accounted := by
  simp [Accounted, newAccountState]

/-- A reservation keeps the accounts unless it replaces another one. -/
theorem accounted_reserveForOrder {a : AccountState} (accounted : a.Accounted)
    (orderID : String) (amount : Int64) :
    (a.reserveForOrder orderID amount).2.Accounted ↔
      ¬ a.ReservesAgain (.reserveForOrder orderID amount) := by
  rw [reserveForOrder, ReservesAgain]
  by_cases short : a.availableCash < amount
  · have rejected : ¬ amount ≤ a.availableCash := Int64.not_le.mpr short
    simp [short, rejected, accounted]
  · have enough : amount ≤ a.availableCash := Int64.not_lt.mp short
    rw [if_neg short, Accounted, accounted, total_insert]
    have moved :
        a.availableCash - amount +
            (total a.pendingOrders - valueAt a.pendingOrders orderID +
              amount) =
          a.availableCash + total a.pendingOrders -
            valueAt a.pendingOrders orderID := by
      abel
    rw [moved, eq_comm, sub_eq_self]
    simp [enough]

theorem accounted_releaseOrderReservation {a : AccountState}
    (accounted : a.Accounted) (orderID : String) :
    (a.releaseOrderReservation orderID).Accounted := by
  rw [releaseOrderReservation]
  cases found : a.pendingOrders.lookup orderID with
  | none => exact accounted
  | some amount =>
      rw [Accounted, total_erase, valueAt, found, accounted]
      simp

theorem accounted_updateCash {a : AccountState} (accounted : a.Accounted)
    (delta : Int64) : (a.updateCash delta).Accounted := by
  rw [Accounted, updateCash, accounted]
  exact add_right_comm _ _ _

/-- Exactly the calls which reserve again break the accounts. -/
theorem accounted_next {a : AccountState} (accounted : a.Accounted)
    (call : CashCall) :
    (a.next call).Accounted ↔ ¬ a.ReservesAgain call := by
  cases call with
  | reserveForOrder orderID amount =>
      exact accounted_reserveForOrder accounted orderID amount
  | releaseOrderReservation orderID =>
      have after := accounted_releaseOrderReservation accounted orderID
      exact iff_of_true after id
  | updateCash delta =>
      exact iff_of_true (accounted_updateCash accounted delta) id

end AccountState

/--
The cash of an account is available or reserved at every step of exactly the
runs in which no order is given a second reservation.
-/
theorem reservation_accounting (now : Nat) (accountID : String)
    (calls : List CashCall) :
    LabelledRun.Always AccountState.next AccountState.Accounted
        (newAccountState now accountID) calls ↔
      LabelledRun.Along AccountState.next
        (fun account call => ¬ account.ReservesAgain call)
        (newAccountState now accountID) calls := by
  apply LabelledRun.always_iff_along
  · exact fun account accounted => accounted
  · intro account call accounted once
    exact (AccountState.accounted_next accounted call).mpr once
  · intro account call accounted after
    exact (AccountState.accounted_next accounted call).mp after
  · exact AccountState.accounted_newAccountState now accountID

/-- The second reservation of an order replaces the first one. -/
theorem reservation_accounting_fails :
    ¬ ∀ now accountID calls,
        LabelledRun.Always AccountState.next AccountState.Accounted
          (newAccountState now accountID) calls := by
  intro accounted
  have atEnd :=
    accounted 0 "acc-123"
      [.updateCash 100, .reserveForOrder "order-1" 10,
        .reserveForOrder "order-1" 20] _ List.prefix_rfl
  exact absurd atEnd (by decide)

end AeroRisk.Cache
