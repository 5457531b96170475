import AeroRisk.Financial
import AeroRisk.Library.Postings
import Mathlib.Data.Finmap

/-!
# The ledger of accounts

`Ledger` keeps the accounts in a map and a journal of transactions.  Every
method takes the lock of the ledger, so the calls happen one after the other.
The time stamps of the journal are left out.
-/

namespace AeroRisk

open AeroRisk.Financial
open AeroRisk.Library

namespace Ledger

/-- The errors of the package. -/
inductive LedgerError where
  | accountExists
  | accountNotFound
  | insufficientFunds
  | invalidAmount
deriving DecidableEq, Repr

/-- `TransactionType`. -/
inductive TransactionType where
  | unknown
  | deposit
  | withdrawal
  | transfer
  | trade
deriving DecidableEq, Repr

/-- `Transaction`, an entry of the journal. -/
structure Transaction where
  id : UInt64
  type : TransactionType
  accountID : UInt64
  amount : Quantity
  balance : Quantity
deriving DecidableEq, Repr

/-- `Account`. -/
structure Account where
  id : UInt64
  balance : Quantity
deriving DecidableEq, Repr

end Ledger

/-- `Ledger`: the accounts by their IDs and the journal. -/
structure Ledger where
  accounts : Finmap fun _ : UInt64 => Ledger.Account
  transactions : List Ledger.Transaction
  nextTxnID : UInt64
deriving DecidableEq

namespace Ledger

/-- `NewLedger`. -/
def newLedger : Ledger where
  accounts := ∅
  transactions := []
  nextTxnID := 0

/-! ## The methods -/

/-- The balance which is read through the pointer to an account. -/
def balanceOf (l : Ledger) (accountID : UInt64) : Quantity :=
  (l.accounts.lookup accountID).elim 0 Account.balance

/-- The store of a balance through the pointer to an account. -/
def setBalance (l : Ledger) (accountID : UInt64) (balance : Quantity) :
    Ledger :=
  match l.accounts.lookup accountID with
  | none => l
  | some account =>
      { l with
        accounts := l.accounts.insert accountID { account with balance } }

/-- `recordTransaction`. -/
def recordTransaction (l : Ledger) (txnType : TransactionType)
    (accountID : UInt64) (amount balance : Quantity) : Ledger :=
  { l with
    nextTxnID := l.nextTxnID + 1
    transactions :=
      l.transactions ++
        [{ id := l.nextTxnID + 1
           type := txnType
           accountID
           amount
           balance }] }

/-- `CreateAccount`. -/
def createAccount (l : Ledger) (id : UInt64) (initialBalance : Quantity) :
    Ledger × Option LedgerError :=
  if id ∈ l.accounts then
    (l, some .accountExists)
  else
    ({ l with
       accounts := l.accounts.insert id { id, balance := initialBalance } },
      none)

/-- `GetBalance`. -/
def getBalance (l : Ledger) (accountID : UInt64) :
    Quantity × Option LedgerError :=
  match l.accounts.lookup accountID with
  | none => (0, some .accountNotFound)
  | some account => (account.balance, none)

/-- `Deposit`. -/
def deposit (l : Ledger) (accountID : UInt64) (amount : Quantity) :
    Ledger × Option LedgerError :=
  if accountID ∉ l.accounts then
    (l, some .accountNotFound)
  else
    let l := l.setBalance accountID (l.balanceOf accountID + amount)
    (l.recordTransaction .deposit accountID amount (l.balanceOf accountID),
      none)

/-- `Withdraw`. -/
def withdraw (l : Ledger) (accountID : UInt64) (amount : Quantity) :
    Ledger × Option LedgerError :=
  if accountID ∉ l.accounts then
    (l, some .accountNotFound)
  else if l.balanceOf accountID < amount then
    (l, some .insufficientFunds)
  else
    let l := l.setBalance accountID (l.balanceOf accountID - amount)
    (l.recordTransaction .withdrawal accountID amount
      (l.balanceOf accountID), none)

/--
`Transfer`.  The two pointers are the same when the two IDs are, so the second
store reads the balance which the first one left.
-/
def transfer (l : Ledger) (fromID toID : UInt64) (amount : Quantity) :
    Ledger × Option LedgerError :=
  if fromID ∉ l.accounts then
    (l, some .accountNotFound)
  else if toID ∉ l.accounts then
    (l, some .accountNotFound)
  else if l.balanceOf fromID < amount then
    (l, some .insufficientFunds)
  else
    let l := l.setBalance fromID (l.balanceOf fromID - amount)
    let l := l.setBalance toID (l.balanceOf toID + amount)
    let l := l.recordTransaction .transfer fromID (-amount)
      (l.balanceOf fromID)
    (l.recordTransaction .transfer toID amount (l.balanceOf toID), none)

/-- `GetTransactions`. -/
def getTransactions (l : Ledger) (accountID : UInt64) : List Transaction :=
  l.transactions.filter fun txn => txn.accountID = accountID

/-! ## Calls -/

/-- A call which may change the ledger. -/
inductive Request where
  | createAccount (id : UInt64) (initialBalance : Quantity)
  | deposit (accountID : UInt64) (amount : Quantity)
  | withdraw (accountID : UInt64) (amount : Quantity)
  | transfer (fromID toID : UInt64) (amount : Quantity)
deriving DecidableEq, Repr

/-- The ledger after a call, and the error which the call returns. -/
def perform (l : Ledger) : Request → Ledger × Option LedgerError
  | .createAccount id initialBalance => l.createAccount id initialBalance
  | .deposit accountID amount => l.deposit accountID amount
  | .withdraw accountID amount => l.withdraw accountID amount
  | .transfer fromID toID amount => l.transfer fromID toID amount

/-- The ledger after a call. -/
def next (l : Ledger) (request : Request) : Ledger :=
  (l.perform request).1

/-- The error which a call returns, if any. -/
def error (l : Ledger) (request : Request) : Option LedgerError :=
  (l.perform request).2

/-! ## What a call does -/

section Stores

variable (l : Ledger) (accountID other : UInt64) (amount balance : Quantity)

theorem balanceOf_of_notMem {accountID : UInt64}
    (absent : accountID ∉ l.accounts) : l.balanceOf accountID = 0 := by
  rw [balanceOf, Finmap.lookup_eq_none.mpr absent]
  rfl

theorem balanceOf_insert (account : Account) :
    balanceOf { l with accounts := l.accounts.insert accountID account }
        other =
      if other = accountID then account.balance else l.balanceOf other := by
  by_cases same : other = accountID
  · subst same
    simp [balanceOf]
  · simp [balanceOf, Finmap.lookup_insert_of_ne _ same, same]

/-- A store through a pointer changes the balance of its account. -/
theorem balanceOf_setBalance {accountID : UInt64}
    (present : accountID ∈ l.accounts) :
    (l.setBalance accountID balance).balanceOf other =
      if other = accountID then balance else l.balanceOf other := by
  obtain ⟨account, found⟩ := Finmap.mem_iff.mp present
  simp only [setBalance, found]
  exact balanceOf_insert l accountID other { account with balance }

@[simp]
theorem mem_setBalance :
    other ∈ (l.setBalance accountID balance).accounts ↔
      other ∈ l.accounts := by
  cases found : l.accounts.lookup accountID with
  | none => simp [setBalance, found]
  | some account =>
      simp only [setBalance, found, Finmap.mem_insert, or_iff_right_iff_imp]
      rintro rfl
      exact Finmap.mem_of_lookup_eq_some found

@[simp]
theorem transactions_setBalance :
    (l.setBalance accountID balance).transactions = l.transactions := by
  rw [setBalance]
  split <;> rfl

@[simp]
theorem nextTxnID_setBalance :
    (l.setBalance accountID balance).nextTxnID = l.nextTxnID := by
  rw [setBalance]
  split <;> rfl

variable (txnType : TransactionType)

@[simp]
theorem balanceOf_recordTransaction :
    (l.recordTransaction txnType accountID amount balance).balanceOf other =
      l.balanceOf other :=
  rfl

@[simp]
theorem accounts_recordTransaction :
    (l.recordTransaction txnType accountID amount balance).accounts =
      l.accounts :=
  rfl

@[simp]
theorem transactions_recordTransaction :
    (l.recordTransaction txnType accountID amount balance).transactions =
      l.transactions ++
        [{ id := l.nextTxnID + 1
           type := txnType
           accountID
           amount
           balance }] :=
  rfl

@[simp]
theorem nextTxnID_recordTransaction :
    (l.recordTransaction txnType accountID amount balance).nextTxnID =
      l.nextTxnID + 1 :=
  rfl

end Stores

/-- The five things which a call can do. -/
inductive Performed (l : Ledger) :
    Request → Ledger × Option LedgerError → Prop
  | refused (request : Request) (error : LedgerError) :
      Performed l request (l, some error)
  | created (id : UInt64) (initialBalance : Quantity)
      (absent : id ∉ l.accounts) :
      Performed l (.createAccount id initialBalance)
        ({ l with
           accounts :=
             l.accounts.insert id { id, balance := initialBalance } }, none)
  | deposited (accountID : UInt64) (amount : Quantity)
      (present : accountID ∈ l.accounts) :
      Performed l (.deposit accountID amount)
        (let l := l.setBalance accountID (l.balanceOf accountID + amount)
         l.recordTransaction .deposit accountID amount
           (l.balanceOf accountID), none)
  | withdrawn (accountID : UInt64) (amount : Quantity)
      (present : accountID ∈ l.accounts)
      (covered : amount ≤ l.balanceOf accountID) :
      Performed l (.withdraw accountID amount)
        (let l := l.setBalance accountID (l.balanceOf accountID - amount)
         l.recordTransaction .withdrawal accountID amount
           (l.balanceOf accountID), none)
  | transferred (fromID toID : UInt64) (amount : Quantity)
      (fromPresent : fromID ∈ l.accounts) (toPresent : toID ∈ l.accounts)
      (covered : amount ≤ l.balanceOf fromID) :
      Performed l (.transfer fromID toID amount)
        (let l := l.setBalance fromID (l.balanceOf fromID - amount)
         let l := l.setBalance toID (l.balanceOf toID + amount)
         let l := l.recordTransaction .transfer fromID (-amount)
           (l.balanceOf fromID)
         l.recordTransaction .transfer toID amount (l.balanceOf toID), none)

theorem perform_performed (l : Ledger) (request : Request) :
    l.Performed request (l.perform request) := by
  cases request with
  | createAccount id initialBalance =>
      simp only [perform, createAccount]
      split
      · exact .refused _ _
      · next absent => exact .created id initialBalance absent
  | deposit accountID amount =>
      simp only [perform, deposit]
      split
      · exact .refused _ _
      · next present =>
          exact .deposited accountID amount (not_not.mp present)
  | withdraw accountID amount =>
      simp only [perform, withdraw]
      split
      · exact .refused _ _
      · next present =>
          split
          · exact .refused _ _
          · next covered =>
              exact
                .withdrawn accountID amount (not_not.mp present)
                  (Int64.not_lt.mp covered)
  | transfer fromID toID amount =>
      simp only [perform, transfer]
      split
      · exact .refused _ _
      · next fromPresent =>
          split
          · exact .refused _ _
          · next toPresent =>
              split
              · exact .refused _ _
              · next covered =>
                  exact
                    .transferred fromID toID amount (not_not.mp fromPresent)
                      (not_not.mp toPresent) (Int64.not_lt.mp covered)

theorem error_createAccount (l : Ledger) (id : UInt64)
    (initialBalance : Quantity) :
    l.error (.createAccount id initialBalance) = none ↔ id ∉ l.accounts := by
  by_cases present : id ∈ l.accounts <;>
    simp [error, perform, createAccount, present]

theorem error_withdraw (l : Ledger) (accountID : UInt64)
    (amount : Quantity) :
    l.error (.withdraw accountID amount) = none ↔
      accountID ∈ l.accounts ∧ amount ≤ l.balanceOf accountID := by
  by_cases present : accountID ∈ l.accounts
  · by_cases covered : l.balanceOf accountID < amount <;>
      simp [error, perform, withdraw, present, covered, ← Int64.not_lt]
  · simp [error, perform, withdraw, present]

theorem error_deposit (l : Ledger) (accountID : UInt64)
    (amount : Quantity) :
    l.error (.deposit accountID amount) = none ↔ accountID ∈ l.accounts := by
  by_cases present : accountID ∈ l.accounts <;>
    simp [error, perform, deposit, present]

theorem error_transfer (l : Ledger) (fromID toID : UInt64)
    (amount : Quantity) :
    l.error (.transfer fromID toID amount) = none ↔
      fromID ∈ l.accounts ∧ toID ∈ l.accounts ∧
        amount ≤ l.balanceOf fromID := by
  by_cases fromPresent : fromID ∈ l.accounts
  · by_cases toPresent : toID ∈ l.accounts
    · by_cases covered : l.balanceOf fromID < amount <;>
        simp [error, perform, transfer, fromPresent, toPresent, covered,
          ← Int64.not_lt]
    · simp [error, perform, transfer, fromPresent, toPresent]
  · simp [error, perform, transfer, fromPresent]

/-! ## Balances as sums of postings -/

/-- Quantities are added modulo `2 ^ 64`. -/
scoped instance quantityGroup : AddCommGroup Int64 where
  add_assoc := Int64.add_assoc
  zero_add := Int64.zero_add
  add_zero := Int64.add_zero
  add_comm := Int64.add_comm
  neg_add_cancel := Int64.add_left_neg
  sub_eq_add_neg := Int64.sub_eq_add_neg
  nsmul := nsmulRec
  zsmul := zsmulRec

/-- What a successful call is meant to add to the balances. -/
def Request.postings : Request → List (UInt64 × Quantity)
  | .createAccount id initialBalance => [(id, initialBalance)]
  | .deposit accountID amount => [(accountID, amount)]
  | .withdraw accountID amount => [(accountID, -amount)]
  | .transfer fromID toID amount => [(fromID, -amount), (toID, amount)]

/-- What a call adds to the balances: nothing when it returns an error. -/
def postings (l : Ledger) (request : Request) : List (UInt64 × Quantity) :=
  if l.error request = none then request.postings else []

/-- A posting is added to the balance of its account. -/
theorem balanceOf_add_posting (l : Ledger) (accountID posted : UInt64)
    (amount : Quantity) :
    l.balanceOf accountID + Postings.balance [(posted, amount)] accountID =
      if accountID = posted then l.balanceOf posted + amount
      else l.balanceOf accountID := by
  by_cases same : accountID = posted
  · simp [same]
  · simp [same, Ne.symm same]

/-- A call changes the balances by its postings, errors included. -/
theorem balanceOf_next (l : Ledger) (request : Request)
    (accountID : UInt64) :
    (l.next request).balanceOf accountID =
      l.balanceOf accountID +
        Postings.balance (l.postings request) accountID := by
  have performed := l.perform_performed request
  rw [postings, next, error]
  generalize l.perform request = result at performed
  cases performed with
  | refused request error => simp
  | created id initialBalance absent =>
      rw [balanceOf_insert, if_pos rfl, Request.postings,
        balanceOf_add_posting, l.balanceOf_of_notMem absent, zero_add]
  | deposited id amount present =>
      rw [balanceOf_recordTransaction, balanceOf_setBalance l _ _ present,
        if_pos rfl, Request.postings, balanceOf_add_posting]
  | withdrawn id amount present covered =>
      rw [balanceOf_recordTransaction, balanceOf_setBalance l _ _ present,
        if_pos rfl, Request.postings, balanceOf_add_posting, sub_eq_add_neg]
  | transferred fromID toID amount fromPresent toPresent covered =>
      have present :
          toID ∈
            (l.setBalance fromID (l.balanceOf fromID - amount)).accounts := by
        simpa using toPresent
      simp only [balanceOf_recordTransaction, balanceOf_setBalance _ _ _ present,
        balanceOf_setBalance l _ _ fromPresent, if_true, Request.postings,
        Postings.balance_cons, Postings.balance_nil, add_zero]
      by_cases isTo : accountID = toID
      · subst isTo
        by_cases isFrom : accountID = fromID
        · simp [isFrom, sub_eq_add_neg, add_assoc]
        · simp [isFrom, Ne.symm isFrom]
      · by_cases isFrom : accountID = fromID
        · subst isFrom
          simp [isTo, Ne.symm isTo, sub_eq_add_neg]
        · simp [isTo, Ne.symm isTo, isFrom, Ne.symm isFrom]

theorem balanceOf_next_of_error (l : Ledger) {request : Request}
    (refused : l.error request ≠ none) (accountID : UInt64) :
    (l.next request).balanceOf accountID = l.balanceOf accountID := by
  rw [balanceOf_next, postings, if_neg refused, Postings.balance_nil, add_zero]

theorem balanceOf_next_of_success (l : Ledger) {request : Request}
    (accepted : l.error request = none) (accountID : UInt64) :
    (l.next request).balanceOf accountID =
      l.balanceOf accountID +
        Postings.balance request.postings accountID := by
  rw [balanceOf_next, postings, if_pos accepted]

/-- After a run the balances are what the calls of the run have posted. -/
theorem balanceOf_run (l : Ledger) (requests : List Request)
    (accountID : UInt64) :
    (LabelledRun.run next l requests).balanceOf accountID =
      l.balanceOf accountID +
        (LabelledRun.outputs next
          (fun l request => Postings.balance (l.postings request) accountID)
          l requests).sum :=
  Postings.view_run (fun l => l.balanceOf accountID) _
    (fun l request => l.balanceOf_next request accountID) l requests

/-- The accounts after a call are the old ones and those posted to. -/
theorem mem_next (l : Ledger) (request : Request) (accountID : UInt64) :
    accountID ∈ (l.next request).accounts ↔
      accountID ∈ l.accounts ∨
        ∃ posting ∈ l.postings request, posting.1 = accountID := by
  have performed := l.perform_performed request
  rw [postings, next, error]
  generalize l.perform request = result at performed
  cases performed with
  | refused request error => simp
  | created id initialBalance absent =>
      simp [Request.postings, Finmap.mem_insert, or_comm, eq_comm]
  | deposited id amount present =>
      suffices id = accountID → accountID ∈ l.accounts by
        simpa [Request.postings] using this
      rintro rfl
      exact present
  | withdrawn id amount present covered =>
      suffices id = accountID → accountID ∈ l.accounts by
        simpa [Request.postings] using this
      rintro rfl
      exact present
  | transferred fromID toID amount fromPresent toPresent covered =>
      suffices
          fromID = accountID ∨ toID = accountID → accountID ∈ l.accounts by
        simpa [Request.postings] using this
      rintro (rfl | rfl)
      · exact fromPresent
      · exact toPresent

end Ledger

end AeroRisk
