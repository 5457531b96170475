import AeroRisk.Ledger.Accounts
import AeroRisk.Library.CriticalSections

/-!
# Concurrent calls of the ledger

Any number of goroutines call the methods of one ledger.  The methods are
given here by their single loads and stores, which the scheduler interleaves
in any way; `Deposit`, `Withdraw`, `Transfer` and `CreateAccount` hold the
mutex of the ledger for writing, `GetBalance` and `GetTransactions` hold it for
reading.  What the calls return and the ledger they leave are those of the
methods executed one after the other, in the order in which they returned.

The mutex of an account is left out: it is only taken while the one of the
ledger is held for writing.
-/

namespace AeroRisk.Ledger

open AeroRisk.Financial
open AeroRisk.Library
open AeroRisk.Library.CriticalSections

/-- A method of the ledger and its arguments. -/
inductive Method where
  | request (request : Request)
  | getBalance (accountID : UInt64)
  | getTransactions (accountID : UInt64)
deriving DecidableEq, Repr

/-- What the methods return. -/
inductive Returned where
  | error (error : Option LedgerError)
  | balance (balance : Quantity) (error : Option LedgerError)
  | transactions (transactions : List Transaction)
deriving DecidableEq, Repr

abbrev LedgerSection := CriticalSection Ledger

open CriticalSection (load store)

/-- `account, exists := l.accounts[id]`. -/
def findAccount (accountID : UInt64) : LedgerSection Bool :=
  load fun l => decide (accountID ∈ l.accounts)

/-- The load of the balance of an account. -/
def loadBalance (accountID : UInt64) : LedgerSection Quantity :=
  load fun l => l.balanceOf accountID

/-- The store of the balance of an account. -/
def storeBalance (accountID : UInt64) (balance : Quantity) :
    LedgerSection PUnit :=
  store fun l => l.setBalance accountID balance

/-- `recordTransaction`, load by load and store by store. -/
def appendTransaction (txnType : TransactionType) (accountID : UInt64)
    (amount balance : Quantity) : LedgerSection PUnit := do
  let lastID ← load nextTxnID
  store fun l => { l with nextTxnID := lastID + 1 }
  let id ← load nextTxnID
  let earlier ← load transactions
  store fun l =>
    { l with
      transactions :=
        earlier ++ [{ id, type := txnType, accountID, amount, balance }] }

/-- The body of `CreateAccount`. -/
def createAccountBody (id : UInt64) (initialBalance : Quantity) :
    LedgerSection (Option LedgerError) := do
  if ← findAccount id then
    pure (some .accountExists)
  else
    store fun l =>
      { l with
        accounts := l.accounts.insert id { id, balance := initialBalance } }
    pure none

/-- The body of `Deposit`. -/
def depositBody (accountID : UInt64) (amount : Quantity) :
    LedgerSection (Option LedgerError) := do
  if ← findAccount accountID then
    let balance ← loadBalance accountID
    storeBalance accountID (balance + amount)
    let balance ← loadBalance accountID
    appendTransaction .deposit accountID amount balance
    pure none
  else
    pure (some .accountNotFound)

/-- The body of `Withdraw`. -/
def withdrawBody (accountID : UInt64) (amount : Quantity) :
    LedgerSection (Option LedgerError) := do
  if ← findAccount accountID then
    let balance ← loadBalance accountID
    if balance < amount then
      pure (some .insufficientFunds)
    else
      let balance ← loadBalance accountID
      storeBalance accountID (balance - amount)
      let balance ← loadBalance accountID
      appendTransaction .withdrawal accountID amount balance
      pure none
  else
    pure (some .accountNotFound)

/-- The body of `Transfer`. -/
def transferBody (fromID toID : UInt64) (amount : Quantity) :
    LedgerSection (Option LedgerError) := do
  if ← findAccount fromID then
    if ← findAccount toID then
      let balance ← loadBalance fromID
      if balance < amount then
        pure (some .insufficientFunds)
      else
        let fromBalance ← loadBalance fromID
        storeBalance fromID (fromBalance - amount)
        let toBalance ← loadBalance toID
        storeBalance toID (toBalance + amount)
        let fromBalance ← loadBalance fromID
        appendTransaction .transfer fromID (-amount) fromBalance
        let toBalance ← loadBalance toID
        appendTransaction .transfer toID amount toBalance
        pure none
    else
      pure (some .accountNotFound)
  else
    pure (some .accountNotFound)

/-- The body of a call which may change the ledger. -/
def requestBody : Request → LedgerSection (Option LedgerError)
  | .createAccount id initialBalance => createAccountBody id initialBalance
  | .deposit accountID amount => depositBody accountID amount
  | .withdraw accountID amount => withdrawBody accountID amount
  | .transfer fromID toID amount => transferBody fromID toID amount

/-- The body of `GetBalance`. -/
def getBalanceBody (accountID : UInt64) :
    LedgerSection (Quantity × Option LedgerError) := do
  if ← findAccount accountID then
    let balance ← loadBalance accountID
    pure (balance, none)
  else
    pure (0, some .accountNotFound)

/-- The loop of `GetTransactions`, one entry of the journal after another. -/
def selectTransactions (accountID : UInt64) (earlier : List Transaction) :
    List Transaction → LedgerSection (List Transaction)
  | [] => pure earlier
  | txn :: rest => do
      let isOfAccount ← load fun _ => decide (txn.accountID = accountID)
      if isOfAccount then
        selectTransactions accountID (earlier ++ [txn]) rest
      else
        selectTransactions accountID earlier rest

/-- The body of `GetTransactions`. -/
def getTransactionsBody (accountID : UInt64) :
    LedgerSection (List Transaction) := do
  let journal ← load transactions
  selectTransactions accountID [] journal

/-- The body of a method. -/
def methodBody : Method → LedgerSection Returned
  | .request request => do
      let error ← requestBody request
      pure (.error error)
  | .getBalance accountID => do
      let found ← getBalanceBody accountID
      pure (.balance found.1 found.2)
  | .getTransactions accountID => do
      let found ← getTransactionsBody accountID
      pure (.transactions found)

/-- The method locks for writing. -/
def methodWrites : Method → Bool
  | .request _ => true
  | .getBalance _ => false
  | .getTransactions _ => false

/-! ## The methods executed alone -/

/-- The ledger after a method. -/
def afterMethod (l : Ledger) : Method → Ledger
  | .request request => l.next request
  | .getBalance _ => l
  | .getTransactions _ => l

/-- What a method returns. -/
def returnedBy (l : Ledger) : Method → Returned
  | .request request => .error (l.error request)
  | .getBalance accountID =>
      .balance (l.getBalance accountID).1 (l.getBalance accountID).2
  | .getTransactions accountID => .transactions (l.getTransactions accountID)

section Alone

variable (l : Ledger) (accountID other : UInt64) (amount balance : Quantity)

@[simp]
theorem exec_appendTransaction (txnType : TransactionType) :
    (appendTransaction txnType accountID amount balance).exec l =
      (⟨⟩, l.recordTransaction txnType accountID amount balance) := by
  simp [appendTransaction, recordTransaction]

theorem exec_requestBody (request : Request) :
    (requestBody request).exec l = (l.error request, l.next request) := by
  cases request with
  | createAccount id initialBalance =>
      by_cases present : id ∈ l.accounts <;>
        simp [requestBody, createAccountBody, findAccount, error, next,
          perform, createAccount, present]
  | deposit accountID amount =>
      by_cases present : accountID ∈ l.accounts <;>
        simp [requestBody, depositBody, findAccount, loadBalance,
          storeBalance, error, next, perform, deposit, present]
  | withdraw accountID amount =>
      by_cases present : accountID ∈ l.accounts
      · by_cases short : l.balanceOf accountID < amount <;>
          simp [requestBody, withdrawBody, findAccount, loadBalance,
            storeBalance, error, next, perform, withdraw, present, short]
      · simp [requestBody, withdrawBody, findAccount, error, next, perform,
          withdraw, present]
  | transfer fromID toID amount =>
      by_cases fromPresent : fromID ∈ l.accounts
      · by_cases toPresent : toID ∈ l.accounts
        · by_cases short : l.balanceOf fromID < amount <;>
            simp [requestBody, transferBody, findAccount, loadBalance,
              storeBalance, error, next, perform, transfer, fromPresent,
              toPresent, short]
        · simp [requestBody, transferBody, findAccount, error, next, perform,
            transfer, fromPresent, toPresent]
      · simp [requestBody, transferBody, findAccount, error, next, perform,
          transfer, fromPresent]

@[simp]
theorem exec_getBalanceBody :
    (getBalanceBody accountID).exec l = (l.getBalance accountID, l) := by
  by_cases present : accountID ∈ l.accounts
  · obtain ⟨account, found⟩ := Finmap.mem_iff.mp present
    simp [getBalanceBody, findAccount, loadBalance, getBalance, balanceOf,
      present, found]
  · have missing := Finmap.lookup_eq_none.mpr present
    simp [getBalanceBody, findAccount, getBalance, present, missing]

@[simp]
theorem exec_selectTransactions (earlier journal : List Transaction) :
    (selectTransactions accountID earlier journal).exec l =
      (earlier ++ journal.filter fun txn => txn.accountID = accountID, l) := by
  induction journal generalizing earlier with
  | nil => simp [selectTransactions]
  | cons txn rest inductionHypothesis =>
      by_cases isOfAccount : txn.accountID = accountID <;>
        simp [selectTransactions, isOfAccount, inductionHypothesis]

@[simp]
theorem exec_getTransactionsBody :
    (getTransactionsBody accountID).exec l =
      (l.getTransactions accountID, l) := by
  simp [getTransactionsBody, getTransactions]

theorem exec_methodBody (method : Method) :
    (methodBody method).exec l =
      (l.returnedBy method, l.afterMethod method) := by
  cases method with
  | request request =>
      simp [methodBody, returnedBy, afterMethod, exec_requestBody]
  | getBalance accountID => simp [methodBody, returnedBy, afterMethod]
  | getTransactions accountID => simp [methodBody, returnedBy, afterMethod]

end Alone

/-! ## What the readers do -/

section Readers

open CriticalSection

variable (accountID : UInt64)

theorem readOnly_getBalanceBody : (getBalanceBody accountID).ReadOnly := by
  refine ReadOnly.bind (readOnly_load _) fun present => ?_
  cases present with
  | false => exact readOnly_pure _
  | true => exact ReadOnly.bind (readOnly_load _) fun _ => readOnly_pure _

theorem readOnly_selectTransactions (earlier journal : List Transaction) :
    (selectTransactions accountID earlier journal).ReadOnly := by
  induction journal generalizing earlier with
  | nil => exact readOnly_pure _
  | cons txn rest inductionHypothesis =>
      refine ReadOnly.bind (readOnly_load _) fun isOfAccount => ?_
      cases isOfAccount with
      | false => exact inductionHypothesis _
      | true => exact inductionHypothesis _

theorem readOnly_methodBody (method : Method)
    (reads : methodWrites method = false) : (methodBody method).ReadOnly := by
  cases method with
  | request request => cases reads
  | getBalance accountID =>
      exact
        ReadOnly.bind (readOnly_getBalanceBody accountID) fun _ =>
          readOnly_pure _
  | getTransactions accountID =>
      refine ReadOnly.bind ?_ fun _ => readOnly_pure _
      exact
        ReadOnly.bind (readOnly_load _)
          (readOnly_selectTransactions accountID [])

end Readers

/-! ## The calls of many goroutines -/

/-- How the methods lock, and what they do. -/
def methods : Protocol Ledger Method Returned where
  writes := methodWrites
  body := methodBody
  readOnly := readOnly_methodBody

@[simp]
theorem methods_after : methods.after = afterMethod := by
  funext l method
  exact congrArg Prod.snd (l.exec_methodBody method)

@[simp]
theorem methods_value : methods.value = returnedBy := by
  funext l method
  exact congrArg Prod.fst (l.exec_methodBody method)

section Goroutines

variable {Goroutine : Type} [DecidableEq Goroutine]

/-- The ledger and its goroutines after a schedule. -/
def afterSchedule (l : Ledger) (schedule : List (Goroutine × Method)) :
    System Goroutine Ledger Method Returned :=
  LabelledRun.run methods.next (start l) schedule

theorem sound_afterSchedule (l : Ledger)
    (schedule : List (Goroutine × Method)) :
    methods.Sound l (l.afterSchedule schedule) :=
  Protocol.Sound.run schedule

/--
In whatever way the goroutines interleave, the methods return what they return
one after the other in the order of their returns, and leave that ledger.
-/
theorem concurrent_calls (l : Ledger) (schedule : List (Goroutine × Method)) :
    let reached := l.afterSchedule schedule
    reached.values =
        LabelledRun.outputs afterMethod returnedBy l reached.calls ∧
      ((∀ goroutine, reached.inside goroutine = none) →
        reached.memory = LabelledRun.run afterMethod l reached.calls) ∧
      (∀ earlier, earlier <+: schedule →
        (l.afterSchedule earlier).returned <+: reached.returned) ∧
      (∀ goroutine, (reached.inside goroutine).isSome →
        ∀ further, ∃ count,
          ((l.afterSchedule
              (schedule ++ List.replicate count (goroutine, further))).inside
            goroutine).isNone) ∧
      ∀ goroutine method,
        methods.acquire reached.mutex goroutine method = none →
          ∃ other, (reached.inside other).isSome := by
  have sound := l.sound_afterSchedule schedule
  refine ⟨?_, ?_, ?_, ?_, ?_⟩
  · simpa using sound.values
  · intro outside
    simpa [Protocol.sequential] using sound.memory_eq outside
  · rintro earlier ⟨later, rfl⟩
    rw [afterSchedule, afterSchedule, LabelledRun.run_append]
    exact Protocol.returned_grows later
  · intro goroutine isInside further
    obtain ⟨⟨call, rest⟩, within⟩ := Option.isSome_iff_exists.mp isInside
    obtain ⟨count, value, outside, -⟩ := sound.returns within further
    refine ⟨count, ?_⟩
    rw [afterSchedule, LabelledRun.run_append]
    exact Option.isNone_iff_eq_none.mpr outside
  · intro goroutine method waits
    exact sound.exists_inside waits

end Goroutines

end AeroRisk.Ledger
