import AeroRisk.Ledger.Conservation

/-!
# What the journal says about the balances

The amounts of the journal entries of an account add up to its balance as far
as every change of the balance was journaled with its sign.  Two calls do
otherwise: `CreateAccount` records no entry, and `Withdraw` records the amount
without the sign which `Transfer` gives to an outgoing amount.
-/

namespace AeroRisk.Ledger

open AeroRisk.Financial
open AeroRisk.Library

/-- The sum of the amounts of the transactions of an account. -/
def audited (l : Ledger) (accountID : UInt64) : Quantity :=
  ((l.getTransactions accountID).map Transaction.amount).sum

/-- The journal gives the balance of every account. -/
def Reconstructs (l : Ledger) : Prop :=
  ∀ accountID, (l.getBalance accountID).1 = l.audited accountID

/-- The initial balance when the call opens this account. -/
def Request.openedFor (accountID : UInt64) : Request → Quantity
  | .createAccount id initialBalance =>
      if id = accountID then initialBalance else 0
  | _ => 0

/-- The amount when the call is a withdrawal from this account. -/
def Request.withdrawnFrom (accountID : UInt64) : Request → Quantity
  | .withdraw id amount => if id = accountID then amount else 0
  | _ => 0

/--
A call which opens an account opens it with nothing, and a withdrawal which
the balance covers is of an amount which is its own negative.
-/
def JournalsExactly (l : Ledger) : Request → Prop
  | .createAccount id initialBalance =>
      id ∉ l.accounts → initialBalance = 0
  | .withdraw accountID amount =>
      accountID ∈ l.accounts → amount ≤ l.balanceOf accountID →
        amount = 0 ∨ amount = Int64.minValue
  | _ => True

/-! ## The journal as postings -/

/-- The account and the amount of a journal entry. -/
def Transaction.posting (txn : Transaction) : UInt64 × Quantity :=
  (txn.accountID, txn.amount)

/-- What a successful call records. -/
def Request.entries : Request → List (UInt64 × Quantity)
  | .createAccount _ _ => []
  | .deposit accountID amount => [(accountID, amount)]
  | .withdraw accountID amount => [(accountID, amount)]
  | .transfer fromID toID amount => [(fromID, -amount), (toID, amount)]

/-- What a call records: nothing when it returns an error. -/
def entries (l : Ledger) (request : Request) : List (UInt64 × Quantity) :=
  if l.error request = none then request.entries else []

theorem getBalance_eq (l : Ledger) (accountID : UInt64) :
    (l.getBalance accountID).1 = l.balanceOf accountID := by
  rw [getBalance, balanceOf]
  split <;> next found => rw [found]; rfl

theorem audited_eq (l : Ledger) (accountID : UInt64) :
    l.audited accountID =
      Postings.balance (l.transactions.map Transaction.posting) accountID := by
  rw [audited, getTransactions, Postings.balance, List.filter_map,
    List.map_map]
  rfl

/-- A call appends its entries to the journal. -/
theorem transactions_next (l : Ledger) (request : Request) :
    (l.next request).transactions.map Transaction.posting =
      l.transactions.map Transaction.posting ++ l.entries request := by
  have performed := l.perform_performed request
  rw [entries, next, error]
  generalize l.perform request = result at performed
  cases performed with
  | refused request error => simp
  | created id initialBalance absent => simp [Request.entries]
  | deposited id amount present =>
      simp [Request.entries, Transaction.posting]
  | withdrawn id amount present covered =>
      simp [Request.entries, Transaction.posting]
  | transferred fromID toID amount fromPresent toPresent covered =>
      simp [Request.entries, Transaction.posting]

theorem audited_next (l : Ledger) (request : Request) (accountID : UInt64) :
    (l.next request).audited accountID =
      l.audited accountID +
        Postings.balance (l.entries request) accountID := by
  rw [audited_eq, audited_eq, transactions_next, Postings.balance_append]

/-- The part of a balance which the journal does not show. -/
def gap (l : Ledger) (accountID : UInt64) : Quantity :=
  l.balanceOf accountID - l.audited accountID

/-- An opening balance is missing and a withdrawal counts twice. -/
theorem gap_next (l : Ledger) (request : Request) (accountID : UInt64) :
    (l.next request).gap accountID =
      l.gap accountID +
        (successful (Request.openedFor accountID) l request +
          -(successful (Request.withdrawnFrom accountID) l request +
            successful (Request.withdrawnFrom accountID) l request)) := by
  have difference :
      Postings.balance (l.postings request) accountID -
          Postings.balance (l.entries request) accountID =
        successful (Request.openedFor accountID) l request +
          -(successful (Request.withdrawnFrom accountID) l request +
            successful (Request.withdrawnFrom accountID) l request) := by
    by_cases accepted : l.error request = none
    · simp only [postings, entries, successful, accepted, if_true]
      cases request with
      | createAccount id initialBalance =>
          simp [Request.postings, Request.entries, Request.openedFor,
            Request.withdrawnFrom]
      | deposit id amount =>
          simp [Request.postings, Request.entries, Request.openedFor,
            Request.withdrawnFrom]
      | withdraw id amount =>
          simp only [Request.postings, Request.entries, Request.openedFor,
            Request.withdrawnFrom, Postings.balance_cons, Postings.balance_nil]
          split <;> abel
      | transfer fromID toID amount =>
          simp [Request.postings, Request.entries, Request.openedFor,
            Request.withdrawnFrom]
    · simp [postings, entries, successful, accepted]
  rw [gap, gap, balanceOf_next, audited_next, ← difference]
  abel

/-! ## Exactly when the journal gives the balance -/

theorem reconstructs_iff_gap (l : Ledger) :
    l.Reconstructs ↔ ∀ accountID, l.gap accountID = 0 := by
  simp only [Reconstructs, getBalance_eq, gap, sub_eq_zero]

theorem gap_run (requests : List Request) (accountID : UInt64) :
    (LabelledRun.run next newLedger requests).gap accountID =
      wrap (sumOf (Request.openedFor accountID) newLedger requests) -
        wrap
          (2 * sumOf (Request.withdrawnFrom accountID) newLedger requests) := by
  have startsEqual : newLedger.gap accountID = 0 := sub_self 0
  have summed :=
    Postings.view_run (fun l => gap l accountID) _
      (fun l request => l.gap_next request accountID) newLedger requests
  rw [Postings.sum_outputs_add, Postings.sum_outputs_neg,
    Postings.sum_outputs_add, startsEqual, zero_add] at summed
  rw [summed, two_mul, map_add, wrap_sumOf, wrap_sumOf, sub_eq_add_neg]

/-- Only `0` and the least value are their own negatives. -/
theorem add_self_eq_zero_iff (amount : Quantity) :
    amount + amount = 0 ↔ amount = 0 ∨ amount = Int64.minValue := by
  have low := Int64.le_toInt amount
  have high := Int64.toInt_lt amount
  rw [← Int64.toInt_inj, ← Int64.toInt_inj, ← Int64.toInt_inj,
    Int64.toInt_add, Int64.toInt_minValue, Int64.toInt_zero, Int.bmod_def]
  omega

theorem neg_double_eq_zero_iff (amount : Quantity) :
    -(amount + amount) = 0 ↔ amount = 0 ∨ amount = Int64.minValue := by
  rw [neg_eq_zero, add_self_eq_zero_iff]

/-- A call leaves the gaps as they are exactly when it journals exactly. -/
theorem gap_next_iff (l : Ledger) (request : Request) :
    (∀ accountID, (l.next request).gap accountID = l.gap accountID) ↔
      l.JournalsExactly request := by
  simp only [gap_next, add_eq_left]
  cases request with
  | createAccount id initialBalance =>
      simp [successful, error_createAccount, Request.openedFor,
        Request.withdrawnFrom, JournalsExactly]
  | withdraw id amount =>
      by_cases accepted : l.error (.withdraw id amount) = none
      · have both := (l.error_withdraw id amount).mp accepted
        have needs :
            l.JournalsExactly (.withdraw id amount) ↔
              amount = 0 ∨ amount = Int64.minValue :=
          ⟨fun exactly => exactly both.1 both.2, fun either _ _ => either⟩
        rw [needs, ← neg_double_eq_zero_iff]
        simp only [successful, accepted, if_true, Request.openedFor,
          Request.withdrawnFrom, zero_add]
        constructor
        · intro unchanged
          simpa using unchanged id
        · intro unchanged accountID
          split
          · exact unchanged
          · exact neg_zero
      · have needs : l.JournalsExactly (.withdraw id amount) :=
          fun present covered =>
            absurd ((l.error_withdraw id amount).mpr ⟨present, covered⟩)
              accepted
        simp [successful, accepted, needs]
  | deposit id amount =>
      simp [successful, Request.openedFor, Request.withdrawnFrom,
        JournalsExactly]
  | transfer fromID toID amount =>
      simp [successful, Request.openedFor, Request.withdrawnFrom,
        JournalsExactly]

/--
The journal gives the balance of an account after a run exactly when twice
what was withdrawn from it is its opening balance.  It gives all balances in
every state of exactly the runs in which accounts are opened with nothing and
nothing is withdrawn.
-/
theorem journal_reconstructs (requests : List Request) :
    (∀ accountID,
        ((LabelledRun.run next newLedger requests).getBalance accountID).1 =
            (LabelledRun.run next newLedger requests).audited accountID ↔
          sumOf (Request.openedFor accountID) newLedger requests ≡
            2 * sumOf (Request.withdrawnFrom accountID) newLedger requests
              [ZMOD 2 ^ 64]) ∧
      (LabelledRun.Always next Reconstructs newLedger requests ↔
        LabelledRun.Along next JournalsExactly newLedger requests) := by
  constructor
  · intro accountID
    rw [getBalance_eq, ← wrap_eq_iff, ← sub_eq_zero, ← gap, gap_run,
      sub_eq_zero]
  · have startsEqual : newLedger.Reconstructs := fun _ => rfl
    have enough : ∀ l : Ledger, l.Reconstructs → l.Reconstructs :=
      fun _ reconstructs => reconstructs
    have preserved :
        ∀ (l : Ledger) request,
          l.Reconstructs → l.JournalsExactly request →
            (l.next request).Reconstructs := by
      intro l request reconstructs journalsExactly
      rw [reconstructs_iff_gap] at reconstructs ⊢
      intro accountID
      rw [(l.gap_next_iff request).mpr journalsExactly accountID]
      exact reconstructs accountID
    have broken :
        ∀ (l : Ledger) request,
          l.Reconstructs → (l.next request).Reconstructs →
            l.JournalsExactly request := by
      intro l request reconstructs stillReconstructs
      rw [reconstructs_iff_gap] at reconstructs stillReconstructs
      apply (l.gap_next_iff request).mp
      intro accountID
      rw [reconstructs accountID, stillReconstructs accountID]
    exact
      LabelledRun.always_iff_along enough preserved broken requests
        startsEqual

/-- An account opened with 1000, as in the test of the journal. -/
def openDepositWithdraw : List Request :=
  [.createAccount 1 1000, .deposit 1 500, .withdraw 1 200]

/-- The balance is 1300 and the amounts add up to 700. -/
theorem journal_reconstructs_fails :
    ¬ ∀ requests : List Request,
        (LabelledRun.run next newLedger requests).Reconstructs := by
  intro reconstructs
  exact absurd (reconstructs openDepositWithdraw 1) (by decide)

end AeroRisk.Ledger
