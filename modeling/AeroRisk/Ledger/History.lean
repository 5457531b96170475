import AeroRisk.Ledger.Journal

/-!
# The history of a ledger

A call which returns an error leaves the ledger as it was.  Every other call
appends its entries to the journal, and nothing else touches the journal, so
that its entries are numbered in the order of the calls.
-/

namespace AeroRisk.Ledger

open AeroRisk.Financial
open AeroRisk.Library

/-- A new ledger after some calls. -/
abbrev after (requests : List Request) : Ledger :=
  LabelledRun.run next newLedger requests

/-! ## Refused calls -/

/-- A call which returns an error changes nothing. -/
theorem next_of_error {l : Ledger} {request : Request}
    (refused : l.error request ≠ none) : l.next request = l := by
  have performed := l.perform_performed request
  rw [error] at refused
  rw [next]
  generalize l.perform request = result at performed refused
  cases performed with
  | refused request error => rfl
  | created id initialBalance absent => exact absurd rfl refused
  | deposited accountID amount present => exact absurd rfl refused
  | withdrawn accountID amount present covered => exact absurd rfl refused
  | transferred fromID toID amount fromPresent toPresent covered =>
      exact absurd rfl refused

/-- `ErrInvalidAmount` is never returned. -/
theorem error_ne_invalidAmount (l : Ledger) (request : Request) :
    l.error request ≠ some .invalidAmount := by
  cases request with
  | createAccount id initialBalance =>
      simp only [error, perform, createAccount]
      split <;> simp
  | deposit accountID amount =>
      simp only [error, perform, deposit]
      split <;> simp
  | withdraw accountID amount =>
      simp only [error, perform, withdraw]
      split
      · simp
      · split <;> simp
  | transfer fromID toID amount =>
      simp only [error, perform, transfer]
      split
      · simp
      · split
        · simp
        · split <;> simp

/--
In every state, a call which returns one of the three errors changes nothing,
and it returns one exactly when an account is missing, or there already, or
holds less than the amount.
-/
theorem failed_call (l : Ledger) :
    (∀ request,
        l.error request ≠ none →
          (l.error request = some .accountExists ∨
            l.error request = some .accountNotFound ∨
            l.error request = some .insufficientFunds) ∧
          l.next request = l) ∧
      (∀ id initialBalance,
        l.error (.createAccount id initialBalance) ≠ none ↔
          id ∈ l.accounts) ∧
      (∀ accountID amount,
        l.error (.deposit accountID amount) ≠ none ↔
          accountID ∉ l.accounts) ∧
      (∀ accountID amount,
        l.error (.withdraw accountID amount) ≠ none ↔
          accountID ∉ l.accounts ∨ l.balanceOf accountID < amount) ∧
      ∀ fromID toID amount,
        l.error (.transfer fromID toID amount) ≠ none ↔
          fromID ∉ l.accounts ∨ toID ∉ l.accounts ∨
            l.balanceOf fromID < amount := by
  refine ⟨?_, ?_, ?_, ?_, ?_⟩
  · intro request refused
    refine ⟨?_, next_of_error refused⟩
    have valid := l.error_ne_invalidAmount request
    cases returned : l.error request with
    | none => exact absurd returned refused
    | some error => cases error <;> simp_all
  · intro id initialBalance
    rw [ne_eq, error_createAccount, not_not]
  · intro accountID amount
    rw [ne_eq, error_deposit]
  · intro accountID amount
    rw [ne_eq, error_withdraw, not_and_or, Int64.not_le]
  · intro fromID toID amount
    rw [ne_eq, error_transfer, not_and_or, not_and_or, Int64.not_le]

/-! ## What a call records -/

/-- The entries of a successful call, with the balances which it leaves. -/
def Request.journaled (lastID : UInt64)
    (balanceAfter : UInt64 → Quantity) : Request → List Transaction
  | .createAccount _ _ => []
  | .deposit accountID amount =>
      [{ id := lastID + 1
         type := .deposit
         accountID
         amount
         balance := balanceAfter accountID }]
  | .withdraw accountID amount =>
      [{ id := lastID + 1
         type := .withdrawal
         accountID
         amount
         balance := balanceAfter accountID }]
  | .transfer fromID toID amount =>
      [{ id := lastID + 1
         type := .transfer
         accountID := fromID
         amount := -amount
         balance := balanceAfter fromID },
        { id := lastID + 1 + 1
          type := .transfer
          accountID := toID
          amount
          balance := balanceAfter toID }]

/-- The entries of a call: none when it returns an error. -/
def journaled (l : Ledger) (request : Request) : List Transaction :=
  if l.error request = none then
    request.journaled l.nextTxnID (l.next request).balanceOf
  else
    []

/-- A call appends its entries and counts them. -/
theorem journal_next (l : Ledger) (request : Request) :
    (l.next request).transactions = l.transactions ++ l.journaled request ∧
      (l.next request).nextTxnID =
        l.nextTxnID + UInt64.ofNat (l.journaled request).length := by
  have performed := l.perform_performed request
  rw [journaled, next, error]
  generalize l.perform request = result at performed
  cases performed with
  | refused request error => simp
  | created id initialBalance absent => simp [Request.journaled]
  | deposited accountID amount present =>
      simp [Request.journaled]
  | withdrawn accountID amount present covered =>
      simp [Request.journaled]
  | transferred fromID toID amount fromPresent toPresent covered =>
      simp [Request.journaled, UInt64.add_assoc]

/-- The entries of a call take the next numbers. -/
theorem id_journaled (l : Ledger) (request : Request) :
    (l.journaled request).map Transaction.id =
      (List.range' 1 (l.journaled request).length).map fun number =>
        l.nextTxnID + UInt64.ofNat number := by
  rw [journaled]
  split
  · cases request with
    | createAccount id initialBalance => rfl
    | deposit accountID amount => rfl
    | withdraw accountID amount => rfl
    | transfer fromID toID amount =>
        simp [Request.journaled, List.range'_succ, UInt64.add_assoc]
  · rfl

/-! ## The numbers of the entries -/

/-- The entries are numbered from one on and counted, as `uint64` values. -/
structure Numbered (l : Ledger) : Prop where
  ids :
    l.transactions.map Transaction.id =
      (List.range' 1 l.transactions.length).map UInt64.ofNat
  count : l.nextTxnID = UInt64.ofNat l.transactions.length

/-- The journal is a slice, whose length is an `int`. -/
def IsSlice (l : Ledger) : Prop :=
  (l.transactions.length : Int) ≤ Int64.maxValue.toInt

instance (l : Ledger) : Decidable l.IsSlice :=
  inferInstanceAs (Decidable (_ ≤ _))

theorem Numbered.next {l : Ledger} (numbered : l.Numbered)
    (request : Request) : (l.next request).Numbered := by
  obtain ⟨transactions, nextTxnID⟩ := l.journal_next request
  have shifted :
      (l.journaled request).map Transaction.id =
        (List.range' (l.transactions.length + 1)
          (l.journaled request).length).map UInt64.ofNat := by
    rw [id_journaled, numbered.count, ← List.map_add_range', List.map_map]
    apply List.map_congr_left
    intro number _
    exact (UInt64.ofNat_add _ _).symm
  constructor
  · rw [transactions, List.map_append, numbered.ids, shifted,
      ← List.map_append, List.length_append, add_comm _ 1,
      List.range'_append_1]
  · rw [nextTxnID, transactions, numbered.count, List.length_append,
      UInt64.ofNat_add]

theorem numbered_after (requests : List Request) :
    (after requests).Numbered := by
  apply LabelledRun.run_invariant_of_every
  · intro l request numbered
    exact numbered.next request
  · exact ⟨rfl, rfl⟩

/-- The numbers of a slice do not wrap around. -/
theorem Numbered.exact {l : Ledger} (numbered : l.Numbered)
    (isSlice : l.IsSlice) :
    (l.transactions.map fun txn => txn.id.toNat) =
        List.range' 1 l.transactions.length ∧
      l.nextTxnID.toNat = l.transactions.length := by
  rw [IsSlice, Int64.toInt_maxValue] at isSlice
  have fits :
      ∀ number ≤ l.transactions.length,
        (UInt64.ofNat number).toNat = number := by
    intro number counted
    apply UInt64.toNat_ofNat_of_lt'
    simp only [UInt64.size]
    omega
  constructor
  · have ids := congrArg (List.map UInt64.toNat) numbered.ids
    rw [List.map_map, List.map_map] at ids
    refine ids.trans (List.map_congr_left ?_ |>.trans (List.map_id _))
    intro number member
    rw [List.mem_range'_1] at member
    exact fits number (by omega)
  · rw [numbered.count]
    exact fits _ (le_refl _)

theorem Numbered.increasing {l : Ledger} (numbered : l.Numbered)
    (isSlice : l.IsSlice) :
    l.transactions.Pairwise fun earlier later => earlier.id < later.id := by
  have inOrder : (List.range' 1 l.transactions.length).Pairwise (· < ·) :=
    List.pairwise_lt_range'
  rw [← (numbered.exact isSlice).1, List.pairwise_map] at inOrder
  exact inOrder

/--
Calls only append to the journal.  Its entries are numbered from one on, and
every entry is reported for its account and for no other one, in the order of
the numbers.
-/
theorem append_only_journal (requests : List Request) :
    (∀ request,
        (after requests).transactions <+:
          (after (requests ++ [request])).transactions) ∧
      (after requests).Numbered ∧
      ((after requests).IsSlice →
        ((after requests).transactions.map fun txn => txn.id.toNat) =
            List.range' 1 (after requests).transactions.length ∧
          (after requests).nextTxnID.toNat =
            (after requests).transactions.length ∧
          ∀ accountID,
            ((after requests).getTransactions accountID).Pairwise
              fun earlier later => earlier.id < later.id) ∧
      (∀ accountID,
        ((after requests).getTransactions accountID).Sublist
          (after requests).transactions) ∧
      ∀ txn ∈ (after requests).transactions,
        ∀ accountID,
          txn ∈ (after requests).getTransactions accountID ↔
            txn.accountID = accountID := by
  have numbered := numbered_after requests
  refine ⟨?_, numbered, ?_, ?_, ?_⟩
  · intro request
    rw [after, after, LabelledRun.run_append, LabelledRun.run_cons,
      LabelledRun.run_nil, (journal_next _ request).1]
    exact List.prefix_append _ _
  · intro isSlice
    obtain ⟨ids, count⟩ := numbered.exact isSlice
    refine ⟨ids, count, fun accountID => ?_⟩
    exact (numbered.increasing isSlice).filter _
  · exact fun accountID => List.filter_sublist
  · intro txn member accountID
    simp [getTransactions, member]

/-- A deposit and a transfer between two accounts make three entries. -/
theorem append_only_journal_sample :
    ((after
          [.createAccount 1 100, .createAccount 2 0, .deposit 1 5,
            .transfer 1 2 30]).transactions.map fun txn => txn.id.toNat) =
        [1, 2, 3] :=
  ((append_only_journal
    [.createAccount 1 100, .createAccount 2 0, .deposit 1 5,
      .transfer 1 2 30]).2.2.1 (by decide)).1

end AeroRisk.Ledger
