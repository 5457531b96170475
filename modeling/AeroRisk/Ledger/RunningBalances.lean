import AeroRisk.Ledger.History
import AeroRisk.Library.RunningTotals

/-!
# Running balances

Every entry of the journal carries the balance which its call left.  From one
entry of an account to the next the balance changes by the amount of the
entry, unless the account transfers to itself: both entries of such a transfer
carry the balance at its end.
-/

namespace AeroRisk.Ledger

open AeroRisk.Financial
open AeroRisk.Library
open AeroRisk.Library.RunningTotals

/-- What an entry does to the balance: withdrawals are journaled unsigned. -/
def Transaction.effect (txn : Transaction) : Quantity :=
  match txn.type with
  | .withdrawal => -txn.amount
  | _ => txn.amount

/-- The balance with which the call opens the account, if it does. -/
def Request.openingFor (accountID : UInt64) : Request → Option Quantity
  | .createAccount id initialBalance =>
      if id = accountID then some initialBalance else none
  | _ => none

/-- The opening balance: later calls for the same account are refused. -/
def openingBalance (requests : List Request) (accountID : UInt64) :
    Quantity :=
  (requests.findSome? (Request.openingFor accountID)).getD 0

/--
The balances of the entries of every account chain from its opening balance
to its current balance.
-/
def BalancesChain (requests : List Request) : Prop :=
  ∀ accountID,
    Chained Transaction.effect Transaction.balance
        (openingBalance requests accountID)
        ((after requests).getTransactions accountID) ∧
      closing Transaction.balance (openingBalance requests accountID)
          ((after requests).getTransactions accountID) =
        ((after requests).getBalance accountID).1

/-- A transfer of an account to itself which succeeds moves nothing. -/
def TransfersApart (l : Ledger) : Request → Prop
  | .transfer fromID toID amount =>
      fromID = toID → fromID ∈ l.accounts → amount ≤ l.balanceOf fromID →
        amount = 0
  | _ => True

/-! ## The entries of one call -/

/-- The last entry of a call for an account carries its new balance. -/
theorem closing_journaled (l : Ledger) (request : Request)
    (accountID : UInt64)
    (notOpened :
      l.error request = none → request.openingFor accountID = none) :
    closing Transaction.balance (l.balanceOf accountID)
        ((l.journaled request).filter fun txn => txn.accountID = accountID) =
      (l.next request).balanceOf accountID := by
  by_cases accepted : l.error request = none
  · rw [journaled, if_pos accepted]
    cases request with
    | createAccount id initialBalance =>
        have other : id ≠ accountID := by
          simpa [Request.openingFor] using notOpened accepted
        simp [Request.journaled, balanceOf_next_of_success l accepted,
          Request.postings, other]
    | deposit id amount =>
        by_cases same : id = accountID
        · simp [Request.journaled, same]
        · simp [Request.journaled, same,
            balanceOf_next_of_success l accepted, Request.postings]
    | withdraw id amount =>
        by_cases same : id = accountID
        · simp [Request.journaled, same]
        · simp [Request.journaled, same,
            balanceOf_next_of_success l accepted, Request.postings]
    | transfer fromID toID amount =>
        by_cases isTo : toID = accountID
        · by_cases isFrom : fromID = accountID <;>
            simp [Request.journaled, isTo, isFrom]
        · by_cases isFrom : fromID = accountID
          · simp [Request.journaled, isTo, isFrom]
          · simp [Request.journaled, isTo, isFrom,
              balanceOf_next_of_success l accepted, Request.postings]
  · rw [journaled, if_neg accepted, next_of_error accepted]
    rfl

/-- A transfer of an account to itself leaves the balance as it was. -/
theorem chained_self (l : Ledger) {accountID : UInt64} {amount : Quantity}
    (accepted : l.error (.transfer accountID accountID amount) = none) :
    (∀ other,
        Chained Transaction.effect Transaction.balance (l.balanceOf other)
          ((l.journaled (.transfer accountID accountID amount)).filter
            fun txn => txn.accountID = other)) ↔
      amount = 0 := by
  have unchanged :
      (l.next (.transfer accountID accountID amount)).balanceOf accountID =
        l.balanceOf accountID := by
    simp [balanceOf_next_of_success l accepted, Request.postings]
  rw [journaled, if_pos accepted]
  constructor
  · intro chained
    have both := chained accountID
    simp only [Request.journaled, unchanged] at both
    simpa [Transaction.effect] using both
  · rintro rfl other
    by_cases same : accountID = other
    · subst same
      simp [Request.journaled, unchanged, Transaction.effect]
    · simp [Request.journaled, same]

/-- A call with a single entry chains when this carries the new balance. -/
theorem chained_single (l : Ledger) {request : Request} {txn : Transaction}
    (isOnly : l.journaled request = [txn])
    (carried : txn.balance = l.balanceOf txn.accountID + txn.effect)
    (accountID : UInt64) :
    Chained Transaction.effect Transaction.balance (l.balanceOf accountID)
      ((l.journaled request).filter
        fun entry => entry.accountID = accountID) := by
  rw [isOnly]
  by_cases same : txn.accountID = accountID
  · subst same
    simpa using carried
  · simp [same]

/-- The entries of a transfer between two accounts chain. -/
theorem chained_apart (l : Ledger) {fromID toID : UInt64} {amount : Quantity}
    (accepted : l.error (.transfer fromID toID amount) = none)
    (apart : fromID ≠ toID) (accountID : UInt64) :
    Chained Transaction.effect Transaction.balance (l.balanceOf accountID)
      ((l.journaled (.transfer fromID toID amount)).filter
        fun txn => txn.accountID = accountID) := by
  rw [journaled, if_pos accepted]
  by_cases isTo : toID = accountID
  · subst isTo
    simp [Request.journaled, apart, Transaction.effect,
      balanceOf_next_of_success l accepted, Request.postings]
  · by_cases isFrom : fromID = accountID
    · subst isFrom
      simp [Request.journaled, isTo, Transaction.effect,
        balanceOf_next_of_success l accepted, Request.postings]
    · simp [Request.journaled, isTo, isFrom]

/-- The entries of a call chain unless both are entries of one account. -/
theorem chained_journaled (l : Ledger) (request : Request) :
    (∀ accountID,
        Chained Transaction.effect Transaction.balance
          (l.balanceOf accountID)
          ((l.journaled request).filter
            fun txn => txn.accountID = accountID)) ↔
      l.TransfersApart request := by
  by_cases accepted : l.error request = none
  · cases request with
    | createAccount id initialBalance =>
        simp [journaled, Request.journaled, TransfersApart]
    | deposit id amount =>
        refine iff_of_true (fun accountID => ?_) trivial
        apply l.chained_single
        · rw [journaled, if_pos accepted, Request.journaled]
        · simp [Transaction.effect, balanceOf_next_of_success l accepted,
            Request.postings]
    | withdraw id amount =>
        refine iff_of_true (fun accountID => ?_) trivial
        apply l.chained_single
        · rw [journaled, if_pos accepted, Request.journaled]
        · simp [Transaction.effect, balanceOf_next_of_success l accepted,
            Request.postings]
    | transfer fromID toID amount =>
        have all := (l.error_transfer fromID toID amount).mp accepted
        by_cases same : fromID = toID
        · subst same
          rw [chained_self l accepted]
          exact
            ⟨fun isZero _ _ _ => isZero,
              fun apart => apart rfl all.1 all.2.2⟩
        · exact
            iff_of_true (l.chained_apart accepted same) fun isSame =>
              absurd isSame same
  · rw [journaled, if_neg accepted]
    refine iff_of_true (fun _ => trivial) ?_
    cases request with
    | createAccount id initialBalance => trivial
    | deposit id amount => trivial
    | withdraw id amount => trivial
    | transfer fromID toID amount =>
        rintro rfl present covered
        exact
          absurd
            ((l.error_transfer fromID fromID amount).mpr
              ⟨present, present, covered⟩)
            accepted

/-- The entries of a call are entries of accounts which were there. -/
theorem mem_of_journaled {l : Ledger} {request : Request} {txn : Transaction}
    (member : txn ∈ l.journaled request) : txn.accountID ∈ l.accounts := by
  rw [journaled] at member
  split at member
  · next accepted =>
      cases request with
      | createAccount id initialBalance => cases member
      | deposit id amount =>
          rw [Request.journaled, List.mem_singleton] at member
          rw [member]
          exact (l.error_deposit id amount).mp accepted
      | withdraw id amount =>
          rw [Request.journaled, List.mem_singleton] at member
          rw [member]
          exact ((l.error_withdraw id amount).mp accepted).1
      | transfer fromID toID amount =>
          have all := (l.error_transfer fromID toID amount).mp accepted
          rw [Request.journaled, List.mem_cons, List.mem_singleton] at member
          rcases member with rfl | rfl
          · exact all.1
          · exact all.2.1
  · cases member

theorem getTransactions_next (l : Ledger) (request : Request)
    (accountID : UInt64) :
    (l.next request).getTransactions accountID =
      l.getTransactions accountID ++
        (l.journaled request).filter fun txn => txn.accountID = accountID := by
  rw [getTransactions, (l.journal_next request).1, List.filter_append]
  rfl

theorem openingFor_eq_some {request : Request} {accountID : UInt64}
    {initialBalance : Quantity} :
    request.openingFor accountID = some initialBalance ↔
      request = .createAccount accountID initialBalance := by
  cases request with
  | createAccount id balance =>
      by_cases same : id = accountID <;> simp [Request.openingFor, same]
  | deposit id amount => simp [Request.openingFor]
  | withdraw id amount => simp [Request.openingFor]
  | transfer fromID toID amount => simp [Request.openingFor]

/-- An account is there when it was or when the call opens it. -/
theorem mem_next_iff_opening (l : Ledger) (request : Request)
    (accountID : UInt64) :
    accountID ∈ (l.next request).accounts ↔
      accountID ∈ l.accounts ∨ (request.openingFor accountID).isSome := by
  by_cases accepted : l.error request = none
  · rw [mem_next, postings, if_pos accepted]
    cases request with
    | createAccount id initialBalance =>
        by_cases same : id = accountID <;>
          simp [Request.postings, Request.openingFor, same]
    | deposit id amount =>
        have present := (l.error_deposit id amount).mp accepted
        simpa [Request.postings, Request.openingFor] using
          fun same => same ▸ present
    | withdraw id amount =>
        have both := (l.error_withdraw id amount).mp accepted
        simpa [Request.postings, Request.openingFor] using
          fun same => same ▸ both.1
    | transfer fromID toID amount =>
        have all := (l.error_transfer fromID toID amount).mp accepted
        suffices
            fromID = accountID ∨ toID = accountID →
              accountID ∈ l.accounts by
          simpa [Request.postings, Request.openingFor] using this
        rintro (rfl | rfl)
        · exact all.1
        · exact all.2.1
  · rw [next_of_error accepted, Option.isSome_iff_exists]
    refine ⟨Or.inl, Or.rec (fun present => present) ?_⟩
    rintro ⟨initialBalance, opens⟩
    rw [openingFor_eq_some] at opens
    subst opens
    rw [error_createAccount, not_not] at accepted
    exact accepted

/-! ## The entries of a run -/

/-- What a run tells of the accounts. -/
structure Told (requests : List Request) : Prop where
  opened :
    ∀ accountID,
      accountID ∈ (after requests).accounts ↔
        (requests.findSome? (Request.openingFor accountID)).isSome
  known :
    ∀ txn ∈ (after requests).transactions,
      txn.accountID ∈ (after requests).accounts
  closes :
    ∀ accountID,
      closing Transaction.balance (openingBalance requests accountID)
          ((after requests).getTransactions accountID) =
        (after requests).balanceOf accountID

@[simp]
theorem after_concat (requests : List Request) (request : Request) :
    after (requests ++ [request]) = (after requests).next request := by
  rw [after, LabelledRun.run_append, LabelledRun.run_cons,
    LabelledRun.run_nil]

theorem openingBalance_concat (requests : List Request) (request : Request)
    (accountID : UInt64) :
    openingBalance (requests ++ [request]) accountID =
      ((requests.findSome? (Request.openingFor accountID)).or
        (request.openingFor accountID)).getD 0 := by
  rw [openingBalance, List.findSome?_append]
  simp

namespace Told

variable {requests : List Request} (told : Told requests)
  (request : Request)

include told

/-- A call opens an account, which has no entries, or keeps its opening. -/
theorem opening_concat (accountID : UInt64) :
    ((after requests).getTransactions accountID = [] ∧
        (after requests).journaled request = [] ∧
        openingBalance (requests ++ [request]) accountID =
          ((after requests).next request).balanceOf accountID) ∨
      ((after requests).error request = none →
          request.openingFor accountID = none) ∧
        openingBalance (requests ++ [request]) accountID =
          openingBalance requests accountID := by
  rw [openingBalance_concat]
  cases opens : request.openingFor accountID with
  | none => exact Or.inr ⟨fun _ => rfl, by rw [Option.or_none]; rfl⟩
  | some initialBalance =>
      rw [openingFor_eq_some] at opens
      subst opens
      by_cases present : accountID ∈ (after requests).accounts
      · have opened := (told.opened accountID).mp present
        refine Or.inr ⟨fun accepted => ?_, ?_⟩
        · exact
            absurd present ((error_createAccount _ _ _).mp accepted)
        · rw [Option.or_of_isSome opened]
          rfl
      · have accepted :=
          (error_createAccount (after requests) accountID
            initialBalance).mpr present
        have unopened :
            requests.findSome? (Request.openingFor accountID) = none := by
          rw [← Option.not_isSome_iff_eq_none, ← told.opened]
          exact present
        refine Or.inl ⟨?_, ?_, ?_⟩
        · rw [getTransactions, List.filter_eq_nil_iff]
          intro txn member
          have isKnown := told.known txn member
          simp only [decide_eq_true_eq]
          rintro rfl
          exact present isKnown
        · rw [journaled, if_pos accepted]
          rfl
        · rw [balanceOf_next_of_success _ accepted,
            balanceOf_of_notMem _ present, unopened]
          simp [Request.postings]

theorem closes_concat (accountID : UInt64) :
    closing Transaction.balance
        (openingBalance (requests ++ [request]) accountID)
        (((after requests).next request).getTransactions accountID) =
      ((after requests).next request).balanceOf accountID := by
  rw [getTransactions_next]
  rcases told.opening_concat request accountID with
    ⟨noEntries, nothing, opening⟩ | ⟨notOpened, opening⟩
  · rw [noEntries, nothing, opening]
    rfl
  · rw [opening, closing_append, told.closes accountID]
    exact closing_journaled _ request accountID notOpened

/-- The balances chain on when those of the call chain. -/
theorem chained_concat (accountID : UInt64) :
    Chained Transaction.effect Transaction.balance
        (openingBalance (requests ++ [request]) accountID)
        (((after requests).next request).getTransactions accountID) ↔
      Chained Transaction.effect Transaction.balance
          (openingBalance requests accountID)
          ((after requests).getTransactions accountID) ∧
        Chained Transaction.effect Transaction.balance
          ((after requests).balanceOf accountID)
          (((after requests).journaled request).filter
            fun txn => txn.accountID = accountID) := by
  rw [getTransactions_next]
  rcases told.opening_concat request accountID with
    ⟨noEntries, nothing, opening⟩ | ⟨notOpened, opening⟩
  · rw [noEntries, nothing]
    simp
  · rw [opening, chained_append, told.closes accountID]

theorem concat : Told (requests ++ [request]) where
  opened := by
    intro accountID
    rw [after_concat, mem_next_iff_opening, told.opened,
      List.findSome?_append]
    simp
  known := by
    intro txn member
    rw [after_concat] at member ⊢
    rw [(journal_next _ request).1, List.mem_append] at member
    rw [mem_next]
    rcases member with earlier | isNew
    · exact Or.inl (told.known txn earlier)
    · exact Or.inl (mem_of_journaled isNew)
  closes := by
    intro accountID
    rw [after_concat]
    exact told.closes_concat request accountID

end Told

theorem told (requests : List Request) : Told requests := by
  induction requests using List.reverseRecOn with
  | nil =>
      refine ⟨fun accountID => ?_, fun txn member => ?_, fun accountID => rfl⟩
      · simp [newLedger, Finmap.notMem_empty]
      · cases member
  | append_singleton requests request inductionHypothesis =>
      exact inductionHypothesis.concat request

theorem balancesChain_iff (requests : List Request) :
    BalancesChain requests ↔
      ∀ accountID,
        Chained Transaction.effect Transaction.balance
          (openingBalance requests accountID)
          ((after requests).getTransactions accountID) := by
  rw [BalancesChain]
  refine forall_congr' fun accountID => and_iff_left ?_
  rw [getBalance_eq]
  exact (told requests).closes accountID

/--
The balances of the entries of every account chain from its opening balance to
its current one exactly when no account has transferred something to itself.
-/
theorem running_balances (requests : List Request) :
    BalancesChain requests ↔
      LabelledRun.Along next TransfersApart newLedger requests := by
  rw [balancesChain_iff]
  induction requests using List.reverseRecOn with
  | nil => exact iff_of_true (fun _ => trivial) trivial
  | append_singleton requests request inductionHypothesis =>
      simp only [after_concat, (told requests).chained_concat request]
      rw [forall_and, inductionHypothesis, chained_journaled,
        LabelledRun.along_append, LabelledRun.along_cons]
      exact and_congr_right fun _ => (and_iff_left trivial).symm

/-- An account with 100 transfers 40 to itself. -/
def selfTransfer : List Request :=
  [.createAccount 1 100, .transfer 1 1 40]

/-- Both entries carry the balance 100. -/
theorem running_balances_fails :
    ¬ ∀ requests : List Request, BalancesChain requests := by
  intro chain
  exact absurd (chain selfTransfer 1).1.1 (by decide)

end AeroRisk.Ledger
