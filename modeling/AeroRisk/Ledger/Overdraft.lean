import AeroRisk.Ledger.Accounts

/-!
# Overdrafts

`Withdraw` and `Transfer` refuse an amount above the balance.  Nothing refuses
a negative amount or a sum which wraps around, and `ErrInvalidAmount` is never
returned.  This module finds the calls which leave a negative balance.
-/

namespace AeroRisk.Ledger

open AeroRisk.Financial
open AeroRisk.Library

/-- No account is overdrawn. -/
def NoOverdraft (l : Ledger) : Prop :=
  ∀ accountID, 0 ≤ l.balanceOf accountID

/-- The call does not open an account with a negative balance. -/
def Request.OpensNonneg : Request → Prop
  | .createAccount _ initialBalance => 0 ≤ initialBalance
  | _ => True

/-- An amount which is added keeps a balance from `0` to the largest value. -/
def CanReceive (balance amount : Quantity) : Prop :=
  -balance.toInt ≤ amount.toInt ∧
    amount.toInt ≤ Int64.maxValue.toInt - balance.toInt

/-- An amount up to the balance is not so negative that taking it wraps. -/
def CanGive (balance amount : Quantity) : Prop :=
  balance.toInt - Int64.maxValue.toInt ≤ amount.toInt

/--
A call which the code does not refuse moves an amount which the balances
concerned can give and receive.
-/
def KeepsCovered (l : Ledger) : Request → Prop
  | .createAccount _ _ => True
  | .deposit accountID amount =>
      accountID ∈ l.accounts → CanReceive (l.balanceOf accountID) amount
  | .withdraw accountID amount =>
      accountID ∈ l.accounts → amount ≤ l.balanceOf accountID →
        CanGive (l.balanceOf accountID) amount
  | .transfer fromID toID amount =>
      fromID ∈ l.accounts → toID ∈ l.accounts →
        amount ≤ l.balanceOf fromID → fromID ≠ toID →
          CanGive (l.balanceOf fromID) amount ∧
            CanReceive (l.balanceOf toID) amount

/-! ## The arithmetic of one balance -/

theorem add_nonneg_iff {balance amount : Quantity} (nonneg : 0 ≤ balance) :
    0 ≤ balance + amount ↔ CanReceive balance amount := by
  have balanceNonneg := toInt_nonneg.mpr nonneg
  have balanceHigh := Int64.toInt_lt balance
  have amountLow := Int64.le_toInt amount
  have amountHigh := Int64.toInt_lt amount
  rw [← toInt_nonneg, CanReceive, Int64.toInt_maxValue, Int64.toInt_add,
    Int.bmod_def]
  omega

theorem sub_nonneg_iff {balance amount : Quantity} (nonneg : 0 ≤ balance)
    (covered : amount ≤ balance) :
    0 ≤ balance - amount ↔ CanGive balance amount := by
  have balanceNonneg := toInt_nonneg.mpr nonneg
  have balanceHigh := Int64.toInt_lt balance
  have amountLow := Int64.le_toInt amount
  have amountLe := Int64.le_iff_toInt_le.mp covered
  rw [← toInt_nonneg, CanGive, Int64.toInt_maxValue, Int64.toInt_sub,
    Int.bmod_def]
  omega

/-! ## One call -/

/-- A refused call changes no balance. -/
theorem NoOverdraft.next_of_error {l : Ledger} {request : Request}
    (noOverdraft : l.NoOverdraft) (refused : l.error request ≠ none) :
    (l.next request).NoOverdraft := by
  intro accountID
  rw [balanceOf_next_of_error l refused]
  exact noOverdraft accountID

/-- A posting to one account matters for the balance of that account. -/
theorem forall_posted_iff {l : Ledger} (noOverdraft : l.NoOverdraft)
    (posted : UInt64) (amount : Quantity) :
    (∀ accountID,
        0 ≤ l.balanceOf accountID +
          Postings.balance [(posted, amount)] accountID) ↔
      0 ≤ l.balanceOf posted + amount := by
  simp only [balanceOf_add_posting]
  constructor
  · intro nonneg
    simpa using nonneg posted
  · intro nonneg accountID
    split
    · exact nonneg
    · exact noOverdraft accountID

/-- A transfer to another account matters for the two balances. -/
theorem forall_transferred_iff {l : Ledger} (noOverdraft : l.NoOverdraft)
    {fromID toID : UInt64} (different : fromID ≠ toID)
    (amount : Quantity) :
    (∀ accountID,
        0 ≤ l.balanceOf accountID +
          Postings.balance [(fromID, -amount), (toID, amount)] accountID) ↔
      0 ≤ l.balanceOf fromID - amount ∧ 0 ≤ l.balanceOf toID + amount := by
  constructor
  · intro nonneg
    constructor
    · simpa [different, Ne.symm different, sub_eq_add_neg] using nonneg fromID
    · simpa [different, Ne.symm different] using nonneg toID
  · rintro ⟨gives, receives⟩ accountID
    by_cases isFrom : fromID = accountID
    · subst isFrom
      simpa [different, Ne.symm different, sub_eq_add_neg] using gives
    · by_cases isTo : toID = accountID
      · subst isTo
        simpa [different, Ne.symm different] using receives
      · simpa [isFrom, isTo] using noOverdraft accountID

/-- From covered balances exactly the calls which keep them covered do so. -/
theorem noOverdraft_next_iff {l : Ledger} {request : Request}
    (opensNonneg : request.OpensNonneg) (noOverdraft : l.NoOverdraft) :
    (l.next request).NoOverdraft ↔ l.KeepsCovered request := by
  by_cases accepted : l.error request = none
  · simp only [NoOverdraft, balanceOf_next_of_success l accepted]
    cases request with
    | createAccount id initialBalance =>
        have absent := (l.error_createAccount id initialBalance).mp accepted
        rw [Request.postings, forall_posted_iff noOverdraft,
          l.balanceOf_of_notMem absent, zero_add]
        exact ⟨fun _ => trivial, fun _ => opensNonneg⟩
    | deposit id amount =>
        have present := (l.error_deposit id amount).mp accepted
        rw [Request.postings, forall_posted_iff noOverdraft,
          add_nonneg_iff (noOverdraft id)]
        exact ⟨fun receives _ => receives, fun covered => covered present⟩
    | withdraw id amount =>
        have both := (l.error_withdraw id amount).mp accepted
        rw [Request.postings, forall_posted_iff noOverdraft,
          ← sub_eq_add_neg, sub_nonneg_iff (noOverdraft id) both.2]
        exact
          ⟨fun gives _ _ => gives, fun covered => covered both.1 both.2⟩
    | transfer fromID toID amount =>
        have all := (l.error_transfer fromID toID amount).mp accepted
        by_cases same : fromID = toID
        · subst same
          refine ⟨fun _ _ _ _ different => absurd rfl different, ?_⟩
          intro _ accountID
          by_cases isFrom : fromID = accountID <;>
            simpa [Request.postings, isFrom] using noOverdraft accountID
        · rw [Request.postings, forall_transferred_iff noOverdraft same,
            sub_nonneg_iff (noOverdraft fromID) all.2.2,
            add_nonneg_iff (noOverdraft toID)]
          exact
            ⟨fun both _ _ _ _ => both,
              fun covered => covered all.1 all.2.1 all.2.2 same⟩
  · have keeps : l.KeepsCovered request := by
      cases request with
      | createAccount id initialBalance => trivial
      | deposit id amount =>
          rw [error_deposit] at accepted
          exact fun present => absurd present accepted
      | withdraw id amount =>
          rw [error_withdraw] at accepted
          exact fun present covered => absurd ⟨present, covered⟩ accepted
      | transfer fromID toID amount =>
          rw [error_transfer] at accepted
          exact fun fromPresent toPresent covered _ =>
            absurd ⟨fromPresent, toPresent, covered⟩ accepted
    exact ⟨fun _ => keeps, fun _ => noOverdraft.next_of_error accepted⟩

/--
No account is overdrawn in any state of exactly the runs whose calls, from
non-negative initial balances, keep every balance covered.
-/
theorem no_overdraft (requests : List Request)
    (opensNonneg : ∀ request ∈ requests, request.OpensNonneg) :
    LabelledRun.Always next NoOverdraft newLedger requests ↔
      LabelledRun.Along next KeepsCovered newLedger requests := by
  have startsCovered : newLedger.NoOverdraft := fun _ => Int64.le_refl 0
  have enough : ∀ l : Ledger, l.NoOverdraft → l.NoOverdraft :=
    fun _ noOverdraft => noOverdraft
  have preserved :
      ∀ (l : Ledger) (request : Request), request.OpensNonneg →
        l.NoOverdraft → l.KeepsCovered request →
          (l.next request).NoOverdraft := by
    intro l request opensNonneg noOverdraft
    exact (noOverdraft_next_iff opensNonneg noOverdraft).mpr
  have broken :
      ∀ (l : Ledger) (request : Request), request.OpensNonneg →
        l.NoOverdraft → (l.next request).NoOverdraft →
          l.KeepsCovered request := by
    intro l request opensNonneg noOverdraft
    exact (noOverdraft_next_iff opensNonneg noOverdraft).mp
  exact
    LabelledRun.always_iff_along_of_admitted enough preserved broken
      opensNonneg startsCovered

/-- An account with 100 from which 200 are put away as a deposit of `-200`. -/
def negativeDeposit : List Request :=
  [.createAccount 1 100, .deposit 1 (-200)]

theorem negativeDeposit_opensNonneg :
    ∀ request ∈ negativeDeposit, request.OpensNonneg := by
  simp [negativeDeposit, Request.OpensNonneg]

theorem no_overdraft_sample :
    LabelledRun.Always next NoOverdraft newLedger negativeDeposit ↔
      LabelledRun.Along next KeepsCovered newLedger negativeDeposit :=
  no_overdraft negativeDeposit negativeDeposit_opensNonneg

/-- The deposit succeeds and leaves a balance of `-100`. -/
theorem no_overdraft_fails :
    ¬ ∀ requests : List Request,
        (∀ request ∈ requests, request.OpensNonneg) →
          (LabelledRun.run next newLedger requests).NoOverdraft := by
  intro noOverdraft
  have nonneg :=
    noOverdraft negativeDeposit negativeDeposit_opensNonneg 1
  exact absurd nonneg (by decide)

/-- A withdrawal of a negative amount wraps around. -/
example :
    (LabelledRun.run next newLedger
        [.createAccount 1 Int64.maxValue, .withdraw 1 (-1)]).balanceOf 1 =
      Int64.minValue := by
  decide

/-- A transfer of a negative amount takes what the receiver does not have. -/
example :
    (LabelledRun.run next newLedger
        [.createAccount 1 0, .createAccount 2 100,
          .transfer 1 2 (-101)]).balanceOf 2 = -1 := by
  decide

end AeroRisk.Ledger
