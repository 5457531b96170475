import Mathlib.Data.List.Range
import Mathlib.Logic.Function.Basic

/-!
# Tickets issued by a counter

A counter issues consecutive numbers to holders.  A holder has at most one
ticket at a time, and retires it before it takes the next one.  The ledger of
such a system says who holds which ticket and which tickets are retired.
Whatever the order of the steps, the tickets issued are exactly the numbers up
to the counter, and each one is either held by one holder or retired.
-/

namespace AeroRisk.Library.TicketLedger

universe u

variable {Holder : Type u}

/-- The counter, the tickets issued so far, the ticket which each holder has
and the tickets which were retired. -/
structure Ledger (Holder : Type u) where
  counter : Int
  issued : List (Holder × Int)
  held : Holder → Option Int
  retired : List Int

/-- Nothing was issued: the first ticket will be `0`. -/
def initial : Ledger Holder where
  counter := -1
  issued := []
  held := fun _ => none
  retired := []

variable [DecidableEq Holder]

namespace Ledger

/-- The next ticket goes to a holder. -/
def issue (ledger : Ledger Holder) (holder : Holder) : Ledger Holder where
  counter := ledger.counter + 1
  issued := ledger.issued ++ [(holder, ledger.counter + 1)]
  held := Function.update ledger.held holder (some (ledger.counter + 1))
  retired := ledger.retired

/-- A holder retires its ticket. -/
def retire (ledger : Ledger Holder) (holder : Holder) (ticket : Int) :
    Ledger Holder where
  counter := ledger.counter
  issued := ledger.issued
  held := Function.update ledger.held holder none
  retired := ledger.retired ++ [ticket]

variable {ledger : Ledger Holder} {holder other : Holder} {ticket given : Int}

/-- A ticket held after an issue is the new one or was held before. -/
theorem held_issue (held : (ledger.issue holder).held other = some ticket) :
    other = holder ∧ ticket = ledger.counter + 1 ∨
      ledger.held other = some ticket := by
  simp only [issue, Function.update_apply] at held
  split at held
  · next isHolder =>
      cases held
      exact Or.inl ⟨isHolder, rfl⟩
  · exact Or.inr held

/-- A ticket held after a holder retired one was held before by another. -/
theorem held_retire
    (held : (ledger.retire holder given).held other = some ticket) :
    other ≠ holder ∧ ledger.held other = some ticket := by
  simp only [retire, Function.update_apply] at held
  split at held
  · cases held
  · next notHolder => exact ⟨notHolder, held⟩

/-- What a holder can do to the ledger. -/
inductive Step (ledger : Ledger Holder) (holder : Holder) :
    Ledger Holder → Prop
  | stay : Step ledger holder ledger
  | issue (without : ledger.held holder = none) :
      Step ledger holder (ledger.issue holder)
  | retire (ticket : Int) (holds : ledger.held holder = some ticket) :
      Step ledger holder (ledger.retire holder ticket)

/-- Every ticket up to the counter is held once or retired, and no other. -/
structure Exact (ledger : Ledger Holder) : Prop where
  counter_ge : -1 ≤ ledger.counter
  issued_eq :
    ledger.issued.map Prod.snd =
      (List.range (ledger.counter + 1).toNat).map Int.ofNat
  held_range :
    ∀ holder ticket, ledger.held holder = some ticket →
      0 ≤ ticket ∧ ticket ≤ ledger.counter
  held_once :
    ∀ first second ticket, ledger.held first = some ticket →
      ledger.held second = some ticket → first = second
  retired_range :
    ∀ ticket ∈ ledger.retired, 0 ≤ ticket ∧ ticket ≤ ledger.counter
  retired_unheld :
    ∀ ticket ∈ ledger.retired, ∀ holder, ledger.held holder ≠ some ticket
  accounted :
    ∀ ticket, 0 ≤ ticket → ticket ≤ ledger.counter →
      ticket ∈ ledger.retired ∨ ∃ holder, ledger.held holder = some ticket

namespace Exact

variable {ledger after : Ledger Holder} {holder : Holder} {ticket : Int}

omit [DecidableEq Holder] in
theorem initial : Exact (TicketLedger.initial : Ledger Holder) where
  counter_ge := Int.le_refl _
  issued_eq := rfl
  held_range := fun _ _ held => nomatch held
  held_once := fun _ _ _ held => nomatch held
  retired_range := fun _ member => nomatch member
  retired_unheld := fun _ member => nomatch member
  accounted := by
    intro ticket nonneg atMost
    change ticket ≤ -1 at atMost
    omega

omit [DecidableEq Holder] in
theorem issued_range (exact : ledger.Exact) {record : Holder × Int}
    (member : record ∈ ledger.issued) :
    0 ≤ record.2 ∧ record.2 ≤ ledger.counter := by
  have isIssued : record.2 ∈ ledger.issued.map Prod.snd :=
    List.mem_map_of_mem member
  rw [exact.issued_eq, List.mem_map] at isIssued
  obtain ⟨number, inRange, same⟩ := isIssued
  have less := List.mem_range.mp inRange
  rw [← same, Int.ofNat_eq_natCast]
  omega

omit [DecidableEq Holder] in
/-- The tickets are issued in increasing order. -/
theorem issued_sorted (exact : ledger.Exact) :
    (ledger.issued.map Prod.snd).Pairwise (· < ·) := by
  rw [exact.issued_eq, List.pairwise_map]
  exact List.pairwise_lt_range.imp fun less => Int.ofNat_lt.mpr less

omit [DecidableEq Holder] in
/-- Exactly the numbers up to the counter are issued. -/
theorem mem_issued_iff (exact : ledger.Exact) (ticket : Int) :
    ticket ∈ ledger.issued.map Prod.snd ↔
      0 ≤ ticket ∧ ticket ≤ ledger.counter := by
  constructor
  · intro member
    obtain ⟨record, isIssued, rfl⟩ := List.mem_map.mp member
    exact exact.issued_range isIssued
  · rintro ⟨nonneg, atMost⟩
    rw [exact.issued_eq, List.mem_map]
    refine ⟨ticket.toNat, List.mem_range.mpr ?_, Int.toNat_of_nonneg nonneg⟩
    omega

/-- The tickets of one holder are issued in increasing order. -/
theorem issued_sorted_of_holder (exact : ledger.Exact) (holder : Holder) :
    ((ledger.issued.filter fun record => record.1 = holder).map
      Prod.snd).Pairwise (· < ·) :=
  exact.issued_sorted.sublist (List.filter_sublist.map Prod.snd)

omit [DecidableEq Holder] in
/-- Nobody holds the ticket which is issued next. -/
theorem next_unheld (exact : ledger.Exact) (other : Holder) :
    ledger.held other ≠ some (ledger.counter + 1) := by
  intro held
  have range := exact.held_range other _ held
  omega

theorem issue (exact : ledger.Exact)
    (without : ledger.held holder = none) : (ledger.issue holder).Exact where
  counter_ge := by
    have before := exact.counter_ge
    simp only [Ledger.issue]
    omega
  issued_eq := by
    have nonneg := exact.counter_ge
    have more :
        (ledger.counter + 1 + 1).toNat = (ledger.counter + 1).toNat + 1 := by
      omega
    have last : Int.ofNat (ledger.counter + 1).toNat = ledger.counter + 1 :=
      Int.toNat_of_nonneg (by omega)
    simp only [Ledger.issue, List.map_append, exact.issued_eq, more,
      List.range_succ, List.map_cons, List.map_nil, last]
  held_range := by
    intro other ticket held
    have before := exact.counter_ge
    simp only [Ledger.issue]
    rcases held_issue held with ⟨-, rfl⟩ | heldBefore
    · omega
    · have range := exact.held_range other ticket heldBefore
      omega
  held_once := by
    intro first second ticket firstHeld secondHeld
    rcases held_issue firstHeld with ⟨isFirst, rfl⟩ | firstBefore
    · rcases held_issue secondHeld with ⟨isSecond, -⟩ | secondBefore
      · rw [isFirst, isSecond]
      · exact absurd secondBefore (exact.next_unheld second)
    · rcases held_issue secondHeld with ⟨-, rfl⟩ | secondBefore
      · exact absurd firstBefore (exact.next_unheld first)
      · exact exact.held_once first second ticket firstBefore secondBefore
  retired_range := by
    intro ticket member
    have range := exact.retired_range ticket member
    simp only [Ledger.issue]
    omega
  retired_unheld := by
    intro ticket member other held
    rcases held_issue held with ⟨-, rfl⟩ | heldBefore
    · have range := exact.retired_range _ member
      omega
    · exact exact.retired_unheld ticket member other heldBefore
  accounted := by
    intro ticket nonneg atMost
    simp only [Ledger.issue] at atMost ⊢
    by_cases isNew : ticket = ledger.counter + 1
    · exact Or.inr ⟨holder, by simp [isNew]⟩
    · rcases exact.accounted ticket nonneg (by omega) with
        retired | ⟨other, held⟩
      · exact Or.inl retired
      · refine Or.inr ⟨other, ?_⟩
        rw [Function.update_of_ne]
        · exact held
        · rintro rfl
          rw [without] at held
          cases held

theorem retire (exact : ledger.Exact)
    (holds : ledger.held holder = some ticket) :
    (ledger.retire holder ticket).Exact where
  counter_ge := exact.counter_ge
  issued_eq := exact.issued_eq
  held_range := by
    intro other otherTicket held
    exact exact.held_range other otherTicket (held_retire held).2
  held_once := by
    intro first second otherTicket firstHeld secondHeld
    exact
      exact.held_once first second otherTicket (held_retire firstHeld).2
        (held_retire secondHeld).2
  retired_range := by
    intro other member
    rcases List.mem_append.mp member with before | isTicket
    · exact exact.retired_range other before
    · rw [List.mem_singleton.mp isTicket]
      exact exact.held_range holder ticket holds
  retired_unheld := by
    intro other member second held
    obtain ⟨notHolder, heldBefore⟩ := held_retire held
    rcases List.mem_append.mp member with before | isTicket
    · exact exact.retired_unheld other before second heldBefore
    · rw [List.mem_singleton.mp isTicket] at heldBefore
      exact notHolder (exact.held_once second holder ticket heldBefore holds)
  accounted := by
    intro other nonneg atMost
    rcases exact.accounted other nonneg atMost with retired | ⟨second, held⟩
    · exact Or.inl (List.mem_append_left _ retired)
    · by_cases isHolder : second = holder
      · subst second
        cases holds.symm.trans held
        exact Or.inl (List.mem_append_right _ (List.mem_singleton_self _))
      · refine Or.inr ⟨second, ?_⟩
        simp only [Ledger.retire]
        rwa [Function.update_of_ne isHolder]

/-- Every step keeps the account exact. -/
theorem step (exact : ledger.Exact) (step : ledger.Step holder after) :
    after.Exact := by
  cases step with
  | stay => exact exact
  | issue without => exact exact.issue without
  | retire ticket holds => exact exact.retire holds

end Exact

end Ledger

end AeroRisk.Library.TicketLedger
