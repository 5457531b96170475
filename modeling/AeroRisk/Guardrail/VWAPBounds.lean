import AeroRisk.Guardrail.PairWindows
import AeroRisk.Guardrail.Recommendations
import Mathlib.Tactic.Linarith

/-!
# The bounds of the volume weighted average price

The average is the floor of a quotient of two sums.  It lies between the
lowest and the highest price of an entry with a positive quantity, so with
positive prices it is zero only when nothing was traded.
-/

namespace AeroRisk.Guardrail.Agent1

open AeroRisk.Library

variable {F : Type}

namespace VWAPMonitor

variable {entries : List (VWAPEntry F)} {bound volume : Int}

/-- No entry has a negative quantity. -/
def Weighed (entries : List (VWAPEntry F)) : Prop :=
  ∀ e ∈ entries, 0 ≤ e.quantity

/-- The prices of the entries with a positive quantity. -/
def tradedPrices (entries : List (VWAPEntry F)) : List Int :=
  (entries.filter fun e => 0 < e.quantity).map VWAPEntry.price

theorem mem_tradedPrices {price : Int} :
    price ∈ tradedPrices entries ↔
      ∃ e ∈ entries, 0 < e.quantity ∧ e.price = price := by
  simp [tradedPrices, and_assoc]

/-! ## The two sums -/

/-- A quantity which is not positive is zero, and does not count. -/
theorem mul_le_value {e : VWAPEntry F} (weighs : 0 ≤ e.quantity)
    (above : 0 < e.quantity → bound ≤ e.price) :
    bound * e.quantity ≤ e.price * e.quantity := by
  rcases Int.lt_or_eq_of_le weighs with positive | zero
  · exact Int.mul_le_mul_of_nonneg_right (above positive) weighs
  · rw [← zero, Int.mul_zero, Int.mul_zero]

@[inherit_doc mul_le_value]
theorem value_le_mul {e : VWAPEntry F} (weighs : 0 ≤ e.quantity)
    (below : 0 < e.quantity → e.price ≤ bound) :
    e.price * e.quantity ≤ bound * e.quantity := by
  rcases Int.lt_or_eq_of_le weighs with positive | zero
  · exact Int.mul_le_mul_of_nonneg_right (below positive) weighs
  · rw [← zero, Int.mul_zero, Int.mul_zero]

/-- Sums of entries compare as their terms do. -/
theorem foldl_le_foldl {first second : VWAPEntry F → Int} {less more : Int}
    (terms : ∀ e ∈ entries, first e ≤ second e) (start : less ≤ more) :
    entries.foldl (fun total e => total + first e) less ≤
      entries.foldl (fun total e => total + second e) more := by
  induction entries generalizing less more with
  | nil => exact start
  | cons e rest inductionHypothesis =>
      rw [List.forall_mem_cons] at terms
      exact inductionHypothesis terms.2 (Int.add_le_add start terms.1)

/-- A factor of a sum is one of its terms. -/
theorem mul_foldl (bound volume : Int) :
    bound * entries.foldl (fun total e => total + e.quantity) volume =
      entries.foldl (fun total e => total + bound * e.quantity)
        (bound * volume) := by
  induction entries generalizing volume with
  | nil => rfl
  | cons e rest inductionHypothesis =>
      rw [List.foldl_cons, inductionHypothesis, Int.mul_add]
      rfl

/-- The value is at least the volume times a lower bound of the prices. -/
theorem mul_foldl_le (weighed : Weighed entries)
    (above : ∀ e ∈ entries, 0 < e.quantity → bound ≤ e.price) :
    bound * entries.foldl (fun total e => total + e.quantity) 0 ≤
      entries.foldl (fun total e => total + e.price * e.quantity) 0 := by
  rw [mul_foldl]
  apply foldl_le_foldl
  · intro e member
    exact mul_le_value (weighed e member) (above e member)
  · exact Int.le_of_eq (Int.mul_zero bound)

/-- The value is at most the volume times an upper bound of the prices. -/
theorem foldl_le_mul (weighed : Weighed entries)
    (below : ∀ e ∈ entries, 0 < e.quantity → e.price ≤ bound) :
    entries.foldl (fun total e => total + e.price * e.quantity) 0 ≤
      bound * entries.foldl (fun total e => total + e.quantity) 0 := by
  rw [mul_foldl]
  apply foldl_le_foldl
  · intro e member
    exact value_le_mul (weighed e member) (below e member)
  · exact Int.le_of_eq (Int.mul_zero bound).symm

theorem le_foldl_quantity (weighed : Weighed entries) :
    volume ≤ entries.foldl (fun total e => total + e.quantity) volume := by
  induction entries generalizing volume with
  | nil => exact Int.le_refl volume
  | cons e rest inductionHypothesis =>
      rw [Weighed, List.forall_mem_cons] at weighed
      have later := @inductionHypothesis (volume + e.quantity) weighed.2
      exact Int.le_trans (Int.le_add_of_nonneg_right weighed.1) later

/-- The volume is positive as soon as one quantity is. -/
theorem foldl_quantity_pos (weighed : Weighed entries)
    (traded : ∃ e ∈ entries, 0 < e.quantity) :
    0 < entries.foldl (fun total e => total + e.quantity) 0 := by
  rcases traded with ⟨e, member, positive⟩
  rcases List.append_of_mem member with ⟨earlier, later, rfl⟩
  rw [Weighed, List.forall_mem_append, List.forall_mem_cons] at weighed
  rcases weighed with ⟨before, _, after⟩
  rw [List.foldl_append, List.foldl_cons]
  have start := @le_foldl_quantity F earlier 0 before
  have rest :=
    @le_foldl_quantity F later
      (earlier.foldl (fun total e => total + e.quantity) 0 + e.quantity)
      after
  linarith

/-! ## The average -/

/-- The average is the quotient of the sums, with a positive divisor. -/
theorem calculateVwap_eq (weighed : Weighed entries)
    (traded : ∃ e ∈ entries, 0 < e.quantity) :
    calculateVwap entries =
      entries.foldl (fun total e => total + e.price * e.quantity) 0 /
        entries.foldl (fun total e => total + e.quantity) 0 := by
  have positive := foldl_quantity_pos weighed traded
  have notEmpty : ¬ entries.isEmpty = true := by
    rcases traded with ⟨e, member, _⟩
    rw [List.isEmpty_iff]
    exact List.ne_nil_of_mem member
  rw [calculateVwap, if_neg notEmpty]
  dsimp only
  rw [if_neg (Int.ne_of_gt positive),
    Int.fdiv_eq_ediv_of_nonneg _ (Int.le_of_lt positive)]

theorem le_calculateVwap (weighed : Weighed entries)
    (traded : ∃ e ∈ entries, 0 < e.quantity)
    (above : ∀ e ∈ entries, 0 < e.quantity → bound ≤ e.price) :
    bound ≤ calculateVwap entries := by
  rw [calculateVwap_eq weighed traded,
    Int.le_ediv_iff_mul_le (foldl_quantity_pos weighed traded)]
  exact mul_foldl_le weighed above

theorem calculateVwap_le (weighed : Weighed entries)
    (traded : ∃ e ∈ entries, 0 < e.quantity)
    (below : ∀ e ∈ entries, 0 < e.quantity → e.price ≤ bound) :
    calculateVwap entries ≤ bound := by
  rw [calculateVwap_eq weighed traded]
  apply Int.ediv_le_of_le_mul (foldl_quantity_pos weighed traded)
  exact foldl_le_mul weighed below

/-- The average is between the lowest and the highest price of a trade. -/
def Between (entries : List (VWAPEntry F)) : Prop :=
  ∃ low high,
    (tradedPrices entries).min? = some low ∧
      (tradedPrices entries).max? = some high ∧
        low ≤ calculateVwap entries ∧ calculateVwap entries ≤ high

theorem between_of_traded (weighed : Weighed entries)
    (traded : ∃ e ∈ entries, 0 < e.quantity) : Between entries := by
  have nonempty : tradedPrices entries ≠ [] := by
    rcases traded with ⟨e, member, positive⟩
    exact List.ne_nil_of_mem (mem_tradedPrices.mpr ⟨e, member, positive, rfl⟩)
  rcases Option.ne_none_iff_exists'.mp
      (mt List.min?_eq_none_iff.mp nonempty) with ⟨low, isLow⟩
  rcases Option.ne_none_iff_exists'.mp
      (mt List.max?_eq_none_iff.mp nonempty) with ⟨high, isHigh⟩
  refine ⟨low, high, isLow, isHigh, ?_, ?_⟩
  · apply le_calculateVwap weighed traded
    intro e member positive
    exact
      (List.min?_eq_some_iff.mp isLow).2 e.price
        (mem_tradedPrices.mpr ⟨e, member, positive, rfl⟩)
  · apply calculateVwap_le weighed traded
    intro e member positive
    exact
      (List.max?_eq_some_iff.mp isHigh).2 e.price
        (mem_tradedPrices.mpr ⟨e, member, positive, rfl⟩)

/-! ## The branch for a zero average -/

/-- A positive price, and a quantity which is not negative. -/
def Regular (price quantity : Int) : Prop :=
  0 < price ∧ 0 ≤ quantity

/-- Every entry of the window is regular. -/
def RegularWindow (window : List (VWAPEntry F)) : Prop :=
  ∀ e ∈ window, Regular e.price e.quantity

/-- With positive prices the average is zero only when nothing was traded. -/
theorem quantity_eq_zero_of_calculateVwap (regular : RegularWindow entries)
    (zero : calculateVwap entries = 0) :
    ∀ e ∈ entries, e.quantity = 0 := by
  intro e member
  by_contra traded
  have positive : 0 < e.quantity :=
    lt_of_le_of_ne (regular e member).2 (Ne.symm traded)
  have atLeastOne : 1 ≤ calculateVwap entries :=
    le_calculateVwap (fun e member => (regular e member).2)
      ⟨e, member, positive⟩ fun e member _ => (regular e member).1
  omega

section Checks

variable [PyFloat F] {monitor : VWAPMonitor F}

/-- The result of the branch for a zero average. -/
def zeroVwap : AnomalyResult F :=
  unremarkable .vwapDeviation [("reason", .string "zero_vwap")]

/-- No other branch returns the result for a zero average. -/
theorem eq_zero_of_judge {event : OrderEvent F} {currentVwap : Int}
    {windowSize : Nat}
    (judged : monitor.judge event currentVwap windowSize = .ok zeroVwap) :
    currentVwap = 0 := by
  rw [judge] at judged
  split at judged
  · simp [zeroVwap, unremarkable] at judged
  split at judged
  · assumption
  · rcases bind_eq_ok_iff.mp judged with ⟨deviation, -, rest⟩
    have named :
        (zeroVwap : AnomalyResult F).details.head? =
          some ("account_id", .string event.accountID) := by
      dsimp only at rest
      split at rest
      · rcases exists_of_bind_checked rest with ⟨severity, isResult⟩
        rw [isResult]
        rfl
      · rcases exists_of_bind_checked rest with ⟨severity, isResult⟩
        rw [isResult]
        rfl
    simp [zeroVwap, unremarkable] at named

/-- The event of a reading is regular. -/
def RegularReading (reading : Reading F) : Prop :=
  Regular reading.event.price reading.event.quantity

theorem RegularWindow.append {window : List (VWAPEntry F)}
    {entry : VWAPEntry F} (regular : RegularWindow window)
    (regularEntry : Regular entry.price entry.quantity) :
    RegularWindow (monitor.append window entry) := by
  intro e member
  rcases List.mem_append.mp (List.mem_of_mem_drop member) with old | new
  · exact regular e old
  · rw [List.mem_singleton.mp new]
    exact regularEntry

theorem RegularWindow.observe {window : List (VWAPEntry F)}
    {reading : Reading F} (regular : RegularWindow window)
    (regularReading : RegularReading reading) :
    RegularWindow (monitor.observe window reading).1 := by
  rw [VWAPMonitor.observe]
  split
  · exact regular
  · exact regular.append regularReading

/-- The step of the windows, on the window of one key. -/
theorem RegularWindow.next {windows : String → List (VWAPEntry F)}
    {key : String} {reading : Reading F} (regular : RegularWindow (windows key))
    (regularReading : reading.key = key → RegularReading reading) :
    RegularWindow (monitor.next windows reading key) := by
  by_cases sameKey : reading.key = key
  · subst sameKey
    rw [VWAPMonitor.next, KeyedStates.next, Function.update_self]
    exact regular.observe (regularReading rfl)
  · rw [VWAPMonitor.next, KeyedStates.next,
      Function.update_of_ne (Ne.symm sameKey)]
    exact regular

/-- After regular events of a key its window is regular. -/
theorem regularWindow_run {key : String} {readings : List (Reading F)}
    (regular :
      ∀ reading ∈ readings, reading.key = key → RegularReading reading) :
    RegularWindow (LabelledRun.run monitor.next noWindows readings key) := by
  have along :
      LabelledRun.Along monitor.next
        (fun _ reading => reading.key = key → RegularReading reading)
        noWindows readings := by
    rw [LabelledRun.along_iff_of_split]
    rintro earlier reading later rfl
    exact regular reading (by simp)
  apply
    @LabelledRun.run_invariant _ _ _ _
      (fun windows => RegularWindow (windows key)) _ _ _ along
  · intro e member
    exact absurd member List.not_mem_nil
  · intro windows reading regularBefore condition
    exact regularBefore.next condition

/-- The branch for a zero average is taken for a zero average only. -/
theorem calculateVwap_of_check {windows : String → List (VWAPEntry F)}
    {reading : Reading F}
    (checked : monitor.check windows reading = .ok zeroVwap) :
    calculateVwap (windows reading.key) = 0 := by
  rw [check, KeyedStates.emit, VWAPMonitor.observe] at checked
  split at checked
  · cases checked
  · exact eq_zero_of_judge checked

/--
The average lies between the lowest and the highest price of an entry with a
positive quantity.  After events of a pair with positive prices it counts as
zero only when the window before the event has no traded quantity.
-/
theorem vwap_between (monitor : VWAPMonitor F) :
    (∀ entries : List (VWAPEntry F),
        Weighed entries → (∃ e ∈ entries, 0 < e.quantity) →
          Between entries) ∧
      ∀ (readings : List (Reading F)) (reading : Reading F),
        (∀ earlier ∈ readings,
          earlier.key = reading.key → RegularReading earlier) →
        monitor.check (LabelledRun.run monitor.next noWindows readings)
            reading = .ok zeroVwap →
          ∀ e ∈ LabelledRun.run monitor.next noWindows readings reading.key,
            e.quantity = 0 := by
  refine ⟨fun entries => between_of_traded, ?_⟩
  intro readings reading regular checked
  exact
    quantity_eq_zero_of_calculateVwap (regularWindow_run regular)
      (calculateVwap_of_check checked)

/-- An order for nothing. -/
def emptyOrder : Reading Rat where
  event := { (orderOf Rat "acc-1" "AAPL").event with quantity := 0 }
  now := 0

/--
Two trades and an order for nothing average to the floor of 13/3, and after
nine orders for nothing the average counts as zero.
-/
theorem vwap_between_sample :
    Between
        ([⟨3, 1, 0⟩, ⟨9, 0, 0⟩, ⟨5, 2, 0⟩] : List (VWAPEntry Rat)) ∧
      ∀ e ∈ LabelledRun.run (VWAPMonitor.next { }) noWindows
          (List.replicate 9 emptyOrder) emptyOrder.key,
        e.quantity = 0 := by
  constructor
  · apply (vwap_between { }).1
    · simp [Weighed]
    · simp
  · apply (vwap_between { }).2
    · intro earlier member _
      rw [List.eq_of_mem_replicate member]
      exact ⟨by decide, by decide⟩
    · decide +kernel

end Checks

end VWAPMonitor

end AeroRisk.Guardrail.Agent1
