import AeroRisk.Library.LabelledRun
import Mathlib.Data.Finmap

/-!
# Settlements of trades

`SettlementEngine` maps the IDs to pointers.  `CreateSettlement` and
`GetSettlement` return these pointers, so the settlements which they refer to
are kept beside the map.  The IDs come from a counter of 64 bits.  A time is
a number of nanoseconds since the zero value of `time.Time`.
-/

namespace AeroRisk.Ledger

open AeroRisk.Library

/-- `ErrSettlementNotFound`. -/
inductive SettlementError where
  | settlementNotFound
deriving DecidableEq, Repr

/-- The strings of the field `Status`. -/
inductive SettlementStatus where
  | pending
  | settled
deriving DecidableEq, Repr

/-- `Settlement`. -/
structure Settlement where
  id : UInt64
  tradeID : UInt64
  buyerAccount : UInt64
  sellerAccount : UInt64
  amount : Int64
  status : SettlementStatus
  createdAt : Int
  settledAt : Int
deriving DecidableEq, Repr

/-- The arguments of a call of `CreateSettlement`, and its time. -/
structure Creation where
  tradeID : UInt64
  buyerAccount : UInt64
  sellerAccount : UInt64
  amount : Int64
  now : Int
deriving DecidableEq, Repr

/--
`SettlementEngine`: the pointer of every ID and the settlements to which the
pointers refer, in the order of their creation.
-/
structure SettlementEngine where
  objects : List Settlement
  settlements : Finmap fun _ : UInt64 => Nat
  nextID : UInt64
deriving DecidableEq

/-- `NewSettlementEngine`. -/
def newSettlementEngine : SettlementEngine where
  objects := []
  settlements := ∅
  nextID := 0

/-- A call on the engine. -/
inductive SettlementCall where
  | createSettlement (creation : Creation)
  | settle (settlementID : UInt64) (now : Int)
  | getSettlement (id : UInt64)
deriving DecidableEq, Repr

namespace SettlementEngine

/-- `CreateSettlement`, with the pointer which it returns. -/
def createSettlement (se : SettlementEngine) (creation : Creation) :
    SettlementEngine × Nat :=
  let nextID := se.nextID + 1
  let pointer := se.objects.length
  ({ objects :=
       se.objects ++
         [{ id := nextID
            tradeID := creation.tradeID
            buyerAccount := creation.buyerAccount
            sellerAccount := creation.sellerAccount
            amount := creation.amount
            status := .pending
            createdAt := creation.now
            settledAt := 0 }]
     settlements := se.settlements.insert nextID pointer
     nextID },
    pointer)

/-- `Settle`. -/
def settle (se : SettlementEngine) (settlementID : UInt64) (now : Int) :
    SettlementEngine × Option SettlementError :=
  match se.settlements.lookup settlementID with
  | none => (se, some .settlementNotFound)
  | some pointer =>
      ({ se with
         objects :=
           se.objects.modify pointer fun settlement =>
             { settlement with status := .settled, settledAt := now } },
        none)

/-- `GetSettlement`. -/
def getSettlement (se : SettlementEngine) (id : UInt64) :
    Option Nat × Option SettlementError :=
  match se.settlements.lookup id with
  | none => (none, some .settlementNotFound)
  | some pointer => (some pointer, none)

/-- The engine after a call. -/
def next (se : SettlementEngine) : SettlementCall → SettlementEngine
  | .createSettlement creation => (se.createSettlement creation).1
  | .settle settlementID now => (se.settle settlementID now).1
  | .getSettlement _ => se

/-- The engine after some calls. -/
def after (calls : List SettlementCall) : SettlementEngine :=
  LabelledRun.run next newSettlementEngine calls

/-! ## The calls which concern an ID -/

/-- The call is one of `CreateSettlement`. -/
def creates : SettlementCall → Bool
  | .createSettlement _ => true
  | _ => false

/-- The number of settlements which some calls create. -/
def creationsIn (calls : List SettlementCall) : Nat :=
  calls.countP creates

/-- The time of a call which settles an ID. -/
def settleTime (id : UInt64) : SettlementCall → Option Int
  | .settle settlementID now => if settlementID = id then some now else none
  | _ => none

/-- The time of the last call which settles an ID. -/
def lastSettled (id : UInt64) (calls : List SettlementCall) : Option Int :=
  calls.reverse.findSome? (settleTime id)

/-- What a settlement is after it was settled at a time, or never. -/
def settlementOf (id : UInt64) (creation : Creation) (settled : Option Int) :
    Settlement where
  id
  tradeID := creation.tradeID
  buyerAccount := creation.buyerAccount
  sellerAccount := creation.sellerAccount
  amount := creation.amount
  status := if settled.isSome then .settled else .pending
  createdAt := creation.now
  settledAt := settled.getD 0

/--
The last call which created a settlement with an ID: the counter comes round
to the ID again after `2 ^ 64` creations.
-/
structure CreatedBy (calls : List SettlementCall) (id : UInt64)
    (before : List SettlementCall) (creation : Creation)
    (later : List SettlementCall) : Prop where
  split : calls = before ++ .createSettlement creation :: later
  recent : creationsIn later < 2 ^ 64
  id_eq : id = UInt64.ofNat (creationsIn before + 1)

variable {calls before later : List SettlementCall} {call : SettlementCall}
  {id : UInt64} {creation : Creation}

@[simp]
theorem creationsIn_nil : creationsIn [] = 0 :=
  rfl

@[simp]
theorem creationsIn_append (first second : List SettlementCall) :
    creationsIn (first ++ second) = creationsIn first + creationsIn second :=
  List.countP_append

@[simp]
theorem creationsIn_cons (call : SettlementCall)
    (rest : List SettlementCall) :
    creationsIn (call :: rest) =
      creationsIn rest + if creates call then 1 else 0 :=
  List.countP_cons

theorem lastSettled_concat (id : UInt64) (calls : List SettlementCall)
    (call : SettlementCall) :
    lastSettled id (calls ++ [call]) =
      (settleTime id call).or (lastSettled id calls) := by
  simp only [lastSettled, List.reverse_append, List.reverse_singleton,
    List.singleton_append, List.findSome?_cons]
  cases settleTime id call <;> rfl

theorem ofNat_eq_iff (first second : Nat) :
    UInt64.ofNat first = UInt64.ofNat second ↔
      first % 2 ^ 64 = second % 2 ^ 64 := by
  rw [← UInt64.toNat_inj, UInt64.toNat_ofNat', UInt64.toNat_ofNat']

/-- A call after the creation leaves it the last one, if it is not its own. -/
theorem createdBy_concat_iff :
    CreatedBy (calls ++ [call]) id before creation later ↔
      (call = .createSettlement creation ∧ before = calls ∧ later = [] ∧
        id = UInt64.ofNat (creationsIn calls + 1)) ∨
      (creates call → id ≠ UInt64.ofNat (creationsIn calls + 1)) ∧
        ∃ shorter, later = shorter ++ [call] ∧
          CreatedBy calls id before creation shorter := by
  constructor
  · rintro ⟨split, recent, rfl⟩
    rcases later.eq_nil_or_concat' with rfl | ⟨shorter, last, rfl⟩
    · obtain ⟨rfl, same⟩ := List.append_inj' split rfl
      exact Or.inl ⟨by simpa using same, rfl, rfl, rfl⟩
    · rw [← List.cons_append, ← List.append_assoc] at split
      obtain ⟨rfl, same⟩ := List.append_inj' split rfl
      obtain rfl : call = last := by simpa using same
      simp only [creationsIn_append, creationsIn_cons,
        creationsIn_nil] at recent
      refine Or.inr ⟨fun isCreation => ?_, shorter, rfl, rfl, ?_, rfl⟩
      · rw [if_pos isCreation] at recent
        rw [ne_eq, ofNat_eq_iff]
        simp only [creationsIn_append, creationsIn_cons, creates, if_true]
        omega
      · omega
  · rintro (⟨rfl, rfl, rfl, rfl⟩ | ⟨unlike, shorter, rfl, rfl, recent, rfl⟩)
    · exact ⟨rfl, by simp, rfl⟩
    · refine ⟨by simp, ?_, rfl⟩
      simp only [creationsIn_append, creationsIn_cons, creationsIn_nil]
      split
      · next isCreation =>
          have different := unlike isCreation
          rw [ne_eq, ofNat_eq_iff] at different
          simp only [creationsIn_append, creationsIn_cons, creates,
            if_true] at different
          omega
      · omega

/-! ## The pointers and the objects -/

theorem after_concat (calls : List SettlementCall) (call : SettlementCall) :
    after (calls ++ [call]) = (after calls).next call := by
  rw [after, LabelledRun.run_append, LabelledRun.run_cons,
    LabelledRun.run_nil, after]

theorem next_other (se : SettlementEngine) (other : creates call = false) :
    (se.next call).nextID = se.nextID ∧
      (se.next call).settlements = se.settlements ∧
      (se.next call).objects.length = se.objects.length := by
  cases call with
  | createSettlement creation => cases other
  | settle settlementID now =>
      rw [next, settle]
      split
      · exact ⟨rfl, rfl, rfl⟩
      · exact ⟨rfl, rfl, List.length_modify _ _ _⟩
  | getSettlement id => exact ⟨rfl, rfl, rfl⟩

/-- The counter and the number of objects count the creations. -/
theorem after_counts (calls : List SettlementCall) :
    (after calls).nextID = UInt64.ofNat (creationsIn calls) ∧
      (after calls).objects.length = creationsIn calls := by
  induction calls using List.reverseRecOn with
  | nil => exact ⟨rfl, rfl⟩
  | append_singleton calls call inductionHypothesis =>
      obtain ⟨counter, length⟩ := inductionHypothesis
      rw [after_concat]
      cases isCreation : creates call with
      | false =>
          obtain ⟨sameCounter, -, sameLength⟩ :=
            next_other (after calls) isCreation
          simp [sameCounter, sameLength, counter, length, isCreation]
      | true =>
          cases call with
          | createSettlement creation =>
              simp [next, createSettlement, creates, counter, length]
          | settle settlementID now => cases isCreation
          | getSettlement id => cases isCreation

/-- An ID has the pointer of the last settlement created with it. -/
theorem lookup_after_iff (calls : List SettlementCall) (id : UInt64)
    (pointer : Nat) :
    (after calls).settlements.lookup id = some pointer ↔
      ∃ before creation later, CreatedBy calls id before creation later ∧
        pointer = creationsIn before := by
  induction calls using List.reverseRecOn with
  | nil =>
      constructor
      · intro found
        simp [after, newSettlementEngine] at found
      · rintro ⟨before, creation, later, ⟨split, -, -⟩, -⟩
        simp at split
  | append_singleton calls call inductionHypothesis =>
      simp only [createdBy_concat_iff, after_concat]
      cases isCreation : creates call with
      | false =>
          rw [(next_other (after calls) isCreation).2.1, inductionHypothesis]
          constructor
          · rintro ⟨before, creation, later, created, rfl⟩
            exact ⟨before, creation, _,
              Or.inr ⟨fun isTrue => absurd isTrue Bool.false_ne_true, later,
                rfl, created⟩, rfl⟩
          · rintro ⟨before, creation, later, ⟨rfl, -, -, -⟩ |
              ⟨-, shorter, -, created⟩, rfl⟩
            · cases isCreation
            · exact ⟨before, creation, shorter, created, rfl⟩
      | true =>
          obtain ⟨creation, rfl⟩ :
              ∃ creation, call = .createSettlement creation := by
            cases call with
            | createSettlement creation => exact ⟨creation, rfl⟩
            | settle settlementID now => cases isCreation
            | getSettlement id => cases isCreation
          obtain ⟨counter, length⟩ := after_counts calls
          have nextCounter :
              (after calls).nextID + 1 =
                UInt64.ofNat (creationsIn calls + 1) := by
            simp [counter]
          simp only [next, createSettlement, nextCounter, length]
          by_cases isNew : id = UInt64.ofNat (creationsIn calls + 1)
          · rw [isNew, Finmap.lookup_insert, Option.some_inj]
            constructor
            · rintro rfl
              exact ⟨calls, creation, [],
                Or.inl ⟨rfl, rfl, rfl, rfl⟩, rfl⟩
            · rintro ⟨before, other, later, ⟨-, rfl, -⟩ | ⟨unlike, -⟩, rfl⟩
              · rfl
              · exact absurd rfl (unlike trivial)
          · rw [Finmap.lookup_insert_of_ne _ isNew, inductionHypothesis]
            constructor
            · rintro ⟨before, other, later, created, rfl⟩
              exact ⟨before, other, _,
                Or.inr ⟨fun _ => isNew, later, rfl, created⟩, rfl⟩
            · rintro ⟨before, other, later, ⟨-, -, -, same⟩ |
                ⟨-, shorter, -, created⟩, rfl⟩
              · exact absurd same isNew
              · exact ⟨before, other, shorter, created, rfl⟩

/-- The object at the pointer of an ID is the settlement as it was settled. -/
theorem object_of_createdBy
    (created : CreatedBy calls id before creation later) :
    (after calls).objects[creationsIn before]? =
      some (settlementOf id creation (lastSettled id later)) := by
  induction calls using List.reverseRecOn generalizing later with
  | nil =>
      have split := created.split
      simp at split
  | append_singleton calls call inductionHypothesis =>
      obtain ⟨counter, length⟩ := after_counts calls
      rw [after_concat]
      rcases createdBy_concat_iff.mp created with
        ⟨rfl, rfl, rfl, rfl⟩ | ⟨-, shorter, rfl, earlier⟩
      · rw [next, createSettlement, ← length, List.getElem?_concat_length,
          length, counter]
        simp [settlementOf, lastSettled]
      · have object := inductionHypothesis earlier
        rw [lastSettled_concat]
        cases call with
        | createSettlement other =>
            have inside : creationsIn before < (after calls).objects.length :=
              (List.getElem?_eq_some_iff.mp object).1
            rw [next, createSettlement, List.getElem?_append_left inside]
            exact object
        | settle settlementID now =>
            have found :=
              (lookup_after_iff calls id _).mpr
                ⟨before, creation, shorter, earlier, rfl⟩
            rw [next, settle]
            by_cases same : settlementID = id
            · subst same
              simp only [found, List.getElem?_modify_eq, object,
                settleTime, if_true]
              rfl
            · have untouched : settleTime id (.settle settlementID now) = none :=
                if_neg same
              rw [untouched, Option.none_or]
              split
              · exact object
              · next pointer foundOther =>
                  obtain ⟨beforeOther, -, -, ⟨-, -, isOther⟩, rfl⟩ :=
                    (lookup_after_iff calls settlementID _).mp foundOther
                  have different :
                      creationsIn beforeOther ≠ creationsIn before := by
                    intro equal
                    rw [equal, ← earlier.id_eq] at isOther
                    exact same isOther
                  rw [List.getElem?_modify_ne _ _ different]
                  exact object
        | getSettlement other => exact object

/-! ## The settlement of an ID -/

/--
After any calls, `GetSettlement` returns the pointer which the last creation
with the ID returned, and the settlement there is the created one, settled at
the time of the last `Settle` since.  An ID which no creation has is refused
by both methods.
-/
theorem settlement_of_last_creation (calls : List SettlementCall)
    (id : UInt64) :
    (∀ pointer settlement,
      (after calls).getSettlement id = (some pointer, none) ∧
          (after calls).objects[pointer]? = some settlement ↔
        ∃ before creation later, CreatedBy calls id before creation later ∧
          pointer = ((after before).createSettlement creation).2 ∧
          settlement = settlementOf id creation (lastSettled id later)) ∧
    ((after calls).getSettlement id = (none, some .settlementNotFound) ↔
      ∀ before creation later, ¬ CreatedBy calls id before creation later) ∧
    ∀ now,
      (after calls).settle id now =
          (after calls, some .settlementNotFound) ↔
        ∀ before creation later,
          ¬ CreatedBy calls id before creation later := by
  have found := lookup_after_iff calls id
  constructor
  · intro pointer settlement
    have returned :
        (after calls).getSettlement id = (some pointer, none) ↔
          (after calls).settlements.lookup id = some pointer := by
      rw [getSettlement]
      split <;> simp_all
    rw [returned, found]
    simp only [createSettlement, (after_counts _).2]
    constructor
    · rintro ⟨⟨before, creation, later, created, rfl⟩, object⟩
      rw [object_of_createdBy created, Option.some_inj] at object
      exact ⟨before, creation, later, created, rfl, object.symm⟩
    · rintro ⟨before, creation, later, created, rfl, rfl⟩
      exact ⟨⟨before, creation, later, created, rfl⟩,
        object_of_createdBy created⟩
  · have missing :
        (after calls).settlements.lookup id = none ↔
          ∀ before creation later,
            ¬ CreatedBy calls id before creation later := by
      rw [Option.eq_none_iff_forall_ne_some]
      simp only [ne_eq, found]
      constructor
      · intro never before creation later created
        exact never _ ⟨before, creation, later, created, rfl⟩
      · rintro never pointer ⟨before, creation, later, created, -⟩
        exact never before creation later created
    rw [← missing]
    constructor
    · rw [getSettlement]
      split <;> simp_all
    · intro now
      rw [settle]
      split <;> simp_all

end SettlementEngine

end AeroRisk.Ledger
