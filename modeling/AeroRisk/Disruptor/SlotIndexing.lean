import AeroRisk.Disruptor.RingBuffer
import Mathlib.Data.Int.ModEq
import Mathlib.Order.Bounds.Basic

/-!
# The slots of machine sequence numbers

The methods of a ring buffer compute with `int64` sequence numbers, which may
be negative and wrap around, and every `rb.buffer[index]` checks its bounds.
The accesses below are the steps of the methods at this level, without a
result when the check panics.  They never panic, and they agree with the
single loads and stores on exact sequence numbers.
-/

namespace AeroRisk.Disruptor

/-! ## The least power of two -/

/-- The powers of two which have room for a size. -/
def enoughPowers (size : Int64) : Set Nat :=
  { capacity |
    (∃ bits : Nat, capacity = 2 ^ bits) ∧ max size.toInt 1 ≤ capacity }

/-- A power of two which the loop can reach is below all which are enough. -/
theorem ReachesPower.le_of_enough {size power : Int64}
    (reaches : ReachesPower size power) {capacity : Nat}
    (enough : capacity ∈ enoughPowers size) :
    power.toInt ≤ capacity := by
  obtain ⟨bits, -, isPower, first⟩ := reaches
  obtain ⟨⟨others, rfl⟩, room⟩ := enough
  have roomForSize := le_trans (le_max_left _ _) room
  rw [Nat.cast_pow, Nat.cast_ofNat] at roomForSize ⊢
  rw [isPower]
  apply pow_le_pow_right₀ (by decide)
  rcases first with isZero | below
  · omega
  · have fewer : bits - 1 < others :=
      (pow_lt_pow_iff_right₀ (by decide)).mp
        (lt_of_lt_of_le below roomForSize)
    omega

/-- A new ring buffer has the least number of slots which is enough. -/
theorem isLeast_capacity {Event : Type} (zero : Event) {size : Int64}
    (fits : size.toInt ≤ 2 ^ 62) :
    IsLeast (enoughPowers size) (newRingBuffer zero size fits).capacity := by
  have room := Int64.le_iff_toInt_le.mp (le_powerOf2 fits)
  obtain ⟨bits, -, isPower, -⟩ := reachesPower_powerOf2 fits
  have positive : (0 : Int) < 2 ^ bits := by positivity
  have length :
      ((newRingBuffer zero size fits).capacity : Int) =
        (powerOf2 size).toInt := by
    rw [RingBuffer.capacity, newRingBuffer, List.length_replicate]
    exact Int.toNat_of_nonneg (by omega)
  refine ⟨⟨⟨bits, ?_⟩, ?_⟩, fun capacity enough => ?_⟩
  · apply Int.ofNat_inj.mp
    rw [length, isPower, Nat.cast_pow, Nat.cast_ofNat]
  · rw [length]
    exact max_le room (by omega)
  · have least := (reachesPower_powerOf2 fits).le_of_enough enough
    rw [← length] at least
    exact Int.ofNat_le.mp least

/-! ## The steps of the methods -/

/-- What a method does with the buffer in one step. -/
inductive Access (Event : Type) where
  /-- `Next`: the CAS on the cursor, and the slot of the claimed number. -/
  | claim (current : Int64)
  /-- `Next`: the CAS on the sequence number of the slot. -/
  | swap (next seq : Int64)
  /-- `Get`, and what the caller makes of the event at the address. -/
  | get (sequence : Int64) (change : Event → Event)
  /-- `Publish`. -/
  | publish (sequence : Int64)

namespace RingBuffer

variable {Event : Type} (rb : RingBuffer Event)

/-- `&rb.buffer[index]`, or nothing when the bounds check panics. -/
def address (index : Int64) : Option EventPtr :=
  if 0 ≤ index.toInt ∧ index.toInt < rb.buffer.length then
    some index.toInt.toNat
  else
    none

/-- Change the slot at an address. -/
def modifySlot (slot : EventPtr)
    (change : EventSlot Event → EventSlot Event) : RingBuffer Event :=
  { rb with
    buffer := rb.buffer.modify slot change
    sized := by simpa using rb.sized }

/-- An access to a ring buffer, or nothing when it panics. -/
def perform : Access Event → Option (RingBuffer Event)
  | .claim current =>
      let next := current + 1
      if rb.cursor = current.toInt then
        (rb.address (next &&& rb.mask)).map fun _ =>
          rb.setCursor next.toInt
      else
        some rb
  | .swap next seq =>
      (rb.address (next &&& rb.mask)).map fun slot =>
        if seq < next then
          rb.modifySlot slot fun old =>
            if old.sequence = seq.toInt then
              { old with sequence := next.toInt }
            else
              old
        else
          rb
  | .get sequence change =>
      (rb.address (sequence &&& rb.mask)).map fun slot =>
        rb.modifySlot slot fun old => { old with event := change old.event }
  | .publish sequence =>
      (rb.address (sequence &&& rb.mask)).map fun slot =>
        rb.modifySlot slot fun old => { old with sequence := sequence.toInt }

/-- A run of accesses, in any order. -/
def performAll (accesses : List (Access Event)) : Option (RingBuffer Event) :=
  accesses.foldlM perform rb

/-! ## The slot of a machine number -/

/-- The conjunction with the mask is the remainder, of negative numbers too. -/
theorem toInt_and_eq_emod (sequence : Int64) :
    (sequence &&& rb.mask).toInt = sequence.toInt % rb.capacity := by
  obtain ⟨bits, small, length, mask⟩ := rb.sized
  have remainder := toInt_and_mask small mask sequence.toInt
  rw [Int64.ofInt_toInt] at remainder
  rw [remainder, capacity, length, Nat.cast_pow, Nat.cast_ofNat]

theorem toInt_and_range (sequence : Int64) :
    0 ≤ (sequence &&& rb.mask).toInt ∧
      (sequence &&& rb.mask).toInt < rb.capacity := by
  have positive : (0 : Int) < rb.capacity := Int.ofNat_lt.mpr rb.capacity_pos
  rw [toInt_and_eq_emod]
  exact
    ⟨Int.emod_nonneg _ positive.ne', Int.emod_lt_of_pos _ positive⟩

theorem and_eq_and_iff (first second : Int64) :
    first &&& rb.mask = second &&& rb.mask ↔
      first.toInt ≡ second.toInt [ZMOD rb.capacity] := by
  rw [← Int64.toInt_inj, toInt_and_eq_emod, toInt_and_eq_emod]
  rfl

/-- The bounds check never panics. -/
theorem address_and (sequence : Int64) :
    rb.address (sequence &&& rb.mask) = some (rb.index sequence.toInt) := by
  have inRange := rb.toInt_and_range sequence
  rw [capacity] at inRange
  rw [address, if_pos inRange, index, Int64.ofInt_toInt]

theorem address_eq_address_iff (first second : Int64) :
    rb.address (first &&& rb.mask) = rb.address (second &&& rb.mask) ↔
      (rb.capacity : Int) ∣ first.toInt - second.toInt := by
  rw [address_and, address_and, Option.some_inj, index_eq_iff,
    Int.emod_eq_emod_iff_emod_sub_eq_zero]
  exact Int.dvd_iff_emod_eq_zero.symm

/-- The number after the largest one has the slot of the exact number. -/
theorem index_following (current : Int64) :
    rb.index (current + 1).toInt = rb.index (current.toInt + 1) := by
  have wraps : Int64.ofInt (current.toInt + 1) = current + 1 := by
    rw [Int64.ofInt_add, Int64.ofInt_toInt]
    rfl
  rw [index, index, wraps, Int64.ofInt_toInt]

/-! ## The accesses as single loads and stores -/

/-- A change at the address of a sequence number is a store into its slot. -/
theorem modifySlot_index (sequence : Int)
    (change : EventSlot Event → EventSlot Event) :
    rb.modifySlot (rb.index sequence) change =
      rb.setSlot sequence (change (rb.slot sequence)) := by
  have sameBuffer :
      rb.buffer.modify (rb.index sequence) change =
        rb.buffer.set (rb.index sequence) (change (rb.slot sequence)) := by
    apply List.ext_getElem?
    intro place
    rw [List.getElem?_modify, List.getElem?_set]
    by_cases here : rb.index sequence = place
    · subst place
      simp [RingBuffer.slot, rb.index_lt]
    · simp [here]
  simp only [modifySlot, setSlot, sameBuffer]

theorem perform_claim (current : Int64) :
    rb.perform (.claim current) =
      some
        (if rb.cursor = current.toInt then
          rb.setCursor (current + 1).toInt
        else
          rb) := by
  simp only [perform, address_and, Option.map_some]
  split <;> rfl

theorem perform_swap (next seq : Int64) :
    rb.perform (.swap next seq) =
      some
        (if seq < next then
          rb.setSlot next.toInt
            (if (rb.slot next.toInt).sequence = seq.toInt then
              { rb.slot next.toInt with sequence := next.toInt }
            else
              rb.slot next.toInt)
        else
          rb) := by
  simp only [perform, address_and, Option.map_some, modifySlot_index]

theorem perform_get (sequence : Int64) (change : Event → Event) :
    rb.perform (.get sequence change) =
      some
        (rb.setEvent sequence.toInt
          (change (rb.slot sequence.toInt).event)) := by
  simp only [perform, address_and, Option.map_some, modifySlot_index, setEvent]

theorem perform_publish (sequence : Int64) :
    rb.perform (.publish sequence) =
      some (rb.setSequence sequence.toInt sequence.toInt) := by
  simp only [perform, address_and, Option.map_some, modifySlot_index,
    setSequence]

/-- No access panics or changes the capacity. -/
theorem perform_capacity (access : Access Event) :
    ∃ after, rb.perform access = some after ∧
      after.capacity = rb.capacity := by
  cases access with
  | claim current =>
      refine ⟨_, rb.perform_claim current, ?_⟩
      split <;> rfl
  | swap next seq =>
      refine ⟨_, rb.perform_swap next seq, ?_⟩
      split
      · exact capacity_setSlot _ _
      · rfl
  | get sequence change =>
      exact ⟨_, rb.perform_get sequence change, capacity_setEvent _ _⟩
  | publish sequence =>
      exact ⟨_, rb.perform_publish sequence, capacity_setSequence _ _⟩

theorem performAll_concat (accesses : List (Access Event))
    (access : Access Event) :
    rb.performAll (accesses ++ [access]) =
      (rb.performAll accesses).bind fun reached => reached.perform access := by
  simp [performAll, List.foldlM_append]

/-- No run of accesses panics or changes the capacity. -/
theorem performAll_capacity (accesses : List (Access Event)) :
    ∃ reached, rb.performAll accesses = some reached ∧
      reached.capacity = rb.capacity := by
  induction accesses using List.reverseRecOn with
  | nil => exact ⟨rb, rfl, rfl⟩
  | append_singleton earlier access inductionHypothesis =>
      obtain ⟨reached, performed, sameCapacity⟩ := inductionHypothesis
      obtain ⟨after, accessed, stillSame⟩ := reached.perform_capacity access
      refine ⟨after, ?_, stillSame.trans sameCapacity⟩
      rw [performAll_concat, performed, Option.bind_some, accessed]

/-- The mask maps all sequence numbers to slots as the remainder does. -/
structure SlotsIndexed : Prop where
  inRange :
    ∀ sequence : Int64,
      0 ≤ (sequence &&& rb.mask).toInt ∧
        (sequence &&& rb.mask).toInt < rb.capacity
  congruent :
    ∀ first second : Int64,
      first &&& rb.mask = second &&& rb.mask ↔
        first.toInt ≡ second.toInt [ZMOD rb.capacity]
  shared :
    ∀ first second : Int64,
      rb.address (first &&& rb.mask) = rb.address (second &&& rb.mask) ↔
        (rb.capacity : Int) ∣ first.toInt - second.toInt
  following :
    ∀ current : Int64,
      rb.address ((current + 1) &&& rb.mask) =
        some (rb.index (current.toInt + 1))
  safe : ∀ access : Access Event, (rb.perform access).isSome

theorem slotsIndexed : rb.SlotsIndexed where
  inRange := rb.toInt_and_range
  congruent := rb.and_eq_and_iff
  shared := rb.address_eq_address_iff
  following := by
    intro current
    rw [address_and, index_following]
  safe := by
    intro access
    obtain ⟨after, performed, -⟩ := rb.perform_capacity access
    rw [performed, Option.isSome_some]

end RingBuffer

/--
The doubling loop ends with the least power of two which is enough.  After
any accesses to the new ring buffer, its mask maps every sequence number to
a slot, and it maps two of them to the same slot exactly when they are a
multiple of that capacity apart.
-/
theorem slots_indexed {Event : Type} (zero : Event) {size : Int64}
    (fits : size.toInt ≤ 2 ^ 62) :
    doublingBody size (powerOf2 size) = none ∧
      IsLeast (enoughPowers size) (newRingBuffer zero size fits).capacity ∧
        ∀ accesses : List (Access Event),
          ∃ rb,
            (newRingBuffer zero size fits).performAll accesses = some rb ∧
              rb.capacity = (newRingBuffer zero size fits).capacity ∧
                rb.SlotsIndexed := by
  refine ⟨powerOf2_halts fits, isLeast_capacity zero fits, ?_⟩
  intro accesses
  obtain ⟨rb, performed, sameCapacity⟩ :=
    (newRingBuffer zero size fits).performAll_capacity accesses
  exact ⟨rb, performed, sameCapacity, rb.slotsIndexed⟩

theorem fiveFits : (5 : Int64).toInt ≤ 2 ^ 62 := by decide

theorem slots_indexed_sample :
    IsLeast (enoughPowers 5) (newRingBuffer 0 5 fiveFits).capacity ∧
      ∃ rb,
        (newRingBuffer 0 5 fiveFits).performAll
            [.claim (-1), .swap 0 (-1), .publish (-8)] =
          some rb ∧ rb.SlotsIndexed := by
  obtain ⟨-, least, indexed⟩ := slots_indexed 0 fiveFits
  obtain ⟨rb, performed, -, isIndexed⟩ :=
    indexed [.claim (-1), .swap 0 (-1), .publish (-8)]
  exact ⟨least, rb, performed, isIndexed⟩

end AeroRisk.Disruptor
