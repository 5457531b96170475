import AeroRisk.Library.BoundedLoop
import Mathlib.Algebra.Order.Ring.Int
import Mathlib.Data.Nat.Log
import Mathlib.Tactic.Positivity

/-!
# The ring buffer

A ring buffer owns a power of two of event slots.  A sequence number is
mapped to a slot by the bitwise conjunction with the mask.  Sequence numbers
are exact integers here, where the source has `int64` words: the module on
machine words shows that both agree for the first `2 ^ 63` steps.  The
operations below are the single loads and stores which the Go methods make;
the methods themselves are run step by step by the producers.
-/

namespace AeroRisk.Disruptor

open AeroRisk.Library

/-- `EventSlot`: a sequence number and an event. -/
@[ext]
structure EventSlot (Event : Type) where
  sequence : Int
  event : Event
deriving DecidableEq, Repr

/-! ## The size of a new ring buffer -/

/-- One iteration of `for powerOf2 < size { powerOf2 *= 2 }`. -/
def doublingBody (size : Int64) (powerOf2 : Int64) : Option Int64 :=
  if powerOf2 < size then some (powerOf2 * 2) else none

/-- The number of slots of a new ring buffer. -/
def powerOf2 (size : Int64) : Int64 :=
  BoundedLoop.iterate (doublingBody size) 63 1

/-- A power of two which fits its type and which the loop can reach. -/
def ReachesPower (size : Int64) (power : Int64) : Prop :=
  ∃ bits : Nat,
    bits ≤ 62 ∧ power.toInt = 2 ^ bits ∧
      (bits = 0 ∨ (2 : Int) ^ (bits - 1) < size.toInt)

theorem reachesPower_one (size : Int64) : ReachesPower size 1 :=
  ⟨0, by decide, rfl, Or.inl rfl⟩

/-- Doubling a power of two below a size which fits does not wrap around. -/
theorem reachesPower_double {size power following : Int64}
    (fits : size.toInt ≤ 2 ^ 62) (reaches : ReachesPower size power)
    (step : doublingBody size power = some following) :
    ReachesPower size following ∧ following.toInt = 2 * power.toInt := by
  obtain ⟨bits, -, isPower, -⟩ := reaches
  rw [doublingBody] at step
  split at step
  · next below =>
      cases step
      have less := Int64.lt_iff_toInt_lt.mp below
      rw [isPower] at less
      have small : (2 : Int) ^ bits < 2 ^ 62 := by omega
      have bitsSmall : bits < 62 :=
        (pow_lt_pow_iff_right₀ (by decide)).mp small
      have doubled : (power * 2).toInt = 2 ^ (bits + 1) := by
        rw [Int64.toInt_mul, isPower, pow_succ]
        apply Int.bmod_eq_of_le
        · have positive : (0 : Int) < 2 ^ bits := by positivity
          have two : (2 : Int64).toInt = 2 := rfl
          rw [two]
          omega
        · have two : (2 : Int64).toInt = 2 := rfl
          rw [two]
          omega
      refine ⟨⟨bits + 1, by omega, doubled, Or.inr less⟩, ?_⟩
      rw [doubled, isPower, pow_succ]
      omega
  · cases step

/-- Every iteration of the doubling loop adds a bit. -/
theorem doubling_decreases {size power following : Int64}
    (fits : size.toInt ≤ 2 ^ 62) (reaches : ReachesPower size power)
    (step : doublingBody size power = some following) :
    62 - Nat.log 2 following.toInt.toNat <
      62 - Nat.log 2 power.toInt.toNat := by
  obtain ⟨⟨bits, small, isPower, -⟩, doubled⟩ :=
    reachesPower_double fits reaches step
  obtain ⟨fewer, -, wasPower, -⟩ := reaches
  rw [isPower, wasPower, ← pow_succ'] at doubled
  have more : bits = fewer + 1 :=
    Int.pow_right_injective (by decide) doubled
  have logFollowing : Nat.log 2 following.toInt.toNat = bits := by
    rw [isPower]
    exact Nat.log_pow (by decide) bits
  have logPower : Nat.log 2 power.toInt.toNat = fewer := by
    rw [wasPower]
    exact Nat.log_pow (by decide) fewer
  omega

/-- The doubling loop ends with a power of two which it can reach. -/
theorem reachesPower_powerOf2 {size : Int64} (fits : size.toInt ≤ 2 ^ 62) :
    ReachesPower size (powerOf2 size) :=
  (BoundedLoop.passes_iterate 63 1).invariant
    (fun _ _ reaches step => (reachesPower_double fits reaches step).1)
    (reachesPower_one size)

/-- The doubling loop ends because its condition fails. -/
theorem powerOf2_halts {size : Int64} (fits : size.toInt ≤ 2 ^ 62) :
    doublingBody size (powerOf2 size) = none :=
  BoundedLoop.iterate_halts
    (fun power : Int64 => 62 - Nat.log 2 power.toInt.toNat)
    (fun _ _ reaches step => (reachesPower_double fits reaches step).1)
    (fun _ _ reaches step => doubling_decreases fits reaches step)
    63 1 (reachesPower_one size) (by decide)

/-- The power of two at the end of the doubling loop is enough. -/
theorem le_powerOf2 {size : Int64} (fits : size.toInt ≤ 2 ^ 62) :
    size ≤ powerOf2 size := by
  have halts := powerOf2_halts fits
  by_contra notEnough
  rw [doublingBody, if_pos (Int64.not_le.mp notEnough)] at halts
  cases halts

/-! ## The buffer and its slots -/

/--
A ring buffer.  Its length is a power of two which is the mask plus one, so
that every sequence number has a slot.
-/
structure RingBuffer (Event : Type) where
  buffer : List (EventSlot Event)
  mask : Int64
  cursor : Int
  gate : Int
  sized :
    ∃ bits : Nat,
      bits ≤ 62 ∧ buffer.length = 2 ^ bits ∧ mask.toInt = 2 ^ bits - 1

/-- The mask of a new ring buffer is one less than its length. -/
theorem mask_powerOf2 {size : Int64} (fits : size.toInt ≤ 2 ^ 62) :
    ∃ bits : Nat,
      bits ≤ 62 ∧ (powerOf2 size).toInt.toNat = 2 ^ bits ∧
        (powerOf2 size - 1).toInt = 2 ^ bits - 1 := by
  obtain ⟨bits, small, isPower, -⟩ := reachesPower_powerOf2 fits
  have positive : (0 : Int) < 2 ^ bits := by positivity
  have bounded : (2 : Int) ^ bits ≤ 2 ^ 62 :=
    pow_le_pow_right₀ (by decide) small
  refine ⟨bits, small, ?_, ?_⟩
  · rw [isPower]
    exact Int.toNat_natCast (2 ^ bits)
  · rw [Int64.toInt_sub, isPower, Int64.toInt_one]
    apply Int.bmod_eq_of_le <;> omega

/-- `NewRingBuffer`, for sizes which the doubling loop reaches. -/
def newRingBuffer {Event : Type} (zero : Event) (size : Int64)
    (fits : size.toInt ≤ 2 ^ 62) : RingBuffer Event where
  buffer :=
    List.replicate (powerOf2 size).toInt.toNat
      { sequence := -1, event := zero }
  mask := powerOf2 size - 1
  cursor := -1
  gate := -1
  sized := by
    simpa using mask_powerOf2 fits

theorem oneFits : (1 : Int64).toInt ≤ 2 ^ 62 := by decide

theorem twoFits : (2 : Int64).toInt ≤ 2 ^ 62 := by decide

/-- The conjunction with `2 ^ bits - 1` is the remainder modulo `2 ^ bits`. -/
theorem toInt_and_mask {mask : Int64} {bits : Nat} (small : bits ≤ 62)
    (isMask : mask.toInt = 2 ^ bits - 1) (sequence : Int) :
    (Int64.ofInt sequence &&& mask).toInt = sequence % 2 ^ bits := by
  have positive : (0 : Int) < 2 ^ bits := by positivity
  have bounded : (2 : Int) ^ bits ≤ 2 ^ 62 :=
    pow_le_pow_right₀ (by decide) small
  have castPower : ((2 ^ bits : Nat) : Int) = 2 ^ bits := by
    push_cast
    rfl
  have maskNat : mask.toBitVec.toNat = 2 ^ bits - 1 := by
    have same : mask = Int64.ofInt (2 ^ bits - 1) := by
      rw [← isMask, Int64.ofInt_toInt]
    rw [same, Int64.toBitVec_ofInt, BitVec.toNat_ofInt]
    omega
  have andNat :
      (Int64.ofInt sequence &&& mask).toBitVec.toNat =
        (sequence % 2 ^ 64).toNat % 2 ^ bits := by
    rw [Int64.toBitVec_and, BitVec.toNat_and, maskNat,
      Nat.and_two_pow_sub_one_eq_mod, Int64.toBitVec_ofInt,
      BitVec.toNat_ofInt]
    rfl
  have divides : (2 : Int) ^ bits ∣ 2 ^ 64 := pow_dvd_pow 2 (by omega)
  have castNat :
      (((sequence % 2 ^ 64).toNat % 2 ^ bits : Nat) : Int) =
        sequence % 2 ^ bits := by
    rw [Int.natCast_emod, Int.toNat_of_nonneg (by omega), Nat.cast_pow,
      Nat.cast_ofNat, Int.emod_emod_of_dvd _ divides]
  have less : (Int64.ofInt sequence &&& mask).toBitVec.toNat < 2 ^ 62 := by
    have remainderLess := Int.emod_lt_of_pos sequence positive
    rw [andNat]
    omega
  rw [← castNat, ← andNat]
  exact BitVec.toInt_eq_toNat_of_lt (by omega)

namespace RingBuffer

variable {Event : Type} (rb : RingBuffer Event)

/-- The length of the buffer. -/
def capacity : Nat :=
  rb.buffer.length

/-- `sequence & rb.mask`. -/
def index (sequence : Int) : Nat :=
  (Int64.ofInt sequence &&& rb.mask).toInt.toNat

theorem capacity_pos : 0 < rb.capacity := by
  obtain ⟨bits, -, length, -⟩ := rb.sized
  rw [capacity, length]
  positivity

/-- The mask keeps the remainder modulo the capacity. -/
theorem index_eq_emod (sequence : Int) :
    (rb.index sequence : Int) = sequence % rb.capacity := by
  obtain ⟨bits, small, length, mask⟩ := rb.sized
  have positive : (0 : Int) < 2 ^ bits := by positivity
  have nonneg := Int.emod_nonneg sequence positive.ne'
  rw [index, capacity, length, toInt_and_mask small mask,
    Int.toNat_of_nonneg nonneg, Nat.cast_pow, Nat.cast_ofNat]

theorem index_lt (sequence : Int) : rb.index sequence < rb.buffer.length := by
  have positive : (0 : Int) < rb.capacity := Int.ofNat_lt.mpr rb.capacity_pos
  have less := Int.emod_lt_of_pos sequence positive
  rw [← index_eq_emod] at less
  exact Int.ofNat_lt.mp less

/-- Two sequence numbers share a slot when they agree modulo the capacity. -/
theorem index_eq_iff (first second : Int) :
    rb.index first = rb.index second ↔
      first % rb.capacity = second % rb.capacity := by
  rw [← index_eq_emod, ← index_eq_emod]
  exact Int.ofNat_inj.symm

/-- Sequence numbers in a window of the capacity have different slots. -/
theorem eq_of_index_eq {first second : Int}
    (sameIndex : rb.index first = rb.index second)
    (near : first < second + rb.capacity)
    (alsoNear : second < first + rb.capacity) : first = second := by
  rw [index_eq_iff] at sameIndex
  have positive : (0 : Int) < rb.capacity := Int.ofNat_lt.mpr rb.capacity_pos
  have divides : (rb.capacity : Int) ∣ first - second :=
    Int.dvd_of_emod_eq_zero
      (Int.emod_eq_emod_iff_emod_sub_eq_zero.mp sameIndex)
  have close : |first - second| < rb.capacity :=
    abs_lt.mpr ⟨by omega, by omega⟩
  have same := Int.eq_zero_of_abs_lt_dvd divides close
  omega

/-- Consecutive numbers share a slot only when there is no other slot. -/
theorem capacity_of_index_eq (shared : rb.index 0 = rb.index 1) :
    rb.capacity = 1 := by
  have positive := rb.capacity_pos
  by_contra several
  have same : (0 : Int) = 1 :=
    rb.eq_of_index_eq shared (by omega) (by omega)
  exact absurd same (by decide)

/-! ## Single loads and stores -/

/-- The slot of a sequence number. -/
def slot (sequence : Int) : EventSlot Event :=
  rb.buffer.get ⟨rb.index sequence, rb.index_lt sequence⟩

/-- Store a slot. -/
def setSlot (sequence : Int) (slot : EventSlot Event) : RingBuffer Event :=
  { rb with
    buffer := rb.buffer.set (rb.index sequence) slot
    sized := by simpa using rb.sized }

/-- `atomic.StoreInt64(&slot.sequence, value)`, also as the swap of a CAS. -/
def setSequence (sequence value : Int) : RingBuffer Event :=
  rb.setSlot sequence { rb.slot sequence with sequence := value }

/-- The write of an event into its slot. -/
def setEvent (sequence : Int) (event : Event) : RingBuffer Event :=
  rb.setSlot sequence { rb.slot sequence with event }

/-- The swap of the CAS on the cursor. -/
def setCursor (cursor : Int) : RingBuffer Event :=
  { rb with cursor }

/-- The store of the progress of a consumer. -/
def setGate (gate : Int) : RingBuffer Event :=
  { rb with gate }

/-- `RingBuffer.Size`. -/
def size : Int :=
  rb.cursor - rb.gate

/-- A `*T` into the buffer: the index of its slot. -/
abbrev EventPtr := Nat

/-- `RingBuffer.Get`: the address of an event, which is never nil. -/
def get (sequence : Int) : Option EventPtr :=
  some (rb.index sequence)

/-- The event at an address. -/
def deref (address : EventPtr) : Option Event :=
  (rb.buffer[address]?).map EventSlot.event

/-- The slot of a sequence number is found at its index. -/
theorem getElem?_index (sequence : Int) :
    rb.buffer[rb.index sequence]? = some (rb.slot sequence) :=
  List.getElem?_eq_getElem (rb.index_lt sequence)

theorem slot_mem (sequence : Int) : rb.slot sequence ∈ rb.buffer :=
  List.get_mem _ _

/-- Every slot of the buffer belongs to some sequence number. -/
theorem exists_slot {slot : EventSlot Event} (member : slot ∈ rb.buffer) :
    ∃ place, rb.slot place = slot := by
  obtain ⟨index, bound, found⟩ := List.mem_iff_getElem.mp member
  have here : rb.index index = index := by
    apply Int.ofNat_inj.mp
    rw [index_eq_emod]
    exact Int.emod_eq_of_lt (Int.natCast_nonneg index) (Int.ofNat_lt.mpr bound)
  refine ⟨index, ?_⟩
  rw [RingBuffer.slot, ← found, List.get_eq_getElem]
  simp only [here]

section Stores

variable {rb} (sequence other value : Int) (event : Event)

@[simp]
theorem capacity_setSlot (slot : EventSlot Event) :
    (rb.setSlot sequence slot).capacity = rb.capacity := by
  simp [setSlot, capacity]

@[simp]
theorem capacity_setSequence :
    (rb.setSequence sequence value).capacity = rb.capacity :=
  capacity_setSlot _ _

@[simp]
theorem capacity_setEvent :
    (rb.setEvent sequence event).capacity = rb.capacity :=
  capacity_setSlot _ _

@[simp]
theorem capacity_setCursor : (rb.setCursor value).capacity = rb.capacity :=
  rfl

@[simp]
theorem index_setEvent :
    (rb.setEvent sequence event).index other = rb.index other :=
  rfl

@[simp]
theorem cursor_setSequence :
    (rb.setSequence sequence value).cursor = rb.cursor :=
  rfl

@[simp]
theorem cursor_setEvent : (rb.setEvent sequence event).cursor = rb.cursor :=
  rfl

@[simp]
theorem cursor_setCursor : (rb.setCursor value).cursor = value :=
  rfl

@[simp]
theorem gate_setCursor : (rb.setCursor value).gate = rb.gate :=
  rfl

@[simp]
theorem gate_setSequence :
    (rb.setSequence sequence value).gate = rb.gate :=
  rfl

@[simp]
theorem gate_setEvent : (rb.setEvent sequence event).gate = rb.gate :=
  rfl

/-- A store changes the slots which share the index. -/
theorem slot_setSlot (slot : EventSlot Event) :
    (rb.setSlot sequence slot).slot other =
      if rb.index other = rb.index sequence then slot else rb.slot other := by
  apply Option.some.inj
  have stored :
      (rb.setSlot sequence slot).buffer[rb.index other]? =
        some ((rb.setSlot sequence slot).slot other) :=
    (rb.setSlot sequence slot).getElem?_index other
  have before := rb.getElem?_index other
  rw [← stored, setSlot, List.getElem?_set]
  by_cases same : rb.index other = rb.index sequence
  · simp [same, rb.index_lt]
  · simpa [same, Ne.symm same] using before

/-- A store into the sequence number of a slot. -/
theorem sequence_setSequence :
    ((rb.setSequence sequence value).slot other).sequence =
      if rb.index other = rb.index sequence then value
      else (rb.slot other).sequence := by
  rw [setSequence, slot_setSlot]
  split <;> rfl

/-- Storing a sequence number keeps all events. -/
theorem event_setSequence :
    ((rb.setSequence sequence value).slot other).event =
      (rb.slot other).event := by
  rw [setSequence, slot_setSlot]
  split
  · next same => simp [RingBuffer.slot, same]
  · rfl

/-- A write of an event into a slot. -/
theorem event_setEvent :
    ((rb.setEvent sequence event).slot other).event =
      if rb.index other = rb.index sequence then event
      else (rb.slot other).event := by
  rw [setEvent, slot_setSlot]
  split <;> rfl

/-- Writing an event keeps all sequence numbers. -/
theorem sequence_setEvent :
    ((rb.setEvent sequence event).slot other).sequence =
      (rb.slot other).sequence := by
  rw [setEvent, slot_setSlot]
  split
  · next same => simp [RingBuffer.slot, same]
  · rfl

theorem slot_congr (same : rb.index sequence = rb.index other) :
    rb.slot sequence = rb.slot other := by
  simp [RingBuffer.slot, same]

end Stores

/-- The event at the address of a sequence number is the one in its slot. -/
theorem deref_index (sequence : Int) :
    rb.deref (rb.index sequence) = some (rb.slot sequence).event := by
  rw [deref, getElem?_index, Option.map_some]

theorem slot_newRingBuffer (zero : Event) {size : Int64}
    (fits : size.toInt ≤ 2 ^ 62) (sequence : Int) :
    (newRingBuffer zero size fits).slot sequence =
      { sequence := -1, event := zero } :=
  List.getElem_replicate _

/-- No slot of a new ring buffer carries a sequence number. -/
theorem sequence_newRingBuffer (zero : Event) {size : Int64}
    (fits : size.toInt ≤ 2 ^ 62) (place : Int) :
    ¬ 0 ≤ ((newRingBuffer zero size fits).slot place).sequence := by
  rw [slot_newRingBuffer]
  exact Int.not_le.mpr (Int.negSucc_lt_zero 0)

end RingBuffer

end AeroRisk.Disruptor
