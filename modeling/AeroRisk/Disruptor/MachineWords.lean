import AeroRisk.Disruptor.BackPressure
import AeroRisk.Disruptor.BatchProcessor

/-!
# Sequence numbers in machine words

The source keeps the cursor, the gate and all sequence numbers in `int64`
words.  The producers, the gate and the batch processor of this module compute
with such words, and an addition which is too large wraps around.  For the
first `2 ^ 63` steps of a schedule every number of the exact model fits its
word, so the words follow the exact model step by step, and what holds of it
after such a schedule holds of the source.
-/

namespace AeroRisk.Disruptor

open AeroRisk.Library

variable {Event : Type}

/-! ## Words -/

/-- The `int64` of a number. -/
abbrev word (number : Int) : Int64 :=
  Int64.ofInt number

/-- The numbers which a system can reach in some steps. -/
def Reachable (steps : Nat) (number : Int) : Prop :=
  -1 ≤ number ∧ number < steps

theorem Reachable.succ {steps : Nat} {number : Int}
    (reachable : Reachable steps number) : Reachable (steps + 1) number := by
  obtain ⟨least, less⟩ := reachable
  exact ⟨least, by omega⟩

/-- The number which follows is reached by one step more. -/
theorem Reachable.next {steps : Nat} {number : Int}
    (reachable : Reachable steps number) :
    Reachable (steps + 1) (number + 1) := by
  obtain ⟨least, less⟩ := reachable
  constructor <;> omega

theorem reachable_neg_one (steps : Nat) : Reachable steps (-1) :=
  ⟨le_refl (-1), by omega⟩

section Words

variable {steps : Nat} {number other : Int}

theorem toInt_word (few : steps ≤ 2 ^ 63)
    (reachable : Reachable steps number) :
    (word number).toInt = number := by
  obtain ⟨least, less⟩ := reachable
  apply Int64.toInt_ofInt_of_le <;> omega

/-- The comparison by a CAS decides about the numbers. -/
theorem word_eq_iff (few : steps ≤ 2 ^ 63) (first : Reachable steps number)
    (second : Reachable steps other) :
    word number = word other ↔ number = other := by
  rw [← Int64.toInt_inj, toInt_word few first, toInt_word few second]

theorem word_lt_iff (few : steps ≤ 2 ^ 63) (first : Reachable steps number)
    (second : Reachable steps other) :
    word number < word other ↔ number < other := by
  rw [Int64.lt_iff_toInt_lt, toInt_word few first, toInt_word few second]

theorem word_succ (number : Int) : word (number + 1) = word number + 1 :=
  Int64.ofInt_add number 1

end Words

/-! ## The ring buffer -/

/-- `EventSlot` with its `int64`. -/
@[ext]
structure WordSlot (Event : Type) where
  sequence : Int64
  event : Event

/-- `RingBuffer` with its `int64` fields. -/
@[ext]
structure WordRing (Event : Type) where
  buffer : List (WordSlot Event)
  mask : Int64
  cursor : Int64
  gate : Int64
  sized :
    ∃ bits : Nat,
      bits ≤ 62 ∧ buffer.length = 2 ^ bits ∧ mask.toInt = 2 ^ bits - 1

namespace WordRing

variable (rb : WordRing Event)

/-- `sequence & rb.mask`. -/
def index (sequence : Int64) : Nat :=
  (sequence &&& rb.mask).toInt.toNat

theorem index_lt (sequence : Int64) : rb.index sequence < rb.buffer.length := by
  obtain ⟨bits, small, length, mask⟩ := rb.sized
  have positive : (0 : Int) < 2 ^ bits := by positivity
  have remainder := toInt_and_mask small mask sequence.toInt
  have less := Int.emod_lt_of_pos sequence.toInt positive
  have nonneg := Int.emod_nonneg sequence.toInt positive.ne'
  rw [Int64.ofInt_toInt] at remainder
  rw [index, remainder, length]
  apply Int.ofNat_lt.mp
  rw [Int.toNat_of_nonneg nonneg]
  exact_mod_cast less

/-- The slot of a sequence number. -/
def slot (sequence : Int64) : WordSlot Event :=
  rb.buffer.get ⟨rb.index sequence, rb.index_lt sequence⟩

/-- Store a slot. -/
def setSlot (sequence : Int64) (slot : WordSlot Event) : WordRing Event :=
  { rb with
    buffer := rb.buffer.set (rb.index sequence) slot
    sized := by simpa using rb.sized }

/-- `atomic.StoreInt64(&slot.sequence, value)`, also as the swap of a CAS. -/
def setSequence (sequence value : Int64) : WordRing Event :=
  rb.setSlot sequence { rb.slot sequence with sequence := value }

/-- The write of an event into its slot. -/
def setEvent (sequence : Int64) (event : Event) : WordRing Event :=
  rb.setSlot sequence { rb.slot sequence with event }

/-- `RingBuffer.Get`. -/
def get (sequence : Int64) : Option RingBuffer.EventPtr :=
  some (rb.index sequence)

/-- The event at an address. -/
def deref (address : RingBuffer.EventPtr) : Option Event :=
  (rb.buffer[address]?).map WordSlot.event

end WordRing

/-- A slot in words. -/
def EventSlot.words (slot : EventSlot Event) : WordSlot Event where
  sequence := word slot.sequence
  event := slot.event

namespace RingBuffer

/-- A ring buffer in words. -/
def words (rb : RingBuffer Event) : WordRing Event where
  buffer := rb.buffer.map EventSlot.words
  mask := rb.mask
  cursor := word rb.cursor
  gate := word rb.gate
  sized := by simpa using rb.sized

variable (rb : RingBuffer Event) (sequence : Int)

@[simp]
theorem slot_words :
    rb.words.slot (word sequence) = (rb.slot sequence).words :=
  List.getElem_map _

@[simp]
theorem deref_words (address : EventPtr) :
    rb.words.deref address = rb.deref address := by
  simp [WordRing.deref, deref, words, Function.comp_def, EventSlot.words]

theorem words_setSlot (slot : EventSlot Event) :
    (rb.setSlot sequence slot).words =
      rb.words.setSlot (word sequence) slot.words :=
  WordRing.ext List.map_set rfl rfl rfl

@[simp]
theorem words_setSequence (value : Int) :
    (rb.setSequence sequence value).words =
      rb.words.setSequence (word sequence) (word value) := by
  rw [setSequence, words_setSlot, WordRing.setSequence, slot_words]
  rfl

@[simp]
theorem words_setEvent (event : Event) :
    (rb.setEvent sequence event).words =
      rb.words.setEvent (word sequence) event := by
  rw [setEvent, words_setSlot, WordRing.setEvent, slot_words]
  rfl

end RingBuffer

/-! ## Producers and the gate -/

/-- `Phase` with the `int64` variables of a producer. -/
inductive WordPhase where
  | idle
  | loaded (current : Int64)
  | claimed (next : Int64)
  | saw (next seq : Int64)
  | returned (next : Int64)
  | written (next : Int64)

namespace Phase

/-- A phase in words. -/
def words : Phase → WordPhase
  | .idle => .idle
  | .loaded current => .loaded (word current)
  | .claimed next => .claimed (word next)
  | .saw next seq => .saw (word next) (word seq)
  | .returned next => .returned (word next)
  | .written next => .written (word next)

/-- The numbers which a producer keeps. -/
def numbers : Phase → List Int
  | .idle => []
  | .loaded current => [current]
  | .claimed next => [next]
  | .saw next seq => [next, seq]
  | .returned next => [next]
  | .written next => [next]

end Phase

/-- `System` in words. -/
@[ext]
structure WordSystem (Event : Type) where
  ring : WordRing Event
  phase : Nat → WordPhase
  claims : List (Nat × Int64)
  writes : List Int64
  published : List Int64

namespace WordSystem

variable (payload : Int64 → Event)

/-- A producer goes on to a phase. -/
def goTo (system : WordSystem Event) (producer : Nat) (phase : WordPhase) :
    WordSystem Event :=
  { system with phase := Function.update system.phase producer phase }

/-- The next step of a producer. -/
def produce (system : WordSystem Event) (producer : Nat) : WordSystem Event :=
  match system.phase producer with
  | .idle => system.goTo producer (.loaded system.ring.cursor)
  | .loaded current =>
      if system.ring.cursor = current then
        { system.goTo producer (.claimed (current + 1)) with
          ring := { system.ring with cursor := current + 1 }
          claims := system.claims ++ [(producer, current + 1)] }
      else
        system.goTo producer .idle
  | .claimed next =>
      let seq := (system.ring.slot next).sequence
      if seq < next then
        system.goTo producer (.saw next seq)
      else
        system
  | .saw next seq =>
      if (system.ring.slot next).sequence = seq then
        { system.goTo producer (.returned next) with
          ring := system.ring.setSequence next next }
      else
        system.goTo producer (.claimed next)
  | .returned next =>
      { system.goTo producer (.written next) with
        ring := system.ring.setEvent next (payload next)
        writes := next :: system.writes }
  | .written next =>
      { system.goTo producer .idle with
        ring := system.ring.setSequence next next
        published := system.published ++ [next] }

/-- The consumer goes on when the event after the gate is published. -/
def consume (system : WordSystem Event) : WordSystem Event :=
  if system.ring.gate + 1 ∈ system.published then
    { system with ring := { system.ring with gate := system.ring.gate + 1 } }
  else
    system

/-- The next step of a producer or of the consumer. -/
def act (system : WordSystem Event) : System.Label → WordSystem Event
  | .produce producer => system.produce payload producer
  | .consume => system.consume

end WordSystem

namespace System

variable (payload : Int → Event)

/-- A system in words, with its records. -/
def words (system : System Event) : WordSystem Event where
  ring := system.ring.words
  phase := fun producer => (system.phase producer).words
  claims := system.claims.map fun claim => (claim.1, word claim.2)
  writes := system.writes.map word
  published := system.published.map word

/-- All numbers of the system are reached in some steps. -/
structure Within (steps : Nat) (system : System Event) : Prop where
  cursor : Reachable steps system.ring.cursor
  gate : Reachable steps system.ring.gate
  slot : ∀ place, Reachable steps (system.ring.slot place).sequence
  phase :
    ∀ producer, ∀ number ∈ (system.phase producer).numbers,
      Reachable steps number
  published : ∀ number ∈ system.published, Reachable steps number

variable {payload} {zero : Event} {steps : Nat} {system : System Event}

theorem Within.initial {size : Int64} (fits : size.toInt ≤ 2 ^ 62) :
    (System.initial zero fits).Within 0 where
  cursor := reachable_neg_one 0
  gate := reachable_neg_one 0
  slot := by
    intro place
    rw [System.initial, RingBuffer.slot_newRingBuffer]
    exact reachable_neg_one 0
  phase := by
    intro producer number member
    cases member
  published := by
    intro number member
    cases member

theorem Within.succ (within : system.Within steps) :
    system.Within (steps + 1) where
  cursor := within.cursor.succ
  gate := within.gate.succ
  slot := fun place => (within.slot place).succ
  phase := fun producer number member =>
    (within.phase producer number member).succ
  published := fun number member => (within.published number member).succ

/-- A producer goes on with numbers which were reached. -/
theorem Within.goTo (within : system.Within steps) {producer : Nat}
    {phase : Phase}
    (reached : ∀ number ∈ phase.numbers, Reachable steps number) :
    (system.goTo producer phase).Within steps where
  cursor := within.cursor
  gate := within.gate
  slot := within.slot
  phase := by
    intro other number member
    by_cases same : other = producer
    · subst same
      simp only [System.goTo, Function.update_self] at member
      exact reached number member
    · simp only [System.goTo, Function.update_of_ne same] at member
      exact within.phase other number member
  published := within.published

/-- The cursor is set to a number which was reached. -/
theorem Within.setCursor (within : system.Within steps) {number : Int}
    (reached : Reachable steps number) (claims : List (Nat × Int)) :
    { system with
      ring := system.ring.setCursor number
      claims := claims : System Event }.Within steps where
  cursor := reached
  gate := within.gate
  slot := within.slot
  phase := within.phase
  published := within.published

/-- A slot gets a number which was reached. -/
theorem Within.setSequence (within : system.Within steps)
    {sequence value : Int} (reached : Reachable steps value) :
    { system with
      ring := system.ring.setSequence sequence value :
        System Event }.Within steps where
  cursor := within.cursor
  gate := within.gate
  slot := by
    intro place
    rw [RingBuffer.sequence_setSequence]
    split
    · exact reached
    · exact within.slot place
  phase := within.phase
  published := within.published

/-- An event is written. -/
theorem Within.setEvent (within : system.Within steps) (sequence : Int)
    (event : Event) (writes : List Int) :
    { system with
      ring := system.ring.setEvent sequence event
      writes := writes : System Event }.Within steps where
  cursor := within.cursor
  gate := within.gate
  slot := by
    intro place
    rw [RingBuffer.sequence_setEvent]
    exact within.slot place
  phase := within.phase
  published := within.published

/-- A number which was reached is published. -/
theorem Within.publish (within : system.Within steps) {number : Int}
    (reached : Reachable steps number) :
    { system with
      published := system.published ++ [number] : System Event }.Within
        steps where
  cursor := within.cursor
  gate := within.gate
  slot := within.slot
  phase := within.phase
  published := by
    intro other member
    rcases List.mem_append.mp member with before | new
    · exact within.published other before
    · rw [List.mem_singleton.mp new]
      exact reached

/-- A step reaches at most the number which follows the cursor. -/
theorem Within.produce (within : system.Within steps) (producer : Nat) :
    (system.produce payload producer).Within (steps + 1) := by
  have later := within.succ
  have kept := later.phase producer
  cases phase : system.phase producer with
  | idle =>
      simp only [System.produce, phase]
      exact later.goTo (by simpa [Phase.numbers] using later.cursor)
  | loaded current =>
      simp only [System.produce, phase]
      split
      · next unchanged =>
          subst unchanged
          have reached := within.cursor.next
          exact
            (later.goTo (by simpa [Phase.numbers] using reached)).setCursor
              reached _
      · exact later.goTo (by simp [Phase.numbers])
  | claimed next =>
      rw [phase] at kept
      simp only [System.produce, phase]
      split
      · apply later.goTo
        intro number member
        rcases List.mem_cons.mp member with rfl | member
        · exact kept _ (List.mem_singleton_self _)
        · rw [List.mem_singleton.mp member]
          exact later.slot next
      · exact later
  | saw next seq =>
      rw [phase] at kept
      simp only [System.produce, phase]
      have reached : Reachable (steps + 1) next :=
        kept next List.mem_cons_self
      split
      · exact
          (later.goTo (by simpa [Phase.numbers] using reached)).setSequence
            reached
      · exact later.goTo (by simpa [Phase.numbers] using reached)
  | returned next =>
      rw [phase] at kept
      simp only [System.produce, phase]
      have goes : (system.goTo producer (.written next)).Within (steps + 1) :=
        later.goTo kept
      exact goes.setEvent next _ _
  | written next =>
      rw [phase] at kept
      simp only [System.produce, phase]
      have reached : Reachable (steps + 1) next :=
        kept next (List.mem_singleton_self next)
      exact
        ((later.goTo (by simp [Phase.numbers])).setSequence reached).publish
          reached

theorem Within.consume (within : system.Within steps) :
    system.consume.Within (steps + 1) := by
  have later := within.succ
  rw [System.consume]
  split
  · exact
      { cursor := later.cursor
        gate := within.gate.next
        slot := later.slot
        phase := later.phase
        published := later.published }
  · exact later

/-- Every step reaches at most one number more. -/
theorem Within.act (within : system.Within steps) (label : Label) :
    (system.act payload label).Within (steps + 1) := by
  cases label with
  | produce producer => exact within.produce producer
  | consume => exact within.consume

/-! ## The words follow the numbers -/

theorem phase_goTo_words (system : System Event) (producer : Nat)
    (phase : Phase) :
    (system.goTo producer phase).words.phase =
      (system.words.goTo producer phase.words).phase :=
  Function.comp_update Phase.words system.phase producer phase

theorem words_goTo (producer : Nat) (phase : Phase) :
    (system.goTo producer phase).words =
      system.words.goTo producer phase.words :=
  WordSystem.ext rfl (phase_goTo_words system producer phase) rfl rfl rfl

section Comparisons

variable (few : steps ≤ 2 ^ 63) (within : system.Within steps)
  (next : Int) {number : Int} (reached : Reachable steps number)

include few within reached

/-- The CAS on the cursor decides alike. -/
theorem Within.cursor_eq_iff :
    system.words.ring.cursor = word number ↔ system.ring.cursor = number :=
  word_eq_iff few within.cursor reached

/-- The CAS on a slot decides alike. -/
theorem Within.sequence_eq_iff :
    (system.words.ring.slot (word next)).sequence = word number ↔
      (system.ring.slot next).sequence = number := by
  rw [words, RingBuffer.slot_words]
  exact word_eq_iff few (within.slot next) reached

/-- The comparison with what was loaded from a slot decides alike. -/
theorem Within.sequence_lt_iff :
    (system.words.ring.slot (word next)).sequence < word number ↔
      (system.ring.slot next).sequence < number := by
  rw [words, RingBuffer.slot_words]
  exact word_lt_iff few (within.slot next) reached

end Comparisons

/-- A step of a producer in words. -/
theorem words_produce (few : steps ≤ 2 ^ 63) (within : system.Within steps)
    (producer : Nat) :
    (system.produce payload producer).words =
      system.words.produce (payload ∘ Int64.toInt) producer := by
  have kept := within.phase producer
  have view : system.words.phase producer = (system.phase producer).words :=
    rfl
  cases phase : system.phase producer with
  | idle =>
      rw [phase] at view
      simp only [System.produce, phase, WordSystem.produce, view, Phase.words,
        words_goTo]
      rfl
  | loaded current =>
      rw [phase] at view kept
      have same := within.cursor_eq_iff few (kept current List.mem_cons_self)
      simp only [System.produce, phase, WordSystem.produce, view, Phase.words,
        same]
      split
      · rw [← word_succ]
        apply WordSystem.ext
        · rfl
        · exact phase_goTo_words system producer _
        · exact List.map_append
        · rfl
        · rfl
      · exact words_goTo producer .idle
  | claimed next =>
      rw [phase] at view kept
      have reached := kept next List.mem_cons_self
      have smaller := within.sequence_lt_iff few next reached
      simp only [System.produce, phase, WordSystem.produce, view, Phase.words,
        smaller]
      split
      · rw [words_goTo, Phase.words, words, RingBuffer.slot_words]
        rfl
      · rfl
  | saw next seq =>
      rw [phase] at view kept
      have reached := kept seq (by simp [Phase.numbers])
      have same := within.sequence_eq_iff few next reached
      simp only [System.produce, phase, WordSystem.produce, view, Phase.words,
        same]
      split
      · apply WordSystem.ext
        · exact RingBuffer.words_setSequence system.ring next next
        · exact phase_goTo_words system producer _
        · rfl
        · rfl
        · rfl
      · exact words_goTo producer (.claimed next)
  | returned next =>
      rw [phase] at view kept
      have reached := kept next List.mem_cons_self
      simp only [System.produce, phase, WordSystem.produce, view, Phase.words,
        Function.comp_apply, toInt_word few reached]
      apply WordSystem.ext
      · exact RingBuffer.words_setEvent system.ring next (payload next)
      · exact phase_goTo_words system producer _
      · rfl
      · rfl
      · rfl
  | written next =>
      rw [phase] at view
      simp only [System.produce, phase, WordSystem.produce, view, Phase.words]
      apply WordSystem.ext
      · exact RingBuffer.words_setSequence system.ring next next
      · exact phase_goTo_words system producer _
      · rfl
      · rfl
      · exact List.map_append

/-- A number is published when its word is. -/
theorem word_mem_published_iff (few : steps ≤ 2 ^ 63)
    (within : system.Within steps) {number : Int}
    (reached : Reachable steps number) :
    word number ∈ system.words.published ↔ number ∈ system.published := by
  constructor
  · intro member
    obtain ⟨other, isOther, same⟩ := List.mem_map.mp member
    have equal :=
      (word_eq_iff few (within.published other isOther) reached).mp same
    exact equal ▸ isOther
  · exact List.mem_map_of_mem

/-- A step of the consumer in words. -/
theorem words_consume (few : steps < 2 ^ 63) (within : system.Within steps) :
    system.consume.words = system.words.consume := by
  have published :
      system.words.ring.gate + 1 ∈ system.words.published ↔
        system.ring.gate + 1 ∈ system.published := by
    have gate : system.words.ring.gate + 1 = word (system.ring.gate + 1) :=
      (word_succ system.ring.gate).symm
    rw [gate]
    exact word_mem_published_iff few within.succ within.gate.next
  simp only [System.consume, WordSystem.consume, published]
  split
  · apply WordSystem.ext
    · exact WordRing.ext rfl rfl rfl (word_succ system.ring.gate)
    · rfl
    · rfl
    · rfl
    · rfl
  · rfl

/-- A step of a producer or of the consumer in words. -/
theorem words_act (few : steps < 2 ^ 63) (within : system.Within steps)
    (label : Label) :
    (system.act payload label).words =
      system.words.act (payload ∘ Int64.toInt) label := by
  cases label with
  | produce producer => exact words_produce (by omega) within producer
  | consume => exact words_consume few within

end System

/-- `NewRingBuffer` in words. -/
def newWordRing (zero : Event) (size : Int64)
    (fits : size.toInt ≤ 2 ^ 62) : WordRing Event where
  buffer :=
    List.replicate (powerOf2 size).toInt.toNat
      { sequence := -1, event := zero }
  mask := powerOf2 size - 1
  cursor := -1
  gate := -1
  sized := by
    simpa using mask_powerOf2 fits

/-- A new ring buffer with idle producers, in words. -/
def WordSystem.initial (zero : Event) {size : Int64}
    (fits : size.toInt ≤ 2 ^ 62) : WordSystem Event where
  ring := newWordRing zero size fits
  phase := fun _ => .idle
  claims := []
  writes := []
  published := []

theorem words_newRingBuffer (zero : Event) {size : Int64}
    (fits : size.toInt ≤ 2 ^ 62) :
    (newRingBuffer zero size fits).words = newWordRing zero size fits :=
  WordRing.ext List.map_replicate rfl rfl rfl

theorem System.words_initial (zero : Event) {size : Int64}
    (fits : size.toInt ≤ 2 ^ 62) :
    (System.initial zero fits).words = WordSystem.initial zero fits :=
  WordSystem.ext (words_newRingBuffer zero fits) rfl rfl rfl rfl

/--
For the first `2 ^ 63` steps the producers and the consumer do in words what
they do in numbers, and every number is that of its word.
-/
theorem System.words_run (payload : Int → Event) (zero : Event)
    {size : Int64} (fits : size.toInt ≤ 2 ^ 62) {schedule : List Label}
    (short : schedule.length ≤ 2 ^ 63) :
    (LabelledRun.run (act payload) (initial zero fits) schedule).words =
        LabelledRun.run (WordSystem.act (payload ∘ Int64.toInt))
          (WordSystem.initial zero fits) schedule ∧
      (LabelledRun.run (act payload) (initial zero fits) schedule).Within
        schedule.length := by
  have preserved :
      ∀ (steps : Nat) (system : System Event) label,
        system.Within steps → (system.act payload label).Within (steps + 1) :=
    fun _ _ label within => within.act label
  have initially : (initial zero fits).Within 0 := Within.initial fits
  rw [← words_initial zero fits]
  constructor
  · exact
      LabelledRun.view_run_of_counted preserved
        (fun _ _ label few within => words_act few within label)
        (by omega) initially
  · simpa using LabelledRun.run_counted preserved schedule initially

/-! ## The batch processor -/

/-- `for i := 0; i < bp.batchSize; i++` in words. -/
def fillWordBatch (rb : WordRing Event) :
    Nat → Nat → Int64 → List RingBuffer.EventPtr →
      List RingBuffer.EventPtr × Int64
  | 0, _, sequence, batch => (batch, sequence)
  | left + 1, i, sequence, batch =>
      let seq := sequence + Int64.ofNat i + 1
      match rb.get seq with
      | some event => fillWordBatch rb left (i + 1) seq (batch ++ [event])
      | none => (batch, sequence)

/-- A batch is the same however far its sequence numbers wrap around. -/
theorem fillWordBatch_words (rb : RingBuffer Event) (left i : Nat)
    (sequence : Int) (batch : List RingBuffer.EventPtr) :
    fillWordBatch rb.words left i (word sequence) batch =
      ((fillBatch rb left i sequence batch).1,
        word (fillBatch rb left i sequence batch).2) := by
  induction left generalizing i sequence batch with
  | zero => rfl
  | succ left inductionHypothesis =>
      have advanced :
          word sequence + Int64.ofNat i + 1 = word (sequence + i + 1) := by
        rw [word_succ, word, word, Int64.ofInt_add, Int64.ofInt_eq_ofNat]
      simp only [fillWordBatch, fillBatch, WordRing.get, RingBuffer.get,
        advanced]
      exact inductionHypothesis (i + 1) (sequence + i + 1) _

/-- `BatchProcessor` in words. -/
@[ext]
structure WordProcessor (Event : Type) where
  system : WordSystem Event
  handlers : Nat
  done : Bool
  batchSize : Nat
  sequence : Int64
  calls : List (RingBuffer.EventPtr × Nat)
  delivered : Nat → List Event

namespace WordProcessor

variable (payload : Int64 → Event)

/-- A batch processor which was just started. -/
def start (system : WordSystem Event) (handlers batchSize : Nat) :
    WordProcessor Event where
  system := system
  handlers := handlers
  done := false
  batchSize := batchSize
  sequence := 0
  calls := []
  delivered := fun _ => []

/-- The loop calls a handler with the event at an address. -/
def handle (bp : WordProcessor Event) (event : RingBuffer.EventPtr)
    (handler : Nat) : WordProcessor Event :=
  { bp with
    delivered :=
      Function.update bp.delivered handler
        (bp.delivered handler ++ (bp.system.ring.deref event).toList) }

/-- The loop fills a batch. -/
def fill (bp : WordProcessor Event) : WordProcessor Event :=
  let (batch, sequence) :=
    fillWordBatch bp.system.ring bp.batchSize 0 bp.sequence []
  { bp with
    sequence
    calls :=
      batch.flatMap fun event => (List.range bp.handlers).map fun handler =>
        (event, handler) }

/-- The next step of `processLoop`. -/
def processLoop (bp : WordProcessor Event) : WordProcessor Event :=
  match bp.calls with
  | (event, handler) :: rest =>
      { bp.handle event handler with calls := rest }
  | [] => if bp.done then bp else bp.fill

/-- The next step of a producer or of the batch processor. -/
def step (bp : WordProcessor Event) :
    BatchProcessor.Label → WordProcessor Event
  | .produce producer =>
      { bp with system := bp.system.produce payload producer }
  | .process => bp.processLoop
  | .stop => { bp with done := true }

end WordProcessor

namespace BatchProcessor

/-- A batch processor in words. -/
def words (bp : BatchProcessor Event) : WordProcessor Event where
  system := bp.system.words
  handlers := bp.handlers
  done := bp.done
  batchSize := bp.batchSize
  sequence := word bp.sequence
  calls := bp.calls
  delivered := bp.delivered

variable {payload : Int → Event} {zero : Event}

theorem words_handle (bp : BatchProcessor Event)
    (event : RingBuffer.EventPtr) (handler : Nat) :
    (bp.handle event handler).words = bp.words.handle event handler := by
  have read :
      bp.words.system.ring.deref event = bp.system.ring.deref event :=
    RingBuffer.deref_words bp.system.ring event
  rw [WordProcessor.handle, read]
  rfl

theorem words_fill (bp : BatchProcessor Event) :
    bp.fill.words = bp.words.fill := by
  have filled :=
    fillWordBatch_words bp.system.ring bp.batchSize 0 bp.sequence []
  have view :
      fillWordBatch bp.words.system.ring bp.words.batchSize 0
          bp.words.sequence [] =
        fillWordBatch bp.system.ring.words bp.batchSize 0
          (word bp.sequence) [] :=
    rfl
  rw [WordProcessor.fill, view, filled]
  rfl

theorem words_processLoop (bp : BatchProcessor Event) :
    bp.processLoop.words = bp.words.processLoop := by
  cases calls : bp.calls with
  | nil =>
      have view : bp.words.calls = [] := calls
      have done : bp.words.done = bp.done := rfl
      simp only [processLoop, calls, WordProcessor.processLoop, view, done]
      split
      · rfl
      · exact words_fill bp
  | cons call rest =>
      have view : bp.words.calls = call :: rest := calls
      simp only [processLoop, calls, WordProcessor.processLoop, view]
      rw [← words_handle]
      rfl

/-- A step of a producer or of the batch processor in words. -/
theorem words_step {steps : Nat} (few : steps ≤ 2 ^ 63)
    {bp : BatchProcessor Event} (within : bp.system.Within steps)
    (label : Label) :
    (bp.step payload label).words =
      bp.words.step (payload ∘ Int64.toInt) label := by
  cases label with
  | produce producer =>
      exact
        WordProcessor.ext (System.words_produce few within producer) rfl rfl
          rfl rfl rfl rfl
  | process => exact words_processLoop bp
  | stop => rfl

/-- Only producers reach new numbers. -/
theorem within_step {steps : Nat} {bp : BatchProcessor Event}
    (within : bp.system.Within steps) (label : Label) :
    (bp.step payload label).system.Within (steps + 1) := by
  cases label with
  | produce producer => exact within.produce producer
  | process =>
      rw [step, system_processLoop]
      exact within.succ
  | stop => exact within.succ

/--
For the first `2 ^ 63` steps the producers and the batch processor do in words
what they do in numbers: the handlers are called with the same events.
-/
theorem words_run (payload : Int → Event) (zero : Event) {size : Int64}
    (fits : size.toInt ≤ 2 ^ 62) (handlers batchSize : Nat)
    {schedule : List Label} (short : schedule.length ≤ 2 ^ 63) :
    (LabelledRun.run (step payload)
        (start (System.initial zero fits) handlers batchSize)
        schedule).words =
      LabelledRun.run (WordProcessor.step (payload ∘ Int64.toInt))
        (WordProcessor.start (WordSystem.initial zero fits) handlers
          batchSize) schedule := by
  have preserved :
      ∀ (steps : Nat) (bp : BatchProcessor Event) label,
        bp.system.Within steps →
          (bp.step payload label).system.Within (steps + 1) :=
    fun _ _ label within => within_step within label
  have follows :
      ∀ (steps : Nat) (bp : BatchProcessor Event) label,
        steps < 2 ^ 63 → bp.system.Within steps →
          (bp.step payload label).words =
            bp.words.step (payload ∘ Int64.toInt) label :=
    fun _ _ label few within => words_step (by omega) within label
  have started :
      (start (System.initial zero fits) handlers batchSize).words =
        WordProcessor.start (WordSystem.initial zero fits) handlers
          batchSize := by
    rw [words, start, System.words_initial]
    rfl
  rw [← started]
  exact
    LabelledRun.view_run_of_counted preserved follows (by omega)
      (System.Within.initial fits)

end BatchProcessor

end AeroRisk.Disruptor
