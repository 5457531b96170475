import AeroRisk.Disruptor.Producers

/-!
# What the sequence number of a slot tells a reader

A slot gets its sequence number twice: from the CAS which ends `Next`, before
the event is written, and from `Publish`, after it.  A reader which finds the
number in the slot cannot tell the two apart.
-/

namespace AeroRisk.Disruptor.System

open AeroRisk.Library

variable {Event : Type}

/-- Only published sequence numbers are found in the slots. -/
def PublishedMeansPublished (system : System Event) : Prop :=
  ∀ slot ∈ system.ring.buffer,
    0 ≤ slot.sequence → slot.sequence ∈ system.published

instance (system : System Event) :
    Decidable system.PublishedMeansPublished :=
  inferInstanceAs (Decidable (∀ slot ∈ system.ring.buffer, _))

/-- The producer did not yet publish the number which is in its slot. -/
def Premature (system : System Event) (producer : Nat) : Prop :=
  ∃ next,
    (system.phase producer).won = some next ∧
      (system.ring.slot next).sequence = next

/-- The step of the producer is the successful CAS on a slot. -/
def Returns (system : System Event) (producer : Nat) : Prop :=
  ∃ next,
    system.phase producer = .saw next (system.ring.slot next).sequence

variable {payload : Int → Event} {zero : Event} {system : System Event}

/-- A slot misleads when a producer is between its CAS and its `Publish`. -/
theorem Sound.publishedMeansPublished_iff
    (sound : system.Sound payload zero) :
    system.PublishedMeansPublished ↔
      ∀ producer, ¬ system.Premature producer := by
  constructor
  · rintro published producer ⟨next, won, inSlot⟩
    have held : system.ledger.held producer = some next :=
      Phase.held_of_won won
    have nonneg := (sound.exact.held_range producer next held).1
    have found :=
      published (system.ring.slot next) (system.ring.slot_mem next)
    rw [inSlot] at found
    exact sound.exact.retired_unheld next (found nonneg) producer held
  · intro mature slot member nonneg
    obtain ⟨place, rfl⟩ := system.ring.exists_slot member
    rcases sound.owned place nonneg with isPublished | ⟨producer, won⟩
    · exact isPublished
    · have inSlot := system.ring.slot_congr _ _ (sound.home place nonneg)
      exact absurd ⟨_, won, congrArg EventSlot.sequence inSlot⟩
        (mature producer)

/-- While no `Next` returned, no slot carries a sequence number. -/
def Unreturned (payload : Int → Event) (zero : Event)
    (system : System Event) : Prop :=
  system.Sound payload zero ∧ ∀ producer, (system.phase producer).won = none

theorem Unreturned.step {producer : Nat}
    (unreturned : system.Unreturned payload zero)
    (noReturn : ¬ system.Returns producer) :
    (system.produce payload producer).Unreturned payload zero := by
  have effect := produce_effect payload system producer
  refine ⟨unreturned.1.step effect, ?_⟩
  intro other
  have before := unreturned.2 other
  generalize system.produce payload producer = after at effect
  by_cases same : other = producer
  · subst other
    cases effect with
    | quiet phase sameHeld sameWon sameStored =>
        simpa [goTo, sameWon] using before
    | claim loaded => simp [goTo, Phase.won]
    | win next saw => exact absurd ⟨next, saw⟩ noReturn
    | write next returned =>
        rw [returned] at before
        cases before
    | publish next written => simp [goTo, Phase.won]
  · cases effect <;> simpa [goTo, same] using before

/-- The successful CAS on a slot is premature. -/
theorem premature_of_returns {producer : Nat}
    (returns : system.Returns producer) :
    (system.produce payload producer).Premature producer := by
  obtain ⟨next, saw⟩ := returns
  refine ⟨next, ?_, ?_⟩ <;>
    simp [produce, saw, goTo, RingBuffer.sequence_setSequence]

/--
The slots of a state carry only numbers which are published exactly when no
producer is between its CAS on a slot and its `Publish` with the slot
unchanged.  This holds in every state of exactly the runs in which no call of
`Next` returns.
-/
theorem published_means_published (payload : Int → Event) (zero : Event)
    {size : Int64} (fits : size.toInt ≤ 2 ^ 62) (schedule : List Nat) :
    ((LabelledRun.run (produce payload) (initial zero fits)
          schedule).PublishedMeansPublished ↔
        ∀ producer,
          ¬ (LabelledRun.run (produce payload) (initial zero fits)
              schedule).Premature producer) ∧
      (LabelledRun.Always (produce payload) PublishedMeansPublished
          (initial zero fits) schedule ↔
        LabelledRun.Along (produce payload)
          (fun system producer => ¬ system.Returns producer)
          (initial zero fits) schedule) := by
  have sound : (initial zero fits).Sound payload zero := .initial fits
  have enough :
      ∀ system : System Event, system.Unreturned payload zero →
        system.PublishedMeansPublished := by
    intro system unreturned
    rw [unreturned.1.publishedMeansPublished_iff]
    rintro producer ⟨next, won, -⟩
    rw [unreturned.2 producer] at won
    cases won
  have preserved :
      ∀ (system : System Event) producer,
        system.Unreturned payload zero → ¬ system.Returns producer →
          (system.produce payload producer).Unreturned payload zero :=
    fun _ _ unreturned noReturn => unreturned.step noReturn
  have broken :
      ∀ (system : System Event) producer,
        system.Unreturned payload zero →
          (system.produce payload producer).PublishedMeansPublished →
            ¬ system.Returns producer := by
    intro system producer unreturned published returns
    have stillSound :=
      unreturned.1.step (produce_effect payload system producer)
    rw [stillSound.publishedMeansPublished_iff] at published
    exact published producer (premature_of_returns returns)
  exact
    ⟨(sound.run schedule).publishedMeansPublished_iff,
      LabelledRun.always_iff_along enough preserved broken schedule
        ⟨sound, fun _ => rfl⟩⟩

theorem published_means_published_sample :
    ((LabelledRun.run (produce id) (initial 0 twoFits)
          [0, 0, 0, 0]).PublishedMeansPublished ↔
        ∀ producer,
          ¬ (LabelledRun.run (produce id) (initial 0 twoFits)
              [0, 0, 0, 0]).Premature producer) ∧
      (LabelledRun.Always (produce id) PublishedMeansPublished
          (initial 0 twoFits) [0, 0, 0, 0] ↔
        LabelledRun.Along (produce id)
          (fun system producer => ¬ system.Returns producer)
          (initial 0 twoFits) [0, 0, 0, 0]) :=
  published_means_published id 0 twoFits [0, 0, 0, 0]

/-- A single producer: `Next` has returned and nothing is written. -/
theorem published_means_published_fails :
    ¬ ∀ (payload : Int → Int) (zero : Int) (size : Int64)
        (fits : size.toInt ≤ 2 ^ 62) (schedule : List Nat),
        (LabelledRun.run (produce payload) (initial zero fits)
          schedule).PublishedMeansPublished := by
  intro published
  exact absurd (published id 0 2 twoFits [0, 0, 0, 0]) (by decide)

end AeroRisk.Disruptor.System
