import AeroRisk.Disruptor.RingBuffer
import AeroRisk.Library.LabelledRun
import AeroRisk.Library.TicketLedger

/-!
# Producers on a ring buffer

Any number of producers call `Next`, write the event and call `Publish`, over
and over.  Every load, compare-and-swap and store is a step of its own, and
a schedule names the producer which makes the next step.  A producer's phase
is where it stands in its program.

The state keeps three records which no step reads: the claims made by the
compare-and-swap on the cursor, the sequence numbers whose event was written,
and the sequence numbers whose `Publish` was executed.
-/

namespace AeroRisk.Disruptor

open AeroRisk.Library

/-- Where a producer stands between two of its steps. -/
inductive Phase where
  /-- Before `Next`, also when the loop of `Next` starts again. -/
  | idle
  /-- The cursor was loaded. -/
  | loaded (current : Int)
  /-- The CAS on the cursor succeeded. -/
  | claimed (next : Int)
  /-- A smaller sequence number was loaded from the slot. -/
  | saw (next seq : Int)
  /-- `Next` returned: the CAS on the slot succeeded. -/
  | returned (next : Int)
  /-- The event was written into the slot. -/
  | written (next : Int)
deriving DecidableEq, Repr

namespace Phase

/-- The sequence number which a producer claimed and did not yet publish. -/
def held : Phase → Option Int
  | .idle => none
  | .loaded _ => none
  | .claimed next => some next
  | .saw next _ => some next
  | .returned next => some next
  | .written next => some next

/-- The sequence number which `Next` returned and which is not published. -/
def won : Phase → Option Int
  | .returned next => some next
  | .written next => some next
  | _ => none

/-- The sequence number whose event is written and which is not published. -/
def stored : Phase → Option Int
  | .written next => some next
  | _ => none

@[simp]
theorem held_idle : idle.held = none :=
  rfl

@[simp]
theorem held_claimed (next : Int) : (claimed next).held = some next :=
  rfl

@[simp]
theorem won_returned (next : Int) : (returned next).won = some next :=
  rfl

@[simp]
theorem won_written (next : Int) : (written next).won = some next :=
  rfl

theorem held_of_won {phase : Phase} {next : Int}
    (won : phase.won = some next) : phase.held = some next := by
  cases phase with
  | returned number => exact won
  | written number => exact won
  | _ => cases won

theorem won_of_stored {phase : Phase} {next : Int}
    (stored : phase.stored = some next) : phase.won = some next := by
  cases phase with
  | written number => exact stored
  | _ => cases stored

end Phase

/-- The ring buffer, its producers and the record of what they did. -/
structure System (Event : Type) where
  ring : RingBuffer Event
  phase : Nat → Phase
  claims : List (Nat × Int)
  /-- The latest write comes first. -/
  writes : List Int
  published : List Int

namespace System

variable {Event : Type} (payload : Int → Event)

/-- A new ring buffer with idle producers. -/
def initial (zero : Event) {size : Int64} (fits : size.toInt ≤ 2 ^ 62) :
    System Event where
  ring := newRingBuffer zero size fits
  phase := fun _ => .idle
  claims := []
  writes := []
  published := []

/-- A producer goes on to a phase. -/
def goTo (system : System Event) (producer : Nat) (phase : Phase) :
    System Event :=
  { system with phase := Function.update system.phase producer phase }

/--
The next step of a producer.  The event written for a sequence number is
given by `payload`, as every number is written by at most one producer.
-/
def produce (system : System Event) (producer : Nat) : System Event :=
  match system.phase producer with
  | .idle => system.goTo producer (.loaded system.ring.cursor)
  | .loaded current =>
      if system.ring.cursor = current then
        { system.goTo producer (.claimed (current + 1)) with
          ring := system.ring.setCursor (current + 1)
          claims := system.claims ++ [(producer, current + 1)] }
      else
        system.goTo producer .idle
  | .claimed next =>
      let seq := (system.ring.slot next).sequence
      if seq < next then
        system.goTo producer (.saw next seq)
      else
        system
  | .saw next seq =>
      if (system.ring.slot next).sequence = seq then
        { system.goTo producer (.returned next) with
          ring := system.ring.setSequence next next }
      else
        system.goTo producer (.claimed next)
  | .returned next =>
      { system.goTo producer (.written next) with
        ring := system.ring.setEvent next (payload next)
        writes := next :: system.writes }
  | .written next =>
      { system.goTo producer .idle with
        ring := system.ring.setSequence next next
        published := system.published ++ [next] }

/-! ## What a step does -/

/-- The five things which a step of a producer can do. -/
inductive Effect (system : System Event) (producer : Nat) :
    System Event → Prop
  | quiet (phase : Phase)
      (sameHeld : phase.held = (system.phase producer).held)
      (sameWon : phase.won = (system.phase producer).won)
      (sameStored : phase.stored = (system.phase producer).stored) :
      Effect system producer (system.goTo producer phase)
  | claim (loaded : system.phase producer = .loaded system.ring.cursor) :
      Effect system producer
        { system.goTo producer (.claimed (system.ring.cursor + 1)) with
          ring := system.ring.setCursor (system.ring.cursor + 1)
          claims := system.claims ++ [(producer, system.ring.cursor + 1)] }
  | win (next : Int)
      (saw :
        system.phase producer =
          .saw next (system.ring.slot next).sequence) :
      Effect system producer
        { system.goTo producer (.returned next) with
          ring := system.ring.setSequence next next }
  | write (next : Int) (returned : system.phase producer = .returned next) :
      Effect system producer
        { system.goTo producer (.written next) with
          ring := system.ring.setEvent next (payload next)
          writes := next :: system.writes }
  | publish (next : Int) (written : system.phase producer = .written next) :
      Effect system producer
        { system.goTo producer .idle with
          ring := system.ring.setSequence next next
          published := system.published ++ [next] }

theorem goTo_self (system : System Event) (producer : Nat) :
    system.goTo producer (system.phase producer) = system := by
  rw [goTo, Function.update_eq_self]

theorem produce_effect (system : System Event) (producer : Nat) :
    Effect payload system producer (system.produce payload producer) := by
  cases phase : system.phase producer with
  | idle =>
      simp only [produce, phase]
      apply Effect.quiet <;> rw [phase] <;> rfl
  | loaded current =>
      simp only [produce, phase]
      split
      · next unchanged =>
          subst unchanged
          exact Effect.claim phase
      · apply Effect.quiet <;> rw [phase] <;> rfl
  | claimed next =>
      simp only [produce, phase]
      split
      · apply Effect.quiet <;> rw [phase] <;> rfl
      · have stays :
            Effect payload system producer
              (system.goTo producer (system.phase producer)) :=
          Effect.quiet _ rfl rfl rfl
        rwa [goTo_self] at stays
  | saw next seq =>
      simp only [produce, phase]
      split
      · next unchanged =>
          apply Effect.win
          rw [phase, unchanged]
      · apply Effect.quiet <;> rw [phase] <;> rfl
  | returned next =>
      simp only [produce, phase]
      exact Effect.write next phase
  | written next =>
      simp only [produce, phase]
      exact Effect.publish next phase

/-! ## Sequence numbers as tickets -/

/-- The sequence numbers as tickets which the cursor issues. -/
def ledger (system : System Event) : TicketLedger.Ledger Nat where
  counter := system.ring.cursor
  issued := system.claims
  held := Phase.held ∘ system.phase
  retired := system.published

variable {payload} {system after : System Event} {producer : Nat}

/-- A view of the phases stays when the changed phase looks the same. -/
theorem comp_update_of_same (view : Phase → Option Int)
    {phases : Nat → Phase} {phase : Phase}
    (same : view phase = view (phases producer)) :
    view ∘ Function.update phases producer phase = view ∘ phases := by
  rw [Function.comp_update, same]
  exact Function.update_eq_self producer (view ∘ phases)

/-- A producer holds what its phase says. -/
theorem held_of_phase {phase : Phase}
    (isPhase : system.phase producer = phase) :
    system.ledger.held producer = phase.held :=
  congrArg Phase.held isPhase

/-- A step of a producer issues a ticket, retires one or does neither. -/
theorem Effect.ledger (effect : Effect payload system producer after) :
    system.ledger.Step producer after.ledger := by
  have stays : system.ledger.Step producer system.ledger := .stay
  cases effect with
  | quiet phase sameHeld sameWon sameStored =>
      simpa only [System.ledger, goTo,
        comp_update_of_same Phase.held sameHeld] using stays
  | claim loaded =>
      have unheld : system.ledger.held producer = none :=
        held_of_phase loaded
      have step : system.ledger.Step producer (system.ledger.issue producer) :=
        .issue unheld
      simpa only [System.ledger, TicketLedger.Ledger.issue, goTo,
        Function.comp_update, Phase.held_claimed,
        RingBuffer.cursor_setCursor] using step
  | win next saw =>
      have sameHeld :
          (Phase.returned next).held = (system.phase producer).held := by
        rw [saw]
        rfl
      simpa only [System.ledger, goTo,
        comp_update_of_same Phase.held sameHeld,
        RingBuffer.cursor_setSequence] using stays
  | write next returned =>
      have sameHeld :
          (Phase.written next).held = (system.phase producer).held := by
        rw [returned]
        rfl
      simpa only [System.ledger, goTo,
        comp_update_of_same Phase.held sameHeld,
        RingBuffer.cursor_setEvent] using stays
  | publish next written =>
      have holds : system.ledger.held producer = some next :=
        held_of_phase written
      have step :
          system.ledger.Step producer (system.ledger.retire producer next) :=
        .retire next holds
      simpa only [System.ledger, TicketLedger.Ledger.retire, goTo,
        Function.comp_update, Phase.held_idle,
        RingBuffer.cursor_setSequence] using step

/-! ## What the slots contain -/

/-- Some `Next` returned the number, or its `Publish` was executed. -/
def Taken (system : System Event) (next : Int) : Prop :=
  next ∈ system.published ∨
    ∃ producer, (system.phase producer).won = some next

/-- The latest number whose event was written into a slot. -/
def lastWrite (system : System Event) (place : Int) : Option Int :=
  system.writes.find? fun next =>
    system.ring.index next = system.ring.index place

/-- All writes go to the only slot. -/
theorem lastWrite_eq_head? {system : System Event}
    (single : system.ring.capacity = 1) (place : Int) :
    system.lastWrite place = system.writes.head? := by
  have onlySlot :
      ∀ next, system.ring.index next = system.ring.index place := by
    intro next
    rw [RingBuffer.index_eq_iff, single, Nat.cast_one, Int.emod_one,
      Int.emod_one]
  cases writes : system.writes with
  | nil => simp [lastWrite, writes]
  | cons latest earlier => simp [lastWrite, writes, onlySlot]

/-- The latest write to a slot went to that slot. -/
theorem index_of_lastWrite {system : System Event} {place next : Int}
    (isLast : system.lastWrite place = some next) :
    system.ring.index next = system.ring.index place := by
  simpa using List.find?_some isLast

/-- The invariant of the cursor, the phases and the slots. -/
structure Sound (payload : Int → Event) (zero : Event)
    (system : System Event) : Prop where
  exact : system.ledger.Exact
  home :
    ∀ place, 0 ≤ (system.ring.slot place).sequence →
      system.ring.index (system.ring.slot place).sequence =
        system.ring.index place
  owned :
    ∀ place, 0 ≤ (system.ring.slot place).sequence →
      system.Taken (system.ring.slot place).sequence
  events :
    ∀ place,
      (system.ring.slot place).event =
        (system.lastWrite place).elim zero payload

/-- The slots of the sequence numbers never change. -/
theorem Effect.index (effect : Effect payload system producer after)
    (sequence : Int) :
    after.ring.index sequence = system.ring.index sequence := by
  cases effect <;> rfl

theorem Effect.capacity (effect : Effect payload system producer after) :
    after.ring.capacity = system.ring.capacity := by
  cases effect <;> simp [goTo]

/-- A step changes the phase of its producer only. -/
theorem Effect.phase_of_ne (effect : Effect payload system producer after)
    {other : Nat} (isOther : other ≠ producer) :
    after.phase other = system.phase other := by
  cases effect <;> exact Function.update_of_ne isOther _ _

/-- What is published stays so. -/
theorem Effect.published (effect : Effect payload system producer after)
    {next : Int} (member : next ∈ system.published) :
    next ∈ after.published := by
  cases effect with
  | publish number written => exact List.mem_append_left _ member
  | _ => exact member

/-- What is returned or published stays so. -/
theorem Effect.taken (effect : Effect payload system producer after)
    {next : Int} (taken : system.Taken next) : after.Taken next := by
  rcases taken with member | ⟨other, won⟩
  · exact Or.inl (effect.published member)
  · by_cases same : other = producer
    · subst other
      cases effect with
      | quiet phase sameHeld sameWon sameStored =>
          refine Or.inr ⟨producer, ?_⟩
          simpa [goTo, sameWon] using won
      | claim loaded =>
          rw [loaded] at won
          cases won
      | win number saw =>
          rw [saw] at won
          cases won
      | write number returned =>
          rw [returned] at won
          refine Or.inr ⟨producer, ?_⟩
          simpa [goTo] using won
      | publish number written =>
          rw [written] at won
          cases won
          exact Or.inl (by simp)
    · exact Or.inr ⟨other, (effect.phase_of_ne same).symm ▸ won⟩

/-- A number becomes taken by the CAS which puts it into its slot. -/
theorem Effect.newlyTaken (effect : Effect payload system producer after)
    {sequence : Int} (taken : after.Taken sequence) :
    system.Taken sequence ∨
      system.phase producer =
          .saw sequence (system.ring.slot sequence).sequence ∧
        (after.ring.slot sequence).sequence = sequence := by
  rcases taken with member | ⟨other, won⟩
  · cases effect with
    | publish number written =>
        rcases List.mem_append.mp member with before | isNumber
        · exact Or.inl (Or.inl before)
        · rw [List.mem_singleton.mp isNumber]
          exact Or.inl (Or.inr ⟨producer, by rw [written]; rfl⟩)
    | _ => exact Or.inl (Or.inl member)
  · by_cases same : other = producer
    · subst other
      cases effect with
      | quiet phase sameHeld sameWon sameStored =>
          refine Or.inl (Or.inr ⟨producer, ?_⟩)
          simpa [goTo, sameWon] using won
      | claim loaded => simp [goTo, Phase.won] at won
      | win number saw =>
          have isNumber : number = sequence := by simpa [goTo] using won
          subst isNumber
          exact Or.inr ⟨saw, by simp [RingBuffer.sequence_setSequence]⟩
      | write number returned =>
          refine Or.inl (Or.inr ⟨producer, ?_⟩)
          rw [returned]
          simpa [goTo] using won
      | publish number written => simp [goTo, Phase.won] at won
    · rw [effect.phase_of_ne same] at won
      exact Or.inl (Or.inr ⟨other, won⟩)

/--
A slot keeps its sequence number or gets the one which the producer holds, and
which is then taken.
-/
theorem Effect.sequence (effect : Effect payload system producer after)
    (place : Int) :
    (after.ring.slot place).sequence = (system.ring.slot place).sequence ∨
      ∃ next,
        system.ledger.held producer = some next ∧
          system.ring.index next = system.ring.index place ∧
            (after.ring.slot place).sequence = next ∧ after.Taken next := by
  cases effect with
  | quiet phase sameHeld sameWon sameStored => exact Or.inl rfl
  | claim loaded => exact Or.inl rfl
  | win next saw =>
      have held : system.ledger.held producer = some next :=
        held_of_phase saw
      rw [RingBuffer.sequence_setSequence]
      split
      · next here =>
          exact Or.inr
            ⟨next, held, here.symm, rfl, Or.inr ⟨producer, by simp [goTo]⟩⟩
      · exact Or.inl rfl
  | write next returned =>
      exact Or.inl (RingBuffer.sequence_setEvent next place (payload next))
  | publish next written =>
      have held : system.ledger.held producer = some next :=
        held_of_phase written
      rw [RingBuffer.sequence_setSequence]
      split
      · next here =>
          exact Or.inr ⟨next, held, here.symm, rfl, Or.inl (by simp)⟩
      · exact Or.inl rfl

/-- A slot keeps its event or gets the one which the producer holds. -/
theorem Effect.event (effect : Effect payload system producer after)
    (place : Int) :
    (after.ring.slot place).event = (system.ring.slot place).event ∨
      ∃ next,
        system.ledger.held producer = some next ∧
          system.ring.index next = system.ring.index place ∧
            (after.ring.slot place).event = payload next := by
  cases effect with
  | quiet phase sameHeld sameWon sameStored => exact Or.inl rfl
  | claim loaded => exact Or.inl rfl
  | win next saw => exact Or.inl (RingBuffer.event_setSequence next place next)
  | write next returned =>
      have held : system.ledger.held producer = some next :=
        held_of_phase returned
      rw [RingBuffer.event_setEvent]
      split
      · next here => exact Or.inr ⟨next, held, here.symm, rfl⟩
      · exact Or.inl rfl
  | publish next written =>
      exact Or.inl (RingBuffer.event_setSequence next place next)

/-- The events follow the writes. -/
theorem Effect.events {zero : Event}
    (effect : Effect payload system producer after)
    (before :
      ∀ place,
        (system.ring.slot place).event =
          (system.lastWrite place).elim zero payload)
    (place : Int) :
    (after.ring.slot place).event =
      (after.lastWrite place).elim zero payload := by
  cases effect with
  | quiet phase sameHeld sameWon sameStored => exact before place
  | claim loaded => exact before place
  | win next saw =>
      rw [RingBuffer.event_setSequence]
      exact before place
  | write next returned =>
      rw [RingBuffer.event_setEvent]
      by_cases here : system.ring.index place = system.ring.index next
      · simp [lastWrite, here]
      · rw [if_neg here, before place, lastWrite, lastWrite,
          List.find?_cons_of_neg (by simp [Ne.symm here])]
        rfl
  | publish next written =>
      rw [RingBuffer.event_setSequence]
      exact before place

namespace Sound

variable {zero : Event}

theorem initial {size : Int64} (fits : size.toInt ≤ 2 ^ 62) :
    (System.initial zero fits).Sound payload zero where
  exact := .initial
  home := fun place nonneg =>
    absurd nonneg (RingBuffer.sequence_newRingBuffer zero fits place)
  owned := fun place nonneg =>
    absurd nonneg (RingBuffer.sequence_newRingBuffer zero fits place)
  events := by
    intro place
    rw [System.initial, RingBuffer.slot_newRingBuffer]
    rfl

theorem step (sound : system.Sound payload zero)
    (effect : Effect payload system producer after) :
    after.Sound payload zero where
  exact := sound.exact.step effect.ledger
  home := by
    intro place nonneg
    rw [effect.index, effect.index]
    rcases effect.sequence place with kept | ⟨next, -, here, stored, -⟩
    · rw [kept] at nonneg ⊢
      exact sound.home place nonneg
    · rw [stored]
      exact here
  owned := by
    intro place nonneg
    rcases effect.sequence place with kept | ⟨next, -, -, stored, taken⟩
    · rw [kept] at nonneg ⊢
      exact effect.taken (sound.owned place nonneg)
    · rw [stored]
      exact taken
  events := effect.events sound.events

theorem le_cursor_of_taken (sound : system.Sound payload zero)
    {sequence : Int} (taken : system.Taken sequence) :
    sequence ≤ system.ring.cursor := by
  rcases taken with member | ⟨producer, won⟩
  · exact (sound.exact.retired_range sequence member).2
  · exact
      (sound.exact.held_range producer sequence (Phase.held_of_won won)).2

/-- No slot carries a number which is not yet claimed. -/
theorem slot_le_cursor (sound : system.Sound payload zero) (place : Int) :
    (system.ring.slot place).sequence ≤ system.ring.cursor := by
  rcases Int.lt_or_le (system.ring.slot place).sequence 0 with unset | nonneg
  · have counter_ge : -1 ≤ system.ring.cursor := sound.exact.counter_ge
    omega
  · exact sound.le_cursor_of_taken (sound.owned place nonneg)

/-- The invariant holds whatever the order of the steps. -/
theorem run (sound : system.Sound payload zero) (schedule : List Nat) :
    (LabelledRun.run (produce payload) system schedule).Sound
      payload zero :=
  LabelledRun.run_invariant_of_every
    (fun state number before => before.step (produce_effect payload state number))
    schedule sound

end Sound

end System

end AeroRisk.Disruptor
