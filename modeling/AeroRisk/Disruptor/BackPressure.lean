import AeroRisk.Disruptor.Producers

/-!
# Producers and the gate

The gate stands for the progress of a consumer: every number up to the gate is
consumed.  `Next` does not read the gate.  This module finds the runs in which
the producers nevertheless stay within one lap of the consumer.
-/

namespace AeroRisk.Disruptor.System

open AeroRisk.Library

variable {Event : Type} (payload : Int → Event)

/-- A step of a producer, or the consumer goes on by one event. -/
inductive Label where
  | produce (producer : Nat)
  | consume
deriving DecidableEq, Repr

/-- The consumer goes on when the event after the gate is published. -/
def consume (system : System Event) : System Event :=
  if system.ring.gate + 1 ∈ system.published then
    { system with ring := system.ring.setGate (system.ring.gate + 1) }
  else
    system

/-- The next step of a producer or of the consumer. -/
def act (system : System Event) : Label → System Event
  | .produce producer => system.produce payload producer
  | .consume => system.consume

/-- The producers are at most one lap ahead and lose no event. -/
structure WithinCapacity (system : System Event) : Prop where
  claimed :
    ∀ claim ∈ system.claims,
      claim.2 - system.ring.capacity ≤ system.ring.gate
  unconsumed :
    ∀ sequence ∈ system.published, system.ring.gate < sequence →
      system.ring.slot sequence = { sequence, event := payload sequence }
  size_nonneg : 0 ≤ system.ring.size
  size_le : system.ring.size ≤ system.ring.capacity

/-- A claim which succeeds claims a number whose slot is consumed. -/
def ClaimsConsumed (system : System Event) : Label → Prop
  | .produce producer =>
      system.phase producer = .loaded system.ring.cursor →
        system.ring.cursor + 1 - system.ring.capacity ≤ system.ring.gate
  | .consume => True

instance (system : System Event) :
    ∀ label, Decidable (system.ClaimsConsumed label)
  | .produce _ => inferInstanceAs (Decidable (_ → _))
  | .consume => inferInstanceAs (Decidable True)

/-- The event of the number is written, and maybe published. -/
def Filled (system : System Event) (sequence : Int) : Prop :=
  sequence ∈ system.published ∨
    ∃ producer, (system.phase producer).stored = some sequence

/-- The invariant of runs whose claims stay within one lap of the gate. -/
structure Bounded (zero : Event) (system : System Event) : Prop where
  sound : system.Sound payload zero
  gate_ge : -1 ≤ system.ring.gate
  gate_le : system.ring.gate ≤ system.ring.cursor
  oneLap : system.ring.cursor - system.ring.capacity ≤ system.ring.gate
  consumed :
    ∀ sequence, 0 ≤ sequence → sequence ≤ system.ring.gate →
      sequence ∈ system.published
  marked :
    ∀ sequence, system.Taken sequence → system.ring.gate < sequence →
      (system.ring.slot sequence).sequence = sequence
  filled :
    ∀ sequence, system.Filled sequence → system.ring.gate < sequence →
      (system.ring.slot sequence).event = payload sequence

variable {payload} {zero : Event} {system after : System Event} {producer : Nat}

/-! ## What a step adds -/

/-- An event which becomes written is in its slot. -/
theorem Effect.newlyFilled (effect : Effect payload system producer after)
    {sequence : Int} (filled : after.Filled sequence) :
    system.Filled sequence ∨
      (after.ring.slot sequence).event = payload sequence := by
  rcases filled with member | ⟨other, stored⟩
  · cases effect with
    | publish number written =>
        rcases List.mem_append.mp member with before | isNumber
        · exact Or.inl (Or.inl before)
        · rw [List.mem_singleton.mp isNumber]
          exact Or.inl (Or.inr ⟨producer, by rw [written]; rfl⟩)
    | _ => exact Or.inl (Or.inl member)
  · by_cases same : other = producer
    · subst other
      cases effect with
      | quiet phase sameHeld sameWon sameStored =>
          refine Or.inl (Or.inr ⟨producer, ?_⟩)
          simpa [goTo, sameStored] using stored
      | claim loaded => simp [goTo, Phase.stored] at stored
      | win number saw => simp [goTo, Phase.stored] at stored
      | write number returned =>
          have isNumber : number = sequence := by
            simpa [goTo, Phase.stored] using stored
          subst isNumber
          simp [RingBuffer.event_setEvent]
      | publish number written => simp [goTo, Phase.stored] at stored
    · refine Or.inl (Or.inr ⟨other, ?_⟩)
      cases effect <;> simpa [goTo, same] using stored

theorem Effect.gate (effect : Effect payload system producer after) :
    after.ring.gate = system.ring.gate := by
  cases effect <;> simp [goTo]

/-- Only a claim moves the cursor. -/
theorem Effect.cursor (effect : Effect payload system producer after) :
    after.ring.cursor = system.ring.cursor ∨
      system.phase producer = .loaded system.ring.cursor ∧
        after.ring.cursor = system.ring.cursor + 1 := by
  cases effect with
  | claim loaded => exact Or.inr ⟨loaded, rfl⟩
  | _ => exact Or.inl (by simp [goTo])

theorem taken_of_filled {sequence : Int} (filled : system.Filled sequence) :
    system.Taken sequence :=
  filled.imp_right fun ⟨producer, stored⟩ =>
    ⟨producer, Phase.won_of_stored stored⟩

/-! ## One lap of numbers -/

namespace Bounded

/-- A claimed number which is not published is beyond the gate. -/
theorem gate_lt_of_held (bounded : system.Bounded payload zero)
    {sequence : Int}
    (held : system.ledger.held producer = some sequence) :
    system.ring.gate < sequence := by
  have range := bounded.sound.exact.held_range producer sequence held
  by_contra within
  have isPublished :=
    bounded.consumed sequence range.1 (Int.not_lt.mp within)
  exact
    bounded.sound.exact.retired_unheld sequence isPublished producer held

/-- A number beyond the gate shares its slot with no held number. -/
theorem eq_of_index_eq (bounded : system.Bounded payload zero)
    {sequence number : Int}
    (beyond : system.ring.gate < sequence)
    (claimed : sequence ≤ system.ring.cursor)
    (held : system.ledger.held producer = some number)
    (sameIndex : system.ring.index number = system.ring.index sequence) :
    number = sequence := by
  have alsoBeyond := bounded.gate_lt_of_held held
  have alsoClaimed : number ≤ system.ring.cursor :=
    (bounded.sound.exact.held_range producer number held).2
  have oneLap := bounded.oneLap
  apply system.ring.eq_of_index_eq sameIndex <;> omega

theorem initial {size : Int64} (fits : size.toInt ≤ 2 ^ 62) :
    (System.initial zero fits).Bounded payload zero where
  sound := .initial fits
  gate_ge := Int.le_refl (-1)
  gate_le := Int.le_refl (-1)
  oneLap := Int.sub_le_self (-1) (Int.natCast_nonneg _)
  consumed := by
    intro sequence nonneg atMost
    have negative : ¬ (0 : Int) ≤ -1 := by decide
    exact absurd (Int.le_trans nonneg atMost) negative
  marked := by
    rintro sequence (member | ⟨producer, won⟩)
    · cases member
    · cases won
  filled := by
    rintro sequence (member | ⟨producer, stored⟩)
    · cases member
    · cases stored

theorem step (bounded : system.Bounded payload zero)
    (effect : Effect payload system producer after)
    (claimsConsumed : system.ClaimsConsumed (.produce producer)) :
    after.Bounded payload zero where
  sound := bounded.sound.step effect
  gate_ge := by
    rw [effect.gate]
    exact bounded.gate_ge
  gate_le := by
    have before := bounded.gate_le
    rw [effect.gate]
    rcases effect.cursor with same | ⟨-, more⟩ <;> omega
  oneLap := by
    have before := bounded.oneLap
    rw [effect.gate, effect.capacity]
    rcases effect.cursor with same | ⟨loaded, more⟩
    · omega
    · have free := claimsConsumed loaded
      omega
  consumed := by
    intro sequence nonneg atMost
    rw [effect.gate] at atMost
    exact effect.published (bounded.consumed sequence nonneg atMost)
  marked := by
    intro sequence taken beyond
    rw [effect.gate] at beyond
    rcases effect.newlyTaken taken with before | ⟨-, inSlot⟩
    · rcases effect.sequence sequence with
        kept | ⟨number, held, sameIndex, stored, -⟩
      · rw [kept]
        exact bounded.marked sequence before beyond
      · have claimed := bounded.sound.le_cursor_of_taken before
        rw [stored, bounded.eq_of_index_eq beyond claimed held sameIndex]
    · exact inSlot
  filled := by
    intro sequence filled beyond
    rw [effect.gate] at beyond
    rcases effect.newlyFilled filled with before | inSlot
    · rcases effect.event sequence with
        kept | ⟨number, held, sameIndex, stored⟩
      · rw [kept]
        exact bounded.filled sequence before beyond
      · have claimed :=
          bounded.sound.le_cursor_of_taken (taken_of_filled before)
        rw [stored, bounded.eq_of_index_eq beyond claimed held sameIndex]
    · exact inSlot

theorem consume (bounded : system.Bounded payload zero) :
    system.consume.Bounded payload zero := by
  rw [System.consume]
  split
  · next member =>
      have sound := bounded.sound
      have claimed := (sound.exact.retired_range _ member).2
      have oneLap := bounded.oneLap
      have gate_ge := bounded.gate_ge
      exact
        { sound := ⟨sound.exact, sound.home, sound.owned, sound.events⟩
          gate_ge := Int.le_trans gate_ge (Int.le_of_lt (Int.lt_succ _))
          gate_le := claimed
          oneLap := Int.le_trans oneLap (Int.le_of_lt (Int.lt_succ _))
          consumed := by
            intro sequence nonneg atMost
            rcases Int.lt_or_eq_of_le atMost with less | rfl
            · exact
                bounded.consumed sequence nonneg (Int.lt_add_one_iff.mp less)
            · exact member
          marked := fun sequence taken beyond =>
            bounded.marked sequence taken (Int.lt_trans (Int.lt_succ _) beyond)
          filled := fun sequence filled beyond =>
            bounded.filled sequence filled
              (Int.lt_trans (Int.lt_succ _) beyond) }
  · exact bounded

theorem withinCapacity (bounded : system.Bounded payload zero) :
    system.WithinCapacity payload where
  claimed := by
    intro claim member
    have oneLap := bounded.oneLap
    have atMost : claim.2 ≤ system.ring.cursor :=
      (bounded.sound.exact.issued_range member).2
    omega
  unconsumed := by
    intro sequence member beyond
    ext
    · exact bounded.marked sequence (Or.inl member) beyond
    · exact bounded.filled sequence (Or.inl member) beyond
  size_nonneg := Int.sub_nonneg_of_le bounded.gate_le
  size_le := by
    have oneLap := bounded.oneLap
    rw [RingBuffer.size]
    omega

end Bounded

/-- The size alone shows that a claim has left the lap. -/
theorem claimsConsumed_of_withinCapacity
    (within : (system.produce payload producer).WithinCapacity payload) :
    system.ClaimsConsumed (.produce producer) := by
  intro loaded
  have size_le := within.size_le
  simp only [produce, loaded, if_true, RingBuffer.size,
    RingBuffer.cursor_setCursor, RingBuffer.gate_setCursor,
    RingBuffer.capacity_setCursor] at size_le
  omega

/--
The producers stay within one lap of the gate, and overwrite no event beyond
it, in every state of exactly the runs in which each claim that succeeds is of
a number whose slot the consumer has left behind.
-/
theorem within_capacity (payload : Int → Event) (zero : Event)
    {size : Int64} (fits : size.toInt ≤ 2 ^ 62) (schedule : List Label) :
    LabelledRun.Always (act payload) (WithinCapacity payload)
        (initial zero fits) schedule ↔
      LabelledRun.Along (act payload) ClaimsConsumed
        (initial zero fits) schedule := by
  have enough :
      ∀ system : System Event, system.Bounded payload zero →
        system.WithinCapacity payload :=
    fun _ bounded => bounded.withinCapacity
  have preserved :
      ∀ (system : System Event) label, system.Bounded payload zero →
        system.ClaimsConsumed label →
          (system.act payload label).Bounded payload zero := by
    intro system label bounded claimsConsumed
    cases label with
    | produce producer =>
        exact
          bounded.step (produce_effect payload system producer) claimsConsumed
    | consume => exact bounded.consume
  have broken :
      ∀ (system : System Event) label, system.Bounded payload zero →
        (system.act payload label).WithinCapacity payload →
          system.ClaimsConsumed label := by
    intro system label _ within
    cases label with
    | produce producer => exact claimsConsumed_of_withinCapacity within
    | consume => trivial
  exact
    LabelledRun.always_iff_along enough preserved broken schedule
      (.initial fits)

/-- A producer publishes event 0 and then writes event 1. -/
def twoEvents : List Label :=
  List.replicate 11 (.produce 0)

theorem within_capacity_sample :
    LabelledRun.Always (act id) (WithinCapacity id)
        (initial 0 twoFits) twoEvents ↔
      LabelledRun.Along (act id) ClaimsConsumed
        (initial 0 twoFits) twoEvents :=
  within_capacity id 0 twoFits twoEvents

/-- With one slot, event 1 overwrites event 0, which was not consumed. -/
theorem within_capacity_fails :
    ¬ ∀ (payload : Int → Int) (zero : Int) (size : Int64)
        (fits : size.toInt ≤ 2 ^ 62) (schedule : List Label),
        (LabelledRun.run (act payload) (initial zero fits)
          schedule).WithinCapacity payload := by
  intro within
  have lost :=
    (within id 0 1 oneFits twoEvents).unconsumed 0 (by decide) (by decide)
  exact absurd lost (by decide)

end AeroRisk.Disruptor.System
