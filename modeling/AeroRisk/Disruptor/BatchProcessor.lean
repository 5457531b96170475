import AeroRisk.Disruptor.Producers
import Mathlib.Algebra.BigOperators.Group.Finset.Basic
import Mathlib.Tactic.Ring

/-!
# The batch processor

The loop of a batch processor runs beside the producers.  It fills a batch
with the addresses which `Get` returns, then passes every address to every
handler.  `Get` reads nothing which another goroutine writes, so the filling
of a batch is one step; each call of a handler is a step of its own, which
reads the event at that moment.
-/

namespace AeroRisk.Disruptor

open AeroRisk.Library

/-- `for i := 0; i < bp.batchSize; i++`, with `left` iterations to go. -/
def fillBatch {Event : Type} (rb : RingBuffer Event) :
    Nat → Nat → Int → List RingBuffer.EventPtr →
      List RingBuffer.EventPtr × Int
  | 0, _, sequence, batch => (batch, sequence)
  | left + 1, i, sequence, batch =>
      let seq := sequence + i + 1
      match rb.get seq with
      | some event => fillBatch rb left (i + 1) seq (batch ++ [event])
      | none => (batch, sequence)

/-- The sequence number after some iterations which begin with `i`. -/
def visited (i : Nat) (sequence : Int) (iterations : Nat) : Int :=
  sequence + ∑ offset ∈ Finset.range iterations, ((i + offset : Nat) + 1 : Int)

theorem visited_succ (i : Nat) (sequence : Int) (iterations : Nat) :
    visited i sequence (iterations + 1) =
      visited (i + 1) (sequence + i + 1) iterations := by
  rw [visited, visited, Finset.sum_range_succ', add_comm (Finset.sum _ _),
    ← add_assoc]
  congr 1
  · push_cast
    ring
  · apply Finset.sum_congr rfl
    intro offset _
    push_cast
    ring

/-- The loop never stops early, and it skips numbers more and more. -/
theorem fillBatch_eq {Event : Type} (rb : RingBuffer Event)
    (left i : Nat) (sequence : Int) (batch : List RingBuffer.EventPtr) :
    fillBatch rb left i sequence batch =
      (batch ++
          (List.range left).map fun iteration =>
            rb.index (visited i sequence (iteration + 1)),
        visited i sequence left) := by
  induction left generalizing i sequence batch with
  | zero => simp [fillBatch, visited]
  | succ left inductionHypothesis =>
      have first : visited i sequence 1 = sequence + i + 1 := by
        simp [visited, add_assoc]
      simp only [fillBatch, RingBuffer.get, inductionHypothesis,
        List.range_succ_eq_map, List.map_cons, List.map_map,
        Function.comp_def, visited_succ, List.append_assoc]
      simp [visited]

/-- Every address of a batch is that of some sequence number. -/
theorem index_of_mem_fillBatch {Event : Type} {rb : RingBuffer Event}
    {left : Nat} {sequence : Int} {address : RingBuffer.EventPtr}
    (member : address ∈ (fillBatch rb left 0 sequence []).1) :
    ∃ place, address = rb.index place := by
  rw [fillBatch_eq, List.nil_append, List.mem_map] at member
  obtain ⟨iteration, -, rfl⟩ := member
  exact ⟨_, rfl⟩

/-- The loop beside the producers of its ring buffer. -/
structure BatchProcessor (Event : Type) where
  system : System Event
  /-- The number of handlers which were added. -/
  handlers : Nat
  /-- Whether the channel `done` is closed. -/
  done : Bool
  batchSize : Nat
  sequence : Int
  /-- The calls of handlers which remain to be made for the batch. -/
  calls : List (RingBuffer.EventPtr × Nat)
  /-- The events which each handler was called with. -/
  delivered : Nat → List Event

namespace BatchProcessor

variable {Event : Type} (payload : Int → Event)

/-- A batch processor which was just started. -/
def start (system : System Event) (handlers batchSize : Nat) :
    BatchProcessor Event where
  system := system
  handlers := handlers
  done := false
  batchSize := batchSize
  sequence := 0
  calls := []
  delivered := fun _ => []

/-- What can happen next. -/
inductive Label where
  /-- A producer makes a step. -/
  | produce (producer : Nat)
  /-- The loop fills a batch, calls a handler or finds `done` closed. -/
  | process
  /-- `Stop` closes `done`. -/
  | stop
deriving DecidableEq, Repr

/-- The loop calls a handler with the event at an address. -/
def handle (bp : BatchProcessor Event) (event : RingBuffer.EventPtr)
    (handler : Nat) : BatchProcessor Event :=
  { bp with
    delivered :=
      Function.update bp.delivered handler
        (bp.delivered handler ++ (bp.system.ring.deref event).toList) }

/-- The loop fills a batch. -/
def fill (bp : BatchProcessor Event) : BatchProcessor Event :=
  let (batch, sequence) :=
    fillBatch bp.system.ring bp.batchSize 0 bp.sequence []
  { bp with
    sequence
    calls :=
      batch.flatMap fun event => (List.range bp.handlers).map fun handler =>
        (event, handler) }

/-- The next step of `processLoop`. -/
def processLoop (bp : BatchProcessor Event) : BatchProcessor Event :=
  match bp.calls with
  | (event, handler) :: rest =>
      { bp.handle event handler with calls := rest }
  | [] => if bp.done then bp else bp.fill

/-- The next step of a producer or of the batch processor. -/
def step (bp : BatchProcessor Event) : Label → BatchProcessor Event
  | .produce producer =>
      { bp with system := bp.system.produce payload producer }
  | .process => bp.processLoop
  | .stop => { bp with done := true }

/-- The events of the first sequence numbers. -/
def firstEvents (count : Nat) : List Event :=
  (List.range count).map fun sequence => payload sequence

/-- Each handler was called with the first published events in order. -/
def InOrder (bp : BatchProcessor Event) : Prop :=
  ∀ handler < bp.handlers, ∃ count,
    bp.delivered handler = firstEvents payload count ∧
      ∀ sequence < count, (sequence : Int) ∈ bp.system.published

/--
The ring buffer has a single slot, the event which the handler should get
next is published, and no later one was written.
-/
def SingleSlot (bp : BatchProcessor Event) (handler : Nat) : Prop :=
  bp.system.ring.capacity = 1 ∧
    ((bp.delivered handler).length : Int) ∈ bp.system.published ∧
      bp.system.writes.head? = some ((bp.delivered handler).length : Int)

instance (bp : BatchProcessor Event) (handler : Nat) :
    Decidable (bp.SingleSlot handler) :=
  inferInstanceAs (Decidable (_ ∧ _ ∧ _))

/-- The step does not call a handler, or the single slot is right. -/
def CallsSingleSlot (bp : BatchProcessor Event) : Label → Prop
  | .process => ∀ call ∈ bp.calls.head?, bp.SingleSlot call.2
  | .produce _ => True
  | .stop => True

instance (bp : BatchProcessor Event) :
    ∀ label, Decidable (bp.CallsSingleSlot label)
  | .process => inferInstanceAs (Decidable (∀ call ∈ bp.calls.head?, _))
  | .produce _ => inferInstanceAs (Decidable True)
  | .stop => inferInstanceAs (Decidable True)

/-- What holds while no handler was called. -/
structure Uncalled (bp : BatchProcessor Event) : Prop where
  undelivered : ∀ handler, bp.delivered handler = []
  first :
    bp.calls = [] ∧ (bp.sequence = 0 ∨ bp.handlers = 0) ∨
      ∃ handler rest, bp.calls = (bp.system.ring.index 1, handler) :: rest

/-- The invariant of runs whose handler calls all find the single slot. -/
structure Sound (zero : Event) (bp : BatchProcessor Event) : Prop where
  system : bp.system.Sound payload zero
  inOrder : bp.InOrder payload
  addresses :
    ∀ call ∈ bp.calls,
      call.2 < bp.handlers ∧ ∃ place, call.1 = bp.system.ring.index place
  single : bp.Uncalled ∨ bp.system.ring.capacity = 1

variable {payload} {zero : Event} {bp : BatchProcessor Event}

@[simp]
theorem length_firstEvents (count : Nat) :
    (firstEvents payload count).length = count := by
  simp [firstEvents]

theorem firstEvents_succ (count : Nat) :
    firstEvents payload (count + 1) =
      firstEvents payload count ++ [payload count] := by
  simp [firstEvents, List.range_succ]

/-- A call reads the event which was written last into its slot. -/
theorem Sound.deref (sound : bp.Sound payload zero) (place : Int) :
    bp.system.ring.deref (bp.system.ring.index place) =
      some ((bp.system.lastWrite place).elim zero payload) := by
  rw [RingBuffer.deref_index, sound.system.events]

theorem Sound.produce (sound : bp.Sound payload zero) (producer : Nat) :
    (bp.step payload (.produce producer)).Sound payload zero := by
  have effect := System.produce_effect payload bp.system producer
  refine ⟨sound.system.step effect, ?_, ?_, ?_⟩
  · intro handler added
    obtain ⟨count, delivered, published⟩ := sound.inOrder handler added
    exact ⟨count, delivered, fun sequence before =>
      effect.published (published sequence before)⟩
  · intro call member
    obtain ⟨added, place, address⟩ := sound.addresses call member
    exact ⟨added, place, address.trans (effect.index place).symm⟩
  · rcases sound.single with uncalled | single
    · refine Or.inl ⟨uncalled.undelivered, ?_⟩
      rcases uncalled.first with empty | ⟨handler, rest, calls⟩
      · exact Or.inl empty
      · refine Or.inr ⟨handler, rest, calls.trans ?_⟩
        rw [step, effect.index]
    · exact Or.inr (effect.capacity.trans single)

/-- The first batch begins with the slot of sequence number one. -/
theorem Uncalled.fill (uncalled : bp.Uncalled) (empty : bp.calls = []) :
    bp.fill.Uncalled := by
  refine ⟨uncalled.undelivered, ?_⟩
  have fresh : bp.sequence = 0 ∨ bp.handlers = 0 := by
    rcases uncalled.first with ⟨-, fresh⟩ | ⟨handler, rest, calls⟩
    · exact fresh
    · rw [empty] at calls
      cases calls
  have one : visited 0 0 1 = 1 := rfl
  cases handlers : bp.handlers with
  | zero =>
      refine Or.inl ⟨?_, Or.inr handlers⟩
      simp [BatchProcessor.fill, handlers]
  | succ more =>
      have atZero : bp.sequence = 0 := by
        rcases fresh with atZero | none
        · exact atZero
        · rw [none] at handlers
          cases handlers
      cases size : bp.batchSize with
      | zero =>
          refine Or.inl ⟨?_, Or.inl ?_⟩ <;>
            simp [BatchProcessor.fill, fillBatch, size, atZero]
      | succ left =>
          refine Or.inr ⟨0, ?_⟩
          simp [BatchProcessor.fill, fillBatch_eq, size, handlers, atZero,
            List.range_succ_eq_map, one]

theorem Sound.fill (sound : bp.Sound payload zero) (empty : bp.calls = []) :
    bp.fill.Sound payload zero where
  system := sound.system
  inOrder := sound.inOrder
  addresses := by
    rintro ⟨address, handler⟩ member
    simp only [BatchProcessor.fill, List.mem_flatMap, List.mem_map,
      List.mem_range, Prod.mk.injEq] at member
    obtain ⟨found, inBatch, number, added, rfl, rfl⟩ := member
    exact ⟨added, index_of_mem_fillBatch inBatch⟩
  single := sound.single.imp_left fun uncalled => uncalled.fill empty

/-- The loop changes neither the ring buffer nor the producers. -/
theorem system_processLoop (bp : BatchProcessor Event) :
    bp.processLoop.system = bp.system := by
  rw [BatchProcessor.processLoop]
  split
  · rfl
  · split <;> rfl

theorem handlers_processLoop (bp : BatchProcessor Event) :
    bp.processLoop.handlers = bp.handlers := by
  rw [BatchProcessor.processLoop]
  split
  · rfl
  · split <;> rfl

section Calls

variable
    {event : RingBuffer.EventPtr}
    {handler : Nat}
    {rest : List (RingBuffer.EventPtr × Nat)}

/-- A handler gets the event which was written last into some slot. -/
theorem Sound.delivered_processLoop (sound : bp.Sound payload zero)
    (calls : bp.calls = (event, handler) :: rest) :
    ∃ place,
      event = bp.system.ring.index place ∧
        bp.processLoop.delivered =
          Function.update bp.delivered handler
            (bp.delivered handler ++
              [(bp.system.lastWrite place).elim zero payload]) := by
  have member : (event, handler) ∈ bp.calls := by simp [calls]
  obtain ⟨-, place, rfl⟩ := sound.addresses _ member
  exact ⟨place, rfl, by simp [processLoop, calls, handle, sound.deref]⟩

/-- A call which finds the single slot right keeps the order. -/
theorem Sound.processLoop (sound : bp.Sound payload zero)
    (calls : bp.calls = (event, handler) :: rest)
    (singleSlot : bp.SingleSlot handler) :
    bp.processLoop.Sound payload zero := by
  obtain ⟨single, published, isLatest⟩ := singleSlot
  obtain ⟨place, -, delivered⟩ := sound.delivered_processLoop calls
  have remaining : bp.processLoop.calls = rest := by
    simp [BatchProcessor.processLoop, calls]
  refine ⟨?_, ?_, ?_, ?_⟩
  · rw [system_processLoop]
    exact sound.system
  · intro other added
    rw [handlers_processLoop] at added
    obtain ⟨count, before, allPublished⟩ := sound.inOrder other added
    rw [system_processLoop, delivered]
    by_cases same : other = handler
    · subst other
      rw [before, length_firstEvents] at published isLatest
      refine ⟨count + 1, ?_, ?_⟩
      · rw [Function.update_self, before, firstEvents_succ,
          System.lastWrite_eq_head? single, isLatest]
        rfl
      · intro sequence less
        rcases Nat.lt_succ_iff_lt_or_eq.mp less with earlier | rfl
        · exact allPublished sequence earlier
        · exact published
    · rw [Function.update_of_ne same]
      exact ⟨count, before, allPublished⟩
  · intro call member
    rw [remaining] at member
    rw [system_processLoop, handlers_processLoop]
    exact sound.addresses call (calls ▸ List.mem_cons_of_mem _ member)
  · rw [system_processLoop]
    exact Or.inr single

/-- Events which are told apart show which slot a call has read. -/
theorem Sound.singleSlot (sound : bp.Sound payload zero)
    (distinct : Function.Injective payload)
    (nonzero : ∀ sequence, payload sequence ≠ zero)
    (calls : bp.calls = (event, handler) :: rest)
    (inOrder : bp.processLoop.InOrder payload) :
    bp.SingleSlot handler := by
  obtain ⟨place, address, delivered⟩ := sound.delivered_processLoop calls
  have member : (event, handler) ∈ bp.calls := by simp [calls]
  have added := (sound.addresses _ member).1
  obtain ⟨count, before, -⟩ := sound.inOrder handler added
  obtain ⟨countAfter, after, published⟩ :=
    inOrder handler (bp.handlers_processLoop ▸ added)
  rw [delivered, Function.update_self, before] at after
  have more : countAfter = count + 1 := by
    have lengths := congrArg List.length after
    simpa using lengths.symm
  subst more
  rw [firstEvents_succ] at after
  have same := List.append_cancel_left after
  have isLast : bp.system.lastWrite place = some (count : Int) := by
    cases last : bp.system.lastWrite place with
    | none =>
        rw [last] at same
        exact absurd (List.singleton_inj.mp same).symm (nonzero _)
    | some sequence =>
        rw [last] at same
        exact congrArg some (distinct (List.singleton_inj.mp same))
  have single : bp.system.ring.capacity = 1 := by
    rcases sound.single with uncalled | single
    · have none : count = 0 := by
        rw [uncalled.undelivered handler] at before
        simpa using (congrArg List.length before).symm
      subst none
      rcases uncalled.first with ⟨empty, -⟩ | ⟨first, others, firstCalls⟩
      · rw [empty] at calls
        cases calls
      · rw [firstCalls] at calls
        cases calls
        have shared :
            bp.system.ring.index 0 = bp.system.ring.index 1 :=
          (System.index_of_lastWrite isLast).trans address.symm
        exact bp.system.ring.capacity_of_index_eq shared
    · exact single
  rw [system_processLoop] at published
  refine ⟨single, ?_, ?_⟩ <;> rw [before, length_firstEvents]
  · exact published count (Nat.lt_succ_self count)
  · rw [← System.lastWrite_eq_head? single place, isLast]

end Calls

theorem Sound.initial {size : Int64} (fits : size.toInt ≤ 2 ^ 62)
    (handlers batchSize : Nat) :
    (start (System.initial zero fits) handlers batchSize).Sound
      payload zero where
  system := .initial fits
  inOrder := fun _ _ =>
    ⟨0, rfl, fun _ before => absurd before (Nat.not_lt_zero _)⟩
  addresses := fun _ member => nomatch member
  single := Or.inl ⟨fun _ => rfl, Or.inl ⟨rfl, Or.inl rfl⟩⟩

theorem Sound.step (sound : bp.Sound payload zero) {label : Label}
    (singleSlot : bp.CallsSingleSlot label) :
    (bp.step payload label).Sound payload zero := by
  cases label with
  | produce producer => exact sound.produce producer
  | process =>
      cases calls : bp.calls with
      | cons call rest =>
          have isHead : call ∈ bp.calls.head? := by simp [calls]
          exact sound.processLoop calls (singleSlot call isHead)
      | nil =>
          simp only [BatchProcessor.step, BatchProcessor.processLoop, calls]
          split
          · exact sound
          · exact sound.fill calls
  | stop =>
      have single :
          (bp.step payload .stop).Uncalled ∨ bp.system.ring.capacity = 1 :=
        sound.single.imp_left fun uncalled =>
          ⟨uncalled.undelivered, uncalled.first⟩
      exact ⟨sound.system, sound.inOrder, sound.addresses, single⟩

/--
The handlers get the published events in order in every run whose handler
calls all find a buffer with a single slot and the right event in it.  Events
which are told apart from each other and from the zero value show that there
are no other such runs.
-/
theorem delivery_in_order (payload : Int → Event) (zero : Event)
    {size : Int64} (fits : size.toInt ≤ 2 ^ 62) (handlers batchSize : Nat)
    (schedule : List Label) :
    (LabelledRun.Along (step payload) CallsSingleSlot
        (start (System.initial zero fits) handlers batchSize) schedule →
      LabelledRun.Always (step payload) (InOrder payload)
        (start (System.initial zero fits) handlers batchSize) schedule) ∧
    (Function.Injective payload → (∀ sequence, payload sequence ≠ zero) →
      LabelledRun.Always (step payload) (InOrder payload)
        (start (System.initial zero fits) handlers batchSize) schedule →
      LabelledRun.Along (step payload) CallsSingleSlot
        (start (System.initial zero fits) handlers batchSize) schedule) := by
  have enough :
      ∀ bp : BatchProcessor Event,
        bp.Sound payload zero → bp.InOrder payload :=
    fun _ sound => sound.inOrder
  have preserved :
      ∀ (bp : BatchProcessor Event) label, bp.Sound payload zero →
        bp.CallsSingleSlot label → (bp.step payload label).Sound payload zero :=
    fun _ _ sound singleSlot => sound.step singleSlot
  have initially :
      (start (System.initial zero fits) handlers batchSize).Sound
        payload zero :=
    .initial fits handlers batchSize
  refine ⟨LabelledRun.always_of_along enough preserved initially, ?_⟩
  intro distinct nonzero
  have broken :
      ∀ (bp : BatchProcessor Event) label, bp.Sound payload zero →
        (bp.step payload label).InOrder payload →
          bp.CallsSingleSlot label := by
    intro bp label sound inOrder
    cases label with
    | process =>
        rintro ⟨event, handler⟩ isHead
        obtain ⟨rest, calls⟩ := List.head?_eq_some_iff.mp isHead
        exact sound.singleSlot distinct nonzero calls inOrder
    | produce producer => trivial
    | stop => trivial
  exact
    (LabelledRun.always_iff_along enough preserved broken schedule
      initially).mp

/-- A run with one slot: event 0 is published and then passed on. -/
def oneSlotSchedule : List Label :=
  List.replicate 6 (.produce 0) ++ [.process, .process]

theorem delivery_in_order_sample :
    LabelledRun.Always (step some) (InOrder some)
        (start (System.initial none oneFits) 1 1) oneSlotSchedule ∧
      LabelledRun.Along (step some) CallsSingleSlot
        (start (System.initial none oneFits) 1 1) oneSlotSchedule := by
  obtain ⟨ofAlong, ofAlways⟩ :=
    delivery_in_order some none oneFits 1 1 oneSlotSchedule
  have always := ofAlong (by decide)
  exact
    ⟨always,
      ofAlways (Option.some_injective Int) Option.some_ne_none always⟩

/--
With two slots, event 0 is published and the handler is called with the event
of the other slot, which nobody wrote.
-/
theorem delivery_in_order_fails :
    ¬ ∀ (payload : Int → Option Int) (zero : Option Int) (size : Int64)
        (fits : size.toInt ≤ 2 ^ 62) (handlers batchSize : Nat),
        1 ≤ batchSize → ∀ schedule : List Label,
          (LabelledRun.run (step payload)
            (start (System.initial zero fits) handlers batchSize)
            schedule).InOrder payload := by
  intro inOrder
  obtain ⟨count, first, -⟩ :=
    inOrder some none 2 twoFits 1 1 (Nat.le_refl 1) oneSlotSchedule 0
      (by decide)
  have delivered :
      (LabelledRun.run (step some)
        (start (System.initial none twoFits) 1 1)
        oneSlotSchedule).delivered 0 = [none] := by
    decide
  rw [delivered] at first
  have one : count = 1 := by simpa using (congrArg List.length first).symm
  subst one
  exact absurd first (by decide)

end BatchProcessor

end AeroRisk.Disruptor
