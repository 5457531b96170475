import AeroRisk.Disruptor.Producers

/-!
# Whether a call of `Next` can still return

`Next` claims its number on the cursor and then spins until the sequence
number of its slot is smaller.  Between the two a producer can be overtaken in
its slot by one which claimed a number of a later lap.  This module finds the
states in which a call of `Next` can never return, and the runs which reach
none of them.
-/

namespace AeroRisk.Disruptor

open AeroRisk.Library

namespace Phase

/-- The number which was claimed and whose slot CAS did not yet succeed. -/
def pending : Phase → Option Int
  | .claimed next => some next
  | .saw next _ => some next
  | _ => none

theorem held_of_pending {phase : Phase} {waiting : Int}
    (pending : phase.pending = some waiting) : phase.held = some waiting := by
  cases phase with
  | claimed next => exact pending
  | saw next seq => exact pending
  | _ => cases pending

/-- A claimed number is waiting for its slot until `Next` returned. -/
theorem pending_iff (phase : Phase) (waiting : Int) :
    phase.pending = some waiting ↔
      phase.held = some waiting ∧ phase.won = none := by
  cases phase <;> simp [pending, held, won]

theorem pending_congr {first second : Phase}
    (sameHeld : first.held = second.held)
    (sameWon : first.won = second.won) : first.pending = second.pending := by
  ext waiting
  rw [pending_iff, pending_iff, sameHeld, sameWon]

end Phase

namespace System

variable {Event : Type}

/-- Every producer which waits for its slot finds a smaller number there. -/
def FindsSmaller (system : System Event) : Prop :=
  ∀ producer waiting,
    (system.phase producer).pending = some waiting →
      (system.ring.slot waiting).sequence < waiting

/-- In some continuation of the run a call of `Next` of the producer returns. -/
def CanReturn (payload : Int → Event) (system : System Event)
    (producer : Nat) : Prop :=
  ∃ later next,
    (LabelledRun.run (produce payload) system later).phase producer =
      .returned next

/-- No slot CAS is hopeless and no call of `Next` is stuck for ever. -/
structure NoWedge (payload : Int → Event) (system : System Event) : Prop where
  findsSmaller : system.FindsSmaller
  canReturn : ∀ producer, system.CanReturn payload producer

/--
The step of the producer is a successful slot CAS, and another producer waits
for the same slot with a smaller number.
-/
def Overtakes (system : System Event) (producer : Nat) : Prop :=
  ∃ next,
    system.phase producer = .saw next (system.ring.slot next).sequence ∧
      ∃ other waiting,
        (system.phase other).pending = some waiting ∧
          system.ring.index waiting = system.ring.index next ∧
            waiting < next

/--
A number was overtaken for good: its slot carries a number which is not
smaller, and no producer is going to store a smaller one.
-/
structure Wedged (system : System Event) (waiting : Int) : Prop where
  overtaken : waiting ≤ (system.ring.slot waiting).sequence
  noSmaller :
    ∀ other next,
      (system.phase other).won = some next →
        system.ring.index next = system.ring.index waiting →
          waiting ≤ next

variable {payload : Int → Event} {zero : Event}
  {system after : System Event} {producer : Nat}

/-! ## A producer which runs alone -/

theorem CanReturn.of_step {first : Nat}
    (canReturn : (system.produce payload first).CanReturn payload producer) :
    system.CanReturn payload producer := by
  obtain ⟨later, next, returned⟩ := canReturn
  exact ⟨first :: later, next, returned⟩

/-- The slot is unchanged since it was loaded: the CAS succeeds. -/
theorem canReturn_of_fresh {next : Int}
    (saw :
      system.phase producer = .saw next (system.ring.slot next).sequence) :
    system.CanReturn payload producer :=
  ⟨[producer], next, by simp [produce, saw, goTo]⟩

theorem canReturn_of_claimed {next : Int}
    (claimed : system.phase producer = .claimed next)
    (smaller : (system.ring.slot next).sequence < next) :
    system.CanReturn payload producer := by
  have step :
      system.produce payload producer =
        system.goTo producer (.saw next (system.ring.slot next).sequence) := by
    simp [produce, claimed, smaller]
  have fresh :
      (system.produce payload producer).phase producer =
        .saw next
          ((system.produce payload producer).ring.slot next).sequence := by
    rw [step]
    simp [goTo]
  exact .of_step (canReturn_of_fresh fresh)

/-- A producer returns when its slot carries a smaller number. -/
theorem canReturn_of_smaller {waiting : Int}
    (pending : (system.phase producer).pending = some waiting)
    (smaller : (system.ring.slot waiting).sequence < waiting) :
    system.CanReturn payload producer := by
  cases phase : system.phase producer with
  | claimed next =>
      rw [phase] at pending
      cases pending
      exact canReturn_of_claimed phase smaller
  | saw next seq =>
      rw [phase] at pending
      cases pending
      by_cases fresh : (system.ring.slot waiting).sequence = seq
      · rw [← fresh] at phase
        exact canReturn_of_fresh phase
      · have step :
            system.produce payload producer =
              system.goTo producer (.claimed waiting) := by
          simp [produce, phase, fresh]
        have again :
            (system.produce payload producer).CanReturn payload producer := by
          rw [step]
          exact canReturn_of_claimed (by simp [goTo]) smaller
        exact again.of_step
  | _ =>
      rw [phase] at pending
      cases pending

/-- A new claim finds no later number in its slot. -/
theorem Sound.canReturn_of_loaded (sound : system.Sound payload zero)
    (loaded : system.phase producer = .loaded system.ring.cursor) :
    system.CanReturn payload producer := by
  have smaller :
      (system.ring.slot (system.ring.cursor + 1)).sequence <
        system.ring.cursor + 1 :=
    Int.lt_add_one_of_le (sound.slot_le_cursor _)
  have step :
      system.produce payload producer =
        { system.goTo producer (.claimed (system.ring.cursor + 1)) with
          ring := system.ring.setCursor (system.ring.cursor + 1)
          claims :=
            system.claims ++ [(producer, system.ring.cursor + 1)] } := by
    simp [produce, loaded]
  have claimed :
      (system.produce payload producer).CanReturn payload producer := by
    rw [step]
    refine canReturn_of_claimed ?_ smaller
    simp [goTo]
  exact claimed.of_step

theorem Sound.canReturn_of_idle (sound : system.Sound payload zero)
    (idle : system.phase producer = .idle) :
    system.CanReturn payload producer := by
  have step :
      system.produce payload producer =
        system.goTo producer (.loaded system.ring.cursor) := by
    simp [produce, idle]
  have stillSound := sound.step (produce_effect payload system producer)
  refine .of_step (stillSound.canReturn_of_loaded ?_)
  rw [step]
  simp [goTo]

/-- Only the wait for a slot can keep a call of `Next` from returning. -/
theorem Sound.canReturn_of_free (sound : system.Sound payload zero)
    (free :
      ∀ waiting,
        (system.phase producer).pending = some waiting →
          (system.ring.slot waiting).sequence < waiting) :
    system.CanReturn payload producer := by
  have stillSound := sound.step (produce_effect payload system producer)
  cases phase : system.phase producer with
  | idle => exact sound.canReturn_of_idle phase
  | loaded current =>
      by_cases same : system.ring.cursor = current
      · rw [← same] at phase
        exact sound.canReturn_of_loaded phase
      · refine .of_step (stillSound.canReturn_of_idle ?_)
        simp [produce, phase, same, goTo]
  | claimed next =>
      rw [phase] at free
      exact canReturn_of_claimed phase (free next rfl)
  | saw next seq =>
      have pending : (system.phase producer).pending = some next := by
        rw [phase]
        rfl
      exact canReturn_of_smaller pending (free next pending)
  | returned next => exact ⟨[], next, phase⟩
  | written next =>
      refine .of_step (stillSound.canReturn_of_idle ?_)
      simp [produce, phase, goTo]

theorem Sound.noWedge (sound : system.Sound payload zero)
    (findsSmaller : system.FindsSmaller) : system.NoWedge payload where
  findsSmaller := findsSmaller
  canReturn := fun producer =>
    sound.canReturn_of_free (findsSmaller producer)

/-! ## Runs in which the slots are taken in turn -/

/-- Every number taken in the slot of a waiting number is smaller. -/
structure InTurn (payload : Int → Event) (zero : Event)
    (system : System Event) : Prop where
  sound : system.Sound payload zero
  smaller :
    ∀ producer waiting,
      (system.phase producer).pending = some waiting →
        ∀ number, system.Taken number →
          system.ring.index number = system.ring.index waiting →
            number < waiting

/-- A number which a step leaves waiting was waiting or is the new cursor. -/
theorem Effect.pending (effect : Effect payload system producer after)
    {other : Nat} {waiting : Int}
    (pending : (after.phase other).pending = some waiting) :
    (system.phase other).pending = some waiting ∨
      waiting = system.ring.cursor + 1 := by
  by_cases same : other = producer
  · subst other
    cases effect with
    | quiet phase sameHeld sameWon sameStored =>
        refine Or.inl ?_
        rw [← Phase.pending_congr sameHeld sameWon]
        simpa [goTo] using pending
    | claim loaded =>
        refine Or.inr ?_
        simpa [goTo, Phase.pending, eq_comm] using pending
    | win next saw => simp [goTo, Phase.pending] at pending
    | write next returned => simp [goTo, Phase.pending] at pending
    | publish next written => simp [goTo, Phase.pending] at pending
  · rw [effect.phase_of_ne same] at pending
    exact Or.inl pending

/-- A number which is waiting for its slot is not taken. -/
theorem Sound.untaken_of_pending (sound : system.Sound payload zero)
    {waiting : Int}
    (pending : (system.phase producer).pending = some waiting) :
    ¬ system.Taken waiting := by
  obtain ⟨held, notWon⟩ := (Phase.pending_iff _ _).mp pending
  rintro (member | ⟨other, won⟩)
  · exact sound.exact.retired_unheld waiting member producer held
  · have same : producer = other :=
      sound.exact.held_once producer other waiting held
        (Phase.held_of_won won)
    rw [same, won] at notWon
    cases notWon

namespace InTurn

theorem initial {size : Int64} (fits : size.toInt ≤ 2 ^ 62) :
    (System.initial zero fits).InTurn payload zero where
  sound := .initial fits
  smaller := fun _ _ pending => nomatch pending

theorem findsSmaller (inTurn : system.InTurn payload zero) :
    system.FindsSmaller := by
  intro producer waiting pending
  rcases Int.lt_or_le (system.ring.slot waiting).sequence 0 with
    unset | nonneg
  · have range :=
      inTurn.sound.exact.held_range producer waiting
        (Phase.held_of_pending pending)
    omega
  · exact
      inTurn.smaller producer waiting pending _
        (inTurn.sound.owned waiting nonneg)
        (inTurn.sound.home waiting nonneg)

theorem step (inTurn : system.InTurn payload zero)
    (effect : Effect payload system producer after)
    (noOvertaking : ¬ system.Overtakes producer) :
    after.InTurn payload zero where
  sound := inTurn.sound.step effect
  smaller := by
    intro other waiting pending number taken sameIndex
    have untaken :=
      (inTurn.sound.step effect).untaken_of_pending pending
    rw [effect.index, effect.index] at sameIndex
    rcases effect.pending pending with waited | isNew
    · rcases effect.newlyTaken taken with before | ⟨saw, -⟩
      · exact inTurn.smaller other waiting waited number before sameIndex
      · by_contra notSmaller
        rcases Int.lt_or_eq_of_le (Int.not_lt.mp notSmaller) with
          less | rfl
        · exact
            noOvertaking
              ⟨number, saw, other, waiting, waited, sameIndex.symm, less⟩
        · exact untaken taken
    · have claimed : number ≤ system.ring.cursor := by
        rcases effect.newlyTaken taken with before | ⟨saw, -⟩
        · exact inTurn.sound.le_cursor_of_taken before
        · exact
            (inTurn.sound.exact.held_range producer number
              (held_of_phase saw)).2
      omega

end InTurn

/-- The slot of an overtaken number carries the number which overtook it. -/
theorem Overtakes.not_findsSmaller
    (overtakes : system.Overtakes producer) :
    ¬ (system.produce payload producer).FindsSmaller := by
  obtain ⟨next, saw, other, waiting, pending, sameIndex, less⟩ := overtakes
  intro findsSmaller
  have isOther : other ≠ producer := by
    rintro rfl
    rw [saw] at pending
    cases pending
    exact absurd less (Int.lt_irrefl _)
  have effect := produce_effect payload system producer
  have stillPending :
      ((system.produce payload producer).phase other).pending =
        some waiting := by
    rw [effect.phase_of_ne isOther]
    exact pending
  have found := findsSmaller other waiting stillPending
  simp only [produce, saw, if_true, RingBuffer.sequence_setSequence,
    sameIndex] at found
  omega

/--
No call of `Next` is wedged in any state of exactly the runs in which no slot
CAS succeeds while a producer with a smaller number waits for that slot.
-/
theorem no_wedge (payload : Int → Event) (zero : Event)
    {size : Int64} (fits : size.toInt ≤ 2 ^ 62) (schedule : List Nat) :
    LabelledRun.Always (produce payload) (NoWedge payload)
        (initial zero fits) schedule ↔
      LabelledRun.Along (produce payload)
        (fun system producer => ¬ system.Overtakes producer)
        (initial zero fits) schedule := by
  have enough :
      ∀ system : System Event, system.InTurn payload zero →
        system.NoWedge payload :=
    fun _ inTurn => inTurn.sound.noWedge inTurn.findsSmaller
  have preserved :
      ∀ (system : System Event) producer,
        system.InTurn payload zero → ¬ system.Overtakes producer →
          (system.produce payload producer).InTurn payload zero :=
    fun system producer inTurn noOvertaking =>
      inTurn.step (produce_effect payload system producer) noOvertaking
  have broken :
      ∀ (system : System Event) producer,
        system.InTurn payload zero →
          (system.produce payload producer).NoWedge payload →
            ¬ system.Overtakes producer :=
    fun _ _ _ noWedge overtakes =>
      overtakes.not_findsSmaller noWedge.findsSmaller
  exact
    LabelledRun.always_iff_along enough preserved broken schedule
      (.initial fits)

/-- Producer 1 claims one lap after producer 0 and wins the only slot. -/
def overtaking : List Nat :=
  [0, 0, 1, 1, 1, 1]

theorem no_wedge_sample :
    LabelledRun.Always (produce id) (NoWedge id)
        (initial 0 oneFits) overtaking ↔
      LabelledRun.Along (produce id)
        (fun system producer => ¬ system.Overtakes producer)
        (initial 0 oneFits) overtaking :=
  no_wedge id 0 oneFits overtaking

/-! ## Wedged for ever -/

/-- A number loaded from a slot was compared with the claimed one. -/
def Compared (system : System Event) : Prop :=
  ∀ producer next seq, system.phase producer = .saw next seq → seq < next

theorem Compared.produce (compared : system.Compared) (producer : Nat) :
    (system.produce payload producer).Compared := by
  intro other next seq saw
  by_cases same : other = producer
  · subst other
    cases phase : system.phase producer with
    | claimed number =>
        rw [System.produce, phase] at saw
        by_cases smaller : (system.ring.slot number).sequence < number
        · simp only [smaller, if_true, goTo, Function.update_self,
            Phase.saw.injEq] at saw
          omega
        · simp only [smaller, if_false, phase] at saw
          cases saw
    | loaded current =>
        simp only [System.produce, phase] at saw
        split at saw <;> simp [goTo] at saw
    | saw number loaded =>
        simp only [System.produce, phase] at saw
        split at saw <;> simp [goTo] at saw
    | _ => simp [System.produce, phase, goTo] at saw
  · rw [(produce_effect payload system producer).phase_of_ne same] at saw
    exact compared other next seq saw

/-- The CAS on the slot of a wedged number succeeds for later numbers only. -/
theorem Wedged.lt_of_saw {waiting next : Int}
    (wedged : system.Wedged waiting) (compared : system.Compared)
    (saw :
      system.phase producer = .saw next (system.ring.slot next).sequence)
    (sameIndex : system.ring.index next = system.ring.index waiting) :
    waiting < next := by
  have smaller := compared producer next _ saw
  rw [system.ring.slot_congr _ _ sameIndex] at smaller
  exact Int.lt_of_le_of_lt wedged.overtaken smaller

/-- A wedged number stays so, whatever the producers do. -/
theorem Wedged.step {waiting : Int} (wedged : system.Wedged waiting)
    (compared : system.Compared)
    (effect : Effect payload system producer after) :
    after.Wedged waiting where
  overtaken := by
    have before := wedged.overtaken
    cases effect with
    | quiet phase sameHeld sameWon sameStored => exact before
    | claim loaded => exact before
    | win next saw =>
        rw [RingBuffer.sequence_setSequence]
        split
        · next here =>
            exact Int.le_of_lt (wedged.lt_of_saw compared saw here.symm)
        · exact before
    | write next returned =>
        rw [RingBuffer.sequence_setEvent]
        exact before
    | publish next written =>
        rw [RingBuffer.sequence_setSequence]
        split
        · next here =>
            have won : (system.phase producer).won = some next := by
              rw [written]
              rfl
            exact wedged.noSmaller producer next won here.symm
        · exact before
  noSmaller := by
    intro other next won sameIndex
    rw [effect.index, effect.index] at sameIndex
    by_cases same : other = producer
    · subst other
      have before := wedged.noSmaller producer next
      cases effect with
      | quiet phase sameHeld sameWon sameStored =>
          rw [← sameWon] at before
          exact before (by simpa [goTo] using won) sameIndex
      | claim loaded => simp [goTo, Phase.won] at won
      | win number saw =>
          have isNumber : number = next := by simpa [goTo] using won
          subst isNumber
          exact Int.le_of_lt (wedged.lt_of_saw compared saw sameIndex)
      | write number returned =>
          rw [returned] at before
          exact before (by simpa [goTo] using won) sameIndex
      | publish number written => simp [goTo, Phase.won] at won
    · rw [effect.phase_of_ne same] at won
      exact wedged.noSmaller other next won sameIndex

/-- A producer with a wedged number keeps waiting. -/
theorem Wedged.pending {waiting : Int} (wedged : system.Wedged waiting)
    (compared : system.Compared)
    (effect : Effect payload system producer after) {other : Nat}
    (pending : (system.phase other).pending = some waiting) :
    (after.phase other).pending = some waiting := by
  by_cases same : other = producer
  · subst other
    cases effect with
    | quiet phase sameHeld sameWon sameStored =>
        rw [← Phase.pending_congr sameHeld sameWon] at pending
        simpa [goTo] using pending
    | claim loaded =>
        rw [loaded] at pending
        cases pending
    | win next saw =>
        have isNext : next = waiting := by
          rw [saw] at pending
          exact Option.some.inj pending
        subst isNext
        exact absurd (wedged.lt_of_saw compared saw rfl) (Int.lt_irrefl _)
    | write next returned =>
        rw [returned] at pending
        cases pending
    | publish next written =>
        rw [written] at pending
        cases pending
  · rw [effect.phase_of_ne same]
    exact pending

/-- The state in which a producer waits for good. -/
structure Stuck (producer : Nat) (waiting : Int) (system : System Event) :
    Prop where
  compared : system.Compared
  wedged : system.Wedged waiting
  pending : (system.phase producer).pending = some waiting

theorem Stuck.not_canReturn {waiting : Int}
    (stuck : system.Stuck producer waiting) :
    ¬ system.CanReturn payload producer := by
  rintro ⟨later, next, returned⟩
  have preserved :
      ∀ (state : System Event) (other : Nat),
        state.Stuck producer waiting →
          (state.produce payload other).Stuck producer waiting := by
    intro state other before
    have effect := produce_effect payload state other
    exact
      { compared := before.compared.produce other
        wedged := before.wedged.step before.compared effect
        pending := before.wedged.pending before.compared effect before.pending }
  have still :=
    (LabelledRun.run_invariant_of_every preserved later stuck).pending
  rw [returned] at still
  cases still

theorem compared_run (schedule : List Nat) (compared : system.Compared) :
    (LabelledRun.run (produce payload) system schedule).Compared :=
  LabelledRun.run_invariant_of_every
    (fun _ other before => before.produce other) schedule compared

/-- `Publish` of an older number resets the slot for a waiting one. -/
theorem canReturn_of_written {waiting next : Int} {other : Nat}
    (pending : (system.phase producer).pending = some waiting)
    (written : system.phase other = .written next)
    (sameIndex : system.ring.index next = system.ring.index waiting)
    (older : next < waiting) :
    system.CanReturn payload producer := by
  have isOther : producer ≠ other := by
    rintro rfl
    rw [written] at pending
    cases pending
  have stillPending :
      ((system.produce payload other).phase producer).pending =
        some waiting := by
    rw [(produce_effect payload system other).phase_of_ne isOther]
    exact pending
  refine .of_step (canReturn_of_smaller stillPending ?_)
  simpa [produce, written, RingBuffer.sequence_setSequence, sameIndex]
    using older

/-- A number which was won will be published. -/
theorem canReturn_of_older {waiting next : Int} {other : Nat}
    (pending : (system.phase producer).pending = some waiting)
    (won : (system.phase other).won = some next)
    (sameIndex : system.ring.index next = system.ring.index waiting)
    (older : next < waiting) :
    system.CanReturn payload producer := by
  cases phase : system.phase other with
  | written number =>
      rw [phase] at won
      cases won
      exact canReturn_of_written pending phase sameIndex older
  | returned number =>
      rw [phase] at won
      cases won
      have effect := produce_effect payload system other
      have isOther : producer ≠ other := by
        rintro rfl
        rw [phase] at pending
        cases pending
      have written :
          (system.produce payload other).phase other = .written next := by
        simp [produce, phase, goTo]
      refine .of_step (canReturn_of_written ?_ written ?_ older)
      · rw [effect.phase_of_ne isOther]
        exact pending
      · rw [effect.index, effect.index]
        exact sameIndex
  | _ =>
      rw [phase] at won
      cases won

/-- In a reachable state a wait is hopeless exactly when it is wedged. -/
theorem Compared.canReturn_iff (compared : system.Compared) {waiting : Int}
    (pending : (system.phase producer).pending = some waiting) :
    system.CanReturn payload producer ↔ ¬ system.Wedged waiting := by
  constructor
  · intro canReturn wedged
    exact Stuck.not_canReturn ⟨compared, wedged, pending⟩ canReturn
  · intro notWedged
    by_cases smaller : (system.ring.slot waiting).sequence < waiting
    · exact canReturn_of_smaller pending smaller
    · by_contra noReturn
      apply notWedged
      refine ⟨Int.not_lt.mp smaller, ?_⟩
      intro other next won sameIndex
      by_contra older
      exact
        noReturn
          (canReturn_of_older pending won sameIndex
            (Int.not_le.mp older))

/--
In every state of every run the calls of `Next` which can never return are
those which wait for a wedged number.
-/
theorem cannot_return_iff (payload : Int → Event) (zero : Event)
    {size : Int64} (fits : size.toInt ≤ 2 ^ 62) (schedule : List Nat)
    (producer : Nat) :
    ¬ (LabelledRun.run (produce payload) (initial zero fits)
        schedule).CanReturn payload producer ↔
      ∃ waiting,
        ((LabelledRun.run (produce payload) (initial zero fits)
          schedule).phase producer).pending = some waiting ∧
        (LabelledRun.run (produce payload) (initial zero fits)
          schedule).Wedged waiting := by
  have sound : (initial zero fits).Sound payload zero := .initial fits
  have reached := sound.run schedule
  have compared :
      (LabelledRun.run (produce payload) (initial zero fits)
        schedule).Compared :=
    compared_run schedule fun _ _ _ saw => nomatch saw
  constructor
  · intro noReturn
    cases phase :
        ((LabelledRun.run (produce payload) (initial zero fits)
          schedule).phase producer).pending with
    | none =>
        refine absurd (reached.canReturn_of_free ?_) noReturn
        intro waiting pending
        rw [phase] at pending
        cases pending
    | some waiting =>
        rw [compared.canReturn_iff phase, not_not] at noReturn
        exact ⟨waiting, rfl, noReturn⟩
  · rintro ⟨waiting, pending, wedged⟩
    exact Stuck.not_canReturn ⟨compared, wedged, pending⟩

/-- Producer 0 waits for a number below 0, and no continuation helps it. -/
theorem no_wedge_fails :
    ¬ (LabelledRun.run (produce id) (initial 0 oneFits)
        overtaking).FindsSmaller ∧
      ¬ (LabelledRun.run (produce id) (initial 0 oneFits)
        overtaking).CanReturn id 0 := by
  have sound :
      (LabelledRun.run (produce id) (initial 0 oneFits)
        overtaking).Sound id 0 :=
    (Sound.initial oneFits).run overtaking
  have compared :
      (LabelledRun.run (produce id) (initial 0 oneFits)
        overtaking).Compared :=
    compared_run overtaking fun _ _ _ saw => nomatch saw
  constructor
  · intro findsSmaller
    exact absurd (findsSmaller 0 0 (by decide)) (by decide)
  · have pending :
        ((LabelledRun.run (produce id) (initial 0 oneFits)
          overtaking).phase 0).pending = some 0 := by
      decide
    refine Stuck.not_canReturn ⟨compared, ⟨by decide, ?_⟩, pending⟩
    intro other next won _
    exact (sound.exact.held_range other next (Phase.held_of_won won)).1

end System

end AeroRisk.Disruptor
