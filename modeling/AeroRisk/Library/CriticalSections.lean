import AeroRisk.Library.Channels
import AeroRisk.Library.LabelledRun
import Mathlib.Logic.Function.Basic

/-!
# Calls which hold a read-write mutex

Processes make calls, one after the other, and share a memory.  A call locks
the mutex for writing or for reading, accesses the memory in single steps, and
gives up the lock when it returns.  A schedule names the process which makes
the next step, and the call which it makes if it is not in one.

Whatever the schedule, the calls return what they return when they are executed
one after the other in the order in which they returned.  This needs only that
the calls which lock for reading do not change the memory.
-/

namespace AeroRisk.Library

universe u v w

/-- What a call does while it holds the mutex. -/
inductive CriticalSection (Memory : Type u) (Value : Type v) where
  | done (value : Value)
  /-- Change the memory, and go on with what it was before. -/
  | access (change : Memory → Memory)
      (resume : Memory → CriticalSection Memory Value)

namespace CriticalSection

variable {Memory : Type u} {Value Result : Type v}

/-- One section after another. -/
def bind (next : Value → CriticalSection Memory Result) :
    CriticalSection Memory Value → CriticalSection Memory Result
  | .done value => next value
  | .access change resume =>
      .access change fun memory => bind next (resume memory)

instance instMonad : Monad (CriticalSection Memory) where
  pure := .done
  bind first next := first.bind next

/-- A single load. -/
def load (look : Memory → Value) : CriticalSection Memory Value :=
  .access id fun memory => .done (look memory)

/-- A single store. -/
def store (change : Memory → Memory) : CriticalSection Memory PUnit :=
  .access change fun _ => .done ⟨⟩

/-- The section executed alone: what it returns and the memory it leaves. -/
def exec : CriticalSection Memory Value → Memory → Value × Memory
  | .done value, memory => (value, memory)
  | .access change resume, memory => exec (resume memory) (change memory)

/-- No access of the section changes the memory. -/
def ReadOnly : CriticalSection Memory Value → Prop
  | .done _ => True
  | .access change resume =>
      (∀ memory, change memory = memory) ∧
        ∀ memory, ReadOnly (resume memory)

variable (memory : Memory)

@[simp]
theorem exec_pure (value : Value) :
    exec (pure value : CriticalSection Memory Value) memory =
      (value, memory) :=
  rfl

@[simp]
theorem exec_load (look : Memory → Value) :
    exec (load look) memory = (look memory, memory) :=
  rfl

@[simp]
theorem exec_store (change : Memory → Memory) :
    exec (store change) memory = (⟨⟩, change memory) :=
  rfl

@[simp]
theorem exec_bind (first : CriticalSection Memory Value)
    (next : Value → CriticalSection Memory Result) :
    exec (first >>= next) memory =
      exec (next (exec first memory).1) (exec first memory).2 := by
  induction first generalizing memory with
  | done value => rfl
  | access change resume inductionHypothesis =>
      exact inductionHypothesis memory (change memory)

@[simp]
theorem readOnly_pure (value : Value) :
    ReadOnly (pure value : CriticalSection Memory Value) :=
  trivial

@[simp]
theorem readOnly_load (look : Memory → Value) : ReadOnly (load look) :=
  ⟨fun _ => rfl, fun _ => trivial⟩

theorem ReadOnly.bind {first : CriticalSection Memory Value}
    {next : Value → CriticalSection Memory Result}
    (firstReads : first.ReadOnly) (nextReads : ∀ value, (next value).ReadOnly) :
    (first >>= next).ReadOnly := by
  induction first with
  | done value => exact nextReads value
  | access change resume inductionHypothesis =>
      exact
        ⟨firstReads.1, fun memory =>
          inductionHypothesis memory (firstReads.2 memory)⟩

/-- A section which only reads leaves the memory as it is. -/
theorem ReadOnly.exec_snd {body : CriticalSection Memory Value}
    (reads : body.ReadOnly) : (body.exec memory).2 = memory := by
  induction body generalizing memory with
  | done value => rfl
  | access change resume inductionHypothesis =>
      rw [exec, inductionHypothesis memory (change memory) (reads.2 memory),
        reads.1]

end CriticalSection

namespace CriticalSections

variable
    {Process : Type u} {Memory : Type v} {Call : Type w} {Value : Type v}

/-- The memory, its mutex, where the processes are, and what returned. -/
structure System (Process : Type u) (Memory : Type v) (Call : Type w)
    (Value : Type v) where
  memory : Memory
  mutex : RWMutex Process
  /-- The call which a process is in, and what is left of it. -/
  inside : Process → Option (Call × CriticalSection Memory Value)
  /-- The calls which returned, the earliest first, and their values. -/
  returned : List (Process × Call × Value)

/-- How the calls lock, and what they do. -/
structure Protocol (Memory : Type v) (Call : Type w) (Value : Type v) where
  /-- The call locks for writing. -/
  writes : Call → Bool
  body : Call → CriticalSection Memory Value
  readOnly : ∀ call, writes call = false → (body call).ReadOnly

/-- The calls which returned, the earliest first. -/
def System.calls (system : System Process Memory Call Value) : List Call :=
  system.returned.map fun entry => entry.2.1

/-- What the calls returned. -/
def System.values (system : System Process Memory Call Value) : List Value :=
  system.returned.map fun entry => entry.2.2

/-- No process is in a call. -/
def start (memory : Memory) : System Process Memory Call Value where
  memory := memory
  mutex := .unlocked
  inside := fun _ => none
  returned := []

namespace Protocol

variable (protocol : Protocol Memory Call Value)

/-- The memory after a call which is executed alone. -/
def after (memory : Memory) (call : Call) : Memory :=
  ((protocol.body call).exec memory).2

/-- What a call returns which is executed alone. -/
def value (memory : Memory) (call : Call) : Value :=
  ((protocol.body call).exec memory).1

/-- How a process in a call holds the mutex. -/
def holdOf : Option (Call × CriticalSection Memory Value) → Hold
  | none => .free
  | some (call, _) => if protocol.writes call then .writing else .reading

variable [DecidableEq Process]

/-- Lock the mutex as a call does. -/
def acquire (mutex : RWMutex Process) (process : Process) (call : Call) :
    Option (RWMutex Process) :=
  if protocol.writes call then mutex.lock process else mutex.rLock process

/-- Give up the lock of a call. -/
def release (mutex : RWMutex Process) (process : Process) (call : Call) :
    Option (RWMutex Process) :=
  if protocol.writes call then mutex.unlock process
  else mutex.rUnlock process

/-- One step of a process, which makes a call if it is not in one. -/
def next (system : System Process Memory Call Value)
    (label : Process × Call) : System Process Memory Call Value :=
  match system.inside label.1 with
  | none =>
      match protocol.acquire system.mutex label.1 label.2 with
      | none => system
      | some mutex =>
          { system with
            mutex
            inside :=
              Function.update system.inside label.1
                (some (label.2, protocol.body label.2)) }
  | some (call, .access change resume) =>
      { system with
        memory := change system.memory
        inside :=
          Function.update system.inside label.1
            (some (call, resume system.memory)) }
  | some (call, .done value) =>
      match protocol.release system.mutex label.1 call with
      | none => system
      | some mutex =>
          { system with
            mutex
            inside := Function.update system.inside label.1 none
            returned := system.returned ++ [(label.1, call, value)] }

/-- What a step can do. -/
inductive Step (system : System Process Memory Call Value)
    (process : Process) : System Process Memory Call Value → Prop
  | wait : Step system process system
  | enter (call : Call) (mutex : RWMutex Process)
      (outside : system.inside process = none)
      (acquired : protocol.acquire system.mutex process call = some mutex) :
      Step system process
        { system with
          mutex
          inside :=
            Function.update system.inside process
              (some (call, protocol.body call)) }
  | access (call : Call) (change : Memory → Memory)
      (resume : Memory → CriticalSection Memory Value)
      (within : system.inside process = some (call, .access change resume)) :
      Step system process
        { system with
          memory := change system.memory
          inside :=
            Function.update system.inside process
              (some (call, resume system.memory)) }
  | leave (call : Call) (value : Value) (mutex : RWMutex Process)
      (within : system.inside process = some (call, .done value))
      (released : protocol.release system.mutex process call = some mutex) :
      Step system process
        { system with
          mutex
          inside := Function.update system.inside process none
          returned := system.returned ++ [(process, call, value)] }

variable {protocol} {system after : System Process Memory Call Value}
    {process other : Process} {call : Call} {initially : Memory}

theorem next_step (label : Process × Call) :
    protocol.Step system label.1 (protocol.next system label) := by
  rw [next]
  split
  · next outside =>
      split
      · exact .wait
      · next mutex acquired => exact .enter label.2 mutex outside acquired
  · next call change resume within => exact .access call change resume within
  · next call value within =>
      split
      · exact .wait
      · next mutex released => exact .leave call value mutex within released

/-! ## The calls one after the other -/

variable (protocol) in
/-- The memory after the calls which returned, executed one by one. -/
def sequential (initially : Memory)
    (system : System Process Memory Call Value) : Memory :=
  LabelledRun.run protocol.after initially system.calls

variable (protocol) in
/-- The processes keep to the order in which the calls return. -/
structure Sound (initially : Memory)
    (system : System Process Memory Call Value) : Prop where
  holds :
    ∀ process,
      system.mutex.hold process = protocol.holdOf (system.inside process)
  values :
    system.values =
      LabelledRun.outputs protocol.after protocol.value initially system.calls
  quiet :
    (∀ process, system.mutex.hold process ≠ .writing) →
      system.memory = protocol.sequential initially system
  writing :
    ∀ process call rest, system.inside process = some (call, rest) →
      protocol.writes call = true →
        rest.exec system.memory =
          (protocol.body call).exec (protocol.sequential initially system)
  reading :
    ∀ process call rest, system.inside process = some (call, rest) →
      protocol.writes call = false →
        rest.ReadOnly ∧
          rest.exec (protocol.sequential initially system) =
            (protocol.body call).exec (protocol.sequential initially system)

namespace Sound

theorem start :
    protocol.Sound initially (start initially : System Process _ _ _) where
  holds := RWMutex.hold_unlocked
  values := rfl
  quiet := fun _ => rfl
  writing := by
    intro process call rest within
    cases within
  reading := by
    intro process call rest within
    cases within

/-- A process in a call which locks for writing is the writer. -/
theorem hold_of_writes (sound : protocol.Sound initially system)
    {rest : CriticalSection Memory Value}
    (within : system.inside process = some (call, rest))
    (writes : protocol.writes call = true) :
    system.mutex.hold process = .writing := by
  rw [sound.holds, within, holdOf, if_pos writes]

/-- A process in another call is a reader. -/
theorem hold_of_reads (sound : protocol.Sound initially system)
    {rest : CriticalSection Memory Value}
    (within : system.inside process = some (call, rest))
    (reads : protocol.writes call = false) :
    system.mutex.hold process = .reading := by
  rw [sound.holds, within, holdOf, if_neg (by simp [reads])]

/-- While a process writes no other process is in a call. -/
theorem inside_eq_none (sound : protocol.Sound initially system)
    (writes : system.mutex.hold process = .writing) (ne : other ≠ process) :
    system.inside other = none := by
  cases within : system.inside other with
  | none => rfl
  | some entry =>
      obtain ⟨call, rest⟩ := entry
      exfalso
      cases mode : protocol.writes call with
      | true =>
          exact ne (RWMutex.eq_of_writing writes
            (sound.hold_of_writes within mode))
      | false =>
          exact RWMutex.hold_ne_reading_of_writing writes
            (sound.hold_of_reads within mode)

/-- Where a process is after one of the processes went on. -/
theorem inside_update
    {entry : Option (Call × CriticalSection Memory Value)}
    {isAt : Call × CriticalSection Memory Value}
    (within : Function.update system.inside process entry other = some isAt) :
    other = process ∧ entry = some isAt ∨
      other ≠ process ∧ system.inside other = some isAt := by
  by_cases same : other = process
  · subst same
    rw [Function.update_self] at within
    exact Or.inl ⟨rfl, within⟩
  · rw [Function.update_of_ne same] at within
    exact Or.inr ⟨same, within⟩

/-- The holds fit when those of the other processes are as before. -/
theorem holds_update (sound : protocol.Sound initially system)
    {mutex : RWMutex Process}
    {entry : Option (Call × CriticalSection Memory Value)}
    (own : mutex.hold process = protocol.holdOf entry)
    (others :
      ∀ other, other ≠ process →
        mutex.hold other = system.mutex.hold other)
    (other : Process) :
    mutex.hold other =
      protocol.holdOf (Function.update system.inside process entry other) := by
  by_cases same : other = process
  · subst same
    rw [own, Function.update_self]
  · rw [others other same, Function.update_of_ne same, sound.holds]

/-- A process locks the mutex for writing while all are outside. -/
theorem enterWriting (sound : protocol.Sound initially system)
    {mutex : RWMutex Process} (mode : protocol.writes call = true)
    (acquired : system.mutex.lock process = some mutex) :
    protocol.Sound initially
      { system with
        mutex
        inside :=
          Function.update system.inside process
            (some (call, protocol.body call)) } where
  holds :=
    sound.holds_update
      (by rw [RWMutex.hold_of_lock acquired, holdOf, if_pos mode])
      fun other ne => RWMutex.hold_of_lock_ne acquired ne
  values := sound.values
  quiet := fun noWriter =>
    absurd (RWMutex.hold_of_lock acquired) (noWriter process)
  writing := by
    intro other further rest within writes
    have idle := RWMutex.hold_eq_free_of_lock acquired
    rcases inside_update within with ⟨rfl, isEntry⟩ | ⟨ne, before⟩
    · cases isEntry
      have current : system.memory = protocol.sequential initially system := by
        apply sound.quiet
        intro another
        rw [idle]
        decide
      exact congrArg (protocol.body call).exec current
    · have writer := sound.hold_of_writes before writes
      rw [idle] at writer
      cases writer
  reading := by
    intro other further rest within reads
    rcases inside_update within with ⟨rfl, isEntry⟩ | ⟨ne, before⟩
    · cases isEntry
      rw [mode] at reads
      cases reads
    · exact sound.reading other further rest before reads

/-- A process locks the mutex for reading while nobody writes. -/
theorem enterReading (sound : protocol.Sound initially system)
    {mutex : RWMutex Process} (mode : protocol.writes call = false)
    (acquired : system.mutex.rLock process = some mutex) :
    protocol.Sound initially
      { system with
        mutex
        inside :=
          Function.update system.inside process
            (some (call, protocol.body call)) } where
  holds :=
    sound.holds_update
      (by rw [RWMutex.hold_of_rLock acquired, holdOf, if_neg (by simp [mode])])
      fun other ne => RWMutex.hold_of_rLock_ne acquired ne
  values := sound.values
  quiet := fun _ => sound.quiet (RWMutex.hold_ne_writing_of_rLock acquired)
  writing := by
    intro other further rest within writes
    rcases inside_update within with ⟨rfl, isEntry⟩ | ⟨ne, before⟩
    · cases isEntry
      rw [mode] at writes
      cases writes
    · exact sound.writing other further rest before writes
  reading := by
    intro other further rest within reads
    rcases inside_update within with ⟨rfl, isEntry⟩ | ⟨ne, before⟩
    · cases isEntry
      exact ⟨protocol.readOnly call mode, rfl⟩
    · exact sound.reading other further rest before reads

/-- While a process writes, the others have nothing to say. -/
theorem of_writer (sound : protocol.Sound initially system)
    (writer : system.mutex.hold process = .writing)
    {entry : Option (Call × CriticalSection Memory Value)}
    {isAt : Call × CriticalSection Memory Value}
    (within : Function.update system.inside process entry other = some isAt) :
    other = process ∧ entry = some isAt := by
  rcases inside_update within with own | ⟨ne, before⟩
  · exact own
  · rw [sound.inside_eq_none writer ne] at before
    cases before

/-- The writer accesses the memory. -/
theorem accessWriting (sound : protocol.Sound initially system)
    {change : Memory → Memory}
    {resume : Memory → CriticalSection Memory Value}
    (within : system.inside process = some (call, .access change resume))
    (mode : protocol.writes call = true) :
    protocol.Sound initially
      { system with
        memory := change system.memory
        inside :=
          Function.update system.inside process
            (some (call, resume system.memory)) } where
  holds :=
    sound.holds_update
      (by rw [sound.hold_of_writes within mode, holdOf, if_pos mode])
      fun _ _ => rfl
  values := sound.values
  quiet := fun noWriter =>
    absurd (sound.hold_of_writes within mode) (noWriter process)
  writing := by
    intro other further rest isWithin writes
    obtain ⟨rfl, isEntry⟩ :=
      sound.of_writer (sound.hold_of_writes within mode) isWithin
    cases isEntry
    exact sound.writing _ _ _ within mode
  reading := by
    intro other further rest isWithin reads
    obtain ⟨rfl, isEntry⟩ :=
      sound.of_writer (sound.hold_of_writes within mode) isWithin
    cases isEntry
    rw [mode] at reads
    cases reads

/-- A reader looks at the memory. -/
theorem accessReading (sound : protocol.Sound initially system)
    {change : Memory → Memory}
    {resume : Memory → CriticalSection Memory Value}
    (within : system.inside process = some (call, .access change resume))
    (mode : protocol.writes call = false) :
    protocol.Sound initially
      { system with
        memory := change system.memory
        inside :=
          Function.update system.inside process
            (some (call, resume system.memory)) } := by
  have reader := sound.hold_of_reads within mode
  have noWriter : ∀ other, system.mutex.hold other ≠ .writing :=
    fun other writes => RWMutex.hold_ne_reading_of_writing writes reader
  have current := sound.quiet noWriter
  obtain ⟨⟨keeps, reads⟩, agrees⟩ := sound.reading _ _ _ within mode
  refine ⟨?_, sound.values, fun _ => (keeps _).trans current, ?_, ?_⟩
  · apply sound.holds_update
    · rw [reader, holdOf, if_neg (by simp [mode])]
    · exact fun _ _ => rfl
  · intro other further rest isWithin writes
    rcases inside_update isWithin with ⟨rfl, isEntry⟩ | ⟨ne, before⟩
    · cases isEntry
      rw [mode] at writes
      cases writes
    · exact absurd (sound.hold_of_writes before writes) (noWriter other)
  · intro other further rest isWithin isReading
    rcases inside_update isWithin with ⟨rfl, isEntry⟩ | ⟨ne, before⟩
    · cases isEntry
      rw [CriticalSection.exec, keeps] at agrees
      rw [current]
      exact ⟨reads _, agrees⟩
    · exact sound.reading other further rest before isReading

omit [DecidableEq Process] in
/-- The calls after one more returned. -/
theorem sequential_returned (value : Value) (mutex : RWMutex Process)
    (inside : Process → Option (Call × CriticalSection Memory Value)) :
    protocol.sequential initially
        { system with
          mutex
          inside
          returned := system.returned ++ [(process, call, value)] } =
      protocol.after (protocol.sequential initially system) call := by
  simp [sequential, System.calls]

/-- What returned is what the last of the calls returns. -/
theorem values_returned (sound : protocol.Sound initially system)
    {value : Value}
    (agrees :
      protocol.value (protocol.sequential initially system) call = value)
    (mutex : RWMutex Process)
    (inside : Process → Option (Call × CriticalSection Memory Value)) :
    System.values
        { system with
          mutex
          inside
          returned := system.returned ++ [(process, call, value)] } =
      LabelledRun.outputs protocol.after protocol.value initially
        (System.calls
          { system with
            mutex
            inside
            returned := system.returned ++ [(process, call, value)] }) := by
  have before := sound.values
  simp only [System.values, System.calls, List.map_append, List.map_cons,
    List.map_nil, LabelledRun.outputs_append, LabelledRun.outputs_cons,
    LabelledRun.outputs_nil] at before ⊢
  rw [before, ← agrees]
  rfl

/-- The writer returns. -/
theorem leaveWriting (sound : protocol.Sound initially system) {value : Value}
    {mutex : RWMutex Process}
    (within : system.inside process = some (call, .done value))
    (mode : protocol.writes call = true)
    (released : system.mutex.unlock process = some mutex) :
    protocol.Sound initially
      { system with
        mutex
        inside := Function.update system.inside process none
        returned := system.returned ++ [(process, call, value)] } := by
  have writer := sound.hold_of_writes within mode
  obtain ⟨later, unlocked, free, others⟩ := RWMutex.exists_unlock writer
  cases released.symm.trans unlocked
  have executed := sound.writing _ _ _ within mode
  have isValue :
      protocol.value (protocol.sequential initially system) call = value :=
    (congrArg Prod.fst executed).symm
  have isMemory :
      protocol.after (protocol.sequential initially system) call =
        system.memory :=
    (congrArg Prod.snd executed).symm
  refine ⟨sound.holds_update free others, ?_, ?_, ?_, ?_⟩
  · exact sound.values_returned isValue _ _
  · intro _
    rw [sequential_returned, isMemory]
  · intro other further rest isWithin _
    obtain ⟨-, isEntry⟩ := sound.of_writer writer isWithin
    cases isEntry
  · intro other further rest isWithin _
    obtain ⟨-, isEntry⟩ := sound.of_writer writer isWithin
    cases isEntry

/-- A reader returns. -/
theorem leaveReading (sound : protocol.Sound initially system) {value : Value}
    {mutex : RWMutex Process}
    (within : system.inside process = some (call, .done value))
    (mode : protocol.writes call = false)
    (released : system.mutex.rUnlock process = some mutex) :
    protocol.Sound initially
      { system with
        mutex
        inside := Function.update system.inside process none
        returned := system.returned ++ [(process, call, value)] } := by
  have reader := sound.hold_of_reads within mode
  obtain ⟨later, unlocked, free, others⟩ := RWMutex.exists_rUnlock reader
  cases released.symm.trans unlocked
  have noWriter : ∀ other, system.mutex.hold other ≠ .writing :=
    fun other writes => RWMutex.hold_ne_reading_of_writing writes reader
  have executed := (sound.reading _ _ _ within mode).2
  have isValue :
      protocol.value (protocol.sequential initially system) call = value :=
    (congrArg Prod.fst executed).symm
  have same :
      protocol.after (protocol.sequential initially system) call =
        protocol.sequential initially system :=
    (protocol.readOnly call mode).exec_snd _
  refine ⟨sound.holds_update free others, ?_, ?_, ?_, ?_⟩
  · exact sound.values_returned isValue _ _
  · intro _
    rw [sequential_returned, same]
    exact sound.quiet noWriter
  · intro other further rest isWithin writes
    rw [sequential_returned, same]
    rcases inside_update isWithin with ⟨-, isEntry⟩ | ⟨ne, before⟩
    · cases isEntry
    · exact sound.writing other further rest before writes
  · intro other further rest isWithin reads
    rw [sequential_returned, same]
    rcases inside_update isWithin with ⟨-, isEntry⟩ | ⟨ne, before⟩
    · cases isEntry
    · exact sound.reading other further rest before reads

/-- Every step keeps to the order in which the calls return. -/
theorem step (sound : protocol.Sound initially system)
    (step : protocol.Step system process after) :
    protocol.Sound initially after := by
  cases step with
  | wait => exact sound
  | enter call mutex outside acquired =>
      rw [acquire] at acquired
      split at acquired
      · next mode => exact sound.enterWriting mode acquired
      · next mode =>
          exact sound.enterReading (Bool.eq_false_iff.mpr mode) acquired
  | access call change resume within =>
      cases mode : protocol.writes call with
      | true => exact sound.accessWriting within mode
      | false => exact sound.accessReading within mode
  | leave call value mutex within released =>
      rw [release] at released
      split at released
      · next mode => exact sound.leaveWriting within mode released
      · next mode =>
          exact
            sound.leaveReading within (Bool.eq_false_iff.mpr mode) released

theorem run (schedule : List (Process × Call)) :
    protocol.Sound initially
      (LabelledRun.run protocol.next (CriticalSections.start initially)
        schedule) :=
  LabelledRun.run_invariant_of_every
    (fun _ label sound => sound.step (next_step label)) schedule start

/-- With all processes outside the memory is that after the calls. -/
theorem memory_eq (sound : protocol.Sound initially system)
    (outside : ∀ process, system.inside process = none) :
    system.memory = protocol.sequential initially system := by
  apply sound.quiet
  intro process
  rw [sound.holds, outside, holdOf]
  decide

/-! ## Progress -/

/-- A process in a call always can give up its lock. -/
theorem exists_release (sound : protocol.Sound initially system)
    {rest : CriticalSection Memory Value}
    (within : system.inside process = some (call, rest)) :
    ∃ mutex, protocol.release system.mutex process call = some mutex := by
  rw [release]
  split
  · next mode =>
      obtain ⟨later, unlocked, -⟩ :=
        RWMutex.exists_unlock (sound.hold_of_writes within mode)
      exact ⟨later, unlocked⟩
  · next mode =>
      obtain ⟨later, unlocked, -⟩ :=
        RWMutex.exists_rUnlock
          (sound.hold_of_reads within (Bool.eq_false_iff.mpr mode))
      exact ⟨later, unlocked⟩

/-- A process in a call returns after finitely many steps of its own. -/
theorem returns (sound : protocol.Sound initially system)
    {rest : CriticalSection Memory Value}
    (within : system.inside process = some (call, rest))
    (further : Call) :
    ∃ count value,
      let reached :=
        LabelledRun.run protocol.next system
          (List.replicate count (process, further))
      reached.inside process = none ∧
        reached.returned = system.returned ++ [(process, call, value)] := by
  induction rest generalizing system with
  | done value =>
      obtain ⟨mutex, released⟩ := sound.exists_release within
      refine ⟨1, value, ?_⟩
      simp [next, within, released]
  | access change resume inductionHypothesis =>
      have accessed := sound.step (next_step (process, further))
      have isNext :
          protocol.next system (process, further) =
            { system with
              memory := change system.memory
              inside :=
                Function.update system.inside process
                  (some (call, resume system.memory)) } := by
        simp only [next, within]
      have isWithin :
          (protocol.next system (process, further)).inside process =
            some (call, resume system.memory) := by
        simp [isNext]
      obtain ⟨count, value, returned⟩ :=
        inductionHypothesis system.memory accessed isWithin
      refine ⟨count + 1, value, ?_⟩
      rw [List.replicate_succ, LabelledRun.run_cons]
      rwa [isNext] at returned ⊢

/-- A call which has to wait waits for another process in a call. -/
theorem exists_inside (sound : protocol.Sound initially system)
    (waits : protocol.acquire system.mutex process call = none) :
    ∃ other, (system.inside other).isSome := by
  by_contra nobody
  have outside : ∀ other, system.inside other = none := by
    intro other
    by_contra within
    exact nobody ⟨other, Option.isSome_iff_ne_none.mpr within⟩
  have idle : ∀ other, system.mutex.hold other = .free := by
    intro other
    rw [sound.holds, outside, holdOf]
  rw [acquire] at waits
  split at waits
  · obtain ⟨later, locked⟩ := RWMutex.exists_lock idle process
    rw [waits] at locked
    cases locked
  · have noWriter : ∀ other, system.mutex.hold other ≠ .writing := by
      intro other
      rw [idle]
      decide
    obtain ⟨later, locked⟩ := RWMutex.exists_rLock noWriter process
    rw [waits] at locked
    cases locked

end Sound

/-- What returned stays where it is in the order. -/
theorem Step.returned_grows (step : protocol.Step system process after) :
    system.returned <+: after.returned := by
  cases step with
  | leave call value mutex within released => exact List.prefix_append _ _
  | _ => exact List.prefix_rfl

theorem returned_grows (schedule : List (Process × Call)) :
    system.returned <+:
      (LabelledRun.run protocol.next system schedule).returned := by
  induction schedule generalizing system with
  | nil => exact List.prefix_rfl
  | cons label rest inductionHypothesis =>
      exact (next_step label).returned_grows.trans inductionHypothesis

end Protocol

end CriticalSections

end AeroRisk.Library
