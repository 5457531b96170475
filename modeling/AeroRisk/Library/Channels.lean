import Mathlib.Data.Finset.Basic
import Mathlib.Data.Finset.Insert
import Mathlib.Data.Finset.Erase

/-!
# Buffered channels and read-write mutexes

A buffered channel is a queue of bounded length which is open until it is
closed.  Sending on a closed channel and closing it again are faults.  A
read-write mutex is held by one writer or by some readers.

Every operation is total and says what it comes to: a caller whose operation
is not possible yet tries it again later.  The mutex remembers who holds it,
so that a process can be asked how it holds the mutex.
-/

namespace AeroRisk.Library

universe u v

/-- A channel with a buffer. -/
structure Channel (Item : Type u) where
  buffer : List Item
  capacity : Nat
  closed : Bool
  bounded : buffer.length ≤ capacity

namespace Channel

variable {Item : Type u}

/-- A new channel. -/
def make (capacity : Nat) : Channel Item where
  buffer := []
  capacity := capacity
  closed := false
  bounded := Nat.zero_le capacity

/-- What an attempt to send comes to. -/
inductive Sent (Item : Type u) where
  /-- The channel is closed. -/
  | fault
  /-- The buffer is full. -/
  | full
  | sent (later : Channel Item)

/-- Send an item, if the buffer has room. -/
def trySend (channel : Channel Item) (item : Item) : Sent Item :=
  if channel.closed then
    .fault
  else if room : channel.buffer.length < channel.capacity then
    .sent
      { channel with
        buffer := channel.buffer ++ [item]
        bounded := by
          rw [List.length_append]
          exact room }
  else
    .full

/-- What an attempt to receive comes to. -/
inductive Received (Item : Type u) where
  /-- The buffer is empty, and the channel is open. -/
  | blocked
  /-- The buffer is empty, and the channel is closed. -/
  | closed
  | received (item : Item) (later : Channel Item)

/-- The oldest item in the buffer. -/
def receive : Channel Item → Received Item
  | { buffer := [], closed := true, .. } => .closed
  | { buffer := [], closed := false, .. } => .blocked
  | { buffer := item :: rest, capacity, closed, bounded } =>
      .received item
        { buffer := rest
          capacity
          closed
          bounded := Nat.le_of_succ_le bounded }

/-- Close the channel, once. -/
def close (channel : Channel Item) : Option (Channel Item) :=
  if channel.closed then none else some { channel with closed := true }

variable {channel later : Channel Item} {item : Item}

@[simp]
theorem buffer_make (capacity : Nat) :
    (make capacity : Channel Item).buffer = [] :=
  rfl

@[simp]
theorem closed_make (capacity : Nat) :
    (make capacity : Channel Item).closed = false :=
  rfl

theorem trySend_eq_fault_iff :
    channel.trySend item = .fault ↔ channel.closed = true := by
  rw [trySend]
  split
  · simpa using ‹channel.closed = true›
  · split <;> simpa using ‹¬ channel.closed = true›

/-- What a send which goes through leaves. -/
theorem spec_of_sent (sent : channel.trySend item = .sent later) :
    later.buffer = channel.buffer ++ [item] ∧
      later.closed = channel.closed := by
  rw [trySend] at sent
  split at sent
  · cases sent
  · split at sent
    · cases sent
      exact ⟨rfl, rfl⟩
    · cases sent

theorem buffer_of_sent (sent : channel.trySend item = .sent later) :
    later.buffer = channel.buffer ++ [item] :=
  (spec_of_sent sent).1

theorem closed_of_sent (sent : channel.trySend item = .sent later) :
    later.closed = channel.closed :=
  (spec_of_sent sent).2

/-- What a receive of an item leaves. -/
theorem spec_of_received
    (received : channel.receive = .received item later) :
    channel.buffer = item :: later.buffer ∧
      later.closed = channel.closed := by
  rcases channel with ⟨_ | ⟨first, rest⟩, capacity, _ | _, bounded⟩
  all_goals cases received
  all_goals exact ⟨rfl, rfl⟩

theorem buffer_of_received
    (received : channel.receive = .received item later) :
    channel.buffer = item :: later.buffer :=
  (spec_of_received received).1

theorem closed_of_received
    (received : channel.receive = .received item later) :
    later.closed = channel.closed :=
  (spec_of_received received).2

theorem capacity_of_sent (sent : channel.trySend item = .sent later) :
    later.capacity = channel.capacity := by
  rw [trySend] at sent
  split at sent
  · cases sent
  · split at sent
    · cases sent
      rfl
    · cases sent

theorem capacity_of_received
    (received : channel.receive = .received item later) :
    later.capacity = channel.capacity := by
  rcases channel with ⟨_ | ⟨first, rest⟩, capacity, _ | _, bounded⟩
  all_goals cases received
  all_goals rfl

/-- A send goes through on an open channel with room. -/
theorem exists_trySend (isOpen : channel.closed = false)
    (room : channel.buffer.length < channel.capacity) (item : Item) :
    ∃ later, channel.trySend item = .sent later := by
  rw [trySend, isOpen, if_neg Bool.false_ne_true, dif_pos room]
  exact ⟨_, rfl⟩

/-- A receive goes through on a channel with items. -/
theorem exists_receive {rest : List Item}
    (isBuffer : channel.buffer = item :: rest) :
    ∃ later, channel.receive = .received item later ∧ later.buffer = rest := by
  rcases channel with ⟨_ | ⟨first, others⟩, capacity, closed, bounded⟩
  · cases isBuffer
  · cases isBuffer
    exact ⟨_, rfl, rfl⟩

theorem close_eq_none_iff : channel.close = none ↔ channel.closed = true := by
  rw [close]
  split <;> simp_all

theorem buffer_of_close (closes : channel.close = some later) :
    later.buffer = channel.buffer := by
  rw [close] at closes
  split at closes
  · cases closes
  · cases closes
    rfl

end Channel

/-- How a process holds a mutex. -/
inductive Hold where
  | free
  | reading
  | writing
deriving DecidableEq, Repr

/-- A mutex which excludes a writer and every other holder. -/
structure RWMutex (Process : Type v) where
  writer : Option Process
  readers : Finset Process
  exclusive : writer ≠ none → readers = ∅

namespace RWMutex

variable {Process : Type v}

/-- A mutex which nobody holds. -/
def unlocked : RWMutex Process where
  writer := none
  readers := ∅
  exclusive := fun _ => rfl

variable [DecidableEq Process]

/-- How a process holds the mutex. -/
def hold (mutex : RWMutex Process) (process : Process) : Hold :=
  if mutex.writer = some process then
    .writing
  else if process ∈ mutex.readers then
    .reading
  else
    .free

/-- Lock for writing; it waits while anybody holds the mutex. -/
def lock (mutex : RWMutex Process) (process : Process) :
    Option (RWMutex Process) :=
  if mutex.writer = none ∧ mutex.readers = ∅ then
    some { writer := some process, readers := ∅, exclusive := fun _ => rfl }
  else
    none

/-- Give up the lock for writing; it is a fault of anybody but the writer. -/
def unlock (mutex : RWMutex Process) (process : Process) :
    Option (RWMutex Process) :=
  if mutex.writer = some process then
    some { mutex with
      writer := none
      exclusive := fun written => absurd rfl written }
  else
    none

/--
Lock for reading; it waits while somebody writes.  A process does not lock
twice for reading.
-/
def rLock (mutex : RWMutex Process) (process : Process) :
    Option (RWMutex Process) :=
  if free : mutex.writer = none then
    some { mutex with
      readers := insert process mutex.readers
      exclusive := fun written => absurd free written }
  else
    none

/-- Give up a lock for reading; it is a fault of anybody but a reader. -/
def rUnlock (mutex : RWMutex Process) (process : Process) :
    Option (RWMutex Process) :=
  if process ∈ mutex.readers then
    some { mutex with
      readers := mutex.readers.erase process
      exclusive := fun written => by simp [mutex.exclusive written] }
  else
    none

variable {mutex later : RWMutex Process} {process other : Process}

@[simp]
theorem hold_unlocked (process : Process) :
    (unlocked : RWMutex Process).hold process = .free := by
  simp [hold, unlocked]

theorem hold_eq_writing_iff :
    mutex.hold process = .writing ↔ mutex.writer = some process := by
  rw [hold]
  split
  · simpa
  · split <;> simpa

/-- Nobody reads while a process writes. -/
theorem hold_ne_reading_of_writing (writes : mutex.hold process = .writing) :
    mutex.hold other ≠ .reading := by
  have written := hold_eq_writing_iff.mp writes
  have none : mutex.readers = ∅ := mutex.exclusive (by simp [written])
  rw [hold]
  split
  · decide
  · simp [none]

theorem hold_of_lock (locked : mutex.lock process = some later) :
    later.hold process = .writing := by
  rw [lock] at locked
  split at locked
  · cases locked
    simp [hold]
  · cases locked

theorem hold_of_lock_ne (locked : mutex.lock process = some later)
    (ne : other ≠ process) : later.hold other = mutex.hold other := by
  rw [lock] at locked
  split at locked
  · rename_i idle
    cases locked
    simp [hold, idle, ne.symm]
  · cases locked

/-- Nobody holds a mutex which can be locked for writing. -/
theorem hold_eq_free_of_lock (locked : mutex.lock process = some later)
    (other : Process) : mutex.hold other = .free := by
  rw [lock] at locked
  split at locked
  · rename_i idle
    simp [hold, idle]
  · cases locked

/-- Nobody writes while a mutex can be locked for reading. -/
theorem hold_ne_writing_of_rLock (locked : mutex.rLock process = some later)
    (other : Process) : mutex.hold other ≠ .writing := by
  rw [rLock] at locked
  split at locked
  · rename_i free
    simp [hold_eq_writing_iff, free]
  · cases locked

/-- A mutex which nobody holds can be locked for writing. -/
theorem exists_lock (idle : ∀ other, mutex.hold other = .free)
    (process : Process) : ∃ later, mutex.lock process = some later := by
  have noWriter : mutex.writer = none := by
    cases written : mutex.writer with
    | none => rfl
    | some writer =>
        have writes := hold_eq_writing_iff.mpr written
        rw [idle] at writes
        cases writes
  have noReader : mutex.readers = ∅ := by
    apply Finset.eq_empty_of_forall_notMem
    intro other member
    have free := idle other
    simp [hold, noWriter, member] at free
  exact ⟨_, if_pos ⟨noWriter, noReader⟩⟩

/-- A mutex which nobody writes can be locked for reading. -/
theorem exists_rLock (noWriter : ∀ other, mutex.hold other ≠ .writing)
    (process : Process) : ∃ later, mutex.rLock process = some later := by
  have unwritten : mutex.writer = none := by
    cases written : mutex.writer with
    | none => rfl
    | some writer =>
        exact absurd (hold_eq_writing_iff.mpr written) (noWriter writer)
  exact ⟨_, dif_pos unwritten⟩

/-- There is one writer at most. -/
theorem eq_of_writing (writes : mutex.hold process = .writing)
    (alsoWrites : mutex.hold other = .writing) : other = process := by
  rw [hold_eq_writing_iff] at writes alsoWrites
  exact Option.some.inj (alsoWrites.symm.trans writes)

/-- The writer can give up its lock. -/
theorem exists_unlock (writes : mutex.hold process = .writing) :
    ∃ later, mutex.unlock process = some later ∧
      later.hold process = .free ∧
        ∀ other, other ≠ process → later.hold other = mutex.hold other := by
  have written := hold_eq_writing_iff.mp writes
  have none : mutex.readers = ∅ := mutex.exclusive (by simp [written])
  refine ⟨_, if_pos written, ?_, ?_⟩
  · simp [hold, none]
  · intro other ne
    simp [hold, none, written, ne.symm]

theorem hold_of_rLock (locked : mutex.rLock process = some later) :
    later.hold process = .reading := by
  rw [rLock] at locked
  split at locked
  · rename_i free
    cases locked
    simp [hold, free]
  · cases locked

theorem hold_of_rLock_ne (locked : mutex.rLock process = some later)
    (ne : other ≠ process) : later.hold other = mutex.hold other := by
  rw [rLock] at locked
  split at locked
  · cases locked
    simp [hold, ne]
  · cases locked

/-- A reader can give up its lock. -/
theorem exists_rUnlock (reads : mutex.hold process = .reading) :
    ∃ later, mutex.rUnlock process = some later ∧
      later.hold process = .free ∧
        ∀ other, other ≠ process → later.hold other = mutex.hold other := by
  have notWriter : mutex.writer ≠ some process := by
    intro written
    rw [hold_eq_writing_iff.mpr written] at reads
    cases reads
  have reader : process ∈ mutex.readers := by
    by_contra none
    simp [hold, notWriter, none] at reads
  refine ⟨_, if_pos reader, ?_, ?_⟩
  · simp [hold, notWriter]
  · intro other ne
    simp [hold, ne]

end RWMutex

end AeroRisk.Library
