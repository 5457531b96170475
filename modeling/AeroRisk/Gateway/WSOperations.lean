import AeroRisk.Gateway.WSServer

/-!
# What the operations of the WebSocket server do

An operation is left to some of the goroutines, asks for the mutex to be held
in some way, and leaves most of the server as it is.  What an operation can
do is said once here; the invariants of the server follow from it.
-/

namespace AeroRisk.Gateway.WSServer

open AeroRisk.Library

universe u v

variable {Client : Type u} {Data : Type v} [DecidableEq Client]

variable
    {messages : Nat → Option Data}
    {process : WSProcess Client} {operation : Operation Client Data}
    {choice : Choice Client} {server : WSServer Client Data}
    {effect : Effect Client Data}

/-! ## Which process executes which operation -/

/-- The process an operation is left to, where it is left to one. -/
def Allowed (process : WSProcess Client) :
    Operation Client Data → Prop
  | .upgrade client => process = .handler client
  | .insert client => process = .handler client
  | .closeSend client => process = .reader client
  | .go (.reader client) => process = .handler client
  | .go (.writer client) => process = .handler client
  | .go _ => False
  | .distribute => process = .distributor
  | .rangeSend _ _ => process = .distributor
  | .trySend _ _ _ => process = .distributor
  | _ => True

omit [DecidableEq Client] in
theorem allowed_entry (process : WSProcess Client) :
    ∀ operation ∈ entry messages process, Allowed process operation := by
  cases process with
  | handler client => simp [entry, handleWS, Allowed]
  | reader client => simp [entry, readPump, Allowed]
  | writer client => simp [entry, writePump, Allowed]
  | distributor => simp [entry, distributor, Allowed]
  | broadcaster call =>
      rw [entry]
      cases messages call <;> simp [broadcastOf, Allowed]
  | stopper call => simp [entry, stop, Allowed]

/-! ## How operations hold the mutex -/

/-- How a process has to hold the mutex for an operation. -/
def requires : Operation Client Data → Hold
  | .unlock => .writing
  | .insert _ => .writing
  | .delete _ => .writing
  | .rangeClose _ => .writing
  | .rUnlock => .reading
  | .rangeSend _ _ => .reading
  | .trySend _ _ _ => .reading
  | _ => .free

/-- How it holds the mutex after the operation and what follows from it. -/
def leaves : Operation Client Data → Hold
  | .lock => .writing
  | .rLock => .reading
  | .unlock => .free
  | .rUnlock => .free
  | operation => requires operation

/-- The operations hold the mutex as they have to, and give it up. -/
def Guarded : Hold → List (Operation Client Data) → Prop
  | hold, [] => hold = .free
  | hold, operation :: rest =>
      hold = requires operation ∧ Guarded (leaves operation) rest

omit [DecidableEq Client] in
@[simp]
theorem guarded_nil (hold : Hold) :
    Guarded hold ([] : List (Operation Client Data)) ↔ hold = .free :=
  Iff.rfl

omit [DecidableEq Client] in
@[simp]
theorem guarded_cons (hold : Hold) (operation : Operation Client Data)
    (rest : List (Operation Client Data)) :
    Guarded hold (operation :: rest) ↔
      hold = requires operation ∧ Guarded (leaves operation) rest :=
  Iff.rfl

omit [DecidableEq Client] in
theorem guarded_entry (process : WSProcess Client) :
    Guarded .free (entry messages process) := by
  cases process with
  | handler client => simp [entry, handleWS, requires, leaves]
  | reader client => simp [entry, readPump, requires, leaves]
  | writer client => simp [entry, writePump, requires, leaves]
  | distributor => simp [entry, distributor, requires, leaves]
  | broadcaster call =>
      rw [entry]
      cases messages call <;> simp [broadcastOf, requires, leaves]
  | stopper call => simp [entry, stop, requires, leaves]

/-! ## What an operation does -/

/-- What an operation puts before the rest of the program. -/
inductive Continues :
    Operation Client Data → List (Operation Client Data) → Prop where
  | done (operation : Operation Client Data) : Continues operation []
  | upgraded (client : Client) : Continues (.upgrade client) (register client)
  | reads (client : Client) :
      Continues (.readSelect client) [.readMessage client]
  | readsAgain (client : Client) :
      Continues (.readMessage client) [.readSelect client]
  | writes (client : Client) (message : Data) :
      Continues (.writeSelect client) [.writeMessage client message]
  | writesAgain (client : Client) (message : Data) :
      Continues (.writeMessage client message) [.writeSelect client]
  | distributes (message : Data) :
      Continues .distribute (distributeTo message)
  | visits (message : Data) (visited : Finset Client) (client : Client) :
      Continues (.rangeSend message visited)
        [.trySend message visited client]
  | ranges (message : Data) (visited : Finset Client) (client : Client) :
      Continues (.trySend message visited client)
        [.rangeSend message (insert client visited)]
  | closes (visited : Finset Client) (client : Client) :
      Continues (.rangeClose visited) [.rangeClose (insert client visited)]

theorem Continues.guarded
    {continuation rest : List (Operation Client Data)}
    (continues : Continues operation continuation)
    (same : leaves operation = requires operation)
    (guarded : Guarded (leaves operation) rest) :
    Guarded (requires operation) (continuation ++ rest) := by
  cases continues with
  | done => exact same ▸ guarded
  | upgraded client => simpa [register, requires, leaves] using guarded
  | distributes message =>
      simpa [distributeTo, requires, leaves] using guarded
  | reads client => exact ⟨rfl, guarded⟩
  | readsAgain client => exact ⟨rfl, guarded⟩
  | writes client message => exact ⟨rfl, guarded⟩
  | writesAgain client message => exact ⟨rfl, guarded⟩
  | visits message visited client => exact ⟨rfl, guarded⟩
  | ranges message visited client => exact ⟨rfl, guarded⟩
  | closes visited client => exact ⟨rfl, guarded⟩

theorem Continues.allowed {continuation : List (Operation Client Data)}
    (continues : Continues operation continuation)
    (allowed : Allowed process operation) :
    ∀ further ∈ continuation, Allowed process further := by
  cases continues with
  | done => simp
  | upgraded client => simpa [register, Allowed] using allowed
  | distributes message => simpa [distributeTo, Allowed] using allowed
  | reads client => simp [Allowed]
  | readsAgain client => simp [Allowed]
  | writes client message => simp [Allowed]
  | writesAgain client message => simp [Allowed]
  | visits message visited client => simpa [Allowed] using allowed
  | ranges message visited client => simpa [Allowed] using allowed
  | closes visited client => simp [Allowed]

/-- The operations of the distributor which move a message. -/
def Distributes : Operation Client Data → Prop
  | .distribute => True
  | .trySend _ _ _ => True
  | _ => False

/-- The panics of an operation. -/
inductive Faults (server : WSServer Client Data) (process : WSProcess Client) :
    Operation Client Data → Panic Client → Prop where
  | send (message : Data) (visited : Finset Client) (client : Client)
      (closed : (server.send client).closed = true) :
      Faults server process (.trySend message visited client)
        (.sendOnClosed (.send client))
  | close (client : Client) (closed : (server.send client).closed = true) :
      Faults server process (.closeSend client)
        (.closeOfClosed (.send client))
  | stop : Faults server process .closeStop (.closeOfClosed .stopCh)
  | offer (message : Data) (closed : server.broadcast.closed = true) :
      Faults server process (.offer message) (.sendOnClosed .broadcast)
  | unlock (refused : server.mu.unlock process = none) :
      Faults server process .unlock .unlockOfUnlocked
  | rUnlock (refused : server.mu.rUnlock process = none) :
      Faults server process .rUnlock .unlockOfUnlocked

/-- What a performed operation does, and what it leaves of the server. -/
structure Frame (process : WSProcess Client)
    (operation : Operation Client Data) (server : WSServer Client Data)
    (effect : Effect Client Data) : Prop where
  continues : Continues operation effect.continuation
  started : ∀ other, effect.started = some other → operation = .go other
  listed : ∀ client, client ∈ effect.memory.clients →
    operation = .insert client ∨ client ∈ server.clients
  unlisted : ∀ client, client ∈ server.clients →
    operation = .delete client ∨ client ∈ effect.memory.clients
  closed : ∀ client, operation ≠ .closeSend client →
    (effect.memory.send client).closed = true →
      (server.send client).closed = true
  mu : leaves operation = requires operation →
    effect.memory.mu = server.mu
  broadcast : effect.memory.broadcast.closed = server.broadcast.closed
  taken : ¬ Distributes operation → effect.memory.taken = server.taken
  queue : ¬ Distributes operation → ∀ client,
    List.Sublist
      (effect.memory.received client ++ (effect.memory.send client).buffer)
      (server.received client ++ (server.send client).buffer)
  faults : ∀ panic, effect.memory.panic = some panic →
    server.panic = some panic ∨ Faults server process operation panic

/-- What a later server has in common with an earlier one. -/
structure SameTraffic (later server : WSServer Client Data) : Prop where
  clients : later.clients = server.clients
  send : later.send = server.send
  taken : later.taken = server.taken
  received : later.received = server.received
  broadcast : later.broadcast.closed = server.broadcast.closed

section Frames

variable {later : WSServer Client Data}
    {continuation : List (Operation Client Data)}

/-- The operations which leave the traffic as it is. -/
theorem frame_of_same (continues : Continues operation continuation)
    (same : SameTraffic later server)
    (mu : leaves operation = requires operation → later.mu = server.mu)
    (faults :
      ∀ panic, later.panic = some panic →
        server.panic = some panic ∨ Faults server process operation panic) :
    Frame process operation server (later.onward continuation) where
  continues := continues
  started := by
    intro other started
    cases started
  listed := by
    intro client member
    exact Or.inr (same.clients ▸ member)
  unlisted := by
    intro client member
    exact Or.inr (same.clients ▸ member)
  closed := by
    intro client _ closed
    rw [← same.send]
    exact closed
  mu := mu
  broadcast := same.broadcast
  taken := fun _ => same.taken
  queue := by
    intro _ client
    simp [onward, same.send, same.received]
  faults := faults

/-- The operations which only say what comes next. -/
theorem frame_of_next (continues : Continues operation continuation) :
    Frame process operation server (server.onward continuation) :=
  frame_of_same continues ⟨rfl, rfl, rfl, rfl, rfl⟩ (fun _ => rfl)
    fun _ => Or.inl

theorem frame_of_leave : Frame process operation server (server.onward []) :=
  frame_of_next (.done operation)

/-- The operations which leave when a condition holds, and else go on. -/
theorem frame_of_leave_or_next {condition : Prop} [Decidable condition]
    (continues : Continues operation continuation)
    (performed :
      (if condition then
        some (server.onward [])
      else
        some (server.onward continuation)) =
        some effect) :
    Frame process operation server effect := by
  split at performed
  · cases performed
    exact frame_of_leave
  · cases performed
    exact frame_of_next continues

/-- The operations which leave when a condition holds, and else wait. -/
theorem frame_of_leave_or_wait {condition : Prop} [Decidable condition]
    (performed :
      (if condition then some (server.onward []) else none) = some effect) :
    Frame process operation server effect := by
  split at performed
  · cases performed
    exact frame_of_leave
  · cases performed

theorem frame_of_fault {panic : Panic Client}
    (cause : Faults server process operation panic) :
    Frame process operation server (server.fault panic) := by
  refine
    frame_of_same (.done operation) ⟨rfl, rfl, rfl, rfl, rfl⟩ (fun _ => rfl) ?_
  rintro panic' panics
  cases panics
  exact Or.inr cause

/-- The operations which move the mutex. -/
theorem frame_of_mu {mu : RWMutex (WSProcess Client)}
    (moves : leaves operation ≠ requires operation) :
    Frame process operation server (onward { server with mu } []) :=
  frame_of_same (.done operation) ⟨rfl, rfl, rfl, rfl, rfl⟩
    (fun same => absurd same moves) fun _ => Or.inl

/-- The operations on the channel of a client. -/
theorem frame_of_setSend {client : Client} {channel : Channel Data}
    (continues : Continues operation continuation)
    (clients : later.clients = server.clients)
    (mu : later.mu = server.mu) (taken : later.taken = server.taken)
    (panic : later.panic = server.panic)
    (broadcast : later.broadcast = server.broadcast)
    (send : later.send = Function.update server.send client channel)
    (received :
      ∀ other, other ≠ client → later.received other = server.received other)
    (opened :
      operation ≠ .closeSend client → channel.closed = true →
        (server.send client).closed = true)
    (queue :
      ¬ Distributes operation →
        List.Sublist (later.received client ++ channel.buffer)
          (server.received client ++ (server.send client).buffer)) :
    Frame process operation server (later.onward continuation) where
  continues := continues
  started := by
    intro other started
    cases started
  listed := by
    intro other member
    exact Or.inr (clients ▸ member)
  unlisted := by
    intro other member
    exact Or.inr (clients ▸ member)
  closed := by
    intro other notClose closed
    rw [onward, send] at closed
    by_cases same : other = client
    · subst same
      rw [Function.update_self] at closed
      exact opened notClose closed
    · rw [Function.update_of_ne same] at closed
      exact closed
  mu := fun _ => mu
  broadcast := congrArg Channel.closed broadcast
  taken := fun _ => taken
  queue := by
    intro keeps other
    rw [onward, send]
    by_cases same : other = client
    · subst same
      rw [Function.update_self]
      exact queue keeps
    · rw [Function.update_of_ne same, received other same]
  faults := by
    intro found panics
    exact Or.inl (panic ▸ panics)

end Frames

theorem frame_sendTo (client : Client) (message : Data)
    (visited : Finset Client) :
    Frame process (.trySend message visited client) server
      (server.sendTo client message
        [.rangeSend message (insert client visited)]) := by
  rw [sendTo]
  cases attempt : (server.send client).trySend message with
  | fault =>
      exact
        frame_of_fault
          (.send message visited client
            (Channel.trySend_eq_fault_iff.mp attempt))
  | full => exact frame_of_next (.ranges _ _ _)
  | sent later =>
      refine
        frame_of_setSend (.ranges _ _ _) rfl rfl rfl rfl rfl rfl
          (fun _ _ => rfl) ?_ (fun keeps => absurd trivial keeps)
      intro _ closed
      rw [← Channel.closed_of_sent attempt]
      exact closed

theorem frame_receiveFrom {client : Client}
    (received : server.receiveFrom client = some effect) :
    Frame process (.writeSelect client) server effect := by
  rw [receiveFrom] at received
  cases attempt : (server.send client).receive with
  | blocked =>
      rw [attempt] at received
      cases received
  | closed =>
      rw [attempt] at received
      cases received
      exact frame_of_leave
  | received message later =>
      rw [attempt] at received
      cases received
      refine
        frame_of_setSend (.writes _ _) rfl rfl rfl rfl rfl rfl ?_ ?_ ?_
      · intro other ne
        exact Function.update_of_ne ne _ _
      · intro _ closed
        rw [← Channel.closed_of_received attempt]
        exact closed
      · intro _
        simp [setSend, Channel.buffer_of_received attempt]

theorem frame_closeSend (client : Client) :
    (server.perform process choice (.closeSend client)) = some effect →
      Frame process (.closeSend client) server effect := by
  intro performed
  rw [perform] at performed
  cases attempt : (server.send client).close with
  | none =>
      rw [attempt] at performed
      cases performed
      exact
        frame_of_fault (.close client (Channel.close_eq_none_iff.mp attempt))
  | some later =>
      rw [attempt] at performed
      cases performed
      refine
        frame_of_setSend (.done _) rfl rfl rfl rfl rfl rfl (fun _ _ => rfl)
          (fun notClose => absurd rfl notClose) ?_
      intro _
      rw [Channel.buffer_of_close attempt]
      exact List.Sublist.refl _

theorem frame_takeMessage (taken : server.takeMessage = some effect) :
    Frame process .distribute server effect := by
  rw [takeMessage] at taken
  split at taken
  · cases taken
  · cases taken
  · rename_i attempt
    cases taken
    exact
      { continues := .distributes _
        started := by
          intro other started
          cases started
        listed := fun _ => Or.inr
        unlisted := fun _ => Or.inr
        closed := fun _ _ => id
        mu := fun _ => rfl
        broadcast := Channel.closed_of_received attempt
        taken := fun keeps => absurd trivial keeps
        queue := fun keeps => absurd trivial keeps
        faults := fun _ => Or.inl }

theorem frame_offerMessage (message : Data) :
    Frame process (.offer message) server (server.offerMessage message) := by
  rw [offerMessage]
  cases attempt : server.broadcast.trySend message with
  | fault =>
      exact
        frame_of_fault
          (.offer message (Channel.trySend_eq_fault_iff.mp attempt))
  | full => exact frame_of_leave
  | sent later =>
      exact
        frame_of_same (.done _)
          ⟨rfl, rfl, rfl, rfl, Channel.closed_of_sent attempt⟩ (fun _ => rfl)
          fun _ => Or.inl

theorem frame_of_insert (client : Client) :
    Frame process (.insert client) server
      (onward { server with clients := insert client server.clients } []) where
  continues := .done _
  started := by
    intro other started
    cases started
  listed := by
    intro other member
    rcases Finset.mem_insert.mp member with rfl | member
    · exact Or.inl rfl
    · exact Or.inr member
  unlisted := by
    intro other member
    exact Or.inr (Finset.mem_insert_of_mem member)
  closed := fun _ _ => id
  mu := fun _ => rfl
  broadcast := rfl
  taken := fun _ => rfl
  queue := fun _ _ => List.Sublist.refl _
  faults := fun _ => Or.inl

theorem frame_of_delete (client : Client) :
    Frame process (.delete client) server
      (onward { server with clients := server.clients.erase client } []) where
  continues := .done _
  started := by
    intro other started
    cases started
  listed := by
    intro other member
    exact Or.inr (Finset.mem_of_mem_erase member)
  unlisted := by
    intro other member
    by_cases same : other = client
    · exact Or.inl (same ▸ rfl)
    · exact Or.inr (Finset.mem_erase.mpr ⟨same, member⟩)
  closed := fun _ _ => id
  mu := fun _ => rfl
  broadcast := rfl
  taken := fun _ => rfl
  queue := fun _ _ => List.Sublist.refl _
  faults := fun _ => Or.inl

theorem frame_of_go (started : WSProcess Client) :
    Frame process (.go started) server
      { memory := server, continuation := [], started := some started } where
  continues := .done _
  started := by
    intro other starts
    cases starts
    rfl
  listed := fun _ => Or.inr
  unlisted := fun _ => Or.inr
  closed := fun _ _ => id
  mu := fun _ => rfl
  broadcast := rfl
  taken := fun _ => rfl
  queue := fun _ _ => List.Sublist.refl _
  faults := fun _ => Or.inl

theorem frame_perform
    (performed : server.perform process choice operation = some effect) :
    Frame process operation server effect := by
  cases operation with
  | upgrade client =>
      rw [perform] at performed
      split at performed
      · cases performed
        exact frame_of_leave
      · cases performed
        refine
          frame_of_setSend (.upgraded _) rfl rfl rfl rfl rfl rfl
            (fun _ _ => rfl) ?_ ?_
        · intro _ closed
          cases closed
        · intro _
          simp [setSend]
  | lock =>
      rcases Option.map_eq_some_iff.mp performed with ⟨mu, _, rfl⟩
      exact frame_of_mu (by simp [leaves, requires])
  | rLock =>
      rcases Option.map_eq_some_iff.mp performed with ⟨mu, _, rfl⟩
      exact frame_of_mu (by simp [leaves, requires])
  | unlock =>
      rw [perform] at performed
      split at performed
      · rename_i refused
        cases performed
        exact frame_of_fault (.unlock refused)
      · cases performed
        exact frame_of_mu (by simp [leaves, requires])
  | rUnlock =>
      rw [perform] at performed
      split at performed
      · rename_i refused
        cases performed
        exact frame_of_fault (.rUnlock refused)
      · cases performed
        exact frame_of_mu (by simp [leaves, requires])
  | insert client =>
      cases performed
      exact frame_of_insert client
  | delete client =>
      cases performed
      exact frame_of_delete client
  | go started =>
      cases performed
      exact frame_of_go started
  | closeConn client =>
      cases performed
      exact
        frame_of_same (.done _) ⟨rfl, rfl, rfl, rfl, rfl⟩ (fun _ => rfl)
          fun _ => Or.inl
  | closeSend client => exact frame_closeSend client performed
  | closeStop =>
      rw [perform] at performed
      split at performed
      · cases performed
        exact frame_of_fault .stop
      · cases performed
        exact
          frame_of_same (.done _) ⟨rfl, rfl, rfl, rfl, rfl⟩ (fun _ => rfl)
            fun _ => Or.inl
  | readSelect client => exact frame_of_leave_or_next (.reads _) performed
  | readMessage client =>
      exact frame_of_leave_or_next (.readsAgain _) performed
  | writeMessage client message =>
      exact frame_of_leave_or_next (.writesAgain _ _) performed
  | writeSelect client =>
      rw [perform] at performed
      split at performed
      · exact frame_of_leave_or_wait performed
      · exact frame_receiveFrom performed
  | offer message =>
      cases performed
      exact frame_offerMessage message
  | distribute =>
      rw [perform] at performed
      split at performed
      · exact frame_of_leave_or_wait performed
      · exact frame_takeMessage performed
  | trySend message visited client =>
      cases performed
      exact frame_sendTo client message visited
  | rangeSend message visited =>
      rw [perform.eq_def] at performed
      dsimp only at performed
      split at performed
      · split at performed
        · cases performed
          exact frame_of_next (.visits _ _ _)
        · cases performed
      · exact frame_of_leave_or_wait performed
  | rangeClose visited =>
      rw [perform.eq_def] at performed
      dsimp only at performed
      split at performed
      · split at performed
        · cases performed
          exact
            frame_of_same (.closes _ _) ⟨rfl, rfl, rfl, rfl, rfl⟩ (fun _ => rfl)
              fun _ => Or.inl
        · cases performed
      · exact frame_of_leave_or_wait performed

/-! ## The lock discipline -/

/-- What is left fits how the process holds the mutex, as for the others. -/
def GuardedAfter (process : WSProcess Client) (server : WSServer Client Data)
    (effect : Effect Client Data) (rest : List (Operation Client Data)) :
    Prop :=
  Guarded (effect.memory.mu.hold process) (effect.continuation ++ rest) ∧
    ∀ other, other ≠ process →
      effect.memory.mu.hold other = server.mu.hold other

section LockDiscipline

variable {rest : List (Operation Client Data)}

/-- The mutex is held as the rest asks for, and as before by others. -/
theorem guardedAfter_of_hold {later : WSServer Client Data} {hold : Hold}
    (own : later.mu.hold process = hold)
    (others :
      ∀ other, other ≠ process → later.mu.hold other = server.mu.hold other)
    (guarded : Guarded hold rest) :
    GuardedAfter process server (later.onward []) rest := by
  refine ⟨?_, others⟩
  rw [← own] at guarded
  exact guarded

/-- The operations which do not move the mutex. -/
theorem Frame.guardedAfter (frame : Frame process operation server effect)
    (same : leaves operation = requires operation)
    (holds : server.mu.hold process = requires operation)
    (guarded : Guarded (leaves operation) rest) :
    GuardedAfter process server effect rest := by
  rw [GuardedAfter, frame.mu same, holds]
  exact ⟨frame.continues.guarded same guarded, fun _ _ => rfl⟩

theorem guardedAfter_perform
    (performed : server.perform process choice operation = some effect)
    (holds : server.mu.hold process = requires operation)
    (guarded : Guarded (leaves operation) rest) :
    GuardedAfter process server effect rest := by
  cases operation with
  | lock =>
      rcases Option.map_eq_some_iff.mp performed with ⟨mu, locked, rfl⟩
      exact
        guardedAfter_of_hold (RWMutex.hold_of_lock locked)
          (fun _ => RWMutex.hold_of_lock_ne locked) guarded
  | rLock =>
      rcases Option.map_eq_some_iff.mp performed with ⟨mu, locked, rfl⟩
      exact
        guardedAfter_of_hold (RWMutex.hold_of_rLock locked)
          (fun _ => RWMutex.hold_of_rLock_ne locked) guarded
  | unlock =>
      rcases RWMutex.exists_unlock holds with ⟨mu, unlocked, own, others⟩
      rw [perform, unlocked] at performed
      cases performed
      exact guardedAfter_of_hold own others guarded
  | rUnlock =>
      rcases RWMutex.exists_rUnlock holds with ⟨mu, unlocked, own, others⟩
      rw [perform, unlocked] at performed
      cases performed
      exact guardedAfter_of_hold own others guarded
  | _ => exact (frame_perform performed).guardedAfter rfl holds guarded

end LockDiscipline

end AeroRisk.Gateway.WSServer
