import AeroRisk.Gateway.WSShutdown
import AeroRisk.Library.Termination

/-!
# The shutdown of the WebSocket server comes to an end

When `stopCh` is closed, the loops of the goroutines leave, or take one of the
messages which are still in a channel.  The select of Go may prefer the
messages, so that the distributor and the writers go on for a while.  How much
they can still do is bounded by what is in the channels and by the programs,
and as long as a goroutine has something left to do, one of them can go on.

Reading from a connection and writing to it return.
-/

namespace AeroRisk.Gateway.WSServer

open AeroRisk.Library

universe u v

variable {Client : Type u} {Data : Type v} [DecidableEq Client]

variable
    {messages : Nat → Option Data}
    {process : WSProcess Client} {operation : Operation Client Data}
    {choice : Choice Client} {server : WSServer Client Data}
    {effect : Effect Client Data}

/-! ## What is left to do -/

/-- The clients which some of the goroutines belong to. -/
def clientsOf : WSProcess Client → Finset Client
  | .handler client => {client}
  | .reader client => {client}
  | .writer client => {client}
  | _ => ∅

/-- The operations a message in `broadcast` may cause for some clients. -/
def messageWeight (clients : Finset Client) : Nat :=
  4 * clients.card + 4

/-- The operations an operation may cause, itself included. -/
def weight (clients : Finset Client) : Operation Client Data → Nat
  | .upgrade _ => 17
  | .go (.reader _) => 7
  | .go (.writer _) => 6
  | .readMessage _ => 2
  | .writeMessage _ _ => 2
  | .offer _ => messageWeight clients + 1
  | .rangeSend _ visited => 4 * (clients \ visited).card + 1
  | .trySend _ visited client => 4 * (clients \ insert client visited).card + 4
  | .rangeClose visited => (clients \ visited).card + 1
  | _ => 1

/-- The operations which the messages in the channels may cause. -/
def buffered (clients : Finset Client) (server : WSServer Client Data) : Nat :=
  messageWeight clients * server.broadcast.buffer.length +
    ∑ client ∈ clients, 2 * (server.send client).buffer.length

/-- The loop of `writePump` is left to the writer. -/
def WritesOwn (process : WSProcess Client) : Operation Client Data → Prop
  | .writeSelect client => process = .writer client
  | .writeMessage client _ => process = .writer client
  | _ => True

omit [DecidableEq Client] in
theorem writesOwn_entry (process : WSProcess Client) :
    ∀ operation ∈ entry messages process, WritesOwn process operation := by
  cases process with
  | handler client => simp [entry, handleWS, WritesOwn]
  | reader client => simp [entry, readPump, WritesOwn]
  | writer client => simp [entry, writePump, WritesOwn]
  | distributor => simp [entry, distributor, WritesOwn]
  | broadcaster call =>
      rw [entry]
      cases messages call <;> simp [broadcastOf, WritesOwn]
  | stopper call => simp [entry, stop, WritesOwn]

theorem Continues.writesOwn {continuation : List (Operation Client Data)}
    (continues : Continues operation continuation)
    (own : WritesOwn process operation) :
    ∀ further ∈ continuation, WritesOwn process further := by
  cases continues with
  | done => simp
  | upgraded client => simp [register, WritesOwn]
  | distributes message => simp [distributeTo, WritesOwn]
  | reads client => simp [WritesOwn]
  | readsAgain client => simp [WritesOwn]
  | writes client message => simpa [WritesOwn] using own
  | writesAgain client message => simpa [WritesOwn] using own
  | visits message visited client => simp [WritesOwn]
  | ranges message visited client => simp [WritesOwn]
  | closes visited client => simp [WritesOwn]

theorem Continues.closeStop_notMem
    {continuation : List (Operation Client Data)}
    (continues : Continues operation continuation) :
    .closeStop ∉ continuation := by
  cases continues <;> simp [register, distributeTo]

/-! ## Every operation is heavier than what it leaves -/

/-- An operation is heavier than what it leaves to do and what it starts. -/
def Lightens (clients : Finset Client) (messages : Nat → Option Data)
    (server : WSServer Client Data) (operation : Operation Client Data)
    (effect : Effect Client Data) : Prop :=
  buffered clients effect.memory +
        Processes.load (weight clients) effect.continuation +
      Processes.startedLoad (weight clients) (entry messages) effect.started <
    buffered clients server + weight clients operation

section Weights

variable {clients : Finset Client} {later : WSServer Client Data}
    {continuation : List (Operation Client Data)}

theorem weight_pos (clients : Finset Client)
    (operation : Operation Client Data) : 0 < weight clients operation := by
  cases operation with
  | go started => cases started <;> simp [weight]
  | _ => simp [weight]

variable (server) in
theorem buffered_setSend {client : Client} (member : client ∈ clients)
    (channel : Channel Data) :
    buffered clients (server.setSend client channel) +
        2 * (server.send client).buffer.length =
      buffered clients server + 2 * channel.buffer.length := by
  have exchanged :=
    Processes.sum_update_of_mem
      (fun channel : Channel Data => 2 * channel.buffer.length) server.send
      member channel
  rw [buffered, buffered, setSend]
  dsimp only
  omega

theorem buffered_setSend_of_notMem {client : Client}
    (notMember : client ∉ clients) (channel : Channel Data) :
    buffered clients (server.setSend client channel) =
      buffered clients server := by
  have same :=
    Processes.sum_update_of_notMem
      (fun channel : Channel Data => 2 * channel.buffer.length) server.send
      notMember channel
  rw [buffered, buffered, setSend]
  dsimp only
  rw [same]

/-- The operations which do not put anything in a channel. -/
theorem lightens_of_onward
    (buffers : buffered clients later ≤ buffered clients server)
    (less :
      Processes.load (weight clients) continuation <
        weight clients operation) :
    Lightens clients messages server operation
      (later.onward continuation) := by
  dsimp only [Lightens, onward, Processes.startedLoad]
  omega

theorem lightens_of_done
    (buffers : buffered clients later ≤ buffered clients server) :
    Lightens clients messages server operation (later.onward []) :=
  lightens_of_onward buffers (weight_pos clients operation)

theorem lightens_of_leave :
    Lightens clients messages server operation (server.onward []) :=
  lightens_of_done le_rfl

/-- The clients left to visit become fewer. -/
theorem card_sdiff_insert {visited : Finset Client} {client : Client}
    (member : client ∈ clients) (unvisited : client ∉ visited) :
    (clients \ insert client visited).card + 1 = (clients \ visited).card := by
  rw [Finset.sdiff_insert]
  exact
    Finset.card_erase_add_one (Finset.mem_sdiff.mpr ⟨member, unvisited⟩)

theorem lightens_sendTo (client : Client) (message : Data)
    (visited : Finset Client) :
    Lightens clients messages server (.trySend message visited client)
      (server.sendTo client message
        [.rangeSend message (insert client visited)]) := by
  rw [sendTo]
  cases attempt : (server.send client).trySend message with
  | fault => exact lightens_of_done le_rfl
  | full =>
      apply lightens_of_onward le_rfl
      simp [weight]
  | sent channel =>
      have longer : channel.buffer.length =
          (server.send client).buffer.length + 1 := by
        simp [Channel.buffer_of_sent attempt]
      have buffers :
          buffered clients (server.setSend client channel) ≤
            buffered clients server + 2 := by
        by_cases member : client ∈ clients
        · have exchanged :=
            buffered_setSend server member channel
          omega
        · rw [buffered_setSend_of_notMem member]
          omega
      dsimp only [Lightens, onward, Processes.startedLoad]
      rw [Processes.load_cons, Processes.load_nil, weight, weight]
      omega

theorem lightens_receiveFrom {client : Client} (member : client ∈ clients)
    (received : server.receiveFrom client = some effect) :
    Lightens clients messages server (.writeSelect client) effect := by
  rw [receiveFrom] at received
  cases attempt : (server.send client).receive with
  | blocked =>
      rw [attempt] at received
      cases received
  | closed =>
      rw [attempt] at received
      cases received
      exact lightens_of_leave
  | received message channel =>
      rw [attempt] at received
      cases received
      have shorter : (server.send client).buffer.length =
          channel.buffer.length + 1 := by
        simp [Channel.buffer_of_received attempt]
      let recorded : WSServer Client Data :=
        { server with
          received :=
            Function.update server.received client
              (server.received client ++ [message]) }
      have exchanged := buffered_setSend recorded member channel
      have same : buffered clients recorded = buffered clients server := rfl
      have sends : recorded.send client = server.send client := rfl
      rw [same, sends] at exchanged
      change buffered clients (recorded.setSend client channel) + 2 + 0 < _ + 1
      omega

theorem lightens_takeMessage (taken : server.takeMessage = some effect) :
    Lightens clients messages server .distribute effect := by
  rw [takeMessage] at taken
  cases attempt : server.broadcast.receive with
  | blocked =>
      rw [attempt] at taken
      cases taken
  | closed =>
      rw [attempt] at taken
      cases taken
  | received message channel =>
      rw [attempt] at taken
      cases taken
      have shorter :
          server.broadcast.buffer.length = channel.buffer.length + 1 := by
        simp [Channel.buffer_of_received attempt]
      simp only [Lightens, onward, distributeTo, Processes.startedLoad,
        Processes.load_cons, Processes.load_nil, weight, buffered, shorter,
        messageWeight, Finset.sdiff_empty, Nat.mul_succ]
      omega

theorem lightens_offerMessage (message : Data) :
    Lightens clients messages server (.offer message)
      (server.offerMessage message) := by
  rw [offerMessage]
  cases attempt : server.broadcast.trySend message with
  | fault => exact lightens_of_done le_rfl
  | full => exact lightens_of_leave
  | sent channel =>
      have longer :
          channel.buffer.length = server.broadcast.buffer.length + 1 := by
        simp [Channel.buffer_of_sent attempt]
      simp only [Lightens, onward, Processes.startedLoad,
        Processes.load_nil, weight, buffered, longer, Nat.mul_succ]
      omega

/-- The operations which leave when a condition holds, and else go on. -/
theorem lightens_of_leave_or_next {condition : Prop} [Decidable condition]
    (less :
      Processes.load (weight clients) continuation <
        weight clients operation)
    (performed :
      (if condition then
        some (server.onward [])
      else
        some (server.onward continuation)) =
        some effect) :
    Lightens clients messages server operation effect := by
  split at performed
  · cases performed
    exact lightens_of_leave
  · cases performed
    exact lightens_of_onward le_rfl less

/-- The operations which leave when a condition holds, and else wait. -/
theorem lightens_of_leave_or_wait {condition : Prop} [Decidable condition]
    (performed :
      (if condition then some (server.onward []) else none) = some effect) :
    Lightens clients messages server operation effect := by
  split at performed
  · cases performed
    exact lightens_of_leave
  · cases performed

/-- A new client has an empty channel. -/
theorem buffered_upgrade_le (client : Client) (capacity : Nat) :
    buffered clients (server.setSend client (Channel.make capacity)) ≤
      buffered clients server := by
  by_cases member : client ∈ clients
  · have exchanged :=
      buffered_setSend server member (Channel.make capacity)
    rw [Channel.buffer_make, List.length_nil] at exchanged
    omega
  · exact (buffered_setSend_of_notMem member _).le

theorem lightens_closeSend {client : Client}
    (performed :
      server.perform process choice (.closeSend client) = some effect) :
    Lightens clients messages server (.closeSend client) effect := by
  rw [perform] at performed
  cases attempt : (server.send client).close with
  | none =>
      rw [attempt] at performed
      cases performed
      exact lightens_of_done le_rfl
  | some channel =>
      rw [attempt] at performed
      cases performed
      have same := Channel.buffer_of_close attempt
      apply lightens_of_done
      by_cases member : client ∈ clients
      · have exchanged := buffered_setSend server member channel
        rw [same] at exchanged
        omega
      · exact (buffered_setSend_of_notMem member _).le

/-- What a goroutine starts is lighter than starting it. -/
theorem lightens_go {started : WSProcess Client}
    (allowed : Allowed process (.go started : Operation Client Data)) :
    Lightens clients messages server (.go started)
      { memory := server, continuation := [], started := some started } := by
  cases started with
  | reader client =>
      simp [Lightens, Processes.startedLoad, entry, readPump, weight]
  | writer client =>
      simp [Lightens, Processes.startedLoad, entry, writePump, weight]
  | handler client => exact absurd allowed id
  | distributor => exact absurd allowed id
  | broadcaster call => exact absurd allowed id
  | stopper call => exact absurd allowed id

/-- When the server is stopped, every operation is heavier than what follows. -/
theorem lightens_perform
    (performed : server.perform process choice operation = some effect)
    (stopped : server.stopCh.closed = true)
    (listed : server.clients ⊆ clients)
    (own : ∀ client, operation = .writeSelect client → client ∈ clients)
    (allowed : Allowed process operation) :
    Lightens clients messages server operation effect := by
  cases operation with
  | upgrade client =>
      rw [perform] at performed
      split at performed
      · cases performed
        exact lightens_of_leave
      · cases performed
        apply lightens_of_onward (buffered_upgrade_le client 256)
        simp [register, weight]
  | lock =>
      rcases Option.map_eq_some_iff.mp performed with ⟨mu, _, rfl⟩
      exact lightens_of_done le_rfl
  | rLock =>
      rcases Option.map_eq_some_iff.mp performed with ⟨mu, _, rfl⟩
      exact lightens_of_done le_rfl
  | unlock =>
      rw [perform] at performed
      split at performed
      · cases performed
        exact lightens_of_done le_rfl
      · cases performed
        exact lightens_of_done le_rfl
  | rUnlock =>
      rw [perform] at performed
      split at performed
      · cases performed
        exact lightens_of_done le_rfl
      · cases performed
        exact lightens_of_done le_rfl
  | insert client =>
      cases performed
      exact lightens_of_done le_rfl
  | delete client =>
      cases performed
      exact lightens_of_done le_rfl
  | go started =>
      cases performed
      exact lightens_go allowed
  | closeConn client =>
      cases performed
      exact lightens_of_done le_rfl
  | closeSend client => exact lightens_closeSend performed
  | closeStop =>
      rw [perform] at performed
      split at performed
      · cases performed
        exact lightens_of_done le_rfl
      · cases performed
        exact lightens_of_done le_rfl
  | readSelect client =>
      rw [perform, if_pos stopped] at performed
      cases performed
      exact lightens_of_leave
  | readMessage client =>
      exact lightens_of_leave_or_next (by simp [weight]) performed
  | writeMessage client message =>
      exact lightens_of_leave_or_next (by simp [weight]) performed
  | writeSelect client =>
      rw [perform] at performed
      split at performed
      · cases performed
        exact lightens_of_leave
      · exact lightens_receiveFrom (own client rfl) performed
  | offer message =>
      cases performed
      exact lightens_offerMessage message
  | distribute =>
      rw [perform] at performed
      split at performed
      · cases performed
        exact lightens_of_leave
      · exact lightens_takeMessage performed
  | trySend message visited client =>
      cases performed
      exact lightens_sendTo client message visited
  | rangeSend message visited =>
      rw [perform.eq_def] at performed
      dsimp only at performed
      split at performed
      · split at performed
        · rename_i found
          cases performed
          have fewer := card_sdiff_insert (listed found.1) found.2
          apply lightens_of_onward le_rfl
          rw [Processes.load_cons, Processes.load_nil, weight, weight]
          omega
        · cases performed
      · exact lightens_of_leave_or_wait performed
  | rangeClose visited =>
      rw [perform.eq_def] at performed
      dsimp only at performed
      split at performed
      · split at performed
        · rename_i found
          cases performed
          have fewer := card_sdiff_insert (listed found.1) found.2
          apply lightens_of_onward le_rfl
          rw [Processes.load_cons, Processes.load_nil, weight, weight]
          omega
        · cases performed
      · exact lightens_of_leave_or_wait performed

end Weights

/-! ## What stays as it is -/

theorem stopCh_perform
    (performed : server.perform process choice operation = some effect)
    (stopped : server.stopCh.closed = true) :
    effect.memory.stopCh.closed = true := by
  cases operation with
  | closeStop =>
      rw [perform, Channel.close_eq_none_iff.mpr stopped] at performed
      cases performed
      exact stopped
  | trySend message visited client =>
      cases performed
      rw [sendTo]
      split <;> exact stopped
  | offer message =>
      cases performed
      rw [offerMessage]
      split <;> exact stopped
  | lock =>
      rcases Option.map_eq_some_iff.mp performed with ⟨mu, _, rfl⟩
      exact stopped
  | rLock =>
      rcases Option.map_eq_some_iff.mp performed with ⟨mu, _, rfl⟩
      exact stopped
  | _ =>
      simp only [perform, receiveFrom, takeMessage] at performed
      repeat' split at performed
      all_goals
        cases performed
        try exact stopped

/-! ## While the goroutines leave -/

/-- The state of a server whose steps were taken by some goroutines. -/
structure ServedBy (processes : Finset (WSProcess Client))
    (config : Config Client Data) : Prop where
  sound : Sound config
  own : Processes.KeepsTo WritesOwn config.program
  outside :
    ∀ process, process ∉ processes → config.memory.mu.hold process = .free
  listed : ∀ client ∈ config.memory.clients, .handler client ∈ processes

/-- The server is stopped, and none of the goroutines is to stop it again. -/
structure Draining (processes : Finset (WSProcess Client))
    (config : Config Client Data) : Prop extends ServedBy processes config where
  noPanic : config.memory.panic = none
  stopped : config.memory.stopCh.closed = true
  noStop : ∀ process ∈ processes, .closeStop ∉ config.program process

section Leaving

variable {processes : Finset (WSProcess Client)} {config : Config Client Data}

theorem servedBy_start (processes : Finset (WSProcess Client)) :
    ServedBy processes (start messages : Config Client Data) where
  sound := sound_start
  own := by
    intro process operation member
    rcases program_start process with program | program
    · rw [program] at member
      cases member
    · rw [program] at member
      exact writesOwn_entry process operation member
  outside := fun process _ => RWMutex.hold_unlocked process
  listed := by
    intro client member
    cases member

theorem ServedBy.step (served : ServedBy processes config)
    (label : WSProcess Client × Choice Client)
    (member : label.1 ∈ processes) :
    ServedBy processes
      (Processes.step execute (entry messages) config label) := by
  have sound :
      Sound (Processes.step execute (entry messages) config label) :=
    served.sound.step label
  rcases label with ⟨process, choice⟩
  rcases Processes.executes_cases execute (entry messages) config process
      choice with
    ⟨_, same⟩ |
      ⟨_, operation, rest, effect, program, executed, equation⟩
  · rw [same]
    exact served
  rcases execute_eq_some_iff.mp executed with ⟨_, performed⟩
  have executes : Executes config process choice operation rest effect :=
    ⟨served.sound.orderly, program, performed⟩
  have frame := frame_perform performed
  rw [equation] at sound ⊢
  refine { sound := sound, own := ?_, outside := ?_, listed := ?_ }
  · have own : WritesOwn process operation := by
      apply served.own process operation
      rw [program]
      exact List.mem_cons_self
    exact
      served.own.next writesOwn_entry effect.started program
        (frame.continues.writesOwn own)
  · intro other notMember
    rcases executes.holds with ⟨holds, guarded⟩
    have others := (guardedAfter_perform performed holds guarded).2
    have ne : other ≠ process := by
      rintro rfl
      exact notMember member
    exact (others other ne).trans (served.outside other notMember)
  · intro client isListed
    rcases frame.listed client isListed with rfl | isListed
    · have isHandler : process = .handler client := executes.allowed
      exact isHandler ▸ member
    · exact served.listed client isListed

theorem servedBy_serve (messages : Nat → Option Data)
    {schedule : List (WSProcess Client × Choice Client)}
    (within : ∀ label ∈ schedule, label.1 ∈ processes) :
    ServedBy processes (serve messages schedule) :=
  Processes.run_invariant_within
    (fun _ label member served => served.step label member)
    (servedBy_start processes) within

theorem Draining.step (draining : Draining processes config)
    (label : WSProcess Client × Choice Client)
    (member : label.1 ∈ processes) :
    Draining processes
      (Processes.step execute (entry messages) config label) := by
  have served :
      ServedBy processes
        (Processes.step execute (entry messages) config label) :=
    draining.toServedBy.step label member
  rcases label with ⟨process, choice⟩
  rcases Processes.executes_cases execute (entry messages) config process
      choice with
    ⟨_, same⟩ |
      ⟨_, operation, rest, effect, program, executed, equation⟩
  · rw [same]
    exact draining
  rcases execute_eq_some_iff.mp executed with ⟨_, performed⟩
  have executes : Executes config process choice operation rest effect :=
    ⟨draining.sound.orderly, program, performed⟩
  have frame := frame_perform performed
  have noStop := draining.noStop process member
  rw [program, List.mem_cons, not_or] at noStop
  rw [equation] at served ⊢
  refine
    { toServedBy := served
      noPanic := ?_
      stopped := stopCh_perform performed draining.stopped
      noStop := ?_ }
  · by_contra panics
    rcases Option.ne_none_iff_exists'.mp panics with ⟨panic, panics⟩
    have cause : Faults config.memory process operation panic := by
      rcases frame.faults panic panics with earlier | cause
      · rw [draining.noPanic] at earlier
        cases earlier
      · exact cause
    have stops :=
      executes.quiet draining.sound.distributorAt
        draining.sound.broadcastOpen cause
    subst stops
    cases cause
    exact noStop.1 rfl
  · intro other otherMember
    change Operation.closeStop ∉ Processes.programs _ _ _ _ _ other
    rw [Processes.programs_apply]
    split
    · rename_i started
      rcases executes.started_cases started with
        ⟨_, client, _, rfl | rfl⟩
      · simp [entry, readPump]
      · simp [entry, writePump]
    · split
      · rw [List.mem_append, not_or]
        exact ⟨frame.continues.closeStop_notMem, noStop.2⟩
      · exact draining.noStop other otherMember

theorem Draining.run (draining : Draining processes config)
    {schedule : List (WSProcess Client × Choice Client)}
    (within : ∀ label ∈ schedule, label.1 ∈ processes) :
    Draining processes
      (LabelledRun.run (Processes.step execute (entry messages)) config
        schedule) :=
  Processes.run_invariant_within
    (fun _ label member draining => draining.step label member)
    draining within

/-- An operation can be done, unless it waits for the mutex. -/
theorem exists_perform
    (stopped : server.stopCh.closed = true)
    (holds : server.mu.hold process = requires operation)
    (idle :
      operation = .lock ∨ operation = .rLock →
        ∀ other, server.mu.hold other = .free) :
    ∃ choice effect,
      server.perform process choice operation = some effect := by
  cases operation with
  | lock =>
      rcases RWMutex.exists_lock (idle (Or.inl rfl)) process with
        ⟨mu, locked⟩
      exact ⟨.leave, _, by rw [perform, locked, Option.map_some]⟩
  | rLock =>
      have noWriter : ∀ other, server.mu.hold other ≠ .writing := by
        intro other
        rw [idle (Or.inr rfl) other]
        decide
      rcases RWMutex.exists_rLock noWriter process with ⟨mu, locked⟩
      exact ⟨.leave, _, by rw [perform, locked, Option.map_some]⟩
  | unlock =>
      rcases RWMutex.exists_unlock holds with ⟨mu, unlocked, _⟩
      exact ⟨.leave, _, by rw [perform, unlocked]⟩
  | rUnlock =>
      rcases RWMutex.exists_rUnlock holds with ⟨mu, unlocked, _⟩
      exact ⟨.leave, _, by rw [perform, unlocked]⟩
  | closeSend client =>
      cases closes : (server.send client).close with
      | none => exact ⟨.leave, _, by rw [perform, closes]⟩
      | some channel => exact ⟨.leave, _, by rw [perform, closes]⟩
  | closeStop =>
      exact
        ⟨.leave, _, by rw [perform, Channel.close_eq_none_iff.mpr stopped]⟩
  | upgrade client => exact ⟨.leave, _, by rw [perform, if_pos rfl]⟩
  | readSelect client => exact ⟨.leave, _, by rw [perform, if_pos stopped]⟩
  | readMessage client =>
      exact ⟨.leave, _, by rw [perform, if_pos (Or.inl rfl)]⟩
  | writeMessage client message =>
      exact ⟨.leave, _, by rw [perform, if_pos (Or.inl rfl)]⟩
  | writeSelect client =>
      exact ⟨.leave, _, by rw [perform, if_pos rfl, if_pos stopped]⟩
  | distribute =>
      exact ⟨.leave, _, by rw [perform, if_pos rfl, if_pos stopped]⟩
  | rangeSend message visited =>
      by_cases all : server.clients ⊆ visited
      · exact ⟨.leave, _, if_pos all⟩
      · rcases Finset.not_subset.mp all with ⟨client, listed, unvisited⟩
        exact ⟨.visit client, _, if_pos ⟨listed, unvisited⟩⟩
  | rangeClose visited =>
      by_cases all : server.clients ⊆ visited
      · exact ⟨.leave, _, if_pos all⟩
      · rcases Finset.not_subset.mp all with ⟨client, listed, unvisited⟩
        exact ⟨.visit client, _, if_pos ⟨listed, unvisited⟩⟩
  | _ => exact ⟨.leave, _, rfl⟩

/-- A goroutine which is not done can go on, or the holder of the mutex can. -/
theorem Draining.exists_executes (draining : Draining processes config)
    {process : WSProcess Client} (member : process ∈ processes)
    (unfinished : config.program process ≠ []) :
    ∃ process ∈ processes, ∃ choice,
      Processes.executes execute config (process, choice) = true := by
  have goesOn :
      ∀ process ∈ processes, ∀ operation rest,
        config.program process = operation :: rest →
          (operation = .lock ∨ operation = .rLock →
            ∀ other, config.memory.mu.hold other = .free) →
              ∃ process ∈ processes, ∃ choice,
                Processes.executes execute config (process, choice) = true := by
    intro process member operation rest program idle
    have guarded := draining.sound.orderly.guarded process
    rw [program, guarded_cons] at guarded
    rcases exists_perform draining.stopped guarded.1 idle with
      ⟨choice, effect, performed⟩
    refine ⟨process, member, choice, ?_⟩
    simp [Processes.executes, program, execute, draining.noPanic, performed]
  by_cases held : ∃ holder, config.memory.mu.hold holder ≠ .free
  · rcases held with ⟨holder, holds⟩
    have holderMember : holder ∈ processes := by
      by_contra notMember
      exact holds (draining.outside holder notMember)
    have guarded := draining.sound.orderly.guarded holder
    cases program : config.program holder with
    | nil =>
        rw [program, guarded_nil] at guarded
        exact absurd guarded holds
    | cons operation rest =>
        rw [program, guarded_cons] at guarded
        apply goesOn holder holderMember operation rest program
        rintro (rfl | rfl)
        · exact absurd guarded.1 holds
        · exact absurd guarded.1 holds
  · cases program : config.program process with
    | nil => exact absurd program unfinished
    | cons operation rest =>
        apply goesOn process member operation rest program
        intro _ other
        by_contra holds
        exact held ⟨other, holds⟩

/-- No client is left when its goroutines are done. -/
theorem Draining.unlisted (draining : Draining processes config)
    {client : Client} (handled : config.program (.handler client) = [])
    (read : config.program (.reader client) = []) :
    client ∉ config.memory.clients := by
  have phase := draining.sound.orderly.phase client
  rw [PhaseOf, handled, read] at phase
  cases phase with
  | arriving handlerAt _ _ _ _ =>
      simp [handleWS, register] at handlerAt
  | registered handlerAt _ _ _ => simp [register] at handlerAt
  | reading _ readerAt _ => simp [Reading, readPump] at readerAt
  | leaving _ readerAt _ _ => simp [readPump] at readerAt
  | gone _ _ unlisted => exact unlisted

/-- What the goroutines can still do is bounded. -/
theorem Draining.executedSteps_le (draining : Draining processes config)
    {schedule : List (WSProcess Client × Choice Client)}
    (within : ∀ label ∈ schedule, label.1 ∈ processes) :
    Processes.executedSteps execute (entry messages) config schedule ≤
      Processes.effort (buffered (processes.biUnion clientsOf))
        (weight (processes.biUnion clientsOf)) processes config := by
  apply
    Processes.executedSteps_le_effort
      (fun config label member (draining : Draining processes config) =>
        draining.step label member)
      ?_ draining within
  intro config process choice operation rest effect member draining program
    executed
  rcases execute_eq_some_iff.mp executed with ⟨_, performed⟩
  have executes : Executes config process choice operation rest effect :=
    ⟨draining.sound.orderly, program, performed⟩
  apply lightens_perform performed draining.stopped ?_ ?_ executes.allowed
  · intro client isListed
    exact
      Finset.mem_biUnion.mpr
        ⟨.handler client, draining.listed client isListed,
          Finset.mem_singleton_self client⟩
  · rintro client rfl
    have isWriter : process = .writer client := by
      apply draining.own process (.writeSelect client)
      rw [program]
      exact List.mem_cons_self
    subst isWriter
    exact
      Finset.mem_biUnion.mpr
        ⟨.writer client, member, Finset.mem_singleton_self client⟩

end Leaving

/-! ## Every schedule -/

/-- Some goroutines are done, and so are the clients they all serve. -/
structure Finished (processes : Finset (WSProcess Client))
    (config : Config Client Data) : Prop where
  programs : ∀ process ∈ processes, config.program process = []
  clients :
    (∀ client, .handler client ∈ processes → .reader client ∈ processes) →
      config.memory.clients = ∅

theorem Draining.finished {processes : Finset (WSProcess Client)}
    {config : Config Client Data} (draining : Draining processes config)
    (programs : ∀ process ∈ processes, config.program process = []) :
    Finished processes config where
  programs := programs
  clients := by
    intro served
    apply Finset.eq_empty_of_forall_notMem
    intro client isListed
    have handles := draining.listed client isListed
    exact
      draining.unlisted (programs _ handles) (programs _ (served client handles))
        isListed

/--
The shutdown comes to an end: when the server is stopped, the goroutines which
have been running execute a bounded number of operations, in whatever order
they go on and whatever the selects choose.  Nothing panics, and as long as
one of them is not done, there is one which can go on.
-/
theorem shutdown_ends (messages : Nat → Option Data)
    (processes : Finset (WSProcess Client))
    (schedule : List (WSProcess Client × Choice Client))
    (within : ∀ label ∈ schedule, label.1 ∈ processes)
    (noPanic : (serve messages schedule).memory.panic = none)
    (stopped : (serve messages schedule).memory.stopCh.closed = true)
    (noStop :
      ∀ process ∈ processes,
        .closeStop ∉ (serve messages schedule).program process) :
    ∃ bound, ∀ further : List (WSProcess Client × Choice Client),
      (∀ label ∈ further, label.1 ∈ processes) →
        let later := serve messages (schedule ++ further)
        Processes.executedSteps execute (entry messages)
            (serve messages schedule) further ≤
              bound ∧
          later.memory.panic = none ∧
            (Finished processes later ∨
              ∃ process ∈ processes, ∃ choice,
                Processes.executes execute later (process, choice) = true) := by
  have draining : Draining processes (serve messages schedule) :=
    { toServedBy := servedBy_serve messages within, noPanic, stopped, noStop }
  refine ⟨_, fun further within => ⟨draining.executedSteps_le within, ?_⟩⟩
  have after : Draining processes (serve messages (schedule ++ further)) := by
    rw [serve, LabelledRun.run_append]
    exact draining.run within
  refine ⟨after.noPanic, ?_⟩
  by_cases programs :
      ∀ process ∈ processes,
        (serve messages (schedule ++ further)).program process = []
  · exact Or.inl (after.finished programs)
  · rcases not_forall.mp programs with ⟨process, unfinished⟩
    rcases Classical.not_imp.mp unfinished with ⟨member, unfinished⟩
    exact Or.inr (after.exists_executes member unfinished)

/-- The server is stopped after a client was registered. -/
theorem shutdown_ends_sample :
    let processes : Finset (WSProcess Nat) :=
      {.handler 0, .reader 0, .writer 0, .distributor, .stopper 0}
    let schedule : List (WSProcess Nat × Choice Nat) :=
      List.replicate 6 (.handler 0, .proceed) ++ [(.stopper 0, .proceed)]
    let config := serve (fun _ => some "tick") schedule
    ∃ bound, ∀ further : List (WSProcess Nat × Choice Nat),
      (∀ label ∈ further, label.1 ∈ processes) →
        let later := serve (fun _ => some "tick") (schedule ++ further)
        Processes.executedSteps execute (entry fun _ => some "tick") config
            further ≤
              bound ∧
          later.memory.panic = none ∧
            (Finished processes later ∨
              ∃ process ∈ processes, ∃ choice,
                Processes.executes execute later (process, choice) = true) :=
  shutdown_ends _ _ _ (by decide) rfl rfl (by
    intro process member
    simp only [Finset.mem_insert, Finset.mem_singleton] at member
    rcases member with rfl | rfl | rfl | rfl | rfl
    · change .closeStop ∉ ([] : List (Operation Nat String))
      simp
    · change .closeStop ∉ (readPump 0 : List (Operation Nat String))
      simp [readPump]
    · change .closeStop ∉ (writePump 0 : List (Operation Nat String))
      simp [writePump]
    · change .closeStop ∉ (distributor : List (Operation Nat String))
      simp [distributor]
    · change .closeStop ∉ (stop.tail : List (Operation Nat String))
      simp [stop])

end AeroRisk.Gateway.WSServer
