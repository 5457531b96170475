import AeroRisk.Gateway.WSOperations

/-!
# Safe shutdown of the WebSocket server

Two goroutines of a client take it out of the map and one of them closes its
channel, while the distributor ranges over the map and sends.  The lock
keeps them apart: a client in the map has an open channel, and nobody takes a
client out of the map while the distributor reads it.

What a client receives is a part of what the distributor took, in order,
because every message is in one place at a time: still to be sent to the
client, in the buffer of the client, or received.
-/

namespace AeroRisk.Gateway.WSServer

open AeroRisk.Library

universe u v

variable {Client : Type u} {Data : Type v} [DecidableEq Client]

variable
    {messages : Nat → Option Data}
    {process : WSProcess Client} {operation : Operation Client Data}
    {choice : Choice Client} {server : WSServer Client Data}
    {effect : Effect Client Data}

/-! ## The life of a client -/

/-- `HandleWS` of a client has started the goroutines, or the reader only. -/
def Started (client : Client) (handler writer : List (Operation Client Data)) :
    Prop :=
  handler = [.go (.writer client)] ∧ writer = [] ∨ handler = []

/-- `readPump` has not taken its client out of the map. -/
def Reading (client : Client) (reader : List (Operation Client Data)) : Prop :=
  reader = readPump client ∨
    reader = .readMessage client :: (readPump client).drop 1 ∨
      reader = (readPump client).drop 1 ∨ reader = (readPump client).drop 2

/--
The phases of a client, by what its goroutines have left to do.  A client is
in the map only while its channel is open.
-/
inductive Phase (client : Client)
    (handler reader writer : List (Operation Client Data)) (listed : Prop)
    (closed : Bool) : Prop where
  | arriving
      (handlerAt :
        handler = handleWS client ∨ handler = register client ∨
          handler = (register client).drop 1)
      (noReader : reader = []) (noWriter : writer = [])
      (unlisted : ¬ listed) (opened : closed = false)
  | registered
      (handlerAt :
        handler = (register client).drop 2 ∨
          handler = (register client).drop 3)
      (noReader : reader = []) (noWriter : writer = [])
      (opened : closed = false)
  | reading (started : Started client handler writer)
      (readerAt : Reading client reader) (opened : closed = false)
  | leaving (started : Started client handler writer)
      (readerAt :
        reader = (readPump client).drop 3 ∨ reader = (readPump client).drop 4)
      (unlisted : ¬ listed) (opened : closed = false)
  | gone (started : Started client handler writer)
      (readerAt : reader = (readPump client).drop 5 ∨ reader = [])
      (unlisted : ¬ listed)

section Phases

variable {client : Client}
    {handler reader writer : List (Operation Client Data)}
    {listed : Prop} {closed : Bool}

omit [DecidableEq Client] in
/-- A client in the map has an open channel. -/
theorem Phase.opened_of_listed
    (phase : Phase client handler reader writer listed closed)
    (isListed : listed) : closed = false := by
  cases phase with
  | arriving _ _ _ _ opened => exact opened
  | registered _ _ _ opened => exact opened
  | reading _ _ opened => exact opened
  | leaving _ _ _ opened => exact opened
  | gone _ _ unlisted => exact absurd isListed unlisted

omit [DecidableEq Client] in
/-- The channel is open when `readPump` is about to close it. -/
theorem Phase.opened_of_closing
    {rest : List (Operation Client Data)}
    (phase :
      Phase client handler (.closeSend client :: rest) writer listed closed) :
    closed = false := by
  cases phase with
  | arriving _ _ _ _ opened => exact opened
  | registered _ _ _ opened => exact opened
  | reading _ _ opened => exact opened
  | leaving _ _ _ opened => exact opened
  | gone _ readerAt _ => simp [readPump] at readerAt

omit [DecidableEq Client] in
/-- Other processes may take the client out of the map. -/
theorem Phase.weaken {stillListed : Prop} {stillClosed : Bool}
    (phase : Phase client handler reader writer listed closed)
    (lists : stillListed → listed)
    (closes : stillClosed = true → closed = true) :
    Phase client handler reader writer stillListed stillClosed := by
  have opens : closed = false → stillClosed = false := by
    intro opened
    by_contra notOpened
    simp [closes (by simpa using notOpened)] at opened
  cases phase with
  | arriving handlerAt noReader noWriter unlisted opened =>
      exact
        .arriving handlerAt noReader noWriter (unlisted ∘ lists)
          (opens opened)
  | registered handlerAt noReader noWriter opened =>
      exact .registered handlerAt noReader noWriter (opens opened)
  | reading started readerAt opened =>
      exact .reading started readerAt (opens opened)
  | leaving started readerAt unlisted opened =>
      exact .leaving started readerAt (unlisted ∘ lists) (opens opened)
  | gone started readerAt unlisted =>
      exact .gone started readerAt (unlisted ∘ lists)

omit [DecidableEq Client] in
/-- The program of `writePump` matters only until it runs. -/
theorem Phase.of_writer {operation : Operation Client Data}
    {rest : List (Operation Client Data)}
    (phase : Phase client handler reader (operation :: rest) listed closed)
    (later : List (Operation Client Data)) :
    Phase client handler reader later listed closed := by
  have finished :
      Started client handler (operation :: rest) →
        Started client handler later := by
    rintro (⟨_, noWriter⟩ | finished)
    · cases noWriter
    · exact Or.inr finished
  cases phase with
  | arriving _ _ noWriter _ _ => cases noWriter
  | registered _ _ noWriter _ => cases noWriter
  | reading started readerAt opened =>
      exact .reading (finished started) readerAt opened
  | leaving started readerAt unlisted opened =>
      exact .leaving (finished started) readerAt unlisted opened
  | gone started readerAt unlisted =>
      exact .gone (finished started) readerAt unlisted

omit [DecidableEq Client] in
/-- A goroutine is not running before it is started. -/
theorem Phase.reader_eq_nil {rest : List (Operation Client Data)}
    (phase :
      Phase client (.go (.reader client) :: rest) reader writer listed
        closed) :
    reader = [] := by
  have notStarted : ¬ Started client (.go (.reader client) :: rest) writer := by
    simp [Started]
  cases phase with
  | arriving _ noReader _ _ _ => exact noReader
  | registered _ noReader _ _ => exact noReader
  | reading started _ _ => exact absurd started notStarted
  | leaving started _ _ _ => exact absurd started notStarted
  | gone started _ _ => exact absurd started notStarted

omit [DecidableEq Client] in
@[inherit_doc Phase.reader_eq_nil]
theorem Phase.writer_eq_nil {rest : List (Operation Client Data)}
    (phase :
      Phase client (.go (.writer client) :: rest) reader writer listed
        closed) :
    writer = [] := by
  have noWriter :
      Started client (.go (.writer client) :: rest) writer → writer = [] := by
    rintro (⟨_, noWriter⟩ | finished)
    · exact noWriter
    · cases finished
  cases phase with
  | arriving _ _ noWriter _ _ => exact noWriter
  | registered _ _ noWriter _ => exact noWriter
  | reading started _ _ => exact noWriter started
  | leaving started _ _ _ => exact noWriter started
  | gone started _ _ => exact noWriter started

/-- The programs of the goroutines which an effect may have started. -/
def readerAfter (effect : Effect Client Data) (client : Client)
    (reader : List (Operation Client Data)) : List (Operation Client Data) :=
  if effect.started = some (.reader client) then readPump client else reader

@[inherit_doc readerAfter]
def writerAfter (effect : Effect Client Data) (client : Client)
    (writer : List (Operation Client Data)) : List (Operation Client Data) :=
  if effect.started = some (.writer client) then writePump client else writer

@[simp]
theorem readerAfter_onward {later : WSServer Client Data}
    (continuation : List (Operation Client Data)) :
    readerAfter (later.onward continuation) client reader = reader := by
  simp [readerAfter, onward]

@[simp]
theorem writerAfter_onward {later : WSServer Client Data}
    (continuation : List (Operation Client Data)) :
    writerAfter (later.onward continuation) client writer = writer := by
  simp [writerAfter, onward]

/-- `HandleWS` takes its client through the first phases. -/
theorem Phase.of_handler {operation : Operation Client Data}
    {rest : List (Operation Client Data)}
    (phase :
      Phase client (operation :: rest) reader writer
        (client ∈ server.clients) (server.send client).closed)
    (performed :
      server.perform (.handler client) choice operation = some effect) :
    Phase client (effect.continuation ++ rest)
      (readerAfter effect client reader) (writerAfter effect client writer)
      (client ∈ effect.memory.clients)
      (effect.memory.send client).closed := by
  have starts :
      Started client (operation :: rest) writer →
        operation = .go (.writer client) ∧ rest = [] ∧ writer = [] := by
    rintro (⟨handlerAt, noWriter⟩ | finished)
    · cases handlerAt
      exact ⟨rfl, rfl, noWriter⟩
    · cases finished
  have started :
      operation = .go (.writer client) → rest = [] → writer = [] →
        Started client (effect.continuation ++ rest)
          (writerAfter effect client writer) := by
    rintro rfl rfl rfl
    cases performed
    exact Or.inr rfl
  cases phase with
  | arriving handlerAt noReader noWriter unlisted opened =>
      subst noReader noWriter
      rcases handlerAt with handlerAt | handlerAt | handlerAt
      · cases handlerAt
        rw [perform] at performed
        split at performed
        · cases performed
          exact .gone (Or.inr rfl) (Or.inr rfl) unlisted
        · cases performed
          refine .arriving (Or.inr (Or.inl rfl)) rfl rfl unlisted ?_
          simp [onward, setSend]
      · cases handlerAt
        rcases Option.map_eq_some_iff.mp performed with ⟨mu, _, rfl⟩
        exact .arriving (Or.inr (Or.inr rfl)) rfl rfl unlisted opened
      · cases handlerAt
        cases performed
        exact .registered (Or.inl rfl) rfl rfl opened
  | registered handlerAt noReader noWriter opened =>
      subst noReader noWriter
      rcases handlerAt with handlerAt | handlerAt
      · cases handlerAt
        rw [perform] at performed
        split at performed
        · cases performed
          exact .registered (Or.inr rfl) rfl rfl opened
        · cases performed
          exact .registered (Or.inr rfl) rfl rfl opened
      · cases handlerAt
        cases performed
        refine .reading (Or.inl ⟨rfl, ?_⟩) (Or.inl ?_) opened
        · simp [writerAfter]
        · simp [readerAfter]
  | reading before readerAt opened =>
      rcases starts before with ⟨rfl, rfl, rfl⟩
      have after := started rfl rfl rfl
      cases performed
      exact .reading after (by simpa [readerAfter] using readerAt) opened
  | leaving before readerAt unlisted opened =>
      rcases starts before with ⟨rfl, rfl, rfl⟩
      have after := started rfl rfl rfl
      cases performed
      exact
        .leaving after (by simpa [readerAfter] using readerAt) unlisted opened
  | gone before readerAt unlisted =>
      rcases starts before with ⟨rfl, rfl, rfl⟩
      have after := started rfl rfl rfl
      cases performed
      exact .gone after (by simpa [readerAfter] using readerAt) unlisted

/-- `readPump` takes its client out of the map, and then closes its channel. -/
theorem Phase.of_reader {operation : Operation Client Data}
    {rest : List (Operation Client Data)}
    (phase :
      Phase client handler (operation :: rest) writer
        (client ∈ server.clients) (server.send client).closed)
    (performed :
      server.perform (.reader client) choice operation = some effect) :
    Phase client handler (effect.continuation ++ rest) writer
      (client ∈ effect.memory.clients)
      (effect.memory.send client).closed := by
  cases phase with
  | arriving _ noReader _ _ _ => cases noReader
  | registered _ noReader _ _ => cases noReader
  | reading started readerAt opened =>
      rcases readerAt with readerAt | readerAt | readerAt | readerAt
      · cases readerAt
        rw [perform] at performed
        split at performed
        · cases performed
          exact .reading started (Or.inr (Or.inr (Or.inl rfl))) opened
        · cases performed
          exact .reading started (Or.inr (Or.inl rfl)) opened
      · cases readerAt
        rw [perform] at performed
        split at performed
        · cases performed
          exact .reading started (Or.inr (Or.inr (Or.inl rfl))) opened
        · cases performed
          exact .reading started (Or.inl rfl) opened
      · cases readerAt
        rcases Option.map_eq_some_iff.mp performed with ⟨mu, _, rfl⟩
        exact .reading started (Or.inr (Or.inr (Or.inr rfl))) opened
      · cases readerAt
        cases performed
        refine .leaving started (Or.inl rfl) ?_ opened
        simp [onward]
  | leaving started readerAt unlisted opened =>
      rcases readerAt with readerAt | readerAt
      · cases readerAt
        rw [perform] at performed
        split at performed
        · cases performed
          exact .leaving started (Or.inr rfl) unlisted opened
        · cases performed
          exact .leaving started (Or.inr rfl) unlisted opened
      · cases readerAt
        rw [perform] at performed
        split at performed
        · cases performed
          exact .gone started (Or.inl rfl) unlisted
        · cases performed
          exact .gone started (Or.inl rfl) unlisted
  | gone started readerAt unlisted =>
      rcases readerAt with readerAt | readerAt
      · cases readerAt
        cases performed
        exact .gone started (Or.inr rfl) unlisted
      · cases readerAt

end Phases

/-! ## The clients and the mutex in every state -/

/-- The phase of a client in a state. -/
def PhaseOf (client : Client) (config : Config Client Data) : Prop :=
  Phase client (config.program (.handler client))
    (config.program (.reader client)) (config.program (.writer client))
    (client ∈ config.memory.clients) (config.memory.send client).closed

/-- What holds of the programs, the mutex and the clients. -/
structure Orderly (config : Config Client Data) : Prop where
  allowed : Processes.KeepsTo Allowed config.program
  guarded : Processes.Fits Guarded config.memory.mu.hold config.program
  phase : ∀ client, PhaseOf client config

/-- The state after an operation of a process. -/
def afterEffect (messages : Nat → Option Data) (config : Config Client Data)
    (process : WSProcess Client) (effect : Effect Client Data)
    (rest : List (Operation Client Data)) : Config Client Data where
  memory := effect.memory
  program :=
    Processes.programs (entry messages) config.program process
      (effect.continuation ++ rest) effect.started

/-- An operation executed by a process in an orderly state. -/
structure Executes (config : Config Client Data) (process : WSProcess Client)
    (choice : Choice Client) (operation : Operation Client Data)
    (rest : List (Operation Client Data)) (effect : Effect Client Data) :
    Prop where
  orderly : Orderly config
  program : config.program process = operation :: rest
  performed : config.memory.perform process choice operation = some effect

section Executed

variable {config : Config Client Data} {rest : List (Operation Client Data)}

theorem Executes.allowed
    (executes : Executes config process choice operation rest effect) :
    Allowed process operation := by
  apply executes.orderly.allowed process operation
  rw [executes.program]
  exact List.mem_cons_self

theorem Executes.holds
    (executes : Executes config process choice operation rest effect) :
    config.memory.mu.hold process = requires operation ∧
      Guarded (leaves operation) rest := by
  have guarded := executes.orderly.guarded process
  rw [executes.program, guarded_cons] at guarded
  exact guarded

/-- Only `HandleWS` starts goroutines, and only those of its client. -/
theorem Executes.started_cases
    (executes : Executes config process choice operation rest effect)
    {other : WSProcess Client} (started : effect.started = some other) :
    operation = .go other ∧
      ∃ client, process = .handler client ∧
        (other = .reader client ∨ other = .writer client) := by
  have starts := (frame_perform executes.performed).started other started
  have allowed := executes.allowed
  subst starts
  cases other with
  | reader client => exact ⟨rfl, client, allowed, Or.inl rfl⟩
  | writer client => exact ⟨rfl, client, allowed, Or.inr rfl⟩
  | handler client => exact absurd allowed id
  | distributor => exact absurd allowed id
  | broadcaster call => exact absurd allowed id
  | stopper call => exact absurd allowed id

theorem Executes.not_started
    (executes : Executes config process choice operation rest effect)
    {client : Client} (ne : process ≠ .handler client) :
    effect.started ≠ some (.reader client) ∧
      effect.started ≠ some (.writer client) := by
  constructor
  · intro started
    rcases executes.started_cases started with
      ⟨_, other, rfl, same | same⟩ <;> cases same
    exact ne rfl
  · intro started
    rcases executes.started_cases started with
      ⟨_, other, rfl, same | same⟩ <;> cases same
    exact ne rfl

theorem Executes.handler_not_started
    (executes : Executes config process choice operation rest effect)
    (client : Client) : effect.started ≠ some (.handler client) := by
  intro started
  rcases executes.started_cases started with
    ⟨_, other, _, same | same⟩ <;> cases same

theorem Executes.keepsTo
    (executes : Executes config process choice operation rest effect) :
    Processes.KeepsTo Allowed
      (afterEffect messages config process effect rest).program :=
  executes.orderly.allowed.next allowed_entry effect.started
    executes.program
    ((frame_perform executes.performed).continues.allowed executes.allowed)

/-- A process which is started does not hold the mutex. -/
theorem Executes.hold_of_started
    (executes : Executes config process choice operation rest effect)
    {other : WSProcess Client} (started : effect.started = some other) :
    other ≠ process ∧ config.memory.mu.hold other = .free := by
  rcases executes.started_cases started with ⟨rfl, client, rfl, same⟩
  have phase := executes.orderly.phase client
  have guarded := executes.orderly.guarded other
  rw [PhaseOf, executes.program] at phase
  rcases same with rfl | rfl
  · refine ⟨by simp, ?_⟩
    rw [phase.reader_eq_nil, guarded_nil] at guarded
    exact guarded
  · refine ⟨by simp, ?_⟩
    rw [phase.writer_eq_nil, guarded_nil] at guarded
    exact guarded

theorem Executes.fits
    (executes : Executes config process choice operation rest effect) :
    Processes.Fits Guarded effect.memory.mu.hold
      (afterEffect messages config process effect rest).program := by
  rcases executes.holds with ⟨holds, guarded⟩
  rcases guardedAfter_perform executes.performed holds guarded with
    ⟨own, others⟩
  apply executes.orderly.guarded.next own others
  intro other started
  rcases executes.hold_of_started started with ⟨ne, free⟩
  rw [others other ne, free]
  exact guarded_entry other

/-- A client goes from phase to phase. -/
theorem Executes.phaseOf
    (executes : Executes config process choice operation rest effect)
    (client : Client) :
    PhaseOf client (afterEffect messages config process effect rest) := by
  have before := executes.orderly.phase client
  have notHandler := executes.handler_not_started client
  have performed := executes.performed
  by_cases isHandler : process = .handler client
  · subst isHandler
    rw [PhaseOf, executes.program] at before
    have after := before.of_handler performed
    simpa [PhaseOf, afterEffect, Processes.programs_apply, notHandler,
      readerAfter, writerAfter, entry] using after
  rcases executes.not_started isHandler with ⟨notReader, notWriter⟩
  by_cases isReader : process = .reader client
  · subst isReader
    rw [PhaseOf, executes.program] at before
    have after := before.of_reader performed
    simpa [PhaseOf, afterEffect, Processes.programs_apply, notHandler,
      notReader, notWriter] using after
  have frame := frame_perform performed
  have allowed := executes.allowed
  have lists :
      client ∈ effect.memory.clients → client ∈ config.memory.clients := by
    intro member
    rcases frame.listed client member with rfl | member
    · exact absurd allowed isHandler
    · exact member
  have closes :
      (effect.memory.send client).closed = true →
        (config.memory.send client).closed = true := by
    apply frame.closed client
    rintro rfl
    exact absurd allowed isReader
  have weakened := before.weaken lists closes
  by_cases isWriter : process = .writer client
  · subst isWriter
    rw [executes.program] at weakened
    have after := weakened.of_writer (effect.continuation ++ rest)
    simpa [PhaseOf, afterEffect, Processes.programs_apply, notHandler,
      notReader, notWriter] using after
  · simpa [PhaseOf, afterEffect, Processes.programs_apply, notHandler,
      notReader, notWriter, Ne.symm isHandler, Ne.symm isReader,
      Ne.symm isWriter] using weakened

end Executed

/-! ## The distributor -/

/-- The points of the distributor, where a client it sends to is in the map. -/
inductive DistributorAt (clients : Finset Client) :
    List (Operation Client Data) → Prop where
  | waiting : DistributorAt clients distributor
  | locking (message : Data) : DistributorAt clients (distributeTo message)
  | ranging (message : Data) (visited : Finset Client) :
      DistributorAt clients [.rangeSend message visited, .rUnlock, .distribute]
  | sending (message : Data) (visited : Finset Client) (client : Client)
      (listed : client ∈ clients) (unvisited : client ∉ visited) :
      DistributorAt clients
        [.trySend message visited client, .rUnlock, .distribute]
  | ranged : DistributorAt clients [.rUnlock, .distribute]
  | stopped : DistributorAt clients []

/-- What the distributor has left to send to a client. -/
def pending (client : Client) : List (Operation Client Data) → List Data
  | [] => []
  | .rangeSend message visited :: rest =>
      (if client ∈ visited then [] else [message]) ++ pending client rest
  | .trySend message visited _ :: rest =>
      (if client ∈ visited then [] else [message]) ++ pending client rest
  | _ :: rest => pending client rest

/-- What was taken and is received, in the buffer, or left to send. -/
def inTransit (client : Client) (config : Config Client Data) : List Data :=
  config.memory.received client ++ (config.memory.send client).buffer ++
    pending client (config.program .distributor)

/-- The invariant of the gateway. -/
structure Sound (config : Config Client Data) : Prop where
  orderly : Orderly config
  distributorAt :
    DistributorAt config.memory.clients (config.program .distributor)
  inOrder :
    ∀ client, List.Sublist (inTransit client config) config.memory.taken
  broadcastOpen : config.memory.broadcast.closed = false
  quiet :
    ∀ panic, config.memory.panic = some panic →
      panic = .closeOfClosed .stopCh

section Distributing

variable {config : Config Client Data} {rest : List (Operation Client Data)}

/-- The distributor goes from point to point. -/
theorem DistributorAt.next
    (point : DistributorAt server.clients (operation :: rest))
    (performed :
      server.perform .distributor choice operation = some effect) :
    DistributorAt effect.memory.clients (effect.continuation ++ rest) := by
  cases point with
  | waiting =>
      rw [perform] at performed
      split at performed
      · split at performed
        · cases performed
          exact .stopped
        · cases performed
      · rw [takeMessage] at performed
        split at performed
        · cases performed
        · cases performed
        · cases performed
          exact .locking _
  | locking message =>
      rcases Option.map_eq_some_iff.mp performed with ⟨mu, _, rfl⟩
      exact .ranging message ∅
  | ranging message visited =>
      rw [perform.eq_def] at performed
      dsimp only at performed
      split at performed
      · split at performed
        · rename_i found
          cases performed
          exact .sending message visited _ found.1 found.2
        · cases performed
      · split at performed
        · cases performed
          exact .ranged
        · cases performed
  | sending message visited client listed unvisited =>
      cases performed
      rw [sendTo]
      split
      · exact .ranged
      · exact .ranging message _
      · exact .ranging message _
  | ranged =>
      rw [perform] at performed
      split at performed
      · cases performed
        exact .waiting
      · cases performed
        exact .waiting

/-- A message the distributor takes is left to send to every client. -/
theorem sublist_takeMessage (taken : server.takeMessage = some effect)
    (client : Client)
    (before :
      List.Sublist
        (server.received client ++ (server.send client).buffer) server.taken) :
    List.Sublist
      (effect.memory.received client ++
        (effect.memory.send client).buffer ++
          pending client (effect.continuation ++ []))
      effect.memory.taken := by
  rw [takeMessage] at taken
  split at taken
  · cases taken
  · cases taken
  · rename_i message later attempt
    cases taken
    have after := before.append (List.Sublist.refl [message])
    simpa [onward, distributeTo, pending] using after

/-- What is left to send becomes less when more clients are visited. -/
theorem pending_sublist {message : Data}
    {visited later : Finset Client} (more : visited ⊆ later)
    (client : Client) :
    List.Sublist
      (pending client [.rangeSend message later, .rUnlock, .distribute])
      (pending client [.rangeSend message visited, .rUnlock, .distribute]) := by
  by_cases seen : client ∈ visited
  · simp [pending, seen, more seen]
  · by_cases later : client ∈ later <;> simp [pending, seen, later]

/-- A message is sent to a client or skipped, and is then not left to send. -/
theorem sublist_sendTo {message : Data} {visited : Finset Client}
    {target : Client} (unvisited : target ∉ visited) (client : Client)
    (before :
      List.Sublist
        (server.received client ++ (server.send client).buffer ++
          pending client [.rangeSend message visited, .rUnlock, .distribute])
        server.taken) :
    let effect :=
      server.sendTo target message
        [.rangeSend message (insert target visited)]
    List.Sublist
      (effect.memory.received client ++
        (effect.memory.send client).buffer ++
          pending client (effect.continuation ++ [.rUnlock, .distribute]))
      effect.memory.taken := by
  have skipped :
      List.Sublist
        (server.received client ++ (server.send client).buffer ++
          pending client
            [.rangeSend message (insert target visited), .rUnlock,
              .distribute])
        server.taken :=
    ((List.Sublist.refl _).append
      (pending_sublist (Finset.subset_insert target visited) client)).trans
      before
  rw [sendTo]
  cases attempt : (server.send target).trySend message with
  | fault =>
      have nothing := (List.sublist_append_left _ _).trans before
      simpa [fault, onward, pending] using nothing
  | full => simpa [onward] using skipped
  | sent later =>
      by_cases same : client = target
      · subst same
        simpa [onward, setSend, pending, unvisited,
          Channel.buffer_of_sent attempt] using before
      · simpa [onward, setSend, same] using skipped

/-- The distributor keeps the messages of a client in order. -/
theorem DistributorAt.sublist
    (point : DistributorAt server.clients (operation :: rest))
    (performed :
      server.perform .distributor choice operation = some effect)
    (client : Client)
    (before :
      List.Sublist
        (server.received client ++ (server.send client).buffer ++
          pending client (operation :: rest))
        server.taken) :
    List.Sublist
      (effect.memory.received client ++
        (effect.memory.send client).buffer ++
          pending client (effect.continuation ++ rest))
      effect.memory.taken := by
  cases point with
  | waiting =>
      have nothing := (List.sublist_append_left _ _).trans before
      rw [perform] at performed
      split at performed
      · split at performed
        · cases performed
          simpa [onward, pending] using nothing
        · cases performed
      · exact sublist_takeMessage performed client nothing
  | locking message =>
      rcases Option.map_eq_some_iff.mp performed with ⟨mu, _, rfl⟩
      exact before
  | ranging message visited =>
      rw [perform.eq_def] at performed
      dsimp only at performed
      split at performed
      · split at performed
        · cases performed
          exact before
        · cases performed
      · split at performed
        · cases performed
          have nothing := (List.sublist_append_left _ _).trans before
          simpa [onward, pending] using nothing
        · cases performed
  | sending message visited target listed unvisited =>
      cases performed
      exact sublist_sendTo unvisited client before
  | ranged =>
      rw [perform] at performed
      split at performed
      · cases performed
        exact before
      · cases performed
        exact before

/-- The program of the distributor after an operation. -/
theorem Executes.distributor_program
    (executes : Executes config process choice operation rest effect) :
    (afterEffect messages config process effect rest).program .distributor =
      if process = .distributor then
        effect.continuation ++ rest
      else
        config.program .distributor := by
  have notStarted : effect.started ≠ some .distributor := by
    intro started
    rcases executes.started_cases started with
      ⟨_, client, _, same | same⟩ <;> cases same
  simp [afterEffect, Processes.programs_apply, notStarted, eq_comm]

/-- Nobody else takes a client out of the map while the distributor reads. -/
theorem Executes.listed_of_sending
    (executes : Executes config process choice operation rest effect)
    {message : Data} {visited : Finset Client} {client : Client}
    {later : List (Operation Client Data)}
    (sending :
      config.program .distributor = .trySend message visited client :: later)
    (listed : client ∈ config.memory.clients) :
    client ∈ effect.memory.clients := by
  rcases (frame_perform executes.performed).unlisted client listed with
    rfl | listed
  · have reads := executes.orderly.guarded .distributor
    rw [sending, guarded_cons] at reads
    have writes := executes.holds.1
    exact absurd reads.1 (RWMutex.hold_ne_reading_of_writing writes)
  · exact listed

theorem Executes.distributorAt
    (executes : Executes config process choice operation rest effect)
    (point :
      DistributorAt config.memory.clients (config.program .distributor)) :
    DistributorAt effect.memory.clients
      ((afterEffect messages config process effect rest).program
        .distributor) := by
  rw [executes.distributor_program]
  split
  · rename_i same
    subst same
    rw [executes.program] at point
    exact point.next executes.performed
  · generalize program : config.program .distributor = points at point
    cases point with
    | waiting => exact .waiting
    | locking message => exact .locking message
    | ranging message visited => exact .ranging message visited
    | sending message visited client listed unvisited =>
        exact
          .sending message visited client
            (executes.listed_of_sending program listed) unvisited
    | ranged => exact .ranged
    | stopped => exact .stopped

/-- The messages of a client stay in order. -/
theorem Executes.inOrder
    (executes : Executes config process choice operation rest effect)
    (point :
      DistributorAt config.memory.clients (config.program .distributor))
    (client : Client)
    (before : List.Sublist (inTransit client config) config.memory.taken) :
    List.Sublist
      (inTransit client (afterEffect messages config process effect rest))
      effect.memory.taken := by
  rw [inTransit, executes.distributor_program]
  split
  · rename_i same
    subst same
    rw [executes.program] at point
    rw [inTransit, executes.program] at before
    exact point.sublist executes.performed client before
  · rename_i other
    have keeps : ¬ Distributes operation := by
      intro distributes
      have allowed := executes.allowed
      cases operation with
      | distribute => exact other allowed
      | trySend message visited client => exact other allowed
      | _ => exact distributes
    have frame := frame_perform executes.performed
    rw [frame.taken keeps]
    exact
      ((frame.queue keeps client).append (List.Sublist.refl _)).trans before

/--
The channel of a client is open when it is sent to or closed, and the mutex is
held when it is given up; only another `Stop` can panic.
-/
theorem Executes.quiet
    (executes : Executes config process choice operation rest effect)
    (point :
      DistributorAt config.memory.clients (config.program .distributor))
    (broadcastOpen : config.memory.broadcast.closed = false)
    {panic : Panic Client}
    (cause : Faults config.memory process operation panic) :
    panic = .closeOfClosed .stopCh := by
  cases cause with
  | send message visited client closed =>
      have isDistributor : process = .distributor := executes.allowed
      subst isDistributor
      rw [executes.program] at point
      cases point with
      | sending _ _ _ listed _ =>
          have opened :=
            (executes.orderly.phase client).opened_of_listed listed
          simp [opened] at closed
  | close client closed =>
      have isReader : process = .reader client := executes.allowed
      subst isReader
      have phase := executes.orderly.phase client
      rw [PhaseOf, executes.program] at phase
      simp [phase.opened_of_closing] at closed
  | stop => rfl
  | offer message closed => simp [broadcastOpen] at closed
  | unlock refused =>
      rcases RWMutex.exists_unlock executes.holds.1 with ⟨mu, unlocked, _⟩
      rw [refused] at unlocked
      cases unlocked
  | rUnlock refused =>
      rcases RWMutex.exists_rUnlock executes.holds.1 with ⟨mu, unlocked, _⟩
      rw [refused] at unlocked
      cases unlocked

end Distributing

/-! ## Every schedule -/

theorem execute_eq_some_iff :
    execute process operation choice server = some effect ↔
      server.panic = none ∧
        server.perform process choice operation = some effect := by
  rw [execute]
  split <;> simp_all

omit [DecidableEq Client] in
theorem program_start (process : WSProcess Client) :
    (start messages).program process = [] ∨
      (start messages).program process = entry messages process := by
  cases process with
  | reader client => exact Or.inl rfl
  | writer client => exact Or.inl rfl
  | handler client => exact Or.inr rfl
  | distributor => exact Or.inr rfl
  | broadcaster call => exact Or.inr rfl
  | stopper call => exact Or.inr rfl

theorem sound_start : Sound (start messages : Config Client Data) where
  orderly :=
    { allowed := by
        intro process operation member
        rcases program_start process with program | program
        · rw [program] at member
          cases member
        · rw [program] at member
          exact allowed_entry process operation member
      guarded := by
        intro process
        have free : (start messages).memory.mu.hold process = .free :=
          RWMutex.hold_unlocked process
        rw [free]
        rcases program_start process with program | program
        · rw [program, guarded_nil]
        · rw [program]
          exact guarded_entry process
      phase := by
        intro client
        refine .arriving (Or.inl rfl) rfl rfl ?_ rfl
        simp [start, newWSServer] }
  distributorAt := .waiting
  inOrder := by
    intro client
    simp [inTransit, start, newWSServer, pending, entry, distributor]
  broadcastOpen := rfl
  quiet := by
    intro panic panics
    cases panics

theorem Sound.step {config : Config Client Data} (sound : Sound config)
    (label : WSProcess Client × Choice Client) :
    Sound (Processes.step execute (entry messages) config label) := by
  refine
    Processes.step_invariant (fun config process choice operation rest effect
      sound program executed => ?_) config label sound
  rcases execute_eq_some_iff.mp executed with ⟨_, performed⟩
  have executes : Executes config process choice operation rest effect :=
    ⟨sound.orderly, program, performed⟩
  exact
    { orderly :=
        ⟨executes.keepsTo, executes.fits, executes.phaseOf⟩
      distributorAt := executes.distributorAt sound.distributorAt
      inOrder := fun client =>
        executes.inOrder sound.distributorAt client (sound.inOrder client)
      broadcastOpen :=
        (frame_perform performed).broadcast.trans sound.broadcastOpen
      quiet := by
        intro panic panics
        rcases (frame_perform performed).faults panic panics with
          earlier | cause
        · exact sound.quiet panic earlier
        · exact
            executes.quiet sound.distributorAt sound.broadcastOpen cause }

theorem sound_serve (messages : Nat → Option Data)
    (schedule : List (WSProcess Client × Choice Client)) :
    Sound (serve messages schedule) :=
  LabelledRun.run_invariant_of_every (fun _ label sound => sound.step label)
    schedule sound_start

/-- The only panic of the server is that of a further `Stop`. -/
theorem panic_serve (messages : Nat → Option Data)
    (schedule : List (WSProcess Client × Choice Client))
    {panic : Panic Client}
    (panics : (serve messages schedule).memory.panic = some panic) :
    panic = .closeOfClosed .stopCh :=
  (sound_serve messages schedule).quiet panic panics

/--
Safe shutdown: in every interleaving no message is sent on a closed channel
of a client, no channel of a client is closed twice, and a client receives a
part of what the distributor took, in order.
-/
theorem serve_safe (messages : Nat → Option Data)
    (schedule : List (WSProcess Client × Choice Client)) :
    let server := (serve messages schedule).memory
    ∀ client,
      server.panic ≠ some (.sendOnClosed (.send client)) ∧
        server.panic ≠ some (.closeOfClosed (.send client)) ∧
          List.Sublist (server.received client) server.taken := by
  intro server client
  refine ⟨?_, ?_, ?_⟩
  · intro panics
    cases panic_serve messages schedule panics
  · intro panics
    cases panic_serve messages schedule panics
  · apply List.Sublist.trans _ ((sound_serve messages schedule).inOrder client)
    rw [inTransit, List.append_assoc]
    exact List.sublist_append_left _ _

/-- A client which is served, and then leaves. -/
example :
    let proceed : WSProcess Nat → WSProcess Nat × Choice Nat :=
      fun process => (process, .proceed)
    let schedule :=
      List.replicate 6 (proceed (.handler 0)) ++
        [proceed (.broadcaster 0), proceed .distributor,
          proceed .distributor, (.distributor, .visit 0),
          proceed .distributor, proceed .distributor, proceed .distributor,
          proceed (.writer 0), proceed (.stopper 0)] ++
        List.replicate 7 (proceed (.reader 0))
    (serve (fun _ => some "tick") schedule).memory.received 0 = ["tick"] := by
  decide

end AeroRisk.Gateway.WSServer
