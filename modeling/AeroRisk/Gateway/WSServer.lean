import AeroRisk.Library.Channels
import AeroRisk.Library.Processes

/-!
# The WebSocket server of the gateway

`WSServer` serves every client with two goroutines, distributes what is
broadcast to the clients, and is stopped by closing a channel.  Every method
is a process here, and its program is the list of its lock, channel and map
operations; the deferred operations are the end of the program.

A connection which is not closed may fail at any time.  The contents of what
clients send are not used.
-/

namespace AeroRisk.Gateway

open AeroRisk.Library

universe u v

/-- The goroutines.  `HandleWS` makes one client, which names its process. -/
inductive WSProcess (Client : Type u) where
  | handler (client : Client)
  | reader (client : Client)
  | writer (client : Client)
  | distributor
  /-- A call of `Broadcast`. -/
  | broadcaster (call : Nat)
  /-- A call of `Stop`. -/
  | stopper (call : Nat)
deriving DecidableEq, Repr

/-- The channels of the server. -/
inductive WSChannel (Client : Type u) where
  | send (client : Client)
  | broadcast
  | stopCh
deriving DecidableEq, Repr

/-- What brings the gateway down. -/
inductive Panic (Client : Type u) where
  | sendOnClosed (channel : WSChannel Client)
  | closeOfClosed (channel : WSChannel Client)
  | unlockOfUnlocked
deriving DecidableEq, Repr

/-- The operations of the goroutines. -/
inductive Operation (Client : Type u) (Data : Type v) where
  /-- Upgrade a connection, and make its client. -/
  | upgrade (client : Client)
  | lock
  | unlock
  | rLock
  | rUnlock
  /-- `s.clients[client] = true`. -/
  | insert (client : Client)
  | delete (client : Client)
  /-- `close(client.send)`. -/
  | closeSend (client : Client)
  /-- `client.conn.Close()`. -/
  | closeConn (client : Client)
  | go (process : WSProcess Client)
  /-- The `select` of `readPump`. -/
  | readSelect (client : Client)
  | readMessage (client : Client)
  /-- The `select` of `writePump`. -/
  | writeSelect (client : Client)
  | writeMessage (client : Client) (message : Data)
  /-- The `select` of `Broadcast`. -/
  | offer (message : Data)
  /-- The `select` of the distributor. -/
  | distribute
  /-- `for client := range s.clients` of the distributor. -/
  | rangeSend (message : Data) (visited : Finset Client)
  /-- The `select` for one client of the distributor. -/
  | trySend (message : Data) (visited : Finset Client) (client : Client)
  /-- `close(s.stopCh)`. -/
  | closeStop
  /-- `for client := range s.clients` of `Stop`. -/
  | rangeClose (visited : Finset Client)

/-- How an operation with several outcomes goes. -/
inductive Choice (Client : Type u) where
  /-- It succeeds, takes the message, or ends the range. -/
  | proceed
  /-- It fails, or takes the stop case. -/
  | leave
  /-- The range goes to a client. -/
  | visit (client : Client)
deriving DecidableEq, Repr

/-- `WSServer` with its clients, and a record of what went through it. -/
structure WSServer (Client : Type u) (Data : Type v) where
  clients : Finset Client
  mu : RWMutex (WSProcess Client)
  broadcast : Channel Data
  /-- Nothing is ever sent on `stopCh`. -/
  stopCh : Channel Unit
  send : Client → Channel Data
  connClosed : Client → Bool
  panic : Option (Panic Client)
  /-- What the distributor took from `broadcast`. -/
  taken : List Data
  /-- What the `writePump` of a client took from its `send`. -/
  received : Client → List Data

namespace WSServer

variable {Client : Type u} {Data : Type v}

/-- `NewWSServer`. -/
def newWSServer : WSServer Client Data where
  clients := ∅
  mu := RWMutex.unlocked
  broadcast := Channel.make 256
  stopCh := Channel.make 0
  send := fun _ => Channel.make 256
  connClosed := fun _ => false
  panic := none
  taken := []
  received := fun _ => []

/-! ## The programs -/

/-- `HandleWS` after the upgrade. -/
def register (client : Client) : List (Operation Client Data) :=
  [.lock, .insert client, .unlock, .go (.reader client), .go (.writer client)]

/-- `HandleWS`. -/
def handleWS (client : Client) : List (Operation Client Data) :=
  [.upgrade client]

/-- `readPump`: its loop, and what it defers. -/
def readPump (client : Client) : List (Operation Client Data) :=
  [.readSelect client, .lock, .delete client, .unlock, .closeSend client,
    .closeConn client]

/-- `writePump`: its loop, and what it defers. -/
def writePump (client : Client) : List (Operation Client Data) :=
  [.writeSelect client, .lock, .delete client, .unlock, .closeConn client]

/-- `Broadcast`, with the result of `json.Marshal`. -/
def broadcastOf : Option Data → List (Operation Client Data)
  | none => []
  | some data => [.offer data]

/-- The broadcast distributor of `Start`. -/
def distributor : List (Operation Client Data) :=
  [.distribute]

/-- The distributor with a message. -/
def distributeTo (message : Data) : List (Operation Client Data) :=
  [.rLock, .rangeSend message ∅, .rUnlock, .distribute]

/-- `Stop`. -/
def stop : List (Operation Client Data) :=
  [.closeStop, .lock, .rangeClose ∅, .unlock]

/-- The program of a process, where the messages of the calls are given. -/
def entry (messages : Nat → Option Data) :
    WSProcess Client → List (Operation Client Data)
  | .handler client => handleWS client
  | .reader client => readPump client
  | .writer client => writePump client
  | .distributor => distributor
  | .broadcaster call => broadcastOf (messages call)
  | .stopper _ => stop

/-! ## The operations -/

/-- The effect of an operation: the server after it, and what comes next. -/
abbrev Effect (Client : Type u) (Data : Type v) :=
  Processes.Effect (WSServer Client Data) (WSProcess Client)
    (Operation Client Data)

/-- Go on with some operations. -/
def onward (server : WSServer Client Data)
    (continuation : List (Operation Client Data)) : Effect Client Data where
  memory := server
  continuation := continuation
  started := none

/-- A panic: nothing is executed after it. -/
def fault (server : WSServer Client Data) (panic : Panic Client) :
    Effect Client Data :=
  onward { server with panic := some panic } []

variable [DecidableEq Client]

/-- `client.send` after an operation on it. -/
def setSend (server : WSServer Client Data) (client : Client)
    (channel : Channel Data) : WSServer Client Data :=
  { server with send := Function.update server.send client channel }

/-- `client.conn.Close()`. -/
def closeConn (server : WSServer Client Data) (client : Client) :
    WSServer Client Data :=
  { server with connClosed := Function.update server.connClosed client true }

/-- `client.send <- message`, or the default. -/
def sendTo (server : WSServer Client Data) (client : Client) (message : Data)
    (continuation : List (Operation Client Data)) : Effect Client Data :=
  match (server.send client).trySend message with
  | .fault => server.fault (.sendOnClosed (.send client))
  | .full => server.onward continuation
  | .sent later => (server.setSend client later).onward continuation

/-- `message, ok := <-client.send`. -/
def receiveFrom (server : WSServer Client Data) (client : Client) :
    Option (Effect Client Data) :=
  match (server.send client).receive with
  | .blocked => none
  | .closed => some (server.onward [])
  | .received message later =>
      let server :=
        { server with
          received :=
            Function.update server.received client
              (server.received client ++ [message]) }
      some ((server.setSend client later).onward
        [.writeMessage client message])

/-- `message := <-s.broadcast`; nobody closes `broadcast`. -/
def takeMessage (server : WSServer Client Data) :
    Option (Effect Client Data) :=
  match server.broadcast.receive with
  | .blocked => none
  | .closed => none
  | .received message later =>
      some
        (onward
          { server with broadcast := later, taken := server.taken ++ [message] }
          (distributeTo message))

/-- `s.broadcast <- data`, or the default. -/
def offerMessage (server : WSServer Client Data) (message : Data) :
    Effect Client Data :=
  match server.broadcast.trySend message with
  | .fault => server.fault (.sendOnClosed .broadcast)
  | .full => server.onward []
  | .sent later => onward { server with broadcast := later } []

/-- An operation of a process.  It has no result while it has to wait. -/
def perform (server : WSServer Client Data) (process : WSProcess Client)
    (choice : Choice Client) :
    Operation Client Data → Option (Effect Client Data)
  | .upgrade client =>
      if choice = .leave then
        some (server.onward [])
      else
        some ((server.setSend client (Channel.make 256)).onward
          (register client))
  | .lock =>
      (server.mu.lock process).map fun mu => onward { server with mu } []
  | .unlock =>
      match server.mu.unlock process with
      | none => some (server.fault .unlockOfUnlocked)
      | some mu => some (onward { server with mu } [])
  | .rLock =>
      (server.mu.rLock process).map fun mu => onward { server with mu } []
  | .rUnlock =>
      match server.mu.rUnlock process with
      | none => some (server.fault .unlockOfUnlocked)
      | some mu => some (onward { server with mu } [])
  | .insert client =>
      some
        (onward { server with clients := insert client server.clients } [])
  | .delete client =>
      some
        (onward { server with clients := server.clients.erase client } [])
  | .closeSend client =>
      match (server.send client).close with
      | none => some (server.fault (.closeOfClosed (.send client)))
      | some later => some ((server.setSend client later).onward [])
  | .closeConn client => some ((server.closeConn client).onward [])
  | .go started =>
      some { memory := server, continuation := [], started := some started }
  | .readSelect client =>
      if server.stopCh.closed then
        some (server.onward [])
      else
        some (server.onward [.readMessage client])
  | .readMessage client =>
      if choice = .leave ∨ server.connClosed client then
        some (server.onward [])
      else
        some (server.onward [.readSelect client])
  | .writeSelect client =>
      if choice = .leave then
        if server.stopCh.closed then some (server.onward []) else none
      else
        server.receiveFrom client
  | .writeMessage client _ =>
      if choice = .leave ∨ server.connClosed client then
        some (server.onward [])
      else
        some (server.onward [.writeSelect client])
  | .offer message => some (server.offerMessage message)
  | .distribute =>
      if choice = .leave then
        if server.stopCh.closed then some (server.onward []) else none
      else
        server.takeMessage
  | .rangeSend message visited =>
      match choice with
      | .visit client =>
          if client ∈ server.clients ∧ client ∉ visited then
            some (server.onward [.trySend message visited client])
          else
            none
      | _ =>
          if server.clients ⊆ visited then some (server.onward []) else none
  | .trySend message visited client =>
      some
        (server.sendTo client message
          [.rangeSend message (insert client visited)])
  | .closeStop =>
      match server.stopCh.close with
      | none => some (server.fault (.closeOfClosed .stopCh))
      | some later => some (onward { server with stopCh := later } [])
  | .rangeClose visited =>
      match choice with
      | .visit client =>
          if client ∈ server.clients ∧ client ∉ visited then
            some
              ((server.closeConn client).onward
                [.rangeClose (insert client visited)])
          else
            none
      | _ =>
          if server.clients ⊆ visited then some (server.onward []) else none

/-- An operation of a process; nothing is executed after a panic. -/
def execute (process : WSProcess Client) (operation : Operation Client Data)
    (choice : Choice Client) (server : WSServer Client Data) :
    Option (Effect Client Data) :=
  if server.panic = none then
    server.perform process choice operation
  else
    none

/-- The server with what its processes have left to do. -/
abbrev Config (Client : Type u) (Data : Type v) :=
  Processes.Config (WSServer Client Data) (WSProcess Client)
    (Operation Client Data)

/-- The start: the goroutines of a client are not running yet. -/
def start (messages : Nat → Option Data) : Config Client Data where
  memory := newWSServer
  program := fun process =>
    match process with
    | .reader _ => []
    | .writer _ => []
    | process => entry messages process

/-- The gateway after a schedule. -/
def serve (messages : Nat → Option Data)
    (schedule : List (WSProcess Client × Choice Client)) :
    Config Client Data :=
  LabelledRun.run (Processes.step execute (entry messages)) (start messages)
    schedule

end WSServer

end AeroRisk.Gateway
