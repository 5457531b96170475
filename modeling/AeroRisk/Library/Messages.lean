import AeroRisk.Library.LabelledRun
import Mathlib.Logic.Function.Basic

/-!
# Clients which exchange messages with a server

A client runs a program: it sends a request, goes on with the response, and in
the end returns a value.  The server handles one request at a time.  In a
system of clients the requests of one may be handled between those of another,
in any order; executed alone, a program has all its requests handled in turn.
-/

namespace AeroRisk.Library.Messages

open AeroRisk.Library

universe u v w

/-- A program of requests which returns a value. -/
inductive Program (Request : Type u) (Response : Type v) (Value : Type w) where
  | done (value : Value)
  | send (request : Request)
      (resume : Response → Program Request Response Value)

variable
    {Client Context Store : Type*}
    {Request : Type u} {Response : Type v} {Value Result : Type w}

namespace Program

/-- One program after another. -/
def bind (next : Value → Program Request Response Result) :
    Program Request Response Value → Program Request Response Result
  | .done value => next value
  | .send request resume =>
      .send request fun response => bind next (resume response)

/-- The program executed alone: what it returns and the store it leaves. -/
def exec (serve : Store → Request → Response × Store) :
    Program Request Response Value → Store → Value × Store
  | .done value, store => (value, store)
  | .send request resume, store =>
      let served := serve store request
      exec serve (resume served.1) served.2

variable (serve : Store → Request → Response × Store) (store : Store)

@[simp]
theorem exec_done (value : Value) :
    exec serve (done value : Program Request Response Value) store =
      (value, store) :=
  rfl

@[simp]
theorem exec_send (request : Request)
    (resume : Response → Program Request Response Value) :
    exec serve (send request resume) store =
      exec serve (resume (serve store request).1) (serve store request).2 :=
  rfl

@[simp]
theorem exec_bind (first : Program Request Response Value)
    (next : Value → Program Request Response Result) :
    exec serve (first.bind next) store =
      exec serve (next (exec serve first store).1)
        (exec serve first store).2 := by
  induction first generalizing store with
  | done value => rfl
  | send request resume inductionHypothesis =>
      exact inductionHypothesis _ _

end Program

/-- The store, what every client still runs and the responses it received. -/
structure System (Client Store : Type*) (Request : Type u)
    (Response : Type v) (Value : Type w) where
  store : Store
  programs : Client → Program Request Response Value
  received : Client → List Response

namespace System

variable [DecidableEq Client]
  (serve : Context → Store → Request → Response × Store)

/-- The clients before their first requests. -/
def start (store : Store) (programs : Client → Program Request Response Value) :
    System Client Store Request Response Value where
  store := store
  programs := programs
  received := fun _ => []

/-- The next request of a client is handled, in some context. -/
def next (system : System Client Store Request Response Value)
    (label : Client × Context) :
    System Client Store Request Response Value :=
  match system.programs label.1 with
  | .done _ => system
  | .send request resume =>
      let served := serve label.2 system.store request
      { store := served.2
        programs :=
          Function.update system.programs label.1 (resume served.1)
        received :=
          Function.update system.received label.1
            (served.1 :: system.received label.1) }

/-- The client has returned this value. -/
def Returned (system : System Client Store Request Response Value)
    (client : Client) (value : Value) : Prop :=
  system.programs client = .done value

instance [DecidableEq Value]
    (system : System Client Store Request Response Value) (client : Client)
    (value : Value) : Decidable (system.Returned client value) :=
  match found : system.programs client with
  | .done result =>
      decidable_of_iff (result = value) (by simp [Returned, found])
  | .send _ _ => isFalse (by simp [Returned, found])

variable {serve} {system : System Client Store Request Response Value}

theorem next_of_done {label : Client × Context} {value : Value}
    (done : system.programs label.1 = .done value) :
    system.next serve label = system := by
  rw [next, done]

theorem next_of_send {label : Client × Context} {request : Request}
    {resume : Response → Program Request Response Value}
    (sends : system.programs label.1 = .send request resume) :
    system.next serve label =
      { store := (serve label.2 system.store request).2
        programs :=
          Function.update system.programs label.1
            (resume (serve label.2 system.store request).1)
        received :=
          Function.update system.received label.1
            ((serve label.2 system.store request).1 ::
              system.received label.1) } := by
  rw [next, sends]

end System

end AeroRisk.Library.Messages
