import AeroRisk.Library.Messages
import AeroRisk.Library.Postings
import Mathlib.Algebra.BigOperators.Group.Finset.Basic
import Mathlib.Data.Fintype.Basic

/-!
# Clients which read, modify and write one record

Every client asks for the record, changes what it received and sends the
result, in two messages.  Another client may write between them.  What a write
then loses is the difference between what is stored and what the client read;
when no write finds anything relevant changed, the clients have the effect of
running one after another, in the order of their writes.
-/

namespace AeroRisk.Library.ReadModifyWrite

open AeroRisk.Library
open AeroRisk.Library.Messages

universe u v w

/-- How the clients read and write the record. -/
structure Protocol (Client : Type*) (Request : Type u) (Response : Type v)
    (Record : Type*) (Error : Type w) where
  get : Request
  /-- The record in a response, or why there is none. -/
  read : Client → Response → Except Error Record
  update : Client → Record → Record
  /-- The request which writes a record, or why there is none. -/
  write : Record → Except Error Request
  /-- The error in the response to a write. -/
  confirm : Response → Option Error

variable
    {Client Context Store Record View : Type*}
    {Request : Type u} {Response : Type v} {Error : Type w}

namespace Protocol

variable (protocol : Protocol Client Request Response Record Error)

/-- The program of a client once it has its write request. -/
def writing (request : Request) : Program Request Response (Option Error) :=
  .send request fun response => .done (protocol.confirm response)

/-- The program of a client once it has a response. -/
def reading (client : Client) (response : Response) :
    Program Request Response (Option Error) :=
  match protocol.read client response with
  | .error error => .done (some error)
  | .ok record =>
      match protocol.write (protocol.update client record) with
      | .error error => .done (some error)
      | .ok request => protocol.writing request

/-- The program of a client. -/
def program (client : Client) : Program Request Response (Option Error) :=
  .send protocol.get (protocol.reading client)

/-- The record which a client has read and is about to replace. -/
def pending
    (system : System Client Store Request Response (Option Error))
    (client : Client) : Option Record :=
  match system.programs client, system.received client with
  | .send _ _, [response] => (protocol.read client response).toOption
  | _, _ => none

/-- The stages of a client: its program and the responses which it received. -/
inductive Stage (own : Record → Prop) (client : Client) :
    Program Request Response (Option Error) → List Response → Prop where
  | waiting : Stage own client (protocol.program client) []
  | holding
      (response : Response)
      (record : Record)
      (request : Request)
      (reads : protocol.read client response = .ok record)
      (isOwn : own record)
      (writes : protocol.write (protocol.update client record) = .ok request) :
      Stage own client (protocol.writing request) [response]
  | returned
      (result : Option Error)
      (responses : List Response) :
      Stage own client (.done result) responses

/--
What the clients rely on: a read leaves the store alone and gives one of the
records which are kept in it, and a write of such a record succeeds and is
seen afterwards.
-/
structure Kept (serve : Context → Store → Request → Response × Store)
    (view : Store → View) (recordView : Record → View)
    (good : Store → Prop) (own : Record → Prop) : Prop where
  store_get :
    ∀ context store, (serve context store protocol.get).2 = store
  own_read :
    ∀ context store client record,
      good store →
        protocol.read client (serve context store protocol.get).1 =
            .ok record →
          own record
  own_update :
    ∀ client record, own record → own (protocol.update client record)
  good_write :
    ∀ context store record request,
      good store → own record → protocol.write record = .ok request →
        good (serve context store request).2
  view_write :
    ∀ context store record request,
      own record → protocol.write record = .ok request →
        view (serve context store request).2 = recordView record
  confirm_write :
    ∀ context store record request,
      protocol.write record = .ok request →
        protocol.confirm (serve context store request).1 = none

/-- The store is good and every client is at some stage. -/
structure Reachable (good : Store → Prop) (own : Record → Prop)
    (system : System Client Store Request Response (Option Error)) :
    Prop where
  store : good system.store
  stage :
    ∀ client,
      protocol.Stage own client (system.programs client)
        (system.received client)

/-! ## What one message does -/

section Steps

variable
    {protocol : Protocol Client Request Response Record Error}
    {serve : Context → Store → Request → Response × Store}
    {view : Store → View} {recordView : Record → View}
    {good : Store → Prop} {own : Record → Prop}

theorem reachable_start {store : Store} (isGood : good store) :
    protocol.Reachable good own (System.start store protocol.program) where
  store := isGood
  stage := fun _ => .waiting

theorem not_returned_start (store : Store) (client : Client)
    (result : Option Error) :
    ¬ (System.start store protocol.program).Returned client result := by
  simp [System.Returned, System.start, program]

/-- A client which received a response holds its record or gives up. -/
theorem stage_reading {client : Client} {response : Response}
    (isOwn :
      ∀ record, protocol.read client response = .ok record → own record) :
    protocol.Stage own client (protocol.reading client response)
      [response] := by
  rw [reading]
  split
  · exact .returned _ _
  · next record reads =>
      split
      · exact .returned _ _
      · next request writes =>
          exact .holding response record request reads (isOwn record reads) writes

theorem reading_ne_done_none (client : Client) (response : Response) :
    protocol.reading client response ≠ .done none := by
  rw [reading]
  split
  · simp
  · split
    · simp
    · simp [writing]

variable [DecidableEq Client]

/--
The next message of a client: there is none, or it is a read, after which the
client holds a record or gives up, or it writes what the client made of the
record which it held.
-/
inductive Message
    (protocol : Protocol Client Request Response Record Error)
    (serve : Context → Store → Request → Response × Store)
    (view : Store → View) (recordView : Record → View)
    (system : System Client Store Request Response (Option Error))
    (label : Client × Context) : Prop where
  | none
      (held : protocol.pending system label.1 = Option.none)
      (unchanged : system.next serve label = system)
  | read
      (held : protocol.pending system label.1 = Option.none)
      (unreturned : ¬ system.Returned label.1 Option.none)
      (notYet : ¬ (system.next serve label).Returned label.1 Option.none)
      (others :
        ∀ client, client ≠ label.1 →
          (system.next serve label).programs client =
            system.programs client)
      (store : (system.next serve label).store = system.store)
  | write
      (record : Record)
      (held : protocol.pending system label.1 = some record)
      (unreturned : ¬ system.Returned label.1 Option.none)
      (returned : (system.next serve label).Returned label.1 Option.none)
      (others :
        ∀ client, client ≠ label.1 →
          (system.next serve label).programs client =
            system.programs client)
      (store :
        view (system.next serve label).store =
          recordView (protocol.update label.1 record))

variable {system : System Client Store Request Response (Option Error)}

/-- A stage of the client whose message was handled, the others as before. -/
theorem Reachable.of_stage (reachable : protocol.Reachable good own system)
    {label : Client × Context} {store : Store}
    {program : Program Request Response (Option Error)}
    {responses : List Response} (isGood : good store)
    (stage : protocol.Stage own label.1 program responses) :
    protocol.Reachable good own
      { store
        programs := Function.update system.programs label.1 program
        received := Function.update system.received label.1 responses } where
  store := isGood
  stage := by
    intro client
    dsimp only
    by_cases same : client = label.1
    · subst same
      rwa [Function.update_self, Function.update_self]
    · rw [Function.update_of_ne same, Function.update_of_ne same]
      exact reachable.stage client

variable (kept : protocol.Kept serve view recordView good own)
include kept

theorem Reachable.next (reachable : protocol.Reachable good own system)
    (label : Client × Context) :
    protocol.Reachable good own (system.next serve label) := by
  have stage := reachable.stage label.1
  generalize programs : system.programs label.1 = program at stage
  generalize received : system.received label.1 = responses at stage
  cases stage with
  | waiting =>
      rw [System.next_of_send programs, received]
      apply reachable.of_stage
      · rw [kept.store_get]
        exact reachable.store
      · exact stage_reading (kept.own_read _ _ _ · reachable.store)
  | holding response record request reads isOwn writes =>
      rw [System.next_of_send programs, received]
      apply reachable.of_stage
      · exact
          kept.good_write _ _ _ _ reachable.store
            (kept.own_update label.1 record isOwn) writes
      · exact .returned _ _
  | returned result =>
      rw [System.next_of_done programs]
      exact reachable

theorem Reachable.message (reachable : protocol.Reachable good own system)
    (label : Client × Context) :
    Message protocol serve view recordView system label := by
  have stage := reachable.stage label.1
  generalize programs : system.programs label.1 = program at stage
  generalize received : system.received label.1 = responses at stage
  have others :
      ∀ client, client ≠ label.1 →
        (system.next serve label).programs client =
          system.programs client := by
    intro client different
    cases program with
    | done value => rw [System.next_of_done programs]
    | send request resume =>
        rw [System.next_of_send programs]
        exact Function.update_of_ne different _ _
  cases stage with
  | waiting =>
      refine .read ?_ ?_ ?_ others ?_
      · rw [pending, programs, received]
        rfl
      · rw [System.Returned, programs]
        simp [Protocol.program]
      · rw [System.next_of_send programs, System.Returned]
        dsimp only
        rw [Function.update_self]
        exact reading_ne_done_none _ _
      · rw [System.next_of_send programs]
        exact kept.store_get _ _
  | holding response record request reads isOwn writes =>
      refine .write record ?_ ?_ ?_ others ?_
      · rw [pending, programs, received, writing]
        simp [reads, Except.toOption]
      · rw [System.Returned, programs]
        simp [writing]
      · rw [System.next_of_send programs, System.Returned]
        dsimp only
        rw [Function.update_self, kept.confirm_write _ _ _ _ writes]
      · rw [System.next_of_send programs]
        exact
          kept.view_write _ _ _ _ (kept.own_update label.1 record isOwn)
            writes
  | returned result =>
      refine .none ?_ (System.next_of_done programs)
      rw [pending, programs]

end Steps

/-! ## What all messages lose -/

section Losses

variable [AddCommGroup View]
  (protocol : Protocol Client Request Response Record Error)
  (view : Store → View) (recordView : Record → View)

/-- By how much a write finds the record changed since its client read it. -/
def loss (system : System Client Store Request Response (Option Error))
    (label : Client × Context) : View :=
  match protocol.pending system label.1 with
  | some record => view system.store - recordView record
  | none => 0

/-- What a client which has written was to add. -/
def credit (added : Client → View)
    (system : System Client Store Request Response (Option Error))
    (client : Client) : View :=
  match system.programs client with
  | .done none => added client
  | _ => 0

variable [DecidableEq Client] [Fintype Client]
  {protocol : Protocol Client Request Response Record Error}
  {serve : Context → Store → Request → Response × Store}
  {view : Store → View} {recordView : Record → View}
  {good : Store → Prop} {own : Record → Prop}
  {added : Client → View}
  {system : System Client Store Request Response (Option Error)}

omit [DecidableEq Client] [Fintype Client] in
theorem credit_of_returned {client : Client}
    (returned : system.Returned client none) :
    credit added system client = added client := by
  rw [System.Returned] at returned
  rw [credit, returned]

omit [DecidableEq Client] [Fintype Client] in
theorem credit_of_not_returned {client : Client}
    (unreturned : ¬ system.Returned client none) :
    credit added system client = 0 := by
  rw [credit]
  split
  · next returned => exact absurd returned unreturned
  · rfl

omit [Fintype Client] in
/-- The credits of the other clients do not change. -/
theorem credit_next_of_ne {label : Client × Context}
    (others :
      ∀ client, client ≠ label.1 →
        (system.next serve label).programs client =
          system.programs client)
    {client : Client} (different : client ≠ label.1) :
    credit added (system.next serve label) client =
      credit added system client := by
  rw [credit, others client different, credit]

/-- A message adds its client's part less what it loses. -/
theorem view_sub_credits_next
    (kept : protocol.Kept serve view recordView good own)
    (adds :
      ∀ client record,
        recordView (protocol.update client record) =
          recordView record + added client)
    (reachable : protocol.Reachable good own system)
    (label : Client × Context) :
    view (system.next serve label).store -
        ∑ client, credit added (system.next serve label) client =
      view system.store - ∑ client, credit added system client -
        protocol.loss view recordView system label := by
  cases reachable.message kept label with
  | none held unchanged =>
      rw [unchanged, loss, held, sub_zero]
  | read held unreturned notYet others store =>
      have credits :
          credit added (system.next serve label) = credit added system := by
        funext client
        by_cases same : client = label.1
        · rw [same, credit_of_not_returned notYet,
            credit_of_not_returned unreturned]
        · exact credit_next_of_ne others same
      rw [credits, store, loss, held, sub_zero]
  | write record held unreturned returned others store =>
      have credits :
          credit added (system.next serve label) =
            Function.update (credit added system) label.1
              (added label.1) := by
        funext client
        by_cases same : client = label.1
        · rw [same, Function.update_self, credit_of_returned returned]
        · rw [Function.update_of_ne same, credit_next_of_ne others same]
      have total :
          ∑ client, credit added system client =
            ∑ client ∈ Finset.univ \ {label.1},
              credit added system client := by
        symm
        apply Finset.sum_subset Finset.sdiff_subset
        intro client _ outside
        have same : client = label.1 := by simpa using outside
        rw [same, credit_of_not_returned unreturned]
      rw [credits, Finset.sum_update_of_mem (Finset.mem_univ _), store, adds,
        loss, held, total]
      dsimp only
      abel

/--
When all clients have written, the record has their parts less what all
messages lost.
-/
theorem view_run_of_returned
    (kept : protocol.Kept serve view recordView good own)
    (adds :
      ∀ client record,
        recordView (protocol.update client record) =
          recordView record + added client)
    {store : Store} (isGood : good store) (schedule : List (Client × Context))
    (returned :
      ∀ client,
        (LabelledRun.run (System.next serve)
          (System.start store protocol.program) schedule).Returned
            client none) :
    view
        (LabelledRun.run (System.next serve)
          (System.start store protocol.program) schedule).store =
      view store + ∑ client, added client -
        (LabelledRun.outputs (System.next serve)
          (protocol.loss view recordView)
          (System.start store protocol.program) schedule).sum := by
  let start : System Client Store Request Response (Option Error) :=
    System.start store protocol.program
  let accounted :
      System Client Store Request Response (Option Error) → View :=
    fun system => view system.store - ∑ client, credit added system client
  have startCredits : ∀ client, credit added start client = 0 :=
    fun _ => rfl
  have endCredits :
      ∀ client,
        credit added (LabelledRun.run (System.next serve) start schedule)
          client = added client :=
    fun client => credit_of_returned (returned client)
  have accounts :
      accounted (LabelledRun.run (System.next serve) start schedule) =
        accounted start +
          (LabelledRun.outputs (System.next serve)
            (fun system label => -protocol.loss view recordView system label)
            start schedule).sum := by
    have preserved :
        ∀ (system : System Client Store Request Response (Option Error)) label,
          protocol.Reachable good own system →
            protocol.Reachable good own (system.next serve label) :=
      fun system label reachable => reachable.next kept label
    apply Postings.view_run_of_invariant preserved
    · intro system label reachable
      have step := view_sub_credits_next kept adds reachable label
      rw [← sub_eq_add_neg]
      exact step
    · exact reachable_start isGood
  rw [Postings.sum_outputs_neg] at accounts
  simp only [accounted, startCredits, endCredits, Finset.sum_const_zero,
    sub_zero] at accounts
  rw [sub_eq_iff_eq_add] at accounts
  rw [accounts]
  simp only [start, System.start]
  abel

end Losses

/-! ## The order of the writes -/

section Order

variable
  (protocol : Protocol Client Request Response Record Error)
  (serve : Context → Store → Request → Response × Store)

/-- The client of a message which writes. -/
def writer (system : System Client Store Request Response (Option Error))
    (label : Client × Context) : List Client :=
  match protocol.pending system label.1 with
  | some _ => [label.1]
  | none => []

variable [DecidableEq Client]

/-- The clients which write during a run, in the order of their writes. -/
def writeOrder (system : System Client Store Request Response (Option Error))
    (schedule : List (Client × Context)) : List Client :=
  (LabelledRun.outputs (System.next serve) protocol.writer system
    schedule).flatten

variable {protocol serve}
  {view : Store → View} {recordView : Record → View}
  {good : Store → Prop} {own : Record → Prop}
  {system : System Client Store Request Response (Option Error)}

theorem writeOrder_cons (label : Client × Context)
    (rest : List (Client × Context)) :
    protocol.writeOrder serve system (label :: rest) =
      protocol.writer system label ++
        protocol.writeOrder serve (system.next serve label) rest := by
  rw [writeOrder, LabelledRun.outputs_cons, List.flatten_cons, writeOrder]

/-- Every client writes at most once, and those which wrote have returned. -/
theorem writeOrder_spec
    (kept : protocol.Kept serve view recordView good own)
    (reachable : protocol.Reachable good own system)
    (schedule : List (Client × Context)) :
    (protocol.writeOrder serve system schedule).Nodup ∧
      (∀ client ∈ protocol.writeOrder serve system schedule,
        ¬ system.Returned client none) ∧
      ∀ client,
        (LabelledRun.run (System.next serve) system schedule).Returned
            client none →
          system.Returned client none ∨
            client ∈ protocol.writeOrder serve system schedule := by
  induction schedule generalizing system with
  | nil =>
      exact ⟨List.nodup_nil, by simp [writeOrder], fun _ returned => .inl returned⟩
  | cons label rest inductionHypothesis =>
      obtain ⟨nodup, unreturnedNext, returnedNext⟩ :=
        inductionHypothesis (reachable.next kept label)
      have sameReturned :
          (∀ client, client ≠ label.1 →
            (system.next serve label).programs client =
              system.programs client) →
          ∀ client, client ≠ label.1 →
            ((system.next serve label).Returned client none ↔
              system.Returned client none) := by
        intro others client different
        rw [System.Returned, others client different, System.Returned]
      rw [writeOrder_cons, writer, LabelledRun.run_cons]
      cases reachable.message kept label with
      | none held unchanged =>
          rw [unchanged] at nodup unreturnedNext returnedNext ⊢
          rw [held]
          exact ⟨nodup, unreturnedNext, returnedNext⟩
      | read held unreturned notYet others store =>
          rw [held]
          refine ⟨nodup, fun client member => ?_, fun client atEnd => ?_⟩
          · by_cases same : client = label.1
            · rwa [same]
            · rw [← sameReturned others client same]
              exact unreturnedNext client member
          · refine (returnedNext client atEnd).imp_left fun after => ?_
            by_cases same : client = label.1
            · exact absurd (same ▸ after) notYet
            · exact (sameReturned others client same).mp after
      | write record held unreturned returned others store =>
          rw [held]
          refine ⟨?_, fun client member => ?_, fun client atEnd => ?_⟩
          · refine List.nodup_cons.mpr ⟨fun again => ?_, nodup⟩
            exact unreturnedNext label.1 again returned
          · by_cases same : client = label.1
            · rwa [same]
            · rw [← sameReturned others client same]
              have later := (List.mem_cons.mp member).resolve_left same
              exact unreturnedNext client later
          · by_cases same : client = label.1
            · exact .inr (same ▸ List.mem_cons_self)
            · rw [← sameReturned others client same]
              exact
                (returnedNext client atEnd).imp_right
                  (List.mem_cons_of_mem label.1)

/--
When every write finds the record such that its client has its effect, the
run has the effect of the clients one after another.
-/
theorem view_run_of_effects
    (kept : protocol.Kept serve view recordView good own)
    (effect : View → Client → View)
    (reachable : protocol.Reachable good own system)
    {schedule : List (Client × Context)}
    (effects :
      LabelledRun.Along (System.next serve)
        (fun system label =>
          ∀ record,
            protocol.pending system label.1 = some record →
              recordView (protocol.update label.1 record) =
                effect (view system.store) label.1)
        system schedule) :
    view (LabelledRun.run (System.next serve) system schedule).store =
      (protocol.writeOrder serve system schedule).foldl effect
        (view system.store) := by
  induction schedule generalizing system with
  | nil => rfl
  | cons label rest inductionHypothesis =>
      rw [LabelledRun.along_cons] at effects
      rw [LabelledRun.run_cons,
        inductionHypothesis (reachable.next kept label) effects.2,
        writeOrder_cons, List.foldl_append, writer]
      cases reachable.message kept label with
      | none held unchanged => rw [unchanged, held, List.foldl_nil]
      | read held unreturned notYet others store =>
          rw [held, store, List.foldl_nil]
      | write record held unreturned returned others store =>
          rw [held, store, List.foldl_cons, List.foldl_nil,
            effects.1 record held]

end Order

end Protocol

end AeroRisk.Library.ReadModifyWrite
