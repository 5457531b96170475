import AeroRisk.Library.EventLoop
import AeroRisk.Library.StateGraph
import Mathlib.Data.Fintype.Basic

/-!
# Tasks without shared memory

Tasks of an event loop which share nothing can only differ by the answers
which they received.  Such a task does what it does alone with these answers,
if it never sends one request twice.  A rank of the requests shows this when
every request has a higher rank than the ones before it.

A graph whose nodes are coroutines does, with given answers, what the graph
of the answered nodes does.
-/

namespace AeroRisk.Library

universe u v w

variable
    {Client : Type*} {Memory : Type u} {Request : Type v}
    {Answer : Request → Type u} {Value Result : Type u}

namespace Coroutine

/-- The requests which are sent have ascending ranks from `low` to `high`. -/
def Ascends (rank : Request → Nat) (high : Nat) :
    Nat → Coroutine Memory Answer Value → Prop
  | low, .done _ => low ≤ high
  | low, .access _ resume => ∀ memory, Ascends rank high low (resume memory)
  | low, .await request resume =>
      low ≤ rank request ∧ rank request < high ∧
        ∀ answer, Ascends rank high (rank request + 1) (resume answer)

variable {rank : Request → Nat} {low middle high : Nat}
    {task : Coroutine Memory Answer Value}

theorem Ascends.of_le (ascends : task.Ascends rank high middle)
    (lower : low ≤ middle) : task.Ascends rank high low := by
  induction task with
  | done value => exact Nat.le_trans lower ascends
  | access change resume inductionHypothesis =>
      exact fun memory => inductionHypothesis memory (ascends memory)
  | await request resume inductionHypothesis =>
      exact ⟨Nat.le_trans lower ascends.1, ascends.2⟩

theorem ascends_pure (value : Value) (lower : low ≤ high) :
    Ascends rank high low
      (pure value : Coroutine Memory Answer Value) :=
  lower

/-- One request, and then a value. -/
theorem ascends_request (sent : Request) (give : Answer sent → Value) :
    Ascends rank (rank sent + 1) (rank sent)
      (request sent >>= fun answer => pure (give answer) :
        Coroutine Memory Answer Value) :=
  ⟨Nat.le_refl _, Nat.lt_succ_self _, fun _ => Nat.le_refl _⟩

/-- One after the other, the later task sends the requests of higher rank. -/
theorem Ascends.bind {next : Value → Coroutine Memory Answer Result}
    (first : task.Ascends rank middle low)
    (second : ∀ value, (next value).Ascends rank high middle)
    (bounded : middle ≤ high) : (task >>= next).Ascends rank high low := by
  induction task generalizing low with
  | done value => exact (second value).of_le first
  | access change resume inductionHypothesis =>
      exact fun memory => inductionHypothesis memory (first memory)
  | await request resume inductionHypothesis =>
      obtain ⟨lower, upper, later⟩ := first
      exact ⟨lower, Nat.lt_of_lt_of_le upper bounded, fun answer =>
        inductionHypothesis answer (later answer)⟩

theorem Ascends.untilAwait (ascends : task.Ascends rank high low)
    (memory : Memory) :
    (Coroutine.untilAwait task memory).1.Ascends rank high low := by
  induction task generalizing memory with
  | done value => exact ascends
  | access change resume inductionHypothesis =>
      exact inductionHypothesis memory (ascends memory) (change memory)
  | await request resume inductionHypothesis => exact ascends

variable (answers : (request : Request) → Answer request)

theorem exec_untilAwait (memory : Memory) :
    exec answers (untilAwait task memory).1 (untilAwait task memory).2 =
      exec answers task memory := by
  induction task generalizing memory with
  | done value => rfl
  | access change resume inductionHypothesis =>
      exact inductionHypothesis memory (change memory)
  | await request resume inductionHypothesis => rfl

end Coroutine

namespace EventLoop

/-- The answers are those which some requests received. -/
def Agrees (answers : (request : Request) → Answer request)
    (answered : List ((request : Request) × Answer request)) : Prop :=
  ∀ exchange ∈ answered, answers exchange.1 = exchange.2

/--
A task has sent requests of ascending ranks, and will return what it returns
alone with the answers which it received.
-/
structure Replays (rank : Request → Nat) (high : Nat) (memory : Memory)
    (task : Coroutine Memory Answer Value)
    (current : Coroutine Memory Answer Value)
    (answered : List ((request : Request) × Answer request)) : Prop where
  ascends :
    ∃ low, current.Ascends rank high low ∧
      ∀ exchange ∈ answered, rank exchange.1 < low
  distinct : (answered.map fun exchange => rank exchange.1).Nodup
  same :
    ∀ answers, Agrees answers answered →
      Coroutine.exec answers current memory =
        Coroutine.exec answers task memory

variable {rank : Request → Nat} {high : Nat} {memory : Memory}
    {task current : Coroutine Memory Answer Value}
    {answered : List ((request : Request) × Answer request)}

/-- A resumed task goes on as it does alone. -/
theorem Replays.resume [Subsingleton Memory]
    (replays : Replays rank high memory task current answered)
    (answers : (request : Request) → Answer request) (actual : Memory) :
    Replays rank high memory task (current.resume answers actual).1
      (current.exchange answers ++ answered) := by
  obtain ⟨⟨low, ascends, lower⟩, distinct, same⟩ := replays
  have execUntil : ∀ (other : (request : Request) → Answer request)
      (rest : Coroutine Memory Answer Value),
      Coroutine.exec other (rest.untilAwait actual).1 memory =
        Coroutine.exec other rest memory := by
    intro other rest
    obtain rfl : actual = memory := Subsingleton.elim _ _
    have alone := rest.exec_untilAwait other actual
    rwa [Subsingleton.elim (rest.untilAwait actual).2 actual] at alone
  cases current with
  | done value => exact ⟨⟨low, ascends, lower⟩, distinct, same⟩
  | access change resume =>
      refine ⟨⟨low, ascends.untilAwait actual, lower⟩, distinct, ?_⟩
      intro other agrees
      rw [← same other agrees]
      exact execUntil other (.access change resume)
  | await request resume =>
      obtain ⟨above, -, later⟩ := ascends
      refine ⟨⟨rank request + 1, (later _).untilAwait actual, ?_⟩, ?_, ?_⟩
      · intro exchange member
        rcases List.mem_cons.mp member with rfl | before
        · exact Nat.lt_succ_self _
        · exact Nat.lt_succ_of_le
            (Nat.le_of_lt (Nat.lt_of_lt_of_le (lower exchange before) above))
      · refine List.nodup_cons.mpr ⟨fun repeated => ?_, distinct⟩
        obtain ⟨exchange, before, isSame⟩ := List.mem_map.mp repeated
        have below := lower exchange before
        rw [isSame] at below
        exact absurd below (Nat.not_lt.mpr above)
      · intro other agrees
        have answeredNow : other request = answers request :=
          agrees ⟨request, answers request⟩ List.mem_cons_self
        rw [← same other fun exchange before =>
          agrees exchange (List.mem_cons_of_mem _ before)]
        refine (execUntil other (resume (answers request))).trans ?_
        rw [Coroutine.exec, answeredNow]

/-- Some answers agree with all exchanges of different ranks. -/
theorem exists_agrees
    (distinct : (answered.map fun exchange => rank exchange.1).Nodup)
    (default : (request : Request) → Answer request) :
    ∃ answers, Agrees answers answered := by
  classical
  induction answered with
  | nil => exact ⟨default, fun _ member => nomatch member⟩
  | cons exchange rest inductionHypothesis =>
      rw [List.map_cons, List.nodup_cons] at distinct
      obtain ⟨answers, agrees⟩ := inductionHypothesis distinct.2
      refine ⟨Function.update answers exchange.1 exchange.2, ?_⟩
      intro other member
      rcases List.mem_cons.mp member with rfl | before
      · exact Function.update_self _ _ _
      · have isOther : other.1 ≠ exchange.1 := by
          intro same
          apply distinct.1
          rw [← same]
          exact List.mem_map_of_mem before
        rw [Function.update_of_ne isOther]
        exact agrees other before

/-- Every task of the loop replays the task which it was at the start. -/
def AllReplay (rank : Request → Nat) (high : Nat) (memory : Memory)
    (tasks : Client → Coroutine Memory Answer Value)
    (loop : EventLoop Client Memory Answer Value) : Prop :=
  ∀ client,
    Replays rank high memory (tasks client) (loop.tasks client)
      (loop.answered client)

/-- In every run every task does what it does alone. -/
theorem allReplay_resumeAll [DecidableEq Client] [Subsingleton Memory]
    (memory : Memory) {tasks : Client → Coroutine Memory Answer Value}
    (ascends : ∀ client, (tasks client).Ascends rank high 0)
    (schedule : List (Client × ((request : Request) → Answer request))) :
    AllReplay rank high memory tasks
      ((start memory tasks).resumeAll schedule) := by
  refine LabelledRun.run_invariant_of_every ?_ schedule fun client => ?_
  · intro loop label replays client
    by_cases isResumed : client = label.1
    · subst isResumed
      rw [tasks_resume_self, answered_resume_self]
      exact (replays label.1).resume label.2 loop.memory
    · rw [tasks_resume_of_ne isResumed, answered_resume_of_ne isResumed]
      exact replays client
  · exact ⟨⟨0, ascends client, fun _ member => nomatch member⟩,
      List.nodup_nil, fun _ _ => rfl⟩

variable [DecidableEq Client] {loop : EventLoop Client Memory Answer Value}

/-- A task which has returned stays so. -/
theorem done_resumeAll {client : Client} {value : Value}
    (isDone : loop.tasks client = .done value)
    (schedule : List (Client × ((request : Request) → Answer request))) :
    (loop.resumeAll schedule).tasks client = .done value := by
  induction schedule generalizing loop with
  | nil => exact isDone
  | cons label rest inductionHypothesis =>
      apply inductionHypothesis
      by_cases isResumed : client = label.1
      · rw [isResumed, tasks_resume_self, ← isResumed, isDone]
        rfl
      · rw [tasks_resume_of_ne isResumed]
        exact isDone

/-- From every state the tasks can be resumed until all have returned. -/
theorem exists_all_done [Fintype Client]
    (loop : EventLoop Client Memory Answer Value)
    (answers : (request : Request) → Answer request) :
    ∃ clients : List Client, ∀ client, ∃ value,
      (loop.resumeAll (clients.map fun client => (client, answers))).tasks
        client = .done value := by
  have some : ∀ waiting : List Client,
      ∃ clients : List Client, ∀ client ∈ waiting, ∃ value,
        (loop.resumeAll (clients.map fun client => (client, answers))).tasks
          client = .done value := by
    intro waiting
    induction waiting with
    | nil => exact ⟨[], fun _ member => nomatch member⟩
    | cons client rest inductionHypothesis =>
        obtain ⟨clients, done⟩ := inductionHypothesis
        obtain ⟨count, value, returns⟩ :=
          exists_done
            (loop.resumeAll (clients.map fun client => (client, answers)))
            client answers
        refine ⟨clients ++ List.replicate count client, ?_⟩
        intro other member
        rw [List.map_append, List.map_replicate, resumeAll,
          LabelledRun.run_append]
        rcases List.mem_cons.mp member with rfl | before
        · exact ⟨value, returns⟩
        · obtain ⟨earlier, isDone⟩ := done other before
          exact ⟨earlier, done_resumeAll isDone _⟩
  obtain ⟨clients, done⟩ := some Finset.univ.toList
  exact ⟨clients, fun client =>
    done client (Finset.mem_toList.mpr (Finset.mem_univ client))⟩

end EventLoop

/-! ## Graphs of coroutines -/

/-- The nodes of a graph, each of which may await answers. -/
structure AwaitingGraph (Node : Type w) (State Error Memory : Type u)
    {Request : Type v} (Answer : Request → Type u) where
  entry : Node
  execute : Node → State → Coroutine Memory Answer (Except Error State)
  /-- The node after a node, in the state which it returned. -/
  next : Node → State → Option Node
  recursionError : Error

namespace AwaitingGraph

variable {Node : Type w} {State Error : Type u}
    (graph : AwaitingGraph Node State Error Memory Answer)

/-- Run a node and the nodes after it, up to a number of nodes. -/
def runFrom : Nat → Node → State →
    Coroutine Memory Answer (Except Error State)
  | 0, _, _ => pure (.error graph.recursionError)
  | limit + 1, node, state => do
      match ← graph.execute node state with
      | .error error => return .error error
      | .ok reached =>
          match graph.next node reached with
          | none => return .ok reached
          | some following => runFrom limit following reached

/-- Run the graph from its entry. -/
def invoke (limit : Nat) (state : State) :
    Coroutine Memory Answer (Except Error State) :=
  graph.runFrom limit graph.entry state

/-- The graph of the nodes with given answers. -/
def answeredBy (answers : (request : Request) → Answer request)
    (memory : Memory) : StateGraph Node State Error where
  entry := graph.entry
  execute := fun node state =>
    (Coroutine.exec answers (graph.execute node state) memory).1
  next := graph.next
  recursionError := graph.recursionError

theorem exec_runFrom [Subsingleton Memory]
    (answers : (request : Request) → Answer request) (memory : Memory)
    (limit : Nat) (node : Node) (state : State) :
    (Coroutine.exec answers (graph.runFrom limit node state) memory).1 =
      (graph.answeredBy answers memory).runFrom limit node state := by
  induction limit generalizing node state with
  | zero => rfl
  | succ limit inductionHypothesis =>
      rw [runFrom, StateGraph.runFrom, Coroutine.exec_bind,
        Subsingleton.elim (Coroutine.exec answers _ memory).2 memory]
      simp only [answeredBy]
      cases (Coroutine.exec answers (graph.execute node state) memory).1 with
      | error error => rfl
      | ok reached =>
          cases edge : graph.next node reached with
          | none => simp only [edge]; rfl
          | some following =>
              simp only [edge]
              exact inductionHypothesis following reached

/-- Nodes which only lead to nodes of higher ranks send ascending requests. -/
theorem ascends_runFrom {rank : Request → Nat} {high : Nat}
    (first last : Node → Nat)
    (nodes :
      ∀ node state, (graph.execute node state).Ascends rank (last node)
        (first node))
    (edges :
      ∀ node state following, graph.next node state = some following →
        last node ≤ first following)
    (bounded : ∀ node, first node ≤ high ∧ last node ≤ high)
    (limit : Nat) (node : Node) (state : State) :
    (graph.runFrom limit node state).Ascends rank high (first node) := by
  induction limit generalizing node state with
  | zero => exact (bounded node).1
  | succ limit inductionHypothesis =>
      rw [runFrom]
      refine (nodes node state).bind (fun outcome => ?_) (bounded node).2
      cases outcome with
      | error error => exact (bounded node).2
      | ok reached =>
          cases edge : graph.next node reached with
          | none => simp only [edge]; exact (bounded node).2
          | some following =>
              simp only [edge]
              exact (inductionHypothesis following reached).of_le
                (edges node reached following edge)

end AwaitingGraph

end AeroRisk.Library
