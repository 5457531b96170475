import AeroRisk.Library.LabelledRun
import Mathlib.Logic.Function.Basic
import Mathlib.Logic.Function.Iterate

/-!
# Coroutines of an event loop

Tasks run coroutines and share a memory.  Between two awaits a task has the
memory for itself; at an await it sends a request and is suspended until the
event loop resumes it with an answer.  The loop resumes the tasks in any order,
each time with any answers; executed alone, a coroutine has its requests
answered in turn.

A coroutine ensures what it returns when it does so from every memory of an
invariant which each of its accesses keeps.  Tasks which ensure something do so
in every run of the loop, since none of them breaks the invariant of another.
-/

namespace AeroRisk.Library

universe u v

/-- A computation which accesses the memory and awaits answers. -/
inductive Coroutine (Memory : Type u) {Request : Type v}
    (Answer : Request → Type u) (Value : Type u) where
  | done (value : Value)
  /-- Change the memory, and go on with what it was before. -/
  | access (change : Memory → Memory)
      (resume : Memory → Coroutine Memory Answer Value)
  | await (request : Request)
      (resume : Answer request → Coroutine Memory Answer Value)

variable
    {Client : Type*} {Memory : Type u} {Request : Type v}
    {Answer : Request → Type u} {Value Result : Type u}

namespace Coroutine

/-- One coroutine after another. -/
def bind (next : Value → Coroutine Memory Answer Result) :
    Coroutine Memory Answer Value → Coroutine Memory Answer Result
  | .done value => next value
  | .access change resume =>
      .access change fun memory => bind next (resume memory)
  | .await request resume =>
      .await request fun answer => bind next (resume answer)

instance instMonad : Monad (Coroutine Memory Answer) where
  pure := .done
  bind task next := task.bind next

/-- The memory as it is. -/
def read : Coroutine Memory Answer Memory :=
  .access id .done

/-- Change the memory. -/
def modify (change : Memory → Memory) : Coroutine Memory Answer PUnit :=
  .access change fun _ => .done ⟨⟩

/-- Send a request and wait for its answer. -/
def request (sent : Request) : Coroutine Memory Answer (Answer sent) :=
  .await sent .done

/-- Run a coroutine up to its next await. -/
def untilAwait :
    Coroutine Memory Answer Value → Memory →
      Coroutine Memory Answer Value × Memory
  | .done value, memory => (.done value, memory)
  | .access change resume, memory =>
      untilAwait (resume memory) (change memory)
  | .await request resume, memory => (.await request resume, memory)

/-- The value of a coroutine which has returned. -/
def value? : Coroutine Memory Answer Value → Option Value
  | .done value => some value
  | .access _ _ => none
  | .await _ _ => none

theorem value?_eq_some {task : Coroutine Memory Answer Value} {value : Value} :
    task.value? = some value ↔ task = .done value := by
  cases task <;> simp [value?]

variable (answers : (request : Request) → Answer request)

/-- Answer the await at which a coroutine is, and run it up to the next one. -/
def resume (task : Coroutine Memory Answer Value) (memory : Memory) :
    Coroutine Memory Answer Value × Memory :=
  match task with
  | .await request resume => untilAwait (resume (answers request)) memory
  | task => untilAwait task memory

/-- The request which a coroutine awaits, with its answer. -/
def exchange :
    Coroutine Memory Answer Value → List ((request : Request) × Answer request)
  | .await request _ => [⟨request, answers request⟩]
  | .done _ => []
  | .access _ _ => []

/-- A coroutine executed alone: what it returns and the memory it leaves. -/
def exec : Coroutine Memory Answer Value → Memory → Value × Memory
  | .done value, memory => (value, memory)
  | .access change resume, memory => exec (resume memory) (change memory)
  | .await request resume, memory => exec (resume (answers request)) memory

variable (memory : Memory)

@[simp]
theorem exec_pure (value : Value) :
    exec answers (pure value : Coroutine Memory Answer Value) memory =
      (value, memory) :=
  rfl

@[simp]
theorem exec_request (sent : Request) :
    exec answers (request sent : Coroutine Memory Answer _) memory =
      (answers sent, memory) :=
  rfl

@[simp]
theorem exec_read :
    exec answers (read : Coroutine Memory Answer Memory) memory =
      (memory, memory) :=
  rfl

@[simp]
theorem exec_bind (first : Coroutine Memory Answer Value)
    (next : Value → Coroutine Memory Answer Result) :
    exec answers (first >>= next) memory =
      exec answers (next (exec answers first memory).1)
        (exec answers first memory).2 := by
  induction first generalizing memory with
  | done value => rfl
  | access change resume inductionHypothesis =>
      exact inductionHypothesis memory (change memory)
  | await request resume inductionHypothesis =>
      exact inductionHypothesis (answers request) memory

@[simp]
theorem untilAwait_pure (value : Value) :
    untilAwait (pure value : Coroutine Memory Answer Value) memory =
      (.done value, memory) :=
  rfl

@[simp]
theorem resume_read_bind (next : Memory → Coroutine Memory Answer Result) :
    resume answers (read >>= next) memory = untilAwait (next memory) memory :=
  rfl

@[simp]
theorem resume_request_bind (sent : Request)
    (next : Answer sent → Coroutine Memory Answer Result) :
    resume answers (request sent >>= next) memory =
      untilAwait (next (answers sent)) memory :=
  rfl

/--
A coroutine which is resumed with the same answers again and again comes to
what it does alone.
-/
theorem exists_resumes (coroutine : Coroutine Memory Answer Value) :
    ∃ count,
      (fun state => resume answers state.1 state.2)^[count]
          (untilAwait coroutine memory) =
        (.done (exec answers coroutine memory).1,
          (exec answers coroutine memory).2) := by
  induction coroutine generalizing memory with
  | done value => exact ⟨0, rfl⟩
  | access change resume inductionHypothesis =>
      exact inductionHypothesis memory (change memory)
  | await request resume inductionHypothesis =>
      obtain ⟨count, comes⟩ := inductionHypothesis (answers request) memory
      exact ⟨count + 1, comes⟩

/-- What a coroutine returns while it and the others keep an invariant. -/
def Ensures (invariant : Memory → Prop) (returns : Value → Prop) :
    Coroutine Memory Answer Value → Prop
  | .done value => returns value
  | .access change resume =>
      ∀ memory, invariant memory →
        invariant (change memory) ∧
          Ensures invariant returns (resume memory)
  | .await _ resume => ∀ answer, Ensures invariant returns (resume answer)

section Ensures

variable {invariant : Memory → Prop} {returns : Value → Prop}
    {ends : Result → Prop} {memory : Memory}

theorem ensures_pure {value : Value} (isReturned : returns value) :
    Ensures invariant returns
      (pure value : Coroutine Memory Answer Value) :=
  isReturned

theorem ensures_read :
    Ensures invariant invariant (read : Coroutine Memory Answer Memory) :=
  fun _ keeps => ⟨keeps, keeps⟩

theorem ensures_request (sent : Request) :
    Ensures invariant (fun _ => True)
      (request sent : Coroutine Memory Answer (Answer sent)) :=
  fun _ => trivial

theorem Ensures.bind {first : Coroutine Memory Answer Value}
    {next : Value → Coroutine Memory Answer Result}
    (firstEnsures : first.Ensures invariant returns)
    (nextEnsures :
      ∀ value, returns value → (next value).Ensures invariant ends) :
    (first >>= next).Ensures invariant ends := by
  induction first with
  | done value => exact nextEnsures value firstEnsures
  | access change resume inductionHypothesis =>
      intro memory keeps
      obtain ⟨isKept, later⟩ := firstEnsures memory keeps
      exact ⟨isKept, inductionHypothesis memory later⟩
  | await request resume inductionHypothesis =>
      intro answer
      exact inductionHypothesis answer (firstEnsures answer)

/-- Up to its next await a coroutine keeps the invariant. -/
theorem Ensures.untilAwait {task : Coroutine Memory Answer Value}
    (ensures : task.Ensures invariant returns) (keeps : invariant memory) :
    (Coroutine.untilAwait task memory).1.Ensures invariant returns ∧
      invariant (Coroutine.untilAwait task memory).2 := by
  induction task generalizing memory with
  | done value => exact ⟨ensures, keeps⟩
  | access change resume inductionHypothesis =>
      obtain ⟨isKept, later⟩ := ensures memory keeps
      exact inductionHypothesis memory later isKept
  | await request resume inductionHypothesis => exact ⟨ensures, keeps⟩

theorem Ensures.resume {task : Coroutine Memory Answer Value}
    (ensures : task.Ensures invariant returns) (keeps : invariant memory) :
    (Coroutine.resume answers task memory).1.Ensures invariant returns ∧
      invariant (Coroutine.resume answers task memory).2 := by
  cases task with
  | done value => exact Ensures.untilAwait ensures keeps
  | access change resume => exact Ensures.untilAwait ensures keeps
  | await request resume =>
      exact Ensures.untilAwait (ensures (answers request)) keeps

end Ensures

end Coroutine

/-- The memory, the tasks, and the answers which each task received. -/
structure EventLoop (Client : Type*) (Memory : Type u) {Request : Type v}
    (Answer : Request → Type u) (Value : Type u) where
  memory : Memory
  tasks : Client → Coroutine Memory Answer Value
  answered : Client → List ((request : Request) × Answer request)

namespace EventLoop

/-- The tasks before any of them runs. -/
def start (memory : Memory) (tasks : Client → Coroutine Memory Answer Value) :
    EventLoop Client Memory Answer Value where
  memory := memory
  tasks := tasks
  answered := fun _ => []

variable [DecidableEq Client]
    (loop : EventLoop Client Memory Answer Value) (client : Client)
    (answers : (request : Request) → Answer request)

/-- One task runs up to its next await. -/
def resume : EventLoop Client Memory Answer Value :=
  let resumed := (loop.tasks client).resume answers loop.memory
  { memory := resumed.2
    tasks := Function.update loop.tasks client resumed.1
    answered :=
      Function.update loop.answered client
        ((loop.tasks client).exchange answers ++ loop.answered client) }

/-- What a task returns when it is resumed, unless it returned before. -/
def returns : Option Value :=
  match loop.tasks client with
  | .done _ => none
  | task => (task.resume answers loop.memory).1.value?

variable {loop client answers}

omit [DecidableEq Client] in
/-- A task returns a value when it has not returned before. -/
theorem returns_eq_some {value : Value} :
    loop.returns client answers = some value ↔
      (loop.tasks client).value? = none ∧
        ((loop.tasks client).resume answers loop.memory).1 = .done value := by
  rw [returns, ← Coroutine.value?_eq_some]
  cases loop.tasks client <;> simp [Coroutine.value?]

theorem tasks_resume_of_ne {other : Client} (isOther : other ≠ client) :
    (loop.resume client answers).tasks other = loop.tasks other :=
  Function.update_of_ne isOther _ _

theorem answered_resume_of_ne {other : Client} (isOther : other ≠ client) :
    (loop.resume client answers).answered other = loop.answered other :=
  Function.update_of_ne isOther _ _

@[simp]
theorem tasks_resume_self :
    (loop.resume client answers).tasks client =
      ((loop.tasks client).resume answers loop.memory).1 :=
  Function.update_self _ _ _

@[simp]
theorem answered_resume_self :
    (loop.resume client answers).answered client =
      (loop.tasks client).exchange answers ++ loop.answered client :=
  Function.update_self _ _ _

/-- The tasks ensure what they return, and the memory keeps the invariant. -/
structure Guarantees (invariant : Memory → Prop)
    (returns : Client → Value → Prop)
    (loop : EventLoop Client Memory Answer Value) : Prop where
  memory : invariant loop.memory
  tasks :
    ∀ client, (loop.tasks client).Ensures invariant (returns client)

variable {invariant : Memory → Prop} {returns : Client → Value → Prop}

theorem Guarantees.resume (guarantees : loop.Guarantees invariant returns)
    (client : Client) (answers : (request : Request) → Answer request) :
    (loop.resume client answers).Guarantees invariant returns := by
  obtain ⟨ensures, keeps⟩ :=
    (guarantees.tasks client).resume answers guarantees.memory
  refine ⟨keeps, fun other => ?_⟩
  by_cases same : other = client
  · subst same
    rw [tasks_resume_self]
    exact ensures
  · rw [tasks_resume_of_ne same]
    exact guarantees.tasks other

/-- The loop resumes some tasks, each with its answers. -/
def resumeAll (loop : EventLoop Client Memory Answer Value)
    (schedule : List (Client × ((request : Request) → Answer request))) :
    EventLoop Client Memory Answer Value :=
  LabelledRun.run (fun loop label => loop.resume label.1 label.2) loop schedule

/-- A task which alone is resumed goes on as it does without the others. -/
theorem resumeAll_replicate (loop : EventLoop Client Memory Answer Value)
    (client : Client) (answers : (request : Request) → Answer request)
    (count : Nat) :
    let reached := loop.resumeAll (List.replicate count (client, answers))
    (reached.tasks client, reached.memory) =
      (fun state => Coroutine.resume answers state.1 state.2)^[count]
        (loop.tasks client, loop.memory) := by
  induction count generalizing loop with
  | zero => rfl
  | succ count inductionHypothesis =>
      have later := inductionHypothesis (loop.resume client answers)
      rw [tasks_resume_self] at later
      rw [Function.iterate_succ_apply]
      exact later

/-- A task which is resumed again and again returns. -/
theorem exists_done (loop : EventLoop Client Memory Answer Value)
    (client : Client) (answers : (request : Request) → Answer request) :
    ∃ count value,
      (loop.resumeAll (List.replicate count (client, answers))).tasks client =
        .done value := by
  have resumes :
      ∃ coroutine : Coroutine Memory Answer Value, ∃ memory,
        (loop.tasks client).resume answers loop.memory =
          coroutine.untilAwait memory := by
    cases loop.tasks client with
    | done value => exact ⟨.done value, loop.memory, rfl⟩
    | access change resume => exact ⟨.access change resume, loop.memory, rfl⟩
    | await request resume =>
        exact ⟨resume (answers request), loop.memory, rfl⟩
  obtain ⟨coroutine, memory, isResumed⟩ := resumes
  obtain ⟨count, comes⟩ := coroutine.exists_resumes answers memory
  refine ⟨count + 1, (coroutine.exec answers memory).1, ?_⟩
  have reached := loop.resumeAll_replicate client answers (count + 1)
  rw [Function.iterate_succ_apply, isResumed, comes] at reached
  exact congrArg Prod.fst reached

theorem Guarantees.resumeAll (guarantees : loop.Guarantees invariant returns)
    (schedule : List (Client × ((request : Request) → Answer request))) :
    (loop.resumeAll schedule).Guarantees invariant returns :=
  LabelledRun.run_invariant_of_every
    (fun _ label guarantees => guarantees.resume label.1 label.2) schedule
    guarantees

omit [DecidableEq Client] in
/-- What a task has returned is what it ensures. -/
theorem Guarantees.returned (guarantees : loop.Guarantees invariant returns)
    {client : Client} {value : Value}
    (isDone : loop.tasks client = .done value) : returns client value := by
  have ensures := guarantees.tasks client
  rw [isDone] at ensures
  exact ensures

end EventLoop

end AeroRisk.Library
