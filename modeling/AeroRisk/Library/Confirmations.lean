import AeroRisk.Library.EventLoop
import Mathlib.Data.Set.Insert

/-!
# What the answers of an event loop confirm

An answer confirms some items, for good.  A task knows of the items which its
own answers confirm, and of those which it reads in the memory, as long as each
task stores only what it knows.  Then every item in the memory, and every one
which a task knows of when it returns, was confirmed by an answer to some task.
-/

namespace AeroRisk.Library

universe u v

variable
    {Client : Type*} {Memory : Type u} {Request : Type v}
    {Answer : Request → Type u} {Value Result : Type u} {Item : Type*}

/-- The items which a memory keeps and which an answer confirms. -/
structure Confirmation (Memory : Type u) {Request : Type v}
    (Answer : Request → Type u) (Item : Type*) where
  kept : Memory → Set Item
  confirmed : (request : Request) → Answer request → Set Item

namespace Coroutine

variable (confirmation : Confirmation Memory Answer Item)
    (returns : Set Item → Value → Prop)

/-- A task which knows of some items stores only what it knows. -/
def Justifies : Set Item → Coroutine Memory Answer Value → Prop
  | known, .done value => returns known value
  | known, .access change resume =>
      ∀ memory,
        confirmation.kept (change memory) ⊆
            confirmation.kept memory ∪ known ∧
          Justifies (known ∪ confirmation.kept memory) (resume memory)
  | known, .await request resume =>
      ∀ answer,
        Justifies (known ∪ confirmation.confirmed request answer)
          (resume answer)

variable {confirmation} {returns} {known more : Set Item}
    {ends : Set Item → Result → Prop}

theorem justifies_pure {value : Value} (isReturned : returns known value) :
    Justifies confirmation returns known
      (pure value : Coroutine Memory Answer Value) :=
  isReturned

theorem Justifies.bind {first : Coroutine Memory Answer Value}
    {next : Value → Coroutine Memory Answer Result}
    (firstJustifies : first.Justifies confirmation returns known)
    (nextJustifies :
      ∀ more value, known ⊆ more → returns more value →
        (next value).Justifies confirmation ends more) :
    (first >>= next).Justifies confirmation ends known := by
  induction first generalizing known with
  | done value => exact nextJustifies known value (subset_refl _) firstJustifies
  | access change resume inductionHypothesis =>
      intro memory
      obtain ⟨stores, later⟩ := firstJustifies memory
      refine ⟨stores, inductionHypothesis memory later ?_⟩
      intro more value knows
      exact nextJustifies more value (Set.subset_union_left.trans knows)
  | await request resume inductionHypothesis =>
      intro answer
      refine inductionHypothesis answer (firstJustifies answer) ?_
      intro more value knows
      exact nextJustifies more value (Set.subset_union_left.trans knows)

theorem Justifies.imp {weaker : Set Item → Value → Prop}
    {task : Coroutine Memory Answer Value}
    (justifies : task.Justifies confirmation returns known)
    (weaken : ∀ more value, returns more value → weaker more value) :
    task.Justifies confirmation weaker known := by
  induction task generalizing known with
  | done value => exact weaken known value justifies
  | access change resume inductionHypothesis =>
      intro memory
      obtain ⟨stores, later⟩ := justifies memory
      exact ⟨stores, inductionHypothesis memory later⟩
  | await request resume inductionHypothesis =>
      intro answer
      exact inductionHypothesis answer (justifies answer)

theorem justifies_read :
    (read : Coroutine Memory Answer Memory).Justifies confirmation
      (fun more memory => confirmation.kept memory ⊆ more) known :=
  fun _ => ⟨Set.subset_union_left, Set.subset_union_right⟩

theorem justifies_modify {change : Memory → Memory}
    (stores :
      ∀ memory,
        confirmation.kept (change memory) ⊆
          confirmation.kept memory ∪ known) :
    (modify change : Coroutine Memory Answer PUnit).Justifies confirmation
      (fun _ _ => True) known :=
  fun memory => ⟨stores memory, trivial⟩

theorem justifies_request (sent : Request) :
    (request sent : Coroutine Memory Answer (Answer sent)).Justifies
      confirmation
      (fun more answer => confirmation.confirmed sent answer ⊆ more) known :=
  fun _ => Set.subset_union_right

/-- Up to its next await a task stores and knows only confirmed items. -/
theorem Justifies.untilAwait {task : Coroutine Memory Answer Value}
    {memory : Memory} {confirmed : Set Item}
    (justifies : task.Justifies confirmation returns known)
    (knows : known ⊆ confirmed)
    (keeps : confirmation.kept memory ⊆ confirmed) :
    confirmation.kept (Coroutine.untilAwait task memory).2 ⊆ confirmed ∧
      ∃ more, more ⊆ confirmed ∧
        (Coroutine.untilAwait task memory).1.Justifies confirmation returns
          more := by
  induction task generalizing memory known with
  | done value => exact ⟨keeps, known, knows, justifies⟩
  | access change resume inductionHypothesis =>
      obtain ⟨stores, later⟩ := justifies memory
      exact
        inductionHypothesis memory later (Set.union_subset knows keeps)
          (stores.trans (Set.union_subset keeps knows))
  | await request resume inductionHypothesis =>
      exact ⟨keeps, known, knows, justifies⟩

theorem Justifies.resume {task : Coroutine Memory Answer Value}
    {memory : Memory} {confirmed : Set Item}
    {answers : (request : Request) → Answer request}
    (justifies : task.Justifies confirmation returns known)
    (knows : known ⊆ confirmed)
    (keeps : confirmation.kept memory ⊆ confirmed)
    (adds :
      ∀ exchange ∈ task.exchange answers,
        confirmation.confirmed exchange.1 exchange.2 ⊆ confirmed) :
    confirmation.kept (Coroutine.resume answers task memory).2 ⊆ confirmed ∧
      ∃ more, more ⊆ confirmed ∧
        (Coroutine.resume answers task memory).1.Justifies confirmation
          returns more := by
  cases task with
  | done value => exact justifies.untilAwait knows keeps
  | access change resume => exact justifies.untilAwait knows keeps
  | await request resume =>
      have isConfirmed := adds ⟨request, answers request⟩ List.mem_cons_self
      exact
        (justifies (answers request)).untilAwait
          (Set.union_subset knows isConfirmed) keeps

end Coroutine

namespace EventLoop

/-- The items which the answers to all tasks confirm. -/
def confirmedBy (confirmation : Confirmation Memory Answer Item)
    (loop : EventLoop Client Memory Answer Value) : Set Item :=
  { item |
    ∃ client, ∃ exchange ∈ loop.answered client,
      item ∈ confirmation.confirmed exchange.1 exchange.2 }

/-- The memory keeps, and every task knows of, confirmed items only. -/
structure Justified (confirmation : Confirmation Memory Answer Item)
    (returns : Client → Set Item → Value → Prop)
    (loop : EventLoop Client Memory Answer Value) : Prop where
  memory : confirmation.kept loop.memory ⊆ loop.confirmedBy confirmation
  tasks :
    ∀ client, ∃ known, known ⊆ loop.confirmedBy confirmation ∧
      (loop.tasks client).Justifies confirmation (returns client) known

variable
    {confirmation : Confirmation Memory Answer Item}
    {returns : Client → Set Item → Value → Prop}
    {loop : EventLoop Client Memory Answer Value}

theorem justified_start {memory : Memory}
    {tasks : Client → Coroutine Memory Answer Value}
    (nothing : confirmation.kept memory = ∅)
    (justifies :
      ∀ client, (tasks client).Justifies confirmation (returns client) ∅) :
    (start memory tasks).Justified confirmation returns where
  memory := by
    rw [start, nothing]
    exact Set.empty_subset _
  tasks := fun client => ⟨∅, Set.empty_subset _, justifies client⟩

variable [DecidableEq Client]

/-- What is confirmed stays confirmed, and an answer adds what it confirms. -/
theorem confirmedBy_resume (confirmation : Confirmation Memory Answer Item)
    (loop : EventLoop Client Memory Answer Value) (client : Client)
    (answers : (request : Request) → Answer request) :
    loop.confirmedBy confirmation ⊆
        (loop.resume client answers).confirmedBy confirmation ∧
      ∀ exchange ∈ (loop.tasks client).exchange answers,
        confirmation.confirmed exchange.1 exchange.2 ⊆
          (loop.resume client answers).confirmedBy confirmation := by
  constructor
  · rintro item ⟨other, exchange, member, isConfirmed⟩
    refine ⟨other, exchange, ?_, isConfirmed⟩
    by_cases same : other = client
    · subst same
      rw [answered_resume_self]
      exact List.mem_append_right _ member
    · rw [answered_resume_of_ne same]
      exact member
  · intro exchange member item isConfirmed
    refine ⟨client, exchange, ?_, isConfirmed⟩
    rw [answered_resume_self]
    exact List.mem_append_left _ member

theorem Justified.resume (justified : loop.Justified confirmation returns)
    (client : Client) (answers : (request : Request) → Answer request) :
    (loop.resume client answers).Justified confirmation returns := by
  obtain ⟨stays, adds⟩ := confirmedBy_resume confirmation loop client answers
  obtain ⟨known, knows, justifies⟩ := justified.tasks client
  have resumed :=
    justifies.resume (knows.trans stays) (justified.memory.trans stays) adds
  refine ⟨resumed.1, fun other => ?_⟩
  by_cases same : other = client
  · subst same
    rw [tasks_resume_self]
    exact resumed.2
  · obtain ⟨others, othersKnow, othersJustify⟩ := justified.tasks other
    rw [tasks_resume_of_ne same]
    exact ⟨others, othersKnow.trans stays, othersJustify⟩

theorem Justified.resumeAll (justified : loop.Justified confirmation returns)
    (schedule : List (Client × ((request : Request) → Answer request))) :
    (loop.resumeAll schedule).Justified confirmation returns :=
  LabelledRun.run_invariant_of_every
    (fun _ label justified => justified.resume label.1 label.2) schedule
    justified

omit [DecidableEq Client] in
/-- What a task has returned is justified by confirmed items. -/
theorem Justified.returned (justified : loop.Justified confirmation returns)
    {client : Client} {value : Value}
    (isDone : loop.tasks client = .done value) :
    ∃ known, known ⊆ loop.confirmedBy confirmation ∧
      returns client known value := by
  obtain ⟨known, knows, justifies⟩ := justified.tasks client
  rw [isDone] at justifies
  exact ⟨known, knows, justifies⟩

end EventLoop

end AeroRisk.Library
