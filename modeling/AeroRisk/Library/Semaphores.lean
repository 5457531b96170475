import AeroRisk.Library.EventLoop
import Mathlib.Data.Fintype.Card

/-!
# Tasks behind a semaphore

The tasks of an event loop acquire a semaphore before they start and release
it when they return.  A task which finds the counter at zero is blocked: to
resume it changes nothing until another task has returned.

The tasks which hold the semaphore and its counter add up to the limit, every
run is a run of the tasks without the semaphore, and no state is a deadlock.
-/

namespace AeroRisk.Library

universe u v

/-! ## Runs which skip some labels -/

/--
A run whose steps are steps of an abstract one, or change nothing there, is
an abstract run over some of its labels.  Only the labels which are not
`kept` may be skipped.
-/
theorem LabelledRun.exists_sublist_run {State Abstract Label : Type*}
    {next : State → Label → State}
    {abstractNext : Abstract → Label → Abstract}
    (abstraction : State → Abstract) (kept : Label → Bool)
    (refines :
      ∀ state label,
        abstraction (next state label) =
            abstractNext (abstraction state) label ∨
          kept label = false ∧
            abstraction (next state label) = abstraction state)
    (state : State) (labels : List Label) :
    ∃ taken : List Label,
      taken.Sublist labels ∧
        taken.filter kept = labels.filter kept ∧
        abstraction (run next state labels) =
          run abstractNext (abstraction state) taken := by
  induction labels generalizing state with
  | nil => exact ⟨[], List.Sublist.refl [], rfl, rfl⟩
  | cons label rest inductionHypothesis =>
      obtain ⟨taken, sublist, same, reaches⟩ :=
        inductionHypothesis (next state label)
      rw [run_cons, reaches]
      rcases refines state label with steps | ⟨skipped, stays⟩
      · refine ⟨label :: taken, sublist.cons_cons label, ?_, ?_⟩
        · rw [List.filter_cons, List.filter_cons, same]
        · rw [run_cons, steps]
      · refine ⟨taken, sublist.cons label, ?_, ?_⟩
        · rw [List.filter_cons_of_neg (by simp [skipped]), same]
        · rw [stays]

/-! ## The semaphore -/

/-- The loop, the counter of the semaphore, and who holds or has left it. -/
structure GuardedLoop (Client : Type*) (Memory : Type u) {Request : Type v}
    (Answer : Request → Type u) (Value : Type u) where
  loop : EventLoop Client Memory Answer Value
  counter : Nat
  holders : Finset Client
  finished : Finset Client

namespace GuardedLoop

variable {Client : Type*} {Memory : Type u} {Request : Type v}
    {Answer : Request → Type u} {Value : Type u}

/-- The tasks before any of them acquires the semaphore. -/
def start (limit : Nat) (memory : Memory)
    (tasks : Client → Coroutine Memory Answer Value) :
    GuardedLoop Client Memory Answer Value where
  loop := EventLoop.start memory tasks
  counter := limit
  holders := ∅
  finished := ∅

/-- The memory is changed from outside. -/
def change (guarded : GuardedLoop Client Memory Answer Value)
    (changes : Memory → Memory) : GuardedLoop Client Memory Answer Value :=
  { guarded with
    loop := { guarded.loop with memory := changes guarded.loop.memory } }

variable [DecidableEq Client]
    (guarded : GuardedLoop Client Memory Answer Value) (client : Client)
    (answers : (request : Request) → Answer request)

/-- A task acquires the semaphore. -/
def acquire : GuardedLoop Client Memory Answer Value :=
  { guarded with
    counter := guarded.counter - 1
    holders := insert client guarded.holders }

/-- A task releases the semaphore, and is over. -/
def release : GuardedLoop Client Memory Answer Value :=
  { guarded with
    counter := guarded.counter + 1
    holders := guarded.holders.erase client
    finished := insert client guarded.finished }

/-- A holder runs up to its next await, or until it returns. -/
def advance : GuardedLoop Client Memory Answer Value :=
  let advanced :=
    { guarded with loop := guarded.loop.resume client answers }
  if (advanced.loop.tasks client).value?.isSome then
    advanced.release client
  else
    advanced

/-- One task is resumed: it acquires the semaphore first, if it can. -/
def resume : GuardedLoop Client Memory Answer Value :=
  if client ∈ guarded.finished then
    guarded
  else if client ∈ guarded.holders then
    guarded.advance client answers
  else if guarded.counter = 0 then
    guarded
  else
    (guarded.acquire client).advance client answers

/-- The task is not blocked. -/
def Runs : Prop :=
  client ∉ guarded.finished ∧
    (client ∈ guarded.holders ∨ guarded.counter ≠ 0)

variable {guarded client answers}

theorem loop_advance :
    (guarded.advance client answers).loop =
      guarded.loop.resume client answers := by
  rw [advance]
  split <;> rfl

variable (guarded client answers) in
/-- A resumed task runs as without the semaphore, or nothing changes. -/
theorem loop_resume :
    (guarded.resume client answers).loop =
        guarded.loop.resume client answers ∨
      (guarded.resume client answers).loop = guarded.loop := by
  rw [resume]
  split
  · exact Or.inr rfl
  · split
    · exact Or.inl loop_advance
    · split
      · exact Or.inr rfl
      · exact Or.inl loop_advance

variable (answers) in
/-- A resumed task which is not blocked holds the semaphore and advances. -/
theorem resume_of_runs (runs : guarded.Runs client) :
    ∃ held : GuardedLoop Client Memory Answer Value,
      held.loop = guarded.loop ∧ held.finished = guarded.finished ∧
        client ∈ held.holders ∧
        guarded.resume client answers = held.advance client answers := by
  rw [resume, if_neg runs.1]
  split
  · next holds => exact ⟨guarded, rfl, rfl, holds, rfl⟩
  · next waits =>
      rw [if_neg (runs.2.resolve_left waits)]
      exact ⟨guarded.acquire client, rfl, rfl,
        Finset.mem_insert_self _ _, rfl⟩

/-- The semaphore is consistent with the tasks. -/
structure Sound (limit : Nat) (tasks : Client → Coroutine Memory Answer Value)
    (guarded : GuardedLoop Client Memory Answer Value) : Prop where
  permits : guarded.counter + guarded.holders.card = limit
  disjoint : Disjoint guarded.holders guarded.finished
  finished :
    ∀ client ∈ guarded.finished,
      ∃ value, guarded.loop.tasks client = .done value
  /-- A task which never held the semaphore did not start. -/
  outside :
    ∀ client, client ∉ guarded.holders → client ∉ guarded.finished →
      guarded.loop.tasks client = tasks client

variable {limit : Nat} {tasks : Client → Coroutine Memory Answer Value}

omit [DecidableEq Client] in
theorem sound_start (limit : Nat) (memory : Memory)
    (tasks : Client → Coroutine Memory Answer Value) :
    Sound limit tasks (start limit memory tasks) where
  permits := rfl
  disjoint := Finset.disjoint_empty_left _
  finished := fun _ member => absurd member (Finset.notMem_empty _)
  outside := fun _ _ _ => rfl

omit [DecidableEq Client] in
theorem Sound.change (sound : Sound limit tasks guarded)
    (changes : Memory → Memory) :
    Sound limit tasks (guarded.change changes) :=
  ⟨sound.permits, sound.disjoint, sound.finished, sound.outside⟩

theorem Sound.acquire (sound : Sound limit tasks guarded)
    (unfinished : client ∉ guarded.finished)
    (waits : client ∉ guarded.holders) (free : guarded.counter ≠ 0) :
    Sound limit tasks (guarded.acquire client) where
  permits := by
    have permits := sound.permits
    simp only [GuardedLoop.acquire, Finset.card_insert_of_notMem waits]
    omega
  disjoint := Finset.disjoint_insert_left.mpr ⟨unfinished, sound.disjoint⟩
  finished := sound.finished
  outside := by
    intro other notHolder
    rw [GuardedLoop.acquire, Finset.mem_insert, not_or] at notHolder
    exact sound.outside other notHolder.2

theorem Sound.advance (sound : Sound limit tasks guarded)
    (holds : client ∈ guarded.holders) :
    Sound limit tasks (guarded.advance client answers) := by
  have unfinished : client ∉ guarded.finished :=
    Finset.disjoint_left.mp sound.disjoint holds
  have tasksOf : ∀ other, other ≠ client →
      (guarded.loop.resume client answers).tasks other =
        guarded.loop.tasks other :=
    fun other isOther => EventLoop.tasks_resume_of_ne isOther
  have finishedOf : ∀ other ∈ guarded.finished,
      ∃ value,
        (guarded.loop.resume client answers).tasks other = .done value := by
    intro other isFinished
    rw [tasksOf other (ne_of_mem_of_not_mem isFinished unfinished)]
    exact sound.finished other isFinished
  rw [GuardedLoop.advance]
  split
  · next returned =>
      obtain ⟨value, isReturned⟩ := Option.isSome_iff_exists.mp returned
      have permits := sound.permits
      have some : 0 < guarded.holders.card := Finset.card_pos.mpr ⟨_, holds⟩
      refine ⟨?_, ?_, ?_, ?_⟩
      · simp only [release, Finset.card_erase_of_mem holds]
        omega
      · rw [release, Finset.disjoint_insert_right]
        exact ⟨Finset.notMem_erase _ _,
          sound.disjoint.mono_left (Finset.erase_subset _ _)⟩
      · intro other isFinished
        rcases Finset.mem_insert.mp isFinished with rfl | before
        · exact ⟨value, Coroutine.value?_eq_some.mp isReturned⟩
        · exact finishedOf other before
      · intro other notHolder notFinished
        simp only [release, Finset.mem_insert, Finset.mem_erase,
          not_or] at notHolder notFinished
        exact (tasksOf other notFinished.1).trans
          (sound.outside other
            (fun before => notHolder ⟨notFinished.1, before⟩)
            notFinished.2)
  · refine ⟨sound.permits, sound.disjoint, finishedOf, ?_⟩
    intro other notHolder notFinished
    exact (tasksOf other (ne_of_mem_of_not_mem holds notHolder).symm).trans
      (sound.outside other notHolder notFinished)

theorem Sound.resume (sound : Sound limit tasks guarded) (client : Client)
    (answers : (request : Request) → Answer request) :
    Sound limit tasks (guarded.resume client answers) := by
  rw [GuardedLoop.resume]
  split
  · exact sound
  · next unfinished =>
      split
      · next holds => exact sound.advance holds
      · next waits =>
          split
          · exact sound
          · next free =>
              exact (sound.acquire unfinished waits free).advance
                (Finset.mem_insert_self _ _)

/-! ## No deadlock -/

/-- The loop resumes some tasks, each with its answers. -/
def resumeAll (guarded : GuardedLoop Client Memory Answer Value)
    (schedule : List (Client × ((request : Request) → Answer request))) :
    GuardedLoop Client Memory Answer Value :=
  LabelledRun.run (fun guarded label => guarded.resume label.1 label.2)
    guarded schedule

theorem Sound.resumeAll (sound : Sound limit tasks guarded)
    (schedule : List (Client × ((request : Request) → Answer request))) :
    Sound limit tasks (guarded.resumeAll schedule) :=
  LabelledRun.run_invariant_of_every
    (fun _ label sound => sound.resume label.1 label.2) schedule sound

/-- A task which is not blocked and is resumed again and again finishes. -/
theorem exists_finished (answers : (request : Request) → Answer request)
    (runs : guarded.Runs client) :
    ∃ count,
      insert client guarded.finished ⊆
        (guarded.resumeAll
          (List.replicate count (client, answers))).finished := by
  obtain ⟨count, value, returns⟩ :=
    EventLoop.exists_done guarded.loop client answers
  induction count generalizing guarded with
  | zero =>
      obtain ⟨held, sameLoop, sameFinished, -, advances⟩ :=
        resume_of_runs answers runs
      refine ⟨1, ?_⟩
      have isDone : guarded.loop.tasks client = .done value := returns
      change _ ⊆ (guarded.resume client answers).finished
      rw [advances, advance, EventLoop.tasks_resume_self, sameLoop, isDone]
      exact sameFinished ▸ Finset.Subset.refl _
  | succ count inductionHypothesis =>
      obtain ⟨held, sameLoop, sameFinished, holds, advances⟩ :=
        resume_of_runs answers runs
      by_cases returned :
          ((guarded.loop.resume client answers).tasks client).value?.isSome
      · refine ⟨1, ?_⟩
        change _ ⊆ (guarded.resume client answers).finished
        rw [advances, advance, sameLoop, if_pos returned, ← sameFinished]
        exact Finset.Subset.refl _
      · have goesOn :
            guarded.resume client answers =
              { held with loop := guarded.loop.resume client answers } := by
          rw [advances, advance, sameLoop, if_neg returned]
        have stillRuns : (guarded.resume client answers).Runs client := by
          rw [goesOn]
          exact ⟨sameFinished ▸ runs.1, Or.inl holds⟩
        obtain ⟨more, finishes⟩ :=
          inductionHypothesis stillRuns (by rw [goesOn]; exact returns)
        refine ⟨more + 1, ?_⟩
        rw [goesOn] at finishes
        rw [← sameFinished]
        change _ ⊆
          ((guarded.resume client answers).resumeAll
            (List.replicate more (client, answers))).finished
        rw [goesOn]
        exact finishes

omit [DecidableEq Client] in
/-- While a task is unfinished, some task is not blocked. -/
theorem Sound.exists_runs (sound : Sound limit tasks guarded)
    (positive : 0 < limit) (unfinished : client ∉ guarded.finished) :
    ∃ other, guarded.Runs other := by
  rcases guarded.holders.eq_empty_or_nonempty with empty | ⟨other, holds⟩
  · have permits := sound.permits
    rw [empty, Finset.card_empty] at permits
    exact ⟨client, unfinished, Or.inr (by omega)⟩
  · exact ⟨other, Finset.disjoint_left.mp sound.disjoint holds,
      Or.inl holds⟩

/-- From every state the tasks can be resumed until all have finished. -/
theorem Sound.exists_all_finished [Fintype Client]
    (sound : Sound limit tasks guarded) (positive : 0 < limit)
    (answers : (request : Request) → Answer request) :
    ∃ clients : List Client,
      (guarded.resumeAll (clients.map fun client => (client, answers))).finished
        = Finset.univ := by
  generalize remaining :
    (Finset.univ \ guarded.finished : Finset Client).card = count
  induction count using Nat.strong_induction_on generalizing guarded with
  | h count inductionHypothesis =>
      by_cases all : guarded.finished = Finset.univ
      · exact ⟨[], all⟩
      · obtain ⟨client, -, unfinished⟩ :=
          Finset.exists_of_ssubset (Finset.ssubset_univ_iff.mpr all)
        obtain ⟨other, runs⟩ := sound.exists_runs positive unfinished
        obtain ⟨times, more⟩ := exists_finished answers runs
        have fewer :
            (Finset.univ \ (guarded.resumeAll
              (List.replicate times (other, answers))).finished).card <
                count := by
          rw [← remaining]
          apply Finset.card_lt_card
          apply Finset.ssubset_of_subset_of_ssubset
            (Finset.sdiff_subset_sdiff (Finset.Subset.refl _) more)
          refine Finset.ssubset_iff_of_subset
            (Finset.sdiff_subset_sdiff (Finset.Subset.refl _)
              (Finset.subset_insert _ _)) |>.mpr ⟨other, ?_, ?_⟩
          · simpa using runs.1
          · simp
        obtain ⟨clients, finishes⟩ :=
          inductionHypothesis _ fewer (sound.resumeAll _) rfl
        refine ⟨List.replicate times other ++ clients, ?_⟩
        rw [GuardedLoop.resumeAll, List.map_append, List.map_replicate,
          LabelledRun.run_append]
        exact finishes

end GuardedLoop

end AeroRisk.Library
