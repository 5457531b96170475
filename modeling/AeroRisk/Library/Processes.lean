import AeroRisk.Library.LabelledRun
import Mathlib.Logic.Function.Basic

/-!
# Interleaved processes

Processes share a memory, and each of them has a list of instructions which
are left to do.  A step of a process executes its first instruction, which
may change the memory, put further instructions before the rest, and start
another process; an instruction which has to wait leaves everything as it is.
A schedule says which process takes the next step and how its instruction
chooses, so a statement about every schedule is one about every interleaving.

Two rules say what holds in every run: the processes keep to the instructions
they are allowed, and their programs fit the modes in which they hold what
they share.
-/

namespace AeroRisk.Library.Processes

universe u v w x

variable
    {Memory : Type u} {Process : Type v} {Instruction : Type w}
    {Choice : Type x}

/-- The shared memory and what every process has left to do. -/
structure Config (Memory : Type u) (Process : Type v)
    (Instruction : Type w) where
  memory : Memory
  program : Process → List Instruction

/-- What an instruction does. -/
structure Effect (Memory : Type u) (Process : Type v)
    (Instruction : Type w) where
  memory : Memory
  /-- The instructions which come before the rest of the program. -/
  continuation : List Instruction
  /-- The process which is started. -/
  started : Option Process

variable [DecidableEq Process]

/-- The programs after one process went on and another may have started. -/
def programs (entry : Process → List Instruction)
    (program : Process → List Instruction) (process : Process)
    (left : List Instruction) (started : Option Process) :
    Process → List Instruction :=
  let advanced := Function.update program process left
  match started with
  | none => advanced
  | some other => Function.update advanced other (entry other)

/-- One step of a process. -/
def step
    (execute :
      Process → Instruction → Choice → Memory →
        Option (Effect Memory Process Instruction))
    (entry : Process → List Instruction)
    (config : Config Memory Process Instruction)
    (label : Process × Choice) : Config Memory Process Instruction :=
  match config.program label.1 with
  | [] => config
  | instruction :: rest =>
      match execute label.1 instruction label.2 config.memory with
      | none => config
      | some effect =>
          { memory := effect.memory
            program :=
              programs entry config.program label.1
                (effect.continuation ++ rest) effect.started }

section Programs

variable
    {entry : Process → List Instruction}
    {program : Process → List Instruction}
    {process other : Process} {left : List Instruction}
    {started : Option Process}

theorem programs_apply :
    programs entry program process left started other =
      if started = some other then
        entry other
      else if other = process then
        left
      else
        program other := by
  cases started with
  | none => simp [programs, Function.update_apply]
  | some another =>
      by_cases same : another = other
      · subst same
        simp [programs]
      · have distinct : other ≠ another := fun equal => same equal.symm
        simp [programs, Function.update_apply, same, distinct]

theorem programs_started :
    programs entry program process left (some other) other = entry other := by
  simp [programs_apply]

theorem programs_self (ne : started ≠ some process) :
    programs entry program process left started process = left := by
  simp [programs_apply, ne]

theorem programs_of_ne (ne : other ≠ process)
    (notStarted : started ≠ some other) :
    programs entry program process left started other = program other := by
  simp [programs_apply, ne, notStarted]

end Programs

section Rules

variable
    {execute :
      Process → Instruction → Choice → Memory →
        Option (Effect Memory Process Instruction)}
    {entry : Process → List Instruction}

variable (execute entry) in
/-- What a step can do: nothing, or execute the first instruction. -/
theorem step_cases (config : Config Memory Process Instruction)
    (process : Process) (choice : Choice) :
    step execute entry config (process, choice) = config ∨
      ∃ instruction rest effect,
        config.program process = instruction :: rest ∧
          execute process instruction choice config.memory = some effect ∧
            step execute entry config (process, choice) =
              { memory := effect.memory
                program :=
                  programs entry config.program process
                    (effect.continuation ++ rest) effect.started } := by
  rw [step]
  cases program : config.program process with
  | nil => exact Or.inl rfl
  | cons instruction rest =>
      dsimp only
      cases executed : execute process instruction choice config.memory with
      | none => exact Or.inl rfl
      | some effect =>
          exact Or.inr ⟨instruction, rest, effect, rfl, executed, rfl⟩

/-- A property is kept by every step when every executed one keeps it. -/
theorem step_invariant
    {invariant : Config Memory Process Instruction → Prop}
    (preserved :
      ∀ config process choice instruction rest effect,
        invariant config →
          config.program process = instruction :: rest →
            execute process instruction choice config.memory = some effect →
              invariant
                { memory := effect.memory
                  program :=
                    programs entry config.program process
                      (effect.continuation ++ rest) effect.started })
    (config : Config Memory Process Instruction)
    (label : Process × Choice) (initially : invariant config) :
    invariant (step execute entry config label) := by
  rcases label with ⟨process, choice⟩
  rcases step_cases execute entry config process choice with
    same | ⟨instruction, rest, effect, program, executed, equation⟩
  · rw [same]
    exact initially
  · rw [equation]
    exact
      preserved config process choice instruction rest effect initially
        program executed

/-- Every process keeps to the instructions it is allowed. -/
def KeepsTo (allowed : Process → Instruction → Prop)
    (program : Process → List Instruction) : Prop :=
  ∀ process, ∀ instruction ∈ program process, allowed process instruction

theorem KeepsTo.next {allowed : Process → Instruction → Prop}
    (entries : ∀ process, ∀ instruction ∈ entry process,
      allowed process instruction)
    {program : Process → List Instruction}
    (keepsTo : KeepsTo allowed program)
    {process : Process} {instruction : Instruction}
    {rest continuation : List Instruction} (started : Option Process)
    (ahead : program process = instruction :: rest)
    (continues :
      ∀ further ∈ continuation, allowed process further) :
    KeepsTo allowed
      (programs entry program process (continuation ++ rest) started) := by
  intro other further member
  by_cases starts : started = some other
  · subst starts
    rw [programs_started] at member
    exact entries other further member
  by_cases same : other = process
  · subst same
    rw [programs_self starts, List.mem_append] at member
    rcases member with member | member
    · exact continues further member
    · apply keepsTo
      rw [ahead]
      exact List.mem_cons_of_mem instruction member
  · rw [programs_of_ne same starts] at member
    exact keepsTo other further member

variable {Mode : Type*}

/-- The program of every process fits its mode. -/
def Fits (fits : Mode → List Instruction → Prop) (mode : Process → Mode)
    (program : Process → List Instruction) : Prop :=
  ∀ process, fits (mode process) (program process)

/--
The programs fit after a step, when what is left of the program which went on
fits the new mode of its process, the modes of the others are as before, and
what is started fits.
-/
theorem Fits.next {fits : Mode → List Instruction → Prop}
    {mode later : Process → Mode}
    {program : Process → List Instruction} (before : Fits fits mode program)
    {process : Process} {left : List Instruction} {started : Option Process}
    (own : fits (later process) left)
    (others : ∀ other, other ≠ process → later other = mode other)
    (starts : ∀ other, started = some other →
      fits (later other) (entry other)) :
    Fits fits later (programs entry program process left started) := by
  intro other
  by_cases isStarted : started = some other
  · subst isStarted
    rw [programs_started]
    exact starts other rfl
  by_cases same : other = process
  · subst same
    rw [programs_self isStarted]
    exact own
  · rw [programs_of_ne same isStarted, others other same]
    exact before other

end Rules

end AeroRisk.Library.Processes
