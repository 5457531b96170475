import AeroRisk.Library.Processes
import Mathlib.Algebra.BigOperators.Group.Finset.Piecewise
import Mathlib.Algebra.Order.BigOperators.Group.Finset

/-!
# Processes which come to an end

Every instruction has a weight, and what is in the memory has one too.  When
every executed instruction is heavier than what it leaves behind, the schedule
does not matter: only as many instructions are executed as the weights allow.
A step which has to wait costs nothing.
-/

namespace AeroRisk.Library.Processes

universe u v w x

variable
    {Memory : Type u} {Process : Type v} {Instruction : Type w}
    {Choice : Type x}

/-- A step executes an instruction. -/
def executes
    (execute :
      Process → Instruction → Choice → Memory →
        Option (Effect Memory Process Instruction))
    (config : Config Memory Process Instruction)
    (label : Process × Choice) : Bool :=
  match config.program label.1 with
  | [] => false
  | instruction :: _ =>
      (execute label.1 instruction label.2 config.memory).isSome

variable [DecidableEq Process]

/-- The number of the steps of a schedule which execute an instruction. -/
def executedSteps
    (execute :
      Process → Instruction → Choice → Memory →
        Option (Effect Memory Process Instruction))
    (entry : Process → List Instruction) :
    Config Memory Process Instruction → List (Process × Choice) → Nat
  | _, [] => 0
  | config, label :: rest =>
      (if executes execute config label then 1 else 0) +
        executedSteps execute entry (step execute entry config label) rest

/-- The weight of a program. -/
def load (weight : Instruction → Nat) : List Instruction → Nat
  | [] => 0
  | instruction :: rest => weight instruction + load weight rest

/-- The weight of what is started. -/
def startedLoad (weight : Instruction → Nat)
    (entry : Process → List Instruction) : Option Process → Nat
  | none => 0
  | some other => load weight (entry other)

/-- The weight of the memory and of what some processes have left to do. -/
def effort (potential : Memory → Nat) (weight : Instruction → Nat)
    (processes : Finset Process)
    (config : Config Memory Process Instruction) : Nat :=
  potential config.memory +
    ∑ process ∈ processes, load weight (config.program process)

section Loads

variable {weight : Instruction → Nat}

@[simp]
theorem load_nil : load weight [] = 0 :=
  rfl

@[simp]
theorem load_cons (instruction : Instruction) (rest : List Instruction) :
    load weight (instruction :: rest) =
      weight instruction + load weight rest :=
  rfl

@[simp]
theorem load_append (first second : List Instruction) :
    load weight (first ++ second) = load weight first + load weight second := by
  induction first with
  | nil => simp
  | cons instruction first inductionHypothesis =>
      simp [inductionHypothesis, Nat.add_assoc]

end Loads

section Exchanges

variable {Key Item : Type*} [DecidableEq Key] {keys : Finset Key} {key : Key}

/-- What is added up when one item is exchanged. -/
theorem sum_update_of_mem (cost : Item → Nat) (items : Key → Item)
    (member : key ∈ keys) (item : Item) :
    (∑ other ∈ keys, cost (Function.update items key item other)) +
        cost (items key) =
      (∑ other ∈ keys, cost (items other)) + cost item := by
  have before :=
    Finset.add_sum_erase keys (fun other => cost (items other)) member
  have after :=
    Finset.add_sum_erase keys
      (fun other => cost (Function.update items key item other)) member
  have rest :
      ∑ other ∈ keys.erase key, cost (Function.update items key item other) =
        ∑ other ∈ keys.erase key, cost (items other) := by
    apply Finset.sum_congr rfl
    intro other isOther
    rw [Function.update_of_ne (Finset.ne_of_mem_erase isOther)]
  rw [rest, Function.update_self] at after
  omega

/-- What is added up when an item is exchanged which need not be counted. -/
theorem sum_update_of_notMem (cost : Item → Nat) (items : Key → Item)
    (notMember : key ∉ keys) (item : Item) :
    ∑ other ∈ keys, cost (Function.update items key item other) =
      ∑ other ∈ keys, cost (items other) := by
  apply Finset.sum_congr rfl
  intro other isOther
  rw [Function.update_of_ne]
  rintro rfl
  exact notMember isOther

end Exchanges

section Programs

variable {weight : Instruction → Nat} {processes : Finset Process}

variable (weight) in
/-- One process goes on and another one may start. -/
theorem sum_load_programs_le (entry program : Process → List Instruction)
    {process : Process} (member : process ∈ processes)
    (left : List Instruction) (started : Option Process) :
    (∑ other ∈ processes,
        load weight (programs entry program process left started other)) +
        load weight (program process) ≤
      (∑ other ∈ processes, load weight (program other)) +
        load weight left + startedLoad weight entry started := by
  have advanced := sum_update_of_mem (load weight) program member left
  cases started with
  | none =>
      rw [startedLoad, programs]
      omega
  | some other =>
      rw [startedLoad, programs]
      by_cases counted : other ∈ processes
      · have starts :=
          sum_update_of_mem (load weight)
            (Function.update program process left) counted (entry other)
        omega
      · rw [sum_update_of_notMem (load weight) _ counted]
        omega

end Programs

section Rules

variable
    {execute :
      Process → Instruction → Choice → Memory →
        Option (Effect Memory Process Instruction)}
    {entry : Process → List Instruction}
    {potential : Memory → Nat} {weight : Instruction → Nat}
    {processes : Finset Process}

variable (execute entry) in
/-- The steps which execute an instruction, and the idle ones. -/
theorem executes_cases (config : Config Memory Process Instruction)
    (process : Process) (choice : Choice) :
    executes execute config (process, choice) = false ∧
        step execute entry config (process, choice) = config ∨
      executes execute config (process, choice) = true ∧
        ∃ instruction rest effect,
          config.program process = instruction :: rest ∧
            execute process instruction choice config.memory = some effect ∧
              step execute entry config (process, choice) =
                { memory := effect.memory
                  program :=
                    programs entry config.program process
                      (effect.continuation ++ rest) effect.started } := by
  rw [executes, step]
  cases program : config.program process with
  | nil => exact Or.inl ⟨rfl, rfl⟩
  | cons instruction rest =>
      dsimp only
      cases executed : execute process instruction choice config.memory with
      | none => exact Or.inl ⟨rfl, rfl⟩
      | some effect =>
          exact Or.inr ⟨rfl, instruction, rest, effect, rfl, executed, rfl⟩

variable (entry) in
/-- The effort becomes less when what is left is lighter than what was done. -/
theorem effort_lt {config : Config Memory Process Instruction}
    {process : Process} {instruction : Instruction}
    {rest : List Instruction} {effect : Effect Memory Process Instruction}
    (member : process ∈ processes)
    (program : config.program process = instruction :: rest)
    (lighter :
      potential effect.memory + load weight effect.continuation +
          startedLoad weight entry effect.started <
        potential config.memory + weight instruction) :
    effort potential weight processes
        { memory := effect.memory
          program :=
            programs entry config.program process
              (effect.continuation ++ rest) effect.started } <
      effort potential weight processes config := by
  have exchanged :=
    sum_load_programs_le weight entry config.program member
      (effect.continuation ++ rest) effect.started
  rw [program, load_cons, load_append] at exchanged
  dsimp only [effort]
  omega

/-- What the steps of some processes keep holds after their schedules. -/
theorem run_invariant_within
    {invariant : Config Memory Process Instruction → Prop}
    (preserved :
      ∀ config label, label.1 ∈ processes → invariant config →
        invariant (step execute entry config label))
    {config : Config Memory Process Instruction}
    (initially : invariant config) {schedule : List (Process × Choice)}
    (within : ∀ label ∈ schedule, label.1 ∈ processes) :
    invariant (LabelledRun.run (step execute entry) config schedule) := by
  have along :
      LabelledRun.Along (step execute entry)
        (fun _ label => label.1 ∈ processes) config schedule := by
    rw [LabelledRun.along_iff_of_split]
    rintro earlier label later rfl
    exact within label (by simp)
  exact
    LabelledRun.run_invariant
      (fun config label holds member =>
        preserved config label member holds)
      along initially

/--
The termination rule: when every executed instruction of some processes is
heavier than what it leaves behind, then no schedule of these processes
executes more instructions than their effort allows.
-/
theorem executedSteps_le_effort
    {invariant : Config Memory Process Instruction → Prop}
    (preserved :
      ∀ config label, label.1 ∈ processes → invariant config →
        invariant (step execute entry config label))
    (lighter :
      ∀ config process choice instruction rest effect,
        process ∈ processes → invariant config →
          config.program process = instruction :: rest →
            execute process instruction choice config.memory = some effect →
              potential effect.memory + load weight effect.continuation +
                  startedLoad weight entry effect.started <
                potential config.memory + weight instruction)
    {config : Config Memory Process Instruction}
    (initially : invariant config) {schedule : List (Process × Choice)}
    (within : ∀ label ∈ schedule, label.1 ∈ processes) :
    executedSteps execute entry config schedule ≤
      effort potential weight processes config := by
  induction schedule generalizing config with
  | nil => exact Nat.zero_le _
  | cons label schedule inductionHypothesis =>
      rw [List.forall_mem_cons] at within
      have later :=
        inductionHypothesis (preserved config label within.1 initially)
          within.2
      rw [executedSteps]
      rcases label with ⟨process, choice⟩
      rcases executes_cases execute entry config process choice with
        ⟨idle, same⟩ |
          ⟨busy, instruction, rest, effect, program, executed, equation⟩
      · rw [same] at later
        rw [idle, same]
        simpa using later
      · have member : process ∈ processes := within.1
        have less :=
          effort_lt entry member program
            (lighter config process choice instruction rest effect member
              initially program executed)
        rw [equation] at later
        rw [busy, equation, if_pos rfl]
        omega

end Rules

end AeroRisk.Library.Processes
