import AeroRisk.Library.LabelledRun

/-!
# Stages with states, one after the other

A stage has a state, and takes a label with a result or an error.  In a
sequence of two stages the second one takes only the labels which the first one
accepts, each with a state of its own.  So a sequence runs as its first stage
runs alone, and as its second one runs alone on the labels which the first one
accepts.
-/

namespace AeroRisk.Library

universe u v w x y

/-- What a stage does with a label. -/
structure Stage (State : Type u) (Label : Type v) (Error : Type w)
    (Output : Type x) where
  next : State → Label → State
  emit : State → Label → Except Error Output

namespace Stage

variable
    {State : Type u} {Other : Type y} {Label : Type v} {Error : Type w}
    {Output Further : Type x}

/-- The first stage, and then the second one if the first one accepts. -/
def andThen (first : Stage State Label Error Output)
    (second : Stage Other Label Error Further) :
    Stage (State × Other) Label Error (Output × Further) where
  next states label :=
    (first.next states.1 label,
      match first.emit states.1 label with
      | .error _ => states.2
      | .ok _ => second.next states.2 label)
  emit states label := do
    let output ← first.emit states.1 label
    let further ← second.emit states.2 label
    return (output, further)

/-- The stage accepts a label. -/
def Accepts (stage : Stage State Label Error Output) (state : State)
    (label : Label) : Prop :=
  ∃ output, stage.emit state label = .ok output

/-- The labels which the stage accepts in a run. -/
def accepted (stage : Stage State Label Error Output) :
    State → List Label → List Label
  | _, [] => []
  | state, label :: rest =>
      let later := accepted stage (stage.next state label) rest
      match stage.emit state label with
      | .error _ => later
      | .ok _ => label :: later

/-- The state of a stage after some labels. -/
def run (stage : Stage State Label Error Output) (state : State)
    (labels : List Label) : State :=
  LabelledRun.run stage.next state labels

variable {first : Stage State Label Error Output}
    {second : Stage Other Label Error Further} {state : State}

/-- Each stage runs on its own labels. -/
theorem run_andThen (state : State) (other : Other) (labels : List Label) :
    (first.andThen second).run (state, other) labels =
      (first.run state labels,
        second.run other (first.accepted state labels)) := by
  induction labels generalizing state other with
  | nil => rfl
  | cons label rest inductionHypothesis =>
      have later :=
        inductionHypothesis (first.next state label)
          ((first.andThen second).next (state, other) label).2
      cases emitted : first.emit state label with
      | error error =>
          simp only [andThen, emitted] at later
          simpa only [run, LabelledRun.run_cons, andThen, accepted, emitted]
            using later
      | ok output =>
          simp only [andThen, emitted] at later
          simpa only [run, LabelledRun.run_cons, andThen, accepted, emitted]
            using later

/-- A sequence accepts what both of its stages accept. -/
theorem accepts_andThen_iff {states : State × Other} {label : Label} :
    (first.andThen second).Accepts states label ↔
      first.Accepts states.1 label ∧ second.Accepts states.2 label := by
  rw [Accepts, Accepts, Accepts, andThen]
  dsimp only
  cases first.emit states.1 label with
  | error error =>
      exact iff_of_false (by rintro ⟨_, ⟨⟩⟩) (by rintro ⟨⟨_, ⟨⟩⟩, -⟩)
  | ok output =>
      cases second.emit states.2 label with
      | error error =>
          exact iff_of_false (by rintro ⟨_, ⟨⟩⟩) (by rintro ⟨-, _, ⟨⟩⟩)
      | ok further => exact iff_of_true ⟨_, rfl⟩ ⟨⟨_, rfl⟩, _, rfl⟩

/-- A stage which accepts exactly some labels in every state. -/
theorem accepted_eq_filter {stage : Stage State Label Error Output}
    {admits : Label → Prop} [DecidablePred admits]
    (accepts : ∀ state label, stage.Accepts state label ↔ admits label)
    (state : State) (labels : List Label) :
    stage.accepted state labels = labels.filter fun label => admits label := by
  induction labels generalizing state with
  | nil => rfl
  | cons label rest inductionHypothesis =>
      rw [accepted]
      cases emitted : stage.emit state label with
      | error error =>
          have refused : ¬ admits label := by
            rw [← accepts state label, Accepts, emitted]
            rintro ⟨output, isOutput⟩
            cases isOutput
          rw [List.filter_cons_of_neg (by simpa using refused)]
          exact inductionHypothesis _
      | ok output =>
          have isAdmitted : admits label :=
            (accepts state label).mp ⟨output, emitted⟩
          rw [List.filter_cons_of_pos (by simpa using isAdmitted)]
          exact congrArg _ (inductionHypothesis _)

end Stage

end AeroRisk.Library
