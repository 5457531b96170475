import Mathlib.Data.List.Basic
import Mathlib.Data.List.Infix

/-!
# Runs of a deterministic labelled step function

A component is given by a total function `next` which moves its state along
one label, and by a function `emit` which names what that step returns to its
caller.  A schedule is a list of labels, so a statement about every schedule
is a statement about every run and every interleaving.

The module supplies the composition laws of runs, the invariant rule for runs
whose steps all meet a condition, the rule which finds the exact condition for
a property of all states of a run, the rule which compares the outputs of two
runs by a relation between their states, the rule for runs which a view
follows up to a number of steps, and the rule for runs from which labels are
deleted.
-/

namespace AeroRisk.Library.LabelledRun

universe u v w

variable {State : Type u} {Label : Type v} {Output : Type w}

/-- The state reached by executing a list of labels in order. -/
def run (next : State → Label → State) : State → List Label → State :=
  List.foldl next

/-- What the successive steps of a run return. -/
def outputs (next : State → Label → State) (emit : State → Label → Output) :
    State → List Label → List Output
  | _, [] => []
  | state, label :: rest =>
      emit state label :: outputs next emit (next state label) rest

/-- The outputs along a run of the visible labels only, in order. -/
def outputsOf (next : State → Label → State) (emit : State → Label → Output)
    (visible : Label → Prop) [DecidablePred visible] :
    State → List Label → List Output
  | _, [] => []
  | state, label :: rest =>
      let later := outputsOf next emit visible (next state label) rest
      if visible label then emit state label :: later else later

/-- Every step of the run meets `condition` in the state before it. -/
def Along (next : State → Label → State)
    (condition : State → Label → Prop) : State → List Label → Prop
  | _, [] => True
  | state, label :: rest =>
      condition state label ∧ Along next condition (next state label) rest

/-- Every state of the run has a property, both endpoints included. -/
def Always (next : State → Label → State) (property : State → Prop)
    (start : State) (labels : List Label) : Prop :=
  ∀ earlier, earlier <+: labels → property (run next start earlier)

/-- Some step of the run is an `event` in the state before it. -/
def Sometime (next : State → Label → State)
    (event : State → Label → Prop)
    (start : State) (labels : List Label) : Prop :=
  ∃ earlier label later,
    labels = earlier ++ label :: later ∧ event (run next start earlier) label

/-- Some step of the run is an `event`, and no later one is an `answer`. -/
def Unanswered (next : State → Label → State)
    (event answer : State → Label → Prop)
    (start : State) (labels : List Label) : Prop :=
  ∃ earlier label later,
    labels = earlier ++ label :: later ∧
      event (run next start earlier) label ∧
      ¬ Sometime next answer (run next start (earlier ++ [label])) later

section Composition

variable
    (next : State → Label → State)
    (emit : State → Label → Output)

@[simp]
theorem run_nil (state : State) : run next state [] = state :=
  rfl

@[simp]
theorem run_cons (state : State) (label : Label) (rest : List Label) :
    run next state (label :: rest) = run next (next state label) rest :=
  rfl

@[simp]
theorem run_append (state : State) (first second : List Label) :
    run next state (first ++ second) =
      run next (run next state first) second :=
  List.foldl_append

@[simp]
theorem outputs_nil (state : State) : outputs next emit state [] = [] :=
  rfl

@[simp]
theorem outputs_cons (state : State) (label : Label) (rest : List Label) :
    outputs next emit state (label :: rest) =
      emit state label :: outputs next emit (next state label) rest :=
  rfl

@[simp]
theorem outputs_append (state : State) (first second : List Label) :
    outputs next emit state (first ++ second) =
      outputs next emit state first ++
        outputs next emit (run next state first) second := by
  induction first generalizing state with
  | nil => rfl
  | cons label rest inductionHypothesis =>
      simp [inductionHypothesis]

/-- Every output is what some step of the run returns. -/
theorem mem_outputs_iff (output : Output) (state : State)
    (labels : List Label) :
    output ∈ outputs next emit state labels ↔
      ∃ earlier label later,
        labels = earlier ++ label :: later ∧
          output = emit (run next state earlier) label := by
  induction labels generalizing state with
  | nil => simp
  | cons head rest inductionHypothesis =>
      rw [outputs_cons, List.mem_cons, inductionHypothesis]
      constructor
      · rintro (rfl | ⟨earlier, label, later, rfl, rfl⟩)
        · exact ⟨[], head, rest, rfl, rfl⟩
        · exact ⟨head :: earlier, label, later, rfl, rfl⟩
      · rintro ⟨earlier, label, later, split, rfl⟩
        cases earlier with
        | nil =>
            cases split
            exact Or.inl rfl
        | cons first earlier =>
            cases split
            exact Or.inr ⟨earlier, label, later, rfl, rfl⟩

end Composition

section Conditions

variable
    {next : State → Label → State}
    {condition : State → Label → Prop}

@[simp]
theorem along_nil (state : State) : Along next condition state [] :=
  trivial

@[simp]
theorem along_cons (state : State) (label : Label) (rest : List Label) :
    Along next condition state (label :: rest) ↔
      condition state label ∧ Along next condition (next state label) rest :=
  Iff.rfl

@[simp]
theorem along_append (state : State) (first second : List Label) :
    Along next condition state (first ++ second) ↔
      Along next condition state first ∧
        Along next condition (run next state first) second := by
  induction first generalizing state with
  | nil => simp
  | cons label rest inductionHypothesis =>
      simp [inductionHypothesis, and_assoc]

/-- A condition is met along a run when it is met wherever the run is split. -/
theorem along_iff_of_split (start : State) (labels : List Label) :
    Along next condition start labels ↔
      ∀ earlier label later,
        labels = earlier ++ label :: later →
          condition (run next start earlier) label := by
  constructor
  · rintro along earlier label later rfl
    rw [along_append, along_cons] at along
    exact along.2.1
  · intro everywhere
    induction labels generalizing start with
    | nil => trivial
    | cons label rest inductionHypothesis =>
        refine ⟨everywhere [] label rest rfl, ?_⟩
        apply inductionHypothesis
        rintro earlier found later rfl
        exact everywhere (label :: earlier) found later rfl

instance decidableAlong
    [∀ state label, Decidable (condition state label)] :
    ∀ state labels, Decidable (Along next condition state labels)
  | _, [] => isTrue trivial
  | state, label :: rest =>
      @instDecidableAnd _ _ _ (decidableAlong (next state label) rest)

/-- A condition met by every step is met by the steps of every prefix. -/
theorem Along.of_prefix {state : State} {earlier labels : List Label}
    (along : Along next condition state labels)
    (isPrefixOf : earlier <+: labels) :
    Along next condition state earlier := by
  rcases isPrefixOf with ⟨rest, rfl⟩
  exact ((along_append state earlier rest).mp along).1

/-- A condition which follows from one met by every step is met by it. -/
theorem Along.imp {other : State → Label → Prop}
    (enough : ∀ state label, condition state label → other state label)
    {state : State} {labels : List Label}
    (along : Along next condition state labels) :
    Along next other state labels := by
  induction labels generalizing state with
  | nil => trivial
  | cons label rest inductionHypothesis =>
      exact ⟨enough state label along.1, inductionHypothesis along.2⟩

/-- Two conditions met by every step are met together. -/
theorem Along.and {other : State → Label → Prop}
    {state : State} {labels : List Label}
    (first : Along next condition state labels)
    (second : Along next other state labels) :
    Along next (fun state label => condition state label ∧ other state label)
      state labels := by
  induction labels generalizing state with
  | nil => trivial
  | cons label rest inductionHypothesis =>
      exact
        ⟨⟨first.1, second.1⟩, inductionHypothesis first.2 second.2⟩

/--
The invariant rule: what every step meeting the condition preserves holds
after every run whose steps all meet it.
-/
theorem run_invariant {invariant : State → Prop}
    (preserved :
      ∀ state label, invariant state → condition state label →
        invariant (next state label))
    {state : State} {labels : List Label}
    (along : Along next condition state labels)
    (initially : invariant state) :
    invariant (run next state labels) := by
  induction labels generalizing state with
  | nil => exact initially
  | cons label rest inductionHypothesis =>
      exact inductionHypothesis along.2
        (preserved state label initially along.1)

/-- The invariant rule for what every step preserves. -/
theorem run_invariant_of_every {invariant : State → Prop}
    (preserved :
      ∀ state label, invariant state → invariant (next state label))
    {state : State} (labels : List Label)
    (initially : invariant state) :
    invariant (run next state labels) := by
  induction labels generalizing state with
  | nil => exact initially
  | cons label rest inductionHypothesis =>
      exact inductionHypothesis (preserved state label initially)

theorem always_cons {property : State → Prop}
    (start : State) (label : Label) (rest : List Label) :
    Always next property start (label :: rest) ↔
      property start ∧ Always next property (next start label) rest := by
  constructor
  · intro always
    refine ⟨always [] (List.nil_prefix), ?_⟩
    intro earlier isPrefixOf
    exact always (label :: earlier)
      ((List.prefix_cons_inj label).mpr isPrefixOf)
  · rintro ⟨first, always⟩ earlier isPrefixOf
    rcases List.prefix_cons_iff.mp isPrefixOf with
      rfl | ⟨shorter, rfl, stillPrefix⟩
    · exact first
    · exact always shorter stillPrefix

/-- A run whose steps all meet a condition keeps to a property. -/
theorem always_of_along {property invariant : State → Prop}
    (enough : ∀ state, invariant state → property state)
    (preserved :
      ∀ state label, invariant state → condition state label →
        invariant (next state label))
    {start : State} {labels : List Label} (initially : invariant start)
    (along : Along next condition start labels) :
    Always next property start labels := by
  intro earlier isPrefixOf
  apply enough
  exact run_invariant preserved (along.of_prefix isPrefixOf) initially

/--
The exactness rule for runs of admitted labels: a property holds in every
state of exactly the runs whose steps all meet a condition, when these steps
keep an invariant which is enough for the property and every other step from
the invariant breaks the property.
-/
theorem always_iff_along_of_admitted {property invariant : State → Prop}
    {admitted : Label → Prop}
    (enough : ∀ state, invariant state → property state)
    (preserved :
      ∀ state label, admitted label → invariant state →
        condition state label → invariant (next state label))
    (broken :
      ∀ state label, admitted label → invariant state →
        property (next state label) → condition state label)
    {start : State} {labels : List Label}
    (allAdmitted : ∀ label ∈ labels, admitted label)
    (initially : invariant start) :
    Always next property start labels ↔
      Along next condition start labels := by
  induction labels generalizing start with
  | nil =>
      refine ⟨fun _ => trivial, fun _ earlier isPrefixOf => ?_⟩
      rw [List.prefix_nil.mp isPrefixOf]
      exact enough start initially
  | cons label rest inductionHypothesis =>
      rw [List.forall_mem_cons] at allAdmitted
      rw [always_cons, along_cons]
      constructor
      · rintro ⟨-, always⟩
        have meets :=
          broken start label allAdmitted.1 initially
            (always [] List.nil_prefix)
        have after := preserved start label allAdmitted.1 initially meets
        exact ⟨meets, (inductionHypothesis allAdmitted.2 after).mp always⟩
      · rintro ⟨meets, along⟩
        have after := preserved start label allAdmitted.1 initially meets
        exact
          ⟨enough start initially,
            (inductionHypothesis allAdmitted.2 after).mpr along⟩

/-- The exactness rule for runs of any labels. -/
theorem always_iff_along {property invariant : State → Prop}
    (enough : ∀ state, invariant state → property state)
    (preserved :
      ∀ state label, invariant state → condition state label →
        invariant (next state label))
    (broken :
      ∀ state label, invariant state → property (next state label) →
        condition state label)
    {start : State} (labels : List Label) (initially : invariant start) :
    Always next property start labels ↔
      Along next condition start labels :=
  always_iff_along_of_admitted enough
    (fun state label _ => preserved state label)
    (fun state label _ => broken state label)
    (fun _ (_ : _ ∈ labels) => True.intro) initially

@[simp]
theorem not_sometime_nil (start : State) :
    ¬ Sometime next condition start [] := by
  simp [Sometime]

theorem sometime_concat (start : State) (labels : List Label)
    (label : Label) :
    Sometime next condition start (labels ++ [label]) ↔
      Sometime next condition start labels ∨
        condition (run next start labels) label := by
  constructor
  · rintro ⟨earlier, found, later, split, event⟩
    rcases List.eq_nil_or_concat later with rfl | ⟨middle, last, rfl⟩
    · obtain ⟨rfl, sameLabel⟩ := List.append_inj' split rfl
      cases sameLabel
      exact Or.inr event
    · rw [List.concat_eq_append, ← List.cons_append,
        ← List.append_assoc] at split
      obtain ⟨rfl, -⟩ := List.append_inj' split rfl
      exact Or.inl ⟨earlier, found, middle, rfl, event⟩
  · rintro (⟨earlier, found, later, rfl, event⟩ | event)
    · exact ⟨earlier, found, later ++ [label], by simp, event⟩
    · exact ⟨labels, label, [], rfl, event⟩

@[simp]
theorem not_unanswered_nil {answer : State → Label → Prop} (start : State) :
    ¬ Unanswered next condition answer start [] := by
  simp [Unanswered]

/-- The last step counts last. -/
theorem unanswered_concat {answer : State → Label → Prop} (start : State)
    (labels : List Label) (label : Label) :
    Unanswered next condition answer start (labels ++ [label]) ↔
      condition (run next start labels) label ∨
        Unanswered next condition answer start labels ∧
          ¬ answer (run next start labels) label := by
  constructor
  · rintro ⟨earlier, found, later, split, event, unanswered⟩
    rcases List.eq_nil_or_concat later with rfl | ⟨middle, last, rfl⟩
    · obtain ⟨rfl, sameLabel⟩ := List.append_inj' split rfl
      cases sameLabel
      exact Or.inl event
    · rw [List.concat_eq_append, ← List.cons_append,
        ← List.append_assoc] at split
      obtain ⟨rfl, sameLabel⟩ := List.append_inj' split rfl
      cases sameLabel
      rw [List.concat_eq_append, sometime_concat, not_or] at unanswered
      refine Or.inr ⟨⟨earlier, found, middle, rfl, event, unanswered.1⟩, ?_⟩
      rw [← List.singleton_append, ← List.append_assoc, run_append]
      exact unanswered.2
  · rintro (event | ⟨⟨earlier, found, later, rfl, event, unanswered⟩, last⟩)
    · exact ⟨labels, label, [], rfl, event, not_sometime_nil _⟩
    · refine
        ⟨earlier, found, later ++ [label], by simp, event, ?_⟩
      rw [← List.singleton_append, ← List.append_assoc, run_append] at last
      rw [sometime_concat, not_or]
      exact ⟨unanswered, last⟩

end Conditions

section Histories

/-- The history of a run as the state of a run. -/
def remember (earlier : List Label) (label : Label) : List Label :=
  earlier ++ [label]

@[simp]
theorem run_remember (earlier labels : List Label) :
    run remember earlier labels = earlier ++ labels := by
  induction labels generalizing earlier with
  | nil => exact (List.append_nil earlier).symm
  | cons label rest inductionHypothesis =>
      rw [run_cons, inductionHypothesis, remember, List.append_assoc]
      rfl

/-- A condition on histories is met along a run at each of its labels. -/
theorem along_remember_iff {condition : List Label → Label → Prop}
    (labels : List Label) :
    Along remember condition [] labels ↔
      ∀ earlier label later,
        labels = earlier ++ label :: later → condition earlier label := by
  rw [along_iff_of_split]
  simp only [run_remember, List.nil_append]

end Histories

section Views

variable
    {Other : Type*}
    {next : State → Label → State} {otherNext : Other → Label → Other}
    {view : State → Other} {start : State} {otherStart : Other}

/-- An event of a view happens when it happens in the run of the views. -/
theorem sometime_view {event : Other → Label → Prop}
    (follows :
      ∀ labels, view (run next start labels) =
        run otherNext otherStart labels)
    (labels : List Label) :
    Sometime next (fun state label => event (view state) label)
        start labels ↔
      Sometime otherNext event otherStart labels := by
  simp only [Sometime, follows]

variable {within : Nat → State → Prop}

/-- The invariant rule for an invariant which counts the steps. -/
theorem run_counted
    (preserved :
      ∀ count state label, within count state →
        within (count + 1) (next state label))
    {count : Nat} {state : State} (labels : List Label)
    (initially : within count state) :
    within (count + labels.length) (run next state labels) := by
  induction labels generalizing count state with
  | nil => exact initially
  | cons label rest inductionHypothesis =>
      have later := inductionHypothesis (preserved _ _ label initially)
      rwa [Nat.add_assoc, Nat.add_comm 1] at later

/--
A view which follows every step that is taken before a limit follows every run
that ends by the limit.
-/
theorem view_run_of_counted {limit : Nat}
    (preserved :
      ∀ count state label, within count state →
        within (count + 1) (next state label))
    (follows :
      ∀ count state label, count < limit → within count state →
        view (next state label) = otherNext (view state) label)
    {count : Nat} {state : State} {labels : List Label}
    (short : count + labels.length ≤ limit)
    (initially : within count state) :
    view (run next state labels) = run otherNext (view state) labels := by
  induction labels generalizing count state with
  | nil => rfl
  | cons label rest inductionHypothesis =>
      rw [List.length_cons] at short
      rw [run_cons, run_cons,
        ← follows count state label (by omega) initially]
      exact
        inductionHypothesis (by omega) (preserved count state label initially)

end Views

/--
Two components return the same outputs along every schedule when a relation
between their states forces equal outputs and is preserved by every label.
-/
theorem outputs_eq_of_relation
    {Other : Type*}
    {next : State → Label → State} {emit : State → Label → Output}
    {otherNext : Other → Label → Other} {otherEmit : Other → Label → Output}
    {related : State → Other → Prop}
    (sameOutput :
      ∀ state other label, related state other →
        emit state label = otherEmit other label)
    (preserved :
      ∀ state other label, related state other →
        related (next state label) (otherNext other label))
    {state : State} {other : Other} (initially : related state other)
    (labels : List Label) :
    outputs next emit state labels =
      outputs otherNext otherEmit other labels := by
  induction labels generalizing state other with
  | nil => rfl
  | cons label rest inductionHypothesis =>
      rw [outputs_cons, outputs_cons, sameOutput state other label initially,
        inductionHypothesis (preserved state other label initially)]

/-- The outputs of the visible labels depend on which labels are visible. -/
theorem outputsOf_congr
    {next : State → Label → State} {emit : State → Label → Output}
    {visible other : Label → Prop} [DecidablePred visible]
    [DecidablePred other] (state : State) {labels : List Label}
    (same : ∀ label ∈ labels, visible label ↔ other label) :
    outputsOf next emit visible state labels =
      outputsOf next emit other state labels := by
  induction labels generalizing state with
  | nil => rfl
  | cons label rest inductionHypothesis =>
      rw [List.forall_mem_cons] at same
      rw [outputsOf, outputsOf, inductionHypothesis _ same.2]
      by_cases isVisible : visible label
      · rw [if_pos isVisible, if_pos (same.1.mp isVisible)]
      · rw [if_neg isVisible, if_neg (mt same.1.mpr isVisible)]

/-- A run without visible labels has no outputs of such labels. -/
theorem outputsOf_eq_nil
    {next : State → Label → State} {emit : State → Label → Output}
    {visible : Label → Prop} [DecidablePred visible]
    (state : State) {labels : List Label}
    (hidden : ∀ label ∈ labels, ¬ visible label) :
    outputsOf next emit visible state labels = [] := by
  induction labels generalizing state with
  | nil => rfl
  | cons label rest inductionHypothesis =>
      rw [List.forall_mem_cons] at hidden
      rw [outputsOf, if_neg hidden.1, inductionHypothesis _ hidden.2]

/--
The projection rule: a component which is only moved by the visible labels, in
a run whose steps all meet a condition, returns what it returns when it runs
on the visible labels alone.
-/
theorem outputsOf_eq_outputs_filter_of_along
    {Other : Type*}
    {next : State → Label → State} {emit : State → Label → Output}
    {otherNext : Other → Label → Other} {otherEmit : Other → Label → Output}
    {visible : Label → Prop} [DecidablePred visible]
    {condition : State → Label → Prop} {related : State → Other → Prop}
    (sameOutput :
      ∀ state other label, related state other → condition state label →
        visible label → emit state label = otherEmit other label)
    (moved :
      ∀ state other label, related state other → condition state label →
        visible label →
          related (next state label) (otherNext other label))
    (unmoved :
      ∀ state other label, related state other → condition state label →
        ¬ visible label → related (next state label) other)
    {state : State} {other : Other} (initially : related state other)
    {labels : List Label} (along : Along next condition state labels) :
    outputsOf next emit visible state labels =
      outputs otherNext otherEmit other
        (labels.filter fun label => visible label) := by
  induction labels generalizing state other with
  | nil => rfl
  | cons label rest inductionHypothesis =>
      rw [along_cons] at along
      rw [outputsOf, List.filter_cons]
      by_cases isVisible : visible label
      · have after := moved state other label initially along.1 isVisible
        rw [if_pos isVisible, if_pos (decide_eq_true isVisible),
          outputs_cons,
          sameOutput state other label initially along.1 isVisible,
          inductionHypothesis after along.2]
      · have after := unmoved state other label initially along.1 isVisible
        rw [if_neg isVisible, if_neg (by simpa using isVisible),
          inductionHypothesis after along.2]

/-- A condition which always holds is met along every run. -/
theorem along_true {next : State → Label → State} (state : State)
    (labels : List Label) : Along next (fun _ _ => True) state labels := by
  induction labels generalizing state with
  | nil => trivial
  | cons label rest inductionHypothesis =>
      exact ⟨trivial, inductionHypothesis (next state label)⟩

/-- The projection rule for every run. -/
theorem outputsOf_eq_outputs_filter
    {Other : Type*}
    {next : State → Label → State} {emit : State → Label → Output}
    {otherNext : Other → Label → Other} {otherEmit : Other → Label → Output}
    {visible : Label → Prop} [DecidablePred visible]
    {related : State → Other → Prop}
    (sameOutput :
      ∀ state other label, related state other → visible label →
        emit state label = otherEmit other label)
    (moved :
      ∀ state other label, related state other → visible label →
        related (next state label) (otherNext other label))
    (unmoved :
      ∀ state other label, related state other → ¬ visible label →
        related (next state label) other)
    {state : State} {other : Other} (initially : related state other)
    (labels : List Label) :
    outputsOf next emit visible state labels =
      outputs otherNext otherEmit other
        (labels.filter fun label => visible label) :=
  outputsOf_eq_outputs_filter_of_along
    (fun state other label isRelated _ =>
      sameOutput state other label isRelated)
    (fun state other label isRelated _ => moved state other label isRelated)
    (fun state other label isRelated _ =>
      unmoved state other label isRelated)
    initially (along_true state labels)

section Skipping

variable
    {next : State → Label → State} {emit : State → Label → Output}
    {visible kept : Label → Prop}
    [DecidablePred visible] [DecidablePred kept]

/-- Two runs side by side, the second one of the kept labels only. -/
def skipping (next : State → Label → State) (kept : Label → Prop)
    [DecidablePred kept] (states : State × State) (label : Label) :
    State × State :=
  (next states.1 label,
    if kept label then next states.2 label else states.2)

theorem run_skipping (state other : State) (labels : List Label) :
    run (skipping next kept) (state, other) labels =
      (run next state labels,
        run next other (labels.filter fun label => kept label)) := by
  induction labels generalizing state other with
  | nil => rfl
  | cons label rest inductionHypothesis =>
      rw [run_cons, run_cons, skipping, inductionHypothesis,
        List.filter_cons]
      by_cases isKept : kept label
      · rw [if_pos isKept, if_pos (decide_eq_true isKept), run_cons]
      · rw [if_neg isKept, if_neg (by simpa using isKept)]

/--
The deletion rule: without the labels which are not kept the visible ones
return the same exactly when the two runs agree at each of them.
-/
theorem outputsOf_eq_filter_iff
    (visibleKept : ∀ label, visible label → kept label)
    (state other : State) (labels : List Label) :
    outputsOf next emit visible state labels =
        outputsOf next emit visible other
          (labels.filter fun label => kept label) ↔
      Along (skipping next kept)
        (fun states label =>
          visible label → emit states.1 label = emit states.2 label)
        (state, other) labels := by
  induction labels generalizing state other with
  | nil => exact iff_of_true rfl trivial
  | cons label rest inductionHypothesis =>
      rw [along_cons, skipping, ← inductionHypothesis, outputsOf,
        List.filter_cons]
      by_cases isVisible : visible label
      · have isKept := visibleKept label isVisible
        rw [if_pos isVisible, if_pos (decide_eq_true isKept), outputsOf,
          if_pos isVisible, if_pos isKept, List.cons.injEq,
          forall_prop_of_true isVisible]
      · rw [if_neg isVisible, forall_prop_of_false isVisible, true_and]
        by_cases isKept : kept label
        · rw [if_pos (decide_eq_true isKept), outputsOf, if_neg isVisible,
            if_pos isKept]
        · rw [if_neg (by simpa using isKept), if_neg isKept]

end Skipping

end AeroRisk.Library.LabelledRun
