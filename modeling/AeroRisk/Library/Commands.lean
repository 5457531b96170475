/-!
# Commands which change a state and may raise

A command keeps the state which it reached when it raises an exception, and a
handler goes on from there.  What each part of a program preserves, raising or
not, the whole program preserves.
-/

namespace AeroRisk.Library.Commands

universe u v

variable {Error State Value Result : Type u}

/-- The state which a command leaves, whether it raises or not. -/
def after (command : EStateM Error State Value) (state : State) : State :=
  match command state with
  | .ok _ reached => reached
  | .error _ reached => reached

/-- The command leads from states with a property to such states. -/
def Preserves (property : State → Prop)
    (command : EStateM Error State Value) : Prop :=
  ∀ state, property state → property (after command state)

variable {property : State → Prop}

theorem preserves_pure (value : Value) :
    Preserves property (pure value : EStateM Error State Value) :=
  fun _ holds => holds

theorem preserves_ofExcept (result : Except Error Value) :
    Preserves property
      (MonadExcept.ofExcept result : EStateM Error State Value) := by
  intro state holds
  cases result <;> exact holds

theorem preserves_bind {first : EStateM Error State Value}
    {second : Value → EStateM Error State Result}
    (firstPreserves : Preserves property first)
    (secondPreserves : ∀ value, Preserves property (second value)) :
    Preserves property (first >>= second) := by
  intro state holds
  have reached := firstPreserves state holds
  simp only [after, bind, EStateM.bind] at reached ⊢
  cases executed : first state with
  | ok value next =>
      rw [executed] at reached
      exact secondPreserves value next reached
  | error error next =>
      rw [executed] at reached
      exact reached

/-- The handler goes on from the state in which the exception was raised. -/
theorem tryCatch_apply (body : EStateM Error State Value)
    (handler : Error → EStateM Error State Value) (state : State) :
    tryCatch body handler state =
      match body state with
      | .ok value next => .ok value next
      | .error error next => handler error next := by
  show EStateM.tryCatch body handler state = _
  delta EStateM.tryCatch
  cases body state with
  | ok value next => rfl
  | error error next => rfl

theorem preserves_tryCatch {body : EStateM Error State Value}
    {handler : Error → EStateM Error State Value}
    (bodyPreserves : Preserves property body)
    (handlerPreserves : ∀ error, Preserves property (handler error)) :
    Preserves property (tryCatch body handler) := by
  intro state holds
  have reached := bodyPreserves state holds
  rw [after] at reached ⊢
  rw [tryCatch_apply]
  cases executed : body state with
  | ok value next =>
      rw [executed] at reached
      exact reached
  | error error next =>
      rw [executed] at reached
      exact handlerPreserves error next reached

theorem preserves_ite {condition : Prop} [Decidable condition]
    {first second : EStateM Error State Value}
    (firstPreserves : Preserves property first)
    (secondPreserves : Preserves property second) :
    Preserves property (if condition then first else second) := by
  split
  · exact firstPreserves
  · exact secondPreserves

/-- A loop preserves what its body preserves for every element. -/
theorem preserves_forM {Element : Type u}
    {body : Element → EStateM Error State PUnit}
    (bodyPreserves : ∀ element, Preserves property (body element))
    (elements : List Element) :
    Preserves property (elements.forM body) := by
  induction elements with
  | nil => exact preserves_pure _
  | cons element rest inductionHypothesis =>
      exact
        preserves_bind (bodyPreserves element) fun _ => inductionHypothesis

/-! ## Where a command leads -/

/-- After a first part which does not raise the second one goes on. -/
theorem after_bind_of_ok {first : EStateM Error State Value}
    {second : Value → EStateM Error State Result} {state reached : State}
    {value : Value} (executed : first state = .ok value reached) :
    after (first >>= second) state = after (second value) reached := by
  simp only [after, bind, EStateM.bind, executed]

/-- Nothing follows a first part which raises. -/
theorem after_bind_of_error {first : EStateM Error State Value}
    {second : Value → EStateM Error State Result} {state reached : State}
    {error : Error} (executed : first state = .error error reached) :
    after (first >>= second) state = reached := by
  simp only [after, bind, EStateM.bind, executed]

/-- A handler which only returns a value changes nothing. -/
theorem after_tryCatch_pure (body : EStateM Error State Value)
    (value : Value) (state : State) :
    after (tryCatch body fun _ => pure value) state = after body state := by
  rw [after, after, tryCatch_apply]
  cases body state with
  | ok result reached => rfl
  | error error reached => rfl

/-- A second part which leaves the state alone. -/
theorem after_bind_of_leaves {first : EStateM Error State Value}
    {second : Value → EStateM Error State Result}
    (leaves : ∀ value reached, after (second value) reached = reached)
    (state : State) :
    after (first >>= second) state = after first state := by
  cases executed : first state with
  | ok value reached =>
      rw [after_bind_of_ok executed, leaves, after, executed]
  | error error reached =>
      rw [after_bind_of_error executed, after, executed]

/-- What a command returns is not part of the state. -/
theorem after_bind_pure (first : EStateM Error State Value)
    (result : Result) (state : State) :
    after (first >>= fun _ => pure result) state = after first state :=
  after_bind_of_leaves (fun _ _ => rfl) state

/-- A loop whose body does not raise folds what the body does. -/
theorem observe_after_forM {Element : Type u} {Observed : Type v}
    {body : Element → EStateM Error State PUnit} (valid : State → Prop)
    (observe : State → Observed) {advance : Observed → Element → Observed}
    (executes :
      ∀ element state, valid state →
        ∃ reached,
          body element state = .ok ⟨⟩ reached ∧ valid reached ∧
            observe reached = advance (observe state) element)
    (elements : List Element) {state : State} (isValid : valid state) :
    observe (after (elements.forM body) state) =
      elements.foldl advance (observe state) := by
  induction elements generalizing state with
  | nil => rfl
  | cons element rest inductionHypothesis =>
      rcases executes element state isValid with
        ⟨reached, executed, stillValid, observed⟩
      have goesOn :
          after ((element :: rest).forM body) state =
            after (rest.forM body) reached :=
        after_bind_of_ok executed
      rw [goesOn, inductionHypothesis stillValid, observed, List.foldl_cons]

/-! ## Commands which do not raise -/

/-- A sequence succeeds when both parts do, one after the other. -/
theorem bind_eq_ok_iff {first : EStateM Error State Value}
    {second : Value → EStateM Error State Result} {state final : State}
    {result : Result} :
    (first >>= second) state = .ok result final ↔
      ∃ value reached,
        first state = .ok value reached ∧
          second value reached = .ok result final := by
  simp only [bind, EStateM.bind]
  cases first state with
  | ok value reached =>
      constructor
      · exact fun goesOn => ⟨value, reached, rfl, goesOn⟩
      · rintro ⟨_, _, ⟨⟩, goesOn⟩
        exact goesOn
  | error error reached =>
      exact iff_of_false (by rintro ⟨⟩) (by rintro ⟨_, _, ⟨⟩, _⟩)

theorem ofExcept_eq_ok_iff {computed : Except Error Value}
    {value : Value} {state final : State} :
    (MonadExcept.ofExcept computed : EStateM Error State Value) state =
        .ok value final ↔
      computed = .ok value ∧ state = final := by
  cases computed with
  | error error => exact iff_of_false (by rintro ⟨⟩) (by simp)
  | ok computed =>
      constructor
      · rintro ⟨⟩
        exact ⟨rfl, rfl⟩
      · rintro ⟨⟨⟩, rfl⟩
        rfl

end AeroRisk.Library.Commands
