/-!
# Graphs of nodes over a shared state

A node takes the state and returns a new one or raises an exception.  After a
node the graph goes on to the node which its edges give for the new state, or
ends.  An exception of a node ends the run with that exception, and so does a
run which takes more nodes than the limit allows.
-/

namespace AeroRisk.Library

universe u v w

/-- Two computations succeed one after the other when both do. -/
theorem bind_eq_ok_iff {Error : Type u} {Value Result : Type v}
    {first : Except Error Value} {second : Value → Except Error Result}
    {result : Result} :
    first >>= second = .ok result ↔
      ∃ value, first = .ok value ∧ second value = .ok result := by
  cases first with
  | error error => simp [bind, Except.bind]
  | ok value => simp [bind, Except.bind]

/-- A sequence returns when its parts do. -/
theorem exists_bind_eq_ok_iff {Error : Type u} {Value Result : Type v}
    {first : Except Error Value} {second : Value → Except Error Result} :
    (∃ result, first >>= second = .ok result) ↔
      ∃ value, first = .ok value ∧ ∃ result, second value = .ok result := by
  simp only [bind_eq_ok_iff]
  constructor
  · rintro ⟨result, value, isValue, isResult⟩
    exact ⟨value, isValue, result, isResult⟩
  · rintro ⟨value, isValue, result, isResult⟩
    exact ⟨result, value, isValue, isResult⟩

/-- The nodes of a graph, where they lead and the error of too long a run. -/
structure StateGraph (Node : Type u) (State : Type v) (Error : Type w) where
  entry : Node
  execute : Node → State → Except Error State
  /-- The node after a node, in the state which it returned. -/
  next : Node → State → Option Node
  recursionError : Error

namespace StateGraph

variable
    {Node : Type u} {State : Type v} {Error : Type w}
    (graph : StateGraph Node State Error)

/-- Run a node and the nodes after it, up to a number of nodes. -/
def runFrom : Nat → Node → State → Except Error State
  | 0, _, _ => .error graph.recursionError
  | limit + 1, node, state =>
      match graph.execute node state with
      | .error error => .error error
      | .ok reached =>
          match graph.next node reached with
          | none => .ok reached
          | some following => runFrom limit following reached

/-- Run the graph from its entry. -/
def invoke (limit : Nat) (state : State) : Except Error State :=
  graph.runFrom limit graph.entry state

variable {graph} {limit : Nat} {node : Node} {state reached : State}

/-- An exception ends the run. -/
theorem runFrom_of_error {error : Error}
    (raises : graph.execute node state = .error error) :
    graph.runFrom (limit + 1) node state = .error error := by
  rw [runFrom, raises]

/-- An edge leads on with the new state. -/
theorem runFrom_of_edge {following : Node}
    (executed : graph.execute node state = .ok reached)
    (edge : graph.next node reached = some following) :
    graph.runFrom (limit + 1) node state =
      graph.runFrom limit following reached := by
  rw [runFrom, executed]
  simp only [edge]

/-- At the end the run returns what its last node does. -/
theorem runFrom_of_end
    (ends : ∀ reached, graph.next node reached = none) :
    graph.runFrom (limit + 1) node state = graph.execute node state := by
  rw [runFrom]
  cases executed : graph.execute node state with
  | error error => rfl
  | ok reached => simp only [ends]

/-- An edge which does not depend on the state leads on from every state. -/
theorem runFrom_of_fixed_edge {following : Node}
    (edge : ∀ reached, graph.next node reached = some following) :
    graph.runFrom (limit + 1) node state =
      (graph.execute node state).bind (graph.runFrom limit following) := by
  cases executed : graph.execute node state with
  | error error => exact runFrom_of_error executed
  | ok reached => exact runFrom_of_edge executed (edge reached)

end StateGraph

end AeroRisk.Library
