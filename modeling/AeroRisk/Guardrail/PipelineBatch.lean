import AeroRisk.Guardrail.Pipeline
import AeroRisk.Library.Replays

/-!
# Batches of the risk pipeline

`process_batch` gathers one `process_event` for every event.  The tasks take
turns where they await an agent, the report generator or the breaker writer,
each of which returns or raises an exception whenever the event loop resumes
the task.
-/

namespace AeroRisk.Guardrail

open AeroRisk.Library

variable {o : Objects}

/-- What `process_event` awaits. -/
inductive AgentRequest (o : Objects) where
  | analyze (event : o.Event)
  | gatherContext (event : o.Event) (flags : List String)
  | makeDecision (event : o.Event) (anomalyResult : Option o.Anomaly)
      (context : Option o.Context)
  | generate (event : o.Event) (decision : RiskDecision)
      (context : Option o.Context)
  | updateBreaker (event : o.Event) (decision : RiskDecision)

/-- What the awaited call returns, or the text of its exception. -/
@[reducible]
def AgentAnswer (o : Objects) : AgentRequest o → Type
  | .analyze _ => Except String (Option o.Anomaly)
  | .gatherContext _ _ => Except String (Option o.Context)
  | .makeDecision _ _ _ => Except String (Option RiskDecision)
  | .generate _ _ _ => Except String o.Report
  | .updateBreaker _ _ => Except String Unit

/-- A coroutine of the pipeline.  The agents keep their own memory. -/
abbrev Awaiting (o : Objects) (Value : Type) :=
  Coroutine PUnit (AgentAnswer o) Value

/-- The pipeline whose calls answer at once. -/
def pipelineOf (shouldUpdateCircuitBreaker : RiskDecision → Bool)
    (answers : (request : AgentRequest o) → AgentAnswer o request) :
    RiskPipeline o where
  analyze := fun event => answers (.analyze event)
  gatherContext := fun event flags => answers (.gatherContext event flags)
  makeDecision := fun event anomalyResult context =>
    answers (.makeDecision event anomalyResult context)
  shouldUpdateCircuitBreaker := shouldUpdateCircuitBreaker
  generate := fun event decision context =>
    answers (.generate event decision context)
  updateBreaker := fun event decision =>
    answers (.updateBreaker event decision)

namespace Awaiting

variable (shouldUpdateCircuitBreaker : RiskDecision → Bool)

/-- `_run_anomaly_detection`. -/
def runAnomalyDetection (state : AgentState o) :
    Awaiting o (Except String (AgentState o)) := do
  let result : Except String (Option o.Anomaly) ←
    Coroutine.request (AgentRequest.analyze state.event)
  return result.map fun result =>
    { state with
      anomalyResult := result
      anomalyFlags := flagsOf result }

/-- `_run_rag_context`. -/
def runRagContext (state : AgentState o) :
    Awaiting o (Except String (AgentState o)) := do
  let context : Except String (Option o.Context) ←
    Coroutine.request
      (AgentRequest.gatherContext state.event (flagsOf state.anomalyResult))
  return context.map fun context =>
    { state with
      contextBundle := context
      complianceMatches := context.elim [] ContextBundle.complianceRetrievals
      sanctionsMatch := context.elim false ContextBundle.sanctionsHit }

/-- `_run_decision_engine`. -/
def runDecisionEngine (state : AgentState o) :
    Awaiting o (Except String (AgentState o)) :=
  if state.contextBundle.elim false ContextBundle.sanctionsHit then
    return .ok { state with
      riskDecision := some sanctionsBlock
      decisionBypassedRag := true }
  else do
    let decision : Except String (Option RiskDecision) ←
      Coroutine.request
        (AgentRequest.makeDecision state.event state.anomalyResult
          state.contextBundle)
    return decision.map fun decision =>
      { state with riskDecision := decision }

/-- The incident report of `_run_post_processing`, if needed. -/
def reportIfNeeded (state : AgentState o) (decision : RiskDecision) :
    Awaiting o (Except String (Option o.Report)) :=
  if decision.requiresHumanReview ∨
      decision.decisionType = .block ∨ decision.decisionType = .flag then do
    let report : Except String o.Report ←
      Coroutine.request
        (AgentRequest.generate state.event decision state.contextBundle)
    return report.map some
  else
    return .ok none

/-- The update of the circuit breakers of `_run_post_processing`. -/
def updateIfNeeded (state : AgentState o) (decision : RiskDecision) :
    Awaiting o (Except String Unit) :=
  if shouldUpdateCircuitBreaker decision then
    Coroutine.request (AgentRequest.updateBreaker state.event decision)
  else
    return .ok ()

/-- `_run_post_processing`. -/
def runPostProcessing (state : AgentState o) :
    Awaiting o (Except String (AgentState o)) :=
  match state.riskDecision with
  | none => return .ok state
  | some decision => do
      match ← reportIfNeeded state decision with
      | .error error => return .error error
      | .ok incidentReport =>
          let updated ←
            updateIfNeeded shouldUpdateCircuitBreaker state decision
          return updated.map fun _ =>
            { state with
              incidentReport := incidentReport
              circuitBreakerUpdated := shouldUpdateCircuitBreaker decision
              processingComplete := true }

/-- `_build_graph`. -/
def graph :
    AwaitingGraph Node (AgentState o) String PUnit (AgentAnswer o) where
  entry := .anomalyDetection
  execute
    | .anomalyDetection => runAnomalyDetection
    | .ragContext => runRagContext
    | .decisionEngine => runDecisionEngine
    | .postProcessing => runPostProcessing shouldUpdateCircuitBreaker
  next
    | .anomalyDetection => fun state =>
        match routeAfterAnomaly state with
        | .highRisk => some .decisionEngine
        | .normal => some .ragContext
        | .suspicious => some .ragContext
    | .ragContext => fun _ => some .decisionEngine
    | .decisionEngine => fun _ => some .postProcessing
    | .postProcessing => fun _ => none
  recursionError :=
    "Recursion limit of 25 reached without hitting a stop condition."

/-- `process_event`. -/
def processEvent (event : o.Event) : Awaiting o (AgentState o) := do
  match ← (graph shouldUpdateCircuitBreaker).invoke 25
      (initialState event) with
  | .ok finalState => return finalState
  | .error error => return failOpen event error

/-- A task of `process_batch`: its result, or the exception it ends with. -/
def gathered (event : o.Event) :
    Awaiting o (Except String (AgentState o)) := do
  let finalState ← processEvent shouldUpdateCircuitBreaker event
  return .ok finalState

/-- The state for a task which ended with an exception. -/
def batchError (event : o.Event) (error : String) : AgentState o :=
  { initialState event with
    riskDecision :=
      some
        { decisionType := .allow
          confidence := 0.0
          reason := "Batch processing error: " ++ error
          requiresHumanReview := true
          pipelineError := true }
    processingComplete := true
    errors := [error] }

/-- What `process_batch` makes of the result of a task. -/
def processedResult (event : o.Event) :
    Except String (AgentState o) → AgentState o
  | .error error => batchError event error
  | .ok finalState => finalState

/-- The tasks of one `process_batch`, by the positions of their events. -/
abbrev BatchTasks (events : List o.Event) :=
  EventLoop (Fin events.length) PUnit (AgentAnswer o)
    (Except String (AgentState o))

/-- The tasks before any of them runs. -/
def batchStart (events : List o.Event) : BatchTasks events :=
  EventLoop.start ⟨⟩ fun index =>
    gathered shouldUpdateCircuitBreaker (events.get index)

/-- What `process_batch` returns, once all tasks have returned. -/
def processBatch (events : List o.Event) (tasks : BatchTasks events) :
    Option (List (AgentState o)) :=
  if returned : ∀ index, (tasks.tasks index).value?.isSome then
    some
      (List.ofFn fun index =>
        processedResult (events.get index)
          ((tasks.tasks index).value?.get (returned index)))
  else
    none

/-- Every call raises an exception. -/
def raising (error : String) :
    (request : AgentRequest o) → AgentAnswer o request
  | .analyze _ => .error error
  | .gatherContext _ _ => .error error
  | .makeDecision _ _ _ => .error error
  | .generate _ _ _ => .error error
  | .updateBreaker _ _ => .error error

/-! ## One event -/

/-- The order in which `process_event` awaits its calls. -/
def rank : AgentRequest o → Nat
  | .analyze _ => 0
  | .gatherContext _ _ => 1
  | .makeDecision _ _ _ => 2
  | .generate _ _ _ => 3
  | .updateBreaker _ _ => 4

/-- The ranks from which on a node awaits. -/
def firstRank : Node → Nat
  | .anomalyDetection => 0
  | .ragContext => 1
  | .decisionEngine => 2
  | .postProcessing => 3

/-- The rank before which a node awaits. -/
def lastRank : Node → Nat
  | .anomalyDetection => 1
  | .ragContext => 2
  | .decisionEngine => 3
  | .postProcessing => 5

theorem ascends_reportIfNeeded (state : AgentState o)
    (decision : RiskDecision) :
    (reportIfNeeded state decision).Ascends rank 4 3 := by
  rw [reportIfNeeded]
  split
  · exact Coroutine.ascends_request
      (AgentRequest.generate state.event decision state.contextBundle) _
  · exact Coroutine.ascends_pure _ (by decide)

theorem ascends_updateIfNeeded (state : AgentState o)
    (decision : RiskDecision) :
    (updateIfNeeded shouldUpdateCircuitBreaker state decision).Ascends
      rank 5 4 := by
  rw [updateIfNeeded]
  split
  · exact Coroutine.ascends_request
      (AgentRequest.updateBreaker state.event decision) id
  · exact Coroutine.ascends_pure _ (by decide)

theorem ascends_runPostProcessing (state : AgentState o) :
    (runPostProcessing shouldUpdateCircuitBreaker state).Ascends rank 5 3 := by
  rw [runPostProcessing]
  cases state.riskDecision with
  | none => exact Coroutine.ascends_pure _ (by decide)
  | some decision =>
      apply (ascends_reportIfNeeded state decision).bind
      · intro outcome
        cases outcome with
        | error error => exact Coroutine.ascends_pure _ (by decide)
        | ok incidentReport =>
            exact (ascends_updateIfNeeded shouldUpdateCircuitBreaker state
              decision).bind
                (fun _ => Coroutine.ascends_pure _ (Nat.le_refl _))
                (Nat.le_refl _)
      · decide

theorem ascends_execute (node : Node) (state : AgentState o) :
    ((graph shouldUpdateCircuitBreaker).execute node state).Ascends rank
      (lastRank node) (firstRank node) := by
  cases node with
  | anomalyDetection =>
      exact Coroutine.ascends_request (AgentRequest.analyze state.event) _
  | ragContext =>
      exact Coroutine.ascends_request
        (AgentRequest.gatherContext state.event
          (flagsOf state.anomalyResult)) _
  | decisionEngine =>
      change (runDecisionEngine state).Ascends rank 3 2
      rw [runDecisionEngine]
      split
      · exact Coroutine.ascends_pure _ (by decide)
      · exact Coroutine.ascends_request
          (AgentRequest.makeDecision state.event state.anomalyResult
            state.contextBundle) _
  | postProcessing =>
      exact ascends_runPostProcessing shouldUpdateCircuitBreaker state

/-- No call is awaited twice for one event. -/
theorem ascends_gathered (event : o.Event) :
    (gathered shouldUpdateCircuitBreaker event).Ascends rank 5 0 := by
  have run :
      ((graph shouldUpdateCircuitBreaker).invoke 25
        (initialState event)).Ascends rank 5 0 := by
    refine AwaitingGraph.ascends_runFrom _ firstRank lastRank
      (ascends_execute shouldUpdateCircuitBreaker) ?_ ?_ 25
      .anomalyDetection _
    · intro node state following edge
      cases node with
      | anomalyDetection =>
          cases route : routeAfterAnomaly state <;>
            simp only [graph, route, Option.some.injEq] at edge <;>
            rw [← edge] <;> decide
      | ragContext => cases edge; decide
      | decisionEngine => cases edge; decide
      | postProcessing => cases edge
    · intro node
      cases node <;> decide
  rw [gathered, processEvent]
  apply Coroutine.Ascends.bind
  · apply run.bind
    · intro outcome
      cases outcome <;> exact Coroutine.ascends_pure _ (Nat.le_refl _)
    · exact Nat.le_refl _
  · exact fun _ => Coroutine.ascends_pure _ (Nat.le_refl _)
  · exact Nat.le_refl _

variable (answers : (request : AgentRequest o) → AgentAnswer o request)

theorem exec_runPostProcessing (state : AgentState o) :
    (Coroutine.exec answers
      (runPostProcessing shouldUpdateCircuitBreaker state) ⟨⟩).1 =
      (pipelineOf shouldUpdateCircuitBreaker answers).runPostProcessing
        state := by
  rw [runPostProcessing, RiskPipeline.runPostProcessing]
  cases state.riskDecision with
  | none => rfl
  | some decision =>
      have report :
          (Coroutine.exec answers (reportIfNeeded state decision) ⟨⟩).1 =
            (pipelineOf shouldUpdateCircuitBreaker answers).reportIfNeeded
              state decision := by
        rw [reportIfNeeded, RiskPipeline.reportIfNeeded]
        split
        · change (answers (.generate state.event decision
            state.contextBundle)).map some = _
          cases generated :
              answers
                (.generate state.event decision state.contextBundle) <;>
            simp only [pipelineOf, generated] <;> rfl
        · rfl
      have update :
          (Coroutine.exec answers
            (updateIfNeeded shouldUpdateCircuitBreaker state decision)
            ⟨⟩).1 =
            (pipelineOf shouldUpdateCircuitBreaker answers).updateIfNeeded
              state decision := by
        have alone :
            (pipelineOf shouldUpdateCircuitBreaker answers).updateIfNeeded
                state decision =
              if shouldUpdateCircuitBreaker decision then
                answers (.updateBreaker state.event decision)
              else
                .ok () :=
          rfl
        rw [updateIfNeeded, alone]
        split
        · rfl
        · rfl
      simp only [Coroutine.exec_bind, report]
      cases (pipelineOf shouldUpdateCircuitBreaker answers).reportIfNeeded
          state decision with
      | error error => rfl
      | ok incidentReport =>
          simp only [Coroutine.exec_bind, update]
          cases (pipelineOf shouldUpdateCircuitBreaker
              answers).updateIfNeeded state decision <;> rfl

/-- With given answers the nodes are those of the pipeline. -/
theorem answeredBy_graph :
    (graph shouldUpdateCircuitBreaker).answeredBy answers ⟨⟩ =
      (pipelineOf shouldUpdateCircuitBreaker answers).graph := by
  have execute :
      ((graph shouldUpdateCircuitBreaker).answeredBy answers ⟨⟩).execute =
        (pipelineOf shouldUpdateCircuitBreaker answers).graph.execute := by
    funext node state
    cases node with
    | anomalyDetection =>
        change (answers (.analyze state.event)).map _ =
          (answers (.analyze state.event) >>= _)
        cases answers (.analyze state.event) <;> rfl
    | ragContext =>
        change
          (answers (.gatherContext state.event
            (flagsOf state.anomalyResult))).map _ =
          (answers (.gatherContext state.event
            (flagsOf state.anomalyResult)) >>= _)
        cases answers
          (.gatherContext state.event (flagsOf state.anomalyResult)) <;> rfl
    | decisionEngine =>
        change (Coroutine.exec answers (runDecisionEngine state) ⟨⟩).1 =
          (pipelineOf shouldUpdateCircuitBreaker answers).runDecisionEngine
            state
        rw [runDecisionEngine, RiskPipeline.runDecisionEngine]
        split
        · rfl
        · change
            (answers (.makeDecision state.event state.anomalyResult
              state.contextBundle)).map _ =
            (answers (.makeDecision state.event state.anomalyResult
              state.contextBundle) >>= _)
          cases answers
            (.makeDecision state.event state.anomalyResult
              state.contextBundle) <;> rfl
    | postProcessing =>
        exact exec_runPostProcessing shouldUpdateCircuitBreaker answers state
  have next :
      ((graph shouldUpdateCircuitBreaker).answeredBy answers ⟨⟩).next =
        (pipelineOf shouldUpdateCircuitBreaker answers).graph.next := by
    funext node state
    cases node <;> rfl
  rw [RiskPipeline.graph, AwaitingGraph.answeredBy, StateGraph.mk.injEq]
  exact ⟨rfl, execute, next, rfl⟩

/-- With given answers `process_event` is that of the pipeline. -/
theorem exec_gathered (event : o.Event) :
    (Coroutine.exec answers (gathered shouldUpdateCircuitBreaker event)
      ⟨⟩).1 =
      .ok
        ((pipelineOf shouldUpdateCircuitBreaker answers).processEvent
          event) := by
  have invoked :
      (Coroutine.exec answers
        ((graph shouldUpdateCircuitBreaker).invoke 25 (initialState event))
        ⟨⟩).1 =
        (pipelineOf shouldUpdateCircuitBreaker answers).invoke event := by
    rw [AwaitingGraph.invoke, AwaitingGraph.exec_runFrom, answeredBy_graph]
    rfl
  rw [gathered, processEvent, RiskPipeline.processEvent, ← invoked]
  simp only [Coroutine.exec_bind, Coroutine.exec_pure]
  cases (Coroutine.exec answers
    ((graph shouldUpdateCircuitBreaker).invoke 25 (initialState event))
    ⟨⟩).1 <;> rfl

/-! ## A batch -/

end Awaiting

end AeroRisk.Guardrail
