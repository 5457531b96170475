import AeroRisk.Library.StateGraph

/-!
# The risk pipeline

`RiskPipeline` runs up to three agents on an event and then acts on the
decision.  The agents, the report generator and the breaker writer are
parameters: functions which may raise an exception, given by its text.  The
objects which they exchange are known as far as the pipeline reads them.  The
modules under `models` define `RiskDecision`, `AnomalyResult` and
`ContextBundle` with other fields, and there `DecisionType` is missing.
-/

namespace AeroRisk.Guardrail

open AeroRisk.Library

/-- `DecisionType`. -/
inductive DecisionType where
  | allow
  | flag
  | block
  | adjustLimit
deriving DecidableEq, Repr

/-- `RiskDecision`, with the fields which the pipeline sets or reads. -/
structure RiskDecision where
  decisionType : DecisionType
  confidence : Float
  reason : String
  requiresHumanReview : Bool
  sanctionsTriggered : Bool := false
  pipelineError : Bool := false

/-- What Agent 1 returns. -/
structure AnomalyResult (Findings : Type) where
  flags : List String
  /-- The answer of `is_high_confidence_fraud()`. -/
  isHighConfidenceFraud : Bool
  /-- What only the other agents read. -/
  findings : Findings

/-- What Agent 2 returns. -/
structure ContextBundle (Rule Background : Type) where
  complianceRetrievals : List Rule
  sanctionsHit : Bool
  /-- What only the other agents read. -/
  background : Background

/-- The types of the objects which the pipeline only hands on. -/
structure Objects where
  Event : Type
  Findings : Type
  Rule : Type
  Background : Type
  Report : Type

variable {o : Objects}

namespace Objects

abbrev Anomaly (o : Objects) := AnomalyResult o.Findings

abbrev Context (o : Objects) := ContextBundle o.Rule o.Background

end Objects

/-- `AgentState`.  The event is always there: `process_event` stores it. -/
structure AgentState (o : Objects) where
  event : o.Event
  anomalyResult : Option o.Anomaly
  contextBundle : Option o.Context
  riskDecision : Option RiskDecision
  incidentReport : Option o.Report
  anomalyFlags : List String
  complianceMatches : List o.Rule
  sanctionsMatch : Bool
  circuitBreakerUpdated : Bool
  decisionBypassedRag : Bool
  processingComplete : Bool
  errors : List String

/-- `RiskPipeline`: its agents and what the last node calls. -/
structure RiskPipeline (o : Objects) where
  /-- `anomaly_agent.analyze`. -/
  analyze : o.Event → Except String (Option o.Anomaly)
  /-- `rag_agent.gather_context`. -/
  gatherContext :
    o.Event → List String → Except String (Option o.Context)
  /-- `orchestrator.make_decision`. -/
  makeDecision :
    o.Event → Option o.Anomaly → Option o.Context →
      Except String (Option RiskDecision)
  shouldUpdateCircuitBreaker : RiskDecision → Bool
  /-- `IncidentReportGenerator().generate`. -/
  generate :
    o.Event → RiskDecision → Option o.Context → Except String o.Report
  /-- `CircuitBreakerWriter().update_breaker` for the account of the event. -/
  updateBreaker : o.Event → RiskDecision → Except String Unit

/-- The nodes of the graph. -/
inductive Node where
  | anomalyDetection
  | ragContext
  | decisionEngine
  | postProcessing
deriving DecidableEq, Repr

/-- The routes after anomaly detection. -/
inductive Route where
  | highRisk
  | normal
  | suspicious
deriving DecidableEq, Repr

/-- The flags of a result of Agent 1, if there is one. -/
def flagsOf (result : Option o.Anomaly) : List String :=
  result.elim [] AnomalyResult.flags

/-- `_route_after_anomaly`. -/
def routeAfterAnomaly (state : AgentState o) : Route :=
  match state.anomalyResult with
  | none => .normal
  | some anomalyResult =>
      if anomalyResult.isHighConfidenceFraud then .highRisk else .suspicious

/-- The decision when the context reports a sanctions match. -/
def sanctionsBlock : RiskDecision where
  decisionType := .block
  confidence := 1.0
  reason := "OFAC Sanctions Match - Automatic Block"
  requiresHumanReview := true
  sanctionsTriggered := true

namespace RiskPipeline

variable (pipeline : RiskPipeline o)

/-- `_run_anomaly_detection`. -/
def runAnomalyDetection (state : AgentState o) :
    Except String (AgentState o) := do
  let result ← pipeline.analyze state.event
  return { state with
    anomalyResult := result
    anomalyFlags := flagsOf result }

/-- `_run_rag_context`. -/
def runRagContext (state : AgentState o) : Except String (AgentState o) := do
  let context ←
    pipeline.gatherContext state.event (flagsOf state.anomalyResult)
  return { state with
    contextBundle := context
    complianceMatches := context.elim [] ContextBundle.complianceRetrievals
    sanctionsMatch := context.elim false ContextBundle.sanctionsHit }

/-- `_run_decision_engine`. -/
def runDecisionEngine (state : AgentState o) :
    Except String (AgentState o) :=
  if state.contextBundle.elim false ContextBundle.sanctionsHit then
    return { state with
      riskDecision := some sanctionsBlock
      decisionBypassedRag := true }
  else do
    let decision ←
      pipeline.makeDecision state.event state.anomalyResult
        state.contextBundle
    return { state with riskDecision := decision }

/-- The incident report of `_run_post_processing`, if needed. -/
def reportIfNeeded (state : AgentState o) (decision : RiskDecision) :
    Except String (Option o.Report) :=
  if decision.requiresHumanReview ∨
      decision.decisionType = .block ∨ decision.decisionType = .flag then
    some <$> pipeline.generate state.event decision state.contextBundle
  else
    return none

/-- The update of the circuit breakers of `_run_post_processing`. -/
def updateIfNeeded (state : AgentState o) (decision : RiskDecision) :
    Except String Unit :=
  if pipeline.shouldUpdateCircuitBreaker decision then
    pipeline.updateBreaker state.event decision
  else
    return

/-- `_run_post_processing`. -/
def runPostProcessing (state : AgentState o) :
    Except String (AgentState o) :=
  match state.riskDecision with
  | none => return state
  | some decision => do
      let incidentReport ← pipeline.reportIfNeeded state decision
      pipeline.updateIfNeeded state decision
      return { state with
        incidentReport := incidentReport
        circuitBreakerUpdated := pipeline.shouldUpdateCircuitBreaker decision
        processingComplete := true }

/-- `_build_graph`. -/
def graph : StateGraph Node (AgentState o) String where
  entry := .anomalyDetection
  execute
    | .anomalyDetection => pipeline.runAnomalyDetection
    | .ragContext => pipeline.runRagContext
    | .decisionEngine => pipeline.runDecisionEngine
    | .postProcessing => pipeline.runPostProcessing
  next
    | .anomalyDetection => fun state =>
        match routeAfterAnomaly state with
        | .highRisk => some .decisionEngine
        | .normal => some .ragContext
        | .suspicious => some .ragContext
    | .ragContext => fun _ => some .decisionEngine
    | .decisionEngine => fun _ => some .postProcessing
    | .postProcessing => fun _ => none
  recursionError :=
    "Recursion limit of 25 reached without hitting a stop condition."

end RiskPipeline

/-- The state with which `process_event` starts. -/
def initialState (event : o.Event) : AgentState o where
  event := event
  anomalyResult := none
  contextBundle := none
  riskDecision := none
  incidentReport := none
  anomalyFlags := []
  complianceMatches := []
  sanctionsMatch := false
  circuitBreakerUpdated := false
  decisionBypassedRag := false
  processingComplete := false
  errors := []

/-- The state which `process_event` returns after an exception. -/
def failOpen (event : o.Event) (error : String) : AgentState o :=
  { initialState event with
    errors := [error]
    processingComplete := true
    riskDecision :=
      some
        { decisionType := .allow
          confidence := 0.0
          reason := "Pipeline error - fail-open: " ++ error
          requiresHumanReview := true
          pipelineError := true } }

namespace RiskPipeline

variable (pipeline : RiskPipeline o)

/-- `graph.ainvoke` of the initial state, with the default recursion limit. -/
def invoke (event : o.Event) : Except String (AgentState o) :=
  pipeline.graph.invoke 25 (initialState event)

/-- `process_event`. -/
def processEvent (event : o.Event) : AgentState o :=
  match pipeline.invoke event with
  | .ok finalState => finalState
  | .error error => failOpen event error

/-! ## The run of the graph -/

/-- The context is gathered unless the route skips that node. -/
def gatherOnRoute (analyzed : AgentState o) :
    Except String (AgentState o) :=
  match routeAfterAnomaly analyzed with
  | .highRisk => pure analyzed
  | .normal => pipeline.runRagContext analyzed
  | .suspicious => pipeline.runRagContext analyzed

/-- The nodes up to the decision, along the edges which are taken. -/
def untilDecision (event : o.Event) : Except String (AgentState o) := do
  let analyzed ← pipeline.runAnomalyDetection (initialState event)
  let informed ← pipeline.gatherOnRoute analyzed
  pipeline.runDecisionEngine informed

variable {pipeline}

theorem runFrom_decisionEngine (limit : Nat) (state : AgentState o) :
    pipeline.graph.runFrom (limit + 2) .decisionEngine state =
      pipeline.runDecisionEngine state >>= pipeline.runPostProcessing := by
  have last :
      pipeline.graph.runFrom (limit + 1) .postProcessing =
        pipeline.runPostProcessing :=
    funext fun _ => StateGraph.runFrom_of_end fun _ => rfl
  rw [StateGraph.runFrom_of_fixed_edge fun _ => rfl, last]
  rfl

theorem runFrom_ragContext (limit : Nat) (state : AgentState o) :
    pipeline.graph.runFrom (limit + 3) .ragContext state =
      pipeline.runRagContext state >>= fun informed =>
        pipeline.runDecisionEngine informed >>=
          pipeline.runPostProcessing := by
  rw [StateGraph.runFrom_of_fixed_edge fun _ => rfl,
    funext (runFrom_decisionEngine limit)]
  rfl

/-- After the analysis the route leads to the decision. -/
theorem runFrom_next (limit : Nat) (analyzed : AgentState o)
    {following : Node}
    (edge :
      pipeline.graph.next .anomalyDetection analyzed = some following) :
    pipeline.graph.runFrom (limit + 3) following analyzed =
      pipeline.gatherOnRoute analyzed >>= fun informed =>
        pipeline.runDecisionEngine informed >>=
          pipeline.runPostProcessing := by
  rw [gatherOnRoute]
  cases route : routeAfterAnomaly analyzed with
  | highRisk =>
      simp only [graph, route, Option.some.injEq] at edge
      rw [← edge, pure_bind]
      exact runFrom_decisionEngine (limit + 1) analyzed
  | normal =>
      simp only [graph, route, Option.some.injEq] at edge
      rw [← edge]
      exact runFrom_ragContext limit analyzed
  | suspicious =>
      simp only [graph, route, Option.some.injEq] at edge
      rw [← edge]
      exact runFrom_ragContext limit analyzed

/-- The graph decides and then acts on the decision. -/
theorem invoke_eq (event : o.Event) :
    pipeline.invoke event =
      pipeline.untilDecision event >>= pipeline.runPostProcessing := by
  have starts :
      pipeline.invoke event =
        pipeline.graph.runFrom 25 .anomalyDetection (initialState event) :=
    rfl
  rw [starts, untilDecision, bind_assoc]
  cases executed : pipeline.runAnomalyDetection (initialState event) with
  | error error => exact StateGraph.runFrom_of_error executed
  | ok analyzed =>
      obtain ⟨following, edge⟩ :
          ∃ following,
            pipeline.graph.next .anomalyDetection analyzed =
              some following := by
        cases route : routeAfterAnomaly analyzed <;> simp [graph, route]
      rw [StateGraph.runFrom_of_edge executed edge, runFrom_next 21 _ edge]
      exact (bind_assoc (pipeline.gatherOnRoute analyzed) _ _).symm

end RiskPipeline

end AeroRisk.Guardrail
