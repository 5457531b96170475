import AeroRisk.Guardrail.Pipeline

/-!
# Which events are blocked

The decision node blocks when the context which it finds reports a sanctions
match.  The route for obvious fraud leaves out the node which gathers the
context.  After the decision a failure anywhere is handled by allowing the
event.
-/

namespace AeroRisk.Guardrail

open AeroRisk.Library

variable {o : Objects}

/-- The type of the decision of a state, if it has a decision. -/
def AgentState.decisionType (state : AgentState o) : Option DecisionType :=
  state.riskDecision.map RiskDecision.decisionType

/-- The result of Agent 1 sends the event on the route for obvious fraud. -/
def ObviousFraud (analysis : Option o.Anomaly) : Prop :=
  analysis.elim false AnomalyResult.isHighConfidenceFraud = true

namespace RiskPipeline

variable {pipeline : RiskPipeline o}

/-- Agent 3 blocks the event when it is given no context. -/
def BlocksWithoutContext (pipeline : RiskPipeline o) (event : o.Event)
    (analysis : Option o.Anomaly) : Prop :=
  ∃ decision,
    pipeline.makeDecision event analysis none = .ok (some decision) ∧
      decision.decisionType = .block

/-! ## The nodes one by one -/

/-- The state after Agent 1. -/
def afterAnalysis (event : o.Event) (analysis : Option o.Anomaly) :
    AgentState o :=
  { initialState event with
    anomalyResult := analysis
    anomalyFlags := flagsOf analysis }

theorem runAnomalyDetection_eq {event : o.Event}
    {analysis : Option o.Anomaly}
    (analyzed : pipeline.analyze event = .ok analysis) :
    pipeline.runAnomalyDetection (initialState event) =
      .ok (afterAnalysis event analysis) := by
  have analyzedStart :
      pipeline.analyze (initialState event).event = .ok analysis := analyzed
  rw [runAnomalyDetection, analyzedStart]
  rfl

theorem routeAfterAnomaly_eq_highRisk_iff (event : o.Event)
    (analysis : Option o.Anomaly) :
    routeAfterAnomaly (afterAnalysis event analysis) = .highRisk ↔
      ObviousFraud analysis := by
  cases analysis with
  | none => simp [routeAfterAnomaly, afterAnalysis, ObviousFraud]
  | some result =>
      cases fraud : result.isHighConfidenceFraud <;>
        simp [routeAfterAnomaly, afterAnalysis, ObviousFraud, fraud]

/-- The last node keeps the decision. -/
theorem riskDecision_of_runPostProcessing {state final : AgentState o}
    (processed : pipeline.runPostProcessing state = .ok final) :
    final.riskDecision = state.riskDecision := by
  rw [runPostProcessing] at processed
  split at processed
  · cases processed
    rfl
  · obtain ⟨report, -, processed⟩ := bind_eq_ok_iff.mp processed
    obtain ⟨-, -, processed⟩ := bind_eq_ok_iff.mp processed
    cases processed
    rfl

/-- The decision node blocks on a sanctions match. -/
theorem decisionType_of_sanctions {state decided : AgentState o}
    {context : o.Context}
    (informed : state.contextBundle = some context)
    (hit : context.sanctionsHit = true)
    (decides : pipeline.runDecisionEngine state = .ok decided) :
    decided.decisionType = some .block := by
  have isHit :
      state.contextBundle.elim false ContextBundle.sanctionsHit = true := by
    rw [informed]
    exact hit
  rw [runDecisionEngine, if_pos isHit] at decides
  cases decides
  rfl

/-- Without a context the decision is the one of Agent 3. -/
theorem decisionType_of_noContext {state decided : AgentState o}
    (uninformed : state.contextBundle = none)
    (decides : pipeline.runDecisionEngine state = .ok decided) :
    decided.decisionType = some .block ↔
      pipeline.BlocksWithoutContext state.event state.anomalyResult := by
  rw [runDecisionEngine, uninformed, Option.elim_none,
    if_neg Bool.false_ne_true] at decides
  obtain ⟨decision, made, decides⟩ := bind_eq_ok_iff.mp decides
  cases decides
  rw [BlocksWithoutContext, made]
  simp [AgentState.decisionType]

/-! ## Sanctions -/

/-- The node for the context finds the one which Agent 2 reports. -/
theorem contextBundle_of_runRagContext {event : o.Event}
    {analysis : Option o.Anomaly} {context : o.Context}
    {informed : AgentState o}
    (gathered :
      pipeline.gatherContext event (flagsOf analysis) = .ok (some context))
    (ran :
      pipeline.runRagContext (afterAnalysis event analysis) =
        .ok informed) :
    informed.contextBundle = some context := by
  rw [runRagContext] at ran
  obtain ⟨found, returned, ran⟩ := bind_eq_ok_iff.mp ran
  have same : some context = found := by
    have isReported := gathered.symm.trans returned
    exact Except.ok.inj isReported
  cases ran
  exact same.symm

/-- The context reaches the decision node on every route but one. -/
theorem decisionType_of_untilDecision {event : o.Event}
    {analysis : Option o.Anomaly} {context : o.Context}
    {decided : AgentState o}
    (analyzed : pipeline.analyze event = .ok analysis)
    (gathered :
      pipeline.gatherContext event (flagsOf analysis) = .ok (some context))
    (hit : context.sanctionsHit = true)
    (decides : pipeline.untilDecision event = .ok decided) :
    decided.decisionType = some .block ↔
      (ObviousFraud analysis →
        pipeline.BlocksWithoutContext event analysis) := by
  rw [untilDecision, runAnomalyDetection_eq analyzed] at decides
  obtain ⟨-, ⟨⟩, decides⟩ := bind_eq_ok_iff.mp decides
  obtain ⟨informed, onRoute, decides⟩ := bind_eq_ok_iff.mp decides
  have route := routeAfterAnomaly_eq_highRisk_iff event analysis
  have informs
      (ran :
        pipeline.runRagContext (afterAnalysis event analysis) =
          .ok informed)
      (notFraud : ¬ ObviousFraud analysis) :
      decided.decisionType = some .block ↔
        (ObviousFraud analysis →
          pipeline.BlocksWithoutContext event analysis) := by
    have found := contextBundle_of_runRagContext gathered ran
    have blocked := decisionType_of_sanctions found hit decides
    exact ⟨fun _ fraud => absurd fraud notFraud, fun _ => blocked⟩
  rw [gatherOnRoute] at onRoute
  split at onRoute
  · next isHighRisk =>
      cases onRoute
      have blocks := decisionType_of_noContext rfl decides
      have fraud := route.mp isHighRisk
      exact ⟨fun blocked _ => blocks.mp blocked, fun b => blocks.mpr (b fraud)⟩
  · next isNormal =>
      rw [isNormal] at route
      exact informs onRoute fun fraud => by cases route.mpr fraud
  · next isSuspicious =>
      rw [isSuspicious] at route
      exact informs onRoute fun fraud => by cases route.mpr fraud

/--
An event for which Agent 2 reports a sanctions match is blocked, if no node
raises an exception, exactly when Agent 1 does not find obvious fraud or
Agent 3 blocks the event without a context.
-/
theorem sanctioned_blocked_iff (pipeline : RiskPipeline o) (event : o.Event)
    (analysis : Option o.Anomaly) (context : o.Context)
    (final : AgentState o)
    (analyzed : pipeline.analyze event = .ok analysis)
    (gathered :
      pipeline.gatherContext event (flagsOf analysis) = .ok (some context))
    (hit : context.sanctionsHit = true)
    (noRaise : pipeline.invoke event = .ok final) :
    (pipeline.processEvent event).decisionType = some .block ↔
      (ObviousFraud analysis →
        pipeline.BlocksWithoutContext event analysis) := by
  have returned : pipeline.processEvent event = final := by
    rw [processEvent, noRaise]
  rw [invoke_eq] at noRaise
  obtain ⟨decided, decides, processed⟩ := bind_eq_ok_iff.mp noRaise
  have kept : final.decisionType = decided.decisionType :=
    congrArg (Option.map RiskDecision.decisionType)
      (riskDecision_of_runPostProcessing processed)
  rw [returned, kept]
  exact decisionType_of_untilDecision analyzed gathered hit decides

/-- Objects of which the pipeline reads nothing. -/
def plainObjects : Objects where
  Event := Unit
  Findings := Unit
  Rule := Unit
  Background := Unit
  Report := Unit

/-- A result of Agent 1 which is obvious fraud. -/
def spoofing : plainObjects.Anomaly where
  flags := ["spoofing_detected"]
  isHighConfidenceFraud := true
  findings := ()

/-- An allowing decision of Agent 3. -/
def allowed : RiskDecision where
  decisionType := .allow
  confidence := 0.95
  reason := "Normal transaction pattern"
  requiresHumanReview := false

/-- A sanctioned party which is caught spoofing; Agent 3 sees no context. -/
def spoofingSanctioned : RiskPipeline plainObjects where
  analyze := fun _ => .ok (some spoofing)
  gatherContext := fun _ _ =>
    .ok
      (some
        { complianceRetrievals := []
          sanctionsHit := true
          background := () })
  makeDecision := fun _ _ _ => .ok (some allowed)
  shouldUpdateCircuitBreaker := fun _ => false
  generate := fun _ _ _ => .ok ()
  updateBreaker := fun _ _ => .ok ()

theorem sanctioned_blocked_iff_sample :
    (spoofingSanctioned.processEvent ()).decisionType = some .block ↔
      (ObviousFraud (some spoofing) →
        spoofingSanctioned.BlocksWithoutContext () (some spoofing)) :=
  sanctioned_blocked_iff spoofingSanctioned () _ _ _ rfl rfl rfl rfl

/-- The sanctioned event is allowed. -/
theorem sanctioned_blocked_fails :
    ¬ ∀ (pipeline : RiskPipeline plainObjects) (event : plainObjects.Event)
        (analysis : Option plainObjects.Anomaly)
        (context : plainObjects.Context) (final : AgentState plainObjects),
        pipeline.analyze event = .ok analysis →
          pipeline.gatherContext event (flagsOf analysis) =
              .ok (some context) →
            context.sanctionsHit = true →
              pipeline.invoke event = .ok final →
                (pipeline.processEvent event).decisionType =
                  some .block := by
  intro blocked
  have isBlocked := blocked spoofingSanctioned () _ _ _ rfl rfl rfl rfl
  exact absurd isBlocked (by decide)

/-! ## Failures after the decision -/

/--
A decided block is returned when the actions after the decision do not raise
an exception.  When they do, the event is allowed: the state which is returned
is the initial one with the error and a decision which is marked as a pipeline
error and asks for a human review.
-/
theorem decided_block_returned (pipeline : RiskPipeline o) (event : o.Event)
    (state : AgentState o) (decision : RiskDecision)
    (decides : pipeline.untilDecision event = .ok state)
    (isDecision : state.riskDecision = some decision)
    (isBlock : decision.decisionType = .block) :
    (∀ final,
        pipeline.runPostProcessing state = .ok final →
          pipeline.processEvent event = final ∧
            final.riskDecision = some decision ∧
              final.decisionType = some .block) ∧
      ∀ error,
        pipeline.runPostProcessing state = .error error →
          pipeline.processEvent event = failOpen event error ∧
            (pipeline.processEvent event).decisionType = some .allow := by
  have continues :
      pipeline.invoke event = pipeline.runPostProcessing state := by
    rw [invoke_eq, decides]
    rfl
  constructor
  · intro final processed
    have kept : final.riskDecision = some decision :=
      (riskDecision_of_runPostProcessing processed).trans isDecision
    refine ⟨?_, kept, ?_⟩
    · rw [processEvent, continues, processed]
    · rw [AgentState.decisionType, kept, Option.map_some, isBlock]
  · intro error raised
    have failed : pipeline.processEvent event = failOpen event error := by
      rw [processEvent, continues, raised]
    refine ⟨failed, ?_⟩
    rw [failed]
    rfl

/-- The report of a sanctioned party cannot be stored. -/
def reportFails : RiskPipeline plainObjects where
  analyze := fun _ => .ok none
  gatherContext := spoofingSanctioned.gatherContext
  makeDecision := spoofingSanctioned.makeDecision
  shouldUpdateCircuitBreaker := fun _ => false
  generate := fun _ _ _ => .error "report store unavailable"
  updateBreaker := fun _ _ => .ok ()

/-- The decision node has blocked the event. -/
def decidedState : AgentState plainObjects :=
  { initialState () with
    contextBundle :=
      some
        { complianceRetrievals := []
          sanctionsHit := true
          background := () }
    sanctionsMatch := true
    riskDecision := some sanctionsBlock
    decisionBypassedRag := true }

theorem decided_block_returned_sample :
    (∀ final,
        reportFails.runPostProcessing decidedState = .ok final →
          reportFails.processEvent () = final ∧
            final.riskDecision = some sanctionsBlock ∧
              final.decisionType = some .block) ∧
      ∀ error,
        reportFails.runPostProcessing decidedState = .error error →
          reportFails.processEvent () = failOpen () error ∧
            (reportFails.processEvent ()).decisionType = some .allow :=
  decided_block_returned reportFails () decidedState sanctionsBlock rfl rfl
    rfl

/-- The block is decided, its report fails and the event is allowed. -/
theorem decided_block_fails :
    ¬ ∀ (pipeline : RiskPipeline plainObjects) (event : plainObjects.Event)
        (state : AgentState plainObjects),
        pipeline.untilDecision event = .ok state →
          state.decisionType = some .block →
            (pipeline.processEvent event).decisionType = some .block := by
  intro survives
  have isBlocked := survives reportFails () decidedState rfl rfl
  exact absurd isBlocked (by decide)

end RiskPipeline

end AeroRisk.Guardrail
