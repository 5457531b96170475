import AeroRisk.Guardrail.RoundedFloat

/-!
# The pipeline router

`PipelineRouter` looks at the result of the anomaly detection four times: for
the next node, for the enrichment of the context, for the decision path and
for the priority.  The four functions do not share their thresholds.
-/

namespace AeroRisk.Guardrail.PipelineRouter

open AeroRisk.Library
open AeroRisk.Guardrail.Agent1 (PyFloat lt_iff_exact le_iff_exact)

variable {F : Type}

/-- `AnomalyResult`, as far as the router reads it. -/
structure AnomalyResult (F : Type) where
  confidenceScore : F
  flags : List String
deriving DecidableEq, Repr

/-- `UserProfile`, as far as the router reads it. -/
structure UserProfile where
  isHighValueClient : Bool
deriving DecidableEq, Repr

/-- `ContextBundle`, as far as the router reads it. -/
structure ContextBundle where
  sanctionsHit : Bool
  userProfile : Option UserProfile
deriving DecidableEq, Repr

/-- `AgentState`, as far as the router reads it. -/
structure AgentState (F : Type) where
  anomalyResult : Option (AnomalyResult F)
  contextBundle : Option ContextBundle
deriving DecidableEq, Repr

/-- What `route_after_anomaly` returns. -/
inductive Route where
  | highRisk
  | suspicious
  | normal
deriving DecidableEq, Repr

/-- What `determine_decision_path` returns. -/
inductive DecisionPath where
  | autoBlock
  | autoAllow
  | llmReview
  | humanReview
deriving DecidableEq, Repr

/-- `high_risk_flags`. -/
def highRiskFlags : List String :=
  [ "sanctions_match",
    "confirmed_wash_trade",
    "spoofing_detected",
    "velocity_breach_critical" ]

/-- `medium_risk_flags`. -/
def mediumRiskFlags : List String :=
  [ "velocity_warning",
    "vwap_deviation",
    "unusual_pattern",
    "new_counterparty" ]

/-- The flags which block an anomaly of a very high confidence. -/
def autoBlockFlags : List String :=
  ["confirmed_wash_trade", "spoofing_detected", "sanctions_match"]

/-- `context and context.sanctions_hit`. -/
def AgentState.sanctionsHit (state : AgentState F) : Bool :=
  state.contextBundle.any ContextBundle.sanctionsHit

section Functions

variable [PyFloat F] (result : AnomalyResult F) (state : AgentState F)

/-- `HIGH_RISK_CONFIDENCE_THRESHOLD`. -/
def highRiskConfidenceThreshold : F :=
  0.85

/-- `MEDIUM_RISK_CONFIDENCE_THRESHOLD`. -/
def mediumRiskConfidenceThreshold : F :=
  0.50

/-- `_is_high_confidence_fraud`. -/
def isHighConfidenceFraud : Bool :=
  decide (highRiskConfidenceThreshold ≤ result.confidenceScore) ||
    result.flags.any fun flag => flag ∈ highRiskFlags

/-- `_is_suspicious`. -/
def isSuspicious : Bool :=
  decide (mediumRiskConfidenceThreshold ≤ result.confidenceScore) ||
    result.flags.any fun flag => flag ∈ mediumRiskFlags

/-- `route_after_anomaly`. -/
def routeAfterAnomaly : Route :=
  match state.anomalyResult with
  | none => .normal
  | some result =>
      if isHighConfidenceFraud result then .highRisk
      else if isSuspicious result then .suspicious
      else .normal

/-- `should_enrich_context`. -/
def shouldEnrichContext : Bool :=
  match state.anomalyResult with
  | none => true
  | some result =>
      if isHighConfidenceFraud result then false
      else if result.confidenceScore < 0.2 ∧ result.flags = [] then false
      else true

/-- `determine_decision_path`. -/
def determineDecisionPath : DecisionPath :=
  if state.sanctionsHit then
    .autoBlock
  else if
      state.anomalyResult.any fun result =>
        decide (0.95 ≤ result.confidenceScore) &&
          autoBlockFlags.any fun flag => flag ∈ result.flags then
    .autoBlock
  else if
      (state.anomalyResult.all fun result => result.confidenceScore < 0.3) &&
        !state.sanctionsHit then
    .autoAllow
  else if
      state.contextBundle.any fun context =>
        context.userProfile.any UserProfile.isHighValueClient then
    .humanReview
  else
    .llmReview

/-- `get_priority_level`, from 1 for the highest to 5 for the lowest. -/
def getPriorityLevel : Nat :=
  if state.sanctionsHit then
    1
  else if state.anomalyResult.any fun result => 0.9 ≤ result.confidenceScore
      then
    2
  else if state.anomalyResult.any fun result => 0.5 ≤ result.confidenceScore
      then
    3
  else if state.anomalyResult.any fun result => result.flags ≠ [] then
    4
  else
    5

/-- A state which is routed as high risk is treated so by the others. -/
def Consistent : Prop :=
  routeAfterAnomaly state = .highRisk →
    shouldEnrichContext state = false ∧
      determineDecisionPath state ≠ .autoAllow ∧
      getPriorityLevel state ≤ 2

variable {state}

theorem routeAfterAnomaly_eq_highRisk_iff :
    routeAfterAnomaly state = .highRisk ↔
      ∃ result,
        state.anomalyResult = some result ∧
          isHighConfidenceFraud result = true := by
  rw [routeAfterAnomaly]
  cases state.anomalyResult with
  | none => simp
  | some result =>
      by_cases fraud : isHighConfidenceFraud result
      · simp [fraud]
      · by_cases suspicious : isSuspicious result <;>
          simp [fraud, suspicious]

/-- The context of a fraud of a high confidence is not enriched. -/
theorem shouldEnrichContext_of_fraud {result : AnomalyResult F}
    (found : state.anomalyResult = some result)
    (fraud : isHighConfidenceFraud result = true) :
    shouldEnrichContext state = false := by
  simp [shouldEnrichContext, found, fraud]

theorem getPriorityLevel_le_two_iff {result : AnomalyResult F}
    (found : state.anomalyResult = some result) :
    getPriorityLevel state ≤ 2 ↔
      state.sanctionsHit = true ∨ 0.9 ≤ result.confidenceScore := by
  rw [getPriorityLevel, found]
  by_cases hit : state.sanctionsHit
  · simp [hit]
  by_cases high : 0.9 ≤ result.confidenceScore
  · simp [hit, high]
  constructor
  · intro urgent
    simp only [hit, high, Option.any_some, decide_false, Bool.false_eq_true,
      if_false] at urgent
    split at urgent
    · omega
    · split at urgent <;> omega
  · simp [hit, high]

/-- Only a low confidence without a hit is allowed without a review. -/
theorem of_determineDecisionPath_eq_autoAllow {result : AnomalyResult F}
    (found : state.anomalyResult = some result)
    (allowed : determineDecisionPath state = .autoAllow) :
    result.confidenceScore < 0.3 ∧ state.sanctionsHit = false := by
  rw [determineDecisionPath, found] at allowed
  by_cases hit : state.sanctionsHit
  · simp [hit] at allowed
  by_cases low : result.confidenceScore < 0.3
  · exact ⟨low, by simpa using hit⟩
  · simp only [hit, low, Option.any_some, Option.all_some, decide_false,
      Bool.false_and, Bool.false_eq_true, if_false] at allowed
    split at allowed
    · cases allowed
    · split at allowed <;> cases allowed

end Functions

variable {rounding : Rounding}

/-- No threshold is reached and no flag is one of a high risk. -/
theorem not_isHighConfidenceFraud_iff
    {result : AnomalyResult rounding.Value} :
    isHighConfidenceFraud result = false ↔
      result.confidenceScore < 0.85 ∧
        ∀ flag ∈ result.flags, flag ∉ highRiskFlags := by
  rw [isHighConfidenceFraud, Bool.or_eq_false_iff, decide_eq_false_iff_not,
    le_iff_exact, not_le, lt_iff_exact, List.any_eq_false]
  simp [highRiskConfidenceThreshold]

/-- A confidence for the second priority is too high for an approval. -/
theorem not_low_of_high {score : rounding.Value} (high : 0.9 ≤ score) :
    ¬ score < 0.3 := by
  have ordered : rounding.nearest 0.3 ≤ rounding.nearest 0.9 :=
    rounding.monotone (by norm_num)
  exact not_lt_of_ge (ordered.trans high)

/--
A state is treated consistently exactly when its anomaly, if any, has neither
the confidence nor a flag of a high risk, or has the confidence of the second
priority, or there is a sanctions hit.
-/
theorem consistent_iff (state : AgentState rounding.Value) :
    Consistent state ↔
      ∀ result, state.anomalyResult = some result →
        (result.confidenceScore < 0.85 ∧
            ∀ flag ∈ result.flags, flag ∉ highRiskFlags) ∨
          0.9 ≤ result.confidenceScore ∨ state.sanctionsHit = true := by
  constructor
  · intro consistent result found
    by_cases fraud : isHighConfidenceFraud result
    · have highRisk : routeAfterAnomaly state = .highRisk :=
        routeAfterAnomaly_eq_highRisk_iff.mpr ⟨result, found, fraud⟩
      have urgent := (consistent highRisk).2.2
      rw [getPriorityLevel_le_two_iff found] at urgent
      exact Or.inr urgent.symm
    · exact Or.inl (not_isHighConfidenceFraud_iff.mp (by simpa using fraud))
  · intro condition highRisk
    rcases routeAfterAnomaly_eq_highRisk_iff.mp highRisk with
      ⟨result, found, fraud⟩
    have urgent :
        0.9 ≤ result.confidenceScore ∨ state.sanctionsHit = true := by
      rcases condition result found with harmless | urgent
      · rw [not_isHighConfidenceFraud_iff.mpr harmless] at fraud
        cases fraud
      · exact urgent
    refine
      ⟨shouldEnrichContext_of_fraud found fraud, ?_,
        (getPriorityLevel_le_two_iff found).mpr urgent.symm⟩
    intro allowed
    rcases of_determineDecisionPath_eq_autoAllow found allowed with
      ⟨low, noHit⟩
    rcases urgent with high | hit
    · exact not_low_of_high high low
    · rw [noHit] at hit
      cases hit

/-- A critical breach of the velocity, of a low confidence. -/
def criticalBreach : AgentState Rounding.identity.Value where
  anomalyResult :=
    some
      { confidenceScore := 0.1
        flags := ["velocity_breach_critical"] }
  contextBundle := none

/-- It is routed as high risk and allowed without a review. -/
theorem consistent_fails :
    ¬ ∀ (rounding : Rounding) (state : AgentState rounding.Value),
        Consistent state := by
  intro consistent
  have highRisk : routeAfterAnomaly criticalBreach = .highRisk := by
    decide +kernel
  have allowed : determineDecisionPath criticalBreach = .autoAllow := by
    decide +kernel
  exact (consistent _ criticalBreach highRisk).2.1 allowed

end AeroRisk.Guardrail.PipelineRouter
