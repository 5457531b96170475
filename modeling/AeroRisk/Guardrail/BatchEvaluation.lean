import AeroRisk.Guardrail.Orchestrator
import AeroRisk.Library.FallibleFilter

/-!
# Evaluation of a batch

`batch_evaluate` evaluates its items independently of each other and gathers
what they return or raise.  For an item which raised it makes a fallback
decision of its own, whatever `evaluate` had decided before the exception.
-/

namespace AeroRisk.Guardrail.Agent3

open AeroRisk.Library

/-- An item of a batch, and what the services do during its evaluation. -/
structure BatchItem (background : Background) where
  services : DecisionOrchestrator background
  event : TransactionEvent background
  context : ContextBundle background
  anomalyFlags : List AnomalyFlag

variable {background : Background}

namespace BatchItem

variable (item : BatchItem background)

/-- What `gather` returns for an item: its decision or its exception. -/
def result : EStateM.Result String (List Effect) RiskDecision :=
  item.services.evaluate item.event item.context item.anomalyFlags []

/-- What is appended to the decisions for an item. -/
def decision : Except String RiskDecision :=
  match item.result with
  | .ok decision _ => .ok decision
  | .error _ _ => item.services.fallbackDecision item.event 0.5

/--
The model or the fallback decided to `BLOCK`, and the report of the decision
could not be stored.
-/
def UnstoredBlock : Prop :=
  item.context.sanctionsMatch = none ∧
    ∃ decision report error,
      item.services.scoredDecision item.event item.context
          item.anomalyFlags = .ok decision ∧
        decision.action = .block ∧
        item.services.generateIncidentReport item.event item.context
            item.anomalyFlags decision = .ok report ∧
        item.services.insertIncidentReport report = .error error

end BatchItem

/-- `batch_evaluate`. -/
def batchEvaluate (items : List (BatchItem background)) :
    Except String (List RiskDecision) :=
  items.mapM BatchItem.decision

/-- For every unstored `BLOCK` a `BLOCK` is returned at its place. -/
def KeepsBlocks (items : List (BatchItem background)) : Prop :=
  ∀ (index : Nat) (item : BatchItem background),
    items[index]? = some item → item.UnstoredBlock →
    ∃ (decisions : List RiskDecision) (decision : RiskDecision),
      batchEvaluate items = .ok decisions ∧
        decisions[index]? = some decision ∧ decision.action = .block

namespace BatchItem

variable {item : BatchItem background}

/-- The exception of the store leaves `evaluate`. -/
theorem result_of_unstoredBlock (unstored : item.UnstoredBlock) :
    ∃ error, item.result = .error error [] := by
  rcases unstored with
    ⟨noMatch, decision, report, error, decided, blocks, generated, fails⟩
  have reported :
      item.services.reportIfNeeded item.event item.context item.anomalyFlags
          decision [] = .error error [] := by
    have performed :
        perform (.insertIncidentReport report)
            (item.services.insertIncidentReport report) [] =
          .error error [] := by
      rw [fails]
      rfl
    rw [DecisionOrchestrator.reportIfNeeded, if_pos (Or.inl blocks),
      generated]
    change (perform _ _ >>= _) [] = _
    simp only [bind, EStateM.bind, performed]
  refine ⟨error, ?_⟩
  rw [result, DecisionOrchestrator.evaluate, noMatch]
  simp only [decided]
  change (item.services.reportIfNeeded _ _ _ decision >>= _) [] = _
  simp only [bind, EStateM.bind, reported]

/-- The fallback of the batch is a `FLAG`. -/
theorem action_of_fallback {decision : RiskDecision}
    (decided :
      item.services.fallbackDecision item.event 0.5 = .ok decision) :
    decision.action = .flag := by
  have notHigh : ¬ (0.5 : Float) ≥ 0.8 := by decide
  have medium : (0.5 : Float) ≥ 0.5 := by decide
  rw [DecisionOrchestrator.fallbackDecision, if_neg notHigh,
    if_pos medium] at decided
  exact DecisionOrchestrator.action_riskDecision decided

theorem action_of_unstoredBlock (unstored : item.UnstoredBlock)
    {decision : RiskDecision} (decided : item.decision = .ok decision) :
    decision.action = .flag := by
  rcases result_of_unstoredBlock unstored with ⟨error, raised⟩
  rw [BatchItem.decision, raised] at decided
  exact action_of_fallback decided

end BatchItem

/--
Every `BLOCK` whose report could not be stored is returned as one exactly when
there is none in the batch: each of them would be returned as a `FLAG`.
-/
theorem keepsBlocks_iff (items : List (BatchItem background)) :
    KeepsBlocks items ↔ ∀ item ∈ items, ¬ item.UnstoredBlock := by
  constructor
  · intro keeps item member unstored
    rcases List.mem_iff_getElem?.mp member with ⟨index, isItem⟩
    rcases keeps index item isItem unstored with
      ⟨decisions, decision, evaluated, isDecision, blocks⟩
    rcases FallibleFilter.getElem?_of_mapM evaluated isItem with
      ⟨returned, isReturned, decided⟩
    rw [isDecision] at isReturned
    cases isReturned
    rw [BatchItem.action_of_unstoredBlock unstored decided] at blocks
    cases blocks
  · intro allStored index item isItem unstored
    exact absurd unstored (allStored item (List.mem_of_getElem? isItem))

/-- A risky event without a model, while no report can be stored. -/
def riskyItem : BatchItem DecisionOrchestrator.noBackground where
  services :=
    { DecisionOrchestrator.withoutModel with
      insertIncidentReport := fun _ => .error "connection error" }
  event :=
    { eventID := "event-1"
      userID := "user-1"
      symbol := "AAPL"
      data := () }
  context :=
    { sanctionsMatch := none
      data := () }
  anomalyFlags := []

/-- What the fallback decides about it. -/
def blockedEvent : RiskDecision where
  eventID := "event-1"
  userID := "user-1"
  action := .block
  riskLevel := .high
  details :=
    { riskScore := .number 0.9
      reason := .string "Fallback rule-based decision (LLM unavailable)" }

theorem unstoredBlock_riskyItem : riskyItem.UnstoredBlock := by
  have high : (0.9 : Float) ≥ 0.8 := by decide
  have decided :
      riskyItem.services.fallbackDecision riskyItem.event 0.9 =
        .ok blockedEvent := by
    rw [DecisionOrchestrator.fallbackDecision, if_pos high]
    rfl
  exact ⟨rfl, blockedEvent, _, _, decided, rfl, rfl, rfl⟩

/-- The fallback blocks the event, but the batch returns a `FLAG`. -/
theorem keepsBlocks_fails :
    ¬ ∀ (background : Background) (items : List (BatchItem background)),
        KeepsBlocks items := by
  intro keeps
  exact
    (keepsBlocks_iff [riskyItem]).mp (keeps _ _) riskyItem (by simp)
      unstoredBlock_riskyItem

end AeroRisk.Guardrail.Agent3
