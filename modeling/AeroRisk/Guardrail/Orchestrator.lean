import AeroRisk.Event
import AeroRisk.Library.Commands
import AeroRisk.Library.StateGraph

/-!
# The decision orchestrator

`DecisionOrchestrator.evaluate` decides about one event: by the sanctions
rule, by the reply of a language model or by thresholds on a score.  Scorer,
prompt, model, report store and breaker writer are parameters which may raise
an exception.  So are the checks with which the records are constructed.

The records have the fields which the orchestrator reads and gives them,
without the time stamps.  The modules under `models` define `ContextBundle`,
`RiskDecision` and `IncidentReport` with other fields, and there `DecisionAction`
and `RiskLevel` are missing.

The effects of a call are logged: the reports which the store took and the
triggers which the breaker writer counted.
-/

namespace AeroRisk.Guardrail.Agent3

open AeroRisk.Library

/-- `DecisionAction`. -/
inductive DecisionAction where
  | allow
  | flag
  | block
  | adjustLimit
deriving DecidableEq, Repr

/-- `DecisionAction.value`. -/
def DecisionAction.value : DecisionAction → String
  | .allow => "ALLOW"
  | .flag => "FLAG"
  | .block => "BLOCK"
  | .adjustLimit => "ADJUST_LIMIT"

/-- `RiskLevel`. -/
inductive RiskLevel where
  | low
  | medium
  | high
  | critical
deriving DecidableEq, Repr

/-- `RiskLevel.value`. -/
def RiskLevel.value : RiskLevel → String
  | .low => "LOW"
  | .medium => "MEDIUM"
  | .high => "HIGH"
  | .critical => "CRITICAL"

/-- The member of an enumeration with a value. -/
def ofValue {Member : Type} (value : Member → String)
    (members : List Member) : Json → Except String Member
  | .string name =>
      match members.find? fun member => value member = name with
      | some found => .ok found
      | none => .error (name ++ " is not a valid value")
  | _ => .error "not a valid value"

/-- `DecisionAction(value)`. -/
def decisionAction : Json → Except String DecisionAction :=
  ofValue DecisionAction.value [.allow, .flag, .block, .adjustLimit]

/-- `RiskLevel(value)`. -/
def riskLevel : Json → Except String RiskLevel :=
  ofValue RiskLevel.value [.low, .medium, .high, .critical]

/-- `decision_data.get(name, default)`. -/
def getOr (decisionData : Json) (name : String) (default : Json) :
    Except String Json :=
  match decisionData with
  | .object members => .ok ((members.lookup name).getD default)
  | _ => .error "object has no attribute 'get'"

/-- An anomaly flag, which may lack the attributes with values of its own. -/
structure AnomalyFlag where
  anomalyType : String
  confidence : Option Float
  details : Option Json

/-- An attribute which an object may lack. -/
def getAttribute {Value : Type} (name : String) :
    Option Value → Except String Value
  | some value => .ok value
  | none => .error ("object has no attribute " ++ name)

/-- A flag among the data of the prompt. -/
structure PromptFlag where
  type : String
  confidence : Float
  details : Json

/-- What the prompt has of a flag. -/
def AnomalyFlag.promptFlag (flag : AnomalyFlag) :
    Except String PromptFlag := do
  let confidence ← getAttribute "confidence" flag.confidence
  let details ← getAttribute "details" flag.details
  return { type := flag.anomalyType, confidence, details }

/-- What a report has of a flag. -/
def AnomalyFlag.reported (flag : AnomalyFlag) :
    Except String (String × Float) := do
  let confidence ← getAttribute "confidence" flag.confidence
  return (flag.anomalyType, confidence)

/-- The texts which are put into the prompt. -/
structure PromptTexts where
  eventJSON : String
  complianceRules : String
  userProfile : String
  anomalyFlags : String

/-- `SanctionsMatch`, as far as it is read, with its `model_dump()`. -/
structure SanctionsMatch where
  matchedName : String
  dump : Json

/-- The types of what only the prompt and the scorer read. -/
structure Background where
  EventData : Type
  ContextData : Type
  /-- The data of the prompt about the event and the context. -/
  PromptData : Type

variable {background : Background}

/-- `TransactionEvent`. -/
structure TransactionEvent (background : Background) where
  eventID : String
  userID : String
  symbol : String
  data : background.EventData

/-- `ContextBundle`. -/
structure ContextBundle (background : Background) where
  sanctionsMatch : Option SanctionsMatch
  data : background.ContextData

/-- The fields of a decision whose values the constructor converts. -/
structure DecisionDetails where
  riskScore : Json
  reason : Json
  sanctionsTriggered : Bool := false
  recommendedLimits : Json := .null
  llmMetadata : Json := .null

/-- `RiskDecision`. -/
structure RiskDecision where
  eventID : String
  userID : String
  action : DecisionAction
  riskLevel : RiskLevel
  details : DecisionDetails
  incidentReportID : Option String := none

/-- The fields with which an `IncidentReport` is constructed. -/
structure ReportFields where
  eventID : String
  userID : String
  symbol : String
  incidentType : String
  severity : String
  description : Json
  anomalyDetails : List (String × Float)
  sanctionsMatch : Option Json
  riskScore : Json
  actionTaken : String

/-- `IncidentReport`. -/
structure IncidentReport where
  reportID : String
  fields : ReportFields

/-- What a call does outside the orchestrator. -/
inductive Effect where
  | insertIncidentReport (report : IncidentReport)
  | incrementTriggerCount (symbol : String)

/-- A part of `evaluate`: it may raise, and its effects are logged. -/
abbrev EvaluateM := EStateM String (List Effect)

/-- An effect which happens unless it raises an exception. -/
def perform (effect : Effect) (raised : Except String Unit) :
    EvaluateM Unit := do
  MonadExcept.ofExcept raised
  modify fun effects => effects ++ [effect]

/-- `DecisionOrchestrator`, with what it calls. -/
structure DecisionOrchestrator (background : Background) where
  /-- `risk_scorer.calculate_score`. -/
  calculateScore :
    TransactionEvent background → ContextBundle background →
      List AnomalyFlag → Except String Float
  /-- The entries of `prompt_data` for the event and the context. -/
  promptData :
    TransactionEvent background → ContextBundle background →
      Except String background.PromptData
  /-- The calls of `json.dumps` for the prompt. -/
  promptTexts :
    background.PromptData → List PromptFlag → Except String PromptTexts
  /-- `DECISION_PROMPT_TEMPLATE.format`. -/
  formatPrompt : PromptTexts → Float → String
  /-- `llm.generate_decision`. -/
  generateDecision : String → Except String String
  /-- `llm.model_name`. -/
  modelName : String
  /-- `json.loads`. -/
  loads : String → Except String Json
  /-- The checks and conversions of the constructor of `RiskDecision`. -/
  checkDecision : RiskDecision → Except String DecisionDetails
  /-- The checks of the constructor of `IncidentReport`, and a new ID. -/
  checkReport : ReportFields → Except String String
  /-- `postgres.insert_incident_report`. -/
  insertIncidentReport : IncidentReport → Except String Unit
  /-- `cb_writer.increment_trigger_count`. -/
  incrementTriggerCount : String → Except String Unit

namespace DecisionOrchestrator

variable
    (orchestrator : DecisionOrchestrator background)
    (event : TransactionEvent background)
    (context : ContextBundle background)
    (anomalyFlags : List AnomalyFlag)

/-- The prompt, from the data of the event, the context and the flags. -/
def prompt (baseScore : Float) : Except String String := do
  let data ← orchestrator.promptData event context
  let flags ← anomalyFlags.mapM AnomalyFlag.promptFlag
  let texts ← orchestrator.promptTexts data flags
  return orchestrator.formatPrompt texts baseScore

/-- The constructor of `RiskDecision`. -/
def riskDecision (action : DecisionAction) (riskLevel : RiskLevel)
    (details : DecisionDetails) : Except String RiskDecision := do
  let decision : RiskDecision :=
    { eventID := event.eventID
      userID := event.userID
      action
      riskLevel
      details }
  let checked ← orchestrator.checkDecision decision
  return { decision with details := checked }

/-- The decision of the sanctions rule. -/
def sanctionsDecision (sanctionsMatch : SanctionsMatch) :
    Except String RiskDecision :=
  orchestrator.riskDecision event .block .critical
    { riskScore := .number 1.0
      reason := .string ("Sanctions match: " ++ sanctionsMatch.matchedName)
      sanctionsTriggered := true }

/-- The decision which the reply of the model describes. -/
def llmDecision (baseScore : Float) (prompt : String) :
    Except String RiskDecision := do
  let llmResponse ← orchestrator.generateDecision prompt
  let decisionData ← orchestrator.loads llmResponse
  let action ← decisionAction (← getOr decisionData "action" (.string "ALLOW"))
  let level ←
    riskLevel (← getOr decisionData "risk_level" (.string "MEDIUM"))
  let riskScore ← getOr decisionData "risk_score" (.number baseScore)
  let reason ←
    getOr decisionData "reason" (.string "LLM evaluation completed")
  let recommendedLimits ← getOr decisionData "recommended_limits" .null
  let tokensUsed ← getOr decisionData "tokens_used" (.integer 0)
  let confidence ← getOr decisionData "confidence" (.number 0.8)
  orchestrator.riskDecision event action level
    { riskScore
      reason
      recommendedLimits
      llmMetadata :=
        .object
          [ ("model", .string orchestrator.modelName),
            ("tokens_used", tokensUsed),
            ("confidence", confidence) ] }

/-- `_fallback_decision`. -/
def fallbackDecision (riskScore : Float) : Except String RiskDecision :=
  let (action, level) : DecisionAction × RiskLevel :=
    if riskScore ≥ 0.8 then (.block, .high)
    else if riskScore ≥ 0.5 then (.flag, .medium)
    else (.allow, .low)
  orchestrator.riskDecision event action level
    { riskScore := .number riskScore
      reason := .string "Fallback rule-based decision (LLM unavailable)" }

/-- `_generate_incident_report`. -/
def generateIncidentReport (decision : RiskDecision) :
    Except String IncidentReport := do
  let anomalyDetails ← anomalyFlags.mapM AnomalyFlag.reported
  let fields : ReportFields :=
    { eventID := event.eventID
      userID := event.userID
      symbol := event.symbol
      incidentType := decision.action.value
      severity := decision.riskLevel.value
      description := decision.details.reason
      anomalyDetails
      sanctionsMatch := context.sanctionsMatch.map SanctionsMatch.dump
      riskScore := decision.details.riskScore
      actionTaken := decision.action.value }
  let reportID ← orchestrator.checkReport fields
  return { reportID, fields }

/-- The incident report, if needed. -/
def reportIfNeeded (decision : RiskDecision) : EvaluateM RiskDecision :=
  if decision.action = .block ∨ decision.action = .flag then do
    let report ←
      MonadExcept.ofExcept
        (orchestrator.generateIncidentReport event context anomalyFlags
          decision)
    let decision := { decision with incidentReportID := some report.reportID }
    perform (.insertIncidentReport report)
      (orchestrator.insertIncidentReport report)
    return decision
  else
    return decision

/-- The update of the circuit breakers, if needed. -/
def updateIfNeeded (decision : RiskDecision) : EvaluateM Unit :=
  if decision.action = .block then
    perform (.incrementTriggerCount event.symbol)
      (orchestrator.incrementTriggerCount event.symbol)
  else
    return

/--
The decision without a sanctions match.  An exception of the model or its
reply leads to the fallback, one of the scorer or the prompt does not.
-/
def scoredDecision : Except String RiskDecision := do
  let baseScore ← orchestrator.calculateScore event context anomalyFlags
  let prompt ← orchestrator.prompt event context anomalyFlags baseScore
  tryCatch (orchestrator.llmDecision event baseScore prompt)
    fun _ => orchestrator.fallbackDecision event baseScore

/-- `evaluate`. -/
def evaluate : EvaluateM RiskDecision :=
  match context.sanctionsMatch with
  | some sanctionsMatch =>
      MonadExcept.ofExcept
        (orchestrator.sanctionsDecision event sanctionsMatch)
  | none => do
      let decision ←
        MonadExcept.ofExcept
          (orchestrator.scoredDecision event context anomalyFlags)
      let decision ←
        orchestrator.reportIfNeeded event context anomalyFlags decision
      orchestrator.updateIfNeeded event decision
      return decision

/-! ## What is on record -/

/-- The reports among the effects of a call. -/
def inserted (effects : List Effect) : List IncidentReport :=
  effects.filterMap fun
    | .insertIncidentReport report => some report
    | .incrementTriggerCount _ => none

/-- The symbols whose trigger counts a call incremented. -/
def incremented (effects : List Effect) : List String :=
  effects.filterMap fun
    | .insertIncidentReport _ => none
    | .incrementTriggerCount symbol => some symbol

/--
Every `BLOCK` or `FLAG` which `evaluate` returns has one incident report of
the event, with its ID on the decision, and every `BLOCK` one trigger of the
symbol.
-/
def OnRecord : Prop :=
  ∀ decision effects,
    orchestrator.evaluate event context anomalyFlags [] =
        .ok decision effects →
      (decision.action = .block ∨ decision.action = .flag →
        ∃ report,
          inserted effects = [report] ∧
            report.fields.eventID = event.eventID ∧
            decision.incidentReportID = some report.reportID) ∧
      (decision.action = .block → incremented effects = [event.symbol])

/-- The sanctions rule does not decide: no match, or no record of a decision. -/
def NotBySanctions : Prop :=
  ∀ sanctionsMatch, context.sanctionsMatch = some sanctionsMatch →
    ∃ error,
      orchestrator.sanctionsDecision event sanctionsMatch = .error error

variable {orchestrator event context anomalyFlags}

theorem perform_eq_ok_iff {effect : Effect} {raised : Except String Unit}
    {before after : List Effect} :
    perform effect raised before = .ok () after ↔
      raised = .ok () ∧ after = before ++ [effect] := by
  rw [perform, Commands.bind_eq_ok_iff]
  constructor
  · rintro ⟨_, _, performed, logged⟩
    obtain ⟨rfl, rfl⟩ := Commands.ofExcept_eq_ok_iff.mp performed
    cases logged
    exact ⟨rfl, rfl⟩
  · rintro ⟨rfl, rfl⟩
    exact ⟨(), before, rfl, rfl⟩

/-- The constructor keeps the action and sets no report ID. -/
theorem action_riskDecision {action : DecisionAction} {level : RiskLevel}
    {details : DecisionDetails} {decision : RiskDecision}
    (constructed :
      orchestrator.riskDecision event action level details =
        .ok decision) : decision.action = action := by
  obtain ⟨checked, -, constructed⟩ := bind_eq_ok_iff.mp constructed
  cases constructed
  rfl

/-- A report which is generated is one of the event. -/
theorem eventID_of_generated {decision : RiskDecision}
    {report : IncidentReport}
    (generated :
      orchestrator.generateIncidentReport event context anomalyFlags
          decision = .ok report) :
    report.fields.eventID = event.eventID := by
  obtain ⟨anomalyDetails, -, generated⟩ := bind_eq_ok_iff.mp generated
  obtain ⟨reportID, -, generated⟩ := bind_eq_ok_iff.mp generated
  cases generated
  rfl

/-- What `reportIfNeeded` puts on the decision and into the store. -/
theorem reportIfNeeded_spec {decision recorded : RiskDecision}
    {before after : List Effect}
    (reported :
      orchestrator.reportIfNeeded event context anomalyFlags decision
          before = .ok recorded after) :
    recorded.action = decision.action ∧
      if decision.action = .block ∨ decision.action = .flag then
        ∃ report : IncidentReport,
          report.fields.eventID = event.eventID ∧
            recorded.incidentReportID = some report.reportID ∧
            after = before ++ [.insertIncidentReport report]
      else
        after = before := by
  rw [reportIfNeeded] at reported
  split at reported
  · next needed =>
      obtain ⟨report, _, made, reported⟩ :=
        Commands.bind_eq_ok_iff.mp reported
      obtain ⟨generated, rfl⟩ := Commands.ofExcept_eq_ok_iff.mp made
      obtain ⟨_, _, performed, reported⟩ :=
        Commands.bind_eq_ok_iff.mp reported
      obtain ⟨-, rfl⟩ := perform_eq_ok_iff.mp performed
      cases reported
      rw [if_pos needed]
      exact ⟨rfl, report, eventID_of_generated generated, rfl, rfl⟩
  · next unneeded =>
      cases reported
      rw [if_neg unneeded]
      exact ⟨rfl, rfl⟩

/-- What `updateIfNeeded` counts. -/
theorem updateIfNeeded_spec {decision : RiskDecision}
    {before after : List Effect}
    (updated :
      orchestrator.updateIfNeeded event decision before = .ok () after) :
    after =
      before ++
        if decision.action = .block then
          [.incrementTriggerCount event.symbol]
        else
          [] := by
  rw [updateIfNeeded] at updated
  split at updated
  · next blocks =>
      rw [if_pos blocks]
      exact (perform_eq_ok_iff.mp updated).2
  · next allows =>
      cases updated
      rw [if_neg allows, List.append_nil]

/-- A decision of the model or the fallback is put on record. -/
theorem onRecord_of_scored (noMatch : context.sanctionsMatch = none) :
    orchestrator.OnRecord event context anomalyFlags := by
  intro decision effects evaluated
  rw [evaluate, noMatch] at evaluated
  obtain ⟨decided, _, scored, evaluated⟩ :=
    Commands.bind_eq_ok_iff.mp evaluated
  obtain ⟨-, rfl⟩ := Commands.ofExcept_eq_ok_iff.mp scored
  obtain ⟨recorded, stored, reported, evaluated⟩ :=
    Commands.bind_eq_ok_iff.mp evaluated
  obtain ⟨_, counted, updated, returned⟩ :=
    Commands.bind_eq_ok_iff.mp evaluated
  cases returned
  obtain ⟨sameAction, report⟩ := reportIfNeeded_spec reported
  have counts := updateIfNeeded_spec updated
  rw [← sameAction] at report
  constructor
  · intro needed
    rw [if_pos needed] at report
    obtain ⟨report, ofEvent, withID, rfl⟩ := report
    refine ⟨report, ?_, ofEvent, withID⟩
    rw [counts]
    split <;> rfl
  · intro blocks
    rw [if_pos (Or.inl blocks)] at report
    obtain ⟨report, -, -, rfl⟩ := report
    rw [counts, if_pos blocks]
    rfl

/--
Every `BLOCK` or `FLAG` is on record exactly when the sanctions rule does not
decide.
-/
theorem on_record_iff (orchestrator : DecisionOrchestrator background)
    (event : TransactionEvent background)
    (context : ContextBundle background)
    (anomalyFlags : List AnomalyFlag) :
    orchestrator.OnRecord event context anomalyFlags ↔
      orchestrator.NotBySanctions event context := by
  constructor
  · intro onRecord sanctionsMatch found
    cases decides : orchestrator.sanctionsDecision event sanctionsMatch with
    | error error => exact ⟨error, rfl⟩
    | ok decision =>
        have evaluated :
            orchestrator.evaluate event context anomalyFlags [] =
              .ok decision [] := by
          rw [evaluate, found]
          exact Commands.ofExcept_eq_ok_iff.mpr ⟨decides, rfl⟩
        have blocks := action_riskDecision decides
        obtain ⟨report, stored, -⟩ :=
          (onRecord decision [] evaluated).1 (Or.inl blocks)
        cases stored
  · intro notBySanctions
    cases found : context.sanctionsMatch with
    | none => exact onRecord_of_scored found
    | some sanctionsMatch =>
        intro decision effects evaluated
        obtain ⟨error, raises⟩ := notBySanctions sanctionsMatch found
        rw [evaluate, found] at evaluated
        have decides := (Commands.ofExcept_eq_ok_iff.mp evaluated).1
        rw [raises] at decides
        cases decides

/-- Nothing but the parts which are always there. -/
def noBackground : Background where
  EventData := Unit
  ContextData := Unit
  PromptData := Unit

/-- An orchestrator without a model, all of whose other calls succeed. -/
def withoutModel : DecisionOrchestrator noBackground where
  calculateScore := fun _ _ _ => .ok 0.9
  promptData := fun _ _ => .ok ()
  promptTexts := fun _ _ => .ok ⟨"", "", "", ""⟩
  formatPrompt := fun _ _ => ""
  generateDecision := fun _ => .error "connection error"
  modelName := "gpt-4"
  loads := fun _ => .error "Expecting value"
  checkDecision := fun decision => .ok decision.details
  checkReport := fun _ => .ok "report-1"
  insertIncidentReport := fun _ => .ok ()
  incrementTriggerCount := fun _ => .ok ()

/-- A sanctioned user is blocked without a report and without a trigger. -/
theorem on_record_fails :
    ¬ ∀ (background : Background)
        (orchestrator : DecisionOrchestrator background)
        (event : TransactionEvent background)
        (context : ContextBundle background)
        (anomalyFlags : List AnomalyFlag),
        (∀ report, orchestrator.insertIncidentReport report = .ok ()) →
          (∀ symbol, orchestrator.incrementTriggerCount symbol = .ok ()) →
            orchestrator.OnRecord event context anomalyFlags := by
  intro onRecord
  let event : TransactionEvent noBackground :=
    { eventID := "event-1", userID := "user-1", symbol := "AAPL", data := () }
  let sanctionsMatch : SanctionsMatch :=
    { matchedName := "user", dump := .null }
  let context : ContextBundle noBackground :=
    { sanctionsMatch := some sanctionsMatch, data := () }
  have recorded :=
    onRecord noBackground withoutModel event context [] (fun _ => rfl)
      fun _ => rfl
  obtain ⟨report, stored, -⟩ := (recorded _ _ rfl).1 (Or.inl rfl)
  cases stored

end DecisionOrchestrator

end AeroRisk.Guardrail.Agent3
