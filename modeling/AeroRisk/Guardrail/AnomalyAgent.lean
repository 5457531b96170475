import AeroRisk.Guardrail.ResultRanges
import AeroRisk.Library.Commands
import AeroRisk.Library.Stages

/-!
# The anomaly agent

`Agent1Anomaly` runs its four detectors on an event, one after the other, and
collects the results which report an anomaly.  None of the checks awaits
anything, so no other event comes between them.

An exception of a check ends the call: the detectors after it do not see the
event.  So each detector runs as it does alone on the events for which no
detector before it raises.
-/

namespace AeroRisk.Guardrail.Agent1

open AeroRisk.Library

/-- The configuration, with its defaults. -/
structure Agent1Config (F : Type) [PyFloat F] where
  velocityWindow : Int := 60
  maxOps : Int := 100
  vwapLookback : Int := 300
  vwapThreshold : F := 0.05
  washTradeWindow : Int := 300
  minRoundTrips : Int := 3
  cancelThreshold : F := 0.8

/-- `Agent1Anomaly`: its detectors. -/
structure Agent1Anomaly (F : Type) [PyFloat F] where
  velocityChecker : VelocityChecker
  vwapMonitor : VWAPMonitor F
  washTradeDetector : WashTradeDetector
  spoofingDetector : SpoofingDetector F

/-- `Agent1Anomaly(config)`. -/
def newAgent1Anomaly {F : Type} [PyFloat F] (config : Agent1Config F) :
    Agent1Anomaly F where
  velocityChecker :=
    { windowSize := config.velocityWindow
      maxOrdersPerSecond := config.maxOps }
  vwapMonitor :=
    { lookbackPeriods := config.vwapLookback
      deviationThreshold := config.vwapThreshold }
  washTradeDetector :=
    { timeWindowSeconds := config.washTradeWindow
      minRoundTrips := config.minRoundTrips }
  spoofingDetector :=
    { cancellationThreshold := config.cancelThreshold }

/-- What the detectors remember. -/
structure AgentMemory (F : Type) where
  accountWindows : String → List Int
  orderWindows : String → List (VWAPEntry F)
  tradeHistory : String → List (TradeRecord F)
  spoofing : SpoofingState F

/-- The memory of a new agent. -/
def newAgentMemory {F : Type} : AgentMemory F where
  accountWindows := noWindows
  orderWindows := noWindows
  tradeHistory := noWindows
  spoofing := .initial

/-- An event with the readings of the clock by the detectors. -/
structure Turn (F : Type) where
  event : OrderEvent F
  /-- The reading of the velocity check, in microseconds. -/
  utcnow : Int
  /-- What the reading of the wash trade check returns or raises. -/
  now : Except String F

namespace Turn

variable {F : Type}

def arrival (turn : Turn F) : Arrival F where
  event := turn.event
  now := turn.utcnow

/-- The VWAP check does not read the clock. -/
def reading (turn : Turn F) : Reading F where
  event := turn.event
  now := turn.event.timestamp

def timed (turn : Turn F) : TimedEvent F where
  event := turn.event
  now := turn.now

end Turn

/-- What `detect_anomalies` returns. -/
structure Detection (F : Type) where
  anomalyResults : List (AnomalyResult F)
  anomalyDetected : Bool
  maxAnomalySeverity : F
  anomalyTypes : List AnomalyType
  accountID : String
  symbol : String
  /-- The dumps of the results. -/
  findings : List (AnomalyResult F)

/-- The larger severity, the first one of two which are equal. -/
def largerSeverity {F : Type} [PyFloat F] (severity : F)
    (result : AnomalyResult F) : F :=
  if severity < result.severityScore then result.severityScore else severity

/-- `max((r.severity_score for r in results), default=0.0)`. -/
def maxSeverity {F : Type} [PyFloat F] : List (AnomalyResult F) → F
  | [] => 0.0
  | result :: rest => rest.foldl largerSeverity result.severityScore

variable {format : FloatFormat}

namespace Agent1Anomaly

variable (agent : Agent1Anomaly (RangedFloat format))

/-- A computation of the agent. -/
abbrev AgentProgram (F : Type) :=
  EStateM String (AgentMemory F)

/-- A check changes the memory of its detector, and returns or raises. -/
def runCheck {F : Type} (update : AgentMemory F → AgentMemory F)
    (check : AgentMemory F → Except String (AnomalyResult F)) :
    AgentProgram F (AnomalyResult F) := do
  let memory ← get
  set (update memory)
  MonadExcept.ofExcept (check memory)

/-- `self.velocity_checker.check(event)`. -/
def checkVelocity (turn : Turn (RangedFloat format)) :
    AgentProgram (RangedFloat format) (AnomalyResult (RangedFloat format)) :=
  runCheck
    (fun memory =>
      { memory with
        accountWindows :=
          agent.velocityChecker.nextRanged memory.accountWindows
            turn.arrival })
    fun memory =>
      agent.velocityChecker.checkRanged memory.accountWindows turn.arrival

/-- `self.vwap_monitor.check(event)`. -/
def checkVwap (turn : Turn (RangedFloat format)) :
    AgentProgram (RangedFloat format) (AnomalyResult (RangedFloat format)) :=
  runCheck
    (fun memory =>
      { memory with
        orderWindows :=
          agent.vwapMonitor.next memory.orderWindows turn.reading })
    fun memory => agent.vwapMonitor.check memory.orderWindows turn.reading

/-- `self.wash_trade_detector.check(event)`. -/
def checkWashTrade (turn : Turn (RangedFloat format)) :
    AgentProgram (RangedFloat format) (AnomalyResult (RangedFloat format)) :=
  runCheck
    (fun memory =>
      { memory with
        tradeHistory :=
          agent.washTradeDetector.nextTimed memory.tradeHistory turn.timed })
    fun memory =>
      agent.washTradeDetector.checkTimed memory.tradeHistory turn.timed

/-- `self.spoofing_detector.check(event)`. -/
def checkSpoofing (turn : Turn (RangedFloat format)) :
    AgentProgram (RangedFloat format) (AnomalyResult (RangedFloat format)) :=
  runCheck
    (fun memory =>
      { memory with
        spoofing := SpoofingDetector.next memory.spoofing turn.event })
    fun memory => agent.spoofingDetector.check memory.spoofing turn.event

/-- `if result.is_anomalous: results.append(result)`. -/
def collect {F : Type} (results : List (AnomalyResult F))
    (result : AnomalyResult F) : List (AnomalyResult F) :=
  if result.isAnomalous then results ++ [result] else results

/-- What is returned for the results of an event. -/
def detectionOf {F : Type} [PyFloat F] (event : OrderEvent F)
    (results : List (AnomalyResult F)) : Detection F where
  anomalyResults := results
  anomalyDetected := decide (0 < results.length)
  maxAnomalySeverity := maxSeverity results
  anomalyTypes := results.map AnomalyResult.anomalyType
  accountID := event.accountID
  symbol := event.symbol
  findings := results

/-- `detect_anomalies`. -/
def detectAnomalies (turn : Turn (RangedFloat format)) :
    AgentProgram (RangedFloat format) (Detection (RangedFloat format)) := do
  let results := []
  let velocityResult ← agent.checkVelocity turn
  let results := collect results velocityResult
  let vwapResult ← agent.checkVwap turn
  let results := collect results vwapResult
  let washResult ← agent.checkWashTrade turn
  let results := collect results washResult
  let spoofResult ← agent.checkSpoofing turn
  let results := collect results spoofResult
  return detectionOf turn.event results

/-! ## The detectors as stages -/

/-- The velocity check alone. -/
def velocityStage :
    Stage (String → List Int) (Turn (RangedFloat format)) String
      (AnomalyResult (RangedFloat format)) where
  next windows turn := agent.velocityChecker.nextRanged windows turn.arrival
  emit windows turn := agent.velocityChecker.checkRanged windows turn.arrival

/-- The VWAP check alone. -/
def vwapStage :
    Stage (String → List (VWAPEntry (RangedFloat format))) (Turn (RangedFloat format))
      String (AnomalyResult (RangedFloat format)) where
  next windows turn := agent.vwapMonitor.next windows turn.reading
  emit windows turn := agent.vwapMonitor.check windows turn.reading

/-- The wash trade check alone. -/
def washTradeStage :
    Stage (String → List (TradeRecord (RangedFloat format))) (Turn (RangedFloat format))
      String (AnomalyResult (RangedFloat format)) where
  next windows turn := agent.washTradeDetector.nextTimed windows turn.timed
  emit windows turn := agent.washTradeDetector.checkTimed windows turn.timed

/-- The spoofing check alone. -/
def spoofingStage :
    Stage (SpoofingState (RangedFloat format)) (Turn (RangedFloat format)) String
      (AnomalyResult (RangedFloat format)) where
  next state turn := SpoofingDetector.next state turn.event
  emit state turn := agent.spoofingDetector.check state turn.event

/-- The four checks in their order. -/
def stages :=
  agent.velocityStage.andThen
    (agent.vwapStage.andThen
      (agent.washTradeStage.andThen agent.spoofingStage))

end Agent1Anomaly

/-- The states of the stages. -/
abbrev AgentParts (F : Type) : Type :=
  (String → List Int) × (String → List (VWAPEntry F)) ×
    (String → List (TradeRecord F)) × SpoofingState F

/-- The parts of the memory. -/
def AgentMemory.parts {F : Type} (memory : AgentMemory F) : AgentParts F :=
  (memory.accountWindows, memory.orderWindows, memory.tradeHistory,
    memory.spoofing)

/-- The memory which consists of some parts. -/
def AgentMemory.ofParts {F : Type} (parts : AgentParts F) : AgentMemory F where
  accountWindows := parts.1
  orderWindows := parts.2.1
  tradeHistory := parts.2.2.1
  spoofing := parts.2.2.2

namespace Agent1Anomaly

variable {agent : Agent1Anomaly (RangedFloat format)}

theorem runCheck_apply {F : Type} (update : AgentMemory F → AgentMemory F)
    (check : AgentMemory F → Except String (AnomalyResult F))
    (memory : AgentMemory F) :
    runCheck update check memory =
      match check memory with
      | .ok result => .ok result (update memory)
      | .error error => .error error (update memory) := by
  change
    (MonadExcept.ofExcept (check memory) : AgentProgram F (AnomalyResult F))
        (update memory) =
      _
  cases check memory <;> rfl

/-- What follows a check sees its result and the updated memory. -/
theorem runCheck_bind {F Value : Type} (update : AgentMemory F → AgentMemory F)
    (check : AgentMemory F → Except String (AnomalyResult F))
    (following : AnomalyResult F → AgentProgram F Value)
    (memory : AgentMemory F) :
    (runCheck update check >>= following) memory =
      match check memory with
      | .ok result => following result (update memory)
      | .error error => .error error (update memory) := by
  simp only [bind, EStateM.bind, runCheck_apply]
  cases check memory <;> rfl

/-- The results which report an anomaly, in the order of the checks. -/
def anomalies {F : Type}
    (results :
      AnomalyResult F × AnomalyResult F × AnomalyResult F × AnomalyResult F) :
    List (AnomalyResult F) :=
  [results.1, results.2.1, results.2.2.1, results.2.2.2].filter
    AnomalyResult.isAnomalous

theorem collect_eq {F : Type} (results : List (AnomalyResult F))
    (result : AnomalyResult F) :
    collect results result =
      results ++ [result].filter AnomalyResult.isAnomalous := by
  rw [collect]
  cases isAnomalous : result.isAnomalous <;> simp [isAnomalous]

theorem collected {F : Type} (first second third fourth : AnomalyResult F) :
    collect (collect (collect (collect [] first) second) third) fourth =
      anomalies (first, second, third, fourth) := by
  simp only [collect_eq, anomalies, ← List.filter_append, List.nil_append,
    List.cons_append]

/-- The agent does with an event what its stages do. -/
theorem detectAnomalies_apply (turn : Turn (RangedFloat format))
    (memory : AgentMemory (RangedFloat format)) :
    agent.detectAnomalies turn memory =
      match agent.stages.emit memory.parts turn with
      | .ok results =>
          .ok (detectionOf turn.event (anomalies results))
            (.ofParts (agent.stages.next memory.parts turn))
      | .error error =>
          .error error (.ofParts (agent.stages.next memory.parts turn)) := by
  simp only [detectAnomalies, checkVelocity, runCheck_bind, stages,
    Stage.andThen, velocityStage, AgentMemory.parts]
  cases
    agent.velocityChecker.checkRanged memory.accountWindows turn.arrival with
  | error error => rfl
  | ok velocityResult =>
      simp only [checkVwap, runCheck_bind, vwapStage]
      cases agent.vwapMonitor.check memory.orderWindows turn.reading with
      | error error => rfl
      | ok vwapResult =>
          simp only [checkWashTrade, runCheck_bind, washTradeStage]
          cases
            agent.washTradeDetector.checkTimed memory.tradeHistory
              turn.timed with
          | error error => rfl
          | ok washResult =>
              simp only [checkSpoofing, runCheck_bind, spoofingStage]
              cases agent.spoofingDetector.check memory.spoofing turn.event with
              | error error => rfl
              | ok spoofResult =>
                  change
                    _ =
                      EStateM.Result.ok
                        (detectionOf turn.event
                          (anomalies
                            (velocityResult, vwapResult, washResult,
                              spoofResult)))
                        _
                  rw [← collected]
                  rfl

/-! ## Runs of the agent -/

/-- The memory after some events, with those for which a check raises. -/
def memoryAfter (agent : Agent1Anomaly (RangedFloat format))
    (turns : List (Turn (RangedFloat format))) : AgentMemory (RangedFloat format) :=
  LabelledRun.run
    (fun memory turn => Commands.after (agent.detectAnomalies turn) memory)
    newAgentMemory turns

/-- The memory is that of the stages. -/
theorem parts_memoryAfter (turns : List (Turn (RangedFloat format))) :
    (memoryAfter agent turns).parts =
      agent.stages.run (newAgentMemory : AgentMemory (RangedFloat format)).parts
        turns := by
  have parts_run (memory : AgentMemory (RangedFloat format)) :
      (LabelledRun.run
            (fun memory turn =>
              Commands.after (agent.detectAnomalies turn) memory)
            memory turns).parts =
        agent.stages.run memory.parts turns := by
    induction turns generalizing memory with
    | nil => rfl
    | cons turn rest inductionHypothesis =>
        have next :
            Commands.after (agent.detectAnomalies turn) memory =
              .ofParts (agent.stages.next memory.parts turn) := by
          rw [Commands.after, detectAnomalies_apply]
          cases agent.stages.emit memory.parts turn <;> rfl
        rw [LabelledRun.run_cons, next]
        exact inductionHypothesis _
  exact parts_run newAgentMemory

end Agent1Anomaly

/-! ## The types of the anomalies -/

/-- The results which a check returns are of one type. -/
def OfType {F : Type} (outcome : Except String (AnomalyResult F))
    (anomalyType : AnomalyType) : Prop :=
  ∀ result, outcome = .ok result → result.anomalyType = anomalyType

theorem VelocityChecker.check_ofType {rounding : Rounding}
    (checker : VelocityChecker) (windows : String → List Int)
    (arrival : Arrival rounding.Value) :
    OfType (checker.check windows arrival) .velocityViolation := by
  intro result checked
  rw [check, KeyedStates.emit, observe] at checked
  split at checked
  · dsimp only [judge] at checked
    rcases bind_eq_ok_iff.mp checked with ⟨rate, -, checked⟩
    split at checked
    · rcases bind_eq_ok_iff.mp checked with ⟨limit, -, checked⟩
      rcases bind_eq_ok_iff.mp checked with ⟨excess, -, checked⟩
      rcases exists_of_bind_checked checked with ⟨severity, rfl⟩
      rfl
    · rcases exists_of_bind_checked checked with ⟨severity, rfl⟩
      rfl
  · cases checked

theorem VelocityChecker.checkRanged_ofType (checker : VelocityChecker)
    (windows : String → List Int) (arrival : Arrival (RangedFloat format)) :
    OfType (checker.checkRanged windows arrival) .velocityViolation :=
  @check_ofType format.rounding checker windows arrival

theorem VWAPMonitor.check_ofType (monitor : VWAPMonitor (RangedFloat format))
    (windows : String → List (VWAPEntry (RangedFloat format)))
    (reading : Reading (RangedFloat format)) :
    OfType (monitor.check windows reading) .vwapDeviation := by
  intro result checked
  rw [check, KeyedStates.emit, observe] at checked
  split at checked
  · cases checked
  dsimp only [judge] at checked
  split at checked
  · cases checked
    rfl
  split at checked
  · cases checked
    rfl
  rcases bind_eq_ok_iff.mp checked with ⟨deviation, -, checked⟩
  split at checked
  · rcases exists_of_bind_checked checked with ⟨severity, rfl⟩
    rfl
  · rcases exists_of_bind_checked checked with ⟨severity, rfl⟩
    rfl

theorem WashTradeDetector.checkTimed_ofType (detector : WashTradeDetector)
    (windows : String → List (TradeRecord (RangedFloat format)))
    (timed : TimedEvent (RangedFloat format)) :
    OfType (detector.checkTimed windows timed) .washTrade := by
  intro result checked
  rw [checkTimed] at checked
  split at checked
  · cases checked
  rw [check_eq] at checked
  rcases bind_eq_ok_iff.mp checked with ⟨count, -, judged⟩
  dsimp only [judge] at judged
  split at judged
  · rcases exists_of_bind_checked judged with ⟨severity, rfl⟩
    rfl
  · rcases exists_of_bind_checked judged with ⟨severity, rfl⟩
    rfl

theorem SpoofingDetector.check_ofType
    (detector : SpoofingDetector (RangedFloat format))
    (state : SpoofingState (RangedFloat format)) (event : OrderEvent (RangedFloat format)) :
    OfType (detector.check state event) .spoofing := by
  intro result checked
  rcases detector.check_cases state event with
    ⟨-, -, lifetime, fillRatio, judged⟩ | ⟨-, -, details, allowed⟩ |
      ⟨-, -, error, raised⟩
  · rw [judged] at checked
    dsimp only [judge] at checked
    rcases bind_eq_ok_iff.mp checked with ⟨rate, -, checked⟩
    rw [AnomalyResult.eq_of_checked checked]
  · rw [allowed] at checked
    cases checked
    rfl
  · rw [raised] at checked
    cases checked

/-! ## The largest severity -/

theorem largerSeverity_bounds (severity : RangedFloat format)
    (result : AnomalyResult (RangedFloat format)) :
    severity.exact ≤ (largerSeverity severity result).exact ∧
      result.severityScore.exact ≤ (largerSeverity severity result).exact := by
  rw [largerSeverity]
  split
  · next larger => exact ⟨(RangedFloat.lt_iff_exact.mp larger).le, le_refl _⟩
  · next smaller => exact ⟨le_refl _, not_lt.mp smaller⟩

theorem foldl_largerSeverity (results : List (AnomalyResult (RangedFloat format)))
    (start : RangedFloat format) :
    let largest := results.foldl largerSeverity start
    (largest = start ∨ ∃ result ∈ results, largest = result.severityScore) ∧
      start.exact ≤ largest.exact ∧
        ∀ result ∈ results, result.severityScore.exact ≤ largest.exact := by
  induction results generalizing start with
  | nil => exact ⟨.inl rfl, le_refl _, by simp⟩
  | cons result rest inductionHypothesis =>
      obtain ⟨fromStart, fromResult⟩ := largerSeverity_bounds start result
      obtain ⟨attained, bound, restBound⟩ :=
        inductionHypothesis (largerSeverity start result)
      refine ⟨?_, fromStart.trans bound, ?_⟩
      · rcases attained with isNext | ⟨other, member, isOther⟩
        · rw [List.foldl_cons, isNext, largerSeverity]
          split
          · exact .inr ⟨result, List.mem_cons_self, rfl⟩
          · exact .inl rfl
        · exact .inr ⟨other, List.mem_cons_of_mem _ member, isOther⟩
      · intro other member
        rcases List.mem_cons.mp member with rfl | isLater
        · exact fromResult.trans bound
        · exact restBound other isLater

/-- The largest severity is that of a result, and none is larger. -/
theorem maxSeverity_spec {results : List (AnomalyResult (RangedFloat format))}
    (notEmpty : results ≠ []) :
    (∃ result ∈ results, maxSeverity results = result.severityScore) ∧
      ∀ result ∈ results,
        result.severityScore.exact ≤ (maxSeverity results).exact := by
  cases results with
  | nil => exact absurd rfl notEmpty
  | cons result rest =>
      obtain ⟨attained, bound, restBound⟩ :=
        foldl_largerSeverity rest result.severityScore
      refine ⟨?_, ?_⟩
      · rcases attained with isFirst | ⟨other, member, isOther⟩
        · exact ⟨result, List.mem_cons_self, isFirst⟩
        · exact ⟨other, List.mem_cons_of_mem _ member, isOther⟩
      · intro other member
        rcases List.mem_cons.mp member with rfl | isLater
        · exact bound
        · exact restBound other isLater

/-! ## What the agent detects -/

namespace Agent1Anomaly

/-- The results of the four checks of an event, each from its own memory. -/
structure Verdicts (agent : Agent1Anomaly (RangedFloat format))
    (memory : AgentMemory (RangedFloat format)) (turn : Turn (RangedFloat format))
    (velocity vwap washTrade spoofing : AnomalyResult (RangedFloat format)) :
    Prop where
  velocity :
    agent.velocityChecker.checkRanged memory.accountWindows turn.arrival =
      .ok velocity
  vwap :
    agent.vwapMonitor.check memory.orderWindows turn.reading = .ok vwap
  washTrade :
    agent.washTradeDetector.checkTimed memory.tradeHistory turn.timed =
      .ok washTrade
  spoofing :
    agent.spoofingDetector.check memory.spoofing turn.event = .ok spoofing

/-- What a detection reports of the results of the four checks. -/
structure Reports (detection : Detection (RangedFloat format))
    (results : List (AnomalyResult (RangedFloat format))) : Prop where
  anomalyResults :
    detection.anomalyResults = results.filter AnomalyResult.isAnomalous
  detected :
    detection.anomalyDetected = true ↔
      ∃ result ∈ results, result.isAnomalous = true
  inRange :
    0 ≤ detection.maxAnomalySeverity.exact ∧
      detection.maxAnomalySeverity.exact ≤ 1
  positive :
    0 < detection.maxAnomalySeverity.exact ↔
      detection.anomalyDetected = true
  largest :
    ∀ result ∈ detection.anomalyResults,
      result.severityScore.exact ≤ detection.maxAnomalySeverity.exact
  types :
    detection.anomalyTypes =
      detection.anomalyResults.map AnomalyResult.anomalyType
  typesOnce : detection.anomalyTypes.Nodup

variable {agent : Agent1Anomaly Exact}

theorem reports_of_inRange (event : OrderEvent Exact)
    {results : List (AnomalyResult Exact)}
    (inRange : ∀ result ∈ results, InRange result)
    (types : (results.map AnomalyResult.anomalyType).Nodup) :
    Reports
      (detectionOf event (results.filter AnomalyResult.isAnomalous))
      results := by
  set found := results.filter AnomalyResult.isAnomalous with isFound
  have ofFound {result : AnomalyResult Exact} (member : result ∈ found) :
      InRange result ∧ result.isAnomalous = true := by
    obtain ⟨isResult, isAnomalous⟩ := List.mem_filter.mp member
    exact ⟨inRange result isResult, isAnomalous⟩
  have detected :
      (detectionOf event found).anomalyDetected = true ↔ found ≠ [] := by
    rw [detectionOf]
    dsimp only
    rw [decide_eq_true_eq, List.length_pos_iff]
  refine ⟨rfl, ?_, ?_, ?_, ?_, rfl, ?_⟩
  · rw [detected, isFound, ne_eq, List.filter_eq_nil_iff]
    simp
  · change 0 ≤ (maxSeverity found).exact ∧ (maxSeverity found).exact ≤ 1
    by_cases isEmpty : found = []
    · rw [isEmpty, maxSeverity, RangedFloat.exact_zero]
      exact ⟨le_refl _, zero_le_one⟩
    · obtain ⟨⟨result, member, isLargest⟩, -⟩ := maxSeverity_spec isEmpty
      rw [isLargest]
      exact (ofFound member).1.severity
  · rw [detected]
    change 0 < (maxSeverity found).exact ↔ _
    by_cases isEmpty : found = []
    · rw [isEmpty, maxSeverity, RangedFloat.exact_zero]
      exact iff_of_false (lt_irrefl _) fun notEmpty => notEmpty rfl
    · obtain ⟨⟨result, member, isLargest⟩, -⟩ := maxSeverity_spec isEmpty
      obtain ⟨isInRange, isAnomalous⟩ := ofFound member
      rw [isLargest, isInRange.anomalous]
      exact iff_of_true isAnomalous isEmpty
  · intro result member
    exact
      (maxSeverity_spec (List.ne_nil_of_mem member)).2 result member
  · exact types.sublist (List.filter_sublist.map _)

/-- The parameters of the detectors are positive. -/
def Positive (agent : Agent1Anomaly Exact) : Prop :=
  PositiveParameters agent.velocityChecker agent.vwapMonitor
    agent.washTradeDetector agent.spoofingDetector

/-- The window of the velocity check begins at a date. -/
def Dated (agent : Agent1Anomaly Exact) (turn : Turn Exact) : Prop :=
  agent.velocityChecker.HasCutoff turn.utcnow

instance decidableDated (turn : Turn Exact) : Decidable (agent.Dated turn) :=
  inferInstanceAs (Decidable (agent.velocityChecker.HasCutoff turn.utcnow))

/-- There is a window as long as the VWAP check looks back. -/
def HasWindow (agent : Agent1Anomaly Exact) : Prop :=
  agent.vwapMonitor.lookbackPeriods ≤ maxsize

instance decidableHasWindow : Decidable agent.HasWindow :=
  inferInstanceAs (Decidable (_ ≤ _))

/-- The wash trade check can read the clock and its time window. -/
def Readable (agent : Agent1Anomaly Exact) (turn : Turn Exact) : Prop :=
  agent.washTradeDetector.Readable turn.timed

instance decidableReadable (turn : Turn Exact) :
    Decidable (agent.Readable turn) :=
  inferInstanceAs (Decidable (agent.washTradeDetector.Readable turn.timed))

theorem sound_of_dated (positive : agent.Positive)
    (windows : String → List Int) {turn : Turn Exact}
    (dated : agent.Dated turn) :
    Sound (agent.velocityChecker.checkRanged windows turn.arrival) :=
  VelocityChecker.sound_checkRanged positive.maxOrders windows dated

theorem sound_of_hasWindow (positive : agent.Positive)
    (hasWindow : agent.HasWindow)
    (windows : String → List (VWAPEntry Exact)) (turn : Turn Exact) :
    Sound (agent.vwapMonitor.check windows turn.reading) :=
  VWAPMonitor.sound_check positive.lookback.le hasWindow positive.deviation
    windows turn.reading

theorem sound_of_readable (positive : agent.Positive)
    (windows : String → List (TradeRecord Exact)) {turn : Turn Exact}
    (readable : agent.Readable turn) :
    Sound (agent.washTradeDetector.checkTimed windows turn.timed) :=
  WashTradeDetector.sound_checkTimed positive.roundTrips windows readable

/-- A sound outcome is not an exception. -/
theorem exists_ok_iff {outcome : Except String (AnomalyResult Exact)}
    {admitted : Prop} (sound : admitted → Sound outcome)
    (raises : ¬ admitted → Raises outcome) :
    (∃ result, outcome = .ok result) ↔ admitted := by
  constructor
  · rintro ⟨result, isResult⟩
    by_contra refused
    obtain ⟨error, isError⟩ := raises refused
    cases isResult.symm.trans isError
  · intro isAdmitted
    obtain ⟨result, isResult, -⟩ := sound isAdmitted
    exact ⟨result, isResult⟩

theorem velocityStage_accepts_iff (positive : agent.Positive)
    (windows : String → List Int) (turn : Turn Exact) :
    agent.velocityStage.Accepts windows turn ↔ agent.Dated turn :=
  exists_ok_iff (sound_of_dated positive windows)
    (@VelocityChecker.raises_checkRanged _ windows turn.arrival)

theorem vwapStage_accepts_iff (positive : agent.Positive)
    (windows : String → List (VWAPEntry Exact)) (turn : Turn Exact) :
    agent.vwapStage.Accepts windows turn ↔ agent.HasWindow :=
  exists_ok_iff
    (fun hasWindow => sound_of_hasWindow positive hasWindow windows turn)
    fun tooLong => VWAPMonitor.raises_check tooLong windows turn.reading

theorem washTradeStage_accepts_iff (positive : agent.Positive)
    (windows : String → List (TradeRecord Exact)) (turn : Turn Exact) :
    agent.washTradeStage.Accepts windows turn ↔ agent.Readable turn :=
  exists_ok_iff (sound_of_readable positive windows) fun unreadable =>
    (WashTradeDetector.raises_checkTimed windows unreadable).1

/--
Each detector alone, on the events for which no detector before it raises.
-/
def aloneAfter (agent : Agent1Anomaly Exact) (turns : List (Turn Exact)) :
    AgentMemory Exact :=
  let dated := turns.filter fun turn => agent.Dated turn
  let compared := dated.filter fun _ => agent.HasWindow
  let searched := compared.filter fun turn => agent.Readable turn
  { accountWindows :=
      LabelledRun.run agent.velocityChecker.nextRanged noWindows
        (turns.map Turn.arrival)
    orderWindows :=
      LabelledRun.run agent.vwapMonitor.next noWindows
        (dated.map Turn.reading)
    tradeHistory :=
      LabelledRun.run agent.washTradeDetector.nextTimed noWindows
        (compared.map Turn.timed)
    spoofing :=
      LabelledRun.run SpoofingDetector.next .initial
        (searched.map Turn.event) }

theorem memoryAfter_eq (positive : agent.Positive)
    (turns : List (Turn Exact)) :
    memoryAfter agent turns = aloneAfter agent turns := by
  have isParts :
      (memoryAfter agent turns).parts = (aloneAfter agent turns).parts := by
    rw [parts_memoryAfter]
    change agent.stages.run (noWindows, noWindows, noWindows, .initial) turns = _
    rw [stages, Stage.run_andThen, Stage.run_andThen, Stage.run_andThen,
      Stage.accepted_eq_filter (velocityStage_accepts_iff positive),
      Stage.accepted_eq_filter (vwapStage_accepts_iff positive),
      Stage.accepted_eq_filter (washTradeStage_accepts_iff positive)]
    simp only [Stage.run, LabelledRun.run, AgentMemory.parts, aloneAfter,
      List.foldl_map]
    rfl
  exact congrArg AgentMemory.ofParts isParts

/-- An exception of a check is one of the agent. -/
theorem exists_error_of_stages {memory : AgentMemory Exact}
    {turn : Turn Exact}
    (refused : ¬ agent.stages.Accepts memory.parts turn) :
    ∃ error later,
      agent.detectAnomalies turn memory = .error error later := by
  rw [detectAnomalies_apply]
  cases emitted : agent.stages.emit memory.parts turn with
  | error error => exact ⟨error, _, rfl⟩
  | ok results => exact absurd ⟨results, emitted⟩ refused

/-- The agent accepts an event when none of its checks raises. -/
theorem stages_accepts_iff (positive : agent.Positive)
    (parts : AgentParts Exact) (turn : Turn Exact) :
    agent.stages.Accepts parts turn ↔
      agent.Dated turn ∧ agent.HasWindow ∧ agent.Readable turn := by
  have spoofingAccepts :
      agent.spoofingStage.Accepts parts.2.2.2 turn := by
    obtain ⟨result, isResult, -⟩ :=
      SpoofingDetector.sound_check positive.cancellation parts.2.2.2
        turn.event
    exact ⟨result, isResult⟩
  rw [stages, Stage.accepts_andThen_iff, Stage.accepts_andThen_iff,
    Stage.accepts_andThen_iff, velocityStage_accepts_iff positive,
    vwapStage_accepts_iff positive, washTradeStage_accepts_iff positive,
    and_iff_left spoofingAccepts]

/--
With exact divisions and positive parameters the agent is the product of its
detectors.  Each remembers what it would alone on the events for which no
detector before it raises.  The agent returns for every event for which none
raises, and reports exactly the anomalies among the four results which the
detectors would give alone; for every other event it raises.
-/
theorem detects_as_detectors_alone (agent : Agent1Anomaly Exact)
    (positive : agent.Positive) (turns : List (Turn Exact)) (turn : Turn Exact) :
    memoryAfter agent turns = aloneAfter agent turns ∧
      (agent.Dated turn ∧ agent.HasWindow ∧ agent.Readable turn →
        ∃ velocity vwap washTrade spoofing detection later,
          agent.Verdicts (aloneAfter agent turns) turn velocity vwap washTrade
              spoofing ∧
            Reports detection [velocity, vwap, washTrade, spoofing] ∧
              agent.detectAnomalies turn (memoryAfter agent turns) =
                .ok detection later) ∧
      (¬ (agent.Dated turn ∧ agent.HasWindow ∧ agent.Readable turn) →
        ∃ error later,
          agent.detectAnomalies turn (memoryAfter agent turns) =
            .error error later) := by
  refine ⟨memoryAfter_eq positive turns, ?_⟩
  rw [memoryAfter_eq positive turns]
  set memory := aloneAfter agent turns
  constructor
  · rintro ⟨dated, hasWindow, readable⟩
    obtain ⟨velocity, isVelocity, velocityInRange⟩ :=
      sound_of_dated positive memory.accountWindows dated
    obtain ⟨vwap, isVwap, vwapInRange⟩ :=
      sound_of_hasWindow positive hasWindow memory.orderWindows turn
    obtain ⟨washTrade, isWashTrade, washTradeInRange⟩ :=
      sound_of_readable positive memory.tradeHistory readable
    obtain ⟨spoofing, isSpoofing, spoofingInRange⟩ :=
      SpoofingDetector.sound_check positive.cancellation memory.spoofing
        turn.event
    have emits :
        agent.stages.emit memory.parts turn =
          .ok (velocity, vwap, washTrade, spoofing) := by
      simp only [stages, Stage.andThen, velocityStage, vwapStage,
        washTradeStage, spoofingStage, AgentMemory.parts, isVelocity,
        isVwap, isWashTrade, isSpoofing]
      rfl
    have types :
        ([velocity, vwap, washTrade, spoofing].map
          AnomalyResult.anomalyType).Nodup := by
      simp only [List.map_cons, List.map_nil,
        VelocityChecker.checkRanged_ofType _ _ _ _ isVelocity,
        VWAPMonitor.check_ofType _ _ _ _ isVwap,
        WashTradeDetector.checkTimed_ofType _ _ _ _ isWashTrade,
        SpoofingDetector.check_ofType _ _ _ _ isSpoofing]
      decide
    refine
      ⟨velocity, vwap, washTrade, spoofing, _,
        .ofParts (agent.stages.next memory.parts turn),
        ⟨isVelocity, isVwap, isWashTrade, isSpoofing⟩,
        reports_of_inRange turn.event ?_ types, ?_⟩
    · simp only [List.forall_mem_cons]
      exact
        ⟨velocityInRange, vwapInRange, washTradeInRange, spoofingInRange,
          fun _ member => absurd member List.not_mem_nil⟩
    · rw [detectAnomalies_apply, emits]
      rfl
  · intro refused
    exact
      exists_error_of_stages
        ((stages_accepts_iff positive memory.parts turn).not.mpr refused)

/-- An order at a second of the year 2025, for the agent. -/
def turnAt (seconds : Int) : Turn Exact where
  event := (orderAt exactFormat.rounding seconds).event
  utcnow := (orderAt exactFormat.rounding seconds).now
  now := .ok (RangedFloat.round (1735689600 + seconds))

/-- The agent with its defaults, for an order and another one later. -/
theorem detects_as_detectors_alone_sample :
    memoryAfter (newAgent1Anomaly { }) [turnAt 0] =
        aloneAfter (newAgent1Anomaly { }) [turnAt 0] ∧
      ∃ detection later,
        (newAgent1Anomaly { }).detectAnomalies (turnAt 1)
            (memoryAfter (newAgent1Anomaly { }) [turnAt 0]) =
          .ok detection later := by
  obtain ⟨sameMemory, detects, -⟩ :=
    detects_as_detectors_alone (newAgent1Anomaly { }) positive_defaults
      [turnAt 0] (turnAt 1)
  obtain ⟨-, -, -, -, detection, later, -, -, detected⟩ :=
    detects (by decide +kernel)
  exact ⟨sameMemory, detection, later, detected⟩

end Agent1Anomaly

end AeroRisk.Guardrail.Agent1
