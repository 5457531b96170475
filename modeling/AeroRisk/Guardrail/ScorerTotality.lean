import AeroRisk.Guardrail.Orchestrator
import AeroRisk.Guardrail.RiskScorer
import AeroRisk.Guardrail.RoundedFloat
import AeroRisk.Library.FallibleFilter

/-!
# When the scorer raises

The scorer divides by two limits of the profile and converts integers to
floats.  An exception of it leaves `evaluate` before the fallback, which only
handles the exceptions of the model and its reply.  So does an exception of the
preparation of the prompt, which reads attributes of the flags that the scorer
does without.
-/

namespace AeroRisk.Guardrail.Agent3

open AeroRisk.Library
open AeroRisk.Guardrail.Agent1 (PyFloat RangedFloat exactDoubles)

namespace RiskScorer

variable {format : FloatFormat}

/-- The limits by which the scorer divides are not negative. -/
def NonnegativeLimits (context : ScoredContext) : Prop :=
  ∀ profile, context.userProfile = some profile →
    0 ≤ profile.maxOrders ∧ 0 ≤ profile.singleOrderLimit

/--
The limits by which the scorer divides are not zero, and the value of the
order and its limit fit in a float.
-/
def Scorable (format : FloatFormat) (event : ScoredEvent)
    (context : ScoredContext) : Prop :=
  ∀ profile, context.userProfile = some profile →
    (profile.maxOrders ≠ 0 ∧ profile.singleOrderLimit ≠ 0) ∧
      format.FitsQuotient ((event.price * event.quantity : Int) / 10000) ∧
      format.Fits profile.singleOrderLimit

/-- The anomaly component never raises. -/
theorem exists_anomalyScore
    (anomalyFlags : List (ScoredFlag (RangedFloat format))) :
    ∃ score, calculateAnomalyScore anomalyFlags = .ok score := by
  rw [calculateAnomalyScore]
  split
  · exact ⟨_, rfl⟩
  · dsimp only
    split
    · exact ⟨_, rfl⟩
    · next nonzero =>
        rw [RangedFloat.beq_eq_true_iff, RangedFloat.exact_zero] at nonzero
        exact RangedFloat.exists_divide_iff.mpr nonzero

theorem exists_velocityFactor_iff {context : ScoredContext}
    (nonnegative : NonnegativeLimits context) :
    (∃ factor : RangedFloat format,
        calculateVelocityFactor context = .ok factor) ↔
      ∀ profile, context.userProfile = some profile →
        profile.maxOrders ≠ 0 := by
  rw [calculateVelocityFactor]
  split
  · next absent => simp [absent]
  · next profile found =>
      have fits (nonzero : profile.maxOrders ≠ 0) :
          format.Fits ((10 : Int) / (profile.maxOrders : Rat)) := by
        have positive : (1 : Rat) ≤ profile.maxOrders := by
          have := (nonnegative profile found).1
          exact_mod_cast (by omega : 1 ≤ profile.maxOrders)
        apply FloatFormat.fits_of_le_ten
        · positivity
        · exact div_le_self (by norm_num) positive
      simp only [exists_bind_eq_ok_iff, pure, Except.pure, Except.ok.injEq,
        exists_eq', and_true, RangedFloat.exists_trueDivide_iff, found,
        Option.some.injEq, forall_eq']
      exact
        ⟨fun both => both.1, fun nonzero =>
          ⟨nonzero, (fits nonzero).fitsQuotient⟩⟩

theorem exists_sizeFactor_iff (event : ScoredEvent)
    {context : ScoredContext} (nonnegative : NonnegativeLimits context) :
    (∃ factor : RangedFloat format,
        calculateSizeFactor event context = .ok factor) ↔
      ∀ profile, context.userProfile = some profile →
        profile.singleOrderLimit ≠ 0 ∧
          format.FitsQuotient ((event.price * event.quantity : Int) / 10000) ∧
          format.Fits profile.singleOrderLimit := by
  rw [calculateSizeFactor]
  split
  · next absent => simp [absent]
  · next profile found =>
      have nonzero_iff :
          format.rounding.nearest profile.singleOrderLimit ≠ 0 ↔
            profile.singleOrderLimit ≠ 0 := by
        have notNegative := (nonnegative profile found).2
        constructor
        · intro nonzero isZero
          rw [isZero, Int.cast_zero, format.rounding.nearest_zero] at nonzero
          exact nonzero rfl
        · intro nonzero
          have large : (1 : Rat) ≤ profile.singleOrderLimit := by
            exact_mod_cast (by omega : 1 ≤ profile.singleOrderLimit)
          exact (one_pos.trans_le (Rounding.one_le_nearest large)).ne'
      simp only [exists_bind_eq_ok_iff, pure, Except.pure, Except.ok.injEq,
        exists_eq', and_true, RangedFloat.toFloat_eq_ok_iff, found,
        Option.some.injEq, forall_eq', RangedFloat.exists_divide_iff,
        and_assoc, exists_and_left, exists_eq_left',
        RangedFloat.exact_round, nonzero_iff, exists_and_right,
        RangedFloat.exists_trueDivide_iff]
      constructor
      · rintro ⟨-, valueFits, limitFits, nonzero⟩
        exact ⟨nonzero, valueFits, limitFits⟩
      · rintro ⟨nonzero, valueFits, limitFits⟩
        exact ⟨by decide, valueFits, limitFits, nonzero⟩

/-- The scorer raises exactly when a profile is not scorable. -/
theorem exists_score_iff (event : ScoredEvent) {context : ScoredContext}
    (nonnegative : NonnegativeLimits context)
    (anomalyFlags : List (ScoredFlag (RangedFloat format))) :
    (∃ score, calculateScore event context anomalyFlags = .ok score) ↔
      Scorable format event context := by
  rcases exists_anomalyScore anomalyFlags with ⟨anomalyScore, isAnomaly⟩
  have clamped :
      (∃ score, calculateScore event context anomalyFlags = .ok score) ↔
        ∃ total, totalScore event context anomalyFlags = .ok total := by
    rw [calculateScore]
    cases totalScore event context anomalyFlags with
    | error error => exact iff_of_false (by rintro ⟨_, ⟨⟩⟩) (by simp)
    | ok total => exact iff_of_true ⟨_, rfl⟩ ⟨_, rfl⟩
  rw [clamped, totalScore, isAnomaly]
  simp only [exists_bind_eq_ok_iff, Except.ok.injEq, exists_eq_left', pure,
    Except.pure, exists_eq', and_true, exists_and_right,
    exists_velocityFactor_iff nonnegative,
    exists_sizeFactor_iff event nonnegative]
  constructor
  · rintro ⟨orders, size⟩ profile found
    exact
      ⟨⟨orders profile found, (size profile found).1⟩,
        (size profile found).2⟩
  · intro scorable
    exact
      ⟨fun profile found => (scorable profile found).1.1,
        fun profile found =>
          ⟨(scorable profile found).1.2, (scorable profile found).2⟩⟩

/-- How the orchestrator's data look to the scorer. -/
structure Scoring (background : Background) (format : FloatFormat) where
  event : TransactionEvent background → ScoredEvent
  context : ContextBundle background → ScoredContext
  ofFloat : Float → RangedFloat format
  toFloat : RangedFloat format → Float

namespace Scoring

variable {background : Background} (scoring : Scoring background format)
  (event : TransactionEvent background) (context : ContextBundle background)
  (anomalyFlags : List AnomalyFlag)

/-- What the scorer returns or raises for the orchestrator's data. -/
def score : Except String (RangedFloat format) :=
  RiskScorer.calculateScore (scoring.event event) (scoring.context context)
    (anomalyFlags.map fun flag =>
      { anomalyType := flag.anomalyType
        confidence := flag.confidence.map scoring.ofFloat })

/-- `risk_scorer.calculate_score`, as the orchestrator calls it. -/
def calculateScore : Except String Float :=
  scoring.toFloat <$> scoring.score event context anomalyFlags

end Scoring

end RiskScorer

namespace DecisionOrchestrator

open RiskScorer

variable {background : Background} {format : FloatFormat}

/-- The flag has the attributes which the prompt reads. -/
def Complete (flag : AnomalyFlag) : Prop :=
  flag.confidence ≠ none ∧ flag.details ≠ none

/-- The data of the event, the context and the complete flags can be dumped. -/
def Dumps (orchestrator : DecisionOrchestrator background)
    (event : TransactionEvent background)
    (context : ContextBundle background)
    (anomalyFlags : List AnomalyFlag) : Prop :=
  ∃ data texts,
    orchestrator.promptData event context = .ok data ∧
      orchestrator.promptTexts data
          (anomalyFlags.filterMap
            (FallibleFilter.success AnomalyFlag.promptFlag)) =
        .ok texts

theorem exists_promptFlag_iff {flag : AnomalyFlag} :
    (∃ promptFlag, flag.promptFlag = .ok promptFlag) ↔ Complete flag := by
  rw [AnomalyFlag.promptFlag, Complete]
  cases flag.confidence <;> cases flag.details <;>
    simp [getAttribute, bind, Except.bind, pure, Except.pure]

/-- The prompt is prepared when the flags are complete and all is dumped. -/
theorem exists_prompt_iff (orchestrator : DecisionOrchestrator background)
    (event : TransactionEvent background)
    (context : ContextBundle background) (anomalyFlags : List AnomalyFlag)
    (baseScore : Float) :
    (∃ prompt,
        orchestrator.prompt event context anomalyFlags baseScore =
          .ok prompt) ↔
      (∀ flag ∈ anomalyFlags, Complete flag) ∧
        orchestrator.Dumps event context anomalyFlags := by
  simp only [prompt, exists_bind_eq_ok_iff, pure, Except.pure,
    Except.ok.injEq, exists_eq', and_true]
  constructor
  · rintro ⟨data, isData, flags, mapped, texts, isTexts⟩
    have isFlags := FallibleFilter.eq_filterMap_of_mapM mapped
    subst isFlags
    have complete := FallibleFilter.exists_mapM_iff.mp ⟨_, mapped⟩
    exact
      ⟨fun flag member => exists_promptFlag_iff.mp (complete flag member),
        data, texts, isData, isTexts⟩
  · rintro ⟨complete, data, texts, isData, isTexts⟩
    obtain ⟨flags, mapped⟩ :=
      FallibleFilter.exists_mapM_iff.mpr fun flag member =>
        exists_promptFlag_iff.mpr (complete flag member)
    have isFlags := FallibleFilter.eq_filterMap_of_mapM mapped
    subst isFlags
    exact ⟨data, isData, _, mapped, texts, isTexts⟩

/--
`evaluate` has a score and a prompt, and decides by the model or by the
fallback.
-/
def ReachesDecision (orchestrator : DecisionOrchestrator background)
    (event : TransactionEvent background)
    (context : ContextBundle background)
    (anomalyFlags : List AnomalyFlag) : Prop :=
  ∃ baseScore prompt,
    orchestrator.calculateScore event context anomalyFlags = .ok baseScore ∧
      orchestrator.prompt event context anomalyFlags baseScore =
          .ok prompt ∧
        orchestrator.scoredDecision event context anomalyFlags =
          tryCatch (orchestrator.llmDecision event baseScore prompt)
            fun _ => orchestrator.fallbackDecision event baseScore

section Reached

variable {orchestrator : DecisionOrchestrator background}
    {event : TransactionEvent background}
    {context : ContextBundle background} {anomalyFlags : List AnomalyFlag}

/-- With a score and a prompt the model or the fallback decides. -/
theorem reachesDecision_iff :
    orchestrator.ReachesDecision event context anomalyFlags ↔
      ∃ baseScore prompt,
        orchestrator.calculateScore event context anomalyFlags =
            .ok baseScore ∧
          orchestrator.prompt event context anomalyFlags baseScore =
            .ok prompt := by
  constructor
  · rintro ⟨baseScore, prompt, isScore, isPrompt, -⟩
    exact ⟨baseScore, prompt, isScore, isPrompt⟩
  · rintro ⟨baseScore, prompt, isScore, isPrompt⟩
    refine ⟨baseScore, prompt, isScore, isPrompt, ?_⟩
    rw [scoredDecision, isScore]
    change (orchestrator.prompt _ _ _ _ >>= _) = _
    rw [isPrompt]
    rfl

/-- Without a score or a prompt an exception leaves `evaluate`. -/
theorem exists_error_of_not_reached
    (unmatched : context.sanctionsMatch = none)
    (unreached : ¬ orchestrator.ReachesDecision event context anomalyFlags) :
    ∃ error,
      orchestrator.evaluate event context anomalyFlags [] =
        .error error [] := by
  have raises :
      ∃ error,
        orchestrator.scoredDecision event context anomalyFlags =
          .error error := by
    cases scored : orchestrator.calculateScore event context anomalyFlags with
    | error error =>
        refine ⟨error, ?_⟩
        rw [scoredDecision, scored]
        rfl
    | ok baseScore =>
        cases prepared :
            orchestrator.prompt event context anomalyFlags baseScore with
        | error error =>
            refine ⟨error, ?_⟩
            rw [scoredDecision, scored]
            change (orchestrator.prompt _ _ _ _ >>= _) = _
            rw [prepared]
            rfl
        | ok prompt =>
            exact
              absurd
                (reachesDecision_iff.mpr ⟨baseScore, prompt, scored, prepared⟩)
                unreached
  obtain ⟨error, raised⟩ := raises
  refine ⟨error, ?_⟩
  rw [evaluate, unmatched]
  simp only [raised]
  rfl

end Reached

/--
For limits which are not negative the scorer returns a score exactly when the
profile, if any, has no limit of zero and the value of the order and its limit
fit in a float.  `evaluate` goes on to the model or the fallback exactly when
the prompt can be prepared as well: the flags are complete, and its data can be
dumped.  Otherwise an exception leaves `evaluate`, unless a sanctions match
decided before.
-/
theorem scoring_total (orchestrator : DecisionOrchestrator background)
    (scoring : Scoring background format)
    (scores : orchestrator.calculateScore = scoring.calculateScore)
    (event : TransactionEvent background)
    (context : ContextBundle background) (anomalyFlags : List AnomalyFlag)
    (nonnegative : NonnegativeLimits (scoring.context context)) :
    let scorable :=
      Scorable format (scoring.event event) (scoring.context context)
    let promptable :=
      (∀ flag ∈ anomalyFlags, Complete flag) ∧
        orchestrator.Dumps event context anomalyFlags
    ((∃ score, scoring.score event context anomalyFlags = .ok score) ↔
        scorable) ∧
      (orchestrator.ReachesDecision event context anomalyFlags ↔
        scorable ∧ promptable) ∧
      (¬ (scorable ∧ promptable) →
        context.sanctionsMatch = none →
          ∃ error,
            orchestrator.evaluate event context anomalyFlags [] =
              .error error []) := by
  intro scorable promptable
  have returns_iff :
      (∃ score, scoring.score event context anomalyFlags = .ok score) ↔
        scorable :=
    exists_score_iff (scoring.event event) nonnegative _
  have scores_iff :
      (∃ baseScore,
          orchestrator.calculateScore event context anomalyFlags =
            .ok baseScore) ↔
        scorable := by
    rw [← returns_iff, scores, Scoring.calculateScore]
    cases scoring.score event context anomalyFlags with
    | error error => exact iff_of_false (by rintro ⟨_, ⟨⟩⟩) (by simp)
    | ok score => exact iff_of_true ⟨_, rfl⟩ ⟨_, rfl⟩
  have reaches_iff :
      orchestrator.ReachesDecision event context anomalyFlags ↔
        scorable ∧ promptable := by
    rw [reachesDecision_iff, ← scores_iff]
    simp only [exists_and_left, exists_prompt_iff, exists_and_right]
    rfl
  refine ⟨returns_iff, reaches_iff, fun fails unmatched => ?_⟩
  rw [← reaches_iff] at fails
  exact exists_error_of_not_reached unmatched fails

/-- The profile of an account with the default limits. -/
def defaultProfile : UserProfile where
  riskTier := "low"
  tradingLimits := []

/-- A small order of this account, whose score is 0.08. -/
def smallOrder : Scoring noBackground exactDoubles where
  event _ := { price := 100, quantity := 10 }
  context _ :=
    { sanctionsMatch := false
      userProfile := some defaultProfile }
  ofFloat _ := RangedFloat.round 0
  toFloat _ := 0.08

/-- The event of the order. -/
def orderEvent : TransactionEvent noBackground where
  eventID := "event-1"
  userID := "user-1"
  symbol := "AAPL"
  data := ()

/-- Its context. -/
def orderContext : ContextBundle noBackground where
  sanctionsMatch := none
  data := ()

/-- An orchestrator without a model which scores small orders. -/
def scoringOrders : DecisionOrchestrator noBackground :=
  { withoutModel with calculateScore := smallOrder.calculateScore }

/-- A flag with its attributes. -/
def completeFlag : AnomalyFlag where
  anomalyType := "velocity_check"
  confidence := some 0.5
  details := some .null

theorem scoring_total_sample :
    let scorable :=
      Scorable exactDoubles (smallOrder.event orderEvent)
        (smallOrder.context orderContext)
    let promptable :=
      (∀ flag ∈ [completeFlag], Complete flag) ∧
        scoringOrders.Dumps orderEvent orderContext [completeFlag]
    ((∃ score,
          smallOrder.score orderEvent orderContext [completeFlag] =
            .ok score) ↔
        scorable) ∧
      (scoringOrders.ReachesDecision orderEvent orderContext
          [completeFlag] ↔
        scorable ∧ promptable) ∧
      (¬ (scorable ∧ promptable) →
        orderContext.sanctionsMatch = none →
          ∃ error,
            scoringOrders.evaluate orderEvent orderContext [completeFlag]
                [] =
              .error error []) :=
  scoring_total scoringOrders smallOrder rfl orderEvent orderContext
    [completeFlag] (by rintro profile ⟨⟩; decide)

/-- The context of an account which may place no order. -/
def restrictedContext : ScoredContext where
  sanctionsMatch := false
  userProfile :=
    some
      { riskTier := "high"
        tradingLimits := [("max_orders_per_minute", 0)] }

/-- No order of this account can be scored. -/
theorem scoring_total_fails :
    ¬ ∀ (format : FloatFormat) (event : ScoredEvent)
        (context : ScoredContext)
        (anomalyFlags : List (ScoredFlag (RangedFloat format))),
        NonnegativeLimits context →
          ∃ score,
            RiskScorer.calculateScore event context anomalyFlags =
              .ok score := by
  intro total
  have nonnegative : NonnegativeLimits restrictedContext := by
    rintro profile ⟨⟩
    decide
  have scorable : Scorable exactDoubles ⟨100, 10⟩ restrictedContext :=
    (exists_score_iff _ nonnegative []).mp
      (total exactDoubles _ restrictedContext [] nonnegative)
  exact (scorable _ rfl).1.1 rfl

end DecisionOrchestrator

end AeroRisk.Guardrail.Agent3
