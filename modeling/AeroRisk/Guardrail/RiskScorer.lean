import AeroRisk.Guardrail.Anomaly
import AeroRisk.Library.WeightedMean
import Mathlib.Algebra.Order.Field.Rat

/-!
# The risk scorer

`RiskScorer` adds five factors with fixed weights.  The anomaly component is
the mean of the confidences of the flags, weighted by the severities of their
types; two other factors divide by limits of the user profile.

The records have the fields which the scorer reads.  The modules under `models`
define `ContextBundle` and `UserProfile` with other fields, and there
`TransactionEvent` and `AnomalyFlag` are missing.
-/

namespace AeroRisk.Guardrail.Agent3.RiskScorer

open AeroRisk.Library
open AeroRisk.Guardrail.Agent1 (PyFloat exactFloat)

/-- `TransactionEvent`, as far as the scorer reads it. -/
structure ScoredEvent where
  price : Int
  quantity : Int
deriving DecidableEq, Repr

/-- `UserProfile`, as far as the scorer reads it. -/
structure UserProfile where
  riskTier : String
  tradingLimits : List (String × Int)
deriving DecidableEq, Repr

/-- `ContextBundle`, as far as the scorer reads it. -/
structure ScoredContext where
  sanctionsMatch : Bool
  userProfile : Option UserProfile
deriving DecidableEq, Repr

/-- An anomaly flag, which may lack the attribute `confidence`. -/
structure ScoredFlag (F : Type) where
  anomalyType : String
  confidence : Option F
deriving DecidableEq, Repr

/-- `limits.get("max_orders_per_minute", 60)`. -/
def UserProfile.maxOrders (profile : UserProfile) : Int :=
  (profile.tradingLimits.lookup "max_orders_per_minute").getD 60

/-- `limits.get("single_order_limit", 100000)`. -/
def UserProfile.singleOrderLimit (profile : UserProfile) : Int :=
  (profile.tradingLimits.lookup "single_order_limit").getD 100000

section Functions

variable {F : Type} [PyFloat F] [Add F]

/-- `severity_weights`. -/
def severityWeights : List (String × F) :=
  [ ("velocity_check", 0.3),
    ("vwap_deviation", 0.2),
    ("wash_trade", 0.8),
    ("spoofing", 0.7),
    ("embedding_similarity", 0.4) ]

/-- `RISK_TIER_SCORES`. -/
def riskTierScores : List (String × F) :=
  [ ("low", 0.1),
    ("standard", 0.3),
    ("elevated", 0.6),
    ("high", 0.9) ]

/-- `severity_weights.get(flag.anomaly_type, 0.5)`. -/
def ScoredFlag.severity (flag : ScoredFlag F) : F :=
  (severityWeights.lookup flag.anomalyType).getD 0.5

/-- `getattr(flag, 'confidence', 0.5)`. -/
def ScoredFlag.confidenceOr (flag : ScoredFlag F) : F :=
  flag.confidence.getD 0.5

/-- `weighted_sum` and `total_weight` after a flag. -/
def addFlag (sums : F × F) (flag : ScoredFlag F) : F × F :=
  (sums.1 + flag.severity * flag.confidenceOr, sums.2 + flag.severity)

/-- `_calculate_anomaly_score`. -/
def calculateAnomalyScore (anomalyFlags : List (ScoredFlag F)) :
    Except String F :=
  if anomalyFlags.isEmpty then
    .ok 0.0
  else
    let (weightedSum, totalWeight) := anomalyFlags.foldl addFlag (0.0, 0.0)
    if totalWeight == 0.0 then
      .ok 0.0
    else
      PyFloat.divide weightedSum totalWeight

/-- `_get_user_risk_score`. -/
def getUserRiskScore (context : ScoredContext) : F :=
  match context.userProfile with
  | none => 0.3
  | some profile =>
      (riskTierScores.lookup profile.riskTier.toLower).getD 0.3

/-- The score for a ratio: above one, above 0.8, above 0.5 or else. -/
def scoreOfRatio (ratio above high medium low : F) : F :=
  if 1.0 < ratio then above
  else if 0.8 < ratio then high
  else if 0.5 < ratio then medium
  else low

/-- `_calculate_velocity_factor`; the velocity is a placeholder. -/
def calculateVelocityFactor (context : ScoredContext) : Except String F :=
  match context.userProfile with
  | none => .ok 0.3
  | some profile => do
      let velocityRatio : F ← PyFloat.trueDivide 10 profile.maxOrders
      return scoreOfRatio velocityRatio 0.9 0.7 0.4 0.2

/-- `_calculate_size_factor`. -/
def calculateSizeFactor (event : ScoredEvent) (context : ScoredContext) :
    Except String F :=
  match context.userProfile with
  | none => .ok 0.3
  | some profile => do
      let orderValue : F ←
        PyFloat.trueDivide (event.price * event.quantity) 10000
      let limit : F ← PyFloat.toFloat profile.singleOrderLimit
      let sizeRatio ← PyFloat.divide orderValue limit
      return scoreOfRatio sizeRatio 0.8 0.6 0.4 0.2

/-- `total_score`: the factors with their `WEIGHTS`. -/
def totalScore (event : ScoredEvent) (context : ScoredContext)
    (anomalyFlags : List (ScoredFlag F)) : Except String F := do
  let anomalyScore ← calculateAnomalyScore anomalyFlags
  let userRiskTier : F := getUserRiskScore context
  let velocityFactor ← calculateVelocityFactor context
  let sizeFactor ← calculateSizeFactor event context
  let sanctionsFactor : F := if context.sanctionsMatch then 1.0 else 0.0
  return anomalyScore * 0.30 + userRiskTier * 0.20 + velocityFactor * 0.15 +
    sizeFactor * 0.15 + sanctionsFactor * 0.20

/-- `min(max(total_score, 0.0), 1.0)`. -/
def clamp (score : F) : F :=
  let atLeastZero := if score < 0.0 then 0.0 else score
  if 1.0 < atLeastZero then 1.0 else atLeastZero

/-- `calculate_score`. -/
def calculateScore (event : ScoredEvent) (context : ScoredContext)
    (anomalyFlags : List (ScoredFlag F)) : Except String F :=
  clamp <$> totalScore event context anomalyFlags

end Functions

/-! ## Exact arithmetic -/

/-- A number from one to another. -/
def Within (low high number : Rat) : Prop :=
  low ≤ number ∧ number ≤ high

instance (low high number : Rat) : Decidable (Within low high number) :=
  inferInstanceAs (Decidable (_ ∧ _))

/-- What holds of all values of a dictionary and the default holds of a get. -/
theorem forall_lookup_getD {Value : Type} {property : Value → Prop}
    {entries : List (String × Value)} {default : Value}
    (all : ∀ entry ∈ entries, property entry.2) (other : property default)
    (key : String) : property ((entries.lookup key).getD default) := by
  induction entries with
  | nil => exact other
  | cons entry rest inductionHypothesis =>
      rw [List.forall_mem_cons] at all
      rw [List.lookup_cons]
      cases key == entry.1 with
      | true => exact all.1
      | false => exact inductionHypothesis all.2

theorem exactFloat_zero :
    @OfScientific.ofScientific Rat PyFloat.toOfScientific 0 true 1 = 0 := by
  decide +kernel

theorem exactFloat_one :
    @OfScientific.ofScientific Rat PyFloat.toOfScientific 10 true 1 = 1 := by
  decide +kernel

theorem exactFloat_divide {value divisor : Rat} (nonzero : divisor ≠ 0) :
    PyFloat.divide value divisor = .ok (value / divisor) :=
  if_neg nonzero

theorem exactFloat_trueDivide (numerator : Int) {denominator : Int}
    (nonzero : denominator ≠ 0) :
    PyFloat.trueDivide numerator denominator =
      .ok ((numerator : Rat) / denominator) :=
  if_neg nonzero

/-! ### The anomaly component -/

/-- What a flag contributes to the mean. -/
def itemOf (flag : ScoredFlag Rat) : WeightedMean.Item Rat where
  weight := flag.severity
  value := flag.confidenceOr

/-- The mean of the confidences, weighted by the severities. -/
def meanConfidence (anomalyFlags : List (ScoredFlag Rat)) : Rat :=
  WeightedMean.mean (anomalyFlags.map itemOf)

variable {anomalyFlags : List (ScoredFlag Rat)}

theorem severity_pos (flag : ScoredFlag Rat) : 0 < flag.severity := by
  apply forall_lookup_getD
  · decide +kernel
  · decide +kernel

theorem weight_pos (anomalyFlags : List (ScoredFlag Rat)) :
    ∀ item ∈ anomalyFlags.map itemOf, 0 < item.weight := by
  intro item member
  rw [List.mem_map] at member
  rcases member with ⟨flag, -, rfl⟩
  exact severity_pos flag

/-- The loop adds up the weighted confidences and the weights. -/
theorem foldl_addFlag (sums : Rat × Rat)
    (anomalyFlags : List (ScoredFlag Rat)) :
    anomalyFlags.foldl addFlag sums =
      (sums.1 + WeightedMean.weightedSum (anomalyFlags.map itemOf),
        sums.2 + WeightedMean.totalWeight (anomalyFlags.map itemOf)) := by
  induction anomalyFlags generalizing sums with
  | nil => simp
  | cons flag rest inductionHypothesis =>
      rw [List.foldl_cons, inductionHypothesis]
      simp [addFlag, itemOf, add_assoc]

theorem calculateAnomalyScore_eq (anomalyFlags : List (ScoredFlag Rat)) :
    calculateAnomalyScore anomalyFlags =
      .ok (meanConfidence anomalyFlags) := by
  by_cases empty : anomalyFlags = []
  · subst empty
    exact congrArg Except.ok (by decide +kernel : (0.0 : Rat) = 0 / 0)
  · have positive :=
      WeightedMean.totalWeight_pos (weight_pos anomalyFlags)
        (by simpa using empty)
    rw [calculateAnomalyScore, if_neg (by simpa using empty)]
    simp only [foldl_addFlag, exactFloat_zero, zero_add]
    rw [if_neg (by simpa using positive.ne'),
      exactFloat_divide positive.ne']
    rfl

/-- The component lies between bounds of the confidences. -/
theorem within_meanConfidence {low high : Rat}
    (within : ∀ flag ∈ anomalyFlags, Within low high flag.confidenceOr)
    (nonempty : anomalyFlags ≠ []) :
    Within low high (meanConfidence anomalyFlags) := by
  have weigh := weight_pos anomalyFlags
  have some : anomalyFlags.map itemOf ≠ [] := by simpa using nonempty
  constructor
  · apply WeightedMean.le_mean weigh some
    intro item member
    rw [List.mem_map] at member
    rcases member with ⟨flag, isFlag, rfl⟩
    exact (within flag isFlag).1
  · apply WeightedMean.mean_le weigh some
    intro item member
    rw [List.mem_map] at member
    rcases member with ⟨flag, isFlag, rfl⟩
    exact (within flag isFlag).2

theorem meanConfidence_nil : meanConfidence [] = 0 :=
  zero_div _

/-! ### The other factors -/

/-- The limits by which the scorer divides are not zero. -/
def Divides (context : ScoredContext) : Prop :=
  ∀ profile, context.userProfile = some profile →
    profile.maxOrders ≠ 0 ∧ profile.singleOrderLimit ≠ 0

theorem within_getUserRiskScore (context : ScoredContext) :
    Within 0 (9 / 10) (getUserRiskScore context) := by
  rw [getUserRiskScore]
  split
  · decide +kernel
  · apply forall_lookup_getD
    · decide +kernel
    · decide +kernel

theorem within_scoreOfRatio {bound above high medium low : Rat}
    (within :
      Within 0 bound above ∧ Within 0 bound high ∧ Within 0 bound medium ∧
        Within 0 bound low)
    (ratio : Rat) :
    Within 0 bound (scoreOfRatio ratio above high medium low) := by
  rw [scoreOfRatio]
  split
  · exact within.1
  · split
    · exact within.2.1
    · split
      · exact within.2.2.1
      · exact within.2.2.2

theorem calculateVelocityFactor_spec {context : ScoredContext}
    (divides : Divides context) :
    ∃ factor : Rat,
      calculateVelocityFactor context = .ok factor ∧
        Within 0 (9 / 10) factor := by
  rw [calculateVelocityFactor]
  split
  · exact ⟨_, rfl, by decide +kernel⟩
  · next profile found =>
      rw [exactFloat_trueDivide 10 (divides profile found).1]
      exact ⟨_, rfl, within_scoreOfRatio (by decide +kernel) _⟩

theorem calculateSizeFactor_spec (event : ScoredEvent)
    {context : ScoredContext} (divides : Divides context) :
    ∃ factor : Rat,
      calculateSizeFactor event context = .ok factor ∧
        Within 0 (4 / 5) factor := by
  rw [calculateSizeFactor]
  split
  · exact ⟨_, rfl, by decide +kernel⟩
  · next profile found =>
      have nonzero : (profile.singleOrderLimit : Rat) ≠ 0 := by
        exact_mod_cast (divides profile found).2
      rw [exactFloat_trueDivide _ (by decide)]
      change
        ∃ factor : Rat,
          (PyFloat.divide _ (profile.singleOrderLimit : Rat) >>=
              fun sizeRatio =>
                pure (scoreOfRatio sizeRatio 0.8 0.6 0.4 0.2)) =
            Except.ok factor ∧ _
      rw [exactFloat_divide nonzero]
      exact ⟨_, rfl, within_scoreOfRatio (by decide +kernel) _⟩

/-! ### The score -/

/-- Four factors contribute at most 7/10, and without a match less. -/
theorem totalScore_spec (event : ScoredEvent) {context : ScoredContext}
    (divides : Divides context) :
    ∃ others : Rat,
      Within 0 (7 / 10) others ∧
        (context.sanctionsMatch = false → others ≤ 1 / 2) ∧
        ∀ anomalyFlags : List (ScoredFlag Rat),
          totalScore event context anomalyFlags =
            .ok (meanConfidence anomalyFlags * (3 / 10) + others) := by
  rcases within_getUserRiskScore context with ⟨userNonneg, userSmall⟩
  rcases calculateVelocityFactor_spec divides with
    ⟨velocity, isVelocity, velocityNonneg, velocitySmall⟩
  rcases calculateSizeFactor_spec event divides with
    ⟨size, isSize, sizeNonneg, sizeSmall⟩
  have weights :
      (0.30 : Rat) = 3 / 10 ∧ (0.20 : Rat) = 1 / 5 ∧
        (0.15 : Rat) = 3 / 20 := by
    decide +kernel
  let sanctions : Rat := if context.sanctionsMatch then 1 else 0
  have within : Within 0 1 sanctions := by
    dsimp only [sanctions]
    split <;> decide +kernel
  rcases within with ⟨sanctionsNonneg, sanctionsSmall⟩
  refine
    ⟨getUserRiskScore context * (1 / 5) + velocity * (3 / 20) +
        size * (3 / 20) + sanctions * (1 / 5), ⟨by linarith, by linarith⟩,
      ?_, ?_⟩
  · intro noMatch
    have noSanctions : sanctions = 0 := by simp [sanctions, noMatch]
    linarith
  · intro anomalyFlags
    have isSanctions :
        (if context.sanctionsMatch then (1.0 : Rat) else 0.0) = sanctions := by
      norm_num [sanctions]
    rw [totalScore, calculateAnomalyScore_eq, isVelocity, isSize]
    change
      Except.ok
          (meanConfidence anomalyFlags * 0.30 +
            getUserRiskScore context * 0.20 + velocity * 0.15 + size * 0.15 +
            (if context.sanctionsMatch then (1.0 : Rat) else 0.0) * 0.20) =
        (Except.ok _ : Except String Rat)
    rw [isSanctions, weights.1, weights.2.1, weights.2.2]
    congr 1
    ring

theorem clamp_eq {score : Rat} (within : Within 0 1 score) :
    clamp score = score := by
  have notBelow : ¬ score < 0 := not_lt.mpr within.1
  have notAbove : ¬ 1 < score := not_lt.mpr within.2
  simp only [clamp, exactFloat_zero, exactFloat_one]
  rw [if_neg notBelow, if_neg notAbove]

/-- The confidences of all flags are from 0 to 1. -/
def Confidences (anomalyFlags : List (ScoredFlag Rat)) : Prop :=
  ∀ flag ∈ anomalyFlags, Within 0 1 flag.confidenceOr

instance (anomalyFlags : List (ScoredFlag Rat)) :
    Decidable (Confidences anomalyFlags) :=
  inferInstanceAs (Decidable (∀ flag ∈ anomalyFlags, Within 0 1 _))

theorem Confidences.within_meanConfidence
    (confidences : Confidences anomalyFlags) :
    Within 0 1 (meanConfidence anomalyFlags) := by
  by_cases empty : anomalyFlags = []
  · rw [empty, meanConfidence_nil]
    decide +kernel
  · exact RiskScorer.within_meanConfidence confidences empty

/-- The score is linear in the mean confidence. -/
theorem calculateScore_spec (event : ScoredEvent) {context : ScoredContext}
    (divides : Divides context) :
    ∃ others : Rat,
      (context.sanctionsMatch = false → others ≤ 1 / 2) ∧
        ∀ anomalyFlags, Confidences anomalyFlags →
          let total := meanConfidence anomalyFlags * (3 / 10) + others
          Within 0 1 total ∧
            totalScore event context anomalyFlags = .ok total ∧
            calculateScore event context anomalyFlags = .ok total := by
  rcases totalScore_spec event divides with
    ⟨others, ⟨nonneg, small⟩, noMatch, isTotal⟩
  refine ⟨others, noMatch, ?_⟩
  intro anomalyFlags confidences
  rcases confidences.within_meanConfidence with ⟨meanNonneg, meanSmall⟩
  have within :
      Within 0 1 (meanConfidence anomalyFlags * (3 / 10) + others) :=
    ⟨by linarith, by linarith⟩
  refine ⟨within, isTotal anomalyFlags, ?_⟩
  rw [calculateScore, isTotal anomalyFlags]
  exact congrArg Except.ok (clamp_eq within)

/-- A limit which is zero makes the scorer raise. -/
theorem calculateScore_ne_ok {event : ScoredEvent} {context : ScoredContext}
    (zero : ¬ Divides context) (anomalyFlags : List (ScoredFlag Rat))
    (score : Rat) : calculateScore event context anomalyFlags ≠ .ok score := by
  intro isScore
  rw [calculateScore, totalScore, calculateAnomalyScore_eq] at isScore
  apply zero
  intro profile found
  constructor
  · intro noOrders
    simp only [calculateVelocityFactor, found, noOrders] at isScore
    cases isScore
  · intro noLimit
    by_cases noOrders : profile.maxOrders = 0
    · simp only [calculateVelocityFactor, found, noOrders] at isScore
      cases isScore
    · simp only [calculateVelocityFactor, found,
        exactFloat_trueDivide _ noOrders, calculateSizeFactor, noLimit]
        at isScore
      cases isScore

/--
For limits which are not zero the anomaly component lies between the extreme
confidences, the weighted sum between 0 and 1, so that the clamp returns it,
and without a sanctions match it is at most 4/5.
-/
theorem score_bounds (event : ScoredEvent) {context : ScoredContext}
    {anomalyFlags : List (ScoredFlag Rat)} (divides : Divides context)
    (confidences : Confidences anomalyFlags) :
    ∃ component total,
      calculateAnomalyScore anomalyFlags = .ok component ∧
        (anomalyFlags = [] → component = 0) ∧
        (∀ smallest largest,
          (anomalyFlags.map ScoredFlag.confidenceOr).min? = some smallest →
            (anomalyFlags.map ScoredFlag.confidenceOr).max? =
                some largest →
              smallest ≤ component ∧ component ≤ largest) ∧
        totalScore event context anomalyFlags = .ok total ∧
        (0 ≤ total ∧ total ≤ 1) ∧
        calculateScore event context anomalyFlags = .ok total ∧
        (context.sanctionsMatch = false → total ≤ 4 / 5) := by
  rcases calculateScore_spec event divides with ⟨others, noMatch, isScore⟩
  rcases isScore anomalyFlags confidences with ⟨within, isTotal, isScore⟩
  refine
    ⟨meanConfidence anomalyFlags, _, calculateAnomalyScore_eq anomalyFlags,
      ?_, ?_, isTotal, within, isScore, ?_⟩
  · rintro rfl
    exact meanConfidence_nil
  · intro smallest largest isSmallest isLargest
    rw [List.min?_eq_some_iff] at isSmallest
    rw [List.max?_eq_some_iff] at isLargest
    apply within_meanConfidence
    · intro flag member
      have isConfidence :
          flag.confidenceOr ∈ anomalyFlags.map ScoredFlag.confidenceOr :=
        List.mem_map_of_mem member
      exact ⟨isSmallest.2 _ isConfidence, isLargest.2 _ isConfidence⟩
    · rintro rfl
      simp at isSmallest
  · intro unmatched
    have small := confidences.within_meanConfidence.2
    have others := noMatch unmatched
    linarith

/-- A flag of a wash trade. -/
def washTrade : ScoredFlag Rat where
  anomalyType := "wash_trade"
  confidence := some (4 / 5)

/-- A flag of a velocity check which found nothing. -/
def velocityCheck : ScoredFlag Rat where
  anomalyType := "velocity_check"
  confidence := some 0

/-- Both flags. -/
def twoFlags : List (ScoredFlag Rat) :=
  [velocityCheck, washTrade]

/-- A context without a profile and a match. -/
def unknownUser : ScoredContext where
  sanctionsMatch := false
  userProfile := none

theorem divides_unknownUser : Divides unknownUser :=
  nofun

theorem confidences_twoFlags : Confidences twoFlags := by
  decide +kernel

theorem score_bounds_sample :
    ∃ component total,
      calculateAnomalyScore twoFlags = .ok component ∧
        (twoFlags = [] → component = 0) ∧
        (∀ smallest largest,
          (twoFlags.map ScoredFlag.confidenceOr).min? = some smallest →
            (twoFlags.map ScoredFlag.confidenceOr).max? = some largest →
              smallest ≤ component ∧ component ≤ largest) ∧
        totalScore ⟨100, 10⟩ unknownUser twoFlags = .ok total ∧
        (0 ≤ total ∧ total ≤ 1) ∧
        calculateScore ⟨100, 10⟩ unknownUser twoFlags = .ok total ∧
        (unknownUser.sanctionsMatch = false → total ≤ 4 / 5) :=
  score_bounds ⟨100, 10⟩ divides_unknownUser confidences_twoFlags

/-! ### More evidence -/

/-- Unless an exception is raised, the second score is not below the first. -/
def NotLowered (score later : Except String Rat) : Prop :=
  ∀ before after, score = .ok before → later = .ok after → before ≤ after

/-- Two scores of an event compare like the mean confidences. -/
theorem notLowered_iff (event : ScoredEvent) (context : ScoredContext)
    {first second : List (ScoredFlag Rat)} (confidences : Confidences first)
    (otherConfidences : Confidences second) :
    NotLowered (calculateScore event context first)
        (calculateScore event context second) ↔
      (Divides context → meanConfidence first ≤ meanConfidence second) := by
  by_cases divides : Divides context
  · rcases calculateScore_spec event divides with ⟨others, -, isScore⟩
    rcases isScore first confidences with ⟨-, -, isFirst⟩
    rcases isScore second otherConfidences with ⟨-, -, isSecond⟩
    rw [isFirst, isSecond]
    constructor
    · intro notLowered _
      have ordered := notLowered _ _ rfl rfl
      linarith
    · rintro ordered before after ⟨⟩ ⟨⟩
      have means := ordered divides
      linarith
  · refine iff_of_true ?_ fun divided => absurd divided divides
    intro before after isScore
    exact absurd isScore (calculateScore_ne_ok divides first before)

/--
A further flag, wherever it is put in, does not lower a score exactly when its
confidence is at least the weighted mean of the others, unless the scorer
raises.  Raising the confidence of a flag never lowers a score.
-/
theorem more_evidence (event : ScoredEvent) (context : ScoredContext)
    {before after : List (ScoredFlag Rat)} {flag : ScoredFlag Rat}
    (confidences : Confidences (before ++ flag :: after)) :
    (NotLowered (calculateScore event context (before ++ after))
          (calculateScore event context (before ++ flag :: after)) ↔
        (Divides context →
          meanConfidence (before ++ after) ≤ flag.confidenceOr)) ∧
      ∀ confidence, flag.confidenceOr ≤ confidence → confidence ≤ 1 →
        NotLowered
          (calculateScore event context (before ++ flag :: after))
          (calculateScore event context
            (before ++ { flag with confidence := some confidence } ::
              after)) := by
  have fewer : Confidences (before ++ after) := by
    intro other member
    apply confidences other
    simp only [List.mem_append, List.mem_cons] at member ⊢
    tauto
  have weigh := weight_pos (before ++ flag :: after)
  rw [List.map_append, List.map_cons] at weigh
  constructor
  · rw [notLowered_iff event context fewer confidences]
    apply imp_congr_right
    intro _
    by_cases nothing : before ++ after = []
    · rcases List.append_eq_nil_iff.mp nothing with ⟨rfl, rfl⟩
      have single : meanConfidence [flag] = flag.confidenceOr :=
        WeightedMean.mean_singleton (itemOf flag) (severity_pos flag).ne'
      rw [List.nil_append, List.nil_append, single]
    · rw [meanConfidence, meanConfidence, List.map_append, List.map_append,
        List.map_cons]
      apply WeightedMean.mean_le_insert_iff weigh
      rw [← List.map_append]
      simpa using nothing
  · intro confidence raised small
    have inRange := confidences flag (by simp)
    have raisedRange :
        Confidences
          (before ++ { flag with confidence := some confidence } ::
            after) := by
      intro other member
      rcases List.mem_append.mp member with isBefore | isLater
      · exact confidences other (List.mem_append_left _ isBefore)
      · rcases List.mem_cons.mp isLater with rfl | isAfter
        · exact ⟨inRange.1.trans raised, small⟩
        · exact confidences other (by simp [isAfter])
    rw [notLowered_iff event context confidences raisedRange]
    intro _
    rw [meanConfidence, meanConfidence, List.map_append, List.map_append,
      List.map_cons, List.map_cons]
    exact WeightedMean.mean_le_raise weigh raised

theorem more_evidence_sample :
    (NotLowered (calculateScore ⟨100, 10⟩ unknownUser ([] ++ [washTrade]))
          (calculateScore ⟨100, 10⟩ unknownUser
            ([] ++ velocityCheck :: [washTrade])) ↔
        (Divides unknownUser →
          meanConfidence ([] ++ [washTrade]) ≤
            velocityCheck.confidenceOr)) ∧
      ∀ confidence, velocityCheck.confidenceOr ≤ confidence →
        confidence ≤ 1 →
          NotLowered
            (calculateScore ⟨100, 10⟩ unknownUser
              ([] ++ velocityCheck :: [washTrade]))
            (calculateScore ⟨100, 10⟩ unknownUser
              ([] ++ { velocityCheck with confidence := some confidence } ::
                [washTrade])) :=
  more_evidence ⟨100, 10⟩ unknownUser confidences_twoFlags

/-- A check which found nothing lowers the score of a wash trade. -/
theorem more_evidence_fails :
    ¬ ∀ (event : ScoredEvent) (context : ScoredContext)
        (anomalyFlags : List (ScoredFlag Rat)) (flag : ScoredFlag Rat),
        Confidences (flag :: anomalyFlags) →
          NotLowered (calculateScore event context anomalyFlags)
            (calculateScore event context (flag :: anomalyFlags)) := by
  intro notLowered
  have ordered :=
    notLowered ⟨100, 10⟩ unknownUser [washTrade] velocityCheck
      confidences_twoFlags (39 / 100) (357 / 1100) (by decide +kernel)
      (by decide +kernel)
  norm_num at ordered

end AeroRisk.Guardrail.Agent3.RiskScorer
