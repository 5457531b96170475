/-!
# Events and results of the anomaly detectors

Integers are exact.  The floats and what Python computes with them are a
parameter: the detectors only combine the operations of `PyFloat`.
-/

namespace AeroRisk.Guardrail.Agent1

/--
The floats of Python.  Operations on integers raise an exception when their
result is too large, and every division raises one when it divides by zero.
-/
class PyFloat (F : Type) extends
    Sub F, Mul F, BEq F, LT F, LE F, OfScientific F where
  decidableLT : DecidableLT F
  decidableLE : DecidableLE F
  /-- `value / divisor`. -/
  divide : F → F → Except String F
  /-- `numerator / denominator`, for integers. -/
  trueDivide : Int → Int → Except String F
  /-- The conversion of an integer operand. -/
  toFloat : Int → Except String F
  /-- `round(value, digits)`. -/
  round : F → Nat → F

attribute [reducible, instance] PyFloat.decidableLT PyFloat.decidableLE

variable {F : Type} [PyFloat F]

/-- `OrderSide`. -/
inductive OrderSide where
  | buy
  | sell
deriving DecidableEq, Repr

/-- `OrderAction`. -/
inductive OrderAction where
  | submit
  | cancel
  | fill
  | modify
deriving DecidableEq, Repr

/-- `OrderEvent`, with the fields which the detectors read. -/
structure OrderEvent (F : Type) where
  orderID : String
  accountID : String
  symbol : String
  side : OrderSide
  action : OrderAction
  price : Int
  quantity : Int
  timestamp : F
deriving DecidableEq, Repr

/-- `AnomalyType`, as far as the detectors below report it. -/
inductive AnomalyType where
  | velocityViolation
  | vwapDeviation
  | washTrade
  | spoofing
deriving DecidableEq, Repr

/-- A value among the details of a result. -/
inductive Detail (F : Type) where
  | string (value : String)
  | integer (value : Int)
  | number (value : F)
deriving DecidableEq, Repr

/-- `AnomalyResult`. -/
structure AnomalyResult (F : Type) where
  anomalyType : AnomalyType
  isAnomalous : Bool
  severityScore : F
  confidence : F
  details : List (String × Detail F)
  recommendation : String
deriving DecidableEq, Repr

/-- A result which reports nothing. -/
def unremarkable (anomalyType : AnomalyType)
    (details : List (String × Detail F)) : AnomalyResult F where
  anomalyType := anomalyType
  isAnomalous := false
  severityScore := 0.0
  confidence := 0.0
  details := details
  recommendation := "ALLOW"

/-- `min(1.0, value)`. -/
def atMostOne (value : F) : F :=
  if value < 1.0 then value else 1.0

/-- The constructor of `AnomalyResult`, for a severity which was computed. -/
def AnomalyResult.checked (result : AnomalyResult F) :
    Except String (AnomalyResult F) :=
  if 0.0 ≤ result.severityScore ∧ result.severityScore ≤ 1.0 then
    .ok result
  else
    .error "severity_score should be from 0 to 1"

theorem AnomalyResult.eq_of_checked {computed result : AnomalyResult F}
    (checked : computed.checked = .ok result) : result = computed := by
  rw [AnomalyResult.checked] at checked
  split at checked
  · cases checked
    rfl
  · cases checked

/-- Floats without rounding: what small numbers are. -/
instance exactFloat : PyFloat Rat where
  decidableLT := inferInstance
  decidableLE := inferInstance
  divide value divisor :=
    if divisor = 0 then .error "float division by zero"
    else .ok (value / divisor)
  trueDivide numerator denominator :=
    if denominator = 0 then .error "division by zero"
    else .ok (numerator / denominator)
  toFloat value := .ok value
  round value digits :=
    (value * 10 ^ digits + 1 / 2).floor / 10 ^ digits

end AeroRisk.Guardrail.Agent1
