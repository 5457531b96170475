import AeroRisk.Event

/-!
# The checksum of an incident report

`compute_checksum` hashes some of the fields of a report.  Two reports which
agree in these have one checksum, whatever their other fields are.

The members of a `dict` are listed by their names, so that equal ones are
equal here.
-/

namespace AeroRisk.Guardrail.Models

open AeroRisk.Event

/-- `IncidentSeverity`. -/
inductive IncidentSeverity where
  | low
  | medium
  | high
  | critical
deriving DecidableEq, Repr

/-- `IncidentStatus`. -/
inductive IncidentStatus where
  | open_
  | underReview
  | resolved
  | escalated
deriving DecidableEq, Repr

/-- `IncidentType`. -/
inductive IncidentType where
  | fraudSuspected
  | sanctionsViolation
  | marketManipulation
  | complianceBreach
  | velocityViolation
  | washTrade
  | spoofing
deriving DecidableEq, Repr

def IncidentSeverity.value : IncidentSeverity → String
  | .low => "LOW"
  | .medium => "MEDIUM"
  | .high => "HIGH"
  | .critical => "CRITICAL"

def IncidentStatus.value : IncidentStatus → String
  | .open_ => "OPEN"
  | .underReview => "UNDER_REVIEW"
  | .resolved => "RESOLVED"
  | .escalated => "ESCALATED"

def IncidentType.value : IncidentType → String
  | .fraudSuspected => "FRAUD_SUSPECTED"
  | .sanctionsViolation => "SANCTIONS_VIOLATION"
  | .marketManipulation => "MARKET_MANIPULATION"
  | .complianceBreach => "COMPLIANCE_BREACH"
  | .velocityViolation => "VELOCITY_VIOLATION"
  | .washTrade => "WASH_TRADE"
  | .spoofing => "SPOOFING"

/--
A field of an enumeration.  With `use_enum_values` a validated one holds the
value, and a default the member itself, which is equal to its value.
-/
inductive EnumField (Member : Type) where
  | member (kind : Member)
  | text (content : String)
deriving DecidableEq, Repr

/-- `field.value if hasattr(field, "value") else field`. -/
def EnumField.valueBy {Member : Type} (value : Member → String) :
    EnumField Member → String
  | .member kind => value kind
  | .text content => content

/-- `IncidentReport`. -/
structure IncidentReport where
  incidentId : String
  incidentType : EnumField IncidentType
  severity : EnumField IncidentSeverity
  status : EnumField IncidentStatus
  accountId : String
  orderId : Option String
  tradeIds : List String
  detectedAt : Float
  description : String
  evidence : Members
  anomalyFindings : List Members
  complianceViolations : List String
  actionsTaken : List String
  circuitBreakerTriggered : Bool
  accountRestricted : Bool
  checksum : Option String

/-- `hashlib.sha256`, and `json.dumps` with `sort_keys=True`. -/
structure Hashing where
  sha256 : String → String
  dumps : Json → Except String String

namespace IncidentReport

/-- The dictionary which is hashed. -/
def checksumData (report : IncidentReport) : Json :=
  .object
    [ ("incident_id", .string report.incidentId),
      ("incident_type",
        .string (report.incidentType.valueBy IncidentType.value)),
      ("account_id", .string report.accountId),
      ("detected_at", .number report.detectedAt),
      ("evidence", .object report.evidence),
      ("actions_taken", .array (report.actionsTaken.map .string)) ]

/-- `compute_checksum`. -/
def computeChecksum (hashing : Hashing) (report : IncidentReport) :
    Except String String := do
  let jsonStr ← hashing.dumps report.checksumData
  pure (hashing.sha256 jsonStr)

/-- `finalize`. -/
def finalize (hashing : Hashing) (report : IncidentReport) :
    Except String IncidentReport := do
  let checksum ← report.computeChecksum hashing
  pure { report with checksum := some checksum }

/-- The fields which are hashed agree. -/
structure SameHashed (first second : IncidentReport) : Prop where
  incidentId : first.incidentId = second.incidentId
  incidentType :
    first.incidentType.valueBy IncidentType.value =
      second.incidentType.valueBy IncidentType.value
  accountId : first.accountId = second.accountId
  detectedAt : first.detectedAt = second.detectedAt
  evidence : first.evidence = second.evidence
  actionsTaken : first.actionsTaken = second.actionsTaken

/-- The other data of the incident agree. -/
structure SameUnhashed (first second : IncidentReport) : Prop where
  severity :
    first.severity.valueBy IncidentSeverity.value =
      second.severity.valueBy IncidentSeverity.value
  status :
    first.status.valueBy IncidentStatus.value =
      second.status.valueBy IncidentStatus.value
  orderId : first.orderId = second.orderId
  tradeIds : first.tradeIds = second.tradeIds
  description : first.description = second.description
  anomalyFindings : first.anomalyFindings = second.anomalyFindings
  complianceViolations :
    first.complianceViolations = second.complianceViolations
  circuitBreakerTriggered :
    first.circuitBreakerTriggered = second.circuitBreakerTriggered
  accountRestricted : first.accountRestricted = second.accountRestricted

/-- All data of the incident agree. -/
structure SameIncident (first second : IncidentReport) : Prop extends
    SameHashed first second, SameUnhashed first second

/-- The two functions are injective on the data of two reports. -/
structure InjectiveOn (hashing : Hashing) (first second : IncidentReport) :
    Prop where
  dumps :
    ∀ jsonStr,
      hashing.dumps first.checksumData = .ok jsonStr →
        hashing.dumps second.checksumData = .ok jsonStr →
          first.checksumData = second.checksumData
  sha256 :
    ∀ firstStr secondStr,
      hashing.dumps first.checksumData = .ok firstStr →
        hashing.dumps second.checksumData = .ok secondStr →
          hashing.sha256 firstStr = hashing.sha256 secondStr →
            firstStr = secondStr

variable {hashing : Hashing} {first second : IncidentReport}

theorem checksumData_eq_iff :
    first.checksumData = second.checksumData ↔ SameHashed first second := by
  have strings :
      first.actionsTaken.map Json.string =
          second.actionsTaken.map Json.string ↔
        first.actionsTaken = second.actionsTaken :=
    List.map_inj_right fun _ _ => Json.string.inj
  constructor
  · intro same
    simp only [checksumData, Json.object.injEq, List.cons.injEq,
      Prod.mk.injEq, true_and, and_true, Json.string.injEq,
      Json.number.injEq, Json.array.injEq, strings] at same
    rcases same with ⟨id, type, account, detected, evidence, actions⟩
    exact ⟨id, type, account, detected, evidence, actions⟩
  · rintro ⟨id, type, account, detected, evidence, actions⟩
    rw [checksumData, checksumData, id, type, account, detected, evidence,
      actions]

/-- A checksum is that of the text of the hashed data. -/
theorem computeChecksum_eq_ok_iff {report : IncidentReport}
    {checksum : String} :
    report.computeChecksum hashing = .ok checksum ↔
      ∃ jsonStr,
        hashing.dumps report.checksumData = .ok jsonStr ∧
          hashing.sha256 jsonStr = checksum := by
  rw [computeChecksum]
  cases hashing.dumps report.checksumData with
  | error error => exact iff_of_false (by rintro ⟨⟩) (by simp)
  | ok jsonStr => simp [bind, Except.bind, pure, Except.pure]

/-- Equal checksums mean equal hashed fields, and nothing more. -/
theorem checksum_eq_iff (injective : InjectiveOn hashing first second)
    {firstChecksum secondChecksum : String}
    (hasFirst : first.computeChecksum hashing = .ok firstChecksum)
    (hasSecond : second.computeChecksum hashing = .ok secondChecksum) :
    firstChecksum = secondChecksum ↔ SameHashed first second := by
  rcases computeChecksum_eq_ok_iff.mp hasFirst with
    ⟨firstStr, firstDumped, rfl⟩
  rcases computeChecksum_eq_ok_iff.mp hasSecond with
    ⟨secondStr, secondDumped, rfl⟩
  rw [← checksumData_eq_iff]
  constructor
  · intro same
    have sameStr :=
      injective.sha256 firstStr secondStr firstDumped secondDumped same
    subst sameStr
    exact injective.dumps firstStr firstDumped secondDumped
  · intro same
    rw [same, secondDumped] at firstDumped
    cases firstDumped
    rfl

/--
Two reports whose checksums are equal agree in all data of the incident if and
only if they differ in a hashed field or agree in all others.
-/
theorem checksum_covers_iff (injective : InjectiveOn hashing first second)
    {firstChecksum secondChecksum : String}
    (hasFirst : first.computeChecksum hashing = .ok firstChecksum)
    (hasSecond : second.computeChecksum hashing = .ok secondChecksum) :
    (firstChecksum = secondChecksum → SameIncident first second) ↔
      (SameHashed first second → SameUnhashed first second) := by
  rw [checksum_eq_iff injective hasFirst hasSecond]
  constructor
  · exact fun covers hashed => (covers hashed).toSameUnhashed
  · exact fun agrees hashed => ⟨hashed, agrees hashed⟩

/-- A report of a wash trade. -/
def washTradeReport : IncidentReport where
  incidentId := "INC-acc-123-1700000000"
  incidentType := .text "WASH_TRADE"
  severity := .text "CRITICAL"
  status := .text "OPEN"
  accountId := "acc-123"
  orderId := none
  tradeIds := ["t-1", "t-2"]
  detectedAt := 1700000000.0
  description := "Automated detection: wash trade"
  evidence := []
  anomalyFindings := [[("anomaly_type", .string "wash_trade")]]
  complianceViolations := []
  actionsTaken := ["Circuit breaker triggered"]
  circuitBreakerTriggered := true
  accountRestricted := true
  checksum := none

/-- The report after somebody lowered its severity and lifted the block. -/
def tamperedReport : IncidentReport :=
  { washTradeReport with
    severity := .text "LOW"
    accountRestricted := false }

/-- The text and the digest of the hashed data of both reports. -/
def washTradeHashing : Hashing where
  dumps := fun _ =>
    .ok
      ("\x7b\"account_id\": \"acc-123\", " ++
        "\"actions_taken\": [\"Circuit breaker triggered\"], " ++
        "\"detected_at\": 1700000000.0, \"evidence\": \x7b\x7d, " ++
        "\"incident_id\": \"INC-acc-123-1700000000\", " ++
        "\"incident_type\": \"WASH_TRADE\"\x7d")
  sha256 := fun _ =>
    "1225d15c8e42cd5bef585bafe21e5c7c8db45470155a9b35298a56f9486dec12"

theorem injectiveOn_tampered :
    InjectiveOn washTradeHashing washTradeReport tamperedReport where
  dumps := fun _ _ _ => rfl
  sha256 := by
    intro firstStr secondStr firstDumped secondDumped _
    cases firstDumped
    cases secondDumped
    rfl

theorem checksum_covers_iff_sample :
    ("1225d15c8e42cd5bef585bafe21e5c7c8db45470155a9b35298a56f9486dec12" =
          "1225d15c8e42cd5bef585bafe21e5c7c8db45470155a9b35298a56f9486dec12" →
        SameIncident washTradeReport tamperedReport) ↔
      (SameHashed washTradeReport tamperedReport →
        SameUnhashed washTradeReport tamperedReport) :=
  checksum_covers_iff injectiveOn_tampered rfl rfl

/-- The tampered report has the checksum of the original one. -/
theorem checksum_covers_fails :
    ¬ ∀ (hashing : Hashing) (first second : IncidentReport)
        (firstChecksum secondChecksum : String),
        InjectiveOn hashing first second →
          first.computeChecksum hashing = .ok firstChecksum →
            second.computeChecksum hashing = .ok secondChecksum →
              firstChecksum = secondChecksum → SameIncident first second := by
  intro covers
  have same :=
    covers washTradeHashing washTradeReport tamperedReport _ _
      injectiveOn_tampered rfl rfl rfl
  exact absurd same.accountRestricted (by decide)

end IncidentReport

end AeroRisk.Guardrail.Models
