import AeroRisk.Guardrail.IncidentReport
import AeroRisk.Library.FallibleFilter
import AeroRisk.Library.Upserts
import Mathlib.Data.Rat.Defs

/-!
# Incidents which overwrite each other

The identifier of an incident is made of the account and the time in whole
seconds, and the table of incidents has one row for each identifier.  This
module finds the decisions whose incidents all keep a row of their own.
-/

namespace AeroRisk.Guardrail.Models

open AeroRisk.Event
open AeroRisk.Library
open AeroRisk.Library.Upserts

/-- What is read of a risk decision. -/
structure RiskDecision where
  accountId : String
  orderId : Option String
  decision : String
  riskScore : Float
  reasons : List String
  sanctionsMatch : Bool
  circuitBreakerTrigger : Bool
  /-- `model_dump()`, if there is such a method. -/
  modelDump : Option Members

/--
The two readings of `time.time()`.  The first one is only truncated, and is
kept as the number it is.
-/
structure Readings where
  first : Rat
  second : Float

/-- A decision, its findings, and the times of its report. -/
structure Detection where
  riskDecision : RiskDecision
  anomalyFindings : List Members
  time : Readings

/-- `int(seconds)`: it drops the fraction. -/
def truncate (seconds : Rat) : Int :=
  seconds.num.tdiv seconds.den

/-- `f.get("anomaly_type") == name`. -/
def hasAnomalyType (name : String) (finding : Members) : Bool :=
  match finding.lookup "anomaly_type" with
  | some (.string found) => found = name
  | _ => false

/-- The type of the incident. -/
def incidentTypeOf (riskDecision : RiskDecision)
    (anomalyFindings : List Members) : IncidentType :=
  if riskDecision.sanctionsMatch then
    .sanctionsViolation
  else if anomalyFindings.any (hasAnomalyType "wash_trade") then
    .washTrade
  else if anomalyFindings.any (hasAnomalyType "spoofing") then
    .spoofing
  else
    .fraudSuspected

/-- The severity of the incident. -/
def severityOf (riskDecision : RiskDecision) : IncidentSeverity :=
  if riskDecision.sanctionsMatch ∨ riskDecision.riskScore > 0.8 then
    .critical
  else if riskDecision.riskScore > 0.5 then
    .high
  else
    .medium

/-- `f"INC-{account_id}-{seconds}"`. -/
def incidentIdOf (accountId : String) (seconds : Int) : String :=
  "INC-" ++ accountId ++ "-" ++ toString seconds

/-- `create_from_risk_decision`. -/
def createFromRiskDecision (hashing : Hashing) (detection : Detection) :
    Except String IncidentReport :=
  let riskDecision := detection.riskDecision
  IncidentReport.finalize hashing
    { incidentId :=
        incidentIdOf riskDecision.accountId (truncate detection.time.first)
      incidentType :=
        .text (incidentTypeOf riskDecision detection.anomalyFindings).value
      severity := .text (severityOf riskDecision).value
      status := .text IncidentStatus.open_.value
      accountId := riskDecision.accountId
      orderId := riskDecision.orderId
      tradeIds := []
      detectedAt := detection.time.second
      description :=
        "Automated detection: " ++ ", ".intercalate riskDecision.reasons
      evidence := riskDecision.modelDump.getD []
      anomalyFindings := detection.anomalyFindings
      complianceViolations := []
      actionsTaken :=
        if riskDecision.circuitBreakerTrigger then
          ["Circuit breaker triggered"]
        else
          []
      circuitBreakerTriggered := riskDecision.circuitBreakerTrigger
      accountRestricted := riskDecision.decision = "BLOCK"
      checksum := none }

/-- A row: the account of its first report, and the details of its last one. -/
structure IncidentRow where
  accountId : String
  details : IncidentReport

/-- `INSERT … ON CONFLICT (incident_id) DO UPDATE`, which keeps the account. -/
def incidentUpsert : Upsert String IncidentRow IncidentReport where
  key := IncidentReport.incidentId
  row := fun report => { accountId := report.accountId, details := report }
  replace := fun row report => { row with details := report }

/--
The table after the statements which `save_incident_report` would execute for
some reports, by the conflict rule alone.  The call itself reads attributes which
these reports do not have; `IncidentStore` models it with the reports it can
read.
-/
def savedReports (reports : List IncidentReport) :
    AList fun _ : String => IncidentRow :=
  incidentUpsert.all reports

/-- Every report has a row of its own. -/
structure OneRowEach (reports : List IncidentReport) : Prop where
  count : (savedReports reports).keys.length = reports.length
  rows :
    ∀ report ∈ reports,
      (savedReports reports).lookup report.incidentId =
        some { accountId := report.accountId, details := report }

/-- The rows are separate exactly when the identifiers are. -/
theorem oneRowEach_iff (reports : List IncidentReport) :
    OneRowEach reports ↔
      (reports.map IncidentReport.incidentId).Nodup := by
  constructor
  · intro each
    exact (length_keys_all_eq_iff incidentUpsert reports).mp each.count
  · intro distinct
    exact
      { count :=
          (length_keys_all_eq_iff incidentUpsert reports).mpr distinct
        rows := fun _ member =>
          lookup_all_of_nodup incidentUpsert distinct member }

/-! ## When identifiers are equal -/

/--
What the identifier tells of an incident.  The sign of a time before 1970 ends
up with the account.
-/
def identity (accountId : String) (seconds : Int) : String × Nat :=
  (if 0 ≤ seconds then accountId else accountId ++ "-", seconds.natAbs)

theorem dash_notMem_repr (number : Nat) : '-' ∉ number.repr.toList := by
  rw [Nat.toList_repr]
  intro member
  have digit :=
    Nat.isDigit_of_mem_toDigits (by decide) (by decide) member
  exact absurd digit (by decide)

theorem repr_injective : Function.Injective Nat.repr := by
  intro first second same
  have digits := congrArg String.toList same
  rw [Nat.toList_repr, Nat.toList_repr] at digits
  have numbers := congrArg (fun letters => Nat.ofDigitChars 10 letters 0) digits
  simpa only [Nat.ofDigitChars_toDigits (show 1 < 10 by decide)
    (show 10 ≤ 10 by decide)] using numbers

theorem incidentIdOf_eq (accountId : String) (seconds : Int) :
    incidentIdOf accountId seconds =
      "INC-" ++ (identity accountId seconds).1 ++ "-" ++
        (identity accountId seconds).2.repr := by
  rw [incidentIdOf, identity, Int.toString_eq_repr, Int.repr_eq_if]
  by_cases nonneg : 0 ≤ seconds
  · have same : seconds.toNat = seconds.natAbs := by omega
    rw [if_pos nonneg, if_pos nonneg, same]
  · have same : (-seconds).toNat = seconds.natAbs := by omega
    rw [if_neg nonneg, if_neg nonneg, same]
    apply String.toList_inj.mp
    simp [String.toList_append]

/-- Two lists with a last separator are equal when their parts are. -/
theorem append_separator_inj {Letter : Type} {separator : Letter}
    {front back otherFront otherBack : List Letter}
    (notBack : separator ∉ back) (notOther : separator ∉ otherBack) :
    front ++ separator :: back = otherFront ++ separator :: otherBack ↔
      front = otherFront ∧ back = otherBack := by
  constructor
  · intro same
    rcases List.append_eq_append_iff.mp same with
      ⟨middle, rfl, ends⟩ | ⟨middle, rfl, ends⟩
    · cases middle with
      | nil =>
          rw [List.nil_append, List.cons.injEq] at ends
          exact ⟨(List.append_nil front).symm, ends.2⟩
      | cons letter rest =>
          rw [List.cons_append, List.cons.injEq] at ends
          exact absurd (by rw [ends.2]; simp) notBack
    · cases middle with
      | nil =>
          rw [List.nil_append, List.cons.injEq] at ends
          exact ⟨List.append_nil otherFront, ends.2.symm⟩
      | cons letter rest =>
          rw [List.cons_append, List.cons.injEq] at ends
          exact absurd (by rw [ends.2]; simp) notOther
  · rintro ⟨rfl, rfl⟩
    rfl

/-- Two incidents have one identifier when they have one identity. -/
theorem incidentIdOf_eq_iff {account other : String} {seconds time : Int} :
    incidentIdOf account seconds = incidentIdOf other time ↔
      identity account seconds = identity other time := by
  rw [incidentIdOf_eq, incidentIdOf_eq, Prod.ext_iff, ← String.toList_inj]
  have split :=
    @append_separator_inj _ '-'
      ("INC-".toList ++ (identity account seconds).1.toList)
      (identity account seconds).2.repr.toList
      ("INC-".toList ++ (identity other time).1.toList)
      (identity other time).2.repr.toList
      (dash_notMem_repr _) (dash_notMem_repr _)
  rw [List.append_cancel_left_eq, String.toList_inj, String.toList_inj,
    repr_injective.eq_iff] at split
  rw [← split]
  simp [String.toList_append]

/-- The identity of the incident of a detection. -/
def Detection.identity (detection : Detection) : String × Nat :=
  Models.identity detection.riskDecision.accountId
    (truncate detection.time.first)

theorem incidentId_of_created {hashing : Hashing} {detection : Detection}
    {report : IncidentReport}
    (created : createFromRiskDecision hashing detection = .ok report) :
    report.incidentId =
      incidentIdOf detection.riskDecision.accountId
        (truncate detection.time.first) := by
  rw [createFromRiskDecision, IncidentReport.finalize] at created
  dsimp only [bind, Except.bind] at created
  split at created
  · cases created
  · cases created
    rfl

/-- The reports of some detections have their identifiers. -/
theorem incidentIds_of_created {hashing : Hashing}
    {detections : List Detection} {reports : List IncidentReport}
    (created :
      detections.mapM (createFromRiskDecision hashing) = .ok reports) :
    reports.map IncidentReport.incidentId =
      detections.map fun detection =>
        incidentIdOf detection.riskDecision.accountId
          (truncate detection.time.first) := by
  have related := FallibleFilter.forall₂_of_mapM created
  clear created
  induction related with
  | nil => rfl
  | cons created _ inductionHypothesis =>
      rw [List.map_cons, List.map_cons, incidentId_of_created created,
        inductionHypothesis]

/--
For every sequence of decisions which are turned into reports and saved, at
any times, every report has a row of its own if and only if no two of the
decisions have the same account and the same whole second.
-/
theorem incidents_separate_iff {hashing : Hashing}
    {detections : List Detection} {reports : List IncidentReport}
    (created :
      detections.mapM (createFromRiskDecision hashing) = .ok reports) :
    OneRowEach reports ↔ (detections.map Detection.identity).Nodup := by
  rw [oneRowEach_iff, incidentIds_of_created created, List.Nodup,
    List.Nodup, List.pairwise_map, List.pairwise_map]
  simp only [ne_eq, incidentIdOf_eq_iff, Detection.identity]

/-- From 1970 on the identity is the account and the whole second. -/
theorem identity_eq_iff_of_nonneg {account other : String}
    {seconds time : Int} (nonneg : 0 ≤ seconds) (timeNonneg : 0 ≤ time) :
    identity account seconds = identity other time ↔
      account = other ∧ seconds = time := by
  rw [identity, identity, if_pos nonneg, if_pos timeNonneg, Prod.mk.injEq]
  refine and_congr_right fun _ => ?_
  omega

/-- A blocked order of an account. -/
def blockedOrder (accountId : String) : RiskDecision where
  accountId := accountId
  orderId := none
  decision := "BLOCK"
  riskScore := 0.9
  reasons := ["velocity"]
  sanctionsMatch := false
  circuitBreakerTrigger := true
  modelDump := none

/-- A number of quarters of a second. -/
def quarters (number : Int) : Rat :=
  mkRat number 4

def firstDetection : Detection where
  riskDecision := blockedOrder "acc-1"
  anomalyFindings := []
  time := { first := quarters 6800000001, second := 1700000000.25 }

/-- Half a second later, of another account. -/
def otherDetection : Detection where
  riskDecision := blockedOrder "acc-2"
  anomalyFindings := []
  time := { first := quarters 6800000003, second := 1700000000.75 }

/-- At the same time, of the same account, and for another reason. -/
def secondDetection : Detection :=
  { firstDetection with
    riskDecision := { blockedOrder "acc-1" with reasons := ["spoofing"] } }

/-- The text of the hashed data of an incident. -/
def blockedText (accountId detectedAt : String) : String :=
  "\x7b\"account_id\": \"" ++ accountId ++ "\", " ++
    "\"actions_taken\": [\"Circuit breaker triggered\"], " ++
    "\"detected_at\": " ++ detectedAt ++ ", \"evidence\": \x7b\x7d, " ++
    "\"incident_id\": \"INC-" ++ accountId ++ "-1700000000\", " ++
    "\"incident_type\": \"FRAUD_SUSPECTED\"\x7d"

/-- The texts and the digests of the data of the two accounts. -/
def blockedHashing : Hashing where
  dumps := fun data =>
    match data with
    | .object ((_, .string "INC-acc-1-1700000000") :: _) =>
        .ok (blockedText "acc-1" "1700000000.25")
    | .object ((_, .string "INC-acc-2-1700000000") :: _) =>
        .ok (blockedText "acc-2" "1700000000.75")
    | _ => .error "not known"
  sha256 := fun jsonStr =>
    if jsonStr = blockedText "acc-1" "1700000000.25" then
      "b89e673afd679894b4fd3bafa4d06b25770a2e9931ed44ea7f8acd08800d5ecb"
    else
      "274bfc863cd77d5f2a49c16663275fdb68e5683e200e5ea8625578c8b3f13126"

theorem incidents_separate_iff_sample :
    ∃ reports,
      [firstDetection, otherDetection].mapM
          (createFromRiskDecision blockedHashing) = .ok reports ∧
        (OneRowEach reports ↔
          ([firstDetection, otherDetection].map
            Detection.identity).Nodup) := by
  have created :
      ∃ reports,
        [firstDetection, otherDetection].mapM
          (createFromRiskDecision blockedHashing) = .ok reports :=
    ⟨_, rfl⟩
  rcases created with ⟨reports, created⟩
  exact ⟨reports, created, incidents_separate_iff created⟩

/-- The second incident of the account replaces the first one. -/
theorem incidents_separate_fails :
    ¬ ∀ (hashing : Hashing) (detections : List Detection)
        (reports : List IncidentReport),
        (detections.map fun detection => detection.time.first).Pairwise
            (· ≤ ·) →
          detections.mapM (createFromRiskDecision hashing) = .ok reports →
            OneRowEach reports := by
  intro separate
  have created :
      ∃ reports,
        [firstDetection, secondDetection].mapM
          (createFromRiskDecision blockedHashing) = .ok reports :=
    ⟨_, rfl⟩
  rcases created with ⟨reports, created⟩
  have each :=
    separate blockedHashing [firstDetection, secondDetection] reports
      (by decide +kernel) created
  rw [oneRowEach_iff, incidentIds_of_created created] at each
  exact absurd each (by decide +kernel)

end AeroRisk.Guardrail.Models
