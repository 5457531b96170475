import AeroRisk.Event
import AeroRisk.Library.RecordSchema

/-!
# The event models of the guardrail

The guardrail validates the objects which it receives against four models.
How a value is coerced to the type of its field is a parameter; which fields
are required is given by the models.
-/

namespace AeroRisk.Guardrail

open AeroRisk.Library
open AeroRisk.Event

/-- The types of the fields. -/
inductive FieldType where
  | str
  | int
  | float
  /-- `float = Field(ge=low, le=high)`. -/
  | floatWithin (low high : Int)
  | bool
  | dict
  | listOfStr
  | enumeration (values : List String)
  | optional (type : FieldType)
deriving DecidableEq, Repr

/-- The fields of a model. -/
abbrev Model := List (SchemaField FieldType Json)

/-- `name: type`. -/
def required (name : String) (type : FieldType) :
    SchemaField FieldType Json where
  name := name
  type := type
  default := none

/-- `name: type = default`. -/
def defaulting (name : String) (type : FieldType) (default : Json) :
    SchemaField FieldType Json where
  name := name
  type := type
  default := some default

/-- `name: type | None = None`. -/
def optional (name : String) (type : FieldType) :
    SchemaField FieldType Json :=
  defaulting name (.optional type) .null

/-- `OrderSide`. -/
def orderSide : FieldType :=
  .enumeration ["BUY", "SELL"]

/-- `OrderAction`. -/
def orderAction : FieldType :=
  .enumeration ["SUBMIT", "CANCEL", "FILL", "MODIFY"]

/-- `EventType`. -/
def eventType : FieldType :=
  .enumeration
    ["ORDER", "TRADE", "RISK_DECISION", "CIRCUIT_BREAKER", "AUDIT"]

/-- `OrderEvent`. -/
def orderEvent : Model :=
  [ required "order_id" .str,
    required "account_id" .str,
    required "symbol" .str,
    required "side" orderSide,
    required "action" orderAction,
    required "price" .int,
    required "quantity" .int,
    required "timestamp" .float,
    optional "client_order_id" .str,
    optional "user_agent" .str,
    optional "ip_address" .str ]

/-- `TradeEvent`. -/
def tradeEvent : Model :=
  [ required "trade_id" .str,
    required "order_id" .str,
    required "counterparty_order_id" .str,
    required "symbol" .str,
    required "price" .int,
    required "quantity" .int,
    required "buyer_account_id" .str,
    required "seller_account_id" .str,
    required "timestamp" .float,
    required "aggressor_side" orderSide ]

/-- `RiskDecisionEvent`. -/
def riskDecisionEvent : Model :=
  [ required "decision_id" .str,
    optional "order_id" .str,
    required "account_id" .str,
    required "decision" .str,
    required "risk_score" .float,
    defaulting "reasons" .listOfStr (.array []),
    defaulting "sanctions_match" .bool (.bool false),
    defaulting "anomaly_flags" .listOfStr (.array []),
    required "timestamp" .float,
    defaulting "agent_version" .str (.string "v1.0.0") ]

/-- `AuditEvent`. -/
def auditEvent : Model :=
  [ required "audit_id" .str,
    required "event_type" eventType,
    required "entity_id" .str,
    required "action" .str,
    required "actor" .str,
    required "details" .dict,
    required "timestamp" .float,
    optional "checksum" .str ]

/-! ## What the engine does not send -/

theorem missing_orderEvent (e : OrderEvent) :
    RecordSchema.missing orderEvent e.marshal = ["action"] := by
  rfl

theorem missing_tradeEvent (e : TradeEvent) :
    RecordSchema.missing tradeEvent e.marshal =
      ["counterparty_order_id", "buyer_account_id", "seller_account_id",
        "aggressor_side"] := by
  rfl

/-- A `RiskEvent` is missing its identifier under the name of the model. -/
theorem missing_riskDecisionEvent
    (e : RiskEvent)
    (object : Members)
    (marshalled : e.marshal = .ok object) :
    RecordSchema.missing riskDecisionEvent object = ["decision_id"] := by
  rw [RiskEvent.marshal] at marshalled
  split at marshalled
  case isFalse => cases marshalled
  case isTrue =>
    cases marshalled
    by_cases noOrder : e.orderID = ""
    · rw [omitEmpty, if_pos noOrder]
      rfl
    · rw [omitEmpty, if_neg noOrder]
      rfl

/-- An `AuditEvent` without details is missing them as well. -/
theorem missing_auditEvent (e : AuditEvent) :
    RecordSchema.missing auditEvent e.marshal =
      ["audit_id", "event_type", "entity_id", "actor"] ++
        (if e.details = "" then ["details"] else []) := by
  by_cases noDetails : e.details = ""
  · rw [AuditEvent.marshal, omitEmpty, if_pos noDetails,
      if_pos noDetails]
    rfl
  · rw [AuditEvent.marshal, omitEmpty, if_neg noDetails,
      if_neg noDetails]
    rfl

/-! ## Decoding -/

/--
The encoded object is accepted by the model, and the fields of the record
which stand for the expected members have their values.
-/
def Decodes
    (coerce : FieldType → Json → Option Json)
    (model : Model)
    (encoded : Except String Members)
    (expected : Members) : Prop :=
  ∃ object record,
    encoded = .ok object ∧
    RecordSchema.validate coerce model object = .ok record ∧
    ∀ member ∈ expected, record.lookup member.1 = some member.2

/-- The account, the order, the symbol, the price and the quantity. -/
def OrderDecodes
    (coerce : FieldType → Json → Option Json)
    (e : OrderEvent) : Prop :=
  Decodes coerce orderEvent (.ok e.marshal)
    [ ("account_id", .string e.accountID),
      ("order_id", .string e.orderID),
      ("symbol", .string e.symbol),
      int64 "price" e.price,
      int64 "quantity" e.quantity ]

/-- The parties, the order, the symbol, the price and the quantity. -/
def TradeDecodes
    (coerce : FieldType → Json → Option Json)
    (e : TradeEvent) : Prop :=
  Decodes coerce tradeEvent (.ok e.marshal)
    [ ("buyer_account_id", .string e.buyerID),
      ("seller_account_id", .string e.sellerID),
      ("order_id", .string e.orderID),
      ("symbol", .string e.symbol),
      int64 "price" e.price,
      int64 "quantity" e.quantity ]

/-- The account and, where there is one, the order. -/
def RiskDecodes
    (coerce : FieldType → Json → Option Json)
    (e : RiskEvent) : Prop :=
  Decodes coerce riskDecisionEvent e.marshal
    (("account_id", .string e.accountID) ::
      omitEmpty "order_id" e.orderID)

/-- The party. -/
def AuditDecodes
    (coerce : FieldType → Json → Option Json)
    (e : AuditEvent) : Prop :=
  Decodes coerce auditEvent (.ok e.marshal)
    [("actor", .string e.userID)]

/-- An object with a missing field does not decode. -/
theorem not_decodes_of_missing
    {coerce : FieldType → Json → Option Json}
    {model : Model}
    {encoded : Except String Members}
    {expected : Members}
    (name : String)
    (isMissing :
      ∀ object, encoded = .ok object →
        name ∈ RecordSchema.missing model object) :
    ¬ Decodes coerce model encoded expected := by
  rintro ⟨object, record, isEncoded, accepted, -⟩
  exact RecordSchema.validate_ne_ok_of_missing coerce model object
    (isMissing object isEncoded) record accepted

/-- No event of the engine decodes in the guardrail. -/
theorem events_never_decode
    (coerce : FieldType → Json → Option Json) :
    (∀ e : OrderEvent, ¬ OrderDecodes coerce e) ∧
    (∀ e : TradeEvent, ¬ TradeDecodes coerce e) ∧
    (∀ e : RiskEvent, ¬ RiskDecodes coerce e) ∧
    ∀ e : AuditEvent, ¬ AuditDecodes coerce e := by
  refine ⟨fun e => ?order, fun e => ?trade, fun e => ?risk,
    fun e => ?audit⟩
  case order =>
    apply not_decodes_of_missing "action"
    rintro object ⟨⟩
    rw [missing_orderEvent]
    exact List.mem_singleton_self _
  case trade =>
    apply not_decodes_of_missing "buyer_account_id"
    rintro object ⟨⟩
    rw [missing_tradeEvent]
    decide
  case risk =>
    apply not_decodes_of_missing "decision_id"
    intro object marshalled
    rw [missing_riskDecisionEvent e object marshalled]
    exact List.mem_singleton_self _
  case audit =>
    apply not_decodes_of_missing "audit_id"
    rintro object ⟨⟩
    rw [missing_auditEvent]
    exact List.mem_append_left _ List.mem_cons_self

/-- Not even when every value is coerced as it is. -/
theorem limit_order_does_not_decode :
    ¬ ((∀ e : OrderEvent,
          e.side = "BUY" ∨ e.side = "SELL" →
            OrderDecodes (fun _ value => some value) e) ∧
        (∀ e : TradeEvent, TradeDecodes (fun _ value => some value) e) ∧
        (∀ e : RiskEvent, RiskDecodes (fun _ value => some value) e) ∧
        ∀ e : AuditEvent,
          AuditDecodes (fun _ value => some value) e) := by
  rintro ⟨ordersDecode, -⟩
  refine not_decodes_of_missing "action" ?_
    (ordersDecode
      { orderID := "1"
        accountID := "A"
        symbol := "AAPL"
        side := "BUY"
        price := 1
        quantity := 1
        timestamp := 0 }
      (Or.inl rfl))
  rintro object ⟨⟩
  rw [missing_orderEvent]
  exact List.mem_singleton_self _

end AeroRisk.Guardrail
