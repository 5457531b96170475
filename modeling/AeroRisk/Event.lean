/-!
# The events of the engine

`KafkaPublisher` marshals an event to a JSON object whose names are given by
the struct tags.  A name with `omitempty` is left out when its string is
empty.
-/

namespace AeroRisk

/-- A JSON value.  The names of an object are distinct. -/
inductive Json where
  | null
  | bool (value : Bool)
  | integer (value : Int)
  | number (value : Float)
  | string (value : String)
  | array (elements : List Json)
  | object (members : List (String × Json))

namespace Event

/-- The members of a JSON object. -/
abbrev Members := List (String × Json)

/-- `OrderEvent`. -/
structure OrderEvent where
  orderID : String
  accountID : String
  symbol : String
  side : String
  price : Int64
  quantity : Int64
  timestamp : Int64
deriving DecidableEq, Repr

/-- `TradeEvent`. -/
structure TradeEvent where
  tradeID : String
  orderID : String
  matchID : String
  symbol : String
  price : Int64
  quantity : Int64
  buyerID : String
  sellerID : String
  timestamp : Int64
deriving DecidableEq, Repr

/-- `RiskEvent`. -/
structure RiskEvent where
  eventID : String
  accountID : String
  orderID : String
  decision : String
  riskScore : Float
  reason : String
  circuitBreak : Bool
  timestamp : Int64

/-- `AuditEvent`. -/
structure AuditEvent where
  eventID : String
  userID : String
  action : String
  resource : String
  details : String
  timestamp : Int64
deriving DecidableEq, Repr

/-- A member of an `int64`. -/
def int64 (name : String) (value : Int64) : String × Json :=
  (name, .integer value.toInt)

/-- A member with `omitempty`. -/
def omitEmpty (name value : String) : Members :=
  if value = "" then [] else [(name, .string value)]

/-- `json.Marshal` of an `OrderEvent`. -/
def OrderEvent.marshal (e : OrderEvent) : Members :=
  [ ("order_id", .string e.orderID),
    ("account_id", .string e.accountID),
    ("symbol", .string e.symbol),
    ("side", .string e.side),
    int64 "price" e.price,
    int64 "quantity" e.quantity,
    int64 "timestamp" e.timestamp ]

/-- `json.Marshal` of a `TradeEvent`. -/
def TradeEvent.marshal (e : TradeEvent) : Members :=
  [ ("trade_id", .string e.tradeID),
    ("order_id", .string e.orderID),
    ("match_id", .string e.matchID),
    ("symbol", .string e.symbol),
    int64 "price" e.price,
    int64 "quantity" e.quantity,
    ("buyer_id", .string e.buyerID),
    ("seller_id", .string e.sellerID),
    int64 "timestamp" e.timestamp ]

/-- `json.Marshal` of a `RiskEvent`, which needs a finite score. -/
def RiskEvent.marshal (e : RiskEvent) : Except String Members :=
  if e.riskScore.isFinite then
    .ok
      ([ ("event_id", .string e.eventID),
         ("account_id", .string e.accountID) ] ++
        omitEmpty "order_id" e.orderID ++
        [ ("decision", .string e.decision),
          ("risk_score", .number e.riskScore),
          ("reason", .string e.reason),
          ("circuit_break", .bool e.circuitBreak),
          int64 "timestamp" e.timestamp ])
  else
    .error "json: unsupported value"

/-- `json.Marshal` of an `AuditEvent`. -/
def AuditEvent.marshal (e : AuditEvent) : Members :=
  [ ("event_id", .string e.eventID),
    ("user_id", .string e.userID),
    ("action", .string e.action),
    ("resource", .string e.resource) ] ++
    omitEmpty "details" e.details ++
    [int64 "timestamp" e.timestamp]

end Event

end AeroRisk
