import Pmrp.Lib.DecimalSpan
import Pmrp.Schemas.Parsing

/-!
# `Adapters.PolymarketRawModels` — raw market messages of Polymarket

`PolymarketRawOrderBookSnapshot`, `PolymarketRawPriceChangeMessage` and `PolymarketRawTrade` of
`adapters/polymarket/raw_models.py`, with their `from_exchange_payload` on decoded JSON objects. A raw model carries
what its validators check.
-/

namespace Pmrp
namespace Polymarket

/-- `Decimal(text)` where it is finite, and `int(text)`; none where they raise. -/
structure NumberParsers where
  decimal : String → Option Decimal
  integer : String → Option ℤ

variable (parsers : NumberParsers)

/-! ## Fields -/

/-- A text field: its length constraints, and no whitespace around it. -/
structure RawText (bound : ℕ) where
  text : String
  within : TextWithin bound text
  stripped : isStripped text = true
  deriving DecidableEq

def rawText (bound : ℕ) (fieldName : String) : JsonValue → Result (RawText bound)
  | .string text =>
      if hwithin : TextWithin bound text then
        if hstripped : isStripped text = true then .ok ⟨text, hwithin, hstripped⟩
        else .error (valueError s!"{fieldName} must be nonempty without surrounding whitespace")
      else .error (valueError s!"{fieldName}: String should have between 1 and {bound} characters")
  | _ => .error (valueError s!"{fieldName}: Input should be a valid string")

/-- A field that may be `None`. -/
def optional {α : Type} (field : JsonValue → Result α) : JsonValue → Result (Option α)
  | .null => .ok none
  | value => do pure (some (← field value))

/-- `parse_decimal`. -/
def parseDecimal (fieldName : String) : JsonValue → Result Decimal
  | .bool _ => .error ⟨.typeError, s!"{fieldName} does not accept bool input"⟩
  | .float _ => .error ⟨.typeError, s!"{fieldName} does not accept float input"⟩
  | .int value => .ok ⟨decide (value < 0), value.natAbs, 0⟩
  | .string text =>
      if text = "" ∨ isStripped text = false then
        .error (valueError s!"{fieldName} must be a decimal string without surrounding whitespace")
      else
        match parsers.decimal text with
        | none => .error (valueError s!"{fieldName} must be a valid decimal string")
        | some value => .ok value
  | _ => .error ⟨.typeError, s!"{fieldName} must be Decimal, int, or decimal string"⟩

/-- A decimal field with its constraints. -/
structure DecimalIn (P : ℚ → Prop) where
  decimal : Decimal
  holds : P decimal.value
  deriving DecidableEq

def DecimalIn.value {P : ℚ → Prop} (d : DecimalIn P) : ℚ := d.decimal.value

def decimalIn (P : ℚ → Prop) [DecidablePred P] (fieldName : String) (value : JsonValue) : Result (DecimalIn P) := do
  let decimal ← parseDecimal parsers fieldName value
  if h : P decimal.value then .ok ⟨decimal, h⟩
  else .error (valueError s!"{fieldName}: Input is out of bounds")

def IsUnit (q : ℚ) : Prop := 0 ≤ q ∧ q ≤ 1

def IsPositiveUnit (q : ℚ) : Prop := 0 < q ∧ q ≤ 1

instance : DecidablePred IsUnit := fun q => decidable_of_iff (0 ≤ q ∧ q ≤ 1) Iff.rfl

instance : DecidablePred IsPositiveUnit := fun q => decidable_of_iff (0 < q ∧ q ≤ 1) Iff.rfl

abbrev Probability := DecimalIn IsUnit
abbrev NonnegativeSize := DecimalIn fun q => 0 ≤ q
abbrev PositiveSize := DecimalIn fun q => 0 < q

/-- `Literal[...]`. -/
def literal {α : Type} (fieldName : String) (values : List (String × α)) : JsonValue → Result α
  | .string text =>
      match values.lookup text with
      | some value => .ok value
      | none => .error (valueError s!"{fieldName}: Input should be a literal of the field")
  | _ => .error (valueError s!"{fieldName}: Input should be a literal of the field")

def flag (fieldName : String) : JsonValue → Result Bool
  | .bool value => .ok value
  | _ => .error (valueError s!"{fieldName}: Input should be a valid boolean")

/-- `_parse_optional_nonnegative_int` of a value that is not `None`. -/
def nonnegativeInt (fieldName : String) (value : JsonValue) : Result ℕ := do
  let parsed ← match value with
    | .int value => .ok value
    | .string text =>
        if text = "" ∨ isStripped text = false then
          .error (valueError s!"{fieldName} must be nonempty without surrounding whitespace")
        else
          match parsers.integer text with
          | none => .error (valueError s!"{fieldName} must be an integer string")
          | some value => .ok value
    | .bool _ => .error ⟨.typeError, s!"{fieldName} must be an integer"⟩
    | _ => .error ⟨.typeError, s!"{fieldName} must be an integer or integer string"⟩
  raiseIf (parsed < 0) (valueError s!"{fieldName} must be nonnegative")
  pure parsed.toNat

/-- `_freeze_mapping`. -/
def freezeMapping (payload : JsonObject) (fieldName : String) : Result JsonObject := do
  raiseIf (JsonValue.freezableItems payload = false) (valueError s!"{fieldName} values must be canonical JSON")
  pure payload

/-! ## The message of a stream frame -/

/-- `_message_type`. -/
def messageType (payload : JsonObject) : JsonValue := payload.firstPresent ["event_type", "type"]

/-- `_market_stream_payload`. -/
def marketStreamPayload (payload : JsonObject) (expectedType fieldName : String) : Result JsonObject :=
  match payload.get "payload" with
  | .null => .ok payload
  | .object messagePayload =>
      match messageType payload with
      | .string text =>
          if text = expectedType then .ok messagePayload
          else .error (valueError s!"{fieldName} type must be {expectedType}")
      | _ => .error (valueError s!"{fieldName} type must be {expectedType}")
  | _ => .error (valueError s!"{fieldName} payload must be a JSON object")

def topicValues : List (String × Unit) := [("market", ())]

/-! ## Order books -/

structure PolymarketRawOrderBookLevel where
  price : Probability
  size : NonnegativeSize
  deriving DecidableEq

/-- `_order_book_level`: exactly the two fields. -/
def orderBookLevel : JsonValue → Result PolymarketRawOrderBookLevel
  | .object items => do
      let fieldName := "Polymarket order-book level decimal field"
      let price ← decimalIn parsers IsUnit fieldName (← JsonObject.required items ["price"] "price")
      let size ← decimalIn parsers (fun q => 0 ≤ q) fieldName (← JsonObject.required items ["size"] "size")
      raiseIf (∃ item ∈ items, item.1 ≠ "price" ∧ item.1 ≠ "size") (valueError "Extra inputs are not permitted")
      pure ⟨price, size⟩
  | _ => .error (valueError "Polymarket order-book levels must be JSON objects")

/-- `_order_book_levels` of an item, which is an empty array where it is missing. -/
def orderBookLevels (payload : JsonObject) (key : String) : Result (List PolymarketRawOrderBookLevel) :=
  match (payload.lookup key).getD (.array []) with
  | .array items => items.mapM (orderBookLevel parsers)
  | _ => .error (valueError "Polymarket order-book levels must be arrays")

inductive BookEventType
  | book
  deriving DecidableEq

structure PolymarketRawOrderBookSnapshot where
  topic : Option Unit
  eventType : Option BookEventType
  market : RawText 256
  assetId : RawText 256
  timestamp : Option (RawText 256)
  hash : Option (RawText 256)
  bids : List PolymarketRawOrderBookLevel
  asks : List PolymarketRawOrderBookLevel
  minOrderSize : Option PositiveSize
  tickSize : Option (DecimalIn IsPositiveUnit)
  negRisk : Option Bool
  lastTradePrice : Option Probability
  rawPayload : JsonObject

def bookEventTypes : List (String × BookEventType) := [("book", .book)]

/-- `PolymarketRawOrderBookSnapshot.from_exchange_payload`. -/
def PolymarketRawOrderBookSnapshot.fromExchangePayload (payload : JsonObject) :
    Result PolymarketRawOrderBookSnapshot := do
  let message ← marketStreamPayload payload "book" "Polymarket order-book payload"
  let market ← message.required ["market"] "Polymarket order-book market"
  let assetId ← message.required ["asset_id", "token_id", "tokenId"] "Polymarket order-book asset_id"
  let bids ← orderBookLevels parsers message "bids"
  let asks ← orderBookLevels parsers message "asks"
  let textField := "Polymarket order-book text field"
  let decimalField := "Polymarket order-book decimal field"
  pure {
    topic := ← optional (literal "topic" topicValues) (payload.get "topic")
    eventType := ← optional (literal "event_type" bookEventTypes) (messageType payload)
    market := ← rawText 256 textField market
    assetId := ← rawText 256 textField assetId
    timestamp := ← optional (rawText 256 textField) (message.get "timestamp")
    hash := ← optional (rawText 256 textField) (message.get "hash")
    bids
    asks
    minOrderSize := ← optional (decimalIn parsers (fun q => 0 < q) decimalField)
      (message.firstPresent ["min_order_size", "minOrderSize"])
    tickSize := ← optional (decimalIn parsers IsPositiveUnit decimalField)
      (message.firstPresent ["tick_size", "tickSize"])
    negRisk := ← optional (flag "neg_risk") (message.firstPresent ["neg_risk", "negRisk"])
    lastTradePrice := ← optional (decimalIn parsers IsUnit decimalField)
      (message.firstPresent ["last_trade_price", "lastTradePrice"])
    rawPayload := ← freezeMapping payload "polymarket order-book payload" }

/-! ## Price changes -/

inductive PolymarketOrderSide
  | buy
  | sell
  deriving DecidableEq

def orderSides : List (String × PolymarketOrderSide) := [("BUY", .buy), ("SELL", .sell)]

structure PolymarketRawPriceChange where
  assetId : RawText 256
  price : Probability
  size : NonnegativeSize
  side : PolymarketOrderSide
  hash : Option (RawText 256)
  bestBid : Option Probability
  bestAsk : Option Probability
  deriving DecidableEq

/-- `_price_change_from_payload`. -/
def priceChangeFromPayload : JsonValue → Result PolymarketRawPriceChange
  | .object payload => do
      let assetId ← JsonObject.required payload ["asset_id", "token_id", "tokenId"] "Polymarket price-change asset_id"
      let price ← JsonObject.required payload ["price"] "Polymarket price-change price"
      let size ← JsonObject.required payload ["size"] "Polymarket price-change size"
      let side ← JsonObject.required payload ["side"] "Polymarket price-change side"
      let textField := "Polymarket price-change text field"
      let decimalField := "Polymarket price-change decimal field"
      pure {
        assetId := ← rawText 256 textField assetId
        price := ← decimalIn parsers IsUnit decimalField price
        size := ← decimalIn parsers (fun q => 0 ≤ q) decimalField size
        side := ← literal "side" orderSides side
        hash := ← optional (rawText 256 textField) (JsonObject.get payload "hash")
        bestBid := ← optional (decimalIn parsers IsUnit decimalField)
          (JsonObject.firstPresent payload ["best_bid", "bestBid"])
        bestAsk := ← optional (decimalIn parsers IsUnit decimalField)
          (JsonObject.firstPresent payload ["best_ask", "bestAsk"]) }
  | _ => .error (valueError "Polymarket price_changes entries must be JSON objects")

inductive PriceChangeEventType
  | priceChange
  deriving DecidableEq

structure PolymarketRawPriceChangeMessage where
  topic : Option Unit
  eventType : PriceChangeEventType
  market : RawText 256
  timestamp : Option (RawText 256)
  priceChanges : List PolymarketRawPriceChange
  rawPayload : JsonObject
  priceChanges_ne_nil : priceChanges ≠ []

def priceChangeEventTypes : List (String × PriceChangeEventType) := [("price_change", .priceChange)]

/-- `PolymarketRawPriceChangeMessage.from_exchange_payload`. -/
def PolymarketRawPriceChangeMessage.fromExchangePayload (payload : JsonObject) :
    Result PolymarketRawPriceChangeMessage := do
  let message ← marketStreamPayload payload "price_change" "Polymarket price-change payload"
  match message.firstPresent ["price_changes", "priceChanges"] with
  | .array items => do
      let eventType ← payload.required ["event_type", "type"] "Polymarket price-change type"
      let market ← message.required ["market"] "Polymarket price-change market"
      let priceChanges ← items.mapM (priceChangeFromPayload parsers)
      let topic ← optional (literal "topic" topicValues) (payload.get "topic")
      let eventType ← literal "event_type" priceChangeEventTypes eventType
      let market ← rawText 256 "Polymarket price-change text field" market
      let timestamp ← optional (rawText 256 "Polymarket price-change text field") (message.get "timestamp")
      let rawPayload ← freezeMapping payload "polymarket price-change payload"
      if hne : priceChanges ≠ [] then
        pure { topic, eventType, market, timestamp, priceChanges, rawPayload, priceChanges_ne_nil := hne }
      else .error (valueError "Polymarket price-change messages must contain at least one change")
  | _ => .error (valueError "Polymarket price-change payload must contain price_changes array")

/-! ## Trades -/

inductive TradeEventType
  | lastTradePrice
  | trade
  deriving DecidableEq

def tradeEventTypes : List (String × TradeEventType) := [("last_trade_price", .lastTradePrice), ("trade", .trade)]

structure PolymarketRawTrade where
  topic : Option Unit
  eventType : Option TradeEventType
  tradeId : Option (RawText 256)
  market : RawText 256
  assetId : RawText 256
  side : PolymarketOrderSide
  price : Probability
  size : Option PositiveSize
  feeRateBps : Option ℕ
  timestamp : Option (RawText 256)
  status : Option (RawText 128)
  matchTime : Option (RawText 128)
  lastUpdate : Option (RawText 128)
  outcome : Option (RawText 128)
  bucketIndex : Option ℕ
  owner : Option (RawText 256)
  makerAddress : Option (RawText 256)
  transactionHash : Option (RawText 256)
  traderSide : Option (RawText 128)
  rawPayload : JsonObject

/-- `validate_trade_identity`. -/
def PolymarketRawTrade.validateTradeIdentity (trade : PolymarketRawTrade) : Result PolymarketRawTrade := do
  raiseIf (trade.tradeId = none ∧ trade.transactionHash = none ∧ trade.timestamp = none)
    (valueError "Polymarket trades must contain trade id, transaction hash, or timestamp")
  pure trade

/-- `PolymarketRawTrade.from_exchange_payload`. -/
def PolymarketRawTrade.fromExchangePayload (payload : JsonObject) : Result PolymarketRawTrade := do
  let message ← marketStreamPayload payload "last_trade_price" "Polymarket trade payload"
  let market ← message.required ["market", "conditionId"] "Polymarket trade market"
  let assetId ← message.required ["asset_id", "asset", "token_id", "tokenId"] "Polymarket trade asset_id"
  let side ← message.required ["side"] "Polymarket trade side"
  let price ← message.required ["price"] "Polymarket trade price"
  let textField := "Polymarket trade text field"
  let decimalField := "Polymarket trade decimal field"
  let integerField := "Polymarket trade integer field"
  let trade : PolymarketRawTrade := {
    topic := ← optional (literal "topic" topicValues) (payload.get "topic")
    eventType := ← optional (literal "event_type" tradeEventTypes) (messageType payload)
    tradeId := ← optional (rawText 256 textField) (message.get "id")
    market := ← rawText 256 textField market
    assetId := ← rawText 256 textField assetId
    side := ← literal "side" orderSides side
    price := ← decimalIn parsers IsUnit decimalField price
    size := ← optional (decimalIn parsers (fun q => 0 < q) decimalField) (message.get "size")
    feeRateBps := ← optional (nonnegativeInt parsers integerField)
      (message.firstPresent ["fee_rate_bps", "feeRateBps"])
    timestamp := ← optional (rawText 256 textField) (message.get "timestamp")
    status := ← optional (rawText 128 textField) (message.get "status")
    matchTime := ← optional (rawText 128 textField) (message.get "match_time")
    lastUpdate := ← optional (rawText 128 textField) (message.get "last_update")
    outcome := ← optional (rawText 128 textField) (message.get "outcome")
    bucketIndex := ← optional (nonnegativeInt parsers integerField) (message.get "bucket_index")
    owner := ← optional (rawText 256 textField) (message.get "owner")
    makerAddress := ← optional (rawText 256 textField) (message.get "maker_address")
    transactionHash := ← optional (rawText 256 textField)
      (message.firstPresent ["transaction_hash", "transactionHash"])
    traderSide := ← optional (rawText 128 textField) (message.get "trader_side")
    rawPayload := ← freezeMapping payload "polymarket trade payload" }
  trade.validateTradeIdentity

end Polymarket
end Pmrp
