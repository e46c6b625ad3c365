import Mathlib.Data.List.Sort
import Pmrp.Adapters.KalshiMapper
import Pmrp.Adapters.PolymarketRawModels

/-!
# `Adapters.PolymarketMapper` — Polymarket messages as canonical market data

`map_polymarket_order_book_snapshot`, `map_polymarket_order_book_delta` and `map_polymarket_trade` of
`adapters/polymarket/mapper.py`. Each builds a canonical value inside a handler that turns `TypeError` and
`ValueError` into a protocol error.
-/

namespace Pmrp
namespace Polymarket

/-! ## Results -/

/-- What a mapper raises: a protocol error, or an exception that escapes its handler. -/
inductive MapError
  | protocol (error : AdapterProtocolError)
  | raised (error : PyError)

abbrev MapResult := Except MapError

/-- The call returns or raises a protocol error. -/
def ProtocolOnly {α : Type} (x : MapResult α) : Prop := ∀ e, x ≠ .error (.raised e)

/-- The last lines of a mapper: what the handler leaves `None` becomes the error. -/
def orProtocolError {α : Type} (x : Result α) (error : AdapterProtocolError) : MapResult α :=
  match orNone x with
  | .ok (some a) => .ok a
  | .ok none => .error (.protocol error)
  | .error e => .error (.raised e)

def raised {α : Type} (x : Result α) : MapResult α := x.mapError MapError.raised

def exchangeName : String := "polymarket"

/-- `_validate_exchange_asset_id`. -/
def validateExchangeAssetId (value : String) : Result String := do
  raiseIf (value = "" ∨ isStripped value = false)
    (valueError "Polymarket expected_asset_id must be nonempty without surrounding whitespace")
  raiseIf (256 < value.length) (valueError "Polymarket expected_asset_id must be at most 256 characters")
  pure value

/-! ## Timestamps -/

/-- The zeros of the runs of decimal digits in Unicode. -/
def digitZeros : List ℕ :=
  [0x30, 0x660, 0x6F0, 0x7C0, 0x966, 0x9E6, 0xA66, 0xAE6, 0xB66, 0xBE6, 0xC66, 0xCE6, 0xD66, 0xDE6, 0xE50, 0xED0, 0xF20,
    0x1040, 0x1090, 0x17E0, 0x1810, 0x1946, 0x19D0, 0x1A80, 0x1A90, 0x1B50, 0x1BB0, 0x1C40, 0x1C50, 0xA620, 0xA8D0,
    0xA900, 0xA9D0, 0xA9F0, 0xAA50, 0xABF0, 0xFF10, 0x104A0, 0x10D30, 0x11066, 0x110F0, 0x11136, 0x111D0, 0x112F0,
    0x11450, 0x114D0, 0x11650, 0x116C0, 0x11730, 0x118E0, 0x11950, 0x11C50, 0x11D50, 0x11DA0, 0x11F50, 0x16A60,
    0x16AC0, 0x16B50, 0x1D7CE, 0x1D7D8, 0x1D7E2, 0x1D7EC, 0x1D7F6, 0x1E140, 0x1E2F0, 0x1E4F0, 0x1E950, 0x1FBF0]

/-- The value of a decimal digit. -/
def digitValue (c : Char) : Option ℕ :=
  (digitZeros.find? fun first => first ≤ c.toNat ∧ c.toNat < first + 10).map fun first => c.toNat - first

/-- `int(text)` where `text.isdecimal()`, and none elsewhere. -/
def decimalInt (text : String) : Option ℕ :=
  if text = "" then none
  else text.toList.foldlM (fun n c => (digitValue c).map fun d => 10 * n + d) 0

def unixEpoch : UTCDateTime := 719162 * 86400000000

/-- The first second that the `struct tm` of the platform has no year for. -/
def gmtimeLimit : ℕ := 67768036191676800

/-- The first second of the year 10000. -/
def datetimeLimit : ℕ := 253402300800

/-- `datetime.fromtimestamp(seconds, tz=UTC)` from the epoch on. The seconds have to fit a `time_t`, the year a C
    `int`, and then a `datetime`. -/
def fromtimestamp (seconds : ℕ) : Result UTCDateTime :=
  if 2 ^ 63 ≤ seconds then .error ⟨.overflowError, "timestamp out of range for platform time_t"⟩
  else if gmtimeLimit ≤ seconds then .error ⟨.osError, "Value too large for defined data type"⟩
  else if datetimeLimit ≤ seconds then .error (valueError "year is out of range")
  else .ok (unixEpoch + seconds * 1000000)

def unixMillisecondsThreshold : ℕ := 10000000000

variable (fromisoformat : FromIsoFormat)

/-- `_parse_polymarket_timestamp` of a text. -/
def parsePolymarketTimestamp (timestamp : String) : Result UTCDateTime :=
  match decimalInt timestamp with
  | some rawEpoch =>
      if unixMillisecondsThreshold ≤ rawEpoch then do
        addTimedelta (← fromtimestamp (rawEpoch / 1000)) ((rawEpoch % 1000 : ℕ) * 1000)
      else fromtimestamp rawEpoch
  | none => parseUtcDatetime fromisoformat timestamp

/-- `_exchange_occurred_at`. -/
def exchangeOccurredAtOf (timestamp : Option String) (exchangeOccurredAt : Option IsoDatetime) :
    Result (Option UTCDateTime) :=
  match exchangeOccurredAt, timestamp with
  | some given, _ => do pure (some (← given.toUtc))
  | none, some timestamp => do pure (some (← parsePolymarketTimestamp fromisoformat timestamp))
  | none, none => .ok none

/-! ## Order books -/

def canonicalLevel (level : PolymarketRawOrderBookLevel) : OrderBookLevel where
  price := level.price.value
  quantity := level.size.value
  price_nonneg := level.price.holds.1
  quantity_nonneg := level.size.holds

/-- `_map_bid_levels`. The sort is stable, in reverse too. -/
def mapBidLevels (levels : List PolymarketRawOrderBookLevel) : List OrderBookLevel :=
  (levels.insertionSort fun a b => b.price.value ≤ a.price.value).map canonicalLevel

/-- `_map_ask_levels`. -/
def mapAskLevels (levels : List PolymarketRawOrderBookLevel) : List OrderBookLevel :=
  (levels.insertionSort fun a b => a.price.value ≤ b.price.value).map canonicalLevel

theorem exchangeName_within : TextWithin 64 exchangeName := TextWithin.ofList (by decide)

def safeOrderBookContext (message : PolymarketRawOrderBookSnapshot) : List (String × String) :=
  [("exchange_market_id", message.market.text), ("exchange_asset_id", message.assetId.text)] ++
    message.eventType.elim [] fun _ => [("event_type", "book")]

def orderBookMappingError (safeMessage : String) (message : PolymarketRawOrderBookSnapshot)
    (exchangeErrorCode : String) : AdapterProtocolError :=
  ⟨safeMessage, exchangeName, "stream", exchangeErrorCode, safeOrderBookContext message⟩

/-- The body of `_try_map_order_book_snapshot`. -/
def orderBookSnapshot (message : PolymarketRawOrderBookSnapshot) (marketId : MarketId) (contractId : ContractId)
    (receivedAt : UTCDateTime) (exchangeOccurredAt : Option IsoDatetime) (snapshotReason : String) :
    Result OrderBookSnapshot := do
  let occurredAt ← exchangeOccurredAtOf fromisoformat (message.timestamp.map RawText.text) exchangeOccurredAt
  if hreason : TextWithin 128 snapshotReason then
    if hbids : StrictlyDescending ((mapBidLevels message.bids).map OrderBookLevel.price) then
      if hasks : StrictlyAscending ((mapAskLevels message.asks).map OrderBookLevel.price) then
        pure {
          marketId, contractId
          exchange := exchangeName
          exchangeOccurredAt := occurredAt
          receivedAt
          bids := mapBidLevels message.bids
          asks := mapAskLevels message.asks
          snapshotReason
          exchange_within := exchangeName_within
          snapshotReason_within := hreason
          bids_descending := hbids
          asks_ascending := hasks }
      else .error (valueError "ask prices must be strictly ascending")
    else .error (valueError "bid prices must be strictly descending")
  else .error (valueError "snapshot_reason: String should have between 1 and 128 characters")

def mapPolymarketOrderBookSnapshot (message : PolymarketRawOrderBookSnapshot) (marketId : MarketId)
    (contractId : ContractId) (expectedAssetId : String) (receivedAt : UTCDateTime)
    (exchangeOccurredAt : Option IsoDatetime) (snapshotReason : String) : MapResult OrderBookSnapshot := do
  let expectedAssetId ← raised (validateExchangeAssetId expectedAssetId)
  if message.assetId.text ≠ expectedAssetId then
    .error (.protocol (orderBookMappingError
      "Polymarket order-book snapshot asset id does not match expected contract" message
      "polymarket_order_book_asset_mismatch"))
  else
    orProtocolError
      (orderBookSnapshot fromisoformat message marketId contractId receivedAt exchangeOccurredAt snapshotReason)
      (orderBookMappingError "Polymarket order-book snapshot mapping failed" message
        "polymarket_order_book_snapshot_mapping_failed")

/-! ## Price changes -/

/-- `_map_price_change`. -/
def mapPriceChange (change : PolymarketRawPriceChange) : OrderBookDeltaLevel where
  side := match change.side with
    | .buy => .buy
    | .sell => .sell
  price := change.price.value
  quantity := change.size.value
  action := if change.size.value = 0 then .delete else .upsert
  price_nonneg := change.price.holds.1
  quantity_nonneg := change.size.holds

def priceChangeMappingError (safeMessage : String) (message : PolymarketRawPriceChangeMessage)
    (expectedAssetId exchangeErrorCode : String) : AdapterProtocolError :=
  ⟨safeMessage, exchangeName, "stream", exchangeErrorCode,
    [("exchange_market_id", message.market.text), ("expected_asset_id", expectedAssetId),
      ("price_change_count", toString message.priceChanges.length), ("event_type", "price_change")]⟩

/-- The body of `_try_map_order_book_delta`. -/
def orderBookDelta (message : PolymarketRawPriceChangeMessage) (tokenChanges : List PolymarketRawPriceChange)
    (marketId : MarketId) (contractId : ContractId) (receivedAt : UTCDateTime)
    (exchangeOccurredAt : Option IsoDatetime) : Result OrderBookDelta := do
  let occurredAt ← exchangeOccurredAtOf fromisoformat (message.timestamp.map RawText.text) exchangeOccurredAt
  pure {
    marketId, contractId
    exchange := exchangeName
    exchangeOccurredAt := occurredAt
    receivedAt
    changes := tokenChanges.map mapPriceChange
    exchange_within := exchangeName_within }

def mapPolymarketOrderBookDelta (message : PolymarketRawPriceChangeMessage) (marketId : MarketId)
    (contractId : ContractId) (expectedAssetId : String) (receivedAt : UTCDateTime)
    (exchangeOccurredAt : Option IsoDatetime) : MapResult OrderBookDelta := do
  let expectedAssetId ← raised (validateExchangeAssetId expectedAssetId)
  let tokenChanges := message.priceChanges.filter fun change => change.assetId.text = expectedAssetId
  if tokenChanges = [] then
    .error (.protocol (priceChangeMappingError
      "Polymarket price-change message did not include expected contract token" message expectedAssetId
      "polymarket_price_change_asset_missing"))
  else
    orProtocolError
      (orderBookDelta fromisoformat message tokenChanges marketId contractId receivedAt exchangeOccurredAt)
      (priceChangeMappingError "Polymarket order-book delta mapping failed" message expectedAssetId
        "polymarket_order_book_delta_mapping_failed")

/-! ## Trades -/

/-- `sha256(text.encode()).hexdigest()`, and `str` of a `Decimal`. -/
structure TextFunctions where
  sha : Sha256
  decimalText : Decimal → String

variable (functions : TextFunctions)

def TextFunctions.hexdigest (text : String) : String := functions.sha.hexdigest (.str text)

def sideText : PolymarketOrderSide → String
  | .buy => "BUY"
  | .sell => "SELL"

/-- `_stable_trade_digest`. -/
def stableTradeDigest (trade : PolymarketRawTrade) : String :=
  functions.hexdigest (String.intercalate "|" [
    trade.market.text, trade.assetId.text,
    (trade.timestamp.map RawText.text).getD "", (trade.matchTime.map RawText.text).getD "",
    functions.decimalText trade.price.decimal,
    (trade.size.map fun size => functions.decimalText size.decimal).getD "",
    sideText trade.side])

/-- `_polymarket_exchange_trade_id`. -/
def exchangeTradeId (trade : PolymarketRawTrade) : String :=
  match trade.tradeId, trade.transactionHash with
  | some tradeId, _ => tradeId.text
  | none, some transactionHash => transactionHash.text
  | none, none => s!"generated:{stableTradeDigest functions trade}"

/-- `_canonical_polymarket_trade_id`. -/
def canonicalPolymarketTradeId (exchangeTradeId : String) : String :=
  if s!"polymarket:{exchangeTradeId}".length ≤ 128 then s!"polymarket:{exchangeTradeId}"
  else s!"polymarket:{functions.hexdigest exchangeTradeId}"

/-- `_trade_exchange_occurred_at`. -/
def tradeExchangeOccurredAt (trade : PolymarketRawTrade) (exchangeOccurredAt : Option IsoDatetime) :
    Result UTCDateTime :=
  match exchangeOccurredAt with
  | some given => given.toUtc
  | none =>
      match (trade.timestamp.map RawText.text).or ((trade.matchTime.map RawText.text).or
        (trade.lastUpdate.map RawText.text)) with
      | none => .error (valueError "Polymarket trade timestamp is required")
      | some timestamp => parsePolymarketTimestamp fromisoformat timestamp

def safeTradeContext (trade : PolymarketRawTrade) : List (String × String) :=
  [("exchange_market_id", trade.market.text), ("exchange_asset_id", trade.assetId.text)] ++
    (trade.eventType.elim [] fun eventType =>
      [("event_type", if eventType = .trade then "trade" else "last_trade_price")]) ++
    (trade.tradeId.elim [] fun tradeId => [("exchange_trade_id", tradeId.text)]) ++
    (trade.transactionHash.elim [] fun transactionHash => [("transaction_hash", transactionHash.text)]) ++
    trade.status.elim [] fun status => [("status", status.text)]

def tradeMappingError (safeMessage : String) (trade : PolymarketRawTrade) (exchangeErrorCode : String) :
    AdapterProtocolError :=
  ⟨safeMessage, exchangeName, "stream", exchangeErrorCode, safeTradeContext trade⟩

/-- The body of `_try_map_trade`. -/
def canonicalTrade (trade : PolymarketRawTrade) (marketId : MarketId) (contractId : ContractId) (outcomeId : OutcomeId)
    (receivedAt : UTCDateTime) (exchangeOccurredAt : Option IsoDatetime) : Result Trade := do
  let tradeId := exchangeTradeId functions trade
  match trade.size with
  | none => .error (valueError "Polymarket trade size is required for canonical trade mapping")
  | some size => do
      let occurredAt ← tradeExchangeOccurredAt fromisoformat trade exchangeOccurredAt
      if hid : TextWithin 128 (canonicalPolymarketTradeId functions tradeId) then
        if hexchangeId : TextWithin 256 tradeId then
          pure {
            tradeId := canonicalPolymarketTradeId functions tradeId
            exchange := exchangeName
            exchangeTradeId := tradeId
            marketId, contractId, outcomeId
            price := trade.price.value
            quantity := size.value
            aggressorSide := some (match trade.side with
              | .buy => .buy
              | .sell => .sell)
            exchangeOccurredAt := occurredAt
            receivedAt
            tradeId_within := hid
            exchange_within := exchangeName_within
            exchangeTradeId_within := hexchangeId
            price_nonneg := trade.price.holds.1
            quantity_pos := size.holds }
        else .error (valueError "exchange_trade_id: String should have between 1 and 256 characters")
      else .error (valueError "trade_id: String should have between 1 and 128 characters")

def mapPolymarketTrade (trade : PolymarketRawTrade) (marketId : MarketId) (contractId : ContractId)
    (outcomeId : OutcomeId) (expectedAssetId : String) (receivedAt : UTCDateTime)
    (exchangeOccurredAt : Option IsoDatetime) : MapResult Trade := do
  let expectedAssetId ← raised (validateExchangeAssetId expectedAssetId)
  if trade.assetId.text ≠ expectedAssetId then
    .error (.protocol (tradeMappingError "Polymarket trade asset id does not match expected contract" trade
      "polymarket_trade_asset_mismatch"))
  else
    orProtocolError
      (canonicalTrade fromisoformat functions trade marketId contractId outcomeId receivedAt exchangeOccurredAt)
      (tradeMappingError "Polymarket trade mapping failed" trade "polymarket_trade_mapping_failed")

end Polymarket
end Pmrp
