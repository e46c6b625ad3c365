import Pmrp.Adapters.KalshiRawModels

/-!
# `Adapters.KalshiMapper` — Kalshi order books as canonical books of the yes contract

`map_kalshi_order_book_snapshot` and `map_kalshi_order_book_delta` of `adapters/kalshi/mapper.py`. A bid for the
no contract at `p` cents is an ask for the yes contract at `100 - p` cents.
-/

namespace Pmrp

/-! ## Errors -/

/-- The arguments an `AdapterProtocolError` is raised with. -/
structure AdapterProtocolError where
  safeMessage : String
  exchange : String
  endpointCategory : String
  exchangeErrorCode : String
  context : List (String × String)
  deriving DecidableEq

namespace Kalshi

def exchangeName : String := "kalshi"

def messageTypeText : KalshiOrderBookMessageType → String
  | .snapshot => "snapshot"
  | .delta => "delta"

def safeOrderBookContext (message : KalshiRawOrderBookMessage) : List (String × String) :=
  [("exchange_market_id", message.marketTicker), ("message_type", messageTypeText message.messageType)] ++
    (message.sequence.elim [] fun sequence => [("sequence", toString sequence)]) ++
    message.subscriptionId.elim [] fun subscriptionId => [("subscription_id", toString subscriptionId)]

def orderBookMappingError (safeMessage : String) (message : KalshiRawOrderBookMessage)
    (exchangeErrorCode : String) : AdapterProtocolError :=
  ⟨safeMessage, exchangeName, "stream", exchangeErrorCode, safeOrderBookContext message⟩

/-! ## Prices -/

def kalshiCentsToDecimal (rawPrice : ℕ) : ℚ := defaultContext.div rawPrice 100

def kalshiNoCentsToYesAskDecimal (rawPrice : ℕ) : ℚ := defaultContext.div ((100 : ℚ) - rawPrice) 100

/-- A hundredth of an integer below `10 ^ 28` has few enough digits. -/
theorem div_hundred {n : ℤ} (h : |n| < 10 ^ 28) : defaultContext.div n 100 = n / 100 := by
  have hfits : defaultContext.Fits ((n : ℚ) * 10 ^ (-2 : ℤ)) :=
    DecimalContext.fits_halfEven_iff.mpr ⟨n, -2, h, by decide, rfl⟩
  have hvalue : (n : ℚ) / 100 = (n : ℚ) * 10 ^ (-2 : ℤ) := by
    rw [zpow_neg, div_eq_mul_inv]
    norm_num
  rw [DecimalContext.div, hvalue]
  exact hfits

theorem kalshiCentsToDecimal_eq {rawPrice : ℕ} (h : rawPrice ≤ 100) :
    kalshiCentsToDecimal rawPrice = (rawPrice : ℚ) / 100 := by
  have hbound : |(rawPrice : ℤ)| < 10 ^ 28 := by
    rw [Nat.abs_cast]
    omega
  have hdiv := div_hundred hbound
  rw [Int.cast_natCast] at hdiv
  exact hdiv

theorem kalshiNoCentsToYesAskDecimal_eq {rawPrice : ℕ} (h : rawPrice ≤ 100) :
    kalshiNoCentsToYesAskDecimal rawPrice = (100 - (rawPrice : ℚ)) / 100 := by
  have hbound : |(100 - rawPrice : ℤ)| < 10 ^ 28 := by
    rw [abs_lt]
    omega
  have hdiv := div_hundred hbound
  push_cast at hdiv
  exact hdiv

/-! ## Levels -/

def yesBidLevel (level : KalshiRawOrderBookLevel) : OrderBookLevel where
  price := kalshiCentsToDecimal level.price
  quantity := level.quantity
  price_nonneg := by
    rw [kalshiCentsToDecimal_eq level.price_le]
    positivity
  quantity_nonneg := Nat.cast_nonneg _

def noAskLevel (level : KalshiRawOrderBookLevel) : OrderBookLevel where
  price := kalshiNoCentsToYesAskDecimal level.price
  quantity := level.quantity
  price_nonneg := by
    have hle : (level.price : ℚ) ≤ 100 := by exact_mod_cast level.price_le
    rw [kalshiNoCentsToYesAskDecimal_eq level.price_le]
    exact div_nonneg (sub_nonneg.mpr hle) (by norm_num)
  quantity_nonneg := Nat.cast_nonneg _

def mapYesBidLevels (levels : List KalshiRawOrderBookLevel) : List OrderBookLevel :=
  (sortByKey (fun level => OrderDual.toDual level.price) levels).map yesBidLevel

def mapNoAskLevels (levels : List KalshiRawOrderBookLevel) : List OrderBookLevel :=
  (sortByKey (fun level => kalshiNoCentsToYesAskDecimal level.price) levels).map noAskLevel

/-! ## Snapshots -/

def mapKalshiOrderBookSnapshot (message : KalshiRawOrderBookMessage) (marketId : MarketId)
    (contractId : ContractId) (receivedAt : UTCDateTime) (exchangeOccurredAt : Option UTCDateTime)
    (snapshotReason : String) : Except AdapterProtocolError OrderBookSnapshot :=
  let mappingFailed := orderBookMappingError "Kalshi order-book snapshot mapping failed" message
    "kalshi_order_book_snapshot_mapping_failed"
  if message.messageType ≠ .snapshot then
    .error (orderBookMappingError "Kalshi order-book message is not a snapshot" message
      "kalshi_order_book_wrong_message_type")
  else if hreason : TextWithin 128 snapshotReason then
    if hbids : StrictlyDescending ((mapYesBidLevels message.yes).map OrderBookLevel.price) then
      if hasks : StrictlyAscending ((mapNoAskLevels message.no).map OrderBookLevel.price) then
        .ok { marketId, contractId, exchange := exchangeName, sequence := message.sequence, exchangeOccurredAt,
              receivedAt, bids := mapYesBidLevels message.yes, asks := mapNoAskLevels message.no, isValid := true,
              snapshotReason, exchange_within := TextWithin.ofList (by decide), snapshotReason_within := hreason,
              bids_descending := hbids, asks_ascending := hasks }
      else .error mappingFailed
    else .error mappingFailed
  else .error mappingFailed

/-! ## Deltas -/

def mapDeltaQuantity (message : KalshiRawOrderBookMessage) : Except AdapterProtocolError ℕ :=
  if message.action = some .delete then .ok 0
  else
    match message.quantity with
    | none => .error (orderBookMappingError "Kalshi order-book delta is missing required fields" message
        "kalshi_order_book_delta_missing_fields")
    | some quantity => .ok quantity

/-- The change of a delta at a raw level: the level's own price and quantity on the canonical side. -/
def deltaLevel (side : KalshiOrderBookSide) (level : KalshiRawOrderBookLevel) (action : OrderBookDeltaAction) :
    OrderBookDeltaLevel :=
  match side with
  | .yes => ⟨.buy, (yesBidLevel level).price, level.quantity, action, (yesBidLevel level).price_nonneg,
      Nat.cast_nonneg _⟩
  | .no => ⟨.sell, (noAskLevel level).price, level.quantity, action, (noAskLevel level).price_nonneg,
      Nat.cast_nonneg _⟩

def mapDeltaLevel (message : KalshiRawOrderBookMessage) : Except AdapterProtocolError OrderBookDeltaLevel :=
  match message.side, hprice : message.price, message.action with
  | some side, some price, some action => do
      let quantity ← mapDeltaQuantity message
      return deltaLevel side ⟨price, quantity, message.price_le price hprice⟩
        (if action = .delete then .delete else .upsert)
  | _, _, _ => .error (orderBookMappingError "Kalshi order-book delta is missing required fields" message
      "kalshi_order_book_delta_missing_fields")

def mapKalshiOrderBookDelta (message : KalshiRawOrderBookMessage) (marketId : MarketId)
    (contractId : ContractId) (receivedAt : UTCDateTime) (previousSequence : Option ℕ)
    (exchangeOccurredAt : Option UTCDateTime) : Except AdapterProtocolError OrderBookDelta := do
  if message.messageType ≠ .delta then
    .error (orderBookMappingError "Kalshi order-book message is not a delta" message
      "kalshi_order_book_wrong_message_type")
  else
    let change ← mapDeltaLevel message
    return { marketId, contractId, exchange := exchangeName, sequence := message.sequence, previousSequence,
             exchangeOccurredAt, receivedAt, changes := [change], exchange_within := TextWithin.ofList (by decide) }

end Kalshi
end Pmrp
