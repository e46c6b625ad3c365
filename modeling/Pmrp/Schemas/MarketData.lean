import Mathlib.Data.List.Chain
import Pmrp.Lib.Dictionary
import Pmrp.Schemas.Primitives

/-!
# `Schemas.MarketData` — order books and their deltas

`OrderBookLevel`, `OrderBookSnapshot`, `OrderBookDeltaLevel`, `OrderBookDelta` and `Trade` of
`schemas/market_data.py`.
A snapshot carries the ordering of its sides. The projection rebuilds snapshots through
`OrderBookSnapshot.create`, which checks what Pydantic checks.
-/

namespace Pmrp

/-! ## Levels and snapshots -/

structure OrderBookLevel where
  price : ℚ
  quantity : ℚ
  orderCount : Option ℕ := none
  price_nonneg : 0 ≤ price
  quantity_nonneg : 0 ≤ quantity

def StrictlyDescending (values : List ℚ) : Prop := values.IsChain (· > ·)
def StrictlyAscending (values : List ℚ) : Prop := values.IsChain (· < ·)

instance : DecidablePred StrictlyDescending := fun values => inferInstanceAs (Decidable (values.IsChain _))
instance : DecidablePred StrictlyAscending := fun values => inferInstanceAs (Decidable (values.IsChain _))

structure OrderBookSnapshot where
  marketId : MarketId
  contractId : ContractId
  exchange : String
  sequence : Option ℕ := none
  exchangeOccurredAt : Option UTCDateTime := none
  receivedAt : UTCDateTime
  bids : List OrderBookLevel
  asks : List OrderBookLevel
  isValid : Bool := true
  snapshotReason : String := "initial"
  exchange_within : TextWithin 64 exchange
  snapshotReason_within : TextWithin 128 snapshotReason
  bids_descending : StrictlyDescending (bids.map OrderBookLevel.price)
  asks_ascending : StrictlyAscending (asks.map OrderBookLevel.price)

namespace OrderBookSnapshot

/-- The constructor call of the projection, on the market of a snapshot: the constraint of `snapshot_reason`, then
    `validate_book_ordering`. -/
def create (snapshot : OrderBookSnapshot) (sequence : Option ℕ) (exchangeOccurredAt : Option UTCDateTime)
    (receivedAt : UTCDateTime) (bids asks : List OrderBookLevel) (isValid : Bool) (snapshotReason : String) :
    Result OrderBookSnapshot :=
  match hreason : checkText "snapshot_reason" 128 snapshotReason with
  | .error e => .error e
  | .ok _ =>
      if hbids : StrictlyDescending (bids.map OrderBookLevel.price) then
        if hasks : StrictlyAscending (asks.map OrderBookLevel.price) then
          .ok { marketId := snapshot.marketId, contractId := snapshot.contractId, exchange := snapshot.exchange,
                sequence, exchangeOccurredAt, receivedAt, bids, asks, isValid, snapshotReason,
                exchange_within := snapshot.exchange_within, snapshotReason_within := checkText_eq_ok.mp hreason,
                bids_descending := hbids, asks_ascending := hasks }
        else .error (valueError "ask prices must be strictly ascending")
      else .error (valueError "bid prices must be strictly descending")

theorem create_eq_ok (snapshot : OrderBookSnapshot) (sequence : Option ℕ)
    (exchangeOccurredAt : Option UTCDateTime) (receivedAt : UTCDateTime) (isValid : Bool)
    {bids asks : List OrderBookLevel} {snapshotReason : String}
    (hreason : TextWithin 128 snapshotReason) (hbids : StrictlyDescending (bids.map OrderBookLevel.price))
    (hasks : StrictlyAscending (asks.map OrderBookLevel.price)) :
    snapshot.create sequence exchangeOccurredAt receivedAt bids asks isValid snapshotReason =
      .ok { marketId := snapshot.marketId, contractId := snapshot.contractId, exchange := snapshot.exchange,
            sequence, exchangeOccurredAt, receivedAt, bids, asks, isValid, snapshotReason,
            exchange_within := snapshot.exchange_within, snapshotReason_within := hreason,
            bids_descending := hbids, asks_ascending := hasks } := by
  unfold create
  split
  · rename_i herror
    rw [checkText_eq_ok (u := ⟨⟩).mpr hreason] at herror
    cases herror
  · rw [dif_pos hbids, dif_pos hasks]

/-- The prices of the bids fall, so no price stands twice. -/
theorem bids_pairwise (snapshot : OrderBookSnapshot) : snapshot.bids.Pairwise fun a b => b.price < a.price :=
  List.pairwise_map.mp (snapshot.bids_descending.pairwise)

theorem asks_pairwise (snapshot : OrderBookSnapshot) : snapshot.asks.Pairwise fun a b => a.price < b.price :=
  List.pairwise_map.mp (snapshot.asks_ascending.pairwise)

/-- The levels of one side. -/
def levels (snapshot : OrderBookSnapshot) : Side → List OrderBookLevel
  | .buy => snapshot.bids
  | .sell => snapshot.asks

theorem uniqueKeys_levels (snapshot : OrderBookSnapshot) (side : Side) :
    Dictionary.UniqueKeys OrderBookLevel.price (snapshot.levels side) := by
  cases side with
  | buy => exact snapshot.bids_pairwise.imp fun h => ne_of_gt h
  | sell => exact snapshot.asks_pairwise.imp fun h => ne_of_lt h

end OrderBookSnapshot

/-! ## Deltas -/

inductive OrderBookDeltaAction
  | upsert
  | delete
  deriving DecidableEq, Repr

structure OrderBookDeltaLevel where
  side : Side
  price : ℚ
  quantity : ℚ
  action : OrderBookDeltaAction
  price_nonneg : 0 ≤ price
  quantity_nonneg : 0 ≤ quantity

structure OrderBookDelta where
  marketId : MarketId
  contractId : ContractId
  exchange : String
  sequence : Option ℕ := none
  previousSequence : Option ℕ := none
  exchangeOccurredAt : Option UTCDateTime := none
  receivedAt : UTCDateTime
  changes : List OrderBookDeltaLevel
  exchange_within : TextWithin 64 exchange

/-! ## Trades -/

structure Trade where
  tradeId : String
  exchange : String
  exchangeTradeId : String
  marketId : MarketId
  contractId : ContractId
  outcomeId : OutcomeId
  price : ℚ
  quantity : ℚ
  aggressorSide : Option Side := none
  liquidityRole : LiquidityRole := .unknown
  exchangeOccurredAt : UTCDateTime
  receivedAt : UTCDateTime
  sequence : Option ℕ := none
  tradeId_within : TextWithin 128 tradeId
  exchange_within : TextWithin 64 exchange
  exchangeTradeId_within : TextWithin 256 exchangeTradeId
  price_nonneg : 0 ≤ price
  quantity_pos : 0 < quantity

end Pmrp
