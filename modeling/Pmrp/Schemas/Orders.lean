import Pmrp.Schemas.Primitives

/-!
# `Schemas.Orders` — order intents, approved orders, fills and cancels

`OrderIntent`, `ApprovedOrder`, `Fill` and `CancelOrderRequest` of `schemas/orders.py`. Intents, fills and cancels
reach the modelled code already validated, so their validators are fields: one that Pydantic would refuse cannot be
written down. An approved order is built by the risk code and validated there.
-/

namespace Pmrp

def opaqueOrderRefMaxLength : ℕ := 256

/-! ## Order intents -/

structure OrderIntent where
  intentId : IntentId
  strategyId : StrategyId
  marketId : MarketId
  contractId : ContractId
  outcomeId : OutcomeId
  side : Side
  quantity : ℚ
  limitPrice : Option ℚ
  orderType : OrderType := .limit
  timeInForce : TimeInForce := .gtc
  postOnly : Bool := false
  reduceOnly : Bool := false
  urgency : Option ℚ := none
  createdAt : UTCDateTime
  expiresAt : Option UTCDateTime := none
  signalIds : List SignalId := []
  correlationId : CorrelationId
  idempotencyKey : String
  quantity_pos : 0 < quantity
  limitPrice_nonneg : ∀ p ∈ limitPrice, 0 ≤ p
  urgency_unit : ∀ u ∈ urgency, 0 ≤ u ∧ u ≤ 1
  idempotencyKey_within : TextWithin opaqueOrderRefMaxLength idempotencyKey
  -- `_validate_order_pricing`
  limit_has_price : orderType = .limit → limitPrice.isSome
  market_not_postOnly : orderType = .market → postOnly = false
  -- `_validate_expiry`
  expires_after_creation : ∀ t ∈ expiresAt, createdAt < t
  deriving DecidableEq

/-! ## Approved orders -/

structure ApprovedOrder where
  orderId : OrderId
  intentId : IntentId
  strategyId : StrategyId
  riskDecisionId : RiskDecisionId
  exchange : String
  accountId : AccountId
  marketId : MarketId
  contractId : ContractId
  outcomeId : OutcomeId
  side : Side
  quantity : ℚ
  limitPrice : Option ℚ := none
  orderType : OrderType
  timeInForce : TimeInForce
  postOnly : Bool
  reduceOnly : Bool
  approvedAt : UTCDateTime
  approvalExpiresAt : Option UTCDateTime := none
  clientOrderId : String
  idempotencyKey : String
  correlationId : CorrelationId
  deriving DecidableEq

namespace ApprovedOrder

structure Valid (o : ApprovedOrder) : Prop where
  exchange_within : TextWithin 64 o.exchange
  quantity_pos : 0 < o.quantity
  limitPrice_nonneg : ∀ p ∈ o.limitPrice, 0 ≤ p
  clientOrderId_within : TextWithin opaqueOrderRefMaxLength o.clientOrderId
  idempotencyKey_within : TextWithin opaqueOrderRefMaxLength o.idempotencyKey
  limit_has_price : ¬(o.orderType = .limit ∧ o.limitPrice = none)
  market_not_postOnly : ¬(o.orderType = .market ∧ o.postOnly = true)
  expires_after : ∀ t ∈ o.approvalExpiresAt, o.approvedAt < t

/-- Field constraints, then `validate_order_constraints`. -/
def validate (o : ApprovedOrder) : Result ApprovedOrder := do
  checkText "exchange" 64 o.exchange
  raiseIf (¬0 < o.quantity) (valueError "quantity: Input should be greater than 0")
  raiseIf (¬∀ p ∈ o.limitPrice, 0 ≤ p) (belowZeroError "limit_price")
  checkText "client_order_id" opaqueOrderRefMaxLength o.clientOrderId
  checkText "idempotency_key" opaqueOrderRefMaxLength o.idempotencyKey
  raiseIf (o.orderType = .limit ∧ o.limitPrice = none) (valueError "limit orders require limit_price")
  raiseIf (o.orderType = .market ∧ o.postOnly = true)
    (valueError "post_only is invalid for market orders")
  raiseIf (¬∀ t ∈ o.approvalExpiresAt, o.approvedAt < t)
    (valueError "approval_expires_at must be after the creation timestamp")
  pure o

theorem validate_eq_ok {o o' : ApprovedOrder} : o.validate = .ok o' ↔ o.Valid ∧ o' = o := by
  simp only [validate, bind_eq_ok, checkText_eq_ok, raiseIf_eq_ok, not_not, exists_const, pure_eq_ok]
  constructor
  · rintro ⟨h1, h2, h3, h4, h5, h6, h7, h8, rfl⟩; exact ⟨⟨h1, h2, h3, h4, h5, h6, h7, h8⟩, rfl⟩
  · rintro ⟨⟨h1, h2, h3, h4, h5, h6, h7, h8⟩, rfl⟩; exact ⟨h1, h2, h3, h4, h5, h6, h7, h8, rfl⟩

end ApprovedOrder

/-! ## Fills -/

structure Fill where
  fillId : FillId
  exchangeFillId : String
  orderId : OrderId
  exchangeOrderId : Option String := none
  clientOrderId : String
  exchange : String
  accountId : AccountId
  marketId : MarketId
  contractId : ContractId
  outcomeId : OutcomeId
  side : Side
  price : ℚ
  quantity : ℚ
  liquidityRole : LiquidityRole
  fee : Option Money := none
  rebate : Option Money := none
  exchangeOccurredAt : UTCDateTime
  receivedAt : UTCDateTime
  tradeId : Option String := none
  exchangeFillId_within : TextWithin opaqueOrderRefMaxLength exchangeFillId
  exchangeOrderId_within : ∀ s ∈ exchangeOrderId, TextWithin opaqueOrderRefMaxLength s
  clientOrderId_within : TextWithin opaqueOrderRefMaxLength clientOrderId
  exchange_within : TextWithin 64 exchange
  price_nonneg : 0 ≤ price
  quantity_pos : 0 < quantity
  tradeId_within : ∀ s ∈ tradeId, TextWithin opaqueOrderRefMaxLength s
  deriving DecidableEq

/-! ## Cancels -/

structure CancelOrderRequest where
  cancelRequestId : String
  orderId : OrderId
  exchange : String
  accountId : AccountId
  clientOrderId : String
  exchangeOrderId : Option String := none
  requestedAt : UTCDateTime
  idempotencyKey : String
  correlationId : CorrelationId
  cancelRequestId_within : TextWithin 128 cancelRequestId
  exchange_within : TextWithin 64 exchange
  clientOrderId_within : TextWithin opaqueOrderRefMaxLength clientOrderId
  exchangeOrderId_within : ∀ s ∈ exchangeOrderId, TextWithin opaqueOrderRefMaxLength s
  idempotencyKey_within : TextWithin opaqueOrderRefMaxLength idempotencyKey
  deriving DecidableEq

end Pmrp
