import Pmrp.Schemas.Orders
import Pmrp.Schemas.Portfolio
import Pmrp.Schemas.Risk

/-!
# `Risk.Context` — the timestamped states a rule reads

The dataclasses of `risk/context.py`. They are only ever inputs of the rules, so what `__post_init__`
refuses is a field. `RiskContext` is one immutable snapshot of them; a mapping that `get` reads is a function
into `Option`.
-/

namespace Pmrp

/-! ## Flags and statuses -/

structure RiskBooleanState where
  value : Bool
  observedAt : UTCDateTime

structure RiskMarketStatusState where
  status : MarketStatus
  observedAt : UTCDateTime

/-! ## Order bounds -/

structure RiskPriceBoundsState where
  minPrice : ℚ
  maxPrice : ℚ
  observedAt : UTCDateTime
  tickSize : Option ℚ := none
  minPrice_nonneg : 0 ≤ minPrice
  min_le_max : minPrice ≤ maxPrice
  tickSize_pos : ∀ t ∈ tickSize, 0 < t

structure RiskQuantityLimitsState where
  minQuantity : ℚ
  maxQuantity : ℚ
  quantityIncrement : ℚ
  observedAt : UTCDateTime
  minQuantity_nonneg : 0 ≤ minQuantity
  min_le_max : minQuantity ≤ maxQuantity
  increment_pos : 0 < quantityIncrement

structure RiskNotionalLimitState where
  maxNotional : ℚ
  observedAt : UTCDateTime
  maxNotional_pos : 0 < maxNotional

/-! ## Exposures

The pending parts of an exposure are added to the current one from left to right. -/

structure RiskMarketPositionState where
  currentPosition : ℚ
  maxPosition : ℚ
  observedAt : UTCDateTime
  openOrderPositionDelta : ℚ := 0
  reservedPositionDelta : ℚ := 0
  maxPosition_pos : 0 < maxPosition

structure RiskPortfolioGrossExposureState where
  currentGrossExposure : ℚ
  maxGrossExposure : ℚ
  observedAt : UTCDateTime
  openOrderGrossExposure : ℚ := 0
  reservedGrossExposure : ℚ := 0
  current_nonneg : 0 ≤ currentGrossExposure
  openOrder_nonneg : 0 ≤ openOrderGrossExposure
  reserved_nonneg : 0 ≤ reservedGrossExposure
  max_pos : 0 < maxGrossExposure

structure RiskPortfolioNetExposureState where
  currentNetExposure : ℚ
  maxNetExposure : ℚ
  observedAt : UTCDateTime
  openOrderNetExposureDelta : ℚ := 0
  reservedNetExposureDelta : ℚ := 0
  max_pos : 0 < maxNetExposure

structure RiskStrategyCapitalState where
  currentCapitalUsed : ℚ
  maxStrategyCapital : ℚ
  observedAt : UTCDateTime
  openOrderCapital : ℚ := 0
  reservedCapital : ℚ := 0
  current_nonneg : 0 ≤ currentCapitalUsed
  openOrder_nonneg : 0 ≤ openOrderCapital
  reserved_nonneg : 0 ≤ reservedCapital
  max_pos : 0 < maxStrategyCapital

structure RiskExchangeCapitalState where
  currentCapitalUsed : ℚ
  maxExchangeCapital : ℚ
  observedAt : UTCDateTime
  openOrderCapital : ℚ := 0
  reservedCapital : ℚ := 0
  current_nonneg : 0 ≤ currentCapitalUsed
  openOrder_nonneg : 0 ≤ openOrderCapital
  reserved_nonneg : 0 ≤ reservedCapital
  max_pos : 0 < maxExchangeCapital

section

variable (ctx : DecimalContext)

def RiskMarketPositionState.effectivePosition (s : RiskMarketPositionState) : ℚ :=
  ctx.add (ctx.add s.currentPosition s.openOrderPositionDelta) s.reservedPositionDelta

def RiskPortfolioGrossExposureState.effectiveGrossExposure (s : RiskPortfolioGrossExposureState) : ℚ :=
  ctx.add (ctx.add s.currentGrossExposure s.openOrderGrossExposure) s.reservedGrossExposure

def RiskPortfolioNetExposureState.effectiveNetExposure (s : RiskPortfolioNetExposureState) : ℚ :=
  ctx.add (ctx.add s.currentNetExposure s.openOrderNetExposureDelta) s.reservedNetExposureDelta

def RiskStrategyCapitalState.effectiveCapitalUsed (s : RiskStrategyCapitalState) : ℚ :=
  ctx.add (ctx.add s.currentCapitalUsed s.openOrderCapital) s.reservedCapital

def RiskExchangeCapitalState.effectiveCapitalUsed (s : RiskExchangeCapitalState) : ℚ :=
  ctx.add (ctx.add s.currentCapitalUsed s.openOrderCapital) s.reservedCapital

end

/-! ## Losses, orders, balances -/

structure RiskDailyLossState where
  dailyRealizedPnl : ℚ
  dailyUnrealizedPnl : ℚ
  maxDailyLoss : ℚ
  observedAt : UTCDateTime
  max_pos : 0 < maxDailyLoss

structure RiskOpenOrderLimitState where
  currentOpenOrders : ℕ
  maxOpenOrders : ℕ
  observedAt : UTCDateTime
  pendingCancelOrders : ℕ := 0
  reservedOpenOrders : ℕ := 0
  max_pos : 0 < maxOpenOrders

def RiskOpenOrderLimitState.effectiveOpenOrderCount (s : RiskOpenOrderLimitState) : ℕ :=
  s.currentOpenOrders + s.pendingCancelOrders + s.reservedOpenOrders

def maxIdempotencyKeyLength : ℕ := 256

structure RiskDuplicateOrderGuardState where
  observedAt : UTCDateTime
  knownIntentIds : Finset IntentId := ∅
  knownIdempotencyKeys : Finset String := ∅
  keys_within : ∀ k ∈ knownIdempotencyKeys, TextWithin maxIdempotencyKeyLength k

structure RiskAvailableBalanceState where
  availableBalance : ℚ
  observedAt : UTCDateTime
  reservedBalance : ℚ := 0
  reserved_nonneg : 0 ≤ reservedBalance

section

variable (ctx : DecimalContext)

def RiskDailyLossState.totalDailyPnl (s : RiskDailyLossState) : ℚ :=
  ctx.add s.dailyRealizedPnl s.dailyUnrealizedPnl

def RiskDailyLossState.currentDailyLoss (s : RiskDailyLossState) : ℚ :=
  if 0 ≤ s.totalDailyPnl ctx then 0 else ctx.neg (s.totalDailyPnl ctx)

def RiskAvailableBalanceState.effectiveAvailableBalance (s : RiskAvailableBalanceState) : ℚ :=
  ctx.sub s.availableBalance s.reservedBalance

end

/-! ## Gates -/

structure RiskReconciliationHealthState where
  status : ReconciliationStatus
  tradingGateReleased : Bool
  observedAt : UTCDateTime
  unresolvedMismatchCount : ℕ := 0
  manualReviewCount : ℕ := 0

structure RiskKillSwitchClearState where
  clear : Bool
  observedAt : UTCDateTime
  activeScopes : Finset KillSwitchScope := ∅
  clear_empty : clear = true → activeScopes = ∅

structure RiskArbitrageLegState where
  currentUnhedgedQuantity : ℚ
  maxUnhedgedQuantity : ℚ
  observedAt : UTCDateTime
  hedgeDeadlineAt : Option UTCDateTime := none
  submittedLegs : ℕ := 0
  acceptedLegs : ℕ := 0
  filledLegs : ℕ := 0
  current_nonneg : 0 ≤ currentUnhedgedQuantity
  max_nonneg : 0 ≤ maxUnhedgedQuantity
  accepted_le : acceptedLegs ≤ submittedLegs
  filled_le : filledLegs ≤ acceptedLegs

/-! ## The context -/

structure RiskContext where
  evaluatedAt : UTCDateTime
  strategyEnabled : StrategyId → Option RiskBooleanState := fun _ => none
  marketEnabled : MarketId → Option RiskBooleanState := fun _ => none
  marketStatus : MarketId → Option RiskMarketStatusState := fun _ => none
  marketDataFresh : MarketId → Option RiskBooleanState := fun _ => none
  priceBounds : MarketId → Option RiskPriceBoundsState := fun _ => none
  quantityLimits : ContractId → Option RiskQuantityLimitsState := fun _ => none
  notionalLimits : ContractId → Option RiskNotionalLimitState := fun _ => none
  marketPositions : MarketId → Option RiskMarketPositionState := fun _ => none
  portfolioGrossExposure : Option RiskPortfolioGrossExposureState := none
  portfolioNetExposure : Option RiskPortfolioNetExposureState := none
  strategyCapital : StrategyId → Option RiskStrategyCapitalState := fun _ => none
  marketExchanges : MarketId → Option ExchangeId := fun _ => none
  exchangeCapital : ExchangeId → Option RiskExchangeCapitalState := fun _ => none
  dailyLoss : Option RiskDailyLossState := none
  openOrderLimit : Option RiskOpenOrderLimitState := none
  duplicateOrderGuard : Option RiskDuplicateOrderGuardState := none
  availableBalance : Option RiskAvailableBalanceState := none
  reconciliationHealth : Option RiskReconciliationHealthState := none
  killSwitchClear : Option RiskKillSwitchClearState := none
  arbitrageLeg : Option RiskArbitrageLegState := none

end Pmrp
