import Pmrp.Schemas.Portfolio
import Pmrp.Simulation.FillModels

/-!
# `Simulation.CostModels` — the estimates a run makes of a fill

The protocols of `simulation/fee_models.py`, `simulation/slippage_models.py` and `simulation/settlement.py` with the
estimates they return. A run passes them the components of a fill and keeps what they say.
-/

namespace Pmrp

structure FeeEstimate where
  exchange : String
  liquidityRole : LiquidityRole
  currency : Currency
  notional : ℚ
  feeAmount : ℚ
  rebateAmount : ℚ
  netFeeAmount : ℚ
  deriving DecidableEq

/-- The protocol: an exchange, a price, a quantity and a liquidity role. -/
structure FeeModel where
  estimate : String → ℚ → ℚ → LiquidityRole → Result FeeEstimate

structure SlippageEstimate where
  side : Side
  liquidityRole : LiquidityRole
  inputPrice : ℚ
  adjustedPrice : ℚ
  quantity : ℚ
  slippageBps : ℚ
  slippageAmountPerUnit : ℚ
  totalSlippage : ℚ
  deriving DecidableEq

/-- The protocol: a side, a price, a quantity and a liquidity role. -/
structure SlippageModel where
  estimate : Side → ℚ → ℚ → LiquidityRole → Result SlippageEstimate

structure SettlementEstimate where
  outcomeId : OutcomeId
  quantity : ℚ
  status : SettlementStatus
  winningOutcomeIds : List OutcomeId
  payoutPerUnit : ℚ
  payoutAmount : ℚ
  isWinningOutcome : Bool
  deriving DecidableEq

/-- The protocol: an outcome, a quantity and the winning outcomes. A run asks `NoSettlementModel` also when no winner
    is configured. -/
structure SettlementModel where
  isNoSettlement : Bool
  estimate : OutcomeId → ℚ → List OutcomeId → Result SettlementEstimate

end Pmrp
