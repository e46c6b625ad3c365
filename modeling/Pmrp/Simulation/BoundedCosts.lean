import Pmrp.Lib.DecimalSpan
import Pmrp.Simulation.CostModels
import Pmrp.Simulation.Exchange

/-!
# `Simulation.BoundedCosts` — the fee table, basis-point slippage and binary settlement

The models of `simulation/fee_models.py`, `simulation/slippage_models.py` and `simulation/settlement.py`. Each checks
the digits of what it reads and computes in a context of its own; an estimate is what passed the checks and the
results of that context.
-/

namespace Pmrp
namespace BoundedCosts

/-! ## Bounded decimals -/

def maxDecimalAdjustedExponent : ℤ := 36

def maxDecimalDigits : ℕ := 28

def maxDecimalScale : ℤ := 18

/-- A value of type `Decimal`: a finite one, or an infinity or NaN. -/
inductive PyDecimal
  | finite (value : Decimal)
  | special
  deriving DecidableEq, Repr

/-- `parse_decimal` of a `Decimal`. -/
def parseDecimal (value : PyDecimal) (fieldName : String) : Result Decimal :=
  match value with
  | .finite value => .ok value
  | .special => .error (valueError s!"{fieldName} must be finite")

/-- The bounds of `_validate_decimal_bounds`. -/
structure Bounded (value : Decimal) : Prop where
  digits_le : value.digits ≤ maxDecimalDigits
  scale_le : max (-value.exponent) 0 ≤ maxDecimalScale
  adjusted_le : value.adjusted ≤ maxDecimalAdjustedExponent

structure BoundedDecimal extends Decimal where
  bounded : Bounded toDecimal

/-- `_parse_bounded_decimal`. -/
def parseBoundedDecimal (value : PyDecimal) (fieldName : String) : Result BoundedDecimal := do
  let parsed ← parseDecimal value fieldName
  if hdigits : parsed.digits ≤ maxDecimalDigits then
    if hscale : max (-parsed.exponent) 0 ≤ maxDecimalScale then
      if hadjusted : parsed.adjusted ≤ maxDecimalAdjustedExponent then
        pure ⟨parsed, hdigits, hscale, hadjusted⟩
      else .error (valueError s!"{fieldName} adjusted exponent must be at most 36")
    else .error (valueError s!"{fieldName} must have at most 18 fractional digits")
  else .error (valueError s!"{fieldName} must have at most 28 significant digits")

structure NonnegativeDecimal extends BoundedDecimal where
  nonneg : 0 ≤ toDecimal.value

/-- `_parse_bounded_nonnegative_decimal`. -/
def parseBoundedNonnegativeDecimal (value : PyDecimal) (fieldName : String) : Result NonnegativeDecimal := do
  let parsed ← parseBoundedDecimal value fieldName
  if hnonneg : 0 ≤ parsed.value then pure ⟨parsed, hnonneg⟩
  else .error (valueError s!"{fieldName} must be nonnegative")

structure PositiveDecimal extends BoundedDecimal where
  pos : 0 < toDecimal.value

/-- `_parse_positive_decimal`. -/
def parsePositiveDecimal (value : PyDecimal) (fieldName : String) : Result PositiveDecimal := do
  let parsed ← parseBoundedDecimal value fieldName
  if hpos : 0 < parsed.value then pure ⟨parsed, hpos⟩
  else .error (valueError s!"{fieldName} must be positive")

def validateText (value fieldName : String) : Result String := do
  raiseIf (value = "" ∨ isStripped value = false)
    (valueError s!"{fieldName} must be nonempty without surrounding whitespace")
  pure value

/-! ## The context of the models -/

theorem one_le_costPrecision : 1 ≤ 128 := by norm_num

/-- `Emax` and `Emin` of a context that sets none. -/
def emax : ℤ := 999999
def emin : ℤ := -999999

theorem emin_nonpos : emin ≤ 0 := by decide

/-- `Context(prec=128)`. -/
def arithmeticContext : DecimalContext := .halfEven 128 one_le_costPrecision emin emax emin_nonpos

/-- The exact result of an operation, rounded. The context traps an overflow; a division by zero and an invalid
    operation do not occur, as no operand is special and the one divisor is 10000. -/
def compute (x : ℚ) : Result ℚ := do
  let rounded := arithmeticContext.round x
  raiseIf (rounded ≠ 0 ∧ emax < Int.log 10 |rounded|) ⟨.decimalOverflow, "decimal.Overflow"⟩
  pure rounded

def basisPointsDenominator : ℚ := 10000

/-! ## Fees -/

structure FeeRule where
  exchange : String
  liquidityRole : LiquidityRole
  currency : Currency
  feeRateBps : NonnegativeDecimal
  fixedFee : NonnegativeDecimal
  rebateRateBps : NonnegativeDecimal
  fixedRebate : NonnegativeDecimal

/-- `FeeRule.__post_init__`. -/
def FeeRule.create (exchange : String) (liquidityRole : LiquidityRole) (currency : String)
    (feeRateBps fixedFee rebateRateBps fixedRebate : PyDecimal) : Result FeeRule := do
  let exchange ← validateText exchange "exchange"
  let currency ← validateCurrency currency
  let feeRateBps ← parseBoundedNonnegativeDecimal feeRateBps "fee_rate_bps"
  let fixedFee ← parseBoundedNonnegativeDecimal fixedFee "fixed_fee"
  let rebateRateBps ← parseBoundedNonnegativeDecimal rebateRateBps "rebate_rate_bps"
  let fixedRebate ← parseBoundedNonnegativeDecimal fixedRebate "fixed_rebate"
  pure { exchange, liquidityRole, currency, feeRateBps, fixedFee, rebateRateBps, fixedRebate }

def FeeRule.key (rule : FeeRule) : String × LiquidityRole := (rule.exchange, rule.liquidityRole)

structure FeeTableModel where
  rules : List FeeRule
  ne_nil : rules ≠ []
  nodup : (rules.map FeeRule.key).Nodup

/-- `FeeTableModel.__post_init__`. -/
def FeeTableModel.create (rules : List FeeRule) : Result FeeTableModel :=
  if hne : rules ≠ [] then
    if hnodup : (rules.map FeeRule.key).Nodup then .ok ⟨rules, hne, hnodup⟩
    else .error (simulationConfigurationError "Fee table contains duplicate exchange and liquidity role rule")
  else .error (valueError "fee table requires at least one rule")

namespace FeeTableModel

variable (model : FeeTableModel)

/-- `_rule_for`. -/
def ruleFor (exchange : String) (liquidityRole : LiquidityRole) : Result FeeRule :=
  match model.rules.find? fun rule => rule.exchange = exchange ∧ rule.liquidityRole = liquidityRole with
  | some rule => .ok rule
  | none =>
      .error (simulationConfigurationError "Fee table is missing a rule for exchange and liquidity role")

/-- What `estimate` checks: the price and the quantity as parsed, and the rule that applies. -/
def validateInputs (exchange : String) (price quantity : PyDecimal) (liquidityRole : LiquidityRole) :
    Result (BoundedDecimal × BoundedDecimal × FeeRule) := do
  let exchange ← validateText exchange "exchange"
  let parsedPrice ← parseBoundedDecimal price "fee model price"
  let parsedQuantity ← parseBoundedDecimal quantity "fee model quantity"
  raiseIf (parsedPrice.value < 0) (valueError "fee model price must be nonnegative")
  raiseIf (parsedQuantity.value ≤ 0) (valueError "fee model quantity must be positive")
  let rule ← model.ruleFor exchange liquidityRole
  pure (parsedPrice, parsedQuantity, rule)

def estimate (exchange : String) (price quantity : PyDecimal) (liquidityRole : LiquidityRole) :
    Result FeeEstimate := do
  let (parsedPrice, parsedQuantity, rule) ← model.validateInputs exchange price quantity liquidityRole
  let notional ← compute (parsedPrice.value * parsedQuantity.value)
  let feeProduct ← compute (notional * rule.feeRateBps.value)
  let feeRated ← compute (feeProduct / basisPointsDenominator)
  let feeAmount ← compute (feeRated + rule.fixedFee.value)
  let rebateProduct ← compute (notional * rule.rebateRateBps.value)
  let rebateRated ← compute (rebateProduct / basisPointsDenominator)
  let rebateAmount ← compute (rebateRated + rule.fixedRebate.value)
  let netFeeAmount ← compute (feeAmount - rebateAmount)
  pure { exchange, liquidityRole, currency := rule.currency, notional, feeAmount, rebateAmount, netFeeAmount }

end FeeTableModel

/-! ## Slippage -/

/-- `_validate_inputs` of `slippage_models.py`. -/
def validateSlippageInputs (price quantity : PyDecimal) : Result (BoundedDecimal × BoundedDecimal) := do
  let parsedPrice ← parseBoundedDecimal price "slippage model price"
  let parsedQuantity ← parseBoundedDecimal quantity "slippage model quantity"
  raiseIf (parsedPrice.value < 0) (valueError "slippage model price must be nonnegative")
  raiseIf (parsedQuantity.value ≤ 0) (valueError "slippage model quantity must be positive")
  pure (parsedPrice, parsedQuantity)

/-- The estimate that leaves a price unchanged. -/
def unslipped (side : Side) (price quantity : ℚ) (liquidityRole : LiquidityRole) : SlippageEstimate where
  side := side
  liquidityRole := liquidityRole
  inputPrice := price
  adjustedPrice := price
  quantity := quantity
  slippageBps := 0
  slippageAmountPerUnit := 0
  totalSlippage := 0

/-- `NoSlippageModel.estimate`. -/
def noSlippageEstimate (side : Side) (price quantity : PyDecimal) (liquidityRole : LiquidityRole) :
    Result SlippageEstimate := do
  let (price, quantity) ← validateSlippageInputs price quantity
  pure (unslipped side price.value quantity.value liquidityRole)

structure BpsSlippageModel where
  takerSlippageBps : NonnegativeDecimal

/-- `BpsSlippageModel.__post_init__`. -/
def BpsSlippageModel.create (takerSlippageBps : PyDecimal) : Result BpsSlippageModel := do
  pure ⟨← parseBoundedNonnegativeDecimal takerSlippageBps "taker_slippage_bps"⟩

/-- `price + price_impact if side is Side.BUY else price - price_impact`. -/
def movePrice (side : Side) (price priceImpact : ℚ) : Result ℚ :=
  match side with
  | .buy => compute (price + priceImpact)
  | .sell => compute (price - priceImpact)

namespace BpsSlippageModel

variable (model : BpsSlippageModel)

def estimate (side : Side) (price quantity : PyDecimal) (liquidityRole : LiquidityRole) :
    Result SlippageEstimate := do
  let (price, quantity) ← validateSlippageInputs price quantity
  if liquidityRole ≠ .taker ∨ model.takerSlippageBps.value = 0 then
    pure (unslipped side price.value quantity.value liquidityRole)
  else
    let product ← compute (price.value * model.takerSlippageBps.value)
    let priceImpact ← compute (product / basisPointsDenominator)
    let movedPrice ← movePrice side price.value priceImpact
    let adjustedPrice := if movedPrice < 0 then 0 else movedPrice
    let difference ← compute (adjustedPrice - price.value)
    let slippageAmountPerUnit ← compute |difference|
    let totalSlippage ← compute (slippageAmountPerUnit * quantity.value)
    pure {
      side, liquidityRole
      inputPrice := price.value
      adjustedPrice
      quantity := quantity.value
      slippageBps := model.takerSlippageBps.value
      slippageAmountPerUnit
      totalSlippage }

end BpsSlippageModel

/-! ## Settlement -/

/-- `_validate_winning_outcome_ids` of identifiers. -/
def validateWinningOutcomeIds (winningOutcomeIds : List OutcomeId) (allowEmpty : Bool) :
    Result (List OutcomeId) := do
  raiseIf (winningOutcomeIds = [] ∧ allowEmpty = false)
    (simulationInputError "Settlement model requires at least one winning outcome")
  raiseIf (¬winningOutcomeIds.Nodup) (simulationInputError "Settlement model winning outcomes must be unique")
  pure winningOutcomeIds

/-- `NoSettlementModel.estimate`. -/
def noSettlementEstimate (outcomeId : OutcomeId) (quantity : PyDecimal) (winningOutcomeIds : List OutcomeId) :
    Result SettlementEstimate := do
  let quantity ← parsePositiveDecimal quantity "settlement quantity"
  let winningOutcomeIds ← validateWinningOutcomeIds winningOutcomeIds true
  raiseIf (winningOutcomeIds ≠ []) (simulationInputError "No-settlement model cannot contain winning outcomes")
  pure {
    outcomeId
    quantity := quantity.value
    status := .unresolved
    winningOutcomeIds
    payoutPerUnit := 0
    payoutAmount := 0
    isWinningOutcome := false }

structure BinarySettlementModel where
  payoutPerUnit : PositiveDecimal

/-- `BinarySettlementModel.__post_init__`. -/
def BinarySettlementModel.create (payoutPerUnit : PyDecimal) : Result BinarySettlementModel := do
  pure ⟨← parsePositiveDecimal payoutPerUnit "payout_per_unit"⟩

namespace BinarySettlementModel

variable (model : BinarySettlementModel)

/-- What `estimate` checks: the quantity as parsed, and the one winner. -/
def validateInputs (quantity : PyDecimal) (winningOutcomeIds : List OutcomeId) :
    Result (PositiveDecimal × OutcomeId) := do
  let quantity ← parsePositiveDecimal quantity "settlement quantity"
  let winningOutcomeIds ← validateWinningOutcomeIds winningOutcomeIds false
  match winningOutcomeIds with
  | [winner] => pure (quantity, winner)
  | _ => .error (simulationInputError "Binary settlement requires exactly one winning outcome")

/-- `self.payout_per_unit * quantity if is_winning_outcome else _ZERO`. -/
def payout (outcomeId winner : OutcomeId) (quantity : PositiveDecimal) : Result ℚ :=
  if outcomeId = winner then compute (model.payoutPerUnit.value * quantity.value) else pure 0

def estimate (outcomeId : OutcomeId) (quantity : PyDecimal) (winningOutcomeIds : List OutcomeId) :
    Result SettlementEstimate := do
  let (quantity, winner) ← validateInputs quantity winningOutcomeIds
  let payoutAmount ← model.payout outcomeId winner quantity
  pure {
    outcomeId
    quantity := quantity.value
    status := .settled
    winningOutcomeIds := [winner]
    payoutPerUnit := model.payoutPerUnit.value
    payoutAmount
    isWinningOutcome := decide (outcomeId = winner) }

end BinarySettlementModel
end BoundedCosts
end Pmrp
