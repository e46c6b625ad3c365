import Pmrp.Simulation.OrderBook

/-!
# `Simulation.FillModels` — fills against the displayed book

`simulation/fill_models.py`. A `FillModel` is any estimate from a book; the touch and the trade-through model walk
the opposite side from its best level and stop at the first price the limit does not reach.
-/

namespace Pmrp

/-! ## Estimates -/

structure SimulatedFillComponent where
  price : ℚ
  quantity : ℚ
  liquidityRole : LiquidityRole
  deriving DecidableEq, Repr

structure FillEstimate where
  side : Side
  limitPrice : ℚ
  orderQuantity : ℚ
  filledQuantity : ℚ
  remainingQuantity : ℚ
  averageFillPrice : Option ℚ
  liquidityRole : LiquidityRole
  components : List SimulatedFillComponent
  reasonCode : String
  deriving DecidableEq, Repr

def FillEstimate.hasFill (estimate : FillEstimate) : Bool := decide (0 < estimate.filledQuantity)

/-- The protocol: `evaluate` of a snapshot, a side, a limit price and a quantity. -/
structure FillModel where
  evaluate : OrderBookSnapshot → Side → ℚ → ℚ → Result FillEstimate

/-! ## The book models -/

namespace FillModels

variable (ctx : DecimalContext)

def touchFillModelName : String := "touch_fill_v1"
def tradeThroughFillModelName : String := "trade_through_v1"

def validateInputs (snapshot : OrderBookSnapshot) (limitPrice quantity : ℚ) : Result Unit := do
  raiseIf (snapshot.isValid = false) (simulationInputError "Fill model requires a valid order book snapshot")
  raiseIf (limitPrice < 0) (valueError "fill model limit_price must be nonnegative")
  raiseIf (quantity ≤ 0) (valueError "fill model quantity must be positive")

def oppositeSideLevels (snapshot : OrderBookSnapshot) : Side → List OrderBookLevel
  | .buy => snapshot.asks
  | .sell => snapshot.bids

def isExecutable (side : Side) (limitPrice levelPrice : ℚ) (allowTouch : Bool) : Bool :=
  match side with
  | .buy => if allowTouch then decide (levelPrice ≤ limitPrice) else decide (levelPrice < limitPrice)
  | .sell => if allowTouch then decide (limitPrice ≤ levelPrice) else decide (limitPrice < levelPrice)

/-- The loop over the levels: what remains, and the components of what was filled. -/
def takeLevels (side : Side) (limitPrice : ℚ) (allowTouch : Bool) :
    ℚ → List OrderBookLevel → ℚ × List SimulatedFillComponent
  | remaining, [] => (remaining, [])
  | remaining, level :: levels =>
      if remaining = 0 ∨ isExecutable side limitPrice level.price allowTouch = false then (remaining, [])
      else
        let fillQuantity := min remaining level.quantity
        if fillQuantity = 0 then takeLevels side limitPrice allowTouch remaining levels
        else
          let (left, components) := takeLevels side limitPrice allowTouch (ctx.sub remaining fillQuantity) levels
          (left, ⟨level.price, fillQuantity, .taker⟩ :: components)

def averageFillPrice (components : List SimulatedFillComponent) : Option ℚ :=
  let filledQuantity := ctx.sum (components.map SimulatedFillComponent.quantity)
  if filledQuantity = 0 then none
  else some (ctx.div (ctx.sum (components.map fun c => ctx.mul c.price c.quantity)) filledQuantity)

def reasonCode (reasonPrefix : String) (filled total : ℚ) : String :=
  if filled = 0 then s!"{reasonPrefix}_no_fill"
  else if filled < total then s!"{reasonPrefix}_partial_fill"
  else s!"{reasonPrefix}_full_fill"

def estimateBookFill (allowTouch : Bool) (reasonPrefix : String) (snapshot : OrderBookSnapshot) (side : Side)
    (limitPrice quantity : ℚ) : Result FillEstimate := do
  validateInputs snapshot limitPrice quantity
  let (remaining, components) :=
    takeLevels ctx side limitPrice allowTouch quantity (oppositeSideLevels snapshot side)
  let filledQuantity := ctx.sub quantity remaining
  pure {
    side, limitPrice
    orderQuantity := quantity
    filledQuantity
    remainingQuantity := remaining
    averageFillPrice := averageFillPrice ctx components
    liquidityRole := if components = [] then .unknown else .taker
    components
    reasonCode := reasonCode reasonPrefix filledQuantity quantity }

def touchFillModel : FillModel := ⟨estimateBookFill ctx true "simulation_touch"⟩

def tradeThroughFillModel : FillModel := ⟨estimateBookFill ctx false "simulation_trade_through"⟩

end FillModels
end Pmrp
