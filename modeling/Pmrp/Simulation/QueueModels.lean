import Pmrp.Simulation.FillModels

/-!
# `Simulation.QueueModels` — where an order stands in the queue of its price

`simulation/queue_models.py`. A `QueueModel` is any estimate from a book; the immediate-touch model puts every order in
front, the volume-ahead model behind what the book shows at better prices and at its own.
-/

namespace Pmrp

structure QueueEstimate where
  side : Side
  price : ℚ
  quantity : ℚ
  volumeAhead : ℚ
  queuePosition : ℚ
  crossesSpread : Bool
  restsOnBook : Bool
  deriving DecidableEq, Repr

/-- The protocol: `estimate` of a snapshot, a side, a price and a quantity. -/
structure QueueModel where
  estimate : OrderBookSnapshot → Side → ℚ → ℚ → Result QueueEstimate

namespace QueueModels

variable (ctx : DecimalContext)

def immediateTouchQueueModelName : String := "immediate_touch_v1"
def volumeAheadQueueModelName : String := "volume_ahead_v1"

def validateInputs (snapshot : OrderBookSnapshot) (price quantity : ℚ) : Result Unit := do
  raiseIf (snapshot.isValid = false) (simulationInputError "Queue model requires a valid order book snapshot")
  raiseIf (price < 0) (valueError "queue model price must be nonnegative")
  raiseIf (quantity ≤ 0) (valueError "queue model quantity must be positive")

/-- `_best_bid` and `_best_ask`. -/
def bestPrice (levels : List OrderBookLevel) : Option ℚ := levels.head?.map OrderBookLevel.price

def crossesSpread (snapshot : OrderBookSnapshot) : Side → ℚ → Bool
  | .buy, price => (bestPrice snapshot.asks).any fun bestAsk => decide (bestAsk ≤ price)
  | .sell, price => (bestPrice snapshot.bids).any fun bestBid => decide (price ≤ bestBid)

def sameSideVolumeAhead (snapshot : OrderBookSnapshot) : Side → ℚ → ℚ
  | .buy, price =>
      ctx.sum ((snapshot.bids.filter fun level => decide (price ≤ level.price)).map OrderBookLevel.quantity)
  | .sell, price =>
      ctx.sum ((snapshot.asks.filter fun level => decide (level.price ≤ price)).map OrderBookLevel.quantity)

def immediateTouchQueueModel : QueueModel where
  estimate snapshot side price quantity := do
    validateInputs snapshot price quantity
    pure {
      side, price, quantity
      volumeAhead := 0
      queuePosition := 0
      crossesSpread := crossesSpread snapshot side price
      restsOnBook := !crossesSpread snapshot side price }

def volumeAheadQueueModel : QueueModel where
  estimate snapshot side price quantity := do
    validateInputs snapshot price quantity
    let volumeAhead := if crossesSpread snapshot side price then 0 else sameSideVolumeAhead ctx snapshot side price
    pure {
      side, price, quantity
      volumeAhead
      queuePosition := volumeAhead
      crossesSpread := crossesSpread snapshot side price
      restsOnBook := !crossesSpread snapshot side price }

end QueueModels
end Pmrp
