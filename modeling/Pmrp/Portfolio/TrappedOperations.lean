import Pmrp.Portfolio.Projections
import Pmrp.Portfolio.Settlement

/-!
# `Portfolio.TrappedOperations` — fills and settlements in a context that traps overflows

The default context raises `decimal.Overflow` at the first operation whose result is too large. Here each call of
`apply_fill_once` and `apply_settlement_once` is preceded by that trap, over the exact results of all operations it
makes; where another check of the call fails too, which of the two errors is raised is left open.
-/

namespace Pmrp

/-- The exact results of the additions of a sum, from an accumulator on. -/
def DecimalContext.additions (ctx : DecimalContext) : ℚ → List ℚ → List ℚ
  | _, [] => []
  | acc, x :: xs => (acc + x) :: additions ctx (ctx.add acc x) xs

namespace Projections

open Positions

variable (ctx : DecimalContext) (sha : Sha256)

/-- The operations of `apply_weighted_average_fill`. -/
def weightedAverageResults (existingQuantity : ℚ) (existingAverage : Option ℚ) (fill : Fill) : List ℚ :=
  let fillQuantity := signedFillQuantity ctx fill
  let quantity := ctx.abs fillQuantity
  (existingQuantity + fillQuantity) ::
    match existingAverage with
    | none => [quantity * fill.price]
    | some average =>
        if 0 < existingQuantity * fillQuantity then
          let existingNotional := ctx.mul (ctx.abs existingQuantity) average
          let fillNotional := ctx.mul quantity fill.price
          [ctx.abs existingQuantity * average, quantity * fill.price, existingNotional + fillNotional,
            ctx.add existingNotional fillNotional / ctx.abs (ctx.add existingQuantity fillQuantity)]
        else
          let closedQuantity := min (ctx.abs existingQuantity) quantity
          let difference := ctx.sub fill.price average
          let openedQuantity := max (ctx.sub quantity (ctx.abs existingQuantity)) 0
          [fill.price - average, closedQuantity * difference, quantity - ctx.abs existingQuantity,
            closedQuantity * average, closedQuantity * fill.price, openedQuantity * fill.price]

/-- The operations of `apply_fill_to_position` and `build_fill_journal_entry` on a projection. -/
def projectionResults (position : Option Position) (fill : Fill) (projection : PositionProjectionResult) : List ℚ :=
  [fill.quantity * fill.price,
    (position.map fun p => p.realizedPnl.amount).getD 0 + projection.realizedTradingPnl.amount,
    (position.map fun p => p.feesPaid.amount).getD 0 + projection.fee.amount,
    (position.map fun p => p.rebatesReceived.amount).getD 0 + projection.rebate.amount,
    projection.closedQuantity + projection.openedQuantity,
    projection.closedTradeValue.amount - projection.closedCostBasis.amount] ++
  ctx.additions 0 ((Journal.fillJournalLines ctx fill projection).map JournalLine.amount)

/-- All operations of one call. -/
def fillResults (currency : String) (positionId : Option PositionId) (run : FillRun) (fill : Fill) : List ℚ :=
  weightedAverageResults ctx ((run.position.map Position.quantity).getD 0)
      (run.position.bind Position.averageEntryPrice) fill ++
    match applyFillToPosition ctx sha run.position fill currency positionId with
    | .ok projection => projectionResults ctx run.position fill projection
    | .error _ => []

/-- A call of `apply_fill_once`. One whose fill is already applied computes nothing. -/
def FillRun.trappedStep (currency : String) (positionId : Option PositionId) (run : FillRun) (call : FillCall) :
    Result FillRun := do
  ctx.trap (if call.fill.fillId ∈ run.appliedFillIds then []
    else fillResults ctx sha currency positionId run call.fill)
  FillRun.step ctx sha currency positionId run call

def applyTrappedFillCalls (currency : String) (positionId : Option PositionId) (calls : List FillCall) :
    Result FillRun :=
  calls.foldlM (FillRun.trappedStep ctx sha currency positionId) .start

variable {ctx sha} {currency : String} {positionId : Option PositionId} {run next : FillRun} {call : FillCall}

theorem trappedStep_eq_ok : FillRun.trappedStep ctx sha currency positionId run call = .ok next ↔
    (call.fill.fillId ∉ run.appliedFillIds → ∀ x ∈ fillResults ctx sha currency positionId run call.fill,
      ctx.overflows x = false) ∧ FillRun.step ctx sha currency positionId run call = .ok next := by
  rw [FillRun.trappedStep, bind_eq_ok]
  simp only [DecimalContext.trap_eq_ok, exists_and_left]
  split_ifs with happlied
  · simp [happlied]
  · simp [happlied]

end Projections

namespace Settlements

variable (ctx : DecimalContext) (sha : Sha256)

variable {ctx sha} {position : Position} {cashBalance : CashBalance} {settlement : Settlement}
  {appliedJournalEntryIds : Finset String} {currency : String} {sourceEventId : EventId} {createdAt : UTCDateTime}
  {result : SettlementApplicationResult}

end Settlements
end Pmrp
