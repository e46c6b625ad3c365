import Pmrp.Simulation.Results
import Pmrp.Simulation.ScenarioRunner

/-!
# `Simulation.RunMetrics` — the metrics of a scenario run

`_multi_leg_imbalance_result_from_configuration` and `_scenario_run_metrics` of `simulation/scenarios.py`: counts and
sums over the order results of a run.
-/

namespace Pmrp

/-- With `int(text)`, and the currency of the first rule of `_fee_table_model_from_configuration`, which reads the
    configuration and an exchange. -/
structure ReportParsers extends ParameterParsers where
  parseInt : String → Result ℤ
  feeTableCurrency : SimulationConfiguration → String → Result String

def FillEstimate.isPartial (estimate : FillEstimate) : Bool :=
  decide (0 < estimate.filledQuantity ∧ estimate.filledQuantity < estimate.orderQuantity)

namespace Scenarios

variable (parsers : ReportParsers) (ctx : DecimalContext)

/-! ## Multi-leg imbalance -/

structure SimulatedScenarioLegFill where
  orderActionSequence : ℕ
  orderResultSequence : ℕ
  filledQuantity : ℚ
  deriving DecidableEq

structure SimulatedScenarioMultiLegImbalanceResult where
  targetFilledQuantity : ℚ
  legFills : List SimulatedScenarioLegFill
  deriving DecidableEq

def multiLegConfigurationError : PyError :=
  simulationConfigurationError "Scenario runner multi-leg configuration is invalid"

def validateSequence (sequence : ℤ) : Result ℕ := do
  raiseIf (sequence < 0) (valueError "sequence must be nonnegative")
  pure sequence.toNat

def multiLegOrderActionSequencesFromConfiguration (configuration : SimulationConfiguration) :
    Result (Option (List ℕ)) :=
  match configuration.parameter "multi_leg.order_action_sequences" with
  | none => pure none
  | some rawSequences =>
      wrapConfigurationError "Scenario runner multi-leg configuration is invalid" do
        let tokens := rawSequences.splitOn ","
        raiseIf (tokens.length < 2)
          (valueError "multi-leg scenarios require at least two order action sequences")
        raiseIf (∃ token ∈ tokens, token = "" ∨ isStripped token = false)
          (valueError "multi-leg order action sequences must be comma-separated integers")
        let sequences ← tokens.mapM fun token => do validateSequence (← parsers.parseInt token)
        raiseIf (¬sequences.Nodup) (valueError "multi-leg order action sequences must be unique")
        pure (some sequences)

def multiLegTargetFilledQuantityFromConfiguration (configuration : SimulationConfiguration) :
    Result (Option ℚ) :=
  match configuration.parameter "multi_leg.target_filled_quantity" with
  | none => pure none
  | some rawTarget => do
      let targetFilledQuantity ← wrapConfigurationError "Scenario runner multi-leg configuration is invalid"
        (parsers.parseDecimal rawTarget)
      raiseIf (targetFilledQuantity ≤ 0) multiLegConfigurationError
      pure (some targetFilledQuantity)

def normalizeOrderResults (orderResults : List SimulatedScenarioOrderResult) :
    Result (List SimulatedScenarioOrderResult) :=
  sortUnique SimulatedScenarioOrderResult.sequence
    (simulationConfigurationError "Scenario order results must have unique sequences") orderResults

def normalizeMultiLegFills (legFills : List SimulatedScenarioLegFill) : Result (List SimulatedScenarioLegFill) := do
  raiseIf (legFills.length < 2)
    (simulationConfigurationError "Scenario multi-leg imbalance requires at least two legs")
  let sortedFills ← sortUnique SimulatedScenarioLegFill.orderActionSequence
    (simulationConfigurationError "Scenario multi-leg imbalance requires unique order action sequences") legFills
  raiseIf (¬(sortedFills.map SimulatedScenarioLegFill.orderResultSequence).Nodup)
    (simulationConfigurationError "Scenario multi-leg imbalance requires unique order result sequences")
  pure sortedFills

/-- The fill of one configured leg; the later of two results of one action counts. -/
def legFillOf (orderResults : List SimulatedScenarioOrderResult) (orderActionSequence : ℕ) :
    Result SimulatedScenarioLegFill :=
  match orderResults.reverse.find? fun result => result.action.sequence = orderActionSequence with
  | none =>
      .error (simulationConfigurationError
        "Scenario runner multi-leg configuration references an unknown order action")
  | some result => do
      let filledQuantity := (result.fillEstimate.map FillEstimate.filledQuantity).getD 0
      raiseIf (filledQuantity < 0)
        (simulationConfigurationError "Scenario multi-leg filled quantity must be nonnegative")
      pure ⟨orderActionSequence, result.sequence, filledQuantity⟩

def multiLegImbalanceResultFromConfiguration (configuration : SimulationConfiguration)
    (orderResults : List SimulatedScenarioOrderResult) :
    Result (Option SimulatedScenarioMultiLegImbalanceResult) := do
  let orderActionSequences ← multiLegOrderActionSequencesFromConfiguration parsers configuration
  let targetFilledQuantity ← multiLegTargetFilledQuantityFromConfiguration parsers configuration
  match orderActionSequences, targetFilledQuantity with
  | none, none => pure none
  | some orderActionSequences, some targetFilledQuantity => do
      let orderResults ← normalizeOrderResults orderResults
      let legFills ← orderActionSequences.mapM (legFillOf orderResults)
      let legFills ← normalizeMultiLegFills legFills
      pure (some ⟨targetFilledQuantity, legFills⟩)
  | _, _ => .error multiLegConfigurationError

namespace SimulatedScenarioMultiLegImbalanceResult

variable (result : SimulatedScenarioMultiLegImbalanceResult)

def imbalancedQuantity : ℚ :=
  let filledQuantities := result.legFills.map SimulatedScenarioLegFill.filledQuantity
  ctx.sub (filledQuantities.max?.getD 0) (filledQuantities.min?.getD 0)

def targetShortfallQuantity : ℚ :=
  ctx.sum ((result.legFills.filter fun leg => leg.filledQuantity < result.targetFilledQuantity).map fun leg =>
    ctx.sub result.targetFilledQuantity leg.filledQuantity)

def hasImbalance : Bool := decide (0 < result.imbalancedQuantity ctx)

end SimulatedScenarioMultiLegImbalanceResult

/-! ## Metrics -/

/-- The loop of `_duplicate_market_event_count`, from the payload hashes seen before. -/
def duplicateMarketEventCount : List String → List ScheduledMarketEvent → ℕ
  | _, [] => 0
  | seen, event :: events =>
      if event.payloadHash ∈ seen then duplicateMarketEventCount seen events + 1
      else duplicateMarketEventCount (event.payloadHash :: seen) events

def feeMetricCurrency (scenario : SimulationScenario) (orderResults : List SimulatedScenarioOrderResult) :
    Result String :=
  match orderResults.flatMap SimulatedScenarioOrderResult.feeEstimates with
  | estimate :: _ => pure estimate.currency.code
  | [] => parsers.feeTableCurrency scenario.configuration scenario.initialBook.exchange

def sumFeeEstimateField (orderResults : List SimulatedScenarioOrderResult) (field : FeeEstimate → ℚ) : ℚ :=
  ctx.sum ((orderResults.flatMap SimulatedScenarioOrderResult.feeEstimates).map field)

/-- A metric that counts order results. -/
def countMetric (name : String) (orderResults : List SimulatedScenarioOrderResult)
    (counts : SimulatedScenarioOrderResult → Bool) : SimulationMetric :=
  ⟨name, (orderResults.filter counts).length, "count"⟩

def scenarioRunMetrics (scenario : SimulationScenario) (orderResults : List SimulatedScenarioOrderResult)
    (multiLegImbalanceResult : Option SimulatedScenarioMultiLegImbalanceResult) :
    Result (List SimulationMetric) := do
  let disconnectWindow ← disconnectWindowFromConfiguration parsers.toParameterParsers scenario.configuration
  let duplicates := duplicateMarketEventCount [] scenario.marketEvents
  let settlements := orderResults.filterMap SimulatedScenarioOrderResult.settlementResult
  let feeCurrency ← feeMetricCurrency parsers scenario orderResults
  pure [
    countMetric "accepted_order_count" orderResults fun result => result.admission.rejectionDecision.accepted,
    countMetric "filled_order_count" orderResults fun result =>
      result.fillEstimate.any FillEstimate.hasFill,
    countMetric "cancel_action_count" orderResults fun result => result.cancelResult.isSome,
    countMetric "cancel_fill_race_count" orderResults fun result =>
      result.cancelResult.any fun cancel => decide (cancel.outcome = .fillRaceLost),
    countMetric "canceled_before_activation_count" orderResults fun result =>
      result.cancelResult.any fun cancel => decide (cancel.outcome = .beforeActivation),
    ⟨"disconnect_window_count", if disconnectWindow.isSome then 1 else 0, "count"⟩,
    ⟨"filled_quantity", ctx.sum ((orderResults.filterMap SimulatedScenarioOrderResult.fillEstimate).map
      FillEstimate.filledQuantity), "contracts"⟩,
    countMetric "open_order_disconnect_count" orderResults fun result => result.disconnectResult.isSome,
    ⟨"duplicate_market_event_count", duplicates, "count"⟩,
    ⟨"projected_market_event_count", (scenario.marketEvents.length : ℚ) - duplicates, "count"⟩,
    ⟨"settled_payout_amount", ctx.sum (settlements.map fun settlement => settlement.estimate.payoutAmount),
      "payout_units"⟩,
    ⟨"settled_winning_quantity", ctx.sum ((settlements.filter fun settlement =>
      settlement.estimate.isWinningOutcome).map fun settlement => settlement.estimate.quantity), "contracts"⟩,
    countMetric "settlement_estimate_count" orderResults fun result => result.settlementResult.isSome,
    ⟨"slippage_estimate_count",
      (orderResults.flatMap SimulatedScenarioOrderResult.slippageEstimates).length, "count"⟩,
    ⟨"total_fee_amount", sumFeeEstimateField ctx orderResults FeeEstimate.feeAmount, feeCurrency⟩,
    ⟨"total_filled_notional", sumFeeEstimateField ctx orderResults FeeEstimate.notional, feeCurrency⟩,
    ⟨"total_net_fee_amount", sumFeeEstimateField ctx orderResults FeeEstimate.netFeeAmount, feeCurrency⟩,
    ⟨"total_rebate_amount", sumFeeEstimateField ctx orderResults FeeEstimate.rebateAmount, feeCurrency⟩,
    ⟨"total_slippage_amount", ctx.sum ((orderResults.flatMap SimulatedScenarioOrderResult.slippageEstimates).map
      SlippageEstimate.totalSlippage), "price_units"⟩,
    ⟨"market_event_count", scenario.marketEvents.length, "count"⟩,
    ⟨"multi_leg_imbalance_count",
      if multiLegImbalanceResult.any fun result => result.hasImbalance ctx then 1 else 0, "count"⟩,
    ⟨"multi_leg_imbalance_quantity",
      (multiLegImbalanceResult.map fun result => result.imbalancedQuantity ctx).getD 0, "contracts"⟩,
    ⟨"multi_leg_leg_count", ((multiLegImbalanceResult.map fun result => result.legFills.length).getD 0 : ℕ), "count"⟩,
    ⟨"multi_leg_target_shortfall_quantity",
      (multiLegImbalanceResult.map fun result => result.targetShortfallQuantity ctx).getD 0, "contracts"⟩,
    ⟨"order_action_count", scenario.orderActions.length, "count"⟩,
    countMetric "partial_fill_count" orderResults fun result => result.fillEstimate.any FillEstimate.isPartial,
    countMetric "rejected_order_count" orderResults fun result => result.admission.rejected]

end Scenarios
end Pmrp
