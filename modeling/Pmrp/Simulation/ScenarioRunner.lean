import Pmrp.Simulation.Scenarios

/-!
# `Simulation.ScenarioRunner` — the run over the order intents

`SimulatedScenarioOrderResult` and `DeterministicScenarioRunner` of `simulation/scenarios.py`. The run goes over the
order intents by sequence. Each gets the earliest cancel that fits and is not used, and a cancel is used once an
order has a result for it.
-/

namespace Pmrp
namespace Scenarios

variable (parsers : ParameterParsers) (ctx : DecimalContext)

/-! ## Results -/

structure SimulatedScenarioSettlementResult where
  sequence : ℕ
  targetOrderSequence : ℕ
  estimate : SettlementEstimate
  deriving DecidableEq

structure SimulatedScenarioOrderResult where
  sequence : ℕ
  action : ScheduledOrderAction
  admission : SimulatedExchangeOrderAdmission
  activationBook : Option OrderBookSnapshot
  fillEstimate : Option FillEstimate
  feeEstimates : List FeeEstimate := []
  slippageEstimates : List SlippageEstimate := []
  cancelResult : Option SimulatedScenarioCancelResult := none
  settlementResult : Option SimulatedScenarioSettlementResult := none
  disconnectResult : Option SimulatedScenarioDisconnectResult := none

namespace SimulatedScenarioOrderResult

def hasOutputs (result : SimulatedScenarioOrderResult) : Bool :=
  result.activationBook.isSome || result.fillEstimate.isSome || !result.feeEstimates.isEmpty ||
    !result.slippageEstimates.isEmpty || result.settlementResult.isSome || result.disconnectResult.isSome

def validateSettlementResult (fillEstimate : Option FillEstimate) (orderSequence : ℕ) :
    Option SimulatedScenarioSettlementResult → Result Unit
  | none => pure ()
  | some settlementResult => do
      raiseIf (¬∃ fill ∈ fillEstimate, fill.hasFill = true)
        (simulationConfigurationError "Scenario settlement results require a filled order")
      raiseIf (settlementResult.targetOrderSequence ≠ orderSequence)
        (simulationConfigurationError "Scenario settlement result must reference its order result sequence")
      raiseIf (∃ fill ∈ fillEstimate, settlementResult.estimate.quantity ≠ fill.filledQuantity)
        (simulationConfigurationError "Scenario settlement quantity must match filled quantity")

def validateOutputs (result : SimulatedScenarioOrderResult) : Result Unit :=
  if result.admission.rejected then do
    raiseIf (result.hasOutputs = true)
      (simulationConfigurationError "Rejected scenario orders must not include simulated order outputs")
    raiseIf (result.cancelResult.isSome)
      (simulationConfigurationError "Rejected scenario orders must not include cancellation outputs")
  else if ∃ cancel ∈ result.cancelResult, cancel.outcome = .beforeActivation then
    raiseIf (result.hasOutputs = true)
      (simulationConfigurationError "Pre-activation cancelled scenario orders must not include fill outputs")
  else
    match result.activationBook, result.fillEstimate with
    | some _, some fill => do
        raiseIf (result.feeEstimates.length ≠ fill.components.length)
          (simulationConfigurationError "Scenario order fee estimates must match fill components")
        raiseIf (result.slippageEstimates.length ≠ fill.components.length)
          (simulationConfigurationError "Scenario order slippage estimates must match fill components")
    | _, _ =>
        .error (simulationConfigurationError
          "Accepted scenario orders require activation book and fill estimate outputs")

/-- The checks of the constructor. -/
def validate (result : SimulatedScenarioOrderResult) : Result SimulatedScenarioOrderResult := do
  raiseIf (∃ book ∈ result.activationBook, book.isValid = false)
    (simulationConfigurationError "Simulation scenario initial_book must be valid")
  validateSettlementResult result.fillEstimate result.sequence result.settlementResult
  raiseIf (∃ disconnect ∈ result.disconnectResult, disconnect.targetOrderSequence ≠ result.sequence)
    (simulationConfigurationError "Scenario disconnect result must reference its order result sequence")
  result.validateOutputs
  pure result

theorem eq_of_validate {result validated : SimulatedScenarioOrderResult} (h : result.validate = .ok validated) :
    validated = result := by
  simp only [validate, bind_eq_ok, pure_eq_ok] at h
  obtain ⟨-, -, -, -, -, -, -, -, rfl⟩ := h
  rfl

/-- The estimate when it is a fill against the book. -/
def takerFill (result : SimulatedScenarioOrderResult) : Option FillEstimate :=
  result.fillEstimate.filter fun estimate => estimate.hasFill && decide (estimate.liquidityRole = .taker)

end SimulatedScenarioOrderResult

/-! ## One order -/

/-- `best_ask` of a buy and `best_bid` of a sell refuse an invalid book. -/
def postOnlyWouldCross (intent : OrderIntent) (snapshot : OrderBookSnapshot) : Result Bool :=
  match intent.limitPrice with
  | none => pure false
  | some limitPrice =>
      if intent.postOnly = false then pure false
      else do
        OrderBook.validateSnapshot snapshot
        match intent.side with
        | .buy => pure (decide (∃ ask ∈ snapshot.asks.head?, ask.price ≤ limitPrice))
        | .sell => pure (decide (∃ bid ∈ snapshot.bids.head?, limitPrice ≤ bid.price))

def postOnlyRejectionAdmission (admission : SimulatedExchangeOrderAdmission) :
    Result SimulatedExchangeOrderAdmission :=
  SimulatedExchangeOrderAdmission.create admission.intent admission.marketStatus
    ⟨false, .postOnlyWouldCross, "post-only order would cross at activation"⟩ admission.submittedAt none none
    admission.requiredBalance admission.availableBalance

def estimateFees (feeModel : FeeModel) (exchange : String) (fillEstimate : FillEstimate) :
    Result (List FeeEstimate) :=
  fillEstimate.components.mapM fun component =>
    feeModel.estimate exchange component.price component.quantity component.liquidityRole

def estimateSlippage (slippageModel : SlippageModel) (fillEstimate : FillEstimate) :
    Result (List SlippageEstimate) :=
  fillEstimate.components.mapM fun component =>
    slippageModel.estimate fillEstimate.side component.price component.quantity component.liquidityRole

def estimateSettlement (settlementModel : SettlementModel) (fillEstimate : FillEstimate) (intent : OrderIntent)
    (sequence : ℕ) (winningOutcomeIds : List OutcomeId) : Result (Option SimulatedScenarioSettlementResult) :=
  if fillEstimate.hasFill = false then pure none
  else if winningOutcomeIds = [] ∧ settlementModel.isNoSettlement = false then pure none
  else
    (settlementModel.estimate intent.outcomeId fillEstimate.filledQuantity winningOutcomeIds).map fun estimate =>
      some ⟨sequence, sequence, estimate⟩

/-- The cost models stand for `_fee_model_for_scenario`, `_slippage_model_for_scenario` and
    `_settlement_model_for_scenario` of the runner's models: they read the configuration, and the fee table the
    exchange of the initial book. -/
structure DeterministicScenarioRunner where
  exchange : SimulatedExchange
  fillModel : FillModel
  feeModelForScenario : SimulationConfiguration → String → Result FeeModel
  slippageModelForScenario : SimulationConfiguration → Result SlippageModel
  settlementModelForScenario : SimulationConfiguration → Result SettlementModel
  marketStatus : MarketStatus := .open

/-- What `run` takes from the configuration before it looks at the orders. -/
structure RunSettings where
  feeModel : FeeModel
  slippageModel : SlippageModel
  settlementModel : SettlementModel
  winningOutcomeIds : List OutcomeId
  availableBalance : Option ℚ
  disconnectWindow : Option DisconnectWindow

namespace DeterministicScenarioRunner

variable (runner : DeterministicScenarioRunner)

def settings (configuration : SimulationConfiguration) (exchange : String) : Result RunSettings := do
  let feeModel ← runner.feeModelForScenario configuration exchange
  let slippageModel ← runner.slippageModelForScenario configuration
  let settlementModel ← runner.settlementModelForScenario configuration
  let winningOutcomeIds ← settlementWinningOutcomeIdsFromConfiguration configuration
  let availableBalance ← availableBalanceFromConfiguration parsers configuration
  let disconnectWindow ← disconnectWindowFromConfiguration parsers configuration
  pure { feeModel, slippageModel, settlementModel, winningOutcomeIds, availableBalance, disconnectWindow }

/-- The call of `admit_order`. -/
def admitOrder (settings : RunSettings) (intent : OrderIntent) (submittedAt : UTCDateTime) :
    Result SimulatedExchangeOrderAdmission :=
  runner.exchange.admitOrder intent runner.marketStatus submittedAt
    (settings.availableBalance.bind fun _ => requiredBalanceForIntent ctx intent) settings.availableBalance

/-- `_run_order_action` from the estimate of the fill model on. -/
def finishOrder (settings : RunSettings) (scenario : SimulationScenario) (action : ScheduledOrderAction)
    (intent : OrderIntent) (sequence : ℕ) (cancelAction : Option ScheduledOrderAction)
    (admission : SimulatedExchangeOrderAdmission) (activationAt : UTCDateTime) (activationBook : OrderBookSnapshot)
    (bookEstimate : FillEstimate) : Result SimulatedScenarioOrderResult := do
  let fillEstimate := fillRestingOrderFromTradeEvents ctx scenario intent activationAt cancelAction
    settings.disconnectWindow bookEstimate
  let feeEstimates ← estimateFees settings.feeModel scenario.initialBook.exchange fillEstimate
  let slippageEstimates ← estimateSlippage settings.slippageModel fillEstimate
  let cancelResult := cancelAction.map fun cancel =>
    Scenarios.cancelResult cancel sequence (if fillEstimate.hasFill then .fillRaceLost else .afterActivationNoFill)
  let settlementResult ←
    estimateSettlement settings.settlementModel fillEstimate intent sequence settings.winningOutcomeIds
  let disconnectResult := disconnectResultForOrder ctx scenario intent sequence activationAt cancelResult
    settings.disconnectWindow fillEstimate
  SimulatedScenarioOrderResult.validate {
    sequence, action, admission
    activationBook := some activationBook
    fillEstimate := some fillEstimate
    feeEstimates, slippageEstimates, cancelResult, settlementResult, disconnectResult }

/-- `_run_order_action` of an order that is active from a time on. -/
def activateOrder (settings : RunSettings) (scenario : SimulationScenario) (action : ScheduledOrderAction)
    (intent : OrderIntent) (sequence : ℕ) (cancelAction : Option ScheduledOrderAction)
    (admission : SimulatedExchangeOrderAdmission) (activationAt : UTCDateTime) :
    Result SimulatedScenarioOrderResult :=
  match intent.limitPrice with
  | none =>
      .error (simulationConfigurationError
        "Accepted scenario order requires limit_price for deterministic fill")
  | some limitPrice => do
      let activationBook ← projectBookUntil scenario (some activationAt)
      if ← postOnlyWouldCross intent activationBook then
        let admission ← postOnlyRejectionAdmission admission
        SimulatedScenarioOrderResult.validate
          { sequence, action, admission, activationBook := none, fillEstimate := none }
      else
        let bookEstimate ← runner.fillModel.evaluate activationBook intent.side limitPrice intent.quantity
        finishOrder ctx settings scenario action intent sequence cancelAction admission activationAt activationBook
          bookEstimate

/-- `_run_order_action`. -/
def runOrderAction (settings : RunSettings) (scenario : SimulationScenario) (action : ScheduledOrderAction)
    (sequence : ℕ) (cancelAction : Option ScheduledOrderAction) : Result SimulatedScenarioOrderResult :=
  match action.action with
  | .cancelOrderRequest _ =>
      .error (simulationConfigurationError "Scenario runner order execution requires an order intent action")
  | .orderIntent intent => do
      let admission ← runner.admitOrder ctx settings intent action.scheduledAt
      if admission.rejected then
        SimulatedScenarioOrderResult.validate
          { sequence, action, admission, activationBook := none, fillEstimate := none }
      else
        match admission.activatesAt with
        | none => .error (simulationConfigurationError "Accepted scenario order is missing activation time")
        | some activatesAt =>
            match cancelAction.filter fun cancel => decide (cancel.scheduledAt < activatesAt) with
            | some cancel =>
                SimulatedScenarioOrderResult.validate
                  { sequence, action, admission, activationBook := none, fillEstimate := none,
                    cancelResult := some (cancelResult cancel sequence .beforeActivation) }
            | none =>
                runner.activateOrder ctx settings scenario action intent sequence cancelAction admission activatesAt

/-! ## The run -/

/-- The sequences of the cancels that results are about. -/
def cancelSequences (results : List SimulatedScenarioOrderResult) : List ℕ :=
  results.flatMap fun result => (result.cancelResult.map SimulatedScenarioCancelResult.sequence).toList

/-- The loop of `run`, from an index and the cancels used before it. -/
def runOrderActions (settings : RunSettings) (scenario : SimulationScenario) :
    ℕ → List ℕ → List ScheduledOrderAction → Result (List SimulatedScenarioOrderResult)
  | _, _, [] => pure []
  | index, usedCancelSequences, action :: actions => do
      let orderResult ← runner.runOrderAction ctx settings scenario action index
        (matchingCancelAction scenario action usedCancelSequences)
      let orderResults ←
        runOrderActions settings scenario (index + 1) (usedCancelSequences ++ cancelSequences [orderResult]) actions
      pure (orderResult :: orderResults)

structure SimulationScenarioRun where
  finalBook : OrderBookSnapshot
  orderResults : List SimulatedScenarioOrderResult

/-- `run`, up to the report that it builds from the final book and the order results. -/
def run (scenario : SimulationScenario) : Result SimulationScenarioRun := do
  validateRunnerConfiguration scenario.configuration
  let settings ← runner.settings parsers scenario.configuration scenario.initialBook.exchange
  let finalBook ← projectBookUntil scenario none
  let orderResults ←
    runner.runOrderActions ctx settings scenario 0 [] (orderIntentActions scenario.orderActions)
  validateNoUnmatchedCancelActions scenario.orderActions (cancelSequences orderResults)
  pure ⟨finalBook, orderResults⟩

end DeterministicScenarioRunner
end Scenarios
end Pmrp
