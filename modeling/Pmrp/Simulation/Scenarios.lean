import Pmrp.Lib.StableSort
import Pmrp.Schemas.Simulation
import Pmrp.Simulation.CostModels
import Pmrp.Simulation.Exchange
import Pmrp.Simulation.FillModels

/-!
# `Simulation.Scenarios` — running a scenario

The scenario and its runner of `simulation/scenarios.py`: which events a loop over market events sees, the book at
a time, the fills of a resting order, cancels, disconnects, and the run over the order intents. A scenario carries
what its constructor checks of the parts that a run reads.

The runner's models are values of the protocols. Its cost models are functions of the configuration, which is what
`_fee_model_for_scenario` and its siblings make of the models the runner was built with. The report that `run`
builds from the order results and the final book is not part of this file.
-/

namespace Pmrp

/-! ## Scenarios -/

inductive ScenarioMarketEventPayload
  | snapshot (snapshot : OrderBookSnapshot)
  | delta (delta : OrderBookDelta)
  | trade (trade : Trade)

/-- `payloadHash` is `_market_event_payload_hash`, the digest of the event's canonical text. The text shows the
    digits of each decimal, which its value forgets. -/
structure ScheduledMarketEvent where
  sequence : ℕ
  scheduledAt : UTCDateTime
  event : ScenarioMarketEventPayload
  payloadHash : String

inductive ScenarioOrderActionPayload
  | orderIntent (intent : OrderIntent)
  | cancelOrderRequest (request : CancelOrderRequest)
  deriving DecidableEq

structure ScheduledOrderAction where
  sequence : ℕ
  scheduledAt : UTCDateTime
  action : ScenarioOrderActionPayload
  deriving DecidableEq

namespace ScenarioMarketEventPayload

/-- `_validate_book_lineage` and `_validate_trade_lineage`. -/
def InLineage (book : OrderBookSnapshot) : ScenarioMarketEventPayload → Prop
  | snapshot s => s.marketId = book.marketId ∧ s.contractId = book.contractId ∧ s.exchange = book.exchange
  | delta d => d.marketId = book.marketId ∧ d.contractId = book.contractId ∧ d.exchange = book.exchange
  | trade t => t.marketId = book.marketId ∧ t.contractId = book.contractId ∧ t.exchange = book.exchange

end ScenarioMarketEventPayload

namespace ScenarioOrderActionPayload

/-- `_validate_order_action_lineage`. -/
def InLineage (book : OrderBookSnapshot) : ScenarioOrderActionPayload → Prop
  | orderIntent intent => intent.marketId = book.marketId ∧ intent.contractId = book.contractId
  | cancelOrderRequest request => request.exchange = book.exchange

end ScenarioOrderActionPayload

/-- The constructor sorts events and actions by sequence and refuses a sequence that stands twice. -/
structure SimulationScenario where
  configuration : SimulationConfiguration
  initialBook : OrderBookSnapshot
  marketEvents : List ScheduledMarketEvent
  orderActions : List ScheduledOrderAction
  initialBook_valid : initialBook.isValid = true
  marketEvents_sorted : marketEvents.Pairwise fun a b => a.sequence < b.sequence
  orderActions_sorted : orderActions.Pairwise fun a b => a.sequence < b.sequence
  marketEvents_lineage : ∀ event ∈ marketEvents, event.event.InLineage initialBook
  orderActions_lineage : ∀ action ∈ orderActions, action.action.InLineage initialBook

/-! ## Configuration -/

namespace Scenarios

def wrapConfigurationError {α : Type} (message : String) : Result α → Result α
  | .ok a => .ok a
  | .error e =>
      if e.kind = .typeError ∨ e.kind = .valueError then .error (simulationConfigurationError message) else .error e

def validateRunnerConfiguration (configuration : SimulationConfiguration) : Result Unit := do
  raiseIf (configuration.fillModel ∉ [FillModels.touchFillModelName, FillModels.tradeThroughFillModelName])
    (simulationConfigurationError "Scenario runner does not support the configured fill model")
  raiseIf (configuration.latencyModel ≠ FixedLatencyModel.fixedLatencyModelName)
    (simulationConfigurationError "Scenario runner currently supports fixed latency only")
  raiseIf (configuration.rejectionModel ≠ "bounded_rejection_v1")
    (simulationConfigurationError "Scenario runner currently supports bounded rejection only")
  raiseIf (configuration.feeModel ≠ "fee_table_v1")
    (simulationConfigurationError "Scenario runner currently supports fee table fees only")
  raiseIf (configuration.settlementModel ∉ ["binary_settlement_v1", "none_v1"])
    (simulationConfigurationError "Scenario runner currently supports binary or no settlement only")
  raiseIf (configuration.slippageModel ∉ ["bps_slippage_v1", "none_v1"])
    (simulationConfigurationError "Scenario runner currently supports BPS or no slippage only")

variable (parsers : ParameterParsers)

def availableBalanceFromConfiguration (configuration : SimulationConfiguration) : Result (Option ℚ) :=
  match configuration.parameter "balance.available" with
  | none => pure none
  | some configuredBalance => do
      let availableBalance ← wrapConfigurationError "Scenario runner balance configuration is invalid"
        (parsers.parseDecimal configuredBalance)
      raiseIf (availableBalance < 0)
        (simulationConfigurationError "Scenario runner balance configuration is invalid")
      pure (some availableBalance)

structure DisconnectWindow where
  disconnectedAt : UTCDateTime
  reconnectedAt : Option UTCDateTime
  deriving DecidableEq, Repr

def disconnectWindowFromConfiguration (configuration : SimulationConfiguration) :
    Result (Option DisconnectWindow) :=
  match configuration.parameter "connectivity.disconnected_at",
      configuration.parameter "connectivity.reconnected_at" with
  | none, none => pure none
  | none, some _ => .error (simulationConfigurationError "Scenario runner disconnect configuration is invalid")
  | some disconnectedAtRaw, reconnectedAtRaw => do
      let disconnectedAt ← wrapConfigurationError "Scenario runner disconnect configuration is invalid"
        (parsers.parseUtcDatetime disconnectedAtRaw)
      let reconnectedAt ← match reconnectedAtRaw with
        | none => pure none
        | some raw =>
            (wrapConfigurationError "Scenario runner disconnect configuration is invalid"
              (parsers.parseUtcDatetime raw)).map some
      raiseIf (∃ t ∈ reconnectedAt, t ≤ disconnectedAt)
        (simulationConfigurationError "Scenario runner disconnect configuration is invalid")
      pure (some ⟨disconnectedAt, reconnectedAt⟩)

def settlementWinningOutcomeIdsFromConfiguration (configuration : SimulationConfiguration) :
    Result (List OutcomeId) :=
  match configuration.parameter "settlement_winning_outcome_ids" with
  | none => pure []
  | some rawWinners =>
      wrapConfigurationError "Scenario runner settlement winning outcomes are invalid" do
        let winnerTokens := rawWinners.splitOn ","
        raiseIf (∃ token ∈ winnerTokens, token = "" ∨ isStripped token = false)
          (valueError "settlement winning outcome ids must be comma-separated canonical ids")
        let winners ← winnerTokens.mapM (Identifier.parse "OutcomeId" "out_")
        raiseIf (¬winners.Nodup) (valueError "settlement winning outcome ids must be unique")
        raiseIf (configuration.settlementModel = "none_v1")
          (valueError "no-settlement scenarios cannot configure winning outcomes")
        pure winners

/-! ## Market events -/

/-- The elements whose key is neither in `seen` nor that of an earlier element. -/
def unseen {α κ : Type} [DecidableEq κ] (key : α → κ) (seen : List κ) : List α → List α
  | [] => []
  | a :: as => if key a ∈ seen then unseen key seen as else a :: unseen key (key a :: seen) as

/-- How each loop over market events begins: it skips the events it does not look at, and then the payloads it has
    seen. -/
def distinctEvents (looksAt : ScheduledMarketEvent → Bool) (events : List ScheduledMarketEvent) :
    List ScheduledMarketEvent :=
  unseen ScheduledMarketEvent.payloadHash [] (events.filter looksAt)

def applyScheduledMarketEvent (snapshot : OrderBookSnapshot) (event : ScheduledMarketEvent) :
    Result OrderBookSnapshot :=
  match event.event with
  | .snapshot next => pure next
  | .delta delta => OrderBook.applyOrderBookDelta OrderBook.orderBookProjectionSnapshotReason snapshot delta
  | .trade _ => pure snapshot

def projectBookUntil (scenario : SimulationScenario) (through : Option UTCDateTime) : Result OrderBookSnapshot :=
  (distinctEvents (fun event => decide (∀ t ∈ through, event.scheduledAt ≤ t)) scenario.marketEvents).foldlM
    applyScheduledMarketEvent scenario.initialBook

/-! ## Resting orders -/

variable (ctx : DecimalContext)

def scheduledAtDuringDisconnect (scheduledAt : UTCDateTime) (disconnectWindow : Option DisconnectWindow) : Prop :=
  ∃ window ∈ disconnectWindow, window.disconnectedAt ≤ scheduledAt ∧
    ∀ reconnectedAt ∈ window.reconnectedAt, scheduledAt < reconnectedAt

instance (scheduledAt : UTCDateTime) (disconnectWindow : Option DisconnectWindow) :
    Decidable (scheduledAtDuringDisconnect scheduledAt disconnectWindow) :=
  inferInstanceAs (Decidable (∃ _ ∈ disconnectWindow, _))

def tradeFillsRestingIntent (trade : Trade) (intent : OrderIntent) : Bool :=
  match intent.limitPrice, trade.aggressorSide with
  | some limitPrice, some aggressorSide =>
      decide (trade.outcomeId = intent.outcomeId) &&
        match intent.side with
        | .buy => decide (aggressorSide = .sell ∧ trade.price ≤ limitPrice)
        | .sell => decide (aggressorSide = .buy ∧ limitPrice ≤ trade.price)
  | _, _ => false

/-- The loop of `_fill_resting_order_from_trade_events`: what remains, and the components. -/
def restingFills (intent : OrderIntent) : ℚ → List ScheduledMarketEvent → ℚ × List SimulatedFillComponent
  | remaining, [] => (remaining, [])
  | remaining, event :: events =>
      match event.event with
      | .trade trade =>
          if tradeFillsRestingIntent trade intent then
            let fillQuantity := min remaining trade.quantity
            if fillQuantity = 0 then (remaining, [])
            else
              let left := ctx.sub remaining fillQuantity
              let component : SimulatedFillComponent := ⟨trade.price, fillQuantity, .maker⟩
              if left = 0 then (left, [component])
              else
                let (left, components) := restingFills intent left events
                (left, component :: components)
          else restingFills intent remaining events
      | _ => restingFills intent remaining events

def averageFillPrice (components : List SimulatedFillComponent) : ℚ :=
  ctx.div (ctx.sum (components.map fun c => ctx.mul c.price c.quantity))
    (ctx.sum (components.map SimulatedFillComponent.quantity))

def restingTradeFillReasonCode (filledQuantity orderQuantity : ℚ) : String :=
  if filledQuantity < orderQuantity then "simulation_resting_trade_partial_fill"
  else "simulation_resting_trade_full_fill"

/-- The events that can fill a resting order. -/
def restingWindow (activationAt : UTCDateTime) (cancelAction : Option ScheduledOrderAction)
    (disconnectWindow : Option DisconnectWindow) (event : ScheduledMarketEvent) : Bool :=
  decide (activationAt ≤ event.scheduledAt ∧ (∀ cancel ∈ cancelAction, event.scheduledAt ≤ cancel.scheduledAt) ∧
    ¬scheduledAtDuringDisconnect event.scheduledAt disconnectWindow)

def fillRestingOrderFromTradeEvents (scenario : SimulationScenario) (intent : OrderIntent)
    (activationAt : UTCDateTime) (cancelAction : Option ScheduledOrderAction)
    (disconnectWindow : Option DisconnectWindow) (fillEstimate : FillEstimate) : FillEstimate :=
  if fillEstimate.hasFill then fillEstimate
  else
    let (remainingQuantity, components) := restingFills ctx intent fillEstimate.remainingQuantity
      (distinctEvents (restingWindow activationAt cancelAction disconnectWindow) scenario.marketEvents)
    if components = [] then fillEstimate
    else
      let filledQuantity := ctx.sub fillEstimate.orderQuantity remainingQuantity
      { fillEstimate with
        filledQuantity
        remainingQuantity
        averageFillPrice := some (averageFillPrice ctx components)
        liquidityRole := .maker
        components
        reasonCode := restingTradeFillReasonCode filledQuantity fillEstimate.orderQuantity }

/-! ## Cancels -/

def orderIntentActions (actions : List ScheduledOrderAction) : List ScheduledOrderAction :=
  actions.filter fun action => match action.action with
    | .orderIntent _ => true
    | .cancelOrderRequest _ => false

def cancelRequestActions (actions : List ScheduledOrderAction) : List ScheduledOrderAction :=
  actions.filter fun action => match action.action with
    | .orderIntent _ => false
    | .cancelOrderRequest _ => true

def cancelMatchesOrderIntent (cancelAction action : ScheduledOrderAction) (exchange : String)
    (usedCancelSequences : List ℕ) : Bool :=
  if cancelAction.sequence ∈ usedCancelSequences then false
  else
    match cancelAction.action, action.action with
    | .cancelOrderRequest request, .orderIntent intent =>
        action.scheduledAt ≤ cancelAction.scheduledAt ∧ request.exchange = exchange ∧
          request.correlationId = intent.correlationId
    | _, _ => false

def cancelCandidates (scenario : SimulationScenario) (action : ScheduledOrderAction)
    (usedCancelSequences : List ℕ) : List ScheduledOrderAction :=
  (cancelRequestActions scenario.orderActions).filter fun cancelAction =>
    cancelMatchesOrderIntent cancelAction action scenario.initialBook.exchange usedCancelSequences

/-- The key `(scheduled_at, sequence)`. -/
def cancelKey (candidate : ScheduledOrderAction) : ℤ ×ₗ ℕ := toLex (candidate.scheduledAt, candidate.sequence)

def matchingCancelAction (scenario : SimulationScenario) (action : ScheduledOrderAction)
    (usedCancelSequences : List ℕ) : Option ScheduledOrderAction :=
  firstMinimum cancelKey (cancelCandidates scenario action usedCancelSequences)

def validateNoUnmatchedCancelActions (actions : List ScheduledOrderAction) (usedCancelSequences : List ℕ) :
    Result Unit :=
  raiseIf (∃ action ∈ cancelRequestActions actions, action.sequence ∉ usedCancelSequences)
    (simulationConfigurationError "Scenario cancel action did not match an order intent")

inductive CancelOutcome
  | afterActivationNoFill
  | beforeActivation
  | fillRaceLost
  deriving DecidableEq, Repr

def CancelOutcome.code : CancelOutcome → String
  | afterActivationNoFill => "simulation_cancel_after_activation_no_fill"
  | beforeActivation => "simulation_cancel_before_activation"
  | fillRaceLost => "simulation_cancel_fill_race_lost"

structure SimulatedScenarioCancelResult where
  sequence : ℕ
  action : ScheduledOrderAction
  targetOrderSequence : ℕ
  requestedAt : UTCDateTime
  effectiveAt : UTCDateTime
  outcome : CancelOutcome
  deriving DecidableEq

def cancelResult (action : ScheduledOrderAction) (targetOrderSequence : ℕ) (outcome : CancelOutcome) :
    SimulatedScenarioCancelResult :=
  ⟨action.sequence, action, targetOrderSequence, action.scheduledAt, action.scheduledAt, outcome⟩

/-! ## Disconnects -/

structure SimulatedScenarioDisconnectResult where
  sequence : ℕ
  targetOrderSequence : ℕ
  disconnectedAt : UTCDateTime
  reconnectedAt : Option UTCDateTime
  outcomeCode : String := "simulation_disconnect_open_order"
  deriving DecidableEq

/-- The loop of `_pre_disconnect_resting_fill_quantity`. -/
def restingFillQuantity (intent : OrderIntent) (orderQuantity : ℚ) : ℚ → List ScheduledMarketEvent → ℚ
  | filledQuantity, [] => filledQuantity
  | filledQuantity, event :: events =>
      match event.event with
      | .trade trade =>
          if tradeFillsRestingIntent trade intent then
            let filled := ctx.add filledQuantity (min (ctx.sub orderQuantity filledQuantity) trade.quantity)
            if orderQuantity ≤ filled then orderQuantity else restingFillQuantity intent orderQuantity filled events
          else restingFillQuantity intent orderQuantity filledQuantity events
      | _ => restingFillQuantity intent orderQuantity filledQuantity events

def preDisconnectResting (activationAt disconnectedAt : UTCDateTime) (event : ScheduledMarketEvent) : Bool :=
  decide (activationAt ≤ event.scheduledAt ∧ event.scheduledAt < disconnectedAt)

def preDisconnectRestingFillQuantity (scenario : SimulationScenario) (intent : OrderIntent)
    (activationAt disconnectedAt : UTCDateTime) (orderQuantity : ℚ) : ℚ :=
  restingFillQuantity ctx intent orderQuantity 0
    (distinctEvents (preDisconnectResting activationAt disconnectedAt) scenario.marketEvents)

def disconnectResultForOrder (scenario : SimulationScenario) (intent : OrderIntent) (sequence : ℕ)
    (activationAt : UTCDateTime) (cancelResult : Option SimulatedScenarioCancelResult)
    (disconnectWindow : Option DisconnectWindow) (fillEstimate : FillEstimate) :
    Option SimulatedScenarioDisconnectResult :=
  match disconnectWindow with
  | none => none
  | some window =>
      if window.disconnectedAt ≤ activationAt then none
      else if ∃ cancel ∈ cancelResult, cancel.effectiveAt ≤ window.disconnectedAt then none
      else
        let takerQuantity := if fillEstimate.liquidityRole = .taker then fillEstimate.filledQuantity else 0
        if fillEstimate.orderQuantity ≤ takerQuantity then none
        else
          let filledBeforeDisconnect := ctx.add takerQuantity
            (preDisconnectRestingFillQuantity ctx scenario intent activationAt window.disconnectedAt
              (ctx.sub fillEstimate.orderQuantity takerQuantity))
          if fillEstimate.orderQuantity ≤ filledBeforeDisconnect then none
          else
            some { sequence, targetOrderSequence := sequence, disconnectedAt := window.disconnectedAt,
                   reconnectedAt := window.reconnectedAt }

end Scenarios
end Pmrp
