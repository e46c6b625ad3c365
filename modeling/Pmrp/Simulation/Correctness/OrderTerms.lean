import Pmrp.Simulation.Correctness.CancelAssignment
import Pmrp.Simulation.Correctness.Disconnects

/-!
# `Simulation.Correctness.OrderTerms` — time in force and expiry of simulated orders

No loop of a run looks at the time in force or the expiry of an intent. `TermChange` changes both on every intent of a
scenario; `run_terms` says that the run of the changed scenario is the changed run. What an order can still count on
is that a fill at its activation is its only one.
-/

namespace Pmrp
namespace Scenarios

/-! ## Changing the terms of orders -/

/-- Another time in force and another expiry for each intent. -/
structure TermChange where
  timeInForce : OrderIntent → TimeInForce
  expiresAt : OrderIntent → Option UTCDateTime
  expires_after : ∀ intent, ∀ t ∈ expiresAt intent, intent.createdAt < t

namespace TermChange

variable (c : TermChange)

def intent (intent : OrderIntent) : OrderIntent :=
  { intent with
    timeInForce := c.timeInForce intent
    expiresAt := c.expiresAt intent
    expires_after_creation := c.expires_after intent }

def action (action : ScheduledOrderAction) : ScheduledOrderAction :=
  match action.action with
  | .orderIntent intent => { action with action := .orderIntent (c.intent intent) }
  | .cancelOrderRequest _ => action

def admission (admission : SimulatedExchangeOrderAdmission) : SimulatedExchangeOrderAdmission :=
  { admission with intent := c.intent admission.intent }

def result (result : SimulatedScenarioOrderResult) : SimulatedScenarioOrderResult :=
  { result with action := c.action result.action, admission := c.admission result.admission }

def run (run : DeterministicScenarioRunner.SimulationScenarioRun) : DeterministicScenarioRunner.SimulationScenarioRun :=
  { run with orderResults := run.orderResults.map c.result }

@[simp] theorem action_sequence (action : ScheduledOrderAction) : (c.action action).sequence = action.sequence := by
  unfold TermChange.action
  split <;> rfl

theorem action_inLineage {book : OrderBookSnapshot} {action : ScheduledOrderAction}
    (h : action.action.InLineage book) : (c.action action).action.InLineage book := by
  unfold TermChange.action
  cases haction : action.action with
  | orderIntent intent =>
      rw [haction] at h
      exact h
  | cancelOrderRequest request =>
      dsimp only
      rw [haction] at h ⊢
      exact h

def scenario (scenario : SimulationScenario) : SimulationScenario :=
  { scenario with
    orderActions := scenario.orderActions.map c.action
    orderActions_sorted := List.pairwise_map.mpr (scenario.orderActions_sorted.imp fun h => by simpa using h)
    orderActions_lineage := List.forall_mem_map.mpr fun action haction =>
      c.action_inLineage (scenario.orderActions_lineage action haction) }

/-! ## Cancels -/

theorem orderIntentActions_map (actions : List ScheduledOrderAction) :
    orderIntentActions (actions.map c.action) = (orderIntentActions actions).map c.action := by
  rw [orderIntentActions, orderIntentActions, List.filter_map]
  refine congrArg (List.map c.action) (List.filter_congr fun action _ => ?_)
  show (match (c.action action).action with | .orderIntent _ => true | .cancelOrderRequest _ => false) = _
  unfold TermChange.action
  cases haction : action.action <;> simp [haction]

theorem cancelRequestActions_map (actions : List ScheduledOrderAction) :
    cancelRequestActions (actions.map c.action) = cancelRequestActions actions := by
  induction actions with
  | nil => rfl
  | cons action actions ih =>
      unfold cancelRequestActions at ih ⊢
      rw [List.map_cons]
      cases haction : action.action with
      | orderIntent intent =>
          rw [List.filter_cons_of_neg (by simp [TermChange.action, haction]),
            List.filter_cons_of_neg (by simp [haction])]
          exact ih
      | cancelOrderRequest request =>
          have hsame : c.action action = action := by simp [TermChange.action, haction]
          rw [hsame, List.filter_cons_of_pos (by simp [haction]), List.filter_cons_of_pos (by simp [haction]), ih]

theorem matchingCancelAction_eq (scenario : SimulationScenario) (action : ScheduledOrderAction) (used : List ℕ) :
    matchingCancelAction (c.scenario scenario) (c.action action) used = matchingCancelAction scenario action used := by
  unfold matchingCancelAction cancelCandidates
  refine congrArg (firstMinimum cancelKey) ?_
  show ((cancelRequestActions (scenario.orderActions.map c.action)).filter _) = _
  rw [cancelRequestActions_map]
  refine List.filter_congr fun cancel _ => ?_
  unfold cancelMatchesOrderIntent TermChange.action
  cases haction : action.action with
  | cancelOrderRequest request =>
      dsimp only
      rw [haction]
      rfl
  | orderIntent intent =>
      dsimp only
      cases cancel.action <;> rfl

/-! ## One order -/

open DeterministicScenarioRunner

variable {ctx : DecimalContext} {scenario : SimulationScenario} {settings : RunSettings}
  {runner : DeterministicScenarioRunner}

theorem restingFills_eq (order : OrderIntent) (remaining : ℚ) (events : List ScheduledMarketEvent) :
    restingFills ctx (c.intent order) remaining events = restingFills ctx order remaining events := by
  induction events generalizing remaining with
  | nil => rfl
  | cons event events ih =>
      have hfills : ∀ trade, tradeFillsRestingIntent trade (c.intent order) = tradeFillsRestingIntent trade order :=
        fun _ => rfl
      cases hevent : event.event <;> simp only [restingFills, hevent, hfills, ih]

theorem restingFillQuantity_eq (order : OrderIntent) (orderQuantity filled : ℚ) (events : List ScheduledMarketEvent) :
    restingFillQuantity ctx (c.intent order) orderQuantity filled events =
      restingFillQuantity ctx order orderQuantity filled events := by
  induction events generalizing filled with
  | nil => rfl
  | cons event events ih =>
      have hfills : ∀ trade, tradeFillsRestingIntent trade (c.intent order) = tradeFillsRestingIntent trade order :=
        fun _ => rfl
      cases hevent : event.event <;> simp only [restingFillQuantity, hevent, hfills, ih]

theorem create_terms (order : OrderIntent) (marketStatus : MarketStatus) (decision : RejectionDecision)
    (submittedAt : UTCDateTime) (acceptedAt activatesAt : Option UTCDateTime)
    (requiredBalance availableBalance : Option ℚ) :
    SimulatedExchangeOrderAdmission.create (c.intent order) marketStatus decision submittedAt acceptedAt activatesAt
        requiredBalance availableBalance =
      (SimulatedExchangeOrderAdmission.create order marketStatus decision submittedAt acceptedAt activatesAt
        requiredBalance availableBalance).map c.admission := by
  unfold SimulatedExchangeOrderAdmission.create
  split_ifs <;> rfl

theorem validate_terms (result : SimulatedScenarioOrderResult) :
    (c.result result).validate = result.validate.map c.result := by
  have houtputs : (c.result result).validateOutputs = result.validateOutputs := rfl
  unfold SimulatedScenarioOrderResult.validate
  rw [houtputs]
  simp only [map_bind_eq]
  rfl

theorem admitOrder_terms {rejectionModel : RejectionModel} {latencyModel : LatencyModel}
    (hexchange : runner.exchange = deterministicSimulatedExchange rejectionModel latencyModel) (order : OrderIntent)
    (submittedAt : UTCDateTime) :
    runner.admitOrder ctx settings (c.intent order) submittedAt =
      (runner.admitOrder ctx settings order submittedAt).map c.admission := by
  unfold admitOrder
  rw [hexchange]
  simp only [deterministicSimulatedExchange, map_bind_eq, create_terms]
  refine bind_congr fun decision => ?_
  cases decision.accepted
  · rfl
  · exact (map_bind_eq _ _ _).symm

theorem finishOrder_terms (action : ScheduledOrderAction) (order : OrderIntent) (sequence : ℕ)
    (cancelAction : Option ScheduledOrderAction) (admission : SimulatedExchangeOrderAdmission)
    (activationAt : UTCDateTime) (book : OrderBookSnapshot) (bookEstimate : FillEstimate) :
    finishOrder ctx settings (c.scenario scenario) (c.action action) (c.intent order) sequence cancelAction
        (c.admission admission) activationAt book bookEstimate =
      (finishOrder ctx settings scenario action order sequence cancelAction admission activationAt book
        bookEstimate).map c.result := by
  have hfill : fillRestingOrderFromTradeEvents ctx (c.scenario scenario) (c.intent order) activationAt cancelAction
        settings.disconnectWindow bookEstimate =
      fillRestingOrderFromTradeEvents ctx scenario order activationAt cancelAction settings.disconnectWindow
        bookEstimate := by
    unfold fillRestingOrderFromTradeEvents
    rw [restingFills_eq]
    rfl
  have hdisconnect : ∀ cancelled estimate, disconnectResultForOrder ctx (c.scenario scenario) (c.intent order) sequence
        activationAt cancelled settings.disconnectWindow estimate =
      disconnectResultForOrder ctx scenario order sequence activationAt cancelled settings.disconnectWindow
        estimate := by
    intro cancelled estimate
    unfold disconnectResultForOrder preDisconnectRestingFillQuantity
    simp only [restingFillQuantity_eq]
    rfl
  unfold finishOrder
  simp only [hfill, hdisconnect, map_bind_eq]
  refine bind_congr fun fees => bind_congr fun slippage => bind_congr fun settlement => ?_
  exact c.validate_terms
    { sequence, action, admission
      activationBook := some book
      fillEstimate := some (fillRestingOrderFromTradeEvents ctx scenario order activationAt cancelAction
        settings.disconnectWindow bookEstimate)
      feeEstimates := fees
      slippageEstimates := slippage
      settlementResult := settlement
      cancelResult := _
      disconnectResult := _ }

theorem validateOrder_terms (action : ScheduledOrderAction) (sequence : ℕ) (admission : SimulatedExchangeOrderAdmission)
    (cancelled : Option SimulatedScenarioCancelResult) :
    SimulatedScenarioOrderResult.validate
        { sequence, action := c.action action, admission := c.admission admission, activationBook := none,
          fillEstimate := none, cancelResult := cancelled } =
      (SimulatedScenarioOrderResult.validate
        { sequence, action, admission, activationBook := none, fillEstimate := none,
          cancelResult := cancelled }).map c.result :=
  c.validate_terms { sequence, action, admission, activationBook := none, fillEstimate := none,
                     cancelResult := cancelled }

theorem projectBookUntil_terms (t : Option UTCDateTime) :
    projectBookUntil (c.scenario scenario) t = projectBookUntil scenario t := rfl

theorem postOnlyRejectionAdmission_terms (admission : SimulatedExchangeOrderAdmission) :
    postOnlyRejectionAdmission (c.admission admission) = (postOnlyRejectionAdmission admission).map c.admission := by
  unfold postOnlyRejectionAdmission
  exact c.create_terms _ _ _ _ _ _ _ _

theorem activateOrder_terms (action : ScheduledOrderAction) (order : OrderIntent) (sequence : ℕ)
    (cancelAction : Option ScheduledOrderAction) (admission : SimulatedExchangeOrderAdmission)
    (activationAt : UTCDateTime) :
    runner.activateOrder ctx settings (c.scenario scenario) (c.action action) (c.intent order) sequence cancelAction
        (c.admission admission) activationAt =
      (runner.activateOrder ctx settings scenario action order sequence cancelAction admission activationAt).map
        c.result := by
  have hprice : (c.intent order).limitPrice = order.limitPrice := rfl
  have hcross : ∀ book, postOnlyWouldCross (c.intent order) book = postOnlyWouldCross order book := fun _ => rfl
  have hmodel : ∀ book limitPrice, runner.fillModel.evaluate book (c.intent order).side limitPrice
      (c.intent order).quantity = runner.fillModel.evaluate book order.side limitPrice order.quantity :=
    fun _ _ => rfl
  unfold activateOrder
  rw [hprice]
  cases order.limitPrice with
  | none => rfl
  | some limitPrice =>
      simp only [projectBookUntil_terms, hcross, hmodel, map_bind_eq]
      refine bind_congr fun book => bind_congr fun crosses => ?_
      cases crosses with
      | true =>
          simp only [if_true, postOnlyRejectionAdmission_terms, map_bind_eq, bind_map_eq]
          exact bind_congr fun rejection => c.validateOrder_terms action sequence rejection none
      | false =>
          simp only [Bool.false_eq_true, if_false, map_bind_eq, finishOrder_terms]

theorem runOrderAction_terms {rejectionModel : RejectionModel} {latencyModel : LatencyModel}
    (hexchange : runner.exchange = deterministicSimulatedExchange rejectionModel latencyModel)
    (action : ScheduledOrderAction) (sequence : ℕ) (cancelAction : Option ScheduledOrderAction) :
    runner.runOrderAction ctx settings (c.scenario scenario) (c.action action) sequence cancelAction =
      (runner.runOrderAction ctx settings scenario action sequence cancelAction).map c.result := by
  unfold runOrderAction
  cases haction : action.action with
  | cancelOrderRequest request =>
      have hsame : c.action action = action := by simp [TermChange.action, haction]
      rw [hsame, haction]
      rfl
  | orderIntent order =>
      have hchanged : (c.action action).action = .orderIntent (c.intent order) := by
        simp only [TermChange.action, haction]
      have hscheduled : (c.action action).scheduledAt = action.scheduledAt := by
        simp only [TermChange.action, haction]
      rw [hchanged, hscheduled]
      dsimp only
      rw [c.admitOrder_terms hexchange, bind_map_eq, map_bind_eq]
      refine bind_congr fun admission => ?_
      have hrejected : (c.admission admission).rejected = admission.rejected := rfl
      have hactivates : (c.admission admission).activatesAt = admission.activatesAt := rfl
      rw [hrejected, hactivates]
      cases admission.rejected with
      | true => exact c.validateOrder_terms action sequence admission none
      | false =>
          simp only [Bool.false_eq_true, if_false]
          cases admission.activatesAt with
          | none => rfl
          | some activatesAt =>
              dsimp only
              cases cancelAction.filter fun cancel => decide (cancel.scheduledAt < activatesAt) with
              | some cancel => exact c.validateOrder_terms action sequence admission _
              | none => exact c.activateOrder_terms action order sequence cancelAction admission activatesAt

/-! ## The run -/

theorem cancelSequences_map (results : List SimulatedScenarioOrderResult) :
    cancelSequences (results.map c.result) = cancelSequences results := by
  unfold cancelSequences
  rw [List.flatMap_map]
  rfl

theorem runOrderActions_terms {rejectionModel : RejectionModel} {latencyModel : LatencyModel}
    (hexchange : runner.exchange = deterministicSimulatedExchange rejectionModel latencyModel) (index : ℕ)
    (used : List ℕ) (actions : List ScheduledOrderAction) :
    runner.runOrderActions ctx settings (c.scenario scenario) index used (actions.map c.action) =
      (runner.runOrderActions ctx settings scenario index used actions).map (List.map c.result) := by
  induction actions generalizing index used with
  | nil => rfl
  | cons action actions ih =>
      simp only [List.map_cons, runOrderActions, matchingCancelAction_eq, c.runOrderAction_terms hexchange, map_bind_eq,
        bind_map_eq]
      refine bind_congr fun result => ?_
      have hused : cancelSequences [c.result result] = cancelSequences [result] := c.cancelSequences_map [result]
      rw [hused, ih, bind_map_eq]
      rfl

/-- **Terms change nothing else**: the run of the changed scenario is the changed run. -/
theorem run_terms {rejectionModel : RejectionModel} {latencyModel : LatencyModel} {parsers : ParameterParsers}
    (hexchange : runner.exchange = deterministicSimulatedExchange rejectionModel latencyModel) :
    runner.run parsers ctx (c.scenario scenario) = (runner.run parsers ctx scenario).map c.run := by
  have hactions : (c.scenario scenario).orderActions = scenario.orderActions.map c.action := rfl
  have hconfiguration : (c.scenario scenario).configuration = scenario.configuration := rfl
  have hbook : (c.scenario scenario).initialBook = scenario.initialBook := rfl
  unfold DeterministicScenarioRunner.run
  rw [hactions, hconfiguration, hbook, orderIntentActions_map]
  simp only [projectBookUntil_terms, c.runOrderActions_terms hexchange, map_bind_eq, bind_map_eq, cancelSequences_map]
  refine bind_congr fun _ => bind_congr fun settings => bind_congr fun book => bind_congr fun results => ?_
  unfold validateNoUnmatchedCancelActions
  rw [cancelRequestActions_map]
  rfl

end TermChange

/-! ## One fill source -/

open DeterministicScenarioRunner

variable {ctx : DecimalContext} {scenario : SimulationScenario} {settings : RunSettings}
  {runner : DeterministicScenarioRunner} {result : SimulatedScenarioOrderResult}

/-- An order with a fill at its activation keeps the estimate of the book, and no later event adds to it. -/
def FilledOnce (runner : DeterministicScenarioRunner) (scenario : SimulationScenario)
    (result : SimulatedScenarioOrderResult) : Prop :=
  ∀ estimate ∈ result.fillEstimate, ∃ intent activationAt bookEstimate,
    result.action.action = .orderIntent intent ∧ result.admission.activatesAt = some activationAt ∧
      BookEstimate runner scenario intent activationAt bookEstimate ∧
        (estimate = bookEstimate ∨ bookEstimate.hasFill = false)

theorem finishOrder_action {action : ScheduledOrderAction} {intent : OrderIntent} {index : ℕ}
    {cancelAction : Option ScheduledOrderAction} {admission : SimulatedExchangeOrderAdmission}
    {activationAt : UTCDateTime} {book : OrderBookSnapshot} {bookEstimate : FillEstimate}
    (h : finishOrder ctx settings scenario action intent index cancelAction admission activationAt book bookEstimate
      = .ok result) : result.action = action := by
  simp only [finishOrder, bind_eq_ok] at h
  obtain ⟨_, -, _, -, _, -, h⟩ := h
  rw [SimulatedScenarioOrderResult.eq_of_validate h]

theorem filledOnce_of_runOrderAction {action : ScheduledOrderAction} {index : ℕ}
    {cancelAction : Option ScheduledOrderAction}
    (h : runner.runOrderAction ctx settings scenario action index cancelAction = .ok result) :
    FilledOnce runner scenario result := by
  obtain ⟨intent, admission, hintent, -, hcourse⟩ := course_of_runOrderAction h
  intro estimate hestimate
  cases hcourse with
  | rejected => cases hestimate
  | cancelled => cases hestimate
  | crossed => cases hestimate
  | @finished activationAt limitPrice book bookEstimate _ hactivates _ hprice hbook _ hevaluate hfinish =>
      obtain ⟨filled, _, hfilled, hfill, -⟩ := finishOrder_outputs hfinish
      rw [hfill] at hestimate
      obtain rfl := Option.some.inj hestimate
      refine ⟨intent, activationAt, bookEstimate, ?_, ?_, ⟨book, limitPrice, hbook, hprice, hevaluate⟩, ?_⟩
      · rw [finishOrder_action hfinish, hintent]
      · rw [(finishOrder_spec hfinish).1, hactivates]
      · cases hhas : bookEstimate.hasFill with
        | false => exact Or.inr rfl
        | true =>
            left
            rw [hfilled]
            unfold fillRestingOrderFromTradeEvents
            exact if_pos hhas

theorem filledOnce_of_runOrderActions {index : ℕ} {used : List ℕ} {actions : List ScheduledOrderAction}
    {results : List SimulatedScenarioOrderResult}
    (h : runner.runOrderActions ctx settings scenario index used actions = .ok results) :
    ∀ result ∈ results, FilledOnce runner scenario result := by
  induction actions generalizing index used results with
  | nil =>
      obtain rfl := pure_eq_ok.mp h
      exact List.forall_mem_nil _
  | cons action actions ih =>
      obtain ⟨first, hfirst, h⟩ := bind_eq_ok.mp h
      obtain ⟨rest, hrest, h⟩ := bind_eq_ok.mp h
      obtain rfl := pure_eq_ok.mp h
      exact List.forall_mem_cons.mpr ⟨filledOnce_of_runOrderAction hfirst, ih hrest⟩

/-- **Orders are simulated without their terms.** Whatever the time in force and the expiry of the intents are, the
    exchange admits, activates, fills and cancels them alike; and an order that the book fills at its activation, in
    full or in part, gets nothing from a later event. -/
theorem orders_run_without_terms {rejectionModel : RejectionModel} {latencyModel : LatencyModel}
    {parsers : ParameterParsers}
    (hexchange : runner.exchange = deterministicSimulatedExchange rejectionModel latencyModel)
    (scenario : SimulationScenario) :
    (∀ c : TermChange, runner.run parsers ctx (c.scenario scenario) = (runner.run parsers ctx scenario).map c.run) ∧
      ∀ run, runner.run parsers ctx scenario = .ok run →
        ∀ result ∈ run.orderResults, FilledOnce runner scenario result := by
  refine ⟨fun c => c.run_terms hexchange, fun run hrun => ?_⟩
  obtain ⟨settings, -, hresults⟩ := run_eq_ok hrun
  exact filledOnce_of_runOrderActions hresults

/-! ## Orders that end before the trade that fills them -/

def immediateOrCancel : TermChange where
  timeInForce _ := .ioc
  expiresAt _ := none
  expires_after _ := by rintro t ⟨⟩

def fillOrKill : TermChange where
  timeInForce _ := .fok
  expiresAt _ := none
  expires_after _ := by rintro t ⟨⟩

/-- Orders created before time 12 expire at it. -/
def expiringAtTwelve : TermChange where
  timeInForce intent := intent.timeInForce
  expiresAt intent := if intent.createdAt < 12 then some 12 else none
  expires_after intent := by
    intro t ht
    split_ifs at ht with hbefore
    · cases ht
      exact hbefore
    · cases ht

theorem orders_run_without_terms_pastTrade : ∃ run, rainRunner.run noParameters defaultContext pastTrade = .ok run ∧
    rainRunner.run noParameters defaultContext (immediateOrCancel.scenario pastTrade) =
      .ok (immediateOrCancel.run run) ∧
    ∀ result ∈ run.orderResults, FilledOnce rainRunner pastTrade result := by
  obtain ⟨run, hrun⟩ := rain_run pastTrade (by decide +kernel)
  obtain ⟨hterms, honce⟩ := @orders_run_without_terms defaultContext rainRunner _ _ noParameters rfl pastTrade
  refine ⟨run, hrun, ?_, honce run hrun⟩
  rw [hterms immediateOrCancel, hrun]
  rfl

/-- The terms of an order, its activation, and what is filled and left of it. -/
structure TermOutcome where
  timeInForce : TimeInForce
  expiresAt : Option UTCDateTime
  activatesAt : Option UTCDateTime
  filledQuantity : ℚ
  remainingQuantity : ℚ
  deriving DecidableEq

def termOutcome (result : SimulatedScenarioOrderResult) : Option TermOutcome :=
  match result.action.action, result.fillEstimate with
  | .orderIntent intent, some estimate =>
      some ⟨intent.timeInForce, intent.expiresAt, result.admission.activatesAt, estimate.filledQuantity,
        estimate.remainingQuantity⟩
  | _, _ => none

def termOutcomes (scenario : SimulationScenario) : List TermOutcome :=
  match rainRunner.run noParameters defaultContext scenario with
  | .ok run => run.orderResults.filterMap termOutcome
  | .error _ => []

/-- The book is empty when the order becomes active at 10, and the only event is the trade at 15. It fills half of the
    order, be that immediate or cancel, fill or kill, or expired at 12. -/
theorem ended_orders_filled :
    pastTrade.initialBook.bids = [] ∧ pastTrade.initialBook.asks = [] ∧
      pastTrade.marketEvents.map ScheduledMarketEvent.scheduledAt = [15] ∧
      termOutcomes (immediateOrCancel.scenario pastTrade) = [⟨.ioc, none, some 10, 1, 1⟩] ∧
      termOutcomes (fillOrKill.scenario pastTrade) = [⟨.fok, none, some 10, 1, 1⟩] ∧
      termOutcomes (expiringAtTwelve.scenario pastTrade) = [⟨.gtc, some 12, some 10, 1, 1⟩] :=
  ⟨rfl, rfl, by decide, by decide +kernel, by decide +kernel, by decide +kernel⟩

end Scenarios
end Pmrp
