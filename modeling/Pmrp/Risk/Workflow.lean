import Pmrp.Risk.Service

/-!
# `Risk.Workflow` — an evaluation with its events

`EventFactory.create_envelope` of `events/factory.py`, `RiskEventFactory` of `risk/events.py` and
`evaluate_persist_and_build_events` of `risk/workflow.py`. The clock and the identifier generator answer each call
anew, so they are functions of the number of the call, and they may raise.
-/

namespace Pmrp

/-! ## Events -/

structure EventFactory where
  now : ℕ → Result UTCDateTime
  eventId : ℕ → UTCDateTime → Result EventId
  schemaVersionFor : String → Result ℤ

structure RiskEventFactory where
  eventFactory : EventFactory
  producer : String := "risk"

namespace RiskEventFactory

variable (factory : RiskEventFactory) (call : ℕ)

/-- `create_envelope` with the arguments that risk events pass. -/
def createEnvelope (eventType : String) (occurredAt : UTCDateTime) (correlationId : CorrelationId)
    (exchange : Option String) (marketId : Option MarketId) (accountId : Option AccountId)
    (strategyId : Option StrategyId) (orderId : Option OrderId) : Result EventEnvelope := do
  let publishedAt ← factory.eventFactory.now call
  let eventId ← factory.eventFactory.eventId call publishedAt
  let schemaVersion ← factory.eventFactory.schemaVersionFor eventType
  EventEnvelope.validate {
    eventId, eventType, schemaVersion, occurredAt, publishedAt, exchange, marketId, accountId, strategyId, orderId
    correlationId
    receivedAt := publishedAt
    producer := factory.producer }

def buildCheckRequestedEvent (intent : OrderIntent) (inputSnapshot : RiskInputSnapshot) : Result RiskEvent := do
  let envelope ← factory.createEnvelope call riskCheckRequestedEventType inputSnapshot.capturedAt
    intent.correlationId (some inputSnapshot.exchange) (some intent.marketId) (some inputSnapshot.accountId)
    (some intent.strategyId) none
  RiskEvent.validate ⟨envelope, .checkRequested intent inputSnapshot⟩

def buildApprovedEvent (decision : RiskDecision) (approvedOrder : ApprovedOrder) : Result RiskEvent := do
  let envelope ← factory.createEnvelope call riskApprovedEventType decision.evaluatedAt decision.correlationId
    (some approvedOrder.exchange) (some approvedOrder.marketId) (some approvedOrder.accountId)
    (some approvedOrder.strategyId) (some approvedOrder.orderId)
  RiskEvent.validate ⟨envelope, .approved decision approvedOrder⟩

def buildRejectedEvent (decision : RiskDecision) (intent : OrderIntent) : Result RiskEvent := do
  raiseIf (decision.intentId ≠ intent.intentId) (valueError "risk decision intent_id must match intent")
  raiseIf (decision.correlationId ≠ intent.correlationId)
    (valueError "risk decision correlation_id must match intent")
  let envelope ← factory.createEnvelope call riskRejectedEventType decision.evaluatedAt decision.correlationId none
    (some intent.marketId) none (some intent.strategyId) none
  RiskEvent.validate ⟨envelope, .rejected decision⟩

def buildLimitBreachedEvent (breach : RiskBreach) : Result RiskEvent := do
  let envelope ← factory.createEnvelope call riskLimitBreachedEventType breach.detectedAt breach.correlationId none
    none none none none
  RiskEvent.validate ⟨envelope, .limitBreached breach⟩

def buildBreachEvents : ℕ → List RiskBreach → Result (List RiskEvent)
  | _, [] => .ok []
  | call, breach :: breaches => do
      let event ← factory.buildLimitBreachedEvent call breach
      let events ← buildBreachEvents (call + 1) breaches
      pure (event :: events)

def buildEvaluationEvents (result : RiskEvaluationResult) (intent : OrderIntent) : Result (List RiskEvent) := do
  let decisionEvent ←
    if result.decision.status = .approved then
      match result.approvedOrder with
      | none => .error (valueError "approved risk evaluation result requires approved_order to build event")
      | some approvedOrder => factory.buildApprovedEvent call result.decision approvedOrder
    else if result.decision.status = .rejected then factory.buildRejectedEvent call result.decision intent
    else .error (valueError "risk evaluation events require an approved or rejected decision")
  let breachEvents ← factory.buildBreachEvents (call + 1) result.breaches
  pure (decisionEvent :: breachEvents)

end RiskEventFactory

/-! ## The workflow -/

structure RiskEvaluationEventResult where
  result : RiskEvaluationResult
  checkRequestedEvent : RiskEvent
  evaluationEvents : List RiskEvent

def RiskEvaluationEventResult.allEvents (eventResult : RiskEvaluationEventResult) : List RiskEvent :=
  eventResult.checkRequestedEvent :: eventResult.evaluationEvents

structure RiskEvaluationEventWorkflow where
  service : RiskEvaluationService
  eventFactory : RiskEventFactory
  serialization : EventSerialization

namespace RiskEvaluationEventWorkflow

variable (ctx : DecimalContext) (workflow : RiskEvaluationEventWorkflow)

def buildEventResult (result : RiskEvaluationResult) (intent : OrderIntent) (checkRequestedEvent : RiskEvent) :
    Result RiskEvaluationEventResult := do
  let evaluationEvents ← workflow.eventFactory.buildEvaluationEvents 1 result intent
  raiseIf (evaluationEvents = []) (valueError "risk evaluation event result requires at least one event")
  pure { result, checkRequestedEvent, evaluationEvents }

def persistEventsBeforeCommit (intent : OrderIntent) (checkRequestedEvent : RiskEvent)
    (result : RiskEvaluationResult) : Program RiskStatement PyError RiskEvaluationEventResult := do
  let builtResult ← liftM (workflow.buildEventResult result intent checkRequestedEvent)
  .execute (.addCanonicalEvents (builtResult.allEvents.map (canonicalEventToRow workflow.serialization)))
  .execute (.addOutboxMessages (builtResult.allEvents.map (outboxMessageToRow workflow.serialization)))
  pure builtResult

/-- The last check of the workflow. -/
def checkPersisted (persistedResult : RiskEvaluationResult) (eventResult : RiskEvaluationEventResult) :
    Result RiskEvaluationEventResult := do
  raiseIf (eventResult.result ≠ persistedResult)
    ⟨.runtimeError, "risk event workflow persisted events for a different result"⟩
  pure eventResult

def evaluatePersistAndBuildEvents (intent : OrderIntent) (context : RiskContext) (inputSnapshot : RiskInputSnapshot)
    (approvedOrderRequest : Option RiskApprovedOrderRequest)
    (reservationRequest : Option RiskCapitalReservationRequest) :
    Program RiskStatement PyError RiskEvaluationEventResult := do
  let checkRequestedEvent ← liftM (workflow.eventFactory.buildCheckRequestedEvent 0 intent inputSnapshot)
  let persisted ← workflow.service.evaluateAndPersistResult ctx intent context inputSnapshot.riskInputSnapshotId
    (some inputSnapshot) approvedOrderRequest reservationRequest
    (workflow.persistEventsBeforeCommit intent checkRequestedEvent)
  liftM (checkPersisted persisted.1 persisted.2)

end RiskEvaluationEventWorkflow
end Pmrp
