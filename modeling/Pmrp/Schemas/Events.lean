import Mathlib.Data.String.Basic
import Pmrp.Lib.StableSort
import Pmrp.Schemas.Orders
import Pmrp.Schemas.Risk

/-!
# `Schemas.Events` — event envelopes and the events of a risk check

`EventEnvelope` and the four risk events of `schemas/events.py` that one evaluation may publish. An event is an
envelope and a payload; its validator checks that the envelope names its type and agrees with what the payload
says about market, account and so on.
-/

namespace Pmrp

def riskCheckRequestedEventType : String := "risk.check_requested"
def riskApprovedEventType : String := "risk.approved"
def riskRejectedEventType : String := "risk.rejected"
def riskLimitBreachedEventType : String := "risk.limit_breached"

/-! ## Envelopes -/

/-- `EventId | CommandId | CausationId`. -/
inductive CausationRef
  | event (id : EventId)
  | command (id : Identifier "cmd_")
  | causation (id : Identifier "cause_")
  deriving DecidableEq

def CausationRef.val : CausationRef → String
  | event id => id.val
  | command id => id.val
  | causation id => id.val

inductive DataQualityFlag
  | delayed
  | duplicate
  | outOfOrder
  | inferred
  | snapshotRecovery
  | incomplete
  | stale
  | corrected
  | simulated
  | replayed
  | exchangeEstimated
  deriving DecidableEq, Repr

def DataQualityFlag.value : DataQualityFlag → String
  | delayed => "delayed"
  | duplicate => "duplicate"
  | outOfOrder => "out_of_order"
  | inferred => "inferred"
  | snapshotRecovery => "snapshot_recovery"
  | incomplete => "incomplete"
  | stale => "stale"
  | corrected => "corrected"
  | simulated => "simulated"
  | replayed => "replayed"
  | exchangeEstimated => "exchange_estimated"

structure EventEnvelope where
  eventId : EventId
  eventType : String
  schemaVersion : ℤ
  occurredAt : UTCDateTime
  receivedAt : UTCDateTime
  publishedAt : UTCDateTime
  producer : String
  exchange : Option String := none
  marketId : Option MarketId := none
  accountId : Option AccountId := none
  strategyId : Option StrategyId := none
  orderId : Option OrderId := none
  correlationId : CorrelationId
  causationId : Option CausationRef := none
  traceId : Option String := none
  replaySessionId : Option ReplaySessionId := none
  simulationSessionId : Option SimulationSessionId := none
  qualityFlags : List DataQualityFlag := []
  /-- A mapping: no key twice. -/
  attributes : List (String × CanonicalData) := []

namespace EventEnvelope

/-- The constraints of the fields that are not constants of the code. -/
def validate (e : EventEnvelope) : Result EventEnvelope := do
  raiseIf (e.schemaVersion < 1) (valueError "schema version must be positive")
  checkText "producer" 128 e.producer
  checkOptionalText "exchange" 64 e.exchange
  checkOptionalText "trace_id" 128 e.traceId
  pure e

theorem validate_eq_ok {e e' : EventEnvelope} (h : e.validate = .ok e') : e' = e := by
  simp only [validate, bind_eq_ok, pure_eq_ok] at h
  obtain ⟨-, -, -, -, -, -, -, -, rfl⟩ := h
  rfl

/-- `to_canonical_data(event)`. -/
def canonical (e : EventEnvelope) : CanonicalData :=
  .mapping
    [("account_id", .optionalStr (e.accountId.map Identifier.val)),
      ("attributes", .mapping (sortByKey Prod.fst e.attributes)),
      ("causation_id", .optionalStr (e.causationId.map CausationRef.val)),
      ("correlation_id", .str e.correlationId.val), ("event_id", .str e.eventId.val),
      ("event_type", .str e.eventType), ("exchange", .optionalStr e.exchange),
      ("market_id", .optionalStr (e.marketId.map Identifier.val)), ("occurred_at", .datetime e.occurredAt),
      ("order_id", .optionalStr (e.orderId.map Identifier.val)), ("producer", .str e.producer),
      ("published_at", .datetime e.publishedAt),
      ("quality_flags", .list (e.qualityFlags.map fun flag => .str flag.value)),
      ("received_at", .datetime e.receivedAt),
      ("replay_session_id", .optionalStr (e.replaySessionId.map Identifier.val)),
      ("schema_version", .int e.schemaVersion),
      ("simulation_session_id", .optionalStr (e.simulationSessionId.map Identifier.val)),
      ("strategy_id", .optionalStr (e.strategyId.map Identifier.val)), ("trace_id", .optionalStr e.traceId)]

end EventEnvelope

/-! ## Lineage -/

/-- `_validate_event_type`. -/
def validateEventType (e : EventEnvelope) (expected : String) : Result Unit :=
  raiseIf (e.eventType ≠ expected) (valueError s!"event envelope event_type must be '{expected}'")

/-- `_validate_correlation_lineage`. -/
def validateCorrelationLineage (e : EventEnvelope) (correlationId : CorrelationId) : Result Unit :=
  raiseIf (e.correlationId ≠ correlationId)
    (valueError "event envelope correlation_id must match payload correlation_id")

/-- The shape of the other lineage checks: the envelope has to have the field, and agree in it. -/
def validateLineage {κ : Type} [DecidableEq κ] (envelopeValue : Option κ) (payloadValue : κ)
    (missing mismatch : String) : Result Unit :=
  match envelopeValue with
  | none => .error (valueError missing)
  | some v => raiseIf (v ≠ payloadValue) (valueError mismatch)

def validateMarketLineage (e : EventEnvelope) (marketId : MarketId) (field : String) : Result Unit :=
  validateLineage e.marketId marketId "event envelope market_id is required for market events"
    s!"event envelope market_id must match {field} when provided"

def validateExchangeLineage (e : EventEnvelope) (exchange : String) (field : String) : Result Unit :=
  validateLineage e.exchange exchange "event envelope exchange is required for exchange-scoped events"
    s!"event envelope exchange must match {field}"

def validateAccountLineage (e : EventEnvelope) (accountId : AccountId) (field : String) : Result Unit :=
  validateLineage e.accountId accountId "event envelope account_id is required for account-scoped events"
    s!"event envelope account_id must match {field}"

def validateOrderLineage (e : EventEnvelope) (orderId : OrderId) (field : String) : Result Unit :=
  validateLineage e.orderId orderId "event envelope order_id is required for order-scoped events"
    s!"event envelope order_id must match {field}"

def validateStrategyLineage (e : EventEnvelope) (strategyId : StrategyId) (field : String) : Result Unit :=
  validateLineage e.strategyId strategyId "event envelope strategy_id is required for strategy events"
    s!"event envelope strategy_id must match {field}"

/-! ## Risk events -/

inductive RiskEventPayload
  | checkRequested (intent : OrderIntent) (inputSnapshot : RiskInputSnapshot)
  | approved (decision : RiskDecision) (approvedOrder : ApprovedOrder)
  | rejected (decision : RiskDecision)
  | limitBreached (breach : RiskBreach)

/-- `RiskCheckRequestedEvent`, `RiskApprovedEvent`, `RiskRejectedEvent` or `RiskLimitBreachedEvent`. -/
structure RiskEvent where
  envelope : EventEnvelope
  payload : RiskEventPayload

/-- `_validate_approved_order_lineage`. -/
def validateApprovedOrderLineage (approvedOrder : ApprovedOrder) (decision : RiskDecision) : Result Unit := do
  raiseIf (approvedOrder.riskDecisionId ≠ decision.riskDecisionId)
    (valueError "approved_order risk_decision_id must match decision")
  raiseIf (approvedOrder.intentId ≠ decision.intentId)
    (valueError "approved_order intent_id must match decision")
  raiseIf (approvedOrder.correlationId ≠ decision.correlationId)
    (valueError "approved_order correlation_id must match decision")

/-- `validate_envelope` of each event. -/
def RiskEvent.validate (event : RiskEvent) : Result RiskEvent := do
  let e := event.envelope
  match event.payload with
  | .checkRequested intent snapshot =>
      validateEventType e riskCheckRequestedEventType
      validateCorrelationLineage e intent.correlationId
      validateStrategyLineage e intent.strategyId "intent.strategy_id"
      validateStrategyLineage e snapshot.strategyId "input_snapshot.strategy_id"
      validateMarketLineage e intent.marketId "intent.market_id"
      validateMarketLineage e snapshot.marketId "input_snapshot.market_id"
      validateExchangeLineage e snapshot.exchange "input_snapshot.exchange"
      validateAccountLineage e snapshot.accountId "input_snapshot.account_id"
  | .approved decision approvedOrder =>
      validateEventType e riskApprovedEventType
      raiseIf (decision.status ≠ .approved) (valueError "risk event decision status must be 'approved'")
      validateCorrelationLineage e decision.correlationId
      validateApprovedOrderLineage approvedOrder decision
      validateStrategyLineage e approvedOrder.strategyId "approved_order.strategy_id"
      validateMarketLineage e approvedOrder.marketId "approved_order.market_id"
      validateExchangeLineage e approvedOrder.exchange "approved_order.exchange"
      validateAccountLineage e approvedOrder.accountId "approved_order.account_id"
      validateOrderLineage e approvedOrder.orderId "approved_order.order_id"
  | .rejected decision =>
      validateEventType e riskRejectedEventType
      raiseIf (decision.status ≠ .rejected) (valueError "risk event decision status must be 'rejected'")
      validateCorrelationLineage e decision.correlationId
  | .limitBreached breach =>
      validateEventType e riskLimitBreachedEventType
      validateCorrelationLineage e breach.correlationId
  pure event

theorem RiskEvent.validate_eq_ok {event event' : RiskEvent} (h : event.validate = .ok event') :
    event' = event := by
  have hbind : ∀ {checks : Result Unit}, (checks >>= fun _ => pure event) = .ok event' → event' = event := by
    intro checks hchecks
    obtain ⟨-, -, hpure⟩ := bind_eq_ok.mp hchecks
    exact (pure_eq_ok.mp hpure).symm
  unfold RiskEvent.validate at h
  dsimp only at h
  split at h <;> simp only [← bind_assoc] at h <;> exact hbind h

end Pmrp
