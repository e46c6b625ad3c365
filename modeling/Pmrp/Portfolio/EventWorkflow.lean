import Pmrp.Lib.Interleavings
import Pmrp.Storage.RiskTables

/-!
# `Portfolio.EventWorkflow` — portfolio events into the event store and the outbox

`portfolio/workflow.py` over the tables behind `canonical_events` and `outbox_messages` of the portfolio unit of work.
An event is its class, its envelope and the canonical data it serializes to. The identifier of an event is the key of
one table and stands, with the topic, in a unique constraint of the outbox; what else the database refuses is a
parameter.
-/

namespace Pmrp
namespace PortfolioEvents

/-! ## Events -/

/-- `_PORTFOLIO_EVENT_TYPES`. -/
inductive PortfolioEventType
  | cashBalanceChanged
  | pnlUpdated
  | portfolioMismatchDetected
  | portfolioReconciled
  | positionChanged
  deriving DecidableEq

/-- A canonical event; `none` is an event of a class that is no portfolio event. -/
structure CanonicalEvent where
  cls : Option PortfolioEventType
  envelope : EventEnvelope
  /-- `to_canonical_data(event)`. -/
  payload : CanonicalData

/-- `_validate_portfolio_events`. -/
def validatePortfolioEvents (events : List CanonicalEvent) : Result Unit := do
  raiseIf (events = []) (valueError "portfolio event workflow requires at least one event")
  raiseIf (∃ event ∈ events, event.cls = none)
    ⟨.typeError, "portfolio event workflow requires portfolio canonical events"⟩

/-- `PortfolioEventPersistenceResult`. -/
structure PortfolioEventPersistenceResult where
  events : List CanonicalEvent
  valid : validatePortfolioEvents events = .ok ⟨⟩

def persistenceResult (events : List CanonicalEvent) : Result PortfolioEventPersistenceResult :=
  match h : validatePortfolioEvents events with
  | .ok _ => .ok ⟨events, h⟩
  | .error e => .error e

/-! ## Rows -/

/-- The row of `event_ids`. -/
structure EventIdRow where
  eventId : String
  occurredAt : UTCDateTime

variable (sha : Sha256)

def eventIdRow (event : CanonicalEvent) : EventIdRow := ⟨event.envelope.eventId.val, event.envelope.occurredAt⟩

/-- `_canonical_event_row`. -/
def canonicalEventRow (event : CanonicalEvent) : CanonicalEventRow where
  occurredAt := event.envelope.occurredAt
  eventId := event.envelope.eventId.val
  eventType := event.envelope.eventType
  schemaVersion := event.envelope.schemaVersion
  receivedAt := event.envelope.receivedAt
  publishedAt := event.envelope.publishedAt
  producer := event.envelope.producer
  exchange := event.envelope.exchange
  marketId := event.envelope.marketId.map (·.val)
  accountId := event.envelope.accountId.map (·.val)
  strategyId := event.envelope.strategyId.map (·.val)
  orderId := event.envelope.orderId.map (·.val)
  correlationId := event.envelope.correlationId.val
  causationId := event.envelope.causationId.map CausationRef.val
  traceId := event.envelope.traceId
  replaySessionId := event.envelope.replaySessionId.map (·.val)
  simulationSessionId := event.envelope.simulationSessionId.map (·.val)
  qualityFlags := event.envelope.qualityFlags.map DataQualityFlag.value
  attributes := .mapping (sortByKey Prod.fst event.envelope.attributes)
  payload := event.payload
  payloadHash := canonicalSha256 sha event.payload

/-- `outbox_message_to_row` with the default topic and partition key. -/
def outboxMessageRow (event : CanonicalEvent) : OutboxMessageRow where
  eventId := event.envelope.eventId.val
  topic := canonicalEventsTopic
  partitionKey := defaultEventPartitionKey event.envelope
  payload := event.payload

/-! ## Tables -/

/-- The rows of the three tables. Their lists are in the order of the commits: an outbox row draws its identity when it
    is flushed, and neither that identity nor the order it gives overlapping calls is modelled. -/
structure EventTables where
  eventIds : List EventIdRow := []
  canonicalEvents : List CanonicalEventRow := []
  outboxMessages : List OutboxMessageRow := []

/-- What one flush inserts. -/
inductive EventStatement
  | addCanonicalEvents (rows : List (EventIdRow × CanonicalEventRow))
  | addOutboxMessages (rows : List OutboxMessageRow)

namespace EventTables

/-- The primary key of `event_ids` and the unique constraint of the outbox. -/
def checkKeys (tables : EventTables) : Result Unit := do
  raiseIf (¬(tables.eventIds.map EventIdRow.eventId).Nodup) duplicateRecordError
  raiseIf (¬(tables.outboxMessages.map fun row => (row.eventId, row.topic)).Nodup) duplicateRecordError

def insert (tables : EventTables) : EventStatement → EventTables
  | .addCanonicalEvents rows =>
      { tables with
        eventIds := tables.eventIds ++ rows.map Prod.fst
        canonicalEvents := tables.canonicalEvents ++ rows.map Prod.snd }
  | .addOutboxMessages rows => { tables with outboxMessages := tables.outboxMessages ++ rows }

/-- A flush: it is refused, or breaks a key, or its rows are there. -/
def apply (refuses : EventTables → EventStatement → Option PyError) (tables : EventTables) (s : EventStatement) :
    Result EventTables :=
  match refuses tables s with
  | some e => .error e
  | none => do
      (tables.insert s).checkKeys
      pure (tables.insert s)

end EventTables

/-! ## The workflow -/

def canonicalEventStatement (events : List CanonicalEvent) : EventStatement :=
  .addCanonicalEvents (events.map fun event => (eventIdRow event, canonicalEventRow sha event))

def outboxStatement (events : List CanonicalEvent) : EventStatement := .addOutboxMessages (events.map outboxMessageRow)

/-- The block of `persist_events` before its commit. -/
def persistBody (events : List CanonicalEvent) : Program EventStatement PyError Unit := do
  liftM (validatePortfolioEvents events)
  Program.execute (canonicalEventStatement sha events)
  Program.execute (outboxStatement events)

/-- `persist_events`. -/
def persistEvents (events : List CanonicalEvent) : Program EventStatement PyError PortfolioEventPersistenceResult :=
  persistBody sha events >>= fun _ => Program.commitPending >>= fun _ => liftM (persistenceResult events)

end PortfolioEvents
end Pmrp
