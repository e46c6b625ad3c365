import Pmrp.Risk.Approvals
import Pmrp.Schemas.Events
import Pmrp.Storage.UnitOfWork

/-!
# `Storage.RiskTables` — what one risk evaluation writes

The tables behind `SqlAlchemyRiskUnitOfWork` that an evaluation inserts into, with the rows that
`repositories/canonical_events.py` and `repositories/outbox.py` make of an event. A snapshot, a decision, a
reservation and a breach are kept as the record that was inserted; their columns and hashes are functions of it.

An insert that the database accepts adds its rows. What it refuses is not said here: `refuses` is a parameter.
-/

namespace Pmrp

/-! ## The rows of an event -/

structure CanonicalEventRow where
  occurredAt : UTCDateTime
  eventId : String
  eventType : String
  schemaVersion : ℤ
  receivedAt : UTCDateTime
  publishedAt : UTCDateTime
  producer : String
  exchange : Option String
  marketId : Option String
  accountId : Option String
  strategyId : Option String
  orderId : Option String
  correlationId : String
  causationId : Option String
  traceId : Option String
  replaySessionId : Option String
  simulationSessionId : Option String
  qualityFlags : List String
  attributes : CanonicalData
  payload : CanonicalData
  payloadHash : String

structure OutboxMessageRow where
  eventId : String
  topic : String
  partitionKey : Option String
  payload : CanonicalData

/-- `to_canonical_data(event)`, which writes a decimal as the text it was given as, and the digest over it. -/
structure EventSerialization where
  toCanonicalData : RiskEvent → CanonicalData
  sha : Sha256

def canonicalEventsTopic : String := "canonical-events"

/-- `default_event_partition_key`. -/
def defaultEventPartitionKey (envelope : EventEnvelope) : Option String :=
  match envelope.marketId with
  | some marketId =>
      match envelope.exchange with
      | some exchange => some s!"{exchange}:{marketId.val}"
      | none => some marketId.val
  | none =>
      ((envelope.strategyId.map (·.val)).or (envelope.orderId.map (·.val))).or (envelope.accountId.map (·.val))

section Rows

variable (serialization : EventSerialization) (event : RiskEvent)

/-- `canonical_event_to_rows`; the row of the identifier alone has two of the same columns. -/
def canonicalEventToRow : CanonicalEventRow where
  occurredAt := event.envelope.occurredAt
  eventId := event.envelope.eventId.val
  eventType := event.envelope.eventType
  schemaVersion := event.envelope.schemaVersion
  receivedAt := event.envelope.receivedAt
  publishedAt := event.envelope.publishedAt
  producer := event.envelope.producer
  exchange := event.envelope.exchange
  marketId := event.envelope.marketId.map (·.val)
  accountId := event.envelope.accountId.map (·.val)
  strategyId := event.envelope.strategyId.map (·.val)
  orderId := event.envelope.orderId.map (·.val)
  correlationId := event.envelope.correlationId.val
  causationId := event.envelope.causationId.map CausationRef.val
  traceId := event.envelope.traceId
  replaySessionId := event.envelope.replaySessionId.map (·.val)
  simulationSessionId := event.envelope.simulationSessionId.map (·.val)
  qualityFlags := event.envelope.qualityFlags.map DataQualityFlag.value
  attributes := .mapping (sortByKey Prod.fst event.envelope.attributes)
  payload := serialization.toCanonicalData event
  payloadHash := canonicalSha256 serialization.sha (serialization.toCanonicalData event)

/-- `outbox_message_to_row` with the default topic and partition key. -/
def outboxMessageToRow : OutboxMessageRow where
  eventId := event.envelope.eventId.val
  topic := canonicalEventsTopic
  partitionKey := defaultEventPartitionKey event.envelope
  payload := serialization.toCanonicalData event

end Rows

/-! ## Inserts -/

inductive RiskStatement
  | addInputSnapshot (snapshot : RiskInputSnapshot)
  | addDecision (decision : RiskDecision)
  | addReservation (reservation : CapitalReservation)
  | addBreach (breach : RiskBreach)
  | addCanonicalEvents (rows : List CanonicalEventRow)
  | addOutboxMessages (rows : List OutboxMessageRow)

structure RiskTables where
  inputSnapshots : List RiskInputSnapshot := []
  decisions : List RiskDecision := []
  reservations : List CapitalReservation := []
  breaches : List RiskBreach := []
  canonicalEvents : List CanonicalEventRow := []
  outboxMessages : List OutboxMessageRow := []

namespace RiskTables

def insert (tables : RiskTables) : RiskStatement → RiskTables
  | .addInputSnapshot snapshot => { tables with inputSnapshots := tables.inputSnapshots ++ [snapshot] }
  | .addDecision decision => { tables with decisions := tables.decisions ++ [decision] }
  | .addReservation reservation => { tables with reservations := tables.reservations ++ [reservation] }
  | .addBreach breach => { tables with breaches := tables.breaches ++ [breach] }
  | .addCanonicalEvents rows => { tables with canonicalEvents := tables.canonicalEvents ++ rows }
  | .addOutboxMessages rows => { tables with outboxMessages := tables.outboxMessages ++ rows }

/-- A statement that is not refused inserts its rows. -/
def apply (refuses : RiskTables → RiskStatement → Option PyError) (tables : RiskTables) (s : RiskStatement) :
    Result RiskTables :=
  match refuses tables s with
  | some e => .error e
  | none => .ok (tables.insert s)

variable {refuses : RiskTables → RiskStatement → Option PyError}

theorem apply_eq_ok {tables tables' : RiskTables} {s : RiskStatement} (h : apply refuses tables s = .ok tables') :
    tables' = tables.insert s := by
  unfold apply at h
  split at h
  · cases h
  · exact (Except.ok.inj h).symm

/-- Statements that all went through have inserted all their rows. -/
theorem foldlM_apply {ss : List RiskStatement} {tables tables' : RiskTables}
    (h : ss.foldlM (apply refuses) tables = .ok tables') : tables' = ss.foldl insert tables := by
  induction ss generalizing tables with
  | nil => exact (Except.ok.inj h).symm
  | cons s ss ih =>
      rw [List.foldlM_cons] at h
      obtain ⟨next, hnext, hrest⟩ := bind_eq_ok.mp h
      obtain rfl := apply_eq_ok hnext
      exact ih hrest

end RiskTables
end Pmrp
