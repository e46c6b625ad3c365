import Pmrp.Schemas.Events
import Pmrp.Schemas.Fields
import Pmrp.Schemas.Replay

/-!
# `Replay.Records` — manifests and events from JSON

`ReplayManifest.model_validate_json` and `EventEnvelope.model_validate_json`. The JSON parser of pydantic-core,
`datetime.fromisoformat` and `Decimal` are parameters; the fields are validated as `schemas/replay.py`,
`schemas/events.py` and the value types under them do.
-/

namespace Pmrp
namespace ReplayRecords

/-- The parsers under `model_validate_json`. No object that `fromJson` returns has a key twice. -/
structure Parsers where
  fromJson : String → Option JsonValue
  fromisoformat : FromIsoFormat
  /-- `Decimal(value)`, where it is finite. -/
  decimal : String → Option ℚ

/-! ## Fields -/

/-- A field without a default. -/
def required {α : Type} (payload : JsonObject) (key : String) (field : JsonValue → Result α) : Result α :=
  match payload.lookup key with
  | none => .error (valueError s!"{key}: Field required")
  | some value => field value

def withDefault {α : Type} (payload : JsonObject) (key : String) (default : α) (field : JsonValue → Result α) :
    Result α :=
  match payload.lookup key with
  | none => .ok default
  | some value => field value

/-- `field | None = None`. -/
def optional {α : Type} (payload : JsonObject) (key : String) (field : JsonValue → Result α) : Result (Option α) :=
  withDefault payload key none fun
    | .null => .ok none
    | value => do pure (some (← field value))

/-- `CanonicalIdentifier._validate_pydantic` of a class. -/
def identifier (cls pre : String) : JsonValue → Result (Identifier pre)
  | .string text => Identifier.parse cls pre text
  | _ => .error (valueError s!"{cls}: Input should be a valid string")

def text (bound : ℕ) (key : String) : JsonValue → Result String
  | .string value => do
      checkText key bound value
      pure value
  | _ => .error (valueError s!"{key}: Input should be a valid string")

/-- `[a-z][a-z0-9_]*`. -/
def isTypeSegment : List Char → Bool
  | [] => false
  | c :: cs => isLower c && cs.all fun d => isLowerOrDigit d || d == '_'

/-- `^[a-z][a-z0-9_]*(\.[a-z][a-z0-9_]*)+$`. -/
def isDottedEventType (eventType : String) : Bool :=
  let segments := eventType.toList.splitOn '.'
  decide (2 ≤ segments.length) && segments.all isTypeSegment

def eventType (value : JsonValue) : Result String := do
  let eventType ← text 128 "event_type" value
  raiseIf (isDottedEventType eventType = false) (valueError "event_type: String should match pattern")
  pure eventType

/-- `parse_schema_version`. -/
def schemaVersion : JsonValue → Result ℤ
  | .int version => do
      raiseIf (version < 1) (valueError "schema version must be positive")
      pure version
  | _ => .error ⟨.typeError, "schema version must be a positive integer"⟩

def causationRef : JsonValue → Result CausationRef
  | .string value =>
      if h : IsIdentifier "evt_" value then .ok (.event ⟨value, h⟩)
      else if h : IsIdentifier "cmd_" value then .ok (.command ⟨value, h⟩)
      else if h : IsIdentifier "cause_" value then .ok (.causation ⟨value, h⟩)
      else .error (valueError "causation_id: no identifier class accepts the value")
  | _ => .error (valueError "causation_id: Input should be a valid string")

def allFlags : List DataQualityFlag :=
  [.delayed, .duplicate, .outOfOrder, .inferred, .snapshotRecovery, .incomplete, .stale, .corrected, .simulated,
    .replayed, .exchangeEstimated]

def qualityFlag : JsonValue → Result DataQualityFlag
  | .string value =>
      match allFlags.find? fun flag => flag.value = value with
      | none => .error (valueError "quality_flags: Input should be a flag")
      | some flag => .ok flag
  | _ => .error (valueError "quality_flags: Input should be a flag")

def qualityFlags : JsonValue → Result (List DataQualityFlag)
  | .array items => items.mapM qualityFlag
  | _ => .error (valueError "quality_flags: Input should be a valid array")

/-- `_validate_mapping_key`. -/
def mappingKey (fieldName key : String) : Result Unit :=
  raiseIf (key = "" ∨ isStripped key = false)
    (valueError s!"{fieldName} keys must be nonempty strings without surrounding whitespace")

mutual
/-- `freeze_canonical_value` of a decoded value, as canonical data. -/
def freezeValue (fieldName : String) : JsonValue → Result CanonicalData
  | .null => .ok .null
  | .bool value => .ok (.bool value)
  | .int value => .ok (.int value)
  | .float _ => .error ⟨.typeError, s!"{fieldName} values must not contain floats"⟩
  | .string value => .ok (.str value)
  | .array items => do pure (.list (← freezeValues fieldName items))
  | .object items => do pure (.mapping (sortByKey Prod.fst (← freezeMapping fieldName items)))
def freezeValues (fieldName : String) : List JsonValue → Result (List CanonicalData)
  | [] => .ok []
  | value :: values => do
      let frozen ← freezeValue fieldName value
      pure (frozen :: (← freezeValues fieldName values))
/-- `freeze_canonical_mapping`. -/
def freezeMapping (fieldName : String) : JsonObject → Result (List (String × CanonicalData))
  | [] => .ok []
  | (key, value) :: items => do
      mappingKey fieldName key
      let frozen ← freezeValue fieldName value
      pure ((key, frozen) :: (← freezeMapping fieldName items))
end

def attributes : JsonValue → Result (List (String × CanonicalData))
  | .object items => freezeMapping "event attributes" items
  | _ => .error (valueError "attributes: Input should be a valid dictionary")

/-- `parse_decimal` of a decoded value, and `gt=0`. -/
def positiveDecimal (parsers : Parsers) (fieldName : String) : JsonValue → Result ℚ
  | .int value => do
      raiseIf (value ≤ 0) (valueError s!"{fieldName}: Input should be greater than 0")
      pure value
  | .string value => do
      raiseIf (value = "" ∨ isStripped value = false)
        (valueError s!"{fieldName} must be a decimal string without surrounding whitespace")
      match parsers.decimal value with
      | none => .error (valueError s!"{fieldName} must be a valid decimal string")
      | some decimal => do
          raiseIf (decimal ≤ 0) (valueError s!"{fieldName}: Input should be greater than 0")
          pure decimal
  | .bool _ => .error ⟨.typeError, s!"{fieldName} does not accept bool input"⟩
  | .float _ => .error ⟨.typeError, s!"{fieldName} does not accept float input"⟩
  | _ => .error ⟨.typeError, s!"{fieldName} must be Decimal, int, or decimal string"⟩

def boolean (key : String) : JsonValue → Result Bool
  | .bool value => .ok value
  | _ => .error (valueError s!"{key}: Input should be a valid boolean")

def nonnegativeInt (key : String) : JsonValue → Result ℕ
  | .int value => do
      raiseIf (value < 0) (belowZeroError key)
      pure value.toNat
  | _ => .error (valueError s!"{key}: Input should be a valid integer")

/-- `_validate_string_mapping` of one item. -/
def stringItem (item : String × JsonValue) : Result (String × String) :=
  match item.2 with
  | .string value => do
      raiseIf (item.1 = "" ∨ isStripped item.1 = false)
        (valueError "version mapping keys must be nonempty strings without surrounding whitespace")
      raiseIf (value = "" ∨ isStripped value = false)
        (valueError "version mapping values must be nonempty strings without surrounding whitespace")
      pure (item.1, value)
  | _ => .error (valueError "version mapping: Input should be a valid string")

def versionMapping : JsonValue → Result (List (String × String))
  | .object items => items.mapM stringItem
  | _ => .error (valueError "version mapping: Input should be a valid dictionary")

/-- `extra="forbid"`. -/
def noExtra (payload : JsonObject) (fieldNames : List String) : Result Unit :=
  raiseIf (∃ item ∈ payload, item.1 ∉ fieldNames) (valueError "Extra inputs are not permitted")

/-! ## Events -/

variable (parsers : Parsers)

def eventFields : List String :=
  ["event_id", "event_type", "schema_version", "occurred_at", "received_at", "published_at", "producer", "exchange",
    "market_id", "account_id", "strategy_id", "order_id", "correlation_id", "causation_id", "trace_id",
    "replay_session_id", "simulation_session_id", "quality_flags", "attributes"]

/-- The fields of an event after its timestamps, and the event. -/
def eventRest (payload : JsonObject) (eventId : Option EventId) (type : Option String) (version : Option ℤ)
    (occurredAt receivedAt publishedAt : Option UTCDateTime) : Result EventEnvelope := do
  let producer ← collected (required payload "producer" (text 128 "producer"))
  let exchange ← collected (optional payload "exchange" (text 64 "exchange"))
  let marketId ← collected (optional payload "market_id" (identifier "MarketId" "mkt_"))
  let accountId ← collected (optional payload "account_id" (identifier "AccountId" "acct_"))
  let strategyId ← collected (optional payload "strategy_id" (identifier "StrategyId" "strat_"))
  let orderId ← collected (optional payload "order_id" (identifier "OrderId" "ord_"))
  let correlationId ← collected (required payload "correlation_id" (identifier "CorrelationId" "corr_"))
  let causationId ← collected (optional payload "causation_id" causationRef)
  let traceId ← collected (optional payload "trace_id" (text 128 "trace_id"))
  let replaySessionId ← collected (optional payload "replay_session_id" (identifier "ReplaySessionId" "rpl_"))
  let simulationSessionId ← collected
    (optional payload "simulation_session_id" (identifier "SimulationSessionId" "sim_"))
  let flags ← collected (withDefault payload "quality_flags" [] qualityFlags)
  let attributes ← collected (withDefault payload "attributes" [] attributes)
  let extra ← collected (noExtra payload eventFields)
  let _ ← fieldValue extra
  pure {
    eventId := ← fieldValue eventId
    eventType := ← fieldValue type
    schemaVersion := ← fieldValue version
    occurredAt := ← fieldValue occurredAt
    receivedAt := ← fieldValue receivedAt
    publishedAt := ← fieldValue publishedAt
    producer := ← fieldValue producer
    exchange := ← fieldValue exchange
    marketId := ← fieldValue marketId
    accountId := ← fieldValue accountId
    strategyId := ← fieldValue strategyId
    orderId := ← fieldValue orderId
    correlationId := ← fieldValue correlationId
    causationId := ← fieldValue causationId
    traceId := ← fieldValue traceId
    replaySessionId := ← fieldValue replaySessionId
    simulationSessionId := ← fieldValue simulationSessionId
    qualityFlags := ← fieldValue flags
    attributes := ← fieldValue attributes }

def eventFromPayload (payload : JsonObject) : Result EventEnvelope := do
  let eventId ← collected (required payload "event_id" (identifier "EventId" "evt_"))
  let type ← collected (required payload "event_type" eventType)
  let version ← collected (required payload "schema_version" schemaVersion)
  let occurredAt ← collected (required payload "occurred_at" (utcDatetime parsers.fromisoformat))
  let receivedAt ← collected (required payload "received_at" (utcDatetime parsers.fromisoformat))
  let publishedAt ← collected (required payload "published_at" (utcDatetime parsers.fromisoformat))
  eventRest payload eventId type version occurredAt receivedAt publishedAt

/-- A text that encodes an object, and what the model makes of that. -/
def modelValidateJson {α : Type} (model : JsonObject → Result α) (text : String) : Result α :=
  match parsers.fromJson text with
  | some (.object payload) => model payload
  | some _ => .error (valueError "Input should be an object")
  | none => .error (valueError "Invalid JSON")

def eventFromJson : String → Result EventEnvelope := modelValidateJson parsers (eventFromPayload parsers)

/-! ## Manifests -/

def manifestFields : List String :=
  ["replay_session_id", "dataset_id", "dataset_checksum", "starts_at", "ends_at", "speed", "deterministic",
    "random_seed", "event_ordering_policy_version", "strategy_versions", "model_versions", "configuration_hash",
    "code_commit", "dependency_lock_hash", "created_at", "created_by"]

/-- The fields of a manifest before its last timestamp, as far as they are valid. -/
structure ManifestFields where
  replaySessionId : Option ReplaySessionId
  datasetId : Option String
  datasetChecksum : Option String
  startsAt : Option UTCDateTime
  endsAt : Option UTCDateTime
  speed : Option ℚ
  deterministic : Option Bool
  randomSeed : Option ℕ
  policyVersion : Option String
  strategyVersions : Option (List (String × String))
  modelVersions : Option (List (String × String))
  configurationHash : Option String
  codeCommit : Option String
  dependencyLockHash : Option String

/-- The fields of a manifest after its last timestamp, and the manifest. -/
def manifestRest (payload : JsonObject) (fields : ManifestFields) (createdAt : Option UTCDateTime) :
    Result ReplayManifest := do
  let createdBy ← collected (required payload "created_by" (text 128 "created_by"))
  let extra ← collected (noExtra payload manifestFields)
  let _ ← fieldValue extra
  let replaySessionId ← fieldValue fields.replaySessionId
  let datasetId ← fieldValue fields.datasetId
  let datasetChecksum ← fieldValue fields.datasetChecksum
  let startsAt ← fieldValue fields.startsAt
  let endsAt ← fieldValue fields.endsAt
  let speed ← fieldValue fields.speed
  let deterministic ← fieldValue fields.deterministic
  let randomSeed ← fieldValue fields.randomSeed
  let eventOrderingPolicyVersion ← fieldValue fields.policyVersion
  let strategyVersions ← fieldValue fields.strategyVersions
  let modelVersions ← fieldValue fields.modelVersions
  let configurationHash ← fieldValue fields.configurationHash
  let codeCommit ← fieldValue fields.codeCommit
  let dependencyLockHash ← fieldValue fields.dependencyLockHash
  let createdAt ← fieldValue createdAt
  let createdBy ← fieldValue createdBy
  if h : startsAt < endsAt then
    .ok { replaySessionId, datasetId, datasetChecksum, startsAt, endsAt, speed, deterministic, randomSeed,
          eventOrderingPolicyVersion, strategyVersions, modelVersions, configurationHash, codeCommit,
          dependencyLockHash, createdAt, createdBy, starts_before_ends := h }
  else .error (valueError "ends_at must be after starts_at")

def manifestFromPayload (payload : JsonObject) : Result ReplayManifest := do
  let replaySessionId ← collected (required payload "replay_session_id" (identifier "ReplaySessionId" "rpl_"))
  let datasetId ← collected (required payload "dataset_id" (text 128 "dataset_id"))
  let datasetChecksum ← collected (required payload "dataset_checksum" (text 256 "dataset_checksum"))
  let startsAt ← collected (required payload "starts_at" (utcDatetime parsers.fromisoformat))
  let endsAt ← collected (required payload "ends_at" (utcDatetime parsers.fromisoformat))
  let speed ← collected (required payload "speed" (positiveDecimal parsers "replay manifest decimal field"))
  let deterministic ← collected (required payload "deterministic" (boolean "deterministic"))
  let randomSeed ← collected (required payload "random_seed" (nonnegativeInt "random_seed"))
  let policyVersion ← collected
    (required payload "event_ordering_policy_version" (text 64 "event_ordering_policy_version"))
  let strategyVersions ← collected (required payload "strategy_versions" versionMapping)
  let modelVersions ← collected (required payload "model_versions" versionMapping)
  let configurationHash ← collected (required payload "configuration_hash" (text 256 "configuration_hash"))
  let codeCommit ← collected (required payload "code_commit" (text 128 "code_commit"))
  let dependencyLockHash ← collected (required payload "dependency_lock_hash" (text 256 "dependency_lock_hash"))
  let createdAt ← collected (required payload "created_at" (utcDatetime parsers.fromisoformat))
  manifestRest payload
    { replaySessionId, datasetId, datasetChecksum, startsAt, endsAt, speed, deterministic, randomSeed, policyVersion,
      strategyVersions, modelVersions, configurationHash, codeCommit, dependencyLockHash } createdAt

def manifestFromJson : String → Result ReplayManifest := modelValidateJson parsers (manifestFromPayload parsers)

end ReplayRecords
end Pmrp
