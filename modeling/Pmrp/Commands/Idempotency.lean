import Pmrp.Lib.Dictionary
import Pmrp.Schemas.Primitives

/-!
# `Commands.Idempotency` — the in-memory idempotency hook

`InMemoryCommandIdempotencyHook` of `commands/dispatcher.py`. Nothing under its lock waits, so each of its methods is
one step. The entries are an ordered dictionary; its order is the order of eviction.
-/

namespace Pmrp

inductive CommandFailureKind
  | unknownCommandType
  | schemaVersionMismatch
  | deadlineExceeded
  | duplicateInProgress
  | idempotencyConflict
  | idempotencyRejected
  | idempotencyHookError
  | handlerRejected
  | handlerError
  deriving DecidableEq, Repr

structure CommandFailure where
  kind : CommandFailureKind
  message : String
  retryable : Bool
  deriving DecidableEq, Repr

/-- What the dispatcher and its hook read of a command. -/
structure CommandEnvelope where
  commandId : String
  commandType : String
  schemaVersion : ℕ
  correlationId : String
  issuer : String
  idempotencyKey : String
  deadlineAt : Option UTCDateTime := none
  priority : ℤ := 0
  /-- None when `to_canonical_data` raises for a value among them. -/
  attributes : Option CanonicalData := some (.mapping [])

/-- `CommandIdempotencyDecision`, with the data that each status carries. -/
inductive CommandIdempotencyDecision (R : Type)
  | claimed
  | duplicateCompleted (result : Option R)
  | duplicateFailed (failure : CommandFailure)
  | duplicateInProgress (reason : String)
  | conflict (reason : String)
  | rejected (reason : String)
  deriving DecidableEq

inductive InMemoryEntryStatus
  | inProgress
  | completed
  | failed
  deriving DecidableEq, Repr

/-- An entry and the key it stands under. -/
structure InMemoryIdempotencyEntry (R : Type) where
  key : String
  fingerprint : String
  status : InMemoryEntryStatus
  result : Option R := none
  failure : Option CommandFailure := none
  deriving DecidableEq

structure InMemoryCommandIdempotencyHook (R : Type) where
  maxEntries : ℕ
  entries : List (InMemoryIdempotencyEntry R) := []
  maxEntries_pos : 1 ≤ maxEntries

variable (sha : Sha256)

/-- `_command_idempotency_fingerprint`. -/
def commandIdempotencyFingerprint (command : CommandEnvelope) : Option String :=
  command.attributes.map fun attributes => canonicalSha256 sha (.mapping
    [("attributes", attributes), ("command_type", .str command.commandType),
     ("deadline_at", command.deadlineAt.elim .null .datetime), ("issuer", .str command.issuer),
     ("priority", .int command.priority), ("schema_version", .int command.schemaVersion)])

namespace InMemoryCommandIdempotencyHook

variable {R : Type}

def get (hook : InMemoryCommandIdempotencyHook R) (key : String) : Option (InMemoryIdempotencyEntry R) :=
  Dictionary.lookup (·.key) key hook.entries

/-! ## The ordered dictionary -/

/-- `self._entries[key] = entry` and `move_to_end`. -/
def putLast (entry : InMemoryIdempotencyEntry R) (entries : List (InMemoryIdempotencyEntry R)) :
    List (InMemoryIdempotencyEntry R) :=
  Dictionary.erase (·.key) entry.key entries ++ [entry]

/-- May be evicted. -/
def Evictable (protectedKey : Option String) (entry : InMemoryIdempotencyEntry R) : Bool :=
  decide (some entry.key ≠ protectedKey ∧ entry.status ≠ .inProgress)

/-- `_evict_oldest_terminal_entry`; none where it returns false. -/
def evictOldestTerminalEntry (protectedKey : Option String) (entries : List (InMemoryIdempotencyEntry R)) :
    Option (List (InMemoryIdempotencyEntry R)) :=
  (entries.find? (Evictable protectedKey)).map fun entry => Dictionary.erase (·.key) entry.key entries

theorem length_evict {protectedKey : Option String} {entries entries' : List (InMemoryIdempotencyEntry R)}
    (h : evictOldestTerminalEntry protectedKey entries = some entries') : entries'.length < entries.length := by
  obtain ⟨entry, hentry, rfl⟩ := Option.map_eq_some_iff.mp h
  refine List.length_filter_lt_length_iff_exists.mpr ⟨entry, List.mem_of_find?_eq_some hentry, ?_⟩
  exact fun hne => of_decide_eq_true hne rfl

/-- `_trim_to_capacity`. -/
def trimToCapacity (maxEntries : ℕ) (protectedKey : String) (entries : List (InMemoryIdempotencyEntry R)) :
    List (InMemoryIdempotencyEntry R) :=
  if maxEntries < entries.length then
    match _h : evictOldestTerminalEntry (some protectedKey) entries with
    | some entries' => trimToCapacity maxEntries protectedKey entries'
    | none => entries
  else entries
termination_by entries.length
decreasing_by exact length_evict _h

/-! ## The methods -/

/-- The decision about a key that has an entry with this fingerprint. -/
def duplicate (entry : InMemoryIdempotencyEntry R) : CommandIdempotencyDecision R :=
  match entry.status with
  | .inProgress => .duplicateInProgress "command idempotency key is already in progress"
  | .completed => .duplicateCompleted entry.result
  | .failed =>
      match entry.failure with
      | none => .rejected "command idempotency key has a failed record without failure metadata"
      | some failure => .duplicateFailed failure

/-- The entries after the eviction that makes room for a new key. -/
def makeRoom (hook : InMemoryCommandIdempotencyHook R) : List (InMemoryIdempotencyEntry R) :=
  if hook.maxEntries ≤ hook.entries.length then (evictOldestTerminalEntry none hook.entries).getD hook.entries
  else hook.entries

/-- `before_dispatch`; none where it raises. -/
def beforeDispatch (hook : InMemoryCommandIdempotencyHook R) (command : CommandEnvelope) :
    Option (CommandIdempotencyDecision R) × InMemoryCommandIdempotencyHook R :=
  match commandIdempotencyFingerprint sha command with
  | none => (none, hook)
  | some fingerprint =>
      match hook.get command.idempotencyKey with
      | some existing =>
          let decision :=
            if existing.fingerprint ≠ fingerprint then
              .conflict "command idempotency key conflicts with a different command request"
            else duplicate existing
          (some decision, { hook with entries := putLast existing hook.entries })
      | none =>
          if hook.maxEntries ≤ hook.makeRoom.length then
            (some (.rejected "command idempotency hook capacity is exhausted"), { hook with entries := hook.makeRoom })
          else
            (some .claimed, { hook with
              entries := Dictionary.insert (·.key)
                { key := command.idempotencyKey, fingerprint, status := .inProgress } hook.makeRoom })

/-- The end of `record_success` and `record_failure`; none where they raise. -/
def record (hook : InMemoryCommandIdempotencyHook R) (command : CommandEnvelope)
    (entry : String → InMemoryIdempotencyEntry R) : Option (InMemoryCommandIdempotencyHook R) :=
  (commandIdempotencyFingerprint sha command).map fun fingerprint =>
    { hook with entries :=
        trimToCapacity hook.maxEntries command.idempotencyKey (putLast (entry fingerprint) hook.entries) }

def recordSuccess (hook : InMemoryCommandIdempotencyHook R) (command : CommandEnvelope) (result : Option R) :
    Option (InMemoryCommandIdempotencyHook R) :=
  hook.record sha command fun fingerprint =>
    { key := command.idempotencyKey, fingerprint, status := .completed, result }

def recordFailure (hook : InMemoryCommandIdempotencyHook R) (command : CommandEnvelope) (failure : CommandFailure) :
    Option (InMemoryCommandIdempotencyHook R) :=
  hook.record sha command fun fingerprint =>
    { key := command.idempotencyKey, fingerprint, status := .failed, failure := some failure }

end InMemoryCommandIdempotencyHook
end Pmrp
