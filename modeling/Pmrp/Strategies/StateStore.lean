import Pmrp.Lib.Dictionary
import Pmrp.Schemas.Correctness.CanonicalValues
import Pmrp.Strategies.Errors

/-!
# `Strategies.StateStore` — checkpoints of a strategy's state

`strategies/state_store.py`. A state is the list of the items of its mapping. A checkpoint holds what its constructor
checks: its namespace, a version from one on, a state that is frozen, and the hash of that state. `datetime.isoformat`
and the SHA-256 digest of a text are parameters.
-/

namespace Pmrp
namespace StateStore

open Freezing StrategyErrors

/-- An argument of the declared type, or a value of another one. -/
inductive Argument (α : Type)
  | typed (value : α)
  | other

/-! ## Validation -/

def isNamespaceChar (c : Char) : Bool := isLowerOrDigit c || c == '_' || c == ':' || c == '-'

/-- `[a-z][a-z0-9_:-]{0,127}` matched against the whole text. -/
def matchesStateNamespacePattern (value : String) : Bool :=
  match value.toList with
  | [] => false
  | c :: cs => isLower c && decide (cs.length ≤ 127) && cs.all isNamespaceChar

def validateStrategyId : Argument StrategyId → RaisedResult StrategyId
  | .typed strategyId => .ok strategyId
  | .other =>
      .error (.strategyError "strategy_id must be a StrategyId" "strategy_state_store_strategy_id_invalid" [])

def validateNamespace : Argument String → RaisedResult { value : String // matchesStateNamespacePattern value = true }
  | .other =>
      .error (.strategyError "strategy state namespace must be a string" "strategy_state_store_namespace_invalid" [])
  | .typed value =>
      if h : matchesStateNamespacePattern value = true then .ok ⟨value, h⟩
      else
        .error (construct "strategy state namespace must use a lowercase safe identifier"
          "strategy_state_store_namespace_invalid" [("namespace", value)])

def validateVersion : Argument ℤ → RaisedResult { version : ℤ // 1 ≤ version }
  | .other =>
      .error
        (.strategyError "strategy state checkpoint version must be an int" "strategy_state_store_version_invalid" [])
  | .typed version =>
      if h : 1 ≤ version then .ok ⟨version, h⟩
      else do
        let text ← raising (intText version)
        .error (construct "strategy state checkpoint version must be positive" "strategy_state_store_version_invalid"
          [("version", text)])

def validateSourceEventId : Option (Argument EventId) → RaisedResult (Option EventId)
  | none => .ok none
  | some (.typed eventId) => .ok (some eventId)
  | some .other => .error (.raised ⟨.typeError, "source_event_id must be an EventId when provided"⟩)

/-! ## Checkpoints -/

variable (isoformat : UTCDateTime → String) (hexdigest : String → String)

/-- `canonical_sha256` of a mapping with these items. -/
def stateSha256 (kind : MappingKind) (state : List (Key × PyValue)) : Result String := do
  pure ("sha256:" ++ hexdigest (← canonicalJson isoformat (.mapping kind state)))

/-- The comparison with the hash that is expected, where computing it may raise. -/
def matchExpectedHash (stateHash : String) :
    (expected : Result String) → RaisedResult { s : String // expected = .ok s }
  | .error e => .error (.raised e)
  | .ok expectedHash =>
      if heq : expectedHash = stateHash then .ok ⟨stateHash, by rw [heq]⟩
      else .error (.raised (valueError "state_hash must match the canonical strategy state payload"))

def validateStateHash (state : List (Key × PyValue)) :
    Argument String →
      RaisedResult { stateHash : String // stateSha256 isoformat hexdigest .mappingProxy state = .ok stateHash }
  | .other => .error (.raised ⟨.typeError, "state_hash must be a string"⟩)
  | .typed stateHash => matchExpectedHash stateHash (stateSha256 isoformat hexdigest .mappingProxy state)

/-- `freeze_canonical_mapping`. -/
def freezeState (state : List (Key × PyValue)) :
    Result { frozen : List (Key × PyValue) // freezeItems "strategy state" frozen = .ok frozen } :=
  match h : freezeItems "strategy state" state with
  | .ok frozen => .ok ⟨frozen, freezeItems_idempotent state "strategy state" h⟩
  | .error e => .error e

structure StrategyStateCheckpoint where
  strategyId : StrategyId
  stateNamespace : String
  version : ℤ
  state : List (Key × PyValue)
  stateHash : String
  sourceEventId : Option EventId
  isNamespace : matchesStateNamespacePattern stateNamespace = true
  positive : 1 ≤ version
  frozen : freezeItems "strategy state" state = .ok state
  isHash : stateSha256 isoformat hexdigest .mappingProxy state = .ok stateHash

def StrategyStateCheckpoint.new (strategyId : Argument StrategyId) (stateNamespace : Argument String)
    (version : Argument ℤ) (state : List (Key × PyValue)) (stateHash : Argument String)
    (sourceEventId : Option (Argument EventId)) : RaisedResult (StrategyStateCheckpoint isoformat hexdigest) := do
  let strategyId ← match strategyId with
    | .typed strategyId => pure strategyId
    | .other => .error (.raised ⟨.typeError, "strategy_id must be a StrategyId"⟩)
  let ⟨stateNamespace, isNamespace⟩ ← validateNamespace stateNamespace
  let ⟨version, positive⟩ ← validateVersion version
  let ⟨state, frozen⟩ ← raising (freezeState state)
  let ⟨stateHash, isHash⟩ ← validateStateHash isoformat hexdigest state stateHash
  let sourceEventId ← validateSourceEventId sourceEventId
  pure { strategyId, stateNamespace, version, state, stateHash, sourceEventId, isNamespace, positive, frozen, isHash }

/-- `thaw_checkpoint_state`. -/
def thawCheckpointState (checkpoint : StrategyStateCheckpoint isoformat hexdigest) : List (Key × PyValue) :=
  thawCanonicalMapping checkpoint.state

/-! ## The store -/

abbrev NamespaceKey := StrategyId × String

structure InMemoryStrategyStateStore where
  checkpoints : List (NamespaceKey × List (StrategyStateCheckpoint isoformat hexdigest)) := []

/-- The store that `__init__` makes. -/
def emptyStore : InMemoryStrategyStateStore isoformat hexdigest := ⟨[]⟩

variable {isoformat hexdigest}

namespace InMemoryStrategyStateStore

/-- `self._checkpoints.get(key, ())`. -/
def get (store : InMemoryStrategyStateStore isoformat hexdigest) (key : NamespaceKey) :
    List (StrategyStateCheckpoint isoformat hexdigest) :=
  ((Dictionary.lookup Prod.fst key store.checkpoints).map Prod.snd).getD []

/-- `self._checkpoints.setdefault(key, []).append(checkpoint)`. -/
def append (store : InMemoryStrategyStateStore isoformat hexdigest) (key : NamespaceKey)
    (checkpoint : StrategyStateCheckpoint isoformat hexdigest) : InMemoryStrategyStateStore isoformat hexdigest :=
  ⟨Dictionary.insert Prod.fst (key, store.get key ++ [checkpoint]) store.checkpoints⟩

def saveCheckpoint (store : InMemoryStrategyStateStore isoformat hexdigest) (strategyId : Argument StrategyId)
    (state : List (Key × PyValue)) (stateNamespace : Argument String) (sourceEventId : Option (Argument EventId)) :
    RaisedResult (StrategyStateCheckpoint isoformat hexdigest × InMemoryStrategyStateStore isoformat hexdigest) := do
  let strategyId ← validateStrategyId strategyId
  let stateNamespace ← validateNamespace stateNamespace
  let frozenState ← raising (freezeState state)
  let key := (strategyId, stateNamespace.val)
  let version := (store.get key).length + 1
  let stateHash ← raising (stateSha256 isoformat hexdigest .mappingProxy frozenState.val)
  let checkpoint ← StrategyStateCheckpoint.new isoformat hexdigest (.typed strategyId) (.typed stateNamespace.val)
    (.typed version) frozenState.val (.typed stateHash) sourceEventId
  pure (checkpoint, store.append key checkpoint)

def listCheckpoints (store : InMemoryStrategyStateStore isoformat hexdigest) (strategyId : Argument StrategyId)
    (stateNamespace : Argument String) : RaisedResult (List (StrategyStateCheckpoint isoformat hexdigest)) := do
  let strategyId ← validateStrategyId strategyId
  let stateNamespace ← validateNamespace stateNamespace
  pure (store.get (strategyId, stateNamespace.val))

def loadLatest (store : InMemoryStrategyStateStore isoformat hexdigest) (strategyId : Argument StrategyId)
    (stateNamespace : Argument String) : RaisedResult (Option (StrategyStateCheckpoint isoformat hexdigest)) := do
  let checkpoints ← store.listCheckpoints strategyId stateNamespace
  pure checkpoints.getLast?

def loadCheckpoint (store : InMemoryStrategyStateStore isoformat hexdigest) (strategyId : Argument StrategyId)
    (version : Argument ℤ) (stateNamespace : Argument String) :
    RaisedResult (Option (StrategyStateCheckpoint isoformat hexdigest)) := do
  let version ← validateVersion version
  let checkpoints ← store.listCheckpoints strategyId stateNamespace
  pure (checkpoints.find? fun checkpoint => checkpoint.version = version.val)

def clearStrategy (store : InMemoryStrategyStateStore isoformat hexdigest) (strategyId : Argument StrategyId) :
    RaisedResult (InMemoryStrategyStateStore isoformat hexdigest) := do
  let strategyId ← validateStrategyId strategyId
  let keys := (store.checkpoints.map Prod.fst).filter fun key => key.1 = strategyId
  pure ⟨keys.foldl (fun checkpoints key => Dictionary.erase Prod.fst key checkpoints) store.checkpoints⟩

end InMemoryStrategyStateStore

/-! ## Runs -/

/-- A call that may change the store. -/
inductive Call
  | save (strategyId : Argument StrategyId) (state : List (Key × PyValue)) (stateNamespace : Argument String)
      (sourceEventId : Option (Argument EventId))
  | clear (strategyId : Argument StrategyId)

/-- The store after a call. One that raises has not changed it. -/
def Call.apply (store : InMemoryStrategyStateStore isoformat hexdigest) :
    Call → InMemoryStrategyStateStore isoformat hexdigest
  | .save strategyId state stateNamespace sourceEventId =>
      match store.saveCheckpoint strategyId state stateNamespace sourceEventId with
      | .ok (_, store') => store'
      | .error _ => store
  | .clear strategyId =>
      match store.clearStrategy strategyId with
      | .ok store' => store'
      | .error _ => store

/-- The store after the calls, one after the other. -/
def run (store : InMemoryStrategyStateStore isoformat hexdigest) (calls : List Call) :
    InMemoryStrategyStateStore isoformat hexdigest :=
  calls.foldl Call.apply store

end StateStore
end Pmrp
