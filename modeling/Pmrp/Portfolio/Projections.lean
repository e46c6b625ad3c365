import Mathlib.Data.String.Basic
import Pmrp.Lib.StableSort
import Pmrp.Portfolio.Journal

/-!
# `Portfolio.Projections` — applying a fill once

`apply_fill_once` of `portfolio/projections.py`, and the run of calls a caller makes with it: position,
applied fill ids and the journals produced so far, threaded from one call to the next. `apply_fills_once`
validates a batch, sorts it and threads the same state through it.
-/

namespace Pmrp

structure FillApplicationResult where
  position : Option Position
  positionProjection : Option PositionProjectionResult
  journalEntry : Option AccountingJournalEntry
  appliedFillIds : Finset FillId
  applied : Bool
  duplicateFill : Bool

structure FillBatchApplicationResult where
  position : Option Position
  fillResults : List FillApplicationResult
  journalEntries : List AccountingJournalEntry
  appliedFillIds : Finset FillId
  appliedCount : ℕ
  duplicateFillCount : ℕ

namespace Projections

variable (ctx : DecimalContext) (sha : Sha256)

def applyFillOnce (position : Option Position) (fill : Fill) (appliedFillIds : Finset FillId)
    (currency : String) (sourceEventId : EventId) (createdAt : UTCDateTime)
    (positionId : Option PositionId) : Result FillApplicationResult := do
  if fill.fillId ∈ appliedFillIds then
    return {
      position, positionProjection := none, journalEntry := none, appliedFillIds, applied := false,
      duplicateFill := true }
  let projection ← Positions.applyFillToPosition ctx sha position fill currency positionId
  let journalEntry ← Journal.buildFillJournalEntry ctx sha fill projection sourceEventId createdAt
  return {
    position := some projection.position, positionProjection := some projection,
    journalEntry := some journalEntry, appliedFillIds := insert fill.fillId appliedFillIds,
    applied := true, duplicateFill := false }

/-! ## Runs of calls -/

/-- The arguments of one call that change from call to call. -/
structure FillCall where
  fill : Fill
  sourceEventId : EventId
  createdAt : UTCDateTime

/-- What a caller keeps between calls. -/
structure FillRun where
  position : Option Position
  appliedFillIds : Finset FillId
  journals : List AccountingJournalEntry
  deriving DecidableEq

/-- No position, nothing applied. -/
def FillRun.start : FillRun := ⟨none, ∅, []⟩

def FillRun.step (currency : String) (positionId : Option PositionId) (run : FillRun)
    (call : FillCall) : Result FillRun := do
  let result ← applyFillOnce ctx sha run.position call.fill run.appliedFillIds currency
    call.sourceEventId call.createdAt positionId
  return {
    position := result.position, appliedFillIds := result.appliedFillIds,
    journals := run.journals ++ result.journalEntry.toList }

def applyFillCalls (currency : String) (positionId : Option PositionId) (calls : List FillCall) :
    Result FillRun :=
  calls.foldlM (FillRun.step ctx sha currency positionId) .start

/-! ## Batches -/

/-- Two fills of the batch share an id and differ. -/
def Conflicting (fills : List Fill) : Prop := ∃ f ∈ fills, ∃ g ∈ fills, f.fillId = g.fillId ∧ f ≠ g

instance (fills : List Fill) : Decidable (Conflicting fills) := inferInstanceAs (Decidable (∃ f ∈ fills, _))

/-- A fill of the batch has no source event id. -/
def MissingSource (sourceEventIds : FillId → Option EventId) (fills : List Fill) : Prop :=
  ∃ f ∈ fills, sourceEventIds f.fillId = none

instance (sourceEventIds : FillId → Option EventId) (fills : List Fill) :
    Decidable (MissingSource sourceEventIds fills) := inferInstanceAs (Decidable (∃ f ∈ fills, _))

def conflictingPayload : PyError :=
  portfolioProjectionError "duplicate fill_id has conflicting fill payload"

def missingSourceEventId : PyError :=
  portfolioProjectionError "source_event_ids must contain every fill_id in the batch"

/-- The loop of `_validate_fill_batch` remembers the last fill of every id. -/
def validateFillPayloads (fillById : FillId → Option Fill) : List Fill → Result Unit
  | [] => .ok ⟨⟩
  | fill :: fills => do
      raiseIf (∃ previous ∈ fillById fill.fillId, previous ≠ fill) conflictingPayload
      validateFillPayloads (fun i => if i = fill.fillId then some fill else fillById i) fills

def validateFillBatch (fills : List Fill) (sourceEventIds : FillId → Option EventId) : Result Unit := do
  validateFillPayloads (fun _ => none) fills
  raiseIf (MissingSource sourceEventIds fills) missingSourceEventId

abbrev FillOrderKey := UTCDateTime ×ₗ UTCDateTime ×ₗ String

def fillOrderKey (fill : Fill) : FillOrderKey :=
  toLex (fill.exchangeOccurredAt, toLex (fill.receivedAt, fill.fillId.val))

/-- The variables of the loop. -/
structure FillBatch where
  position : Option Position
  appliedFillIds : Finset FillId
  results : List FillApplicationResult
  journals : List AccountingJournalEntry

/-- What `apply_fills_once` is given besides the fills and the state. -/
structure FillBatchArguments where
  currency : String
  sourceEventIds : FillId → Option EventId
  createdAt : UTCDateTime
  positionId : Option PositionId

/-- `source_event_ids[fill.fill_id]`. -/
def sourceEventId (args : FillBatchArguments) (fill : Fill) : Result EventId :=
  match args.sourceEventIds fill.fillId with
  | none => .error ⟨.keyError, fill.fillId.val⟩
  | some eventId => .ok eventId

def FillBatch.step (args : FillBatchArguments) (batch : FillBatch) (fill : Fill) : Result FillBatch := do
  let eventId ← sourceEventId args fill
  let result ← applyFillOnce ctx sha batch.position fill batch.appliedFillIds args.currency eventId
    args.createdAt args.positionId
  return {
    position := result.position, appliedFillIds := result.appliedFillIds,
    results := batch.results ++ [result], journals := batch.journals ++ result.journalEntry.toList }

def applyFillsOnce (args : FillBatchArguments) (position : Option Position) (appliedFillIds : Finset FillId)
    (fills : List Fill) : Result FillBatchApplicationResult := do
  validateFillBatch fills args.sourceEventIds
  let batch ← (sortByKey fillOrderKey fills).foldlM (FillBatch.step ctx sha args)
    ⟨position, appliedFillIds, [], []⟩
  return {
    position := batch.position, fillResults := batch.results, journalEntries := batch.journals,
    appliedFillIds := batch.appliedFillIds, appliedCount := batch.results.countP (·.applied),
    duplicateFillCount := batch.results.countP (·.duplicateFill) }

end Projections
end Pmrp
