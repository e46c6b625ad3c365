import Mathlib.Order.OrderDual
import Pmrp.Lib.StableSort
import Pmrp.Schemas.Reconciliation
import Pmrp.Storage.Columns

/-!
# `Storage.ReconciliationResults` — the repository of reconciliation results

`storage/repositories/reconciliation_results.py` over `reconciliation_runs` and `reconciliation_mismatches`. A result is
one row for its run and one for each mismatch. How the database orders texts is a parameter: the collation maps a text
to a place in a linear order.
-/

namespace Pmrp

def ReconciliationStatus.value : ReconciliationStatus → String
  | .healthy => "healthy"
  | .mismatch => "mismatch"
  | .unknown => "unknown"
  | .failed => "failed"

/-- The class called on a text. -/
def ReconciliationStatus.parse (value : String) : Result ReconciliationStatus :=
  match [healthy, mismatch, unknown, failed].find? fun status => status.value = value with
  | some status => .ok status
  | none => .error (valueError s!"'{value}' is not a valid ReconciliationStatus")

structure ReconciliationRunRow where
  reconciliationId : String
  exchange : String
  accountId : String
  startedAt : UTCDateTime
  completedAt : Option UTCDateTime
  status : String
  openOrdersChecked : ℕ
  positionsChecked : ℕ
  balancesChecked : ℕ
  fillsChecked : ℕ
  tradingGateReleased : Bool
  initiatedBy : String
  reason : Option String
  deriving DecidableEq

structure ReconciliationMismatchRow where
  mismatchId : String
  reconciliationId : String
  category : String
  localValue : Option String
  externalValue : Option String
  severity : String
  explanation : Option String
  requiresManualReview : Bool
  deriving DecidableEq

structure ReconciliationTables where
  runs : List ReconciliationRunRow := []
  mismatches : List ReconciliationMismatchRow := []

namespace ReconciliationResultRepository

/-! ## Validation -/

def validateText (fieldName : String) (maxLength : ℕ) (value : String) : Result Unit := do
  raiseIf (value = "") (valueError s!"{fieldName} must not be empty")
  raiseIf (¬value.length ≤ maxLength) (valueError s!"{fieldName} must be at most {maxLength} characters")

def reconciliationIdMaxLength : ℕ := 128
def exchangeMaxLength : ℕ := 64
def initiatedByMaxLength : ℕ := 128
def reasonMaxLength : ℕ := 1024
def defaultListLimit : ℤ := 500
def maxListLimit : ℤ := 5000

def validateLimit (limit : ℤ) : Result Unit := do
  raiseIf (limit ≤ 0) (valueError "reconciliation result list limit must be positive")
  raiseIf (maxListLimit < limit) (valueError "reconciliation result list limit must be at most 5000")

/-! ## Rows -/

def mismatchRow (reconciliationId : String) (mismatch : ReconciliationMismatch) : ReconciliationMismatchRow where
  mismatchId := mismatch.mismatchId
  reconciliationId := reconciliationId
  category := mismatch.category
  localValue := mismatch.localValue
  externalValue := mismatch.externalValue
  severity := mismatch.severity
  explanation := mismatch.explanation
  requiresManualReview := mismatch.requiresManualReview

def runRow (result : ReconciliationResult) (initiatedBy : String) (reason : Option String) : ReconciliationRunRow where
  reconciliationId := result.reconciliationId
  exchange := result.exchange
  accountId := result.accountId.val
  startedAt := result.startedAt
  completedAt := some result.completedAt
  status := result.status.value
  openOrdersChecked := result.openOrdersChecked
  positionsChecked := result.positionsChecked
  balancesChecked := result.balancesChecked
  fillsChecked := result.fillsChecked
  tradingGateReleased := result.tradingGateReleased
  initiatedBy := initiatedBy
  reason := reason

def reconciliationResultToRows (result : ReconciliationResult) (initiatedBy : String) (reason : Option String) :
    Result (ReconciliationRunRow × List ReconciliationMismatchRow) := do
  validateText "initiated_by" initiatedByMaxLength initiatedBy
  reason.elim (.ok ⟨⟩) (validateText "reason" reasonMaxLength)
  pure (runRow result initiatedBy reason, result.mismatches.map (mismatchRow result.reconciliationId))

def mismatchFromRow (runRow : ReconciliationRunRow) (row : ReconciliationMismatchRow) :
    Result ReconciliationMismatch := do
  raiseIf (row.reconciliationId ≠ runRow.reconciliationId)
    ⟨.invariantViolationError, "reconciliation mismatch belongs to a different run"⟩
  ReconciliationMismatch.validate
    { mismatchId := row.mismatchId, category := row.category, localValue := row.localValue,
      externalValue := row.externalValue, severity := row.severity, explanation := row.explanation,
      requiresManualReview := row.requiresManualReview }

def reconciliationResultFromRows (runRow : ReconciliationRunRow) (mismatchRows : List ReconciliationMismatchRow) :
    Result ReconciliationResult :=
  match runRow.completedAt with
  | none => .error ⟨.invariantViolationError, "reconciliation run is not complete"⟩
  | some completedAt => do
      let mismatches ← mismatchRows.mapM (mismatchFromRow runRow)
      let accountId ← Identifier.parse "AccountId" "acct_" runRow.accountId
      let status ← ReconciliationStatus.parse runRow.status
      ReconciliationResult.validate
        { reconciliationId := runRow.reconciliationId, exchange := runRow.exchange, accountId,
          startedAt := runRow.startedAt, completedAt, status, mismatches,
          openOrdersChecked := runRow.openOrdersChecked, positionsChecked := runRow.positionsChecked,
          balancesChecked := runRow.balancesChecked, fillsChecked := runRow.fillsChecked,
          tradingGateReleased := runRow.tradingGateReleased }

/-! ## Writing -/

def maxInteger : ℕ := 2147483647

/-- `add`: the insert of the rows under the integer columns and the primary keys of the two tables. -/
def add (tables : ReconciliationTables) (result : ReconciliationResult) (initiatedBy : String)
    (reason : Option String) :
    Result ReconciliationTables := do
  let (run, mismatches) ← reconciliationResultToRows result initiatedBy reason
  raiseIf (maxInteger < run.openOrdersChecked ∨ maxInteger < run.positionsChecked ∨ maxInteger < run.balancesChecked ∨
    maxInteger < run.fillsChecked) storageError
  raiseIf (¬((tables.runs ++ [run]).map ReconciliationRunRow.reconciliationId).Nodup) duplicateRecordError
  raiseIf (¬((tables.mismatches ++ mismatches).map ReconciliationMismatchRow.mismatchId).Nodup) duplicateRecordError
  pure ⟨tables.runs ++ [run], tables.mismatches ++ mismatches⟩

/-! ## Reading -/

variable {κ : Type} [LinearOrder κ] (collate : String → κ)

/-- The order of the mismatches that are selected. -/
def mismatchKey (row : ReconciliationMismatchRow) : κ ×ₗ κ ×ₗ κ :=
  toLex (collate row.reconciliationId, toLex (collate row.severity, collate row.mismatchId))

/-- `started_at` and `reconciliation_id`, each descending. -/
def newestKey (row : ReconciliationRunRow) : UTCDateTimeᵒᵈ ×ₗ κᵒᵈ :=
  toLex (OrderDual.toDual row.startedAt, OrderDual.toDual (collate row.reconciliationId))

/-- `_mismatch_rows_for`. -/
def mismatchRowsFor (tables : ReconciliationTables) (ids : List String) : List ReconciliationMismatchRow :=
  if ids = [] then []
  else sortByKey (mismatchKey collate) (tables.mismatches.filter fun row => row.reconciliationId ∈ ids)

/-- `_one_or_none`, where the statement selects at most one row. -/
def oneOrNone (tables : ReconciliationTables) : Option ReconciliationRunRow → Result (Option ReconciliationResult)
  | none => .ok none
  | some run => do
      pure (some (← reconciliationResultFromRows run (mismatchRowsFor collate tables [run.reconciliationId])))

/-- `_reconciliation_results_from_rows`: the mismatches are grouped by their run. -/
def resultsFromRows (runs : List ReconciliationRunRow) (mismatches : List ReconciliationMismatchRow) :
    Result (List ReconciliationResult) :=
  runs.mapM fun run =>
    reconciliationResultFromRows run (mismatches.filter fun row => row.reconciliationId = run.reconciliationId)

/-- `_all`. -/
def all (tables : ReconciliationTables) (runs : List ReconciliationRunRow) : Result (List ReconciliationResult) :=
  if runs = [] then .ok []
  else resultsFromRows runs (mismatchRowsFor collate tables (runs.map ReconciliationRunRow.reconciliationId))

def get (tables : ReconciliationTables) (reconciliationId : String) : Result (Option ReconciliationResult) := do
  validateText "reconciliation_id" reconciliationIdMaxLength reconciliationId
  oneOrNone collate tables (tables.runs.find? fun run => run.reconciliationId = reconciliationId)

def latestForAccount (tables : ReconciliationTables) (exchange : String) (accountId : AccountId) :
    Result (Option ReconciliationResult) := do
  validateText "exchange" exchangeMaxLength exchange
  let selected := tables.runs.filter fun run =>
    run.exchange = exchange ∧ run.accountId = accountId.val ∧ run.completedAt.isSome = true
  oneOrNone collate tables (sortByKey (newestKey collate) selected).head?

def listByStatus (tables : ReconciliationTables) (status : ReconciliationStatus) (limit : ℤ) :
    Result (List ReconciliationResult) := do
  validateLimit limit
  let selected := tables.runs.filter fun run => run.status = status.value ∧ run.completedAt.isSome = true
  all collate tables ((sortByKey (newestKey collate) selected).take limit.toNat)

end ReconciliationResultRepository
end Pmrp
