import Mathlib.Data.String.Basic
import Pmrp.Lib.KeyedDiff
import Pmrp.Schemas.Reconciliation

/-!
# `Portfolio.Reconciliation` — comparing a local with an external snapshot

`reconcile_portfolio_snapshots` of `portfolio/reconciliation.py`. Positions and balances are compared in the same
way: `EntityKind` holds what the source writes twice. Each mismatch is built, and validated, where it is found, so
the comparison raises at the first one that its model does not accept.
-/

namespace Pmrp

def reconciliationSeverityMismatch : String := "mismatch"
def reconciliationSeverityUnknown : String := "unknown"
def presentValue : String := "present"

/-- A value of a compared field. -/
inductive ComparedValue
  | text (value : String)
  | decimal (value : Option ℚ)
  | money (value : Money)
  deriving DecidableEq

/-- `_format_value`, with the text of the field's `Decimal`. -/
def ComparedValue.format (decimalText : ℚ → String) : ComparedValue → Option String
  | .text value => some value
  | .decimal value => value.map decimalText
  | .money value => some (decimalText value.amount ++ " " ++ value.currency.code)

structure ComparedField (α : Type) where
  category : String
  value : α → ComparedValue

/-- What the source writes for positions and again for balances. -/
structure EntityKind (α : Type) where
  identity : α → String
  missingLocalCategory : String
  missingLocalExplanation : String
  missingExternalCategory : String
  missingExternalExplanation : String
  fields : List (ComparedField α)

namespace EntityKind

variable {α : Type} (kind : EntityKind α)

def categories : List String :=
  kind.missingLocalCategory :: kind.missingExternalCategory :: kind.fields.map ComparedField.category

end EntityKind

namespace Reconciliation

variable (sha : Sha256)

/-! ## Mismatches -/

def mismatchIdData (reconciliationId category identity : String) (localValue externalValue : Option String) :
    CanonicalData :=
  .mapping [
    ("category", .str category),
    ("external_value", .optionalStr externalValue),
    ("identity", .str identity),
    ("local_value", .optionalStr localValue),
    ("reconciliation_id", .str reconciliationId),
    ("schema", .str "pmrp.reconciliation_mismatch.v1")]

def deriveReconciliationMismatchId (reconciliationId category identity : String)
    (localValue externalValue : Option String) : String :=
  "recon_mismatch_" ++ shortDigest sha (mismatchIdData reconciliationId category identity localValue externalValue)

/-- The mismatch that `build_reconciliation_mismatch` constructs from formatted values, before validation. -/
def mismatchOf (reconciliationId category identity : String) (localValue externalValue : Option String)
    (explanation : Option String) (severity : String := reconciliationSeverityMismatch)
    (requiresManualReview : Bool := true) : ReconciliationMismatch where
  mismatchId := deriveReconciliationMismatchId sha reconciliationId category identity localValue externalValue
  category := category
  localValue := localValue
  externalValue := externalValue
  severity := severity
  explanation := explanation
  requiresManualReview := requiresManualReview

def buildReconciliationMismatch (reconciliationId category identity : String)
    (localValue externalValue : Option String) (explanation : Option String)
    (severity : String := reconciliationSeverityMismatch) (requiresManualReview : Bool := true) :
    Result ReconciliationMismatch :=
  (mismatchOf sha reconciliationId category identity localValue externalValue explanation severity
    requiresManualReview).validate

/-! ## Comparing entities -/

section Compare

variable {α : Type} (kind : EntityKind α) (reconciliationId : String)
  (localText externalText : String → String → ℚ → String)

def compareFields (identity : String) (localEntity externalEntity : α) : Result (List ReconciliationMismatch) :=
  (kind.fields.filter fun field => decide (field.value localEntity ≠ field.value externalEntity)).mapM fun field =>
    buildReconciliationMismatch sha reconciliationId field.category identity
      ((field.value localEntity).format (localText identity field.category))
      ((field.value externalEntity).format (externalText identity field.category)) none

def compareEntity (localEntities externalEntities : List α) (identity : String) :
    Result (List ReconciliationMismatch) :=
  match Dictionary.lookup kind.identity identity localEntities,
    Dictionary.lookup kind.identity identity externalEntities with
  | none, none => .ok []
  | none, some _ => do
      let mismatch ← buildReconciliationMismatch sha reconciliationId kind.missingLocalCategory identity none
        (some presentValue) (some kind.missingLocalExplanation)
      pure [mismatch]
  | some _, none => do
      let mismatch ← buildReconciliationMismatch sha reconciliationId kind.missingExternalCategory identity
        (some presentValue) none (some kind.missingExternalExplanation)
      pure [mismatch]
  | some localEntity, some externalEntity =>
      compareFields sha kind reconciliationId localText externalText identity localEntity externalEntity

/-- The loop over the identities of both sides, sorted. -/
def compareEntities (localEntities externalEntities : List α) : Result (List ReconciliationMismatch) := do
  let compared ← (KeyedDiff.keys kind.identity localEntities externalEntities).mapM
    (compareEntity sha kind reconciliationId localText externalText localEntities externalEntities)
  pure compared.flatten

end Compare

def positionKind : EntityKind Position where
  identity position := position.positionId.val
  missingLocalCategory := "position.missing_local"
  missingLocalExplanation := "External position is missing from local projection."
  missingExternalCategory := "position.missing_external"
  missingExternalExplanation := "Local position is missing from external snapshot."
  fields := [
    ⟨"position.exchange", fun p => .text p.exchange⟩,
    ⟨"position.account_id", fun p => .text p.accountId.val⟩,
    ⟨"position.market_id", fun p => .text p.marketId.val⟩,
    ⟨"position.contract_id", fun p => .text p.contractId.val⟩,
    ⟨"position.outcome_id", fun p => .text p.outcomeId.val⟩,
    ⟨"position.quantity", fun p => .decimal (some p.quantity)⟩,
    ⟨"position.average_entry_price", fun p => .decimal p.averageEntryPrice⟩,
    ⟨"position.realized_pnl", fun p => .money p.realizedPnl⟩,
    ⟨"position.unrealized_pnl", fun p => .money p.unrealizedPnl⟩,
    ⟨"position.fees_paid", fun p => .money p.feesPaid⟩,
    ⟨"position.rebates_received", fun p => .money p.rebatesReceived⟩]

def balanceKind : EntityKind CashBalance where
  identity balance := balance.balanceId
  missingLocalCategory := "balance.missing_local"
  missingLocalExplanation := "External balance is missing from local projection."
  missingExternalCategory := "balance.missing_external"
  missingExternalExplanation := "Local balance is missing from external snapshot."
  fields := [
    ⟨"balance.exchange", fun b => .text b.exchange⟩,
    ⟨"balance.account_id", fun b => .text b.accountId.val⟩,
    ⟨"balance.currency", fun b => .text b.currency.code⟩,
    ⟨"balance.available", fun b => .decimal (some b.available)⟩,
    ⟨"balance.reserved", fun b => .decimal (some b.reserved)⟩,
    ⟨"balance.total", fun b => .decimal (some b.total)⟩]

def comparePositions (reconciliationId : String) (localSnapshot externalSnapshot : PortfolioSnapshot) :
    Result (List ReconciliationMismatch) :=
  compareEntities sha positionKind reconciliationId localSnapshot.decimalText externalSnapshot.decimalText
    localSnapshot.positions externalSnapshot.positions

def compareBalances (reconciliationId : String) (localSnapshot externalSnapshot : PortfolioSnapshot) :
    Result (List ReconciliationMismatch) :=
  compareEntities sha balanceKind reconciliationId localSnapshot.decimalText externalSnapshot.decimalText
    localSnapshot.balances externalSnapshot.balances

/-! ## The result -/

def validateSnapshotScope (snapshot : PortfolioSnapshot) (exchange : String) (accountId : AccountId)
    (label : String) : Result Unit := do
  snapshot.positions.forM fun position => do
    raiseIf (position.exchange ≠ exchange)
      (portfolioProjectionError s!"{label} position exchange does not match reconciliation exchange")
    raiseIf (position.accountId ≠ accountId)
      (portfolioProjectionError s!"{label} position account_id does not match reconciliation account_id")
  snapshot.balances.forM fun balance => do
    raiseIf (balance.exchange ≠ exchange)
      (portfolioProjectionError s!"{label} balance exchange does not match reconciliation exchange")
    raiseIf (balance.accountId ≠ accountId)
      (portfolioProjectionError s!"{label} balance account_id does not match reconciliation account_id")

def statusForMismatches (mismatches : List ReconciliationMismatch) : ReconciliationStatus :=
  if mismatches = [] then .healthy
  else if mismatches.any fun mismatch => mismatch.severity = reconciliationSeverityUnknown then .unknown
  else .mismatch

def buildReconciliationResult (reconciliationId exchange : String) (accountId : AccountId)
    (startedAt completedAt : UTCDateTime) (mismatches : List ReconciliationMismatch)
    (openOrdersChecked positionsChecked balancesChecked fillsChecked : ℕ) : Result ReconciliationResult :=
  ReconciliationResult.validate {
    reconciliationId, exchange, accountId, startedAt, completedAt
    status := statusForMismatches mismatches
    mismatches, openOrdersChecked, positionsChecked, balancesChecked, fillsChecked
    tradingGateReleased := statusForMismatches mismatches = .healthy }

def reconcilePortfolioSnapshots (reconciliationId exchange : String) (accountId : AccountId)
    (localSnapshot externalSnapshot : PortfolioSnapshot) (startedAt completedAt : UTCDateTime) :
    Result ReconciliationResult := do
  validateSnapshotScope localSnapshot exchange accountId "local"
  validateSnapshotScope externalSnapshot exchange accountId "external"
  let positionMismatches ← comparePositions sha reconciliationId localSnapshot externalSnapshot
  let balanceMismatches ← compareBalances sha reconciliationId localSnapshot externalSnapshot
  buildReconciliationResult reconciliationId exchange accountId startedAt completedAt
    (positionMismatches ++ balanceMismatches) 0
    (KeyedDiff.keys positionKind.identity localSnapshot.positions externalSnapshot.positions).length
    (KeyedDiff.keys balanceKind.identity localSnapshot.balances externalSnapshot.balances).length 0

end Reconciliation
end Pmrp
