import Pmrp.Lib.Dictionary
import Pmrp.Schemas.Portfolio

/-!
# `Schemas.Reconciliation` — snapshots, mismatches and reconciliation results

The models of `schemas/portfolio.py` that a reconciliation reads and builds. A mismatch reports a `Decimal` as it is
written, which its value does not determine, so a snapshot comes with the texts of its values.
-/

namespace Pmrp

def categoryMaxLength : ℕ := 64
def mismatchValueMaxLength : ℕ := 512

/-- The positions and balances of a snapshot. `decimalText identity category value` is `str` of the value that the
    entity with this identity has in this field. -/
structure PortfolioSnapshot where
  positions : List Position
  balances : List CashBalance
  decimalText : String → String → ℚ → String
  positions_unique : Dictionary.UniqueKeys (fun position : Position => position.positionId.val) positions
  balances_unique : Dictionary.UniqueKeys CashBalance.balanceId balances

structure ReconciliationMismatch where
  mismatchId : String
  category : String
  localValue : Option String
  externalValue : Option String
  severity : String
  explanation : Option String
  requiresManualReview : Bool
  deriving DecidableEq

namespace ReconciliationMismatch

structure Valid (m : ReconciliationMismatch) : Prop where
  mismatchId_within : TextWithin portfolioIdMaxLength m.mismatchId
  category_within : TextWithin categoryMaxLength m.category
  localValue_within : ∀ s ∈ m.localValue, TextWithin mismatchValueMaxLength s
  externalValue_within : ∀ s ∈ m.externalValue, TextWithin mismatchValueMaxLength s
  severity_within : TextWithin 64 m.severity
  explanation_within : ∀ s ∈ m.explanation, TextWithin portfolioTextMaxLength s

def validate (m : ReconciliationMismatch) : Result ReconciliationMismatch := do
  checkText "mismatch_id" portfolioIdMaxLength m.mismatchId
  checkText "category" categoryMaxLength m.category
  checkOptionalText "local_value" mismatchValueMaxLength m.localValue
  checkOptionalText "external_value" mismatchValueMaxLength m.externalValue
  checkText "severity" 64 m.severity
  checkOptionalText "explanation" portfolioTextMaxLength m.explanation
  pure m

theorem validate_eq_ok {m n : ReconciliationMismatch} : m.validate = .ok n ↔ m.Valid ∧ n = m := by
  simp only [validate, bind_eq_ok, checkText_eq_ok, checkOptionalText_eq_ok, exists_const, pure_eq_ok]
  constructor
  · rintro ⟨h1, h2, h3, h4, h5, h6, rfl⟩; exact ⟨⟨h1, h2, h3, h4, h5, h6⟩, rfl⟩
  · rintro ⟨⟨h1, h2, h3, h4, h5, h6⟩, rfl⟩; exact ⟨h1, h2, h3, h4, h5, h6, rfl⟩

end ReconciliationMismatch

structure ReconciliationResult where
  reconciliationId : String
  exchange : String
  accountId : AccountId
  startedAt : UTCDateTime
  completedAt : UTCDateTime
  status : ReconciliationStatus
  mismatches : List ReconciliationMismatch
  openOrdersChecked : ℕ
  positionsChecked : ℕ
  balancesChecked : ℕ
  fillsChecked : ℕ
  tradingGateReleased : Bool
  deriving DecidableEq

namespace ReconciliationResult

structure Valid (r : ReconciliationResult) : Prop where
  reconciliationId_within : TextWithin portfolioIdMaxLength r.reconciliationId
  exchange_within : TextWithin 64 r.exchange
  started_lt_completed : r.startedAt < r.completedAt
  healthy_clean : ¬(r.status = .healthy ∧ r.mismatches ≠ [])
  mismatch_reported : ¬(r.status = .mismatch ∧ r.mismatches = [])
  gate : ¬(r.status ≠ .healthy ∧ r.tradingGateReleased = true)

/-- Field constraints, then `validate_reconciliation_result`. -/
def validate (r : ReconciliationResult) : Result ReconciliationResult := do
  checkText "reconciliation_id" portfolioIdMaxLength r.reconciliationId
  checkText "exchange" 64 r.exchange
  raiseIf (r.completedAt ≤ r.startedAt) (valueError "completed_at must be after started_at")
  raiseIf (r.status = .healthy ∧ r.mismatches ≠ [])
    (valueError "healthy reconciliation cannot contain mismatches")
  raiseIf (r.status = .mismatch ∧ r.mismatches = [])
    (valueError "mismatch reconciliation requires at least one mismatch")
  raiseIf (r.status ≠ .healthy ∧ r.tradingGateReleased = true)
    (valueError "non-healthy reconciliation cannot release the trading gate")
  pure r

theorem validate_eq_ok {r s : ReconciliationResult} : r.validate = .ok s ↔ r.Valid ∧ s = r := by
  simp only [validate, bind_eq_ok, checkText_eq_ok, raiseIf_eq_ok, not_le, exists_const, pure_eq_ok]
  constructor
  · rintro ⟨h1, h2, h3, h4, h5, h6, rfl⟩; exact ⟨⟨h1, h2, h3, h4, h5, h6⟩, rfl⟩
  · rintro ⟨⟨h1, h2, h3, h4, h5, h6⟩, rfl⟩; exact ⟨h1, h2, h3, h4, h5, h6, rfl⟩

end ReconciliationResult
end Pmrp
