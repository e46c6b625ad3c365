import Mathlib.Algebra.BigOperators.Group.List.Basic
import Pmrp.Lib.Rounding
import Pmrp.Schemas.Primitives

/-!
# `Schemas.Portfolio` — positions, balances, journals, attributions, settlements

The models of `schemas/portfolio.py` that the accounting code builds or reads. A model the code *builds*
is a plain record with a `validate` that raises as its validators do; `validate_eq_ok` reads each one as
the proposition `Valid`. A `Settlement` is only ever an input, so it carries its lifecycle as a field.
-/

namespace Pmrp

def portfolioIdMaxLength : ℕ := 128
def portfolioTextMaxLength : ℕ := 1024

/-! ## Positions -/

structure Position where
  positionId : PositionId
  exchange : String
  accountId : AccountId
  marketId : MarketId
  contractId : ContractId
  outcomeId : OutcomeId
  quantity : ℚ
  averageEntryPrice : Option ℚ
  realizedPnl : Money
  unrealizedPnl : Money
  feesPaid : Money
  rebatesReceived : Money
  openedAt : Option UTCDateTime
  lastUpdatedAt : UTCDateTime
  aggregateVersion : ℕ
  deriving DecidableEq

namespace Position

structure Valid (p : Position) : Prop where
  exchange_within : TextWithin 64 p.exchange
  average_nonneg : ∀ a ∈ p.averageEntryPrice, 0 ≤ a
  opened_le_updated : ∀ t ∈ p.openedAt, t ≤ p.lastUpdatedAt
  fees_nonneg : 0 ≤ p.feesPaid.amount
  rebates_nonneg : 0 ≤ p.rebatesReceived.amount

/-- Field constraints, then `validate_position_state`. -/
def validate (p : Position) : Result Position := do
  checkText "exchange" 64 p.exchange
  raiseIf (¬∀ a ∈ p.averageEntryPrice, 0 ≤ a) (belowZeroError "average_entry_price")
  raiseIf (¬∀ t ∈ p.openedAt, t ≤ p.lastUpdatedAt)
    (valueError "last_updated_at must not be before opened_at")
  raiseIf (p.feesPaid.amount < 0) (valueError "fees_paid amount must be nonnegative")
  raiseIf (p.rebatesReceived.amount < 0) (valueError "rebates_received amount must be nonnegative")
  pure p

theorem validate_eq_ok {p q : Position} : p.validate = .ok q ↔ p.Valid ∧ q = p := by
  simp only [validate, bind_eq_ok, checkText_eq_ok, raiseIf_eq_ok, not_not, not_lt, exists_const,
    pure_eq_ok]
  constructor
  · rintro ⟨h1, h2, h3, h4, h5, rfl⟩; exact ⟨⟨h1, h2, h3, h4, h5⟩, rfl⟩
  · rintro ⟨⟨h1, h2, h3, h4, h5⟩, rfl⟩; exact ⟨h1, h2, h3, h4, h5, rfl⟩

theorem Valid.validate {p : Position} (h : p.Valid) : p.validate = .ok p := validate_eq_ok.mpr ⟨h, rfl⟩

end Position

/-! ## Cash balances -/

structure CashBalance where
  balanceId : String
  exchange : String
  accountId : AccountId
  currency : Currency
  available : ℚ
  reserved : ℚ
  total : ℚ
  capturedAt : UTCDateTime
  deriving DecidableEq

namespace CashBalance

variable (ctx : DecimalContext)

structure Valid (b : CashBalance) : Prop where
  balanceId_within : TextWithin portfolioIdMaxLength b.balanceId
  exchange_within : TextWithin 64 b.exchange
  reserved_nonneg : 0 ≤ b.reserved
  identity : ctx.add b.available b.reserved = b.total

/-- Field constraints, then `validate_balance_identity`. -/
def validate (b : CashBalance) : Result CashBalance := do
  checkText "balance_id" portfolioIdMaxLength b.balanceId
  checkText "exchange" 64 b.exchange
  raiseIf (b.reserved < 0) (belowZeroError "reserved")
  raiseIf (ctx.add b.available b.reserved ≠ b.total)
    (valueError "available plus reserved must equal total")
  pure b

theorem validate_eq_ok {ctx : DecimalContext} {b c : CashBalance} :
    b.validate ctx = .ok c ↔ b.Valid ctx ∧ c = b := by
  simp only [validate, bind_eq_ok, checkText_eq_ok, raiseIf_eq_ok, not_not, not_lt, exists_const,
    pure_eq_ok]
  constructor
  · rintro ⟨h1, h2, h3, h4, rfl⟩; exact ⟨⟨h1, h2, h3, h4⟩, rfl⟩
  · rintro ⟨⟨h1, h2, h3, h4⟩, rfl⟩; exact ⟨h1, h2, h3, h4, rfl⟩

theorem Valid.validate {ctx : DecimalContext} {b : CashBalance} (h : b.Valid ctx) :
    b.validate ctx = .ok b := validate_eq_ok.mpr ⟨h, rfl⟩

end CashBalance

/-! ## Accounting journals -/

structure JournalLine where
  accountCode : String
  amount : ℚ
  currency : Currency
  description : Option String
  accountCode_within : TextWithin portfolioIdMaxLength accountCode
  description_within : ∀ s ∈ description, TextWithin 512 s
  deriving DecidableEq

structure AccountingJournalEntry where
  journalEntryId : String
  occurredAt : UTCDateTime
  sourceEventId : EventId
  referenceType : String
  referenceId : String
  lines : List JournalLine
  description : String
  createdAt : UTCDateTime
  deriving DecidableEq

namespace AccountingJournalEntry

variable (ctx : DecimalContext)

/-- `totals_by_currency[currency]` after the loop over the lines. -/
def totalForCurrency (lines : List JournalLine) (currency : Currency) : ℚ :=
  ctx.sum ((lines.filter (·.currency = currency)).map JournalLine.amount)

/-- Lines of a single currency are totalled in order. -/
theorem totalForCurrency_eq {ctx : DecimalContext} {lines : List JournalLine} {currency : Currency}
    (h : ∀ l ∈ lines, l.currency = currency) :
    totalForCurrency ctx lines currency = ctx.sum (lines.map JournalLine.amount) := by
  rw [totalForCurrency, List.filter_eq_self.mpr fun l hl => decide_eq_true (h l hl)]

structure Valid (e : AccountingJournalEntry) : Prop where
  journalEntryId_within : TextWithin portfolioIdMaxLength e.journalEntryId
  referenceType_within : TextWithin 64 e.referenceType
  referenceId_within : TextWithin portfolioIdMaxLength e.referenceId
  description_within : TextWithin portfolioTextMaxLength e.description
  lines_ne_nil : e.lines ≠ []
  occurred_le_created : e.occurredAt ≤ e.createdAt
  balanced : ∀ l ∈ e.lines, totalForCurrency ctx e.lines l.currency = 0

/-- Field constraints, then `validate_journal_balance`. -/
def validate (e : AccountingJournalEntry) : Result AccountingJournalEntry := do
  checkText "journal_entry_id" portfolioIdMaxLength e.journalEntryId
  checkText "reference_type" 64 e.referenceType
  checkText "reference_id" portfolioIdMaxLength e.referenceId
  checkText "description" portfolioTextMaxLength e.description
  raiseIf (e.lines = []) (valueError "journal entry requires at least one line")
  raiseIf (e.createdAt < e.occurredAt) (valueError "created_at must not be before occurred_at")
  raiseIf (¬∀ l ∈ e.lines, totalForCurrency ctx e.lines l.currency = 0)
    (valueError "journal lines must balance to zero by currency")
  pure e

theorem validate_eq_ok {ctx : DecimalContext} {e f : AccountingJournalEntry} :
    e.validate ctx = .ok f ↔ e.Valid ctx ∧ f = e := by
  simp only [validate, bind_eq_ok, checkText_eq_ok, raiseIf_eq_ok, not_not, not_lt, exists_const,
    pure_eq_ok]
  constructor
  · rintro ⟨h1, h2, h3, h4, h5, h6, h7, rfl⟩; exact ⟨⟨h1, h2, h3, h4, h5, h6, h7⟩, rfl⟩
  · rintro ⟨⟨h1, h2, h3, h4, h5, h6, h7⟩, rfl⟩; exact ⟨h1, h2, h3, h4, h5, h6, h7, rfl⟩

theorem Valid.validate {ctx : DecimalContext} {e : AccountingJournalEntry} (h : e.Valid ctx) :
    e.validate ctx = .ok e := validate_eq_ok.mpr ⟨h, rfl⟩

end AccountingJournalEntry

/-! ## PnL attributions -/

structure PnlAttribution where
  attributionId : String
  strategyId : Option StrategyId
  marketId : Option MarketId
  exchange : Option String
  startsAt : UTCDateTime
  endsAt : UTCDateTime
  realizedTradingPnl : Money
  unrealizedPnlChange : Money
  fees : Money
  rebates : Money
  slippage : Option Money
  settlementPnl : Option Money
  totalPnl : Money
  calculationVersion : String
  deriving DecidableEq

namespace PnlAttribution

variable (ctx : DecimalContext)

/-- The component sum, added in the order of the source. -/
def componentSum (realized unrealized fees rebates slippage settlement : ℚ) : ℚ :=
  ctx.add (ctx.add (ctx.add (ctx.sub (ctx.add realized unrealized) fees) rebates) slippage) settlement

def expectedTotal (a : PnlAttribution) : ℚ :=
  componentSum ctx a.realizedTradingPnl.amount a.unrealizedPnlChange.amount a.fees.amount a.rebates.amount
    (optionalAmount a.slippage) (optionalAmount a.settlementPnl)

/-- The money components that are present. -/
def moneyComponents (a : PnlAttribution) : List Money :=
  [a.realizedTradingPnl, a.unrealizedPnlChange, a.fees, a.rebates] ++ a.slippage.toList ++
    a.settlementPnl.toList ++ [a.totalPnl]

structure Valid (a : PnlAttribution) : Prop where
  attributionId_within : TextWithin portfolioIdMaxLength a.attributionId
  exchange_within : ∀ s ∈ a.exchange, TextWithin 64 s
  calculationVersion_within : TextWithin 64 a.calculationVersion
  starts_lt_ends : a.startsAt < a.endsAt
  one_currency : ∀ m ∈ a.moneyComponents, m.currency = a.totalPnl.currency
  fees_nonneg : 0 ≤ a.fees.amount
  rebates_nonneg : 0 ≤ a.rebates.amount
  total_eq : a.totalPnl.amount = a.expectedTotal ctx

/-- Field constraints, then `validate_pnl_attribution`. -/
def validate (a : PnlAttribution) : Result PnlAttribution := do
  checkText "attribution_id" portfolioIdMaxLength a.attributionId
  checkOptionalText "exchange" 64 a.exchange
  checkText "calculation_version" 64 a.calculationVersion
  raiseIf (a.endsAt ≤ a.startsAt) (valueError "ends_at must be after starts_at")
  raiseIf (¬∀ m ∈ a.moneyComponents, m.currency = a.totalPnl.currency)
    (valueError "PnL attribution money components must use one currency")
  raiseIf (a.fees.amount < 0) (valueError "fees amount must be nonnegative")
  raiseIf (a.rebates.amount < 0) (valueError "rebates amount must be nonnegative")
  raiseIf (a.totalPnl.amount ≠ a.expectedTotal ctx) (valueError "total_pnl must equal PnL component sum")
  pure a

theorem validate_eq_ok {ctx : DecimalContext} {a b : PnlAttribution} :
    a.validate ctx = .ok b ↔ a.Valid ctx ∧ b = a := by
  simp only [validate, bind_eq_ok, checkText_eq_ok, checkOptionalText_eq_ok, raiseIf_eq_ok, not_not,
    not_lt, not_le, exists_const, pure_eq_ok]
  constructor
  · rintro ⟨h1, h2, h3, h4, h5, h6, h7, h8, rfl⟩; exact ⟨⟨h1, h2, h3, h4, h5, h6, h7, h8⟩, rfl⟩
  · rintro ⟨⟨h1, h2, h3, h4, h5, h6, h7, h8⟩, rfl⟩; exact ⟨h1, h2, h3, h4, h5, h6, h7, h8, rfl⟩

theorem Valid.validate {ctx : DecimalContext} {a : PnlAttribution} (h : a.Valid ctx) :
    a.validate ctx = .ok a := validate_eq_ok.mpr ⟨h, rfl⟩

end PnlAttribution

/-! ## Settlements -/

inductive SettlementStatus
  | unresolved
  | pendingResolution
  | resolved
  | disputed
  | finalized
  | settled
  | corrected
  deriving DecidableEq, Repr

/-- What a settlement says about the resolution of its market. -/
structure Resolution where
  winningOutcomeIds : List OutcomeId
  resolvedAt : Option UTCDateTime
  finalizedAt : Option UTCDateTime
  settledAt : Option UTCDateTime
  payoutPerUnit : Option ℚ
  correctionOfSettlementId : Option SettlementId
  deriving DecidableEq

/-- `validate_settlement_lifecycle` for each status, in the order of its tests. -/
def LifecycleOk (status : SettlementStatus) (r : Resolution) : Prop :=
  match status with
  | .unresolved | .pendingResolution =>
      r.winningOutcomeIds = [] ∧ r.resolvedAt = none ∧ r.finalizedAt = none ∧ r.settledAt = none ∧
        r.payoutPerUnit = none ∧ r.correctionOfSettlementId = none
  | .resolved | .disputed =>
      r.winningOutcomeIds ≠ [] ∧ r.resolvedAt.isSome ∧ r.payoutPerUnit.isSome ∧
        r.finalizedAt = none ∧ r.settledAt = none
  | .finalized =>
      r.winningOutcomeIds ≠ [] ∧ r.resolvedAt.isSome ∧ r.payoutPerUnit.isSome ∧
        r.finalizedAt.isSome ∧ r.settledAt = none ∧
        (∀ f ∈ r.finalizedAt, ∀ t ∈ r.resolvedAt, t ≤ f)
  | .settled =>
      r.winningOutcomeIds ≠ [] ∧ r.resolvedAt.isSome ∧ r.payoutPerUnit.isSome ∧
        r.finalizedAt.isSome ∧ r.settledAt.isSome ∧
        (∀ f ∈ r.finalizedAt, ∀ t ∈ r.resolvedAt, t ≤ f) ∧ (∀ s ∈ r.settledAt, ∀ f ∈ r.finalizedAt, f ≤ s)
  | .corrected =>
      r.winningOutcomeIds ≠ [] ∧ r.resolvedAt.isSome ∧ r.payoutPerUnit.isSome ∧
        r.correctionOfSettlementId.isSome ∧ (r.settledAt.isSome → r.finalizedAt.isSome) ∧
        (∀ f ∈ r.finalizedAt, ∀ t ∈ r.resolvedAt, t ≤ f) ∧ (∀ s ∈ r.settledAt, ∀ f ∈ r.finalizedAt, f ≤ s)

instance (status : SettlementStatus) (r : Resolution) : Decidable (LifecycleOk status r) := by
  cases status <;> unfold LifecycleOk <;> infer_instance

structure Settlement where
  settlementId : SettlementId
  marketId : MarketId
  exchange : String
  status : SettlementStatus
  resolution : Resolution
  source : String
  sourceReference : Option String := none
  exchange_within : TextWithin 64 exchange
  source_within : TextWithin 128 source
  sourceReference_within : ∀ s ∈ sourceReference, TextWithin portfolioIdMaxLength s
  payout_nonneg : ∀ p ∈ resolution.payoutPerUnit, 0 ≤ p
  lifecycle : LifecycleOk status resolution

namespace Settlement

variable (s : Settlement)

def winningOutcomeIds : List OutcomeId := s.resolution.winningOutcomeIds
def settledAt : Option UTCDateTime := s.resolution.settledAt
def payoutPerUnit : Option ℚ := s.resolution.payoutPerUnit
def correctionOfSettlementId : Option SettlementId := s.resolution.correctionOfSettlementId

end Settlement

/-! ## Reconciliation -/

inductive ReconciliationStatus
  | healthy
  | mismatch
  | unknown
  | failed
  deriving DecidableEq, Repr

end Pmrp
