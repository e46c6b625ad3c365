import Pmrp.Portfolio.Balances

/-!
# `Portfolio.Settlement` — settling a position and correcting a settlement

`portfolio/settlement.py`. A settlement closes a position at its payout, books the difference to cost as
settlement profit and moves the cash balance; a correction books the difference between two settlements
of the same original position.
-/

namespace Pmrp

def settlementReferenceType : String := "settlement"

structure SettlementAccountingResult where
  cashDelta : Money
  positionCostBasis : Money
  settlementPnl : Money
  settledQuantity : ℚ
  winningPosition : Bool
  deriving DecidableEq

structure SettlementPositionProjectionResult where
  position : Position
  settlementAccounting : SettlementAccountingResult
  deriving DecidableEq

structure SettlementApplicationResult where
  position : Position
  cashBalance : CashBalance
  positionProjection : Option SettlementPositionProjectionResult
  cashProjection : Option CashBalanceProjectionResult
  journalEntry : Option AccountingJournalEntry
  appliedJournalEntryIds : Finset String
  applied : Bool
  duplicateSettlement : Bool
  deriving DecidableEq

structure SettlementCorrectionAccountingResult where
  previousAccounting : SettlementAccountingResult
  correctedAccounting : SettlementAccountingResult
  cashDelta : Money
  positionCostBasisDelta : Money
  settlementPnlDelta : Money
  deriving DecidableEq

structure SettlementCorrectionApplicationResult where
  position : Position
  cashBalance : CashBalance
  correctionAccounting : Option SettlementCorrectionAccountingResult
  cashProjection : Option CashBalanceProjectionResult
  journalEntry : Option AccountingJournalEntry
  appliedJournalEntryIds : Finset String
  applied : Bool
  duplicateCorrection : Bool
  deriving DecidableEq

def SettlementStatus.value : SettlementStatus → String
  | .unresolved => "unresolved"
  | .pendingResolution => "pending_resolution"
  | .resolved => "resolved"
  | .disputed => "disputed"
  | .finalized => "finalized"
  | .settled => "settled"
  | .corrected => "corrected"

def assertionError : PyError := ⟨.assertionError, ""⟩

/-- `assert value is not None`. -/
def assertSome {α : Type} : Option α → Result α
  | none => .error assertionError
  | some value => .ok value

namespace Settlements

variable (ctx : DecimalContext) (sha : Sha256)

/-! ## Validation -/

def validateMoney (money : Money) (currency : Currency) (fieldName : String) : Result Unit :=
  raiseIf (money.currency ≠ currency)
    (portfolioProjectionError s!"{fieldName} currency must match settlement currency")

/-- `allowed_statuses` is a singleton at every call, so its message lists one status. -/
def validateSettlementPosition (position : Position) (settlement : Settlement) (currency : Currency)
    (allowedStatus : SettlementStatus) : Result Unit := do
  raiseIf (settlement.status ≠ allowedStatus)
    (portfolioProjectionError
      ("settlement accounting requires settlement status in \x7b" ++ allowedStatus.value ++ "\x7d"))
  raiseIf (settlement.settledAt = none)
    (portfolioProjectionError "settlement accounting requires settled_at")
  raiseIf (settlement.payoutPerUnit = none)
    (portfolioProjectionError "settlement accounting requires payout_per_unit")
  raiseIf (position.exchange ≠ settlement.exchange)
    (portfolioProjectionError "position exchange does not match settlement exchange")
  raiseIf (position.marketId ≠ settlement.marketId)
    (portfolioProjectionError "position market_id does not match settlement market_id")
  raiseIf (position.quantity = 0)
    (portfolioProjectionError "settlement accounting requires nonzero position quantity")
  raiseIf (position.averageEntryPrice = none)
    (portfolioProjectionError "settlement accounting requires position average_entry_price")
  validateMoney position.realizedPnl currency "realized_pnl"
  validateMoney position.unrealizedPnl currency "unrealized_pnl"
  validateMoney position.feesPaid currency "fees_paid"
  validateMoney position.rebatesReceived currency "rebates_received"

def validateCashBalanceForPosition (cashBalance : CashBalance) (position : Position)
    (currency : Currency) : Result Unit := do
  raiseIf (cashBalance.exchange ≠ position.exchange)
    (portfolioProjectionError "cash balance exchange does not match position exchange")
  raiseIf (cashBalance.accountId ≠ position.accountId)
    (portfolioProjectionError "cash balance account_id does not match position account_id")
  raiseIf (cashBalance.currency ≠ currency)
    (portfolioProjectionError "cash balance currency must match settlement currency")

/-! ## Accounting amounts -/

/-- The accounting of a position of this quantity and average at this payout, zero when it lost. -/
def accountingOf (currency : Currency) (quantity average payoutPerUnit : ℚ) (winningPosition : Bool) :
    SettlementAccountingResult :=
  let positionCostBasis := ctx.mul quantity average
  let payoutPerUnit := if winningPosition then payoutPerUnit else 0
  let cashDelta := ctx.mul quantity payoutPerUnit
  let settlementPnl := ctx.sub cashDelta positionCostBasis
  { cashDelta := ⟨cashDelta, currency⟩
    positionCostBasis := ⟨positionCostBasis, currency⟩
    settlementPnl := ⟨settlementPnl, currency⟩
    settledQuantity := ctx.abs quantity
    winningPosition }

/-- `_build_settlement_accounting_result`. -/
def buildSettlementAccountingResult' (position : Position) (settlement : Settlement)
    (currency : Currency) (allowedStatus : SettlementStatus) : Result SettlementAccountingResult := do
  validateSettlementPosition position settlement currency allowedStatus
  let payoutPerUnit ← assertSome settlement.payoutPerUnit
  let averageEntryPrice ← assertSome position.averageEntryPrice
  pure (accountingOf ctx currency position.quantity averageEntryPrice payoutPerUnit
    (position.outcomeId ∈ settlement.winningOutcomeIds))

def buildSettlementAccountingResult (position : Position) (settlement : Settlement) (currency : String) :
    Result SettlementAccountingResult := do
  let validatedCurrency ← validateCurrency currency
  buildSettlementAccountingResult' ctx position settlement validatedCurrency .settled

/-! ## Settling -/

/-- The flat position a settlement or a correction leaves, with `realized` booked. -/
def flattened (position : Position) (realized : ℚ) (currency : Currency) (settledAt : UTCDateTime) :
    Position where
  positionId := position.positionId
  exchange := position.exchange
  accountId := position.accountId
  marketId := position.marketId
  contractId := position.contractId
  outcomeId := position.outcomeId
  quantity := 0
  averageEntryPrice := none
  realizedPnl := ⟨realized, currency⟩
  unrealizedPnl := zeroMoney currency
  feesPaid := position.feesPaid
  rebatesReceived := position.rebatesReceived
  openedAt := none
  lastUpdatedAt := settledAt
  aggregateVersion := position.aggregateVersion + 1

def applySettlementToPosition (position : Position) (settlement : Settlement) (currency : String) :
    Result SettlementPositionProjectionResult := do
  let validatedCurrency ← validateCurrency currency
  validateSettlementPosition position settlement validatedCurrency .settled
  let settledAt ← assertSome settlement.settledAt
  raiseIf (settledAt < position.lastUpdatedAt)
    (portfolioProjectionError "settlement settled_at is older than the position update horizon")
  let accounting ← buildSettlementAccountingResult ctx position settlement validatedCurrency.code
  let projectedPosition ←
    (flattened position (ctx.add position.realizedPnl.amount accounting.settlementPnl.amount)
      validatedCurrency settledAt).validate
  pure ⟨projectedPosition, accounting⟩

def deriveSettlementJournalEntryId (position : Position) (settlement : Settlement) : String :=
  "journal_settlement_" ++ shortDigest sha (.mapping [
    ("position_id", .str position.positionId.val),
    ("schema", .str "pmrp.settlement_journal_entry.v1"),
    ("settlement_id", .str settlement.settlementId.val)])

def settlementLines (result : SettlementAccountingResult) : List JournalLine :=
  [Journal.line accountCash result.cashDelta.amount result.cashDelta.currency
      "Settlement cash movement.",
    Journal.line accountPositionCost (ctx.neg result.positionCostBasis.amount)
      result.positionCostBasis.currency "Settlement clears position cost basis.",
    Journal.line accountSettlementPnl (ctx.neg result.settlementPnl.amount)
      result.settlementPnl.currency "Settlement PnL offset."]

def buildSettlementJournalEntry (position : Position) (settlement : Settlement) (currency : String)
    (sourceEventId : EventId) (createdAt : UTCDateTime) : Result AccountingJournalEntry := do
  let result ← buildSettlementAccountingResult ctx position settlement currency
  let settledAt ← assertSome settlement.settledAt
  AccountingJournalEntry.validate ctx {
    journalEntryId := deriveSettlementJournalEntryId sha position settlement
    occurredAt := settledAt
    sourceEventId := sourceEventId
    referenceType := settlementReferenceType
    referenceId := settlement.settlementId.val
    lines := settlementLines ctx result
    description := s!"Settlement accounting for {position.positionId.val}."
    createdAt := createdAt }

def applySettlementOnce (position : Position) (cashBalance : CashBalance) (settlement : Settlement)
    (appliedJournalEntryIds : Finset String) (currency : String) (sourceEventId : EventId)
    (createdAt : UTCDateTime) : Result SettlementApplicationResult := do
  let validatedCurrency ← validateCurrency currency
  validateCashBalanceForPosition cashBalance position validatedCurrency
  let journalEntryId := deriveSettlementJournalEntryId sha position settlement
  if journalEntryId ∈ appliedJournalEntryIds then
    return {
      position, cashBalance, positionProjection := none, cashProjection := none, journalEntry := none,
      appliedJournalEntryIds, applied := false, duplicateSettlement := true }
  let positionProjection ← applySettlementToPosition ctx position settlement validatedCurrency.code
  let journalEntry ← buildSettlementJournalEntry ctx sha position settlement validatedCurrency.code
    sourceEventId createdAt
  let cashProjection ← Balances.applyJournalToCashBalance ctx cashBalance journalEntry
  return {
    position := positionProjection.position, cashBalance := cashProjection.balance,
    positionProjection := some positionProjection, cashProjection := some cashProjection,
    journalEntry := some journalEntry,
    appliedJournalEntryIds := insert journalEntryId appliedJournalEntryIds, applied := true,
    duplicateSettlement := false }

/-! ## Correcting -/

def validateCorrectedSettlement (originalPosition : Position)
    (previousSettlement correctedSettlement : Settlement) (currency : Currency) : Result Unit := do
  raiseIf (correctedSettlement.status ≠ .corrected)
    (portfolioProjectionError "settlement correction requires corrected settlement status")
  raiseIf (correctedSettlement.correctionOfSettlementId ≠ some previousSettlement.settlementId)
    (portfolioProjectionError "corrected settlement must reference previous settlement")
  validateSettlementPosition originalPosition previousSettlement currency .settled
  validateSettlementPosition originalPosition correctedSettlement currency .corrected

def validatePositionIdentity (originalPosition settledPosition : Position) : Result Unit := do
  raiseIf (originalPosition.positionId ≠ settledPosition.positionId)
    (portfolioProjectionError "settled position position_id must match original position")
  raiseIf (originalPosition.exchange ≠ settledPosition.exchange)
    (portfolioProjectionError "settled position exchange must match original position")
  raiseIf (originalPosition.accountId ≠ settledPosition.accountId)
    (portfolioProjectionError "settled position account_id must match original position")
  raiseIf (originalPosition.marketId ≠ settledPosition.marketId)
    (portfolioProjectionError "settled position market_id must match original position")
  raiseIf (originalPosition.contractId ≠ settledPosition.contractId)
    (portfolioProjectionError "settled position contract_id must match original position")
  raiseIf (originalPosition.outcomeId ≠ settledPosition.outcomeId)
    (portfolioProjectionError "settled position outcome_id must match original position")

def validateSettlementCorrectionIdentity (originalPosition settledPosition : Position)
    (cashBalance : CashBalance) (previousSettlement correctedSettlement : Settlement)
    (currency : Currency) : Result Unit := do
  validateCashBalanceForPosition cashBalance settledPosition currency
  validateCorrectedSettlement originalPosition previousSettlement correctedSettlement currency
  validatePositionIdentity originalPosition settledPosition
  raiseIf (settledPosition.quantity ≠ 0)
    (portfolioProjectionError "settlement correction requires flat settled position")
  raiseIf (settledPosition.averageEntryPrice ≠ none)
    (portfolioProjectionError "flat settled position must not have average_entry_price")
  validateMoney settledPosition.realizedPnl currency "settled_position.realized_pnl"
  validateMoney settledPosition.unrealizedPnl currency "settled_position.unrealized_pnl"
  validateMoney settledPosition.feesPaid currency "settled_position.fees_paid"
  validateMoney settledPosition.rebatesReceived currency "settled_position.rebates_received"

def validateSettlementCorrectionApplication (settledPosition : Position)
    (correctedSettlement : Settlement) : Result Unit := do
  let settledAt ← assertSome correctedSettlement.settledAt
  raiseIf (settledAt < settledPosition.lastUpdatedAt)
    (portfolioProjectionError "corrected settlement settled_at is older than the position update horizon")

def buildSettlementCorrectionAccountingResult (originalPosition : Position)
    (previousSettlement correctedSettlement : Settlement) (currency : String) :
    Result SettlementCorrectionAccountingResult := do
  let validatedCurrency ← validateCurrency currency
  validateCorrectedSettlement originalPosition previousSettlement correctedSettlement validatedCurrency
  let previousAccounting ←
    buildSettlementAccountingResult' ctx originalPosition previousSettlement validatedCurrency .settled
  let correctedAccounting ←
    buildSettlementAccountingResult' ctx originalPosition correctedSettlement validatedCurrency .corrected
  let delta := fun (amount : SettlementAccountingResult → Money) =>
    ctx.sub (amount correctedAccounting).amount (amount previousAccounting).amount
  pure {
    previousAccounting
    correctedAccounting
    cashDelta := ⟨delta (·.cashDelta), validatedCurrency⟩
    positionCostBasisDelta := ⟨delta (·.positionCostBasis), validatedCurrency⟩
    settlementPnlDelta := ⟨delta (·.settlementPnl), validatedCurrency⟩ }

def deriveSettlementCorrectionJournalEntryId (originalPosition : Position)
    (previousSettlement correctedSettlement : Settlement) : String :=
  "journal_settlement_correction_" ++ shortDigest sha (.mapping [
    ("corrected_settlement_id", .str correctedSettlement.settlementId.val),
    ("original_position_id", .str originalPosition.positionId.val),
    ("previous_settlement_id", .str previousSettlement.settlementId.val),
    ("schema", .str "pmrp.settlement_correction_journal_entry.v1")])

def settlementCorrectionLines (result : SettlementCorrectionAccountingResult) : List JournalLine :=
  [Journal.line accountCash result.cashDelta.amount result.cashDelta.currency
      "Settlement correction cash delta.",
    Journal.line accountPositionCost (ctx.neg result.positionCostBasisDelta.amount)
      result.positionCostBasisDelta.currency "Settlement correction position cost delta.",
    Journal.line accountSettlementPnl (ctx.neg result.settlementPnlDelta.amount)
      result.settlementPnlDelta.currency "Settlement correction PnL delta."]

def buildSettlementCorrectionJournalEntry (originalPosition : Position)
    (previousSettlement correctedSettlement : Settlement) (currency : String) (sourceEventId : EventId)
    (createdAt : UTCDateTime) : Result AccountingJournalEntry := do
  let result ← buildSettlementCorrectionAccountingResult ctx originalPosition previousSettlement
    correctedSettlement currency
  let settledAt ← assertSome correctedSettlement.settledAt
  AccountingJournalEntry.validate ctx {
    journalEntryId :=
      deriveSettlementCorrectionJournalEntryId sha originalPosition previousSettlement correctedSettlement
    occurredAt := settledAt
    sourceEventId := sourceEventId
    referenceType := settlementReferenceType
    referenceId := correctedSettlement.settlementId.val
    lines := settlementCorrectionLines ctx result
    description := "Settlement correction accounting for " ++
      s!"{originalPosition.positionId.val} replacing {previousSettlement.settlementId.val}."
    createdAt := createdAt }

def applySettlementCorrectionOnce (originalPosition settledPosition : Position)
    (cashBalance : CashBalance) (previousSettlement correctedSettlement : Settlement)
    (appliedJournalEntryIds : Finset String) (currency : String) (sourceEventId : EventId)
    (createdAt : UTCDateTime) : Result SettlementCorrectionApplicationResult := do
  let validatedCurrency ← validateCurrency currency
  validateSettlementCorrectionIdentity originalPosition settledPosition cashBalance previousSettlement
    correctedSettlement validatedCurrency
  let journalEntryId :=
    deriveSettlementCorrectionJournalEntryId sha originalPosition previousSettlement correctedSettlement
  if journalEntryId ∈ appliedJournalEntryIds then
    return {
      position := settledPosition, cashBalance, correctionAccounting := none, cashProjection := none,
      journalEntry := none, appliedJournalEntryIds, applied := false, duplicateCorrection := true }
  validateSettlementCorrectionApplication settledPosition correctedSettlement
  let accounting ← buildSettlementCorrectionAccountingResult ctx originalPosition previousSettlement
    correctedSettlement validatedCurrency.code
  let journalEntry ← buildSettlementCorrectionJournalEntry ctx sha originalPosition previousSettlement
    correctedSettlement validatedCurrency.code sourceEventId createdAt
  let cashProjection ← Balances.applyJournalToCashBalance ctx cashBalance journalEntry
  let settledAt ← assertSome correctedSettlement.settledAt
  let correctedPosition ←
    (flattened settledPosition
      (ctx.add settledPosition.realizedPnl.amount accounting.settlementPnlDelta.amount)
      validatedCurrency settledAt).validate
  return {
    position := correctedPosition, cashBalance := cashProjection.balance,
    correctionAccounting := some accounting, cashProjection := some cashProjection,
    journalEntry := some journalEntry,
    appliedJournalEntryIds := insert journalEntryId appliedJournalEntryIds, applied := true,
    duplicateCorrection := false }

/-! ## What the calls return -/

variable {ctx sha}

theorem assertSome_eq_ok {α : Type} {x : Option α} {a : α} : assertSome x = .ok a ↔ x = some a := by
  cases x with
  | none => simp [assertSome]
  | some b => simp [assertSome]

section Calls

variable {position : Position} {settlement : Settlement} {currency : Currency} {status : SettlementStatus}

/-- The checks a settlement of a position has to pass. -/
structure Settles (position : Position) (settlement : Settlement) (currency : Currency)
    (status : SettlementStatus) : Prop where
  status : settlement.status = status
  settled : settlement.settledAt ≠ none
  payout : settlement.payoutPerUnit ≠ none
  exchange : position.exchange = settlement.exchange
  market : position.marketId = settlement.marketId
  open_ : position.quantity ≠ 0
  average : position.averageEntryPrice ≠ none
  realized_currency : position.realizedPnl.currency = currency
  unrealized_currency : position.unrealizedPnl.currency = currency
  fees_currency : position.feesPaid.currency = currency
  rebates_currency : position.rebatesReceived.currency = currency

theorem validateSettlementPosition_eq_ok {u : Unit} :
    validateSettlementPosition position settlement currency status = .ok u
      ↔ Settles position settlement currency status := by
  simp only [validateSettlementPosition, validateMoney, bind_eq_ok, raiseIf_eq_ok, exists_const, not_not]
  constructor
  · rintro ⟨h1, h2, h3, h4, h5, h6, h7, h8, h9, h10, h11⟩
    exact ⟨h1, h2, h3, h4, h5, h6, h7, h8, h9, h10, h11⟩
  · rintro ⟨h1, h2, h3, h4, h5, h6, h7, h8, h9, h10, h11⟩
    exact ⟨h1, h2, h3, h4, h5, h6, h7, h8, h9, h10, h11⟩

/-- The payout a position takes part in: nothing when its outcome lost. -/
def effectivePayout (position : Position) (settlement : Settlement) : ℚ :=
  if position.outcomeId ∈ settlement.winningOutcomeIds then settlement.payoutPerUnit.getD 0 else 0

/-- The accounting of a settlement that passes its checks. -/
def accounting (ctx : DecimalContext) (position : Position) (settlement : Settlement)
    (currency : Currency) : SettlementAccountingResult :=
  accountingOf ctx currency position.quantity (position.averageEntryPrice.getD 0)
    (settlement.payoutPerUnit.getD 0) (position.outcomeId ∈ settlement.winningOutcomeIds)

@[simp] theorem accounting_cashDelta : (accounting ctx position settlement currency).cashDelta
    = ⟨ctx.mul position.quantity (effectivePayout position settlement), currency⟩ := by
  simp only [accounting, accountingOf, effectivePayout, decide_eq_true_eq]

@[simp] theorem accounting_positionCostBasis :
    (accounting ctx position settlement currency).positionCostBasis
      = ⟨ctx.mul position.quantity (position.averageEntryPrice.getD 0), currency⟩ := rfl

@[simp] theorem accounting_settlementPnl : (accounting ctx position settlement currency).settlementPnl
    = ⟨ctx.sub (ctx.mul position.quantity (effectivePayout position settlement))
        (ctx.mul position.quantity (position.averageEntryPrice.getD 0)), currency⟩ := by
  simp only [accounting, accountingOf, effectivePayout, decide_eq_true_eq]

theorem buildSettlementAccountingResult'_eq_ok {result : SettlementAccountingResult} :
    buildSettlementAccountingResult' ctx position settlement currency status = .ok result
      ↔ Settles position settlement currency status ∧
        result = accounting ctx position settlement currency := by
  simp only [buildSettlementAccountingResult', bind_eq_ok, validateSettlementPosition_eq_ok,
    assertSome_eq_ok, exists_const, pure_eq_ok]
  constructor
  · rintro ⟨h, payout, hpayout, average, haverage, rfl⟩
    exact ⟨h, by simp only [accounting, hpayout, haverage, Option.getD_some]⟩
  · rintro ⟨h, rfl⟩
    obtain ⟨payout, hpayout⟩ := Option.ne_none_iff_exists'.mp h.payout
    obtain ⟨average, haverage⟩ := Option.ne_none_iff_exists'.mp h.average
    exact ⟨h, payout, hpayout, average, haverage, by
      simp only [accounting, hpayout, haverage, Option.getD_some]⟩

/-- The only cash line of a settlement is its payout. -/
theorem cashDelta_settlement {entry : AccountingJournalEntry}
    (hlines : entry.lines = settlementLines ctx (accounting ctx position settlement currency)) :
    Balances.cashDeltaForCurrency ctx entry currency accountCash
      = .ok ⟨ctx.mul position.quantity (effectivePayout position settlement), currency⟩ := by
  have hcash : Balances.cashLines entry currency accountCash
      = [Journal.line accountCash (ctx.mul position.quantity (effectivePayout position settlement)) currency
          "Settlement cash movement."] := by
    simp [Balances.cashLines, hlines, settlementLines, Journal.line, accountCash, accountPositionCost,
      accountSettlementPnl]
  exact Balances.cashDeltaForCurrency_singleton hcash (DecimalContext.fits_round _)

/-- **What an applied settlement returns.** Its entry books the accounting of the position, the position is
    flat with the settlement profit added, and the balance moved by the entry's cash. -/
theorem applySettlementOnce_applied {balance : CashBalance} {ids : Finset String} {sourceEventId : EventId}
    {createdAt : UTCDateTime} {result : SettlementApplicationResult} {entry : AccountingJournalEntry}
    (hok : applySettlementOnce ctx sha position balance settlement ids currency.code sourceEventId createdAt
      = .ok result) (hentry : result.journalEntry = some entry) :
    ∃ settledAt, settlement.settledAt = some settledAt ∧ position.lastUpdatedAt ≤ settledAt ∧
      Settles position settlement currency .settled ∧
      entry.lines = settlementLines ctx (accounting ctx position settlement currency) ∧
      entry.journalEntryId = deriveSettlementJournalEntryId sha position settlement ∧
      entry.occurredAt = settledAt ∧ entry.Valid ctx ∧
      result.position = flattened position (ctx.add position.realizedPnl.amount
        (accounting ctx position settlement currency).settlementPnl.amount) currency settledAt ∧
      result.cashBalance = Balances.moved ctx balance
        (ctx.mul position.quantity (effectivePayout position settlement)) settledAt := by
  unfold applySettlementOnce at hok
  simp only [validateCurrency_code, ok_bind] at hok
  rw [bind_eq_ok] at hok
  obtain ⟨_, hchecks, hok⟩ := hok
  split_ifs at hok with hdup
  · -- a duplicate has no journal entry
    rw [pure_eq_ok] at hok
    subst hok; cases hentry
  · simp only [bind_eq_ok, pure_eq_ok] at hok
    obtain ⟨projected, hprojected, built, hbuilt, cash, hcash, rfl⟩ := hok
    obtain rfl : built = entry := Option.some.inj hentry
    simp only [applySettlementToPosition, buildSettlementAccountingResult, validateCurrency_code, ok_bind,
      bind_eq_ok, validateSettlementPosition_eq_ok, assertSome_eq_ok, raiseIf_eq_ok, not_lt,
      buildSettlementAccountingResult'_eq_ok, Position.validate_eq_ok, pure_eq_ok, exists_const]
      at hprojected
    obtain ⟨hsettles, settledAt, hsettled, hlast, acc, ⟨-, rfl⟩, flat, ⟨-, rfl⟩, rfl⟩ := hprojected
    simp only [buildSettlementJournalEntry, buildSettlementAccountingResult, validateCurrency_code, ok_bind,
      bind_eq_ok, buildSettlementAccountingResult'_eq_ok, assertSome_eq_ok,
      AccountingJournalEntry.validate_eq_ok] at hbuilt
    obtain ⟨acc, ⟨-, rfl⟩, settledAt', hsettled', hvalid, rfl⟩ := hbuilt
    obtain rfl : settledAt' = settledAt := Option.some.inj (hsettled'.symm.trans hsettled)
    simp only [validateCashBalanceForPosition, bind_eq_ok, raiseIf_eq_ok, not_not, exists_const] at hchecks
    obtain ⟨-, delta, hdelta, -, rfl⟩ := Balances.applyJournalToCashBalance_eq_ok.mp hcash
    rw [hchecks.2.2, cashDelta_settlement rfl] at hdelta
    obtain rfl := Except.ok.inj hdelta
    exact ⟨settledAt', hsettled, hlast, hsettles, rfl, rfl, rfl, hvalid, rfl, rfl⟩

/-- An applied settlement comes with its entry. -/
theorem applySettlementOnce_entry {balance : CashBalance} {ids : Finset String} {sourceEventId : EventId}
    {createdAt : UTCDateTime} {result : SettlementApplicationResult}
    (hok : applySettlementOnce ctx sha position balance settlement ids currency.code sourceEventId createdAt
      = .ok result) (happlied : result.applied = true) : ∃ entry, result.journalEntry = some entry := by
  unfold applySettlementOnce at hok
  simp only [validateCurrency_code, ok_bind, bind_eq_ok] at hok
  obtain ⟨_, -, hok⟩ := hok
  split_ifs at hok with hdup
  · obtain rfl := pure_eq_ok.mp hok
    cases happlied
  · simp only [bind_eq_ok, pure_eq_ok] at hok
    obtain ⟨_, -, entry, -, _, -, rfl⟩ := hok
    exact ⟨entry, rfl⟩

/-- The accounting of a correction that passes its checks. -/
theorem buildSettlementCorrectionAccountingResult_eq_ok {original : Position} {previous corrected : Settlement}
    {result : SettlementCorrectionAccountingResult}
    (hok : buildSettlementCorrectionAccountingResult ctx original previous corrected currency.code
      = .ok result) :
    Settles original previous currency .settled ∧ Settles original corrected currency .corrected ∧
      result.cashDelta = ⟨ctx.sub (accounting ctx original corrected currency).cashDelta.amount
        (accounting ctx original previous currency).cashDelta.amount, currency⟩ ∧
      result.settlementPnlDelta = ⟨ctx.sub (accounting ctx original corrected currency).settlementPnl.amount
        (accounting ctx original previous currency).settlementPnl.amount, currency⟩ := by
  simp only [buildSettlementCorrectionAccountingResult, validateCurrency_code, ok_bind, bind_eq_ok,
    buildSettlementAccountingResult'_eq_ok, pure_eq_ok] at hok
  obtain ⟨_, -, _, ⟨hprevious, rfl⟩, _, ⟨hcorrected, rfl⟩, rfl⟩ := hok
  exact ⟨hprevious, hcorrected, rfl, rfl⟩

/-- The only cash line of a correction is its cash delta. -/
theorem cashDelta_settlementCorrection {entry : AccountingJournalEntry}
    {result : SettlementCorrectionAccountingResult} {delta : ℚ}
    (hlines : entry.lines = settlementCorrectionLines ctx result)
    (hdelta : result.cashDelta = ⟨delta, currency⟩) (hfits : ctx.Fits delta) :
    Balances.cashDeltaForCurrency ctx entry currency accountCash = .ok ⟨delta, currency⟩ := by
  have hcash : Balances.cashLines entry currency accountCash
      = [Journal.line accountCash delta currency "Settlement correction cash delta."] := by
    simp [Balances.cashLines, hlines, settlementCorrectionLines, hdelta, Journal.line, accountCash,
      accountPositionCost, accountSettlementPnl]
  exact Balances.cashDeltaForCurrency_singleton hcash hfits

/-- **What an applied correction returns.** The balance and the realized profit move by the difference
    between the corrected accounting and that of the settlement it names. -/
theorem applySettlementCorrectionOnce_applied {original settled : Position} {balance : CashBalance}
    {previous corrected : Settlement} {ids : Finset String} {sourceEventId : EventId} {createdAt : UTCDateTime}
    {result : SettlementCorrectionApplicationResult}
    (hok : applySettlementCorrectionOnce ctx sha original settled balance previous corrected ids currency.code
      sourceEventId createdAt = .ok result) (happlied : result.applied = true) :
    ∃ settledAt, corrected.settledAt = some settledAt ∧
      Settles original previous currency .settled ∧ Settles original corrected currency .corrected ∧
      result.position = flattened settled (ctx.add settled.realizedPnl.amount
        (ctx.sub (accounting ctx original corrected currency).settlementPnl.amount
          (accounting ctx original previous currency).settlementPnl.amount)) currency settledAt ∧
      result.cashBalance = Balances.moved ctx balance
        (ctx.sub (accounting ctx original corrected currency).cashDelta.amount
          (accounting ctx original previous currency).cashDelta.amount) settledAt := by
  unfold applySettlementCorrectionOnce at hok
  simp only [validateCurrency_code, ok_bind, bind_eq_ok] at hok
  obtain ⟨_, hidentity, hok⟩ := hok
  split_ifs at hok with hdup
  · obtain rfl := pure_eq_ok.mp hok
    cases happlied
  simp only [bind_eq_ok, assertSome_eq_ok, Position.validate_eq_ok, pure_eq_ok] at hok
  obtain ⟨_, -, acc, hacc, entry, hentry, cash, hcash, settledAt, hsettled, _, ⟨-, rfl⟩, rfl⟩ := hok
  obtain ⟨hprevious, hcorrected, hcashDelta, hpnlDelta⟩ := buildSettlementCorrectionAccountingResult_eq_ok hacc
  have hcurrency : balance.currency = currency := by
    simp only [validateSettlementCorrectionIdentity, validateCashBalanceForPosition, bind_eq_ok, raiseIf_eq_ok,
      not_not, exists_const] at hidentity
    exact hidentity.1.2.2
  simp only [buildSettlementCorrectionJournalEntry, bind_eq_ok, assertSome_eq_ok,
    AccountingJournalEntry.validate_eq_ok] at hentry
  obtain ⟨acc', hacc', settledAt', hsettled', -, rfl⟩ := hentry
  obtain rfl : acc = acc' := Except.ok.inj (hacc.symm.trans hacc')
  obtain rfl : settledAt = settledAt' := Option.some.inj (hsettled.symm.trans hsettled')
  obtain ⟨-, delta, hdelta, -, rfl⟩ := Balances.applyJournalToCashBalance_eq_ok.mp hcash
  rw [hcurrency, cashDelta_settlementCorrection rfl hcashDelta (DecimalContext.fits_round _)] at hdelta
  obtain rfl := Except.ok.inj hdelta
  exact ⟨settledAt, hsettled, hprevious, hcorrected, by rw [hpnlDelta], rfl⟩

/-! ## What is booked -/

theorem applySettlementOnce_posted {balance : CashBalance} {ids : Finset String} {code : String}
    {sourceEventId : EventId} {createdAt : UTCDateTime} {result : SettlementApplicationResult}
    (h : applySettlementOnce ctx sha position balance settlement ids code sourceEventId createdAt = .ok result) :
    Balances.PostedOnce ctx balance ids result.journalEntry result.cashBalance result.appliedJournalEntryIds := by
  unfold applySettlementOnce at h
  obtain ⟨_, -, h⟩ := bind_eq_ok.mp h
  obtain ⟨_, -, h⟩ := bind_eq_ok.mp h
  dsimp only at h
  split_ifs at h with hdup
  · obtain rfl := pure_eq_ok.mp h
    exact .duplicate
  · simp only [bind_eq_ok, pure_eq_ok] at h
    obtain ⟨_, -, entry, hentry, projection, hprojection, rfl⟩ := h
    simp only [buildSettlementJournalEntry, bind_eq_ok, AccountingJournalEntry.validate_eq_ok] at hentry
    obtain ⟨_, -, _, -, hvalid, rfl⟩ := hentry
    exact .booked hvalid hdup hprojection

theorem applySettlementCorrectionOnce_posted {original settled : Position} {balance : CashBalance}
    {previous corrected : Settlement} {ids : Finset String} {code : String} {sourceEventId : EventId}
    {createdAt : UTCDateTime} {result : SettlementCorrectionApplicationResult}
    (h : applySettlementCorrectionOnce ctx sha original settled balance previous corrected ids code sourceEventId
      createdAt = .ok result) :
    Balances.PostedOnce ctx balance ids result.journalEntry result.cashBalance result.appliedJournalEntryIds := by
  unfold applySettlementCorrectionOnce at h
  obtain ⟨_, -, h⟩ := bind_eq_ok.mp h
  obtain ⟨_, -, h⟩ := bind_eq_ok.mp h
  dsimp only at h
  split_ifs at h with hdup
  · obtain rfl := pure_eq_ok.mp h
    exact .duplicate
  · simp only [bind_eq_ok, pure_eq_ok] at h
    obtain ⟨_, -, _, -, entry, hentry, projection, hprojection, _, -, _, -, rfl⟩ := h
    simp only [buildSettlementCorrectionJournalEntry, bind_eq_ok, AccountingJournalEntry.validate_eq_ok] at hentry
    obtain ⟨_, -, _, -, hvalid, rfl⟩ := hentry
    exact .booked hvalid hdup hprojection

end Calls

end Settlements
end Pmrp
