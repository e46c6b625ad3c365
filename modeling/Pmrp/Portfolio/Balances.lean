import Pmrp.Portfolio.Journal

/-!
# `Portfolio.Balances` — the cash movement of a journal entry

`portfolio/balances.py`. Available and total cash move by the same delta, and the balance identity is checked
again on the rounded results. `PostedOnce` is what every operation with an applied-id set does to its balance.
-/

namespace Pmrp

structure CashBalanceProjectionResult where
  balance : CashBalance
  cashDelta : Money
  deriving DecidableEq

structure CashBalanceApplicationResult where
  balance : CashBalance
  cashProjection : Option CashBalanceProjectionResult
  appliedJournalEntryIds : Finset String
  applied : Bool
  duplicateJournalEntry : Bool
  deriving DecidableEq

structure CashBalanceCorrectionResult where
  balance : CashBalance
  cashProjection : Option CashBalanceProjectionResult
  journalEntry : Option AccountingJournalEntry
  appliedJournalEntryIds : Finset String
  applied : Bool
  duplicateCorrection : Bool
  deriving DecidableEq

/-- An observed balance. A digest takes a `Decimal` as it is written, which its value does not determine. -/
structure ObservedBalance extends CashBalance where
  availableText : String
  totalText : String

def accountBalanceCorrection : String := "balance_correction"
def balanceCorrectionReferenceType : String := "balance_correction"

theorem accountBalanceCorrection_within : TextWithin portfolioIdMaxLength accountBalanceCorrection := by decide

namespace Balances

variable (ctx : DecimalContext)

/-- The cash lines of one account and currency. -/
def cashLines (journalEntry : AccountingJournalEntry) (currency : Currency) (cashAccountCode : String) :
    List JournalLine :=
  journalEntry.lines.filter fun line => line.accountCode = cashAccountCode ∧ line.currency = currency

def cashDeltaForCurrency (journalEntry : AccountingJournalEntry) (currency : Currency)
    (cashAccountCode : String) : Result Money := do
  let validatedCurrency ← validateCurrency currency.code
  raiseIf (cashAccountCode = "" ∨ isStripped cashAccountCode = false)
    (portfolioProjectionError "cash account code is required without surrounding whitespace")
  let matchingCashLines := cashLines journalEntry validatedCurrency cashAccountCode
  raiseIf (matchingCashLines = [])
    (portfolioProjectionError "journal entry does not contain a cash line for balance currency")
  pure ⟨ctx.sum (matchingCashLines.map JournalLine.amount), validatedCurrency⟩

/-- The balance with available and total moved by `delta`, before its validators run. -/
def moved (balance : CashBalance) (delta : ℚ) (capturedAt : UTCDateTime) : CashBalance where
  balanceId := balance.balanceId
  exchange := balance.exchange
  accountId := balance.accountId
  currency := balance.currency
  available := ctx.add balance.available delta
  reserved := balance.reserved
  total := ctx.add balance.total delta
  capturedAt := capturedAt

def applyJournalToCashBalance (balance : CashBalance) (journalEntry : AccountingJournalEntry)
    (cashAccountCode : String := accountCash) : Result CashBalanceProjectionResult := do
  raiseIf (journalEntry.occurredAt < balance.capturedAt)
    (portfolioProjectionError "journal entry occurred_at must not be before balance captured_at")
  let cashDelta ← cashDeltaForCurrency ctx journalEntry balance.currency cashAccountCode
  let projectedBalance ← (moved ctx balance cashDelta.amount journalEntry.occurredAt).validate ctx
  pure ⟨projectedBalance, cashDelta⟩

def applyJournalToCashBalanceOnce (balance : CashBalance) (journalEntry : AccountingJournalEntry)
    (appliedJournalEntryIds : Finset String) : Result CashBalanceApplicationResult := do
  if journalEntry.journalEntryId ∈ appliedJournalEntryIds then
    return {
      balance, cashProjection := none, appliedJournalEntryIds, applied := false, duplicateJournalEntry := true }
  let projection ← applyJournalToCashBalance ctx balance journalEntry
  return {
    balance := projection.balance, cashProjection := some projection,
    appliedJournalEntryIds := insert journalEntry.journalEntryId appliedJournalEntryIds, applied := true,
    duplicateJournalEntry := false }

/-! ## Corrections to an observed balance -/

variable (sha : Sha256)

def validateBalanceCorrectionIdentity (balance : CashBalance) (observedBalance : ObservedBalance)
    (referenceId : String) : Result Unit := do
  raiseIf (referenceId = "") (portfolioProjectionError "balance correction reference_id is required")
  raiseIf (observedBalance.balanceId ≠ balance.balanceId)
    (portfolioProjectionError "observed balance_id does not match balance")
  raiseIf (observedBalance.exchange ≠ balance.exchange)
    (portfolioProjectionError "observed exchange does not match balance exchange")
  raiseIf (observedBalance.accountId ≠ balance.accountId)
    (portfolioProjectionError "observed account_id does not match balance account_id")
  raiseIf (observedBalance.currency ≠ balance.currency)
    (portfolioProjectionError "observed currency does not match balance currency")

def validateBalanceCorrectionApplication (balance : CashBalance) (observedBalance : ObservedBalance)
    (referenceId : String) : Result Unit := do
  validateBalanceCorrectionIdentity balance observedBalance referenceId
  raiseIf (observedBalance.capturedAt < balance.capturedAt)
    (portfolioProjectionError "observed balance captured_at must not be before balance captured_at")
  raiseIf (observedBalance.reserved ≠ balance.reserved)
    (portfolioProjectionError "balance correction cannot change reserved cash")

def deriveBalanceCorrectionJournalEntryId (balance : CashBalance) (observedBalance : ObservedBalance)
    (referenceId : String) : String :=
  "journal_balance_correction_" ++ shortDigest sha (.mapping [
    ("balance_id", .str balance.balanceId),
    ("observed_available", .str observedBalance.availableText),
    ("observed_captured_at", .datetime observedBalance.capturedAt),
    ("observed_total", .str observedBalance.totalText),
    ("reference_id", .str referenceId),
    ("schema", .str "pmrp.balance_correction_journal_entry.v1")])

def buildBalanceCorrectionJournalEntry (balance : CashBalance) (observedBalance : ObservedBalance)
    (referenceId : String) (sourceEventId : EventId) (createdAt : UTCDateTime) :
    Result AccountingJournalEntry := do
  validateBalanceCorrectionApplication balance observedBalance referenceId
  let cashDelta := ctx.sub observedBalance.available balance.available
  raiseIf (cashDelta = 0) (portfolioProjectionError "balance correction requires nonzero cash delta")
  AccountingJournalEntry.validate ctx {
    journalEntryId := deriveBalanceCorrectionJournalEntryId sha balance observedBalance referenceId
    occurredAt := observedBalance.capturedAt
    sourceEventId := sourceEventId
    referenceType := balanceCorrectionReferenceType
    referenceId := referenceId
    lines := [
      Journal.line accountCash cashDelta balance.currency "Balance correction cash movement.",
      Journal.line accountBalanceCorrection (ctx.neg cashDelta) balance.currency "Balance correction offset."
        accountBalanceCorrection_within]
    description := s!"Cash balance correction for {balance.balanceId}."
    createdAt := createdAt }

def applyBalanceCorrectionOnce (balance : CashBalance) (observedBalance : ObservedBalance)
    (appliedJournalEntryIds : Finset String) (referenceId : String) (sourceEventId : EventId)
    (createdAt : UTCDateTime) : Result CashBalanceCorrectionResult := do
  validateBalanceCorrectionIdentity balance observedBalance referenceId
  let journalEntryId := deriveBalanceCorrectionJournalEntryId sha balance observedBalance referenceId
  if journalEntryId ∈ appliedJournalEntryIds then
    return {
      balance, cashProjection := none, journalEntry := none, appliedJournalEntryIds, applied := false,
      duplicateCorrection := true }
  let journalEntry ← buildBalanceCorrectionJournalEntry ctx sha balance observedBalance referenceId
    sourceEventId createdAt
  let projection ← applyJournalToCashBalance ctx balance journalEntry
  return {
    balance := projection.balance, cashProjection := some projection, journalEntry := some journalEntry,
    appliedJournalEntryIds := insert journalEntryId appliedJournalEntryIds, applied := true,
    duplicateCorrection := false }

/-! ## What the calls return -/

variable {ctx sha}

/-- A balance after an operation that books at most one entry under the cash account: nothing happened, or the
    entry is valid and new and its cash was applied. -/
inductive PostedOnce (ctx : DecimalContext) (balance : CashBalance) (ids : Finset String) :
    Option AccountingJournalEntry → CashBalance → Finset String → Prop where
  | duplicate : PostedOnce ctx balance ids none balance ids
  | booked {entry : AccountingJournalEntry} {projection : CashBalanceProjectionResult}
      (hvalid : entry.Valid ctx) (hnew : entry.journalEntryId ∉ ids)
      (h : applyJournalToCashBalance ctx balance entry = .ok projection) :
      PostedOnce ctx balance ids (some entry) projection.balance (insert entry.journalEntryId ids)

/-- The movement of an entry with one cash line is that line's amount. -/
theorem cashDeltaForCurrency_singleton {journalEntry : AccountingJournalEntry} {c : Currency} {l : JournalLine}
    (h : cashLines journalEntry c accountCash = [l]) (hfits : ctx.Fits l.amount) :
    cashDeltaForCurrency ctx journalEntry c accountCash = .ok ⟨l.amount, c⟩ := by
  have hcode : ¬(accountCash = "" ∨ isStripped accountCash = false) := by decide
  have hsum : ctx.sum [l.amount] = l.amount := by
    show ctx.add 0 l.amount = l.amount
    rw [DecimalContext.add, zero_add]; exact hfits
  rw [cashDeltaForCurrency, validateCurrency_code, ok_bind, raiseIf_bind_of_not hcode, h,
    raiseIf_bind_of_not (List.cons_ne_nil _ _), List.map_singleton, hsum]
  rfl

theorem applyJournalToCashBalance_eq_ok {balance : CashBalance} {journalEntry : AccountingJournalEntry}
    {cashAccountCode : String} {projection : CashBalanceProjectionResult} :
    applyJournalToCashBalance ctx balance journalEntry cashAccountCode = .ok projection ↔
      balance.capturedAt ≤ journalEntry.occurredAt ∧
      ∃ delta, cashDeltaForCurrency ctx journalEntry balance.currency cashAccountCode = .ok delta ∧
        (moved ctx balance delta.amount journalEntry.occurredAt).Valid ctx ∧
        projection = ⟨moved ctx balance delta.amount journalEntry.occurredAt, delta⟩ := by
  simp only [applyJournalToCashBalance, bind_eq_ok, raiseIf_eq_ok, not_lt, exists_const,
    CashBalance.validate_eq_ok, pure_eq_ok]
  constructor
  · rintro ⟨hcaptured, delta, hdelta, b, ⟨hvalid, rfl⟩, rfl⟩
    exact ⟨hcaptured, delta, hdelta, hvalid, rfl⟩
  · rintro ⟨hcaptured, delta, hdelta, hvalid, rfl⟩
    exact ⟨hcaptured, delta, hdelta, _, ⟨hvalid, rfl⟩, rfl⟩

theorem applyBalanceCorrectionOnce_posted {balance : CashBalance} {observedBalance : ObservedBalance}
    {ids : Finset String} {referenceId : String} {sourceEventId : EventId} {createdAt : UTCDateTime}
    {result : CashBalanceCorrectionResult}
    (h : applyBalanceCorrectionOnce ctx sha balance observedBalance ids referenceId sourceEventId createdAt
      = .ok result) :
    PostedOnce ctx balance ids result.journalEntry result.balance result.appliedJournalEntryIds := by
  unfold applyBalanceCorrectionOnce at h
  obtain ⟨_, -, h⟩ := bind_eq_ok.mp h
  dsimp only at h
  split_ifs at h with hdup
  · obtain rfl := pure_eq_ok.mp h
    exact .duplicate
  · simp only [bind_eq_ok, pure_eq_ok] at h
    obtain ⟨entry, hentry, projection, hprojection, rfl⟩ := h
    simp only [buildBalanceCorrectionJournalEntry, bind_eq_ok, AccountingJournalEntry.validate_eq_ok] at hentry
    obtain ⟨_, -, _, -, hvalid, rfl⟩ := hentry
    exact .booked hvalid hdup hprojection

end Balances
end Pmrp
