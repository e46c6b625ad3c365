import Pmrp.Portfolio.Balances

/-!
# `Portfolio.Fees` — standalone fees and rebates

`portfolio/fees.py`. A fee and a rebate are one kind of charge with opposite signs: `ChargeKind` holds what the two
functions write differently, and each function is the common one at its own kind.
-/

namespace Pmrp

def feeReferenceType : String := "fee"
def rebateReferenceType : String := "rebate"
def maxReferenceIdLength : ℕ := 128

structure ChargeApplicationResult where
  balance : CashBalance
  cashProjection : Option CashBalanceProjectionResult
  journalEntry : Option AccountingJournalEntry
  appliedJournalEntryIds : Finset String
  applied : Bool
  duplicate : Bool
  deriving DecidableEq

abbrev FeeApplicationResult := ChargeApplicationResult
abbrev RebateApplicationResult := ChargeApplicationResult

namespace Fees

variable (ctx : DecimalContext) (sha : Sha256)

/-! ## Validation -/

def validateBalanceCurrency (balance : CashBalance) (amount : Money) (fieldName : String) : Result Unit :=
  raiseIf (balance.currency ≠ amount.currency)
    (portfolioProjectionError s!"{fieldName} currency must match balance currency")

def validatePositiveMoney (amount : Money) (fieldName : String) : Result Unit :=
  raiseIf (amount.amount ≤ 0) (portfolioProjectionError s!"{fieldName} amount must be positive")

def validateReferenceId (value fieldName : String) : Result String := do
  raiseIf (value = "" ∨ isStripped value = false)
    (portfolioProjectionError s!"{fieldName} is required without surrounding whitespace")
  raiseIf (maxReferenceIdLength < value.length)
    (portfolioProjectionError s!"{fieldName} must be at most {maxReferenceIdLength} characters")
  pure value

theorem validateReferenceId_eq {value fieldName validated : String}
    (h : validateReferenceId value fieldName = .ok validated) : validated = value := by
  simp only [validateReferenceId, bind_eq_ok, pure_eq_ok] at h
  obtain ⟨_, -, _, -, h⟩ := h
  exact h.symm

/-! ## Charges -/

/-- What a fee and a rebate write differently: texts, the offset account, and which line is negated. -/
structure ChargeKind where
  fieldName : String
  idFieldName : String
  idPrefix : String
  schema : String
  referenceType : String
  cashAmount : DecimalContext → ℚ → ℚ
  cashDescription : String
  offsetAccount : String
  offsetAmount : DecimalContext → ℚ → ℚ
  offsetDescription : String
  describes : String
  cashDescription_within : TextWithin 512 cashDescription
  offsetAccount_within : TextWithin portfolioIdMaxLength offsetAccount
  offsetDescription_within : TextWithin 512 offsetDescription

theorem feeCash_within : TextWithin 512 "Fee cash movement." := by decide
theorem feeExpense_within : TextWithin 512 "Fee expense." := by decide
theorem rebateCash_within : TextWithin 512 "Rebate cash movement." := by decide
theorem rebateIncome_within : TextWithin 512 "Rebate income." := by decide

def feeKind : ChargeKind where
  fieldName := "fee"
  idFieldName := "fee_id"
  idPrefix := "journal_fee_"
  schema := "pmrp.fee_journal_entry.v1"
  referenceType := feeReferenceType
  cashAmount ctx amount := ctx.neg amount
  cashDescription := "Fee cash movement."
  offsetAccount := accountFeesPaid
  offsetAmount _ amount := amount
  offsetDescription := "Fee expense."
  describes := "Fee accounting for "
  cashDescription_within := feeCash_within
  offsetAccount_within := accountFeesPaid_within
  offsetDescription_within := feeExpense_within

def rebateKind : ChargeKind where
  fieldName := "rebate"
  idFieldName := "rebate_id"
  idPrefix := "journal_rebate_"
  schema := "pmrp.rebate_journal_entry.v1"
  referenceType := rebateReferenceType
  cashAmount _ amount := amount
  cashDescription := "Rebate cash movement."
  offsetAccount := accountRebatesReceived
  offsetAmount ctx amount := ctx.neg amount
  offsetDescription := "Rebate income."
  describes := "Rebate accounting for "
  cashDescription_within := rebateCash_within
  offsetAccount_within := accountRebatesReceived_within
  offsetDescription_within := rebateIncome_within

namespace ChargeKind

variable (kind : ChargeKind)

def deriveJournalEntryId (referenceId : String) : Result String := do
  let validatedId ← validateReferenceId referenceId kind.idFieldName
  pure (kind.idPrefix ++
      shortDigest sha (.mapping [(kind.idFieldName, .str validatedId), ("schema", .str kind.schema)]))

def buildJournalEntry (amount : Money) (referenceId : String) (sourceEventId : EventId)
    (occurredAt createdAt : UTCDateTime) : Result AccountingJournalEntry := do
  let validatedId ← validateReferenceId referenceId kind.idFieldName
  validatePositiveMoney amount kind.fieldName
  let journalEntryId ← kind.deriveJournalEntryId sha validatedId
  AccountingJournalEntry.validate ctx {
    journalEntryId := journalEntryId
    occurredAt := occurredAt
    sourceEventId := sourceEventId
    referenceType := kind.referenceType
    referenceId := validatedId
    lines := [
      Journal.line accountCash (kind.cashAmount ctx amount.amount) amount.currency kind.cashDescription
        accountCash_within kind.cashDescription_within,
      Journal.line kind.offsetAccount (kind.offsetAmount ctx amount.amount) amount.currency kind.offsetDescription
        kind.offsetAccount_within kind.offsetDescription_within]
    description := kind.describes ++ validatedId ++ "."
    createdAt := createdAt }

def applyOnce (balance : CashBalance) (amount : Money) (referenceId : String)
    (appliedJournalEntryIds : Finset String) (sourceEventId : EventId) (occurredAt createdAt : UTCDateTime) :
    Result ChargeApplicationResult := do
  validateBalanceCurrency balance amount kind.fieldName
  let journalEntryId ← kind.deriveJournalEntryId sha referenceId
  if journalEntryId ∈ appliedJournalEntryIds then
    return {
      balance, cashProjection := none, journalEntry := none, appliedJournalEntryIds, applied := false,
      duplicate := true }
  let journalEntry ← kind.buildJournalEntry ctx sha amount referenceId sourceEventId occurredAt createdAt
  let projection ← Balances.applyJournalToCashBalance ctx balance journalEntry
  return {
    balance := projection.balance, cashProjection := some projection, journalEntry := some journalEntry,
    appliedJournalEntryIds := insert journalEntryId appliedJournalEntryIds, applied := true, duplicate := false }

end ChargeKind

/-! ## Fees and rebates -/

def buildFeeJournalEntry (amount : Money) (feeId : String) (sourceEventId : EventId)
    (occurredAt createdAt : UTCDateTime) : Result AccountingJournalEntry :=
  feeKind.buildJournalEntry ctx sha amount feeId sourceEventId occurredAt createdAt

def buildRebateJournalEntry (amount : Money) (rebateId : String) (sourceEventId : EventId)
    (occurredAt createdAt : UTCDateTime) : Result AccountingJournalEntry :=
  rebateKind.buildJournalEntry ctx sha amount rebateId sourceEventId occurredAt createdAt

def applyFeeOnce (balance : CashBalance) (amount : Money) (feeId : String) (appliedJournalEntryIds : Finset String)
    (sourceEventId : EventId) (occurredAt createdAt : UTCDateTime) : Result FeeApplicationResult :=
  feeKind.applyOnce ctx sha balance amount feeId appliedJournalEntryIds sourceEventId occurredAt createdAt

def applyRebateOnce (balance : CashBalance) (amount : Money) (rebateId : String)
    (appliedJournalEntryIds : Finset String) (sourceEventId : EventId) (occurredAt createdAt : UTCDateTime) :
    Result RebateApplicationResult :=
  rebateKind.applyOnce ctx sha balance amount rebateId appliedJournalEntryIds sourceEventId occurredAt createdAt

/-! ## What the calls return -/

variable {ctx sha} {kind : ChargeKind}

/-- A built entry books the charge: its cash line, and the offset. -/
theorem ChargeKind.buildJournalEntry_eq_ok {amount : Money} {referenceId : String} {sourceEventId : EventId}
    {occurredAt createdAt : UTCDateTime} {entry : AccountingJournalEntry}
    (h : kind.buildJournalEntry ctx sha amount referenceId sourceEventId occurredAt createdAt = .ok entry) :
    0 < amount.amount ∧ kind.deriveJournalEntryId sha referenceId = .ok entry.journalEntryId ∧ entry.Valid ctx := by
  simp only [buildJournalEntry, validatePositiveMoney, bind_eq_ok, raiseIf_eq_ok, not_le, exists_const,
    AccountingJournalEntry.validate_eq_ok] at h
  obtain ⟨validatedId, hvalidated, hpos, journalEntryId, hid, hvalid, rfl⟩ := h
  rw [validateReferenceId_eq hvalidated] at hid
  exact ⟨hpos, hid, hvalid⟩

theorem ChargeKind.applyOnce_posted {balance : CashBalance} {amount : Money} {referenceId : String}
    {ids : Finset String} {sourceEventId : EventId} {occurredAt createdAt : UTCDateTime}
    {result : ChargeApplicationResult}
    (h : kind.applyOnce ctx sha balance amount referenceId ids sourceEventId occurredAt createdAt = .ok result) :
    Balances.PostedOnce ctx balance ids result.journalEntry result.balance result.appliedJournalEntryIds := by
  unfold applyOnce at h
  obtain ⟨_, -, h⟩ := bind_eq_ok.mp h
  obtain ⟨journalEntryId, hid, h⟩ := bind_eq_ok.mp h
  split_ifs at h with hdup
  · obtain rfl := pure_eq_ok.mp h
    exact .duplicate
  · simp only [bind_eq_ok, pure_eq_ok] at h
    obtain ⟨entry, hentry, projection, hprojection, rfl⟩ := h
    obtain ⟨-, hentryId, hvalid⟩ := buildJournalEntry_eq_ok hentry
    obtain rfl : journalEntryId = entry.journalEntryId := Except.ok.inj (hid.symm.trans hentryId)
    exact .booked hvalid hdup hprojection

end Fees
end Pmrp
