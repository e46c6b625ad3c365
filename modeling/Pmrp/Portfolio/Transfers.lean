import Pmrp.Portfolio.Balances

/-!
# `Portfolio.Transfers` — cash transfers between two balances

`portfolio/transfers.py`. One entry books both sides. Its cash lines carry the balance they belong to in their
account code, `cash:<balance_id>`, and each balance reads the line of its own code.
-/

namespace Pmrp

def accountCashTransfer : String := "cash_transfer"
def transferReferenceType : String := "transfer"

theorem accountCashTransfer_within : TextWithin portfolioIdMaxLength accountCashTransfer := by decide

structure CashTransferApplicationResult where
  fromBalance : CashBalance
  toBalance : CashBalance
  outboundProjection : Option CashBalanceProjectionResult
  inboundProjection : Option CashBalanceProjectionResult
  journalEntry : Option AccountingJournalEntry
  appliedJournalEntryIds : Finset String
  applied : Bool
  duplicateTransfer : Bool
  deriving DecidableEq

namespace Transfers

variable (ctx : DecimalContext) (sha : Sha256)

/-! ## Account codes -/

/-- The account of the cash lines of the balance with this id. -/
def accountCodeOf (balanceId : String) : String := accountCash ++ ":" ++ balanceId

theorem accountCodeOf_ne_cash (balanceId : String) : accountCodeOf balanceId ≠ accountCash := by
  intro h
  have hlength := congrArg String.length h
  have hcolon : ":".length = 1 := rfl
  rw [accountCodeOf, String.length_append, String.length_append, hcolon] at hlength
  omega

/-- The code of a balance, which the lines of an entry have to hold. -/
def cashBalanceAccountCode (balance : CashBalance) : Result {s : String // TextWithin portfolioIdMaxLength s} :=
  if h : (accountCodeOf balance.balanceId).length ≤ portfolioIdMaxLength then
    .ok ⟨accountCodeOf balance.balanceId, by
      have hcash : accountCash.length = 4 := rfl
      have hcolon : ":".length = 1 := rfl
      refine ⟨?_, h⟩
      rw [accountCodeOf, String.length_append, String.length_append, hcash, hcolon]
      omega⟩
  else .error (portfolioProjectionError "cash transfer balance_id is too long for a cash account code")

theorem cashBalanceAccountCode_val {balance : CashBalance} {code : {s : String // TextWithin portfolioIdMaxLength s}}
    (h : cashBalanceAccountCode balance = .ok code) : code.val = accountCodeOf balance.balanceId := by
  unfold cashBalanceAccountCode at h
  split_ifs at h
  cases h
  rfl

/-! ## Entries -/

def validateTransferId (transferId : String) : Result Unit :=
  raiseIf (transferId = "" ∨ isStripped transferId = false)
    (portfolioProjectionError "cash transfer transfer_id is required without surrounding whitespace")

def validateTransferInputs (fromBalance toBalance : CashBalance) (amount : Money) (transferId : String) :
    Result Unit := do
  validateTransferId transferId
  raiseIf (fromBalance.balanceId = toBalance.balanceId)
    (portfolioProjectionError "cash transfer requires distinct source and destination balances")
  raiseIf (fromBalance.currency ≠ toBalance.currency)
    (portfolioProjectionError "cash transfer balances must use the same currency")
  let validatedCurrency ← validateCurrency amount.currency.code
  raiseIf (fromBalance.currency ≠ validatedCurrency)
    (portfolioProjectionError "cash transfer amount currency must match balance currency")
  raiseIf (amount.amount ≤ 0) (portfolioProjectionError "cash transfer amount must be positive")
  let _ ← cashBalanceAccountCode fromBalance
  let _ ← cashBalanceAccountCode toBalance

def deriveCashTransferJournalEntryId (transferId : String) : Result String := do
  validateTransferId transferId
  pure ("journal_cash_transfer_" ++ shortDigest sha (.mapping [
    ("schema", .str "pmrp.cash_transfer_journal_entry.v1"),
    ("transfer_id", .str transferId)]))

/-- The four lines of a transfer between the accounts with these codes. -/
def transferLines (fromCode toCode : {s : String // TextWithin portfolioIdMaxLength s}) (amount : Money) :
    List JournalLine :=
  [Journal.line fromCode.val (ctx.neg amount.amount) amount.currency "Cash transfer outbound cash movement."
      fromCode.property,
    Journal.line accountCashTransfer amount.amount amount.currency "Cash transfer outbound offset."
      accountCashTransfer_within,
    Journal.line toCode.val amount.amount amount.currency "Cash transfer inbound cash movement." toCode.property,
    Journal.line accountCashTransfer (ctx.neg amount.amount) amount.currency "Cash transfer inbound offset."
      accountCashTransfer_within]

def buildCashTransferJournalEntry (fromBalance toBalance : CashBalance) (amount : Money) (transferId : String)
    (sourceEventId : EventId) (occurredAt createdAt : UTCDateTime) : Result AccountingJournalEntry := do
  validateTransferInputs fromBalance toBalance amount transferId
  let journalEntryId ← deriveCashTransferJournalEntryId sha transferId
  let fromCode ← cashBalanceAccountCode fromBalance
  let toCode ← cashBalanceAccountCode toBalance
  AccountingJournalEntry.validate ctx {
    journalEntryId := journalEntryId
    occurredAt := occurredAt
    sourceEventId := sourceEventId
    referenceType := transferReferenceType
    referenceId := transferId
    lines := transferLines ctx fromCode toCode amount
    description := s!"Cash transfer accounting for {transferId}."
    createdAt := createdAt }

def applyCashTransferOnce (fromBalance toBalance : CashBalance) (amount : Money) (transferId : String)
    (appliedJournalEntryIds : Finset String) (sourceEventId : EventId) (occurredAt createdAt : UTCDateTime) :
    Result CashTransferApplicationResult := do
  validateTransferInputs fromBalance toBalance amount transferId
  let journalEntryId ← deriveCashTransferJournalEntryId sha transferId
  if journalEntryId ∈ appliedJournalEntryIds then
    return {
      fromBalance, toBalance, outboundProjection := none, inboundProjection := none, journalEntry := none,
      appliedJournalEntryIds, applied := false, duplicateTransfer := true }
  let journalEntry ← buildCashTransferJournalEntry ctx sha fromBalance toBalance amount transferId sourceEventId
    occurredAt createdAt
  let fromCode ← cashBalanceAccountCode fromBalance
  let outboundProjection ← Balances.applyJournalToCashBalance ctx fromBalance journalEntry fromCode.val
  let toCode ← cashBalanceAccountCode toBalance
  let inboundProjection ← Balances.applyJournalToCashBalance ctx toBalance journalEntry toCode.val
  return {
    fromBalance := outboundProjection.balance, toBalance := inboundProjection.balance,
    outboundProjection := some outboundProjection, inboundProjection := some inboundProjection,
    journalEntry := some journalEntry, appliedJournalEntryIds := insert journalEntryId appliedJournalEntryIds,
    applied := true, duplicateTransfer := false }

/-! ## What the calls return -/

variable {ctx sha}

/-- Two balances after a transfer: nothing happened, or a new entry without a line of the plain cash account was
    applied to each under its own code. -/
inductive TransferredOnce (ctx : DecimalContext) (fromBalance toBalance : CashBalance) (ids : Finset String) :
    Option AccountingJournalEntry → CashBalance → CashBalance → Finset String → Prop where
  | duplicate : TransferredOnce ctx fromBalance toBalance ids none fromBalance toBalance ids
  | booked {entry : AccountingJournalEntry} {outbound inbound : CashBalanceProjectionResult}
      (hdistinct : fromBalance.balanceId ≠ toBalance.balanceId) (hvalid : entry.Valid ctx)
      (hnew : entry.journalEntryId ∉ ids) (hlines : ∀ l ∈ entry.lines, l.accountCode ≠ accountCash)
      (hfrom : Balances.applyJournalToCashBalance ctx fromBalance entry (accountCodeOf fromBalance.balanceId)
        = .ok outbound)
      (hto : Balances.applyJournalToCashBalance ctx toBalance entry (accountCodeOf toBalance.balanceId)
        = .ok inbound) :
      TransferredOnce ctx fromBalance toBalance ids (some entry) outbound.balance inbound.balance
        (insert entry.journalEntryId ids)

theorem transferLines_ne_cash {fromBalance toBalance : CashBalance}
    {fromCode toCode : {s : String // TextWithin portfolioIdMaxLength s}} {amount : Money}
    (hfrom : cashBalanceAccountCode fromBalance = .ok fromCode) (hto : cashBalanceAccountCode toBalance = .ok toCode) :
    ∀ l ∈ transferLines ctx fromCode toCode amount, l.accountCode ≠ accountCash := by
  have hoffset : accountCashTransfer ≠ accountCash := by decide
  intro l hl
  simp only [transferLines, List.mem_cons, List.not_mem_nil, or_false] at hl
  rcases hl with rfl | rfl | rfl | rfl
  · show fromCode.val ≠ accountCash
    rw [cashBalanceAccountCode_val hfrom]
    exact accountCodeOf_ne_cash _
  · exact hoffset
  · show toCode.val ≠ accountCash
    rw [cashBalanceAccountCode_val hto]
    exact accountCodeOf_ne_cash _
  · exact hoffset

theorem applyCashTransferOnce_transferred {fromBalance toBalance : CashBalance} {amount : Money} {transferId : String}
    {ids : Finset String} {sourceEventId : EventId} {occurredAt createdAt : UTCDateTime}
    {result : CashTransferApplicationResult}
    (h : applyCashTransferOnce ctx sha fromBalance toBalance amount transferId ids sourceEventId occurredAt createdAt
      = .ok result) :
    TransferredOnce ctx fromBalance toBalance ids result.journalEntry result.fromBalance result.toBalance
      result.appliedJournalEntryIds := by
  unfold applyCashTransferOnce at h
  obtain ⟨_, hinputs, h⟩ := bind_eq_ok.mp h
  obtain ⟨journalEntryId, hid, h⟩ := bind_eq_ok.mp h
  split_ifs at h with hdup
  · obtain rfl := pure_eq_ok.mp h
    exact .duplicate
  simp only [bind_eq_ok, pure_eq_ok] at h
  obtain ⟨entry, hentry, fromCode, hfromCode, outbound, houtbound, toCode, htoCode, inbound, hinbound, rfl⟩ := h
  have hdistinct : fromBalance.balanceId ≠ toBalance.balanceId := by
    simp only [validateTransferInputs, bind_eq_ok, raiseIf_eq_ok, exists_const] at hinputs
    obtain ⟨_, -, hdistinct, -⟩ := hinputs
    exact hdistinct
  rw [cashBalanceAccountCode_val hfromCode] at houtbound
  rw [cashBalanceAccountCode_val htoCode] at hinbound
  simp only [buildCashTransferJournalEntry, bind_eq_ok, AccountingJournalEntry.validate_eq_ok] at hentry
  obtain ⟨_, -, journalEntryId', hid', fromCode', hfromCode', toCode', htoCode', hvalid, rfl⟩ := hentry
  obtain rfl : journalEntryId = journalEntryId' := Except.ok.inj (hid.symm.trans hid')
  exact .booked hdistinct hvalid hdup (transferLines_ne_cash hfromCode' htoCode') houtbound hinbound

end Transfers
end Pmrp
