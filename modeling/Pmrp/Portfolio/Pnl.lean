import Mathlib.Data.List.Sort
import Pmrp.Portfolio.Journal

/-!
# `Portfolio.Pnl` — attribution of profit over a period

`build_journal_pnl_attribution` of `portfolio/pnl.py`: the sums of the journal lines by account, checked
and assembled into a `PnlAttribution`.
-/

namespace Pmrp

def journalPnlAttributionVersion : String := "journal_pnl_attribution_v1"

namespace Pnl

variable (ctx : DecimalContext) (sha : Sha256)

/-- `_sum_account`: the amounts of one account and currency, added in journal order. -/
def sumAccount (journalEntries : List AccountingJournalEntry) (accountCode : String)
    (currency : Currency) : ℚ :=
  ctx.sum ((journalEntries.flatMap fun entry => entry.lines.filter fun line =>
    line.accountCode = accountCode ∧ line.currency = currency).map JournalLine.amount)

def validateUniqueJournalEntryIds (entries : List AccountingJournalEntry) : Result Unit :=
  raiseIf (¬(entries.map AccountingJournalEntry.journalEntryId).Nodup)
    (portfolioProjectionError "journal entries must not contain duplicate journal_entry_id values")

def validateJournalPeriod (entries : List AccountingJournalEntry) (startsAt endsAt : UTCDateTime) :
    Result Unit := do
  raiseIf (endsAt ≤ startsAt) (portfolioProjectionError "ends_at must be after starts_at")
  raiseIf (∃ entry ∈ entries, entry.occurredAt < startsAt ∨ endsAt ≤ entry.occurredAt)
    (portfolioProjectionError "journal entry occurred_at must fall within [starts_at, ends_at)")

def validateMoney (value : Money) (currency : Currency) (fieldName : String) : Result Unit :=
  raiseIf (value.currency ≠ currency)
    (portfolioProjectionError s!"{fieldName} currency must match attribution currency")

def validateNonnegative (value : Money) (fieldName : String) : Result Unit :=
  raiseIf (value.amount < 0) (portfolioProjectionError s!"{fieldName} amount must be nonnegative")

def validateMoneyOrDefault (value : Option Money) (currency : Currency) (fieldName : String)
    (default : Money) : Result Money :=
  match value with
  | none => .ok default
  | some value => do
      validateMoney value currency fieldName
      pure value

def validateOptionalMoney (value : Option Money) (currency : Currency) (fieldName : String) :
    Result (Option Money) :=
  match value with
  | none => .ok none
  | some value => do
      validateMoney value currency fieldName
      pure (some value)

def combineOptionalMoney (first : Money) (second : Option Money) : Option Money :=
  match second with
  | none => if first.amount = 0 then none else some first
  | some second => some ⟨ctx.add first.amount second.amount, first.currency⟩

def deriveJournalPnlAttributionId (journalEntries : List AccountingJournalEntry) (currency : String)
    (startsAt endsAt : UTCDateTime) (strategyId : Option StrategyId) (marketId : Option MarketId)
    (exchange : Option String) : Result String := do
  let validatedCurrency ← validateCurrency currency
  let journalEntryIds :=
    (journalEntries.map AccountingJournalEntry.journalEntryId).insertionSort (· ≤ ·)
  pure <| "pnl_" ++ shortDigest sha (.mapping [
    ("calculation_version", .str journalPnlAttributionVersion),
    ("currency", .str validatedCurrency.code),
    ("ends_at", .datetime endsAt),
    ("exchange", .optionalStr exchange),
    ("journal_entry_ids", .list (journalEntryIds.map .str)),
    ("market_id", .optionalStr (marketId.map Identifier.val)),
    ("starts_at", .datetime startsAt),
    ("strategy_id", .optionalStr (strategyId.map Identifier.val))])

/-- `attribution_id or derive_…`: an empty text is replaced too. -/
def resolveAttributionId (attributionId : Option String) (derived : Result String) : Result String :=
  match attributionId with
  | none => derived
  | some i => if i = "" then derived else .ok i

def buildJournalPnlAttribution (journalEntries : List AccountingJournalEntry) (currency : String)
    (startsAt endsAt : UTCDateTime) (attributionId : Option String := none)
    (strategyId : Option StrategyId := none) (marketId : Option MarketId := none)
    (exchange : Option String := none) (unrealizedPnlChange slippage settlementPnl : Option Money := none) :
    Result PnlAttribution := do
  let validatedCurrency ← validateCurrency currency
  validateUniqueJournalEntryIds journalEntries
  validateJournalPeriod journalEntries startsAt endsAt
  let realizedTradingPnl : Money :=
    ⟨ctx.neg (sumAccount ctx journalEntries accountRealizedTradingPnl validatedCurrency), validatedCurrency⟩
  let fees : Money := ⟨sumAccount ctx journalEntries accountFeesPaid validatedCurrency, validatedCurrency⟩
  let rebates : Money :=
    ⟨ctx.neg (sumAccount ctx journalEntries accountRebatesReceived validatedCurrency), validatedCurrency⟩
  validateNonnegative fees "fees"
  validateNonnegative rebates "rebates"
  let unrealized ← validateMoneyOrDefault unrealizedPnlChange validatedCurrency "unrealized_pnl_change"
    (zeroMoney validatedCurrency)
  let validatedSlippage ← validateOptionalMoney slippage validatedCurrency "slippage"
  let validatedSettlement ← validateOptionalMoney settlementPnl validatedCurrency "settlement_pnl"
  let journalSettlementPnl : Money :=
    ⟨ctx.neg (sumAccount ctx journalEntries accountSettlementPnl validatedCurrency), validatedCurrency⟩
  let combinedSettlementPnl := combineOptionalMoney ctx journalSettlementPnl validatedSettlement
  let resolvedId ← resolveAttributionId attributionId <|
    deriveJournalPnlAttributionId sha journalEntries validatedCurrency.code startsAt endsAt strategyId
      marketId exchange
  PnlAttribution.validate ctx {
    attributionId := resolvedId
    strategyId := strategyId
    marketId := marketId
    exchange := exchange
    startsAt := startsAt
    endsAt := endsAt
    realizedTradingPnl := realizedTradingPnl
    unrealizedPnlChange := unrealized
    fees := fees
    rebates := rebates
    slippage := validatedSlippage
    settlementPnl := combinedSettlementPnl
    totalPnl := ⟨PnlAttribution.componentSum ctx realizedTradingPnl.amount unrealized.amount fees.amount
      rebates.amount (optionalAmount validatedSlippage) (optionalAmount combinedSettlementPnl),
      validatedCurrency⟩
    calculationVersion := journalPnlAttributionVersion }

/-! ## When the attribution is built -/

variable {ctx sha}

/-- The attribution of the journals themselves: no unrealized change, slippage or settlement profit is
    passed in, and the identifier is derived. -/
def journalAttribution (ctx : DecimalContext) (attributionId : String)
    (journalEntries : List AccountingJournalEntry) (currency : Currency) (startsAt endsAt : UTCDateTime)
    (strategyId : Option StrategyId) (marketId : Option MarketId) (exchange : Option String) :
    PnlAttribution :=
  let realized := ctx.neg (sumAccount ctx journalEntries accountRealizedTradingPnl currency)
  let fees := sumAccount ctx journalEntries accountFeesPaid currency
  let rebates := ctx.neg (sumAccount ctx journalEntries accountRebatesReceived currency)
  let settlement := combineOptionalMoney ctx
    ⟨ctx.neg (sumAccount ctx journalEntries accountSettlementPnl currency), currency⟩ none
  { attributionId, strategyId, marketId, exchange, startsAt, endsAt,
    realizedTradingPnl := ⟨realized, currency⟩
    unrealizedPnlChange := zeroMoney currency
    fees := ⟨fees, currency⟩
    rebates := ⟨rebates, currency⟩
    slippage := none
    settlementPnl := settlement
    totalPnl := ⟨PnlAttribution.componentSum ctx realized 0 fees rebates 0 (optionalAmount settlement),
      currency⟩
    calculationVersion := journalPnlAttributionVersion }

section Build

variable {journalEntries : List AccountingJournalEntry} {currency : Currency}
  {startsAt endsAt : UTCDateTime} {strategyId : Option StrategyId} {marketId : Option MarketId}
  {exchange : Option String}

variable (strategyId marketId) in
theorem journalAttribution_valid {attributionId : String}
    (hid : TextWithin portfolioIdMaxLength attributionId) (hexchange : ∀ s ∈ exchange, TextWithin 64 s)
    (hperiod : startsAt < endsAt) (hfees : 0 ≤ sumAccount ctx journalEntries accountFeesPaid currency)
    (hrebates : 0 ≤ ctx.neg (sumAccount ctx journalEntries accountRebatesReceived currency)) :
    (journalAttribution ctx attributionId journalEntries currency startsAt endsAt strategyId marketId
      exchange).Valid ctx where
  attributionId_within := hid
  exchange_within := hexchange
  calculationVersion_within := by show TextWithin 64 journalPnlAttributionVersion; decide
  starts_lt_ends := hperiod
  one_currency := by
    intro m hm
    show m.currency = currency
    simp only [PnlAttribution.moneyComponents, journalAttribution, combineOptionalMoney] at hm
    split_ifs at hm with hzero
    · simp only [Option.toList_none, List.append_nil, List.cons_append, List.nil_append, List.mem_cons,
        List.not_mem_nil, or_false] at hm
      rcases hm with rfl | rfl | rfl | rfl | rfl <;> rfl
    · simp only [Option.toList_none, Option.toList_some, List.append_nil, List.cons_append, List.nil_append,
        List.mem_cons, List.not_mem_nil, or_false] at hm
      rcases hm with rfl | rfl | rfl | rfl | rfl | rfl <;> rfl
  fees_nonneg := hfees
  rebates_nonneg := hrebates
  total_eq := rfl

variable (ctx sha currency strategyId marketId) in
/-- **The attribution is built** when the entries are distinct, fall in the period and leave charges that
    are not negative. -/
theorem buildJournalPnlAttribution_ok (hexchange : ∀ s ∈ exchange, TextWithin 64 s)
    (hnodup : (journalEntries.map AccountingJournalEntry.journalEntryId).Nodup)
    (hperiod : startsAt < endsAt)
    (hcovers : ∀ e ∈ journalEntries, startsAt ≤ e.occurredAt ∧ e.occurredAt < endsAt)
    (hfees : 0 ≤ sumAccount ctx journalEntries accountFeesPaid currency)
    (hrebates : 0 ≤ ctx.neg (sumAccount ctx journalEntries accountRebatesReceived currency)) :
    ∃ attributionId, buildJournalPnlAttribution ctx sha journalEntries currency.code startsAt endsAt none
      strategyId marketId exchange = .ok (journalAttribution ctx attributionId journalEntries currency
        startsAt endsAt strategyId marketId exchange) := by
  have hcover : ¬∃ e ∈ journalEntries, e.occurredAt < startsAt ∨ endsAt ≤ e.occurredAt := by
    rintro ⟨e, he, hlow | hhigh⟩
    · exact absurd (hcovers e he).1 (not_le.mpr hlow)
    · exact absurd (hcovers e he).2 (not_lt.mpr hhigh)
  obtain ⟨i, hi, hid⟩ : ∃ i, deriveJournalPnlAttributionId sha journalEntries currency.code startsAt endsAt
      strategyId marketId exchange = .ok i ∧ TextWithin portfolioIdMaxLength i := by
    rw [deriveJournalPnlAttributionId, validateCurrency_code]
    refine ⟨_, rfl, ?_⟩
    have hpre : "pnl_".length = 4 := rfl
    rw [TextWithin, String.length_append, length_shortDigest, hpre]; decide
  have hvalid := journalAttribution_valid strategyId marketId hid hexchange
    hperiod hfees hrebates
  refine ⟨i, ?_⟩
  simp only [buildJournalPnlAttribution, validateCurrency_code, ok_bind, validateUniqueJournalEntryIds,
    validateJournalPeriod, validateNonnegative, validateMoneyOrDefault, validateOptionalMoney,
    resolveAttributionId, hi, bind_eq_ok, raiseIf_eq_ok, exists_const, not_not, not_le, not_lt]
  exact ⟨hnodup, ⟨hperiod, hcover⟩, hfees, hrebates, hvalid.validate⟩

end Build

end Pnl
end Pmrp
