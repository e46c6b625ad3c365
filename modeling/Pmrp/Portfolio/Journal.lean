import Pmrp.Portfolio.Positions

/-!
# `Portfolio.Journal` — the accounting entry of one fill

`portfolio/journal.py`. `buildFillJournalEntry` checks the projection against the fill and books it as
lines that must sum to zero. `validateProjectionForFill_eq_ok` reads the check as a proposition, and
`fillJournalLines_total` gives the sum the validator computes.
-/

namespace Pmrp

def accountCash : String := "cash"
def accountPositionCost : String := "position_cost"
def accountRealizedTradingPnl : String := "realized_trading_pnl"
def accountSettlementPnl : String := "settlement_pnl"
def accountFeesPaid : String := "fees_paid"
def accountRebatesReceived : String := "rebates_received"

theorem accountCash_within : TextWithin portfolioIdMaxLength accountCash := by decide
theorem accountPositionCost_within : TextWithin portfolioIdMaxLength accountPositionCost := by decide
theorem accountRealizedTradingPnl_within :
    TextWithin portfolioIdMaxLength accountRealizedTradingPnl := by decide
theorem accountSettlementPnl_within : TextWithin portfolioIdMaxLength accountSettlementPnl := by decide
theorem accountFeesPaid_within : TextWithin portfolioIdMaxLength accountFeesPaid := by decide
theorem accountRebatesReceived_within :
    TextWithin portfolioIdMaxLength accountRebatesReceived := by decide
def fillReferenceType : String := "fill"

namespace Journal

variable (ctx : DecimalContext) (sha : Sha256)

def fillDirection (fill : Fill) : ℚ := if fill.side = .buy then 1 else -1

def fillMoney (money : Option Money) (currency : Currency) : Money := money.getD (zeroMoney currency)

def validateMoney (money : Money) (currency : Currency) (fieldName : String) : Result Unit :=
  raiseIf (money.currency ≠ currency)
    (portfolioProjectionError s!"projection {fieldName} currency does not match trade_notional currency")

def validateNonnegativeMoney (money : Money) (fieldName : String) : Result Unit :=
  raiseIf (money.amount < 0)
    (portfolioProjectionError s!"projection {fieldName} amount must be nonnegative")

/-- Realized profit as the journal expects it: closed trade value less closed cost, signed. -/
def expectedRealized (fill : Fill) (projection : PositionProjectionResult) : ℚ :=
  ctx.mul (ctx.sub projection.closedTradeValue.amount projection.closedCostBasis.amount)
    (ctx.neg (fillDirection fill))

def validateProjectionForFill (fill : Fill) (projection : PositionProjectionResult) : Result Unit := do
  let expectedTradeNotional := ctx.mul fill.quantity fill.price
  let currency := projection.tradeNotional.currency
  raiseIf (projection.position.exchange ≠ fill.exchange)
    (portfolioProjectionError "projection position exchange does not match fill exchange")
  raiseIf (projection.position.accountId ≠ fill.accountId)
    (portfolioProjectionError "projection position account_id does not match fill account_id")
  raiseIf (projection.position.marketId ≠ fill.marketId)
    (portfolioProjectionError "projection position market_id does not match fill market_id")
  raiseIf (projection.position.contractId ≠ fill.contractId)
    (portfolioProjectionError "projection position contract_id does not match fill contract_id")
  raiseIf (projection.position.outcomeId ≠ fill.outcomeId)
    (portfolioProjectionError "projection position outcome_id does not match fill outcome_id")
  validateMoney projection.realizedTradingPnl currency "realized_trading_pnl"
  validateMoney projection.fee currency "fee"
  validateMoney projection.rebate currency "rebate"
  validateMoney projection.closedCostBasis currency "closed_cost_basis"
  validateMoney projection.closedTradeValue currency "closed_trade_value"
  validateMoney projection.openedNotional currency "opened_notional"
  validateNonnegativeMoney projection.tradeNotional "trade_notional"
  validateNonnegativeMoney projection.fee "fee"
  validateNonnegativeMoney projection.rebate "rebate"
  validateNonnegativeMoney projection.closedCostBasis "closed_cost_basis"
  validateNonnegativeMoney projection.closedTradeValue "closed_trade_value"
  validateNonnegativeMoney projection.openedNotional "opened_notional"
  raiseIf (projection.tradeNotional.amount ≠ expectedTradeNotional)
    (portfolioProjectionError "projection trade_notional does not match fill notional")
  raiseIf (projection.fee ≠ fillMoney fill.fee currency)
    (portfolioProjectionError "projection fee does not match fill fee")
  raiseIf (projection.rebate ≠ fillMoney fill.rebate currency)
    (portfolioProjectionError "projection rebate does not match fill rebate")
  raiseIf (projection.closedQuantity < 0 ∨ projection.openedQuantity < 0)
    (portfolioProjectionError "projection closed and opened quantities must be nonnegative")
  raiseIf (ctx.add projection.closedQuantity projection.openedQuantity ≠ fill.quantity)
    (portfolioProjectionError "projection closed and opened quantities must equal fill quantity")
  raiseIf (projection.closedTradeValue.amount ≠ ctx.mul projection.closedQuantity fill.price)
    (portfolioProjectionError "projection closed_trade_value does not match fill price")
  raiseIf (projection.openedNotional.amount ≠ ctx.mul projection.openedQuantity fill.price)
    (portfolioProjectionError "projection opened_notional does not match fill price")
  raiseIf (projection.realizedTradingPnl.amount ≠ expectedRealized ctx fill projection)
    (portfolioProjectionError "projection realized_trading_pnl does not match closed cost basis")

def deriveFillJournalEntryId (fill : Fill) : String :=
  "journal_fill_" ++ shortDigest sha (.mapping [
    ("fill_id", .str fill.fillId.val),
    ("schema", .str "pmrp.fill_journal_entry.v1")])

/-! ## The lines -/

/-- A line of the fill entry; the account codes and descriptions are the literals below. -/
def line (accountCode : String) (amount : ℚ) (currency : Currency) (description : String)
    (accountCode_within : TextWithin portfolioIdMaxLength accountCode := by
      with_reducible first
        | exact accountCash_within | exact accountPositionCost_within
        | exact accountRealizedTradingPnl_within | exact accountSettlementPnl_within
        | exact accountFeesPaid_within | exact accountRebatesReceived_within)
    (description_within : TextWithin 512 description := by decide) : JournalLine where
  accountCode := accountCode
  amount := amount
  currency := currency
  description := some description
  accountCode_within := accountCode_within
  description_within := by rintro s ⟨⟩; exact description_within

def fillJournalLines (fill : Fill) (projection : PositionProjectionResult) : List JournalLine :=
  let currency := projection.tradeNotional.currency
  let fillDirection := fillDirection fill
  let closedPositionDirection := ctx.neg fillDirection
  [line accountCash (ctx.mul (ctx.neg fillDirection) projection.tradeNotional.amount) currency
    "Trade cash movement."]
  ++ (if 0 < projection.closedQuantity then
      [line accountPositionCost
          (ctx.neg (ctx.mul closedPositionDirection projection.closedCostBasis.amount)) currency
          "Closed position cost basis.",
        line accountRealizedTradingPnl (ctx.neg projection.realizedTradingPnl.amount) currency
          "Realized trading PnL offset."]
    else [])
  ++ (if 0 < projection.openedQuantity then
      [line accountPositionCost (ctx.mul fillDirection projection.openedNotional.amount) currency
        "Opened position notional."]
    else [])
  ++ (if 0 < projection.fee.amount then
      [line accountCash (ctx.neg projection.fee.amount) currency "Fee cash movement.",
        line accountFeesPaid projection.fee.amount currency "Fee expense."]
    else [])
  ++ (if 0 < projection.rebate.amount then
      [line accountCash projection.rebate.amount currency "Rebate cash movement.",
        line accountRebatesReceived (ctx.neg projection.rebate.amount) currency "Rebate income."]
    else [])

def buildFillJournalEntry (fill : Fill) (projection : PositionProjectionResult)
    (sourceEventId : EventId) (createdAt : UTCDateTime) : Result AccountingJournalEntry := do
  validateProjectionForFill ctx fill projection
  AccountingJournalEntry.validate ctx {
    journalEntryId := deriveFillJournalEntryId sha fill
    occurredAt := fill.exchangeOccurredAt
    sourceEventId := sourceEventId
    referenceType := fillReferenceType
    referenceId := fill.fillId.val
    lines := fillJournalLines ctx fill projection
    description := s!"Fill accounting for {fill.fillId.val}."
    createdAt := createdAt }

/-! ## When the entry is built -/

variable {ctx sha}

theorem fillDirection_cases (fill : Fill) : fillDirection fill = 1 ∨ fillDirection fill = -1 := by
  unfold fillDirection; split_ifs
  · exact Or.inl rfl
  · exact Or.inr rfl

variable (ctx) in
/-- Rounding commutes with the direction of the fill. -/
theorem round_fillDirection_mul (fill : Fill) (x : ℚ) :
    ctx.round (fillDirection fill * x) = fillDirection fill * ctx.round x := by
  rcases fillDirection_cases fill with h | h <;> rw [h]
  · rw [one_mul, one_mul]
  · rw [neg_one_mul, neg_one_mul, ctx.round_neg]

theorem neg_fillDirection (fill : Fill) : ctx.neg (fillDirection fill) = -fillDirection fill := by
  have h := round_fillDirection_mul ctx fill 1
  rw [mul_one, ctx.round_one, mul_one] at h
  rw [DecimalContext.neg, ctx.round_neg, h]

/-- The amounts on the lines of the trade itself, charges apart. -/
def tradeAmounts (ctx : DecimalContext) (fill : Fill) (r : PositionProjectionResult) : List ℚ :=
  [ctx.mul (ctx.neg (fillDirection fill)) r.tradeNotional.amount]
  ++ (if 0 < r.closedQuantity then
      [ctx.neg (ctx.mul (ctx.neg (fillDirection fill)) r.closedCostBasis.amount),
        ctx.neg r.realizedTradingPnl.amount]
    else [])
  ++ (if 0 < r.openedQuantity then [ctx.mul (fillDirection fill) r.openedNotional.amount] else [])

/-- The amounts on the lines of the charges. -/
def chargeAmounts (ctx : DecimalContext) (fee rebate : ℚ) : List ℚ :=
  (if 0 < fee then [ctx.neg fee, fee] else []) ++ (if 0 < rebate then [rebate, ctx.neg rebate] else [])

theorem fillJournalLines_amounts (fill : Fill) (r : PositionProjectionResult) :
    (fillJournalLines ctx fill r).map JournalLine.amount
      = tradeAmounts ctx fill r ++ chargeAmounts ctx r.fee.amount r.rebate.amount := by
  simp only [fillJournalLines, tradeAmounts, chargeAmounts, List.map_append, List.append_assoc]
  split_ifs <;> rfl

theorem fillJournalLines_currency (fill : Fill) (r : PositionProjectionResult) :
    ∀ l ∈ fillJournalLines ctx fill r, l.currency = r.tradeNotional.currency := by
  intro l hl
  simp only [fillJournalLines, List.mem_append, List.mem_ite_nil_right, List.mem_cons, List.not_mem_nil,
    or_false] at hl
  rcases hl with (((rfl | ⟨_, rfl | rfl⟩) | ⟨_, rfl⟩) | ⟨_, rfl | rfl⟩) | ⟨_, rfl | rfl⟩ <;> rfl

/-- Booking the charges adds nothing to a total of zero, as long as the fee needs no rounding. -/
theorem chargeAmounts_total {fee rebate : ℚ} (hfee : ctx.Fits fee) :
    (chargeAmounts ctx fee rebate).foldl ctx.add 0 = 0 := by
  have hf : [ctx.neg fee, fee].foldl ctx.add 0 = 0 := by
    simp [DecimalContext.add, DecimalContext.neg, ctx.round_neg, show ctx.round fee = fee from hfee]
  have hr : [rebate, ctx.neg rebate].foldl ctx.add 0 = 0 := by
    simp [DecimalContext.add, DecimalContext.neg, ctx.round_neg]
  rw [chargeAmounts, List.foldl_append]
  split_ifs
  · rw [hf, hr]
  · rw [hf, List.foldl_nil]
  · rw [List.foldl_nil, hr]
  · rfl

/-- A projection of a fill that passes the journal's checks and whose trade lines cancel. -/
structure Bookable (ctx : DecimalContext) (c : Currency) (fill : Fill) (r : PositionProjectionResult) :
    Prop where
  identity : Positions.positionIdentity r.position = Positions.fillIdentity fill
  tradeNotional : r.tradeNotional = ⟨ctx.mul fill.quantity fill.price, c⟩
  fee : r.fee = fill.fee.getD (zeroMoney c)
  rebate : r.rebate = fill.rebate.getD (zeroMoney c)
  realized_currency : r.realizedTradingPnl.currency = c
  cost_currency : r.closedCostBasis.currency = c
  closedTradeValue : r.closedTradeValue = ⟨ctx.mul r.closedQuantity fill.price, c⟩
  openedNotional : r.openedNotional = ⟨ctx.mul r.openedQuantity fill.price, c⟩
  closed_nonneg : 0 ≤ r.closedQuantity
  opened_nonneg : 0 ≤ r.openedQuantity
  cost_nonneg : 0 ≤ r.closedCostBasis.amount
  quantities : ctx.add r.closedQuantity r.openedQuantity = fill.quantity
  realized : r.realizedTradingPnl.amount = expectedRealized ctx fill r
  balanced : ctx.sum (tradeAmounts ctx fill r) = 0

section Build

variable {c : Currency} {fill : Fill} {r : PositionProjectionResult}

theorem validateProjectionForFill_ok (h : Bookable ctx c fill r) (hfee : Positions.ChargeIn c fill.fee)
    (hrebate : Positions.ChargeIn c fill.rebate) : validateProjectionForFill ctx fill r = .ok () := by
  have hk := h.identity
  simp only [Positions.positionIdentity, Positions.fillIdentity, Positions.PositionIdentity.mk.injEq] at hk
  obtain ⟨h1, h2, h3, h4, h5⟩ := hk
  have hc : r.tradeNotional.currency = c := by rw [h.tradeNotional]
  have hmul : ∀ {x : ℚ}, 0 ≤ x → 0 ≤ ctx.mul x fill.price := fun hx =>
    DecimalContext.round_nonneg (mul_nonneg hx fill.price_nonneg)
  simp only [validateProjectionForFill, validateMoney, validateNonnegativeMoney, bind_eq_ok, raiseIf_eq_ok,
    exists_const, not_lt, not_or, not_not, hc, fillMoney]
  exact ⟨h1, h2, h3, h4, h5, h.realized_currency, by rw [h.fee]; exact hfee.getD.1,
    by rw [h.rebate]; exact hrebate.getD.1, h.cost_currency, by rw [h.closedTradeValue],
    by rw [h.openedNotional], by rw [h.tradeNotional]; exact hmul fill.quantity_pos.le,
    by rw [h.fee]; exact hfee.getD.2.1, by rw [h.rebate]; exact hrebate.getD.2.1, h.cost_nonneg,
    by rw [h.closedTradeValue]; exact hmul h.closed_nonneg,
    by rw [h.openedNotional]; exact hmul h.opened_nonneg, by rw [h.tradeNotional], h.fee, h.rebate,
    ⟨h.closed_nonneg, h.opened_nonneg⟩, h.quantities, by rw [h.closedTradeValue],
    by rw [h.openedNotional], h.realized⟩

variable (sha) in
/-- **The journal of a bookable fill is built.** -/
theorem buildFillJournalEntry_ok (h : Bookable ctx c fill r) (hfee : Positions.ChargeIn c fill.fee)
    (hrebate : Positions.ChargeIn c fill.rebate) (hfits : ctx.Fits (optionalAmount fill.fee))
    (sourceEventId : EventId) {createdAt : UTCDateTime} (hcreated : fill.exchangeOccurredAt ≤ createdAt) :
    ∃ entry, buildFillJournalEntry ctx sha fill r sourceEventId createdAt = .ok entry ∧
      entry.Valid ctx ∧ entry.journalEntryId = deriveFillJournalEntryId sha fill ∧
      entry.occurredAt = fill.exchangeOccurredAt ∧ entry.lines = fillJournalLines ctx fill r := by
  have hvalid : AccountingJournalEntry.Valid ctx {
      journalEntryId := deriveFillJournalEntryId sha fill
      occurredAt := fill.exchangeOccurredAt
      sourceEventId := sourceEventId
      referenceType := fillReferenceType
      referenceId := fill.fillId.val
      lines := fillJournalLines ctx fill r
      description := s!"Fill accounting for {fill.fillId.val}."
      createdAt := createdAt } :=
    { journalEntryId_within := by
        have hpre : "journal_fill_".length = 13 := rfl
        rw [deriveFillJournalEntryId, TextWithin, String.length_append, length_shortDigest, hpre]
        decide
      referenceType_within := by show TextWithin 64 fillReferenceType; decide
      referenceId_within := fill.fillId.val_within
      description_within := by
        have h128 := fill.fillId.val_within.2
        have hpre : "Fill accounting for ".length = 20 := rfl
        have hdot : ".".length = 1 := rfl
        simp only [TextWithin, portfolioTextMaxLength, String.length_append, toString, hpre, hdot]
        omega
      lines_ne_nil := by simp [fillJournalLines]
      occurred_le_created := hcreated
      balanced := fun l hl => by
        rw [fillJournalLines_currency fill r l hl,
          AccountingJournalEntry.totalForCurrency_eq (fillJournalLines_currency fill r),
          fillJournalLines_amounts, DecimalContext.sum_append, h.balanced]
        refine chargeAmounts_total ?_
        rw [h.fee, hfee.getD.2.2]; exact hfits }
  refine ⟨_, ?_, hvalid, rfl, rfl, rfl⟩
  rw [buildFillJournalEntry, validateProjectionForFill_ok h hfee hrebate, ok_bind]
  exact hvalid.validate

end Build

end Journal
end Pmrp
