import Pmrp.Portfolio.Correctness.Ledger
import Pmrp.Portfolio.Fees
import Pmrp.Portfolio.Settlement
import Pmrp.Portfolio.Transfers

/-!
# `Portfolio.Correctness.AttributionPeriods` — attributions of a period and of its parts

The attribution adds up journal lines by account, so in exact arithmetic it is additive over a split of the entries
and blind to their order. What could still refuse a part of a period is a negative sum of fees or rebates: every
entry of the package books fees as positive and rebates as negative lines, so each part of the entries is accepted.

- **Signs.** `Built` lists the builders of the package, `Built.signed` has the signs of their lines.
- **Sums.** `sumAccount_perm` and `sumAccount_split`.
- **Attributions.** `buildJournalPnlAttribution_perm`, and `attribution_of_parts`.
-/

namespace Pmrp
namespace Pnl

open DecimalContext

variable {sha : Sha256}

/-! ## The signs of charges -/

/-- The entries that the operations of the portfolio build. -/
inductive Built (ctx : DecimalContext) (sha : Sha256) : AccountingJournalEntry → Prop where
  | fill {fill : Fill} {projection : PositionProjectionResult} {sourceEventId : EventId} {createdAt : UTCDateTime}
      {entry : AccountingJournalEntry}
      (h : Journal.buildFillJournalEntry ctx sha fill projection sourceEventId createdAt = .ok entry) :
      Built ctx sha entry
  | fee {amount : Money} {feeId : String} {sourceEventId : EventId} {occurredAt createdAt : UTCDateTime}
      {entry : AccountingJournalEntry}
      (h : Fees.buildFeeJournalEntry ctx sha amount feeId sourceEventId occurredAt createdAt = .ok entry) :
      Built ctx sha entry
  | rebate {amount : Money} {rebateId : String} {sourceEventId : EventId} {occurredAt createdAt : UTCDateTime}
      {entry : AccountingJournalEntry}
      (h : Fees.buildRebateJournalEntry ctx sha amount rebateId sourceEventId occurredAt createdAt = .ok entry) :
      Built ctx sha entry
  | cashTransfer {fromBalance toBalance : CashBalance} {amount : Money} {transferId : String}
      {sourceEventId : EventId} {occurredAt createdAt : UTCDateTime} {entry : AccountingJournalEntry}
      (h : Transfers.buildCashTransferJournalEntry ctx sha fromBalance toBalance amount transferId sourceEventId
        occurredAt createdAt = .ok entry) :
      Built ctx sha entry
  | settlement {position : Position} {settlement : Settlement} {currency : String} {sourceEventId : EventId}
      {createdAt : UTCDateTime} {entry : AccountingJournalEntry}
      (h : Settlements.buildSettlementJournalEntry ctx sha position settlement currency sourceEventId createdAt
        = .ok entry) :
      Built ctx sha entry
  | settlementCorrection {originalPosition : Position} {previousSettlement correctedSettlement : Settlement}
      {currency : String} {sourceEventId : EventId} {createdAt : UTCDateTime} {entry : AccountingJournalEntry}
      (h : Settlements.buildSettlementCorrectionJournalEntry ctx sha originalPosition previousSettlement
        correctedSettlement currency sourceEventId createdAt = .ok entry) :
      Built ctx sha entry
  | balanceCorrection {balance : CashBalance} {observedBalance : ObservedBalance} {referenceId : String}
      {sourceEventId : EventId} {createdAt : UTCDateTime} {entry : AccountingJournalEntry}
      (h : Balances.buildBalanceCorrectionJournalEntry ctx sha balance observedBalance referenceId sourceEventId
        createdAt = .ok entry) :
      Built ctx sha entry

/-- Fees are never booked below zero and rebates never above. -/
def Signed (l : JournalLine) : Prop :=
  (l.accountCode = accountFeesPaid → 0 ≤ l.amount) ∧ (l.accountCode = accountRebatesReceived → l.amount ≤ 0)

/-- An account of neither fees nor rebates. -/
def Free (accountCode : String) : Prop := accountCode ≠ accountFeesPaid ∧ accountCode ≠ accountRebatesReceived

theorem Free.signed {l : JournalLine} (h : Free l.accountCode) : Signed l :=
  ⟨fun hfees => absurd hfees h.1, fun hrebates => absurd hrebates h.2⟩

theorem free_cash : Free accountCash := ⟨by decide, by decide⟩
theorem free_positionCost : Free accountPositionCost := ⟨by decide, by decide⟩
theorem free_realizedTradingPnl : Free accountRealizedTradingPnl := ⟨by decide, by decide⟩
theorem free_settlementPnl : Free accountSettlementPnl := ⟨by decide, by decide⟩
theorem free_cashTransfer : Free accountCashTransfer := ⟨by decide, by decide⟩
theorem free_balanceCorrection : Free accountBalanceCorrection := ⟨by decide, by decide⟩
theorem fees_ne_rebates : accountFeesPaid ≠ accountRebatesReceived := by decide

/-- The account of a balance is neither: its fifth character is a colon. -/
theorem free_accountCodeOf (balanceId : String) : Free (Transfers.accountCodeOf balanceId) := by
  have hcolon : (Transfers.accountCodeOf balanceId).toList[4]? = some ':' := by
    rw [Transfers.accountCodeOf, String.toList_append, String.toList_append]
    rfl
  constructor
  · intro h
    rw [h] at hcolon
    exact absurd hcolon (by decide)
  · intro h
    rw [h] at hcolon
    exact absurd hcolon (by decide)

theorem fillJournalLines_signed (fill : Fill) (projection : PositionProjectionResult) :
    ∀ l ∈ Journal.fillJournalLines exact fill projection, Signed l := by
  intro l hl
  simp only [Journal.fillJournalLines, List.mem_append, List.mem_ite_nil_right, List.mem_cons, List.not_mem_nil,
    or_false] at hl
  rcases hl with (((rfl | ⟨-, rfl | rfl⟩) | ⟨-, rfl⟩) | ⟨hfee, rfl | rfl⟩) | ⟨hrebate, rfl | rfl⟩
  · exact Free.signed free_cash
  · exact Free.signed free_positionCost
  · exact Free.signed free_realizedTradingPnl
  · exact Free.signed free_positionCost
  · exact Free.signed free_cash
  · exact ⟨fun _ => hfee.le, fun h => absurd h fees_ne_rebates⟩
  · exact Free.signed free_cash
  · exact ⟨fun h => absurd h.symm fees_ne_rebates, fun _ => neg_nonpos.mpr hrebate.le⟩

/-- Both lines of a charge: the cash line is free, the offset has the sign of its account. -/
theorem charge_signed {kind : Fees.ChargeKind} {amount : Money} {referenceId : String} {sourceEventId : EventId}
    {occurredAt createdAt : UTCDateTime} {entry : AccountingJournalEntry}
    (hoffset : 0 < amount.amount → (kind.offsetAccount = accountFeesPaid → 0 ≤ kind.offsetAmount exact amount.amount) ∧
      (kind.offsetAccount = accountRebatesReceived → kind.offsetAmount exact amount.amount ≤ 0))
    (h : kind.buildJournalEntry exact sha amount referenceId sourceEventId occurredAt createdAt = .ok entry) :
    ∀ l ∈ entry.lines, Signed l := by
  have hpositive := (Fees.ChargeKind.buildJournalEntry_eq_ok h).1
  simp only [Fees.ChargeKind.buildJournalEntry, bind_eq_ok, AccountingJournalEntry.validate_eq_ok] at h
  obtain ⟨_, -, _, -, _, -, -, rfl⟩ := h
  intro l hl
  rcases List.mem_pair.mp hl with rfl | rfl
  · exact Free.signed free_cash
  · exact hoffset hpositive

/-- A settlement and its correction book cash, cost and settlement profit. -/
theorem settled_signed {cash cost pnl : ℚ} {c1 c2 c3 : Currency} {d1 d2 d3 : String}
    {h1 : TextWithin 512 d1} {h2 : TextWithin 512 d2} {h3 : TextWithin 512 d3} :
    ∀ l ∈ [Journal.line accountCash cash c1 d1 accountCash_within h1,
      Journal.line accountPositionCost cost c2 d2 accountPositionCost_within h2,
      Journal.line accountSettlementPnl pnl c3 d3 accountSettlementPnl_within h3], Signed l := by
  intro l hl
  simp only [List.mem_cons, List.not_mem_nil, or_false] at hl
  rcases hl with rfl | rfl | rfl
  · exact Free.signed free_cash
  · exact Free.signed free_positionCost
  · exact Free.signed free_settlementPnl

theorem transferLines_signed {fromBalance toBalance : CashBalance}
    {fromCode toCode : {s : String // TextWithin portfolioIdMaxLength s}} {amount : Money}
    (hfrom : Transfers.cashBalanceAccountCode fromBalance = .ok fromCode)
    (hto : Transfers.cashBalanceAccountCode toBalance = .ok toCode) :
    ∀ l ∈ Transfers.transferLines exact fromCode toCode amount, Signed l := by
  have hbalance : ∀ {balance : CashBalance} {code : {s : String // TextWithin portfolioIdMaxLength s}} {x : ℚ}
      {d : String} {hd : TextWithin 512 d}, Transfers.cashBalanceAccountCode balance = .ok code →
      Signed (Journal.line code.val x amount.currency d code.property hd) := by
    intro balance code x d hd hcode
    refine Free.signed ?_
    show Free code.val
    rw [Transfers.cashBalanceAccountCode_val hcode]
    exact free_accountCodeOf _
  intro l hl
  simp only [Transfers.transferLines, List.mem_cons, List.not_mem_nil, or_false] at hl
  rcases hl with rfl | rfl | rfl | rfl
  · exact hbalance hfrom
  · exact Free.signed free_cashTransfer
  · exact hbalance hto
  · exact Free.signed free_cashTransfer

/-- **Signs.** By cases on the builder. -/
theorem Built.signed {entry : AccountingJournalEntry} (h : Built exact sha entry) : ∀ l ∈ entry.lines, Signed l := by
  cases h with
  | fill h =>
      simp only [Journal.buildFillJournalEntry, bind_eq_ok, AccountingJournalEntry.validate_eq_ok] at h
      obtain ⟨_, -, -, rfl⟩ := h
      exact fillJournalLines_signed _ _
  | fee h =>
      exact charge_signed (fun hpositive => ⟨fun _ => hpositive.le, fun h => absurd h fees_ne_rebates⟩) h
  | rebate h =>
      exact charge_signed (fun hpositive => ⟨fun h => absurd h.symm fees_ne_rebates,
          fun _ => neg_nonpos.mpr hpositive.le⟩) h
  | cashTransfer h =>
      simp only [Transfers.buildCashTransferJournalEntry, bind_eq_ok, AccountingJournalEntry.validate_eq_ok] at h
      obtain ⟨_, -, _, -, fromCode, hfrom, toCode, hto, -, rfl⟩ := h
      exact transferLines_signed hfrom hto
  | settlement h =>
      simp only [Settlements.buildSettlementJournalEntry, bind_eq_ok, AccountingJournalEntry.validate_eq_ok] at h
      obtain ⟨_, -, _, -, -, rfl⟩ := h
      exact settled_signed
  | settlementCorrection h =>
      simp only [Settlements.buildSettlementCorrectionJournalEntry, bind_eq_ok,
        AccountingJournalEntry.validate_eq_ok] at h
      obtain ⟨_, -, _, -, -, rfl⟩ := h
      exact settled_signed
  | balanceCorrection h =>
      simp only [Balances.buildBalanceCorrectionJournalEntry, bind_eq_ok, AccountingJournalEntry.validate_eq_ok] at h
      obtain ⟨_, -, _, -, -, rfl⟩ := h
      intro l hl
      rcases List.mem_pair.mp hl with rfl | rfl
      · exact Free.signed free_cash
      · exact Free.signed free_balanceCorrection

/-! ## Sums -/

variable {entries other : List AccountingJournalEntry}

/-- The entries of a period before `splitAt`. -/
def entriesBefore (splitAt : UTCDateTime) (entries : List AccountingJournalEntry) : List AccountingJournalEntry :=
  entries.filter fun entry => entry.occurredAt < splitAt

/-- The others; an entry at `splitAt` is one of them. -/
def entriesSince (splitAt : UTCDateTime) (entries : List AccountingJournalEntry) : List AccountingJournalEntry :=
  entries.filter fun entry => splitAt ≤ entry.occurredAt

theorem entriesBefore_sublist (splitAt : UTCDateTime) (entries : List AccountingJournalEntry) :
    (entriesBefore splitAt entries).Sublist entries := List.filter_sublist

theorem entriesSince_sublist (splitAt : UTCDateTime) (entries : List AccountingJournalEntry) :
    (entriesSince splitAt entries).Sublist entries := List.filter_sublist

theorem entriesBefore_append_since (splitAt : UTCDateTime) (entries : List AccountingJournalEntry) :
    (entriesBefore splitAt entries ++ entriesSince splitAt entries).Perm entries := by
  have hsince : entriesSince splitAt entries = entries.filter fun entry => !decide (entry.occurredAt < splitAt) := by
    refine List.filter_congr fun entry _ => ?_
    rw [← decide_not, decide_eq_decide, not_lt]
  rw [hsince]
  exact List.filter_append_perm _ entries

theorem sumAccount_perm (h : other.Perm entries) (accountCode : String) (currency : Currency) :
    sumAccount exact other accountCode currency = sumAccount exact entries accountCode currency := by
  rw [Ledger.sumAccount_exact, Ledger.sumAccount_exact]
  exact (h.map _).sum_eq

theorem sumAccount_split (splitAt : UTCDateTime) (entries : List AccountingJournalEntry) (accountCode : String)
    (currency : Currency) : sumAccount exact entries accountCode currency
      = sumAccount exact (entriesBefore splitAt entries) accountCode currency
        + sumAccount exact (entriesSince splitAt entries) accountCode currency := by
  rw [← sumAccount_perm (entriesBefore_append_since splitAt entries), Ledger.sumAccount_exact,
    Ledger.sumAccount_exact, Ledger.sumAccount_exact, List.map_append, List.sum_append]

theorem sumAccount_fees_nonneg (hsigned : ∀ e ∈ entries, ∀ l ∈ e.lines, Signed l) (currency : Currency) :
    0 ≤ sumAccount exact entries accountFeesPaid currency := by
  rw [sumAccount, exact_sum]
  refine List.sum_nonneg fun x hx => ?_
  obtain ⟨l, hl, rfl⟩ := List.mem_map.mp hx
  obtain ⟨e, he, hl⟩ := List.mem_flatMap.mp hl
  obtain ⟨hl, hcode⟩ := List.mem_filter.mp hl
  exact (hsigned e he l hl).1 (of_decide_eq_true hcode).1

theorem sumAccount_rebates_nonpos (hsigned : ∀ e ∈ entries, ∀ l ∈ e.lines, Signed l) (currency : Currency) :
    sumAccount exact entries accountRebatesReceived currency ≤ 0 := by
  rw [sumAccount, exact_sum]
  refine (List.sum_le_card_nsmul _ 0 fun x hx => ?_).trans_eq (nsmul_zero _)
  obtain ⟨l, hl, rfl⟩ := List.mem_map.mp hx
  obtain ⟨e, he, hl⟩ := List.mem_flatMap.mp hl
  obtain ⟨hl, hcode⟩ := List.mem_filter.mp hl
  exact (hsigned e he l hl).2 (of_decide_eq_true hcode).1

/-! ## Attributions -/

theorem raiseIf_congr {bad bad' : Prop} [Decidable bad] [Decidable bad'] {e : PyError} (h : bad ↔ bad') :
    raiseIf bad e = raiseIf bad' e := if_congr h rfl rfl

theorem deriveJournalPnlAttributionId_perm (h : other.Perm entries) (currency : String)
    (startsAt endsAt : UTCDateTime) (strategyId : Option StrategyId) (marketId : Option MarketId)
    (exchange : Option String) :
    deriveJournalPnlAttributionId sha other currency startsAt endsAt strategyId marketId exchange
      = deriveJournalPnlAttributionId sha entries currency startsAt endsAt strategyId marketId exchange := by
  have hsorted : (other.map AccountingJournalEntry.journalEntryId).insertionSort (· ≤ ·)
      = (entries.map AccountingJournalEntry.journalEntryId).insertionSort (· ≤ ·) := by
    refine List.Perm.eq_of_pairwise' (List.pairwise_insertionSort _ _) (List.pairwise_insertionSort _ _) ?_
    have hids := h.map AccountingJournalEntry.journalEntryId
    exact (List.perm_insertionSort _ _).trans (hids.trans (List.perm_insertionSort _ _).symm)
  rw [deriveJournalPnlAttributionId, hsorted, deriveJournalPnlAttributionId]

/-- **Order.** Every check, every sum and the derived id are the same for a permutation of the entries. -/
theorem buildJournalPnlAttribution_perm (h : other.Perm entries) (currency : String)
    (startsAt endsAt : UTCDateTime) (strategyId : Option StrategyId) (marketId : Option MarketId)
    (exchange : Option String) :
    buildJournalPnlAttribution exact sha other currency startsAt endsAt none strategyId marketId exchange
      = buildJournalPnlAttribution exact sha entries currency startsAt endsAt none strategyId marketId exchange := by
  have hunique : validateUniqueJournalEntryIds other = validateUniqueJournalEntryIds entries :=
    raiseIf_congr (not_congr (h.map _).nodup_iff)
  have hperiod : validateJournalPeriod other startsAt endsAt = validateJournalPeriod entries startsAt endsAt := by
    unfold validateJournalPeriod
    have hoff : (∃ e ∈ other, e.occurredAt < startsAt ∨ endsAt ≤ e.occurredAt)
        ↔ ∃ e ∈ entries, e.occurredAt < startsAt ∨ endsAt ≤ e.occurredAt :=
      exists_congr fun e => and_congr_left fun _ => h.mem_iff
    rw [raiseIf_congr hoff]
  unfold buildJournalPnlAttribution
  simp only [hunique, hperiod, sumAccount_perm h, deriveJournalPnlAttributionId_perm h]

/-- The amounts of `whole` are those of the two parts together. -/
structure Additive (whole early late : PnlAttribution) : Prop where
  realized : whole.realizedTradingPnl.amount = early.realizedTradingPnl.amount + late.realizedTradingPnl.amount
  fees : whole.fees.amount = early.fees.amount + late.fees.amount
  rebates : whole.rebates.amount = early.rebates.amount + late.rebates.amount
  settlement : optionalAmount whole.settlementPnl
    = optionalAmount early.settlementPnl + optionalAmount late.settlementPnl
  total : whole.totalPnl.amount = early.totalPnl.amount + late.totalPnl.amount

theorem optionalAmount_combine (m : Money) : optionalAmount (combineOptionalMoney exact m none) = m.amount := by
  unfold combineOptionalMoney
  by_cases h : m.amount = 0
  · rw [if_pos h, h]
    rfl
  · rw [if_neg h]
    rfl

theorem journalAttribution_total (attributionId : String) (entries : List AccountingJournalEntry)
    (currency : Currency) (startsAt endsAt : UTCDateTime) (strategyId : Option StrategyId)
    (marketId : Option MarketId) (exchange : Option String) :
    (journalAttribution exact attributionId entries currency startsAt endsAt strategyId marketId
        exchange).totalPnl.amount
      = -sumAccount exact entries accountRealizedTradingPnl currency - sumAccount exact entries accountFeesPaid currency
        + -sumAccount exact entries accountRebatesReceived currency
        + -sumAccount exact entries accountSettlementPnl currency := by
  simp only [journalAttribution, PnlAttribution.componentSum, optionalAmount_combine, exact_add, exact_sub, exact_neg]
  ring

section Periods

variable {currency : Currency} {startsAt splitAt endsAt : UTCDateTime} {strategyId : Option StrategyId}
  {marketId : Option MarketId} {exchange : Option String}

variable (currency strategyId marketId) in
/-- Any selection of the entries is accepted over a period that covers it. -/
theorem attribution_of_sublist {part : List AccountingJournalEntry} (hpart : part.Sublist entries)
    (hbuilt : ∀ e ∈ entries, Built exact sha e)
    (hdistinct : (entries.map AccountingJournalEntry.journalEntryId).Nodup) (hperiod : startsAt < endsAt)
    (hwithin : ∀ e ∈ part, startsAt ≤ e.occurredAt ∧ e.occurredAt < endsAt)
    (hexchange : ∀ s ∈ exchange, TextWithin 64 s) :
    ∃ attributionId, buildJournalPnlAttribution exact sha part currency.code startsAt endsAt none strategyId marketId
      exchange = .ok (journalAttribution exact attributionId part currency startsAt endsAt strategyId marketId
        exchange) := by
  have hsigned : ∀ e ∈ part, ∀ l ∈ e.lines, Signed l := fun e he => (hbuilt e (hpart.subset he)).signed
  refine buildJournalPnlAttribution_ok exact sha currency strategyId marketId hexchange ?_ hperiod hwithin
    (sumAccount_fees_nonneg hsigned currency) (neg_nonneg.mpr (sumAccount_rebates_nonpos hsigned currency))
  exact hdistinct.sublist (hpart.map _)

/-- **Periods.** Entries of the package with distinct ids in a period: it and the two parts of any split of it are
    accepted, their amounts add up, and the order of the entries does not matter. -/
theorem attribution_of_parts (hbuilt : ∀ e ∈ entries, Built exact sha e)
    (hdistinct : (entries.map AccountingJournalEntry.journalEntryId).Nodup)
    (hwithin : ∀ e ∈ entries, startsAt ≤ e.occurredAt ∧ e.occurredAt < endsAt)
    (hstart : startsAt < splitAt) (hend : splitAt < endsAt) (hexchange : ∀ s ∈ exchange, TextWithin 64 s) :
    ∃ whole early late,
      buildJournalPnlAttribution exact sha entries currency.code startsAt endsAt none strategyId marketId exchange
        = .ok whole ∧
      buildJournalPnlAttribution exact sha (entriesBefore splitAt entries) currency.code startsAt splitAt none
        strategyId marketId exchange = .ok early ∧
      buildJournalPnlAttribution exact sha (entriesSince splitAt entries) currency.code splitAt endsAt none
        strategyId marketId exchange = .ok late ∧
      Additive whole early late ∧
      whole.totalPnl.amount = whole.realizedTradingPnl.amount - whole.fees.amount + whole.rebates.amount
        + optionalAmount whole.settlementPnl ∧
      ∀ other : List AccountingJournalEntry, other.Perm entries →
        buildJournalPnlAttribution exact sha other currency.code startsAt endsAt none strategyId marketId exchange
          = .ok whole := by
  have hearly : ∀ e ∈ entriesBefore splitAt entries, startsAt ≤ e.occurredAt ∧ e.occurredAt < splitAt := by
    intro e he
    obtain ⟨he, htime⟩ := List.mem_filter.mp he
    exact ⟨(hwithin e he).1, of_decide_eq_true htime⟩
  have hlate : ∀ e ∈ entriesSince splitAt entries, splitAt ≤ e.occurredAt ∧ e.occurredAt < endsAt := by
    intro e he
    obtain ⟨he, htime⟩ := List.mem_filter.mp he
    exact ⟨of_decide_eq_true htime, (hwithin e he).2⟩
  obtain ⟨i, hwhole⟩ := attribution_of_sublist currency strategyId marketId (List.Sublist.refl entries) hbuilt hdistinct
    (hstart.trans hend) hwithin hexchange
  obtain ⟨j, hbefore⟩ := attribution_of_sublist currency strategyId marketId (entriesBefore_sublist splitAt entries)
    hbuilt hdistinct hstart hearly hexchange
  obtain ⟨k, hsince⟩ := attribution_of_sublist currency strategyId marketId (entriesSince_sublist splitAt entries)
    hbuilt hdistinct hend hlate hexchange
  -- every part of an attribution is a sum by account, and the sums of the two periods add up to that of the whole
  have hrealized := sumAccount_split splitAt entries accountRealizedTradingPnl currency
  have hfees := sumAccount_split splitAt entries accountFeesPaid currency
  have hrebates := sumAccount_split splitAt entries accountRebatesReceived currency
  have hsettlement := sumAccount_split splitAt entries accountSettlementPnl currency
  refine ⟨_, _, _, hwhole, hbefore, hsince, ⟨?_, hfees, ?_, ?_, ?_⟩, ?_, ?_⟩
  · simp only [journalAttribution, exact_neg, hrealized]
    ring
  · simp only [journalAttribution, exact_neg, hrebates]
    ring
  · simp only [journalAttribution, optionalAmount_combine, exact_neg, hsettlement]
    ring
  · rw [journalAttribution_total, journalAttribution_total, journalAttribution_total, hrealized, hfees, hrebates,
      hsettlement]
    ring
  · rw [journalAttribution_total]
    simp only [journalAttribution, optionalAmount_combine, exact_neg]
  · intro other hperm
    rw [buildJournalPnlAttribution_perm hperm]
    exact hwhole

end Periods

/-! ## A fee on the boundary -/

/-- A fee of 3 dollars. -/
def boundaryFee : Result AccountingJournalEntry :=
  Fees.buildFeeJournalEntry exact Sha256.constant ⟨3, Positions.usd⟩ "fee_boundary" ⟨"evt_boundary", by decide⟩ 50 50

/-- A rebate of 1 dollar, earlier. -/
def earlyRebate : Result AccountingJournalEntry :=
  Fees.buildRebateJournalEntry exact Sha256.constant ⟨1, Positions.usd⟩ "rebate_early" ⟨"evt_early", by decide⟩ 20 50

theorem built_of_map {built : Result AccountingJournalEntry} {time : UTCDateTime} {id : String}
    (h : built.toOption.map (fun entry => (entry.occurredAt, entry.journalEntryId)) = some (time, id)) :
    ∃ entry, built = .ok entry ∧ entry.occurredAt = time ∧ entry.journalEntryId = id := by
  cases built with
  | error e => cases h
  | ok entry =>
      obtain ⟨htime, hid⟩ := Prod.mk.inj (Option.some.inj h)
      exact ⟨entry, rfl, htime, hid⟩

/-- The fee is on the boundary of the parts, and in the second of them. -/
theorem attribution_of_parts_boundary : ∃ fee rebate whole early late,
    boundaryFee = .ok fee ∧ earlyRebate = .ok rebate ∧
      buildJournalPnlAttribution exact Sha256.constant [fee, rebate] Positions.usd.code 0 99 = .ok whole ∧
      buildJournalPnlAttribution exact Sha256.constant (entriesBefore 50 [fee, rebate]) Positions.usd.code 0 50
        = .ok early ∧
      buildJournalPnlAttribution exact Sha256.constant (entriesSince 50 [fee, rebate]) Positions.usd.code 50 99
        = .ok late ∧
      Additive whole early late := by
  obtain ⟨fee, hfee, hfeeTime, hfeeId⟩ : ∃ entry, boundaryFee = .ok entry ∧ entry.occurredAt = 50 ∧
      entry.journalEntryId = "journal_fee_00000000000000000000000000000000" := built_of_map (by decide +kernel)
  obtain ⟨rebate, hrebate, hrebateTime, hrebateId⟩ : ∃ entry, earlyRebate = .ok entry ∧ entry.occurredAt = 20 ∧
      entry.journalEntryId = "journal_rebate_00000000000000000000000000000000" := built_of_map (by decide +kernel)
  have hbuilt : ∀ e ∈ [fee, rebate], Built exact Sha256.constant e := by
    intro e he
    rcases List.mem_pair.mp he with rfl | rfl
    · exact .fee hfee
    · exact .rebate hrebate
  have hdistinct : ([fee, rebate].map AccountingJournalEntry.journalEntryId).Nodup := by
    rw [List.map_cons, List.map_singleton, hfeeId, hrebateId]
    decide
  have hwithin : ∀ e ∈ [fee, rebate], 0 ≤ e.occurredAt ∧ e.occurredAt < 99 := by
    intro e he
    rcases List.mem_pair.mp he with rfl | rfl
    · rw [hfeeTime]
      decide
    · rw [hrebateTime]
      decide
  obtain ⟨whole, early, late, hwhole, hearly, hlate, hadditive, -⟩ :=
    attribution_of_parts hbuilt hdistinct hwithin (by decide : (0 : ℤ) < 50) (by decide : (50 : ℤ) < 99)
      (fun s hs => absurd hs (Option.not_mem_none s))
  exact ⟨fee, rebate, whole, early, late, hfee, hrebate, hwhole, hearly, hlate, hadditive⟩

end Pnl
end Pmrp
