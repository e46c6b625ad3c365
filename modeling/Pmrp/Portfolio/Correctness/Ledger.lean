import Pmrp.Portfolio.Correctness.SettlementRounding
import Pmrp.Portfolio.Pnl

/-!
# `Correctness.Ledger` — the journals and the position tell the same story

Positions and journal lines are computed by separate code with opposite signs. In exact arithmetic the sums
of the lines by account are the fields of the position after every fill (`fill_agrees`), after a
settlement (`settlement_agrees`), and so after every run (`ledger_agrees`); the attribution built from the
journals reports the same totals.
-/

namespace Pmrp
namespace Ledger

open Positions Journal Projections Settlements Pnl DecimalContext AverageCost

variable {sha : Sha256}

/-! ## Sums by account -/

/-- The lines of one account and currency, summed. -/
def accountTotal (lines : List JournalLine) (accountCode : String) (currency : Currency) : ℚ :=
  (lines.map fun l => if l.accountCode = accountCode ∧ l.currency = currency then l.amount else 0).sum

theorem accountTotal_append (xs ys : List JournalLine) (a : String) (c : Currency) :
    accountTotal (xs ++ ys) a c = accountTotal xs a c + accountTotal ys a c := by
  rw [accountTotal, List.map_append, List.sum_append]; rfl

@[simp] theorem accountTotal_nil (a : String) (c : Currency) : accountTotal [] a c = 0 := rfl

theorem accountTotal_ite {b : Prop} [Decidable b] (xs : List JournalLine) (a : String) (c : Currency) :
    accountTotal (if b then xs else []) a c = if b then accountTotal xs a c else 0 := by
  split_ifs <;> rfl

theorem accountTotal_line (code : String) (x : ℚ) (c : Currency) (d : String) (h1 h2)
    (lines : List JournalLine) (a : String) :
    accountTotal (Journal.line code x c d h1 h2 :: lines) a c
      = (if code = a then x else 0) + accountTotal lines a c := by
  simp [accountTotal, Journal.line]

theorem sumAccount_exact (journals : List AccountingJournalEntry) (a : String) (c : Currency) :
    sumAccount exact journals a c = (journals.map fun e => accountTotal e.lines a c).sum := by
  have hlines : ∀ lines : List JournalLine, ((lines.filter fun l =>
      l.accountCode = a ∧ l.currency = c).map JournalLine.amount).sum = accountTotal lines a c := by
    intro lines
    induction lines with
    | nil => rfl
    | cons l ls ih =>
        rw [accountTotal, List.map_cons, List.sum_cons, List.filter_cons]
        rw [accountTotal] at ih
        by_cases h : l.accountCode = a ∧ l.currency = c
        · rw [if_pos (decide_eq_true h), if_pos h, List.map_cons, List.sum_cons, ih]
        · rw [if_neg (by simpa using h), if_neg h, zero_add, ih]
  rw [sumAccount, exact_sum]
  induction journals with
  | nil => rfl
  | cons e es ih =>
      rw [List.flatMap_cons, List.map_append, List.sum_append, hlines, ih, List.map_cons, List.sum_cons]

/-- One more journal entry adds its lines. -/
theorem sumAccount_append (journals : List AccountingJournalEntry) (e : AccountingJournalEntry) (a : String)
    (c : Currency) :
    sumAccount exact (journals ++ [e]) a c = sumAccount exact journals a c + accountTotal e.lines a c := by
  rw [sumAccount_exact, sumAccount_exact, List.map_append, List.sum_append]; simp

/-! ## What a position says -/

/-- The open quantity at its average price, zero when flat. -/
def bookCost (position : Option Position) : ℚ :=
  position.elim 0 fun p => p.quantity * p.averageEntryPrice.getD 0

def realizedOf (position : Option Position) : ℚ := position.elim 0 fun p => p.realizedPnl.amount
def feesOf (position : Option Position) : ℚ := position.elim 0 fun p => p.feesPaid.amount
def rebatesOf (position : Option Position) : ℚ := position.elim 0 fun p => p.rebatesReceived.amount

/-- The journals account for the position and for `cashFlow`. -/
structure Agrees (c : Currency) (position : Option Position) (cashFlow : ℚ)
    (journals : List AccountingJournalEntry) : Prop where
  cost : sumAccount exact journals accountPositionCost c = bookCost position
  realized : -(sumAccount exact journals accountRealizedTradingPnl c
    + sumAccount exact journals accountSettlementPnl c) = realizedOf position
  fees : sumAccount exact journals accountFeesPaid c = feesOf position
  rebates : -sumAccount exact journals accountRebatesReceived c = rebatesOf position
  cash : sumAccount exact journals accountCash c = cashFlow

/-- Cash received less cash paid by the fills, charges included. -/
def netCashFlow (fills : List Fill) : ℚ := tradeCash fills - totalFees fills + totalRebates fills

/-! ## One fill -/

section Fill

variable {k : PositionIdentity} {c : Currency} {f : Fill} {e : Existing} {w : WeightedAverageProjection}

/-- A guard that only drops a zero changes nothing. -/
theorem ite_zero {b : Prop} [Decidable b] {x : ℚ} (h : ¬b → x = 0) : (if b then x else 0) = x := by
  by_cases hb : b
  · rw [if_pos hb]
  · rw [if_neg hb, h hb]

/-- The lines of a fill entry by account. A guard in front of a line only drops it when it is zero. -/
theorem fillJournalLines_totals {r : PositionProjectionResult} (hc : r.tradeNotional.currency = c)
    (hclosed : ¬0 < r.closedQuantity → r.closedCostBasis.amount = 0 ∧ r.realizedTradingPnl.amount = 0)
    (hopened : ¬0 < r.openedQuantity → r.openedNotional.amount = 0)
    (hfee : 0 ≤ r.fee.amount) (hrebate : 0 ≤ r.rebate.amount) :
    accountTotal (fillJournalLines exact f r) accountPositionCost c
        = fillDirection f * (r.closedCostBasis.amount + r.openedNotional.amount) ∧
      accountTotal (fillJournalLines exact f r) accountRealizedTradingPnl c
        = -r.realizedTradingPnl.amount ∧
      accountTotal (fillJournalLines exact f r) accountSettlementPnl c = 0 ∧
      accountTotal (fillJournalLines exact f r) accountFeesPaid c = r.fee.amount ∧
      accountTotal (fillJournalLines exact f r) accountRebatesReceived c = -r.rebate.amount ∧
      accountTotal (fillJournalLines exact f r) accountCash c
        = -(fillDirection f * r.tradeNotional.amount) - r.fee.amount + r.rebate.amount := by
  have hfee0 : ¬0 < r.fee.amount → r.fee.amount = 0 := fun h => le_antisymm (not_lt.mp h) hfee
  have hrebate0 : ¬0 < r.rebate.amount → r.rebate.amount = 0 := fun h => le_antisymm (not_lt.mp h) hrebate
  subst hc
  simp only [fillJournalLines, accountTotal_append, accountTotal_line, accountTotal_nil,
    accountTotal_ite, accountCash, accountPositionCost, accountRealizedTradingPnl,
    accountSettlementPnl, accountFeesPaid, accountRebatesReceived, exact_neg, exact_mul, String.reduceEq,
    if_true, if_false, add_zero, zero_add, ite_self]
  rw [ite_zero (x := -(-fillDirection f * r.closedCostBasis.amount)) fun h => by rw [(hclosed h).1]; ring,
    ite_zero (x := fillDirection f * r.openedNotional.amount) fun h => by rw [hopened h]; ring,
    ite_zero (x := -r.realizedTradingPnl.amount) fun h => by rw [(hclosed h).2]; ring,
    ite_zero (x := r.fee.amount) hfee0, ite_zero (x := -r.fee.amount) fun h => by rw [hfee0 h]; ring,
    ite_zero (x := r.rebate.amount) hrebate0,
    ite_zero (x := -r.rebate.amount) fun h => by rw [hrebate0 h]; ring]
  exact ⟨by ring, rfl, trivial, rfl, rfl, by ring⟩

/-- The existing state carries what the position says. -/
theorem reads_amounts {positionId : Option PositionId} {position : Option Position}
    (h : Reads c positionId position e) : e.quantity * e.average.getD 0 = bookCost position ∧
      e.realized.amount = realizedOf position ∧ e.fees.amount = feesOf position ∧
      e.rebates.amount = rebatesOf position := by
  cases position with
  | none => rw [h.1]; exact ⟨zero_mul _, rfl, rfl, rfl⟩
  | some p => obtain rfl : e = .ofPosition p := h; exact ⟨rfl, rfl, rfl, rfl⟩

theorem dir_tradeOf (f : Fill) : (tradeOf f).dir = fillDirection f := by
  have hq := f.quantity_pos
  by_cases h : f.side = .buy
  · simp [AverageCost.Trade.dir, tradeOf, signedQuantity, fillDirection, h, hq]
  · simp [AverageCost.Trade.dir, tradeOf, signedQuantity, fillDirection, h, hq.le]

/-- **One fill.** The entry of a fill moves the sums by account as the fill moves the position. -/
theorem fill_agrees {positionId : Option PositionId} {position : Option Position} {o : Option UTCDateTime}
    {entry : AccountingJournalEntry} {journals : List AccountingJournalEntry} {cashFlow : ℚ}
    (hagrees : Agrees c position cashFlow journals) (hf : FillOf k c f)
    (hreads : Reads c positionId position e) (hflat : e.average = none ↔ e.quantity = 0)
    (hw : applyWeightedAverageFill exact e.quantity e.average f = .ok w)
    (hlines : entry.lines = fillJournalLines exact f (resultOf exact
      (projectedPosition exact e w o f (f.fee.getD (zeroMoney c)) (f.rebate.getD (zeroMoney c)) c) w f c)) :
    Agrees c (some (projectedPosition exact e w o f (f.fee.getD (zeroMoney c))
        (f.rebate.getD (zeroMoney c)) c))
      (cashFlow - signedQuantity f * f.price - optionalAmount f.fee + optionalAmount f.rebate)
      (journals ++ [entry]) := by
  have href := applyWeightedAverageFill_exact (r := e.realized.amount) hflat hw
  have hcost := Inventory.apply_cost (inventory e.quantity e.average e.realized.amount) (tradeOf f)
  obtain ⟨hbook, hrealized, hfees, hrebates⟩ := reads_amounts hreads
  -- the lines for a closed or opened quantity are left out at zero, where their amounts are zero too
  have hclosed0 : ¬0 < w.closedQuantity → w.closedCostBasis = 0 ∧ w.realizedTradingPnl = 0 := by
    intro h
    have h0 : (inventory e.quantity e.average e.realized.amount).closed (tradeOf f) = 0 := by
      refine le_antisymm (not_lt.mp (href.closedQuantity ▸ h)) ?_
      unfold Inventory.closed
      split_ifs
      · exact le_min (abs_nonneg _) (abs_nonneg _)
      · exact le_rfl
    have hr := href.realized
    rw [Inventory.apply_realized, h0, mul_zero, zero_mul, sub_zero] at hr
    exact ⟨by rw [href.closedCostBasis, h0, zero_mul], by linarith⟩
  have hopened0 : ¬0 < w.openedQuantity → w.openedNotional = 0 := by
    intro h
    have h0 : (inventory e.quantity e.average e.realized.amount).opened (tradeOf f) = 0 := by
      refine le_antisymm (not_lt.mp (href.openedQuantity ▸ h)) ?_
      unfold Inventory.opened Inventory.closed
      split_ifs
      · exact sub_nonneg.mpr (min_le_right _ _)
      · rw [sub_zero]; exact abs_nonneg _
    rw [href.openedNotional, h0, zero_mul]
  have hfeeAmount := hf.fee.getD
  have hrebateAmount := hf.rebate.getD
  obtain ⟨t1, t2, t3, t4, t5, t6⟩ := fillJournalLines_totals (f := f) (r := resultOf exact
      (projectedPosition exact e w o f (f.fee.getD (zeroMoney c)) (f.rebate.getD (zeroMoney c)) c) w f c)
    (c := c) rfl hclosed0 hopened0 hfeeAmount.2.1 hrebateAmount.2.1
  constructor
  · rw [sumAccount_append, hlines, t1, hagrees.cost, ← hbook]
    show e.quantity * e.average.getD 0 + fillDirection f * (w.closedCostBasis + w.openedNotional)
      = w.quantity * w.averageEntryPrice.getD 0
    rw [href.quantity, href.average, href.closedCostBasis, href.openedNotional, ← dir_tradeOf]
    exact hcost.symm
  · rw [sumAccount_append, sumAccount_append, hlines, t2, t3]
    show -(sumAccount exact journals accountRealizedTradingPnl c + -w.realizedTradingPnl
      + (sumAccount exact journals accountSettlementPnl c + 0)) = e.realized.amount + w.realizedTradingPnl
    rw [hrealized, ← hagrees.realized]; ring
  · rw [sumAccount_append, hlines, t4, hagrees.fees, ← hfees]; rfl
  · rw [sumAccount_append, hlines, t5, neg_add, neg_neg, hagrees.rebates, ← hrebates]; rfl
  · rw [sumAccount_append, hlines, t6, hagrees.cash]
    show cashFlow + (-(fillDirection f * (f.quantity * f.price)) - (f.fee.getD (zeroMoney c)).amount
      + (f.rebate.getD (zeroMoney c)).amount) = _
    rw [hfeeAmount.2.2, hrebateAmount.2.2, signedQuantity_eq]; ring

end Fill

/-! ## A run of fills -/

section Run

variable {k : PositionIdentity} {c : Currency} {positionId : Option PositionId}

theorem netCashFlow_append (fills : List Fill) (f : Fill) : netCashFlow (fills ++ [f])
    = netCashFlow fills - signedQuantity f * f.price - optionalAmount f.fee + optionalAmount f.rebate := by
  simp only [netCashFlow, tradeCash, totalFees, totalRebates, List.map_append, List.map_cons, List.map_nil,
    List.sum_append, List.sum_cons, List.sum_nil, add_zero]
  ring

theorem agrees_start : Agrees c none (netCashFlow []) [] := by
  constructor <;>
    simp [sumAccount_exact, bookCost, realizedOf, feesOf, rebatesOf, netCashFlow, tradeCash, totalFees,
      totalRebates]

/-- In exact arithmetic every fill books exactly. -/
theorem booksExactly_exact (position : Option Position) (fill : Fill) :
    BooksExactly exact position fill where
  quantity := fits_exact _
  fee := fits_exact _
  closing _ _ _ _ _ :=
    ⟨distributes_of_fits (fits_exact _) (fits_exact _) (fits_exact _), fun _ =>
      splits_of_fits (fits_exact _) (fits_exact _) (fits_exact _) (fits_exact _) (fits_exact _)
        (fits_exact _) (fits_exact _)⟩

variable (sha positionId) in
/-- **A run of fills.** It is accepted, its journals account for the position it leaves and for the net cash
    flow, and carry the entry ids of its fills. -/
theorem fills_agree {calls : List FillCall} (h : CallSequence k c calls) :
    ∃ run, applyFillCalls exact sha c.code positionId calls = .ok run ∧
      Agrees c run.position (netCashFlow (calls.map FillCall.fill)) run.journals ∧
      (∀ p ∈ run.position, Carries k c p) ∧
      run.journals.map AccountingJournalEntry.journalEntryId
        = (calls.map FillCall.fill).map (deriveFillJournalEntryId sha) := by
  obtain ⟨run, hrun, hinv, hagrees, hids⟩ := foldlM_ok
    (fun done rest run => RunInvariant exact k c positionId done rest run ∧
      Agrees c run.position (netCashFlow (done.map FillCall.fill)) run.journals ∧
      run.journals.map AccountingJournalEntry.journalEntryId
        = (done.map FillCall.fill).map (deriveFillJournalEntryId sha))
    (fun done call rest run ⟨hinv, hagrees, hids⟩ => by
      obtain ⟨e, w, o, p, entry, hreads, hw, rfl, -, hstep, hpending, hfits, hvalid, hid, -, hlines⟩ :=
        FillRun.step_ok sha hinv.pending hinv.quantityFits hinv.fresh
          (hinv.created call List.mem_cons_self) (booksExactly_exact _ _)
      refine ⟨_, hstep, hinv.next hpending hfits hvalid, ?_, ?_⟩
      · rw [List.map_append, List.map_singleton, netCashFlow_append]
        exact fill_agrees hagrees hinv.pending.head hreads (hreads.flat_iff hinv.pending.carries).1 hw hlines
      · simp only [List.map_append, List.map_singleton, hids, hid])
    ⟨RunInvariant.start h, agrees_start, rfl⟩
  exact ⟨run, hrun, hagrees, hinv.pending.carries, hids⟩

end Run

/-! ## A settlement -/

section Settlement

variable {c : Currency} {position : Position} {settlement : Settlement}

/-- **A settlement.** Its entry moves the sums by account as it moves the position. -/
theorem settlement_agrees {balance : CashBalance} {ids : Finset String} {sourceEventId : EventId}
    {createdAt : UTCDateTime} {result : SettlementApplicationResult} {entry : AccountingJournalEntry}
    {journals : List AccountingJournalEntry} {cashFlow : ℚ}
    (hagrees : Agrees c (some position) cashFlow journals)
    (hok : applySettlementOnce exact sha position balance settlement ids c.code sourceEventId createdAt
      = .ok result) (hentry : result.journalEntry = some entry) :
    Agrees c (some result.position) (cashFlow + position.quantity * effectivePayout position settlement)
      (journals ++ [entry]) := by
  obtain ⟨settledAt, -, -, -, hlines, -, -, -, hposition, -⟩ := applySettlementOnce_applied hok hentry
  have htotals : ∀ a, accountTotal entry.lines a c
      = (if accountCash = a then position.quantity * effectivePayout position settlement else 0)
        + ((if accountPositionCost = a then -(position.quantity * position.averageEntryPrice.getD 0) else 0)
        + (if accountSettlementPnl = a then -(position.quantity * effectivePayout position settlement
            - position.quantity * position.averageEntryPrice.getD 0) else 0)) := by
    intro a
    rw [hlines, settlementLines, accounting_cashDelta, accounting_positionCostBasis, accounting_settlementPnl]
    simp only [accountTotal_line, accountTotal_nil, exact_mul, exact_sub, exact_neg, add_zero]
  rw [hposition, accounting_settlementPnl]
  constructor <;>
    simp only [sumAccount_append, htotals, accountCash, accountPositionCost, accountRealizedTradingPnl,
      accountSettlementPnl, accountFeesPaid, accountRebatesReceived, String.reduceEq, if_true, if_false,
      add_zero, zero_add]
  · have hcost := hagrees.cost
    simp only [accountPositionCost] at hcost
    rw [hcost]; simp [bookCost, flattened]
  · have hrealized := hagrees.realized
    simp only [accountRealizedTradingPnl, accountSettlementPnl] at hrealized
    show _ = position.realizedPnl.amount + _
    rw [show position.realizedPnl.amount = realizedOf (some position) from rfl, ← hrealized]
    simp only [exact_mul, exact_sub]; ring
  · exact hagrees.fees
  · exact hagrees.rebates
  · have hcash := hagrees.cash
    simp only [accountCash] at hcash
    rw [hcash]

end Settlement

/-! ## The whole ledger, and its attribution -/

/-- A run of fills from no position, ended by a settlement of the open position or not: the fills, the net
    cash flow, and the position and journals it leaves. -/
inductive History (sha : Sha256) (k : PositionIdentity) (c : Currency) (positionId : Option PositionId) :
    List Fill → ℚ → Option Position → List AccountingJournalEntry → Prop
  | fills {calls : List FillCall} {run : FillRun} (h : CallSequence k c calls)
      (hrun : applyFillCalls exact sha c.code positionId calls = .ok run) :
      History sha k c positionId (calls.map FillCall.fill) (netCashFlow (calls.map FillCall.fill))
        run.position run.journals
  | settled {calls : List FillCall} {run : FillRun} {position : Position} {balance : CashBalance}
      {settlement : Settlement} {ids : Finset String} {sourceEventId : EventId} {createdAt : UTCDateTime}
      {result : SettlementApplicationResult} {entry : AccountingJournalEntry} (h : CallSequence k c calls)
      (hrun : applyFillCalls exact sha c.code positionId calls = .ok run)
      (hposition : run.position = some position)
      (hok : applySettlementOnce exact sha position balance settlement ids c.code sourceEventId createdAt
        = .ok result)
      (hentry : result.journalEntry = some entry) :
      History sha k c positionId (calls.map FillCall.fill)
        (netCashFlow (calls.map FillCall.fill) + position.quantity * effectivePayout position settlement)
        (some result.position) (run.journals ++ [entry])

/-- The digests of the fills' ids do not collide. -/
def DistinctDigests (sha : Sha256) (fills : List Fill) : Prop :=
  ∀ f ∈ fills, ∀ g ∈ fills,
    deriveFillJournalEntryId sha f = deriveFillJournalEntryId sha g → f.fillId = g.fillId

/-- The attribution reports the totals of the journals, which are those of the position. -/
structure Reports (c : Currency) (position : Option Position) (journals : List AccountingJournalEntry)
    (a : PnlAttribution) : Prop where
  realizedTrading : a.realizedTradingPnl = ⟨-sumAccount exact journals accountRealizedTradingPnl c, c⟩
  settlement : optionalAmount a.settlementPnl = -sumAccount exact journals accountSettlementPnl c
  realized : a.realizedTradingPnl.amount + optionalAmount a.settlementPnl = realizedOf position
  fees : a.fees = ⟨feesOf position, c⟩
  rebates : a.rebates = ⟨rebatesOf position, c⟩
  total : a.totalPnl = ⟨realizedOf position - feesOf position + rebatesOf position, c⟩

section History

variable {k : PositionIdentity} {c : Currency} {positionId : Option PositionId} {fills : List Fill}
  {cashFlow : ℚ} {position : Option Position} {journals : List AccountingJournalEntry}

/-- The ids of fill entries and of settlement entries differ in their prefix. -/
theorem fillEntryId_ne_settlementEntryId (f : Fill) (p : Position) (s : Settlement) :
    deriveFillJournalEntryId sha f ≠ deriveSettlementJournalEntryId sha p s := by
  have htake : ∀ (pre rest : String), 9 ≤ pre.toList.length →
      (pre ++ rest).toList.take 9 = pre.toList.take 9 := fun pre rest hle => by
    rw [String.toList_append, List.take_append_of_le_length hle]
  have hne : "journal_fill_".toList.take 9 ≠ "journal_settlement_".toList.take 9 := by decide
  intro h
  refine hne ?_
  rw [← htake "journal_fill_" _ (by decide), ← htake "journal_settlement_" _ (by decide)]
  exact congrArg (fun t => (String.toList t).take 9) h

theorem History.agrees (h : History sha k c positionId fills cashFlow position journals) :
    Agrees c position cashFlow journals := by
  cases h with
  | fills h hrun =>
      obtain ⟨run', hrun', hagrees, -⟩ := fills_agree sha positionId h
      obtain rfl := Except.ok.inj (hrun'.symm.trans hrun)
      exact hagrees
  | settled h hrun hposition hok hentry =>
      obtain ⟨run', hrun', hagrees, -⟩ := fills_agree sha positionId h
      obtain rfl := Except.ok.inj (hrun'.symm.trans hrun)
      rw [hposition] at hagrees
      exact settlement_agrees hagrees hok hentry

/-- Charges never go negative. -/
theorem History.charges_nonneg (h : History sha k c positionId fills cashFlow position journals) :
    0 ≤ feesOf position ∧ 0 ≤ rebatesOf position := by
  cases h with
  | fills h hrun =>
      obtain ⟨run', hrun', -, hcarries, -⟩ := fills_agree sha positionId h
      obtain rfl := Except.ok.inj (hrun'.symm.trans hrun)
      cases hp : run'.position with
      | none => exact ⟨le_rfl, le_rfl⟩
      | some p => exact ⟨(hcarries p hp).valid.fees_nonneg, (hcarries p hp).valid.rebates_nonneg⟩
  | settled h hrun hposition hok hentry =>
      obtain ⟨run', hrun', -, hcarries, -⟩ := fills_agree sha positionId h
      obtain rfl := Except.ok.inj (hrun'.symm.trans hrun)
      obtain ⟨_, -, -, -, -, -, -, -, hresult, -⟩ := applySettlementOnce_applied hok hentry
      rw [hresult]
      exact ⟨(hcarries _ hposition).valid.fees_nonneg, (hcarries _ hposition).valid.rebates_nonneg⟩

/-- No two entries of a ledger have the same id. -/
theorem History.nodup (h : History sha k c positionId fills cashFlow position journals)
    (hdigests : DistinctDigests sha fills) :
    (journals.map AccountingJournalEntry.journalEntryId).Nodup := by
  have hfills : ∀ {calls : List FillCall}, CallSequence k c calls →
      DistinctDigests sha (calls.map FillCall.fill) →
      ((calls.map FillCall.fill).map (deriveFillJournalEntryId sha)).Nodup := by
    intro calls hseq hd
    have hids : ((calls.map FillCall.fill).map Fill.fillId).Nodup := by
      rw [List.map_map]; exact hseq.distinct
    refine List.Nodup.map_on (fun f hf g hg hfg => ?_) hids.of_map
    exact List.inj_on_of_nodup_map hids hf hg (hd f hf g hg hfg)
  cases h with
  | fills h hrun =>
      obtain ⟨run', hrun', -, -, hids⟩ := fills_agree sha positionId h
      obtain rfl := Except.ok.inj (hrun'.symm.trans hrun)
      rw [hids]; exact hfills h hdigests
  | settled h hrun hposition hok hentry =>
      obtain ⟨run', hrun', -, -, hids⟩ := fills_agree sha positionId h
      obtain rfl := Except.ok.inj (hrun'.symm.trans hrun)
      obtain ⟨_, -, -, -, -, hid, -⟩ := applySettlementOnce_applied hok hentry
      rw [List.map_append, hids, List.map_singleton, hid]
      refine List.nodup_append.mpr ⟨hfills h hdigests, List.nodup_singleton _, ?_⟩
      intro a ha b hb
      obtain ⟨f, -, rfl⟩ := List.mem_map.mp ha
      rw [List.mem_singleton.mp hb]
      exact fillEntryId_ne_settlementEntryId f _ _

/-- **Ledger and projection agree.** After every run of fills, settled or not, the journal lines sum by
    account to the position and to the net cash flow, and the attribution over any period that covers the
    journals is built and reports exactly those totals. -/
theorem ledger_agrees (h : History sha k c positionId fills cashFlow position journals)
    (hdigests : DistinctDigests sha fills) :
    Agrees c position cashFlow journals ∧
      ∀ (startsAt endsAt : UTCDateTime) (strategyId : Option StrategyId) (marketId : Option MarketId)
        (exchange : Option String), (∀ s ∈ exchange, TextWithin 64 s) → startsAt < endsAt →
        (∀ e ∈ journals, startsAt ≤ e.occurredAt ∧ e.occurredAt < endsAt) →
        ∃ a, buildJournalPnlAttribution exact sha journals c.code startsAt endsAt none strategyId marketId
            exchange = .ok a ∧ Reports c position journals a := by
  have hagrees := h.agrees
  refine ⟨hagrees, fun startsAt endsAt strategyId marketId exchange hexchange hlt hcovers => ?_⟩
  obtain ⟨hfees, hrebates⟩ := h.charges_nonneg
  -- the settlement profit is left out of the attribution when it is zero
  have hsettlement : ∀ x : ℚ, optionalAmount (combineOptionalMoney exact ⟨x, c⟩ none) = x := by
    intro x
    unfold combineOptionalMoney
    split_ifs with hx
    · exact hx.symm
    · rfl
  obtain ⟨i, hok⟩ := buildJournalPnlAttribution_ok exact sha c strategyId marketId hexchange
    (h.nodup hdigests) hlt hcovers
    (hfees.trans_eq hagrees.fees.symm) (hrebates.trans_eq hagrees.rebates.symm)
  refine ⟨_, hok, ?_⟩
  constructor
  · rfl
  · exact hsettlement _
  · show -sumAccount exact journals accountRealizedTradingPnl c + _ = _
    rw [show (journalAttribution exact i journals c startsAt endsAt strategyId marketId
      exchange).settlementPnl = combineOptionalMoney exact _ none from rfl, hsettlement, ← hagrees.realized]
    simp only [exact_neg]; ring
  · exact congrArg (Money.mk · c) hagrees.fees
  · exact congrArg (Money.mk · c) hagrees.rebates
  · refine congrArg (Money.mk · c) ?_
    show PnlAttribution.componentSum exact _ 0 _ _ 0 (optionalAmount (combineOptionalMoney exact _ none)) = _
    rw [hsettlement, ← hagrees.realized, ← hagrees.fees, ← hagrees.rebates]
    simp only [PnlAttribution.componentSum, exact_add, exact_sub, exact_neg]; ring

end History

/-! ## A concrete ledger: the flip of `flippingCalls`, settled -/

/-- SHA-256 on the four values that the concrete ledger hashes, given position `pos_1` and the period from
    0 to 10. -/
def flipDigests : Sha256 where
  hexdigest
    | .mapping [("fill_id", .str "fill_1"), ("schema", .str "pmrp.fill_journal_entry.v1")] =>
        "959faef25118155872eab153a42db16aa7bdc031b96322367a655f2c302d4a65"
    | .mapping [("fill_id", .str "fill_2"), ("schema", .str "pmrp.fill_journal_entry.v1")] =>
        "bb139c2bb1afa97cfff9eacdccc902592a39b9a6700aa572b6dbf0d72d9efa5f"
    | .mapping [("position_id", .str "pos_1"), ("schema", .str "pmrp.settlement_journal_entry.v1"),
        ("settlement_id", .str "set_1")] =>
        "931889fa73b20e2bddd611bd72fffb6f746c8580802188f74a44f506ef9a39be"
    | _ => "3ec4b04712d95e8d26c6ce28c89ca5d39613de4951b6712a472ff78ad7aa91d4"
  length_hexdigest v := by split <;> decide
  hex_hexdigest v := by split <;> decide

def settleFlip (position : Position) : Result SettlementApplicationResult :=
  applySettlementOnce exact flipDigests position (marketBalance 10 0) (marketSettlement 1 (by norm_num)) ∅
    usd.code settleEvent 9

/-- The position and the journals that the flip leaves once it is settled. -/
def settledFlip : Result (Position × List AccountingJournalEntry) := do
  let run ← applyFillCalls exact flipDigests usd.code (some heldPosition.positionId) flippingCalls
  match run.position with
  | none => throw (valueError "flat")
  | some p =>
    let result ← settleFlip p
    match result.journalEntry with
    | none => throw (valueError "not applied")
    | some entry => pure (result.position, run.journals ++ [entry])

theorem settledFlip_covered : (match settledFlip with
    | .ok (_, journals) => decide (∀ e ∈ journals, 0 ≤ e.occurredAt ∧ e.occurredAt < 10)
    | .error _ => false) = true := by
  decide +kernel

theorem flip_history : ∃ cashFlow position journals,
    History flipDigests marketIdentity usd (some heldPosition.positionId) flippingFills cashFlow
      (some position) journals ∧ ∀ e ∈ journals, 0 ≤ e.occurredAt ∧ e.occurredAt < 10 := by
  have hcovered := settledFlip_covered
  cases hs : settledFlip with
  | error e => rw [hs] at hcovered; exact absurd hcovered (by simp)
  | ok out =>
    rw [hs] at hcovered
    have hperiod := of_decide_eq_true hcovered
    obtain ⟨run, hrun, hs⟩ := bind_eq_ok.mp hs
    cases hp : run.position with
    | none => rw [hp] at hs; exact absurd hs (by simp)
    | some p =>
      rw [hp] at hs
      obtain ⟨result, hresult, hs⟩ := bind_eq_ok.mp hs
      cases hentry : result.journalEntry with
      | none => rw [hentry] at hs; exact absurd hs (by simp)
      | some entry =>
        rw [hentry] at hs
        obtain rfl := pure_eq_ok.mp hs
        exact ⟨_, _, _, History.settled flippingCalls_sequence hrun hp hresult hentry, hperiod⟩

theorem ledger_agrees_flip : ∃ cashFlow position journals, Agrees usd position cashFlow journals ∧
    ∃ a, buildJournalPnlAttribution exact flipDigests journals usd.code 0 10 none none none none = .ok a ∧
      Reports usd position journals a := by
  obtain ⟨cashFlow, position, journals, h, hperiod⟩ := flip_history
  have hdigests : DistinctDigests flipDigests flippingFills := by
    unfold DistinctDigests; decide +kernel
  obtain ⟨hagrees, hreports⟩ := ledger_agrees h hdigests
  exact ⟨cashFlow, some position, journals, hagrees,
    hreports 0 10 none none none (by simp) (by norm_num) hperiod⟩

end Ledger
end Pmrp
