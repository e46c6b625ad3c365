import Pmrp.Portfolio.Correctness.SettlementRounding

/-!
# `Portfolio.Correctness.Corrections` — what a run of settlement corrections books

A correction has to name a settlement whose status is `settled`, so no correction is a delta against the correction
before it. Each call books the difference that its own arguments make: the original position and the previous settlement
are the caller's, and the code compares only their identifiers.

**Main result:** `Pmrp.Settlements.corrections_converge_iff`.
-/

namespace Pmrp
namespace Settlements

open Positions Projections DecimalContext

variable {sha : Sha256} {position : Position} {balance : CashBalance} {first : Settlement} {c : Currency}

/-- The arguments of a correction that its caller takes from elsewhere than the call before it. -/
structure CorrectionCall where
  originalPosition : Position
  previousSettlement : Settlement
  correctedSettlement : Settlement

/-- **Runs.** An open position settled once, then corrected by applied corrections of that settlement,
    oldest first; the position and the balance they leave. -/
inductive Corrected (sha : Sha256) (position : Position) (balance : CashBalance) (first : Settlement)
    (c : Currency) : List CorrectionCall → Position → CashBalance → Prop where
  | settled {ids : Finset String} {sourceEventId : EventId} {createdAt : UTCDateTime}
      {result : SettlementApplicationResult}
      (hok : applySettlementOnce exact sha position balance first ids c.code sourceEventId createdAt
        = .ok result) (happlied : result.applied = true) :
      Corrected sha position balance first c [] result.position result.cashBalance
  | corrected {applied : List CorrectionCall} {settled : Position} {cash : CashBalance} {call : CorrectionCall}
      {ids : Finset String} {sourceEventId : EventId} {createdAt : UTCDateTime}
      {result : SettlementCorrectionApplicationResult}
      (h : Corrected sha position balance first c applied settled cash)
      (hnames : call.previousSettlement.settlementId = first.settlementId)
      (hok : applySettlementCorrectionOnce exact sha call.originalPosition settled cash call.previousSettlement
        call.correctedSettlement ids c.code sourceEventId createdAt = .ok result) (happlied : result.applied = true) :
      Corrected sha position balance first c (applied ++ [call]) result.position result.cashBalance

/-- What a call adds to the payout: its quantity at the difference of its two payouts. -/
def CorrectionCall.delta (call : CorrectionCall) : ℚ :=
  call.originalPosition.quantity *
    (effectivePayout call.originalPosition call.correctedSettlement -
      effectivePayout call.originalPosition call.previousSettlement)

/-- `settled` and `cash` are what closing `position` for this payout in all leaves. -/
structure Books (position : Position) (balance : CashBalance) (payout : ℚ) (settled : Position)
    (cash : CashBalance) : Prop where
  available : cash.available = balance.available + payout
  total : cash.total = balance.total + payout
  realized : settled.realizedPnl.amount = position.realizedPnl.amount
    + (payout - position.quantity * position.averageEntryPrice.getD 0)

/-- A direct settlement books its own payout. -/
theorem settlement_books {ids : Finset String} {sourceEventId : EventId} {createdAt : UTCDateTime}
    {result : SettlementApplicationResult}
    (hok : applySettlementOnce exact sha position balance first ids c.code sourceEventId createdAt
      = .ok result) (happlied : result.applied = true) :
    Books position balance (position.quantity * effectivePayout position first) result.position
      result.cashBalance := by
  obtain ⟨entry, hentry⟩ := applySettlementOnce_entry hok happlied
  obtain ⟨settledAt, -, -, -, -, -, -, -, hposition, hbalance⟩ := applySettlementOnce_applied hok hentry
  rw [hposition, hbalance]
  constructor
  · rfl
  · rfl
  · rw [accounting_settlementPnl]
    rfl

/-- **One more correction** adds the delta of its own arguments. -/
theorem correction_books {settled : Position} {cash : CashBalance} {call : CorrectionCall} {payout : ℚ}
    {ids : Finset String} {sourceEventId : EventId} {createdAt : UTCDateTime}
    {result : SettlementCorrectionApplicationResult} (h : Books position balance payout settled cash)
    (hok : applySettlementCorrectionOnce exact sha call.originalPosition settled cash call.previousSettlement
      call.correctedSettlement ids c.code sourceEventId createdAt = .ok result) (happlied : result.applied = true) :
    Books position balance (payout + call.delta) result.position result.cashBalance := by
  obtain ⟨settledAt, -, -, -, hposition, hbalance⟩ := applySettlementCorrectionOnce_applied hok happlied
  simp only [accounting_settlementPnl, accounting_cashDelta, exact_mul, exact_sub, exact_add] at hposition hbalance
  rw [hposition, hbalance]
  unfold CorrectionCall.delta
  constructor
  · show cash.available + _ = _
    rw [h.available]; ring
  · show cash.total + _ = _
    rw [h.total]; ring
  · show settled.realizedPnl.amount + _ = _
    rw [h.realized]; ring

/-- **What a run books.** The payout of the settlement and the deltas of all corrections. -/
theorem Corrected.books {calls : List CorrectionCall} {settled : Position} {cash : CashBalance}
    (h : Corrected sha position balance first c calls settled cash) :
    Books position balance (position.quantity * effectivePayout position first + (calls.map CorrectionCall.delta).sum)
      settled cash := by
  induction h with
  | settled hok happlied =>
      rw [List.map_nil, List.sum_nil, add_zero]
      exact settlement_books hok happlied
  | corrected h _ hok happlied ih =>
      rw [List.map_append, List.sum_append, List.map_singleton, List.sum_singleton, ← add_assoc]
      exact correction_books ih hok happlied

/-- Two closings of one position agree exactly when they pay the same. -/
theorem Books.agree_iff {payout payout' : ℚ} {p p' : Position} {b b' : CashBalance}
    (h : Books position balance payout p b) (h' : Books position balance payout' p' b') :
    (b.available = b'.available ∧ b.total = b'.total ∧ p.realizedPnl.amount = p'.realizedPnl.amount) ↔
      payout = payout' := by
  constructor
  · rintro ⟨havailable, -, -⟩
    rw [h.available, h'.available] at havailable
    exact add_left_cancel havailable
  · rintro rfl
    exact ⟨h.available.trans h'.available.symm, h.total.trans h'.total.symm,
      h.realized.trans h'.realized.symm⟩

/-- **When corrections converge.** A run of corrections leaves the balance and the realized profit of a
    direct settlement with the outcome and payout of its last correction exactly when the deltas of its calls add up to
    what the position gains from the payout of the last correction over that of the settlement. -/
theorem corrections_converge_iff (earlier : List CorrectionCall) (last : CorrectionCall) {direct : Settlement}
    {settled : Position} {cash : CashBalance} {ids : Finset String} {sourceEventId : EventId} {createdAt : UTCDateTime}
    {result : SettlementApplicationResult}
    (h : Corrected sha position balance first c (earlier ++ [last]) settled cash)
    (houtcome : direct.winningOutcomeIds = last.correctedSettlement.winningOutcomeIds)
    (hpayout : direct.payoutPerUnit = last.correctedSettlement.payoutPerUnit)
    (hok : applySettlementOnce exact sha position balance direct ids c.code sourceEventId createdAt
      = .ok result) (happlied : result.applied = true) :
    (cash.available = result.cashBalance.available ∧ cash.total = result.cashBalance.total ∧
        settled.realizedPnl.amount = result.position.realizedPnl.amount) ↔
      ((earlier ++ [last]).map CorrectionCall.delta).sum = position.quantity *
        (effectivePayout position last.correctedSettlement - effectivePayout position first) := by
  have hsame : effectivePayout position direct = effectivePayout position last.correctedSettlement := by
    rw [effectivePayout, effectivePayout, houtcome, hpayout]
  have hdirect := settlement_books hok happlied
  rw [hsame] at hdirect
  rw [h.books.agree_iff hdirect]
  constructor
  · intro heq; linarith
  · intro hsum; rw [hsum]; ring

/-- Where every call is given the position and the settlement themselves, the corrections before the last one have to
    cancel. -/
theorem deltas_of_given {earlier : List CorrectionCall} {last : CorrectionCall}
    (hgiven : ∀ call ∈ earlier ++ [last], call.originalPosition = position ∧ call.previousSettlement = first) :
    ((earlier ++ [last]).map CorrectionCall.delta).sum = position.quantity *
        (effectivePayout position last.correctedSettlement - effectivePayout position first) ↔
      (earlier.map CorrectionCall.delta).sum = 0 := by
  obtain ⟨hposition, hprevious⟩ := hgiven last (List.mem_append_right _ (List.mem_singleton_self last))
  have hlast : last.delta = position.quantity *
      (effectivePayout position last.correctedSettlement - effectivePayout position first) := by
    rw [CorrectionCall.delta, hposition, hprevious]
  rw [List.map_append, List.sum_append, List.map_singleton, List.sum_singleton, hlast]
  exact add_eq_right

/-! ## The concrete market, settled at 1 and corrected -/

/-- A correction of the concrete settlement to another payout. -/
def marketCorrection (settlementId : SettlementId) (payout : ℚ) (settledAt : UTCDateTime)
    (payout_nonneg : 0 ≤ payout) (settled_after : 4 ≤ settledAt) : Settlement where
  settlementId := settlementId
  marketId := marketIdentity.marketId
  exchange := marketIdentity.exchange
  status := .corrected
  resolution :=
    { winningOutcomeIds := [marketIdentity.outcomeId], resolvedAt := some 2, finalizedAt := some 4
      settledAt := some settledAt, payoutPerUnit := some payout
      correctionOfSettlementId := some (marketSettlement 1 zero_le_one).settlementId }
  source := "exchange"
  exchange_within := (marketSettlement 1 zero_le_one).exchange_within
  source_within := (marketSettlement 1 zero_le_one).source_within
  sourceReference_within := (marketSettlement 1 zero_le_one).sourceReference_within
  payout_nonneg := some_nonneg payout_nonneg
  lifecycle := by simpa [LifecycleOk] using settled_after

def toNothing : Settlement := marketCorrection ⟨"set_2", by decide⟩ 0 5 le_rfl (by decide)
def backToOne : Settlement := marketCorrection ⟨"set_3", by decide⟩ 1 6 zero_le_one (by decide)

/-- The concrete position once closed. -/
def closedPosition (realized : ℚ) (settledAt : UTCDateTime) (version : ℕ) : Position :=
  { flattened heldPosition realized usd settledAt with aggregateVersion := version }

/-- The balance of the concrete account at a later time. -/
def paidBalance (available : ℚ) (capturedAt : UTCDateTime) : CashBalance :=
  { marketBalance available 0 with capturedAt := capturedAt }

def marketSettled (payout : ℚ) (payout_nonneg : 0 ≤ payout) : Result SettlementApplicationResult :=
  applySettlementOnce exact .constant heldPosition (marketBalance 10 0) (marketSettlement payout payout_nonneg)
    ∅ usd.code settleEvent 9

/-- A correction of the concrete position that is given this settlement as the one before it. -/
def correctionCall (previous correction : Settlement) : CorrectionCall := ⟨heldPosition, previous, correction⟩

def marketCorrected (settled : Position) (cash : CashBalance) (previous correction : Settlement) :
    Result SettlementCorrectionApplicationResult :=
  applySettlementCorrectionOnce exact .constant heldPosition settled cash previous correction ∅ usd.code
    ⟨"evt_correct", by decide⟩ 9

theorem marketSettled_ok : ∃ result, marketSettled 1 zero_le_one = .ok result ∧
    (result.position, result.cashBalance, result.applied) = (closedPosition 1 4 2, paidBalance 12 4, true) :=
  (map_eq_ok (f := fun r : SettlementApplicationResult => (r.position, r.cashBalance, r.applied))).mp
    (by decide +kernel)

theorem toNothing_ok : ∃ result,
    marketCorrected (closedPosition 1 4 2) (paidBalance 12 4) (marketSettlement 1 zero_le_one) toNothing = .ok result ∧
    (result.position, result.cashBalance, result.applied) = (closedPosition (-1) 5 3, paidBalance 10 5, true) :=
  (map_eq_ok (f := fun r : SettlementCorrectionApplicationResult =>
    (r.position, r.cashBalance, r.applied))).mp (by decide +kernel)

theorem backToOne_ok : ∃ result,
    marketCorrected (closedPosition (-1) 5 3) (paidBalance 10 5) (marketSettlement 1 zero_le_one) backToOne
      = .ok result ∧
    (result.position, result.cashBalance, result.applied) = (closedPosition (-1) 6 4, paidBalance 10 6, true) :=
  (map_eq_ok (f := fun r : SettlementCorrectionApplicationResult =>
    (r.position, r.cashBalance, r.applied))).mp (by decide +kernel)

/-- The settlement is given with the payout that it was corrected to. -/
theorem backToOne_chained : ∃ result,
    marketCorrected (closedPosition (-1) 5 3) (paidBalance 10 5) (marketSettlement 0 le_rfl) backToOne = .ok result ∧
    (result.position, result.cashBalance, result.applied) = (closedPosition 1 6 4, paidBalance 12 6, true) :=
  (map_eq_ok (f := fun r : SettlementCorrectionApplicationResult =>
    (r.position, r.cashBalance, r.applied))).mp (by decide +kernel)

/-- Settled at 1, then corrected to nothing. -/
theorem corrected_toNothing : Corrected .constant heldPosition (marketBalance 10 0) (marketSettlement 1 zero_le_one) usd
    [correctionCall (marketSettlement 1 zero_le_one) toNothing] (closedPosition (-1) 5 3) (paidBalance 10 5) := by
  obtain ⟨result, hresult, heq⟩ := marketSettled_ok
  obtain ⟨second, hsecond, heq'⟩ := toNothing_ok
  simp only [Prod.mk.injEq] at heq heq'
  have h := Corrected.settled hresult heq.2.2
  rw [heq.1, heq.2.1] at h
  have h' : Corrected .constant heldPosition (marketBalance 10 0) (marketSettlement 1 zero_le_one) usd
      ([] ++ [correctionCall (marketSettlement 1 zero_le_one) toNothing]) second.position second.cashBalance :=
    .corrected h rfl hsecond heq'.2.2
  rwa [heq'.1, heq'.2.1] at h'

/-- Settled at 1, corrected to nothing, and back to 1 as a correction of what pays nothing. -/
theorem corrections_converge_iff_chained : ∃ result, marketSettled 1 zero_le_one = .ok result ∧
    (paidBalance 12 6).available = result.cashBalance.available ∧
    (paidBalance 12 6).total = result.cashBalance.total ∧
    (closedPosition 1 6 4).realizedPnl.amount = result.position.realizedPnl.amount := by
  obtain ⟨result, hok, heq⟩ := marketSettled_ok
  obtain ⟨last, hlast, heq'⟩ := backToOne_chained
  simp only [Prod.mk.injEq] at heq heq'
  have h : Corrected .constant heldPosition (marketBalance 10 0) (marketSettlement 1 zero_le_one) usd
      ([correctionCall (marketSettlement 1 zero_le_one) toNothing] ++
        [correctionCall (marketSettlement 0 le_rfl) backToOne]) last.position last.cashBalance :=
    .corrected corrected_toNothing rfl hlast heq'.2.2
  rw [heq'.1, heq'.2.1] at h
  have houtcome : (marketSettlement 1 zero_le_one).winningOutcomeIds = backToOne.winningOutcomeIds := rfl
  have hpayout : (marketSettlement 1 zero_le_one).payoutPerUnit = backToOne.payoutPerUnit := rfl
  exact ⟨result, hok, (corrections_converge_iff _ _ h houtcome hpayout hok heq.2.2).mpr (by decide +kernel)⟩

/-- **Two corrections do not converge.** Settled at 1, corrected to nothing and back to 1, the account ends
    with 10, and settled at 1 it ends with 12. -/
theorem corrections_drift : ∃ result, marketSettled 1 zero_le_one = .ok result ∧ result.applied = true ∧
    Corrected .constant heldPosition (marketBalance 10 0) (marketSettlement 1 zero_le_one) usd
      [correctionCall (marketSettlement 1 zero_le_one) toNothing,
        correctionCall (marketSettlement 1 zero_le_one) backToOne] (closedPosition (-1) 6 4) (paidBalance 10 6) ∧
    (marketSettlement 1 zero_le_one).winningOutcomeIds = backToOne.winningOutcomeIds ∧
    (marketSettlement 1 zero_le_one).payoutPerUnit = backToOne.payoutPerUnit ∧
    (paidBalance 10 6).available ≠ result.cashBalance.available := by
  obtain ⟨result, hok, heq⟩ := marketSettled_ok
  obtain ⟨last, hlast, heq'⟩ := backToOne_ok
  simp only [Prod.mk.injEq] at heq heq'
  have h : Corrected .constant heldPosition (marketBalance 10 0) (marketSettlement 1 zero_le_one) usd
      ([correctionCall (marketSettlement 1 zero_le_one) toNothing] ++
        [correctionCall (marketSettlement 1 zero_le_one) backToOne]) last.position last.cashBalance :=
    .corrected corrected_toNothing rfl hlast heq'.2.2
  rw [heq'.1, heq'.2.1] at h
  refine ⟨result, hok, heq.2.2, h, rfl, rfl, ?_⟩
  rw [heq.2.1]; decide +kernel

end Settlements
end Pmrp
