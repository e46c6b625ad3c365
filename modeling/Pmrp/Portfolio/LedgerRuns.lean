import Pmrp.Lib.OptimisticSaves
import Pmrp.Portfolio.Fees
import Pmrp.Portfolio.Settlement
import Pmrp.Portfolio.Transfers

/-!
# `Portfolio.LedgerRuns` — operations of the portfolio against one ledger

The apply-once functions take the balances and positions they work on and a set of applied ids, and return new ones.
A ledger is what their caller keeps. An operation holds the arguments that are not part of the ledger, and the ids
of the balances and the position to pass with them.

- **One operation.** `apply` makes the call and puts what it returned back into the ledger.
- **Runs.** `attempt` also keeps the ledger when the call raises, and `run` attempts operations one after another.
-/

namespace Pmrp
namespace LedgerRuns

variable (ctx : DecimalContext) (sha : Sha256)

structure Ledger where
  balances : Table CashBalance.balanceId
  positions : Table Position.positionId
  appliedJournalEntryIds : Finset String

inductive Operation
  | fee (balanceId : String) (amount : Money) (feeId : String) (sourceEventId : EventId)
      (occurredAt createdAt : UTCDateTime)
  | rebate (balanceId : String) (amount : Money) (rebateId : String) (sourceEventId : EventId)
      (occurredAt createdAt : UTCDateTime)
  | cashTransfer (fromBalanceId toBalanceId : String) (amount : Money) (transferId : String)
      (sourceEventId : EventId) (occurredAt createdAt : UTCDateTime)
  | settlement (balanceId : String) (positionId : PositionId) (settlement : Settlement) (currency : String)
      (sourceEventId : EventId) (createdAt : UTCDateTime)
  | settlementCorrection (balanceId : String) (positionId : PositionId) (originalPosition : Position)
      (previousSettlement correctedSettlement : Settlement) (currency : String) (sourceEventId : EventId)
      (createdAt : UTCDateTime)
  | balanceCorrection (balanceId : String) (observedBalance : ObservedBalance) (referenceId : String)
      (sourceEventId : EventId) (createdAt : UTCDateTime)
  | journal (balanceId : String) (journalEntry : AccountingJournalEntry)

/-- The ledger after a call that returned, the entry it booked and its `applied` flag. -/
structure Outcome where
  ledger : Ledger
  journalEntry : Option AccountingJournalEntry
  applied : Bool

namespace Ledger

/-- The balance an operation is on; `keyError` stands for a balance that the caller does not have. -/
def balance (ledger : Ledger) (balanceId : String) : Result CashBalance :=
  match ledger.balances.lookup balanceId with
  | none => .error ⟨.keyError, balanceId⟩
  | some balance => .ok balance

def position (ledger : Ledger) (positionId : PositionId) : Result Position :=
  match ledger.positions.lookup positionId with
  | none => .error ⟨.keyError, positionId.val⟩
  | some position => .ok position

def withBalance (ledger : Ledger) (balance : CashBalance) (appliedJournalEntryIds : Finset String) : Ledger :=
  { ledger with balances := ledger.balances.put balance, appliedJournalEntryIds }

def withPosition (ledger : Ledger) (position : Position) : Ledger :=
  { ledger with positions := ledger.positions.put position }

end Ledger

def apply (ledger : Ledger) : Operation → Result Outcome
  | .fee balanceId amount feeId sourceEventId occurredAt createdAt => do
      let balance ← ledger.balance balanceId
      let result ← Fees.applyFeeOnce ctx sha balance amount feeId ledger.appliedJournalEntryIds sourceEventId
        occurredAt createdAt
      pure ⟨ledger.withBalance result.balance result.appliedJournalEntryIds, result.journalEntry, result.applied⟩
  | .rebate balanceId amount rebateId sourceEventId occurredAt createdAt => do
      let balance ← ledger.balance balanceId
      let result ← Fees.applyRebateOnce ctx sha balance amount rebateId ledger.appliedJournalEntryIds sourceEventId
        occurredAt createdAt
      pure ⟨ledger.withBalance result.balance result.appliedJournalEntryIds, result.journalEntry, result.applied⟩
  | .cashTransfer fromBalanceId toBalanceId amount transferId sourceEventId occurredAt createdAt => do
      let fromBalance ← ledger.balance fromBalanceId
      let toBalance ← ledger.balance toBalanceId
      let result ← Transfers.applyCashTransferOnce ctx sha fromBalance toBalance amount transferId
        ledger.appliedJournalEntryIds sourceEventId occurredAt createdAt
      let outbound := ledger.withBalance result.fromBalance result.appliedJournalEntryIds
      pure ⟨outbound.withBalance result.toBalance result.appliedJournalEntryIds, result.journalEntry, result.applied⟩
  | .settlement balanceId positionId settlement currency sourceEventId createdAt => do
      let balance ← ledger.balance balanceId
      let position ← ledger.position positionId
      let result ← Settlements.applySettlementOnce ctx sha position balance settlement
        ledger.appliedJournalEntryIds currency sourceEventId createdAt
      let settled := ledger.withBalance result.cashBalance result.appliedJournalEntryIds
      pure ⟨settled.withPosition result.position, result.journalEntry, result.applied⟩
  | .settlementCorrection balanceId positionId originalPosition previousSettlement correctedSettlement currency
      sourceEventId createdAt => do
      let balance ← ledger.balance balanceId
      let position ← ledger.position positionId
      let result ← Settlements.applySettlementCorrectionOnce ctx sha originalPosition position balance
        previousSettlement correctedSettlement ledger.appliedJournalEntryIds currency sourceEventId createdAt
      let corrected := ledger.withBalance result.cashBalance result.appliedJournalEntryIds
      pure ⟨corrected.withPosition result.position, result.journalEntry, result.applied⟩
  | .balanceCorrection balanceId observedBalance referenceId sourceEventId createdAt => do
      let balance ← ledger.balance balanceId
      let result ← Balances.applyBalanceCorrectionOnce ctx sha balance observedBalance ledger.appliedJournalEntryIds
        referenceId sourceEventId createdAt
      pure ⟨ledger.withBalance result.balance result.appliedJournalEntryIds, result.journalEntry, result.applied⟩
  | .journal balanceId journalEntry => do
      let balance ← ledger.balance balanceId
      let result ← Balances.applyJournalToCashBalanceOnce ctx balance journalEntry ledger.appliedJournalEntryIds
      pure ⟨ledger.withBalance result.balance result.appliedJournalEntryIds,
        if result.applied then some journalEntry else none, result.applied⟩

/-- The ledger after a call, the old one if it raised. -/
def attempt (ledger : Ledger) (operation : Operation) : Ledger :=
  match apply ctx sha ledger operation with
  | .error _ => ledger
  | .ok outcome => outcome.ledger

def run (ledger : Ledger) (operations : List Operation) : Ledger :=
  operations.foldl (attempt ctx sha) ledger

/-! ## Reading a ledger -/

variable {ctx sha} {ledger : Ledger} {balanceId : String} {positionId : PositionId}

theorem Ledger.balance_eq_ok {balance : CashBalance} :
    ledger.balance balanceId = .ok balance ↔ ledger.balances.lookup balanceId = some balance := by
  unfold Ledger.balance
  cases ledger.balances.lookup balanceId <;> simp

theorem Ledger.position_eq_ok {position : Position} :
    ledger.position positionId = .ok position ↔ ledger.positions.lookup positionId = some position := by
  unfold Ledger.position
  cases ledger.positions.lookup positionId <;> simp

theorem Ledger.lookup_withBalance (balance : CashBalance) (ids : Finset String) (k : String) :
    (ledger.withBalance balance ids).balances.lookup k
      = if k = balance.balanceId then some balance else ledger.balances.lookup k :=
  Function.update_apply _ _ _ _

theorem Ledger.lookup_withPosition (position : Position) (k : PositionId) :
    (ledger.withPosition position).positions.lookup k
      = if k = position.positionId then some position else ledger.positions.lookup k :=
  Function.update_apply _ _ _ _

/-- Putting the row that is already there changes nothing. -/
theorem Ledger.withBalance_self {balance : CashBalance} (h : ledger.balances.lookup balanceId = some balance) :
    ledger.withBalance balance ledger.appliedJournalEntryIds = ledger := by
  have hkey := ledger.balances.keyed _ _ h
  have hput : ledger.balances.put balance = ledger.balances := Table.put_self (hkey ▸ h)
  rw [Ledger.withBalance, hput]

theorem Ledger.withPosition_self {position : Position} (h : ledger.positions.lookup positionId = some position) :
    ledger.withPosition position = ledger := by
  have hkey := ledger.positions.keyed _ _ h
  have hput : ledger.positions.put position = ledger.positions := Table.put_self (hkey ▸ h)
  rw [Ledger.withPosition, hput]

theorem attempt_of_ok {operation : Operation} {outcome : Outcome}
    (h : apply ctx sha ledger operation = .ok outcome) : attempt ctx sha ledger operation = outcome.ledger := by
  rw [attempt, h]

/-- A call that raises leaves every balance, every position and the set of applied ids. -/
theorem attempt_of_error {operation : Operation} {e : PyError}
    (h : apply ctx sha ledger operation = .error e) : attempt ctx sha ledger operation = ledger := by
  rw [attempt, h]

/-- What every call that returns keeps holds at the end of a run. -/
theorem run_inv (Inv : Ledger → Prop)
    (hstep : ∀ ledger operation outcome, Inv ledger → apply ctx sha ledger operation = .ok outcome →
      Inv outcome.ledger)
    {ledger : Ledger} (h : Inv ledger) (operations : List Operation) : Inv (run ctx sha ledger operations) := by
  induction operations generalizing ledger with
  | nil => exact h
  | cons operation operations ih =>
      refine @ih (attempt ctx sha ledger operation) ?_
      cases hcall : apply ctx sha ledger operation with
      | error e => rw [attempt_of_error hcall]; exact h
      | ok outcome => rw [attempt_of_ok hcall]; exact hstep ledger operation outcome h hcall

end LedgerRuns
end Pmrp
