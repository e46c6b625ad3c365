import Pmrp.Lib.OptimisticSaves
import Pmrp.Schemas.Portfolio
import Pmrp.Storage.Columns

/-!
# `Storage.Positions` — the position repository

`PositionRow` of `storage/models/portfolio.py`, and `get` and `save` of `storage/repositories/positions.py`. A row
has one currency for the four amounts of a position.
-/

namespace Pmrp

structure PositionRow where
  positionId : PositionId
  exchange : String
  accountId : AccountId
  marketId : MarketId
  contractId : ContractId
  outcomeId : OutcomeId
  quantity : ℚ
  averageEntryPrice : Option ℚ
  realizedPnlAmount : ℚ
  unrealizedPnlAmount : ℚ
  currency : Currency
  feesPaidAmount : ℚ
  rebatesReceivedAmount : ℚ
  openedAt : Option UTCDateTime
  lastUpdatedAt : UTCDateTime
  aggregateVersion : ℕ
  deriving DecidableEq

namespace PositionRepository

/-! ## Rows -/

def positionRowValues (position : Position) : Result PositionRow := do
  -- `_position_currency`
  raiseIf (¬(position.unrealizedPnl.currency = position.realizedPnl.currency ∧
      position.feesPaid.currency = position.realizedPnl.currency ∧
      position.rebatesReceived.currency = position.realizedPnl.currency))
    ⟨.invariantViolationError, "position monetary fields must share one currency"⟩
  pure {
    positionId := position.positionId, exchange := position.exchange, accountId := position.accountId,
    marketId := position.marketId, contractId := position.contractId, outcomeId := position.outcomeId,
    quantity := position.quantity, averageEntryPrice := position.averageEntryPrice,
    realizedPnlAmount := position.realizedPnl.amount, unrealizedPnlAmount := position.unrealizedPnl.amount,
    currency := position.realizedPnl.currency, feesPaidAmount := position.feesPaid.amount,
    rebatesReceivedAmount := position.rebatesReceived.amount, openedAt := position.openedAt,
    lastUpdatedAt := position.lastUpdatedAt, aggregateVersion := position.aggregateVersion }

/-- The `Position` of a row, before its validators run. -/
def rowPosition (row : PositionRow) : Position where
  positionId := row.positionId
  exchange := row.exchange
  accountId := row.accountId
  marketId := row.marketId
  contractId := row.contractId
  outcomeId := row.outcomeId
  quantity := row.quantity
  averageEntryPrice := row.averageEntryPrice
  realizedPnl := ⟨row.realizedPnlAmount, row.currency⟩
  unrealizedPnl := ⟨row.unrealizedPnlAmount, row.currency⟩
  feesPaid := ⟨row.feesPaidAmount, row.currency⟩
  rebatesReceived := ⟨row.rebatesReceivedAmount, row.currency⟩
  openedAt := row.openedAt
  lastUpdatedAt := row.lastUpdatedAt
  aggregateVersion := row.aggregateVersion

def positionFromRow (row : PositionRow) : Result Position := (rowPosition row).validate

/-- The row as its numeric columns keep it. -/
def storeRow (column : NumericColumn) (row : PositionRow) : Result PositionRow := do
  let quantity ← column.storeValue row.quantity
  let averageEntryPrice ← column.storeOptional row.averageEntryPrice
  let realizedPnlAmount ← column.storeValue row.realizedPnlAmount
  let unrealizedPnlAmount ← column.storeValue row.unrealizedPnlAmount
  let feesPaidAmount ← column.storeValue row.feesPaidAmount
  let rebatesReceivedAmount ← column.storeValue row.rebatesReceivedAmount
  pure { row with
    quantity, averageEntryPrice, realizedPnlAmount, unrealizedPnlAmount, feesPaidAmount,
    rebatesReceivedAmount }

/-! ## The repository -/

abbrev PositionTable := Table PositionRow.positionId

def get (table : PositionTable) (positionId : PositionId) : Result (Option Position) :=
  match table.lookup positionId with
  | none => .ok none
  | some row => (positionFromRow row).map some

/-- The checks before the statement, and the values it sets. -/
def saveValues (position : Position) (expectedVersion : ℕ) : Result PositionRow := do
  raiseIf (position.aggregateVersion ≠ expectedVersion + 1)
    ⟨.invariantViolationError, "position aggregate_version must increment expected_version by one"⟩
  positionRowValues position

def versionConflict : PyError := ⟨.concurrencyConflictError, "position version conflict"⟩

/-- What `save` returns or raises, and the table it leaves. -/
def save (column : NumericColumn) (table : PositionTable) (position : Position) (expectedVersion : ℕ) :
    Result Unit × PositionTable :=
  match saveValues position expectedVersion with
  | .error e => (.error e, table)
  | .ok row =>
      match table.updateWhere (storeRow column) (fun stored => stored.aggregateVersion = expectedVersion) row with
      | .error e => (.error e, table)
      | .ok (table', rowCount) => (raiseIf (rowCount ≠ 1) versionConflict, table')

/-! ## What the mappings keep -/

theorem positionRowValues_eq_ok {position : Position} {row : PositionRow}
    (h : positionRowValues position = .ok row) : rowPosition row = position := by
  simp only [positionRowValues, bind_eq_ok, raiseIf_eq_ok, exists_const, not_not, pure_eq_ok] at h
  obtain ⟨⟨hunrealized, hfees, hrebates⟩, rfl⟩ := h
  obtain ⟨positionId, exchange, accountId, marketId, contractId, outcomeId, quantity, averageEntryPrice,
    ⟨realized, currency⟩, ⟨unrealized, currency₁⟩, ⟨fees, currency₂⟩, ⟨rebates, currency₃⟩, openedAt,
    lastUpdatedAt, aggregateVersion⟩ := position
  dsimp only at hunrealized hfees hrebates
  subst hunrealized hfees hrebates
  rfl

/-- What a position becomes in the table and back. -/
def stored (column : NumericColumn) (position : Position) : Result Position := do
  let row ← positionRowValues position
  let storedRow ← storeRow column row
  positionFromRow storedRow

/-- The money of a position is in one currency, the one of its row. -/
structure OneCurrency (position : Position) : Prop where
  unrealized : position.unrealizedPnl.currency = position.realizedPnl.currency
  fees : position.feesPaid.currency = position.realizedPnl.currency
  rebates : position.rebatesReceived.currency = position.realizedPnl.currency

/-- The columns keep every number of the position. -/
structure Kept (column : NumericColumn) (position : Position) : Prop where
  quantity : column.Keeps position.quantity
  average : ∀ average ∈ position.averageEntryPrice, column.Keeps average
  realized : column.Keeps position.realizedPnl.amount
  unrealized : column.Keeps position.unrealizedPnl.amount
  fees : column.Keeps position.feesPaid.amount
  rebates : column.Keeps position.rebatesReceived.amount

theorem positionRowValues_ok {position : Position} (h : OneCurrency position) :
    ∃ row, positionRowValues position = .ok row ∧ rowPosition row = position := by
  have hcurrency : ¬¬(position.unrealizedPnl.currency = position.realizedPnl.currency ∧
      position.feesPaid.currency = position.realizedPnl.currency ∧
      position.rebatesReceived.currency = position.realizedPnl.currency) :=
    not_not.mpr ⟨h.unrealized, h.fees, h.rebates⟩
  have hreturns : ∃ row, positionRowValues position = .ok row := by
    rw [positionRowValues, raiseIf_bind_of_not hcurrency]
    exact ⟨_, rfl⟩
  obtain ⟨row, hrow⟩ := hreturns
  exact ⟨row, hrow, positionRowValues_eq_ok hrow⟩

/-- **Storing a position.** It comes back unchanged exactly when the columns keep its numbers. -/
theorem stored_eq_self {column : NumericColumn} {position : Position} (hvalid : position.Valid)
    (hcurrency : OneCurrency position) : stored column position = .ok position ↔ Kept column position := by
  obtain ⟨row, hrow, rfl⟩ := positionRowValues_ok hcurrency
  simp only [stored, hrow, ok_bind, storeRow, bind_eq_ok, pure_eq_ok, positionFromRow, Position.validate_eq_ok,
    NumericColumn.storeValue_eq_ok]
  constructor
  · rintro ⟨_, ⟨quantity, hquantity, average, haverage, realized, hrealized, unrealized, hunrealized, fees, hfees,
      rebates, hrebates, rfl⟩, -, hsame⟩
    obtain rfl : row.quantity = quantity := congrArg Position.quantity hsame
    obtain rfl : row.averageEntryPrice = average := congrArg Position.averageEntryPrice hsame
    obtain rfl : row.realizedPnlAmount = realized := congrArg (Money.amount ∘ Position.realizedPnl) hsame
    obtain rfl : row.unrealizedPnlAmount = unrealized := congrArg (Money.amount ∘ Position.unrealizedPnl) hsame
    obtain rfl : row.feesPaidAmount = fees := congrArg (Money.amount ∘ Position.feesPaid) hsame
    obtain rfl : row.rebatesReceivedAmount = rebates := congrArg (Money.amount ∘ Position.rebatesReceived) hsame
    exact ⟨hquantity, NumericColumn.storeOptional_eq_self.mp haverage, hrealized, hunrealized, hfees, hrebates⟩
  · intro h
    exact ⟨row, ⟨_, h.quantity, _, NumericColumn.storeOptional_eq_self.mpr h.average, _, h.realized, _, h.unrealized, _,
      h.fees, _, h.rebates, rfl⟩, hvalid, rfl⟩

/-- After a save that returned, the repository reads what the columns made of the position. -/
theorem get_save {column : NumericColumn} {table table' : PositionTable} {position : Position} {expectedVersion : ℕ}
    (h : save column table position expectedVersion = (.ok ⟨⟩, table')) :
    get table' position.positionId = (stored column position).map some := by
  unfold save at h
  cases hvalues : saveValues position expectedVersion with
  | error e => rw [hvalues] at h; cases (Prod.mk.inj h).1
  | ok row =>
      rw [hvalues] at h
      dsimp only at h
      simp only [saveValues, bind_eq_ok] at hvalues
      obtain ⟨-, -, hrow⟩ := hvalues
      have hid : row.positionId = position.positionId := congrArg Position.positionId (positionRowValues_eq_ok hrow)
      split at h
      · cases (Prod.mk.inj h).1
      · rename_i updated rowCount hupdate
        obtain ⟨hraise, rfl⟩ := Prod.mk.inj h
        obtain rfl : rowCount = 1 := not_not.mp (raiseIf_eq_ok.mp hraise)
        obtain ⟨-, storedRow, hstore, rfl⟩ := Table.updateWhere_one hupdate
        have hkey : storedRow.positionId = position.positionId := by
          simp only [storeRow, bind_eq_ok, pure_eq_ok] at hstore
          obtain ⟨_, -, _, -, _, -, _, -, _, -, _, -, rfl⟩ := hstore
          exact hid
        have hlookup : (table.put storedRow).lookup position.positionId = some storedRow :=
          hkey ▸ Function.update_self _ _ _
        rw [get, hlookup, stored, hrow, ok_bind, hstore, ok_bind]

theorem storeRow_exact (row : PositionRow) : storeRow .exact row = .ok row := by
  simp only [storeRow, NumericColumn.exact_storeValue, NumericColumn.exact_storeOptional, ok_bind]
  rfl

end PositionRepository
end Pmrp
