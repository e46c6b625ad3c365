import Pmrp.Lib.OptimisticSaves
import Pmrp.Schemas.Portfolio
import Pmrp.Storage.Columns

/-!
# `Storage.CashBalances` — the cash balance repository

`CashBalanceRow` of `storage/models/portfolio.py`, and `get_record` and `save` of
`storage/repositories/cash_balances.py`. The version of a balance is kept in the row only.
-/

namespace Pmrp

structure CashBalanceRow where
  balanceId : String
  exchange : String
  accountId : AccountId
  currency : Currency
  available : ℚ
  reserved : ℚ
  total : ℚ
  capturedAt : UTCDateTime
  aggregateVersion : ℕ
  deriving DecidableEq

/-- A balance with the version it is stored under. -/
structure CashBalanceRecord where
  balance : CashBalance
  aggregateVersion : ℕ
  deriving DecidableEq

namespace CashBalanceRepository

variable (ctx : DecimalContext)

/-! ## Rows -/

def cashBalanceRowValues (balance : CashBalance) (aggregateVersion : ℕ) : CashBalanceRow where
  balanceId := balance.balanceId
  exchange := balance.exchange
  accountId := balance.accountId
  currency := balance.currency
  available := balance.available
  reserved := balance.reserved
  total := balance.total
  capturedAt := balance.capturedAt
  aggregateVersion := aggregateVersion

/-- The `CashBalance` of a row, before its validators run. -/
def rowBalance (row : CashBalanceRow) : CashBalance where
  balanceId := row.balanceId
  exchange := row.exchange
  accountId := row.accountId
  currency := row.currency
  available := row.available
  reserved := row.reserved
  total := row.total
  capturedAt := row.capturedAt

def cashBalanceFromRow (row : CashBalanceRow) : Result CashBalance := (rowBalance row).validate ctx

def cashBalanceRecordFromRow (row : CashBalanceRow) : Result CashBalanceRecord :=
  (cashBalanceFromRow ctx row).map fun balance => ⟨balance, row.aggregateVersion⟩

/-- The row as its numeric columns keep it, under the check constraint `balance_identity`. -/
def storeRow (column : NumericColumn) (row : CashBalanceRow) : Result CashBalanceRow := do
  let available ← column.storeValue row.available
  let reserved ← column.storeValue row.reserved
  let total ← column.storeValue row.total
  raiseIf (available + reserved ≠ total) checkViolation
  pure { row with available, reserved, total }

/-! ## The repository -/

abbrev CashBalanceTable := Table CashBalanceRow.balanceId

def getRecord (table : CashBalanceTable) (balanceId : String) : Result (Option CashBalanceRecord) :=
  match table.lookup balanceId with
  | none => .ok none
  | some row => (cashBalanceRecordFromRow ctx row).map some

def versionConflict : PyError := ⟨.concurrencyConflictError, "cash balance version conflict"⟩

/-- What `save` returns or raises, and the table it leaves. -/
def save (column : NumericColumn) (table : CashBalanceTable) (balance : CashBalance) (expectedVersion : ℕ) :
    Result Unit × CashBalanceTable :=
  let row := cashBalanceRowValues balance (expectedVersion + 1)
  match table.updateWhere (storeRow column) (fun stored => stored.aggregateVersion = expectedVersion) row with
  | .error e => (.error e, table)
  | .ok (table', rowCount) => (raiseIf (rowCount ≠ 1) versionConflict, table')

/-! ## What the mappings keep -/

/-- What a balance becomes in the table and back. -/
def stored (column : NumericColumn) (balance : CashBalance) (aggregateVersion : ℕ) : Result CashBalance := do
  let row ← storeRow column (cashBalanceRowValues balance aggregateVersion)
  cashBalanceFromRow ctx row

/-- The columns keep every amount of the balance, and the check constraint holds of them. -/
structure Kept (column : NumericColumn) (balance : CashBalance) : Prop where
  available : column.Keeps balance.available
  reserved : column.Keeps balance.reserved
  total : column.Keeps balance.total
  identity : balance.available + balance.reserved = balance.total

variable {ctx}

/-- **Storing a balance.** It comes back unchanged exactly when the columns keep its amounts and these add up. -/
theorem stored_eq_self {column : NumericColumn} {balance : CashBalance} {aggregateVersion : ℕ}
    (hvalid : balance.Valid ctx) : stored ctx column balance aggregateVersion = .ok balance ↔ Kept column balance := by
  simp only [stored, storeRow, bind_eq_ok, pure_eq_ok, cashBalanceFromRow, CashBalance.validate_eq_ok,
    NumericColumn.storeValue_eq_ok, raiseIf_eq_ok, exists_const, not_not]
  constructor
  · rintro ⟨_, ⟨available, havailable, reserved, hreserved, total, htotal, hsum, rfl⟩, -, hsame⟩
    obtain rfl : balance.available = available := congrArg CashBalance.available hsame
    obtain rfl : balance.reserved = reserved := congrArg CashBalance.reserved hsame
    obtain rfl : balance.total = total := congrArg CashBalance.total hsame
    exact ⟨havailable, hreserved, htotal, hsum⟩
  · intro h
    exact ⟨_, ⟨_, h.available, _, h.reserved, _, h.total, h.identity, rfl⟩, hvalid, rfl⟩

/-- After a save that returned, the repository reads what the columns made of the balance. -/
theorem getRecord_save {column : NumericColumn} {table table' : CashBalanceTable} {balance : CashBalance}
    {expectedVersion : ℕ} (h : save column table balance expectedVersion = (.ok ⟨⟩, table')) :
    getRecord ctx table' balance.balanceId = (stored ctx column balance (expectedVersion + 1)).map fun read =>
      some ⟨read, expectedVersion + 1⟩ := by
  unfold save at h
  dsimp only at h
  split at h
  · cases (Prod.mk.inj h).1
  · rename_i updated rowCount hupdate
    obtain ⟨hraise, rfl⟩ := Prod.mk.inj h
    obtain rfl : rowCount = 1 := not_not.mp (raiseIf_eq_ok.mp hraise)
    obtain ⟨-, storedRow, hstore, rfl⟩ := Table.updateWhere_one hupdate
    have hkept : storedRow.balanceId = balance.balanceId ∧ storedRow.aggregateVersion = expectedVersion + 1 := by
      simp only [storeRow, bind_eq_ok, pure_eq_ok] at hstore
      obtain ⟨_, -, _, -, _, -, _, -, rfl⟩ := hstore
      exact ⟨rfl, rfl⟩
    have hlookup : (table.put storedRow).lookup balance.balanceId = some storedRow :=
      hkept.1 ▸ Function.update_self _ _ _
    rw [getRecord, hlookup, stored, hstore, ok_bind]
    dsimp only
    rw [cashBalanceRecordFromRow, hkept.2]
    cases cashBalanceFromRow ctx storedRow <;> rfl

/-- Columns that keep every value store a row or refuse it. -/
theorem storeRow_exact {row stored : CashBalanceRow} (h : storeRow .exact row = .ok stored) : stored = row := by
  simp only [storeRow, NumericColumn.exact_storeValue, ok_bind, bind_eq_ok, raiseIf_eq_ok, exists_const,
    pure_eq_ok] at h
  exact h.2.symm

end CashBalanceRepository
end Pmrp
