import Pmrp.Portfolio.Balances
import Pmrp.Portfolio.Positions
import Pmrp.Storage.CashBalances
import Pmrp.Storage.Positions

/-!
# `Storage.Correctness.NoLostUpdates` — positions and balances under concurrent saves

Both repositories with their projections are clients in the sense of `Lib.OptimisticSaves`, in exact arithmetic
and with exact columns (`noLostUpdates`).
-/

namespace Pmrp
namespace NoLostUpdates

/-! ## Positions -/

/-- The arguments of `apply_fill_to_position` besides the position. -/
structure FillInput where
  fill : Fill
  currency : String
  positionId : Option PositionId

/-- Quantity, fees and rebates. -/
def positionAmounts (row : PositionRow) : ℚ × ℚ × ℚ :=
  (row.quantity, row.feesPaidAmount, row.rebatesReceivedAmount)

def fillDelta (fill : Fill) : ℚ × ℚ × ℚ :=
  (Positions.signedFillQuantity .exact fill, optionalAmount fill.fee, optionalAmount fill.rebate)

def positionClient (sha : Sha256) :
    OptimisticClient PositionId PositionRow Position Position FillInput (ℚ × ℚ × ℚ) PyError where
  key := PositionRow.positionId
  version := PositionRow.aggregateVersion
  read := PositionRepository.positionFromRow
  readVersion := Position.aggregateVersion
  project position input :=
    (Positions.applyFillToPosition .exact sha (some position) input.fill input.currency input.positionId).map
      fun projection => (projection.position, fillDelta input.fill)
  write := PositionRepository.saveValues
  store := PositionRepository.storeRow .exact
  conflict _ := PositionRepository.versionConflict

theorem positionClient_get (sha : Sha256) (table : PositionRepository.PositionTable) (positionId : PositionId) :
    (positionClient sha).get table positionId = PositionRepository.get table positionId := by
  unfold OptimisticClient.get PositionRepository.get
  cases table.lookup positionId <;> rfl

theorem positionClient_save (sha : Sha256) (table : PositionRepository.PositionTable) (position : Position)
    (expectedVersion : ℕ) : (positionClient sha).save table position expectedVersion =
      PositionRepository.save .exact table position expectedVersion := by
  unfold OptimisticClient.save PositionRepository.save positionClient
  dsimp only
  cases PositionRepository.saveValues position expectedVersion with
  | error e => rfl
  | ok row =>
      dsimp only
      cases table.updateWhere (PositionRepository.storeRow .exact)
        (fun stored => stored.aggregateVersion = expectedVersion) row <;> rfl

theorem saveValues_eq_ok {position : Position} {expectedVersion : ℕ} {row : PositionRow}
    (h : PositionRepository.saveValues position expectedVersion = .ok row) :
    position.aggregateVersion = expectedVersion + 1 ∧ PositionRepository.rowPosition row = position := by
  simp only [PositionRepository.saveValues, bind_eq_ok, raiseIf_eq_ok, exists_const, not_not] at h
  exact ⟨h.1, PositionRepository.positionRowValues_eq_ok h.2⟩

theorem positionFromRow_eq_ok {row : PositionRow} {position : Position}
    (h : PositionRepository.positionFromRow row = .ok position) : position = PositionRepository.rowPosition row :=
  (Position.validate_eq_ok.mp h).2

theorem positionClient_lawful (sha : Sha256) : (positionClient sha).Lawful positionAmounts where
  version_read h := by rw [positionFromRow_eq_ok h]; rfl
  key_stored h := by
    change PositionRepository.storeRow .exact _ = .ok _ at h
    rw [PositionRepository.storeRow_exact] at h
    cases h
    rfl
  key_written {row v input p delta written} hread hproject hwrite := by
    obtain ⟨projection, hprojection, hpair⟩ := map_eq_ok.mp hproject
    cases hpair
    have hid := (Positions.applyFillToPosition_some hprojection).1
    rw [positionFromRow_eq_ok hread] at hid
    exact (congrArg Position.positionId (saveValues_eq_ok hwrite).2).trans hid
  stored {row v input p delta written row'} hread hproject hwrite hstore := by
    change PositionRepository.storeRow .exact _ = .ok _ at hstore
    rw [PositionRepository.storeRow_exact] at hstore
    cases hstore
    obtain ⟨projection, hprojection, hpair⟩ := map_eq_ok.mp hproject
    cases hpair
    obtain ⟨-, hversion, hquantity, hfees, hrebates⟩ := Positions.applyFillToPosition_some hprojection
    rw [positionFromRow_eq_ok hread] at hversion hquantity hfees hrebates
    have hrow := (saveValues_eq_ok hwrite).2
    rw [← hrow] at hversion hquantity hfees hrebates
    exact ⟨hversion, Prod.ext hquantity (Prod.ext hfees hrebates)⟩

/-! ## Cash balances -/

/-- The arguments of `apply_journal_to_cash_balance` besides the balance. -/
structure JournalInput where
  journalEntry : AccountingJournalEntry
  cashAccountCode : String

/-- Available, reserved and total. -/
def balanceAmounts (row : CashBalanceRow) : ℚ × ℚ × ℚ := (row.available, row.reserved, row.total)

/-- A cash movement changes available and total alike. -/
def cashDelta (amount : ℚ) : ℚ × ℚ × ℚ := (amount, 0, amount)

def balanceClient :
    OptimisticClient String CashBalanceRow CashBalanceRecord CashBalance JournalInput (ℚ × ℚ × ℚ) PyError where
  key := CashBalanceRow.balanceId
  version := CashBalanceRow.aggregateVersion
  read := CashBalanceRepository.cashBalanceRecordFromRow .exact
  readVersion := CashBalanceRecord.aggregateVersion
  project record input :=
    (Balances.applyJournalToCashBalance .exact record.balance input.journalEntry input.cashAccountCode).map
      fun projection => (projection.balance, cashDelta projection.cashDelta.amount)
  write balance expectedVersion :=
    .ok (CashBalanceRepository.cashBalanceRowValues balance (expectedVersion + 1))
  store := CashBalanceRepository.storeRow .exact
  conflict _ := CashBalanceRepository.versionConflict

theorem balanceClient_get (table : CashBalanceRepository.CashBalanceTable) (balanceId : String) :
    balanceClient.get table balanceId = CashBalanceRepository.getRecord .exact table balanceId := by
  unfold OptimisticClient.get CashBalanceRepository.getRecord
  cases table.lookup balanceId <;> rfl

theorem balanceClient_save (table : CashBalanceRepository.CashBalanceTable) (balance : CashBalance)
    (expectedVersion : ℕ) : balanceClient.save table balance expectedVersion =
      CashBalanceRepository.save .exact table balance expectedVersion := by
  unfold OptimisticClient.save CashBalanceRepository.save balanceClient
  dsimp only
  cases table.updateWhere (CashBalanceRepository.storeRow .exact)
    (fun stored => stored.aggregateVersion = expectedVersion)
    (CashBalanceRepository.cashBalanceRowValues balance (expectedVersion + 1)) <;> rfl

theorem cashBalanceRecordFromRow_eq_ok {row : CashBalanceRow} {record : CashBalanceRecord}
    (h : CashBalanceRepository.cashBalanceRecordFromRow .exact row = .ok record) :
    record = ⟨CashBalanceRepository.rowBalance row, row.aggregateVersion⟩ := by
  obtain ⟨balance, hbalance, rfl⟩ := map_eq_ok.mp h
  rw [(CashBalance.validate_eq_ok.mp hbalance).2]

theorem balanceClient_lawful : balanceClient.Lawful balanceAmounts where
  version_read h := by rw [cashBalanceRecordFromRow_eq_ok h]; rfl
  key_stored h := congrArg CashBalanceRow.balanceId (CashBalanceRepository.storeRow_exact h)
  key_written {row v input p delta written} hread hproject hwrite := by
    cases hwrite
    obtain ⟨projection, hprojection, hpair⟩ := map_eq_ok.mp hproject
    cases hpair
    obtain ⟨-, d, -, -, rfl⟩ := Balances.applyJournalToCashBalance_eq_ok.mp hprojection
    rw [cashBalanceRecordFromRow_eq_ok hread]
    rfl
  stored {row v input p delta written row'} hread hproject hwrite hstore := by
    have hrow' := CashBalanceRepository.storeRow_exact hstore
    cases hwrite
    subst hrow'
    obtain ⟨projection, hprojection, hpair⟩ := map_eq_ok.mp hproject
    cases hpair
    obtain ⟨-, d, -, -, rfl⟩ := Balances.applyJournalToCashBalance_eq_ok.mp hprojection
    rw [cashBalanceRecordFromRow_eq_ok hread]
    exact ⟨rfl, Prod.ext rfl (Prod.ext (add_zero _).symm rfl)⟩

/-! ## Both repositories -/

/-- **No lost updates.** For any clients and any interleaving of their reads, projections and saves: every stored
    position and balance is the initial one with the version and the amounts of exactly the successful saves
    added, and a save that raises leaves every row as it was. -/
theorem noLostUpdates (sha : Sha256) (ι : Type) [DecidableEq ι] :
    ((∀ s₀ s : (positionClient sha).State ι, OptimisticClient.Initial s₀ →
        Reaches OptimisticClient.Step (fun _ _ => True) s₀ s →
        OptimisticClient.Conserved positionAmounts s₀ s) ∧
      ∀ table position expectedVersion e,
        (PositionRepository.save .exact table position expectedVersion).1 = .error e →
        (PositionRepository.save .exact table position expectedVersion).2 = table) ∧
    ((∀ s₀ s : balanceClient.State ι, OptimisticClient.Initial s₀ →
        Reaches OptimisticClient.Step (fun _ _ => True) s₀ s →
        OptimisticClient.Conserved balanceAmounts s₀ s) ∧
      ∀ table balance expectedVersion e,
        (CashBalanceRepository.save .exact table balance expectedVersion).1 = .error e →
        (CashBalanceRepository.save .exact table balance expectedVersion).2 = table) := by
  refine ⟨⟨fun s₀ s hinitial hrun => ?_, fun table position expectedVersion e h => ?_⟩,
    fun s₀ s hinitial hrun => ?_, fun table balance expectedVersion e h => ?_⟩
  · exact OptimisticClient.conserved (positionClient_lawful sha) hinitial hrun
  · rw [← positionClient_save sha] at h ⊢
    exact OptimisticClient.save_error (Prod.ext h rfl)
  · exact OptimisticClient.conserved balanceClient_lawful hinitial hrun
  · rw [← balanceClient_save] at h ⊢
    exact OptimisticClient.save_error (Prod.ext h rfl)

end NoLostUpdates
end Pmrp
