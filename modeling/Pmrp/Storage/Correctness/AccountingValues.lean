import Pmrp.Portfolio.Correctness.CashFlow
import Pmrp.Portfolio.Fees
import Pmrp.Portfolio.Projections
import Pmrp.Portfolio.Settlement
import Pmrp.Portfolio.Transfers
import Pmrp.Storage.CashBalances
import Pmrp.Storage.JournalEntries
import Pmrp.Storage.Positions

/-!
# `Storage.Correctness.AccountingValues` — positions, balances and entries in their tables

A portfolio grows from nothing by fills, fees, rebates, transfers, settlements and corrections. Whatever a run
produces is valid (`Accounted`), and then it survives its table exactly when the columns keep its numbers: the
repositories round nothing, `NUMERIC(38,18)` does.
-/

namespace Pmrp

/-- `Numeric(38, 18)`, the type of every amount, price and quantity of the portfolio tables. -/
def portfolioNumeric : NumericColumn := .numeric 38 18

namespace AccountingValues

variable (ctx : DecimalContext) (sha : Sha256)

/-! ## Runs -/

structure Portfolio where
  positions : Table Position.positionId
  balances : Table CashBalance.balanceId
  appliedFillIds : Finset FillId
  appliedJournalEntryIds : Finset String
  journal : List AccountingJournalEntry

def Portfolio.empty : Portfolio where
  positions := .empty
  balances := .empty
  appliedFillIds := ∅
  appliedJournalEntryIds := ∅
  journal := []

/-- `openBalance` records a balance without money; `post` applies an entry of the journal to a balance. -/
inductive Operation
  | openBalance (balanceId exchange : String) (accountId : AccountId) (currency : Currency) (capturedAt : UTCDateTime)
  | fill (existing : Option PositionId) (fill : Fill) (currency : String) (sourceEventId : EventId)
      (createdAt : UTCDateTime) (positionId : Option PositionId)
  | post (balanceId : String) (index : ℕ)
  | fee (balanceId : String) (amount : Money) (feeId : String) (sourceEventId : EventId)
      (occurredAt createdAt : UTCDateTime)
  | rebate (balanceId : String) (amount : Money) (rebateId : String) (sourceEventId : EventId)
      (occurredAt createdAt : UTCDateTime)
  | settlement (positionId : PositionId) (balanceId : String) (settlement : Settlement) (currency : String)
      (sourceEventId : EventId) (createdAt : UTCDateTime)
  | settlementCorrection (originalPosition : Position) (positionId : PositionId) (balanceId : String)
      (previousSettlement correctedSettlement : Settlement) (currency : String) (sourceEventId : EventId)
      (createdAt : UTCDateTime)
  | balanceCorrection (balanceId : String) (observedBalance : ObservedBalance) (referenceId : String)
      (sourceEventId : EventId) (createdAt : UTCDateTime)
  | cashTransfer (fromBalanceId toBalanceId : String) (amount : Money) (transferId : String)
      (sourceEventId : EventId) (occurredAt createdAt : UTCDateTime)

/-- What the caller looks up; `keyError` stands for what it does not have. -/
def require {α : Type} (key : String) : Option α → Result α
  | none => .error ⟨.keyError, key⟩
  | some a => .ok a

namespace Portfolio

/-- The portfolio with a balance and the entry that moved it. -/
def book (p : Portfolio) (balance : CashBalance) (entry : Option AccountingJournalEntry)
    (appliedJournalEntryIds : Finset String) : Portfolio :=
  { p with balances := p.balances.put balance, appliedJournalEntryIds, journal := p.journal ++ entry.toList }

def putPosition (p : Portfolio) (position : Position) : Portfolio := { p with positions := p.positions.put position }

end Portfolio

def apply (p : Portfolio) : Operation → Result Portfolio
  | .openBalance balanceId exchange accountId currency capturedAt => do
      let balance ← CashBalance.validate ctx
        { balanceId, exchange, accountId, currency, available := 0, reserved := 0, total := 0, capturedAt }
      pure { p with balances := p.balances.put balance }
  | .fill existing fill currency sourceEventId createdAt positionId => do
      let result ← Projections.applyFillOnce ctx sha (existing.bind p.positions.lookup) fill p.appliedFillIds currency
        sourceEventId createdAt positionId
      let filled := { p with
        appliedFillIds := result.appliedFillIds, journal := p.journal ++ result.journalEntry.toList }
      pure (result.position.elim filled filled.putPosition)
  | .post balanceId index => do
      let balance ← require balanceId (p.balances.lookup balanceId)
      let entry ← require balanceId p.journal[index]?
      let result ← Balances.applyJournalToCashBalanceOnce ctx balance entry p.appliedJournalEntryIds
      pure (p.book result.balance none result.appliedJournalEntryIds)
  | .fee balanceId amount feeId sourceEventId occurredAt createdAt => do
      let balance ← require balanceId (p.balances.lookup balanceId)
      let result ← Fees.applyFeeOnce ctx sha balance amount feeId p.appliedJournalEntryIds sourceEventId occurredAt
        createdAt
      pure (p.book result.balance result.journalEntry result.appliedJournalEntryIds)
  | .rebate balanceId amount rebateId sourceEventId occurredAt createdAt => do
      let balance ← require balanceId (p.balances.lookup balanceId)
      let result ← Fees.applyRebateOnce ctx sha balance amount rebateId p.appliedJournalEntryIds sourceEventId
        occurredAt createdAt
      pure (p.book result.balance result.journalEntry result.appliedJournalEntryIds)
  | .settlement positionId balanceId settlement currency sourceEventId createdAt => do
      let position ← require positionId.val (p.positions.lookup positionId)
      let balance ← require balanceId (p.balances.lookup balanceId)
      let result ← Settlements.applySettlementOnce ctx sha position balance settlement p.appliedJournalEntryIds
        currency sourceEventId createdAt
      pure ((p.putPosition result.position).book result.cashBalance result.journalEntry result.appliedJournalEntryIds)
  | .settlementCorrection originalPosition positionId balanceId previousSettlement correctedSettlement currency
      sourceEventId createdAt => do
      let position ← require positionId.val (p.positions.lookup positionId)
      let balance ← require balanceId (p.balances.lookup balanceId)
      let result ← Settlements.applySettlementCorrectionOnce ctx sha originalPosition position balance
        previousSettlement correctedSettlement p.appliedJournalEntryIds currency sourceEventId createdAt
      pure ((p.putPosition result.position).book result.cashBalance result.journalEntry result.appliedJournalEntryIds)
  | .balanceCorrection balanceId observedBalance referenceId sourceEventId createdAt => do
      let balance ← require balanceId (p.balances.lookup balanceId)
      let result ← Balances.applyBalanceCorrectionOnce ctx sha balance observedBalance p.appliedJournalEntryIds
        referenceId sourceEventId createdAt
      pure (p.book result.balance result.journalEntry result.appliedJournalEntryIds)
  | .cashTransfer fromBalanceId toBalanceId amount transferId sourceEventId occurredAt createdAt => do
      let fromBalance ← require fromBalanceId (p.balances.lookup fromBalanceId)
      let toBalance ← require toBalanceId (p.balances.lookup toBalanceId)
      let result ← Transfers.applyCashTransferOnce ctx sha fromBalance toBalance amount transferId
        p.appliedJournalEntryIds sourceEventId occurredAt createdAt
      pure ((p.book result.fromBalance result.journalEntry result.appliedJournalEntryIds).book result.toBalance none
        result.appliedJournalEntryIds)

/-! ## What a run produces -/

variable {ctx sha}

/-- Whatever the portfolio holds has passed its validators. -/
structure Accounted (ctx : DecimalContext) (p : Portfolio) : Prop where
  positions : ∀ i position, p.positions.lookup i = some position →
    position.Valid ∧ PositionRepository.OneCurrency position
  balances : ∀ i balance, p.balances.lookup i = some balance → balance.Valid ctx
  journal : ∀ entry ∈ p.journal, entry.Valid ctx

theorem require_eq_ok {α : Type} {key : String} {a? : Option α} {a : α} : require key a? = .ok a ↔ a? = some a := by
  cases a? with
  | none => simp [require]
  | some b => simp [require]

theorem forall_put {R κ : Type} [DecidableEq κ] {key : R → κ} {P : R → Prop} {table : Table key} {row : R}
    (htable : ∀ k r, table.lookup k = some r → P r) (hrow : P row) :
    ∀ k r, (table.put row).lookup k = some r → P r := by
  intro k r hr
  have hlookup : (table.put row).lookup k = if k = key row then some row else table.lookup k :=
    Function.update_apply _ _ _ _
  rw [hlookup] at hr
  split_ifs at hr
  · exact Option.some.inj hr ▸ hrow
  · exact htable k r hr

theorem forall_mem_append_toList {P : AccountingJournalEntry → Prop} {entries : List AccountingJournalEntry}
    {entry : Option AccountingJournalEntry} (hentries : ∀ e ∈ entries, P e) (hentry : ∀ e ∈ entry, P e) :
    ∀ e ∈ entries ++ entry.toList, P e := by
  intro e he
  rcases List.mem_append.mp he with he | he
  · exact hentries e he
  · exact hentry e (Option.mem_toList.mp he)

namespace Accounted

variable {p : Portfolio}

theorem putPosition (h : Accounted ctx p) {position : Position}
    (hposition : position.Valid ∧ PositionRepository.OneCurrency position) :
    Accounted ctx (p.putPosition position) where
  positions := forall_put h.positions hposition
  balances := h.balances
  journal := h.journal

theorem book (h : Accounted ctx p) {balance : CashBalance} {entry : Option AccountingJournalEntry} {ids : Finset String}
    (hbalance : balance.Valid ctx) (hentry : ∀ e ∈ entry, e.Valid ctx) : Accounted ctx (p.book balance entry ids) where
  positions := h.positions
  balances := forall_put h.balances hbalance
  journal := forall_mem_append_toList h.journal hentry

end Accounted

/-- A balance that an entry was applied to has been validated again. -/
theorem valid_of_applied {balance : CashBalance} {entry : AccountingJournalEntry} {code : String}
    {projection : CashBalanceProjectionResult}
    (h : Balances.applyJournalToCashBalance ctx balance entry code = .ok projection) :
    projection.balance.Valid ctx := by
  obtain ⟨-, _, -, hvalid, rfl⟩ := Balances.applyJournalToCashBalance_eq_ok.mp h
  exact hvalid

theorem valid_of_postedOnce {balance result : CashBalance} {ids ids' : Finset String}
    {entry : Option AccountingJournalEntry} (hbalance : balance.Valid ctx)
    (h : Balances.PostedOnce ctx balance ids entry result ids') : result.Valid ctx ∧ ∀ e ∈ entry, e.Valid ctx := by
  cases h with
  | duplicate => exact ⟨hbalance, fun e he => absurd he (Option.not_mem_none e)⟩
  | booked hvalid _ hcash =>
      refine ⟨valid_of_applied hcash, fun e he => ?_⟩
      rw [← Option.some.inj he]
      exact hvalid

/-- Every case of the projection of a fill ends in the validators of `Position`, in one currency. -/
theorem applyFillToPosition_valid {position : Option Position} {fill : Fill} {currency : String}
    {positionId : Option PositionId} {result : PositionProjectionResult}
    (h : Positions.applyFillToPosition ctx sha position fill currency positionId = .ok result) :
    result.position.Valid ∧ PositionRepository.OneCurrency result.position := by
  simp only [Positions.applyFillToPosition, bind_eq_ok, pure_eq_ok, Position.validate_eq_ok] at h
  obtain ⟨validatedCurrency, -, fee, -, rebate, -, existing, -, projection, -, openedAt, -, _, ⟨hvalid, rfl⟩, rfl⟩ := h
  exact ⟨hvalid, rfl, rfl, rfl⟩

theorem applyFillOnce_valid {position : Option Position} {fill : Fill} {ids : Finset FillId} {currency : String}
    {sourceEventId : EventId} {createdAt : UTCDateTime} {positionId : Option PositionId}
    {result : FillApplicationResult}
    (hposition : ∀ existing ∈ position, existing.Valid ∧ PositionRepository.OneCurrency existing)
    (h : Projections.applyFillOnce ctx sha position fill ids currency sourceEventId createdAt positionId = .ok result) :
    (∀ filled ∈ result.position, filled.Valid ∧ PositionRepository.OneCurrency filled) ∧
      ∀ e ∈ result.journalEntry, e.Valid ctx := by
  unfold Projections.applyFillOnce at h
  split_ifs at h with hdup
  · obtain rfl := pure_eq_ok.mp h
    exact ⟨hposition, fun e he => absurd he (Option.not_mem_none e)⟩
  · simp only [bind_eq_ok, pure_eq_ok] at h
    obtain ⟨projection, hprojection, entry, hentry, rfl⟩ := h
    refine ⟨fun filled hfilled => ?_, fun e he => ?_⟩
    · rw [← Option.some.inj hfilled]
      exact applyFillToPosition_valid hprojection
    · simp only [Journal.buildFillJournalEntry, bind_eq_ok, AccountingJournalEntry.validate_eq_ok] at hentry
      obtain ⟨_, -, hvalid, rfl⟩ := hentry
      rw [← Option.some.inj he]
      exact hvalid

theorem applySettlementOnce_valid {position : Position} {balance : CashBalance} {settlement : Settlement}
    {ids : Finset String} {currency : String} {sourceEventId : EventId} {createdAt : UTCDateTime}
    {result : SettlementApplicationResult}
    (hposition : position.Valid ∧ PositionRepository.OneCurrency position)
    (h : Settlements.applySettlementOnce ctx sha position balance settlement ids currency sourceEventId createdAt
      = .ok result) : result.position.Valid ∧ PositionRepository.OneCurrency result.position := by
  unfold Settlements.applySettlementOnce at h
  obtain ⟨validatedCurrency, -, h⟩ := bind_eq_ok.mp h
  obtain ⟨_, -, h⟩ := bind_eq_ok.mp h
  dsimp only at h
  split_ifs at h with hdup
  · obtain rfl := pure_eq_ok.mp h
    exact hposition
  · simp only [bind_eq_ok, pure_eq_ok, Settlements.applySettlementToPosition, validateCurrency_code, ok_bind,
      Settlements.validateSettlementPosition_eq_ok, Position.validate_eq_ok] at h
    obtain ⟨_, ⟨_, hsettles, _, -, _, -, _, -, _, ⟨hvalid, rfl⟩, rfl⟩, _, -, _, -, rfl⟩ := h
    exact ⟨hvalid, rfl, hsettles.fees_currency, hsettles.rebates_currency⟩

theorem applySettlementCorrectionOnce_valid {original position : Position} {balance : CashBalance}
    {previous corrected : Settlement} {ids : Finset String} {currency : String} {sourceEventId : EventId}
    {createdAt : UTCDateTime} {result : SettlementCorrectionApplicationResult}
    (hposition : position.Valid ∧ PositionRepository.OneCurrency position)
    (h : Settlements.applySettlementCorrectionOnce ctx sha original position balance previous corrected ids currency
      sourceEventId createdAt = .ok result) :
    result.position.Valid ∧ PositionRepository.OneCurrency result.position := by
  unfold Settlements.applySettlementCorrectionOnce at h
  obtain ⟨validatedCurrency, -, h⟩ := bind_eq_ok.mp h
  obtain ⟨_, hidentity, h⟩ := bind_eq_ok.mp h
  dsimp only at h
  split_ifs at h with hdup
  · obtain rfl := pure_eq_ok.mp h
    exact hposition
  · simp only [bind_eq_ok, pure_eq_ok, Position.validate_eq_ok] at h
    obtain ⟨_, -, _, -, _, -, _, -, _, -, _, ⟨hvalid, rfl⟩, rfl⟩ := h
    simp only [Settlements.validateSettlementCorrectionIdentity, Settlements.validateMoney, bind_eq_ok, raiseIf_eq_ok,
      not_not, exists_const] at hidentity
    obtain ⟨_, -, _, -, _, -, -, -, -, -, hfees, hrebates⟩ := hidentity
    exact ⟨hvalid, rfl, hfees, hrebates⟩

/-- Both balances of a transfer have been validated again. -/
theorem valid_of_transferredOnce {fromBalance toBalance outbound inbound : CashBalance} {ids ids' : Finset String}
    {entry : Option AccountingJournalEntry} (hfrom : fromBalance.Valid ctx) (hto : toBalance.Valid ctx)
    (h : Transfers.TransferredOnce ctx fromBalance toBalance ids entry outbound inbound ids') :
    outbound.Valid ctx ∧ inbound.Valid ctx ∧ ∀ e ∈ entry, e.Valid ctx := by
  cases h with
  | duplicate => exact ⟨hfrom, hto, fun e he => absurd he (Option.not_mem_none e)⟩
  | booked _ hvalid _ _ hcashFrom hcashTo =>
      refine ⟨valid_of_applied hcashFrom, valid_of_applied hcashTo, fun e he => ?_⟩
      rw [← Option.some.inj he]
      exact hvalid

/-- **One operation.** What it adds to a portfolio has passed its validators. -/
theorem Accounted.apply {p later : Portfolio} {operation : Operation} (h : Accounted ctx p)
    (happly : AccountingValues.apply ctx sha p operation = .ok later) : Accounted ctx later := by
  cases operation with
  | openBalance balanceId exchange accountId currency capturedAt =>
      simp only [AccountingValues.apply, bind_eq_ok, pure_eq_ok, CashBalance.validate_eq_ok] at happly
      obtain ⟨balance, ⟨hvalid, rfl⟩, rfl⟩ := happly
      exact ⟨h.positions, forall_put h.balances hvalid, h.journal⟩
  | fill existing fill currency sourceEventId createdAt positionId =>
      simp only [AccountingValues.apply, bind_eq_ok, pure_eq_ok] at happly
      obtain ⟨result, hresult, rfl⟩ := happly
      have hexisting : ∀ position ∈ existing.bind p.positions.lookup,
          position.Valid ∧ PositionRepository.OneCurrency position := by
        intro position hposition
        obtain ⟨i, -, hi⟩ := Option.bind_eq_some_iff.mp hposition
        exact h.positions i position hi
      obtain ⟨hposition, hentry⟩ := applyFillOnce_valid hexisting hresult
      have hfilled : Accounted ctx { p with
          appliedFillIds := result.appliedFillIds, journal := p.journal ++ result.journalEntry.toList } :=
        ⟨h.positions, h.balances, forall_mem_append_toList h.journal hentry⟩
      cases hfound : result.position with
      | none => exact hfilled
      | some position => exact hfilled.putPosition (hposition position hfound)
  | post balanceId index =>
      simp only [AccountingValues.apply, bind_eq_ok, pure_eq_ok, require_eq_ok] at happly
      obtain ⟨balance, hbalance, entry, -, result, hresult, rfl⟩ := happly
      -- the entry is in the journal already: a post adds none
      refine h.book ?_ fun e he => absurd he (Option.not_mem_none e)
      unfold Balances.applyJournalToCashBalanceOnce at hresult
      split_ifs at hresult with hdup
      · obtain rfl := pure_eq_ok.mp hresult
        exact h.balances _ _ hbalance
      · simp only [bind_eq_ok, pure_eq_ok] at hresult
        obtain ⟨projection, hprojection, rfl⟩ := hresult
        exact valid_of_applied hprojection
  | fee balanceId amount feeId sourceEventId occurredAt createdAt =>
      simp only [AccountingValues.apply, bind_eq_ok, pure_eq_ok, require_eq_ok] at happly
      obtain ⟨balance, hbalance, result, hresult, rfl⟩ := happly
      obtain ⟨hresultValid, hentry⟩ :=
        valid_of_postedOnce (h.balances _ _ hbalance) (Fees.ChargeKind.applyOnce_posted hresult)
      exact h.book hresultValid hentry
  | rebate balanceId amount rebateId sourceEventId occurredAt createdAt =>
      simp only [AccountingValues.apply, bind_eq_ok, pure_eq_ok, require_eq_ok] at happly
      obtain ⟨balance, hbalance, result, hresult, rfl⟩ := happly
      obtain ⟨hresultValid, hentry⟩ :=
        valid_of_postedOnce (h.balances _ _ hbalance) (Fees.ChargeKind.applyOnce_posted hresult)
      exact h.book hresultValid hentry
  | settlement positionId balanceId settlement currency sourceEventId createdAt =>
      simp only [AccountingValues.apply, bind_eq_ok, pure_eq_ok, require_eq_ok] at happly
      obtain ⟨position, hposition, balance, hbalance, result, hresult, rfl⟩ := happly
      obtain ⟨hbalanceValid, hentry⟩ :=
        valid_of_postedOnce (h.balances _ _ hbalance) (Settlements.applySettlementOnce_posted hresult)
      exact (h.putPosition (applySettlementOnce_valid (h.positions _ _ hposition) hresult)).book hbalanceValid hentry
  | settlementCorrection originalPosition positionId balanceId previousSettlement correctedSettlement currency
      sourceEventId createdAt =>
      simp only [AccountingValues.apply, bind_eq_ok, pure_eq_ok, require_eq_ok] at happly
      obtain ⟨position, hposition, balance, hbalance, result, hresult, rfl⟩ := happly
      obtain ⟨hbalanceValid, hentry⟩ :=
        valid_of_postedOnce (h.balances _ _ hbalance) (Settlements.applySettlementCorrectionOnce_posted hresult)
      exact (h.putPosition (applySettlementCorrectionOnce_valid (h.positions _ _ hposition) hresult)).book
        hbalanceValid hentry
  | balanceCorrection balanceId observedBalance referenceId sourceEventId createdAt =>
      simp only [AccountingValues.apply, bind_eq_ok, pure_eq_ok, require_eq_ok] at happly
      obtain ⟨balance, hbalance, result, hresult, rfl⟩ := happly
      obtain ⟨hresultValid, hentry⟩ :=
        valid_of_postedOnce (h.balances _ _ hbalance) (Balances.applyBalanceCorrectionOnce_posted hresult)
      exact h.book hresultValid hentry
  | cashTransfer fromBalanceId toBalanceId amount transferId sourceEventId occurredAt createdAt =>
      simp only [AccountingValues.apply, bind_eq_ok, pure_eq_ok, require_eq_ok] at happly
      obtain ⟨fromBalance, hfrom, toBalance, hto, result, hresult, rfl⟩ := happly
      obtain ⟨houtbound, hinbound, hentry⟩ := valid_of_transferredOnce (h.balances _ _ hfrom) (h.balances _ _ hto)
        (Transfers.applyCashTransferOnce_transferred hresult)
      exact (h.book houtbound hentry).book hinbound fun e he => absurd he (Option.not_mem_none e)

theorem accounted_empty : Accounted ctx .empty where
  positions _ _ h := absurd h.symm (Option.some_ne_none _)
  balances _ _ h := absurd h.symm (Option.some_ne_none _)
  journal _ h := absurd h List.not_mem_nil

theorem accounted_foldlM {operations : List Operation} {p : Portfolio}
    (hrun : operations.foldlM (AccountingValues.apply ctx sha) .empty = .ok p) : Accounted ctx p :=
  foldlM_inv (Accounted ctx) (fun _ _ _ haccounted happly => haccounted.apply happly) accounted_empty hrun

/-! ## What survives its table -/

/-- Everything in the portfolio comes back from its table as it was saved. -/
structure Survives (ctx : DecimalContext) (column : NumericColumn) (p : Portfolio) : Prop where
  positions : ∀ i position, p.positions.lookup i = some position →
    PositionRepository.stored column position = .ok position
  balances : ∀ i balance version, p.balances.lookup i = some balance →
    CashBalanceRepository.stored ctx column balance version = .ok balance
  journal : ∀ entry ∈ p.journal, JournalEntryRepository.stored ctx column entry = .ok entry

/-- What each position, balance and entry of the portfolio needs to come back from its table as it was saved. -/
structure SurvivesWhenKept (ctx : DecimalContext) (column : NumericColumn) (p : Portfolio) : Prop where
  positions : ∀ i position, p.positions.lookup i = some position →
    (PositionRepository.stored column position = .ok position ↔ PositionRepository.Kept column position)
  balances : ∀ i balance version, p.balances.lookup i = some balance →
    (CashBalanceRepository.stored ctx column balance version = .ok balance ↔ CashBalanceRepository.Kept column balance)
  journal : ∀ entry ∈ p.journal,
    (JournalEntryRepository.stored ctx column entry = .ok entry ↔ JournalEntryRepository.Kept column entry)

variable (ctx sha) in
/-- **Accounting values in storage.** Whatever a run produces survives its table if and only if the columns keep its
    numbers, which are those of at most 18 fractional and 20 integer digits. -/
theorem survives_iff {operations : List Operation} {p : Portfolio}
    (hrun : operations.foldlM (AccountingValues.apply ctx sha) .empty = .ok p) :
    SurvivesWhenKept ctx portfolioNumeric p ∧
      ∀ value, portfolioNumeric.Keeps value ↔ HasScale 18 value ∧ |value| < 10 ^ 20 := by
  have haccounted := accounted_foldlM hrun
  refine ⟨⟨?_, ?_, ?_⟩, fun value => NumericColumn.keeps_numeric⟩
  · intro i position hi
    obtain ⟨hvalid, hcurrency⟩ := haccounted.positions i position hi
    exact PositionRepository.stored_eq_self hvalid hcurrency
  · intro i balance version hi
    exact CashBalanceRepository.stored_eq_self (haccounted.balances i balance hi)
  · intro entry hentry
    exact JournalEntryRepository.stored_eq_self (haccounted.journal entry hentry)

/-! ## An average price -/

def storedPosition : PositionId := ⟨"pos_stored", by decide⟩

theorem price_nonneg (n : ℕ) : (0 : ℚ) ≤ n / 10 := by positivity

theorem one_contract : (0 : ℚ) < 1 := one_pos

theorem two_contracts : (0 : ℚ) < 2 := two_pos

/-- One contract bought at 0.10 and two at 0.20. -/
def averagedFills : List Operation :=
  [.fill none (Positions.marketFill ⟨"fill_first", by decide⟩ .buy ((1 : ℕ) / 10) 1 1 (price_nonneg 1) one_contract)
      "USD"
      ⟨"evt_first", by decide⟩ 1 (some storedPosition),
    .fill (some storedPosition) (Positions.marketFill ⟨"fill_second", by decide⟩ .buy ((2 : ℕ) / 10) 2 2
      (price_nonneg 2) two_contracts) "USD" ⟨"evt_second", by decide⟩ 2 none]

theorem averagedFills_run :
    ∃ p position, averagedFills.foldlM (apply defaultContext Sha256.constant) .empty = .ok p ∧
      p.positions.lookup storedPosition = some position ∧
      PositionRepository.stored portfolioNumeric position ≠ .ok position := by
  have hrun : ((averagedFills.foldlM (apply defaultContext Sha256.constant) .empty).toOption.bind fun p =>
      p.positions.lookup storedPosition).any (fun position =>
        (PositionRepository.stored portfolioNumeric position).toOption ≠ some position) = true := by
    decide +kernel
  cases hfinal : averagedFills.foldlM (apply defaultContext Sha256.constant) .empty with
  | error e =>
      rw [hfinal] at hrun
      cases hrun
  | ok p =>
      rw [hfinal] at hrun
      obtain ⟨position, hposition, hlost⟩ := (Option.any_eq_true _ _).mp hrun
      refine ⟨p, position, rfl, hposition, fun hstored => ?_⟩
      rw [hstored] at hlost
      exact of_decide_eq_true hlost rfl

theorem survives_iff_averagedFills :
    ∃ p, averagedFills.foldlM (apply defaultContext Sha256.constant) .empty = .ok p ∧
      SurvivesWhenKept defaultContext portfolioNumeric p := by
  obtain ⟨p, _, hrun, -⟩ := averagedFills_run
  exact ⟨p, hrun, (survives_iff defaultContext Sha256.constant hrun).1⟩

/-- The average of 0.1666… is not what the table gives back. -/
theorem averagedFills_lost :
    ¬∀ (operations : List Operation) (p : Portfolio),
      operations.foldlM (apply defaultContext Sha256.constant) .empty = .ok p →
        Survives defaultContext portfolioNumeric p := by
  intro h
  obtain ⟨p, position, hrun, hposition, hlost⟩ := averagedFills_run
  exact hlost ((h averagedFills p hrun).positions storedPosition position hposition)

end AccountingValues
end Pmrp
