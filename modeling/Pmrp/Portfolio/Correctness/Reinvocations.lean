import Pmrp.Portfolio.LedgerRuns

/-!
# `Portfolio.Correctness.Reinvocations` — an operation that has succeeded is recognised for good

Every apply-once function checks its arguments, then looks its journal entry id up among the applied ones, and only
then makes the checks that depend on amounts and times. What the first checks read never changes in a run: the
account of a balance, the identity of a position, and the currency of a flat position.

- **What a run keeps.** `Ledger.Extends` says it of two ledgers, `apply_extends` of one call, `run_extends` of a run.
- **The second call.** An `…_again` lemma for each function shows that it returns its arguments.
- **Together.** `reinvoked` puts any run between the two calls.
-/

namespace Pmrp

variable {ctx : DecimalContext} {sha : Sha256}

/-! ## What does not change -/

/-- Two states of one account. -/
structure CashBalance.SameAccount (b c : CashBalance) : Prop where
  balanceId : c.balanceId = b.balanceId
  exchange : c.exchange = b.exchange
  accountId : c.accountId = b.accountId
  currency : c.currency = b.currency

namespace CashBalance.SameAccount

variable {a b c : CashBalance}

theorem refl (b : CashBalance) : SameAccount b b := ⟨rfl, rfl, rfl, rfl⟩

theorem symm (h : SameAccount b c) : SameAccount c b :=
  ⟨h.balanceId.symm, h.exchange.symm, h.accountId.symm, h.currency.symm⟩

theorem trans (h : SameAccount a b) (h' : SameAccount b c) : SameAccount a c :=
  ⟨h'.balanceId.trans h.balanceId, h'.exchange.trans h.exchange, h'.accountId.trans h.accountId,
    h'.currency.trans h.currency⟩

end CashBalance.SameAccount

/-- A flat position with all its amounts in one currency. -/
structure Position.FlatIn (currency : Currency) (p : Position) : Prop where
  quantity : p.quantity = 0
  average : p.averageEntryPrice = none
  realized : p.realizedPnl.currency = currency
  unrealized : p.unrealizedPnl.currency = currency
  fees : p.feesPaid.currency = currency
  rebates : p.rebatesReceived.currency = currency

/-- Two states of one position, the later of them flat if the earlier was. -/
structure Position.SucceededBy (p q : Position) : Prop where
  positionId : q.positionId = p.positionId
  exchange : q.exchange = p.exchange
  accountId : q.accountId = p.accountId
  marketId : q.marketId = p.marketId
  contractId : q.contractId = p.contractId
  outcomeId : q.outcomeId = p.outcomeId
  flat : ∀ currency, p.FlatIn currency → q.FlatIn currency

namespace Position.SucceededBy

variable {p q r : Position}

theorem refl (p : Position) : SucceededBy p p := ⟨rfl, rfl, rfl, rfl, rfl, rfl, fun _ h => h⟩

theorem trans (h : SucceededBy p q) (h' : SucceededBy q r) : SucceededBy p r where
  positionId := h'.positionId.trans h.positionId
  exchange := h'.exchange.trans h.exchange
  accountId := h'.accountId.trans h.accountId
  marketId := h'.marketId.trans h.marketId
  contractId := h'.contractId.trans h.contractId
  outcomeId := h'.outcomeId.trans h.outcomeId
  flat currency hflat := h'.flat currency (h.flat currency hflat)

end Position.SucceededBy

/-! ## Operations on one balance -/

namespace Balances

variable {balance later : CashBalance} {ids now : Finset String}

theorem sameAccount_of_applied {entry : AccountingJournalEntry} {code : String}
    {projection : CashBalanceProjectionResult}
    (h : applyJournalToCashBalance ctx balance entry code = .ok projection) :
    balance.SameAccount projection.balance := by
  obtain ⟨-, _, -, -, rfl⟩ := applyJournalToCashBalance_eq_ok.mp h
  exact ⟨rfl, rfl, rfl, rfl⟩

theorem PostedOnce.keeps {entry : Option AccountingJournalEntry} {result : CashBalance} {ids' : Finset String}
    (h : PostedOnce ctx balance ids entry result ids') : balance.SameAccount result ∧ ids ⊆ ids' := by
  cases h with
  | duplicate => exact ⟨.refl balance, subset_rfl⟩
  | booked _ _ hcash => exact ⟨sameAccount_of_applied hcash, Finset.subset_insert _ _⟩

theorem applyJournalToCashBalanceOnce_keeps {entry : AccountingJournalEntry} {result : CashBalanceApplicationResult}
    (h : applyJournalToCashBalanceOnce ctx balance entry ids = .ok result) :
    balance.SameAccount result.balance ∧ ids ⊆ result.appliedJournalEntryIds := by
  unfold applyJournalToCashBalanceOnce at h
  split_ifs at h with hdup
  · obtain rfl := pure_eq_ok.mp h
    exact ⟨.refl balance, subset_rfl⟩
  · simp only [bind_eq_ok, pure_eq_ok] at h
    obtain ⟨projection, hprojection, rfl⟩ := h
    exact ⟨sameAccount_of_applied hprojection, Finset.subset_insert _ _⟩

theorem applyJournalToCashBalanceOnce_again {entry : AccountingJournalEntry} {result : CashBalanceApplicationResult}
    (h : applyJournalToCashBalanceOnce ctx balance entry ids = .ok result)
    (hids : result.appliedJournalEntryIds ⊆ now) :
    applyJournalToCashBalanceOnce ctx later entry now = .ok ⟨later, none, now, false, true⟩ := by
  have hin : entry.journalEntryId ∈ result.appliedJournalEntryIds := by
    unfold applyJournalToCashBalanceOnce at h
    split_ifs at h with hdup
    · obtain rfl := pure_eq_ok.mp h
      exact hdup
    · simp only [bind_eq_ok, pure_eq_ok] at h
      obtain ⟨_, -, rfl⟩ := h
      exact Finset.mem_insert_self _ _
  rw [applyJournalToCashBalanceOnce, if_pos (hids hin)]
  rfl

/-- The identity checks of a correction compare the account of the observed balance only. -/
theorem applyBalanceCorrectionOnce_again {observed : ObservedBalance} {referenceId : String}
    {sourceEventId : EventId} {createdAt : UTCDateTime} {result : CashBalanceCorrectionResult}
    (h : applyBalanceCorrectionOnce ctx sha balance observed ids referenceId sourceEventId createdAt = .ok result)
    (hsame : balance.SameAccount later) (hids : result.appliedJournalEntryIds ⊆ now) :
    applyBalanceCorrectionOnce ctx sha later observed now referenceId sourceEventId createdAt
      = .ok ⟨later, none, none, now, false, true⟩ := by
  unfold applyBalanceCorrectionOnce at h
  obtain ⟨⟨⟩, hidentity, h⟩ := bind_eq_ok.mp h
  dsimp only at h
  have hlater : validateBalanceCorrectionIdentity later observed referenceId = .ok ⟨⟩ := by
    rw [← hidentity, validateBalanceCorrectionIdentity, validateBalanceCorrectionIdentity, hsame.balanceId,
      hsame.exchange, hsame.accountId, hsame.currency]
  have hid : deriveBalanceCorrectionJournalEntryId sha later observed referenceId
      = deriveBalanceCorrectionJournalEntryId sha balance observed referenceId := by
    unfold deriveBalanceCorrectionJournalEntryId
    rw [hsame.balanceId]
  have hin : deriveBalanceCorrectionJournalEntryId sha balance observed referenceId
      ∈ result.appliedJournalEntryIds := by
    split_ifs at h with hdup
    · obtain rfl := pure_eq_ok.mp h
      exact hdup
    · simp only [bind_eq_ok, pure_eq_ok] at h
      obtain ⟨_, -, _, -, rfl⟩ := h
      exact Finset.mem_insert_self _ _
  rw [applyBalanceCorrectionOnce, hlater, ok_bind, hid]
  dsimp only
  rw [if_pos (hids hin)]
  rfl

end Balances

namespace Fees

theorem ChargeKind.applyOnce_again {kind : ChargeKind} {balance later : CashBalance} {amount : Money}
    {referenceId : String} {ids now : Finset String} {sourceEventId : EventId} {occurredAt createdAt : UTCDateTime}
    {result : ChargeApplicationResult}
    (h : kind.applyOnce ctx sha balance amount referenceId ids sourceEventId occurredAt createdAt = .ok result)
    (hsame : balance.SameAccount later) (hids : result.appliedJournalEntryIds ⊆ now) :
    kind.applyOnce ctx sha later amount referenceId now sourceEventId occurredAt createdAt
      = .ok ⟨later, none, none, now, false, true⟩ := by
  unfold applyOnce at h
  obtain ⟨⟨⟩, hcurrency, h⟩ := bind_eq_ok.mp h
  obtain ⟨journalEntryId, hid, h⟩ := bind_eq_ok.mp h
  have hlater : validateBalanceCurrency later amount kind.fieldName = .ok ⟨⟩ := by
    rw [← hcurrency, validateBalanceCurrency, validateBalanceCurrency, hsame.currency]
  have hin : journalEntryId ∈ result.appliedJournalEntryIds := by
    split_ifs at h with hdup
    · obtain rfl := pure_eq_ok.mp h
      exact hdup
    · simp only [bind_eq_ok, pure_eq_ok] at h
      obtain ⟨_, -, _, -, rfl⟩ := h
      exact Finset.mem_insert_self _ _
  rw [applyOnce, hlater, ok_bind, hid, ok_bind, if_pos (hids hin)]
  rfl

end Fees

/-! ## Transfers -/

namespace Transfers

variable {fromBalance toBalance fromLater toLater : CashBalance} {amount : Money} {transferId : String}

theorem cashBalanceAccountCode_congr {balance later : CashBalance} (h : later.balanceId = balance.balanceId) :
    cashBalanceAccountCode later = cashBalanceAccountCode balance := by
  cases balance
  cases later
  dsimp only at h
  subst h
  rfl

theorem validateTransferInputs_congr (hfrom : fromBalance.SameAccount fromLater)
    (hto : toBalance.SameAccount toLater) :
    validateTransferInputs fromLater toLater amount transferId
      = validateTransferInputs fromBalance toBalance amount transferId := by
  unfold validateTransferInputs
  rw [hfrom.balanceId, hto.balanceId, hfrom.currency, hto.currency, cashBalanceAccountCode_congr hfrom.balanceId,
    cashBalanceAccountCode_congr hto.balanceId]

theorem TransferredOnce.keeps {ids ids' : Finset String} {entry : Option AccountingJournalEntry}
    {outbound inbound : CashBalance}
    (h : TransferredOnce ctx fromBalance toBalance ids entry outbound inbound ids') :
    fromBalance.SameAccount outbound ∧ toBalance.SameAccount inbound ∧ ids ⊆ ids' := by
  cases h with
  | duplicate => exact ⟨.refl _, .refl _, subset_rfl⟩
  | booked _ _ _ _ hfrom hto =>
      exact ⟨Balances.sameAccount_of_applied hfrom, Balances.sameAccount_of_applied hto, Finset.subset_insert _ _⟩

theorem applyCashTransferOnce_again {ids now : Finset String} {sourceEventId : EventId}
    {occurredAt createdAt : UTCDateTime} {result : CashTransferApplicationResult}
    (h : applyCashTransferOnce ctx sha fromBalance toBalance amount transferId ids sourceEventId occurredAt createdAt
      = .ok result)
    (hfrom : fromBalance.SameAccount fromLater) (hto : toBalance.SameAccount toLater)
    (hids : result.appliedJournalEntryIds ⊆ now) :
    applyCashTransferOnce ctx sha fromLater toLater amount transferId now sourceEventId occurredAt createdAt
      = .ok ⟨fromLater, toLater, none, none, none, now, false, true⟩ := by
  unfold applyCashTransferOnce at h
  obtain ⟨⟨⟩, hinputs, h⟩ := bind_eq_ok.mp h
  obtain ⟨journalEntryId, hid, h⟩ := bind_eq_ok.mp h
  have hin : journalEntryId ∈ result.appliedJournalEntryIds := by
    split_ifs at h with hdup
    · obtain rfl := pure_eq_ok.mp h
      exact hdup
    · simp only [bind_eq_ok, pure_eq_ok] at h
      obtain ⟨_, -, _, -, _, -, _, -, _, -, rfl⟩ := h
      exact Finset.mem_insert_self _ _
  rw [applyCashTransferOnce, validateTransferInputs_congr hfrom hto, hinputs, ok_bind, hid, ok_bind,
    if_pos (hids hin)]
  rfl

end Transfers

/-! ## Settlements -/

namespace Settlements

variable {position positionLater : Position} {balance later : CashBalance} {ids now : Finset String} {code : String}
  {sourceEventId : EventId} {createdAt : UTCDateTime}

theorem validateCashBalanceForPosition_congr {currency : Currency} (hbalance : balance.SameAccount later)
    (hposition : position.SucceededBy positionLater) :
    validateCashBalanceForPosition later positionLater currency
      = validateCashBalanceForPosition balance position currency := by
  unfold validateCashBalanceForPosition
  rw [hbalance.exchange, hbalance.accountId, hbalance.currency, hposition.exchange, hposition.accountId]

/-- A position with a quantity may end flat in any currency. -/
theorem succeededBy_flattened {realized : ℚ} {currency : Currency} {settledAt : UTCDateTime}
    (hopen : position.quantity ≠ 0) : position.SucceededBy (flattened position realized currency settledAt) :=
  ⟨rfl, rfl, rfl, rfl, rfl, rfl, fun _ hflat => absurd hflat.quantity hopen⟩

/-- A flat position keeps its currency: that of its fees. -/
theorem succeededBy_flattened_of_flat {realized : ℚ} {currency : Currency} {settledAt : UTCDateTime}
    (hflat : position.FlatIn currency) : position.SucceededBy (flattened position realized currency settledAt) := by
  refine ⟨rfl, rfl, rfl, rfl, rfl, rfl, fun other hother => ?_⟩
  obtain rfl : other = currency := hother.fees.symm.trans hflat.fees
  exact ⟨rfl, rfl, rfl, rfl, hother.fees, hother.rebates⟩

theorem applySettlementOnce_succeeds {settlement : Settlement} {result : SettlementApplicationResult}
    (h : applySettlementOnce ctx sha position balance settlement ids code sourceEventId createdAt = .ok result) :
    position.SucceededBy result.position := by
  unfold applySettlementOnce at h
  obtain ⟨currency, -, h⟩ := bind_eq_ok.mp h
  obtain ⟨_, -, h⟩ := bind_eq_ok.mp h
  dsimp only at h
  split_ifs at h with hdup
  · obtain rfl := pure_eq_ok.mp h
    exact .refl position
  · simp only [bind_eq_ok, pure_eq_ok] at h
    obtain ⟨projection, hprojection, _, -, _, -, rfl⟩ := h
    simp only [applySettlementToPosition, validateCurrency_code, ok_bind, bind_eq_ok, pure_eq_ok,
      validateSettlementPosition_eq_ok, Position.validate_eq_ok] at hprojection
    obtain ⟨_, hsettles, _, -, _, -, _, -, _, ⟨-, rfl⟩, rfl⟩ := hprojection
    exact succeededBy_flattened hsettles.open_

theorem applySettlementOnce_again {settlement : Settlement} {result : SettlementApplicationResult}
    (h : applySettlementOnce ctx sha position balance settlement ids code sourceEventId createdAt = .ok result)
    (hbalance : balance.SameAccount later) (hposition : position.SucceededBy positionLater)
    (hids : result.appliedJournalEntryIds ⊆ now) :
    applySettlementOnce ctx sha positionLater later settlement now code sourceEventId createdAt
      = .ok ⟨positionLater, later, none, none, none, now, false, true⟩ := by
  unfold applySettlementOnce at h
  obtain ⟨currency, hcurrency, h⟩ := bind_eq_ok.mp h
  obtain ⟨⟨⟩, hchecks, h⟩ := bind_eq_ok.mp h
  dsimp only at h
  have hid : deriveSettlementJournalEntryId sha positionLater settlement
      = deriveSettlementJournalEntryId sha position settlement := by
    unfold deriveSettlementJournalEntryId
    rw [hposition.positionId]
  have hin : deriveSettlementJournalEntryId sha position settlement ∈ result.appliedJournalEntryIds := by
    split_ifs at h with hdup
    · obtain rfl := pure_eq_ok.mp h
      exact hdup
    · simp only [bind_eq_ok, pure_eq_ok] at h
      obtain ⟨_, -, _, -, _, -, rfl⟩ := h
      exact Finset.mem_insert_self _ _
  rw [applySettlementOnce, hcurrency, ok_bind, validateCashBalanceForPosition_congr hbalance hposition, hchecks,
    ok_bind, hid]
  dsimp only
  rw [if_pos (hids hin)]
  rfl

/-! ## Settlement corrections -/

variable {original : Position} {previous corrected : Settlement} {result : SettlementCorrectionApplicationResult}

theorem flatIn_of_correctionIdentity {currency : Currency} {u : Unit}
    (h : validateSettlementCorrectionIdentity original position balance previous corrected currency = .ok u) :
    position.FlatIn currency := by
  simp only [validateSettlementCorrectionIdentity, validateMoney, bind_eq_ok, raiseIf_eq_ok, not_not, exists_const]
    at h
  obtain ⟨_, -, _, -, _, -, hquantity, haverage, hrealized, hunrealized, hfees, hrebates⟩ := h
  exact ⟨hquantity, haverage, hrealized, hunrealized, hfees, hrebates⟩

/-- The identity checks of a correction pass again on whatever became of the balance and the flat position. -/
theorem validateSettlementCorrectionIdentity_again {currency : Currency}
    (h : validateSettlementCorrectionIdentity original position balance previous corrected currency = .ok ⟨⟩)
    (hbalance : balance.SameAccount later) (hposition : position.SucceededBy positionLater) :
    validateSettlementCorrectionIdentity original positionLater later previous corrected currency = .ok ⟨⟩ := by
  have hflat := hposition.flat currency (flatIn_of_correctionIdentity h)
  simp only [validateSettlementCorrectionIdentity, validateMoney, bind_eq_ok, raiseIf_eq_ok, not_not, exists_const]
    at h ⊢
  obtain ⟨u, hcash, v, hcorrected, w, hidentity, -⟩ := h
  refine ⟨u, ?_, v, hcorrected, w, ?_, hflat.quantity, hflat.average, hflat.realized, hflat.unrealized, hflat.fees,
    hflat.rebates⟩
  · rw [validateCashBalanceForPosition_congr hbalance hposition, hcash]
  · rw [← hidentity, validatePositionIdentity, validatePositionIdentity, hposition.positionId, hposition.exchange,
      hposition.accountId, hposition.marketId, hposition.contractId, hposition.outcomeId]

theorem applySettlementCorrectionOnce_succeeds
    (h : applySettlementCorrectionOnce ctx sha original position balance previous corrected ids code sourceEventId
      createdAt = .ok result) : position.SucceededBy result.position := by
  unfold applySettlementCorrectionOnce at h
  obtain ⟨currency, -, h⟩ := bind_eq_ok.mp h
  obtain ⟨_, hidentity, h⟩ := bind_eq_ok.mp h
  dsimp only at h
  split_ifs at h with hdup
  · obtain rfl := pure_eq_ok.mp h
    exact .refl position
  · simp only [bind_eq_ok, pure_eq_ok, Position.validate_eq_ok] at h
    obtain ⟨_, -, _, -, _, -, _, -, _, -, _, ⟨-, rfl⟩, rfl⟩ := h
    exact succeededBy_flattened_of_flat (flatIn_of_correctionIdentity hidentity)

theorem applySettlementCorrectionOnce_again
    (h : applySettlementCorrectionOnce ctx sha original position balance previous corrected ids code sourceEventId
      createdAt = .ok result)
    (hbalance : balance.SameAccount later) (hposition : position.SucceededBy positionLater)
    (hids : result.appliedJournalEntryIds ⊆ now) :
    applySettlementCorrectionOnce ctx sha original positionLater later previous corrected now code sourceEventId
      createdAt = .ok ⟨positionLater, later, none, none, none, now, false, true⟩ := by
  unfold applySettlementCorrectionOnce at h
  obtain ⟨currency, hcurrency, h⟩ := bind_eq_ok.mp h
  obtain ⟨⟨⟩, hidentity, h⟩ := bind_eq_ok.mp h
  dsimp only at h
  have hin : deriveSettlementCorrectionJournalEntryId sha original previous corrected
      ∈ result.appliedJournalEntryIds := by
    split_ifs at h with hdup
    · obtain rfl := pure_eq_ok.mp h
      exact hdup
    · simp only [bind_eq_ok, pure_eq_ok] at h
      obtain ⟨_, -, _, -, _, -, _, -, _, -, _, -, rfl⟩ := h
      exact Finset.mem_insert_self _ _
  rw [applySettlementCorrectionOnce, hcurrency, ok_bind,
    validateSettlementCorrectionIdentity_again hidentity hbalance hposition, ok_bind]
  dsimp only
  rw [if_pos (hids hin)]
  rfl

end Settlements

/-! ## Runs -/

namespace LedgerRuns

variable {ledger later : Ledger} {balanceId : String} {positionId : PositionId}

/-- A later ledger: every balance and every position is still there, and every applied id. -/
structure Ledger.Extends (ledger later : Ledger) : Prop where
  balances : ∀ balanceId balance, ledger.balances.lookup balanceId = some balance →
    ∃ current, later.balances.lookup balanceId = some current ∧ balance.SameAccount current
  positions : ∀ positionId position, ledger.positions.lookup positionId = some position →
    ∃ current, later.positions.lookup positionId = some current ∧ position.SucceededBy current
  ids : ledger.appliedJournalEntryIds ⊆ later.appliedJournalEntryIds

theorem Ledger.Extends.refl (ledger : Ledger) : ledger.Extends ledger :=
  ⟨fun _ balance h => ⟨balance, h, .refl balance⟩, fun _ position h => ⟨position, h, .refl position⟩, subset_rfl⟩

theorem Ledger.Extends.trans {middle : Ledger} (h : ledger.Extends middle) (h' : middle.Extends later) :
    ledger.Extends later where
  balances balanceId balance hbalance := by
    obtain ⟨b, hb, hsame⟩ := h.balances balanceId balance hbalance
    obtain ⟨c, hc, hsame'⟩ := h'.balances balanceId b hb
    exact ⟨c, hc, hsame.trans hsame'⟩
  positions positionId position hposition := by
    obtain ⟨p, hp, hsucc⟩ := h.positions positionId position hposition
    obtain ⟨q, hq, hsucc'⟩ := h'.positions positionId p hp
    exact ⟨q, hq, hsucc.trans hsucc'⟩
  ids := h.ids.trans h'.ids

/-- A balance replaced by a state of the same account. -/
theorem Ledger.Extends.withBalance {balance result : CashBalance} {ids : Finset String}
    (hlookup : ledger.balances.lookup balanceId = some balance) (hsame : balance.SameAccount result)
    (hids : ledger.appliedJournalEntryIds ⊆ ids) : ledger.Extends (ledger.withBalance result ids) := by
  have hkey := ledger.balances.keyed _ _ hlookup
  refine ⟨?_, fun _ position h => ⟨position, h, .refl position⟩, hids⟩
  intro k b hb
  rw [Ledger.lookup_withBalance]
  by_cases hk : k = result.balanceId
  · obtain rfl : k = balanceId := by rw [hk, hsame.balanceId, hkey]
    obtain rfl : balance = b := Option.some.inj (hlookup.symm.trans hb)
    exact ⟨result, if_pos hk, hsame⟩
  · exact ⟨b, by rw [if_neg hk, hb], .refl b⟩

theorem Ledger.Extends.withPosition {position result : Position}
    (hlookup : ledger.positions.lookup positionId = some position) (hsucc : position.SucceededBy result) :
    ledger.Extends (ledger.withPosition result) := by
  have hkey := ledger.positions.keyed _ _ hlookup
  refine ⟨fun _ balance h => ⟨balance, h, .refl balance⟩, ?_, subset_rfl⟩
  intro k p hp
  rw [Ledger.lookup_withPosition]
  by_cases hk : k = result.positionId
  · obtain rfl : k = positionId := by rw [hk, hsucc.positionId, hkey]
    obtain rfl : position = p := Option.some.inj (hlookup.symm.trans hp)
    exact ⟨result, if_pos hk, hsucc⟩
  · exact ⟨p, by rw [if_neg hk, hp], .refl p⟩

/-- A settlement or a correction puts a balance and a position back. -/
theorem Ledger.Extends.withBoth {balance balance' : CashBalance} {position position' : Position}
    {ids : Finset String} (hbalance : ledger.balances.lookup balanceId = some balance)
    (hposition : ledger.positions.lookup positionId = some position)
    (hkeeps : balance.SameAccount balance' ∧ ledger.appliedJournalEntryIds ⊆ ids)
    (hsucc : position.SucceededBy position') :
    ledger.Extends ((ledger.withBalance balance' ids).withPosition position') :=
  (Ledger.Extends.withBalance hbalance hkeeps.1 hkeeps.2).trans (.withPosition hposition hsucc)

/-- **One call.** -/
theorem apply_extends {operation : Operation} {outcome : Outcome}
    (h : apply ctx sha ledger operation = .ok outcome) : ledger.Extends outcome.ledger := by
  cases operation with
  | fee balanceId amount feeId sourceEventId occurredAt createdAt =>
      simp only [apply, bind_eq_ok, pure_eq_ok, Ledger.balance_eq_ok] at h
      obtain ⟨balance, hbalance, result, hresult, rfl⟩ := h
      obtain ⟨hsame, hids⟩ := (Fees.ChargeKind.applyOnce_posted hresult).keeps
      exact .withBalance hbalance hsame hids
  | rebate balanceId amount rebateId sourceEventId occurredAt createdAt =>
      simp only [apply, bind_eq_ok, pure_eq_ok, Ledger.balance_eq_ok] at h
      obtain ⟨balance, hbalance, result, hresult, rfl⟩ := h
      obtain ⟨hsame, hids⟩ := (Fees.ChargeKind.applyOnce_posted hresult).keeps
      exact .withBalance hbalance hsame hids
  | cashTransfer fromBalanceId toBalanceId amount transferId sourceEventId occurredAt createdAt =>
      simp only [apply, bind_eq_ok, pure_eq_ok, Ledger.balance_eq_ok] at h
      obtain ⟨fromBalance, hfrom, toBalance, hto, result, hresult, rfl⟩ := h
      obtain ⟨hsameFrom, hsameTo, hids⟩ := (Transfers.applyCashTransferOnce_transferred hresult).keeps
      have hout := Ledger.Extends.withBalance hfrom hsameFrom hids
      -- the second balance is read in the ledger that already has the first one
      obtain ⟨current, hcurrent, hsame⟩ := hout.balances _ _ hto
      exact hout.trans (.withBalance hcurrent (hsame.symm.trans hsameTo) subset_rfl)
  | settlement balanceId positionId settlement currency sourceEventId createdAt =>
      simp only [apply, bind_eq_ok, pure_eq_ok, Ledger.balance_eq_ok, Ledger.position_eq_ok] at h
      obtain ⟨balance, hbalance, position, hposition, result, hresult, rfl⟩ := h
      exact .withBoth hbalance hposition (Settlements.applySettlementOnce_posted hresult).keeps
        (Settlements.applySettlementOnce_succeeds hresult)
  | settlementCorrection balanceId positionId originalPosition previousSettlement correctedSettlement currency
      sourceEventId createdAt =>
      simp only [apply, bind_eq_ok, pure_eq_ok, Ledger.balance_eq_ok, Ledger.position_eq_ok] at h
      obtain ⟨balance, hbalance, position, hposition, result, hresult, rfl⟩ := h
      exact .withBoth hbalance hposition (Settlements.applySettlementCorrectionOnce_posted hresult).keeps
        (Settlements.applySettlementCorrectionOnce_succeeds hresult)
  | balanceCorrection balanceId observedBalance referenceId sourceEventId createdAt =>
      simp only [apply, bind_eq_ok, pure_eq_ok, Ledger.balance_eq_ok] at h
      obtain ⟨balance, hbalance, result, hresult, rfl⟩ := h
      obtain ⟨hsame, hids⟩ := (Balances.applyBalanceCorrectionOnce_posted hresult).keeps
      exact .withBalance hbalance hsame hids
  | journal balanceId journalEntry =>
      simp only [apply, bind_eq_ok, pure_eq_ok, Ledger.balance_eq_ok] at h
      obtain ⟨balance, hbalance, result, hresult, rfl⟩ := h
      obtain ⟨hsame, hids⟩ := Balances.applyJournalToCashBalanceOnce_keeps hresult
      exact .withBalance hbalance hsame hids

theorem run_extends (ctx : DecimalContext) (sha : Sha256) (ledger : Ledger) (operations : List Operation) :
    ledger.Extends (run ctx sha ledger operations) :=
  run_inv ledger.Extends (fun _ _ _ hext hcall => hext.trans (apply_extends hcall)) (.refl ledger) operations

/-- **The second call.** In every later ledger an operation that has succeeded returns what it was given. -/
theorem apply_again {operation : Operation} {outcome : Outcome}
    (h : apply ctx sha ledger operation = .ok outcome) (hext : outcome.ledger.Extends later) :
    apply ctx sha later operation = .ok ⟨later, none, false⟩ := by
  have hall := (apply_extends h).trans hext
  -- the call finds the same accounts and the same position, and stops at the id that its first call has put in
  cases operation with
  | fee balanceId amount feeId sourceEventId occurredAt createdAt =>
      simp only [apply, bind_eq_ok, pure_eq_ok, Ledger.balance_eq_ok] at h
      obtain ⟨balance, hbalance, result, hresult, rfl⟩ := h
      obtain ⟨current, hcurrent, hsame⟩ := hall.balances _ _ hbalance
      rw [apply, Ledger.balance_eq_ok.mpr hcurrent, ok_bind, Fees.applyFeeOnce,
        Fees.ChargeKind.applyOnce_again hresult hsame hext.ids, ok_bind, Ledger.withBalance_self hcurrent]
      rfl
  | rebate balanceId amount rebateId sourceEventId occurredAt createdAt =>
      simp only [apply, bind_eq_ok, pure_eq_ok, Ledger.balance_eq_ok] at h
      obtain ⟨balance, hbalance, result, hresult, rfl⟩ := h
      obtain ⟨current, hcurrent, hsame⟩ := hall.balances _ _ hbalance
      rw [apply, Ledger.balance_eq_ok.mpr hcurrent, ok_bind, Fees.applyRebateOnce,
        Fees.ChargeKind.applyOnce_again hresult hsame hext.ids, ok_bind, Ledger.withBalance_self hcurrent]
      rfl
  | cashTransfer fromBalanceId toBalanceId amount transferId sourceEventId occurredAt createdAt =>
      simp only [apply, bind_eq_ok, pure_eq_ok, Ledger.balance_eq_ok] at h
      obtain ⟨fromBalance, hfrom, toBalance, hto, result, hresult, rfl⟩ := h
      obtain ⟨fromLater, hfromLater, hsameFrom⟩ := hall.balances _ _ hfrom
      obtain ⟨toLater, htoLater, hsameTo⟩ := hall.balances _ _ hto
      rw [apply, Ledger.balance_eq_ok.mpr hfromLater, ok_bind, Ledger.balance_eq_ok.mpr htoLater, ok_bind,
        Transfers.applyCashTransferOnce_again hresult hsameFrom hsameTo hext.ids, ok_bind]
      dsimp only
      rw [Ledger.withBalance_self hfromLater, Ledger.withBalance_self htoLater]
      rfl
  | settlement balanceId positionId settlement currency sourceEventId createdAt =>
      simp only [apply, bind_eq_ok, pure_eq_ok, Ledger.balance_eq_ok, Ledger.position_eq_ok] at h
      obtain ⟨balance, hbalance, position, hposition, result, hresult, rfl⟩ := h
      obtain ⟨current, hcurrent, hsame⟩ := hall.balances _ _ hbalance
      obtain ⟨positionLater, hpositionLater, hsucc⟩ := hall.positions _ _ hposition
      rw [apply, Ledger.balance_eq_ok.mpr hcurrent, ok_bind, Ledger.position_eq_ok.mpr hpositionLater, ok_bind,
        Settlements.applySettlementOnce_again hresult hsame hsucc hext.ids, ok_bind]
      dsimp only
      rw [Ledger.withBalance_self hcurrent, Ledger.withPosition_self hpositionLater]
      rfl
  | settlementCorrection balanceId positionId originalPosition previousSettlement correctedSettlement currency
      sourceEventId createdAt =>
      simp only [apply, bind_eq_ok, pure_eq_ok, Ledger.balance_eq_ok, Ledger.position_eq_ok] at h
      obtain ⟨balance, hbalance, position, hposition, result, hresult, rfl⟩ := h
      obtain ⟨current, hcurrent, hsame⟩ := hall.balances _ _ hbalance
      obtain ⟨positionLater, hpositionLater, hsucc⟩ := hall.positions _ _ hposition
      rw [apply, Ledger.balance_eq_ok.mpr hcurrent, ok_bind, Ledger.position_eq_ok.mpr hpositionLater, ok_bind,
        Settlements.applySettlementCorrectionOnce_again hresult hsame hsucc hext.ids, ok_bind]
      dsimp only
      rw [Ledger.withBalance_self hcurrent, Ledger.withPosition_self hpositionLater]
      rfl
  | balanceCorrection balanceId observedBalance referenceId sourceEventId createdAt =>
      simp only [apply, bind_eq_ok, pure_eq_ok, Ledger.balance_eq_ok] at h
      obtain ⟨balance, hbalance, result, hresult, rfl⟩ := h
      obtain ⟨current, hcurrent, hsame⟩ := hall.balances _ _ hbalance
      rw [apply, Ledger.balance_eq_ok.mpr hcurrent, ok_bind,
        Balances.applyBalanceCorrectionOnce_again hresult hsame hext.ids, ok_bind, Ledger.withBalance_self hcurrent]
      rfl
  | journal balanceId journalEntry =>
      simp only [apply, bind_eq_ok, pure_eq_ok, Ledger.balance_eq_ok] at h
      obtain ⟨balance, hbalance, result, hresult, rfl⟩ := h
      obtain ⟨current, hcurrent, -⟩ := hall.balances _ _ hbalance
      rw [apply, Ledger.balance_eq_ok.mpr hcurrent, ok_bind,
        Balances.applyJournalToCashBalanceOnce_again hresult hext.ids, ok_bind]
      dsimp only
      rw [Ledger.withBalance_self hcurrent]
      rfl

variable (ctx sha) in
/-- **Idempotent operations.** At any point of any run after an operation has succeeded, the same call returns
    without an entry and leaves the whole ledger as it was. -/
theorem reinvoked {initial : Ledger} {before : List Operation} {operation : Operation} {outcome : Outcome}
    (hsuccess : apply ctx sha (run ctx sha initial before) operation = .ok outcome) (after : List Operation) :
    apply ctx sha (run ctx sha initial (before ++ operation :: after)) operation
      = .ok ⟨run ctx sha initial (before ++ operation :: after), none, false⟩ := by
  have hrun : run ctx sha initial (before ++ operation :: after) = run ctx sha outcome.ledger after := by
    rw [run, List.foldl_append, List.foldl_cons]
    show List.foldl _ (attempt ctx sha (run ctx sha initial before) operation) after = _
    rw [attempt_of_ok hsuccess, run]
  rw [hrun]
  exact apply_again hsuccess (run_extends ctx sha outcome.ledger after)

/-! ## A transfer made twice -/

def crowns : Currency := ⟨"DKK", by decide⟩

/-- A balance of 40 crowns. -/
def crownsOf (balanceId : String) : CashBalance :=
  ⟨balanceId, "kalshi", ⟨"acct_crowns", by decide⟩, crowns, 40, 0, 40, 0⟩

def twoAccounts : Ledger where
  balances := (Table.empty.put (crownsOf "crowns_main")).put (crownsOf "crowns_reserve")
  positions := Table.empty
  appliedJournalEntryIds := ∅

def moveCrowns : Operation :=
  .cashTransfer "crowns_main" "crowns_reserve" ⟨15, crowns⟩ "move_crowns" ⟨"evt_crowns", by decide⟩ 1 1

/-- A fee on all that the transfer leaves. -/
def chargeCrowns : Operation :=
  .fee "crowns_main" ⟨25, crowns⟩ "fee_crowns" ⟨"evt_charge", by decide⟩ 2 2

theorem moveCrowns_applies :
    ∃ outcome, apply defaultContext Sha256.constant (run defaultContext Sha256.constant twoAccounts []) moveCrowns
      = .ok outcome ∧ outcome.applied = true := by
  have happly : (apply defaultContext Sha256.constant twoAccounts moveCrowns).toOption.map Outcome.applied
      = some true := by
    decide +kernel
  cases hcall : apply defaultContext Sha256.constant twoAccounts moveCrowns with
  | error e =>
      rw [hcall] at happly
      cases happly
  | ok outcome =>
      rw [hcall] at happly
      exact ⟨outcome, hcall, Option.some.inj happly⟩

/-- The transfer arrives again when the balance it moves cash from is empty. -/
theorem reinvoked_moveCrowns :
    ∃ ledger, ledger = run defaultContext Sha256.constant twoAccounts ([] ++ moveCrowns :: [chargeCrowns]) ∧
      apply defaultContext Sha256.constant ledger moveCrowns = .ok ⟨ledger, none, false⟩ := by
  obtain ⟨outcome, hsuccess, -⟩ := moveCrowns_applies
  exact ⟨_, rfl, reinvoked defaultContext Sha256.constant hsuccess [chargeCrowns]⟩

end LedgerRuns
end Pmrp
