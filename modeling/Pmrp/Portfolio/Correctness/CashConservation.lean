import Mathlib.Algebra.BigOperators.Group.Finset.Piecewise
import Pmrp.Portfolio.Correctness.Reinvocations

/-!
# `Portfolio.Correctness.CashConservation` — where the cash of a run comes from

In exact arithmetic every booked operation moves the total of its balances by the amount it is about, and a transfer
moves two totals by opposite amounts.

- **One balance.** What an entry moves is the sum of its cash lines (`total_of_applied`); the lemmas after it read
  the amount for each operation.
- **One ledger.** `Ledger.totalIn` sums the totals of a currency, `Ledger.KeepsCash` is what never changes.
- **Runs.** `flows` lists what the booked operations of a run paid, and `run_conserves` balances the two.
-/

namespace Pmrp

open DecimalContext

variable {sha : Sha256}

/-! ## One balance -/

namespace Balances

variable {balance : CashBalance}

/-- The total moves by the sum of the matching lines. -/
theorem total_of_applied {entry : AccountingJournalEntry} {code : String} {projection : CashBalanceProjectionResult}
    (h : applyJournalToCashBalance exact balance entry code = .ok projection) :
    projection.balance.total
      = balance.total + ((cashLines entry balance.currency code).map JournalLine.amount).sum := by
  obtain ⟨-, delta, hdelta, -, rfl⟩ := applyJournalToCashBalance_eq_ok.mp h
  simp only [cashDeltaForCurrency, validateCurrency_code, ok_bind, bind_eq_ok, raiseIf_eq_ok, exists_const,
    pure_eq_ok, exact_sum] at hdelta
  obtain ⟨-, -, rfl⟩ := hdelta
  rfl

/-- An entry that was applied left a valid balance with the same reserve. -/
theorem valid_of_applied {ctx : DecimalContext} {entry : AccountingJournalEntry} {code : String}
    {projection : CashBalanceProjectionResult}
    (h : applyJournalToCashBalance ctx balance entry code = .ok projection) :
    projection.balance.Valid ctx ∧ projection.balance.reserved = balance.reserved := by
  obtain ⟨-, _, -, hvalid, rfl⟩ := applyJournalToCashBalance_eq_ok.mp h
  exact ⟨hvalid, rfl⟩

end Balances

/-- A later state of the account of `b`: valid if `b` is, with the same reserve. -/
structure CashBalance.Holds (b c : CashBalance) : Prop where
  same : b.SameAccount c
  valid : b.Valid exact → c.Valid exact
  reserved : c.reserved = b.reserved

namespace CashBalance.Holds

variable {a b c : CashBalance}

theorem refl (b : CashBalance) : Holds b b := ⟨.refl b, fun h => h, rfl⟩

theorem trans (h : Holds a b) (h' : Holds b c) : Holds a c :=
  ⟨h.same.trans h'.same, fun hvalid => h'.valid (h.valid hvalid), h'.reserved.trans h.reserved⟩

theorem of_applied {entry : AccountingJournalEntry} {code : String} {projection : CashBalanceProjectionResult}
    (h : Balances.applyJournalToCashBalance exact b entry code = .ok projection) : Holds b projection.balance :=
  ⟨Balances.sameAccount_of_applied h, fun _ => (Balances.valid_of_applied h).1, (Balances.valid_of_applied h).2⟩

theorem of_posted {ids ids' : Finset String} {entry : Option AccountingJournalEntry}
    (h : Balances.PostedOnce exact b ids entry c ids') : Holds b c := by
  cases h with
  | duplicate => exact .refl b
  | booked _ _ hcash => exact .of_applied hcash

end CashBalance.Holds

/-- What one operation did to the total of a balance: nothing without an entry, and with one it moved the total by
    `delta` of the currency. -/
def MovesTotal (balance : CashBalance) (entry : Option AccountingJournalEntry) (result : CashBalance)
    (currency : Currency) (delta : ℚ) : Prop :=
  (entry = none → result = balance) ∧
    (entry.isSome → balance.currency = currency ∧ result.total = balance.total + delta)

namespace Fees

/-- The only cash line of a charge is its cash amount. -/
theorem ChargeKind.applyOnce_total {kind : ChargeKind} (hoffset : kind.offsetAccount ≠ accountCash)
    {balance : CashBalance} {amount : Money} {referenceId : String} {ids : Finset String}
    {sourceEventId : EventId} {occurredAt createdAt : UTCDateTime} {result : ChargeApplicationResult}
    (h : kind.applyOnce exact sha balance amount referenceId ids sourceEventId occurredAt createdAt = .ok result) :
    MovesTotal balance result.journalEntry result.balance amount.currency (kind.cashAmount exact amount.amount) := by
  unfold applyOnce at h
  obtain ⟨_, hcurrency, h⟩ := bind_eq_ok.mp h
  obtain ⟨journalEntryId, -, h⟩ := bind_eq_ok.mp h
  split_ifs at h with hdup
  · obtain rfl := pure_eq_ok.mp h
    exact ⟨fun _ => rfl, fun hentry => by cases hentry⟩
  · simp only [bind_eq_ok, pure_eq_ok] at h
    obtain ⟨entry, hentry, projection, hprojection, rfl⟩ := h
    have hsame : balance.currency = amount.currency := by
      simpa only [validateBalanceCurrency, raiseIf_eq_ok, not_not] using hcurrency
    refine ⟨fun hnone => absurd hnone (Option.some_ne_none _), fun _ => ⟨hsame, ?_⟩⟩
    simp only [buildJournalEntry, bind_eq_ok, AccountingJournalEntry.validate_eq_ok] at hentry
    obtain ⟨_, -, _, -, _, -, -, rfl⟩ := hentry
    rw [Balances.total_of_applied hprojection]
    simp [Balances.cashLines, Journal.line, hsame, hoffset]

end Fees

namespace Settlements

variable {position : Position} {balance : CashBalance} {ids : Finset String} {currency : Currency}
  {sourceEventId : EventId} {createdAt : UTCDateTime}

theorem applySettlementOnce_total {settlement : Settlement} {result : SettlementApplicationResult}
    (h : applySettlementOnce exact sha position balance settlement ids currency.code sourceEventId createdAt
      = .ok result) :
    ∃ delta, MovesTotal balance result.journalEntry result.cashBalance currency delta ∧
      (result.journalEntry.isSome →
        ∃ accounting, buildSettlementAccountingResult exact position settlement currency.code = .ok accounting ∧
          accounting.cashDelta = ⟨delta, currency⟩) := by
  have hposted := applySettlementOnce_posted h
  refine ⟨(accounting exact position settlement currency).cashDelta.amount, ⟨?_, ?_⟩, ?_⟩
  · intro hnone
    rw [hnone] at hposted
    cases hposted
    rfl
  · intro hsome
    obtain ⟨entry, hentry⟩ := Option.isSome_iff_exists.mp hsome
    obtain ⟨settledAt, -, -, -, -, -, -, -, -, hcash⟩ := applySettlementOnce_applied h hentry
    refine ⟨?_, by rw [hcash, accounting_cashDelta]; rfl⟩
    simp only [applySettlementOnce, validateCurrency_code, ok_bind, validateCashBalanceForPosition, bind_eq_ok,
      raiseIf_eq_ok, not_not, exists_const] at h
    obtain ⟨⟨-, -, hcurrency⟩, -⟩ := h
    exact hcurrency
  · intro hsome
    obtain ⟨entry, hentry⟩ := Option.isSome_iff_exists.mp hsome
    obtain ⟨settledAt, -, -, hsettles, -⟩ := applySettlementOnce_applied h hentry
    refine ⟨accounting exact position settlement currency, ?_, rfl⟩
    rw [buildSettlementAccountingResult, validateCurrency_code, ok_bind]
    exact buildSettlementAccountingResult'_eq_ok.mpr ⟨hsettles, rfl⟩

theorem applySettlementCorrectionOnce_total {original : Position} {previous corrected : Settlement}
    {result : SettlementCorrectionApplicationResult}
    (h : applySettlementCorrectionOnce exact sha original position balance previous corrected ids currency.code
      sourceEventId createdAt = .ok result) :
    ∃ delta, MovesTotal balance result.journalEntry result.cashBalance currency delta ∧
      (result.journalEntry.isSome → ∃ accounting,
        buildSettlementCorrectionAccountingResult exact original previous corrected currency.code = .ok accounting ∧
          accounting.cashDelta = ⟨delta, currency⟩) := by
  have hcall := h
  unfold applySettlementCorrectionOnce at h
  simp only [validateCurrency_code, ok_bind] at h
  obtain ⟨_, hidentity, h⟩ := bind_eq_ok.mp h
  split_ifs at h with hdup
  · obtain rfl := pure_eq_ok.mp h
    exact ⟨0, ⟨fun _ => rfl, fun hsome => absurd hsome Bool.false_ne_true⟩,
      fun hsome => absurd hsome Bool.false_ne_true⟩
  · simp only [bind_eq_ok, pure_eq_ok] at h
    obtain ⟨_, -, acc, hacc, _, -, _, -, _, -, _, -, rfl⟩ := h
    obtain ⟨_, -, -, -, -, hcash⟩ := applySettlementCorrectionOnce_applied hcall rfl
    obtain ⟨-, -, hdelta, -⟩ := buildSettlementCorrectionAccountingResult_eq_ok hacc
    have hcurrency : balance.currency = currency := by
      simp only [validateSettlementCorrectionIdentity, validateCashBalanceForPosition, bind_eq_ok, raiseIf_eq_ok,
        not_not, exists_const] at hidentity
      exact hidentity.1.2.2
    refine ⟨_, ⟨fun hnone => absurd hnone (Option.some_ne_none _), fun _ => ⟨hcurrency, ?_⟩⟩,
      fun _ => ⟨acc, hacc, hdelta⟩⟩
    rw [hcash]
    rfl

end Settlements

namespace Transfers

variable {fromBalance toBalance : CashBalance} {amount : Money} {transferId : String}

theorem accountCodeOf_ne_transfer (balanceId : String) : accountCodeOf balanceId ≠ accountCashTransfer := by
  intro h
  have hlist := congrArg String.toList h
  simp [accountCodeOf, accountCash, accountCashTransfer, String.toList_append] at hlist

theorem accountCodeOf_injective : Function.Injective accountCodeOf := by
  intro i j h
  have hlist := congrArg String.toList h
  simp only [accountCodeOf, String.toList_append] at hlist
  exact String.toList_injective (List.append_cancel_left hlist)

theorem TransferredOnce.holds {ids ids' : Finset String} {entry : Option AccountingJournalEntry}
    {outbound inbound : CashBalance}
    (h : TransferredOnce exact fromBalance toBalance ids entry outbound inbound ids') :
    fromBalance.Holds outbound ∧ toBalance.Holds inbound := by
  cases h with
  | duplicate => exact ⟨.refl fromBalance, .refl toBalance⟩
  | booked _ _ _ _ hfrom hto => exact ⟨.of_applied hfrom, .of_applied hto⟩

/-- The two accounts move by opposite amounts, and only together. -/
theorem applyCashTransferOnce_total {ids : Finset String} {sourceEventId : EventId}
    {occurredAt createdAt : UTCDateTime} {result : CashTransferApplicationResult}
    (h : applyCashTransferOnce exact sha fromBalance toBalance amount transferId ids sourceEventId occurredAt
      createdAt = .ok result) :
    fromBalance.balanceId ≠ toBalance.balanceId ∧
      MovesTotal fromBalance result.journalEntry result.fromBalance amount.currency (-amount.amount) ∧
      MovesTotal toBalance result.journalEntry result.toBalance amount.currency amount.amount := by
  unfold applyCashTransferOnce at h
  obtain ⟨_, hinputs, h⟩ := bind_eq_ok.mp h
  obtain ⟨journalEntryId, -, h⟩ := bind_eq_ok.mp h
  simp only [validateTransferInputs, validateCurrency_code, ok_bind, bind_eq_ok, raiseIf_eq_ok, exists_const,
    not_not] at hinputs
  obtain ⟨_, -, hdistinct, hcurrencies, hcurrency, -⟩ := hinputs
  refine ⟨hdistinct, ?_⟩
  split_ifs at h with hdup
  · obtain rfl := pure_eq_ok.mp h
    exact ⟨⟨fun _ => rfl, fun hsome => absurd hsome Bool.false_ne_true⟩,
      ⟨fun _ => rfl, fun hsome => absurd hsome Bool.false_ne_true⟩⟩
  · simp only [bind_eq_ok, pure_eq_ok] at h
    obtain ⟨entry, hentry, fromCode, hfromCode, outbound, houtbound, toCode, htoCode, inbound, hinbound, rfl⟩ := h
    simp only [buildCashTransferJournalEntry, bind_eq_ok, AccountingJournalEntry.validate_eq_ok] at hentry
    obtain ⟨_, -, _, -, fromCode', hfromCode', toCode', htoCode', -, rfl⟩ := hentry
    have hfrom := cashBalanceAccountCode_val hfromCode'
    have hto := cashBalanceAccountCode_val htoCode'
    rw [cashBalanceAccountCode_val hfromCode] at houtbound
    rw [cashBalanceAccountCode_val htoCode] at hinbound
    have hcodes : accountCodeOf fromBalance.balanceId ≠ accountCodeOf toBalance.balanceId :=
      accountCodeOf_injective.ne hdistinct
    have hto_currency : toBalance.currency = amount.currency := hcurrencies.symm.trans hcurrency
    refine ⟨⟨fun hnone => absurd hnone (Option.some_ne_none _), fun _ => ⟨hcurrency, ?_⟩⟩,
      ⟨fun hnone => absurd hnone (Option.some_ne_none _), fun _ => ⟨hto_currency, ?_⟩⟩⟩
    · rw [Balances.total_of_applied houtbound]
      simp [Balances.cashLines, transferLines, Journal.line, hfrom, hto, hcurrency, hcodes.symm,
        (accountCodeOf_ne_transfer _).symm]
    · rw [Balances.total_of_applied hinbound]
      simp [Balances.cashLines, transferLines, Journal.line, hfrom, hto, hto_currency, hcodes,
        (accountCodeOf_ne_transfer _).symm]

end Transfers

theorem validateCurrency_eq_ok {code : String} {currency : Currency} (h : validateCurrency code = .ok currency) :
    code = currency.code := by
  unfold validateCurrency at h
  split_ifs at h
  cases h
  rfl

/-! ## One ledger -/

namespace LedgerRuns

/-- The five operations that book cash of their own. -/
def Operation.BooksCash : Operation → Prop
  | .fee .. | .rebate .. | .cashTransfer .. | .settlement .. | .settlementCorrection .. => True
  | .balanceCorrection .. | .journal .. => False

/-- What an operation is about; a transfer is about nothing that comes or goes. -/
inductive FlowKind
  | fee
  | rebate
  | settlement
  | settlementCorrection
  deriving DecidableEq

structure Flow where
  kind : FlowKind
  money : Money

section Flows

variable (ctx : DecimalContext) (sha : Sha256)

/-- What an operation would pay: its own amount, or that of its accounting. -/
def flow (ledger : Ledger) : Operation → Option Flow
  | .fee _ amount _ _ _ _ => some ⟨.fee, amount⟩
  | .rebate _ amount _ _ _ _ => some ⟨.rebate, amount⟩
  | .settlement _ positionId settlement currency _ _ =>
      (ledger.positions.lookup positionId).bind fun position =>
        (Settlements.buildSettlementAccountingResult ctx position settlement currency).toOption.map
          fun accounting => ⟨.settlement, accounting.cashDelta⟩
  | .settlementCorrection _ _ originalPosition previousSettlement correctedSettlement currency _ _ =>
      (Settlements.buildSettlementCorrectionAccountingResult ctx originalPosition previousSettlement
        correctedSettlement currency).toOption.map fun accounting => ⟨.settlementCorrection, accounting.cashDelta⟩
  | .cashTransfer .. | .balanceCorrection .. | .journal .. => none

/-- The call returns and books an entry. -/
def books (ledger : Ledger) (operation : Operation) : Bool :=
  (apply ctx sha ledger operation).toOption.any fun outcome => outcome.journalEntry.isSome

/-- What the operations of a run that booked an entry paid. -/
def flows : Ledger → List Operation → List Flow
  | _, [] => []
  | ledger, operation :: operations =>
      (if books ctx sha ledger operation then (flow ctx ledger operation).toList else [])
        ++ flows (attempt ctx sha ledger operation) operations

end Flows

/-- All that was paid of one kind in one currency. -/
def paid (kind : FlowKind) (currency : Currency) (flows : List Flow) : ℚ :=
  ((flows.filter fun flow => flow.kind = kind ∧ flow.money.currency = currency).map fun flow =>
    flow.money.amount).sum

/-- What came in, fees taken off. -/
def net (currency : Currency) (flows : List Flow) : ℚ :=
  paid .rebate currency flows - paid .fee currency flows + paid .settlement currency flows
    + paid .settlementCorrection currency flows

theorem net_append (currency : Currency) (xs ys : List Flow) :
    net currency (xs ++ ys) = net currency xs + net currency ys := by
  simp only [net, paid, List.filter_append, List.map_append, List.sum_append]
  ring

theorem net_nil (currency : Currency) : net currency [] = 0 := by
  simp [net, paid]

def FlowKind.signed (amount : ℚ) : FlowKind → ℚ
  | .fee => -amount
  | .rebate | .settlement | .settlementCorrection => amount

theorem net_singleton (currency : Currency) (flow : Flow) :
    net currency [flow] = if flow.money.currency = currency then flow.kind.signed flow.money.amount else 0 := by
  obtain ⟨kind, money⟩ := flow
  by_cases hcurrency : money.currency = currency
  · cases kind <;> simp [net, paid, FlowKind.signed, hcurrency]
  · simp [net, paid, hcurrency]

variable {ledger later : Ledger} {balanceId : String} {positionId : PositionId} {balanceIds : Finset String}
  {currency : Currency}

/-- The total of a balance in its own currency, zero in others. -/
def totalOf (currency : Currency) : Option CashBalance → ℚ
  | none => 0
  | some balance => if balance.currency = currency then balance.total else 0

theorem totalOf_some (currency : Currency) (balance : CashBalance) :
    totalOf currency (some balance) = if balance.currency = currency then balance.total else 0 := rfl

def Ledger.totalIn (ledger : Ledger) (balanceIds : Finset String) (currency : Currency) : ℚ :=
  ∑ balanceId ∈ balanceIds, totalOf currency (ledger.balances.lookup balanceId)

/-- The same accounts as before, each of them held. -/
structure Ledger.KeepsCash (ledger later : Ledger) : Prop where
  absent : ∀ balanceId, ledger.balances.lookup balanceId = none → later.balances.lookup balanceId = none
  present : ∀ balanceId balance, ledger.balances.lookup balanceId = some balance →
    ∃ current, later.balances.lookup balanceId = some current ∧ balance.Holds current

theorem Ledger.KeepsCash.refl (ledger : Ledger) : ledger.KeepsCash ledger :=
  ⟨fun _ h => h, fun _ balance h => ⟨balance, h, .refl balance⟩⟩

theorem Ledger.KeepsCash.trans {middle : Ledger} (h : ledger.KeepsCash middle) (h' : middle.KeepsCash later) :
    ledger.KeepsCash later where
  absent balanceId hnone := h'.absent balanceId (h.absent balanceId hnone)
  present balanceId balance hbalance := by
    obtain ⟨b, hb, hholds⟩ := h.present balanceId balance hbalance
    obtain ⟨c, hc, hholds'⟩ := h'.present balanceId b hb
    exact ⟨c, hc, hholds.trans hholds'⟩

theorem Ledger.KeepsCash.withBalance {balance result : CashBalance} {ids : Finset String}
    (hlookup : ledger.balances.lookup balanceId = some balance) (hholds : balance.Holds result) :
    ledger.KeepsCash (ledger.withBalance result ids) := by
  have hkey := ledger.balances.keyed _ _ hlookup
  have hid : result.balanceId = balanceId := hholds.same.balanceId.trans hkey
  constructor
  · intro k hk
    have hne : k ≠ balanceId := by
      rintro rfl
      rw [hlookup] at hk
      cases hk
    rw [Ledger.lookup_withBalance, if_neg (hid ▸ hne), hk]
  · intro k b hb
    rw [Ledger.lookup_withBalance, hid]
    by_cases hk : k = balanceId
    · subst hk
      obtain rfl : balance = b := Option.some.inj (hlookup.symm.trans hb)
      exact ⟨result, if_pos rfl, hholds⟩
    · exact ⟨b, by rw [if_neg hk, hb], .refl b⟩

/-- The other balance is still there when one has been put back. -/
theorem lookup_withBalance_of_ne {balance result other : CashBalance} {i : Finset String}
    (hsame : balance.SameAccount result) (hdistinct : balance.balanceId ≠ other.balanceId)
    (hlookup : ledger.balances.lookup balanceId = some other) :
    (ledger.withBalance result i).balances.lookup balanceId = some other := by
  have hkey := ledger.balances.keyed _ _ hlookup
  rw [Ledger.lookup_withBalance, hsame.balanceId, if_neg fun h => hdistinct (h.symm.trans hkey.symm), hlookup]

theorem Ledger.KeepsCash.withPosition {position : Position} (h : ledger.KeepsCash later) :
    ledger.KeepsCash (later.withPosition position) := ⟨h.absent, h.present⟩

/-- Putting back one balance of the sum changes the sum by the change of its total. -/
theorem totalIn_withBalance {balance result : CashBalance} {ids : Finset String} {entry : Option AccountingJournalEntry}
    {moved : Currency} {delta : ℚ} (hlookup : ledger.balances.lookup balanceId = some balance)
    (hmem : balanceId ∈ balanceIds) (hsame : balance.SameAccount result)
    (hmoves : MovesTotal balance entry result moved delta) :
    (ledger.withBalance result ids).totalIn balanceIds currency
      = ledger.totalIn balanceIds currency + if entry.isSome ∧ moved = currency then delta else 0 := by
  have hkey := ledger.balances.keyed _ _ hlookup
  have hid : result.balanceId = balanceId := hsame.balanceId.trans hkey
  have hchange : totalOf currency (some result)
      = totalOf currency (some balance) + if entry.isSome ∧ moved = currency then delta else 0 := by
    cases entry with
    | none => rw [hmoves.1 rfl, if_neg (by simp), add_zero]
    | some entry =>
        obtain ⟨hcurrency, htotal⟩ := hmoves.2 rfl
        rw [totalOf_some, totalOf_some, hsame.currency, hcurrency, htotal]
        by_cases hc : moved = currency <;> simp [hc]
  have hterm : ∀ k ∈ balanceIds, totalOf currency ((ledger.withBalance result ids).balances.lookup k)
      = totalOf currency (ledger.balances.lookup k)
        + if k = balanceId then (if entry.isSome ∧ moved = currency then delta else 0) else 0 := by
    intro k _
    rw [Ledger.lookup_withBalance, hid]
    by_cases hk : k = balanceId
    · rw [if_pos hk, if_pos hk, hk, hlookup, hchange]
    · rw [if_neg hk, if_neg hk, add_zero]
  rw [Ledger.totalIn, Finset.sum_congr rfl hterm, Finset.sum_add_distrib, Finset.sum_ite_eq', if_pos hmem,
    Ledger.totalIn]

theorem net_ite (b : Bool) (flow : Flow) : net currency (if b then [flow] else [])
    = if b ∧ flow.money.currency = currency then flow.kind.signed flow.money.amount else 0 := by
  cases b with
  | false => simp [net_nil]
  | true => simp [net_singleton]

/-- A balance that an operation put back moves the sum by what the operation paid. -/
theorem total_of_moves {balance result : CashBalance} {ids : Finset String} {entry : Option AccountingJournalEntry}
    {moved : Currency} {amount delta : ℚ} {paidFlow : Option Flow} (kind : FlowKind)
    (hlookup : ledger.balances.lookup balanceId = some balance) (hmem : balanceId ∈ balanceIds)
    (hsame : balance.SameAccount result) (hmoves : MovesTotal balance entry result moved delta)
    (hflow : entry.isSome → paidFlow = some ⟨kind, ⟨amount, moved⟩⟩) (hsigned : kind.signed amount = delta) :
    (ledger.withBalance result ids).totalIn balanceIds currency = ledger.totalIn balanceIds currency
      + net currency (if entry.isSome then paidFlow.toList else []) := by
  rw [totalIn_withBalance hlookup hmem hsame hmoves]
  cases entry with
  | none => simp [net_nil]
  | some entry =>
      rw [hflow rfl, Option.toList_some, net_ite, hsigned]

/-- **One call** holds every account, whatever it was. -/
theorem apply_keepsCash {operation : Operation} {outcome : Outcome}
    (h : apply exact sha ledger operation = .ok outcome) : ledger.KeepsCash outcome.ledger := by
  -- each operation posts to one account, but a transfer to two
  cases operation with
  | fee balanceId amount feeId sourceEventId occurredAt createdAt =>
      simp only [apply, bind_eq_ok, pure_eq_ok, Ledger.balance_eq_ok] at h
      obtain ⟨balance, hbalance, result, hresult, rfl⟩ := h
      exact .withBalance hbalance (.of_posted (Fees.ChargeKind.applyOnce_posted hresult))
  | rebate balanceId amount rebateId sourceEventId occurredAt createdAt =>
      simp only [apply, bind_eq_ok, pure_eq_ok, Ledger.balance_eq_ok] at h
      obtain ⟨balance, hbalance, result, hresult, rfl⟩ := h
      exact .withBalance hbalance (.of_posted (Fees.ChargeKind.applyOnce_posted hresult))
  | cashTransfer fromBalanceId toBalanceId amount transferId sourceEventId occurredAt createdAt =>
      simp only [apply, bind_eq_ok, pure_eq_ok, Ledger.balance_eq_ok] at h
      obtain ⟨fromBalance, hfrom, toBalance, hto, result, hresult, rfl⟩ := h
      obtain ⟨hdistinct, -, -⟩ := Transfers.applyCashTransferOnce_total hresult
      obtain ⟨hsameFrom, -, -⟩ := (Transfers.applyCashTransferOnce_transferred hresult).keeps
      have hholds := (Transfers.applyCashTransferOnce_transferred hresult).holds
      have hlookup := lookup_withBalance_of_ne (i := result.appliedJournalEntryIds) hsameFrom hdistinct hto
      exact (Ledger.KeepsCash.withBalance hfrom hholds.1).trans (.withBalance hlookup hholds.2)
  | settlement balanceId positionId settlement currency sourceEventId createdAt =>
      simp only [apply, bind_eq_ok, pure_eq_ok, Ledger.balance_eq_ok] at h
      obtain ⟨balance, hbalance, position, -, result, hresult, rfl⟩ := h
      exact (Ledger.KeepsCash.withBalance hbalance
        (.of_posted (Settlements.applySettlementOnce_posted hresult))).withPosition
  | settlementCorrection balanceId positionId originalPosition previousSettlement correctedSettlement currency
      sourceEventId createdAt =>
      simp only [apply, bind_eq_ok, pure_eq_ok, Ledger.balance_eq_ok] at h
      obtain ⟨balance, hbalance, position, -, result, hresult, rfl⟩ := h
      exact (Ledger.KeepsCash.withBalance hbalance
        (.of_posted (Settlements.applySettlementCorrectionOnce_posted hresult))).withPosition
  | balanceCorrection balanceId observedBalance referenceId sourceEventId createdAt =>
      simp only [apply, bind_eq_ok, pure_eq_ok, Ledger.balance_eq_ok] at h
      obtain ⟨balance, hbalance, result, hresult, rfl⟩ := h
      exact .withBalance hbalance (.of_posted (Balances.applyBalanceCorrectionOnce_posted hresult))
  | journal balanceId journalEntry =>
      simp only [apply, bind_eq_ok, pure_eq_ok, Ledger.balance_eq_ok] at h
      obtain ⟨balance, hbalance, result, hresult, rfl⟩ := h
      refine .withBalance hbalance ?_
      unfold Balances.applyJournalToCashBalanceOnce at hresult
      split_ifs at hresult with hdup
      · obtain rfl := pure_eq_ok.mp hresult
        exact .refl balance
      · simp only [bind_eq_ok, pure_eq_ok] at hresult
        obtain ⟨projection, hprojection, rfl⟩ := hresult
        exact .of_applied hprojection

theorem attempt_keepsCash (sha : Sha256) (ledger : Ledger) (operation : Operation) :
    ledger.KeepsCash (attempt exact sha ledger operation) := by
  cases hcall : apply exact sha ledger operation with
  | error e => rw [attempt_of_error hcall]; exact .refl ledger
  | ok outcome => rw [attempt_of_ok hcall]; exact apply_keepsCash hcall

theorem run_keepsCash (sha : Sha256) (ledger : Ledger) (operations : List Operation) :
    ledger.KeepsCash (run exact sha ledger operations) :=
  run_inv ledger.KeepsCash (fun _ _ _ hkeeps hcall => hkeeps.trans (apply_keepsCash hcall)) (.refl ledger) operations

/-- **One call** moves the totals by what it paid. -/
theorem apply_total {operation : Operation} {outcome : Outcome} (hbooks : operation.BooksCash)
    (hall : ∀ balanceId balance, ledger.balances.lookup balanceId = some balance → balanceId ∈ balanceIds)
    (h : apply exact sha ledger operation = .ok outcome) :
    outcome.ledger.totalIn balanceIds currency = ledger.totalIn balanceIds currency
      + net currency (if outcome.journalEntry.isSome then (flow exact ledger operation).toList else []) := by
  cases operation with
  | fee balanceId amount feeId sourceEventId occurredAt createdAt =>
      simp only [apply, bind_eq_ok, pure_eq_ok, Ledger.balance_eq_ok] at h
      obtain ⟨balance, hbalance, result, hresult, rfl⟩ := h
      have hsame := (Fees.ChargeKind.applyOnce_posted hresult).keeps.1
      have hmoves := Fees.ChargeKind.applyOnce_total (by decide) hresult
      exact total_of_moves .fee hbalance (hall _ _ hbalance) hsame hmoves (fun _ => rfl) rfl
  | rebate balanceId amount rebateId sourceEventId occurredAt createdAt =>
      simp only [apply, bind_eq_ok, pure_eq_ok, Ledger.balance_eq_ok] at h
      obtain ⟨balance, hbalance, result, hresult, rfl⟩ := h
      have hsame := (Fees.ChargeKind.applyOnce_posted hresult).keeps.1
      have hmoves := Fees.ChargeKind.applyOnce_total (by decide) hresult
      exact total_of_moves .rebate hbalance (hall _ _ hbalance) hsame hmoves (fun _ => rfl) rfl
  | cashTransfer fromBalanceId toBalanceId amount transferId sourceEventId occurredAt createdAt =>
      simp only [apply, bind_eq_ok, pure_eq_ok, Ledger.balance_eq_ok] at h
      obtain ⟨fromBalance, hfrom, toBalance, hto, result, hresult, rfl⟩ := h
      obtain ⟨hdistinct, hmovesFrom, hmovesTo⟩ := Transfers.applyCashTransferOnce_total hresult
      obtain ⟨hsameFrom, hsameTo, -⟩ := (Transfers.applyCashTransferOnce_transferred hresult).keeps
      have hlookup := lookup_withBalance_of_ne (i := result.appliedJournalEntryIds) hsameFrom hdistinct hto
      dsimp only
      rw [totalIn_withBalance hlookup (hall _ _ hto) hsameTo hmovesTo,
        totalIn_withBalance hfrom (hall _ _ hfrom) hsameFrom hmovesFrom, flow, Option.toList_none, ite_self, net_nil]
      -- what leaves one balance reaches the other
      split_ifs <;> ring
  | settlement balanceId positionId settlement code sourceEventId createdAt =>
      simp only [apply, bind_eq_ok, pure_eq_ok, Ledger.balance_eq_ok, Ledger.position_eq_ok] at h
      obtain ⟨balance, hbalance, position, hposition, result, hresult, rfl⟩ := h
      have hsame := (Settlements.applySettlementOnce_posted hresult).keeps.1
      obtain ⟨validated, hvalidated⟩ : ∃ c, validateCurrency code = .ok c := by
        obtain ⟨c, hc, -⟩ := bind_eq_ok.mp hresult
        exact ⟨c, hc⟩
      obtain rfl := validateCurrency_eq_ok hvalidated
      obtain ⟨delta, hmoves, haccounting⟩ := Settlements.applySettlementOnce_total hresult
      show (ledger.withBalance result.cashBalance result.appliedJournalEntryIds).totalIn balanceIds currency = _
      refine total_of_moves .settlement hbalance (hall _ _ hbalance) hsame hmoves (fun hsome => ?_) rfl
      obtain ⟨accounting, hbuilt, hdelta⟩ := haccounting hsome
      rw [flow, hposition, Option.bind_some, hbuilt, ← hdelta]
      rfl
  | settlementCorrection balanceId positionId originalPosition previousSettlement correctedSettlement code
      sourceEventId createdAt =>
      simp only [apply, bind_eq_ok, pure_eq_ok, Ledger.balance_eq_ok, Ledger.position_eq_ok] at h
      obtain ⟨balance, hbalance, position, hposition, result, hresult, rfl⟩ := h
      have hsame := (Settlements.applySettlementCorrectionOnce_posted hresult).keeps.1
      obtain ⟨validated, hvalidated⟩ : ∃ c, validateCurrency code = .ok c := by
        obtain ⟨c, hc, -⟩ := bind_eq_ok.mp hresult
        exact ⟨c, hc⟩
      obtain rfl := validateCurrency_eq_ok hvalidated
      obtain ⟨delta, hmoves, haccounting⟩ := Settlements.applySettlementCorrectionOnce_total hresult
      show (ledger.withBalance result.cashBalance result.appliedJournalEntryIds).totalIn balanceIds currency = _
      refine total_of_moves .settlementCorrection hbalance (hall _ _ hbalance) hsame hmoves (fun hsome => ?_) rfl
      obtain ⟨accounting, hbuilt, hdelta⟩ := haccounting hsome
      rw [flow, hbuilt, ← hdelta]
      rfl
  | balanceCorrection balanceId observedBalance referenceId sourceEventId createdAt => cases hbooks
  | journal balanceId journalEntry => cases hbooks

/-- **Runs.** By induction on the operations: a failed one changes nothing and pays nothing. -/
theorem run_total {operations : List Operation} (hbooks : ∀ operation ∈ operations, operation.BooksCash)
    (hall : ∀ balanceId balance, ledger.balances.lookup balanceId = some balance → balanceId ∈ balanceIds) :
    (run exact sha ledger operations).totalIn balanceIds currency
      = ledger.totalIn balanceIds currency + net currency (flows exact sha ledger operations) := by
  induction operations generalizing ledger with
  | nil => rw [flows, net_nil, add_zero]; rfl
  | cons operation operations ih =>
      have hkeeps := attempt_keepsCash sha ledger operation
      have hall' : ∀ balanceId balance, (attempt exact sha ledger operation).balances.lookup balanceId = some balance →
          balanceId ∈ balanceIds := by
        intro k balance hbalance
        cases hbefore : ledger.balances.lookup k with
        | none =>
            rw [hkeeps.absent k hbefore] at hbalance
            cases hbalance
        | some before => exact hall k before hbefore
      have hrest := @ih (attempt exact sha ledger operation)
        (fun o ho => hbooks o (List.mem_cons_of_mem _ ho)) hall'
      have hstep : (attempt exact sha ledger operation).totalIn balanceIds currency
          = ledger.totalIn balanceIds currency
            + net currency (if books exact sha ledger operation then (flow exact ledger operation).toList else []) := by
        cases hcall : apply exact sha ledger operation with
        | error e =>
            have hnone : books exact sha ledger operation = false := by rw [books, hcall]; rfl
            rw [attempt_of_error hcall, hnone, if_neg Bool.false_ne_true, net_nil, add_zero]
        | ok outcome =>
            have hsome : books exact sha ledger operation = outcome.journalEntry.isSome := by rw [books, hcall]; rfl
            rw [attempt_of_ok hcall, hsome]
            exact apply_total (hbooks operation List.mem_cons_self) hall hcall
      show (run exact sha (attempt exact sha ledger operation) operations).totalIn balanceIds currency = _
      rw [hrest, hstep, flows, net_append, add_assoc]

/-- A ledger with finitely many balances, all of them valid. -/
structure Ledger.Finite (ledger : Ledger) (balanceIds : Finset String) : Prop where
  all : ∀ balanceId balance, ledger.balances.lookup balanceId = some balance → balanceId ∈ balanceIds
  valid : ∀ balanceId balance, ledger.balances.lookup balanceId = some balance → balance.Valid exact

/-- **Cash conservation.** Over any run the totals of a currency change by the rebates, less the fees, plus the cash
    of settlements and of corrections. At its end every balance is there, valid and with its reserve, and none is
    new; an operation that fails next leaves the ledger. -/
theorem run_conserves (sha : Sha256) {initial : Ledger} (hfinite : initial.Finite balanceIds)
    {operations : List Operation} (hbooks : ∀ operation ∈ operations, operation.BooksCash) :
    (∀ currency, (run exact sha initial operations).totalIn balanceIds currency
        - initial.totalIn balanceIds currency
      = paid .rebate currency (flows exact sha initial operations)
        - paid .fee currency (flows exact sha initial operations)
        + paid .settlement currency (flows exact sha initial operations)
        + paid .settlementCorrection currency (flows exact sha initial operations)) ∧
      (∀ balanceId balance, initial.balances.lookup balanceId = some balance →
        ∃ current, (run exact sha initial operations).balances.lookup balanceId = some current ∧
          current.available + current.reserved = current.total ∧ current.reserved = balance.reserved ∧
          current.currency = balance.currency ∧ current.Valid exact) ∧
      (∀ balanceId, initial.balances.lookup balanceId = none →
        (run exact sha initial operations).balances.lookup balanceId = none) ∧
      ∀ operation e, apply exact sha (run exact sha initial operations) operation = .error e →
        run exact sha initial (operations ++ [operation]) = run exact sha initial operations := by
  have hkeeps := run_keepsCash sha initial operations
  refine ⟨?_, ?_, hkeeps.absent, ?_⟩
  · intro currency
    rw [run_total hbooks hfinite.all, add_sub_cancel_left]
    rfl
  · intro balanceId balance hbalance
    obtain ⟨current, hcurrent, hholds⟩ := hkeeps.present balanceId balance hbalance
    have hvalid := hholds.valid (hfinite.valid balanceId balance hbalance)
    exact ⟨current, hcurrent, hvalid.identity, hholds.reserved, hholds.same.currency, hvalid⟩
  · intro operation e hfailed
    rw [run, List.foldl_append]
    exact attempt_of_error hfailed

/-! ## A transfer and a fee -/

theorem crownsOf_valid (balanceId : String) (h : TextWithin portfolioIdMaxLength balanceId) :
    (crownsOf balanceId).Valid exact where
  balanceId_within := h
  exchange_within := show TextWithin 64 "kalshi" by decide
  reserved_nonneg := le_refl (0 : ℚ)
  identity := add_zero (40 : ℚ)

theorem twoAccounts_finite : twoAccounts.Finite {"crowns_main", "crowns_reserve"} := by
  have hrows : ∀ balanceId balance, twoAccounts.balances.lookup balanceId = some balance →
      (balanceId = "crowns_main" ∨ balanceId = "crowns_reserve") ∧ balance = crownsOf balanceId := by
    intro balanceId balance h
    have hlookup : twoAccounts.balances.lookup balanceId
        = if balanceId = "crowns_reserve" then some (crownsOf "crowns_reserve")
          else if balanceId = "crowns_main" then some (crownsOf "crowns_main") else none := by
      simp only [twoAccounts, Table.put, Function.update_apply]
      rfl
    rw [hlookup] at h
    split_ifs at h with hreserve hmain
    · exact ⟨Or.inr hreserve, by rw [hreserve]; exact (Option.some.inj h).symm⟩
    · exact ⟨Or.inl hmain, by rw [hmain]; exact (Option.some.inj h).symm⟩
  constructor
  · intro balanceId balance h
    obtain ⟨rfl | rfl, -⟩ := hrows balanceId balance h
    · exact Finset.mem_insert_self _ _
    · exact Finset.mem_insert_of_mem (Finset.mem_singleton_self _)
  · intro balanceId balance h
    obtain ⟨rfl | rfl, rfl⟩ := hrows balanceId balance h
    · exact crownsOf_valid _ (by decide)
    · exact crownsOf_valid _ (by decide)

/-- Only the fee of 25 is missing afterwards. -/
theorem run_conserves_crowns :
    (run exact Sha256.constant twoAccounts [moveCrowns, chargeCrowns]).totalIn {"crowns_main", "crowns_reserve"} crowns
      - twoAccounts.totalIn {"crowns_main", "crowns_reserve"} crowns = 0 - 25 + 0 + 0 := by
  have hbooks : ∀ operation ∈ [moveCrowns, chargeCrowns], operation.BooksCash := by
    intro operation hmem
    rcases List.mem_pair.mp hmem with rfl | rfl <;> exact trivial
  -- the transfer pays nothing, so that only the fee has to be run
  have hbooked : books exact Sha256.constant (attempt exact Sha256.constant twoAccounts moveCrowns) chargeCrowns
      = true := by
    decide +kernel
  have hflows : flows exact Sha256.constant twoAccounts [moveCrowns, chargeCrowns] = [⟨.fee, ⟨25, crowns⟩⟩] := by
    have hmoved : flow exact twoAccounts moveCrowns = none := rfl
    rw [flows, flows, flows, hmoved, if_pos hbooked, Option.toList_none, ite_self]
    rfl
  have hpaid : ∀ kind, paid kind crowns [⟨.fee, ⟨25, crowns⟩⟩] = if kind = .fee then 25 else 0 := by
    intro kind
    cases kind <;> decide +kernel
  rw [(run_conserves Sha256.constant twoAccounts_finite hbooks).1 crowns, hflows, hpaid, hpaid, hpaid, hpaid]
  rfl

end LedgerRuns
end Pmrp
