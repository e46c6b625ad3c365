import Pmrp.Lib.OptimisticSaves
import Pmrp.Portfolio.Correctness.CashFlow
import Pmrp.Portfolio.Fees
import Pmrp.Portfolio.Settlement
import Pmrp.Portfolio.Transfers

/-!
# `Portfolio.Correctness.CashReplay` — replaying the journal of cash balances

Six operations book entries against a set of balances that share one set of applied ids. Each balance sees its own
postings: an entry, and the account code under which its operation read it.

- **Per balance.** A history of operations is, for each balance, a chain of postings (`Posted`).
- **With the codes.** Replaying the postings under their codes reproduces the balance (`Posted.replayPostings`).
- **Under the default code.** The replay reproduces the balance when all codes are the default one
  (`Posted.replayOnce_ok`) and raises otherwise (`Posted.replayOnce_error`).
-/

namespace Pmrp
namespace CashReplay

variable (ctx : DecimalContext) (sha : Sha256)

/-! ## Histories of operations -/

/-- An entry as one balance sees it. -/
structure Posting where
  balanceId : String
  journalEntry : AccountingJournalEntry
  cashAccountCode : String
  deriving DecidableEq

structure Books where
  balances : Table CashBalance.balanceId
  appliedJournalEntryIds : Finset String
  postings : List Posting

inductive Operation
  | fee (balanceId : String) (amount : Money) (feeId : String) (sourceEventId : EventId)
      (occurredAt createdAt : UTCDateTime)
  | rebate (balanceId : String) (amount : Money) (rebateId : String) (sourceEventId : EventId)
      (occurredAt createdAt : UTCDateTime)
  | settlement (balanceId : String) (position : Position) (settlement : Settlement) (currency : String)
      (sourceEventId : EventId) (createdAt : UTCDateTime)
  | settlementCorrection (balanceId : String) (originalPosition settledPosition : Position)
      (previousSettlement correctedSettlement : Settlement) (currency : String) (sourceEventId : EventId)
      (createdAt : UTCDateTime)
  | balanceCorrection (balanceId : String) (observedBalance : ObservedBalance) (referenceId : String)
      (sourceEventId : EventId) (createdAt : UTCDateTime)
  | cashTransfer (fromBalanceId toBalanceId : String) (amount : Money) (transferId : String)
      (sourceEventId : EventId) (occurredAt createdAt : UTCDateTime)

namespace Books

/-- The balance an operation is on; `keyError` stands for a balance that the caller does not have. -/
def balance (books : Books) (balanceId : String) : Result CashBalance :=
  match books.balances.lookup balanceId with
  | none => .error ⟨.keyError, balanceId⟩
  | some balance => .ok balance

/-- The books with what an operation returned for a balance, and its entry if it booked one. -/
def put (books : Books) (balance : CashBalance) (cashAccountCode : String)
    (journalEntry : Option AccountingJournalEntry) (appliedJournalEntryIds : Finset String) : Books where
  balances := books.balances.put balance
  appliedJournalEntryIds := appliedJournalEntryIds
  postings := books.postings ++
    journalEntry.toList.map fun entry => ⟨balance.balanceId, entry, cashAccountCode⟩

/-- The postings of one balance, in order. -/
def postingsOf (books : Books) (balanceId : String) : List Posting :=
  books.postings.filter fun posting => posting.balanceId = balanceId

end Books

def apply (books : Books) : Operation → Result Books
  | .fee balanceId amount feeId sourceEventId occurredAt createdAt => do
      let balance ← books.balance balanceId
      let result ← Fees.applyFeeOnce ctx sha balance amount feeId books.appliedJournalEntryIds sourceEventId
        occurredAt createdAt
      pure (books.put result.balance accountCash result.journalEntry result.appliedJournalEntryIds)
  | .rebate balanceId amount rebateId sourceEventId occurredAt createdAt => do
      let balance ← books.balance balanceId
      let result ← Fees.applyRebateOnce ctx sha balance amount rebateId books.appliedJournalEntryIds sourceEventId
        occurredAt createdAt
      pure (books.put result.balance accountCash result.journalEntry result.appliedJournalEntryIds)
  | .settlement balanceId position settlement currency sourceEventId createdAt => do
      let balance ← books.balance balanceId
      let result ← Settlements.applySettlementOnce ctx sha position balance settlement books.appliedJournalEntryIds
        currency sourceEventId createdAt
      pure (books.put result.cashBalance accountCash result.journalEntry result.appliedJournalEntryIds)
  | .settlementCorrection balanceId originalPosition settledPosition previousSettlement correctedSettlement currency
      sourceEventId createdAt => do
      let balance ← books.balance balanceId
      let result ← Settlements.applySettlementCorrectionOnce ctx sha originalPosition settledPosition balance
        previousSettlement correctedSettlement books.appliedJournalEntryIds currency sourceEventId createdAt
      pure (books.put result.cashBalance accountCash result.journalEntry result.appliedJournalEntryIds)
  | .balanceCorrection balanceId observedBalance referenceId sourceEventId createdAt => do
      let balance ← books.balance balanceId
      let result ← Balances.applyBalanceCorrectionOnce ctx sha balance observedBalance books.appliedJournalEntryIds
        referenceId sourceEventId createdAt
      pure (books.put result.balance accountCash result.journalEntry result.appliedJournalEntryIds)
  | .cashTransfer fromBalanceId toBalanceId amount transferId sourceEventId occurredAt createdAt => do
      let fromBalance ← books.balance fromBalanceId
      let toBalance ← books.balance toBalanceId
      let result ← Transfers.applyCashTransferOnce ctx sha fromBalance toBalance amount transferId
        books.appliedJournalEntryIds sourceEventId occurredAt createdAt
      let outbound := books.put result.fromBalance (Transfers.accountCodeOf fromBalanceId) result.journalEntry
        result.appliedJournalEntryIds
      pure (outbound.put result.toBalance (Transfers.accountCodeOf toBalanceId) result.journalEntry
        result.appliedJournalEntryIds)

/-! ## Replays of one balance -/

/-- `apply_journal_to_cash_balance` along the postings, each under its own account code. -/
def replayPostings (balance : CashBalance) (postings : List Posting) : Result CashBalance :=
  postings.foldlM (fun balance posting =>
    (Balances.applyJournalToCashBalance ctx balance posting.journalEntry posting.cashAccountCode).map
      CashBalanceProjectionResult.balance) balance

/-- `apply_journal_to_cash_balance_once` along the entries, with the ids it returns. -/
def replayOnce (balance : CashBalance) (appliedJournalEntryIds : Finset String)
    (journalEntries : List AccountingJournalEntry) : Result (CashBalance × Finset String) :=
  journalEntries.foldlM (fun replayed entry =>
    (Balances.applyJournalToCashBalanceOnce ctx replayed.1 entry replayed.2).map fun result =>
      (result.balance, result.appliedJournalEntryIds)) (balance, appliedJournalEntryIds)

def noCashLineError : PyError :=
  portfolioProjectionError "journal entry does not contain a cash line for balance currency"

/-! ## The chain of one balance -/

variable {ctx sha}

/-- From `balance` and `ids`, the postings lead to a balance and a set of applied ids, each of them new when it was
    made. Entries on other balances only add ids. -/
inductive Posted (ctx : DecimalContext) (balance : CashBalance) (ids : Finset String) :
    List Posting → CashBalance → Finset String → Prop where
  | nil : Posted ctx balance ids [] balance ids
  | elsewhere {postings : List Posting} {current : CashBalance} {now later : Finset String}
      (h : Posted ctx balance ids postings current now) (hsub : now ⊆ later) :
      Posted ctx balance ids postings current later
  | post {postings : List Posting} {current : CashBalance} {now : Finset String} {posting : Posting}
      {projection : CashBalanceProjectionResult} (h : Posted ctx balance ids postings current now)
      (hnew : posting.journalEntry.journalEntryId ∉ now)
      (hcode : posting.cashAccountCode = accountCash ∨ ∀ l ∈ posting.journalEntry.lines, l.accountCode ≠ accountCash)
      (hcash : Balances.applyJournalToCashBalance ctx current posting.journalEntry posting.cashAccountCode
        = .ok projection) :
      Posted ctx balance ids (postings ++ [posting]) projection.balance
        (insert posting.journalEntry.journalEntryId now)

section Chain

variable {balance current : CashBalance} {ids now : Finset String} {postings : List Posting}

theorem Posted.replayPostings (h : Posted ctx balance ids postings current now) :
    replayPostings ctx balance postings = .ok current := by
  induction h with
  | nil => rfl
  | elsewhere _ _ ih => exact ih
  | post _ _ _ hcash ih =>
      rw [CashReplay.replayPostings] at ih ⊢
      rw [List.foldlM_append, ih, ok_bind, List.foldlM_cons, hcash]
      rfl

/-- The replay knows fewer ids than the history, which has also seen the other balances. -/
theorem Posted.replayOnce_ok (h : Posted ctx balance ids postings current now)
    (hcodes : ∀ p ∈ postings, p.cashAccountCode = accountCash) :
    ∃ known ⊆ now, replayOnce ctx balance ids (postings.map Posting.journalEntry) = .ok (current, known) := by
  induction h with
  | nil => exact ⟨ids, subset_rfl, rfl⟩
  | elsewhere _ hsub ih =>
      obtain ⟨known, hknown, hreplay⟩ := ih hcodes
      exact ⟨known, hknown.trans hsub, hreplay⟩
  | @post postings current now posting projection _ hnew _ hcash ih =>
      obtain ⟨known, hknown, hreplay⟩ := ih fun p hp => hcodes p (List.mem_append_left _ hp)
      rw [hcodes posting (List.mem_append_right _ (List.mem_singleton_self _))] at hcash
      refine ⟨insert posting.journalEntry.journalEntryId known, Finset.insert_subset_insert _ hknown, ?_⟩
      rw [replayOnce] at hreplay ⊢
      rw [List.map_append, List.foldlM_append, hreplay, ok_bind, List.map_singleton, List.foldlM_cons,
        Balances.applyJournalToCashBalanceOnce, if_neg fun hin => hnew (hknown hin), hcash]
      rfl

/-- An entry without lines of the cash account has no cash for a balance. -/
theorem applyJournalToCashBalance_noCashLine {entry : AccountingJournalEntry} {code : String}
    {projection : CashBalanceProjectionResult} (hlines : ∀ l ∈ entry.lines, l.accountCode ≠ accountCash)
    (h : Balances.applyJournalToCashBalance ctx balance entry code = .ok projection) :
    Balances.applyJournalToCashBalance ctx balance entry = .error noCashLineError := by
  have htime : ¬entry.occurredAt < balance.capturedAt :=
    not_lt.mpr (Balances.applyJournalToCashBalance_eq_ok.mp h).1
  have hcode : ¬(accountCash = "" ∨ isStripped accountCash = false) := by decide
  have hnone : Balances.cashLines entry balance.currency accountCash = [] := by
    refine List.filter_eq_nil_iff.mpr fun l hl hcash => ?_
    exact hlines l hl (of_decide_eq_true hcash).1
  rw [Balances.applyJournalToCashBalance, raiseIf_bind_of_not htime, Balances.cashDeltaForCurrency,
    validateCurrency_code, ok_bind, raiseIf_bind_of_not hcode, hnone, raiseIf_bind_of rfl]
  rfl

theorem Posted.replayOnce_error (h : Posted ctx balance ids postings current now)
    (hcodes : ¬∀ p ∈ postings, p.cashAccountCode = accountCash) :
    replayOnce ctx balance ids (postings.map Posting.journalEntry) = .error noCashLineError := by
  induction h with
  | nil => exact absurd (fun p hp => absurd hp List.not_mem_nil) hcodes
  | elsewhere _ _ ih => exact ih hcodes
  | @post postings current now posting projection hposted hnew hcode hcash ih =>
      by_cases hbefore : ∀ p ∈ postings, p.cashAccountCode = accountCash
      · -- this posting is the first one under another code
        obtain ⟨known, hknown, hreplay⟩ := hposted.replayOnce_ok hbefore
        have hother : posting.cashAccountCode ≠ accountCash := by
          intro hsame
          refine hcodes fun p hp => ?_
          rcases List.mem_append.mp hp with hp | hp
          · exact hbefore p hp
          · rw [List.mem_singleton.mp hp, hsame]
        have herror := applyJournalToCashBalance_noCashLine (hcode.resolve_left hother) hcash
        rw [replayOnce] at hreplay ⊢
        rw [List.map_append, List.foldlM_append, hreplay, ok_bind, List.map_singleton, List.foldlM_cons,
          Balances.applyJournalToCashBalanceOnce, if_neg fun hin => hnew (hknown hin), herror]
        rfl
      · have hreplay := ih hbefore
        rw [replayOnce] at hreplay ⊢
        rw [List.map_append, List.foldlM_append, hreplay]
        rfl

end Chain

/-! ## Histories as chains -/

section Histories

variable {books initial : Books} {balanceId : String}

theorem Books.balance_eq_ok {balance : CashBalance} (h : books.balance balanceId = .ok balance) :
    books.balances.lookup balanceId = some balance ∧ balance.balanceId = balanceId := by
  unfold Books.balance at h
  split at h
  · cases h
  · rename_i found hfound
    cases h
    exact ⟨hfound, books.balances.keyed _ _ hfound⟩

theorem Books.lookup_put (balance : CashBalance) (code : String) (entry : Option AccountingJournalEntry)
    (ids : Finset String) (k : String) : (books.put balance code entry ids).balances.lookup k
      = if k = balance.balanceId then some balance else books.balances.lookup k :=
  Function.update_apply _ _ _ _

theorem Books.postingsOf_put (balance : CashBalance) (code : String) (entry : Option AccountingJournalEntry)
    (ids : Finset String) (k : String) : (books.put balance code entry ids).postingsOf k
      = books.postingsOf k ++
        if k = balance.balanceId then entry.toList.map fun e => ⟨balance.balanceId, e, code⟩ else [] := by
  unfold Books.postingsOf Books.put
  rw [List.filter_append]
  congr 1
  cases entry with
  | none => simp
  | some entry =>
      by_cases hk : k = balance.balanceId
      · simp [hk]
      · simp [hk, Ne.symm hk]

theorem balanceId_of_applied {ctx : DecimalContext} {balance : CashBalance} {entry : AccountingJournalEntry}
    {code : String} {projection : CashBalanceProjectionResult}
    (h : Balances.applyJournalToCashBalance ctx balance entry code = .ok projection) :
    projection.balance.balanceId = balance.balanceId := by
  obtain ⟨-, _, -, -, rfl⟩ := Balances.applyJournalToCashBalance_eq_ok.mp h
  rfl

/-- Every initial balance is still there, at the end of its chain of postings. -/
def Tracks (ctx : DecimalContext) (initial books : Books) : Prop :=
  ∀ balanceId balance, initial.balances.lookup balanceId = some balance →
    ∃ current, books.balances.lookup balanceId = some current ∧
      Posted ctx balance initial.appliedJournalEntryIds (books.postingsOf balanceId) current
        books.appliedJournalEntryIds

theorem Tracks.put_posted {balance result : CashBalance} {entry : Option AccountingJournalEntry}
    {ids : Finset String} (h : Tracks ctx initial books) (hbalance : books.balance balanceId = .ok balance)
    (hposted : Balances.PostedOnce ctx balance books.appliedJournalEntryIds entry result ids) :
    Tracks ctx initial (books.put result accountCash entry ids) := by
  intro k start hstart
  obtain ⟨current, hcurrent, hchain⟩ := h k start hstart
  obtain ⟨hlookup, rfl⟩ := Books.balance_eq_ok hbalance
  rw [Books.lookup_put, Books.postingsOf_put]
  cases hposted with
  | duplicate =>
      rw [Option.toList_none, List.map_nil, ite_self, List.append_nil]
      refine ⟨current, ?_, hchain⟩
      split_ifs with hk
      · rw [← hcurrent, hk, hlookup]
      · exact hcurrent
  | booked _ hnew hcash =>
      rw [balanceId_of_applied hcash]
      by_cases hk : k = balance.balanceId
      · rw [if_pos hk, if_pos hk]
        obtain rfl : current = balance := Option.some.inj (by rw [← hcurrent, hk, hlookup])
        exact ⟨_, rfl, @Posted.post _ _ _ _ _ _ ⟨_, _, accountCash⟩ _ hchain hnew (Or.inl rfl) hcash⟩
      · rw [if_neg hk, if_neg hk, List.append_nil]
        exact ⟨current, hcurrent, hchain.elsewhere (Finset.subset_insert _ _)⟩

/-- Both balances of a transfer see its entry, and each sees it once. -/
theorem Tracks.put_transferred {fromId toId : String} {fromBalance toBalance outbound inbound : CashBalance}
    {entry : Option AccountingJournalEntry} {ids : Finset String} (h : Tracks ctx initial books)
    (hfrom : books.balance fromId = .ok fromBalance) (hto : books.balance toId = .ok toBalance)
    (htransferred : Transfers.TransferredOnce ctx fromBalance toBalance books.appliedJournalEntryIds entry outbound
      inbound ids) :
    Tracks ctx initial ((books.put outbound (Transfers.accountCodeOf fromId) entry ids).put inbound
      (Transfers.accountCodeOf toId) entry ids) := by
  intro k start hstart
  obtain ⟨current, hcurrent, hchain⟩ := h k start hstart
  obtain ⟨hlookupFrom, rfl⟩ := Books.balance_eq_ok hfrom
  obtain ⟨hlookupTo, rfl⟩ := Books.balance_eq_ok hto
  rw [Books.lookup_put, Books.lookup_put, Books.postingsOf_put, Books.postingsOf_put]
  cases htransferred with
  | duplicate =>
      rw [Option.toList_none, List.map_nil, List.map_nil, ite_self, ite_self, List.append_nil, List.append_nil]
      refine ⟨current, ?_, hchain⟩
      split_ifs with hkTo hkFrom
      · rw [← hcurrent, hkTo, hlookupTo]
      · rw [← hcurrent, hkFrom, hlookupFrom]
      · exact hcurrent
  | booked hdistinct _ hnew hlines hcashFrom hcashTo =>
      rw [balanceId_of_applied hcashFrom, balanceId_of_applied hcashTo]
      by_cases hkTo : k = toBalance.balanceId
      · have hkFrom : k ≠ fromBalance.balanceId := fun hk => hdistinct (hk.symm.trans hkTo)
        rw [if_pos hkTo, if_pos hkTo, if_neg hkFrom, List.append_nil]
        obtain rfl : current = toBalance := Option.some.inj (by rw [← hcurrent, hkTo, hlookupTo])
        exact ⟨_, rfl, @Posted.post _ _ _ _ _ _ ⟨_, _, Transfers.accountCodeOf _⟩ _ hchain hnew (Or.inr hlines) hcashTo⟩
      · rw [if_neg hkTo, if_neg hkTo, List.append_nil]
        by_cases hkFrom : k = fromBalance.balanceId
        · rw [if_pos hkFrom, if_pos hkFrom]
          obtain rfl : current = fromBalance := Option.some.inj (by rw [← hcurrent, hkFrom, hlookupFrom])
          exact ⟨_, rfl, @Posted.post _ _ _ _ _ _ ⟨_, _, Transfers.accountCodeOf _⟩ _ hchain hnew (Or.inr hlines)
              hcashFrom⟩
        · rw [if_neg hkFrom, if_neg hkFrom, List.append_nil]
          exact ⟨current, hcurrent, hchain.elsewhere (Finset.subset_insert _ _)⟩

/-- Each operation keeps the chains: five post to one balance, a transfer to two. -/
theorem Tracks.apply {operation : Operation} {later : Books} (h : Tracks ctx initial books)
    (happly : apply ctx sha books operation = .ok later) : Tracks ctx initial later := by
  cases operation with
  | fee balanceId amount feeId sourceEventId occurredAt createdAt =>
      simp only [CashReplay.apply, bind_eq_ok, pure_eq_ok] at happly
      obtain ⟨balance, hbalance, result, hresult, rfl⟩ := happly
      exact h.put_posted hbalance (Fees.ChargeKind.applyOnce_posted hresult)
  | rebate balanceId amount rebateId sourceEventId occurredAt createdAt =>
      simp only [CashReplay.apply, bind_eq_ok, pure_eq_ok] at happly
      obtain ⟨balance, hbalance, result, hresult, rfl⟩ := happly
      exact h.put_posted hbalance (Fees.ChargeKind.applyOnce_posted hresult)
  | settlement balanceId position settlement currency sourceEventId createdAt =>
      simp only [CashReplay.apply, bind_eq_ok, pure_eq_ok] at happly
      obtain ⟨balance, hbalance, result, hresult, rfl⟩ := happly
      exact h.put_posted hbalance (Settlements.applySettlementOnce_posted hresult)
  | settlementCorrection balanceId originalPosition settledPosition previousSettlement correctedSettlement currency
      sourceEventId createdAt =>
      simp only [CashReplay.apply, bind_eq_ok, pure_eq_ok] at happly
      obtain ⟨balance, hbalance, result, hresult, rfl⟩ := happly
      exact h.put_posted hbalance (Settlements.applySettlementCorrectionOnce_posted hresult)
  | balanceCorrection balanceId observedBalance referenceId sourceEventId createdAt =>
      simp only [CashReplay.apply, bind_eq_ok, pure_eq_ok] at happly
      obtain ⟨balance, hbalance, result, hresult, rfl⟩ := happly
      exact h.put_posted hbalance (Balances.applyBalanceCorrectionOnce_posted hresult)
  | cashTransfer fromBalanceId toBalanceId amount transferId sourceEventId occurredAt createdAt =>
      simp only [CashReplay.apply, bind_eq_ok, pure_eq_ok] at happly
      obtain ⟨fromBalance, hfrom, toBalance, hto, result, hresult, rfl⟩ := happly
      exact h.put_transferred hfrom hto (Transfers.applyCashTransferOnce_transferred hresult)

theorem tracks_foldlM {operations : List Operation} {final : Books} (hpostings : initial.postings = [])
    (hrun : operations.foldlM (CashReplay.apply ctx sha) initial = .ok final) : Tracks ctx initial final := by
  refine foldlM_inv (Tracks ctx initial) (fun _ _ _ htracks happly => htracks.apply happly) ?_ hrun
  intro balanceId balance hbalance
  have hnil : initial.postingsOf balanceId = [] := by rw [Books.postingsOf, hpostings, List.filter_nil]
  rw [hnil]
  exact ⟨balance, hbalance, .nil⟩

variable (ctx sha) in
/-- **Replaying the journal of a balance.** Under the account codes of its operations the postings of every balance
    reproduce it; under the default code they do when no transfer touched the balance, and raise otherwise. -/
theorem replay_reproduces {operations : List Operation} {final : Books} (hpostings : initial.postings = [])
    (hrun : operations.foldlM (CashReplay.apply ctx sha) initial = .ok final) {balance : CashBalance}
    (hbalance : initial.balances.lookup balanceId = some balance) :
    ∃ current, final.balances.lookup balanceId = some current ∧
      replayPostings ctx balance (final.postingsOf balanceId) = .ok current ∧
      ((∀ p ∈ final.postingsOf balanceId, p.cashAccountCode = accountCash) →
        ∃ ids, replayOnce ctx balance initial.appliedJournalEntryIds
          ((final.postingsOf balanceId).map Posting.journalEntry) = .ok (current, ids)) ∧
      ((¬∀ p ∈ final.postingsOf balanceId, p.cashAccountCode = accountCash) →
        replayOnce ctx balance initial.appliedJournalEntryIds
          ((final.postingsOf balanceId).map Posting.journalEntry) = .error noCashLineError) := by
  obtain ⟨current, hcurrent, hchain⟩ := tracks_foldlM hpostings hrun balanceId balance hbalance
  refine ⟨current, hcurrent, hchain.replayPostings, ?_, hchain.replayOnce_error⟩
  intro hcodes
  obtain ⟨ids, -, hreplay⟩ := hchain.replayOnce_ok hcodes
  exact ⟨ids, hreplay⟩

end Histories

/-! ## A transfer -/

variable (ctx sha) in
/-- Every history can be replayed on every balance under the default code. -/
def ReplaysUnderDefaultCode : Prop :=
  ∀ (initial : Books) (operations : List Operation) (final : Books) (balanceId : String) (balance : CashBalance),
    initial.postings = [] → operations.foldlM (apply ctx sha) initial = .ok final →
    initial.balances.lookup balanceId = some balance →
    ∃ current replayed ids, final.balances.lookup balanceId = some current ∧
      replayOnce ctx balance initial.appliedJournalEntryIds
        ((final.postingsOf balanceId).map Posting.journalEntry) = .ok (replayed, ids) ∧
      replayed.available = current.available ∧ replayed.reserved = current.reserved ∧
      replayed.total = current.total

/-- A dollar balance of 5. -/
def fiveDollars (balanceId : String) : CashBalance :=
  ⟨balanceId, "kalshi", ⟨"acct_dollars", by decide⟩, Positions.usd, 5, 0, 5, 0⟩

def noBalances : Table CashBalance.balanceId where
  lookup _ := none
  keyed _ _ h := by cases h

def twoBalances : Books where
  balances := (noBalances.put (fiveDollars "cash_source")).put (fiveDollars "cash_target")
  appliedJournalEntryIds := ∅
  postings := []

def transferOne : Operation :=
  .cashTransfer "cash_source" "cash_target" ⟨1, Positions.usd⟩ "transfer" ⟨"evt_transfer", by decide⟩ 1 1

theorem lookup_source : twoBalances.balances.lookup "cash_source" = some (fiveDollars "cash_source") := by
  decide +kernel

theorem transferOne_posts :
    ∃ final, [transferOne].foldlM (apply defaultContext Sha256.constant) twoBalances = .ok final ∧
      (final.postingsOf "cash_source").map Posting.cashAccountCode = ["cash:cash_source"] := by
  have hrun : ([transferOne].foldlM (apply defaultContext Sha256.constant) twoBalances).toOption.map
      (fun final => (final.postingsOf "cash_source").map Posting.cashAccountCode) = some ["cash:cash_source"] := by
    decide +kernel
  cases hfinal : [transferOne].foldlM (apply defaultContext Sha256.constant) twoBalances with
  | error e =>
      rw [hfinal] at hrun
      cases hrun
  | ok final =>
      rw [hfinal] at hrun
      exact ⟨final, rfl, Option.some.inj hrun⟩

theorem replay_reproduces_transfer :
    ∃ final current, [transferOne].foldlM (apply defaultContext Sha256.constant) twoBalances = .ok final ∧
      final.balances.lookup "cash_source" = some current ∧
      replayPostings defaultContext (fiveDollars "cash_source") (final.postingsOf "cash_source") = .ok current := by
  obtain ⟨final, hrun, -⟩ := transferOne_posts
  obtain ⟨current, hcurrent, hreplay, -⟩ :=
    replay_reproduces defaultContext Sha256.constant rfl hrun lookup_source
  exact ⟨final, current, hrun, hcurrent, hreplay⟩

/-- The entry of the transfer has no line of the plain cash account. -/
theorem transferOne_not_replayed : ¬ReplaysUnderDefaultCode defaultContext Sha256.constant := by
  intro h
  obtain ⟨final, hrun, hcodes⟩ := transferOne_posts
  obtain ⟨_, hchain⟩ := tracks_foldlM rfl hrun "cash_source" _ lookup_source
  have herror := hchain.2.replayOnce_error fun hcash => by
    obtain ⟨p, hp, hcode⟩ := List.mem_map.mp (hcodes ▸ List.mem_singleton_self "cash:cash_source")
    exact absurd (hcode.symm.trans (hcash p hp)) (by decide)
  obtain ⟨_, _, _, -, hreplay, -⟩ := h twoBalances [transferOne] final "cash_source" _ rfl hrun lookup_source
  rw [herror] at hreplay
  cases hreplay

end CashReplay
end Pmrp
