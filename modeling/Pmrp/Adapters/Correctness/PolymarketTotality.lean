import Pmrp.Adapters.PolymarketMapper

/-!
# `Adapters.Correctness.PolymarketTotality` — what escapes the Polymarket mappers

The handler of a mapper takes `TypeError` and `ValueError`. The one conversion that raises something else is that of a
timestamp: a number of seconds that the platform has no year for, or an ISO datetime whose UTC time has none.
-/

namespace Pmrp

/-! ## Handlers -/

theorem Handled.bind_iff {α β : Type} {x : Result α} {f : α → Result β} (hf : ∀ a, Handled (f a)) :
    Handled (x >>= f) ↔ Handled x := by
  constructor
  · intro h e he
    rw [he] at h
    exact h e rfl
  · exact fun h => h.bind fun a _ => hf a

namespace Polymarket

theorem protocolOnly_ok {α : Type} (a : α) : ProtocolOnly (.ok a : MapResult α) := by
  rintro e ⟨⟩

theorem protocolOnly_protocol {α : Type} (error : AdapterProtocolError) :
    ProtocolOnly (.error (.protocol error) : MapResult α) := by
  rintro e ⟨⟩

theorem protocolOnly_orProtocolError_iff {α : Type} {x : Result α} {error : AdapterProtocolError} :
    ProtocolOnly (orProtocolError x error) ↔ Handled x := by
  unfold orProtocolError
  cases hx : orNone x with
  | error e =>
      obtain ⟨hraised, hnot⟩ := orNone_eq_error.mp hx
      refine iff_of_false (fun h => h e rfl) fun h => ?_
      rw [h e hraised] at hnot
      cases hnot
  | ok a =>
      have hhandled : Handled x := by
        intro e he
        by_contra hnot
        have herror := orNone_eq_error.mpr ⟨he, Bool.not_eq_true _ |>.mp hnot⟩
        rw [hx] at herror
        cases herror
      refine iff_of_true ?_ hhandled
      cases a with
      | none => exact protocolOnly_protocol error
      | some a => exact protocolOnly_ok a

/-- `expected_asset_id` passes its check. -/
def IsAssetId (value : String) : Prop := TextWithin 256 value ∧ isStripped value = true

theorem validateExchangeAssetId_eq {value : String} (h : IsAssetId value) :
    validateExchangeAssetId value = .ok value := by
  obtain ⟨⟨hlow, hhigh⟩, hstripped⟩ := h
  have hne : value ≠ "" := by
    rintro rfl
    exact absurd hlow (by decide)
  simp [validateExchangeAssetId, raiseIf, hne, hstripped, not_lt.mpr hhigh]

/-! ## Timestamps -/

variable {fromisoformat : FromIsoFormat}

/-- The timestamp is a number of milliseconds past the last year of the platform, or an ISO datetime without a UTC
    datetime. -/
def TimestampOverflows (fromisoformat : FromIsoFormat) (timestamp : String) : Prop :=
  match decimalInt timestamp with
  | some rawEpoch => gmtimeLimit * 1000 ≤ rawEpoch
  | none => OverflowsUtc fromisoformat timestamp

theorem handled_fromtimestamp_iff {seconds : ℕ} : Handled (fromtimestamp seconds) ↔ seconds < gmtimeLimit := by
  have hlimit : gmtimeLimit ≤ 2 ^ 63 := by norm_num [gmtimeLimit]
  unfold fromtimestamp
  split_ifs with htime hyear hdatetime
  · refine iff_of_false (fun h => ?_) (by omega)
    cases h _ rfl
  · refine iff_of_false (fun h => ?_) (not_lt.mpr hyear)
    cases h _ rfl
  · exact iff_of_true (handled_valueError _) (not_le.mp hyear)
  · exact iff_of_true (handled_ok _) (not_le.mp hyear)

theorem fromtimestamp_eq_ok {seconds : ℕ} {t : UTCDateTime} (h : fromtimestamp seconds = .ok t) :
    seconds < datetimeLimit ∧ t = unixEpoch + seconds * 1000000 := by
  unfold fromtimestamp at h
  split_ifs at h with htime hyear hdatetime
  exact ⟨not_le.mp hdatetime, (Except.ok.inj h).symm⟩

/-- The milliseconds never leave the last second of the year 9999. -/
theorem handled_addMilliseconds {seconds milliseconds : ℕ} {t : UTCDateTime} (h : fromtimestamp seconds = .ok t)
    (hmilliseconds : milliseconds < 1000) : Handled (addTimedelta t ((milliseconds : ℤ) * 1000)) := by
  obtain ⟨hseconds, rfl⟩ := fromtimestamp_eq_ok h
  have hin : IsDatetime (unixEpoch + seconds * 1000000 + (milliseconds : ℤ) * 1000) := by
    have hlast : seconds < 253402300800 := hseconds
    constructor
    · show (0 : ℤ) ≤ 719162 * 86400000000 + seconds * 1000000 + milliseconds * 1000
      omega
    · show (719162 * 86400000000 + seconds * 1000000 + milliseconds * 1000 : ℤ) ≤ 3652059 * 86400000000 - 1
      omega
  rw [addTimedelta, if_pos hin]
  exact handled_ok _

theorem handled_parsePolymarketTimestamp_iff {timestamp : String} :
    Handled (parsePolymarketTimestamp fromisoformat timestamp) ↔ ¬TimestampOverflows fromisoformat timestamp := by
  unfold parsePolymarketTimestamp TimestampOverflows
  cases decimalInt timestamp with
  | none => exact handled_parseUtcDatetime_iff
  | some rawEpoch =>
      dsimp only
      have hthreshold : unixMillisecondsThreshold = 10000000000 := rfl
      have hlimit : gmtimeLimit = 67768036191676800 := rfl
      by_cases hmilliseconds : unixMillisecondsThreshold ≤ rawEpoch
      · rw [if_pos hmilliseconds, not_le]
        have hsplit : Handled (fromtimestamp (rawEpoch / 1000) >>= fun t =>
            addTimedelta t ((rawEpoch % 1000 : ℕ) * 1000)) ↔ Handled (fromtimestamp (rawEpoch / 1000)) := by
          constructor
          · intro h e he
            rw [he] at h
            exact h e rfl
          · exact fun h => h.bind fun t ht => handled_addMilliseconds ht (Nat.mod_lt _ (by norm_num))
        rw [hsplit, handled_fromtimestamp_iff]
        omega
      · rw [if_neg hmilliseconds, handled_fromtimestamp_iff]
        omega

theorem handled_exchangeOccurredAtOf_iff {timestamp : Option String} :
    Handled (exchangeOccurredAtOf fromisoformat timestamp none) ↔
      ∀ t ∈ timestamp, ¬TimestampOverflows fromisoformat t := by
  cases timestamp with
  | none => exact iff_of_true (handled_ok _) (by rintro t ⟨⟩)
  | some timestamp =>
      have hbind := @Handled.bind_iff _ _ (parsePolymarketTimestamp fromisoformat timestamp)
        (fun t => pure (some t)) fun t => handled_pure (some t)
      exact hbind.trans (handled_parsePolymarketTimestamp_iff.trans (by simp))

/-! ## The mappers -/

variable {functions : TextFunctions} {marketId : MarketId} {contractId : ContractId} {outcomeId : OutcomeId}
  {expectedAssetId snapshotReason : String} {receivedAt : UTCDateTime}

theorem handled_orderBookSnapshot_iff {message : PolymarketRawOrderBookSnapshot} :
    Handled (orderBookSnapshot fromisoformat message marketId contractId receivedAt none snapshotReason) ↔
      ∀ t ∈ message.timestamp, ¬TimestampOverflows fromisoformat t.text := by
  unfold orderBookSnapshot
  rw [Handled.bind_iff, handled_exchangeOccurredAtOf_iff]
  · simp
  · intro occurredAt
    split_ifs
    · exact handled_pure _
    · exact handled_valueError _
    · exact handled_valueError _
    · exact handled_valueError _

theorem handled_orderBookDelta_iff {message : PolymarketRawPriceChangeMessage}
    {tokenChanges : List PolymarketRawPriceChange} :
    Handled (orderBookDelta fromisoformat message tokenChanges marketId contractId receivedAt none) ↔
      ∀ t ∈ message.timestamp, ¬TimestampOverflows fromisoformat t.text := by
  unfold orderBookDelta
  rw [Handled.bind_iff fun occurredAt => handled_pure _, handled_exchangeOccurredAtOf_iff]
  simp

/-- The timestamp of a trade: the first of three that is there. -/
def tradeTimestamp (trade : PolymarketRawTrade) : Option String :=
  (trade.timestamp.map RawText.text).or ((trade.matchTime.map RawText.text).or (trade.lastUpdate.map RawText.text))

theorem handled_canonicalTrade_iff {trade : PolymarketRawTrade} :
    Handled (canonicalTrade fromisoformat functions trade marketId contractId outcomeId receivedAt none) ↔
      (trade.size.isSome = true → ∀ t ∈ tradeTimestamp trade, ¬TimestampOverflows fromisoformat t) := by
  unfold canonicalTrade
  cases hsize : trade.size with
  | none => exact iff_of_true (handled_valueError _) (by rintro ⟨⟩)
  | some size =>
      dsimp only
      rw [Handled.bind_iff]
      · cases htime : tradeTimestamp trade with
        | none =>
            unfold tradeTimestamp at htime
            simp only [tradeExchangeOccurredAt, htime]
            exact iff_of_true (handled_valueError _) (by rintro - t ⟨⟩)
        | some timestamp =>
            unfold tradeTimestamp at htime
            simp only [tradeExchangeOccurredAt, htime]
            exact handled_parsePolymarketTimestamp_iff.trans (by simp)
      · intro occurredAt
        split_ifs
        · exact handled_pure _
        · exact handled_valueError _
        · exact handled_valueError _

/-- **The mappers raise protocol errors only**, except where the message is about the expected asset and its timestamp
    overflows. -/
theorem mappers_protocolOnly_iff (hasset : IsAssetId expectedAssetId) :
    (∀ message : PolymarketRawOrderBookSnapshot,
      ProtocolOnly (mapPolymarketOrderBookSnapshot fromisoformat message marketId contractId expectedAssetId receivedAt
        none snapshotReason) ↔
        (message.assetId.text = expectedAssetId →
          ∀ t ∈ message.timestamp, ¬TimestampOverflows fromisoformat t.text)) ∧
    (∀ message : PolymarketRawPriceChangeMessage,
      ProtocolOnly (mapPolymarketOrderBookDelta fromisoformat message marketId contractId expectedAssetId receivedAt
        none) ↔
        ((∃ change ∈ message.priceChanges, change.assetId.text = expectedAssetId) →
          ∀ t ∈ message.timestamp, ¬TimestampOverflows fromisoformat t.text)) ∧
    ∀ trade : PolymarketRawTrade,
      ProtocolOnly (mapPolymarketTrade fromisoformat functions trade marketId contractId outcomeId expectedAssetId
        receivedAt none) ↔
        (trade.assetId.text = expectedAssetId → trade.size.isSome = true →
          ∀ t ∈ tradeTimestamp trade, ¬TimestampOverflows fromisoformat t) := by
  have hvalid : raised (validateExchangeAssetId expectedAssetId) = .ok expectedAssetId := by
    rw [validateExchangeAssetId_eq hasset]
    rfl
  -- a message about another asset is refused before its timestamp is read
  refine ⟨fun message => ?_, fun message => ?_, fun trade => ?_⟩
  · unfold mapPolymarketOrderBookSnapshot
    rw [hvalid, ok_bind]
    by_cases hmatch : message.assetId.text = expectedAssetId
    · rw [if_neg (not_not_intro hmatch), protocolOnly_orProtocolError_iff, handled_orderBookSnapshot_iff]
      exact ⟨fun h _ => h, fun h => h hmatch⟩
    · rw [if_pos hmatch]
      exact iff_of_true (protocolOnly_protocol _) fun h => absurd h hmatch
  · unfold mapPolymarketOrderBookDelta
    rw [hvalid, ok_bind]
    dsimp only
    by_cases hnone : (message.priceChanges.filter fun change => change.assetId.text = expectedAssetId) = []
    · rw [if_pos hnone]
      refine iff_of_true (protocolOnly_protocol _) ?_
      rintro ⟨change, hchange, hmatch⟩
      exact absurd (decide_eq_true hmatch) (List.filter_eq_nil_iff.mp hnone change hchange)
    · rw [if_neg hnone, protocolOnly_orProtocolError_iff, handled_orderBookDelta_iff]
      obtain ⟨change, hchange⟩ := List.exists_mem_of_ne_nil _ hnone
      obtain ⟨hmem, hmatch⟩ := List.mem_filter.mp hchange
      exact ⟨fun h _ => h, fun h => h ⟨change, hmem, of_decide_eq_true hmatch⟩⟩
  · unfold mapPolymarketTrade
    rw [hvalid, ok_bind]
    by_cases hmatch : trade.assetId.text = expectedAssetId
    · rw [if_neg (not_not_intro hmatch), protocolOnly_orProtocolError_iff, handled_canonicalTrade_iff]
      exact ⟨fun h _ => h, fun h => h hmatch⟩
    · rw [if_pos hmatch]
      exact iff_of_true (protocolOnly_protocol _) fun h => absurd h hmatch

/-! ## A timestamp of twenty digits -/

theorem rawText_market : TextWithin 256 "rain market" := TextWithin.ofList (by decide)

def longTimestamp : RawText 256 := ⟨"99999999999999999999", TextWithin.ofList (by decide), by decide⟩

def longTimestampBook : PolymarketRawOrderBookSnapshot where
  topic := none
  eventType := none
  market := ⟨"rain market", rawText_market, by decide⟩
  assetId := ⟨"rain market", rawText_market, by decide⟩
  timestamp := some longTimestamp
  hash := none
  bids := []
  asks := []
  minOrderSize := none
  tickSize := none
  negRisk := none
  lastTradePrice := none
  rawPayload := []

theorem isAssetId_rain : IsAssetId "rain market" := ⟨rawText_market, by decide⟩

def noIsoFormat : FromIsoFormat := fun _ => none

def longMarketId : MarketId := ⟨"mkt_long", by decide⟩

def longContractId : ContractId := ⟨"ctr_long", by decide⟩

def longOutcomeId : OutcomeId := ⟨"out_long", by decide⟩

theorem overflows_longTimestamp : TimestampOverflows noIsoFormat longTimestamp.text := by
  have hdigits : decimalInt longTimestamp.text = some 99999999999999999999 := by decide +kernel
  unfold TimestampOverflows
  rw [hdigits]
  show gmtimeLimit * 1000 ≤ 99999999999999999999
  decide

/-- `OSError` leaves the mapper. -/
theorem longTimestampBook_escapes :
    mapPolymarketOrderBookSnapshot noIsoFormat longTimestampBook longMarketId longContractId "rain market" 0 none
      "initial" = .error (.raised ⟨.osError, "Value too large for defined data type"⟩) := by
  have hvalid : raised (validateExchangeAssetId "rain market") = .ok "rain market" := by
    rw [validateExchangeAssetId_eq isAssetId_rain]
    rfl
  have htimestamp : exchangeOccurredAtOf noIsoFormat (longTimestampBook.timestamp.map RawText.text) none =
      .error ⟨.osError, "Value too large for defined data type"⟩ := by decide +kernel
  have hmatch : ¬longTimestampBook.assetId.text ≠ "rain market" := not_not_intro rfl
  unfold mapPolymarketOrderBookSnapshot
  rw [hvalid, ok_bind, if_neg hmatch]
  unfold orderBookSnapshot
  rw [htimestamp]
  rfl

theorem mappers_protocolOnly_iff_longTimestampBook :
    ¬ProtocolOnly (mapPolymarketOrderBookSnapshot noIsoFormat longTimestampBook longMarketId longContractId
      "rain market" 0 none "initial") := by
  have hiff := (@mappers_protocolOnly_iff noIsoFormat ⟨Sha256.constant, fun _ => ""⟩ longMarketId longContractId
    longOutcomeId "rain market" "initial" 0 isAssetId_rain).1 longTimestampBook
  intro honly
  exact hiff.mp honly rfl longTimestamp rfl overflows_longTimestamp

end Polymarket
end Pmrp
