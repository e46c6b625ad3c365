import Mathlib.Data.Set.Function
import Pmrp.Adapters.PolymarketMapper
import Pmrp.Lib.DecimalText

/-!
# `Adapters.Correctness.TradeIds` — when two trades get one id

A canonical trade id spells the exchange's id of the trade, or a digest of it where it is long. The exchange's id is the
trade id, else the transaction hash, else a digest of fields joined by bars. Each of the three is told apart by what it
spells: trades under one transaction hash have one id, and joined fields are told apart where no field has a bar in it.
-/

namespace Pmrp
namespace Polymarket

/-- SHA-256, and `str` of a `Decimal`. -/
def textFunctions (sha : Sha256) : TextFunctions := ⟨sha, Decimal.toText⟩

variable {sha : Sha256} {fromisoformat : FromIsoFormat} {functions : TextFunctions}

/-! ## Mapped trades -/

theorem orProtocolError_eq_ok {α : Type} {x : Result α} {error : AdapterProtocolError} {a : α} :
    orProtocolError x error = .ok a ↔ x = .ok a := by
  cases x with
  | ok b =>
      show Except.ok b = Except.ok a ↔ _
      rw [Except.ok.injEq, Except.ok.injEq]
  | error e =>
      refine iff_of_false ?_ (by simp only [reduceCtorEq, not_false_eq_true])
      cases hhandled : e.isHandled with
      | true => simp only [orProtocolError, orNone, hhandled, if_true, reduceCtorEq, not_false_eq_true]
      | false => simp only [orProtocolError, orNone, hhandled, Bool.false_eq_true, if_false, reduceCtorEq,
          not_false_eq_true]

/-- What a mapped trade has of the raw one. -/
structure MapsTo (fromisoformat : FromIsoFormat) (functions : TextFunctions) (trade : PolymarketRawTrade)
    (exchangeOccurredAt : Option IsoDatetime) (mapped : Trade) : Prop where
  tradeId : mapped.tradeId = canonicalPolymarketTradeId functions (exchangeTradeId functions trade)
  price : mapped.price = trade.price.value
  size : ∃ size, trade.size = some size ∧ mapped.quantity = size.value
  side : mapped.aggressorSide = some (match trade.side with
    | .buy => .buy
    | .sell => .sell)
  occurredAt : tradeExchangeOccurredAt fromisoformat trade exchangeOccurredAt = .ok mapped.exchangeOccurredAt

variable {trade a b : PolymarketRawTrade} {marketId marketId' : MarketId} {contractId contractId' : ContractId}
  {outcomeId outcomeId' : OutcomeId} {expectedAssetId expectedAssetId' : String} {receivedAt receivedAt' : UTCDateTime}
  {exchangeOccurredAt exchangeOccurredAt' : Option IsoDatetime} {mapped mapped' : Trade}

theorem mapsTo_of_map
    (h : mapPolymarketTrade fromisoformat functions trade marketId contractId outcomeId expectedAssetId
    receivedAt exchangeOccurredAt = .ok mapped) : MapsTo fromisoformat functions trade exchangeOccurredAt mapped := by
  unfold mapPolymarketTrade at h
  cases hasset : validateExchangeAssetId expectedAssetId with
  | error e =>
      rw [hasset] at h
      cases h
  | ok assetId =>
      rw [hasset] at h
      replace h : (if trade.assetId.text ≠ assetId then _ else orProtocolError _ _) = Except.ok mapped := h
      split_ifs at h
      rw [orProtocolError_eq_ok] at h
      unfold canonicalTrade at h
      cases hsize : trade.size with
      | none =>
          rw [hsize] at h
          cases h
      | some size =>
          rw [hsize] at h
          obtain ⟨occurredAt, htime, h⟩ := bind_eq_ok.mp h
          split_ifs at h
          cases h
          exact ⟨rfl, rfl, ⟨size, hsize, rfl⟩, rfl, htime⟩

/-! ## Canonical ids -/

/-- The canonical id spells it. -/
def IsShort (exchangeId : String) : Prop := exchangeId.length ≤ 117

/-- A long id is spelled as its digest, which is `other`. -/
def SpelledAs (functions : TextFunctions) (exchangeId other : String) : Prop :=
  ¬IsShort exchangeId ∧ functions.hexdigest exchangeId = other

theorem canonicalId_eq (functions : TextFunctions) (exchangeId : String) :
    canonicalPolymarketTradeId functions exchangeId =
      if exchangeId.length ≤ 117 then "polymarket:" ++ exchangeId
      else "polymarket:" ++ functions.hexdigest exchangeId := by
  have htext : ∀ text : String, s!"polymarket:{text}" = "polymarket:" ++ text := fun text => rfl
  have hlength : ("polymarket:" ++ exchangeId).length = 11 + exchangeId.length := by
    rw [String.length_append]
    rfl
  unfold canonicalPolymarketTradeId
  rw [htext, htext, hlength]
  by_cases hshort : exchangeId.length ≤ 117
  · rw [if_pos hshort, if_pos (by omega)]
  · rw [if_neg hshort, if_neg (by omega)]

theorem prefixed_injective {s t : String} : "polymarket:" ++ s = "polymarket:" ++ t ↔ s = t := by
  constructor
  · intro h
    have hlist := congrArg String.toList h
    rw [String.toList_append, String.toList_append] at hlist
    exact String.toList_injective (List.append_cancel_left hlist)
  · rintro rfl
    rfl

/-- Ids are told apart, but for a long one and its own digest. -/
theorem canonicalId_eq_iff {x y : String} (hsha : functions.hexdigest x = functions.hexdigest y → x = y)
    (hx : ¬SpelledAs functions x y) (hy : ¬SpelledAs functions y x) :
    canonicalPolymarketTradeId functions x = canonicalPolymarketTradeId functions y ↔ x = y := by
  refine ⟨fun h => ?_, fun h => by rw [h]⟩
  rw [canonicalId_eq, canonicalId_eq] at h
  by_cases hshort : x.length ≤ 117
  · by_cases hshort' : y.length ≤ 117
    · rw [if_pos hshort, if_pos hshort', prefixed_injective] at h
      exact h
    · rw [if_pos hshort, if_neg hshort', prefixed_injective] at h
      exact absurd ⟨hshort', h.symm⟩ hy
  · by_cases hshort' : y.length ≤ 117
    · rw [if_neg hshort, if_pos hshort', prefixed_injective] at h
      exact absurd ⟨hshort, h⟩ hx
    · rw [if_neg hshort, if_neg hshort', prefixed_injective] at h
      exact hsha h

/-! ## Joined fields -/

/-- The fields that a digest is of. -/
def digestFields (trade : PolymarketRawTrade) : List String :=
  [trade.market.text, trade.assetId.text, (trade.timestamp.map RawText.text).getD "",
    (trade.matchTime.map RawText.text).getD "", trade.price.decimal.toText,
    (trade.size.map fun size => size.decimal.toText).getD "", sideText trade.side]

def digestInput (trade : PolymarketRawTrade) : String := String.intercalate "|" (digestFields trade)

/-- No text among the fields has a bar in it. -/
def Unbarred (trade : PolymarketRawTrade) : Prop :=
  '|' ∉ trade.market.text.toList ∧ '|' ∉ trade.assetId.text.toList ∧
      (∀ text ∈ trade.timestamp, '|' ∉ text.text.toList) ∧
    ∀ text ∈ trade.matchTime, '|' ∉ text.text.toList

/-- The trades agree in the fields, the numbers as they are written. -/
structure SameRecord (a b : PolymarketRawTrade) : Prop where
  market : a.market = b.market
  assetId : a.assetId = b.assetId
  timestamp : a.timestamp = b.timestamp
  matchTime : a.matchTime = b.matchTime
  price : a.price = b.price
  size : a.size = b.size
  side : a.side = b.side

theorem rawText_ext {bound : ℕ} {s t : RawText bound} (h : s.text = t.text) : s = t := by
  cases s
  cases t
  cases h
  rfl

theorem decimalIn_ext {P : ℚ → Prop} {d e : DecimalIn P} (h : d.decimal = e.decimal) : d = e := by
  cases d
  cases e
  cases h
  rfl

/-- A text is not empty, so the empty one stands for none. -/
theorem optionalText_injective {bound : ℕ} {s t : Option (RawText bound)}
    (h : (s.map RawText.text).getD "" = (t.map RawText.text).getD "") : s = t := by
  have hempty : ∀ u : RawText bound, u.text ≠ "" := by
    intro u hu
    have hwithin := u.within.1
    rw [hu] at hwithin
    exact absurd hwithin (by decide)
  cases s with
  | none =>
      cases t with
      | none => rfl
      | some t => exact absurd h.symm (hempty t)
  | some s =>
      cases t with
      | none => exact absurd h (hempty s)
      | some t => exact congrArg some (rawText_ext h)

theorem bar_not_mem_toText (d : Decimal) : '|' ∉ d.toText.toList := by
  intro hmem
  rcases d.toText_chars '|' hmem with h | h | h | h | h
  all_goals exact absurd h (by decide)

theorem bar_not_mem_digestFields (h : Unbarred trade) : ∀ text ∈ digestFields trade, '|' ∉ text.toList := by
  obtain ⟨hmarket, hasset, htimestamp, hmatchTime⟩ := h
  have hempty : '|' ∉ "".toList := by decide
  unfold digestFields
  simp only [List.forall_mem_cons]
  refine ⟨hmarket, hasset, ?_, ?_, bar_not_mem_toText _, ?_, ?_, ?_⟩
  · cases hs : trade.timestamp with
    | none => exact hempty
    | some text => exact htimestamp text hs
  · cases hs : trade.matchTime with
    | none => exact hempty
    | some text => exact hmatchTime text hs
  · cases trade.size with
    | none => exact hempty
    | some size => exact bar_not_mem_toText _
  · cases trade.side <;> decide
  · intro text htext
    cases htext

/-- Fields without bars are read off what joins them. -/
theorem digestFields_of_input (ha : Unbarred a) (hb : Unbarred b) (h : digestInput a = digestInput b) :
    digestFields a = digestFields b := by
  have hsplit : ∀ {trade : PolymarketRawTrade}, Unbarred trade →
      (digestInput trade).toList.splitOn '|' = (digestFields trade).map String.toList := by
    intro trade hunbarred
    have hbar : "|".toList = ['|'] := rfl
    rw [digestInput, String.toList_intercalate, hbar]
    refine List.splitOn_intercalate '|' ?_ (by simp [digestFields])
    intro text htext
    obtain ⟨field, hfield, rfl⟩ := List.mem_map.mp htext
    exact bar_not_mem_digestFields hunbarred field hfield
  refine List.map_injective_iff.mpr (fun s t heq => String.toList_injective heq) ?_
  rw [← hsplit ha, h, hsplit hb]

theorem sideText_injective {s t : PolymarketOrderSide} (h : sideText s = sideText t) : s = t := by
  cases s <;> cases t
  · rfl
  · exact absurd h (by decide)
  · exact absurd h (by decide)
  · rfl

/-- Joined fields agree exactly when the fields do. -/
theorem digestInput_eq_iff (ha : Unbarred a) (hb : Unbarred b) (hsizeA : a.size ≠ none) (hsizeB : b.size ≠ none) :
    digestInput a = digestInput b ↔ SameRecord a b := by
  constructor
  · intro h
    have hfields := digestFields_of_input ha hb h
    obtain ⟨sizeA, hsizeA⟩ := Option.ne_none_iff_exists'.mp hsizeA
    obtain ⟨sizeB, hsizeB⟩ := Option.ne_none_iff_exists'.mp hsizeB
    simp only [digestFields, List.cons.injEq, and_true, hsizeA, hsizeB, Option.map_some, Option.getD_some] at hfields
    obtain ⟨hmarket, hasset, htimestamp, hmatchTime, hprice, hsize, hside⟩ := hfields
    refine ⟨rawText_ext hmarket, rawText_ext hasset, optionalText_injective htimestamp,
        optionalText_injective hmatchTime,
      decimalIn_ext (Decimal.toText_injective hprice), ?_, sideText_injective hside⟩
    rw [hsizeA, hsizeB, decimalIn_ext (Decimal.toText_injective hsize)]
  · intro h
    unfold digestInput digestFields
    rw [h.market, h.assetId, h.timestamp, h.matchTime, h.price, h.size, h.side]

/-! ## Ids of trades -/

/-- The text that the id of the trade is a digest of, if it is of one. -/
def digestedText (sha : Sha256) (trade : PolymarketRawTrade) : String :=
  if trade.tradeId = none ∧ trade.transactionHash = none then digestInput trade
  else exchangeTradeId (textFunctions sha) trade

theorem exchangeTradeId_of_tradeId {id : RawText 256} (h : trade.tradeId = some id) :
    exchangeTradeId functions trade = id.text := by
  rw [exchangeTradeId, h]

theorem exchangeTradeId_of_hash {hash : RawText 256} (hid : trade.tradeId = none)
    (h : trade.transactionHash = some hash) :
    exchangeTradeId functions trade = hash.text := by
  rw [exchangeTradeId, hid, h]

theorem exchangeTradeId_generated (hid : trade.tradeId = none) (hhash : trade.transactionHash = none) :
    exchangeTradeId (textFunctions sha) trade =
      "generated:" ++ (textFunctions sha).hexdigest (digestInput trade) := by
  rw [exchangeTradeId, hid, hhash]
  rfl

/-- Generated ids are short, so they agree when the digests do. -/
theorem generated_eq_iff (hsha : (textFunctions sha).hexdigest (digestInput a) =
      (textFunctions sha).hexdigest (digestInput b) → digestInput a = digestInput b) :
    canonicalPolymarketTradeId (textFunctions sha) ("generated:" ++ (textFunctions sha).hexdigest (digestInput a)) =
      canonicalPolymarketTradeId (textFunctions sha) ("generated:" ++ (textFunctions sha).hexdigest (digestInput b)) ↔
    digestInput a = digestInput b := by
  have hshort : ∀ text : String, ("generated:" ++ (textFunctions sha).hexdigest text).length ≤ 117 := by
    intro text
    have hdigest : ((textFunctions sha).hexdigest text).length = 64 := sha.length_hexdigest _
    rw [String.length_append, hdigest]
    decide
  rw [canonicalId_eq, canonicalId_eq, if_pos (hshort _), if_pos (hshort _), prefixed_injective]
  constructor
  · intro h
    have hlist := congrArg String.toList h
    rw [String.toList_append, String.toList_append] at hlist
    exact hsha (String.toList_injective (List.append_cancel_left hlist))
  · intro h
    rw [h]

/-- **When two trades get one id**: with trade ids, exactly when these agree; with neither a trade id nor a transaction
    hash, exactly when the fields agree as written; with one transaction hash and no trade ids, always. -/
theorem trade_ids_eq_iff
    (ha : mapPolymarketTrade fromisoformat (textFunctions sha)
      a marketId contractId outcomeId expectedAssetId receivedAt
      exchangeOccurredAt = .ok mapped)
    (hb : mapPolymarketTrade fromisoformat (textFunctions sha) b marketId' contractId' outcomeId' expectedAssetId'
      receivedAt' exchangeOccurredAt' = .ok mapped')
    (hidentity : a.validateTradeIdentity = .ok a)
    (hsha : Set.InjOn (textFunctions sha).hexdigest {text | text = digestedText sha a ∨ text = digestedText sha b}) :
    (∀ id id', a.tradeId = some id → b.tradeId = some id' → ¬SpelledAs (textFunctions sha) id.text id'.text →
      ¬SpelledAs (textFunctions sha) id'.text id.text → (mapped.tradeId = mapped'.tradeId ↔ id = id')) ∧
    (a.tradeId = none → a.transactionHash = none → b.tradeId = none → b.transactionHash = none → Unbarred a →
      Unbarred b → (mapped.tradeId = mapped'.tradeId ↔ SameRecord a b) ∧
        (mapped.tradeId = mapped'.tradeId → mapped.price = mapped'.price ∧ mapped.quantity = mapped'.quantity ∧
          mapped.aggressorSide = mapped'.aggressorSide ∧
          (exchangeOccurredAt = exchangeOccurredAt' → mapped.exchangeOccurredAt = mapped'.exchangeOccurredAt))) ∧
    (∀ hash, a.tradeId = none → b.tradeId = none → a.transactionHash = some hash → b.transactionHash = some hash →
      mapped.tradeId = mapped'.tradeId) := by
  have hA := mapsTo_of_map ha
  have hB := mapsTo_of_map hb
  have hsame : (textFunctions sha).hexdigest (digestedText sha a) = (textFunctions sha).hexdigest (digestedText sha b) →
      digestedText sha a = digestedText sha b := fun h => hsha (Or.inl rfl) (Or.inr rfl) h
  rw [hA.tradeId, hB.tradeId]
  refine ⟨?_, ?_, ?_⟩
  · intro id id' hid hid' hspelled hspelled'
    -- with trade ids: the exchange ids are these
    have hnot : ¬(a.tradeId = none ∧ a.transactionHash = none) := fun h => by rw [hid] at h; cases h.1
    have hnot' : ¬(b.tradeId = none ∧ b.transactionHash = none) := fun h => by rw [hid'] at h; cases h.1
    unfold digestedText at hsame
    rw [if_neg hnot, if_neg hnot', exchangeTradeId_of_tradeId hid, exchangeTradeId_of_tradeId hid'] at hsame
    rw [exchangeTradeId_of_tradeId hid, exchangeTradeId_of_tradeId hid', canonicalId_eq_iff hsame hspelled hspelled']
    exact ⟨rawText_ext, congrArg RawText.text⟩
  · intro hid hhash hid' hhash' hunbarred hunbarred'
    -- with neither: the exchange ids are digests of the joined fields
    obtain ⟨sizeA, hsizeA, hquantityA⟩ := hA.size
    obtain ⟨sizeB, hsizeB, hquantityB⟩ := hB.size
    unfold digestedText at hsame
    rw [if_pos ⟨hid, hhash⟩, if_pos ⟨hid', hhash'⟩] at hsame
    have hrecord := digestInput_eq_iff hunbarred hunbarred' (by rw [hsizeA]; exact nofun) (by rw [hsizeB]; exact nofun)
    rw [exchangeTradeId_generated hid hhash, exchangeTradeId_generated hid' hhash', generated_eq_iff hsame, hrecord]
    refine ⟨Iff.rfl, fun h => ⟨?_, ?_, ?_, ?_⟩⟩
    · rw [hA.price, hB.price, h.price]
    · have hsizes := h.size
      rw [hsizeA, hsizeB] at hsizes
      rw [hquantityA, hquantityB, Option.some.inj hsizes]
    · rw [hA.side, hB.side, h.side]
    · rintro rfl
      -- a trade with neither has a timestamp, or its model is not valid
      have htimestamp : a.timestamp ≠ none := by
        intro hnone
        rw [PolymarketRawTrade.validateTradeIdentity, raiseIf, if_pos ⟨hid, hhash, hnone⟩] at hidentity
        cases hidentity
      obtain ⟨timestamp, htimestamp⟩ := Option.ne_none_iff_exists'.mp htimestamp
      have hoccurred : tradeExchangeOccurredAt fromisoformat a exchangeOccurredAt =
          tradeExchangeOccurredAt fromisoformat b exchangeOccurredAt := by
        unfold tradeExchangeOccurredAt
        rw [← h.timestamp, htimestamp]
        rfl
      rw [hA.occurredAt, hB.occurredAt] at hoccurred
      exact Except.ok.inj hoccurred
  · intro hash hid hid' hhash hhash'
    rw [exchangeTradeId_of_hash hid hhash, exchangeTradeId_of_hash hid' hhash']

/-! ## Trades that map -/

theorem canonicalId_within (sha : Sha256) (exchangeId : String) :
    TextWithin 128 (canonicalPolymarketTradeId (textFunctions sha) exchangeId) := by
  have hprefix : "polymarket:".length = 11 := rfl
  have hdigest : ((textFunctions sha).hexdigest exchangeId).length = 64 := sha.length_hexdigest _
  rw [canonicalId_eq]
  unfold TextWithin
  split_ifs with hshort
  · rw [String.length_append, hprefix]
    omega
  · rw [String.length_append, hprefix, hdigest]
    decide

/-- A trade with a size and an exchange id that fits maps, given a time. -/
theorem map_ok {size : PositiveSize} {given : IsoDatetime} {occurredAt : UTCDateTime} (hsize : trade.size = some size)
    (htime : given.toUtc = .ok occurredAt) (hid : TextWithin 256 (exchangeTradeId (textFunctions sha) trade)) :
    ∃ mapped, mapPolymarketTrade fromisoformat (textFunctions sha) trade marketId contractId outcomeId
      trade.assetId.text receivedAt (some given) = .ok mapped := by
  have hvalidate : validateExchangeAssetId trade.assetId.text = .ok trade.assetId.text := by
    have hne : trade.assetId.text ≠ "" := by
      intro hempty
      have hwithin := trade.assetId.within.1
      rw [hempty] at hwithin
      exact absurd hwithin (by decide)
    unfold validateExchangeAssetId
    rw [raiseIf, if_neg (by simp only [trade.assetId.stripped, hne, Bool.true_eq_false, or_false, not_false_eq_true])]
    show (raiseIf _ _ >>= fun _ => _) = _
    rw [raiseIf, if_neg (not_lt.mpr trade.assetId.within.2)]
    rfl
  have hoccurred : tradeExchangeOccurredAt fromisoformat trade (some given) = .ok occurredAt := htime
  unfold mapPolymarketTrade
  rw [hvalidate]
  show ∃ mapped, (if trade.assetId.text ≠ trade.assetId.text then _ else orProtocolError _ _) = Except.ok mapped
  rw [if_neg (not_not_intro rfl)]
  simp only [orProtocolError_eq_ok]
  unfold canonicalTrade
  rw [hsize]
  dsimp only
  rw [hoccurred, ok_bind, dif_pos (canonicalId_within sha _), dif_pos hid]
  exact ⟨_, rfl⟩

theorem generated_within (sha : Sha256) (text : String) :
    TextWithin 256 ("generated:" ++ (textFunctions sha).hexdigest text) := by
  have hdigest : ((textFunctions sha).hexdigest text).length = 64 := sha.length_hexdigest _
  unfold TextWithin
  rw [String.length_append, hdigest]
  decide

/-! ## Rain, and who trades it -/

theorem isIdentifier_rainMarket : IsIdentifier "mkt_" "mkt_rain" := by decide +kernel
theorem isIdentifier_rainContract : IsIdentifier "ctr_" "ctr_rain" := by decide +kernel
theorem isIdentifier_rainOutcome : IsIdentifier "out_" "out_yes" := by decide +kernel

def zeros : String := "0000000000000000000000000000000000000000000000000000000000000000"
def ones : String := "1111111111111111111111111111111111111111111111111111111111111111"

/-- A digest that tells this text from the others. -/
def telling (text : String) : Sha256 where
  hexdigest
    | .str other => if other = text then ones else zeros
    | _ => zeros
  length_hexdigest value := by
    have hones : ones.length = 64 := by decide
    have hzeros : zeros.length = 64 := by decide
    split
    · split_ifs
      · exact hones
      · exact hzeros
    · exact hzeros
  hex_hexdigest value := by
    have hones : (ones.toList.all fun c => inRange '0' '9' c || inRange 'a' 'f' c) = true := by decide
    have hzeros : (zeros.toList.all fun c => inRange '0' '9' c || inRange 'a' 'f' c) = true := by decide
    split
    · split_ifs
      · exact hones
      · exact hzeros
    · exact hzeros

theorem hexdigest_telling (text other : String) :
    (textFunctions (telling text)).hexdigest other = if other = text then ones else zeros := rfl

def half : Probability := ⟨⟨false, 5, -1⟩, by norm_num [IsUnit, Decimal.value, Decimal.signed]⟩

/-- The same number with another digit. -/
def halfPadded : Probability := ⟨⟨false, 50, -2⟩, by norm_num [IsUnit, Decimal.value, Decimal.signed]⟩

def tenth : Probability := ⟨⟨false, 1, -1⟩, by norm_num [IsUnit, Decimal.value, Decimal.signed]⟩

def oneContract : PositiveSize := ⟨⟨false, 1, 0⟩, by norm_num [Decimal.value, Decimal.signed]⟩

def shortText (text : String) (h : TextWithin 256 text ∧ isStripped text = true) : RawText 256 := ⟨text, h.1, h.2⟩

theorem shortText_m : TextWithin 256 "m" ∧ isStripped "m" = true := by decide
theorem shortText_a : TextWithin 256 "a" ∧ isStripped "a" = true := by decide
theorem shortText_barred : TextWithin 256 "m|a" ∧ isStripped "m|a" = true := by decide
theorem shortText_barred' : TextWithin 256 "a|a" ∧ isStripped "a|a" = true := by decide
theorem shortText_hash : TextWithin 256 "0xfeed" ∧ isStripped "0xfeed" = true := by decide
theorem shortText_first : TextWithin 256 "t1" ∧ isStripped "t1" = true := by decide
theorem shortText_second : TextWithin 256 "t2" ∧ isStripped "t2" = true := by decide
theorem shortText_time : TextWithin 256 "1" ∧ isStripped "1" = true := by decide

/-- One contract bought. -/
def bought (tradeId : Option (RawText 256)) (market assetId : RawText 256) (price : Probability)
    (transactionHash : Option (RawText 256)) : PolymarketRawTrade where
  topic := none
  eventType := none
  tradeId := tradeId
  market := market
  assetId := assetId
  side := .buy
  price := price
  size := some oneContract
  feeRateBps := none
  timestamp := some (shortText "1" shortText_time)
  status := none
  matchTime := none
  lastUpdate := none
  outcome := none
  bucketIndex := none
  owner := none
  makerAddress := none
  transactionHash := transactionHash
  traderSide := none
  rawPayload := []

/-- The trade mapped at the first of January 2026. -/
def mapAtNewYear (sha : Sha256) (trade : PolymarketRawTrade) : MapResult Trade :=
  mapPolymarketTrade (fun _ => none) (textFunctions sha) trade ⟨"mkt_rain", isIdentifier_rainMarket⟩
    ⟨"ctr_rain", isIdentifier_rainContract⟩ ⟨"out_yes", isIdentifier_rainOutcome⟩ trade.assetId.text 63902822400000000
    (some ⟨63902822400000000, some 0⟩)

theorem mapAtNewYear_ok {tradeId : Option (RawText 256)} {market assetId : RawText 256} {price : Probability}
    {transactionHash : Option (RawText 256)}
    (h : TextWithin 256 (exchangeTradeId (textFunctions sha) (bought tradeId market assetId price transactionHash))) :
    ∃ mapped, mapAtNewYear sha (bought tradeId market assetId price transactionHash) = .ok mapped :=
  map_ok rfl (by decide : IsoDatetime.toUtc ⟨63902822400000000, some 0⟩ = .ok 63902822400000000) h

def marketText : RawText 256 := shortText "m" shortText_m
def assetText : RawText 256 := shortText "a" shortText_a
def hashText : RawText 256 := shortText "0xfeed" shortText_hash
def firstId : RawText 256 := shortText "t1" shortText_first
def secondId : RawText 256 := shortText "t2" shortText_second

theorem unbarred_bought (price : Probability) : Unbarred (bought none marketText assetText price none) := by
  refine ⟨(by decide : '|' ∉ "m".toList), (by decide : '|' ∉ "a".toList), ?_, ?_⟩
  · rintro text ⟨⟩
    exact (by decide : '|' ∉ "1".toList)
  · rintro text ⟨⟩

theorem digestInput_half_ne_tenth : digestInput (bought none marketText assetText half none) ≠
    digestInput (bought none marketText assetText tenth none) := by
  decide +kernel

/-- Two trade ids, and two generated ids of trades at different prices. -/
theorem trade_ids_eq_iff_two :
    (∃ mapped mapped',
      mapAtNewYear (telling "t1") (bought (some firstId) marketText assetText half none) = .ok mapped ∧
      mapAtNewYear (telling "t1") (bought (some secondId) marketText assetText half none) = .ok mapped' ∧
      mapped.tradeId ≠ mapped'.tradeId) ∧
    ∃ sha mapped mapped',
      mapAtNewYear sha (bought none marketText assetText half none) = .ok mapped ∧
      mapAtNewYear sha (bought none marketText assetText tenth none) = .ok mapped' ∧
      mapped.tradeId ≠ mapped'.tradeId := by
  have hne : ones ≠ zeros := by decide
  constructor
  · obtain ⟨mapped, hmapped⟩ := @mapAtNewYear_ok (telling "t1") (some firstId) marketText assetText half none
      shortText_first.1
    obtain ⟨mapped', hmapped'⟩ := @mapAtNewYear_ok (telling "t1") (some secondId) marketText assetText half none
      shortText_second.1
    have hfirst : (textFunctions (telling "t1")).hexdigest "t1" = ones :=
      (hexdigest_telling _ _).trans (if_pos rfl)
    have hsecond : (textFunctions (telling "t1")).hexdigest "t2" = zeros :=
      (hexdigest_telling _ _).trans (if_neg (by decide))
    have hsha : Set.InjOn (textFunctions (telling "t1")).hexdigest
        {text | text = digestedText (telling "t1") (bought (some firstId) marketText assetText half none) ∨
          text = digestedText (telling "t1") (bought (some secondId) marketText assetText half none)} := by
      rintro x (hx | hx) y (hy | hy) heq
      · rw [hx, hy]
      · rw [show x = "t1" from hx, show y = "t2" from hy, hfirst, hsecond] at heq
        exact absurd heq hne
      · rw [show x = "t2" from hx, show y = "t1" from hy, hfirst, hsecond] at heq
        exact absurd heq.symm hne
      · rw [hx, hy]
    have hiff := (trade_ids_eq_iff hmapped hmapped' rfl hsha).1 firstId secondId rfl rfl
      (fun h => h.1 (by decide : "t1".length ≤ 117)) (fun h => h.1 (by decide : "t2".length ≤ 117))
    refine ⟨mapped, mapped', hmapped, hmapped', fun heq => ?_⟩
    have htexts := congrArg RawText.text (hiff.mp heq)
    exact absurd htexts (by decide : ¬"t1" = "t2")
  · let sha := telling (digestInput (bought none marketText assetText half none))
    obtain ⟨mapped, hmapped⟩ := @mapAtNewYear_ok sha none marketText assetText half none (generated_within _ _)
    obtain ⟨mapped', hmapped'⟩ := @mapAtNewYear_ok sha none marketText assetText tenth none (generated_within _ _)
    have hhalf : (textFunctions sha).hexdigest (digestInput (bought none marketText assetText half none)) = ones :=
      (hexdigest_telling _ _).trans (if_pos rfl)
    have htenth : (textFunctions sha).hexdigest (digestInput (bought none marketText assetText tenth none)) = zeros :=
      (hexdigest_telling _ _).trans (if_neg digestInput_half_ne_tenth.symm)
    have hsha : Set.InjOn (textFunctions sha).hexdigest
        {text | text = digestedText sha (bought none marketText assetText half none) ∨
          text = digestedText sha (bought none marketText assetText tenth none)} := by
      rintro x (hx | hx) y (hy | hy) heq
      · rw [hx, hy]
      · rw [hx, hy, digestedText, if_pos ⟨rfl, rfl⟩, digestedText, if_pos ⟨rfl, rfl⟩, hhalf, htenth] at heq
        exact absurd heq hne
      · rw [hx, hy, digestedText, if_pos ⟨rfl, rfl⟩, digestedText, if_pos ⟨rfl, rfl⟩, hhalf, htenth] at heq
        exact absurd heq.symm hne
      · rw [hx, hy]
    have hiff := ((trade_ids_eq_iff hmapped hmapped' rfl hsha).2.1 rfl rfl rfl rfl (unbarred_bought half)
      (unbarred_bought tenth)).1
    refine ⟨sha, mapped, mapped', hmapped, hmapped', fun heq => ?_⟩
    have hdigits := congrArg (fun price : Probability => price.decimal.coefficient) (hiff.mp heq).price
    exact absurd hdigits (by decide : ¬(5 : ℕ) = 1)

/-- Two trades of one transaction at different prices have one id. So have two trades of different markets and assets
    whose joined fields agree. And one price written in two ways makes two ids. -/
theorem trade_ids_collide : ∃ sha : Sha256,
    (∃ mapped mapped', mapAtNewYear sha (bought none marketText assetText half (some hashText)) = .ok mapped ∧
      mapAtNewYear sha (bought none marketText assetText tenth (some hashText)) = .ok mapped' ∧
      mapped.price ≠ mapped'.price ∧ mapped.tradeId = mapped'.tradeId) ∧
    (∃ mapped mapped',
      mapAtNewYear sha (bought none (shortText "m|a" shortText_barred) assetText half none) = .ok mapped ∧
      mapAtNewYear sha (bought none marketText (shortText "a|a" shortText_barred') half none) = .ok mapped' ∧
      mapped.tradeId = mapped'.tradeId) ∧
    (∃ mapped mapped', mapAtNewYear sha (bought none marketText assetText half none) = .ok mapped ∧
      mapAtNewYear sha (bought none marketText assetText halfPadded none) = .ok mapped' ∧
      mapped.price = mapped'.price ∧ mapped.tradeId ≠ mapped'.tradeId) := by
  refine ⟨telling (digestInput (bought none marketText assetText half none)), ?_, ?_, ?_⟩
  · obtain ⟨mapped, hmapped⟩ :=
      @mapAtNewYear_ok (telling (digestInput (bought none marketText assetText half none))) none
      marketText assetText half (some hashText) shortText_hash.1
    obtain ⟨mapped', hmapped'⟩ := @mapAtNewYear_ok (telling (digestInput (bought none marketText assetText half none)))
      none marketText assetText tenth (some hashText) shortText_hash.1
    have hA := mapsTo_of_map hmapped
    have hB := mapsTo_of_map hmapped'
    refine ⟨mapped, mapped', hmapped, hmapped', ?_, ?_⟩
    · rw [hA.price, hB.price]
      norm_num [bought, half, tenth, DecimalIn.value, Decimal.value, Decimal.signed]
    · rw [hA.tradeId, hB.tradeId]
      rfl
  · obtain ⟨mapped, hmapped⟩ :=
      @mapAtNewYear_ok (telling (digestInput (bought none marketText assetText half none))) none
      (shortText "m|a" shortText_barred) assetText half none (generated_within _ _)
    obtain ⟨mapped', hmapped'⟩ := @mapAtNewYear_ok (telling (digestInput (bought none marketText assetText half none)))
      none marketText (shortText "a|a" shortText_barred') half none (generated_within _ _)
    have hinput : digestInput (bought none (shortText "m|a" shortText_barred) assetText half none) =
        digestInput (bought none marketText (shortText "a|a" shortText_barred') half none) := by decide +kernel
    refine ⟨mapped, mapped', hmapped, hmapped', ?_⟩
    rw [(mapsTo_of_map hmapped).tradeId, (mapsTo_of_map hmapped').tradeId, exchangeTradeId_generated rfl rfl,
      exchangeTradeId_generated rfl rfl, hinput]
  · obtain ⟨mapped, hmapped⟩ :=
      @mapAtNewYear_ok (telling (digestInput (bought none marketText assetText half none))) none
      marketText assetText half none (generated_within _ _)
    obtain ⟨mapped', hmapped'⟩ := @mapAtNewYear_ok (telling (digestInput (bought none marketText assetText half none)))
      none marketText assetText halfPadded none (generated_within _ _)
    have hinput : digestInput (bought none marketText assetText half none) ≠
        digestInput (bought none marketText assetText halfPadded none) := by decide +kernel
    have hA := mapsTo_of_map hmapped
    have hB := mapsTo_of_map hmapped'
    refine ⟨mapped, mapped', hmapped, hmapped', ?_, ?_⟩
    · rw [hA.price, hB.price]
      norm_num [bought, half, halfPadded, DecimalIn.value, Decimal.value, Decimal.signed]
    · rw [hA.tradeId, hB.tradeId, exchangeTradeId_generated rfl rfl, exchangeTradeId_generated rfl rfl, Ne,
        generated_eq_iff]
      · exact hinput
      · intro heq
        rw [hexdigest_telling, hexdigest_telling, if_pos rfl, if_neg hinput.symm] at heq
        exact absurd heq (by decide)

end Polymarket
end Pmrp
