import Pmrp.Adapters.KalshiMapper
import Pmrp.Simulation.Correctness.Projection

/-!
# `Adapters.Correctness.MappedBooks` — mapping commutes with projection

A raw book is kept beside the canonical one: `Represents` relates them, one mapped delta preserves the relation
(`represents_step`), and the run follows by induction on the deltas (`represents_run`). A relation on the members
of both sides is enough, for the prices of a side never repeat and both codes sort them the same way.
-/

namespace Pmrp
namespace Kalshi

/-! ## Raw books -/

/-- The levels of the two sides, at most one for each price. -/
abbrev RawBook := KalshiOrderBookSide → List KalshiRawOrderBookLevel

/-- What a raw delta says. -/
structure RawChange where
  side : KalshiOrderBookSide
  level : KalshiRawOrderBookLevel
  action : KalshiOrderBookDeltaAction

def rawChange (message : KalshiRawOrderBookMessage) : Option RawChange :=
  match message.side, hprice : message.price, message.action with
  | some side, some price, some action =>
      some ⟨side, ⟨price, message.quantity.getD 0, message.price_le price hprice⟩, action⟩
  | _, _, _ => none

def RawBook.setLevel (book : RawBook) (change : RawChange) : RawBook :=
  Function.update book change.side
    (Dictionary.insert KalshiRawOrderBookLevel.price change.level (book change.side))

def RawBook.deleteLevel (book : RawBook) (change : RawChange) : RawBook :=
  Function.update book change.side
    (Dictionary.erase KalshiRawOrderBookLevel.price change.level.price (book change.side))

/-- The action as it is named: `delete` deletes, `insert` and `update` set the quantity. -/
def RawBook.setOrDelete (book : RawBook) (change : RawChange) : RawBook :=
  if change.action = .delete then book.deleteLevel change else book.setLevel change

/-- As `setOrDelete`, but a quantity of zero deletes too. -/
def RawBook.setPositiveOrDelete (book : RawBook) (change : RawChange) : RawBook :=
  if change.action = .delete ∨ change.level.quantity = 0 then book.deleteLevel change else book.setLevel change

/-! ## The received deltas -/

structure ReceivedDelta where
  message : KalshiRawOrderBookMessage
  receivedAt : UTCDateTime
  exchangeOccurredAt : Option UTCDateTime := none
  is_delta : message.messageType = .delta

/-- Each delta is mapped with the sequence of the message before it. -/
def mapDeltas (marketId : MarketId) (contractId : ContractId) :
    Option ℕ → List ReceivedDelta → Except AdapterProtocolError (List OrderBookDelta)
  | _, [] => .ok []
  | previousSequence, delta :: deltas => do
      let mapped ← mapKalshiOrderBookDelta delta.message marketId contractId delta.receivedAt previousSequence
        delta.exchangeOccurredAt
      let rest ← mapDeltas marketId contractId delta.message.sequence deltas
      return mapped :: rest

/-- The sequence check reports `ok` for each message after the one before it. -/
def SequenceOk : Option ℕ → List ReceivedDelta → Prop
  | _, [] => True
  | previousSequence, delta :: deltas =>
      (checkKalshiOrderBookSequence previousSequence delta.message).status = .ok ∧
        SequenceOk delta.message.sequence deltas

/-- The raw deltas on the raw book, each read by `update`. -/
def rawRun (update : RawBook → RawChange → RawBook) (book : RawBook) (deltas : List ReceivedDelta) : RawBook :=
  deltas.foldl (fun book delta => (rawChange delta.message).elim book (update book)) book

/-! ## Levels of one side -/

def canonicalSide : KalshiOrderBookSide → Side
  | .yes => .buy
  | .no => .sell

def canonicalLevel : KalshiOrderBookSide → KalshiRawOrderBookLevel → OrderBookLevel
  | .yes => yesBidLevel
  | .no => noAskLevel

theorem canonicalSide_inj {s t : KalshiOrderBookSide} : canonicalSide s = canonicalSide t ↔ s = t := by
  cases s <;> cases t <;> simp [canonicalSide]

/-- Distinct raw prices are distinct prices of the canonical side. -/
theorem canonicalLevel_price_inj (side : KalshiOrderBookSide) {a b : KalshiRawOrderBookLevel} :
    (canonicalLevel side a).price = (canonicalLevel side b).price ↔ a.price = b.price := by
  constructor
  · intro h
    cases side with
    | yes =>
        simp only [canonicalLevel, yesBidLevel, kalshiCentsToDecimal_eq a.price_le,
          kalshiCentsToDecimal_eq b.price_le] at h
        have hcast : (a.price : ℚ) = b.price := by linarith
        exact_mod_cast hcast
    | no =>
        simp only [canonicalLevel, noAskLevel, kalshiNoCentsToYesAskDecimal_eq a.price_le,
          kalshiNoCentsToYesAskDecimal_eq b.price_le] at h
        have hcast : (a.price : ℚ) = b.price := by linarith
        exact_mod_cast hcast
  · intro h
    cases side <;> simp only [canonicalLevel, yesBidLevel, noAskLevel, h]

theorem yesBidLevel_price_lt {a b : KalshiRawOrderBookLevel} :
    (yesBidLevel a).price < (yesBidLevel b).price ↔ a.price < b.price := by
  simp only [yesBidLevel, kalshiCentsToDecimal_eq a.price_le, kalshiCentsToDecimal_eq b.price_le]
  rw [div_lt_div_iff_of_pos_right (by norm_num), Nat.cast_lt]

/-! ## Sorted sides -/

theorem bids_descending_of_unique {levels : List KalshiRawOrderBookLevel}
    (h : Dictionary.UniqueKeys KalshiRawOrderBookLevel.price levels) :
    (mapYesBidLevels levels).Pairwise fun a b => b.price < a.price := by
  have hunique : (sortByKey (fun level : KalshiRawOrderBookLevel => OrderDual.toDual level.price) levels).Pairwise
      fun a b => a.price ≠ b.price := h.perm (sortByKey_perm _ _).symm
  refine List.pairwise_map.mpr ((pairwise_sortByKey _ levels).imp₂ ?_ hunique)
  intro a b hle hne
  exact yesBidLevel_price_lt.mpr (lt_of_le_of_ne (OrderDual.toDual_le_toDual.mp hle) hne.symm)

theorem asks_ascending_of_unique {levels : List KalshiRawOrderBookLevel}
    (h : Dictionary.UniqueKeys KalshiRawOrderBookLevel.price levels) :
    (mapNoAskLevels levels).Pairwise fun a b => a.price < b.price := by
  have hunique : (sortByKey (fun level : KalshiRawOrderBookLevel => kalshiNoCentsToYesAskDecimal level.price)
      levels).Pairwise fun a b => a.price ≠ b.price := h.perm (sortByKey_perm _ _).symm
  refine List.pairwise_map.mpr ((pairwise_sortByKey _ levels).imp₂ ?_ hunique)
  intro a b hle hne
  refine lt_of_le_of_ne hle fun heq => hne ?_
  exact (canonicalLevel_price_inj .no).mp heq

theorem mem_mapYesBidLevels {levels : List KalshiRawOrderBookLevel} {a : OrderBookLevel} :
    a ∈ mapYesBidLevels levels ↔ ∃ level ∈ levels, canonicalLevel .yes level = a := by
  simp only [mapYesBidLevels, List.mem_map, mem_sortByKey, canonicalLevel]

theorem mem_mapNoAskLevels {levels : List KalshiRawOrderBookLevel} {a : OrderBookLevel} :
    a ∈ mapNoAskLevels levels ↔ ∃ level ∈ levels, canonicalLevel .no level = a := by
  simp only [mapNoAskLevels, List.mem_map, mem_sortByKey, canonicalLevel]

/-! ## The relation between the books -/

structure Represents (book : RawBook) (snapshot : OrderBookSnapshot) : Prop where
  unique : ∀ side, Dictionary.UniqueKeys KalshiRawOrderBookLevel.price (book side)
  mem_iff : ∀ side a, a ∈ snapshot.levels (canonicalSide side) ↔ ∃ level ∈ book side, canonicalLevel side level = a

/-- A represented book is the canonical mapping of the raw book. -/
theorem Represents.bids_eq {book : RawBook} {snapshot : OrderBookSnapshot} (h : Represents book snapshot) :
    snapshot.bids = mapYesBidLevels (book .yes) := by
  have hbids : snapshot.bids.Pairwise fun a b => OrderDual.toDual a.price < OrderDual.toDual b.price :=
    snapshot.bids_pairwise
  have hmapped : (mapYesBidLevels (book .yes)).Pairwise
      fun a b => OrderDual.toDual a.price < OrderDual.toDual b.price := bids_descending_of_unique (h.unique .yes)
  refine eq_of_pairwise_lt hbids hmapped fun a => ?_
  exact (h.mem_iff .yes a).trans mem_mapYesBidLevels.symm

theorem Represents.asks_eq {book : RawBook} {snapshot : OrderBookSnapshot} (h : Represents book snapshot) :
    snapshot.asks = mapNoAskLevels (book .no) := by
  refine eq_of_pairwise_lt snapshot.asks_pairwise (asks_ascending_of_unique (h.unique .no)) fun a => ?_
  exact (h.mem_iff .no a).trans mem_mapNoAskLevels.symm

/-! ## The mapped snapshot -/

variable {message : KalshiRawOrderBookMessage} {change : RawChange} {marketId : MarketId} {contractId : ContractId}
  {receivedAt : UTCDateTime} {exchangeOccurredAt : Option UTCDateTime} {snapshotReason projectionReason : String}
  {snapshot : OrderBookSnapshot} {deltas : List ReceivedDelta} {book : RawBook}

theorem unique_levels (h : message.messageType = .snapshot) (side : KalshiOrderBookSide) :
    Dictionary.UniqueKeys KalshiRawOrderBookLevel.price (message.levels side) :=
  List.pairwise_map.mp (message.nodup_levels h side)

/-- A snapshot message is mapped for every reason the canonical snapshot can carry. -/
theorem mapKalshiOrderBookSnapshot_of_reason (h : message.messageType = .snapshot)
    (hreason : TextWithin 128 snapshotReason) :
    ∃ snapshot, mapKalshiOrderBookSnapshot message marketId contractId receivedAt exchangeOccurredAt
      snapshotReason = .ok snapshot := by
  have hbids : StrictlyDescending ((mapYesBidLevels message.yes).map OrderBookLevel.price) :=
    (List.pairwise_map.mpr (bids_descending_of_unique (unique_levels h .yes))).isChain
  have hasks : StrictlyAscending ((mapNoAskLevels message.no).map OrderBookLevel.price) :=
    (List.pairwise_map.mpr (asks_ascending_of_unique (unique_levels h .no))).isChain
  rw [mapKalshiOrderBookSnapshot, if_neg (not_not.mpr h), dif_pos hreason, dif_pos hbids, dif_pos hasks]
  exact ⟨_, rfl⟩

/-- What the mapped snapshot keeps of its message. -/
structure Mapped (message : KalshiRawOrderBookMessage) (marketId : MarketId) (contractId : ContractId)
    (snapshot : OrderBookSnapshot) : Prop where
  represents : Represents message.levels snapshot
  market_eq : snapshot.marketId = marketId
  contract_eq : snapshot.contractId = contractId
  exchange_eq : snapshot.exchange = exchangeName
  sequence_eq : snapshot.sequence = message.sequence
  valid : snapshot.isValid = true

theorem mapped_of_ok (h : mapKalshiOrderBookSnapshot message marketId contractId receivedAt exchangeOccurredAt
    snapshotReason = .ok snapshot) : Mapped message marketId contractId snapshot := by
  unfold mapKalshiOrderBookSnapshot at h
  by_cases htype : message.messageType = .snapshot
  · rw [if_neg (not_not.mpr htype)] at h
    split_ifs at h with hreason hbids hasks
    cases h
    refine ⟨⟨unique_levels htype, fun side a => ?_⟩, rfl, rfl, rfl, rfl, rfl⟩
    cases side with
    | yes => exact mem_mapYesBidLevels
    | no => exact mem_mapNoAskLevels
  · rw [if_pos htype] at h
    cases h

/-! ## One mapped delta -/

def canonicalAction (action : KalshiOrderBookDeltaAction) : OrderBookDeltaAction :=
  if action = .delete then .delete else .upsert

/-- A delta message is always mapped, to the one change that it says. -/
theorem mapKalshiOrderBookDelta_eq (h : message.messageType = .delta) (previousSequence : Option ℕ) :
    ∃ change delta, rawChange message = some change ∧
      mapKalshiOrderBookDelta message marketId contractId receivedAt previousSequence exchangeOccurredAt = .ok delta ∧
      delta.changes = [deltaLevel change.side change.level (canonicalAction change.action)] ∧
      delta.marketId = marketId ∧ delta.contractId = contractId ∧ delta.exchange = exchangeName ∧
      delta.sequence = message.sequence ∧ delta.previousSequence = previousSequence := by
  obtain ⟨side, price, action, hside, hprice, haction, hdelete, hwrite⟩ := message.delta_fields h
  have hquantity : mapDeltaQuantity message = .ok (message.quantity.getD 0) := by
    unfold mapDeltaQuantity
    by_cases hact : action = .delete
    · rw [haction, hact, if_pos rfl, hdelete hact]
    · obtain ⟨quantity, hq⟩ := hwrite hact
      rw [haction, if_neg fun heq => hact (Option.some.inj heq), hq]
      rfl
  have hle : price ≤ 100 := message.price_le price hprice
  have hraw : rawChange message = some ⟨side, ⟨price, message.quantity.getD 0, hle⟩, action⟩ := by
    unfold rawChange
    split
    · rename_i s p a hs hp ha
      rw [hside] at hs
      rw [hprice] at hp
      rw [haction] at ha
      cases hs
      cases hp
      cases ha
      rfl
    · rename_i hnone
      exact absurd haction (hnone side price action hside hprice)
  have hlevel : mapDeltaLevel message =
      .ok (deltaLevel side ⟨price, message.quantity.getD 0, hle⟩ (canonicalAction action)) := by
    unfold mapDeltaLevel
    split
    · rename_i s p a hs hp ha
      rw [hside] at hs
      rw [hprice] at hp
      rw [haction] at ha
      cases hs
      cases hp
      cases ha
      rw [hquantity]
      rfl
    · rename_i hnone
      exact absurd haction (hnone side price action hside hprice)
  rw [mapKalshiOrderBookDelta, if_neg (not_not.mpr h), hlevel]
  exact ⟨_, _, hraw, rfl, rfl, rfl, rfl, rfl, rfl, rfl⟩

/-! ## One step -/

theorem mem_insert_iff {levels : List KalshiRawOrderBookLevel}
    (h : Dictionary.UniqueKeys KalshiRawOrderBookLevel.price levels) {a b : KalshiRawOrderBookLevel} :
    b ∈ Dictionary.insert KalshiRawOrderBookLevel.price a levels ↔ b = a ∨ (b ∈ levels ∧ a.price ≠ b.price) := by
  have hlookup := (h.insert a).lookup_eq_some (a := b) (k := b.price)
  rw [Dictionary.lookup_insert] at hlookup
  constructor
  · intro hb
    have hsome := hlookup.mpr ⟨hb, rfl⟩
    by_cases hprice : a.price = b.price
    · rw [if_pos hprice] at hsome
      exact Or.inl (Option.some.inj hsome).symm
    · rw [if_neg hprice] at hsome
      exact Or.inr ⟨Dictionary.mem_of_lookup hsome, hprice⟩
  · rintro (rfl | ⟨hb, hprice⟩)
    · exact (hlookup.mp (if_pos rfl)).1
    · refine (hlookup.mp ?_).1
      rw [if_neg hprice]
      exact h.lookup_eq_some.mpr ⟨hb, rfl⟩

theorem deltaLevel_side (side : KalshiOrderBookSide) (level : KalshiRawOrderBookLevel)
    (action : OrderBookDeltaAction) : (deltaLevel side level action).side = canonicalSide side := by
  cases side <;> rfl

theorem changedLevel_deltaLevel (side : KalshiOrderBookSide) (level : KalshiRawOrderBookLevel)
    (action : OrderBookDeltaAction) :
    OrderBook.changedLevel (deltaLevel side level action) = canonicalLevel side level := by
  cases side <;> rfl

theorem deltaLevel_price (side : KalshiOrderBookSide) (level : KalshiRawOrderBookLevel)
    (action : OrderBookDeltaAction) :
    (deltaLevel side level action).price = (canonicalLevel side level).price := by
  cases side <;> rfl

/-- The projection removes what the raw book deletes: quantity zero counts as a deletion. -/
theorem removes_deltaLevel (change : RawChange) :
    OrderBook.Removes (deltaLevel change.side change.level (canonicalAction change.action)) ↔
      change.action = .delete ∨ change.level.quantity = 0 := by
  have haction : canonicalAction change.action = .delete ↔ change.action = .delete := by
    unfold canonicalAction
    by_cases hdelete : change.action = .delete
    · rw [if_pos hdelete]
      exact iff_of_true rfl hdelete
    · rw [if_neg hdelete]
      exact iff_of_false (fun hcontra => by cases hcontra) hdelete
  unfold OrderBook.Removes
  cases change.side <;> simp [deltaLevel, haction]

/-- The level of a projected snapshot at a price, after one change. -/
theorem level_after {next : OrderBookSnapshot} {delta : OrderBookDelta} {change : OrderBookDeltaLevel}
    (hprojects : OrderBook.Projects snapshot [delta] next) (hchanges : delta.changes = [change]) (side : Side)
    (price : ℚ) :
    OrderBook.level next side price = if change.side = side ∧ change.price = price then OrderBook.levelAfter change
      else OrderBook.level snapshot side price := by
  rw [hprojects.level_eq, List.flatMap_singleton, hchanges]
  unfold OrderBook.levelAfterChanges OrderBook.lastChange
  by_cases htouched : change.side = side ∧ change.price = price
  · rw [if_pos htouched, List.filter_singleton, decide_eq_true htouched]
    rfl
  · rw [if_neg htouched, List.filter_singleton, decide_eq_false htouched]
    rfl

theorem mem_levels_iff (snapshot : OrderBookSnapshot) (side : Side) (a : OrderBookLevel) :
    a ∈ snapshot.levels side ↔ OrderBook.level snapshot side a.price = some a := by
  rw [OrderBook.level, (snapshot.uniqueKeys_levels side).lookup_eq_some, and_iff_left rfl]

/-- What a change leaves of one side: the levels at other prices, and its own level unless it deletes. -/
theorem mem_side_after (hunique : Dictionary.UniqueKeys KalshiRawOrderBookLevel.price (book change.side))
    {level : KalshiRawOrderBookLevel} :
    level ∈ book.setPositiveOrDelete change change.side ↔
      (level = change.level ∧ ¬(change.action = .delete ∨ change.level.quantity = 0)) ∨
        (level ∈ book change.side ∧ change.level.price ≠ level.price) := by
  unfold RawBook.setPositiveOrDelete
  by_cases hremoves : change.action = .delete ∨ change.level.quantity = 0
  · rw [if_pos hremoves, RawBook.deleteLevel, Function.update_self, Dictionary.erase, List.mem_filter]
    simp only [hremoves, not_true, and_false, false_or, decide_eq_true_eq, ne_comm]
  · rw [if_neg hremoves, RawBook.setLevel, Function.update_self, mem_insert_iff hunique]
    simp only [hremoves, not_false_iff, and_true]

theorem side_after_of_ne {side : KalshiOrderBookSide} (hside : side ≠ change.side) :
    book.setPositiveOrDelete change side = book side := by
  unfold RawBook.setPositiveOrDelete
  split_ifs
  · exact Function.update_of_ne hside _ _
  · exact Function.update_of_ne hside _ _

theorem unique_after (hunique : ∀ side, Dictionary.UniqueKeys KalshiRawOrderBookLevel.price (book side))
    (side : KalshiOrderBookSide) :
    Dictionary.UniqueKeys KalshiRawOrderBookLevel.price (book.setPositiveOrDelete change side) := by
  by_cases hside : side = change.side
  · subst hside
    unfold RawBook.setPositiveOrDelete
    split_ifs
    · rw [RawBook.deleteLevel, Function.update_self]
      exact (hunique _).erase _
    · rw [RawBook.setLevel, Function.update_self]
      exact (hunique _).insert _
  · rw [side_after_of_ne hside]
    exact hunique side

/-- **One delta.** Projecting the mapped change keeps the books related. -/
theorem represents_step (h : Represents book snapshot) {delta : OrderBookDelta} {next : OrderBookSnapshot}
    (hprojects : OrderBook.Projects snapshot [delta] next)
    (hchanges : delta.changes = [deltaLevel change.side change.level (canonicalAction change.action)]) :
    Represents (book.setPositiveOrDelete change) next := by
  have hlevel := level_after hprojects hchanges
  refine ⟨unique_after h.unique, fun side a => ?_⟩
  rw [mem_levels_iff, hlevel, deltaLevel_side, deltaLevel_price]
  by_cases hside : side = change.side
  · subst hside
    by_cases hprice : (canonicalLevel change.side change.level).price = a.price
    · -- the touched price: only the change's own level can stand there
      rw [if_pos ⟨rfl, hprice⟩, OrderBook.levelAfter, changedLevel_deltaLevel]
      simp only [removes_deltaLevel]
      constructor
      · intro hafter
        split_ifs at hafter with hremoves
        exact ⟨change.level, (mem_side_after (h.unique _)).mpr (Or.inl ⟨rfl, hremoves⟩), Option.some.inj hafter⟩
      · rintro ⟨level, hmem, rfl⟩
        rcases (mem_side_after (h.unique _)).mp hmem with ⟨rfl, hremoves⟩ | ⟨_, hne⟩
        · rw [if_neg hremoves]
        · exact absurd ((canonicalLevel_price_inj _).mp hprice) hne
    · -- any other price keeps its level
      rw [if_neg fun hboth => hprice hboth.2, ← mem_levels_iff, h.mem_iff]
      refine exists_congr fun level => and_congr_left ?_
      rintro rfl
      have hne : change.level.price ≠ level.price := fun heq => hprice ((canonicalLevel_price_inj _).mpr heq)
      rw [mem_side_after (h.unique _)]
      refine ⟨fun hmem => Or.inr ⟨hmem, hne⟩, ?_⟩
      rintro (⟨rfl, _⟩ | ⟨hmem, _⟩)
      · exact absurd rfl hne
      · exact hmem
  · rw [if_neg fun hboth => hside (canonicalSide_inj.mp hboth.1).symm, side_after_of_ne hside, ← mem_levels_iff]
    exact h.mem_iff side a

/-! ## A run of deltas -/

/-- The snapshot is a book of this market, valid and at a sequence number. -/
structure Tracks (marketId : MarketId) (contractId : ContractId) (sequence : ℕ) (snapshot : OrderBookSnapshot) :
    Prop where
  market_eq : snapshot.marketId = marketId
  contract_eq : snapshot.contractId = contractId
  exchange_eq : snapshot.exchange = exchangeName
  sequence_eq : snapshot.sequence = some sequence
  valid : snapshot.isValid = true

/-- Every list of received deltas is mapped. -/
theorem mapDeltas_ok (previousSequence : Option ℕ) :
    ∃ mapped, mapDeltas marketId contractId previousSequence deltas = .ok mapped := by
  induction deltas generalizing previousSequence with
  | nil => exact ⟨[], rfl⟩
  | cons delta deltas ih =>
      obtain ⟨change, mapped, _, hmapped, _⟩ := mapKalshiOrderBookDelta_eq delta.is_delta previousSequence
      obtain ⟨rest, hrest⟩ := ih delta.message.sequence
      exact ⟨mapped :: rest, by rw [mapDeltas, hmapped, ok_bind, hrest]; rfl⟩

/-- What an update of the raw book has to satisfy for the mapped deltas to commute with it. -/
structure Commutes (update : RawBook → RawChange → RawBook) (book : RawBook) (sequence : Option ℕ)
    (deltas : List ReceivedDelta) (projectionReason : String) (snapshot : OrderBookSnapshot)
    (mapped : List OrderBookDelta) : Prop where
  accepted_iff : (∃ result, OrderBook.applyOrderBookDeltas projectionReason snapshot mapped = .ok result) ↔
    SequenceOk sequence deltas
  book_eq : ∀ result, OrderBook.applyOrderBookDeltas projectionReason snapshot mapped = .ok result →
    result.bids = mapYesBidLevels (rawRun update book deltas .yes) ∧
      result.asks = mapNoAskLevels (rawRun update book deltas .no)

/-- The induction on the deltas: the sequence check and the projection stop at the same delta, and up to it the
    books stay related. -/
theorem represents_run (hreason : OrderBook.ReasonValid projectionReason) {sequence : ℕ}
    (htracks : Tracks marketId contractId sequence snapshot) (h : Represents book snapshot)
    {mapped : List OrderBookDelta} (hmapped : mapDeltas marketId contractId (some sequence) deltas = .ok mapped) :
    ((∃ result, OrderBook.applyOrderBookDeltas projectionReason snapshot mapped = .ok result) ↔
      SequenceOk (some sequence) deltas) ∧
    ∀ result, OrderBook.applyOrderBookDeltas projectionReason snapshot mapped = .ok result →
      Represents (rawRun RawBook.setPositiveOrDelete book deltas) result := by
  induction deltas generalizing snapshot book sequence mapped with
  | nil =>
      cases hmapped
      refine ⟨⟨fun _ => trivial, fun _ => ⟨snapshot, rfl⟩⟩, ?_⟩
      intro result hresult
      cases hresult
      exact h
  | cons delta deltas ih =>
      obtain ⟨change, first, hraw, hfirst, hchanges, hmarket, hcontract, hexchange, hsequence, hprevious⟩ :=
        @mapKalshiOrderBookDelta_eq delta.message marketId contractId delta.receivedAt delta.exchangeOccurredAt
          delta.is_delta (some sequence)
      obtain ⟨rest, hrest⟩ := @mapDeltas_ok marketId contractId deltas delta.message.sequence
      have hlist : mapped = first :: rest := by
        rw [mapDeltas, hfirst, ok_bind, hrest] at hmapped
        exact (Except.ok.inj hmapped).symm
      subst hlist
      have hlineage : OrderBook.SameLineage snapshot first :=
        ⟨hmarket.trans htracks.market_eq.symm, hcontract.trans htracks.contract_eq.symm,
          hexchange.trans htracks.exchange_eq.symm⟩
      have hfollows : OrderBook.Follows snapshot.sequence 0 first ↔
          (checkKalshiOrderBookSequence (some sequence) delta.message).status = .ok := by
        rw [checkKalshiOrderBookSequence_ok, htracks.sequence_eq, ← hsequence]
        exact and_iff_left (Or.inr hprevious)
      -- a step that goes through leads to a snapshot at the sequence of its delta
      have hstep : ∀ next, OrderBook.applyOrderBookDelta projectionReason snapshot first = .ok next →
          delta.message.sequence = some (sequence + 1) ∧
            Tracks marketId contractId (sequence + 1) next ∧
            Represents (book.setPositiveOrDelete change) next := by
        intro next hnext
        obtain ⟨⟨_, hf⟩, hprojects⟩ := OrderBook.applyOrderBookDelta_spec htracks.valid hreason hnext
        have hsame := (hprojects.same_lineage first).mpr hlineage
        refine ⟨checkKalshiOrderBookSequence_ok.mp (hfollows.mp hf), ⟨?_, ?_, ?_, ?_, ?_⟩,
          represents_step h hprojects hchanges⟩
        · exact hsame.1.symm.trans hmarket
        · exact hsame.2.1.symm.trans hcontract
        · exact hsame.2.2.symm.trans hexchange
        · rw [hprojects.sequence_eq, htracks.sequence_eq]
          rfl
        · exact hprojects.valid htracks.valid
      have hrun : rawRun RawBook.setPositiveOrDelete book (delta :: deltas) =
          rawRun RawBook.setPositiveOrDelete (book.setPositiveOrDelete change) deltas := by
        rw [rawRun, List.foldl_cons, hraw]
        rfl
      have hcons : ∀ result, OrderBook.applyOrderBookDeltas projectionReason snapshot (first :: rest) = .ok result ↔
          ∃ next, OrderBook.applyOrderBookDelta projectionReason snapshot first = .ok next ∧
            OrderBook.applyOrderBookDeltas projectionReason next rest = .ok result := by
        intro result
        rw [OrderBook.applyOrderBookDeltas, List.foldlM_cons, bind_eq_ok]
        rfl
      rw [hrun]
      refine ⟨⟨?_, ?_⟩, ?_⟩
      · rintro ⟨result, hresult⟩
        obtain ⟨next, hnext, hresult⟩ := (hcons result).mp hresult
        obtain ⟨hseq, htracks', hrepresents⟩ := hstep next hnext
        rw [hseq] at hrest
        refine ⟨checkKalshiOrderBookSequence_ok.mpr hseq, ?_⟩
        rw [hseq]
        exact (ih htracks' hrepresents hrest).1.mp ⟨result, hresult⟩
      · rintro ⟨hok, htail⟩
        obtain ⟨next, hnext, _⟩ :=
          OrderBook.applyOrderBookDelta_of_accepted htracks.valid hreason hlineage (hfollows.mpr hok)
        obtain ⟨hseq, htracks', hrepresents⟩ := hstep next hnext
        rw [hseq] at hrest htail
        obtain ⟨result, hresult⟩ := (ih htracks' hrepresents hrest).1.mpr htail
        exact ⟨result, (hcons result).mpr ⟨next, hnext, hresult⟩⟩
      · intro result hresult
        obtain ⟨next, hnext, hresult⟩ := (hcons result).mp hresult
        obtain ⟨hseq, htracks', hrepresents⟩ := hstep next hnext
        rw [hseq] at hrest
        exact (ih htracks' hrepresents hrest).2 result hresult

theorem commutes_of_mapped (hreason : OrderBook.ReasonValid projectionReason)
    (hsnapshot : mapKalshiOrderBookSnapshot message marketId contractId receivedAt exchangeOccurredAt
      snapshotReason = .ok snapshot) (hsequence : message.sequence ≠ none) {mapped : List OrderBookDelta}
    (hmapped : mapDeltas marketId contractId message.sequence deltas = .ok mapped) :
    Commutes RawBook.setPositiveOrDelete message.levels message.sequence deltas projectionReason snapshot mapped := by
  have hm := mapped_of_ok hsnapshot
  obtain ⟨sequence, hseq⟩ := Option.ne_none_iff_exists'.mp hsequence
  have htracks : Tracks marketId contractId sequence snapshot :=
    ⟨hm.market_eq, hm.contract_eq, hm.exchange_eq, hm.sequence_eq.trans hseq, hm.valid⟩
  rw [hseq] at hmapped ⊢
  obtain ⟨haccepted, hrepresents⟩ := represents_run hreason htracks hm.represents hmapped
  refine ⟨haccepted, fun result hresult => ?_⟩
  exact ⟨(hrepresents result hresult).bids_eq, (hrepresents result hresult).asks_eq⟩

/-- **Mapping commutes with projection.** The mapped deltas of one market are accepted exactly when each message
    has the sequence number after the one before it, and then the book is the mapping of the raw book, in which a
    quantity of zero deletes. -/
theorem mapping_commutes (hreason : OrderBook.ReasonValid projectionReason)
    (hsnapshot : mapKalshiOrderBookSnapshot message marketId contractId receivedAt exchangeOccurredAt
      snapshotReason = .ok snapshot) (hsequence : message.sequence ≠ none) (deltas : List ReceivedDelta) :
    ∃ mapped, mapDeltas marketId contractId message.sequence deltas = .ok mapped ∧
      Commutes RawBook.setPositiveOrDelete message.levels message.sequence deltas projectionReason snapshot
        mapped := by
  obtain ⟨mapped, hmapped⟩ := @mapDeltas_ok marketId contractId deltas message.sequence
  exact ⟨mapped, hmapped, commutes_of_mapped hreason hsnapshot hsequence hmapped⟩

/-! ## A concrete stream -/

theorem bookMessage_price_le : 40 ≤ 100 := by omega

def bookMessage : KalshiRawOrderBookMessage where
  marketTicker := "KXSNOW"
  messageType := .snapshot
  sequence := some 7
  yes := [⟨40, 5, bookMessage_price_le⟩]
  marketTicker_within := TextWithin.ofList (by decide)
  marketTicker_stripped := by decide
  price_le _ hp := absurd hp (by simp)
  shape := by decide

/-- Sets the quantity of the one level to zero. -/
def zeroUpdate : ReceivedDelta where
  message :=
    { marketTicker := "KXSNOW"
      messageType := .delta
      sequence := some 8
      side := some .yes
      price := some 40
      quantity := some 0
      action := some .update
      marketTicker_within := bookMessage.marketTicker_within
      marketTicker_stripped := bookMessage.marketTicker_stripped
      price_le := fun p hp => Option.some.inj hp ▸ bookMessage_price_le
      shape := by decide }
  receivedAt := 1
  is_delta := rfl

def snowMarket : MarketId := ⟨"mkt_snow", by decide⟩
def snowContract : ContractId := ⟨"ctr_snow", by decide⟩

theorem bookMessage_mapped :
    ∃ snapshot, mapKalshiOrderBookSnapshot bookMessage snowMarket snowContract 0 none "initial" = .ok snapshot :=
  mapKalshiOrderBookSnapshot_of_reason rfl (TextWithin.ofList (by decide))

theorem sequenceOk_zeroUpdate : SequenceOk bookMessage.sequence [zeroUpdate] := ⟨by decide, trivial⟩

/-- The zero level is gone from the projected book, but a book whose quantities are set as the messages say still
    has it. -/
theorem zero_quantity_deletes :
    ∃ snapshot mapped,
      mapKalshiOrderBookSnapshot bookMessage snowMarket snowContract 0 none "initial" = .ok snapshot ∧
      mapDeltas snowMarket snowContract bookMessage.sequence [zeroUpdate] = .ok mapped ∧
      ¬Commutes RawBook.setOrDelete bookMessage.levels bookMessage.sequence [zeroUpdate]
        OrderBook.orderBookProjectionSnapshotReason snapshot mapped := by
  obtain ⟨snapshot, hsnapshot⟩ := bookMessage_mapped
  obtain ⟨mapped, hmapped⟩ := @mapDeltas_ok snowMarket snowContract [zeroUpdate] bookMessage.sequence
  refine ⟨snapshot, mapped, hsnapshot, hmapped, fun hcommutes => ?_⟩
  obtain ⟨haccepted, hprojected⟩ := commutes_of_mapped OrderBook.reasonValid_default hsnapshot
    (Option.some_ne_none 7) hmapped
  obtain ⟨result, hresult⟩ := haccepted.mpr sequenceOk_zeroUpdate
  have hempty : rawRun RawBook.setPositiveOrDelete bookMessage.levels [zeroUpdate] .yes = [] := by decide
  have hzero : rawRun RawBook.setOrDelete bookMessage.levels [zeroUpdate] .yes =
      [⟨40, 0, bookMessage_price_le⟩] := by decide
  have hsame := (hprojected result hresult).1.symm.trans (hcommutes.book_eq result hresult).1
  rw [hempty, hzero] at hsame
  have hlength := congrArg List.length hsame
  simp [mapYesBidLevels] at hlength

theorem mapping_commutes_zeroUpdate :
    ∃ snapshot mapped, SequenceOk bookMessage.sequence [zeroUpdate] ∧
      Commutes RawBook.setPositiveOrDelete bookMessage.levels bookMessage.sequence [zeroUpdate]
        OrderBook.orderBookProjectionSnapshotReason snapshot mapped := by
  obtain ⟨snapshot, hsnapshot⟩ := bookMessage_mapped
  obtain ⟨mapped, _, hcommutes⟩ := mapping_commutes OrderBook.reasonValid_default hsnapshot
    (Option.some_ne_none 7) [zeroUpdate]
  exact ⟨snapshot, mapped, sequenceOk_zeroUpdate, hcommutes⟩

end Kalshi
end Pmrp
