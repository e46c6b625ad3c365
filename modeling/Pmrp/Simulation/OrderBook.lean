import Pmrp.Schemas.MarketData

/-!
# `Simulation.OrderBook` — projecting deltas onto a snapshot

`apply_order_book_delta` and `apply_order_book_deltas` of `simulation/order_book.py`, with the top-of-book
helpers. The two dictionaries of a projection are lists of levels keyed by price (`Lib.Dictionary`).
-/

namespace Pmrp

def simulationInputError (message : String) : PyError := ⟨.simulationInputError, message⟩

namespace OrderBook

def orderBookProjectionSnapshotReason : String := "projected_delta"

/-! ## Checks -/

def validateSnapshot (snapshot : OrderBookSnapshot) : Result Unit :=
  raiseIf (snapshot.isValid = false) (simulationInputError "Order-book projection requires a valid snapshot")

def validateLineage (snapshot : OrderBookSnapshot) (delta : OrderBookDelta) : Result Unit := do
  raiseIf (snapshot.marketId ≠ delta.marketId)
    (simulationInputError "Order-book delta market does not match snapshot")
  raiseIf (snapshot.contractId ≠ delta.contractId)
    (simulationInputError "Order-book delta contract does not match snapshot")
  raiseIf (snapshot.exchange ≠ delta.exchange)
    (simulationInputError "Order-book delta exchange does not match snapshot")

def validateSequence (snapshot : OrderBookSnapshot) (delta : OrderBookDelta) : Result Unit := do
  raiseIf (snapshot.sequence = none ∧ (delta.previousSequence ≠ none ∨ delta.sequence ≠ none))
    (simulationInputError "Order-book delta sequence cannot be checked against unsequenced snapshot")
  raiseIf (snapshot.sequence ≠ none ∧ delta.sequence = none)
    (simulationInputError "Order-book delta sequence is required for sequenced snapshots")
  raiseIf (snapshot.sequence ≠ none ∧ delta.previousSequence ≠ none ∧ snapshot.sequence ≠ delta.previousSequence)
    (simulationInputError "Order-book delta previous sequence does not match snapshot sequence")
  raiseIf (∃ s ∈ snapshot.sequence, ∃ d ∈ delta.sequence, d ≤ s)
    (simulationInputError "Order-book delta sequence must advance the snapshot sequence")
  raiseIf (∃ s ∈ snapshot.sequence, ∃ d ∈ delta.sequence, d ≠ s + 1)
    (simulationInputError "Order-book delta sequence must be the next snapshot sequence")
  raiseIf (∃ p ∈ delta.previousSequence, ∃ d ∈ delta.sequence, d ≠ p + 1)
    (simulationInputError "Order-book delta sequence must be the next previous sequence")

def validateSnapshotReason (snapshotReason : String) : Result Unit :=
  raiseIf (snapshotReason = "" ∨ isStripped snapshotReason = false)
    (valueError "snapshot_reason must be nonempty without surrounding whitespace")

/-! ## Projection -/

def levelsByPrice (levels : List OrderBookLevel) : List OrderBookLevel :=
  Dictionary.ofList OrderBookLevel.price levels

/-- The level written by a change, without the order count of the level it replaces. -/
def changedLevel (change : OrderBookDeltaLevel) : OrderBookLevel where
  price := change.price
  quantity := change.quantity
  price_nonneg := change.price_nonneg
  quantity_nonneg := change.quantity_nonneg

def Removes (change : OrderBookDeltaLevel) : Prop := change.action = .delete ∨ change.quantity = 0

instance (change : OrderBookDeltaLevel) : Decidable (Removes change) := inferInstanceAs (Decidable (_ ∨ _))

def applyToTarget (target : List OrderBookLevel) (change : OrderBookDeltaLevel) : List OrderBookLevel :=
  if Removes change then Dictionary.erase OrderBookLevel.price change.price target
  else Dictionary.insert OrderBookLevel.price (changedLevel change) target

/-- The two dictionaries of a projection. -/
structure Sides where
  bidsByPrice : List OrderBookLevel
  asksByPrice : List OrderBookLevel

def applyChange (sides : Sides) (change : OrderBookDeltaLevel) : Sides :=
  match change.side with
  | .buy => { sides with bidsByPrice := applyToTarget sides.bidsByPrice change }
  | .sell => { sides with asksByPrice := applyToTarget sides.asksByPrice change }

def sortedBids (levels : List OrderBookLevel) : List OrderBookLevel :=
  sortByKey (fun level => OrderDual.toDual level.price) levels

def sortedAsks (levels : List OrderBookLevel) : List OrderBookLevel :=
  sortByKey OrderBookLevel.price levels

def projectedSides (snapshot : OrderBookSnapshot) (delta : OrderBookDelta) : Sides :=
  delta.changes.foldl applyChange ⟨levelsByPrice snapshot.bids, levelsByPrice snapshot.asks⟩

def applyOrderBookDelta (snapshotReason : String) (snapshot : OrderBookSnapshot) (delta : OrderBookDelta) :
    Result OrderBookSnapshot := do
  validateSnapshot snapshot
  validateLineage snapshot delta
  validateSequence snapshot delta
  validateSnapshotReason snapshotReason
  let sides := projectedSides snapshot delta
  snapshot.create (if delta.sequence ≠ none then delta.sequence else snapshot.sequence) delta.exchangeOccurredAt
    delta.receivedAt (sortedBids sides.bidsByPrice) (sortedAsks sides.asksByPrice) true snapshotReason

def applyOrderBookDeltas (snapshotReason : String) (snapshot : OrderBookSnapshot)
    (deltas : List OrderBookDelta) : Result OrderBookSnapshot :=
  deltas.foldlM (applyOrderBookDelta snapshotReason) snapshot

/-! ## One change -/

/-- The dictionary of one side. -/
def Sides.levels (sides : Sides) : Side → List OrderBookLevel
  | .buy => sides.bidsByPrice
  | .sell => sides.asksByPrice

/-- What a change leaves at its price. -/
def levelAfter (change : OrderBookDeltaLevel) : Option OrderBookLevel :=
  if Removes change then none else some (changedLevel change)

theorem lookup_applyToTarget (target : List OrderBookLevel) (change : OrderBookDeltaLevel) (price : ℚ) :
    Dictionary.lookup OrderBookLevel.price price (applyToTarget target change) =
      if change.price = price then levelAfter change
      else Dictionary.lookup OrderBookLevel.price price target := by
  unfold applyToTarget levelAfter
  by_cases hremoves : Removes change
  · rw [if_pos hremoves, if_pos hremoves, Dictionary.lookup_erase]
    by_cases hprice : change.price = price
    · rw [if_pos hprice.symm, if_pos hprice]
    · rw [if_neg (Ne.symm hprice), if_neg hprice]
  · rw [if_neg hremoves, if_neg hremoves, Dictionary.lookup_insert]
    rfl

theorem lookup_applyChange (sides : Sides) (change : OrderBookDeltaLevel) (side : Side) (price : ℚ) :
    Dictionary.lookup OrderBookLevel.price price ((applyChange sides change).levels side) =
      if change.side = side ∧ change.price = price then levelAfter change
      else Dictionary.lookup OrderBookLevel.price price (sides.levels side) := by
  have htarget := lookup_applyToTarget (sides.levels side) change price
  unfold applyChange
  cases hside : change.side <;> cases side
  · simp only [true_and]; exact htarget
  · exact (if_neg fun h => absurd h.1 (by decide)).symm
  · exact (if_neg fun h => absurd h.1 (by decide)).symm
  · simp only [true_and]; exact htarget

theorem uniqueKeys_applyToTarget {target : List OrderBookLevel} (change : OrderBookDeltaLevel)
    (h : Dictionary.UniqueKeys OrderBookLevel.price target) :
    Dictionary.UniqueKeys OrderBookLevel.price (applyToTarget target change) := by
  unfold applyToTarget
  split_ifs with hremoves
  · exact h.erase change.price
  · exact h.insert (changedLevel change)

theorem uniqueKeys_applyChange {sides : Sides} (change : OrderBookDeltaLevel)
    (h : ∀ side, Dictionary.UniqueKeys OrderBookLevel.price (sides.levels side)) (side : Side) :
    Dictionary.UniqueKeys OrderBookLevel.price ((applyChange sides change).levels side) := by
  unfold applyChange
  cases change.side <;> cases side
  · exact uniqueKeys_applyToTarget change (h .buy)
  · exact h .sell
  · exact h .buy
  · exact uniqueKeys_applyToTarget change (h .sell)

/-! ## All changes of a delta -/

/-- The last change that touches a price of a side. -/
def lastChange (side : Side) (price : ℚ) (changes : List OrderBookDeltaLevel) : Option OrderBookDeltaLevel :=
  (changes.filter fun change => change.side = side ∧ change.price = price).getLast?

theorem lastChange_append (side : Side) (price : ℚ) (xs ys : List OrderBookDeltaLevel) :
    lastChange side price (xs ++ ys) = (lastChange side price ys).or (lastChange side price xs) := by
  rw [lastChange, List.filter_append, List.getLast?_append]
  rfl

/-- The level at a price after changes, from the level before them. -/
def levelAfterChanges (side : Side) (price : ℚ) (changes : List OrderBookDeltaLevel)
    (before : Option OrderBookLevel) : Option OrderBookLevel :=
  (lastChange side price changes).elim before levelAfter

theorem levelAfterChanges_append (side : Side) (price : ℚ) (xs ys : List OrderBookDeltaLevel)
    (before : Option OrderBookLevel) :
    levelAfterChanges side price (xs ++ ys) before
      = levelAfterChanges side price ys (levelAfterChanges side price xs before) := by
  unfold levelAfterChanges
  rw [lastChange_append]
  cases lastChange side price ys <;> rfl

theorem lookup_foldl_applyChange (changes : List OrderBookDeltaLevel) (sides : Sides) (side : Side) (price : ℚ) :
    Dictionary.lookup OrderBookLevel.price price ((changes.foldl applyChange sides).levels side) =
      levelAfterChanges side price changes (Dictionary.lookup OrderBookLevel.price price (sides.levels side)) := by
  induction changes generalizing sides with
  | nil => rfl
  | cons change changes ih =>
      rw [List.foldl_cons, ih, lookup_applyChange, ← List.singleton_append, levelAfterChanges_append]
      congr 1
      unfold levelAfterChanges lastChange
      by_cases htouched : change.side = side ∧ change.price = price
      · rw [if_pos htouched, List.filter_singleton, decide_eq_true htouched]
        rfl
      · rw [if_neg htouched, List.filter_singleton, decide_eq_false htouched]
        rfl

theorem uniqueKeys_foldl_applyChange (changes : List OrderBookDeltaLevel) {sides : Sides}
    (h : ∀ side, Dictionary.UniqueKeys OrderBookLevel.price (sides.levels side)) (side : Side) :
    Dictionary.UniqueKeys OrderBookLevel.price ((changes.foldl applyChange sides).levels side) := by
  induction changes generalizing sides with
  | nil => exact h side
  | cons change changes ih => exact ih (uniqueKeys_applyChange change h)

/-! ## The rebuilt snapshot -/

theorem sortedBids_descending {levels : List OrderBookLevel}
    (h : Dictionary.UniqueKeys OrderBookLevel.price levels) :
    StrictlyDescending ((sortedBids levels).map OrderBookLevel.price) := by
  have hunique : (sortedBids levels).Pairwise fun a b => a.price ≠ b.price :=
    h.perm (sortByKey_perm _ _).symm
  refine (List.pairwise_map.mpr ?_).isChain
  refine (pairwise_sortByKey (fun level => OrderDual.toDual level.price) levels).imp₂ ?_ hunique
  intro a b hle hne
  exact lt_of_le_of_ne (OrderDual.toDual_le_toDual.mp hle) hne.symm

theorem sortedAsks_ascending {levels : List OrderBookLevel}
    (h : Dictionary.UniqueKeys OrderBookLevel.price levels) :
    StrictlyAscending ((sortedAsks levels).map OrderBookLevel.price) := by
  have hunique : (sortedAsks levels).Pairwise fun a b => a.price ≠ b.price :=
    h.perm (sortByKey_perm _ _).symm
  refine (List.pairwise_map.mpr ?_).isChain
  refine (pairwise_sortByKey OrderBookLevel.price levels).imp₂ ?_ hunique
  intro a b hle hne
  exact lt_of_le_of_ne hle hne

/-- The level of a snapshot at a price. -/
def level (snapshot : OrderBookSnapshot) (side : Side) (price : ℚ) : Option OrderBookLevel :=
  Dictionary.lookup OrderBookLevel.price price (snapshot.levels side)

theorem levels_initialSides (snapshot : OrderBookSnapshot) (side : Side) :
    (Sides.mk (levelsByPrice snapshot.bids) (levelsByPrice snapshot.asks)).levels side = snapshot.levels side := by
  cases side with
  | buy => exact Dictionary.ofList_eq (snapshot.uniqueKeys_levels .buy)
  | sell => exact Dictionary.ofList_eq (snapshot.uniqueKeys_levels .sell)

theorem uniqueKeys_projectedSides (snapshot : OrderBookSnapshot) (delta : OrderBookDelta) (side : Side) :
    Dictionary.UniqueKeys OrderBookLevel.price ((projectedSides snapshot delta).levels side) := by
  refine uniqueKeys_foldl_applyChange delta.changes (fun side => ?_) side
  rw [levels_initialSides]
  exact snapshot.uniqueKeys_levels side

theorem lookup_projectedSides (snapshot : OrderBookSnapshot) (delta : OrderBookDelta) (side : Side) (price : ℚ) :
    Dictionary.lookup OrderBookLevel.price price ((projectedSides snapshot delta).levels side) =
      levelAfterChanges side price delta.changes (level snapshot side price) := by
  rw [projectedSides, lookup_foldl_applyChange, levels_initialSides]
  rfl

end OrderBook
end Pmrp
