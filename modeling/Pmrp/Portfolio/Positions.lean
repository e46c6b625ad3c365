import Pmrp.Schemas.Orders
import Pmrp.Schemas.Portfolio

/-!
# `Portfolio.Positions` — projecting a fill onto a position

`portfolio/positions.py`: `apply_fill_to_position` and its weighted-average core. Every arithmetic
operation goes through the decimal context `ctx`; comparisons and the builtin `min`/`max` do not round.
The first half is the code, the second half is what it returns, one lemma per branch.
-/

namespace Pmrp

def weightedAverageCostMethod : String := "weighted_average_cost_v1"
def unrealizedPnlPolicy : String := "reset_to_zero_pending_mark_v1"

structure PositionProjectionResult where
  position : Position
  realizedTradingPnl : Money
  fee : Money
  rebate : Money
  tradeNotional : Money
  closedQuantity : ℚ
  openedQuantity : ℚ
  closedCostBasis : Money
  closedTradeValue : Money
  openedNotional : Money
  accountingMethod : String := weightedAverageCostMethod
  unrealizedPnlPolicy : String := Pmrp.unrealizedPnlPolicy
  deriving DecidableEq

structure WeightedAverageProjection where
  quantity : ℚ
  averageEntryPrice : Option ℚ
  realizedTradingPnl : ℚ
  closedQuantity : ℚ
  openedQuantity : ℚ
  closedCostBasis : ℚ
  closedTradeValue : ℚ
  openedNotional : ℚ
  deriving DecidableEq

namespace Positions

variable (ctx : DecimalContext) (sha : Sha256)

/-! ## Directions -/

def sign (value : ℚ) : Result ℚ :=
  if 0 < value then .ok 1
  else if value < 0 then .ok (-1)
  else .error (portfolioProjectionError "zero does not have a position direction")

def sameDirection (left right : ℚ) : Result Bool := do
  let l ← sign left
  let r ← sign right
  pure (l = r)

def signedFillQuantity (fill : Fill) : ℚ :=
  if fill.side = .buy then fill.quantity else ctx.neg fill.quantity

/-! ## The weighted-average core -/

def applyWeightedAverageFill (existingQuantity : ℚ) (existingAverage : Option ℚ) (fill : Fill) :
    Result WeightedAverageProjection := do
  let fillQuantity := signedFillQuantity ctx fill
  let projectedQuantity := ctx.add existingQuantity fillQuantity
  if existingQuantity = 0 then
    let openedQuantity := ctx.abs fillQuantity
    return {
      quantity := projectedQuantity, averageEntryPrice := some fill.price, realizedTradingPnl := 0,
      closedQuantity := 0, openedQuantity, closedCostBasis := 0, closedTradeValue := 0,
      openedNotional := ctx.mul openedQuantity fill.price }
  match existingAverage with
  | none => throw (portfolioProjectionError "nonzero existing position requires average_entry_price")
  | some existingAverage =>
      if ← sameDirection existingQuantity fillQuantity then
        let projectedAverage :=
          ctx.div
            (ctx.add (ctx.mul (ctx.abs existingQuantity) existingAverage)
              (ctx.mul (ctx.abs fillQuantity) fill.price))
            (ctx.abs projectedQuantity)
        let openedQuantity := ctx.abs fillQuantity
        return {
          quantity := projectedQuantity, averageEntryPrice := some projectedAverage,
          realizedTradingPnl := 0, closedQuantity := 0, openedQuantity, closedCostBasis := 0,
          closedTradeValue := 0, openedNotional := ctx.mul openedQuantity fill.price }
      let closedQuantity := min (ctx.abs existingQuantity) (ctx.abs fillQuantity)
      let realizedIncrement :=
        ctx.mul (ctx.mul closedQuantity (ctx.sub fill.price existingAverage)) (← sign existingQuantity)
      let openedQuantity := max (ctx.sub (ctx.abs fillQuantity) (ctx.abs existingQuantity)) 0
      let closedCostBasis := ctx.mul closedQuantity existingAverage
      let closedTradeValue := ctx.mul closedQuantity fill.price
      let openedNotional := ctx.mul openedQuantity fill.price
      if projectedQuantity = 0 then
        return {
          quantity := projectedQuantity, averageEntryPrice := none,
          realizedTradingPnl := realizedIncrement, closedQuantity, openedQuantity, closedCostBasis,
          closedTradeValue, openedNotional }
      if ← sameDirection existingQuantity projectedQuantity then
        return {
          quantity := projectedQuantity, averageEntryPrice := some existingAverage,
          realizedTradingPnl := realizedIncrement, closedQuantity, openedQuantity, closedCostBasis,
          closedTradeValue, openedNotional }
      return {
        quantity := projectedQuantity, averageEntryPrice := some fill.price,
        realizedTradingPnl := realizedIncrement, closedQuantity, openedQuantity, closedCostBasis,
        closedTradeValue, openedNotional }

/-! ## Validation of the inputs -/

def validateMoney (money : Money) (currency : Currency) (fieldName : String) : Result Unit :=
  raiseIf (money.currency ≠ currency)
    (portfolioProjectionError s!"{fieldName} currency must match projection currency")

def fillMoney (money : Option Money) (currency : Currency) (fieldName : String) : Result Money :=
  match money with
  | none => .ok (zeroMoney currency)
  | some money => do
      validateMoney money currency fieldName
      raiseIf (money.amount < 0) (portfolioProjectionError s!"{fieldName} amount must be nonnegative")
      pure money

def validateExistingPosition (position : Position) (fill : Fill) (currency : Currency)
    (positionId : Option PositionId) : Result Unit := do
  raiseIf (∃ i ∈ positionId, position.positionId ≠ i)
    (portfolioProjectionError "position_id does not match existing position")
  raiseIf (position.exchange ≠ fill.exchange)
    (portfolioProjectionError "fill exchange does not match position exchange")
  raiseIf (position.accountId ≠ fill.accountId)
    (portfolioProjectionError "fill account_id does not match position account_id")
  raiseIf (position.marketId ≠ fill.marketId)
    (portfolioProjectionError "fill market_id does not match position market_id")
  raiseIf (position.contractId ≠ fill.contractId)
    (portfolioProjectionError "fill contract_id does not match position contract_id")
  raiseIf (position.outcomeId ≠ fill.outcomeId)
    (portfolioProjectionError "fill outcome_id does not match position outcome_id")
  raiseIf (position.quantity = 0 ∧ position.averageEntryPrice ≠ none)
    (portfolioProjectionError "flat existing position must not have average_entry_price")
  raiseIf (position.quantity ≠ 0 ∧ position.averageEntryPrice = none)
    (portfolioProjectionError "nonzero existing position requires average_entry_price")
  validateMoney position.realizedPnl currency "realized_pnl"
  validateMoney position.unrealizedPnl currency "unrealized_pnl"
  validateMoney position.feesPaid currency "fees_paid"
  validateMoney position.rebatesReceived currency "rebates_received"

def validateFillOrder (existingLastUpdatedAt : UTCDateTime) (fill : Fill) : Result Unit :=
  raiseIf (fill.exchangeOccurredAt < existingLastUpdatedAt)
    (portfolioProjectionError "fill exchange_occurred_at is older than the position update horizon")

def derivePositionId (fill : Fill) : Result PositionId :=
  Identifier.parse "PositionId" "pos_" <|
    "pos_" ++ shortDigest sha (.mapping [
      ("account_id", .str fill.accountId.val),
      ("contract_id", .str fill.contractId.val),
      ("exchange", .str fill.exchange),
      ("market_id", .str fill.marketId.val),
      ("outcome_id", .str fill.outcomeId.val),
      ("schema", .str "pmrp.position_identity.v1")])

/-! ## The projection -/

def projectOpenedAt (existingQuantity projectedQuantity : ℚ) (existingOpenedAt : Option UTCDateTime)
    (fill : Fill) : Result (Option UTCDateTime) := do
  if projectedQuantity = 0 then return none
  match existingOpenedAt with
  | none => return some fill.exchangeOccurredAt
  | some existingOpenedAt =>
      if existingQuantity = 0 then return some fill.exchangeOccurredAt
      if ← sameDirection existingQuantity projectedQuantity then
        return some (min existingOpenedAt fill.exchangeOccurredAt)
      return some fill.exchangeOccurredAt

def projectUpdatedAt (existingLastUpdatedAt : Option UTCDateTime) (fill : Fill) : UTCDateTime :=
  match existingLastUpdatedAt with
  | none => fill.exchangeOccurredAt
  | some t => max t fill.exchangeOccurredAt

/-- The locals that `apply_fill_to_position` reads off the existing position. -/
structure Existing where
  positionId : PositionId
  quantity : ℚ
  average : Option ℚ
  realized : Money
  fees : Money
  rebates : Money
  openedAt : Option UTCDateTime
  lastUpdatedAt : Option UTCDateTime
  version : ℕ

def Existing.ofPosition (position : Position) : Existing where
  positionId := position.positionId
  quantity := position.quantity
  average := position.averageEntryPrice
  realized := position.realizedPnl
  fees := position.feesPaid
  rebates := position.rebatesReceived
  openedAt := position.openedAt
  lastUpdatedAt := some position.lastUpdatedAt
  version := position.aggregateVersion

def Existing.new (positionId : PositionId) (currency : Currency) : Existing where
  positionId := positionId
  quantity := 0
  average := none
  realized := zeroMoney currency
  fees := zeroMoney currency
  rebates := zeroMoney currency
  openedAt := none
  lastUpdatedAt := none
  version := 0

/-- The `if position is None` statement. -/
def readExisting (position : Option Position) (fill : Fill) (currency : Currency)
    (positionId : Option PositionId) : Result Existing :=
  match position with
  | none => do
      let resolvedPositionId ← positionId.elim (derivePositionId sha fill) .ok
      pure (.new resolvedPositionId currency)
  | some position => do
      validateExistingPosition position fill currency positionId
      validateFillOrder position.lastUpdatedAt fill
      pure (.ofPosition position)

/-- The `Position` the projection asks for, before its validators run. -/
def projectedPosition (existing : Existing) (projection : WeightedAverageProjection)
    (openedAt : Option UTCDateTime) (fill : Fill) (fee rebate : Money) (currency : Currency) :
    Position where
  positionId := existing.positionId
  exchange := fill.exchange
  accountId := fill.accountId
  marketId := fill.marketId
  contractId := fill.contractId
  outcomeId := fill.outcomeId
  quantity := projection.quantity
  averageEntryPrice := projection.averageEntryPrice
  realizedPnl := ⟨ctx.add existing.realized.amount projection.realizedTradingPnl, currency⟩
  unrealizedPnl := zeroMoney currency
  feesPaid := ⟨ctx.add existing.fees.amount fee.amount, currency⟩
  rebatesReceived := ⟨ctx.add existing.rebates.amount rebate.amount, currency⟩
  openedAt := openedAt
  lastUpdatedAt := projectUpdatedAt existing.lastUpdatedAt fill
  aggregateVersion := existing.version + 1

def projectionResult (position : Position) (projection : WeightedAverageProjection) (fill : Fill)
    (fee rebate : Money) (currency : Currency) : PositionProjectionResult where
  position := position
  realizedTradingPnl := ⟨projection.realizedTradingPnl, currency⟩
  fee := fee
  rebate := rebate
  tradeNotional := ⟨ctx.mul fill.quantity fill.price, currency⟩
  closedQuantity := projection.closedQuantity
  openedQuantity := projection.openedQuantity
  closedCostBasis := ⟨projection.closedCostBasis, currency⟩
  closedTradeValue := ⟨projection.closedTradeValue, currency⟩
  openedNotional := ⟨projection.openedNotional, currency⟩

def applyFillToPosition (position : Option Position) (fill : Fill) (currency : String)
    (positionId : Option PositionId) : Result PositionProjectionResult := do
  let validatedCurrency ← validateCurrency currency
  let fee ← fillMoney fill.fee validatedCurrency "fee"
  let rebate ← fillMoney fill.rebate validatedCurrency "rebate"
  let existing ← readExisting sha position fill validatedCurrency positionId
  let projection ← applyWeightedAverageFill ctx existing.quantity existing.average fill
  let openedAt ← projectOpenedAt existing.quantity projection.quantity existing.openedAt fill
  let projected ←
    (projectedPosition ctx existing projection openedAt fill fee rebate validatedCurrency).validate
  pure (projectionResult ctx projected projection fill fee rebate validatedCurrency)

/-! ## Directions, read back -/

variable {ctx sha}

theorem sign_eq {value : ℚ} (h : value ≠ 0) : sign value = .ok (if 0 < value then 1 else -1) := by
  rcases lt_or_gt_of_ne h with h | h
  · rw [sign, if_neg (not_lt.mpr h.le), if_pos h, if_neg (not_lt.mpr h.le)]
  · rw [sign, if_pos h, if_pos h]

theorem sameDirection_eq {left right : ℚ} (hl : left ≠ 0) (hr : right ≠ 0) :
    sameDirection left right = .ok (decide (0 < left * right)) := by
  have h1 : ¬(1 : ℚ) = -1 := by norm_num
  have h2 : ¬(-1 : ℚ) = 1 := by norm_num
  simp only [sameDirection, sign_eq hl, sign_eq hr, ok_bind]
  rcases lt_or_gt_of_ne hl with hl | hl <;> rcases lt_or_gt_of_ne hr with hr | hr
  · simp [hl.not_gt, hr.not_gt, mul_pos_of_neg_of_neg hl hr]
  · simp [hl.not_gt, hr, h2]
  · simp [hl, hr.not_gt, h1]
  · simp [hl, hr]

theorem signedFillQuantity_pos {fill : Fill} (h : fill.side = .buy) :
    0 < signedFillQuantity ctx fill := by
  rw [signedFillQuantity, if_pos h]; exact fill.quantity_pos

theorem signedFillQuantity_sell {fill : Fill} (h : fill.side = .sell) :
    signedFillQuantity ctx fill = -ctx.round fill.quantity := by
  rw [signedFillQuantity, if_neg (by rw [h]; decide), DecimalContext.neg, ctx.round_neg]

theorem signedFillQuantity_neg {fill : Fill} (hkept : 0 < ctx.round fill.quantity) (h : fill.side = .sell) :
    signedFillQuantity ctx fill < 0 := by
  rw [signedFillQuantity_sell h]
  exact neg_neg_of_pos hkept

theorem signedFillQuantity_ne_zero {fill : Fill} (hkept : 0 < ctx.round fill.quantity) :
    signedFillQuantity ctx fill ≠ 0 := by
  cases h : fill.side with
  | buy => exact (signedFillQuantity_pos h).ne'
  | sell => exact (signedFillQuantity_neg hkept h).ne

/-- The magnitude of the signed quantity is the fill's quantity, rounded once. -/
theorem abs_signedFillQuantity (fill : Fill) :
    ctx.abs (signedFillQuantity ctx fill) = ctx.round fill.quantity := by
  have hq := fill.quantity_pos
  cases h : fill.side with
  | buy => rw [DecimalContext.abs, abs_of_pos (signedFillQuantity_pos h), signedFillQuantity, if_pos h]
  | sell =>
      rw [signedFillQuantity_sell h, DecimalContext.abs, abs_neg,
        abs_of_nonneg (DecimalContext.round_nonneg hq.le), ctx.round_round]

/-- The signed quantity is not rounded to zero where the quantity is not. -/
theorem round_signedFillQuantity_ne_zero {fill : Fill} (hkept : 0 < ctx.round fill.quantity) :
    ctx.round (signedFillQuantity ctx fill) ≠ 0 := by
  cases h : fill.side with
  | buy =>
      rw [signedFillQuantity, if_pos h]
      exact hkept.ne'
  | sell =>
      rw [signedFillQuantity_sell h, ctx.round_neg, ctx.round_round]
      exact (neg_neg_of_pos hkept).ne

/-! ## The weighted-average core, one lemma per branch -/

section Branches

variable {Q a : ℚ} {fill : Fill}

/-- From flat, the fill opens the position at its price. -/
theorem applyWeightedAverageFill_open (average : Option ℚ) :
    applyWeightedAverageFill ctx 0 average fill = .ok {
      quantity := ctx.add 0 (signedFillQuantity ctx fill), averageEntryPrice := some fill.price,
      realizedTradingPnl := 0, closedQuantity := 0,
      openedQuantity := ctx.abs (signedFillQuantity ctx fill), closedCostBasis := 0,
      closedTradeValue := 0,
      openedNotional := ctx.mul (ctx.abs (signedFillQuantity ctx fill)) fill.price } := by
  unfold applyWeightedAverageFill; rfl

/-- A fill in the direction of the position re-averages it. -/
theorem applyWeightedAverageFill_add (hdir : 0 < Q * signedFillQuantity ctx fill) :
    applyWeightedAverageFill ctx Q (some a) fill = .ok {
      quantity := ctx.add Q (signedFillQuantity ctx fill),
      averageEntryPrice := some (ctx.div
        (ctx.add (ctx.mul (ctx.abs Q) a) (ctx.mul (ctx.abs (signedFillQuantity ctx fill)) fill.price))
        (ctx.abs (ctx.add Q (signedFillQuantity ctx fill)))),
      realizedTradingPnl := 0, closedQuantity := 0,
      openedQuantity := ctx.abs (signedFillQuantity ctx fill), closedCostBasis := 0,
      closedTradeValue := 0,
      openedNotional := ctx.mul (ctx.abs (signedFillQuantity ctx fill)) fill.price } := by
  have hQ : Q ≠ 0 := left_ne_zero_of_mul hdir.ne'
  simp only [applyWeightedAverageFill, if_neg hQ,
    sameDirection_eq hQ (right_ne_zero_of_mul hdir.ne'), ok_bind, hdir, decide_true, if_true]
  rfl

/-- A fill against the position closes what it can at the average and opens the rest at its price. -/
theorem applyWeightedAverageFill_close (hdir : Q * signedFillQuantity ctx fill < 0) :
    applyWeightedAverageFill ctx Q (some a) fill = .ok {
      quantity := ctx.add Q (signedFillQuantity ctx fill),
      averageEntryPrice :=
        if ctx.add Q (signedFillQuantity ctx fill) = 0 then none
        else if 0 < Q * ctx.add Q (signedFillQuantity ctx fill) then some a
        else some fill.price,
      realizedTradingPnl :=
        ctx.mul
          (ctx.mul (min (ctx.abs Q) (ctx.abs (signedFillQuantity ctx fill))) (ctx.sub fill.price a))
          (if 0 < Q then 1 else -1),
      closedQuantity := min (ctx.abs Q) (ctx.abs (signedFillQuantity ctx fill)),
      openedQuantity := max (ctx.sub (ctx.abs (signedFillQuantity ctx fill)) (ctx.abs Q)) 0,
      closedCostBasis := ctx.mul (min (ctx.abs Q) (ctx.abs (signedFillQuantity ctx fill))) a,
      closedTradeValue :=
        ctx.mul (min (ctx.abs Q) (ctx.abs (signedFillQuantity ctx fill))) fill.price,
      openedNotional :=
        ctx.mul (max (ctx.sub (ctx.abs (signedFillQuantity ctx fill)) (ctx.abs Q)) 0) fill.price } := by
  have hQ : Q ≠ 0 := left_ne_zero_of_mul hdir.ne
  simp only [applyWeightedAverageFill, if_neg hQ,
    sameDirection_eq hQ (right_ne_zero_of_mul hdir.ne), sign_eq hQ, ok_bind,
    not_lt.mpr hdir.le, decide_false, Bool.false_eq_true, if_false]
  by_cases hP : ctx.add Q (signedFillQuantity ctx fill) = 0
  · simp only [if_pos hP]; rfl
  · simp only [if_neg hP, sameDirection_eq hQ hP, ok_bind]
    by_cases hside : 0 < Q * ctx.add Q (signedFillQuantity ctx fill)
    · simp only [hside, decide_true, if_true]; rfl
    · simp only [hside, decide_false, Bool.false_eq_true, if_false]; rfl

/-- A position that is flat exactly when it has no average is projected, unless the fill is too small to be kept. -/
theorem applyWeightedAverageFill_ok {average : Option ℚ} (hkept : 0 < ctx.round fill.quantity)
    (hflat : average = none ↔ Q = 0)
    (hnn : ∀ x ∈ average, 0 ≤ x) :
    ∃ w, applyWeightedAverageFill ctx Q average fill = .ok w ∧
      w.quantity = ctx.add Q (signedFillQuantity ctx fill) ∧
      (w.averageEntryPrice = none ↔ w.quantity = 0) ∧ ∀ x ∈ w.averageEntryPrice, 0 ≤ x := by
  have hs := signedFillQuantity_ne_zero hkept
  cases average with
  | none =>
      obtain rfl : Q = 0 := hflat.mp rfl
      refine ⟨_, applyWeightedAverageFill_open none, rfl, ?_, ?_⟩
      · simp [DecimalContext.add, round_signedFillQuantity_ne_zero hkept]
      · rintro x ⟨⟩; exact fill.price_nonneg
  | some a =>
      have hQ : Q ≠ 0 := fun h => Option.some_ne_none a (hflat.mpr h)
      have ha : 0 ≤ a := hnn a rfl
      rcases lt_or_gt_of_ne (mul_ne_zero hQ hs) with hdir | hdir
      · refine ⟨_, applyWeightedAverageFill_close hdir, rfl, ?_, ?_⟩
        · dsimp only; split_ifs with h1 h2 <;> simp [h1]
        · dsimp only; split_ifs with h1 h2
          · simp
          · rintro x ⟨⟩; exact ha
          · rintro x ⟨⟩; exact fill.price_nonneg
      · refine ⟨_, applyWeightedAverageFill_add hdir, rfl, ?_, ?_⟩
        · -- the sum is no smaller than the fill, which rounding keeps
          have hsigned := round_signedFillQuantity_ne_zero hkept
          have hne : ctx.round (Q + signedFillQuantity ctx fill) ≠ 0 := by
            rcases mul_pos_iff.mp hdir with ⟨h1, h2⟩ | ⟨h1, h2⟩
            · have hpos := (DecimalContext.round_nonneg h2.le).lt_of_ne' hsigned
              exact (hpos.trans_le (ctx.round_mono (le_add_of_nonneg_left h1.le))).ne'
            · have hneg := (DecimalContext.round_nonpos h2.le).lt_of_ne hsigned
              exact ((ctx.round_mono (add_le_of_nonpos_left h1.le)).trans_lt hneg).ne
          simp [DecimalContext.add, hne]
        · rintro x ⟨⟩
          refine DecimalContext.round_nonneg (div_nonneg (DecimalContext.round_nonneg (add_nonneg ?_ ?_))
            (DecimalContext.round_nonneg (abs_nonneg _))) <;>
          refine DecimalContext.round_nonneg (mul_nonneg ?_ ?_)
          exacts [DecimalContext.round_nonneg (abs_nonneg _), ha,
            DecimalContext.round_nonneg (abs_nonneg _), fill.price_nonneg]

end Branches

/-- The opening time is absent exactly from a flat position and never lies after the fill. -/
theorem projectOpenedAt_ok (Q P : ℚ) (openedAt : Option UTCDateTime) (fill : Fill) :
    ∃ o, projectOpenedAt Q P openedAt fill = .ok o ∧ (o = none ↔ P = 0) ∧
      ∀ t ∈ o, t ≤ fill.exchangeOccurredAt := by
  by_cases hP : P = 0
  · exact ⟨none, by simp only [projectOpenedAt, if_pos hP]; rfl, by simp [hP], by simp⟩
  · have hnew : ∃ o, (.ok (some fill.exchangeOccurredAt) : Result (Option UTCDateTime)) = .ok o ∧
        (o = none ↔ P = 0) ∧ ∀ t ∈ o, t ≤ fill.exchangeOccurredAt :=
      ⟨_, rfl, by simp [hP], by simp⟩
    simp only [projectOpenedAt, if_neg hP]
    cases openedAt with
    | none => exact hnew
    | some t =>
        by_cases hQ : Q = 0
        · simp only [if_pos hQ]; exact hnew
        · simp only [if_neg hQ, sameDirection_eq hQ hP, ok_bind]
          by_cases hside : 0 < Q * P
          · simp only [hside, decide_true, if_true]
            exact ⟨_, rfl, by simp [hP], by rintro x ⟨⟩; exact min_le_right _ _⟩
          · simp only [hside, decide_false, Bool.false_eq_true, if_false]; exact hnew

/-! ## The whole projection -/

/-- What `derive_position_id` identifies a position by. -/
structure PositionIdentity where
  exchange : String
  accountId : AccountId
  marketId : MarketId
  contractId : ContractId
  outcomeId : OutcomeId
  deriving DecidableEq

def fillIdentity (f : Fill) : PositionIdentity :=
  ⟨f.exchange, f.accountId, f.marketId, f.contractId, f.outcomeId⟩

def positionIdentity (p : Position) : PositionIdentity :=
  ⟨p.exchange, p.accountId, p.marketId, p.contractId, p.outcomeId⟩

/-- A fee or rebate the projection accepts: absent, or a nonnegative amount of the currency. -/
def ChargeIn (currency : Currency) (charge : Option Money) : Prop :=
  ∀ m ∈ charge, m.currency = currency ∧ 0 ≤ m.amount

/-- A fill of one identity whose fee and rebate are in one currency. -/
structure FillOf (k : PositionIdentity) (c : Currency) (f : Fill) : Prop where
  identity : fillIdentity f = k
  fee : ChargeIn c f.fee
  rebate : ChargeIn c f.rebate

/-- A position that fills of identity `k` and currency `c` can be applied to. -/
structure Carries (k : PositionIdentity) (c : Currency) (p : Position) : Prop where
  identity : positionIdentity p = k
  realized_currency : p.realizedPnl.currency = c
  unrealized_currency : p.unrealizedPnl.currency = c
  fees_currency : p.feesPaid.currency = c
  rebates_currency : p.rebatesReceived.currency = c
  flat_iff : p.averageEntryPrice = none ↔ p.quantity = 0
  closed_iff : p.openedAt = none ↔ p.quantity = 0
  valid : p.Valid

/-- The existing state a call reads: that of the position, or a fresh one. -/
def Reads (c : Currency) (positionId : Option PositionId) (position : Option Position)
    (e : Existing) : Prop :=
  match position with
  | none => e = .new e.positionId c ∧ ∀ i ∈ positionId, e.positionId = i
  | some p => e = .ofPosition p

theorem fillMoney_ok {c : Currency} {charge : Option Money} (h : ChargeIn c charge) (name : String) :
    fillMoney charge c name = .ok (charge.getD (zeroMoney c)) := by
  cases charge with
  | none => rfl
  | some m =>
      obtain ⟨hc, hnn⟩ := h m rfl
      simp only [fillMoney, validateMoney]
      rw [raiseIf_bind_of_not (by simpa using hc), raiseIf_bind_of_not (not_lt.mpr hnn)]; rfl

theorem ChargeIn.getD {c : Currency} {charge : Option Money} (h : ChargeIn c charge) :
    (charge.getD (zeroMoney c)).currency = c ∧ 0 ≤ (charge.getD (zeroMoney c)).amount ∧
      (charge.getD (zeroMoney c)).amount = optionalAmount charge := by
  cases charge with
  | none => exact ⟨rfl, le_rfl, rfl⟩
  | some m => exact ⟨(h m rfl).1, (h m rfl).2, rfl⟩

variable (sha) in
theorem derivePositionId_ok (fill : Fill) : ∃ i, derivePositionId sha fill = .ok i := by
  have h := isIdentifier_shortDigest sha "pos" (by decide) (by decide) (.mapping [
      ("account_id", .str fill.accountId.val), ("contract_id", .str fill.contractId.val),
      ("exchange", .str fill.exchange), ("market_id", .str fill.marketId.val),
      ("outcome_id", .str fill.outcomeId.val), ("schema", .str "pmrp.position_identity.v1")])
  exact ⟨_, Identifier.parse_of_valid "PositionId" h⟩

section Step

variable {k : PositionIdentity} {c : Currency} {fill : Fill} {position : Option Position}
  {positionId : Option PositionId}

variable (sha) in
/-- A position of the fill's identity, currency and time passes every check of the projection. -/
theorem readExisting_ok (hf : FillOf k c fill) (hp : ∀ p ∈ position, Carries k c p ∧
      p.lastUpdatedAt ≤ fill.exchangeOccurredAt ∧ ∀ i ∈ positionId, p.positionId = i) :
    ∃ e, readExisting sha position fill c positionId = .ok e ∧ Reads c positionId position e := by
  cases position with
  | none =>
      obtain ⟨i, hi⟩ : ∃ i, positionId.elim (derivePositionId sha fill) .ok = .ok i ∧
          ∀ j ∈ positionId, i = j := by
        cases positionId with
        | none =>
            obtain ⟨i, hi⟩ := derivePositionId_ok sha fill
            exact ⟨i, by rw [Option.elim_none]; exact hi, by simp⟩
        | some j => exact ⟨j, by rw [Option.elim_some], by rintro x ⟨⟩; rfl⟩
      refine ⟨.new i c, ?_, rfl, hi.2⟩
      simp only [readExisting, hi.1, ok_bind]; rfl
  | some p =>
      obtain ⟨hc, hlast, hid⟩ := hp p rfl
      have hk := hc.identity.trans hf.identity.symm
      simp only [positionIdentity, fillIdentity, PositionIdentity.mk.injEq] at hk
      obtain ⟨h1, h2, h3, h4, h5⟩ := hk
      have hids : ¬∃ i ∈ positionId, p.positionId ≠ i := by
        rintro ⟨i, hi, hne⟩; exact hne (hid i hi)
      have hflat : ¬(p.quantity = 0 ∧ p.averageEntryPrice ≠ none) :=
        fun h => h.2 (hc.flat_iff.mpr h.1)
      have hopen : ¬(p.quantity ≠ 0 ∧ p.averageEntryPrice = none) :=
        fun h => h.1 (hc.flat_iff.mp h.2)
      refine ⟨.ofPosition p, ?_, rfl⟩
      simp only [readExisting, validateExistingPosition, validateMoney, validateFillOrder, bind_eq_ok,
        raiseIf_eq_ok, exists_const, pure_eq_ok]
      exact ⟨⟨hids, not_not.mpr h1, not_not.mpr h2, not_not.mpr h3, not_not.mpr h4, not_not.mpr h5,
        hflat, hopen, not_not.mpr hc.realized_currency, not_not.mpr hc.unrealized_currency,
        not_not.mpr hc.fees_currency, not_not.mpr hc.rebates_currency⟩, not_lt.mpr hlast, trivial⟩

/-- The existing state is flat exactly when it has no average, and its average is a price. -/
theorem Reads.flat_iff {e : Existing} (h : Reads c positionId position e)
    (hp : ∀ p ∈ position, Carries k c p) :
    (e.average = none ↔ e.quantity = 0) ∧ ∀ a ∈ e.average, 0 ≤ a := by
  cases position with
  | none => rw [h.1]; exact ⟨by simp [Existing.new], by simp [Existing.new]⟩
  | some p =>
      obtain rfl : e = .ofPosition p := h
      exact ⟨(hp p rfl).flat_iff, (hp p rfl).valid.average_nonneg⟩

variable (ctx sha) in
/-- **A fill of the position's identity, currency and time is projected.** The result is assembled from
    the weighted-average projection `w` of the existing state `e`, and the new position takes the next
    fill. -/
theorem applyFillToPosition_ok (hf : FillOf k c fill) (hkept : 0 < ctx.round fill.quantity)
    (hp : ∀ p ∈ position, Carries k c p ∧
      p.lastUpdatedAt ≤ fill.exchangeOccurredAt ∧ ∀ i ∈ positionId, p.positionId = i) :
    ∃ e w o, Reads c positionId position e ∧
      applyWeightedAverageFill ctx e.quantity e.average fill = .ok w ∧
      applyFillToPosition ctx sha position fill c.code positionId = .ok (projectionResult ctx
        (projectedPosition ctx e w o fill (fill.fee.getD (zeroMoney c)) (fill.rebate.getD (zeroMoney c)) c)
        w fill (fill.fee.getD (zeroMoney c)) (fill.rebate.getD (zeroMoney c)) c) ∧
      w.quantity = ctx.add e.quantity (signedFillQuantity ctx fill) ∧
      Carries k c (projectedPosition ctx e w o fill (fill.fee.getD (zeroMoney c))
        (fill.rebate.getD (zeroMoney c)) c) ∧
      projectUpdatedAt e.lastUpdatedAt fill = fill.exchangeOccurredAt ∧
      ∀ i ∈ positionId, e.positionId = i := by
  obtain ⟨e, he, hreads⟩ := readExisting_ok sha hf hp
  obtain ⟨hflat, hnn⟩ := hreads.flat_iff fun p h => (hp p h).1
  -- what the existing state contributes, whether it is fresh or read off a position
  obtain ⟨hfees, hrebates, hlast, hid⟩ : 0 ≤ e.fees.amount ∧ 0 ≤ e.rebates.amount ∧
      (∀ t ∈ e.lastUpdatedAt, t ≤ fill.exchangeOccurredAt) ∧ ∀ i ∈ positionId, e.positionId = i := by
    cases position with
    | none =>
        obtain ⟨hnew, hid⟩ := hreads
        rw [hnew]
        exact ⟨le_rfl, le_rfl, by simp [Existing.new], hid⟩
    | some p =>
        obtain rfl : e = .ofPosition p := hreads
        obtain ⟨hc, hlast, hid⟩ := hp p rfl
        exact ⟨hc.valid.fees_nonneg, hc.valid.rebates_nonneg, by rintro t ⟨⟩; exact hlast, hid⟩
  obtain ⟨w, hw, hwq, hwflat, hwnn⟩ := applyWeightedAverageFill_ok hkept hflat hnn
  obtain ⟨o, ho, hoflat, hole⟩ := projectOpenedAt_ok e.quantity w.quantity e.openedAt fill
  have hupdated : projectUpdatedAt e.lastUpdatedAt fill = fill.exchangeOccurredAt := by
    cases hl : e.lastUpdatedAt with
    | none => rfl
    | some t => exact max_eq_right (hlast t hl)
  obtain ⟨hfc, hfnn, -⟩ := hf.fee.getD
  obtain ⟨hrc, hrnn, -⟩ := hf.rebate.getD
  have hcarries : Carries k c (projectedPosition ctx e w o fill (fill.fee.getD (zeroMoney c))
      (fill.rebate.getD (zeroMoney c)) c) :=
    { identity := hf.identity
      realized_currency := rfl
      unrealized_currency := rfl
      fees_currency := rfl
      rebates_currency := rfl
      flat_iff := hwflat
      closed_iff := hoflat
      valid :=
        { exchange_within := fill.exchange_within
          average_nonneg := hwnn
          opened_le_updated := fun t ht => (hole t ht).trans_eq hupdated.symm
          fees_nonneg := DecimalContext.round_nonneg (add_nonneg hfees hfnn)
          rebates_nonneg := DecimalContext.round_nonneg (add_nonneg hrebates hrnn) } }
  refine ⟨e, w, o, hreads, hw, ?_, hwq, hcarries, hupdated, hid⟩
  simp only [applyFillToPosition, validateCurrency_code, fillMoney_ok hf.fee, fillMoney_ok hf.rebate, he,
    hw, ho, hcarries.valid.validate, ok_bind]
  rfl

end Step

/-! ## What a call that returned has done -/

theorem applyWeightedAverageFill_quantity {Q : ℚ} {average : Option ℚ} {fill : Fill}
    {w : WeightedAverageProjection} (h : applyWeightedAverageFill ctx Q average fill = .ok w) :
    w.quantity = ctx.add Q (signedFillQuantity ctx fill) := by
  by_cases hQ : Q = 0
  · subst hQ
    rw [applyWeightedAverageFill_open] at h
    cases h
    rfl
  cases average with
  | none =>
      rw [applyWeightedAverageFill] at h
      simp only [if_neg hQ] at h
      cases h
  | some a =>
      rcases lt_trichotomy (Q * signedFillQuantity ctx fill) 0 with hdir | hdir | hdir
      · rw [applyWeightedAverageFill_close hdir] at h
        cases h
        rfl
      · -- the sign of a quantity that was rounded to zero is refused
        have hzero : signedFillQuantity ctx fill = 0 := (mul_eq_zero.mp hdir).resolve_left hQ
        simp only [applyWeightedAverageFill, if_neg hQ, sameDirection, sign_eq hQ, ok_bind, hzero] at h
        cases h
      · rw [applyWeightedAverageFill_add hdir] at h
        cases h
        rfl

theorem fillMoney_amount {charge : Option Money} {c : Currency} {name : String} {m : Money}
    (h : fillMoney charge c name = .ok m) : m.amount = optionalAmount charge := by
  cases charge with
  | none =>
      cases h
      rfl
  | some charge =>
      simp only [fillMoney, validateMoney, bind_eq_ok, raiseIf_eq_ok, exists_const, pure_eq_ok] at h
      obtain ⟨-, -, rfl⟩ := h
      rfl

/-- A projection of a position adds the fill to its quantity, fees and rebates and takes the next version. -/
theorem applyFillToPosition_some {p : Position} {fill : Fill} {currency : String}
    {positionId : Option PositionId} {r : PositionProjectionResult}
    (h : applyFillToPosition ctx sha (some p) fill currency positionId = .ok r) :
    r.position.positionId = p.positionId ∧ r.position.aggregateVersion = p.aggregateVersion + 1 ∧
      r.position.quantity = ctx.add p.quantity (signedFillQuantity ctx fill) ∧
      r.position.feesPaid.amount = ctx.add p.feesPaid.amount (optionalAmount fill.fee) ∧
      r.position.rebatesReceived.amount = ctx.add p.rebatesReceived.amount (optionalAmount fill.rebate) := by
  simp only [applyFillToPosition, readExisting, bind_eq_ok, pure_eq_ok] at h
  obtain ⟨c, -, fee, hfee, rebate, hrebate, e, ⟨-, -, -, -, rfl⟩, w, hw, o, -, q, hq, rfl⟩ := h
  obtain ⟨-, rfl⟩ := Position.validate_eq_ok.mp hq
  refine ⟨rfl, rfl, applyWeightedAverageFill_quantity hw, ?_, ?_⟩
  · show ctx.add p.feesPaid.amount fee.amount = _
    rw [fillMoney_amount hfee]
  · show ctx.add p.rebatesReceived.amount rebate.amount = _
    rw [fillMoney_amount hrebate]

/-! ## Runs of fills -/

/-- Valid fills of one identity and currency, in the order they occurred. -/
structure FillSequence (k : PositionIdentity) (c : Currency) (fills : List Fill) : Prop where
  each : ∀ f ∈ fills, FillOf k c f
  ordered : fills.Pairwise fun f g => f.exchangeOccurredAt ≤ g.exchangeOccurredAt

/-- A position, or none yet, that the fills `rest` can still be applied to. -/
structure Pending (k : PositionIdentity) (c : Currency) (positionId : Option PositionId)
    (position : Option Position) (rest : List Fill) : Prop where
  fills : FillSequence k c rest
  carries : ∀ p ∈ position, Carries k c p
  id : ∀ p ∈ position, ∀ i ∈ positionId, p.positionId = i
  after : ∀ p ∈ position, ∀ f ∈ rest, p.lastUpdatedAt ≤ f.exchangeOccurredAt

namespace Pending

variable {k : PositionIdentity} {c : Currency} {positionId : Option PositionId}
  {position : Option Position} {f : Fill} {rest : List Fill}

theorem start (h : FillSequence k c rest) : Pending k c positionId none rest :=
  ⟨h, by simp, by simp, by simp⟩

theorem head (h : Pending k c positionId position (f :: rest)) : FillOf k c f :=
  h.fills.each f List.mem_cons_self

theorem existing (h : Pending k c positionId position (f :: rest)) : ∀ p ∈ position, Carries k c p ∧
    p.lastUpdatedAt ≤ f.exchangeOccurredAt ∧ ∀ i ∈ positionId, p.positionId = i :=
  fun p hp => ⟨h.carries p hp, h.after p hp f List.mem_cons_self, h.id p hp⟩

/-- The projected position waits for the fills after this one. -/
theorem next (h : Pending k c positionId position (f :: rest)) {p : Position} (hp : Carries k c p)
    (hlast : p.lastUpdatedAt = f.exchangeOccurredAt) (hid : ∀ i ∈ positionId, p.positionId = i) :
    Pending k c positionId (some p) rest := by
  obtain ⟨hord, hrest⟩ := List.pairwise_cons.mp h.fills.ordered
  refine ⟨⟨fun g hg => h.fills.each g (List.mem_cons_of_mem f hg), hrest⟩, ?_, ?_, ?_⟩ <;> rintro q ⟨⟩
  · exact hp
  · exact hid
  · exact fun g hg => hlast.trans_le (hord g hg)

end Pending

end Positions
end Pmrp
