import Pmrp.Portfolio.Correctness.CashFlow
import Pmrp.Portfolio.TrappedOperations
import Pmrp.Schemas.Correctness.WrittenDecimals

/-!
# `Correctness.FillRounding` — when rounding lets a fill be booked

The projection books realized profit as a rounded `closed * (price - average)`, the journal expects the
rounded `closed * price - closed * average`, and the two must be equal. `BooksExactly` is the relation
between a fill and the position it meets under which they are, and the lines of the entry cancel
(`bookable_of_booksExactly`). It holds where none of the amounts of `EachAmount` has more than 28 digits
(`booksExactly_of_eachAmount`), so a run of such fills is accepted (`fills_accepted_of_written`).
`thirds_refused` is a run that ordinary fills drive out of it.
-/

namespace Pmrp
namespace Projections

open Positions Journal DecimalContext

variable {ctx : DecimalContext} {sha : Sha256}

/-! ## The condition -/

/-- The amounts that a fill makes of its own fields and of the position it meets, where each is to meet `P`: its
    quantity and fee; where it closes some of the position, the difference of the prices and what the closed part is
    worth at either; and where it flips the position, the rest, the notional, what is left of that, and the profit. -/
structure EachAmount (P : ℚ → Prop) (position : Option Position) (fill : Fill) : Prop where
  quantity : P fill.quantity
  fee : P (optionalAmount fill.fee)
  closing : ∀ p ∈ position, ∀ a ∈ p.averageEntryPrice, p.quantity * signedQuantity fill < 0 →
    P (fill.price - a) ∧ P (min |p.quantity| fill.quantity * fill.price) ∧ P (min |p.quantity| fill.quantity * a)
  flipping : ∀ p ∈ position, ∀ a ∈ p.averageEntryPrice, p.quantity * signedQuantity fill < 0 →
    |p.quantity| < fill.quantity →
      P (fill.quantity - |p.quantity|) ∧ P (fill.quantity * fill.price) ∧
        P (fill.quantity * fill.price - |p.quantity| * a) ∧ P (|p.quantity| * (fill.price - a))

/-- Decimal multiplication distributes over this subtraction. -/
def Distributes (ctx : DecimalContext) (closed price average : ℚ) : Prop :=
  ctx.mul closed (ctx.sub price average) = ctx.sub (ctx.mul closed price) (ctx.mul closed average)

/-- A fill of `quantity` that closes `held` and opens the rest: the rest and the notional it takes are what
    is left after the closed part, in the context's arithmetic. -/
structure Splits (ctx : DecimalContext) (held quantity price average : ℚ) : Prop where
  rest : ctx.add held (ctx.sub quantity held) = quantity
  notional : ctx.sub (ctx.sub (ctx.mul quantity price) (ctx.mul held average))
    (ctx.mul held (ctx.sub price average)) = ctx.mul (ctx.sub quantity held) price

/-- What is opened is not rounded to zero: the quantity would be what is held. -/
theorem Splits.opened_pos {held quantity price average : ℚ} (h : Splits ctx held quantity price average)
    (hheld : ctx.Fits held) (hlt : held < quantity) : 0 < ctx.sub quantity held := by
  refine (DecimalContext.sub_nonneg hlt.le).lt_of_ne' fun hzero => ?_
  have hrest := h.rest
  rw [hzero, add, add_zero, show ctx.round held = held from hheld] at hrest
  exact hlt.ne hrest

/-- The fill can be booked on the position without a rounding residue. Quantity and fee are representable;
    where the fill closes part of the position, the arithmetic distributes there, and where it closes all
    of it and opens the rest, it splits. -/
structure BooksExactly (ctx : DecimalContext) (position : Option Position) (fill : Fill) : Prop where
  quantity : ctx.Fits fill.quantity
  fee : ctx.Fits (optionalAmount fill.fee)
  closing : ∀ p ∈ position, ∀ a ∈ p.averageEntryPrice, p.quantity * signedQuantity fill < 0 →
    Distributes ctx (min |p.quantity| fill.quantity) fill.price a ∧
      (|p.quantity| < fill.quantity → Splits ctx |p.quantity| fill.quantity fill.price a)

instance (ctx : DecimalContext) (x : ℚ) : Decidable (ctx.Fits x) := inferInstanceAs (Decidable (_ = _))

/-- Where no product or difference needs rounding, the arithmetic distributes. -/
theorem distributes_of_fits {closed price average : ℚ} (h1 : ctx.Fits (price - average))
    (h2 : ctx.Fits (closed * price)) (h3 : ctx.Fits (closed * average)) :
    Distributes ctx closed price average := by
  unfold Fits at h1 h2 h3
  rw [Distributes, sub, mul, mul, mul, sub, h1, h2, h3, mul_sub]

theorem splits_of_fits {held quantity price average : ℚ} (h1 : ctx.Fits quantity)
    (h2 : ctx.Fits (quantity - held)) (h3 : ctx.Fits (price - average))
    (h4 : ctx.Fits (quantity * price)) (h5 : ctx.Fits (held * average))
    (h6 : ctx.Fits (quantity * price - held * average)) (h7 : ctx.Fits (held * (price - average))) :
    Splits ctx held quantity price average := by
  unfold Fits at h1 h2 h3 h4 h5 h6 h7
  constructor
  · rw [sub, add, h2, add_sub_cancel, h1]
  · simp only [sub, mul, h2, h3, h4, h5, h6, h7]
    congr 1; ring

theorem EachAmount.mono {P P' : ℚ → Prop} {position : Option Position} {fill : Fill} (himp : ∀ x, P x → P' x)
    (h : EachAmount P position fill) : EachAmount P' position fill where
  quantity := himp _ h.quantity
  fee := himp _ h.fee
  closing p hp a ha hopp :=
    let ⟨hdifference, hvalue, hcost⟩ := h.closing p hp a ha hopp
    ⟨himp _ hdifference, himp _ hvalue, himp _ hcost⟩
  flipping p hp a ha hopp hlt :=
    let ⟨hrest, hnotional, hleft, hprofit⟩ := h.flipping p hp a ha hopp hlt
    ⟨himp _ hrest, himp _ hnotional, himp _ hleft, himp _ hprofit⟩

/-- **A fill none of whose amounts is rounded books exactly.** -/
theorem booksExactly_of_eachAmount {position : Option Position} {fill : Fill}
    (h : EachAmount ctx.Fits position fill) : BooksExactly ctx position fill where
  quantity := h.quantity
  fee := h.fee
  closing p hp a ha hopp := by
    obtain ⟨hdifference, hvalue, hcost⟩ := h.closing p hp a ha hopp
    refine ⟨distributes_of_fits hdifference hvalue hcost, fun hlt => ?_⟩
    obtain ⟨hrest, hnotional, hleft, hprofit⟩ := h.flipping p hp a ha hopp hlt
    rw [min_eq_left hlt.le] at hcost
    exact splits_of_fits h.quantity hrest hdifference hnotional hcost hleft hprofit

/-- The default context writes each amount of the fill as it is, and no operation of the call overflows. -/
structure FillWritten (sha : Sha256) (currency : String) (positionId : Option PositionId) (run : FillRun)
    (call : FillCall) : Prop where
  amounts : EachAmount Written run.position call.fill
  inRange : ∀ x ∈ fillResults defaultContext sha currency positionId run call.fill,
    defaultContext.overflows x = false

theorem FillWritten.booksExactly {currency : String} {positionId : Option PositionId} {run : FillRun}
    {call : FillCall} (h : FillWritten sha currency positionId run call) :
    BooksExactly defaultContext run.position call.fill :=
  booksExactly_of_eachAmount (h.amounts.mono fun _ => round_eq_of_written)

/-! ## One fill -/

section Step

variable {k : PositionIdentity} {c : Currency} {fill : Fill} {position : Option Position}
  {positionId : Option PositionId}

/-- The quantity of a position is representable: it is a rounded sum. -/
def QuantityFits (ctx : DecimalContext) (position : Option Position) : Prop :=
  ∀ p ∈ position, ctx.Fits p.quantity

theorem signedFillQuantity_of_fits (h : ctx.Fits fill.quantity) :
    signedFillQuantity ctx fill = signedQuantity fill := by
  rw [signedFillQuantity, signedQuantity, neg, ctx.round_neg, show ctx.round fill.quantity = _ from h]

theorem signedQuantity_eq (fill : Fill) : signedQuantity fill = fillDirection fill * fill.quantity := by
  unfold signedQuantity fillDirection; split_ifs <;> ring

/-- Closing a long position is selling, closing a short one is buying. -/
theorem sign_of_closing {Q : ℚ} (h : Q * signedQuantity fill < 0) :
    (if 0 < Q then (1 : ℚ) else -1) = -fillDirection fill := by
  have hq := fill.quantity_pos
  unfold signedQuantity at h
  unfold fillDirection
  split_ifs at h ⊢ with hQ hbuy hbuy
  · nlinarith
  · rw [neg_neg]
  · rfl
  · nlinarith

theorem fillDirection_mul_of_fits (fill : Fill) {x : ℚ} (h : ctx.Fits x) :
    ctx.mul (fillDirection fill) x = fillDirection fill * x := by
  rw [mul, round_fillDirection_mul, show ctx.round x = x from h]

/-- The first three trade lines of a fill that closes at cost `C` and profit `R` leave what the notional `N` does
    not account for. -/
theorem closing_total (fill : Fill) (N C R : ℚ) (hN : ctx.Fits N) (hC : ctx.Fits C) (hR : ctx.Fits R) :
    ctx.sum [ctx.mul (ctx.neg (fillDirection fill)) N,
        ctx.neg (ctx.mul (ctx.neg (fillDirection fill)) C), ctx.neg (-(fillDirection fill * R))]
      = -(fillDirection fill * ctx.sub (ctx.sub N C) R) := by
  have hround := round_fillDirection_mul ctx fill
  unfold Fits at hN hC hR
  have e1 : ctx.mul (ctx.neg (fillDirection fill)) N = -(fillDirection fill * N) := by
    rw [neg_fillDirection, mul, neg_mul, ctx.round_neg, hround, hN]
  have e2 : ctx.neg (ctx.mul (ctx.neg (fillDirection fill)) C) = fillDirection fill * C := by
    rw [neg_fillDirection, mul, neg_mul, ctx.round_neg, hround, hC, neg, neg_neg, hround, hC]
  have e3 : ctx.neg (-(fillDirection fill * R)) = fillDirection fill * R := by
    rw [neg, neg_neg, hround, hR]
  have a1 : ctx.add 0 (-(fillDirection fill * N)) = -(fillDirection fill * N) := by
    rw [add, zero_add, ctx.round_neg, hround, hN]
  have a2 : ctx.add (-(fillDirection fill * N)) (fillDirection fill * C)
      = -(fillDirection fill * ctx.sub N C) := by
    rw [add, show -(fillDirection fill * N) + fillDirection fill * C
      = -(fillDirection fill * (N - C)) by ring, ctx.round_neg, hround]; rfl
  have a3 : ctx.add (-(fillDirection fill * ctx.sub N C)) (fillDirection fill * R)
      = -(fillDirection fill * ctx.sub (ctx.sub N C) R) := by
    rw [add, show -(fillDirection fill * ctx.sub N C) + fillDirection fill * R
      = -(fillDirection fill * (ctx.sub N C - R)) by ring, ctx.round_neg, hround]; rfl
  rw [e1, e2, e3]
  simp only [sum, List.foldl_cons, List.foldl_nil]
  rw [a1, a2, a3]

/-- What is opened cancels the cash it takes. -/
theorem opening_total (fill : Fill) (N : ℚ) (hN : ctx.Fits N) :
    ctx.sum [ctx.mul (ctx.neg (fillDirection fill)) N, ctx.mul (fillDirection fill) N] = 0 := by
  have hround := round_fillDirection_mul ctx fill
  unfold Fits at hN
  rw [neg_fillDirection, mul, mul, neg_mul, ctx.round_neg, hround, hN]
  simp [sum, add, ctx.round_neg, hround, hN]

section Bookable

variable {Q a : ℚ} {w : WeightedAverageProjection} {p : Position}

/-- What `apply_fill_to_position` returns for the projection `w` and the position `p` it built. -/
def resultOf (ctx : DecimalContext) (p : Position) (w : WeightedAverageProjection) (fill : Fill)
    (c : Currency) : PositionProjectionResult :=
  projectionResult ctx p w fill (fill.fee.getD (zeroMoney c)) (fill.rebate.getD (zeroMoney c)) c

/-- A projection that closes nothing and opens the whole fill is bookable. -/
theorem bookable_of_opening (hq : ctx.Fits fill.quantity) (hp : positionIdentity p = fillIdentity fill)
    (hclosed : w.closedQuantity = 0) (hopened : w.openedQuantity = fill.quantity)
    (hcost : w.closedCostBasis = 0) (hvalue : w.closedTradeValue = 0)
    (hnotional : w.openedNotional = ctx.mul fill.quantity fill.price)
    (hrealized : w.realizedTradingPnl = 0) : Bookable ctx c fill (resultOf ctx p w fill c) := by
  refine
    { identity := hp, tradeNotional := rfl, fee := rfl, rebate := rfl, realized_currency := rfl,
      cost_currency := rfl, closedTradeValue := ?_, openedNotional := ?_, closed_nonneg := hclosed.ge,
      opened_nonneg := fill.quantity_pos.le.trans_eq hopened.symm,
      cost_nonneg := hcost.ge, quantities := ?_, realized := ?_, balanced := ?_ }
  · show (⟨w.closedTradeValue, c⟩ : Money) = ⟨ctx.mul w.closedQuantity fill.price, c⟩
    rw [hvalue, hclosed, DecimalContext.zero_mul]
  · show (⟨w.openedNotional, c⟩ : Money) = ⟨ctx.mul w.openedQuantity fill.price, c⟩
    rw [hnotional, hopened]
  · show ctx.add w.closedQuantity w.openedQuantity = fill.quantity
    rw [hclosed, hopened, add, zero_add]; exact hq
  · show w.realizedTradingPnl = ctx.mul (ctx.sub w.closedTradeValue w.closedCostBasis) _
    rw [hrealized, hvalue, hcost, DecimalContext.sub_self, DecimalContext.zero_mul]
  · show ctx.sum ([ctx.mul _ (ctx.mul fill.quantity fill.price)]
      ++ (if 0 < w.closedQuantity then _ else []) ++ (if 0 < w.openedQuantity then
        [ctx.mul _ w.openedNotional] else [])) = 0
    rw [hclosed, hopened, hnotional, if_neg (lt_irrefl 0), if_pos fill.quantity_pos]
    exact opening_total fill _ (fits_round _)

/-- The profit a closing fill books carries the direction opposite to the fill. -/
theorem mul_neg_fillDirection (x y : ℚ) :
    ctx.mul (ctx.mul x y) (-fillDirection fill) = -(fillDirection fill * ctx.mul x y) := by
  rw [mul, show ctx.mul x y * -fillDirection fill = -(fillDirection fill * ctx.mul x y) by ring,
    ctx.round_neg, round_fillDirection_mul]
  exact congrArg (fun z => -(fillDirection fill * z)) (fits_round (x * y))

/-- A projection that closes `min |Q| quantity` at the average is bookable where the arithmetic distributes
    and, if something is opened, splits. -/
theorem bookable_of_closing (hQ : Q ≠ 0) (hQfits : ctx.Fits Q) (ha : 0 ≤ a) (hq : ctx.Fits fill.quantity)
    (hp : positionIdentity p = fillIdentity fill)
    (hdist : Distributes ctx (min |Q| fill.quantity) fill.price a)
    (hsplit : |Q| < fill.quantity → Splits ctx |Q| fill.quantity fill.price a)
    (hclosed : w.closedQuantity = min |Q| fill.quantity)
    (hopened : w.openedQuantity = max (ctx.sub fill.quantity |Q|) 0)
    (hcost : w.closedCostBasis = ctx.mul (min |Q| fill.quantity) a)
    (hvalue : w.closedTradeValue = ctx.mul (min |Q| fill.quantity) fill.price)
    (hnotional : w.openedNotional = ctx.mul (max (ctx.sub fill.quantity |Q|) 0) fill.price)
    (hrealized : w.realizedTradingPnl
      = ctx.mul (ctx.mul (min |Q| fill.quantity) (ctx.sub fill.price a)) (-fillDirection fill)) :
    Bookable ctx c fill (resultOf ctx p w fill c) := by
  have hcpos : 0 < min |Q| fill.quantity := lt_min (abs_pos.mpr hQ) fill.quantity_pos
  have hfits : ∀ x y : ℚ, ctx.Fits (ctx.mul x y) := fun x y => fits_round (x * y)
  -- one clause for each amount of the journal entry; the balance of the entry comes last
  refine
    { identity := hp, tradeNotional := rfl, fee := rfl, rebate := rfl, realized_currency := rfl,
      cost_currency := rfl, closedTradeValue := ?_, openedNotional := ?_,
      closed_nonneg := hcpos.le.trans_eq hclosed.symm,
      opened_nonneg := (le_max_right _ _).trans_eq hopened.symm,
      cost_nonneg := ?_, quantities := ?_, realized := ?_, balanced := ?_ }
  · show (⟨w.closedTradeValue, c⟩ : Money) = ⟨ctx.mul w.closedQuantity fill.price, c⟩
    rw [hvalue, hclosed]
  · show (⟨w.openedNotional, c⟩ : Money) = ⟨ctx.mul w.openedQuantity fill.price, c⟩
    rw [hnotional, hopened]
  · show 0 ≤ w.closedCostBasis
    rw [hcost]; exact DecimalContext.round_nonneg (mul_nonneg hcpos.le ha)
  · show ctx.add w.closedQuantity w.openedQuantity = fill.quantity
    rw [hclosed, hopened]
    rcases le_or_gt fill.quantity |Q| with hle | hlt
    · rw [min_eq_right hle, max_eq_right (DecimalContext.sub_nonpos hle), add, add_zero]; exact hq
    · rw [min_eq_left hlt.le, max_eq_left (DecimalContext.sub_nonneg hlt.le)]; exact (hsplit hlt).rest
  · show w.realizedTradingPnl = ctx.mul (ctx.sub w.closedTradeValue w.closedCostBasis)
      (ctx.neg (fillDirection fill))
    rw [hrealized, hvalue, hcost, neg_fillDirection, hdist]
  · show ctx.sum ([ctx.mul (ctx.neg (fillDirection fill)) (ctx.mul fill.quantity fill.price)]
      ++ (if 0 < w.closedQuantity then
          [ctx.neg (ctx.mul (ctx.neg (fillDirection fill)) w.closedCostBasis),
            ctx.neg w.realizedTradingPnl] else [])
      ++ (if 0 < w.openedQuantity then [ctx.mul (fillDirection fill) w.openedNotional] else [])) = 0
    rw [hclosed, hopened, hcost, hnotional, hrealized, if_pos hcpos, mul_neg_fillDirection, sum_append,
      List.singleton_append, closing_total fill _ _ _ (hfits _ _) (hfits _ _) (hfits _ _)]
    rcases le_or_gt fill.quantity |Q| with hle | hlt
    · -- everything the fill trades is closed: the notional is the closed value
      rw [min_eq_right hle] at hdist ⊢
      rw [max_eq_right (DecimalContext.sub_nonpos hle), if_neg (lt_irrefl 0), List.foldl_nil, hdist,
        DecimalContext.sub_self, mul_zero, neg_zero]
    · -- what is left of the quantity is not rounded away, or the two parts would not add up to it
      have hopos : 0 < ctx.sub fill.quantity |Q| := (hsplit hlt).opened_pos hQfits.abs hlt
      have hO := hfits (ctx.sub fill.quantity |Q|) fill.price
      rw [min_eq_left hlt.le, max_eq_left hopos.le, if_pos hopos, (hsplit hlt).notional, List.foldl_cons,
        List.foldl_nil, fillDirection_mul_of_fits fill hO, add, neg_add_cancel, DecimalContext.round_zero]

/-- **A fill that books exactly is bookable.** -/
theorem bookable_of_booksExactly {average : Option ℚ} (hflat : average = none ↔ Q = 0)
    (hnn : ∀ a ∈ average, 0 ≤ a) (hQ : ctx.Fits Q) (hq : ctx.Fits fill.quantity)
    (hclosing : ∀ a ∈ average, Q * signedQuantity fill < 0 →
      Distributes ctx (min |Q| fill.quantity) fill.price a ∧
        (|Q| < fill.quantity → Splits ctx |Q| fill.quantity fill.price a))
    (hw : applyWeightedAverageFill ctx Q average fill = .ok w)
    (hp : positionIdentity p = fillIdentity fill) : Bookable ctx c fill (resultOf ctx p w fill c) := by
  have hs : signedFillQuantity ctx fill = signedQuantity fill := signedFillQuantity_of_fits hq
  have habs : ctx.abs (signedFillQuantity ctx fill) = fill.quantity := by
    rw [abs_signedFillQuantity]; exact hq
  cases average with
  | none =>
      obtain rfl : Q = 0 := hflat.mp rfl
      rw [applyWeightedAverageFill_open, habs] at hw
      obtain rfl := Except.ok.inj hw
      exact bookable_of_opening hq hp rfl rfl rfl rfl rfl rfl
  | some a =>
      have hQ0 : Q ≠ 0 := fun h => Option.some_ne_none a (hflat.mpr h)
      rcases lt_or_gt_of_ne (mul_ne_zero hQ0 (signedFillQuantity_ne_zero (hq.symm ▸ fill.quantity_pos)))
        with hdir | hdir
      · have hopp : Q * signedQuantity fill < 0 := by rwa [hs] at hdir
        obtain ⟨hdist, hsplit⟩ := hclosing a rfl hopp
        rw [applyWeightedAverageFill_close hdir, show ctx.abs Q = |Q| from hQ.abs, habs,
          sign_of_closing hopp] at hw
        obtain rfl := Except.ok.inj hw
        exact bookable_of_closing hQ0 hQ (hnn a rfl) hq hp hdist hsplit rfl rfl rfl rfl rfl rfl
      · rw [applyWeightedAverageFill_add hdir, habs] at hw
        obtain rfl := Except.ok.inj hw
        exact bookable_of_opening hq hp rfl rfl rfl rfl rfl rfl

end Bookable

variable (sha) in
/-- **One call.** A fill that books exactly on a position of its identity is applied: the new position, the
    fill's id and one valid journal entry are added. -/
theorem FillRun.step_ok {run : FillRun} {call : FillCall} {rest : List Fill}
    (hp : Pending k c positionId run.position (call.fill :: rest)) (hfits : QuantityFits ctx run.position)
    (hfresh : call.fill.fillId ∉ run.appliedFillIds)
    (hcreated : call.fill.exchangeOccurredAt ≤ call.createdAt)
    (hbooks : BooksExactly ctx run.position call.fill) :
    ∃ e w o p entry, Reads c positionId run.position e ∧
      applyWeightedAverageFill ctx e.quantity e.average call.fill = .ok w ∧
      p = projectedPosition ctx e w o call.fill (call.fill.fee.getD (zeroMoney c))
        (call.fill.rebate.getD (zeroMoney c)) c ∧
      positionAfter ctx sha c.code positionId run.position call.fill = .ok (some p) ∧
      FillRun.step ctx sha c.code positionId run call = .ok
        ⟨some p, insert call.fill.fillId run.appliedFillIds, run.journals ++ [entry]⟩ ∧
      Pending k c positionId (some p) rest ∧ QuantityFits ctx (some p) ∧ entry.Valid ctx ∧
      entry.journalEntryId = deriveFillJournalEntryId sha call.fill ∧
      entry.occurredAt = call.fill.exchangeOccurredAt ∧
      entry.lines = fillJournalLines ctx call.fill (resultOf ctx p w call.fill c) := by
  obtain ⟨e, w, o, hreads, hw, hok, hwq, hcarries, hlast, hid⟩ :=
    applyFillToPosition_ok ctx sha hp.head (hbooks.quantity.symm ▸ call.fill.quantity_pos) hp.existing
  obtain ⟨hflat, hnn⟩ := hreads.flat_iff hp.carries
  -- the existing state, fresh or not, meets the condition on the position
  obtain ⟨hQ, hclosing⟩ : ctx.Fits e.quantity ∧ ∀ a ∈ e.average, e.quantity * signedQuantity call.fill < 0 →
        Distributes ctx (min |e.quantity| call.fill.quantity) call.fill.price a ∧
          (|e.quantity| < call.fill.quantity →
            Splits ctx |e.quantity| call.fill.quantity call.fill.price a) := by
    cases hpos : run.position with
    | none =>
        rw [hpos] at hreads
        rw [hreads.1]
        exact ⟨fits_zero, by simp [Existing.new]⟩
    | some q =>
        rw [hpos] at hreads
        obtain rfl : e = .ofPosition q := hreads
        exact ⟨hfits q hpos, hbooks.closing q hpos⟩
  have hbookable : Bookable ctx c call.fill (resultOf ctx _ w call.fill c) :=
    bookable_of_booksExactly hflat hnn hQ hbooks.quantity hclosing hw
      (hcarries.identity.trans hp.head.identity.symm)
  obtain ⟨entry, hentry, hvalid, hentryId, hoccurred, hlines⟩ :=
    buildFillJournalEntry_ok sha hbookable hp.head.fee hp.head.rebate hbooks.fee call.sourceEventId
      hcreated
  refine ⟨e, w, o, _, entry, hreads, hw, rfl, ?_, ?_, hp.next hcarries hlast hid, ?_, hvalid, hentryId, hoccurred,
    hlines⟩
  · rw [positionAfter, hok]; rfl
  · rw [FillRun.step, applyFillOnce, if_neg hfresh, hok]
    simp only [ok_bind]
    rw [show projectionResult ctx _ w call.fill _ _ c = resultOf ctx _ w call.fill c from rfl, hentry]
    rfl
  · rintro q ⟨⟩
    show ctx.Fits w.quantity
    rw [hwq]; exact fits_round _

end Step

/-! ## A run of fills -/

/-- The calls of a run: valid fills in order, each applied for the first time and recorded after it
    happened. -/
structure CallSequence (k : PositionIdentity) (c : Currency) (calls : List FillCall) : Prop where
  fills : FillSequence k c (calls.map FillCall.fill)
  distinct : (calls.map fun call => call.fill.fillId).Nodup
  created : ∀ call ∈ calls, call.fill.exchangeOccurredAt ≤ call.createdAt

section Run

variable {k : PositionIdentity} {c : Currency} {positionId : Option PositionId}

/-- The run so far: what was applied, and that the rest can still be. -/
structure RunInvariant (ctx : DecimalContext) (k : PositionIdentity) (c : Currency)
    (positionId : Option PositionId) (done rest : List FillCall) (run : FillRun) : Prop where
  pending : Pending k c positionId run.position (rest.map FillCall.fill)
  quantityFits : QuantityFits ctx run.position
  ids : run.appliedFillIds = (done.map fun call => call.fill.fillId).toFinset
  distinct : ((done ++ rest).map fun call => call.fill.fillId).Nodup
  created : ∀ call ∈ rest, call.fill.exchangeOccurredAt ≤ call.createdAt
  count : run.journals.length = done.length
  valid : ∀ entry ∈ run.journals, entry.Valid ctx

theorem RunInvariant.start {calls : List FillCall} (h : CallSequence k c calls) :
    RunInvariant ctx k c positionId [] calls .start where
  pending := Pending.start h.fills
  quantityFits := by rintro p ⟨⟩
  ids := rfl
  distinct := h.distinct
  created := h.created
  count := rfl
  valid := by rintro entry ⟨⟩

/-- The next call was not applied before. -/
theorem RunInvariant.fresh {done rest : List FillCall} {call : FillCall} {run : FillRun}
    (h : RunInvariant ctx k c positionId done (call :: rest) run) :
    call.fill.fillId ∉ run.appliedFillIds := by
  have hd := h.distinct
  rw [List.map_append, List.map_cons] at hd
  rw [h.ids, List.mem_toFinset]
  exact fun hmem => List.disjoint_of_nodup_append hd hmem List.mem_cons_self

/-- The invariant after a call that added one valid journal entry. -/
theorem RunInvariant.next {done rest : List FillCall} {call : FillCall} {run : FillRun} {p : Position}
    {entry : AccountingJournalEntry} (h : RunInvariant ctx k c positionId done (call :: rest) run)
    (hpending : Pending k c positionId (some p) (rest.map FillCall.fill))
    (hfits : QuantityFits ctx (some p)) (hvalid : entry.Valid ctx) :
    RunInvariant ctx k c positionId (done ++ [call]) rest
      ⟨some p, insert call.fill.fillId run.appliedFillIds, run.journals ++ [entry]⟩ where
  pending := hpending
  quantityFits := hfits
  ids := by
    show insert call.fill.fillId run.appliedFillIds = _
    rw [h.ids]; ext i; simp
  distinct := by have hd := h.distinct; rwa [List.append_cons] at hd
  created := fun call' hc => h.created call' (List.mem_cons_of_mem call hc)
  count := by simp [h.count]
  valid := by
    intro e he
    rcases List.mem_append.mp he with he | he
    · exact h.valid e he
    · rw [List.mem_singleton.mp he]; exact hvalid

/-! ## Python's default context -/

/-- **Fills are accepted while nothing is rounded.** Under the default context, a run of valid fills whose amounts on
    the position they meet are written as they are, and which do not overflow, is accepted to its end: every call
    applies its fill and books one valid journal entry. -/
theorem fills_accepted_of_written {calls : List FillCall} (h : CallSequence k c calls)
    (hwritten : StepsMeet (FillRun.trappedStep defaultContext sha c.code positionId)
      (FillWritten sha c.code positionId) .start calls) :
    ∃ run, applyTrappedFillCalls defaultContext sha c.code positionId calls = .ok run ∧
      run.appliedFillIds = (calls.map fun call => call.fill.fillId).toFinset ∧
      run.journals.length = calls.length ∧ ∀ entry ∈ run.journals, entry.Valid defaultContext := by
  obtain ⟨run, hrun, hinv, -⟩ := foldlM_ok
    (fun done rest run => RunInvariant defaultContext k c positionId done rest run ∧
      StepsMeet (FillRun.trappedStep defaultContext sha c.code positionId) (FillWritten sha c.code positionId) run rest)
    (fun done call rest run ⟨hinv, hmeets⟩ => by
      obtain ⟨e, w, o, p, entry, -, -, -, -, hstep, hpending, hfits, hvalid, -⟩ :=
        FillRun.step_ok sha hinv.pending hinv.quantityFits hinv.fresh
          (hinv.created call List.mem_cons_self) hmeets.1.booksExactly
      have htrapped := trappedStep_eq_ok.mpr ⟨fun _ => hmeets.1.inRange, hstep⟩
      exact ⟨_, htrapped, hinv.next hpending hfits hvalid, hmeets.2 _ htrapped⟩)
    ⟨RunInvariant.start h, hwritten⟩
  exact ⟨run, hrun, hinv.ids, hinv.count, hinv.valid⟩

end Run

/-- A call of the concrete market, recorded at time 9. -/
def marketCall (fill : Fill) (sourceEventId : String)
    (valid : IsIdentifier "evt_" sourceEventId := by decide) : FillCall :=
  ⟨fill, ⟨sourceEventId, valid⟩, 9⟩

/-- The flip of `flippingFills`, as calls. -/
def flippingCalls : List FillCall := [marketCall boughtTwo "evt_1", marketCall soldThree "evt_2"]

theorem flippingCalls_sequence : CallSequence marketIdentity usd flippingCalls where
  fills := flippingFills_sequence
  distinct := by decide
  created := by decide

/-- What the second of two calls finds, and whether its operations stay in range. -/
def secondSeen (first second : FillCall) : Result (Option (ℚ × Option ℚ) × Bool) := do
  let run ← FillRun.trappedStep defaultContext .constant usd.code none .start first
  pure (run.position.map fun p => (p.quantity, p.averageEntryPrice),
    (fillResults defaultContext .constant usd.code none run second.fill).all fun x => !defaultContext.overflows x)

theorem fillWritten_second {first second : FillCall} {next : FillRun} {quantity average : ℚ}
    (h : secondSeen first second = .ok (some (quantity, some average), true))
    (hnext : FillRun.trappedStep defaultContext .constant usd.code none .start first = .ok next) :
    (∀ p ∈ next.position, p.quantity = quantity ∧ p.averageEntryPrice = some average) ∧
      ∀ x ∈ fillResults defaultContext .constant usd.code none next second.fill,
        defaultContext.overflows x = false := by
  rw [secondSeen, hnext, ok_bind, pure_eq_ok, Prod.mk.injEq] at h
  obtain ⟨hposition, hrange⟩ := h
  refine ⟨fun p hp => ?_, fun x hx => by simpa using List.all_eq_true.mp hrange x hx⟩
  rw [hp, Option.map_some, Option.some.injEq, Prod.mk.injEq] at hposition
  exact hposition

theorem fills_accepted_of_written_flip : ∃ run,
    applyTrappedFillCalls defaultContext .constant usd.code none flippingCalls = .ok run ∧
      run.appliedFillIds = (flippingCalls.map fun call => call.fill.fillId).toFinset ∧
      run.journals.length = flippingCalls.length ∧ ∀ entry ∈ run.journals, entry.Valid defaultContext := by
  have hcents : ∀ {x : ℚ} (n : ℤ), |n| < 10 ^ 28 → x = n / 10 ^ 2 → Written x := fun n hn hx =>
    written_div n 2 hn (by norm_num) hx
  refine fills_accepted_of_written flippingCalls_sequence ⟨⟨⟨?_, ?_, ?_, ?_⟩, ?_⟩,
      fun next hnext => ⟨?_, fun _ _ => trivial⟩⟩
  · exact hcents 200 (by norm_num) (by norm_num [flippingCalls, marketCall, boughtTwo, marketFill])
  · exact hcents 0 (by norm_num) (by norm_num [flippingCalls, marketCall, boughtTwo, marketFill, optionalAmount])
  · rintro p ⟨⟩
  · rintro p ⟨⟩
  · decide +kernel
  · -- 2 are held at 0.50; 2 of 3 are sold at 0.75, and the third is sold short
    obtain ⟨hposition, hrange⟩ := @fillWritten_second _ (marketCall soldThree "evt_2") next 2 (1 / 2)
      (by decide +kernel) hnext
    refine ⟨⟨?_, ?_, ?_, ?_⟩, hrange⟩
    · exact hcents 300 (by norm_num) (by norm_num [marketCall, soldThree, marketFill])
    · exact hcents 0 (by norm_num) (by norm_num [marketCall, soldThree, marketFill, optionalAmount])
    · intro p hp a ha _
      obtain ⟨hquantity, haverage⟩ := hposition p hp
      rw [haverage] at ha
      cases ha
      rw [hquantity]
      refine ⟨hcents 25 (by norm_num) ?_, hcents 150 (by norm_num) ?_, hcents 100 (by norm_num) ?_⟩
      all_goals norm_num [marketCall, soldThree, marketFill]
    · intro p hp a ha _ _
      obtain ⟨hquantity, haverage⟩ := hposition p hp
      rw [haverage] at ha
      cases ha
      rw [hquantity]
      refine ⟨hcents 100 (by norm_num) ?_, hcents 225 (by norm_num) ?_, hcents 125 (by norm_num) ?_,
        hcents 50 (by norm_num) ?_⟩
      all_goals norm_num [marketCall, soldThree, marketFill]

/-- Purchases of 2 at 0.50 and 4 at 0.25 average to a third; 4 are then sold at 0.50. -/
def thirdsCalls : List FillCall :=
  [marketCall boughtTwo "evt_1",
    marketCall (marketFill ⟨"fill_3", by decide⟩ .buy (1 / 4) 4 1 (by norm_num) (by norm_num)) "evt_2",
    marketCall (marketFill ⟨"fill_4", by decide⟩ .sell (1 / 2) 4 2 boughtTwo.price_nonneg
      (by norm_num)) "evt_3"]

theorem thirdsCalls_sequence : CallSequence marketIdentity usd thirdsCalls where
  fills :=
    { each := by
        intro f hf
        simp only [thirdsCalls, marketCall, List.map_cons, List.map_nil, List.mem_cons, List.not_mem_nil,
          or_false] at hf
        rcases hf with rfl | rfl | rfl <;> exact fillOf_marketFill
      ordered := by decide }
  distinct := by decide
  created := by decide

/-- **The journal refuses the sale.** A third has no decimal expansion, and `4 * (0.50 - average)` and
    `4 * 0.50 - 4 * average` round differently. -/
theorem thirds_refused : CallSequence marketIdentity usd thirdsCalls ∧
    applyTrappedFillCalls defaultContext .constant usd.code none thirdsCalls
      = .error (portfolioProjectionError "projection realized_trading_pnl does not match closed cost basis") :=
  ⟨thirdsCalls_sequence, by decide +kernel⟩

end Projections
end Pmrp
