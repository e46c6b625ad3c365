import Pmrp.Lib.AverageCost
import Pmrp.Portfolio.Positions

/-!
# `Correctness.CashFlow` — what a run of fills leaves behind, in exact arithmetic

With decimals taken as rationals the projection is the weighted-average inventory of `Lib.AverageCost`.
`applyWeightedAverageFill_exact` is that refinement for one fill; `applyFills_conserves` follows a whole
run of fills from no position and reads every field of the result back from the fills.
-/

namespace Pmrp
namespace Positions

open AverageCost DecimalContext

variable {sha : Sha256}

/-! ## One fill is one trade -/

/-- The signed quantity of a fill: bought positive, sold negative. -/
def signedQuantity (f : Fill) : ℚ := if f.side = .buy then f.quantity else -f.quantity

def tradeOf (f : Fill) : AverageCost.Trade ℚ := ⟨signedQuantity f, f.price⟩

theorem signedFillQuantity_exact (f : Fill) : signedFillQuantity exact f = signedQuantity f := by
  rw [signedFillQuantity, signedQuantity, exact_neg]

/-- A quantity and its optional average, as an inventory with `r` realized. -/
def inventory (Q : ℚ) (average : Option ℚ) (r : ℚ) : Inventory ℚ := ⟨Q, average.getD 0, r⟩

/-- The projection `w` of a fill is the trade `t` applied to the inventory `i`. -/
structure Refines (i : Inventory ℚ) (t : AverageCost.Trade ℚ) (w : WeightedAverageProjection) : Prop where
  quantity : w.quantity = (i.apply t).quantity
  average : w.averageEntryPrice.getD 0 = (i.apply t).average
  realized : i.realized + w.realizedTradingPnl = (i.apply t).realized
  closedQuantity : w.closedQuantity = i.closed t
  openedQuantity : w.openedQuantity = i.opened t
  closedCostBasis : w.closedCostBasis = i.closed t * i.average
  closedTradeValue : w.closedTradeValue = i.closed t * t.price
  openedNotional : w.openedNotional = i.opened t * t.price

/-- **Refinement.** In exact arithmetic the projection of a fill is one step of the inventory. -/
theorem applyWeightedAverageFill_exact {Q r : ℚ} {average : Option ℚ} {f : Fill}
    {w : WeightedAverageProjection} (hflat : average = none ↔ Q = 0)
    (hw : applyWeightedAverageFill exact Q average f = .ok w) :
    Refines (inventory Q average r) (tradeOf f) w := by
  have hs : signedQuantity f ≠ 0 := by
    rw [← signedFillQuantity_exact]; exact signedFillQuantity_ne_zero f.quantity_pos
  cases average with
  | none =>
      -- a flat position: the whole fill is opened
      obtain rfl : Q = 0 := hflat.mp rfl
      rw [applyWeightedAverageFill_open] at hw
      obtain rfl := Except.ok.inj hw
      constructor <;>
        simp [inventory, tradeOf, Inventory.apply, Inventory.closed, Inventory.opened,
          signedFillQuantity_exact, hs]
  | some a =>
      have hQ : Q ≠ 0 := fun h => Option.some_ne_none a (hflat.mpr h)
      rcases lt_or_gt_of_ne (mul_ne_zero hQ hs) with hdir | hdir
      · -- against the position: the direction of the trade is opposite to that of the position
        rw [applyWeightedAverageFill_close (by rwa [signedFillQuantity_exact])] at hw
        obtain rfl := Except.ok.inj hw
        have hopened : max (|signedQuantity f| - |Q|) 0
            = |signedQuantity f| - min |Q| |signedQuantity f| := by
          rcases le_total |Q| |signedQuantity f| with h | h
          · rw [min_eq_left h, max_eq_left (sub_nonneg.mpr h)]
          · rw [min_eq_right h, max_eq_right (sub_nonpos.mpr h), sub_self]
        have hsign : (if 0 < Q then (1 : ℚ) else -1) = -(tradeOf f).dir := by
          rcases mul_neg_iff.mp hdir with ⟨h1, h2⟩ | ⟨h1, h2⟩
          · rw [if_pos h1, AverageCost.Trade.dir, tradeOf, if_neg (not_lt.mpr h2.le), neg_neg]
          · rw [if_neg (not_lt.mpr h1.le), AverageCost.Trade.dir, tradeOf, if_pos h2]
        constructor <;>
          simp only [inventory, tradeOf, Inventory.apply, Inventory.closed, Inventory.opened,
            signedFillQuantity_exact, exact_add, exact_mul, exact_sub, exact_abs, hopened, hdir, if_true,
            Option.getD_some, hdir.not_gt, if_false]
        · by_cases hflat : Q + signedQuantity f = 0
          · rw [if_pos hflat, if_pos hflat]; rfl
          · by_cases hside : 0 < Q * (Q + signedQuantity f)
            · rw [if_neg hflat, if_neg hflat, if_pos hside]; exact (if_pos hside).symm
            · rw [if_neg hflat, if_neg hflat, if_neg hside]; exact (if_neg hside).symm
        · rw [hsign]; simp only [tradeOf]; ring
      · rw [applyWeightedAverageFill_add (by rwa [signedFillQuantity_exact])] at hw
        obtain rfl := Except.ok.inj hw
        -- both have one sign, so their sum is not zero
        have hsum : Q + signedQuantity f ≠ 0 := by
          rcases mul_pos_iff.mp hdir with ⟨h1, h2⟩ | ⟨h1, h2⟩
          · exact (add_pos h1 h2).ne'
          · exact (add_neg h1 h2).ne
        constructor <;>
          simp [inventory, tradeOf, Inventory.apply, Inventory.closed, Inventory.opened,
            signedFillQuantity_exact, not_lt.mpr (le_of_lt hdir), hsum, show 0 < Q * signedQuantity f from hdir]

/-! ## A run of fills -/

/-- One step of the fold: the position after a fill. -/
def positionAfter (ctx : DecimalContext) (sha : Sha256) (currency : String)
    (positionId : Option PositionId) (position : Option Position) (fill : Fill) :
    Result (Option Position) := do
  let result ← applyFillToPosition ctx sha position fill currency positionId
  pure (some result.position)

/-- `apply_fill_to_position` folded over the fills, from no position. -/
def applyFills (ctx : DecimalContext) (sha : Sha256) (currency : String)
    (positionId : Option PositionId) (fills : List Fill) : Result (Option Position) :=
  fills.foldlM (positionAfter ctx sha currency positionId) none

def netQuantity (fills : List Fill) : ℚ := (fills.map signedQuantity).sum

/-- Cash received less cash paid for the fills themselves, charges apart. -/
def tradeCash (fills : List Fill) : ℚ := (fills.map fun f => -(signedQuantity f * f.price)).sum

def totalFees (fills : List Fill) : ℚ := (fills.map fun f => optionalAmount f.fee).sum
def totalRebates (fills : List Fill) : ℚ := (fills.map fun f => optionalAmount f.rebate).sum

/-- The fills since the running quantity was last zero or last changed sign. -/
def fillsSinceOpened (fills : List Fill) : List Fill :=
  (fills.foldl (fun (s : ℚ × List Fill) f =>
    (s.1 + signedQuantity f, nextEpoch s.1 (signedQuantity f) s.2 f)) (0, [])).2

theorem fillsSinceOpened_append (fills : List Fill) (f : Fill) :
    fillsSinceOpened (fills ++ [f])
      = nextEpoch (netQuantity fills) (signedQuantity f) (fillsSinceOpened fills) f := by
  have hnet : ∀ (gs : List Fill) (s : ℚ × List Fill), (gs.foldl (fun (s : ℚ × List Fill) f =>
      (s.1 + signedQuantity f, nextEpoch s.1 (signedQuantity f) s.2 f)) s).1
        = s.1 + netQuantity gs := by
    intro gs
    induction gs with
    | nil => intro s; simp [netQuantity]
    | cons g gs ih => intro s; rw [List.foldl_cons, ih]; simp [netQuantity, add_assoc]
  rw [fillsSinceOpened, List.foldl_append, List.foldl_cons, List.foldl_nil, hnet, zero_add]
  rfl

/-- The position is what the fills add up to. -/
structure Summarizes (fills : List Fill) (p : Position) : Prop where
  quantity : p.quantity = netQuantity fills
  realized : p.realizedPnl.amount = tradeCash fills + p.quantity * p.averageEntryPrice.getD 0
  average_none_iff : p.averageEntryPrice = none ↔ p.quantity = 0
  opened_none_iff : p.openedAt = none ↔ p.quantity = 0
  average_between : ∀ a ∈ p.averageEntryPrice, Between ((fillsSinceOpened fills).map Fill.price) a
  fees : p.feesPaid.amount = totalFees fills
  rebates : p.rebatesReceived.amount = totalRebates fills
  version : p.aggregateVersion = fills.length

/-- `Summarizes` of a position, or of none before the first fill. -/
def Summary (fills : List Fill) (position : Option Position) : Prop :=
  (position = none ↔ fills = []) ∧ ∀ p ∈ position, Summarizes fills p

section Run

variable {k : PositionIdentity} {c : Currency} {positionId : Option PositionId}
  {position : Option Position} {f : Fill} {done rest : List Fill}

variable (sha) in
/-- **One fill.** A position that summarizes the fills so far summarizes them with one more. -/
theorem positionAfter_summary (hsum : Summary done position)
    (h : Pending k c positionId position (f :: rest)) :
    ∃ p, positionAfter exact sha c.code positionId position f = .ok (some p) ∧
      Summary (done ++ [f]) (some p) ∧ Pending k c positionId (some p) rest := by
  obtain ⟨e, w, o, hreads, hw, hok, -, hcarries, hlast, hid⟩ :=
    applyFillToPosition_ok exact sha h.head f.quantity_pos h.existing
  -- the existing state summarizes the fills so far, fresh or not
  obtain ⟨hflat, hq, hr, hbetween, hfees, hrebates, hversion⟩ :
      (e.average = none ↔ e.quantity = 0) ∧ e.quantity = netQuantity done ∧
        e.realized.amount = tradeCash done + e.quantity * e.average.getD 0 ∧
        (e.quantity ≠ 0 → Between ((fillsSinceOpened done).map Fill.price) (e.average.getD 0)) ∧
        e.fees.amount = totalFees done ∧ e.rebates.amount = totalRebates done ∧
        e.version = done.length := by
    cases position with
    | none =>
        obtain rfl : done = [] := hsum.1.mp rfl
        rw [hreads.1]
        simp [Existing.new, netQuantity, tradeCash, totalFees, totalRebates]
    | some p =>
        obtain rfl : e = .ofPosition p := hreads
        have hp := hsum.2 p rfl
        refine ⟨hp.average_none_iff, hp.quantity, hp.realized, fun hne => ?_, hp.fees, hp.rebates,
          hp.version⟩
        obtain ⟨a, ha⟩ := Option.ne_none_iff_exists'.mp fun hn => hne (hp.average_none_iff.mp hn)
        show Between _ (p.averageEntryPrice.getD 0)
        rw [ha]; exact hp.average_between a ha
  have href := applyWeightedAverageFill_exact (r := e.realized.amount) hflat hw
  have hcash := Inventory.apply_realized_sub_cost (inventory e.quantity e.average e.realized.amount)
    (tradeOf f)
  have havg := href.average
  refine ⟨_, by rw [positionAfter, hok]; rfl, ⟨by simp, ?_⟩, h.next hcarries hlast hid⟩
  rintro p ⟨⟩
  refine
    { quantity := ?_, realized := ?_, average_none_iff := hcarries.flat_iff,
      opened_none_iff := hcarries.closed_iff, average_between := ?_, fees := ?_, rebates := ?_,
      version := ?_ }
  · show w.quantity = _
    rw [href.quantity]; simp [inventory, tradeOf, hq, netQuantity]
  · show e.realized.amount + w.realizedTradingPnl = _ + w.quantity * w.averageEntryPrice.getD 0
    have hstep := href.realized
    simp only [inventory] at hstep hcash
    rw [hstep, href.quantity, havg, ← sub_eq_iff_eq_add]
    show _ - Inventory.cost _ = _
    simp only [inventory]
    rw [hcash, hr]; simp [Inventory.cost, tradeOf, tradeCash]; ring
  · intro a ha
    have hopen : w.quantity ≠ 0 := fun h0 => by
      have hn := hcarries.flat_iff.mpr h0
      rw [hn] at ha; cases ha
    rw [fillsSinceOpened_append, map_nextEpoch, ← hq]
    have hb := Between.apply (i := inventory e.quantity e.average e.realized.amount) (t := tradeOf f)
      hbetween (by rw [← href.quantity]; exact hopen)
    rw [← havg, show w.averageEntryPrice = some a from ha] at hb
    exact hb
  · show e.fees.amount + (f.fee.getD (zeroMoney c)).amount = _
    rw [h.head.fee.getD.2.2, hfees]; simp [totalFees]
  · show e.rebates.amount + (f.rebate.getD (zeroMoney c)).amount = _
    rw [h.head.rebate.getD.2.2, hrebates]; simp [totalRebates]
  · show e.version + 1 = _
    rw [hversion, List.length_append, List.length_singleton]

/-- **Cash-flow conservation.** Every sequence of valid fills of one identity and currency is accepted, and
    the position it leaves adds up to the fills: signed quantity, realized profit as cash plus cost, an
    average among the prices since the position was last flat or flipped, charges and version. -/
theorem applyFills_conserves {fills : List Fill} (h : FillSequence k c fills) :
    ∃ position, applyFills exact sha c.code positionId fills = .ok position ∧ Summary fills position := by
  obtain ⟨position, hrun, hsum, -⟩ := foldlM_ok
    (fun done rest position => Summary done position ∧ Pending k c positionId position rest)
    (fun done f rest position ⟨hsum, hp⟩ => by
      obtain ⟨p, hok, hsum', hp'⟩ := positionAfter_summary sha hsum hp
      exact ⟨some p, hok, hsum', hp'⟩)
    ⟨⟨by simp, by simp⟩, Pending.start h⟩
  exact ⟨position, hrun, hsum⟩

end Run

/-! ## A concrete market -/

def usd : Currency := ⟨"USD", by decide⟩

/-- A fill of the concrete market, without charges. -/
def marketFill (fillId : FillId) (side : Side) (price quantity : ℚ) (time : UTCDateTime)
    (price_nonneg : 0 ≤ price) (quantity_pos : 0 < quantity) : Fill where
  fillId := fillId
  exchangeFillId := "x1"
  orderId := ⟨"ord_1", by decide⟩
  clientOrderId := "c1"
  exchange := "kalshi"
  accountId := ⟨"acct_1", by decide⟩
  marketId := ⟨"mkt_1", by decide⟩
  contractId := ⟨"ctr_1", by decide⟩
  outcomeId := ⟨"out_yes", by decide⟩
  side := side
  price := price
  quantity := quantity
  liquidityRole := .taker
  exchangeOccurredAt := time
  receivedAt := time
  exchangeFillId_within := by decide
  exchangeOrderId_within := by simp
  clientOrderId_within := by decide
  exchange_within := by decide
  price_nonneg := price_nonneg
  quantity_pos := quantity_pos
  tradeId_within := by simp

def marketIdentity : PositionIdentity :=
  ⟨"kalshi", ⟨"acct_1", by decide⟩, ⟨"mkt_1", by decide⟩, ⟨"ctr_1", by decide⟩, ⟨"out_yes", by decide⟩⟩

theorem fillOf_marketFill {i : FillId} {s : Side} {p q : ℚ} {t : UTCDateTime} {hp : 0 ≤ p} {hq : 0 < q} :
    FillOf marketIdentity usd (marketFill i s p q t hp hq) :=
  ⟨rfl, by rintro _ ⟨⟩, by rintro _ ⟨⟩⟩

/-- A purchase of 2 at 0.50. -/
def boughtTwo : Fill := marketFill ⟨"fill_1", by decide⟩ .buy (1 / 2) 2 0 (by norm_num) (by norm_num)

/-- A sale of 3 at 0.75, which flips the position left by `boughtTwo`. -/
def soldThree : Fill := marketFill ⟨"fill_2", by decide⟩ .sell (3 / 4) 3 1 (by norm_num) (by norm_num)

def flippingFills : List Fill := [boughtTwo, soldThree]

theorem flippingFills_sequence : FillSequence marketIdentity usd flippingFills where
  each := by
    intro f hf
    simp only [flippingFills, List.mem_cons, List.not_mem_nil, or_false] at hf
    rcases hf with rfl | rfl <;> exact fillOf_marketFill
  ordered := by simp [flippingFills, boughtTwo, soldThree, marketFill]

theorem applyFills_conserves_flip : ∃ position,
    applyFills exact .constant usd.code none flippingFills = .ok position ∧
      Summary flippingFills position :=
  applyFills_conserves flippingFills_sequence

end Positions
end Pmrp
