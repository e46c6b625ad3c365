import Pmrp.Lib.SubsetSums
import Pmrp.Risk.Correctness.Approval

/-!
# `Risk.Correctness.PendingFills` — what the position limit says about orders that may still fill

The rule bounds one number: the position after *all* pending orders and the intent have filled. Which of the
pending orders fill is not known, and orders on opposite sides cancel in that number. `fills_within_iff` says
what follows from passing the rule when any part of the pending orders may fill, and exactly when every part
stays within the limit.
-/

namespace Pmrp
namespace PendingFills

/-! ## Pending orders -/

/-- An open or reserved order of a market. -/
@[ext] structure PendingOrder where
  orderId : OrderId
  side : Side
  quantity : ℚ
  quantity_pos : 0 < quantity

instance : DecidableEq PendingOrder := fun _ _ => decidable_of_iff _ PendingOrder.ext_iff.symm

def PendingOrder.signed (o : PendingOrder) : ℚ :=
  match o.side with
  | .buy => o.quantity
  | .sell => -o.quantity

theorem PendingOrder.signed_pos_iff {o : PendingOrder} : 0 < o.signed ↔ o.side = .buy := by
  have hpos := o.quantity_pos
  unfold signed
  cases o.side with
  | buy => simp [hpos]
  | sell => simp [hpos.le]

theorem PendingOrder.signed_neg_iff {o : PendingOrder} : o.signed < 0 ↔ o.side = .sell := by
  have hpos := o.quantity_pos
  unfold signed
  cases o.side with
  | buy => simp [hpos.le]
  | sell => simp [hpos]

def totalBuys (pending : Finset PendingOrder) : ℚ := ∑ o ∈ pending with o.side = .buy, o.quantity
def totalSells (pending : Finset PendingOrder) : ℚ := ∑ o ∈ pending with o.side = .sell, o.quantity

theorem sum_signed_pos (pending : Finset PendingOrder) :
    ∑ o ∈ pending with 0 < o.signed, o.signed = totalBuys pending := by
  unfold totalBuys
  simp only [PendingOrder.signed_pos_iff]
  refine Finset.sum_congr rfl fun o ho => ?_
  rw [PendingOrder.signed, (Finset.mem_filter.mp ho).2]

theorem sum_signed_neg (pending : Finset PendingOrder) :
    ∑ o ∈ pending with o.signed < 0, o.signed = -totalSells pending := by
  unfold totalSells
  simp only [PendingOrder.signed_neg_iff, ← Finset.sum_neg_distrib]
  refine Finset.sum_congr rfl fun o ho => ?_
  rw [PendingOrder.signed, (Finset.mem_filter.mp ho).2]

/-! ## The position after some fills -/

variable {ctx : DecimalContext} {maxStateAge : Timedelta} {intent : OrderIntent} {context : RiskContext}
variable {state : RiskMarketPositionState} {pending : Finset PendingOrder}

/-- The position once these orders and the intent have filled. -/
def positionAfter (state : RiskMarketPositionState) (intent : OrderIntent)
    (filled : Finset PendingOrder) : ℚ :=
  state.currentPosition + intent.signed + ∑ o ∈ filled, o.signed

/-- The signed quantities of the pending orders make up the deltas of the state. -/
def Accounts (pending : Finset PendingOrder) (state : RiskMarketPositionState) : Prop :=
  ∑ o ∈ pending, o.signed = state.openOrderPositionDelta + state.reservedPositionDelta

/-- None of the sums the rule computes is rounded. -/
structure RoundsNothing (ctx : DecimalContext) (state : RiskMarketPositionState) (intent : OrderIntent) :
    Prop where
  open_fits : ctx.Fits (state.currentPosition + state.openOrderPositionDelta)
  effective_fits : ctx.Fits
    (state.currentPosition + state.openOrderPositionDelta + state.reservedPositionDelta)
  -- only the sign of a sell is computed
  quantity_fits : intent.side = .sell → ctx.Fits intent.quantity
  projected_fits : ctx.Fits
    (state.currentPosition + state.openOrderPositionDelta + state.reservedPositionDelta + intent.signed)

theorem signedQuantity_of_fits (h : intent.side = .sell → ctx.Fits intent.quantity) :
    signedQuantity ctx intent = intent.signed := by
  unfold signedQuantity OrderIntent.signed
  cases hside : intent.side with
  | buy => rfl
  | sell => exact (h hside).neg

/-- Without rounding, the number the rule bounds is the position after everything has filled. -/
theorem RoundsNothing.projected_eq (h : RoundsNothing ctx state intent) (hpending : Accounts pending state) :
    ctx.abs (ctx.add (state.effectivePosition ctx) (signedQuantity ctx intent))
      = |positionAfter state intent pending| := by
  have hopen : ctx.add state.currentPosition state.openOrderPositionDelta
      = state.currentPosition + state.openOrderPositionDelta := h.open_fits
  have heffective : state.effectivePosition ctx
      = state.currentPosition + state.openOrderPositionDelta + state.reservedPositionDelta := by
    rw [RiskMarketPositionState.effectivePosition, hopen]; exact h.effective_fits
  have hprojected : ctx.add (state.effectivePosition ctx) (signedQuantity ctx intent)
      = positionAfter state intent pending := by
    rw [heffective, signedQuantity_of_fits h.quantity_fits, DecimalContext.add, h.projected_fits,
      positionAfter, hpending]
    ring
  have hfits : ctx.Fits (positionAfter state intent pending) := by
    rw [← hprojected]; exact DecimalContext.fits_round _
  rw [hprojected]; exact hfits.abs

/-- **What passing the position limit means for pending orders.** All of them may fill; a part of them
    exceeds the limit by no more than the net quantity left unfilled; and no part exceeds it exactly when the
    limit holds with the pending sales left out and with the pending purchases left out. -/
theorem fills_within_iff (hround : RoundsNothing ctx state intent) (hpending : Accounts pending state)
    (hstate : context.marketPositions intent.marketId = some state)
    (hpasses : (MarketPositionLimitRule.evaluate ctx maxStateAge intent context).passes = true) :
    |positionAfter state intent pending| ≤ state.maxPosition ∧
    (∀ filled ⊆ pending, |positionAfter state intent filled|
      ≤ state.maxPosition + |∑ o ∈ pending \ filled, o.signed|) ∧
    ((∀ filled ⊆ pending, |positionAfter state intent filled| ≤ state.maxPosition) ↔
      state.currentPosition + intent.signed + totalBuys pending ≤ state.maxPosition ∧
      -state.maxPosition ≤ state.currentPosition + intent.signed - totalSells pending) := by
  have hall : |positionAfter state intent pending| ≤ state.maxPosition := by
    obtain ⟨state', hstate', -, hmax⟩ := MarketPositionLimitRule.evaluate_passes.mp hpasses
    obtain rfl : state = state' := by rw [hstate] at hstate'; exact Option.some_inj.mp hstate'
    rwa [hround.projected_eq hpending] at hmax
  refine ⟨hall, fun filled hfilled => abs_add_sum_subset_le hall hfilled, ?_⟩
  have hworst := forall_subset_abs_le_iff (s := pending) (δ := PendingOrder.signed)
    (a := state.currentPosition + intent.signed) (M := state.maxPosition)
  rwa [sum_signed_pos, sum_signed_neg, ← sub_eq_add_neg] at hworst

/-! ## Concrete orders -/

theorem ten_pos : (0 : ℚ) < 10 := by norm_num

open RiskEngine in
/-- A purchase of 10 at 0.50. -/
def quoteTen : OrderIntent := quote ⟨"intent_ten", by decide⟩ .buy 10 (1 / 2) ten_pos half_nonneg

def pendingBuy : PendingOrder := ⟨⟨"ord_buy", by decide⟩, .buy, 10, ten_pos⟩
def pendingSell : PendingOrder := ⟨⟨"ord_sell", by decide⟩, .sell, 10, ten_pos⟩
def bothPending : Finset PendingOrder := {pendingBuy, pendingSell}

/-- A flat position with a limit of 10; the pending orders cancel. -/
def flatState : RiskMarketPositionState where
  currentPosition := 0
  maxPosition := 10
  observedAt := 5
  maxPosition_pos := ten_pos

def positionContext (state : RiskMarketPositionState) : RiskContext where
  evaluatedAt := 10
  marketPositions _ := some state

theorem flatState_roundsNothing : RoundsNothing defaultContext flatState quoteTen := by
  constructor <;> unfold DecimalContext.Fits <;> decide +kernel

theorem bothPending_accounts : Accounts bothPending flatState := by unfold Accounts; decide +kernel

theorem flatState_passes :
    (MarketPositionLimitRule.evaluate defaultContext 60 quoteTen (positionContext flatState)).passes = true := by
  decide +kernel

theorem fills_within_iff_flat :
    |positionAfter flatState quoteTen bothPending| ≤ flatState.maxPosition ∧
    (∀ filled ⊆ bothPending, |positionAfter flatState quoteTen filled|
      ≤ flatState.maxPosition + |∑ o ∈ bothPending \ filled, o.signed|) ∧
    ((∀ filled ⊆ bothPending, |positionAfter flatState quoteTen filled| ≤ flatState.maxPosition) ↔
      flatState.currentPosition + quoteTen.signed + totalBuys bothPending ≤ flatState.maxPosition ∧
      -flatState.maxPosition ≤ flatState.currentPosition + quoteTen.signed - totalSells bothPending) :=
  fills_within_iff flatState_roundsNothing bothPending_accounts rfl flatState_passes

theorem huge_pos : (0 : ℚ) < 10 ^ 28 := by positivity

/-- 10 ^ 28 with the same limit, and a pending purchase of 1. -/
def hugeState : RiskMarketPositionState where
  currentPosition := 10 ^ 28
  maxPosition := 10 ^ 28
  observedAt := 5
  openOrderPositionDelta := 1
  maxPosition_pos := huge_pos

def pendingOne : PendingOrder := ⟨pendingBuy.orderId, .buy, 1, one_pos⟩

/-- **The rule passes and a part of the pending orders exceeds the limit.** A pending purchase and a pending
    sale of 10 cancel for the rule; when only the purchase fills, a limit of 10 is exceeded by 10. And where
    28 digits do not hold the sum, the rule does not see that even the whole exceeds the limit. -/
theorem netted_limit_exceeded :
    (Accounts bothPending flatState ∧
      (MarketPositionLimitRule.evaluate defaultContext 60 quoteTen (positionContext flatState)).passes = true ∧
      ∃ filled ⊆ bothPending, ¬|positionAfter flatState quoteTen filled| ≤ flatState.maxPosition) ∧
    (Accounts {pendingOne} hugeState ∧
      (MarketPositionLimitRule.evaluate defaultContext 60 RiskEngine.quoteTwo
        (positionContext hugeState)).passes = true ∧
      ¬|positionAfter hugeState RiskEngine.quoteTwo {pendingOne}| ≤ hugeState.maxPosition) := by
  refine ⟨⟨bothPending_accounts, flatState_passes, {pendingBuy}, ?_, ?_⟩, ?_, ?_, ?_⟩
  · exact Finset.singleton_subset_iff.mpr (Finset.mem_insert_self _ _)
  · decide +kernel
  · unfold Accounts; decide +kernel
  · decide +kernel
  · decide +kernel

end PendingFills
end Pmrp
