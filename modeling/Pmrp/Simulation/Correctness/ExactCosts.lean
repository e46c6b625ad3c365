import Pmrp.Simulation.BoundedCosts

/-!
# `Simulation.Correctness.ExactCosts` — cost estimates are exact

The checks of the cost models bound where the digits of a price, a quantity and a rate can stand, and from there where
the digits of every intermediate result stand. No span is wider than the 128 digits of the context, so an estimate is
its checks followed by exact arithmetic.
-/

namespace Pmrp
namespace BoundedCosts

/-! ## Spans of bounded decimals -/

namespace BoundedDecimal

variable (d : BoundedDecimal)

theorem exponent_ge : -18 ≤ d.exponent := by
  have h := d.bounded.scale_le
  have hscale : maxDecimalScale = 18 := rfl
  omega

/-- At most 28 digits, from the exponent of the decimal on. -/
theorem spans_digits : Spans d.exponent (d.exponent + 28) d.value := by
  have h := d.bounded.digits_le
  have hdigits : maxDecimalDigits = 28 := rfl
  exact d.toDecimal.spans_digits.widen le_rfl (by omega)

theorem exponent_add_digits_le : d.exponent + d.digits ≤ 37 := by
  have h := d.bounded.adjusted_le
  have hadjusted : d.adjusted = d.exponent + d.digits - 1 := rfl
  have hmax : maxDecimalAdjustedExponent = 36 := rfl
  omega

theorem exponent_le : d.exponent ≤ 36 := by
  have h := d.exponent_add_digits_le
  have hdigits : 1 ≤ d.digits := Nat.le_add_left 1 _
  omega

/-- Whatever its exponent is. -/
theorem spans_bounds : Spans (-18) 37 d.value :=
  d.toDecimal.spans_digits.widen d.exponent_ge d.exponent_add_digits_le

theorem spans_adjusted : Spans d.exponent 37 d.value :=
  d.toDecimal.spans_digits.widen le_rfl d.exponent_add_digits_le

end BoundedDecimal

/-! ## Exact steps -/

/-- **An operation whose result has a narrow span is exact.** -/
theorem compute_eq {low high : ℤ} {x : ℚ} (h : Spans low high x) (hwide : high ≤ low + 128) (hhigh : high ≤ 1000000)
    (hlow : -1000000 ≤ low) : compute x = .ok x := by
  have htiny : DecimalContext.etiny 128 emin ≤ low := by
    have hemin : DecimalContext.etiny 128 emin = -1000126 := by decide
    omega
  have hround : arithmeticContext.round x = x := h.fits hwide htiny
  have hnot : ¬(x ≠ 0 ∧ emax < Int.log 10 |x|) := by
    rintro ⟨hne, hlog⟩
    have hlt := h.log_lt hne
    have hemax : emax = 999999 := rfl
    omega
  show (raiseIf (arithmeticContext.round x ≠ 0 ∧ emax < Int.log 10 |arithmeticContext.round x|) _ >>= fun _ =>
    pure (arithmeticContext.round x)) = _
  rw [hround, raiseIf_bind_of_not hnot]
  rfl

theorem spans_bps {low high : ℤ} {x : ℚ} (h : Spans low high x) :
    Spans (low - 4) (high - 4) (x / basisPointsDenominator) := by
  have hdenominator : basisPointsDenominator = 10 ^ 4 := by norm_num [basisPointsDenominator]
  rw [hdenominator]
  exact h.div_pow 4

/-! ## Fees -/

/-- A notional of two bounded decimals. -/
structure IsNotional (low : ℤ) (notional : ℚ) : Prop where
  digits : Spans low (low + 56) notional
  bounds : Spans low 74 notional
  low_ge : -36 ≤ low
  low_le : low ≤ 72

theorem isNotional (price quantity : BoundedDecimal) :
    IsNotional (price.exponent + quantity.exponent) (price.value * quantity.value) where
  digits := (price.spans_digits.mul quantity.spans_digits).widen le_rfl (by omega)
  bounds := (price.spans_adjusted.mul quantity.spans_adjusted).widen le_rfl (by omega)
  low_ge := by
    have hprice := price.exponent_ge
    have hquantity := quantity.exponent_ge
    omega
  low_le := by
    have hprice := price.exponent_le
    have hquantity := quantity.exponent_le
    omega

variable {low : ℤ} {notional : ℚ}

theorem compute_notional (h : IsNotional low notional) : compute notional = .ok notional := by
  have hlow := h.low_le
  have hge := h.low_ge
  exact compute_eq h.digits (by omega) (by omega) (by omega)

theorem compute_rateProduct (h : IsNotional low notional) (rate : BoundedDecimal) :
    compute (notional * rate.value) = .ok (notional * rate.value) := by
  have hlow := h.low_le
  have hge := h.low_ge
  have hrate := rate.exponent_le
  have hrate' := rate.exponent_ge
  exact compute_eq (h.digits.mul rate.spans_digits) (by omega) (by omega) (by omega)

theorem compute_rated (h : IsNotional low notional) (rate : BoundedDecimal) :
    compute (notional * rate.value / basisPointsDenominator) =
      .ok (notional * rate.value / basisPointsDenominator) := by
  have hlow := h.low_le
  have hge := h.low_ge
  have hrate := rate.exponent_le
  have hrate' := rate.exponent_ge
  exact compute_eq (spans_bps (h.digits.mul rate.spans_digits)) (by omega) (by omega) (by omega)

/-- The last digit that a charge on a notional can have. -/
def chargeLow (low : ℤ) : ℤ := min (low - 22) (-18)

/-- One more than the exponent of its first digit. -/
def chargeHigh (low : ℤ) : ℤ := min (low + 89) 107

/-- A fee or a rebate: the rated notional and a fixed amount. Where the notional has small digits it is small. -/
theorem spans_charge (h : IsNotional low notional) (rate fixed : BoundedDecimal) :
    Spans (chargeLow low) (chargeHigh low + 1) (notional * rate.value / basisPointsDenominator + fixed.value) := by
  have hge := h.low_ge
  have hle := h.low_le
  have hdigits := spans_bps (h.digits.mul rate.spans_bounds)
  have hbounds := spans_bps (h.bounds.mul rate.spans_bounds)
  have hrated : Spans (chargeLow low) (chargeHigh low) (notional * rate.value / basisPointsDenominator) := by
    unfold chargeLow chargeHigh
    rcases le_total (low + 89) 107 with hcase | hcase
    · rw [min_eq_left hcase]
      exact hdigits.widen (by omega) (by omega)
    · rw [min_eq_right hcase]
      exact hbounds.widen (by omega) (by omega)
  refine hrated.add (fixed.spans_bounds.widen ?_ ?_)
  · unfold chargeLow
    omega
  · unfold chargeHigh
    omega

theorem compute_charge (h : IsNotional low notional) (rate fixed : BoundedDecimal) :
    compute (notional * rate.value / basisPointsDenominator + fixed.value) =
      .ok (notional * rate.value / basisPointsDenominator + fixed.value) := by
  have hge := h.low_ge
  refine compute_eq (spans_charge h rate fixed) ?_ ?_ ?_
  · unfold chargeHigh chargeLow
    omega
  · unfold chargeHigh
    omega
  · unfold chargeLow
    omega

/-- Fee and rebate are charges on one notional, so that their digits stand close enough. -/
theorem compute_netCharge (h : IsNotional low notional) (rate fixed rate' fixed' : BoundedDecimal) :
    compute (notional * rate.value / basisPointsDenominator + fixed.value -
        (notional * rate'.value / basisPointsDenominator + fixed'.value)) =
      .ok (notional * rate.value / basisPointsDenominator + fixed.value -
        (notional * rate'.value / basisPointsDenominator + fixed'.value)) := by
  have hge := h.low_ge
  refine compute_eq ((spans_charge h rate fixed).sub (spans_charge h rate' fixed')) ?_ ?_ ?_
  · unfold chargeHigh chargeLow
    omega
  · unfold chargeHigh
    omega
  · unfold chargeLow
    omega

/-- The fee estimate of exact arithmetic. -/
def FeeRule.exactEstimate (rule : FeeRule) (exchange : String) (price quantity : ℚ)
    (liquidityRole : LiquidityRole) : FeeEstimate where
  exchange := exchange
  liquidityRole := liquidityRole
  currency := rule.currency
  notional := price * quantity
  feeAmount := price * quantity * rule.feeRateBps.value / 10000 + rule.fixedFee.value
  rebateAmount := price * quantity * rule.rebateRateBps.value / 10000 + rule.fixedRebate.value
  netFeeAmount := (price * quantity * rule.feeRateBps.value / 10000 + rule.fixedFee.value) -
    (price * quantity * rule.rebateRateBps.value / 10000 + rule.fixedRebate.value)

theorem FeeTableModel.estimate_exact (model : FeeTableModel) (exchange : String) (price quantity : PyDecimal)
    (liquidityRole : LiquidityRole) :
    model.estimate exchange price quantity liquidityRole =
      (model.validateInputs exchange price quantity liquidityRole).map fun (price, quantity, rule) =>
        rule.exactEstimate exchange price.value quantity.value liquidityRole := by
  unfold FeeTableModel.estimate
  cases model.validateInputs exchange price quantity liquidityRole with
  | error e => rfl
  | ok inputs =>
      obtain ⟨price, quantity, rule⟩ := inputs
      have h := isNotional price quantity
      simp only [ok_bind, compute_notional h, compute_rateProduct h, compute_rated h, compute_charge h,
        compute_netCharge h]
      rfl

/-! ## Slippage -/

variable (price rate quantity : BoundedDecimal)

theorem spans_priceImpact :
    Spans (price.exponent - 22) (price.exponent + 61) (price.value * rate.value / basisPointsDenominator) :=
  (spans_bps (price.spans_digits.mul rate.spans_bounds)).widen (by omega) (by omega)

theorem compute_priceImpact :
    compute (price.value * rate.value) = .ok (price.value * rate.value) ∧
      compute (price.value * rate.value / basisPointsDenominator) =
        .ok (price.value * rate.value / basisPointsDenominator) := by
  have hprice := price.exponent_le
  have hrate := rate.exponent_le
  have hprice' := price.exponent_ge
  have hrate' := rate.exponent_ge
  have hproduct := price.spans_digits.mul rate.spans_digits
  exact ⟨compute_eq hproduct (by omega) (by omega) (by omega),
    compute_eq (spans_bps hproduct) (by omega) (by omega) (by omega)⟩

/-- The price moved against the order. -/
def moved (side : Side) (price impact : ℚ) : ℚ :=
  match side with
  | .buy => price + impact
  | .sell => price - impact

theorem spans_moved (side : Side) :
    Spans (price.exponent - 22) (price.exponent + 62)
      (moved side price.value (price.value * rate.value / basisPointsDenominator)) := by
  have hprice : Spans (price.exponent - 22) (price.exponent + 61) price.value :=
    price.spans_digits.widen (by omega) (by omega)
  cases side with
  | buy => exact (hprice.add (spans_priceImpact price rate)).widen le_rfl (by omega)
  | sell => exact (hprice.sub (spans_priceImpact price rate)).widen le_rfl (by omega)

theorem compute_moved (side : Side) :
    movePrice side price.value (price.value * rate.value / basisPointsDenominator) =
      .ok (moved side price.value (price.value * rate.value / basisPointsDenominator)) := by
  have hprice := price.exponent_le
  have hprice' := price.exponent_ge
  have hspans := spans_moved price rate side
  cases side with
  | buy => exact compute_eq hspans (by omega) (by omega) (by omega)
  | sell => exact compute_eq hspans (by omega) (by omega) (by omega)

variable {price} {adjusted : ℚ}

/-- The steps after the adjusted price. -/
theorem compute_slippage (hadjusted : Spans (price.exponent - 22) (price.exponent + 62) adjusted) :
    compute (adjusted - price.value) = .ok (adjusted - price.value) ∧
      compute |adjusted - price.value| = .ok |adjusted - price.value| ∧
      compute (|adjusted - price.value| * quantity.value) = .ok (|adjusted - price.value| * quantity.value) := by
  have hprice := price.exponent_le
  have hquantity := quantity.exponent_le
  have hdifference : Spans (price.exponent - 22) (price.exponent + 63) (adjusted - price.value) :=
    (hadjusted.sub (price.spans_digits.widen (by omega) (by omega))).widen le_rfl (by omega)
  have hprice' := price.exponent_ge
  have hquantity' := quantity.exponent_ge
  exact ⟨compute_eq hdifference (by omega) (by omega) (by omega),
    compute_eq hdifference.abs (by omega) (by omega) (by omega),
    compute_eq (hdifference.abs.mul quantity.spans_digits) (by omega) (by omega) (by omega)⟩

/-- The slippage estimate of exact arithmetic, for the rate that applies to the fill. -/
def exactSlippage (side : Side) (price quantity bps : ℚ) (liquidityRole : LiquidityRole) : SlippageEstimate where
  side := side
  liquidityRole := liquidityRole
  inputPrice := price
  adjustedPrice := max 0 (moved side price (price * bps / 10000))
  quantity := quantity
  slippageBps := bps
  slippageAmountPerUnit := |max 0 (moved side price (price * bps / 10000)) - price|
  totalSlippage := |max 0 (moved side price (price * bps / 10000)) - price| * quantity

/-- Only takers pay slippage. -/
def BpsSlippageModel.appliedBps (model : BpsSlippageModel) (liquidityRole : LiquidityRole) : ℚ :=
  if liquidityRole = .taker then model.takerSlippageBps.value else 0

theorem validateSlippageInputs_nonneg {price quantity : PyDecimal} {inputs : BoundedDecimal × BoundedDecimal}
    (h : validateSlippageInputs price quantity = .ok inputs) : 0 ≤ inputs.1.value := by
  simp only [validateSlippageInputs, bind_eq_ok, raiseIf_eq_ok, pure_eq_ok, not_lt] at h
  obtain ⟨_, -, _, -, _, hnonneg, _, -, rfl⟩ := h
  exact hnonneg

theorem exactSlippage_zero {side : Side} {price : ℚ} (quantity : ℚ) (liquidityRole : LiquidityRole)
    (hprice : 0 ≤ price) :
    exactSlippage side price quantity 0 liquidityRole = unslipped side price quantity liquidityRole := by
  have hmoved : moved side price (price * 0 / 10000) = price := by
    cases side <;> simp [moved]
  unfold exactSlippage unslipped
  rw [hmoved, max_eq_right hprice, sub_self, abs_zero, zero_mul]

theorem BpsSlippageModel.estimate_exact (model : BpsSlippageModel) (side : Side) (price quantity : PyDecimal)
    (liquidityRole : LiquidityRole) :
    model.estimate side price quantity liquidityRole =
      (validateSlippageInputs price quantity).map fun (price, quantity) =>
        exactSlippage side price.value quantity.value (model.appliedBps liquidityRole) liquidityRole := by
  unfold BpsSlippageModel.estimate
  cases hinputs : validateSlippageInputs price quantity with
  | error e => rfl
  | ok inputs =>
      have hnonneg := validateSlippageInputs_nonneg hinputs
      obtain ⟨price, quantity⟩ := inputs
      rw [ok_bind]
      dsimp only
      split_ifs with hnone
      · -- a maker, or a rate of zero
        have hbps : model.appliedBps liquidityRole = 0 := by
          unfold BpsSlippageModel.appliedBps
          rcases hnone with hmaker | hzero
          · exact if_neg hmaker
          · rw [hzero, ite_self]
        show _ = Except.ok (exactSlippage side price.value quantity.value (model.appliedBps liquidityRole)
            liquidityRole)
        rw [hbps, exactSlippage_zero _ _ hnonneg]
        rfl
      · have htaker : liquidityRole = .taker := not_not.mp (not_or.mp hnone).1
        have hbps : model.appliedBps liquidityRole = model.takerSlippageBps.value := if_pos htaker
        set rate := model.takerSlippageBps.toBoundedDecimal with hrate
        obtain ⟨hproduct, himpact⟩ := compute_priceImpact price rate
        have hmoved := compute_moved price rate side
        rw [hproduct, ok_bind, himpact, ok_bind, hmoved, ok_bind]
        have hclamped : (if moved side price.value (price.value * rate.value / basisPointsDenominator) < 0 then 0
            else moved side price.value (price.value * rate.value / basisPointsDenominator)) =
            max 0 (moved side price.value (price.value * rate.value / 10000)) := by
          show (if _ then _ else moved side price.value (price.value * rate.value / 10000)) = _
          split_ifs with hneg
          · exact (max_eq_left hneg.le).symm
          · exact (max_eq_right (not_lt.mp hneg)).symm
        have hspans : Spans (price.exponent - 22) (price.exponent + 62)
            (max 0 (moved side price.value (price.value * rate.value / 10000))) := by
          rcases max_choice 0 (moved side price.value (price.value * rate.value / 10000)) with hmax | hmax <;> rw [hmax]
          · exact Spans.zero
          · exact spans_moved price rate side
        obtain ⟨hdifference, habs, htotal⟩ := compute_slippage quantity hspans
        rw [hclamped, hdifference, ok_bind, habs, ok_bind, htotal, ok_bind]
        show _ = Except.ok (exactSlippage side price.value quantity.value (model.appliedBps liquidityRole)
            liquidityRole)
        rw [hbps]
        rfl

/-- An adjusted price is a price, and no better for the order than the input price. -/
theorem exactSlippage_adverse {side : Side} {price bps : ℚ} (quantity : ℚ) (liquidityRole : LiquidityRole)
    (hprice : 0 ≤ price) (hbps : 0 ≤ bps) :
    0 ≤ (exactSlippage side price quantity bps liquidityRole).adjustedPrice ∧
      match side with
      | .buy => price ≤ (exactSlippage side price quantity bps liquidityRole).adjustedPrice
      | .sell => (exactSlippage side price quantity bps liquidityRole).adjustedPrice ≤ price := by
  have himpact : 0 ≤ price * bps / 10000 := by positivity
  refine ⟨le_max_left _ _, ?_⟩
  cases side with
  | buy => exact (le_add_of_nonneg_right himpact).trans (le_max_right _ _)
  | sell => exact max_le hprice (sub_le_self _ himpact)

/-! ## Settlement -/

theorem BinarySettlementModel.payout_eq (model : BinarySettlementModel) (outcomeId winner : OutcomeId)
    (quantity : PositiveDecimal) :
    model.payout outcomeId winner quantity =
      .ok (if outcomeId = winner then model.payoutPerUnit.value * quantity.value else 0) := by
  unfold BinarySettlementModel.payout
  split_ifs
  · exact compute_notional (isNotional model.payoutPerUnit.toBoundedDecimal quantity.toBoundedDecimal)
  · rfl

theorem BinarySettlementModel.estimate_exact (model : BinarySettlementModel) (outcomeId : OutcomeId)
    (quantity : PyDecimal) (winningOutcomeIds : List OutcomeId) :
    model.estimate outcomeId quantity winningOutcomeIds =
      (validateInputs quantity winningOutcomeIds).map fun (quantity, winner) =>
        { outcomeId
          quantity := quantity.value
          status := .settled
          winningOutcomeIds := [winner]
          payoutPerUnit := model.payoutPerUnit.value
          payoutAmount := if outcomeId = winner then model.payoutPerUnit.value * quantity.value else 0
          isWinningOutcome := decide (outcomeId = winner) } := by
  unfold BinarySettlementModel.estimate
  cases validateInputs quantity winningOutcomeIds with
  | error e => rfl
  | ok inputs =>
      obtain ⟨quantity, winner⟩ := inputs
      rw [ok_bind]
      dsimp only
      rw [payout_eq]
      rfl

/-- **Cost estimates are exact.** Whatever is passed to them, the models return what their checks accept with the
    results of exact arithmetic, or raise what their checks raise: no result is rounded, and none traps. -/
theorem cost_estimates_exact :
    (∀ (model : FeeTableModel) exchange price quantity liquidityRole,
      model.estimate exchange price quantity liquidityRole =
        (model.validateInputs exchange price quantity liquidityRole).map fun (price, quantity, rule) =>
          rule.exactEstimate exchange price.value quantity.value liquidityRole) ∧
    (∀ (model : BpsSlippageModel) side price quantity liquidityRole,
      model.estimate side price quantity liquidityRole =
          ((validateSlippageInputs price quantity).map fun (price, quantity) =>
            exactSlippage side price.value quantity.value (model.appliedBps liquidityRole) liquidityRole) ∧
        ∀ estimate, model.estimate side price quantity liquidityRole = .ok estimate →
          0 ≤ estimate.adjustedPrice ∧
            match side with
            | .buy => estimate.inputPrice ≤ estimate.adjustedPrice
            | .sell => estimate.adjustedPrice ≤ estimate.inputPrice) ∧
    (∀ side price quantity liquidityRole, noSlippageEstimate side price quantity liquidityRole =
      (validateSlippageInputs price quantity).map fun (price, quantity) =>
        exactSlippage side price.value quantity.value 0 liquidityRole) ∧
    ∀ (model : BinarySettlementModel) outcomeId quantity winningOutcomeIds,
      model.estimate outcomeId quantity winningOutcomeIds =
        (BinarySettlementModel.validateInputs quantity winningOutcomeIds).map fun (quantity, winner) =>
          { outcomeId
            quantity := quantity.value
            status := .settled
            winningOutcomeIds := [winner]
            payoutPerUnit := model.payoutPerUnit.value
            payoutAmount := if outcomeId = winner then model.payoutPerUnit.value * quantity.value else 0
            isWinningOutcome := decide (outcomeId = winner) } := by
  refine ⟨FeeTableModel.estimate_exact, fun model side price quantity liquidityRole => ?_, ?_,
    BinarySettlementModel.estimate_exact⟩
  · have hexact := model.estimate_exact side price quantity liquidityRole
    refine ⟨hexact, fun estimate hestimate => ?_⟩
    rw [hexact, map_eq_ok] at hestimate
    obtain ⟨inputs, hinputs, rfl⟩ := hestimate
    have hbps : 0 ≤ model.appliedBps liquidityRole := by
      unfold BpsSlippageModel.appliedBps
      split_ifs
      · exact model.takerSlippageBps.nonneg
      · exact le_rfl
    exact exactSlippage_adverse _ _ (validateSlippageInputs_nonneg hinputs) hbps
  · intro side price quantity liquidityRole
    unfold noSlippageEstimate
    cases hinputs : validateSlippageInputs price quantity with
    | error e => rfl
    | ok inputs =>
        obtain ⟨price, quantity⟩ := inputs
        exact congrArg Except.ok (exactSlippage_zero _ _ (validateSlippageInputs_nonneg hinputs)).symm

-- 20 basis points of fees on 100 at 0.50, a purchase of them with 10 of slippage, and a payout that has to be positive
example :
    ((do
      let rule ← FeeRule.create "kalshi" .taker "USD" (.finite ⟨false, 20, 0⟩) (.finite ⟨false, 0, 0⟩)
        (.finite ⟨false, 0, 0⟩) (.finite ⟨false, 0, 0⟩)
      let model ← FeeTableModel.create [rule]
      model.estimate "kalshi" (.finite ⟨false, 50, -2⟩) (.finite ⟨false, 100, 0⟩) .taker).map FeeEstimate.netFeeAmount)
        =
        .ok (1 / 10) ∧
    ((do
      let model ← BpsSlippageModel.create (.finite ⟨false, 10, 0⟩)
      model.estimate .buy (.finite ⟨false, 50, -2⟩) (.finite ⟨false, 100, 0⟩) .taker).map
        SlippageEstimate.adjustedPrice) = .ok (1001 / 2000) ∧
    (BinarySettlementModel.create (.finite ⟨false, 1, 0⟩)).toOption.isSome = true ∧
    (BinarySettlementModel.create (.finite ⟨false, 0, 0⟩)).toOption.isSome = false := by
  decide +kernel

end BoundedCosts
end Pmrp
