import Pmrp.Risk.Correctness.Approval
import Pmrp.Schemas.Correctness.WrittenDecimals

/-!
# `Risk.Correctness.StepGrids` — ticks and increments under the default context

RISK-006 and RISK-007 subtract the minimum from the price or the quantity, take the remainder by the tick or the
increment, and pass when it is zero. The default context keeps 28 digits: a longer difference is rounded, a quotient of
29 digits is an `InvalidOperation`, and what is too small or too large underflows or overflows. For differences that the
context can write the checks are exact exactly below `10 ^ 28` steps.

## Contents
- **Exact checks.** `MultipleOf`, `GridExact`.
- **The remainder.** `gridExact_gridOutcome_iff`.
- **The rules.** `grid_checks_exact_iff`.
-/

namespace Pmrp

/-- An exact integer multiple. -/
def MultipleOf (x step : ℚ) : Prop := ∃ k : ℤ, x = k * step

/-- What the check of an offset against a step is meant to do. -/
def GridExact (outcome : RuleOutcome) (offset step : ℚ) : Prop :=
  (outcome.passes = true ↔ MultipleOf offset step) ∧ ∀ exceptionType, outcome ≠ .raised exceptionType

/-! ## The remainder of an offset -/

section

variable {step : ℚ}

variable {ctx : DecimalContext} {value minimum : ℚ} {onGrid offGrid : RuleOutcome}

/-- The tail that both rules share: raise without a remainder, pass on a zero one, refuse otherwise. -/
def gridOutcome (ctx : DecimalContext) (value minimum step : ℚ) (onGrid offGrid : RuleOutcome) : RuleOutcome :=
  match stepRemainder ctx value minimum step with
  | .error signal => .raised signal
  | .ok r => if r ≠ 0 then offGrid else onGrid

theorem gridOutcome_of_error {signal : String} (h : stepRemainder ctx value minimum step = .error signal) :
    gridOutcome ctx value minimum step onGrid offGrid = .raised signal := by
  rw [gridOutcome, h]

theorem gridOutcome_of_ok {r : ℚ} (h : stepRemainder ctx value minimum step = .ok r) :
    gridOutcome ctx value minimum step onGrid offGrid = if r ≠ 0 then offGrid else onGrid := by
  rw [gridOutcome, h]

/-- **The remainder of an offset that the context writes** is found below `10 ^ 28` steps, and is zero for a
    multiple. -/
theorem stepRemainder_of_written (hwritten : Written (value - minimum)) (hdigits : OnDigits step)
    (hoffset : 0 ≤ value - minimum) (hstep : 0 < step) :
    (value - minimum < 10 ^ 28 * step → ∃ r, stepRemainder defaultContext value minimum step = .ok r ∧
      (r = 0 ↔ MultipleOf (value - minimum) step)) ∧
    (10 ^ 28 * step ≤ value - minimum →
      stepRemainder defaultContext value minimum step = .error "InvalidOperation") := by
  have hround : defaultContext.sub value minimum = value - minimum := round_eq_of_written hwritten
  have hnone := DecimalContext.rem_eq_none_iff defaultContext_prec hoffset hstep
  rw [stepRemainder, if_neg (by rw [not_overflows_of_written hwritten]; decide), hround]
  constructor
  · intro hlt
    -- the remainder is a difference of values without digits below the last
    have hkept : OnDigits (value - minimum - step * DecimalContext.truncate ((value - minimum) / step)) := by
      obtain ⟨n, hn⟩ := hwritten.onDigits
      obtain ⟨m, hm⟩ := hdigits
      generalize DecimalContext.truncate ((value - minimum) / step) = quotient
      refine ⟨n - m * quotient, ?_⟩
      rw [hn, hm]
      push_cast
      ring
    have hzero := @DecimalContext.rem_eq_some_zero_iff defaultContext _ _ hstep.ne'
      (eq_zero_of_round_eq_zero hkept)
    cases hrem : defaultContext.rem (value - minimum) step with
    | none => exact absurd (hnone.mp hrem) (not_le.mpr hlt)
    | some r =>
        rw [hrem, Option.some_inj] at hzero
        refine ⟨r, rfl, ?_⟩
        rw [hzero]
        exact and_iff_right (Option.some_ne_none r)
  · intro hle
    rw [hnone.mpr hle]
    rfl

variable {texts onTexts : RuleTexts} {context : RiskContext} {onReason offReason onUnit offUnit : String}
variable {observed onLimit offLimit : Option ℚ}

/-- The shared tail is exact exactly below `10 ^ 28` steps. -/
theorem gridExact_gridOutcome_iff (hwritten : Written (value - minimum)) (hdigits : OnDigits step)
    (hoffset : 0 ≤ value - minimum) (hstep : 0 < step) :
    GridExact
        (gridOutcome defaultContext value minimum step (texts.result context true onReason observed onLimit onUnit)
          (texts.result context false offReason observed offLimit offUnit)) (value - minimum) step ↔
      value - minimum < 10 ^ 28 * step := by
  obtain ⟨hshort, hlong⟩ := stepRemainder_of_written hwritten hdigits hoffset hstep
  unfold GridExact
  rcases lt_or_ge (value - minimum) (10 ^ 28 * step) with hlt | hle
  · obtain ⟨r, hr, hmultiple⟩ := hshort hlt
    refine iff_of_true ?_ hlt
    rw [gridOutcome_of_ok hr]
    by_cases hzero : r = 0
    · simp [← hmultiple, hzero, RuleTexts.result]
    · simp [← hmultiple, hzero, RuleTexts.result]
  · -- the quotient is too long: the check raises
    rw [gridOutcome_of_error (hlong hle)]
    refine iff_of_false ?_ (not_lt.mpr hle)
    rintro ⟨-, hraised⟩
    exact hraised _ rfl

end

/-! ## The two rules -/

variable {maxStateAge : Timedelta} {intent : OrderIntent} {context : RiskContext}

theorem onFreshState_of_fresh {σ : Type} {texts : RuleTexts} {ctx : DecimalContext} {s : σ}
    {observedAt : σ → UTCDateTime} {observed bound : Option ℚ} {limit : σ → RuleOutcome}
    (hfresh : Fresh maxStateAge context (observedAt s)) :
    onFreshState ctx texts maxStateAge context (some s) observedAt observed bound limit = limit s := by
  obtain ⟨hpast, hrecent⟩ := hfresh
  have hnotFuture : ¬context.evaluatedAt < observedAt s := not_lt.mpr (sub_nonneg.mp hpast)
  simp only [onFreshState]
  rw [if_neg hnotFuture, if_neg (not_lt.mpr hrecent)]

/-- A price within fresh bounds that have a tick. -/
structure PricedWithin (maxStateAge : Timedelta) (intent : OrderIntent) (context : RiskContext) (price : ℚ)
    (bounds : RiskPriceBoundsState) (tick : ℚ) : Prop where
  price_eq : intent.limitPrice = some price
  bounds_eq : context.priceBounds intent.marketId = some bounds
  fresh : Fresh maxStateAge context bounds.observedAt
  min_le : bounds.minPrice ≤ price
  le_max : price ≤ bounds.maxPrice
  tick_eq : bounds.tickSize = some tick

theorem OrderPriceValidRule.evaluate_eq_gridOutcome {price tick : ℚ} {bounds : RiskPriceBoundsState}
    (h : PricedWithin maxStateAge intent context price bounds tick) :
    OrderPriceValidRule.evaluate defaultContext maxStateAge intent context =
      let texts : RuleTexts := ⟨"RISK-006", "RISK_ORDER_PRICE_BOUNDS", "price"⟩
      gridOutcome defaultContext price bounds.minPrice tick
        (texts.result context true "RISK_ORDER_PRICE_VALID" (some price) (some bounds.maxPrice) "price")
        (texts.result context false "RISK_ORDER_PRICE_OFF_TICK" (some price) (some tick) "tick_size") := by
  simp only [OrderPriceValidRule.evaluate, h.price_eq, h.bounds_eq, onFreshState_of_fresh h.fresh, h.tick_eq,
    if_neg (not_lt.mpr h.min_le), if_neg (not_lt.mpr h.le_max)]
  rfl

/-- A quantity within fresh limits. -/
structure SizedWithin (maxStateAge : Timedelta) (intent : OrderIntent) (context : RiskContext)
    (limits : RiskQuantityLimitsState) : Prop where
  limits_eq : context.quantityLimits intent.contractId = some limits
  fresh : Fresh maxStateAge context limits.observedAt
  min_le : limits.minQuantity ≤ intent.quantity
  le_max : intent.quantity ≤ limits.maxQuantity

theorem OrderQuantityLimitRule.evaluate_eq_gridOutcome {limits : RiskQuantityLimitsState}
    (h : SizedWithin maxStateAge intent context limits) :
    OrderQuantityLimitRule.evaluate defaultContext maxStateAge intent context =
      let texts : RuleTexts := ⟨"RISK-007", "RISK_ORDER_QUANTITY_LIMITS", "quantity"⟩
      gridOutcome defaultContext intent.quantity limits.minQuantity limits.quantityIncrement
        (texts.result context true "RISK_ORDER_QUANTITY_VALID" (some intent.quantity) (some limits.maxQuantity)
          "quantity")
        (texts.result context false "RISK_ORDER_QUANTITY_OFF_INCREMENT" (some intent.quantity)
          (some limits.quantityIncrement) "quantity_increment") := by
  simp only [OrderQuantityLimitRule.evaluate, h.limits_eq, onFreshState_of_fresh h.fresh,
    if_neg (not_lt.mpr h.min_le), if_neg (not_lt.mpr h.le_max)]
  rfl

/-- **Tick and increment checks are exact exactly below `10 ^ 28` steps**, for offsets that the context can write and
    steps without smaller digits. -/
theorem grid_checks_exact_iff (maxStateAge : Timedelta) (intent : OrderIntent) (context : RiskContext) :
    (∀ price bounds tick, PricedWithin maxStateAge intent context price bounds tick →
      Written (price - bounds.minPrice) → OnDigits tick →
      (GridExact (OrderPriceValidRule.evaluate defaultContext maxStateAge intent context)
          (price - bounds.minPrice) tick ↔
        price - bounds.minPrice < 10 ^ 28 * tick)) ∧
    (∀ limits, SizedWithin maxStateAge intent context limits →
      Written (intent.quantity - limits.minQuantity) → OnDigits limits.quantityIncrement →
      (GridExact (OrderQuantityLimitRule.evaluate defaultContext maxStateAge intent context)
          (intent.quantity - limits.minQuantity) limits.quantityIncrement ↔
        intent.quantity - limits.minQuantity < 10 ^ 28 * limits.quantityIncrement)) := by
  constructor
  · intro price bounds tick h hwritten hdigits
    rw [OrderPriceValidRule.evaluate_eq_gridOutcome h]
    exact gridExact_gridOutcome_iff hwritten hdigits (sub_nonneg.mpr h.min_le) (bounds.tickSize_pos tick h.tick_eq)
  · intro limits h hwritten hdigits
    rw [OrderQuantityLimitRule.evaluate_eq_gridOutcome h]
    exact gridExact_gridOutcome_iff hwritten hdigits (sub_nonneg.mpr h.min_le) limits.increment_pos

/-! ## A concrete contract -/

theorem contractPrice_nonneg : (0 : ℚ) ≤ 0 := le_rfl
theorem contractPrice_le : (0 : ℚ) ≤ 1 := zero_le_one
theorem contractIncrement_pos : (0 : ℚ) < 1 / 10 := by norm_num

theorem contractQuantity_le : (0 : ℚ) ≤ 100 := by norm_num
theorem contractQuantity_pos : (0 : ℚ) < 2 := two_pos

theorem pos_of_mem_tick {tick : ℚ} (htick : 0 < tick) : ∀ t ∈ some tick, 0 < t := by
  rintro t ⟨⟩
  exact htick

/-- Prices from 0 to 1 on this tick. -/
def contractBounds (tick : ℚ) (htick : 0 < tick) : RiskPriceBoundsState where
  minPrice := 0
  maxPrice := 1
  observedAt := 5
  tickSize := some tick
  minPrice_nonneg := contractPrice_nonneg
  min_le_max := contractPrice_le
  tickSize_pos := pos_of_mem_tick htick

def contractLimits : RiskQuantityLimitsState where
  minQuantity := 0
  maxQuantity := 100
  quantityIncrement := 1 / 10
  observedAt := 5
  minQuantity_nonneg := contractPrice_nonneg
  min_le_max := contractQuantity_le
  increment_pos := contractIncrement_pos

def contractContext (tick : ℚ) (htick : 0 < tick) : RiskContext where
  evaluatedAt := 10
  priceBounds _ := some (contractBounds tick htick)
  quantityLimits _ := some contractLimits

theorem cent_pos : (0 : ℚ) < 1 / 100 := by norm_num

theorem grid_checks_exact_cent :
    GridExact (OrderPriceValidRule.evaluate defaultContext 60 RiskEngine.quoteTwo (contractContext (1 / 100) cent_pos))
        (1 / 2) (1 / 100) ∧
      GridExact (OrderQuantityLimitRule.evaluate defaultContext 60 RiskEngine.quoteTwo
        (contractContext (1 / 100) cent_pos)) 2 (1 / 10) := by
  obtain ⟨hprice, hquantity⟩ :=
    grid_checks_exact_iff 60 RiskEngine.quoteTwo (contractContext (1 / 100) cent_pos)
  have hfresh : Fresh 60 (contractContext (1 / 100) cent_pos) 5 := by decide
  have hhalf : Written (1 / 2 - 0) := by
    have h := written_shortDecimal 5 (-1) (by norm_num) (by decide) (by decide)
    norm_num at h ⊢
    exact h
  have htwo : Written (2 - 0) := by
    have h := written_shortDecimal 2 0 (by norm_num) (by decide) (by decide)
    norm_num at h ⊢
    exact h
  have hcent : OnDigits (1 / 100) := by
    have h := (written_shortDecimal 1 (-2) (by norm_num) (by decide) (by decide)).onDigits
    norm_num at h ⊢
    exact h
  have htenth : OnDigits (1 / 10) := by
    have h := (written_shortDecimal 1 (-1) (by norm_num) (by decide) (by decide)).onDigits
    norm_num at h ⊢
    exact h
  constructor
  · have hexact := (hprice (1 / 2) (contractBounds (1 / 100) cent_pos) (1 / 100)
      ⟨rfl, rfl, hfresh, by norm_num [contractBounds], by norm_num [contractBounds], rfl⟩ hhalf hcent).mpr
        (by norm_num [contractBounds])
    simpa [contractBounds] using hexact
  · have hexact := (hquantity contractLimits
      ⟨rfl, hfresh, by norm_num [contractLimits, RiskEngine.quoteTwo, RiskEngine.quote],
        by norm_num [contractLimits, RiskEngine.quoteTwo, RiskEngine.quote]⟩ htwo htenth).mpr
        (by norm_num [contractLimits, RiskEngine.quoteTwo, RiskEngine.quote])
    simpa [contractLimits, RiskEngine.quoteTwo, RiskEngine.quote] using hexact

theorem fineTick_pos : (0 : ℚ) < 1 / 10 ^ 28 := by norm_num

/-- A purchase of 2 at 1. -/
def quoteOne : OrderIntent :=
  RiskEngine.quote ⟨"intent_one", by decide⟩ .buy 2 1 contractQuantity_pos contractPrice_le

/-- **A tick too fine to divide by.** The price 1 is `10 ^ 28` ticks above the minimum: the quotient has 29 digits and
    the rule raises, although the price is on the grid. -/
theorem fineTick_raises :
    PricedWithin 60 quoteOne (contractContext (1 / 10 ^ 28) fineTick_pos) 1
        (contractBounds (1 / 10 ^ 28) fineTick_pos) (1 / 10 ^ 28) ∧
      OrderPriceValidRule.evaluate defaultContext 60 quoteOne (contractContext (1 / 10 ^ 28) fineTick_pos) =
        .raised "InvalidOperation" ∧
      ¬GridExact (OrderPriceValidRule.evaluate defaultContext 60 quoteOne
        (contractContext (1 / 10 ^ 28) fineTick_pos)) (1 - 0) (1 / 10 ^ 28) := by
  have hwithin : PricedWithin 60 quoteOne (contractContext (1 / 10 ^ 28) fineTick_pos) 1
      (contractBounds (1 / 10 ^ 28) fineTick_pos) (1 / 10 ^ 28) :=
    ⟨rfl, rfl, by decide, contractPrice_le, le_rfl, rfl⟩
  have hwritten : Written (1 - 0) := by
    have h := written_shortDecimal 1 0 (by norm_num) (by decide) (by decide)
    norm_num at h ⊢
    exact h
  have hdigits : OnDigits (1 / 10 ^ 28) := by
    have h := (written_shortDecimal 1 (-28) (by norm_num) (by decide) (by decide)).onDigits
    norm_num at h ⊢
    exact h
  have hraised : OrderPriceValidRule.evaluate defaultContext 60 quoteOne
      (contractContext (1 / 10 ^ 28) fineTick_pos) = .raised "InvalidOperation" := by
    have hlong : stepRemainder defaultContext 1 0 (1 / 10 ^ 28) = .error "InvalidOperation" :=
      (stepRemainder_of_written hwritten hdigits (by norm_num) fineTick_pos).2 (by norm_num)
    exact (OrderPriceValidRule.evaluate_eq_gridOutcome hwithin).trans (gridOutcome_of_error hlong)
  refine ⟨hwithin, hraised, ?_⟩
  rintro ⟨-, hreturns⟩
  exact hreturns _ hraised

end Pmrp
