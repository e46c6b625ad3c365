import Mathlib.Algebra.Order.Group.Unbundled.Int
import Pmrp.Risk.Context

/-!
# `Risk.Rules` — the built-in rules

The rules of `risk/rules`, one section each. Every rule looks its state up in the context, refuses a state
that is missing, from the future or too old, and then applies its own limit; `onFreshState` is that shape.
Beside each rule stands what it takes to pass it (`evaluate_passes`), with the arithmetic of the context the
rule was evaluated in.
-/

namespace Pmrp

/-! ## Outcomes -/

/-- What awaiting a rule's `evaluate` ends in. -/
inductive RuleOutcome
  | returned (result : RiskRuleResult)
  /-- An exception of this class. -/
  | raised (exceptionType : String)
  /-- A value that is no `RiskRuleResult`. -/
  | returnedOther
  deriving DecidableEq

namespace RuleOutcome

def passes : RuleOutcome → Bool
  | returned r => r.passed
  | raised _ => false
  | returnedOther => false

@[simp] theorem passes_returned (r : RiskRuleResult) : (returned r).passes = r.passed := rfl
@[simp] theorem passes_raised (t : String) : (raised t).passes = false := rfl

end RuleOutcome

/-! ## What the rules share -/

def builtinRuleVersion : String := "1.0"

/-- `rule_id`, the reason code of its state without its last word, and the unit of its values. -/
structure RuleTexts where
  ruleId : String
  stateReason : String
  unit : String

/-- `_result`. -/
def RuleTexts.result (texts : RuleTexts) (context : RiskContext) (passed : Bool) (reasonCode : String)
    (observed limit : Option ℚ) (unit : String) : RuleOutcome :=
  .returned
    { ruleId := texts.ruleId
      ruleVersion := builtinRuleVersion
      passed := passed
      reasonCode := reasonCode
      observedValue := observed
      limitValue := limit
      unit := some unit
      evaluatedAt := context.evaluatedAt }

@[simp] theorem RuleTexts.result_passes {texts : RuleTexts} {context : RiskContext} {passed : Bool}
    {reasonCode unit : String} {observed limit : Option ℚ} :
    (texts.result context passed reasonCode observed limit unit).passes = passed := rfl

/-- The state was observed at most `maxStateAge` before the evaluation, and not after it. -/
def Fresh (maxStateAge : Timedelta) (context : RiskContext) (observedAt : UTCDateTime) : Prop :=
  0 ≤ context.evaluatedAt - observedAt ∧ context.evaluatedAt - observedAt ≤ maxStateAge

instance (maxStateAge : Timedelta) (context : RiskContext) (observedAt : UTCDateTime) :
    Decidable (Fresh maxStateAge context observedAt) := inferInstanceAs (Decidable (_ ∧ _))

variable (ctx : DecimalContext)

/-- `_timedelta_milliseconds`. -/
def timedeltaMilliseconds (value : Timedelta) : ℚ := ctx.div value 1000

variable (texts : RuleTexts) (maxStateAge : Timedelta) (intent : OrderIntent) (context : RiskContext)

/-- Look the state up and check its age, then `limit`. `observed` and `bound` are reported when there is no
    state. -/
def onFreshState {σ : Type} (state : Option σ) (observedAt : σ → UTCDateTime) (observed bound : Option ℚ)
    (limit : σ → RuleOutcome) : RuleOutcome :=
  match state with
  | none => texts.result context false (texts.stateReason ++ "_MISSING") observed bound texts.unit
  | some s =>
      -- `_state_age_result`
      if context.evaluatedAt < observedAt s then
        texts.result context false (texts.stateReason ++ "_FUTURE")
          (some (timedeltaMilliseconds ctx (observedAt s - context.evaluatedAt))) (some 0) "milliseconds"
      else if maxStateAge < context.evaluatedAt - observedAt s then
        texts.result context false (texts.stateReason ++ "_STALE")
          (some (timedeltaMilliseconds ctx (context.evaluatedAt - observedAt s)))
          (some (timedeltaMilliseconds ctx maxStateAge)) "milliseconds"
      else limit s

/-- A rule that needs the intent's price refuses when there is none. -/
def onLimitPrice (reasonCode : String) (rule : ℚ → RuleOutcome) : RuleOutcome :=
  match intent.limitPrice with
  | none => texts.result context false reasonCode none none texts.unit
  | some price => rule price

/-- The value may not exceed the maximum. -/
def atMost (validReason aboveReason : String) (observed maximum : ℚ) : RuleOutcome :=
  if maximum < observed then
    texts.result context false aboveReason (some observed) (some maximum) texts.unit
  else texts.result context true validReason (some observed) (some maximum) texts.unit

/-- The flag has to be set. -/
def flagSet (setReason clearReason : String) (flag : Bool) : RuleOutcome :=
  texts.result context flag (if flag then setReason else clearReason) (some (if flag then 1 else 0)) (some 1)
    texts.unit

section

variable {ctx texts maxStateAge intent context}

theorem onFreshState_passes {σ : Type} {state : Option σ} {observedAt : σ → UTCDateTime}
    {observed bound : Option ℚ} {limit : σ → RuleOutcome} :
    (onFreshState ctx texts maxStateAge context state observedAt observed bound limit).passes = true ↔
      ∃ s, state = some s ∧ Fresh maxStateAge context (observedAt s) ∧ (limit s).passes = true := by
  cases state with
  | none => simp [onFreshState]
  | some s =>
      simp only [onFreshState, Option.some_inj, exists_eq_left', Fresh, sub_nonneg]
      by_cases hfuture : context.evaluatedAt < observedAt s
      · rw [if_pos hfuture, RuleTexts.result_passes]
        simp [not_le.mpr hfuture]
      by_cases hstale : maxStateAge < context.evaluatedAt - observedAt s
      · rw [if_neg hfuture, if_pos hstale, RuleTexts.result_passes]
        simp [not_le.mpr hstale]
      · rw [if_neg hfuture, if_neg hstale]
        simp only [not_lt.mp hfuture, not_lt.mp hstale, and_self, true_and]

theorem onLimitPrice_passes {reasonCode : String} {rule : ℚ → RuleOutcome} :
    (onLimitPrice texts intent context reasonCode rule).passes = true ↔
      ∃ p, intent.limitPrice = some p ∧ (rule p).passes = true := by
  cases h : intent.limitPrice with
  | none => simp [onLimitPrice, h]
  | some p => simp [onLimitPrice, h]

@[simp] theorem atMost_passes {validReason aboveReason : String} {observed maximum : ℚ} :
    (atMost texts context validReason aboveReason observed maximum).passes = true ↔ observed ≤ maximum := by
  unfold atMost
  split_ifs with h
  · simp [h]
  · simp [not_lt.mp h]

@[simp] theorem flagSet_passes {setReason clearReason : String} {flag : Bool} :
    (flagSet texts context setReason clearReason flag).passes = flag := rfl

end

/-! ## Flags: RISK-001, RISK-003, RISK-004, RISK-005 -/

def StrategyEnabledRule.evaluate : RuleOutcome :=
  let texts : RuleTexts := ⟨"RISK-001", "RISK_STRATEGY_STATE", "enabled_flag"⟩
  onFreshState ctx texts maxStateAge context (context.strategyEnabled intent.strategyId) (·.observedAt)
    none (some 1) fun state =>
      flagSet texts context "RISK_STRATEGY_ENABLED" "RISK_STRATEGY_DISABLED" state.value

def MarketEnabledRule.evaluate : RuleOutcome :=
  let texts : RuleTexts := ⟨"RISK-003", "RISK_MARKET_STATE", "enabled_flag"⟩
  onFreshState ctx texts maxStateAge context (context.marketEnabled intent.marketId) (·.observedAt)
    none (some 1) fun state =>
      flagSet texts context "RISK_MARKET_ENABLED" "RISK_MARKET_DISABLED" state.value

def MarketOpenRule.evaluate (openStatuses : List MarketStatus) : RuleOutcome :=
  let texts : RuleTexts := ⟨"RISK-004", "RISK_MARKET_STATUS", "open_status"⟩
  onFreshState ctx texts maxStateAge context (context.marketStatus intent.marketId) (·.observedAt)
    none (some 1) fun state =>
      flagSet texts context "RISK_MARKET_OPEN" "RISK_MARKET_NOT_OPEN" (decide (state.status ∈ openStatuses))

def MarketDataFreshnessRule.evaluate : RuleOutcome :=
  let texts : RuleTexts := ⟨"RISK-005", "RISK_MARKET_DATA", "fresh_flag"⟩
  onFreshState ctx texts maxStateAge context (context.marketDataFresh intent.marketId) (·.observedAt)
    none (some 1) fun state =>
      flagSet texts context "RISK_MARKET_DATA_FRESH" "RISK_MARKET_DATA_NOT_FRESH" state.value

/-! ## Order terms: RISK-006, RISK-007, RISK-008 -/

/-- `(value - minimum) % step`, or the name of the signal that is trapped. -/
def stepRemainder (value minimum step : ℚ) : Except String ℚ :=
  if ctx.overflows (value - minimum) = true then .error "Overflow"
  else (ctx.rem (ctx.sub value minimum) step).elim (.error "InvalidOperation") .ok

/-- Exact arithmetic always has the remainder. -/
theorem stepRemainder_exact (value minimum step : ℚ) : stepRemainder .exact value minimum step =
    .ok (value - minimum - step * DecimalContext.truncate ((value - minimum) / step)) := by
  rw [stepRemainder, DecimalContext.exact_sub, DecimalContext.exact_rem]
  rfl

theorem exact_stepRemainder {value minimum step : ℚ} (hstep : step ≠ 0) :
    stepRemainder .exact value minimum step = .ok 0 ↔ ∃ k : ℤ, value - minimum = k * step := by
  rw [← DecimalContext.exact_rem_eq_zero hstep, DecimalContext.exact_rem, stepRemainder_exact, Except.ok.injEq,
    Option.some_inj]

/-- An intent without a price passes this rule, whatever its bounds. -/
def OrderPriceValidRule.evaluate : RuleOutcome :=
  let texts : RuleTexts := ⟨"RISK-006", "RISK_ORDER_PRICE_BOUNDS", "price"⟩
  match intent.limitPrice with
  | none => texts.result context true "RISK_ORDER_PRICE_NOT_REQUIRED" none none texts.unit
  | some price =>
      onFreshState ctx texts maxStateAge context (context.priceBounds intent.marketId) (·.observedAt)
        (some price) none fun bounds =>
          if price < bounds.minPrice then
            texts.result context false "RISK_ORDER_PRICE_BELOW_MIN" (some price) (some bounds.minPrice)
              "min_price"
          else if bounds.maxPrice < price then
            texts.result context false "RISK_ORDER_PRICE_ABOVE_MAX" (some price) (some bounds.maxPrice)
              "max_price"
          else
            let valid := texts.result context true "RISK_ORDER_PRICE_VALID" (some price)
              (some bounds.maxPrice) texts.unit
            match bounds.tickSize with
            | none => valid
            | some tick =>
                match stepRemainder ctx price bounds.minPrice tick with
                | .error signal => .raised signal
                | .ok r =>
                    if r ≠ 0 then
                      texts.result context false "RISK_ORDER_PRICE_OFF_TICK" (some price) (some tick)
                        "tick_size"
                    else valid

def OrderQuantityLimitRule.evaluate : RuleOutcome :=
  let texts : RuleTexts := ⟨"RISK-007", "RISK_ORDER_QUANTITY_LIMITS", "quantity"⟩
  let quantity := intent.quantity
  onFreshState ctx texts maxStateAge context (context.quantityLimits intent.contractId) (·.observedAt)
    (some quantity) none fun limits =>
      if quantity < limits.minQuantity then
        texts.result context false "RISK_ORDER_QUANTITY_BELOW_MIN" (some quantity)
          (some limits.minQuantity) "min_quantity"
      else if limits.maxQuantity < quantity then
        texts.result context false "RISK_ORDER_QUANTITY_ABOVE_MAX" (some quantity)
          (some limits.maxQuantity) "max_quantity"
      else
        match stepRemainder ctx quantity limits.minQuantity limits.quantityIncrement with
        | .error signal => .raised signal
        | .ok r =>
            if r ≠ 0 then
              texts.result context false "RISK_ORDER_QUANTITY_OFF_INCREMENT" (some quantity)
                (some limits.quantityIncrement) "quantity_increment"
            else
              texts.result context true "RISK_ORDER_QUANTITY_VALID" (some quantity)
                (some limits.maxQuantity) texts.unit

def OrderNotionalLimitRule.evaluate : RuleOutcome :=
  let texts : RuleTexts := ⟨"RISK-008", "RISK_ORDER_NOTIONAL_LIMIT", "notional"⟩
  onLimitPrice texts intent context "RISK_ORDER_NOTIONAL_PRICE_MISSING" fun price =>
    let notional := ctx.mul intent.quantity price
    onFreshState ctx texts maxStateAge context (context.notionalLimits intent.contractId) (·.observedAt)
      (some notional) none fun limit =>
        atMost texts context "RISK_ORDER_NOTIONAL_VALID" "RISK_ORDER_NOTIONAL_ABOVE_MAX" notional
          limit.maxNotional

section

variable {ctx maxStateAge intent context}

/-- Within the bounds and on the grid; where there is no price there is nothing to check. -/
theorem OrderPriceValidRule.evaluate_passes :
    (OrderPriceValidRule.evaluate ctx maxStateAge intent context).passes = true ↔
      ∀ price ∈ intent.limitPrice, ∃ bounds, context.priceBounds intent.marketId = some bounds ∧
        Fresh maxStateAge context bounds.observedAt ∧ bounds.minPrice ≤ price ∧ price ≤ bounds.maxPrice ∧
        ∀ tick ∈ bounds.tickSize, stepRemainder ctx price bounds.minPrice tick = .ok 0 := by
  unfold OrderPriceValidRule.evaluate
  cases hprice : intent.limitPrice with
  | none => simp
  | some price =>
      simp only [onFreshState_passes, Option.mem_some_iff, forall_eq']
      refine exists_congr fun bounds => and_congr_right fun _ => and_congr_right fun _ => ?_
      by_cases hmin : price < bounds.minPrice
      · simp [hmin, not_le.mpr hmin]
      by_cases hmax : bounds.maxPrice < price
      · simp [hmin, hmax, not_le.mpr hmax]
      rw [if_neg hmin, if_neg hmax]
      cases htick : bounds.tickSize with
      | none => simp [not_lt.mp hmin, not_lt.mp hmax]
      | some tick =>
          cases hrem : stepRemainder ctx price bounds.minPrice tick with
          | error signal => simp [hrem]
          | ok r => by_cases hr : r = 0 <;> simp [hrem, hr, not_lt.mp hmin, not_lt.mp hmax]

theorem OrderQuantityLimitRule.evaluate_passes :
    (OrderQuantityLimitRule.evaluate ctx maxStateAge intent context).passes = true ↔
      ∃ limits, context.quantityLimits intent.contractId = some limits ∧
        Fresh maxStateAge context limits.observedAt ∧ limits.minQuantity ≤ intent.quantity ∧
        intent.quantity ≤ limits.maxQuantity ∧
        stepRemainder ctx intent.quantity limits.minQuantity limits.quantityIncrement = .ok 0 := by
  simp only [OrderQuantityLimitRule.evaluate, onFreshState_passes]
  refine exists_congr fun limits => and_congr_right fun _ => and_congr_right fun _ => ?_
  by_cases hmin : intent.quantity < limits.minQuantity
  · simp [hmin, not_le.mpr hmin]
  by_cases hmax : limits.maxQuantity < intent.quantity
  · simp [hmin, hmax, not_le.mpr hmax]
  rw [if_neg hmin, if_neg hmax]
  cases hrem : stepRemainder ctx intent.quantity limits.minQuantity limits.quantityIncrement with
  | error signal => simp
  | ok r => by_cases hr : r = 0 <;> simp [hr, not_lt.mp hmin, not_lt.mp hmax]

end

/-! ## Exposures: RISK-009 to RISK-013 -/

/-- `_signed_quantity`. -/
def signedQuantity : ℚ :=
  match intent.side with
  | .buy => intent.quantity
  | .sell => ctx.neg intent.quantity

def MarketPositionLimitRule.evaluate : RuleOutcome :=
  let texts : RuleTexts := ⟨"RISK-009", "RISK_MARKET_POSITION_STATE", "position"⟩
  onFreshState ctx texts maxStateAge context (context.marketPositions intent.marketId) (·.observedAt)
    none none fun state =>
      let projectedPosition := ctx.add (state.effectivePosition ctx) (signedQuantity ctx intent)
      atMost texts context "RISK_MARKET_POSITION_VALID" "RISK_MARKET_POSITION_ABOVE_MAX"
        (ctx.abs projectedPosition) state.maxPosition

theorem MarketPositionLimitRule.evaluate_passes {ctx : DecimalContext} {maxStateAge : Timedelta}
    {intent : OrderIntent} {context : RiskContext} :
    (MarketPositionLimitRule.evaluate ctx maxStateAge intent context).passes = true ↔
      ∃ state, context.marketPositions intent.marketId = some state ∧
        Fresh maxStateAge context state.observedAt ∧
        ctx.abs (ctx.add (state.effectivePosition ctx) (signedQuantity ctx intent)) ≤ state.maxPosition := by
  simp only [MarketPositionLimitRule.evaluate, onFreshState_passes, atMost_passes]

def PortfolioGrossLimitRule.evaluate : RuleOutcome :=
  let texts : RuleTexts := ⟨"RISK-010", "RISK_PORTFOLIO_GROSS_STATE", "gross_exposure"⟩
  onLimitPrice texts intent context "RISK_PORTFOLIO_GROSS_PRICE_MISSING" fun price =>
    let intentExposure := ctx.mul intent.quantity price
    onFreshState ctx texts maxStateAge context context.portfolioGrossExposure (·.observedAt)
      (some intentExposure) none fun state =>
        atMost texts context "RISK_PORTFOLIO_GROSS_VALID" "RISK_PORTFOLIO_GROSS_ABOVE_MAX"
          (ctx.add (state.effectiveGrossExposure ctx) intentExposure) state.maxGrossExposure

/-- `_signed_notional`. -/
def signedNotional (price : ℚ) : ℚ :=
  match intent.side with
  | .buy => ctx.mul intent.quantity price
  | .sell => ctx.neg (ctx.mul intent.quantity price)

def PortfolioNetLimitRule.evaluate : RuleOutcome :=
  let texts : RuleTexts := ⟨"RISK-011", "RISK_PORTFOLIO_NET_STATE", "net_exposure"⟩
  onLimitPrice texts intent context "RISK_PORTFOLIO_NET_PRICE_MISSING" fun price =>
    let intentNetExposure := signedNotional ctx intent price
    onFreshState ctx texts maxStateAge context context.portfolioNetExposure (·.observedAt)
      (some (ctx.abs intentNetExposure)) none fun state =>
        let projectedNetExposure := ctx.add (state.effectiveNetExposure ctx) intentNetExposure
        atMost texts context "RISK_PORTFOLIO_NET_VALID" "RISK_PORTFOLIO_NET_ABOVE_MAX"
          (ctx.abs projectedNetExposure) state.maxNetExposure

def StrategyCapitalLimitRule.evaluate : RuleOutcome :=
  let texts : RuleTexts := ⟨"RISK-012", "RISK_STRATEGY_CAPITAL_STATE", "capital"⟩
  onLimitPrice texts intent context "RISK_STRATEGY_CAPITAL_PRICE_MISSING" fun price =>
    let intentCapital := ctx.mul intent.quantity price
    onFreshState ctx texts maxStateAge context (context.strategyCapital intent.strategyId) (·.observedAt)
      (some intentCapital) none fun state =>
        atMost texts context "RISK_STRATEGY_CAPITAL_VALID" "RISK_STRATEGY_CAPITAL_ABOVE_MAX"
          (ctx.add (state.effectiveCapitalUsed ctx) intentCapital) state.maxStrategyCapital

/-- The only rule with two lookups: the market's exchange, then the exchange's capital. -/
def ExchangeCapitalLimitRule.evaluate : RuleOutcome :=
  let texts : RuleTexts := ⟨"RISK-013", "RISK_EXCHANGE_CAPITAL_STATE", "capital"⟩
  onLimitPrice texts intent context "RISK_EXCHANGE_CAPITAL_PRICE_MISSING" fun price =>
    let intentCapital := ctx.mul intent.quantity price
    match context.marketExchanges intent.marketId with
    | none =>
        texts.result context false "RISK_EXCHANGE_CAPITAL_EXCHANGE_MISSING" (some intentCapital) none
          texts.unit
    | some exchangeId =>
        onFreshState ctx texts maxStateAge context (context.exchangeCapital exchangeId) (·.observedAt)
          (some intentCapital) none fun state =>
            atMost texts context "RISK_EXCHANGE_CAPITAL_VALID" "RISK_EXCHANGE_CAPITAL_ABOVE_MAX"
              (ctx.add (state.effectiveCapitalUsed ctx) intentCapital) state.maxExchangeCapital

section

variable {ctx maxStateAge intent context}

theorem ExchangeCapitalLimitRule.evaluate_passes :
    (ExchangeCapitalLimitRule.evaluate ctx maxStateAge intent context).passes = true ↔
      ∃ price, intent.limitPrice = some price ∧
      ∃ exchangeId, context.marketExchanges intent.marketId = some exchangeId ∧
      ∃ state, context.exchangeCapital exchangeId = some state ∧
        Fresh maxStateAge context state.observedAt ∧
        ctx.add (state.effectiveCapitalUsed ctx) (ctx.mul intent.quantity price)
          ≤ state.maxExchangeCapital := by
  simp only [ExchangeCapitalLimitRule.evaluate, onLimitPrice_passes]
  refine exists_congr fun price => and_congr_right fun _ => ?_
  cases context.marketExchanges intent.marketId with
  | none => simp
  | some exchangeId => simp [onFreshState_passes]

end

/-! ## Losses, orders, balances: RISK-014 to RISK-017 -/

def DailyLossLimitRule.evaluate : RuleOutcome :=
  let texts : RuleTexts := ⟨"RISK-014", "RISK_DAILY_LOSS_STATE", "loss"⟩
  onFreshState ctx texts maxStateAge context context.dailyLoss (·.observedAt) none none fun state =>
    atMost texts context "RISK_DAILY_LOSS_VALID" "RISK_DAILY_LOSS_ABOVE_MAX" (state.currentDailyLoss ctx)
      state.maxDailyLoss

def OpenOrderLimitRule.evaluate : RuleOutcome :=
  let texts : RuleTexts := ⟨"RISK-015", "RISK_OPEN_ORDER_LIMIT_STATE", "orders"⟩
  onFreshState ctx texts maxStateAge context context.openOrderLimit (·.observedAt) none none fun state =>
    atMost texts context "RISK_OPEN_ORDER_LIMIT_VALID" "RISK_OPEN_ORDER_LIMIT_ABOVE_MAX"
      (ctx.add state.effectiveOpenOrderCount 1) state.maxOpenOrders

def DuplicateOrderGuardRule.evaluate : RuleOutcome :=
  let texts : RuleTexts := ⟨"RISK-016", "RISK_DUPLICATE_ORDER_STATE", "duplicate_count"⟩
  onFreshState ctx texts maxStateAge context context.duplicateOrderGuard (·.observedAt)
    none (some 0) fun state =>
      if intent.intentId ∈ state.knownIntentIds then
        texts.result context false "RISK_DUPLICATE_INTENT_ID" (some 1) (some 0) texts.unit
      else if intent.idempotencyKey ∈ state.knownIdempotencyKeys then
        texts.result context false "RISK_DUPLICATE_IDEMPOTENCY_KEY" (some 1) (some 0) texts.unit
      else texts.result context true "RISK_DUPLICATE_ORDER_VALID" (some 0) (some 0) texts.unit

def AvailableBalanceRule.evaluate : RuleOutcome :=
  let texts : RuleTexts := ⟨"RISK-017", "RISK_AVAILABLE_BALANCE_STATE", "balance"⟩
  onLimitPrice texts intent context "RISK_AVAILABLE_BALANCE_PRICE_MISSING" fun price =>
    let requiredBalance := ctx.mul intent.quantity price
    onFreshState ctx texts maxStateAge context context.availableBalance (·.observedAt)
      (some requiredBalance) none fun state =>
        atMost texts context "RISK_AVAILABLE_BALANCE_VALID" "RISK_AVAILABLE_BALANCE_INSUFFICIENT"
          requiredBalance (state.effectiveAvailableBalance ctx)

section

variable {ctx maxStateAge intent context}

theorem DuplicateOrderGuardRule.evaluate_passes :
    (DuplicateOrderGuardRule.evaluate ctx maxStateAge intent context).passes = true ↔
      ∃ state, context.duplicateOrderGuard = some state ∧ Fresh maxStateAge context state.observedAt ∧
        intent.intentId ∉ state.knownIntentIds ∧ intent.idempotencyKey ∉ state.knownIdempotencyKeys := by
  simp only [DuplicateOrderGuardRule.evaluate, onFreshState_passes]
  refine exists_congr fun state => and_congr_right fun _ => and_congr_right fun _ => ?_
  by_cases hid : intent.intentId ∈ state.knownIntentIds
  · simp [hid]
  by_cases hkey : intent.idempotencyKey ∈ state.knownIdempotencyKeys <;> simp [hid, hkey]

theorem AvailableBalanceRule.evaluate_passes :
    (AvailableBalanceRule.evaluate ctx maxStateAge intent context).passes = true ↔
      ∃ price, intent.limitPrice = some price ∧
      ∃ state, context.availableBalance = some state ∧ Fresh maxStateAge context state.observedAt ∧
        ctx.mul intent.quantity price ≤ state.effectiveAvailableBalance ctx := by
  simp only [AvailableBalanceRule.evaluate, onLimitPrice_passes, onFreshState_passes, atMost_passes]

end

/-! ## Gates: RISK-018, RISK-019, RISK-020 -/

def ReconciliationHealthRule.evaluate : RuleOutcome :=
  let texts : RuleTexts := ⟨"RISK-018", "RISK_RECONCILIATION_HEALTH_STATE", "healthy_flag"⟩
  onFreshState ctx texts maxStateAge context context.reconciliationHealth (·.observedAt)
    none (some 1) fun state =>
      if state.status ≠ .healthy then
        texts.result context false "RISK_RECONCILIATION_UNHEALTHY_STATUS" (some 0) (some 1) texts.unit
      else if state.tradingGateReleased = false then
        texts.result context false "RISK_RECONCILIATION_GATE_HELD" (some 0) (some 1) texts.unit
      else if 0 < state.manualReviewCount then
        texts.result context false "RISK_RECONCILIATION_MANUAL_REVIEW_REQUIRED"
          (some state.manualReviewCount) (some 0) "manual_review_count"
      else if 0 < state.unresolvedMismatchCount then
        texts.result context false "RISK_RECONCILIATION_MISMATCHES_PRESENT"
          (some state.unresolvedMismatchCount) (some 0) "mismatch_count"
      else texts.result context true "RISK_RECONCILIATION_HEALTHY" (some 1) (some 1) texts.unit

def KillSwitchClearRule.evaluate : RuleOutcome :=
  let texts : RuleTexts := ⟨"RISK-019", "RISK_KILL_SWITCH_STATE", "clear_flag"⟩
  onFreshState ctx texts maxStateAge context context.killSwitchClear (·.observedAt)
    none (some 1) fun state =>
      if state.activeScopes.Nonempty then
        texts.result context false "RISK_KILL_SWITCH_ACTIVE" (some state.activeScopes.card) (some 0)
          "active_scope_count"
      else if state.clear = false then
        texts.result context false "RISK_KILL_SWITCH_NOT_CLEAR" (some 0) (some 1) texts.unit
      else texts.result context true "RISK_KILL_SWITCH_CLEAR" (some 1) (some 1) texts.unit

def ArbitrageLegRiskRule.evaluate : RuleOutcome :=
  let texts : RuleTexts := ⟨"RISK-020", "RISK_ARBITRAGE_LEG_STATE", "quantity"⟩
  onFreshState ctx texts maxStateAge context context.arbitrageLeg (·.observedAt) none none fun state =>
    let current := state.currentUnhedgedQuantity
    if state.maxUnhedgedQuantity < current then
      texts.result context false "RISK_ARBITRAGE_LEG_EXPOSURE_ABOVE_MAX" (some current)
        (some state.maxUnhedgedQuantity) texts.unit
    else
      let valid := texts.result context true "RISK_ARBITRAGE_LEG_VALID" (some current)
        (some state.maxUnhedgedQuantity) texts.unit
      match state.hedgeDeadlineAt with
      | none =>
          if 0 < current then
            texts.result context false "RISK_ARBITRAGE_HEDGE_DEADLINE_MISSING" none none "deadline"
          else valid
      | some deadline =>
          if 0 < current ∧ deadline < context.evaluatedAt then
            texts.result context false "RISK_ARBITRAGE_HEDGE_TIMEOUT_EXPIRED"
              (some (timedeltaMilliseconds ctx (context.evaluatedAt - deadline))) (some 0) "milliseconds"
          else valid

section

variable {ctx maxStateAge context}

theorem ReconciliationHealthRule.evaluate_passes :
    (ReconciliationHealthRule.evaluate ctx maxStateAge context).passes = true ↔
      ∃ state, context.reconciliationHealth = some state ∧ Fresh maxStateAge context state.observedAt ∧
        state.status = .healthy ∧ state.tradingGateReleased = true ∧ state.manualReviewCount = 0 ∧
        state.unresolvedMismatchCount = 0 := by
  simp only [ReconciliationHealthRule.evaluate, onFreshState_passes]
  refine exists_congr fun state => and_congr_right fun _ => and_congr_right fun _ => ?_
  simp only [Nat.pos_iff_ne_zero]
  split_ifs with hstatus hgate hreview hmismatch <;> simp_all

/-- A state that is clear has no active scope, so the second check decides. -/
theorem KillSwitchClearRule.evaluate_passes :
    (KillSwitchClearRule.evaluate ctx maxStateAge context).passes = true ↔
      ∃ state, context.killSwitchClear = some state ∧ Fresh maxStateAge context state.observedAt ∧
        state.clear = true := by
  simp only [KillSwitchClearRule.evaluate, onFreshState_passes]
  refine exists_congr fun state => and_congr_right fun _ => and_congr_right fun _ => ?_
  split_ifs with hactive hclear
  · have hheld : state.clear ≠ true := fun h => hactive.ne_empty (state.clear_empty h)
    simp [hheld]
  · simp [hclear]
  · simp [hclear]

theorem ArbitrageLegRiskRule.evaluate_passes :
    (ArbitrageLegRiskRule.evaluate ctx maxStateAge context).passes = true ↔
      ∃ state, context.arbitrageLeg = some state ∧ Fresh maxStateAge context state.observedAt ∧
        state.currentUnhedgedQuantity ≤ state.maxUnhedgedQuantity ∧
        (0 < state.currentUnhedgedQuantity →
          ∃ deadline, state.hedgeDeadlineAt = some deadline ∧ context.evaluatedAt ≤ deadline) := by
  simp only [ArbitrageLegRiskRule.evaluate, onFreshState_passes]
  refine exists_congr fun state => and_congr_right fun _ => and_congr_right fun _ => ?_
  by_cases hmax : state.maxUnhedgedQuantity < state.currentUnhedgedQuantity
  · simp [hmax, not_le.mpr hmax]
  rw [if_neg hmax]
  cases hdeadline : state.hedgeDeadlineAt with
  | none => by_cases hopen : 0 < state.currentUnhedgedQuantity <;> simp [hopen, not_lt.mp hmax]
  | some deadline =>
      by_cases hopen : 0 < state.currentUnhedgedQuantity
      · by_cases hlate : deadline < context.evaluatedAt
        · simp [hopen, hlate, not_le.mpr hlate]
        · simp [hopen, hlate, not_lt.mp hlate, not_lt.mp hmax]
      · simp [hopen, not_lt.mp hmax]

end

end Pmrp
