import Pmrp.Risk.Engine

/-!
# `Risk.Builtins` — the built-in rules as rules of an engine

`BuiltinRule` is any rule the package exports, with its configuration. Two facts hold of all of them and
carry every result about an engine built from them.

- `evaluate_returns`: in exact arithmetic a built-in rule neither raises nor returns an invalid result.
- `evaluate_passes`: it passes exactly when it allows the intent, where `Allows` says what the rule is for:
  the state it needs is there, it is fresh, and the limit holds.
-/

namespace Pmrp

def MarketStatus.value : MarketStatus → String
  | .discovered => "discovered"
  | .open => "open"
  | .halted => "halted"
  | .closed => "closed"
  | .pendingResolution => "pending_resolution"
  | .resolved => "resolved"
  | .finalized => "finalized"
  | .settled => "settled"
  | .cancelled => "cancelled"
  | .unknown => "unknown"

inductive RuleKind
  | strategyEnabled
  | marketEnabled
  | marketOpen (openStatuses : List MarketStatus) (openStatuses_ne : openStatuses ≠ [])
  | marketDataFreshness
  | orderPriceValid
  | orderQuantityLimit
  | orderNotionalLimit
  | marketPositionLimit
  | portfolioGrossLimit
  | portfolioNetLimit
  | strategyCapitalLimit
  | exchangeCapitalLimit
  | dailyLossLimit
  | openOrderLimit
  | duplicateOrderGuard
  | availableBalance
  | reconciliationHealth
  | killSwitchClear
  | arbitrageLegRisk

structure BuiltinRule where
  kind : RuleKind
  maxStateAge : Timedelta
  maxStateAge_pos : 0 < maxStateAge

namespace RuleKind

def ruleId : RuleKind → String
  | strategyEnabled => "RISK-001"
  | marketEnabled => "RISK-003"
  | marketOpen _ _ => "RISK-004"
  | marketDataFreshness => "RISK-005"
  | orderPriceValid => "RISK-006"
  | orderQuantityLimit => "RISK-007"
  | orderNotionalLimit => "RISK-008"
  | marketPositionLimit => "RISK-009"
  | portfolioGrossLimit => "RISK-010"
  | portfolioNetLimit => "RISK-011"
  | strategyCapitalLimit => "RISK-012"
  | exchangeCapitalLimit => "RISK-013"
  | dailyLossLimit => "RISK-014"
  | openOrderLimit => "RISK-015"
  | duplicateOrderGuard => "RISK-016"
  | availableBalance => "RISK-017"
  | reconciliationHealth => "RISK-018"
  | killSwitchClear => "RISK-019"
  | arbitrageLegRisk => "RISK-020"

/-- The module of the rule under `pmrp.risk.rules`, and its class. -/
def ruleClass : RuleKind → String
  | strategyEnabled => "strategy_enabled.StrategyEnabledRule"
  | marketEnabled => "market_enabled.MarketEnabledRule"
  | marketOpen _ _ => "market_open.MarketOpenRule"
  | marketDataFreshness => "data_freshness.MarketDataFreshnessRule"
  | orderPriceValid => "order_price.OrderPriceValidRule"
  | orderQuantityLimit => "order_quantity.OrderQuantityLimitRule"
  | orderNotionalLimit => "order_notional.OrderNotionalLimitRule"
  | marketPositionLimit => "position_limit.MarketPositionLimitRule"
  | portfolioGrossLimit => "portfolio_gross.PortfolioGrossLimitRule"
  | portfolioNetLimit => "portfolio_net.PortfolioNetLimitRule"
  | strategyCapitalLimit => "strategy_capital.StrategyCapitalLimitRule"
  | exchangeCapitalLimit => "exchange_capital.ExchangeCapitalLimitRule"
  | dailyLossLimit => "daily_loss.DailyLossLimitRule"
  | openOrderLimit => "open_order_limit.OpenOrderLimitRule"
  | duplicateOrderGuard => "duplicate_guard.DuplicateOrderGuardRule"
  | availableBalance => "balance.AvailableBalanceRule"
  | reconciliationHealth => "reconciliation.ReconciliationHealthRule"
  | killSwitchClear => "kill_switch.KillSwitchClearRule"
  | arbitrageLegRisk => "arbitrage.ArbitrageLegRiskRule"

variable (ctx : DecimalContext) (maxStateAge : Timedelta) (intent : OrderIntent) (context : RiskContext)

def evaluate : RuleKind → RuleOutcome
  | strategyEnabled => StrategyEnabledRule.evaluate ctx maxStateAge intent context
  | marketEnabled => MarketEnabledRule.evaluate ctx maxStateAge intent context
  | marketOpen statuses _ => MarketOpenRule.evaluate ctx maxStateAge intent context statuses
  | marketDataFreshness => MarketDataFreshnessRule.evaluate ctx maxStateAge intent context
  | orderPriceValid => OrderPriceValidRule.evaluate ctx maxStateAge intent context
  | orderQuantityLimit => OrderQuantityLimitRule.evaluate ctx maxStateAge intent context
  | orderNotionalLimit => OrderNotionalLimitRule.evaluate ctx maxStateAge intent context
  | marketPositionLimit => MarketPositionLimitRule.evaluate ctx maxStateAge intent context
  | portfolioGrossLimit => PortfolioGrossLimitRule.evaluate ctx maxStateAge intent context
  | portfolioNetLimit => PortfolioNetLimitRule.evaluate ctx maxStateAge intent context
  | strategyCapitalLimit => StrategyCapitalLimitRule.evaluate ctx maxStateAge intent context
  | exchangeCapitalLimit => ExchangeCapitalLimitRule.evaluate ctx maxStateAge intent context
  | dailyLossLimit => DailyLossLimitRule.evaluate ctx maxStateAge context
  | openOrderLimit => OpenOrderLimitRule.evaluate ctx maxStateAge context
  | duplicateOrderGuard => DuplicateOrderGuardRule.evaluate ctx maxStateAge intent context
  | availableBalance => AvailableBalanceRule.evaluate ctx maxStateAge intent context
  | reconciliationHealth => ReconciliationHealthRule.evaluate ctx maxStateAge context
  | killSwitchClear => KillSwitchClearRule.evaluate ctx maxStateAge context
  | arbitrageLegRisk => ArbitrageLegRiskRule.evaluate ctx maxStateAge context

theorem ruleId_ne (kind : RuleKind) : kind.ruleId ≠ "" := by cases kind <;> simp [ruleId]

end RuleKind

/-- `_rule_parameters`: the dataclass fields. -/
def BuiltinRule.parameters (rule : BuiltinRule) : CanonicalData :=
  .mapping (("max_state_age", canonicalTimedelta rule.maxStateAge) ::
    match rule.kind with
    | .marketOpen statuses _ => [("open_statuses", .list (statuses.map fun s => .str s.value))]
    | _ => [])

theorem builtinRuleVersion_ne : builtinRuleVersion ≠ "" := by decide

def BuiltinRule.toRiskRule (ctx : DecimalContext) (rule : BuiltinRule) : RiskRule where
  ruleId := rule.kind.ruleId
  version := builtinRuleVersion
  ruleClass := "pmrp.risk.rules." ++ rule.kind.ruleClass
  parameters := rule.parameters
  evaluate intent context := rule.kind.evaluate ctx rule.maxStateAge intent context
  ruleId_ne := rule.kind.ruleId_ne
  version_ne := builtinRuleVersion_ne

/-! ## What a rule is for -/

/-- A state that is present and fresh, of which `P` holds. -/
def HasFresh {σ : Type} (maxStateAge : Timedelta) (context : RiskContext) (state : Option σ)
    (observedAt : σ → UTCDateTime) (P : σ → Prop) : Prop :=
  ∃ s, state = some s ∧ Fresh maxStateAge context (observedAt s) ∧ P s

/-- The position change the intent asks for. -/
def OrderIntent.signed (intent : OrderIntent) : ℚ :=
  match intent.side with
  | .buy => intent.quantity
  | .sell => -intent.quantity

/-- The limit of each rule, for an intent with this limit price, as exact arithmetic reads it. -/
def BuiltinRule.Allows (rule : BuiltinRule) (intent : OrderIntent) (price : ℚ) (context : RiskContext) :
    Prop :=
  let has {σ : Type} (state : Option σ) (observedAt : σ → UTCDateTime) (P : σ → Prop) : Prop :=
    HasFresh rule.maxStateAge context state observedAt P
  match rule.kind with
  | .strategyEnabled =>
      has (context.strategyEnabled intent.strategyId) (·.observedAt) fun s => s.value = true
  | .marketEnabled =>
      has (context.marketEnabled intent.marketId) (·.observedAt) fun s => s.value = true
  | .marketOpen statuses _ =>
      has (context.marketStatus intent.marketId) (·.observedAt) fun s => s.status ∈ statuses
  | .marketDataFreshness =>
      has (context.marketDataFresh intent.marketId) (·.observedAt) fun s => s.value = true
  | .orderPriceValid =>
      has (context.priceBounds intent.marketId) (·.observedAt) fun s =>
        s.minPrice ≤ price ∧ price ≤ s.maxPrice ∧
        ∀ tick ∈ s.tickSize, ∃ k : ℤ, price - s.minPrice = k * tick
  | .orderQuantityLimit =>
      has (context.quantityLimits intent.contractId) (·.observedAt) fun s =>
        s.minQuantity ≤ intent.quantity ∧ intent.quantity ≤ s.maxQuantity ∧
        ∃ k : ℤ, intent.quantity - s.minQuantity = k * s.quantityIncrement
  | .orderNotionalLimit =>
      has (context.notionalLimits intent.contractId) (·.observedAt) fun s =>
        intent.quantity * price ≤ s.maxNotional
  | .marketPositionLimit =>
      has (context.marketPositions intent.marketId) (·.observedAt) fun s =>
        |s.currentPosition + s.openOrderPositionDelta + s.reservedPositionDelta + intent.signed|
          ≤ s.maxPosition
  | .portfolioGrossLimit =>
      has context.portfolioGrossExposure (·.observedAt) fun s =>
        s.currentGrossExposure + s.openOrderGrossExposure + s.reservedGrossExposure
          + intent.quantity * price ≤ s.maxGrossExposure
  | .portfolioNetLimit =>
      has context.portfolioNetExposure (·.observedAt) fun s =>
        |s.currentNetExposure + s.openOrderNetExposureDelta + s.reservedNetExposureDelta
          + intent.signed * price| ≤ s.maxNetExposure
  | .strategyCapitalLimit =>
      has (context.strategyCapital intent.strategyId) (·.observedAt) fun s =>
        s.currentCapitalUsed + s.openOrderCapital + s.reservedCapital + intent.quantity * price
          ≤ s.maxStrategyCapital
  | .exchangeCapitalLimit =>
      ∃ exchangeId, context.marketExchanges intent.marketId = some exchangeId ∧
        has (context.exchangeCapital exchangeId) (·.observedAt) fun s =>
          s.currentCapitalUsed + s.openOrderCapital + s.reservedCapital + intent.quantity * price
            ≤ s.maxExchangeCapital
  | .dailyLossLimit =>
      has context.dailyLoss (·.observedAt) fun s =>
        -(s.dailyRealizedPnl + s.dailyUnrealizedPnl) ≤ s.maxDailyLoss
  | .openOrderLimit =>
      has context.openOrderLimit (·.observedAt) fun s =>
        s.currentOpenOrders + s.pendingCancelOrders + s.reservedOpenOrders < s.maxOpenOrders
  | .duplicateOrderGuard =>
      has context.duplicateOrderGuard (·.observedAt) fun s =>
        intent.intentId ∉ s.knownIntentIds ∧ intent.idempotencyKey ∉ s.knownIdempotencyKeys
  | .availableBalance =>
      has context.availableBalance (·.observedAt) fun s =>
        intent.quantity * price ≤ s.availableBalance - s.reservedBalance
  | .reconciliationHealth =>
      has context.reconciliationHealth (·.observedAt) fun s =>
        s.status = .healthy ∧ s.tradingGateReleased = true ∧ s.manualReviewCount = 0 ∧
        s.unresolvedMismatchCount = 0
  | .killSwitchClear =>
      has context.killSwitchClear (·.observedAt) fun s => s.clear = true
  | .arbitrageLegRisk =>
      has context.arbitrageLeg (·.observedAt) fun s =>
        s.currentUnhedgedQuantity ≤ s.maxUnhedgedQuantity ∧
        (0 < s.currentUnhedgedQuantity →
          ∃ deadline, s.hedgeDeadlineAt = some deadline ∧ context.evaluatedAt ≤ deadline)

/-! ## Passing is allowing -/

section

variable {maxStateAge : Timedelta} {intent : OrderIntent} {context : RiskContext}

theorem signedQuantity_exact : signedQuantity .exact intent = intent.signed := by
  unfold signedQuantity OrderIntent.signed
  cases intent.side <;> rfl

theorem signedNotional_exact {price : ℚ} : signedNotional .exact intent price = intent.signed * price := by
  unfold signedNotional OrderIntent.signed
  cases intent.side with
  | buy => rfl
  | sell => exact (neg_mul _ _).symm

/-- A loss within the maximum, which is positive, is a bound on the negated total. -/
theorem currentDailyLoss_le {s : RiskDailyLossState} :
    s.currentDailyLoss .exact ≤ s.maxDailyLoss ↔
      -(s.dailyRealizedPnl + s.dailyUnrealizedPnl) ≤ s.maxDailyLoss := by
  have hmax := s.max_pos
  unfold RiskDailyLossState.currentDailyLoss RiskDailyLossState.totalDailyPnl
  by_cases h : 0 ≤ DecimalContext.exact.add s.dailyRealizedPnl s.dailyUnrealizedPnl
  · rw [if_pos h]
    rw [DecimalContext.exact_add] at h
    constructor <;> intro _ <;> linarith
  · rw [if_neg h, DecimalContext.exact_neg, DecimalContext.exact_add]

theorem openOrders_add_one_le {s : RiskOpenOrderLimitState} :
    DecimalContext.exact.add s.effectiveOpenOrderCount 1 ≤ (s.maxOpenOrders : ℚ) ↔
      s.currentOpenOrders + s.pendingCancelOrders + s.reservedOpenOrders < s.maxOpenOrders := by
  rw [DecimalContext.exact_add, RiskOpenOrderLimitState.effectiveOpenOrderCount, ← Nat.cast_one,
    ← Nat.cast_add, Nat.cast_le, Nat.add_one_le_iff]

end

/-- **Every built-in rule decides its limit.** For an intent with a limit price and in exact arithmetic, a
    rule passes exactly when it allows the intent. -/
theorem BuiltinRule.evaluate_passes {rule : BuiltinRule} {intent : OrderIntent} {price : ℚ}
    {context : RiskContext} (hprice : intent.limitPrice = some price) :
    (rule.kind.evaluate .exact rule.maxStateAge intent context).passes = true ↔
      rule.Allows intent price context := by
  obtain ⟨kind, maxStateAge, -⟩ := rule
  cases kind with
  | strategyEnabled =>
      simp only [RuleKind.evaluate, StrategyEnabledRule.evaluate, onFreshState_passes, flagSet_passes,
        Allows, HasFresh]
  | marketEnabled =>
      simp only [RuleKind.evaluate, MarketEnabledRule.evaluate, onFreshState_passes, flagSet_passes,
        Allows, HasFresh]
  | marketOpen statuses hne =>
      simp only [RuleKind.evaluate, MarketOpenRule.evaluate, onFreshState_passes, flagSet_passes,
        decide_eq_true_eq, Allows, HasFresh]
  | marketDataFreshness =>
      simp only [RuleKind.evaluate, MarketDataFreshnessRule.evaluate, onFreshState_passes, flagSet_passes,
        Allows, HasFresh]
  | orderPriceValid =>
      simp only [RuleKind.evaluate, OrderPriceValidRule.evaluate_passes, hprice, Option.mem_some_iff,
        forall_eq', Allows, HasFresh]
      -- a price is on the tick grid when no remainder is left of its distance from the lowest price
      refine exists_congr fun bounds => and_congr_right fun _ => and_congr_right fun _ =>
        and_congr_right fun _ => and_congr_right fun _ => forall₂_congr fun tick htick => ?_
      exact exact_stepRemainder (bounds.tickSize_pos tick htick).ne'
  | orderQuantityLimit =>
      simp only [RuleKind.evaluate, OrderQuantityLimitRule.evaluate_passes, Allows, HasFresh]
      refine exists_congr fun limits => and_congr_right fun _ => and_congr_right fun _ =>
        and_congr_right fun _ => and_congr_right fun _ => ?_
      exact exact_stepRemainder limits.increment_pos.ne'
  | orderNotionalLimit =>
      simp only [RuleKind.evaluate, OrderNotionalLimitRule.evaluate, onLimitPrice_passes, hprice,
        Option.some_inj, exists_eq_left', onFreshState_passes, atMost_passes, DecimalContext.exact_mul,
        Allows, HasFresh]
  | marketPositionLimit =>
      simp only [RuleKind.evaluate, MarketPositionLimitRule.evaluate_passes, signedQuantity_exact,
        RiskMarketPositionState.effectivePosition, DecimalContext.exact_add, DecimalContext.exact_abs,
        Allows, HasFresh]
  | portfolioGrossLimit =>
      simp only [RuleKind.evaluate, PortfolioGrossLimitRule.evaluate, onLimitPrice_passes, hprice,
        Option.some_inj, exists_eq_left', onFreshState_passes, atMost_passes,
        RiskPortfolioGrossExposureState.effectiveGrossExposure, DecimalContext.exact_add,
        DecimalContext.exact_mul, Allows, HasFresh]
  | portfolioNetLimit =>
      simp only [RuleKind.evaluate, PortfolioNetLimitRule.evaluate, onLimitPrice_passes, hprice,
        Option.some_inj, exists_eq_left', onFreshState_passes, atMost_passes, signedNotional_exact,
        RiskPortfolioNetExposureState.effectiveNetExposure, DecimalContext.exact_add,
        DecimalContext.exact_abs, Allows, HasFresh]
  | strategyCapitalLimit =>
      simp only [RuleKind.evaluate, StrategyCapitalLimitRule.evaluate, onLimitPrice_passes, hprice,
        Option.some_inj, exists_eq_left', onFreshState_passes, atMost_passes,
        RiskStrategyCapitalState.effectiveCapitalUsed, DecimalContext.exact_add,
        DecimalContext.exact_mul, Allows, HasFresh]
  | exchangeCapitalLimit =>
      simp only [RuleKind.evaluate, ExchangeCapitalLimitRule.evaluate_passes, hprice, Option.some_inj,
        exists_eq_left', RiskExchangeCapitalState.effectiveCapitalUsed, DecimalContext.exact_add,
        DecimalContext.exact_mul, Allows, HasFresh]
  | dailyLossLimit =>
      simp only [RuleKind.evaluate, DailyLossLimitRule.evaluate, onFreshState_passes, atMost_passes,
        currentDailyLoss_le, Allows, HasFresh]
  | openOrderLimit =>
      simp only [RuleKind.evaluate, OpenOrderLimitRule.evaluate, onFreshState_passes, atMost_passes,
        openOrders_add_one_le, Allows, HasFresh]
  | duplicateOrderGuard =>
      simp only [RuleKind.evaluate, DuplicateOrderGuardRule.evaluate_passes, Allows, HasFresh]
  | availableBalance =>
      simp only [RuleKind.evaluate, AvailableBalanceRule.evaluate_passes, hprice, Option.some_inj,
        exists_eq_left', RiskAvailableBalanceState.effectiveAvailableBalance, DecimalContext.exact_sub,
        DecimalContext.exact_mul, Allows, HasFresh]
  | reconciliationHealth =>
      simp only [RuleKind.evaluate, ReconciliationHealthRule.evaluate_passes, Allows, HasFresh]
  | killSwitchClear =>
      simp only [RuleKind.evaluate, KillSwitchClearRule.evaluate_passes, Allows, HasFresh]
  | arbitrageLegRisk =>
      simp only [RuleKind.evaluate, ArbitrageLegRiskRule.evaluate_passes, Allows, HasFresh]

/-! ## Returning a valid result -/

namespace RuleOutcome

/-- A result was returned, and it satisfies the constraints of its fields. -/
def Returns (o : RuleOutcome) : Prop := ∃ r, o = .returned r ∧ r.Valid

end RuleOutcome

/-- The texts leave room for the last word of a reason code. -/
def RuleTexts.Fit (texts : RuleTexts) : Prop :=
  TextWithin riskIdMaxLength texts.ruleId ∧ TextWithin 100 texts.stateReason ∧ TextWithin 64 texts.unit

theorem RuleTexts.Fit.ofList {ruleId stateReason unit : List Char}
    (h : (1 ≤ ruleId.length ∧ ruleId.length ≤ riskIdMaxLength) ∧
      (1 ≤ stateReason.length ∧ stateReason.length ≤ 100) ∧ (1 ≤ unit.length ∧ unit.length ≤ 64)) :
    RuleTexts.Fit ⟨String.ofList ruleId, String.ofList stateReason, String.ofList unit⟩ :=
  ⟨.ofList h.1, .ofList h.2.1, .ofList h.2.2⟩

section

variable {texts : RuleTexts} {maxStateAge : Timedelta} {intent : OrderIntent} {context : RiskContext}

theorem RuleTexts.Fit.result (h : texts.Fit) {passed : Bool} {reasonCode unit : String}
    {observed limit : Option ℚ} (hreason : TextWithin riskIdMaxLength reasonCode)
    (hunit : TextWithin 64 unit) :
    (texts.result context passed reasonCode observed limit unit).Returns := by
  refine ⟨_, rfl, h.1, ?_, hreason, ?_, ?_⟩
  · exact .ofList (by decide)
  · rintro _ ⟨⟩
  · rintro _ ⟨⟩; exact hunit

theorem RuleTexts.Fit.reason (h : texts.Fit) {word : String} (hword : word.length ≤ 28) :
    TextWithin riskIdMaxLength (texts.stateReason ++ word) := by
  have hlength := String.length_append (s := texts.stateReason) (t := word)
  obtain ⟨-, ⟨hlo, hhi⟩, -⟩ := h
  have hmax : riskIdMaxLength = 128 := rfl
  constructor <;> rw [hlength] <;> omega

theorem RuleTexts.Fit.onFreshState (h : texts.Fit) {ctx : DecimalContext} {σ : Type} {state : Option σ}
    {observedAt : σ → UTCDateTime} {observed bound : Option ℚ} {limit : σ → RuleOutcome}
    (hlimit : ∀ s, state = some s → (limit s).Returns) :
    (onFreshState ctx texts maxStateAge context state observedAt observed bound limit).Returns := by
  unfold Pmrp.onFreshState
  cases state with
  | none => exact h.result (h.reason (by decide)) h.2.2
  | some s =>
      dsimp only
      split_ifs
      · exact h.result (h.reason (by decide)) (.ofList (by decide))
      · exact h.result (h.reason (by decide)) (.ofList (by decide))
      · exact hlimit s rfl

theorem RuleTexts.Fit.onLimitPrice (h : texts.Fit) {reasonCode : String} {rule : ℚ → RuleOutcome}
    (hreason : TextWithin riskIdMaxLength reasonCode) (hrule : ∀ p, (rule p).Returns) :
    (onLimitPrice texts intent context reasonCode rule).Returns := by
  unfold Pmrp.onLimitPrice
  cases intent.limitPrice with
  | none => exact h.result hreason h.2.2
  | some p => exact hrule p

theorem RuleTexts.Fit.atMost (h : texts.Fit) {validReason aboveReason : String} {observed maximum : ℚ}
    (hvalid : TextWithin riskIdMaxLength validReason) (habove : TextWithin riskIdMaxLength aboveReason) :
    (atMost texts context validReason aboveReason observed maximum).Returns := by
  unfold Pmrp.atMost
  split_ifs
  · exact h.result habove h.2.2
  · exact h.result hvalid h.2.2

theorem RuleTexts.Fit.flagSet (h : texts.Fit) {setReason clearReason : String} {flag : Bool}
    (hset : TextWithin riskIdMaxLength setReason) (hclear : TextWithin riskIdMaxLength clearReason) :
    (flagSet texts context setReason clearReason flag).Returns := by
  cases flag with
  | true => exact h.result hset h.2.2
  | false => exact h.result hclear h.2.2

end

/-- **No built-in rule fails.** In exact arithmetic every built-in rule returns a result, and the result
    satisfies the constraints of its fields. -/
theorem BuiltinRule.evaluate_returns (rule : BuiltinRule) (intent : OrderIntent) (context : RiskContext) :
    (rule.kind.evaluate .exact rule.maxStateAge intent context).Returns := by
  obtain ⟨kind, maxStateAge, -⟩ := rule
  cases kind with
  | strategyEnabled | marketEnabled | marketOpen _ _ | marketDataFreshness =>
      refine RuleTexts.Fit.onFreshState (.ofList (by decide)) fun _ _ => ?_
      exact RuleTexts.Fit.flagSet (.ofList (by decide)) (.ofList (by decide)) (.ofList (by decide))
  | orderPriceValid =>
      have hfit : (⟨"RISK-006", "RISK_ORDER_PRICE_BOUNDS", "price"⟩ : RuleTexts).Fit :=
        .ofList (by decide)
      unfold RuleKind.evaluate OrderPriceValidRule.evaluate
      cases intent.limitPrice with
      | none => exact hfit.result (.ofList (by decide)) (.ofList (by decide))
      | some price =>
          refine hfit.onFreshState fun bounds _ => ?_
          split_ifs
          · exact hfit.result (.ofList (by decide)) (.ofList (by decide))
          · exact hfit.result (.ofList (by decide)) (.ofList (by decide))
          · cases bounds.tickSize with
            | none => exact hfit.result (.ofList (by decide)) (.ofList (by decide))
            | some tick =>
                dsimp only
                rw [stepRemainder_exact]
                dsimp only
                split_ifs <;> exact hfit.result (.ofList (by decide)) (.ofList (by decide))
  | orderQuantityLimit =>
      have hfit : (⟨"RISK-007", "RISK_ORDER_QUANTITY_LIMITS", "quantity"⟩ : RuleTexts).Fit :=
        .ofList (by decide)
      refine hfit.onFreshState fun limits _ => ?_
      split_ifs
      · exact hfit.result (.ofList (by decide)) (.ofList (by decide))
      · exact hfit.result (.ofList (by decide)) (.ofList (by decide))
      · rw [stepRemainder_exact]
        dsimp only
        split_ifs <;> exact hfit.result (.ofList (by decide)) (.ofList (by decide))
  | orderNotionalLimit | portfolioGrossLimit | portfolioNetLimit | strategyCapitalLimit
  | availableBalance =>
      refine RuleTexts.Fit.onLimitPrice (.ofList (by decide)) (.ofList (by decide)) fun price => ?_
      refine RuleTexts.Fit.onFreshState (.ofList (by decide)) fun _ _ => ?_
      exact RuleTexts.Fit.atMost (.ofList (by decide)) (.ofList (by decide)) (.ofList (by decide))
  | marketPositionLimit | dailyLossLimit | openOrderLimit =>
      refine RuleTexts.Fit.onFreshState (.ofList (by decide)) fun _ _ => ?_
      exact RuleTexts.Fit.atMost (.ofList (by decide)) (.ofList (by decide)) (.ofList (by decide))
  | exchangeCapitalLimit =>
      have hfit : (⟨"RISK-013", "RISK_EXCHANGE_CAPITAL_STATE", "capital"⟩ : RuleTexts).Fit :=
        .ofList (by decide)
      refine hfit.onLimitPrice (.ofList (by decide)) fun price => ?_
      cases context.marketExchanges intent.marketId with
      | none => exact hfit.result (.ofList (by decide)) (.ofList (by decide))
      | some exchangeId =>
          exact hfit.onFreshState fun _ _ => hfit.atMost (.ofList (by decide)) (.ofList (by decide))
  | duplicateOrderGuard | reconciliationHealth | killSwitchClear =>
      refine RuleTexts.Fit.onFreshState (.ofList (by decide)) fun _ _ => ?_
      split_ifs <;> exact RuleTexts.Fit.result (.ofList (by decide)) (.ofList (by decide)) (.ofList (by decide))
  | arbitrageLegRisk =>
      -- the deadline of a hedge is looked at only when what is unhedged is within its bound
      refine RuleTexts.Fit.onFreshState (.ofList (by decide)) fun state _ => ?_
      dsimp only
      by_cases hmax : state.maxUnhedgedQuantity < state.currentUnhedgedQuantity
      · rw [if_pos hmax]
        exact RuleTexts.Fit.result (.ofList (by decide)) (.ofList (by decide)) (.ofList (by decide))
      · rw [if_neg hmax]
        cases state.hedgeDeadlineAt with
        | none =>
            dsimp only
            split_ifs <;> exact RuleTexts.Fit.result (.ofList (by decide)) (.ofList (by decide)) (.ofList (by decide))
        | some deadline =>
            dsimp only
            split_ifs <;> exact RuleTexts.Fit.result (.ofList (by decide)) (.ofList (by decide)) (.ofList (by decide))

end Pmrp
