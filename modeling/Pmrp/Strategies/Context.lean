import Pmrp.Schemas.Orders
import Pmrp.Strategies.Lifecycle

/-!
# `Strategies.Context` — the gate for order intents

`StrategyOrderIntentGate` and `StrategyContext.publish_order_intent` of `strategies/context.py`. The gate belongs to
the context that made it, so it is a field of the context here.
-/

namespace Pmrp

structure StrategyContext where
  strategyId : StrategyId
  /-- `_order_intent_gate.enabled`. -/
  orderIntentsEnabled : Bool := true
  deriving DecidableEq

namespace StrategyContext

def disableOrderIntents (context : StrategyContext) : StrategyContext := { context with orderIntentsEnabled := false }

@[simp] theorem disableOrderIntents_enabled (context : StrategyContext) :
    context.disableOrderIntents.orderIntentsEnabled = false := rfl

def emissionError (safeMessage reasonCode : String) (context : List (String × String)) : StrategyError :=
  { cls := .strategyEmissionError, safeMessage, reasonCode, context }

/-- `_validate_order_intent_lineage`. -/
def validateOrderIntentLineage (intent : OrderIntent) : Except StrategyError Unit :=
  let context := [("strategy_id", intent.strategyId.val), ("intent_id", intent.intentId.val)]
  if intent.signalIds = [] then
    .error (emissionError "OrderIntent must include at least one signal_id before strategy emission"
      "strategy_order_intent_signal_lineage_missing" context)
  else if ¬intent.signalIds.Nodup then
    .error (emissionError "OrderIntent signal lineage must not contain duplicate signal_id values"
      "strategy_order_intent_signal_lineage_duplicate" context)
  else .ok ⟨⟩

/-- `publish_order_intent`; `published` is the answer of the sink, which is called in the last case only. -/
def publishOrderIntent (context : StrategyContext) (intent : OrderIntent) (published : Bool) :
    Except StrategyError Unit :=
  if !context.orderIntentsEnabled then
    .error (emissionError "Order intent emission is disabled for the active strategy context"
      "strategy_order_intent_emission_disabled"
      [("strategy_id", context.strategyId.val), ("intent_id", intent.intentId.val)])
  else if intent.strategyId ≠ context.strategyId then
    .error (emissionError "OrderIntent strategy_id must match the active strategy context"
      "strategy_order_intent_strategy_id_mismatch"
      [("context_strategy_id", context.strategyId.val), ("intent_strategy_id", intent.strategyId.val),
       ("intent_id", intent.intentId.val)])
  else
    match validateOrderIntentLineage intent with
    | .error e => .error e
    | .ok _ =>
        if published then .ok ⟨⟩
        else .error (emissionError "Strategy order intent emission failed" "strategy_order_intent_emission_failed"
          [("strategy_id", context.strategyId.val), ("intent_id", intent.intentId.val)])

end StrategyContext
end Pmrp
