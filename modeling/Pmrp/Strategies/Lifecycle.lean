import Mathlib.Data.List.Basic

/-!
# `Strategies.Lifecycle` — the states of a strategy

`strategies/lifecycle.py`, with the errors of `strategies/errors.py` that the strategy runtime and context raise.
-/

namespace Pmrp

inductive StrategyState
  | created
  | initializing
  | running
  | degraded
  | draining
  | stopped
  | failed
  deriving DecidableEq, Repr

def StrategyState.value : StrategyState → String
  | .created => "created"
  | .initializing => "initializing"
  | .running => "running"
  | .degraded => "degraded"
  | .draining => "draining"
  | .stopped => "stopped"
  | .failed => "failed"

inductive StrategyErrorClass
  | strategyLifecycleError
  | strategyEmissionError
  | strategyRuntimeError
  deriving DecidableEq, Repr

structure StrategyError where
  cls : StrategyErrorClass
  safeMessage : String
  reasonCode : String
  context : List (String × String) := []
  deriving DecidableEq, Repr

def terminalStrategyStates : List StrategyState := [.stopped, .failed]

def allowedStrategyStateTransitions : StrategyState → List StrategyState
  | .created => [.initializing, .stopped, .failed]
  | .initializing => [.running, .degraded, .stopped, .failed]
  | .running => [.degraded, .draining, .stopped, .failed]
  | .degraded => [.draining, .stopped, .failed]
  | .draining => [.stopped, .failed]
  | .stopped => []
  | .failed => []

/-- `validate_strategy_state_transition` and `transition_strategy_state`. -/
def transitionStrategyState (previousState nextState : StrategyState) : Except StrategyError StrategyState :=
  if previousState = nextState ∨ nextState ∈ allowedStrategyStateTransitions previousState then .ok nextState
  else .error
    { cls := .strategyLifecycleError, safeMessage := "Strategy lifecycle transition is not allowed"
      reasonCode := "strategy_lifecycle_transition_invalid"
      context := [("previous_state", previousState.value), ("next_state", nextState.value)] }

theorem transitionStrategyState_ok {previousState nextState : StrategyState}
    (h : previousState = nextState ∨ nextState ∈ allowedStrategyStateTransitions previousState) :
    transitionStrategyState previousState nextState = .ok nextState := if_pos h

end Pmrp
