import Pmrp.Schemas.Simulation
import Pmrp.Simulation.OrderBook
import Pmrp.Simulation.RejectionModels

/-!
# `Simulation.Exchange` — admission of simulated orders

`simulation/latency_models.py` and `simulation/exchange.py`. An admission says whether an order was accepted and
from when it is active. It carries the checks of its constructor, so a rejected order has no times and no order is
active before it was accepted.
-/

namespace Pmrp

def simulationConfigurationError (message : String) : PyError := ⟨.simulationConfigurationError, message⟩

/-! ## Latency -/

/-- The protocol: the time an order accepted at a time becomes active. -/
structure LatencyModel where
  activationTime : UTCDateTime → Result UTCDateTime

/-- A latency that is not negative. -/
structure FixedLatencyModel where
  latency : Timedelta
  latency_nonneg : 0 ≤ latency

namespace FixedLatencyModel

def fixedLatencyModelName : String := "fixed_latency_v1"

theorem milliseconds_nonneg (milliseconds : ℕ) : 0 ≤ 1000 * (milliseconds : ℤ) := by omega

/-- `timedelta(milliseconds=…)`, in microseconds. -/
def fromMilliseconds (milliseconds : ℕ) : FixedLatencyModel :=
  ⟨1000 * (milliseconds : ℤ), milliseconds_nonneg milliseconds⟩

def fromConfiguration (configuration : SimulationConfiguration) : Result FixedLatencyModel := do
  raiseIf (configuration.latencyModel ≠ fixedLatencyModelName)
    (simulationConfigurationError "Simulation latency_model must select the fixed latency model")
  match configuration.fixedLatencyMs with
  | none => .error (simulationConfigurationError "Fixed latency simulation requires fixed_latency_ms")
  | some milliseconds => pure (fromMilliseconds milliseconds)

def activationTime (model : FixedLatencyModel) (acceptedAt : UTCDateTime) : Result UTCDateTime :=
  match addTimedelta acceptedAt model.latency with
  | .ok activatesAt => .ok activatesAt
  | .error _ =>
      .error (simulationConfigurationError "Fixed latency activation time is outside supported datetime range")

def toLatencyModel (model : FixedLatencyModel) : LatencyModel := ⟨model.activationTime⟩

end FixedLatencyModel

/-! ## Admissions -/

structure SimulatedExchangeOrderAdmission where
  intent : OrderIntent
  marketStatus : MarketStatus
  rejectionDecision : RejectionDecision
  submittedAt : UTCDateTime
  acceptedAt : Option UTCDateTime
  activatesAt : Option UTCDateTime
  requiredBalance : Option ℚ := none
  availableBalance : Option ℚ := none
  accepted_has_times : rejectionDecision.accepted = true → acceptedAt.isSome ∧ activatesAt.isSome
  rejected_without_times : rejectionDecision.accepted = false → acceptedAt = none ∧ activatesAt = none
  activates_after : ∀ accepted ∈ acceptedAt, ∀ activates ∈ activatesAt, accepted ≤ activates

namespace SimulatedExchangeOrderAdmission

def rejected (admission : SimulatedExchangeOrderAdmission) : Bool := admission.rejectionDecision.rejected

/-- The constructor call: `_validate_activation_lineage`, then the order of the times. -/
def create (intent : OrderIntent) (marketStatus : MarketStatus) (rejectionDecision : RejectionDecision)
    (submittedAt : UTCDateTime) (acceptedAt activatesAt : Option UTCDateTime)
    (requiredBalance availableBalance : Option ℚ) : Result SimulatedExchangeOrderAdmission :=
  if haccepted : rejectionDecision.accepted = true → acceptedAt.isSome ∧ activatesAt.isSome then
    if hrejected : rejectionDecision.accepted = false → acceptedAt = none ∧ activatesAt = none then
      if horder : ∀ accepted ∈ acceptedAt, ∀ activates ∈ activatesAt, accepted ≤ activates then
        .ok { intent, marketStatus, rejectionDecision, submittedAt, acceptedAt, activatesAt, requiredBalance,
              availableBalance, accepted_has_times := haccepted, rejected_without_times := hrejected,
              activates_after := horder }
      else
        .error (simulationConfigurationError "Simulated admission activates_at must be at or after accepted_at")
    else
      .error (simulationConfigurationError
        "Rejected simulated admissions must not include activation timestamps")
  else
    .error (simulationConfigurationError
      "Accepted simulated admissions require accepted_at and activates_at")

end SimulatedExchangeOrderAdmission

/-- The protocol: `admit_order` of an intent, a market status, a time, and the required and the available balance. -/
structure SimulatedExchange where
  admitOrder : OrderIntent → MarketStatus → UTCDateTime → Option ℚ → Option ℚ →
    Result SimulatedExchangeOrderAdmission

/-- The protocol: a market status, a price, a quantity, and the required and the available balance. -/
structure RejectionModel where
  evaluate : MarketStatus → Option ℚ → ℚ → Option ℚ → Option ℚ → Result RejectionDecision

def BoundedRejectionModel.toRejectionModel (model : BoundedRejectionModel) : RejectionModel := ⟨model.evaluate⟩

/-- `DeterministicSimulatedExchange.admit_order`. -/
def deterministicSimulatedExchange (rejectionModel : RejectionModel) (latencyModel : LatencyModel) :
    SimulatedExchange where
  admitOrder intent marketStatus submittedAt requiredBalance availableBalance := do
    let rejectionDecision ←
      rejectionModel.evaluate marketStatus intent.limitPrice intent.quantity requiredBalance availableBalance
    let acceptedAt := if rejectionDecision.accepted then some submittedAt else none
    let activatesAt ← match acceptedAt with
      | none => pure none
      | some acceptedAt => (latencyModel.activationTime acceptedAt).map some
    SimulatedExchangeOrderAdmission.create intent marketStatus rejectionDecision submittedAt acceptedAt
      activatesAt requiredBalance availableBalance

end Pmrp
