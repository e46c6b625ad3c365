import Pmrp.Schemas.Primitives

/-!
# `Schemas.Simulation` — the configuration of a simulation

`SimulationConfiguration` of `schemas/simulation.py`, with the fields that a scenario run reads. Its parameters are
texts; `ParameterParsers` are the standard parsers that turn them into decimals and times.
-/

namespace Pmrp

structure SimulationConfiguration where
  fillModel : String
  latencyModel : String
  feeModel : String
  rejectionModel : String
  slippageModel : String
  settlementModel : String
  fixedLatencyMs : Option ℕ := none
  takerSlippageBps : Option ℚ := none
  parameters : List (String × String) := []
  deriving DecidableEq

/-- `parameters.get(key)`. -/
def SimulationConfiguration.parameter (configuration : SimulationConfiguration) (key : String) : Option String :=
  configuration.parameters.lookup key

/-- `parse_decimal` and `parse_utc_datetime` on a text: `Decimal(text)` and `datetime.fromisoformat(text)`. -/
structure ParameterParsers where
  parseDecimal : String → Result ℚ
  parseUtcDatetime : String → Result UTCDateTime

end Pmrp
