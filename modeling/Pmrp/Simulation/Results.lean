import Mathlib.Data.String.Basic
import Pmrp.Lib.CanonicalOrder
import Pmrp.Schemas.Simulation
import Pmrp.Simulation.Exchange

/-!
# `Simulation.Results` — the checksum of a simulation

`simulation/results.py`. A result sorts its artifacts by sequence and its metrics by name and unit, and its checksum
is the digest of the sorted lists. Artifacts and metrics are taken as their constructors have accepted them.
-/

namespace Pmrp

inductive SimulationSourceType
  | inferredBehavior
  | observedFact
  | simulatedOutput
  | stochasticAssumption
  deriving DecidableEq

def SimulationSourceType.value : SimulationSourceType → String
  | inferredBehavior => "inferred_behavior"
  | observedFact => "observed_fact"
  | simulatedOutput => "simulated_output"
  | stochasticAssumption => "stochastic_assumption"

structure SimulationArtifact where
  sequence : ℕ
  artifactType : String
  artifactId : String
  artifactHash : String
  sourceType : SimulationSourceType
  deriving DecidableEq

structure SimulationMetric where
  name : String
  value : ℚ
  unit : String
  deriving DecidableEq

/-- A metric of a result. A digest takes a `Decimal` as it is written, which its value does not determine. -/
structure ReportedMetric extends SimulationMetric where
  valueText : String
  deriving DecidableEq

/-- A configuration with what a report writes of it; `canonicalData` is `to_canonical_data` of the whole model. -/
structure ReportedConfiguration extends SimulationConfiguration where
  simulationVersion : String
  queueModel : String
  randomSeed : ℕ
  canonicalData : CanonicalData

def SimulationArtifact.canonicalPayload (artifact : SimulationArtifact) : CanonicalData :=
  .mapping [
    ("artifact_hash", .str artifact.artifactHash),
    ("artifact_id", .str artifact.artifactId),
    ("artifact_type", .str artifact.artifactType),
    ("sequence", .int artifact.sequence),
    ("source_type", .str artifact.sourceType.value)]

def ReportedMetric.canonicalPayload (metric : ReportedMetric) : CanonicalData :=
  .mapping [("name", .str metric.name), ("unit", .str metric.unit), ("value", .str metric.valueText)]

def ReportedMetric.key (metric : ReportedMetric) : String ×ₗ String := toLex (metric.name, metric.unit)

namespace SimulationResults

variable (sha : Sha256)

def simulationResultChecksumVersion : String := "simulation_result_checksum_v1"

def normalizeArtifacts (artifacts : List SimulationArtifact) : Result (List SimulationArtifact) :=
  sortUnique SimulationArtifact.sequence
    (simulationConfigurationError "Simulation result artifacts must have unique sequences") artifacts

def normalizeMetrics (metrics : List ReportedMetric) : Result (List ReportedMetric) :=
  sortUnique ReportedMetric.key
    (simulationConfigurationError "Simulation result metrics must be unique by name and unit") metrics

/-- `_SHA256_PATTERN`. -/
def isCanonicalSha256 (value : String) : Bool :=
  decide (value.toList.take 7 = "sha256:".toList) && decide (value.length = 71) &&
    (value.toList.drop 7).all fun c => inRange '0' '9' c || inRange 'a' 'f' c

def validateHash (value fieldName : String) : Result Unit :=
  raiseIf (isCanonicalSha256 value = false) (valueError s!"{fieldName} must be a canonical sha256 digest")

/-- `_result_payload` without a checksum. -/
def resultPayload (configuration : ReportedConfiguration) (artifacts : List SimulationArtifact)
    (metrics : List ReportedMetric) : CanonicalData :=
  .mapping [
    ("artifacts", .list (artifacts.map SimulationArtifact.canonicalPayload)),
    ("checksum_version", .str simulationResultChecksumVersion),
    ("configuration_hash", .str (canonicalSha256 sha configuration.canonicalData)),
    ("fee_model", .str configuration.feeModel),
    ("fill_model", .str configuration.fillModel),
    ("latency_model", .str configuration.latencyModel),
    ("metrics", .list (metrics.map ReportedMetric.canonicalPayload)),
    ("queue_model", .str configuration.queueModel),
    ("random_seed", .int configuration.randomSeed),
    ("rejection_model", .str configuration.rejectionModel),
    ("settlement_model", .str configuration.settlementModel),
    ("simulation_version", .str configuration.simulationVersion),
    ("slippage_model", .str configuration.slippageModel)]

def calculateSimulationResultChecksum (configuration : ReportedConfiguration)
    (artifacts : List SimulationArtifact) (metrics : List ReportedMetric) : Result String := do
  let artifacts ← normalizeArtifacts artifacts
  let metrics ← normalizeMetrics metrics
  pure (canonicalSha256 sha (resultPayload sha configuration artifacts metrics))

structure SimulationResult where
  configuration : ReportedConfiguration
  artifacts : List SimulationArtifact
  metrics : List ReportedMetric
  resultChecksum : String

/-- The constructor. -/
def SimulationResult.create (configuration : ReportedConfiguration) (artifacts : List SimulationArtifact)
    (metrics : List ReportedMetric) (resultChecksum : String) : Result SimulationResult := do
  let artifacts ← normalizeArtifacts artifacts
  let metrics ← normalizeMetrics metrics
  validateHash resultChecksum "result_checksum"
  let expectedChecksum ← calculateSimulationResultChecksum sha configuration artifacts metrics
  raiseIf (resultChecksum ≠ expectedChecksum)
    (simulationConfigurationError "Simulation result checksum must match canonical result payload")
  pure ⟨configuration, artifacts, metrics, resultChecksum⟩

def SimulationResult.build (configuration : ReportedConfiguration) (artifacts : List SimulationArtifact)
    (metrics : List ReportedMetric) : Result SimulationResult := do
  let artifacts ← normalizeArtifacts artifacts
  let metrics ← normalizeMetrics metrics
  let resultChecksum ← calculateSimulationResultChecksum sha configuration artifacts metrics
  SimulationResult.create sha configuration artifacts metrics resultChecksum

/-! ## Order -/

variable {sha} {configuration : ReportedConfiguration} {artifacts artifacts' : List SimulationArtifact}
  {metrics metrics' : List ReportedMetric}

theorem calculateSimulationResultChecksum_perm (hartifacts : artifacts'.Perm artifacts)
    (hmetrics : metrics'.Perm metrics) :
    calculateSimulationResultChecksum sha configuration artifacts' metrics'
      = calculateSimulationResultChecksum sha configuration artifacts metrics := by
  unfold calculateSimulationResultChecksum normalizeArtifacts normalizeMetrics
  rw [sortUnique_perm hartifacts, sortUnique_perm hmetrics]

theorem SimulationResult.create_perm (hartifacts : artifacts'.Perm artifacts) (hmetrics : metrics'.Perm metrics)
    (resultChecksum : String) : SimulationResult.create sha configuration artifacts' metrics' resultChecksum
      = SimulationResult.create sha configuration artifacts metrics resultChecksum := by
  unfold SimulationResult.create normalizeArtifacts normalizeMetrics
  rw [sortUnique_perm hartifacts, sortUnique_perm hmetrics]

theorem SimulationResult.build_perm (hartifacts : artifacts'.Perm artifacts) (hmetrics : metrics'.Perm metrics) :
    SimulationResult.build sha configuration artifacts' metrics'
      = SimulationResult.build sha configuration artifacts metrics := by
  unfold SimulationResult.build normalizeArtifacts normalizeMetrics
  rw [sortUnique_perm hartifacts, sortUnique_perm hmetrics]

end SimulationResults
end Pmrp
