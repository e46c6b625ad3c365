import Pmrp.Lib.Dictionary
import Pmrp.Schemas.Freezing
import Pmrp.Strategies.Errors

/-!
# `Strategies.Registry` — strategy types and the instances made of them

`strategies/registry.py`. A registration holds what its definition has checked. The configuration model and the factory
of a registration are functions of it, the configurations of all models are one type, and an instance is what the
registry reads of it.
-/

namespace Pmrp
namespace StrategyRegistry

open Freezing StrategyErrors

/-! ## Definitions and records -/

structure StrategyDefinition where
  strategyType : String
  version : String
  configurationSchemaVersion : ℤ
  subscribedEventTypes : List String
  strategyType_required : IsStrippedText strategyType
  version_required : IsStrippedText version
  subscribed : subscribedEventTypes ≠ []

structure StrategyConfigurationRecord where
  strategyId : StrategyId
  configurationVersion : ℤ
  configuration : List (Key × PyValue)

/-- An attribute of the type that is asked for, or of the type with this name. -/
inductive Attribute (α : Type)
  | typed (value : α)
  | other (typeName : String)

/-- What an identifier is compared as, and what `str` makes of another object. -/
inductive IdAttribute
  | text (value : String)
  | other (shown : String)

/-- An object that has the attributes of the `Strategy` protocol. -/
structure Instance where
  strategyId : IdAttribute
  strategyType : Attribute String
  strategyVersion : Attribute String
  configurationSchemaVersion : Attribute ℤ
  /-- A tuple of strings, or anything else. -/
  subscribedEventTypes : Option (List String)

/-- What a factory returns. -/
inductive Created
  | strategy (strategy : Instance)
  | other

variable {Config : Type}

structure StrategyTypeRegistration (Config : Type) where
  definition : StrategyDefinition
  /-- `configuration_model.model_validate`; an error comes with the number of its entries if it is a
      `ValidationError`. -/
  modelValidate : List (Key × PyValue) → Except (Option ℕ) Config
  /-- `factory.create`, which may raise. -/
  create : StrategyId → Config → Option Created

/-! ## Keys -/

def validateRequiredText (fieldName value : String) : Result Unit :=
  raiseIf (¬IsStrippedText value) (valueError s!"{fieldName} must be nonempty without surrounding whitespace")

def registrationKey (strategyType strategyVersion : String) : Result (String × String) := do
  validateRequiredText "strategy_type" strategyType
  validateRequiredText "strategy_version" strategyVersion
  pure (strategyType, strategyVersion)

def StrategyTypeRegistration.key (registration : StrategyTypeRegistration Config) : String × String :=
  (registration.definition.strategyType, registration.definition.version)

/-! ## The registry -/

abbrev Registrations (Config : Type) := List (StrategyTypeRegistration Config)

def register (registrations : Registrations Config) (registration : StrategyTypeRegistration Config) :
    Result (Registrations Config) := do
  let key ← registrationKey registration.definition.strategyType registration.definition.version
  raiseIf ((Dictionary.lookup StrategyTypeRegistration.key key registrations).isSome = true)
    (valueError s!"strategy type and version are already registered: {key.1} {key.2}")
  pure (Dictionary.insert StrategyTypeRegistration.key registration registrations)

def get (registrations : Registrations Config) (strategyType strategyVersion : String) :
    Result (StrategyTypeRegistration Config) := do
  let key ← registrationKey strategyType strategyVersion
  match Dictionary.lookup StrategyTypeRegistration.key key registrations with
  | some registration => pure registration
  | none => .error ⟨.keyError, s!"strategy type is not registered: {strategyType} {strategyVersion}"⟩

/-- `registrations()`. -/
def sortedRegistrations (registrations : Registrations Config) : Registrations Config :=
  registrations.mergeSort fun a b => decide (a.key.1 < b.key.1 ∨ a.key.1 = b.key.1 ∧ ¬b.key.2 < a.key.2)

/-! ## Creating a strategy -/

/-- The context entries that every error has. -/
def identity (registration : StrategyTypeRegistration Config) (record : StrategyConfigurationRecord) :
    List (String × String) :=
  [("strategy_type", registration.definition.strategyType), ("strategy_version", registration.definition.version),
    ("strategy_id", record.strategyId.val)]

def validateConfigurationVersion (registration : StrategyTypeRegistration Config)
    (record : StrategyConfigurationRecord) : RaisedResult Unit :=
  if record.configurationVersion = registration.definition.configurationSchemaVersion then .ok ⟨⟩
  else do
    let expected ← raising (intText registration.definition.configurationSchemaVersion)
    let actual ← raising (intText record.configurationVersion)
    .error (construct "Strategy configuration schema version does not match the registration"
      "strategy_registry_configuration_version_mismatch"
      (identity registration record ++
        [("expected_configuration_schema_version", expected), ("configuration_version", actual)]))

def validateConfiguration (registration : StrategyTypeRegistration Config) (record : StrategyConfigurationRecord) :
    RaisedResult Config := do
  validateConfigurationVersion registration record
  match registration.modelValidate (thawCanonicalMapping record.configuration) with
  | .ok configuration => pure configuration
  | .error errorCount =>
      .error (construct "Strategy configuration validation failed" "strategy_registry_configuration_invalid"
        (identity registration record ++ [("error_count", errorCount.elim "unknown" toString)]))

/-- `_create_strategy`. -/
def createInstance (registration : StrategyTypeRegistration Config) (record : StrategyConfigurationRecord)
    (configuration : Config) : RaisedResult Created :=
  match registration.create record.strategyId configuration with
  | some created => .ok created
  | none =>
      .error (construct "Strategy factory failed" "strategy_registry_factory_failed" (identity registration record))

def idMismatch (expected : StrategyId) : IdAttribute → List (String × String)
  | .text value => if value = expected.val then [] else [("strategy_instance_id", value)]
  | .other shown => [("strategy_instance_id", shown)]

def textMismatch (name expected : String) : Attribute String → List (String × String)
  | .typed value => if value = expected then [] else [(name, value)]
  | .other typeName => [(name, typeName)]

def versionMismatch (expected : ℤ) : Attribute ℤ → Result (List (String × String))
  | .typed value =>
      if value = expected then pure []
      else do pure [("strategy_instance_configuration_schema_version", ← intText value)]
  | .other typeName => pure [("strategy_instance_configuration_schema_version", typeName)]

def subscriptionMismatch (expected : List String) : Option (List String) → List (String × String)
  | some eventTypes =>
      if eventTypes = expected then [] else [("strategy_instance_subscriptions", ",".intercalate eventTypes)]
  | none => [("strategy_instance_subscriptions", "invalid")]

/-- The mismatches of `_validate_created_strategy`, in the order in which they are found. -/
def mismatches (registration : StrategyTypeRegistration Config) (record : StrategyConfigurationRecord)
    (strategy : Instance) : Result (List (String × String)) := do
  let version ← versionMismatch registration.definition.configurationSchemaVersion strategy.configurationSchemaVersion
  pure (idMismatch record.strategyId strategy.strategyId ++
    textMismatch "strategy_instance_type" registration.definition.strategyType strategy.strategyType ++
    textMismatch "strategy_instance_version" registration.definition.version strategy.strategyVersion ++ version ++
    subscriptionMismatch registration.definition.subscribedEventTypes strategy.subscribedEventTypes)

def validateCreatedStrategy (registration : StrategyTypeRegistration Config) (record : StrategyConfigurationRecord) :
    Created → RaisedResult Instance
  | .other =>
      .error (construct "Strategy factory returned an invalid strategy instance" "strategy_registry_strategy_invalid"
        (identity registration record))
  | .strategy strategy => do
      let found ← raising (mismatches registration record strategy)
      if found = [] then pure strategy
      else
        .error (construct "Strategy factory returned an instance that does not match its registration"
          "strategy_registry_strategy_mismatch" (found ++ identity registration record))

def createStrategy (registrations : Registrations Config) (strategyType strategyVersion : String)
    (record : StrategyConfigurationRecord) : RaisedResult Instance := do
  let registration ← raising (get registrations strategyType strategyVersion)
  let configuration ← validateConfiguration registration record
  let created ← createInstance registration record configuration
  validateCreatedStrategy registration record created

/-! ## Runs -/

/-- The registry after calls of `register`. One that raises has changed nothing. -/
def runRegister (calls : List (StrategyTypeRegistration Config)) : Registrations Config :=
  calls.foldl
    (fun registrations registration =>
      match register registrations registration with
      | .ok registrations' => registrations'
      | .error _ => registrations)
    []

end StrategyRegistry
end Pmrp
