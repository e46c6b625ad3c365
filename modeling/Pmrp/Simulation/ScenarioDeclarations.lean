import Pmrp.Simulation.RunMetrics

/-!
# `Simulation.ScenarioDeclarations` — declaring a scenario, its hash and its report

The constructor and the hash of `SimulationScenario`, and the run of a scenario with its metrics. The constructor
sorts what it is given: events, actions and expected fills by sequence, and tags as texts.
-/

namespace Pmrp

/-! ## Declarations -/

/-- `canonicalEvent` is `to_canonical_data(event)`. -/
structure DeclaredMarketEvent extends ScheduledMarketEvent where
  sourceType : SimulationSourceType
  canonicalEvent : CanonicalData

structure DeclaredOrderAction extends ScheduledOrderAction where
  sourceType : SimulationSourceType
  canonicalAction : CanonicalData

/-- Its source type is always the simulated output. -/
structure ExpectedSimulationFill where
  sequence : ℕ
  fill : Fill
  canonicalFill : CanonicalData

/-- A book of a declaration with its canonical data. -/
structure DeclaredBook where
  book : OrderBookSnapshot
  canonicalBook : CanonicalData

structure ScenarioDeclaration where
  scenarioId : String
  name : String
  configuration : ReportedConfiguration
  initialBook : DeclaredBook
  marketEvents : List DeclaredMarketEvent := []
  orderActions : List DeclaredOrderAction := []
  expectedFills : List ExpectedSimulationFill := []
  expectedFinalBook : Option DeclaredBook := none
  expectedFinalBookSourceType : Option SimulationSourceType := none
  tags : List String := []
  metadata : List (String × String) := []

namespace ScenarioMarketEventPayload

/-- `_validate_book_lineage` and `_validate_trade_lineage` have a text of their own. -/
def lineageError : ScenarioMarketEventPayload → PyError
  | snapshot _ | delta _ =>
      simulationConfigurationError "Simulation scenario order-book lineage does not match initial book"
  | trade _ => simulationConfigurationError "Simulation scenario trade lineage does not match initial book"

def eventType : ScenarioMarketEventPayload → String
  | snapshot _ => "order_book_snapshot"
  | delta _ => "order_book_delta"
  | trade _ => "trade"

instance decidableInLineage (book : OrderBookSnapshot) :
    (payload : ScenarioMarketEventPayload) → Decidable (payload.InLineage book)
  | snapshot s => inferInstanceAs
      (Decidable (s.marketId = book.marketId ∧ s.contractId = book.contractId ∧ s.exchange = book.exchange))
  | delta d => inferInstanceAs
      (Decidable (d.marketId = book.marketId ∧ d.contractId = book.contractId ∧ d.exchange = book.exchange))
  | trade t => inferInstanceAs
      (Decidable (t.marketId = book.marketId ∧ t.contractId = book.contractId ∧ t.exchange = book.exchange))

end ScenarioMarketEventPayload

namespace ScenarioOrderActionPayload

def lineageError : ScenarioOrderActionPayload → PyError
  | orderIntent _ => simulationConfigurationError "Simulation scenario order intent does not match initial book"
  | cancelOrderRequest _ =>
      simulationConfigurationError "Simulation scenario cancel request exchange does not match initial book"

def actionType : ScenarioOrderActionPayload → String
  | orderIntent _ => "order_intent"
  | cancelOrderRequest _ => "cancel_order_request"

instance decidableInLineage (book : OrderBookSnapshot) :
    (payload : ScenarioOrderActionPayload) → Decidable (payload.InLineage book)
  | orderIntent intent => inferInstanceAs
      (Decidable (intent.marketId = book.marketId ∧ intent.contractId = book.contractId))
  | cancelOrderRequest request => inferInstanceAs (Decidable (request.exchange = book.exchange))

end ScenarioOrderActionPayload

/-! ## The constructor -/

namespace ScenarioDeclaration

def validateText (value fieldName : String) : Result String := do
  raiseIf (value = "" ∨ isStripped value = false)
    (valueError s!"{fieldName} must be nonempty without surrounding whitespace")
  raiseIf (128 < value.length) (valueError s!"{fieldName} must be at most 128 characters")
  pure value

/-- `_sort_and_validate_unique_sequences`. -/
def sortAndValidateUniqueSequences {α : Type} (sequence : α → ℕ) (items : List α) (fieldName : String) :
    Result (List α) :=
  sortUnique sequence (simulationConfigurationError s!"{fieldName} must have unique sequences") items

def normalizeTags (tags : List String) : Result (List String) := do
  let validated ← tags.mapM fun tag => validateText tag "tag"
  sortUnique id (simulationConfigurationError "Simulation scenario tags must be unique") validated

def freezeMetadata (metadata : List (String × String)) : Result (List (String × String)) :=
  metadata.mapM fun item => do
    let key ← validateText item.1 "metadata key"
    let value ← validateText item.2 s!"metadata value for {item.1}"
    pure (key, value)

def validateExpectedFinalBook (initialBook : OrderBookSnapshot) : Option DeclaredBook → Result Unit
  | none => pure ()
  | some expected => do
      raiseIf (expected.book.isValid = false)
        (simulationConfigurationError "Simulation scenario expected_final_book must be valid")
      let payload := ScenarioMarketEventPayload.snapshot expected.book
      raiseIf (¬payload.InLineage initialBook) payload.lineageError

def validateExpectedFinalBookSourceType (expectedFinalBook : Option DeclaredBook)
    (sourceType : Option SimulationSourceType) : Result (Option SimulationSourceType) :=
  match expectedFinalBook, sourceType with
  | none, none => pure none
  | none, some _ =>
      .error (simulationConfigurationError "Expected final book source type requires expected_final_book")
  | some _, none => pure (some .simulatedOutput)
  | some _, some sourceType => do
      raiseIf (sourceType ≠ .simulatedOutput)
        (simulationConfigurationError "Expected final book must be classified as simulated output")
      pure (some sourceType)

def fillInLineage (book : OrderBookSnapshot) (fill : Fill) : Prop :=
  fill.marketId = book.marketId ∧ fill.contractId = book.contractId ∧ fill.exchange = book.exchange

instance (book : OrderBookSnapshot) (fill : Fill) : Decidable (fillInLineage book fill) :=
  inferInstanceAs (Decidable (_ ∧ _ ∧ _))

/-- `__post_init__`: the declaration with its parts in order. -/
def normalize (declaration : ScenarioDeclaration) : Result ScenarioDeclaration := do
  let scenarioId ← validateText declaration.scenarioId "scenario_id"
  let name ← validateText declaration.name "name"
  let initialBook := declaration.initialBook.book
  raiseIf (initialBook.isValid = false)
    (simulationConfigurationError "Simulation scenario initial_book must be valid")
  -- the lists are sorted first, so that the member an error is about is the first one in order
  let marketEvents ← sortAndValidateUniqueSequences
    (fun event => event.sequence) declaration.marketEvents "market_events"
  let orderActions ← sortAndValidateUniqueSequences
    (fun action => action.sequence) declaration.orderActions "order_actions"
  let expectedFills ← sortAndValidateUniqueSequences
    ExpectedSimulationFill.sequence declaration.expectedFills "expected_fills"
  validateExpectedFinalBook initialBook declaration.expectedFinalBook
  let expectedFinalBookSourceType ← validateExpectedFinalBookSourceType declaration.expectedFinalBook
    declaration.expectedFinalBookSourceType
  marketEvents.forM fun event => raiseIf (¬event.event.InLineage initialBook) event.event.lineageError
  orderActions.forM fun action => raiseIf (¬action.action.InLineage initialBook) action.action.lineageError
  expectedFills.forM fun expected => raiseIf (¬fillInLineage initialBook expected.fill)
    (simulationConfigurationError "Simulation scenario expected fill does not match initial book")
  let tags ← normalizeTags declaration.tags
  let metadata ← freezeMetadata declaration.metadata
  pure { declaration with
    scenarioId, name, marketEvents, orderActions, expectedFills, expectedFinalBookSourceType, tags, metadata }

/-- What `normalize` leaves. -/
structure Accepted (declaration : ScenarioDeclaration) : Prop where
  initialBook_valid : declaration.initialBook.book.isValid = true
  marketEvents_sorted : declaration.marketEvents.Pairwise fun a b => a.sequence < b.sequence
  orderActions_sorted : declaration.orderActions.Pairwise fun a b => a.sequence < b.sequence
  marketEvents_lineage : ∀ event ∈ declaration.marketEvents, event.event.InLineage declaration.initialBook.book
  orderActions_lineage : ∀ action ∈ declaration.orderActions, action.action.InLineage declaration.initialBook.book

theorem accepted_of_normalize {declaration normalized : ScenarioDeclaration}
    (h : declaration.normalize = .ok normalized) : normalized.Accepted := by
  simp only [normalize, bind_eq_ok, raiseIf_eq_ok, forM_eq_ok, pure_eq_ok, not_not, Bool.not_eq_false] at h
  obtain ⟨_, -, _, -, _, hbook, events, hevents, actions, hactions, fills, -, _, -, _, -, _, hlineage, _, horders, _, -,
    _, -, _, -, rfl⟩ := h
  exact ⟨hbook, pairwise_of_sortUnique hevents, pairwise_of_sortUnique hactions, hlineage, horders⟩

/-! ## The hash -/

variable (sha : Sha256) (declaration : ScenarioDeclaration)

def simulationScenarioHashVersion : String := "simulation_scenario_hash_v1"

def marketEventPayload (event : DeclaredMarketEvent) : CanonicalData :=
  .mapping [
    ("event", event.canonicalEvent),
    ("event_type", .str event.event.eventType),
    ("scheduled_at", .datetime event.scheduledAt),
    ("sequence", .int event.sequence),
    ("source_type", .str event.sourceType.value)]

def orderActionPayload (action : DeclaredOrderAction) : CanonicalData :=
  .mapping [
    ("action", action.canonicalAction),
    ("action_type", .str action.action.actionType),
    ("scheduled_at", .datetime action.scheduledAt),
    ("sequence", .int action.sequence),
    ("source_type", .str action.sourceType.value)]

def expectedFillPayload (expected : ExpectedSimulationFill) : CanonicalData :=
  .mapping [
    ("fill", expected.canonicalFill),
    ("sequence", .int expected.sequence),
    ("source_type", .str SimulationSourceType.simulatedOutput.value)]

/-- The entries of an expected final book, if there is one. -/
def expectedFinalBookEntries : List (String × CanonicalData) :=
  match declaration.expectedFinalBook with
  | none => []
  | some expected => [
      ("expected_final_book", expected.canonicalBook),
      ("expected_final_book_source_type",
        .optionalStr (declaration.expectedFinalBookSourceType.map SimulationSourceType.value))]

def canonicalPayload : CanonicalData :=
  .mapping <| [
      ("configuration", declaration.configuration.canonicalData),
      ("configuration_hash", .str (canonicalSha256 sha declaration.configuration.canonicalData)),
      ("expected_fills", .list (declaration.expectedFills.map expectedFillPayload))]
    ++ declaration.expectedFinalBookEntries ++ [
      ("hash_version", .str simulationScenarioHashVersion),
      ("initial_book", declaration.initialBook.canonicalBook),
      ("market_events", .list (declaration.marketEvents.map marketEventPayload)),
      ("metadata", .mapping (sortByKey Prod.fst (declaration.metadata.map fun item => (item.1, .str item.2)))),
      ("name", .str declaration.name),
      ("order_actions", .list (declaration.orderActions.map orderActionPayload)),
      ("scenario_id", .str declaration.scenarioId),
      ("tags", .list (declaration.tags.map .str))]

end ScenarioDeclaration

/-! ## Scenarios -/

/-- A scenario with all that its constructor has accepted. -/
structure IdentifiedScenario where
  declaration : ScenarioDeclaration
  accepted : declaration.Accepted

namespace IdentifiedScenario

def create (declaration : ScenarioDeclaration) : Result IdentifiedScenario :=
  match h : declaration.normalize with
  | .error e => .error e
  | .ok normalized => .ok ⟨normalized, ScenarioDeclaration.accepted_of_normalize h⟩

def scenarioHash (sha : Sha256) (scenario : IdentifiedScenario) : String :=
  canonicalSha256 sha (scenario.declaration.canonicalPayload sha)

/-- What a run reads of it. -/
def toSimulationScenario (scenario : IdentifiedScenario) : SimulationScenario where
  configuration := scenario.declaration.configuration.toSimulationConfiguration
  initialBook := scenario.declaration.initialBook.book
  marketEvents := scenario.declaration.marketEvents.map DeclaredMarketEvent.toScheduledMarketEvent
  orderActions := scenario.declaration.orderActions.map DeclaredOrderAction.toScheduledOrderAction
  initialBook_valid := scenario.accepted.initialBook_valid
  marketEvents_sorted := List.pairwise_map.mpr scenario.accepted.marketEvents_sorted
  orderActions_sorted := List.pairwise_map.mpr scenario.accepted.orderActions_sorted
  marketEvents_lineage := List.forall_mem_map.mpr scenario.accepted.marketEvents_lineage
  orderActions_lineage := List.forall_mem_map.mpr scenario.accepted.orderActions_lineage

end IdentifiedScenario

/-! ## Reports -/

namespace Scenarios

structure ScenarioRunReport where
  finalBook : OrderBookSnapshot
  orderResults : List SimulatedScenarioOrderResult
  multiLegImbalanceResult : Option SimulatedScenarioMultiLegImbalanceResult
  metrics : List SimulationMetric

/-- `run` with the metrics of its result. -/
def DeterministicScenarioRunner.report (parsers : ReportParsers) (ctx : DecimalContext)
    (runner : DeterministicScenarioRunner) (scenario : IdentifiedScenario) : Result ScenarioRunReport := do
  let run ← runner.run parsers.toParameterParsers ctx scenario.toSimulationScenario
  let multiLegImbalanceResult ← multiLegImbalanceResultFromConfiguration parsers
    scenario.toSimulationScenario.configuration run.orderResults
  let metrics ← scenarioRunMetrics parsers ctx scenario.toSimulationScenario run.orderResults multiLegImbalanceResult
  pure ⟨run.finalBook, run.orderResults, multiLegImbalanceResult, metrics⟩

end Scenarios
end Pmrp
