import Pmrp.Simulation.Correctness.NoLookAhead
import Pmrp.Simulation.ScenarioDeclarations

/-!
# `Simulation.Correctness.DeclarationOrder` — the order in which a scenario is written down

Everything about a scenario that a hash or a run sees comes out of its constructor, and the constructor sorts by keys
that it also requires to be unique (`sortUnique_perm`). So two declarations of the same parts make the same scenario.

- **Tags.** They are checked one by one in the order given; once all pass, the order is lost in the sort.
- **Declarations.** `normalize_reordered` goes through the constructor, `create_reordered` says it of scenarios.
- **Together.** `declaration_order_free`, with the artifacts and metrics of results.
-/

namespace Pmrp

open Scenarios

/-! ## The constructor -/

namespace ScenarioDeclaration

/-- The same declaration, its events, actions, expected fills and tags in any order. -/
structure Reordered (declaration other : ScenarioDeclaration) : Prop where
  scenarioId : other.scenarioId = declaration.scenarioId
  name : other.name = declaration.name
  configuration : other.configuration = declaration.configuration
  initialBook : other.initialBook = declaration.initialBook
  expectedFinalBook : other.expectedFinalBook = declaration.expectedFinalBook
  sourceType : other.expectedFinalBookSourceType = declaration.expectedFinalBookSourceType
  metadata : other.metadata = declaration.metadata
  marketEvents : other.marketEvents.Perm declaration.marketEvents
  orderActions : other.orderActions.Perm declaration.orderActions
  expectedFills : other.expectedFills.Perm declaration.expectedFills
  tags : other.tags.Perm declaration.tags

theorem validateText_eq {value fieldName validated : String} (h : validateText value fieldName = .ok validated) :
    validated = value := by
  simp only [validateText, bind_eq_ok, pure_eq_ok] at h
  obtain ⟨_, -, _, -, h⟩ := h
  exact h.symm

/-- Tags that are accepted in one order are accepted in every order, with the same result. -/
theorem normalizeTags_perm {tags other normalized : List String} (hperm : other.Perm tags)
    (h : normalizeTags tags = .ok normalized) : normalizeTags other = .ok normalized := by
  obtain ⟨validated, hvalidated, hsorted⟩ := bind_eq_ok.mp h
  have hself : ∀ tag ∈ tags, validateText tag "tag" = .ok (id tag) := by
    intro tag htag
    obtain ⟨text, htext⟩ := ok_of_mapM hvalidated tag htag
    obtain rfl := validateText_eq htext
    exact htext
  have htags : tags.mapM (fun tag => validateText tag "tag") = .ok tags := by
    rw [mapM_ok hself, List.map_id]
  have hother : other.mapM (fun tag => validateText tag "tag") = .ok other := by
    rw [mapM_ok fun tag htag => hself tag (hperm.mem_iff.mp htag), List.map_id]
  obtain rfl : tags = validated := Except.ok.inj (htags.symm.trans hvalidated)
  rw [normalizeTags, hother, ok_bind, sortUnique_perm hperm, hsorted]

/-- **The constructor.** Step by step: every check and every sort gives the same for the reordered lists. -/
theorem normalize_reordered {declaration other normalized : ScenarioDeclaration}
    (hreordered : declaration.Reordered other) (h : declaration.normalize = .ok normalized) :
    other.normalize = .ok normalized := by
  have htags : normalizeTags other.tags = normalizeTags declaration.tags := by
    simp only [normalize, bind_eq_ok] at h
    obtain ⟨_, -, _, -, _, -, _, -, _, -, _, -, _, -, _, -, _, -, _, -, _, -, tags, htags, -⟩ := h
    rw [htags, normalizeTags_perm hreordered.tags htags]
  rw [← h]
  obtain ⟨hid, hname, hconfiguration, hbook, hfinal, hsource, hmetadata, hevents, hactions, hfills, -⟩ := hreordered
  cases declaration
  cases other
  dsimp only at hid hname hconfiguration hbook hfinal hsource hmetadata hevents hactions hfills htags
  subst hid hname hconfiguration hbook hfinal hsource hmetadata
  simp only [normalize, sortAndValidateUniqueSequences, sortUnique_perm hevents, sortUnique_perm hactions,
    sortUnique_perm hfills, htags]

end ScenarioDeclaration

namespace IdentifiedScenario

theorem create_eq_ok {declaration : ScenarioDeclaration} {scenario : IdentifiedScenario} :
    create declaration = .ok scenario ↔ declaration.normalize = .ok scenario.declaration := by
  unfold create
  constructor
  · intro h
    split at h
    · cases h
    · rename_i normalized hnormalized
      cases h
      exact hnormalized
  · intro h
    split
    · rename_i e he
      rw [h] at he
      cases he
    · rename_i normalized hnormalized
      obtain ⟨accepted, haccepted⟩ := scenario
      obtain rfl : accepted = normalized := Except.ok.inj (h.symm.trans hnormalized)
      rfl

theorem create_reordered {declaration other : ScenarioDeclaration} {scenario : IdentifiedScenario}
    (hreordered : declaration.Reordered other) (h : create declaration = .ok scenario) :
    create other = .ok scenario :=
  create_eq_ok.mpr (ScenarioDeclaration.normalize_reordered hreordered (create_eq_ok.mp h))

end IdentifiedScenario

/-! ## Scenarios and results -/

/-- **Declaration order.** A reordered declaration has the scenario hash, the order results, the final book and the
    metrics of the declaration; and artifacts and metrics in any order make the same result, with the same checksum. -/
theorem declaration_order_free (sha : Sha256) (parsers : ReportParsers) (ctx : DecimalContext)
    (runner : DeterministicScenarioRunner) :
    (∀ (declaration other : ScenarioDeclaration) (scenario : IdentifiedScenario),
      declaration.Reordered other → IdentifiedScenario.create declaration = .ok scenario →
      ∃ reordered, IdentifiedScenario.create other = .ok reordered ∧
        reordered.scenarioHash sha = scenario.scenarioHash sha ∧
        runner.report parsers ctx reordered = runner.report parsers ctx scenario) ∧
    ∀ (configuration : ReportedConfiguration) (artifacts artifacts' : List SimulationArtifact)
      (metrics metrics' : List ReportedMetric), artifacts'.Perm artifacts → metrics'.Perm metrics →
      SimulationResults.calculateSimulationResultChecksum sha configuration artifacts' metrics'
          = SimulationResults.calculateSimulationResultChecksum sha configuration artifacts metrics ∧
        SimulationResults.SimulationResult.build sha configuration artifacts' metrics'
          = SimulationResults.SimulationResult.build sha configuration artifacts metrics ∧
        ∀ resultChecksum, SimulationResults.SimulationResult.create sha configuration artifacts' metrics' resultChecksum
          = SimulationResults.SimulationResult.create sha configuration artifacts metrics resultChecksum := by
  constructor
  · intro declaration other scenario hreordered hcreate
    exact ⟨scenario, IdentifiedScenario.create_reordered hreordered hcreate, rfl, rfl⟩
  · intro configuration artifacts artifacts' metrics metrics' hartifacts hmetrics
    exact ⟨SimulationResults.calculateSimulationResultChecksum_perm hartifacts hmetrics,
      SimulationResults.SimulationResult.build_perm hartifacts hmetrics,
      SimulationResults.SimulationResult.create_perm hartifacts hmetrics⟩

/-! ## Two trades written down backwards -/

def reportedRain : ReportedConfiguration where
  toSimulationConfiguration := rainConfiguration
  simulationVersion := "rain"
  queueModel := "none"
  randomSeed := 7
  canonicalData := .null

def declaredTrade (sequence : ℕ) (scheduledAt : UTCDateTime) : DeclaredMarketEvent where
  toScheduledMarketEvent := tradeAt sequence scheduledAt "sha256:declared"
  sourceType := .observedFact
  canonicalEvent := .null

/-- Two trades and two tags, in order. -/
def forwards : ScenarioDeclaration where
  scenarioId := "rain"
  name := "Rain tomorrow"
  configuration := reportedRain
  initialBook := ⟨rainBook, .null⟩
  marketEvents := [declaredTrade 0 15, declaredTrade 1 25]
  tags := ["dry", "wet"]

def backwards : ScenarioDeclaration :=
  { forwards with marketEvents := [declaredTrade 1 25, declaredTrade 0 15], tags := ["wet", "dry"] }

theorem reordered_backwards : forwards.Reordered backwards where
  scenarioId := rfl
  name := rfl
  configuration := rfl
  initialBook := rfl
  expectedFinalBook := rfl
  sourceType := rfl
  metadata := rfl
  marketEvents := List.Perm.swap _ _ []
  orderActions := List.Perm.refl _
  expectedFills := List.Perm.refl _
  tags := List.Perm.swap _ _ []

/-- Its constructor leaves it as it is. -/
theorem forwards_normalize : forwards.normalize = .ok forwards := by
  have hevents : ScenarioDeclaration.sortAndValidateUniqueSequences (fun event => event.sequence)
      forwards.marketEvents "market_events" = .ok forwards.marketEvents := sortUnique_of_pairwise (by decide)
  have hactions : ScenarioDeclaration.sortAndValidateUniqueSequences (fun action => action.sequence)
      forwards.orderActions "order_actions" = .ok forwards.orderActions := sortUnique_of_pairwise List.Pairwise.nil
  have hfills : ScenarioDeclaration.sortAndValidateUniqueSequences ExpectedSimulationFill.sequence
      forwards.expectedFills "expected_fills" = .ok forwards.expectedFills :=
    sortUnique_of_pairwise List.Pairwise.nil
  have htags : ScenarioDeclaration.normalizeTags forwards.tags = .ok forwards.tags := by
    have hvalid : (["dry", "wet"].mapM fun tag => ScenarioDeclaration.validateText tag "tag") = .ok ["dry", "wet"] := by
      decide +kernel
    show ScenarioDeclaration.normalizeTags ["dry", "wet"] = .ok ["dry", "wet"]
    rw [ScenarioDeclaration.normalizeTags, hvalid, ok_bind]
    exact sortUnique_of_pairwise (List.pairwise_pair.mpr (by decide))
  simp only [ScenarioDeclaration.normalize, hevents, hactions, hfills, htags, ok_bind]
  rfl

theorem forwards_accepted : ∃ scenario, IdentifiedScenario.create forwards = .ok scenario :=
  ⟨⟨forwards, ScenarioDeclaration.accepted_of_normalize forwards_normalize⟩,
    IdentifiedScenario.create_eq_ok.mpr forwards_normalize⟩

def noReportParameters : ReportParsers where
  toParameterParsers := noParameters
  parseInt _ := .error (valueError "unused")
  feeTableCurrency _ _ := .ok "USD"

theorem declaration_order_free_backwards : ∃ scenario reordered,
    IdentifiedScenario.create forwards = .ok scenario ∧ IdentifiedScenario.create backwards = .ok reordered ∧
      reordered.scenarioHash Sha256.constant = scenario.scenarioHash Sha256.constant ∧
      rainRunner.report noReportParameters defaultContext reordered
        = rainRunner.report noReportParameters defaultContext scenario := by
  obtain ⟨scenario, hscenario⟩ := forwards_accepted
  obtain ⟨reordered, hreordered, hhash, hreport⟩ :=
    (declaration_order_free Sha256.constant noReportParameters defaultContext rainRunner).1 forwards backwards scenario
      reordered_backwards hscenario
  exact ⟨scenario, reordered, hscenario, hreordered, hhash, hreport⟩

end Pmrp
