import Pmrp.Lib.RoundedSums
import Pmrp.Schemas.Correctness.WrittenDecimals
import Pmrp.Simulation.Correctness.DeclarationOrder

/-!
# `Simulation.Correctness.FaithfulMetrics` — metrics as sums over the orders of a run

The counts of a run always add up. A total is exact when no partial sum of its values has more than 28 digits. The fee
metrics are labelled with the currency of all they sum when the fee model charges the components that fill the orders
in one currency; for a fee table, when the rules of the roles that fill have one.
-/

namespace Pmrp
namespace Scenarios

/-! ## Reported totals -/

/-- The metric with this name. -/
def metricNamed (metrics : List SimulationMetric) (name : String) : Option SimulationMetric :=
  metrics.find? fun metric => metric.name = name

def allFeeEstimates (orderResults : List SimulatedScenarioOrderResult) : List FeeEstimate :=
  orderResults.flatMap SimulatedScenarioOrderResult.feeEstimates

def allSettlements (orderResults : List SimulatedScenarioOrderResult) : List SimulatedScenarioSettlementResult :=
  orderResults.filterMap SimulatedScenarioOrderResult.settlementResult

/-- A total over the orders of a run: the name of its metric, and what it sums. -/
structure Total where
  name : String
  values : List SimulatedScenarioOrderResult → List ℚ

def feeTotal (name : String) (field : FeeEstimate → ℚ) : Total :=
  ⟨name, fun orderResults => (allFeeEstimates orderResults).map field⟩

/-- The totals of an amount in the currency of the fees. -/
def feeTotals : List Total :=
  [feeTotal "total_fee_amount" FeeEstimate.feeAmount, feeTotal "total_filled_notional" FeeEstimate.notional,
    feeTotal "total_net_fee_amount" FeeEstimate.netFeeAmount, feeTotal "total_rebate_amount" FeeEstimate.rebateAmount]

def totals : List Total :=
  [⟨"filled_quantity", fun orderResults =>
      (orderResults.filterMap SimulatedScenarioOrderResult.fillEstimate).map FillEstimate.filledQuantity⟩,
    ⟨"settled_payout_amount", fun orderResults =>
      (allSettlements orderResults).map fun settlement => settlement.estimate.payoutAmount⟩,
    ⟨"settled_winning_quantity", fun orderResults =>
      ((allSettlements orderResults).filter fun settlement => settlement.estimate.isWinningOutcome).map
        fun settlement => settlement.estimate.quantity⟩,
    ⟨"total_slippage_amount", fun orderResults =>
      (orderResults.flatMap SimulatedScenarioOrderResult.slippageEstimates).map SlippageEstimate.totalSlippage⟩] ++
  feeTotals

/-- The metrics are faithful aggregates of the order results. -/
structure Faithful (scenario : SimulationScenario) (orderResults : List SimulatedScenarioOrderResult)
    (metrics : List SimulationMetric) : Prop where
  counts : ∃ accepted rejected, metricNamed metrics "accepted_order_count" = some accepted ∧
    metricNamed metrics "rejected_order_count" = some rejected ∧
    accepted.value + rejected.value = (orderIntentActions scenario.orderActions).length
  exact : ∀ total ∈ totals, ∃ metric, metricNamed metrics total.name = some metric ∧
    metric.value = (total.values orderResults).sum
  currency : ∀ total ∈ feeTotals, ∃ metric, metricNamed metrics total.name = some metric ∧
    ∀ estimate ∈ allFeeEstimates orderResults, estimate.currency.code = metric.unit

/-- The partial sums of the values, from an accumulator on, have at most 28 digits. -/
def SumsWritten : ℚ → List ℚ → Prop
  | _, [] => True
  | acc, x :: xs => Written (acc + x) ∧ SumsWritten (acc + x) xs

theorem SumsWritten.fit {acc : ℚ} {xs : List ℚ} (h : SumsWritten acc xs) : defaultContext.PartialSumsFit acc xs := by
  induction xs generalizing acc with
  | nil => exact trivial
  | cons x xs ih => exact ⟨round_eq_of_written h.1, ih h.2⟩

/-- The values of the totals add up within 28 digits. -/
def TotalsWritten (orderResults : List SimulatedScenarioOrderResult) : Prop :=
  ∀ total ∈ totals, SumsWritten 0 (total.values orderResults)

/-- What an order is filled by. -/
def components (result : SimulatedScenarioOrderResult) : List SimulatedFillComponent :=
  (result.fillEstimate.map FillEstimate.components).getD []

/-- What the orders are filled by. -/
def filledComponents (orderResults : List SimulatedScenarioOrderResult) : List SimulatedFillComponent :=
  orderResults.flatMap components

/-- What the fee model charges for a component. -/
def feeOf (feeModel : FeeModel) (exchange : String) (component : SimulatedFillComponent) : Result FeeEstimate :=
  feeModel.estimate exchange component.price component.quantity component.liquidityRole

/-- The fee model charges the components in one currency. -/
def ChargedInOneCurrency (feeModel : FeeModel) (exchange : String) (filled : List SimulatedFillComponent) : Prop :=
  ∀ a ∈ filled, ∀ b ∈ filled, ∀ x y, feeOf feeModel exchange a = .ok x → feeOf feeModel exchange b = .ok y →
    x.currency = y.currency

/-- The fee model charges as a fee table does, in the currency of the rule of a role. -/
def ChargesByRole (feeModel : FeeModel) (exchange : String) (currencyOf : LiquidityRole → Currency) : Prop :=
  ∀ component x, feeOf feeModel exchange component = .ok x → x.currency = currencyOf component.liquidityRole

/-! ## What a run reports -/

variable {parsers : ReportParsers} {ctx : DecimalContext} {scenario : SimulationScenario}
  {orderResults : List SimulatedScenarioOrderResult}
  {multiLegImbalanceResult : Option SimulatedScenarioMultiLegImbalanceResult} {metrics : List SimulationMetric}

theorem metricNamed_total
    (h : scenarioRunMetrics parsers ctx scenario orderResults multiLegImbalanceResult = .ok metrics) :
    ∀ total ∈ totals, ∃ metric, metricNamed metrics total.name = some metric ∧
      metric.value = ctx.sum (total.values orderResults) := by
  simp only [scenarioRunMetrics, bind_eq_ok, pure_eq_ok] at h
  obtain ⟨disconnectWindow, -, feeCurrency, -, rfl⟩ := h
  simp only [totals, feeTotals, feeTotal, List.cons_append, List.nil_append, List.forall_mem_cons,
    List.not_mem_nil, false_implies, implies_true, and_true]
  refine ⟨⟨_, rfl, rfl⟩, ⟨_, rfl, rfl⟩, ⟨_, rfl, rfl⟩, ⟨_, rfl, rfl⟩, ⟨_, rfl, rfl⟩, ⟨_, rfl, rfl⟩, ⟨_, rfl, rfl⟩,
    ⟨_, rfl, rfl⟩⟩

theorem metricNamed_feeTotal
    (h : scenarioRunMetrics parsers ctx scenario orderResults multiLegImbalanceResult = .ok metrics) :
    ∃ feeCurrency, feeMetricCurrency parsers scenario orderResults = .ok feeCurrency ∧
      ∀ total ∈ feeTotals, ∃ metric, metricNamed metrics total.name = some metric ∧ metric.unit = feeCurrency := by
  simp only [scenarioRunMetrics, bind_eq_ok, pure_eq_ok] at h
  obtain ⟨disconnectWindow, -, feeCurrency, hcurrency, rfl⟩ := h
  refine ⟨feeCurrency, hcurrency, ?_⟩
  simp only [feeTotals, feeTotal, List.forall_mem_cons, List.not_mem_nil, false_implies, implies_true, and_true]
  refine ⟨⟨_, rfl, rfl⟩, ⟨_, rfl, rfl⟩, ⟨_, rfl, rfl⟩, ⟨_, rfl, rfl⟩⟩

theorem metricNamed_counts
    (h : scenarioRunMetrics parsers ctx scenario orderResults multiLegImbalanceResult = .ok metrics) :
    ∃ accepted rejected, metricNamed metrics "accepted_order_count" = some accepted ∧
      metricNamed metrics "rejected_order_count" = some rejected ∧
      accepted.value + rejected.value = orderResults.length := by
  simp only [scenarioRunMetrics, bind_eq_ok, pure_eq_ok] at h
  obtain ⟨disconnectWindow, -, feeCurrency, -, rfl⟩ := h
  refine ⟨_, _, rfl, rfl, ?_⟩
  have hsplit := List.length_eq_length_filter_add (l := orderResults)
    fun result => result.admission.rejectionDecision.accepted
  show ((orderResults.filter fun result => result.admission.rejectionDecision.accepted).length : ℚ) +
    ((orderResults.filter fun result => result.admission.rejected).length : ℚ) = orderResults.length
  rw [hsplit, Nat.cast_add]
  rfl

/-- The label of the fee metrics is the currency of the first fee estimate. -/
theorem currency_of_first {feeCurrency : String} {estimate : FeeEstimate} {estimates : List FeeEstimate}
    (h : feeMetricCurrency parsers scenario orderResults = .ok feeCurrency)
    (hestimates : allFeeEstimates orderResults = estimate :: estimates) : feeCurrency = estimate.currency.code := by
  unfold feeMetricCurrency at h
  unfold allFeeEstimates at hestimates
  rw [hestimates] at h
  exact (pure_eq_ok.mp h).symm

theorem code_injective {a b : Currency} (h : a.code = b.code) : a = b := by
  cases a
  cases b
  cases h
  rfl

/-! ## One result for each order -/

open DeterministicScenarioRunner

variable {runner : DeterministicScenarioRunner}

theorem length_runOrderActions {settings : RunSettings} {index : ℕ} {used : List ℕ}
    {actions : List ScheduledOrderAction} {results : List SimulatedScenarioOrderResult}
    (h : runner.runOrderActions ctx settings scenario index used actions = .ok results) :
    results.length = actions.length := by
  induction actions generalizing index used results with
  | nil =>
      cases h
      rfl
  | cons action actions ih =>
      rw [runOrderActions, bind_eq_ok] at h
      obtain ⟨result, -, h⟩ := h
      obtain ⟨rest, hrest, hpure⟩ := bind_eq_ok.mp h
      rw [← pure_eq_ok.mp hpure, List.length_cons, List.length_cons, ih hrest]

/-- The fee estimates of an order are those of what it is filled by. -/
theorem Course.fees {settings : RunSettings} {action : ScheduledOrderAction} {intent : OrderIntent} {index : ℕ}
    {cancelAction : Option ScheduledOrderAction} {admission : SimulatedExchangeOrderAdmission}
    {result : SimulatedScenarioOrderResult}
    (h : Course runner ctx settings scenario action intent index cancelAction admission result) :
    (components result).mapM (feeOf settings.feeModel scenario.initialBook.exchange) = .ok result.feeEstimates := by
  cases h with
  | rejected => rfl
  | cancelled => rfl
  | crossed => rfl
  | finished _ _ _ _ _ _ hfinish =>
      simp only [finishOrder, bind_eq_ok] at hfinish
      obtain ⟨feeEstimates, hfees, slippageEstimates, -, settlementResult, -, hvalid⟩ := hfinish
      rw [SimulatedScenarioOrderResult.eq_of_validate hvalid]
      exact hfees

theorem fees_of_runOrderActions {settings : RunSettings} {index : ℕ} {used : List ℕ}
    {actions : List ScheduledOrderAction} {results : List SimulatedScenarioOrderResult}
    (h : runner.runOrderActions ctx settings scenario index used actions = .ok results) :
    (filledComponents results).mapM (feeOf settings.feeModel scenario.initialBook.exchange) =
      .ok (allFeeEstimates results) := by
  induction actions generalizing index used results with
  | nil =>
      cases h
      rfl
  | cons action actions ih =>
      rw [runOrderActions, bind_eq_ok] at h
      obtain ⟨result, hresult, h⟩ := h
      obtain ⟨rest, hrest, hpure⟩ := bind_eq_ok.mp h
      obtain ⟨intent, admission, -, -, hcourse⟩ := course_of_runOrderAction hresult
      rw [← pure_eq_ok.mp hpure, filledComponents, allFeeEstimates, List.flatMap_cons, List.flatMap_cons,
        List.mapM_append, hcourse.fees, ok_bind]
      show (filledComponents rest).mapM _ >>= _ = _
      rw [ih hrest]
      rfl

theorem chargedInOneCurrency_iff {feeModel : FeeModel} {exchange : String} {filled : List SimulatedFillComponent}
    {estimates : List FeeEstimate} (h : filled.mapM (feeOf feeModel exchange) = .ok estimates) :
    ChargedInOneCurrency feeModel exchange filled ↔ ∀ x ∈ estimates, ∀ y ∈ estimates, x.currency = y.currency := by
  constructor
  · intro hcharged x hx y hy
    obtain ⟨a, ha, hxa⟩ := (mem_iff_of_mapM h).mp hx
    obtain ⟨b, hb, hyb⟩ := (mem_iff_of_mapM h).mp hy
    exact hcharged a ha b hb x y hxa hyb
  · intro hcurrency a ha b hb x y hx hy
    exact hcurrency x ((mem_iff_of_mapM h).mpr ⟨a, ha, hx⟩) y ((mem_iff_of_mapM h).mpr ⟨b, hb, hy⟩)

/-- A fee table charges in one currency when the rules of the roles that fill have one. -/
theorem chargedInOneCurrency_iff_roles {feeModel : FeeModel} {exchange : String}
    {filled : List SimulatedFillComponent} {estimates : List FeeEstimate}
    (h : filled.mapM (feeOf feeModel exchange) = .ok estimates) {currencyOf : LiquidityRole → Currency}
    (hroles : ChargesByRole feeModel exchange currencyOf) :
    ChargedInOneCurrency feeModel exchange filled ↔
      ∀ a ∈ filled, ∀ b ∈ filled, currencyOf a.liquidityRole = currencyOf b.liquidityRole := by
  constructor
  · intro hcharged a ha b hb
    obtain ⟨x, hx⟩ := ok_of_mapM h a ha
    obtain ⟨y, hy⟩ := ok_of_mapM h b hb
    rw [← hroles a x hx, ← hroles b y hy]
    exact hcharged a ha b hb x y hx hy
  · intro hcurrency a ha b hb x y hx hy
    rw [hroles a x hx, hroles b y hy]
    exact hcurrency a ha b hb

/-- **Run metrics are faithful aggregates** where the values of the totals add up within 28 digits, exactly when the
    fee model charges what fills the orders in one currency. Faithful totals themselves have at most 28 digits. -/
theorem metrics_faithful_iff {settings : RunSettings} {run : SimulationScenarioRun}
    (hsettings : runner.settings parsers.toParameterParsers scenario.configuration scenario.initialBook.exchange =
      .ok settings)
    (hrun : runner.run parsers.toParameterParsers defaultContext scenario = .ok run)
    (hmetrics : scenarioRunMetrics parsers defaultContext scenario run.orderResults multiLegImbalanceResult =
      .ok metrics) :
    (TotalsWritten run.orderResults → (Faithful scenario run.orderResults metrics ↔
      ChargedInOneCurrency settings.feeModel scenario.initialBook.exchange (filledComponents run.orderResults))) ∧
    (Faithful scenario run.orderResults metrics →
      ChargedInOneCurrency settings.feeModel scenario.initialBook.exchange (filledComponents run.orderResults) ∧
        ∀ total ∈ totals, InDigits (total.values run.orderResults).sum) ∧
    ∀ currencyOf, ChargesByRole settings.feeModel scenario.initialBook.exchange currencyOf →
      (ChargedInOneCurrency settings.feeModel scenario.initialBook.exchange (filledComponents run.orderResults) ↔
        ∀ a ∈ filledComponents run.orderResults, ∀ b ∈ filledComponents run.orderResults,
          currencyOf a.liquidityRole = currencyOf b.liquidityRole) := by
  obtain ⟨settings', hsettings', hresults⟩ := run_eq_ok hrun
  rw [hsettings] at hsettings'
  cases hsettings'
  have hfees := fees_of_runOrderActions hresults
  have hcharged : Faithful scenario run.orderResults metrics →
      ChargedInOneCurrency settings.feeModel scenario.initialBook.exchange (filledComponents run.orderResults) := by
    intro h
    refine (chargedInOneCurrency_iff hfees).mpr fun a ha b hb => ?_
    obtain ⟨metric, -, hunit⟩ := h.currency _ List.mem_cons_self
    exact code_injective ((hunit a ha).trans (hunit b hb).symm)
  refine ⟨fun hwritten => ⟨hcharged, fun hcurrency => ?_⟩, fun h => ⟨hcharged h, fun total htotal => ?_⟩,
    fun currencyOf hroles => chargedInOneCurrency_iff_roles hfees hroles⟩
  · refine ⟨?_, fun total htotal => ?_, ?_⟩
    -- counts are not rounded: there is one result for each action
    · rw [← length_runOrderActions hresults]
      exact metricNamed_counts hmetrics
    · obtain ⟨metric, hnamed, hsum⟩ := metricNamed_total hmetrics total htotal
      exact ⟨metric, hnamed, hsum.trans (hwritten total htotal).fit.sum_eq⟩
    · obtain ⟨feeCurrency, hfee, hnamed⟩ := metricNamed_feeTotal hmetrics
      intro total htotal
      obtain ⟨metric, hmetric, hunit⟩ := hnamed total htotal
      refine ⟨metric, hmetric, fun estimate hestimate => ?_⟩
      -- the unit is the currency of the first estimate, and all have that one
      cases hestimates : allFeeEstimates run.orderResults with
      | nil =>
          rw [hestimates] at hestimate
          cases hestimate
      | cons first estimates =>
          rw [hunit, currency_of_first hfee hestimates]
          have hfirst : first ∈ allFeeEstimates run.orderResults := by
            rw [hestimates]
            exact List.mem_cons_self
          rw [(chargedInOneCurrency_iff hfees).mp hcurrency estimate hestimate first hfirst]
  · obtain ⟨metric, hnamed, hexact⟩ := h.exact total htotal
    obtain ⟨metric', hnamed', hsum⟩ := metricNamed_total hmetrics total htotal
    rw [hnamed] at hnamed'
    cases hnamed'
    refine fits_default_iff.mp ?_
    rw [← hexact, hsum]
    exact DecimalContext.fits_sum _

/-- The values that the totals of a run sum. -/
def totalsSeen (run : SimulationScenarioRun) : List (List ℚ) :=
  totals.map fun total => total.values run.orderResults

theorem rain_totals {scenario : SimulationScenario} {seen : List (List ℚ)}
    (h : (rainRunner.run noParameters defaultContext scenario).toOption.map totalsSeen = some seen) :
    ∃ run, rainRunner.run noParameters defaultContext scenario = .ok run ∧ totalsSeen run = seen := by
  cases hrun : rainRunner.run noParameters defaultContext scenario with
  | error e => rw [hrun] at h; cases h
  | ok run =>
      rw [hrun] at h
      exact ⟨run, rfl, Option.some.inj h⟩

theorem rain_metrics {scenario : SimulationScenario} (hwindow : disconnectWindowFromConfiguration noParameters
    scenario.configuration = .ok none) (orderResults : List SimulatedScenarioOrderResult) :
    ∃ metrics, scenarioRunMetrics noReportParameters defaultContext scenario orderResults none = .ok metrics := by
  obtain ⟨feeCurrency, hcurrency⟩ : ∃ feeCurrency, feeMetricCurrency noReportParameters scenario orderResults =
      .ok feeCurrency := by
    unfold feeMetricCurrency
    split
    · exact ⟨_, rfl⟩
    · exact ⟨_, rfl⟩
  simp only [scenarioRunMetrics, bind_eq_ok, pure_eq_ok]
  exact ⟨_, none, hwindow, feeCurrency, hcurrency, rfl⟩

/-- Somebody sells 1 at 0.40, twice: the two trades fill the order. -/
def twoTrades : SimulationScenario := rainScenario [15, 16] fun i => if i = 0 then "sha256:first" else "sha256:second"

theorem metrics_faithful_iff_twoTrades : ∃ run metrics,
    rainRunner.run noParameters defaultContext twoTrades = .ok run ∧
    scenarioRunMetrics noReportParameters defaultContext twoTrades run.orderResults none = .ok metrics ∧
    Faithful twoTrades run.orderResults metrics := by
  obtain ⟨run, hrun, hseen⟩ :=
    @rain_totals twoTrades [[2], [0], [], [0, 0], [0, 0], [2 / 5, 2 / 5], [0, 0], [0, 0]] (by decide +kernel)
  obtain ⟨metrics, hmetrics⟩ := @rain_metrics twoTrades rfl run.orderResults
  have hiff := (@metrics_faithful_iff noReportParameters twoTrades none metrics rainRunner _ run rfl hrun hmetrics)
  refine ⟨run, metrics, hrun, hmetrics, (hiff.1 ?_).mpr ((hiff.2.2 (fun _ => ⟨"USD", isCurrency_fees⟩) ?_).mpr ?_)⟩
  · have hzero : Written (0 + 0) := written_div 0 1 (by norm_num) (by norm_num) (by norm_num)
    have hfour : Written (0 + 2 / 5) := written_div 4 1 (by norm_num) (by norm_num) (by norm_num)
    have height : Written (0 + 2 / 5 + 2 / 5) := written_div 8 1 (by norm_num) (by norm_num) (by norm_num)
    have htwo : Written (0 + 2) := written_div 2 0 (by norm_num) (by norm_num) (by norm_num)
    have hzeros : Written (0 + 0 + 0) := by rwa [add_zero]
    intro total htotal
    have hmem : total.values run.orderResults ∈
        ([[2], [0], [], [0, 0], [0, 0], [2 / 5, 2 / 5], [0, 0], [0, 0]] : List (List ℚ)) := by
      rw [← hseen]
      exact List.mem_map_of_mem htotal
    simp only [List.mem_cons, List.not_mem_nil, or_false] at hmem
    rcases hmem with h | h | h | h | h | h | h | h <;> rw [h]
    all_goals first
      | exact ⟨htwo, trivial⟩
      | exact ⟨hzero, trivial⟩
      | exact trivial
      | exact ⟨hzero, hzeros, trivial⟩
      | exact ⟨hfour, height, trivial⟩
  · rintro component x ⟨⟩
    rfl
  · exact fun _ _ _ _ => rfl

/-! ## A fill of twenty-eight digits -/

/-- Eighteen of them behind the point. -/
def wideQuantity : ℚ := 9999999999999999999999999999 / 10 ^ 18

theorem wideQuantity_pos : 0 < wideQuantity := by
  unfold wideQuantity
  positivity

def wideOrder : OrderIntent := { RiskEngine.quoteTwo with quantity := wideQuantity, quantity_pos := wideQuantity_pos }

def wideTrade : Trade := { rainTrade with quantity := wideQuantity, quantity_pos := wideQuantity_pos }

def wideEvents : List ScheduledMarketEvent := [⟨0, 15, .trade wideTrade, "sha256:wide"⟩]

def wideActions : List ScheduledOrderAction := [⟨0, 10, .orderIntent wideOrder⟩]

theorem wideEvents_sorted : wideEvents.Pairwise fun a b => a.sequence < b.sequence := List.pairwise_singleton _ _

theorem wideActions_sorted : wideActions.Pairwise fun a b => a.sequence < b.sequence := List.pairwise_singleton _ _

theorem wideEvents_lineage : ∀ event ∈ wideEvents, event.event.InLineage rainBook :=
  List.forall_mem_singleton.mpr ⟨rfl, rfl, rfl⟩

theorem wideActions_lineage : ∀ action ∈ wideActions, action.action.InLineage rainBook :=
  List.forall_mem_singleton.mpr ⟨rfl, rfl⟩

theorem rainBook_valid : rainBook.isValid = true := rfl

/-- An order at 10 and a trade at 15 that fills it. -/
def wideScenario : SimulationScenario where
  configuration := rainConfiguration
  initialBook := rainBook
  marketEvents := wideEvents
  orderActions := wideActions
  initialBook_valid := rainBook_valid
  marketEvents_sorted := wideEvents_sorted
  orderActions_sorted := wideActions_sorted
  marketEvents_lineage := wideEvents_lineage
  orderActions_lineage := wideActions_lineage

/-- The fill is worth 3999999999.9999999999999999996, which has 29 digits, and the total says 4000000000. -/
theorem wide_notional_rounded : ∃ run metrics,
    rainRunner.run noParameters defaultContext wideScenario = .ok run ∧
    scenarioRunMetrics noReportParameters defaultContext wideScenario run.orderResults none = .ok metrics ∧
    (allFeeEstimates run.orderResults).map FeeEstimate.notional = [9999999999999999999999999999 / 2500000000000000000] ∧
    (metricNamed metrics "total_filled_notional").map SimulationMetric.value = some 4000000000 ∧
    ¬Faithful wideScenario run.orderResults metrics := by
  obtain ⟨run, hrun, hseen⟩ := @rain_totals wideScenario
    [[wideQuantity], [0], [], [0], [0], [9999999999999999999999999999 / 2500000000000000000], [0], [0]]
    (by decide +kernel)
  obtain ⟨metrics, hmetrics⟩ := @rain_metrics wideScenario rfl run.orderResults
  have hnotional : (feeTotal "total_filled_notional" FeeEstimate.notional).values run.orderResults = _ :=
    Option.some.inj (congrArg (fun seen => seen[5]?) hseen)
  have hsum : defaultContext.sum [9999999999999999999999999999 / 2500000000000000000] = 4000000000 := by decide +kernel
  have hlisted : feeTotal "total_filled_notional" FeeEstimate.notional ∈ totals := by simp [totals, feeTotals]
  obtain ⟨metric, hnamed, hvalue⟩ := metricNamed_total hmetrics _ hlisted
  rw [hnotional, hsum] at hvalue
  refine ⟨run, metrics, hrun, hmetrics, hnotional, ?_, fun h => ?_⟩
  · show (metricNamed metrics (feeTotal "total_filled_notional" FeeEstimate.notional).name).map _ = _
    rw [hnamed, Option.map_some, hvalue]
  · obtain ⟨metric', hnamed', hexact⟩ := h.exact _ hlisted
    rw [hnamed] at hnamed'
    cases hnamed'
    rw [hnotional, hvalue] at hexact
    norm_num at hexact

end Scenarios
end Pmrp
