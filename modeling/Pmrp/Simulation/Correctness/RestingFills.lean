import Pmrp.Simulation.Correctness.CancelAssignment
import Pmrp.Simulation.Correctness.Disconnects
import Pmrp.Simulation.Correctness.MaximalFills

/-!
# `Simulation.Correctness.RestingFills` — resting fills follow the tape

What an order that the book does not fill gets from the trades while it rests. The eligible trades are read off the
tape alone: which events the order sees while it is alive, each payload once, and which of their trades cross its
limit. `restingFills_exact` is the loop, `resting_fills_follow_tape` the run.
-/

namespace Pmrp
namespace Scenarios

/-! ## Eligible trades -/

/-- At or after the activation, not after the cancel, and not while the connection is down. -/
def LiveAt (activationAt : UTCDateTime) (cancel : Option ScheduledOrderAction) (window : Option DisconnectWindow)
    (t : UTCDateTime) : Prop :=
  activationAt ≤ t ∧ (∀ c ∈ cancel, t ≤ c.scheduledAt) ∧
    ∀ w ∈ window, t < w.disconnectedAt ∨ ∃ r ∈ w.reconnectedAt, r ≤ t

/-- A trade of the order's outcome whose aggressor stands against the order, at a price within its limit. -/
def Crosses (intent : OrderIntent) (trade : Trade) : Prop :=
  trade.outcomeId = intent.outcomeId ∧ ∃ limitPrice ∈ intent.limitPrice,
    match intent.side with
    | .buy => trade.aggressorSide = some .sell ∧ trade.price ≤ limitPrice
    | .sell => trade.aggressorSide = some .buy ∧ limitPrice ≤ trade.price

theorem tradeFillsRestingIntent_iff {trade : Trade} {intent : OrderIntent} :
    tradeFillsRestingIntent trade intent = true ↔ Crosses intent trade := by
  unfold tradeFillsRestingIntent Crosses
  cases intent.limitPrice with
  | none => simp
  | some limitPrice =>
      cases trade.aggressorSide with
      | none => cases intent.side <;> simp
      | some aggressorSide => cases intent.side <;> simp

instance (intent : OrderIntent) (trade : Trade) : Decidable (Crosses intent trade) :=
  decidable_of_iff _ tradeFillsRestingIntent_iff

theorem restingWindow_iff {activationAt : UTCDateTime} {cancel : Option ScheduledOrderAction}
    {window : Option DisconnectWindow} {event : ScheduledMarketEvent} :
    restingWindow activationAt cancel window event = true ↔ LiveAt activationAt cancel window event.scheduledAt := by
  rw [restingWindow, decide_eq_true_eq]
  refine and_congr_right fun _ => and_congr_right fun _ => ?_
  cases window with
  | none => simp [scheduledAtDuringDisconnect]
  | some w =>
      cases hreconnected : w.reconnectedAt with
      | none => simp [scheduledAtDuringDisconnect, hreconnected]
      | some r =>
          simp only [scheduledAtDuringDisconnect, Option.mem_some_iff, exists_eq_left', hreconnected, forall_eq',
            not_and, not_lt]
          constructor
          · intro h
            rcases lt_or_ge event.scheduledAt w.disconnectedAt with hlt | hge
            · exact Or.inl hlt
            · exact Or.inr (h hge)
          · rintro (hlt | hle) hge
            · exact absurd hge (not_le.mpr hlt)
            · exact hle

instance (activationAt : UTCDateTime) (cancel : Option ScheduledOrderAction) (window : Option DisconnectWindow)
    (t : UTCDateTime) : Decidable (LiveAt activationAt cancel window t) :=
  inferInstanceAs (Decidable (_ ∧ (∀ c ∈ cancel, t ≤ c.scheduledAt) ∧
    ∀ w ∈ window, t < w.disconnectedAt ∨ ∃ r ∈ w.reconnectedAt, r ≤ t))

/-- The trade of an event, when it crosses the order. -/
def crossingTrade (intent : OrderIntent) (event : ScheduledMarketEvent) : Option Trade :=
  match event.event with
  | .trade trade => if Crosses intent trade then some trade else none
  | _ => none

/-- The trades on the tape that can fill the order while it rests, in order and each payload once. -/
def eligibleTrades (scenario : SimulationScenario) (intent : OrderIntent) (activationAt : UTCDateTime)
    (cancel : Option ScheduledOrderAction) (window : Option DisconnectWindow) : List Trade :=
  (firstCopies (scenario.marketEvents.filter fun event =>
    decide (LiveAt activationAt cancel window event.scheduledAt))).filterMap (crossingTrade intent)

/-! ## What the loop takes -/

/-- Components that take the first trades in order, each in full except maybe the last. -/
inductive TapeFill : List Trade → List SimulatedFillComponent → Prop where
  | nil {trades : List Trade} : TapeFill trades []
  | part {trade : Trade} {trades : List Trade} {quantity : ℚ} (hpos : 0 < quantity) (hle : quantity ≤ trade.quantity) :
      TapeFill (trade :: trades) [⟨trade.price, quantity, .maker⟩]
  | full {trade : Trade} {trades : List Trade} {components : List SimulatedFillComponent}
      (hrest : TapeFill trades components) :
      TapeFill (trade :: trades) (⟨trade.price, trade.quantity, .maker⟩ :: components)

def tradedQuantity (trades : List Trade) : ℚ := (trades.map Trade.quantity).sum

theorem tradedQuantity_nonneg (trades : List Trade) : 0 ≤ tradedQuantity trades := by
  refine List.sum_nonneg fun q hq => ?_
  obtain ⟨trade, -, rfl⟩ := List.mem_map.mp hq
  exact trade.quantity_pos.le

theorem tradedQuantity_cons (trade : Trade) (trades : List Trade) :
    tradedQuantity (trade :: trades) = trade.quantity + tradedQuantity trades := List.sum_cons

/-- What a loop leaves and takes when it takes all that it may, first trade first. -/
structure TakesTrades (remaining : ℚ) (trades : List Trade) (taken : ℚ × List SimulatedFillComponent) : Prop where
  left_eq : taken.1 = remaining - min remaining (tradedQuantity trades)
  sum_eq : FillModels.filledSum taken.2 = min remaining (tradedQuantity trades)
  tape : TapeFill trades taken.2

variable {trade : Trade} {trades : List Trade} {remaining : ℚ}

/-- The last trade is taken for what is left of the quantity. -/
theorem takesTrades_last (hpos : 0 < remaining) (hle : remaining ≤ trade.quantity) :
    TakesTrades remaining (trade :: trades) (0, [⟨trade.price, remaining, .maker⟩]) := by
  have hrest := tradedQuantity_nonneg trades
  have hall : min remaining (tradedQuantity (trade :: trades)) = remaining := by
    rw [tradedQuantity_cons]
    exact min_eq_left (by linarith)
  refine ⟨?_, ?_, .part hpos hle⟩
  · rw [hall, sub_self]
  · rw [hall]
    simp [FillModels.filledSum]

/-- A trade before the last is taken in full. -/
theorem TakesTrades.cons {taken : ℚ × List SimulatedFillComponent}
    (h : TakesTrades (remaining - trade.quantity) trades taken) :
    TakesTrades remaining (trade :: trades) (taken.1, ⟨trade.price, trade.quantity, .maker⟩ :: taken.2) := by
  have hshift : min remaining (tradedQuantity (trade :: trades)) =
      trade.quantity + min (remaining - trade.quantity) (tradedQuantity trades) := by
    rw [tradedQuantity_cons, ← min_add_add_left]
    congr 1
    ring
  refine ⟨?_, ?_, .full h.tape⟩
  · show taken.1 = _
    rw [h.left_eq, hshift]
    ring
  · rw [hshift, ← h.sum_eq]
    simp [FillModels.filledSum]

variable {intent : OrderIntent} {event : ScheduledMarketEvent} {events : List ScheduledMarketEvent}

theorem restingFills_of_none (h : crossingTrade intent event = none) :
    restingFills .exact intent remaining (event :: events) = restingFills .exact intent remaining events := by
  unfold crossingTrade at h
  cases hevent : event.event with
  | snapshot s => simp only [restingFills, hevent]
  | delta d => simp only [restingFills, hevent]
  | trade trade =>
      rw [hevent] at h
      dsimp only at h
      have hnot : ¬tradeFillsRestingIntent trade intent = true := by
        intro hfills
        rw [if_pos (tradeFillsRestingIntent_iff.mp hfills)] at h
        cases h
      simp only [restingFills, hevent, if_neg hnot]

theorem restingFills_of_some (hpos : 0 < remaining) (h : crossingTrade intent event = some trade) :
    restingFills .exact intent remaining (event :: events) =
      if remaining ≤ trade.quantity then (0, [⟨trade.price, remaining, .maker⟩])
      else ((restingFills .exact intent (remaining - trade.quantity) events).1,
        ⟨trade.price, trade.quantity, .maker⟩ ::
          (restingFills .exact intent (remaining - trade.quantity) events).2) := by
  unfold crossingTrade at h
  cases hevent : event.event with
  | snapshot s => rw [hevent] at h; cases h
  | delta d => rw [hevent] at h; cases h
  | trade other =>
      rw [hevent] at h
      dsimp only at h
      split_ifs at h with hcrosses
      cases h
      have hfills := tradeFillsRestingIntent_iff.mpr hcrosses
      have hmin : min remaining trade.quantity ≠ 0 := (lt_min hpos trade.quantity_pos).ne'
      simp only [restingFills, hevent, if_pos hfills, if_neg hmin]
      by_cases hle : remaining ≤ trade.quantity
      · rw [min_eq_left hle, DecimalContext.sub_self, if_pos rfl, if_pos hle]
      · have hlt := not_le.mp hle
        rw [min_eq_right hlt.le, if_neg hle]
        exact if_neg (sub_pos.mpr hlt).ne'

/-- **The loop follows the tape**: it takes the crossing trades in order, up to what remains. -/
theorem restingFills_exact (hpos : 0 < remaining) :
    TakesTrades remaining (events.filterMap (crossingTrade intent)) (restingFills .exact intent remaining events) := by
  -- every trade taken leaves less, so the induction is for all that can remain
  induction events generalizing remaining with
  | nil =>
      rw [List.filterMap_nil]
      have hzero : min remaining (tradedQuantity []) = 0 := min_eq_right hpos.le
      exact ⟨by rw [hzero, sub_zero]; rfl, hzero.symm, .nil⟩
  | cons event events ih =>
      cases h : crossingTrade intent event with
      | none =>
          rw [restingFills_of_none h, List.filterMap_cons_none h]
          exact ih hpos
      | some trade =>
          rw [restingFills_of_some hpos h, List.filterMap_cons_some h]
          split_ifs with hle
          · exact takesTrades_last hpos hle
          · exact (ih (sub_pos.mpr (not_le.mp hle))).cons

/-! ## Estimates -/

/-- The estimate takes a leading part of the trades, and no less than it may. -/
structure FollowsTape (trades : List Trade) (quantity : ℚ) (estimate : FillEstimate) : Prop where
  tape : TapeFill trades estimate.components
  filled_eq : estimate.filledQuantity = min quantity (tradedQuantity trades)
  components_sum : FillModels.filledSum estimate.components = estimate.filledQuantity
  remaining_eq : estimate.filledQuantity + estimate.remainingQuantity = quantity
  average_iff : estimate.averageFillPrice.isSome = true ↔ estimate.components ≠ []
  average_within : ∀ average ∈ estimate.averageFillPrice, ∀ low high,
    (∀ component ∈ estimate.components, low ≤ component.price ∧ component.price ≤ high) →
      low ≤ average ∧ average ≤ high

theorem TapeFill.quantity_pos {components : List SimulatedFillComponent} (h : TapeFill trades components) :
    ∀ component ∈ components, 0 < component.quantity := by
  induction h with
  | nil => exact List.forall_mem_nil _
  | part hpos _ => exact List.forall_mem_singleton.mpr hpos
  | @full trade _ _ _ ih => exact List.forall_mem_cons.mpr ⟨trade.quantity_pos, ih⟩

theorem filledSum_pos {components : List SimulatedFillComponent}
    (hpos : ∀ component ∈ components, 0 < component.quantity) (hne : components ≠ []) :
    0 < FillModels.filledSum components := by
  refine List.sum_pos _ (fun q hq => ?_) (by simpa using hne)
  obtain ⟨component, hcomponent, rfl⟩ := List.mem_map.mp hq
  exact hpos component hcomponent

/-- The average of the components lies between their prices. -/
theorem averageFillPrice_between {components : List SimulatedFillComponent}
    (hpos : ∀ component ∈ components, 0 < component.quantity) (hne : components ≠ []) {low high : ℚ}
    (hprices : ∀ component ∈ components, low ≤ component.price ∧ component.price ≤ high) :
    low ≤ averageFillPrice .exact components ∧ averageFillPrice .exact components ≤ high := by
  have hsum := filledSum_pos hpos hne
  simp only [averageFillPrice, DecimalContext.exact_sum, DecimalContext.exact_div, DecimalContext.exact_mul]
  exact ⟨(le_div_iff₀ hsum).mpr (FillModels.le_sum_mul hpos fun c hc => (hprices c hc).1),
    (div_le_iff₀ hsum).mpr (FillModels.sum_mul_le hpos fun c hc => (hprices c hc).2)⟩

/-- An estimate of the whole order that fills nothing of it. -/
structure Unfilled (quantity : ℚ) (estimate : FillEstimate) : Prop where
  order_eq : estimate.orderQuantity = quantity
  filled_eq : estimate.filledQuantity = 0
  remaining_eq : estimate.remainingQuantity = quantity
  components_eq : estimate.components = []
  average_eq : estimate.averageFillPrice = none

theorem unfilled_of_estimate {allowTouch : Bool} {reasonPrefix : String} {book : OrderBookSnapshot} {side : Side}
    {limitPrice quantity : ℚ} {estimate : FillEstimate}
    (h : FillModels.estimateBookFill .exact allowTouch reasonPrefix book side limitPrice quantity = .ok estimate)
    (hnoFill : estimate.hasFill = false) : Unfilled quantity estimate := by
  have horder := h
  simp only [FillModels.estimateBookFill, bind_eq_ok, pure_eq_ok, FillModels.validateInputs, raiseIf_eq_ok,
    not_le, not_lt, Bool.not_eq_false] at horder
  obtain ⟨_, ⟨_, hvalid, _, hlimit, hpos⟩, hestimate⟩ := horder
  obtain ⟨other, hother, hmaximal⟩ :=
    FillModels.estimateBookFill_maximal reasonPrefix hvalid hlimit hpos side allowTouch
  obtain rfl : other = estimate := Except.ok.inj (hother.symm.trans h)
  have hnot : ¬0 < other.filledQuantity := of_decide_eq_false hnoFill
  have hzero : other.filledQuantity = 0 := by
    refine le_antisymm (not_lt.mp hnot) ?_
    rw [hmaximal.filled_eq]
    exact le_min hpos.le (FillModels.totalQuantity_nonneg _)
  refine ⟨?_, hzero, ?_, ?_, ?_⟩
  · rw [← hestimate]
  · have hsum := hmaximal.remaining_eq
    rw [hzero, zero_add] at hsum
    exact hsum
  · by_contra hne
    have hsum := filledSum_pos (fun c hc => (hmaximal.leading.spec c hc).1) hne
    rw [hmaximal.components_sum, hzero] at hsum
    exact lt_irrefl _ hsum
  · have hnone := mt hmaximal.average_iff.mp hnot
    exact Option.not_isSome_iff_eq_none.mp hnone

variable {scenario : SimulationScenario} {activationAt : UTCDateTime} {cancelAction : Option ScheduledOrderAction}
  {disconnectWindow : Option DisconnectWindow} {bookEstimate : FillEstimate}

theorem distinctEvents_eligible (scenario : SimulationScenario) (intent : OrderIntent) (activationAt : UTCDateTime)
    (cancelAction : Option ScheduledOrderAction) (disconnectWindow : Option DisconnectWindow) :
    (distinctEvents (restingWindow activationAt cancelAction disconnectWindow) scenario.marketEvents).filterMap
      (crossingTrade intent) = eligibleTrades scenario intent activationAt cancelAction disconnectWindow := by
  refine congrArg (fun events => (unseen _ [] events).filterMap _) (List.filter_congr fun event _ => ?_)
  rw [Bool.eq_iff_iff, restingWindow_iff, decide_eq_true_eq]

/-- **The estimate of a resting order.** -/
theorem fillRestingOrder_followsTape (hunfilled : Unfilled intent.quantity bookEstimate) :
    FollowsTape (eligibleTrades scenario intent activationAt cancelAction disconnectWindow) intent.quantity
      (fillRestingOrderFromTradeEvents .exact scenario intent activationAt cancelAction disconnectWindow
        bookEstimate) := by
  obtain ⟨horder, hfilled, hremaining, hcomponents, haverage⟩ := hunfilled
  have hnoFill : ¬bookEstimate.hasFill = true := by
    rw [FillEstimate.hasFill, decide_eq_true_eq, hfilled]
    exact lt_irrefl _
  have htaken := @restingFills_exact intent.quantity intent
    (distinctEvents (restingWindow activationAt cancelAction disconnectWindow) scenario.marketEvents)
    intent.quantity_pos
  rw [distinctEvents_eligible] at htaken
  obtain ⟨hleft, hsum, htape⟩ := htaken
  unfold fillRestingOrderFromTradeEvents
  rw [if_neg hnoFill, hremaining]
  dsimp only
  split_ifs with hnone
  · -- no trade was taken, and the estimate is the one of the book
    rw [hnone] at hsum
    refine ⟨hcomponents ▸ .nil, hfilled.trans hsum, ?_, ?_, ?_, ?_⟩
    · rw [hcomponents, hfilled]
      rfl
    · rw [hfilled, hremaining, zero_add]
    · simp [haverage, hcomponents]
    · rw [haverage]
      exact fun average h => absurd h (Option.not_mem_none average)
  · have hfilledSum : bookEstimate.orderQuantity - (restingFills .exact intent intent.quantity
        (distinctEvents (restingWindow activationAt cancelAction disconnectWindow) scenario.marketEvents)).1 =
        min intent.quantity
          (tradedQuantity (eligibleTrades scenario intent activationAt cancelAction disconnectWindow)) := by
      rw [hleft, horder, sub_sub_cancel]
    refine ⟨htape, hfilledSum, hsum.trans hfilledSum.symm, ?_, ?_, ?_⟩
    · show bookEstimate.orderQuantity - _ + _ = _
      rw [horder, sub_add_cancel]
    · exact iff_of_true rfl hnone
    · rintro average ⟨⟩ low high hprices
      exact averageFillPrice_between htape.quantity_pos hnone hprices

/-! ## The run -/

open DeterministicScenarioRunner

/-- Between an activation and an earlier cancel an order is never alive. -/
theorem eligibleTrades_eq_nil {cancel : ScheduledOrderAction} (hcancel : cancelAction = some cancel)
    (hbefore : cancel.scheduledAt < activationAt) :
    eligibleTrades scenario intent activationAt cancelAction disconnectWindow = [] := by
  have hnone : scenario.marketEvents.filter
      (fun event => decide (LiveAt activationAt cancelAction disconnectWindow event.scheduledAt)) = [] := by
    refine List.filter_eq_nil_iff.mpr fun event _ hlive => ?_
    obtain ⟨hafter, huntil, -⟩ := of_decide_eq_true hlive
    exact absurd (hbefore.trans_le (hafter.trans (huntil cancel hcancel))) (lt_irrefl _)
  rw [eligibleTrades, hnone]
  rfl

variable {runner : DeterministicScenarioRunner} {parsers : ParameterParsers} {run : SimulationScenarioRun}
  {action : ScheduledOrderAction} {result : SimulatedScenarioOrderResult}

theorem unfilled_of_model
    (hmodel : runner.fillModel = FillModels.touchFillModel .exact ∨
        runner.fillModel = FillModels.tradeThroughFillModel .exact)
    {book : OrderBookSnapshot} {limitPrice : ℚ}
    (hestimate : runner.fillModel.evaluate book intent.side limitPrice intent.quantity = .ok bookEstimate)
    (hnoFill : bookEstimate.hasFill = false) : Unfilled intent.quantity bookEstimate := by
  rcases hmodel with hmodel | hmodel
  · rw [hmodel] at hestimate
    exact unfilled_of_estimate hestimate hnoFill
  · rw [hmodel] at hestimate
    exact unfilled_of_estimate hestimate hnoFill

/-- **Resting fills follow the tape.** Without rounding, an accepted order that has no fill at its activation is filled
    by a leading part of the eligible trades, up to its quantity. One that is cancelled before its activation has no
    estimate, and no trade is eligible for it. -/
theorem resting_fills_follow_tape (hrun : runner.run parsers .exact scenario = .ok run)
    (hmodel : runner.fillModel = FillModels.touchFillModel .exact ∨
        runner.fillModel = FillModels.tradeThroughFillModel .exact)
    {i : ℕ} (hi : (orderIntentActions scenario.orderActions)[i]? = some action)
    (hintent : action.action = .orderIntent intent) (hresult : run.orderResults[i]? = some result)
    (haccepted : result.admission.rejected = false) (hactivates : result.admission.activatesAt = some activationAt)
    (hnoFill : ∀ bookEstimate, BookEstimate runner scenario intent activationAt bookEstimate →
      bookEstimate.hasFill = false) :
    ∃ window, disconnectWindowFromConfiguration parsers scenario.configuration = .ok window ∧
      match result.fillEstimate with
      | some estimate => FollowsTape
          (eligibleTrades scenario intent activationAt (assignedCancel scenario run i action) window) intent.quantity
          estimate
      | none => eligibleTrades scenario intent activationAt (assignedCancel scenario run i action) window = [] := by
  obtain ⟨settings, hsettings, hresults⟩ := run_eq_ok hrun
  simp only [DeterministicScenarioRunner.settings, bind_eq_ok, pure_eq_ok] at hsettings
  obtain ⟨_, _, _, _, _, _, _, _, _, _, window, hwindow, rfl⟩ := hsettings
  refine ⟨window, hwindow, ?_⟩
  obtain ⟨other, hother, hordered⟩ := runOrderActions_result hresults hi
  rw [hresult] at hother
  cases hother
  rw [List.nil_append] at hordered
  obtain ⟨intent', admission, hintent', -, hcourse⟩ := course_of_runOrderAction hordered
  rw [hintent] at hintent'
  cases hintent'
  cases hcourse with
  | rejected hrejected =>
      rw [hrejected] at haccepted
      cases haccepted
  | cancelled hactivates' hcancel hbefore =>
      rw [hactivates'] at hactivates
      cases hactivates
      exact eligibleTrades_eq_nil hcancel hbefore
  | crossed _ _ _ _ hrejection =>
      rw [rejected_of_postOnly hrejection] at haccepted
      cases haccepted
  | finished hactivates' _ hprice hbook _ hestimate hfinish =>
      rw [(finishOrder_spec hfinish).1, hactivates'] at hactivates
      cases hactivates
      obtain ⟨estimate, -, hfilled, hfill, -⟩ := finishOrder_outputs hfinish
      have hunfilled := unfilled_of_model hmodel hestimate (hnoFill _ ⟨_, _, hbook, hprice, hestimate⟩)
      rw [hfill, hfilled]
      exact fillRestingOrder_followsTape hunfilled

/-! ## A quote that a seller fills in part -/

def exactRunner : DeterministicScenarioRunner := { rainRunner with fillModel := FillModels.touchFillModel .exact }

/-- Trades at the activation and at the cancel, and between them one that comes twice. -/
def boundaryTrades : SimulationScenario :=
  rainScenario [10, 15, 16, 20] fun i =>
    if i = 0 then "sha256:first" else if i = 3 then "sha256:last" else "sha256:past"

theorem boundaryTrades_cancel : matchingCancelAction boundaryTrades ⟨0, 10, .orderIntent RiskEngine.quoteTwo⟩ [] =
    some ⟨1, 20, .cancelOrderRequest rainCancel⟩ := by
  decide +kernel

theorem eligibleTrades_boundaryTrades : eligibleTrades boundaryTrades RiskEngine.quoteTwo 10
    (some ⟨1, 20, .cancelOrderRequest rainCancel⟩) none = [rainTrade, rainTrade, rainTrade] := by
  show _ = List.replicate 3 rainTrade
  refine List.eq_replicate_iff.mpr ⟨by decide +kernel, fun trade htrade => ?_⟩
  obtain ⟨event, hevent, hcross⟩ := List.mem_filterMap.mp htrade
  obtain ⟨i, hi, rfl⟩ := List.mem_mapIdx.mp (List.mem_of_mem_filter (mem_of_mem_unseen hevent).1)
  change (if Crosses RiskEngine.quoteTwo rainTrade then some rainTrade else none) = some trade at hcross
  split at hcross
  · exact (Option.some.inj hcross).symm
  · cases hcross

/-- The quote of 2 takes two of the three trades. -/
theorem resting_fills_follow_tape_boundaryTrades : ∃ run result estimate,
    exactRunner.run noParameters .exact boundaryTrades = .ok run ∧ run.orderResults[0]? = some result ∧
      result.fillEstimate = some estimate ∧
      FollowsTape [rainTrade, rainTrade, rainTrade] RiskEngine.quoteTwo.quantity estimate := by
  have hok : (exactRunner.run noParameters .exact boundaryTrades).toOption.map
      (fun run => run.orderResults.map fun result =>
      (result.admission.rejected, result.admission.activatesAt, result.fillEstimate.isSome)) =
      some [(false, some 10, true)] := by decide +kernel
  obtain ⟨run, hrun⟩ : ∃ run, exactRunner.run noParameters .exact boundaryTrades = .ok run := by
    cases hrun : exactRunner.run noParameters .exact boundaryTrades with
    | error e => rw [hrun] at hok; cases hok
    | ok run => exact ⟨run, rfl⟩
  rw [hrun] at hok
  have hfields := Option.some.inj hok
  obtain ⟨result, hsingle, hfields⟩ := List.map_eq_singleton_iff.mp hfields
  simp only [Prod.mk.injEq] at hfields
  obtain ⟨haccepted, hactivates, hsome⟩ := hfields
  obtain ⟨estimate, hestimate⟩ := Option.isSome_iff_exists.mp hsome
  have hresult : run.orderResults[0]? = some result := by rw [hsingle]; rfl
  obtain ⟨window, hwindow, hfollows⟩ := @resting_fills_follow_tape RiskEngine.quoteTwo boundaryTrades 10 exactRunner
    noParameters run ⟨0, 10, .orderIntent RiskEngine.quoteTwo⟩ result hrun (.inl rfl) 0 rfl rfl hresult haccepted
    hactivates (by
      rintro bookEstimate ⟨book, limitPrice, hbook, hprice, hevaluate⟩
      obtain rfl : rainBook = book := Except.ok.inj hbook
      cases hprice
      have hnothing : ((FillModels.touchFillModel .exact).evaluate rainBook .buy (1 / 2) 2).toOption.map
          FillEstimate.hasFill = some false := by decide +kernel
      change (FillModels.touchFillModel .exact).evaluate rainBook .buy (1 / 2) 2 = .ok bookEstimate at hevaluate
      rw [hevaluate] at hnothing
      exact Option.some.inj hnothing)
  obtain rfl : none = window := Except.ok.inj hwindow
  have heligible : eligibleTrades boundaryTrades RiskEngine.quoteTwo 10
      (assignedCancel boundaryTrades run 0 ⟨0, 10, .orderIntent RiskEngine.quoteTwo⟩) none =
      [rainTrade, rainTrade, rainTrade] := by
    have hassigned : assignedCancel boundaryTrades run 0 ⟨0, 10, .orderIntent RiskEngine.quoteTwo⟩ =
        some ⟨1, 20, .cancelOrderRequest rainCancel⟩ := boundaryTrades_cancel
    rw [hassigned, eligibleTrades_boundaryTrades]
  rw [hestimate, heligible] at hfollows
  exact ⟨run, result, estimate, hrun, hresult, hestimate, hfollows⟩

end Scenarios
end Pmrp
