import Pmrp.Simulation.Correctness.RequiredBalance
import Pmrp.Simulation.ScenarioRunner

/-!
# `Simulation.Correctness.NoLookAhead` — a run does not read the future

Two scenarios that differ only in market events after a time `t`. Each loop over market events has its own time
filter, and every filter that matters before `t` stops at `t` (`SameUntil.distinctEvents_eq`). The cancels scheduled
at or before `t` are used alike in both runs (`UsedAlike`), although an order that is active later may take another
cancel in one of them. From this `no_look_ahead` compares the results order by order.
-/

namespace Pmrp
namespace Scenarios

/-! ## The same past -/

/-- Only events after `t` tell the scenarios apart. -/
structure SameUntil (t : UTCDateTime) (s₁ s₂ : SimulationScenario) : Prop where
  configuration : s₁.configuration = s₂.configuration
  initialBook : s₁.initialBook = s₂.initialBook
  orderActions : s₁.orderActions = s₂.orderActions
  marketEvents : ∀ event : ScheduledMarketEvent, event.scheduledAt ≤ t →
    (event ∈ s₁.marketEvents ↔ event ∈ s₂.marketEvents)

variable {t : UTCDateTime} {s₁ s₂ : SimulationScenario}

theorem SameUntil.symm (hsame : SameUntil t s₁ s₂) : SameUntil t s₂ s₁ where
  configuration := hsame.configuration.symm
  initialBook := hsame.initialBook.symm
  orderActions := hsame.orderActions.symm
  marketEvents event hevent := (hsame.marketEvents event hevent).symm

/-- A loop that looks at nothing after `t` sees the same events. -/
theorem SameUntil.distinctEvents_eq (hsame : SameUntil t s₁ s₂) {looksAt : ScheduledMarketEvent → Bool}
    (hlooks : ∀ event, looksAt event = true → event.scheduledAt ≤ t) :
    distinctEvents looksAt s₁.marketEvents = distinctEvents looksAt s₂.marketEvents := by
  have hfiltered : s₁.marketEvents.filter looksAt = s₂.marketEvents.filter looksAt := by
    refine eq_of_pairwise_lt (s₁.marketEvents_sorted.filter _) (s₂.marketEvents_sorted.filter _) ?_
    intro event
    rw [List.mem_filter, List.mem_filter]
    exact and_congr_left fun hevent => hsame.marketEvents event (hlooks event hevent)
  unfold distinctEvents
  rw [hfiltered]

theorem SameUntil.projectBookUntil_eq (hsame : SameUntil t s₁ s₂) {through : UTCDateTime} (hthrough : through ≤ t) :
    projectBookUntil s₁ (some through) = projectBookUntil s₂ (some through) := by
  unfold projectBookUntil
  rw [hsame.initialBook, hsame.distinctEvents_eq fun event hevent => ?_]
  exact (of_decide_eq_true hevent through rfl).trans hthrough

variable {ctx : DecimalContext} {intent : OrderIntent} {activationAt : UTCDateTime}
  {cancel : ScheduledOrderAction} {disconnectWindow : Option DisconnectWindow} {fillEstimate : FillEstimate}

/-- A cancel ends the window in which trades fill a resting order. -/
theorem SameUntil.fillRestingOrder_eq (hsame : SameUntil t s₁ s₂) (hcancel : cancel.scheduledAt ≤ t) :
    fillRestingOrderFromTradeEvents ctx s₁ intent activationAt (some cancel) disconnectWindow fillEstimate =
      fillRestingOrderFromTradeEvents ctx s₂ intent activationAt (some cancel) disconnectWindow fillEstimate := by
  unfold fillRestingOrderFromTradeEvents
  rw [hsame.distinctEvents_eq fun event hevent => ?_]
  exact ((of_decide_eq_true hevent).2.1 cancel rfl).trans hcancel

/-- Where the fills before a disconnect matter, the disconnect came before the cancel. -/
theorem SameUntil.disconnectResult_eq (hsame : SameUntil t s₁ s₂) (sequence : ℕ)
    {cancelled : SimulatedScenarioCancelResult} (hcancel : cancelled.effectiveAt ≤ t) :
    disconnectResultForOrder ctx s₁ intent sequence activationAt (some cancelled) disconnectWindow fillEstimate =
      disconnectResultForOrder ctx s₂ intent sequence activationAt (some cancelled) disconnectWindow
        fillEstimate := by
  cases disconnectWindow with
  | none => rfl
  | some window =>
      unfold disconnectResultForOrder
      dsimp only
      by_cases hbefore : ∃ cancel ∈ some cancelled, cancel.effectiveAt ≤ window.disconnectedAt
      · rw [if_pos hbefore, if_pos hbefore]
      · have hlate : window.disconnectedAt < cancelled.effectiveAt := by
          by_contra hle
          exact hbefore ⟨cancelled, rfl, not_lt.mp hle⟩
        have hfills : ∀ orderQuantity,
            preDisconnectRestingFillQuantity ctx s₁ intent activationAt window.disconnectedAt orderQuantity =
              preDisconnectRestingFillQuantity ctx s₂ intent activationAt window.disconnectedAt orderQuantity := by
          intro orderQuantity
          unfold preDisconnectRestingFillQuantity
          rw [hsame.distinctEvents_eq fun event hevent => ?_]
          exact (of_decide_eq_true hevent).2.le.trans (hlate.le.trans hcancel)
        rw [hfills]

/-! ## Cancels -/

/-- The cancels scheduled at or before `t` are used in both or in neither. -/
def UsedAlike (t : UTCDateTime) (actions : List ScheduledOrderAction) (used₁ used₂ : List ℕ) : Prop :=
  ∀ cancel ∈ cancelRequestActions actions, cancel.scheduledAt ≤ t →
    (cancel.sequence ∈ used₁ ↔ cancel.sequence ∈ used₂)

theorem cancelMatches_unused {cancelAction action : ScheduledOrderAction} {exchange : String} {used : List ℕ} :
    cancelMatchesOrderIntent cancelAction action exchange used = true ↔
      cancelAction.sequence ∉ used ∧ cancelMatchesOrderIntent cancelAction action exchange [] = true := by
  unfold cancelMatchesOrderIntent
  by_cases hused : cancelAction.sequence ∈ used
  · rw [if_pos hused]
    exact ⟨fun hfalse => Bool.noConfusion hfalse, fun h => absurd hused h.1⟩
  · rw [if_neg hused, if_neg List.not_mem_nil]
    exact ⟨fun h => ⟨hused, h⟩, fun h => h.2⟩

variable {action : ScheduledOrderAction} {used₁ used₂ : List ℕ} {scenario : SimulationScenario}

theorem mem_cancelCandidates {used : List ℕ} : cancel ∈ cancelCandidates scenario action used ↔
    cancel ∈ cancelRequestActions scenario.orderActions ∧ cancel.sequence ∉ used ∧
      cancelMatchesOrderIntent cancel action scenario.initialBook.exchange [] = true := by
  unfold cancelCandidates
  rw [List.mem_filter, cancelMatches_unused]

theorem mem_of_matchingCancelAction {used : List ℕ} (h : matchingCancelAction scenario action used = some cancel) :
    cancel ∈ cancelRequestActions scenario.orderActions :=
  (mem_cancelCandidates.mp (mem_of_firstMinimum h)).1

theorem eq_of_sequence {actions : List ScheduledOrderAction}
    (hsorted : actions.Pairwise fun a b => a.sequence < b.sequence) {a b : ScheduledOrderAction}
    (ha : a ∈ cancelRequestActions actions) (hb : b ∈ cancelRequestActions actions)
    (h : a.sequence = b.sequence) : a = b :=
  tiesEqual_of_pairwise_lt hsorted a (List.mem_filter.mp ha).1 b (List.mem_filter.mp hb).1 h

/-- The earliest cancel that fits is found in both runs when it is scheduled at or before `t`: a candidate of only
    one run is later. -/
theorem matchingCancelAction_of_usedAlike (hused : UsedAlike t scenario.orderActions used₁ used₂)
    (hcancel : cancel.scheduledAt ≤ t) (h : matchingCancelAction scenario action used₁ = some cancel) :
    matchingCancelAction scenario action used₂ = some cancel := by
  obtain ⟨hmem, hunused, hfits⟩ := mem_cancelCandidates.mp (mem_of_firstMinimum h)
  -- `cancel` is a candidate of the second run, which therefore has an earliest one
  have hcandidate : cancel ∈ cancelCandidates scenario action used₂ :=
    mem_cancelCandidates.mpr ⟨hmem, fun hmem₂ => hunused ((hused cancel hmem hcancel).mpr hmem₂), hfits⟩
  obtain ⟨earliest, hearliest⟩ : ∃ earliest, matchingCancelAction scenario action used₂ = some earliest :=
    exists_firstMinimum hcandidate
  have hle : cancelKey earliest ≤ cancelKey cancel := key_le_of_firstMinimum hearliest hcandidate
  obtain ⟨hmem₂, hunused₂, hfits₂⟩ := mem_cancelCandidates.mp (mem_of_firstMinimum hearliest)
  -- it is no later than `cancel`, so it is a candidate of the first run too
  have hscheduled : earliest.scheduledAt ≤ t := by
    rcases Prod.Lex.toLex_le_toLex.mp hle with hlt | ⟨heq, -⟩
    · exact hlt.le.trans hcancel
    · exact heq.le.trans hcancel
  have hback : earliest ∈ cancelCandidates scenario action used₁ :=
    mem_cancelCandidates.mpr
      ⟨hmem₂, fun hmem₁ => hunused₂ ((hused earliest hmem₂ hscheduled).mp hmem₁), hfits₂⟩
  have hkey : cancelKey earliest = cancelKey cancel :=
    le_antisymm hle (key_le_of_firstMinimum h hback)
  have hsequence : earliest.sequence = cancel.sequence := congrArg (fun key => (ofLex key).2) hkey
  rw [hearliest, eq_of_sequence scenario.orderActions_sorted hmem₂ hmem hsequence]

theorem UsedAlike.symm {actions : List ScheduledOrderAction} (h : UsedAlike t actions used₁ used₂) :
    UsedAlike t actions used₂ used₁ :=
  fun cancel hmem hcancel => (h cancel hmem hcancel).symm

theorem SameUntil.matchingCancelAction_eq (hsame : SameUntil t s₁ s₂) (used : List ℕ) :
    matchingCancelAction s₁ action used = matchingCancelAction s₂ action used := by
  unfold matchingCancelAction cancelCandidates
  rw [hsame.orderActions, hsame.initialBook]

/-! ## One order -/

section Order

open DeterministicScenarioRunner

variable {runner : DeterministicScenarioRunner} {settings : RunSettings} {index : ℕ}
  {cancelAction : Option ScheduledOrderAction} {admission : SimulatedExchangeOrderAdmission}
  {result : SimulatedScenarioOrderResult}

/-- The estimate of the runner's fill model from the book at the activation. -/
def BookEstimate (runner : DeterministicScenarioRunner) (scenario : SimulationScenario) (intent : OrderIntent)
    (activationAt : UTCDateTime) (bookEstimate : FillEstimate) : Prop :=
  ∃ book limitPrice, projectBookUntil scenario (some activationAt) = .ok book ∧ intent.limitPrice = some limitPrice ∧
    runner.fillModel.evaluate book intent.side limitPrice intent.quantity = .ok bookEstimate

/-- What becomes of an admitted order. -/
inductive Course (runner : DeterministicScenarioRunner) (ctx : DecimalContext) (settings : RunSettings)
    (scenario : SimulationScenario) (action : ScheduledOrderAction) (intent : OrderIntent) (index : ℕ)
    (cancelAction : Option ScheduledOrderAction) (admission : SimulatedExchangeOrderAdmission) :
    SimulatedScenarioOrderResult → Prop
  | rejected (hrejected : admission.rejected = true) :
      Course runner ctx settings scenario action intent index cancelAction admission
        { sequence := index, action, admission, activationBook := none, fillEstimate := none }
  | cancelled {activatesAt : UTCDateTime} {cancel : ScheduledOrderAction}
      (hactivates : admission.activatesAt = some activatesAt) (hcancel : cancelAction = some cancel)
      (hbefore : cancel.scheduledAt < activatesAt) :
      Course runner ctx settings scenario action intent index cancelAction admission
        { sequence := index, action, admission, activationBook := none, fillEstimate := none,
          cancelResult := some (cancelResult cancel index .beforeActivation) }
  | crossed {activatesAt : UTCDateTime} {book : OrderBookSnapshot} {rejection : SimulatedExchangeOrderAdmission}
      (hactivates : admission.activatesAt = some activatesAt)
      (hcancel : ∀ cancel ∈ cancelAction, activatesAt ≤ cancel.scheduledAt)
      (hbook : projectBookUntil scenario (some activatesAt) = .ok book)
      (hcross : postOnlyWouldCross intent book = .ok true)
      (hrejection : postOnlyRejectionAdmission admission = .ok rejection) :
      Course runner ctx settings scenario action intent index cancelAction admission
        { sequence := index, action, admission := rejection, activationBook := none, fillEstimate := none }
  | finished {activatesAt : UTCDateTime} {limitPrice : ℚ} {book : OrderBookSnapshot} {bookEstimate : FillEstimate}
      {result : SimulatedScenarioOrderResult} (hactivates : admission.activatesAt = some activatesAt)
      (hcancel : ∀ cancel ∈ cancelAction, activatesAt ≤ cancel.scheduledAt)
      (hprice : intent.limitPrice = some limitPrice)
      (hbook : projectBookUntil scenario (some activatesAt) = .ok book)
      (hcross : postOnlyWouldCross intent book = .ok false)
      (hestimate : runner.fillModel.evaluate book intent.side limitPrice intent.quantity = .ok bookEstimate)
      (hfinish : finishOrder ctx settings scenario action intent index cancelAction admission activatesAt book
        bookEstimate = .ok result) :
      Course runner ctx settings scenario action intent index cancelAction admission result

theorem course_of_activateOrder {activatesAt : UTCDateTime} (hactivates : admission.activatesAt = some activatesAt)
    (hcancel : ∀ cancel ∈ cancelAction, activatesAt ≤ cancel.scheduledAt)
    (h : runner.activateOrder ctx settings scenario action intent index cancelAction admission activatesAt
      = .ok result) :
    Course runner ctx settings scenario action intent index cancelAction admission result := by
  unfold activateOrder at h
  cases hprice : intent.limitPrice with
  | none => rw [hprice] at h; cases h
  | some limitPrice =>
      rw [hprice] at h
      dsimp only at h
      obtain ⟨book, hbook, h⟩ := bind_eq_ok.mp h
      obtain ⟨crosses, hcross, h⟩ := bind_eq_ok.mp h
      cases crosses with
      | true =>
          rw [if_pos rfl] at h
          obtain ⟨rejection, hrejection, h⟩ := bind_eq_ok.mp h
          rw [SimulatedScenarioOrderResult.eq_of_validate h]
          exact .crossed hactivates hcancel hbook hcross hrejection
      | false =>
          rw [if_neg Bool.false_ne_true] at h
          obtain ⟨bookEstimate, hestimate, hfinish⟩ := bind_eq_ok.mp h
          exact .finished hactivates hcancel hprice hbook hcross hestimate hfinish

theorem course_of_runOrderAction
    (h : runner.runOrderAction ctx settings scenario action index cancelAction = .ok result) :
    ∃ intent admission, action.action = .orderIntent intent ∧
      runner.admitOrder ctx settings intent action.scheduledAt = .ok admission ∧
      Course runner ctx settings scenario action intent index cancelAction admission result := by
  unfold runOrderAction at h
  cases haction : action.action with
  | cancelOrderRequest request => rw [haction] at h; cases h
  | orderIntent intent =>
      rw [haction] at h
      dsimp only at h
      obtain ⟨admission, hadmitted, h⟩ := bind_eq_ok.mp h
      refine ⟨intent, admission, rfl, hadmitted, ?_⟩
      by_cases hrejected : admission.rejected = true
      · rw [if_pos hrejected] at h
        rw [SimulatedScenarioOrderResult.eq_of_validate h]
        exact .rejected hrejected
      · rw [if_neg hrejected] at h
        cases hactivates : admission.activatesAt with
        | none => rw [hactivates] at h; cases h
        | some activatesAt =>
            rw [hactivates] at h
            dsimp only at h
            cases hearly : cancelAction.filter fun cancel => decide (cancel.scheduledAt < activatesAt) with
            | some cancel =>
                rw [hearly] at h
                obtain ⟨hcancel, hbefore⟩ := Option.filter_eq_some_iff.mp hearly
                rw [SimulatedScenarioOrderResult.eq_of_validate h]
                exact .cancelled hactivates hcancel (of_decide_eq_true hbefore)
            | none =>
                rw [hearly] at h
                refine course_of_activateOrder hactivates (fun cancel hcancel => ?_) h
                have hlate := Option.filter_eq_none_iff.mp hearly cancel hcancel
                exact not_lt.mp fun hlt => hlate (decide_eq_true hlt)

theorem activatesAt_of_rejected (h : admission.rejected = true) : admission.activatesAt = none :=
  (admission.rejected_without_times (Bool.not_eq_true' _ |>.mp h)).2

theorem activatesAt_of_not_rejected (h : ¬admission.rejected = true) :
    ∃ activatesAt, admission.activatesAt = some activatesAt := by
  have haccepted : admission.rejectionDecision.accepted = true := by
    simpa [SimulatedExchangeOrderAdmission.rejected, RejectionDecision.rejected] using h
  exact Option.isSome_iff_exists.mp (admission.accepted_has_times haccepted).2

theorem Course.eq_of_rejected
    (h : Course runner ctx settings scenario action intent index cancelAction admission result)
    (hrejected : admission.rejected = true) :
    result = { sequence := index, action, admission, activationBook := none, fillEstimate := none } := by
  have hnever := activatesAt_of_rejected hrejected
  cases h with
  | rejected => rfl
  | cancelled hactivates => rw [hnever] at hactivates; cases hactivates
  | crossed hactivates => rw [hnever] at hactivates; cases hactivates
  | finished hactivates => rw [hnever] at hactivates; cases hactivates

theorem Course.eq_of_cancelled
    (h : Course runner ctx settings scenario action intent index (some cancel) admission result)
    (hactivates : admission.activatesAt = some activationAt) (hbefore : cancel.scheduledAt < activationAt) :
    result = { sequence := index, action, admission, activationBook := none, fillEstimate := none,
               cancelResult := some (cancelResult cancel index .beforeActivation) } := by
  have hactive : ∀ {other : UTCDateTime}, admission.activatesAt = some other →
      ¬∀ c ∈ some cancel, other ≤ c.scheduledAt := by
    intro other hother hlate
    rw [hactivates] at hother
    cases hother
    exact not_lt.mpr (hlate cancel rfl) hbefore
  cases h with
  | rejected hrejected => rw [activatesAt_of_rejected hrejected] at hactivates; cases hactivates
  | cancelled _ hcancel _ => cases hcancel; rfl
  | crossed hother hlate => exact absurd hlate (hactive hother)
  | finished hother hlate => exact absurd hlate (hactive hother)

/-- An order that no cancel stops before its activation is judged against the book of that time. -/
theorem Course.of_active
    (h : Course runner ctx settings scenario action intent index cancelAction admission result)
    (hactivates : admission.activatesAt = some activationAt)
    (hcancel : ∀ cancel ∈ cancelAction, activationAt ≤ cancel.scheduledAt) :
    ∃ book, projectBookUntil scenario (some activationAt) = .ok book ∧
      ((postOnlyWouldCross intent book = .ok true ∧
          ∃ rejection, postOnlyRejectionAdmission admission = .ok rejection ∧
            result = { sequence := index, action, admission := rejection, activationBook := none,
                       fillEstimate := none }) ∨
        (postOnlyWouldCross intent book = .ok false ∧
          ∃ limitPrice bookEstimate, intent.limitPrice = some limitPrice ∧
            runner.fillModel.evaluate book intent.side limitPrice intent.quantity = .ok bookEstimate ∧
            finishOrder ctx settings scenario action intent index cancelAction admission activationAt book
              bookEstimate = .ok result)) := by
  cases h with
  | rejected hrejected => rw [activatesAt_of_rejected hrejected] at hactivates; cases hactivates
  | cancelled hother hsome hbefore =>
      rw [hactivates] at hother
      cases hother
      exact absurd hbefore (not_lt.mpr (hcancel _ hsome))
  | crossed hother _ hbook hcross hrejection =>
      rw [hactivates] at hother
      cases hother
      exact ⟨_, hbook, .inl ⟨hcross, _, hrejection, rfl⟩⟩
  | finished hother _ hprice hbook hcross hestimate hfinish =>
      rw [hactivates] at hother
      cases hother
      exact ⟨_, hbook, .inr ⟨hcross, _, _, hprice, hestimate, hfinish⟩⟩

/-! ### The end of an order -/

/-- A fill by trades is not a taker fill, so the taker fill is that of the book. -/
theorem takerFill_fillRestingOrder {bookEstimate : FillEstimate}
    (h : result.fillEstimate = some (fillRestingOrderFromTradeEvents ctx scenario intent activationAt cancelAction
      disconnectWindow bookEstimate)) :
    result.takerFill = (some bookEstimate).filter fun estimate =>
      estimate.hasFill && decide (estimate.liquidityRole = .taker) := by
  unfold SimulatedScenarioOrderResult.takerFill
  rw [h]
  unfold fillRestingOrderFromTradeEvents
  by_cases hfill : bookEstimate.hasFill = true
  · rw [if_pos hfill]
  · rw [if_neg hfill]
    have hnone : (some bookEstimate).filter (fun estimate =>
        estimate.hasFill && decide (estimate.liquidityRole = .taker)) = none := by
      simp [hfill]
    rw [hnone]
    dsimp only
    split_ifs
    · exact hnone
    · simp

theorem finishOrder_spec {book : OrderBookSnapshot} {bookEstimate : FillEstimate}
    (h : finishOrder ctx settings scenario action intent index cancelAction admission activationAt book bookEstimate
      = .ok result) :
    result.admission = admission ∧ result.activationBook = some book ∧
      result.cancelResult.map SimulatedScenarioCancelResult.sequence = cancelAction.map ScheduledOrderAction.sequence ∧
      result.takerFill = (some bookEstimate).filter fun estimate =>
        estimate.hasFill && decide (estimate.liquidityRole = .taker) := by
  simp only [finishOrder, bind_eq_ok] at h
  obtain ⟨feeEstimates, -, slippageEstimates, -, settlementResult, -, h⟩ := h
  have hresult := SimulatedScenarioOrderResult.eq_of_validate h
  refine ⟨by rw [hresult], by rw [hresult], ?_, ?_⟩
  · rw [hresult]
    cases cancelAction <;> rfl
  · exact takerFill_fillRestingOrder (by rw [hresult])

theorem SameUntil.finishOrder_eq (hsame : SameUntil t s₁ s₂) (hcancel : cancel.scheduledAt ≤ t)
    (book : OrderBookSnapshot) (bookEstimate : FillEstimate) :
    finishOrder ctx settings s₁ action intent index (some cancel) admission activationAt book bookEstimate =
      finishOrder ctx settings s₂ action intent index (some cancel) admission activationAt book bookEstimate := by
  unfold finishOrder
  dsimp only [Option.map_some]
  rw [hsame.fillRestingOrder_eq hcancel, hsame.initialBook, hsame.disconnectResult_eq index hcancel]

/-! ### Two runs of an order -/

/-- Whichever cancels the runs assign, they agree up to `t`. -/
def CancelsAlike (t : UTCDateTime) (cancel₁ cancel₂ : Option ScheduledOrderAction) : Prop :=
  ∀ cancel : ScheduledOrderAction, cancel.scheduledAt ≤ t → (cancel₁ = some cancel ↔ cancel₂ = some cancel)

variable {cancel₁ cancel₂ : Option ScheduledOrderAction} {r₁ r₂ : SimulatedScenarioOrderResult}

/-- Two orders that become active in the common past are refused alike, or finish from one estimate. -/
theorem Course.active_alike (hsame : SameUntil t s₁ s₂) (hactivates : admission.activatesAt = some activationAt)
    (hpast : activationAt ≤ t) (hlate₁ : ∀ cancel ∈ cancel₁, activationAt ≤ cancel.scheduledAt)
    (hlate₂ : ∀ cancel ∈ cancel₂, activationAt ≤ cancel.scheduledAt)
    (h₁ : Course runner ctx settings s₁ action intent index cancel₁ admission r₁)
    (h₂ : Course runner ctx settings s₂ action intent index cancel₂ admission r₂) :
    r₁ = r₂ ∨ ∃ book bookEstimate,
      finishOrder ctx settings s₁ action intent index cancel₁ admission activationAt book bookEstimate = .ok r₁ ∧
      finishOrder ctx settings s₂ action intent index cancel₂ admission activationAt book bookEstimate = .ok r₂ := by
  obtain ⟨book, hbook₁, hcase₁⟩ := h₁.of_active hactivates hlate₁
  obtain ⟨book₂, hbook₂, hcase₂⟩ := h₂.of_active hactivates hlate₂
  rw [hsame.projectBookUntil_eq hpast, hbook₂] at hbook₁
  cases hbook₁
  rcases hcase₁ with ⟨hcross₁, rejection₁, hrejection₁, rfl⟩ | ⟨hcross₁, _, estimate, hprice₁, heval₁, hfinish₁⟩
  · rcases hcase₂ with ⟨-, rejection₂, hrejection₂, rfl⟩ | ⟨hcross₂, -⟩
    · rw [hrejection₁] at hrejection₂
      cases hrejection₂
      exact .inl rfl
    · rw [hcross₁] at hcross₂
      cases hcross₂
  · rcases hcase₂ with ⟨hcross₂, -⟩ | ⟨-, _, _, hprice₂, heval₂, hfinish₂⟩
    · rw [hcross₁] at hcross₂
      cases hcross₂
    · rw [hprice₁] at hprice₂
      cases hprice₂
      rw [heval₁] at heval₂
      cases heval₂
      exact .inr ⟨book, estimate, hfinish₁, hfinish₂⟩

/-- A cancel at or before `t` comes before the activation, or both are in the common past. -/
theorem Course.eq_of_cancel (hsame : SameUntil t s₁ s₂) (hcancel : cancel.scheduledAt ≤ t)
    (h₁ : Course runner ctx settings s₁ action intent index (some cancel) admission r₁)
    (h₂ : Course runner ctx settings s₂ action intent index (some cancel) admission r₂) : r₁ = r₂ := by
  by_cases hrejected : admission.rejected = true
  · rw [h₁.eq_of_rejected hrejected, h₂.eq_of_rejected hrejected]
  obtain ⟨activationAt, hactivates⟩ := activatesAt_of_not_rejected hrejected
  by_cases hbefore : cancel.scheduledAt < activationAt
  · rw [h₁.eq_of_cancelled hactivates hbefore, h₂.eq_of_cancelled hactivates hbefore]
  · have hlate : ∀ c ∈ some cancel, activationAt ≤ c.scheduledAt := by
      rintro c ⟨⟩
      exact not_lt.mp hbefore
    rcases Course.active_alike hsame hactivates ((not_lt.mp hbefore).trans hcancel) hlate hlate h₁ h₂ with
      heq | ⟨book, estimate, hfinish₁, hfinish₂⟩
    · exact heq
    · rw [hsame.finishOrder_eq hcancel, hfinish₂] at hfinish₁
      exact (Except.ok.inj hfinish₁).symm

/-- What is known of an order at its activation. -/
theorem Course.eq_at_activation (hsame : SameUntil t s₁ s₂) (hcancels : CancelsAlike t cancel₁ cancel₂)
    (hactivates : admission.activatesAt = some activationAt) (hpast : activationAt ≤ t)
    (h₁ : Course runner ctx settings s₁ action intent index cancel₁ admission r₁)
    (h₂ : Course runner ctx settings s₂ action intent index cancel₂ admission r₂) :
    r₁.admission = r₂.admission ∧ r₁.activationBook = r₂.activationBook ∧ r₁.takerFill = r₂.takerFill := by
  by_cases hbefore : ∃ cancel, cancel.scheduledAt < activationAt ∧ cancel₁ = some cancel
  · -- the cancel is in the common past, so it stops the order in both runs
    obtain ⟨cancel, hbefore, rfl⟩ := hbefore
    obtain rfl := (hcancels cancel (hbefore.le.trans hpast)).mp rfl
    rw [h₁.eq_of_cancelled hactivates hbefore, h₂.eq_of_cancelled hactivates hbefore]
    exact ⟨rfl, rfl, rfl⟩
  · have hlate₁ : ∀ cancel ∈ cancel₁, activationAt ≤ cancel.scheduledAt := by
      intro cancel hcancel
      exact not_lt.mp fun hlt => hbefore ⟨cancel, hlt, hcancel⟩
    have hlate₂ : ∀ cancel ∈ cancel₂, activationAt ≤ cancel.scheduledAt := by
      intro cancel hcancel
      refine not_lt.mp fun hlt => hbefore ⟨cancel, hlt, ?_⟩
      exact (hcancels cancel (hlt.le.trans hpast)).mpr hcancel
    rcases Course.active_alike hsame hactivates hpast hlate₁ hlate₂ h₁ h₂ with
      rfl | ⟨book, estimate, hfinish₁, hfinish₂⟩
    · exact ⟨rfl, rfl, rfl⟩
    · obtain ⟨hadmission₁, hactivation₁, -, htaker₁⟩ := finishOrder_spec hfinish₁
      obtain ⟨hadmission₂, hactivation₂, -, htaker₂⟩ := finishOrder_spec hfinish₂
      exact ⟨hadmission₁.trans hadmission₂.symm, hactivation₁.trans hactivation₂.symm, htaker₁.trans htaker₂.symm⟩

/-- A result is about the cancel that was assigned. -/
theorem Course.cancelResult_sequence
    (h : Course runner ctx settings scenario action intent index cancelAction admission result)
    {cancelled : SimulatedScenarioCancelResult} (hcancelled : result.cancelResult = some cancelled) :
    ∃ cancel, cancelAction = some cancel ∧ cancelled.sequence = cancel.sequence := by
  cases h with
  | rejected => cases hcancelled
  | cancelled _ hcancel _ => cases hcancelled; exact ⟨_, hcancel, rfl⟩
  | crossed => cases hcancelled
  | finished _ _ _ _ _ _ hfinish =>
      have hmap := (finishOrder_spec hfinish).2.2.1
      rw [hcancelled, Option.map_some] at hmap
      obtain ⟨cancel, hcancel, hsequence⟩ := Option.map_eq_some_iff.mp hmap.symm
      exact ⟨cancel, hcancel, hsequence.symm⟩

theorem cancelSequences_nil : cancelSequences [] = [] := rfl

theorem cancelSequences_cons (result : SimulatedScenarioOrderResult) (results : List SimulatedScenarioOrderResult) :
    cancelSequences (result :: results) = cancelSequences [result] ++ cancelSequences results := by
  simp [cancelSequences]

theorem mem_cancelSequences_singleton {n : ℕ} :
    n ∈ cancelSequences [result] ↔ ∃ cancelled, result.cancelResult = some cancelled ∧ cancelled.sequence = n := by
  simp [cancelSequences]

/-- The orders leave the cancels of the common past used alike. -/
theorem Course.usedAlike (hsame : SameUntil t s₁ s₂) (hcancels : CancelsAlike t cancel₁ cancel₂)
    (hmem : ∀ cancel ∈ cancel₁, cancel ∈ cancelRequestActions s₁.orderActions)
    (h₁ : Course runner ctx settings s₁ action intent index cancel₁ admission r₁)
    (h₂ : Course runner ctx settings s₂ action intent index cancel₂ admission r₂)
    (hcancelMem : cancel ∈ cancelRequestActions s₁.orderActions) (hcancel : cancel.scheduledAt ≤ t)
    (hused : cancel.sequence ∈ cancelSequences [r₁]) : cancel.sequence ∈ cancelSequences [r₂] := by
  obtain ⟨cancelled, hcancelled, hsequence⟩ := mem_cancelSequences_singleton.mp hused
  obtain ⟨assigned, rfl, hassigned⟩ := h₁.cancelResult_sequence hcancelled
  obtain rfl : assigned = cancel :=
    eq_of_sequence s₁.orderActions_sorted (hmem assigned rfl) hcancelMem (hassigned.symm.trans hsequence)
  obtain rfl := (hcancels assigned hcancel).mp rfl
  rwa [← Course.eq_of_cancel hsame hcancel h₁ h₂]

/-! ## The runs -/

/-- What the two results of an order share when it was given these cancels. -/
structure AlikeUntil (t : UTCDateTime) (admission : SimulatedExchangeOrderAdmission)
    (cancel₁ cancel₂ : Option ScheduledOrderAction) (r₁ r₂ : SimulatedScenarioOrderResult) : Prop where
  at_activation : ∀ activatesAt ∈ admission.activatesAt, activatesAt ≤ t →
    r₁.admission = r₂.admission ∧ r₁.activationBook = r₂.activationBook ∧ r₁.takerFill = r₂.takerFill
  when_rejected : admission.rejected = true → r₁ = r₂
  when_cancelled : ∀ cancel, cancel₁ = some cancel ∨ cancel₂ = some cancel → cancel.scheduledAt ≤ t → r₁ = r₂

theorem Course.alikeUntil (hsame : SameUntil t s₁ s₂) (hcancels : CancelsAlike t cancel₁ cancel₂)
    (h₁ : Course runner ctx settings s₁ action intent index cancel₁ admission r₁)
    (h₂ : Course runner ctx settings s₂ action intent index cancel₂ admission r₂) :
    AlikeUntil t admission cancel₁ cancel₂ r₁ r₂ where
  at_activation activatesAt hactivates hpast := Course.eq_at_activation hsame hcancels hactivates hpast h₁ h₂
  when_rejected hrejected := by rw [h₁.eq_of_rejected hrejected, h₂.eq_of_rejected hrejected]
  when_cancelled cancel hassigned hcancel := by
    have hboth : cancel₁ = some cancel ∧ cancel₂ = some cancel := by
      rcases hassigned with h | h
      · exact ⟨h, (hcancels cancel hcancel).mp h⟩
      · exact ⟨(hcancels cancel hcancel).mpr h, h⟩
    obtain ⟨rfl, rfl⟩ := hboth
    exact Course.eq_of_cancel hsame hcancel h₁ h₂

theorem UsedAlike.append {actions : List ScheduledOrderAction} {more₁ more₂ : List ℕ}
    (h : UsedAlike t actions used₁ used₂) (hmore : UsedAlike t actions more₁ more₂) :
    UsedAlike t actions (used₁ ++ more₁) (used₂ ++ more₂) := by
  intro cancel hmem hcancel
  rw [List.mem_append, List.mem_append]
  exact or_congr (h cancel hmem hcancel) (hmore cancel hmem hcancel)

theorem cancelsAlike_of_usedAlike (hsame : SameUntil t s₁ s₂) (hused : UsedAlike t s₁.orderActions used₁ used₂)
    (action : ScheduledOrderAction) :
    CancelsAlike t (matchingCancelAction s₁ action used₁) (matchingCancelAction s₂ action used₂) := by
  intro cancel hcancel
  rw [← hsame.matchingCancelAction_eq]
  exact ⟨matchingCancelAction_of_usedAlike hused hcancel, matchingCancelAction_of_usedAlike hused.symm hcancel⟩

/-- By induction over the orders: the cancels of the common past stay used alike. -/
theorem runOrderActions_alike (hsame : SameUntil t s₁ s₂) {actions : List ScheduledOrderAction}
    {results₁ results₂ : List SimulatedScenarioOrderResult} (hused : UsedAlike t s₁.orderActions used₁ used₂)
    (h₁ : runner.runOrderActions ctx settings s₁ index used₁ actions = .ok results₁)
    (h₂ : runner.runOrderActions ctx settings s₂ index used₂ actions = .ok results₂) :
    results₁.length = actions.length ∧ results₂.length = actions.length ∧
      ∀ i action, actions[i]? = some action → ∃ intent admission r₁ r₂, action.action = .orderIntent intent ∧
        runner.admitOrder ctx settings intent action.scheduledAt = .ok admission ∧
        results₁[i]? = some r₁ ∧ results₂[i]? = some r₂ ∧
        AlikeUntil t admission (matchingCancelAction s₁ action (used₁ ++ cancelSequences (results₁.take i)))
          (matchingCancelAction s₂ action (used₂ ++ cancelSequences (results₂.take i))) r₁ r₂ := by
  induction actions generalizing index used₁ used₂ results₁ results₂ with
  | nil =>
      obtain rfl := pure_eq_ok.mp h₁
      obtain rfl := pure_eq_ok.mp h₂
      refine ⟨rfl, rfl, ?_⟩
      intro i action hi
      cases hi
  | cons action actions ih =>
      obtain ⟨r₁, hr₁, h₁⟩ := bind_eq_ok.mp h₁
      obtain ⟨rest₁, hrest₁, h₁⟩ := bind_eq_ok.mp h₁
      obtain rfl := pure_eq_ok.mp h₁
      obtain ⟨r₂, hr₂, h₂⟩ := bind_eq_ok.mp h₂
      obtain ⟨rest₂, hrest₂, h₂⟩ := bind_eq_ok.mp h₂
      obtain rfl := pure_eq_ok.mp h₂
      obtain ⟨intent, admission, hintent, hadmitted, hcourse₁⟩ := course_of_runOrderAction hr₁
      obtain ⟨intent₂, admission₂, hintent₂, hadmitted₂, hcourse₂⟩ := course_of_runOrderAction hr₂
      obtain rfl : intent = intent₂ := ScenarioOrderActionPayload.orderIntent.inj (hintent.symm.trans hintent₂)
      obtain rfl : admission = admission₂ := Except.ok.inj (hadmitted.symm.trans hadmitted₂)
      have hcancels := cancelsAlike_of_usedAlike hsame hused action
      -- the step: what the two orders leave used
      have hstep : UsedAlike t s₁.orderActions (cancelSequences [r₁]) (cancelSequences [r₂]) := by
        intro cancel hmem hcancel
        refine ⟨hcourse₁.usedAlike hsame hcancels (fun c hc => mem_of_matchingCancelAction hc) hcourse₂ hmem hcancel,
          hcourse₂.usedAlike hsame.symm (fun c hc => (hcancels c hc).symm) (fun c hc => mem_of_matchingCancelAction hc)
            hcourse₁ ?_ hcancel⟩
        rwa [← hsame.orderActions]
      obtain ⟨hlength₁, hlength₂, hrest⟩ := ih (hused.append hstep) hrest₁ hrest₂
      refine ⟨congrArg (· + 1) hlength₁, congrArg (· + 1) hlength₂, ?_⟩
      intro i other hi
      cases i with
      | zero =>
          obtain rfl : action = other := Option.some.inj hi
          refine ⟨intent, admission, r₁, r₂, hintent, hadmitted, rfl, rfl, ?_⟩
          rw [List.take_zero, List.take_zero, cancelSequences_nil, List.append_nil, List.append_nil]
          exact hcourse₁.alikeUntil hsame hcancels hcourse₂
      | succ i =>
          obtain ⟨intent', admission', r₁', r₂', hintent', hadmitted', hr₁', hr₂', halike⟩ := hrest i other hi
          refine ⟨intent', admission', r₁', r₂', hintent', hadmitted', hr₁', hr₂', ?_⟩
          rw [List.take_succ_cons, List.take_succ_cons, cancelSequences_cons r₁, cancelSequences_cons r₂,
            ← List.append_assoc, ← List.append_assoc]
          exact halike

/-- The cancel that a run assigns to an order: the results before it say which are used. -/
def assignedCancel (scenario : SimulationScenario) (run : SimulationScenarioRun) (i : ℕ)
    (action : ScheduledOrderAction) : Option ScheduledOrderAction :=
  matchingCancelAction scenario action (cancelSequences (run.orderResults.take i))

theorem run_eq_ok {parsers : ParameterParsers} {run : SimulationScenarioRun}
    (h : runner.run parsers ctx scenario = .ok run) :
    ∃ settings, runner.settings parsers scenario.configuration scenario.initialBook.exchange = .ok settings ∧
      runner.runOrderActions ctx settings scenario 0 [] (orderIntentActions scenario.orderActions)
        = .ok run.orderResults := by
  simp only [DeterministicScenarioRunner.run, bind_eq_ok, pure_eq_ok] at h
  obtain ⟨-, -, settings, hsettings, finalBook, -, results, hresults, -, -, rfl⟩ := h
  exact ⟨settings, hsettings, hresults⟩

/-- **No look-ahead.** Two runs that return, of scenarios that differ only in market events after `t`, agree on
    every order up to its activation if that is at or before `t`. They agree on the whole order if it was rejected
    when it was submitted, or if either run assigned it a cancel at or before `t`. -/
theorem no_look_ahead {parsers : ParameterParsers} {run₁ run₂ : SimulationScenarioRun}
    (hsame : SameUntil t s₁ s₂) (h₁ : runner.run parsers ctx s₁ = .ok run₁)
    (h₂ : runner.run parsers ctx s₂ = .ok run₂) :
    run₁.orderResults.length = (orderIntentActions s₁.orderActions).length ∧
    run₂.orderResults.length = (orderIntentActions s₁.orderActions).length ∧
    ∃ settings, runner.settings parsers s₁.configuration s₁.initialBook.exchange = .ok settings ∧
      ∀ i action, (orderIntentActions s₁.orderActions)[i]? = some action →
        ∃ intent admission r₁ r₂, action.action = .orderIntent intent ∧
          runner.admitOrder ctx settings intent action.scheduledAt = .ok admission ∧
          run₁.orderResults[i]? = some r₁ ∧ run₂.orderResults[i]? = some r₂ ∧
          AlikeUntil t admission (assignedCancel s₁ run₁ i action) (assignedCancel s₂ run₂ i action) r₁ r₂ := by
  obtain ⟨settings, hsettings, hresults₁⟩ := run_eq_ok h₁
  obtain ⟨settings₂, hsettings₂, hresults₂⟩ := run_eq_ok h₂
  obtain rfl : settings = settings₂ := by
    rw [← hsame.configuration, ← hsame.initialBook] at hsettings₂
    exact Except.ok.inj (hsettings.symm.trans hsettings₂)
  rw [← hsame.orderActions] at hresults₂
  obtain ⟨hlength₁, hlength₂, halike⟩ :=
    runOrderActions_alike hsame (fun _ _ _ => Iff.rfl) hresults₁ hresults₂
  exact ⟨hlength₁, hlength₂, settings, hsettings, halike⟩

end Order

/-! ## A cancelled quote -/

theorem initial_within : TextWithin 128 "initial" := TextWithin.ofList (by decide)

theorem noBids_descending : StrictlyDescending (([] : List OrderBookLevel).map OrderBookLevel.price) :=
  List.IsChain.nil

theorem noAsks_ascending : StrictlyAscending (([] : List OrderBookLevel).map OrderBookLevel.price) :=
  List.IsChain.nil

/-- A market that nobody quotes. -/
def rainBook : OrderBookSnapshot where
  marketId := RiskEngine.rainMarket
  contractId := RiskEngine.quoteTwo.contractId
  exchange := "rain exchange"
  receivedAt := 0
  bids := []
  asks := []
  snapshotReason := "initial"
  exchange_within := TextWithin.ofList (by decide)
  snapshotReason_within := initial_within
  bids_descending := noBids_descending
  asks_ascending := noAsks_ascending

theorem twoFifths_nonneg : (0 : ℚ) ≤ 2 / 5 := by norm_num

theorem one_traded : (0 : ℚ) < 1 := one_pos

/-- Somebody sells 1 at 0.40. -/
def rainTrade : Trade where
  tradeId := "rain trade"
  exchange := rainBook.exchange
  exchangeTradeId := "rain trade"
  marketId := rainBook.marketId
  contractId := rainBook.contractId
  outcomeId := RiskEngine.quoteTwo.outcomeId
  price := 2 / 5
  quantity := 1
  aggressorSide := some .sell
  exchangeOccurredAt := 0
  receivedAt := 0
  tradeId_within := TextWithin.ofList (by decide)
  exchange_within := rainBook.exchange_within
  exchangeTradeId_within := TextWithin.ofList (by decide)
  price_nonneg := twoFifths_nonneg
  quantity_pos := one_traded

def tradeAt (sequence : ℕ) (scheduledAt : UTCDateTime) (payloadHash : String) : ScheduledMarketEvent :=
  ⟨sequence, scheduledAt, .trade rainTrade, payloadHash⟩

theorem noReference_within : ∀ s ∈ (none : Option String), TextWithin opaqueOrderRefMaxLength s := by
  rintro s ⟨⟩

def rainCancel : CancelOrderRequest where
  cancelRequestId := "rain cancel"
  orderId := ⟨"ord_rain", by decide⟩
  exchange := rainBook.exchange
  accountId := ⟨"acct_rain", by decide⟩
  clientOrderId := "rain cancel"
  requestedAt := 20
  idempotencyKey := "rain cancel"
  correlationId := RiskEngine.quoteTwo.correlationId
  cancelRequestId_within := TextWithin.ofList (by decide)
  exchange_within := rainBook.exchange_within
  clientOrderId_within := TextWithin.ofList (by decide)
  exchangeOrderId_within := noReference_within
  idempotencyKey_within := TextWithin.ofList (by decide)

/-- Quotes 2 at 0.50 at time 10 and cancels at time 20. -/
def rainActions : List ScheduledOrderAction :=
  [⟨0, 10, .orderIntent RiskEngine.quoteTwo⟩, ⟨1, 20, .cancelOrderRequest rainCancel⟩]

def rainConfiguration : SimulationConfiguration where
  fillModel := "touch_fill_v1"
  latencyModel := "fixed_latency_v1"
  feeModel := "fee_table_v1"
  rejectionModel := "bounded_rejection_v1"
  slippageModel := "none_v1"
  settlementModel := "none_v1"
  fixedLatencyMs := some 0

theorem rainActions_sorted : rainActions.Pairwise fun a b => a.sequence < b.sequence := by decide

theorem rainActions_lineage : ∀ action ∈ rainActions, action.action.InLineage rainBook := by
  intro action haction
  simp only [rainActions, List.mem_cons, List.not_mem_nil, or_false] at haction
  rcases haction with rfl | rfl
  · exact ⟨rfl, rfl⟩
  · exact rfl

/-- Trades at these times, by sequence. -/
def rainScenario (times : List UTCDateTime) (hashes : ℕ → String) : SimulationScenario where
  configuration := rainConfiguration
  initialBook := rainBook
  marketEvents := times.mapIdx fun i time => tradeAt i time (hashes i)
  orderActions := rainActions
  initialBook_valid := rfl
  marketEvents_sorted := by
    rw [List.pairwise_iff_getElem]
    intro i j hi hj hlt
    simpa [tradeAt] using hlt
  orderActions_sorted := rainActions_sorted
  marketEvents_lineage := by
    intro event hevent
    obtain ⟨i, hi, rfl⟩ := List.mem_mapIdx.mp hevent
    exact ⟨rfl, rfl, rfl⟩
  orderActions_lineage := rainActions_lineage

theorem isCurrency_fees : IsCurrency "USD" := by decide

def zeroFees (exchange : String) : FeeModel where
  estimate _ price quantity liquidityRole := .ok {
    exchange, liquidityRole
    currency := ⟨"USD", isCurrency_fees⟩
    notional := price * quantity
    feeAmount := 0
    rebateAmount := 0
    netFeeAmount := 0 }

def noSlippage : SlippageModel where
  estimate side price quantity liquidityRole := .ok {
    side, liquidityRole
    inputPrice := price
    adjustedPrice := price
    quantity
    slippageBps := 0
    slippageAmountPerUnit := 0
    totalSlippage := 0 }

def noSettlement : SettlementModel where
  isNoSettlement := true
  estimate outcomeId quantity winningOutcomeIds := .ok {
    outcomeId, quantity
    status := .unresolved
    winningOutcomeIds
    payoutPerUnit := 0
    payoutAmount := 0
    isWinningOutcome := false }

def rainRunner : DeterministicScenarioRunner where
  exchange := deterministicSimulatedExchange RequiredBalance.defaultRejectionModel.toRejectionModel
    (FixedLatencyModel.fromMilliseconds 0).toLatencyModel
  fillModel := FillModels.touchFillModel defaultContext
  feeModelForScenario _ exchange := .ok (zeroFees exchange)
  slippageModelForScenario _ := .ok noSlippage
  settlementModelForScenario _ := .ok noSettlement

/-- No parameter is configured, so neither parser is called. -/
def noParameters : ParameterParsers where
  parseDecimal _ := .error (valueError "unused")
  parseUtcDatetime _ := .error (valueError "unused")

def pastTrade : SimulationScenario := rainScenario [15] fun _ => "sha256:past"

/-- The same trade, and one after the cancel. -/
def laterTrade : SimulationScenario := rainScenario [15, 25] fun i => if i = 0 then "sha256:past" else "sha256:later"

theorem sameUntil_laterTrade : SameUntil 20 pastTrade laterTrade where
  configuration := rfl
  initialBook := rfl
  orderActions := rfl
  marketEvents event hevent := by
    simp only [pastTrade, laterTrade, rainScenario, List.mapIdx_cons, List.mapIdx_nil, List.mem_cons,
      List.not_mem_nil, or_false, if_true]
    constructor
    · exact Or.inl
    · rintro (h | rfl)
      · exact h
      · exact absurd hevent (by decide)

theorem rain_run (scenario : SimulationScenario)
    (h : (rainRunner.run noParameters defaultContext scenario).toOption.isSome = true) :
    ∃ run, rainRunner.run noParameters defaultContext scenario = .ok run := by
  cases hrun : rainRunner.run noParameters defaultContext scenario with
  | error e => rw [hrun] at h; cases h
  | ok run => exact ⟨run, rfl⟩

theorem pastTrade_cancel : matchingCancelAction pastTrade ⟨0, 10, .orderIntent RiskEngine.quoteTwo⟩ [] =
    some ⟨1, 20, .cancelOrderRequest rainCancel⟩ := by
  decide +kernel

theorem no_look_ahead_laterTrade :
    ∃ run₁ run₂, rainRunner.run noParameters defaultContext pastTrade = .ok run₁ ∧
      rainRunner.run noParameters defaultContext laterTrade = .ok run₂ ∧
      ∃ r, run₁.orderResults[0]? = some r ∧ run₂.orderResults[0]? = some r := by
  obtain ⟨run₁, h₁⟩ := rain_run pastTrade (by decide +kernel)
  obtain ⟨run₂, h₂⟩ := rain_run laterTrade (by decide +kernel)
  obtain ⟨-, -, settings, -, hsame⟩ := no_look_ahead sameUntil_laterTrade h₁ h₂
  obtain ⟨intent, admission, r₁, r₂, -, -, hr₁, hr₂, halike⟩ := hsame 0 ⟨0, 10, .orderIntent RiskEngine.quoteTwo⟩ rfl
  obtain rfl := halike.when_cancelled ⟨1, 20, .cancelOrderRequest rainCancel⟩ (.inl pastTrade_cancel) (by decide)
  exact ⟨run₁, run₂, h₁, h₂, r₁, hr₁, hr₂⟩

end Scenarios
end Pmrp
