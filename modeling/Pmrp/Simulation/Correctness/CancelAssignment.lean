import Pmrp.Lib.GreedyAssignment
import Pmrp.Simulation.Correctness.NoLookAhead

/-!
# `Simulation.Correctness.CancelAssignment` — which cancel goes to which order

The run gives every order intent the earliest free cancel of its correlation id at or after it, and an order that is
not rejected uses the cancel it was given. `AssignedOnce` says that what the results record is an assignment, and
`run_unmatched_iff` that the run raises for an unmatched cancel exactly when no assignment of all cancels to orders
that it did not reject exists. A rejected order uses no cancel: its result may not have one.
-/

namespace Pmrp
namespace Scenarios

open DeterministicScenarioRunner

variable {ctx : DecimalContext} {parsers : ParameterParsers} {scenario : SimulationScenario}
variable {runner : DeterministicScenarioRunner} {settings : RunSettings} {index : ℕ} {used : List ℕ}
variable {action cancel : ScheduledOrderAction} {result : SimulatedScenarioOrderResult}
variable {results : List SimulatedScenarioOrderResult} {actions : List ScheduledOrderAction}

/-! ## The conditions on a pair -/

/-- The cancel names the exchange of the scenario and the intent's correlation id, and is not before the intent. -/
structure CancelFits (scenario : SimulationScenario) (action cancel : ScheduledOrderAction) (intent : OrderIntent)
    (request : CancelOrderRequest) : Prop where
  intent_eq : action.action = .orderIntent intent
  request_eq : cancel.action = .cancelOrderRequest request
  scheduled : action.scheduledAt ≤ cancel.scheduledAt
  exchange : request.exchange = scenario.initialBook.exchange
  correlationId : request.correlationId = intent.correlationId

/-- Some intent and some request make the pair fit. -/
def Fits (scenario : SimulationScenario) (action cancel : ScheduledOrderAction) : Prop :=
  ∃ intent request, CancelFits scenario action cancel intent request

theorem fits_iff : Fits scenario action cancel ↔
    cancelMatchesOrderIntent cancel action scenario.initialBook.exchange [] = true := by
  unfold cancelMatchesOrderIntent
  rw [if_neg List.not_mem_nil]
  constructor
  · rintro ⟨intent, request, hintent, hrequest, hscheduled, hexchange, hcorrelation⟩
    rw [hintent, hrequest]
    exact decide_eq_true ⟨hscheduled, hexchange, hcorrelation⟩
  · intro h
    split at h
    · rename_i request intent hrequest hintent
      obtain ⟨hscheduled, hexchange, hcorrelation⟩ := of_decide_eq_true h
      exact ⟨intent, request, hintent, hrequest, hscheduled, hexchange, hcorrelation⟩
    · cases h

/-- Cancels that fit one intent fit the same intents, but for the times: a later one fits whatever an earlier fits. -/
theorem Fits.later {other earlier : ScheduledOrderAction} (hother : Fits scenario other earlier)
    (hcancel : Fits scenario other cancel) (h : Fits scenario action earlier)
    (hlt : cancelKey earlier < cancelKey cancel) : Fits scenario action cancel := by
  obtain ⟨otherIntent, earlierRequest, hoi, her, -, -, hec⟩ := hother
  obtain ⟨otherIntent', request, hoi', hr, -, hexchange, hcorrelation⟩ := hcancel
  obtain ⟨intent, earlierRequest', hi, her', hscheduled, -, hcorrelation'⟩ := h
  obtain rfl := ScenarioOrderActionPayload.orderIntent.inj (hoi.symm.trans hoi')
  obtain rfl := ScenarioOrderActionPayload.cancelOrderRequest.inj (her.symm.trans her')
  have hle : earlier.scheduledAt ≤ cancel.scheduledAt := by
    rcases Prod.Lex.toLex_le_toLex.mp hlt.le with htime | ⟨htime, -⟩
    · exact htime.le
    · exact htime.le
  exact ⟨intent, request, hi, hr, hscheduled.trans hle, hexchange,
    hcorrelation.trans (hec.symm.trans hcorrelation')⟩

/-! ## One order -/

section Order

variable {intent : OrderIntent} {cancelAction : Option ScheduledOrderAction}
variable {admission : SimulatedExchangeOrderAdmission}

theorem finishOrder_cancelResult {activationAt : UTCDateTime} {book : OrderBookSnapshot} {bookEstimate : FillEstimate}
    (h : finishOrder ctx settings scenario action intent index cancelAction admission activationAt book bookEstimate
      = .ok result) :
    result.action = action ∧ result.admission = admission ∧
      ∃ outcome, result.cancelResult = cancelAction.map fun cancel => cancelResult cancel index outcome := by
  simp only [finishOrder, bind_eq_ok] at h
  obtain ⟨feeEstimates, -, slippageEstimates, -, settlementResult, -, h⟩ := h
  have hresult := SimulatedScenarioOrderResult.eq_of_validate h
  rw [hresult]
  exact ⟨rfl, rfl, _, rfl⟩

theorem rejectionDecision_of_create {marketStatus : MarketStatus} {decision : RejectionDecision}
    {submittedAt : UTCDateTime} {acceptedAt activatesAt : Option UTCDateTime}
    {requiredBalance availableBalance : Option ℚ}
    (h : SimulatedExchangeOrderAdmission.create intent marketStatus decision submittedAt acceptedAt activatesAt
      requiredBalance availableBalance = .ok admission) : admission.rejectionDecision = decision := by
  simp only [SimulatedExchangeOrderAdmission.create] at h
  split_ifs at h
  obtain rfl := Except.ok.inj h
  rfl

theorem rejected_of_postOnly {rejection : SimulatedExchangeOrderAdmission}
    (h : postOnlyRejectionAdmission admission = .ok rejection) : rejection.rejected = true := by
  rw [SimulatedExchangeOrderAdmission.rejected, rejectionDecision_of_create h]
  rfl

/-- What a result says of the cancel its order was given: a rejected order has none, another uses it. -/
structure UsesCancel (action : ScheduledOrderAction) (cancelAction : Option ScheduledOrderAction)
    (result : SimulatedScenarioOrderResult) : Prop where
  action_eq : result.action = action
  rejected : result.admission.rejected = true → result.cancelResult = none
  kept : result.admission.rejected = false → result.cancelResult.map (·.action) = cancelAction
  sequence : ∀ cancelled ∈ result.cancelResult, cancelled.sequence = cancelled.action.sequence

theorem Course.usesCancel
    (h : Course runner ctx settings scenario action intent index cancelAction admission result) :
    UsesCancel action cancelAction result := by
  have hactive : ∀ {activatesAt : UTCDateTime}, admission.activatesAt = some activatesAt →
      ¬admission.rejected = true := by
    intro activatesAt hactivates hrejected
    rw [activatesAt_of_rejected hrejected] at hactivates
    cases hactivates
  cases h with
  | rejected hrejected =>
      -- a rejected order returns before its cancel is read
      refine ⟨rfl, fun _ => rfl, ?_, ?_⟩
      · intro hkept
        rw [hrejected] at hkept
        cases hkept
      · rintro cancelled ⟨⟩
  | cancelled hactivates hcancel hbefore =>
      refine ⟨rfl, ?_, fun _ => hcancel.symm, ?_⟩
      · intro hrejected
        exact absurd hrejected (hactive hactivates)
      · rintro cancelled ⟨⟩
        rfl
  | crossed hactivates hcancel hbook hcross hrejection =>
      -- the result has the rejection in place of the admission, so that its order counts as rejected too
      refine ⟨rfl, fun _ => rfl, ?_, ?_⟩
      · intro hkept
        rw [rejected_of_postOnly hrejection] at hkept
        cases hkept
      · rintro cancelled ⟨⟩
  | finished hactivates hcancel hprice hbook hcross hestimate hfinish =>
      obtain ⟨haction, hadmission, outcome, hresult⟩ := finishOrder_cancelResult hfinish
      refine ⟨haction, ?_, fun _ => ?_, ?_⟩
      · intro hrejected
        rw [hadmission] at hrejected
        exact absurd hrejected (hactive hactivates)
      · rw [hresult]
        cases cancelAction <;> rfl
      · intro cancelled hcancelled
        rw [hresult] at hcancelled
        obtain ⟨given, -, rfl⟩ := Option.mem_map.mp hcancelled
        rfl

theorem usesCancel_of_runOrderAction
    (h : runner.runOrderAction ctx settings scenario action index cancelAction = .ok result) :
    UsesCancel action cancelAction result := by
  obtain ⟨intent, admission, -, -, hcourse⟩ := course_of_runOrderAction h
  exact hcourse.usesCancel

/-- A result has a cancel only of an order that was not rejected, and then it is the one that was given. -/
theorem UsesCancel.given (h : UsesCancel action cancelAction result) {cancelled : SimulatedScenarioCancelResult}
    (hcancelled : result.cancelResult = some cancelled) :
    result.admission.rejected = false ∧ cancelAction = some cancelled.action := by
  have hkept : result.admission.rejected = false := by
    cases hrejected : result.admission.rejected with
    | false => rfl
    | true =>
        rw [h.rejected hrejected] at hcancelled
        cases hcancelled
  refine ⟨hkept, ?_⟩
  rw [← h.kept hkept, hcancelled]
  rfl

end Order

/-! ## The run -/

/-- What the results of a loop say of the cancels that were free before it. -/
structure LoopAssigns (scenario : SimulationScenario) (used : List ℕ) (actions : List ScheduledOrderAction)
    (results : List SimulatedScenarioOrderResult) : Prop where
  orders : results.map (·.action) = actions
  pair : ∀ r ∈ results, ∀ cancelled ∈ r.cancelResult, r.admission.rejected = false ∧
    cancelled.sequence = cancelled.action.sequence ∧ cancelled.sequence ∉ used ∧
    cancelled.action ∈ cancelRequestActions scenario.orderActions ∧ Fits scenario r.action cancelled.action
  once : results.Pairwise fun r s => ∀ c ∈ r.cancelResult, ∀ d ∈ s.cancelResult, c.sequence ≠ d.sequence
  greedy : ∀ cancel ∈ cancelRequestActions scenario.orderActions, cancel.sequence ∉ used →
    cancel.sequence ∉ cancelSequences results →
    ∀ r ∈ results, r.admission.rejected = false → Fits scenario r.action cancel →
      ∃ cancelled, r.cancelResult = some cancelled ∧ cancelKey cancelled.action < cancelKey cancel

theorem fits_of_matchingCancelAction (h : matchingCancelAction scenario action used = some cancel) :
    cancel ∈ cancelRequestActions scenario.orderActions ∧ cancel.sequence ∉ used ∧ Fits scenario action cancel := by
  obtain ⟨hmem, hunused, hfits⟩ := mem_cancelCandidates.mp (mem_of_firstMinimum h)
  exact ⟨hmem, hunused, fits_iff.mpr hfits⟩

/-- A free cancel that fits the order is not before the one the order was given. -/
theorem earlier_of_free (hcancel : cancel ∈ cancelRequestActions scenario.orderActions)
    (hfree : cancel.sequence ∉ used) (hfits : Fits scenario action cancel) :
    ∃ given, matchingCancelAction scenario action used = some given ∧ cancelKey given ≤ cancelKey cancel := by
  have hcandidate : cancel ∈ cancelCandidates scenario action used :=
    mem_cancelCandidates.mpr ⟨hcancel, hfree, fits_iff.mp hfits⟩
  obtain ⟨given, hgiven⟩ : ∃ given, matchingCancelAction scenario action used = some given :=
    exists_firstMinimum hcandidate
  exact ⟨given, hgiven, key_le_of_firstMinimum hgiven hcandidate⟩

theorem cancelKey_sequence {a b : ScheduledOrderAction} (h : cancelKey a = cancelKey b) : a.sequence = b.sequence :=
  congrArg (fun key => (ofLex key).2) h

theorem mem_cancelSequences {n : ℕ} :
    n ∈ cancelSequences results ↔ ∃ r ∈ results, ∃ cancelled ∈ r.cancelResult, cancelled.sequence = n := by
  simp [cancelSequences]

/-- By induction over the orders: a step uses at most the cancel it was given, which was free before. -/
theorem loopAssigns_of_runOrderActions
    (h : runner.runOrderActions ctx settings scenario index used actions = .ok results) :
    LoopAssigns scenario used actions results := by
  induction actions generalizing index used results with
  | nil =>
      obtain rfl := pure_eq_ok.mp h
      exact ⟨rfl, by simp, .nil, by simp⟩
  | cons action actions ih =>
      obtain ⟨r, hr, h⟩ := bind_eq_ok.mp h
      obtain ⟨rest, hrest, h⟩ := bind_eq_ok.mp h
      obtain rfl := pure_eq_ok.mp h
      have huses := usesCancel_of_runOrderAction hr
      obtain ⟨horders, hpair, honce, hgreedy⟩ := ih hrest
      refine { orders := ?orders, pair := ?pair, once := ?once, greedy := ?greedy }
      case orders =>
        rw [List.map_cons, huses.action_eq, horders]
      case pair =>
        intro s hs cancelled hcancelled
        rcases List.mem_cons.mp hs with rfl | hs
        · obtain ⟨hkept, hgiven⟩ := huses.given hcancelled
          obtain ⟨hmem, hfree, hfits⟩ := fits_of_matchingCancelAction hgiven
          have hsequence := huses.sequence cancelled hcancelled
          rw [← huses.action_eq] at hfits
          exact ⟨hkept, hsequence, hsequence ▸ hfree, hmem, hfits⟩
        · obtain ⟨hkept, hsequence, hfree, hmem, hfits⟩ := hpair s hs cancelled hcancelled
          exact ⟨hkept, hsequence, fun hused => hfree (List.mem_append_left _ hused), hmem, hfits⟩
      case once =>
        -- the rest of the loop starts with what this order has used
        refine List.pairwise_cons.mpr ⟨?_, honce⟩
        intro s hs c hc d hd heq
        obtain ⟨-, -, hfree, -, -⟩ := hpair s hs d hd
        refine hfree (List.mem_append_right _ ?_)
        exact mem_cancelSequences_singleton.mpr ⟨c, hc, heq⟩
      case greedy =>
        intro cancel hcancel hfree hunused s hs hkept hfits
        rw [cancelSequences_cons, List.mem_append, not_or] at hunused
        rcases List.mem_cons.mp hs with rfl | hs
        · -- the order was given the earliest free cancel, and that is not `cancel`, which stays free
          rw [huses.action_eq] at hfits
          obtain ⟨given, hgiven, hle⟩ := earlier_of_free hcancel hfree hfits
          have hmap := (huses.kept hkept).trans hgiven
          obtain ⟨cancelled, hcancelled, rfl⟩ := Option.map_eq_some_iff.mp hmap
          refine ⟨cancelled, hcancelled, lt_of_le_of_ne hle fun heq => hunused.1 ?_⟩
          refine mem_cancelSequences_singleton.mpr ⟨cancelled, hcancelled, ?_⟩
          rw [huses.sequence cancelled hcancelled, cancelKey_sequence heq]
        · -- an order of the rest, for which `cancel` is still free
          refine hgreedy cancel hcancel ?_ hunused.2 s hs hkept hfits
          rw [List.mem_append, not_or]
          exact ⟨hfree, hunused.1⟩

/-! ## Soundness -/

/-- Every order intent has one result, and the cancels in the results are an assignment: at most one for an order,
    no cancel twice, and only pairs that fit. -/
structure AssignedOnce (scenario : SimulationScenario) (results : List SimulatedScenarioOrderResult) : Prop where
  orders : results.map (·.action) = orderIntentActions scenario.orderActions
  pair : ∀ r ∈ results, ∀ cancelled ∈ r.cancelResult,
    cancelled.action ∈ cancelRequestActions scenario.orderActions ∧ Fits scenario r.action cancelled.action
  once : results.Pairwise fun r s => ∀ c ∈ r.cancelResult, ∀ d ∈ s.cancelResult, c.action ≠ d.action

theorem LoopAssigns.assignedOnce
    (h : LoopAssigns scenario used (orderIntentActions scenario.orderActions) results) :
    AssignedOnce scenario results where
  orders := h.orders
  pair r hr cancelled hcancelled := by
    obtain ⟨-, -, -, hmem, hfits⟩ := h.pair r hr cancelled hcancelled
    exact ⟨hmem, hfits⟩
  once := by
    refine h.once.imp_of_mem ?_
    intro r s hr hs hdistinct c hc d hd heq
    obtain ⟨-, hsequenceC, -⟩ := h.pair r hr c hc
    obtain ⟨-, hsequenceD, -⟩ := h.pair s hs d hd
    exact hdistinct c hc d hd (by rw [hsequenceC, hsequenceD, heq])

/-! ## Completeness -/

/-- The orders that the run did not reject. -/
def keptActions (results : List SimulatedScenarioOrderResult) : List ScheduledOrderAction :=
  (results.filter fun r => !r.admission.rejected).map (·.action)

theorem mem_keptActions : action ∈ keptActions results ↔
    ∃ r ∈ results, r.admission.rejected = false ∧ r.action = action := by
  simp [keptActions, and_assoc]

/-- All cancels of the scenario can be assigned to distinct orders among these. -/
def Assignable (scenario : SimulationScenario) (actions : List ScheduledOrderAction) : Prop :=
  ∃ f, Fills (Fits scenario) actions (cancelRequestActions scenario.orderActions) f

theorem sequences_nodup (hsorted : actions.Pairwise fun a b => a.sequence < b.sequence) :
    (orderIntentActions actions).Nodup := by
  refine (hsorted.imp ?_).filter _
  rintro a b hlt rfl
  exact lt_irrefl _ hlt

/-- Orders that appear twice in the results are one result. -/
theorem LoopAssigns.eq_of_action (h : LoopAssigns scenario used (orderIntentActions scenario.orderActions) results)
    {r s : SimulatedScenarioOrderResult} (hr : r ∈ results) (hs : s ∈ results) (heq : r.action = s.action) :
    r = s := by
  have hnodup : (results.map (·.action)).Nodup := by
    rw [h.orders]
    exact sequences_nodup scenario.orderActions_sorted
  exact List.inj_on_of_nodup_map hnodup hr hs heq

/-- A cancel in two results makes them one. -/
theorem LoopAssigns.eq_of_cancel (h : LoopAssigns scenario used actions results)
    {r s : SimulatedScenarioOrderResult} (hr : r ∈ results) (hs : s ∈ results)
    {c d : SimulatedScenarioCancelResult} (hc : c ∈ r.cancelResult) (hd : d ∈ s.cancelResult)
    (heq : c.sequence = d.sequence) : r = s := by
  by_contra hne
  have hsymm : Std.Symm fun r s : SimulatedScenarioOrderResult =>
      ∀ c ∈ r.cancelResult, ∀ d ∈ s.cancelResult, c.sequence ≠ d.sequence :=
    ⟨fun r s hrs c hc d hd hcd => hrs d hd c hc hcd.symm⟩
  exact h.once.forall hr hs hne c hc d hd heq

/-- Every cancel is used: read the assignment off the results. -/
theorem LoopAssigns.assignable (h : LoopAssigns scenario used (orderIntentActions scenario.orderActions) results)
    (hall : ∀ cancel ∈ cancelRequestActions scenario.orderActions, cancel.sequence ∈ cancelSequences results) :
    Assignable scenario (keptActions results) := by
  have hresult : ∀ cancel : ScheduledOrderAction, ∃ order : ScheduledOrderAction,
      cancel ∈ cancelRequestActions scenario.orderActions →
        ∃ r ∈ results, ∃ cancelled, r.cancelResult = some cancelled ∧ cancelled.action = cancel ∧
          r.action = order := by
    intro cancel
    by_cases hcancel : cancel ∈ cancelRequestActions scenario.orderActions
    · obtain ⟨r, hr, cancelled, hcancelled, hsequence⟩ := mem_cancelSequences.mp (hall cancel hcancel)
      obtain ⟨-, hown, -, hmem, -⟩ := h.pair r hr cancelled hcancelled
      have heq := eq_of_sequence scenario.orderActions_sorted hmem hcancel (hown.symm.trans hsequence)
      exact ⟨r.action, fun _ => ⟨r, hr, cancelled, hcancelled, heq, rfl⟩⟩
    · exact ⟨cancel, fun hmem => absurd hmem hcancel⟩
  choose f hf using hresult
  refine ⟨f, ?_, ?_, ?_⟩
  · intro cancel hcancel
    obtain ⟨r, hr, cancelled, hcancelled, rfl, hr'⟩ := hf cancel hcancel
    exact mem_keptActions.mpr ⟨r, hr, (h.pair r hr cancelled hcancelled).1, hr'⟩
  · intro cancel hcancel
    obtain ⟨r, hr, cancelled, hcancelled, rfl, hr'⟩ := hf cancel hcancel
    rw [← hr']
    exact (h.pair r hr cancelled hcancelled).2.2.2.2
  · intro c hc d hd heq
    obtain ⟨r, hr, cancelledC, hcancelledC, hcEq, hrC⟩ := hf c hc
    obtain ⟨s, hs, cancelledD, hcancelledD, hdEq, hsD⟩ := hf d hd
    obtain rfl := h.eq_of_action hr hs (hrC.trans (heq.trans hsD.symm))
    rw [hcancelledC] at hcancelledD
    obtain rfl := Option.some_inj.mp hcancelledD
    exact hcEq.symm.trans hdEq

/-- A cancel stays free: every order that it fits and that was not rejected has an earlier one. -/
theorem LoopAssigns.not_assignable
    (h : LoopAssigns scenario [] (orderIntentActions scenario.orderActions) results)
    (hcancel : cancel ∈ cancelRequestActions scenario.orderActions)
    (hfree : cancel.sequence ∉ cancelSequences results) : ¬Assignable scenario (keptActions results) := by
  have hgiven : ∀ action : ScheduledOrderAction, ∃ given : ScheduledOrderAction,
      action ∈ keptActions results → Fits scenario action cancel →
        ∃ r ∈ results, ∃ cancelled, r.action = action ∧ r.cancelResult = some cancelled ∧
          cancelled.action = given ∧ cancelKey given < cancelKey cancel := by
    intro action
    by_cases hfits : action ∈ keptActions results ∧ Fits scenario action cancel
    · obtain ⟨r, hr, hkept, rfl⟩ := mem_keptActions.mp hfits.1
      obtain ⟨cancelled, hcancelled, hlt⟩ := h.greedy cancel hcancel List.not_mem_nil hfree r hr hkept hfits.2
      exact ⟨cancelled.action, fun _ _ => ⟨r, hr, cancelled, rfl, hcancelled, rfl, hlt⟩⟩
    · exact ⟨action, fun hmem hfit => absurd ⟨hmem, hfit⟩ hfits⟩
  choose g hg using hgiven
  rintro ⟨f, hf⟩
  refine @not_fills_of_greedy _ _ _ _ cancelKey _ _ _ cancel g hcancel ?_ ?_ ?_ f hf
  · intro a ha hfits
    obtain ⟨r, hr, cancelled, rfl, hcancelled, hgiven, hlt⟩ := hg a ha hfits
    obtain ⟨-, -, -, hmem, hpair⟩ := h.pair r hr cancelled hcancelled
    rw [hgiven] at hmem hpair
    exact ⟨hmem, hpair, hlt⟩
  · intro a ha b hb hfitsA hfitsB heq
    obtain ⟨r, hr, c, rfl, hc, hcEq, -⟩ := hg a ha hfitsA
    obtain ⟨s, hs, d, rfl, hd, hdEq, -⟩ := hg b hb hfitsB
    obtain ⟨-, hsequenceC, -⟩ := h.pair r hr c hc
    obtain ⟨-, hsequenceD, -⟩ := h.pair s hs d hd
    have hsequence : c.sequence = d.sequence := by rw [hsequenceC, hsequenceD, hcEq, hdEq, heq]
    rw [h.eq_of_cancel hr hs hc hd hsequence]
  · intro a b earlier hearlier hlater hfits hlt
    exact hearlier.later hlater hfits hlt

/-! ## The error of the run -/

def unmatchedCancelError : PyError :=
  simulationConfigurationError "Scenario cancel action did not match an order intent"

/-- The run gets to its last check, with these results of the orders. -/
structure ReachesCheck (parsers : ParameterParsers) (ctx : DecimalContext) (runner : DeterministicScenarioRunner)
    (scenario : SimulationScenario) (settings : RunSettings) (finalBook : OrderBookSnapshot)
    (results : List SimulatedScenarioOrderResult) : Prop where
  configuration : validateRunnerConfiguration scenario.configuration = .ok ()
  settings_ok : runner.settings parsers scenario.configuration scenario.initialBook.exchange = .ok settings
  finalBook_ok : projectBookUntil scenario none = .ok finalBook
  results_ok : runner.runOrderActions ctx settings scenario 0 [] (orderIntentActions scenario.orderActions)
    = .ok results

variable {finalBook : OrderBookSnapshot}

theorem ReachesCheck.run_eq (h : ReachesCheck parsers ctx runner scenario settings finalBook results) :
    runner.run parsers ctx scenario =
      (validateNoUnmatchedCancelActions scenario.orderActions (cancelSequences results)).map fun _ =>
        ⟨finalBook, results⟩ := by
  rw [DeterministicScenarioRunner.run, h.configuration, ok_bind, h.settings_ok, ok_bind, h.finalBook_ok, ok_bind,
    h.results_ok, ok_bind]
  cases validateNoUnmatchedCancelActions scenario.orderActions (cancelSequences results) <;> rfl

theorem reachesCheck_of_run {run : SimulationScenarioRun} (h : runner.run parsers ctx scenario = .ok run) :
    ∃ settings, ReachesCheck parsers ctx runner scenario settings run.finalBook run.orderResults := by
  simp only [DeterministicScenarioRunner.run, bind_eq_ok, pure_eq_ok] at h
  obtain ⟨_, hconfiguration, settings, hsettings, finalBook, hbook, results, hresults, -, -, rfl⟩ := h
  exact ⟨settings, hconfiguration, hsettings, hbook, hresults⟩

/-- **Cancel assignment is sound, and complete for the orders that are kept.** A run that gets to its last check
    raises for an unmatched cancel exactly when the cancels cannot all be assigned to distinct orders that it did not
    reject; whichever way it ends, its results are an assignment. -/
theorem run_unmatched_iff (h : ReachesCheck parsers ctx runner scenario settings finalBook results) :
    AssignedOnce scenario results ∧
      (runner.run parsers ctx scenario = .ok ⟨finalBook, results⟩ ↔ Assignable scenario (keptActions results)) ∧
      (runner.run parsers ctx scenario = .error unmatchedCancelError ↔
        ¬Assignable scenario (keptActions results)) := by
  have hassigns := loopAssigns_of_runOrderActions h.results_ok
  refine ⟨hassigns.assignedOnce, ?_⟩
  rw [h.run_eq, validateNoUnmatchedCancelActions, raiseIf]
  by_cases hunmatched :
      ∃ cancel ∈ cancelRequestActions scenario.orderActions, cancel.sequence ∉ cancelSequences results
  · have hnot : ¬Assignable scenario (keptActions results) := by
      obtain ⟨cancel, hcancel, hfree⟩ := hunmatched
      exact hassigns.not_assignable hcancel hfree
    rw [if_pos hunmatched]
    exact ⟨iff_of_false (fun hok => by cases hok) hnot, iff_of_true rfl hnot⟩
  · have hall : Assignable scenario (keptActions results) := by
      push Not at hunmatched
      exact hassigns.assignable hunmatched
    rw [if_neg hunmatched]
    exact ⟨iff_of_true rfl hall, iff_of_false (fun herror => by cases herror) fun hnot => hnot hall⟩

/-! ## The cancelled quote, kept and rejected -/

theorem isIdentifier_second : IsIdentifier "intent_" "intent_second" := by decide

def quoteSecond : OrderIntent :=
  RiskEngine.quote ⟨"intent_second", isIdentifier_second⟩ .buy 1 (1 / 2) one_traded RiskEngine.half_nonneg

/-- Two quotes of one correlation, and one cancel of it. -/
def twoQuotesActions : List ScheduledOrderAction :=
  [⟨0, 10, .orderIntent RiskEngine.quoteTwo⟩, ⟨1, 12, .orderIntent quoteSecond⟩,
    ⟨2, 20, .cancelOrderRequest rainCancel⟩]

theorem twoQuotesActions_sorted : twoQuotesActions.Pairwise fun a b => a.sequence < b.sequence := by decide

theorem twoQuotesActions_lineage : ∀ action ∈ twoQuotesActions, action.action.InLineage rainBook := by
  intro action haction
  simp only [twoQuotesActions, List.mem_cons, List.not_mem_nil, or_false] at haction
  rcases haction with rfl | rfl | rfl
  · exact ⟨rfl, rfl⟩
  · exact ⟨rfl, rfl⟩
  · exact rfl

def twoQuotes : SimulationScenario :=
  { pastTrade with
    orderActions := twoQuotesActions
    orderActions_sorted := twoQuotesActions_sorted
    orderActions_lineage := twoQuotesActions_lineage }

theorem run_unmatched_iff_twoQuotes : ∃ results : List SimulatedScenarioOrderResult,
    AssignedOnce twoQuotes results ∧ Assignable twoQuotes (keptActions results) := by
  obtain ⟨run, hrun⟩ := rain_run twoQuotes (by decide +kernel)
  obtain ⟨settings, hreaches⟩ := reachesCheck_of_run hrun
  obtain ⟨hassigned, hreturns, -⟩ := run_unmatched_iff hreaches
  exact ⟨run.orderResults, hassigned, hreturns.mp hrun⟩

/-- The market of the quote is closed, so that the quote is rejected. -/
def closedRainRunner : DeterministicScenarioRunner := { rainRunner with marketStatus := .closed }

/-- The error of a call that raises. -/
def raisedError {α : Type} : Result α → Option PyError
  | .ok _ => none
  | .error e => some e

theorem eq_error_of_raisedError {α : Type} {r : Result α} {e : PyError} (h : raisedError r = some e) :
    r = .error e := by
  cases r with
  | ok a => cases h
  | error e' => rw [Option.some_inj.mp h]

/-- **A rejected order uses no cancel.** There is one intent and one cancel, which fits it, and the run raises for an
    unmatched cancel because the exchange rejects the intent. -/
theorem closedMarket_unmatched :
    closedRainRunner.run noParameters defaultContext pastTrade = .error unmatchedCancelError ∧
      Assignable pastTrade (orderIntentActions pastTrade.orderActions) := by
  refine ⟨eq_error_of_raisedError (by decide +kernel), fun _ => ⟨0, 10, .orderIntent RiskEngine.quoteTwo⟩, ?_⟩
  have honly : ∀ cancel ∈ cancelRequestActions pastTrade.orderActions,
      cancel = ⟨1, 20, .cancelOrderRequest rainCancel⟩ := by
    intro cancel hcancel
    exact List.mem_singleton.mp hcancel
  constructor
  · intro cancel hcancel
    exact List.mem_singleton.mpr rfl
  · intro cancel hcancel
    rw [honly cancel hcancel]
    exact ⟨RiskEngine.quoteTwo, rainCancel, rfl, rfl, by decide, rfl, rfl⟩
  · intro c hc d hd heq
    rw [honly c hc, honly d hd]

end Scenarios
end Pmrp
