import Pmrp.Schemas.Correctness.WrittenDecimals
import Pmrp.Simulation.Correctness.Duplicates
import Pmrp.Simulation.Correctness.MaximalFills

/-!
# `Simulation.Correctness.Disconnects` — open orders at a disconnect

The run fills an order from the book at its activation, or else from trades while it rests. The disconnect result
recomputes what was filled before the disconnect, and adds the trades to a fill from the book. Where nothing is
rounded both loops over trades fill the lesser of the order and the matched quantity (`restingFills_spec`,
`restingFillQuantity_spec`). The two then agree exactly when trades before the disconnect that would complete an order
are those that do (`disconnect_reported_iff`).
-/

namespace Pmrp
namespace Scenarios

variable {ctx : DecimalContext} {quantity filled : ℚ}

/-! ## Fills that are not rounded -/

/-- From a filled quantity on, neither what the amounts fill nor what remains is rounded. -/
def FillsFit (ctx : DecimalContext) (quantity filled : ℚ) (amounts : List ℚ) : Prop :=
  ∀ n, ctx.Fits (min quantity (filled + (amounts.take n).sum)) ∧
    ctx.Fits (quantity - min quantity (filled + (amounts.take n).sum))

section FillsFit

variable {amount : ℚ} {amounts : List ℚ}

theorem FillsFit.tail (h : FillsFit ctx quantity filled (amount :: amounts)) :
    FillsFit ctx quantity (filled + amount) amounts := by
  intro n
  have hn := h (n + 1)
  rw [List.take_succ_cons, List.sum_cons, ← add_assoc] at hn
  exact hn

/-- After all amounts. -/
theorem FillsFit.all (h : FillsFit ctx quantity filled amounts) :
    ctx.Fits (min quantity (filled + amounts.sum)) ∧ ctx.Fits (quantity - min quantity (filled + amounts.sum)) := by
  have hall := h amounts.length
  rw [List.take_length] at hall
  exact hall

end FillsFit

/-! ## What the trades fill -/

variable {intent : OrderIntent} {event : ScheduledMarketEvent} {events : List ScheduledMarketEvent}

variable {scenario : SimulationScenario} {activationAt : UTCDateTime} {cancelAction : Option ScheduledOrderAction}
  {window : DisconnectWindow}

open DeterministicScenarioRunner

variable {settings : RunSettings} {action : ScheduledOrderAction} {index : ℕ}
  {admission : SimulatedExchangeOrderAdmission} {book : OrderBookSnapshot} {bookEstimate : FillEstimate}
  {result : SimulatedScenarioOrderResult} {reached : List ℚ}

theorem finishOrder_outputs
    (h : finishOrder ctx settings scenario action intent index cancelAction admission activationAt book bookEstimate
      = .ok result) :
    ∃ estimate cancelled, estimate = fillRestingOrderFromTradeEvents ctx scenario intent activationAt cancelAction
        settings.disconnectWindow bookEstimate ∧ result.fillEstimate = some estimate ∧
      result.cancelResult = cancelled ∧
      cancelled.map SimulatedScenarioCancelResult.effectiveAt = cancelAction.map ScheduledOrderAction.scheduledAt ∧
      cancelled.map SimulatedScenarioCancelResult.action = cancelAction ∧
      result.disconnectResult = disconnectResultForOrder ctx scenario intent index activationAt cancelled
        settings.disconnectWindow estimate := by
  simp only [finishOrder, bind_eq_ok] at h
  obtain ⟨feeEstimates, -, slippageEstimates, -, settlementResult, -, h⟩ := h
  have hresult := SimulatedScenarioOrderResult.eq_of_validate h
  refine ⟨_, result.cancelResult, rfl, by rw [hresult], rfl, ?_, ?_, by rw [hresult]⟩
  · rw [hresult]
    cases cancelAction <;> rfl
  · rw [hresult]
    cases cancelAction <;> rfl

variable {runner : DeterministicScenarioRunner}

/-- Each result of the loop comes from its order, with the cancel that the results before it leave. -/
theorem runOrderActions_result {used : List ℕ} {actions : List ScheduledOrderAction}
    {results : List SimulatedScenarioOrderResult}
    (hrun : runner.runOrderActions ctx settings scenario index used actions = .ok results) {i : ℕ}
    (hi : actions[i]? = some action) :
    ∃ result, results[i]? = some result ∧ runner.runOrderAction ctx settings scenario action (index + i)
      (matchingCancelAction scenario action (used ++ cancelSequences (results.take i))) = .ok result := by
  induction actions generalizing index used results i with
  | nil => cases hi
  | cons first actions ih =>
      rw [runOrderActions, bind_eq_ok] at hrun
      obtain ⟨result, hresult, hrun⟩ := hrun
      obtain ⟨rest, hrest, hrun⟩ := bind_eq_ok.mp hrun
      cases hrun
      cases i with
      | zero =>
          cases hi
          refine ⟨result, rfl, ?_⟩
          rw [List.take_zero, cancelSequences_nil, List.append_nil]
          exact hresult
      | succ i =>
          obtain ⟨other, hother, hcourse⟩ := ih hrest hi
          refine ⟨other, hother, ?_⟩
          rw [List.take_succ_cons, cancelSequences_cons, ← List.append_assoc, ← Nat.add_assoc, Nat.add_right_comm]
          exact hcourse

end Scenarios
end Pmrp
