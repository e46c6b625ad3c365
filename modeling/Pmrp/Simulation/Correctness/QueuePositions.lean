import Pmrp.Simulation.Correctness.MaximalFills
import Pmrp.Simulation.QueueModels

/-!
# `Simulation.Correctness.QueuePositions` — the queue models agree with the fill models

An order crosses the spread when the touch fill model reaches a level for it (`crossesSpread_iff`). One that rests gets
no fill, and the volume ahead of it is what an order of the other side at its price is filled with
(`sameSideVolumeAhead_eq`).
-/

namespace Pmrp
namespace QueueModels

open FillModels

variable {snapshot : OrderBookSnapshot} {side : Side} {price quantity : ℚ}

/-- The side of the orders that fill against an order of this side. -/
def opposite : Side → Side
  | .buy => .sell
  | .sell => .buy

/-- A sorted side is reached exactly when its best level is. -/
theorem openLevels_eq_nil_iff {levels : List OrderBookLevel} (hsorted : BestFirst side levels) :
    openLevels side price true levels = [] ↔ ∀ level ∈ levels.head?, ¬AtOrBetter side price level.price := by
  cases levels with
  | nil => exact iff_of_true rfl fun level hlevel => absurd hlevel (Option.not_mem_none level)
  | cons level levels =>
      by_cases hreached : isExecutable side price level.price true = true
      · refine iff_of_false ?_ fun hnone => hnone level rfl (isExecutable_touch.mp hreached)
        rw [openLevels_cons_of_pos hreached]
        exact List.cons_ne_nil _ _
      · refine iff_of_true (openLevels_eq_nil hsorted (by simpa using hreached)) ?_
        rintro _ ⟨⟩ hatOrBetter
        exact hreached (isExecutable_touch.mpr hatOrBetter)

theorem crossesSpread_eq_false : crossesSpread snapshot side price = false ↔
    ∀ level ∈ (oppositeSideLevels snapshot side).head?, ¬AtOrBetter side price level.price := by
  cases side with
  | buy => cases h : snapshot.asks <;> simp [crossesSpread, bestPrice, oppositeSideLevels, AtOrBetter, h]
  | sell => cases h : snapshot.bids <;> simp [crossesSpread, bestPrice, oppositeSideLevels, AtOrBetter, h]

/-- An order crosses the spread when its limit reaches a level of the other side. -/
theorem crossesSpread_iff : crossesSpread snapshot side price = true ↔
    ∃ level ∈ oppositeSideLevels snapshot side, AtOrBetter side price level.price := by
  have hnone := @openLevels_eq_nil_iff side price _ (bestFirst_oppositeSideLevels snapshot side)
  rw [← crossesSpread_eq_false, openLevels, List.filter_eq_nil_iff] at hnone
  rw [← Bool.not_eq_false, ← hnone]
  simp only [isExecutable_touch, not_forall, not_not, exists_prop]

/-- The volume ahead is what the other side could take at the price. -/
theorem sameSideVolumeAhead_eq (snapshot : OrderBookSnapshot) (side : Side) (price : ℚ) :
    sameSideVolumeAhead .exact snapshot side price =
      totalQuantity (openLevels (opposite side) price true (oppositeSideLevels snapshot (opposite side))) := by
  cases side with
  | buy => rw [sameSideVolumeAhead, DecimalContext.exact_sum]; rfl
  | sell => rw [sameSideVolumeAhead, DecimalContext.exact_sum]; rfl

theorem validateInputs_eq_ok {u : Unit} :
    validateInputs snapshot price quantity = .ok u ↔ snapshot.isValid = true ∧ 0 ≤ price ∧ 0 < quantity := by
  simp only [validateInputs, bind_eq_ok, raiseIf_eq_ok, exists_const, Bool.not_eq_false, not_lt, not_le]

/-- The estimate of the volume-ahead model, where the inputs are valid. -/
def volumeAheadEstimate (snapshot : OrderBookSnapshot) (side : Side) (price quantity : ℚ) : QueueEstimate where
  side := side
  price := price
  quantity := quantity
  volumeAhead := if crossesSpread snapshot side price then 0 else sameSideVolumeAhead .exact snapshot side price
  queuePosition := if crossesSpread snapshot side price then 0 else sameSideVolumeAhead .exact snapshot side price
  crossesSpread := crossesSpread snapshot side price
  restsOnBook := !crossesSpread snapshot side price

theorem volumeAhead_estimate_eq_ok {estimate : QueueEstimate} :
    (volumeAheadQueueModel .exact).estimate snapshot side price quantity = .ok estimate ↔
      (snapshot.isValid = true ∧ 0 ≤ price ∧ 0 < quantity) ∧
        estimate = volumeAheadEstimate snapshot side price quantity := by
  change (validateInputs snapshot price quantity >>= fun _ =>
    pure (volumeAheadEstimate snapshot side price quantity)) = .ok estimate ↔ _
  simp only [bind_eq_ok, validateInputs_eq_ok, exists_const, pure_eq_ok, eq_comm (a := estimate)]

/-- An order that rests gets no fill from the book. -/
theorem touchFill_of_rests (hvalid : snapshot.isValid = true) (hprice : 0 ≤ price) (hquantity : 0 < quantity)
    (hrests : crossesSpread snapshot side price = false) :
    ∃ fill, (touchFillModel .exact).evaluate snapshot side price quantity = .ok fill ∧ fill.filledQuantity = 0 := by
  obtain ⟨fill, hfill, hmaximal⟩ :=
    estimateBookFill_maximal "simulation_touch" hvalid hprice hquantity side true
  refine ⟨fill, hfill, ?_⟩
  rw [hmaximal.filled_eq, (openLevels_eq_nil_iff (bestFirst_oppositeSideLevels snapshot side)).mpr
    (crossesSpread_eq_false.mp hrests)]
  exact min_eq_right hquantity.le

/-- An order of the other side at the price fills the volume ahead first. -/
theorem touchFill_volumeAhead (hvalid : snapshot.isValid = true) (hprice : 0 ≤ price) {taken : ℚ} (htaken : 0 < taken) :
    ∃ fill, (touchFillModel .exact).evaluate snapshot (opposite side) price taken = .ok fill ∧
      fill.filledQuantity = min taken (sameSideVolumeAhead .exact snapshot side price) := by
  obtain ⟨fill, hfill, hmaximal⟩ :=
    estimateBookFill_maximal "simulation_touch" hvalid hprice htaken (opposite side) true
  exact ⟨fill, hfill, by rw [hmaximal.filled_eq, sameSideVolumeAhead_eq]⟩

/-- With quantities that add without rounding, the volume-ahead model estimates every valid order; it crosses exactly
    when its price reaches a level of the other side. One that rests gets nothing from the touch fill model, and an
    order of the other side at its price gets from it what stands ahead and no more. -/
theorem queue_position (snapshot : OrderBookSnapshot) (side : Side) (price quantity : ℚ) :
    ((∃ estimate, (volumeAheadQueueModel .exact).estimate snapshot side price quantity = .ok estimate) ↔
        snapshot.isValid = true ∧ 0 ≤ price ∧ 0 < quantity) ∧
      ∀ estimate, (volumeAheadQueueModel .exact).estimate snapshot side price quantity = .ok estimate →
        (estimate.crossesSpread = true ↔
            ∃ level ∈ oppositeSideLevels snapshot side, AtOrBetter side price level.price) ∧
          (estimate.restsOnBook = true →
            (∃ fill, (touchFillModel .exact).evaluate snapshot side price quantity = .ok fill ∧
                fill.filledQuantity = 0) ∧
              ∀ taken, 0 < taken →
                ∃ fill, (touchFillModel .exact).evaluate snapshot (opposite side) price taken = .ok fill ∧
                  fill.filledQuantity = min taken estimate.volumeAhead) := by
  constructor
  · constructor
    · rintro ⟨estimate, hestimate⟩
      exact (volumeAhead_estimate_eq_ok.mp hestimate).1
    · exact fun hinputs => ⟨_, volumeAhead_estimate_eq_ok.mpr ⟨hinputs, rfl⟩⟩
  · intro estimate hestimate
    obtain ⟨⟨hvalid, hprice, hquantity⟩, rfl⟩ := volumeAhead_estimate_eq_ok.mp hestimate
    refine ⟨crossesSpread_iff, fun hrestsOnBook => ?_⟩
    have hrests : crossesSpread snapshot side price = false := by
      simpa [volumeAheadEstimate] using hrestsOnBook
    have hahead : (volumeAheadEstimate snapshot side price quantity).volumeAhead =
        sameSideVolumeAhead .exact snapshot side price := by
      simp [volumeAheadEstimate, hrests]
    rw [hahead]
    exact ⟨touchFill_of_rests hvalid hprice hquantity hrests, fun taken => touchFill_volumeAhead hvalid hprice⟩

end QueueModels
end Pmrp
