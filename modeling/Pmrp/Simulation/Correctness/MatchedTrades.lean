import Pmrp.Simulation.Scenarios

/-!
# `Simulation.Correctness.MatchedTrades` — the trades that fill a resting order

The loop of the run and the loop of the disconnect pass over every event that cannot fill the order, and stop when
the order is full. Each loop is described by the events that it takes something from (`restingFillEvents`,
`countedTrades`): leaving out other events changes nothing.
-/

namespace Pmrp
namespace Scenarios

variable {ctx : DecimalContext} {intent : OrderIntent} {event : ScheduledMarketEvent}
  {events : List ScheduledMarketEvent}

/-- The quantity of an event that can fill the order. -/
def matchedTrade (intent : OrderIntent) (event : ScheduledMarketEvent) : Option ℚ :=
  match event.event with
  | .trade trade => if tradeFillsRestingIntent trade intent then some trade.quantity else none
  | _ => none

theorem matchedTrade_pos {quantity : ℚ} (h : matchedTrade intent event = some quantity) : 0 < quantity := by
  unfold matchedTrade at h
  split at h
  · rename_i trade _
    split_ifs at h
    cases h
    exact trade.quantity_pos
  · cases h

/-! ## The loop of the run -/

theorem restingFills_none (h : matchedTrade intent event = none) (remaining : ℚ) :
    restingFills ctx intent remaining (event :: events) = restingFills ctx intent remaining events := by
  unfold matchedTrade at h
  cases hevent : event.event with
  | snapshot s => simp only [restingFills, hevent]
  | delta d => simp only [restingFills, hevent]
  | trade trade =>
      rw [hevent] at h
      by_cases hfills : tradeFillsRestingIntent trade intent = true
      · simp only [hfills, if_true] at h
        cases h
      · simp only [restingFills, hevent, hfills, if_false, Bool.false_eq_true]

theorem restingFills_some {quantity : ℚ} (h : matchedTrade intent event = some quantity) (remaining : ℚ) :
    ∃ component : SimulatedFillComponent, component.quantity = min remaining quantity ∧
      ∀ events, restingFills ctx intent remaining (event :: events) =
        if min remaining quantity = 0 then (remaining, [])
        else if ctx.sub remaining (min remaining quantity) = 0 then
          (ctx.sub remaining (min remaining quantity), [component])
        else
          ((restingFills ctx intent (ctx.sub remaining (min remaining quantity)) events).1,
            component :: (restingFills ctx intent (ctx.sub remaining (min remaining quantity)) events).2) := by
  unfold matchedTrade at h
  cases hevent : event.event with
  | snapshot s => rw [hevent] at h; cases h
  | delta d => rw [hevent] at h; cases h
  | trade trade =>
      rw [hevent] at h
      by_cases hfills : tradeFillsRestingIntent trade intent = true
      · simp only [hfills, if_true] at h
        cases h
        refine ⟨⟨trade.price, min remaining trade.quantity, .maker⟩, rfl, fun events => ?_⟩
        simp only [restingFills, hevent, hfills, if_true]
      · simp only [hfills, Bool.false_eq_true, if_false] at h
        cases h

/-- The events that fill the order in the run, each with what it fills. -/
def restingFillEvents (ctx : DecimalContext) (intent : OrderIntent) :
    ℚ → List ScheduledMarketEvent → List (ScheduledMarketEvent × ℚ)
  | _, [] => []
  | remaining, event :: events =>
      match matchedTrade intent event with
      | none => restingFillEvents ctx intent remaining events
      | some quantity =>
          if min remaining quantity = 0 then []
          else if ctx.sub remaining (min remaining quantity) = 0 then [(event, min remaining quantity)]
          else (event, min remaining quantity) ::
            restingFillEvents ctx intent (ctx.sub remaining (min remaining quantity)) events

theorem mem_of_mem_restingFillEvents {remaining : ℚ} {fill : ScheduledMarketEvent × ℚ}
    (h : fill ∈ restingFillEvents ctx intent remaining events) : fill.1 ∈ events := by
  induction events generalizing remaining with
  | nil => cases h
  | cons event events ih =>
      rw [restingFillEvents] at h
      split at h
      · exact List.mem_cons_of_mem event (ih h)
      · split_ifs at h
        · cases h
        · rw [List.mem_singleton.mp h]
          exact List.mem_cons_self
        · rcases List.mem_cons.mp h with rfl | h
          · exact List.mem_cons_self
          · exact List.mem_cons_of_mem event (ih h)

theorem restingFills_zero : restingFills ctx intent 0 events = (0, []) := by
  induction events with
  | nil => rfl
  | cons event events ih =>
      cases h : matchedTrade intent event with
      | none => rw [restingFills_none h, ih]
      | some quantity =>
          obtain ⟨component, -, hfills⟩ := @restingFills_some ctx intent event quantity h 0
          rw [hfills, if_pos (min_eq_left (matchedTrade_pos h).le)]

/-- Only the events that fill the order matter to the loop of the run. -/
theorem restingFills_filter {keep : ScheduledMarketEvent → Bool} {remaining : ℚ}
    (h : ∀ fill ∈ restingFillEvents ctx intent remaining events, keep fill.1 = true) :
    restingFills ctx intent remaining (events.filter keep) = restingFills ctx intent remaining events := by
  induction events generalizing remaining with
  | nil => rfl
  | cons event events ih =>
      cases hmatched : matchedTrade intent event with
      | none =>
          simp only [restingFillEvents, hmatched] at h
          rw [restingFills_none hmatched, List.filter_cons]
          split_ifs
          · rw [restingFills_none hmatched, ih h]
          · exact ih h
      | some quantity =>
          simp only [restingFillEvents, hmatched] at h
          by_cases hstop : min remaining quantity = 0
          · -- nothing remains, so whichever trade comes next ends the loop
            have hzero : remaining = 0 := by
              rcases min_choice remaining quantity with hmin | hmin
              · exact hmin.symm.trans hstop
              · exact absurd (hmin.symm.trans hstop) (matchedTrade_pos hmatched).ne'
            rw [hzero, restingFills_zero, restingFills_zero]
          · rw [if_neg hstop] at h
            have hkept : keep event = true := by
              split_ifs at h
              · exact h _ List.mem_cons_self
              · exact h _ List.mem_cons_self
            rw [List.filter_cons_of_pos hkept]
            obtain ⟨component, -, hfills⟩ := @restingFills_some ctx intent event quantity hmatched remaining
            rw [hfills, hfills, if_neg hstop, if_neg hstop]
            by_cases hfull : ctx.sub remaining (min remaining quantity) = 0
            · rw [if_pos hfull, if_pos hfull]
            · rw [if_neg hfull] at h
              rw [if_neg hfull, if_neg hfull, ih fun fill hfill => h fill (List.mem_cons_of_mem _ hfill)]

/-! ## The loop of the disconnect -/

theorem restingFillQuantity_none (h : matchedTrade intent event = none) (orderQuantity filled : ℚ) :
    restingFillQuantity ctx intent orderQuantity filled (event :: events) =
      restingFillQuantity ctx intent orderQuantity filled events := by
  unfold matchedTrade at h
  cases hevent : event.event with
  | snapshot s => simp only [restingFillQuantity, hevent]
  | delta d => simp only [restingFillQuantity, hevent]
  | trade trade =>
      rw [hevent] at h
      by_cases hfills : tradeFillsRestingIntent trade intent = true
      · simp only [hfills, if_true] at h
        cases h
      · simp only [restingFillQuantity, hevent, hfills, if_false, Bool.false_eq_true]

theorem restingFillQuantity_some {quantity : ℚ} (h : matchedTrade intent event = some quantity)
    (orderQuantity filled : ℚ) :
    restingFillQuantity ctx intent orderQuantity filled (event :: events) =
      if orderQuantity ≤ ctx.add filled (min (ctx.sub orderQuantity filled) quantity) then orderQuantity
      else restingFillQuantity ctx intent orderQuantity
        (ctx.add filled (min (ctx.sub orderQuantity filled) quantity)) events := by
  unfold matchedTrade at h
  cases hevent : event.event with
  | snapshot s => rw [hevent] at h; cases h
  | delta d => rw [hevent] at h; cases h
  | trade trade =>
      rw [hevent] at h
      by_cases hfills : tradeFillsRestingIntent trade intent = true
      · simp only [hfills, if_true] at h
        cases h
        simp only [restingFillQuantity, hevent, hfills, if_true]
      · simp only [hfills, Bool.false_eq_true, if_false] at h
        cases h

/-- The events that the loop of the disconnect counts. -/
def countedTrades (ctx : DecimalContext) (intent : OrderIntent) (orderQuantity : ℚ) :
    ℚ → List ScheduledMarketEvent → List ScheduledMarketEvent
  | _, [] => []
  | filled, event :: events =>
      match matchedTrade intent event with
      | none => countedTrades ctx intent orderQuantity filled events
      | some quantity =>
          if orderQuantity ≤ ctx.add filled (min (ctx.sub orderQuantity filled) quantity) then [event]
          else event :: countedTrades ctx intent orderQuantity
            (ctx.add filled (min (ctx.sub orderQuantity filled) quantity)) events

theorem mem_of_mem_countedTrades {orderQuantity filled : ℚ} {counted : ScheduledMarketEvent}
    (h : counted ∈ countedTrades ctx intent orderQuantity filled events) : counted ∈ events := by
  induction events generalizing filled with
  | nil => cases h
  | cons event events ih =>
      rw [countedTrades] at h
      split at h
      · exact List.mem_cons_of_mem event (ih h)
      · split_ifs at h
        · rw [List.mem_singleton.mp h]
          exact List.mem_cons_self
        · rcases List.mem_cons.mp h with rfl | h
          · exact List.mem_cons_self
          · exact List.mem_cons_of_mem event (ih h)

/-- Only they matter to it. -/
theorem restingFillQuantity_filter {keep : ScheduledMarketEvent → Bool} {orderQuantity filled : ℚ}
    (h : ∀ counted ∈ countedTrades ctx intent orderQuantity filled events, keep counted = true) :
    restingFillQuantity ctx intent orderQuantity filled (events.filter keep) =
      restingFillQuantity ctx intent orderQuantity filled events := by
  induction events generalizing filled with
  | nil => rfl
  | cons event events ih =>
      cases hmatched : matchedTrade intent event with
      | none =>
          simp only [countedTrades, hmatched] at h
          rw [restingFillQuantity_none hmatched, List.filter_cons]
          split_ifs
          · rw [restingFillQuantity_none hmatched, ih h]
          · exact ih h
      | some quantity =>
          simp only [countedTrades, hmatched] at h
          by_cases hfull : orderQuantity ≤ ctx.add filled (min (ctx.sub orderQuantity filled) quantity)
          · rw [if_pos hfull] at h
            rw [List.filter_cons_of_pos (h event List.mem_cons_self), restingFillQuantity_some hmatched,
              restingFillQuantity_some hmatched, if_pos hfull, if_pos hfull]
          · rw [if_neg hfull] at h
            rw [List.filter_cons_of_pos (h event List.mem_cons_self), restingFillQuantity_some hmatched,
              restingFillQuantity_some hmatched, if_neg hfull, if_neg hfull,
              ih fun counted hcounted => h counted (List.mem_cons_of_mem event hcounted)]

end Scenarios
end Pmrp
