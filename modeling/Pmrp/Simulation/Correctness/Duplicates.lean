import Pmrp.Simulation.Correctness.MatchedTrades
import Pmrp.Simulation.Correctness.NoLookAhead

/-!
# `Simulation.Correctness.Duplicates` — market events that are delivered twice

A loop over market events drops the events outside its time window first and the copies after that. Without the copies
it sees those of the same events whose first copy lies in the window too (`distinctEvents_firstCopies`). The others
matter when they change the book or fill the order; where no loop of an order meets such an event, the run does not
depend on the copies (`duplicates_do_not_matter`).
-/

namespace Pmrp
namespace Scenarios

/-! ## Windows and copies -/

section Lists

variable {α κ : Type} [DecidableEq κ] {key : α → κ} {looksAt : α → Bool} {seen : List κ} {as : List α}

theorem mem_of_mem_unseen {a : α} (h : a ∈ unseen key seen as) : a ∈ as ∧ key a ∉ seen := by
  induction as generalizing seen with
  | nil => cases h
  | cons b as ih =>
      rw [unseen] at h
      split_ifs at h with hb
      · obtain ⟨hmem, hkey⟩ := ih h
        exact ⟨List.mem_cons_of_mem b hmem, hkey⟩
      · rcases List.mem_cons.mp h with rfl | h
        · exact ⟨List.mem_cons_self, hb⟩
        · obtain ⟨hmem, hkey⟩ := ih h
          exact ⟨List.mem_cons_of_mem b hmem, fun hin => hkey (List.mem_cons_of_mem _ hin)⟩

/-- No key stands twice, so nothing is dropped again. -/
theorem unseen_filter_unseen (looksAt : α → Bool) (seen₁ seen₂ : List κ) (hsub : ∀ k ∈ seen₂, k ∈ seen₁) :
    unseen key seen₂ ((unseen key seen₁ as).filter looksAt) = (unseen key seen₁ as).filter looksAt := by
  induction as generalizing seen₁ seen₂ with
  | nil => rfl
  | cons a as ih =>
      rw [unseen]
      split_ifs with ha
      · exact ih seen₁ seen₂ hsub
      · rw [List.filter_cons]
        split_ifs with hlooks
        · rw [unseen, if_neg fun hin => ha (hsub _ hin), ih]
          intro k hk
          rcases List.mem_cons.mp hk with rfl | hk
          · exact List.mem_cons_self
          · exact List.mem_cons_of_mem _ (hsub k hk)
        · exact ih _ _ fun k hk => List.mem_cons_of_mem _ (hsub k hk)

/-- Dropping copies before the window is dropping, after it, the elements whose first copy the window does not hold. -/
theorem filter_unseen_filter {keep : α → Bool} (seen₁ seen₂ : List κ) (hsub : ∀ k ∈ seen₂, k ∈ seen₁)
    (hpassed : ∀ a ∈ as, key a ∈ seen₁ → key a ∉ seen₂ → keep a = false)
    (hfirst : ∀ a ∈ as, ∀ b ∈ unseen key seen₁ as, key b = key a → keep a = looksAt b) :
    (unseen key seen₂ (as.filter looksAt)).filter keep = (unseen key seen₁ as).filter looksAt := by
  induction as generalizing seen₁ seen₂ with
  | nil => rfl
  | cons a as ih =>
      have htail : ∀ c ∈ as, c ∈ a :: as := fun c hc => List.mem_cons_of_mem a hc
      have hgrow : ∀ k ∈ key a :: seen₂, k ∈ key a :: seen₁ := by
        intro k hk
        rcases List.mem_cons.mp hk with rfl | hk
        · exact List.mem_cons_self
        · exact List.mem_cons_of_mem _ (hsub k hk)
      by_cases ha : key a ∈ seen₁
      · -- a copy: if the loop takes it, no copy was in the window before, and `keep` drops it
        have hunseen : unseen key seen₁ (a :: as) = unseen key seen₁ as := by rw [unseen, if_pos ha]
        rw [hunseen] at hfirst ⊢
        have hrest := fun c hc => hpassed c (htail c hc)
        have hlater := fun c hc => hfirst c (htail c hc)
        rw [List.filter_cons]
        split_ifs
        · rw [unseen]
          split_ifs with hseen
          · exact ih seen₁ seen₂ hsub hrest hlater
          · rw [List.filter_cons_of_neg (by rw [hpassed a List.mem_cons_self ha hseen]; exact Bool.false_ne_true)]
            refine ih seen₁ (key a :: seen₂) ?_ (fun c hc hin hnot => ?_) hlater
            · intro k hk
              rcases List.mem_cons.mp hk with rfl | hk
              · exact ha
              · exact hsub k hk
            · exact hrest c hc hin fun h => hnot (List.mem_cons_of_mem _ h)
        · exact ih seen₁ seen₂ hsub hrest hlater
      · -- a first copy: the window keeps it, or `keep` drops every copy of it
        have hunseen : unseen key seen₁ (a :: as) = a :: unseen key (key a :: seen₁) as := by rw [unseen, if_neg ha]
        rw [hunseen] at hfirst ⊢
        have hkeep : keep a = looksAt a := hfirst a List.mem_cons_self a List.mem_cons_self rfl
        have hlater := fun c hc b hb => hfirst c (htail c hc) b (List.mem_cons_of_mem a hb)
        by_cases hlooks : looksAt a = true
        · rw [List.filter_cons_of_pos hlooks, List.filter_cons_of_pos hlooks, unseen,
            if_neg fun hin => ha (hsub _ hin), List.filter_cons_of_pos (hkeep.trans hlooks)]
          refine congrArg (a :: ·) (ih _ _ hgrow (fun c hc hin hnot => ?_) hlater)
          have hne : key c ≠ key a := fun heq => hnot (heq ▸ List.mem_cons_self)
          exact hpassed c (htail c hc) ((List.mem_cons.mp hin).resolve_left hne) fun h =>
            hnot (List.mem_cons_of_mem _ h)
        · rw [List.filter_cons_of_neg hlooks, List.filter_cons_of_neg hlooks]
          refine ih _ _ (fun k hk => List.mem_cons_of_mem _ (hsub k hk)) (fun c hc hin hnot => ?_) hlater
          rcases List.mem_cons.mp hin with heq | hin
          · rw [hfirst c (htail c hc) a List.mem_cons_self heq.symm]
            exact Bool.eq_false_iff.mpr hlooks
          · exact hpassed c (htail c hc) hin hnot

theorem unseen_sublist : List.Sublist (unseen key seen as) as := by
  induction as generalizing seen with
  | nil => exact List.Sublist.refl _
  | cons a as ih =>
      rw [unseen]
      split_ifs
      · exact ih.cons a
      · exact ih.cons_cons a

theorem uniqueKeys_unseen : Dictionary.UniqueKeys key (unseen key seen as) := by
  induction as generalizing seen with
  | nil => exact List.Pairwise.nil
  | cons a as ih =>
      rw [unseen]
      split_ifs
      · exact ih
      · refine List.pairwise_cons.mpr ⟨fun b hb heq => ?_, ih⟩
        exact (mem_of_mem_unseen hb).2 (heq ▸ List.mem_cons_self)

end Lists

/-- The first copies: what is left when every later copy is removed. -/
def firstCopies (events : List ScheduledMarketEvent) : List ScheduledMarketEvent :=
  unseen ScheduledMarketEvent.payloadHash [] events

/-- The window of a loop holds the first copy of the event. -/
def FirstSeen (looksAt : ScheduledMarketEvent → Bool) (events : List ScheduledMarketEvent)
    (event : ScheduledMarketEvent) : Prop :=
  ∀ first ∈ firstCopies events, first.payloadHash = event.payloadHash → looksAt first = true

instance (looksAt : ScheduledMarketEvent → Bool) (events : List ScheduledMarketEvent) (event : ScheduledMarketEvent) :
    Decidable (FirstSeen looksAt events event) :=
  inferInstanceAs (Decidable (∀ first ∈ firstCopies events, _ → _))

/-- **What a loop sees without the copies.** -/
theorem distinctEvents_firstCopies {looksAt : ScheduledMarketEvent → Bool} {events : List ScheduledMarketEvent} :
    distinctEvents looksAt (firstCopies events) =
      (distinctEvents looksAt events).filter fun event => decide (FirstSeen looksAt events event) := by
  have hfirst : distinctEvents looksAt (firstCopies events) = (firstCopies events).filter looksAt :=
    unseen_filter_unseen looksAt [] [] fun k hk => hk
  have hunique : Dictionary.UniqueKeys ScheduledMarketEvent.payloadHash (firstCopies events) := uniqueKeys_unseen
  rw [hfirst]
  refine (filter_unseen_filter [] [] (fun k hk => hk) (fun _ _ hin => absurd hin List.not_mem_nil) ?_).symm
  intro event _ first hmem hhash
  rw [Bool.eq_iff_iff, decide_eq_true_eq]
  constructor
  · exact fun hseen => hseen first hmem hhash
  · intro hlooks other hother hsame
    have heq : other = first := Option.some.inj
      ((hunique.lookup_eq_some.mpr ⟨hother, hsame⟩).symm.trans (hunique.lookup_eq_some.mpr ⟨hmem, hhash⟩))
    rw [heq]
    exact hlooks

/-! ## The loops of one order -/

/-- The scenario from which every market event with an earlier copy is removed. -/
def withoutDuplicates (scenario : SimulationScenario) : SimulationScenario :=
  { scenario with
    marketEvents := firstCopies scenario.marketEvents
    marketEvents_sorted := scenario.marketEvents_sorted.sublist unseen_sublist
    marketEvents_lineage := fun event hevent =>
      scenario.marketEvents_lineage event (mem_of_mem_unseen hevent).1 }

variable {ctx : DecimalContext} {scenario : SimulationScenario} {intent : OrderIntent}
  {activationAt : UTCDateTime} {cancelAction : Option ScheduledOrderAction}
  {disconnectWindow : Option DisconnectWindow} {bookEstimate : FillEstimate}

/-! ### The book -/

def changesBook (event : ScheduledMarketEvent) : Bool :=
  match event.event with
  | .trade _ => false
  | _ => true

theorem applyScheduledMarketEvent_of_not_changesBook {event : ScheduledMarketEvent}
    (h : ¬changesBook event = true) (snapshot : OrderBookSnapshot) :
    applyScheduledMarketEvent snapshot event = .ok snapshot := by
  unfold changesBook at h
  cases hevent : event.event with
  | snapshot next => rw [hevent] at h; exact absurd rfl h
  | delta delta => rw [hevent] at h; exact absurd rfl h
  | trade trade => rw [applyScheduledMarketEvent, hevent]; rfl

/-- The window of the projection through a time. -/
def projectedThrough (through : Option UTCDateTime) (event : ScheduledMarketEvent) : Bool :=
  decide (∀ t ∈ through, event.scheduledAt ≤ t)

/-- The projection changes the book only by events whose first copies it looks at. -/
def BookCopiesUnseen (scenario : SimulationScenario) (through : Option UTCDateTime) : Prop :=
  ∀ event ∈ distinctEvents (projectedThrough through) scenario.marketEvents, changesBook event = true →
    FirstSeen (projectedThrough through) scenario.marketEvents event

/-- Only the events that change the book matter to its projection. -/
theorem foldlM_apply_filter {keep : ScheduledMarketEvent → Bool} {events : List ScheduledMarketEvent}
    (h : ∀ event ∈ events, changesBook event = true → keep event = true) (snapshot : OrderBookSnapshot) :
    (events.filter keep).foldlM applyScheduledMarketEvent snapshot =
      events.foldlM applyScheduledMarketEvent snapshot := by
  induction events generalizing snapshot with
  | nil => rfl
  | cons event events ih =>
      have htail : ∀ other ∈ events, changesBook other = true → keep other = true :=
        fun other hother => h other (List.mem_cons_of_mem event hother)
      by_cases hkeep : keep event = true
      · rw [List.filter_cons_of_pos hkeep, List.foldlM_cons, List.foldlM_cons]
        exact congrArg (applyScheduledMarketEvent snapshot event >>= ·) (funext fun next => ih htail next)
      · have hsame : ¬changesBook event = true := fun hchanges => hkeep (h event List.mem_cons_self hchanges)
        rw [List.filter_cons_of_neg hkeep, List.foldlM_cons, applyScheduledMarketEvent_of_not_changesBook hsame,
            ok_bind]
        exact ih htail snapshot

theorem projectBookUntil_withoutDuplicates {through : Option UTCDateTime} (h : BookCopiesUnseen scenario through) :
    projectBookUntil (withoutDuplicates scenario) through = projectBookUntil scenario through := by
  have hevents : distinctEvents (projectedThrough through) (withoutDuplicates scenario).marketEvents = _ :=
    distinctEvents_firstCopies
  unfold projectBookUntil
  show (distinctEvents (projectedThrough through) (withoutDuplicates scenario).marketEvents).foldlM _ _ =
    (distinctEvents (projectedThrough through) scenario.marketEvents).foldlM _ _
  rw [hevents]
  exact foldlM_apply_filter (fun event hevent hchanges => decide_eq_true (h event hevent hchanges)) scenario.initialBook

/-- The final book is that of all events, so it never depends on copies. -/
theorem finalBook_withoutDuplicates :
    projectBookUntil (withoutDuplicates scenario) none = projectBookUntil scenario none := by
  refine projectBookUntil_withoutDuplicates fun _ _ _ _ _ _ => ?_
  exact decide_eq_true fun t ht => absurd ht (Option.not_mem_none t)

/-! ### The fills -/

/-- An order that the book does not fill is filled only by trades whose first copies lie in its fill window. -/
def FillCopiesUnseen (ctx : DecimalContext) (scenario : SimulationScenario) (intent : OrderIntent)
    (activationAt : UTCDateTime) (cancelAction : Option ScheduledOrderAction)
    (disconnectWindow : Option DisconnectWindow) (bookEstimate : FillEstimate) : Prop :=
  ¬bookEstimate.hasFill = true →
    ∀ fill ∈ restingFillEvents ctx intent bookEstimate.remainingQuantity
        (distinctEvents (restingWindow activationAt cancelAction disconnectWindow) scenario.marketEvents),
      FirstSeen (restingWindow activationAt cancelAction disconnectWindow) scenario.marketEvents fill.1

theorem fillRestingOrder_withoutDuplicates
    (h : FillCopiesUnseen ctx scenario intent activationAt cancelAction disconnectWindow bookEstimate) :
    fillRestingOrderFromTradeEvents ctx (withoutDuplicates scenario) intent activationAt cancelAction
        disconnectWindow bookEstimate =
      fillRestingOrderFromTradeEvents ctx scenario intent activationAt cancelAction disconnectWindow
        bookEstimate := by
  have hevents : distinctEvents (restingWindow activationAt cancelAction disconnectWindow)
      (withoutDuplicates scenario).marketEvents = _ := distinctEvents_firstCopies
  unfold fillRestingOrderFromTradeEvents
  rw [hevents]
  by_cases hfill : bookEstimate.hasFill = true
  · rw [if_pos hfill, if_pos hfill]
  · rw [restingFills_filter fun fill hmem => decide_eq_true (h hfill fill hmem)]

/-! ### The disconnect -/

/-- What the disconnect takes as filled from the book. -/
def takerQuantity (estimate : FillEstimate) : ℚ :=
  if estimate.liquidityRole = .taker then estimate.filledQuantity else 0

/-- An order that the book does not fill may be filled as a maker. -/
def MayHaveTaken (bookEstimate : FillEstimate) (taken : ℚ) : Prop :=
  taken = takerQuantity bookEstimate ∨ ¬bookEstimate.hasFill = true ∧ taken = 0

/-- Where a disconnect finds the order open, it counts only trades whose first copies lie before it too. -/
def DisconnectCopiesUnseen (ctx : DecimalContext) (scenario : SimulationScenario) (intent : OrderIntent)
    (activationAt : UTCDateTime) (cancelAction : Option ScheduledOrderAction)
    (disconnectWindow : Option DisconnectWindow) (bookEstimate : FillEstimate) : Prop :=
  ∀ window ∈ disconnectWindow, activationAt < window.disconnectedAt →
    (∀ cancel ∈ cancelAction, window.disconnectedAt < cancel.scheduledAt) →
    ∀ taken, MayHaveTaken bookEstimate taken → taken < bookEstimate.orderQuantity →
      ∀ counted ∈ countedTrades ctx intent (ctx.sub bookEstimate.orderQuantity taken) 0
          (distinctEvents (preDisconnectResting activationAt window.disconnectedAt) scenario.marketEvents),
        FirstSeen (preDisconnectResting activationAt window.disconnectedAt) scenario.marketEvents counted

theorem preDisconnectRestingFillQuantity_withoutDuplicates {disconnectedAt : UTCDateTime} {orderQuantity : ℚ}
    (h : ∀ counted ∈ countedTrades ctx intent orderQuantity 0
        (distinctEvents (preDisconnectResting activationAt disconnectedAt) scenario.marketEvents),
      FirstSeen (preDisconnectResting activationAt disconnectedAt) scenario.marketEvents counted) :
    preDisconnectRestingFillQuantity ctx (withoutDuplicates scenario) intent activationAt disconnectedAt
        orderQuantity =
      preDisconnectRestingFillQuantity ctx scenario intent activationAt disconnectedAt orderQuantity := by
  have hevents : distinctEvents (preDisconnectResting activationAt disconnectedAt)
      (withoutDuplicates scenario).marketEvents = _ := distinctEvents_firstCopies
  unfold preDisconnectRestingFillQuantity
  rw [hevents]
  exact restingFillQuantity_filter fun counted hcounted => decide_eq_true (h counted hcounted)

theorem mayHaveTaken_fillRestingOrder (scenario : SimulationScenario) {fillEstimate : FillEstimate}
    (h : fillEstimate = fillRestingOrderFromTradeEvents ctx scenario intent activationAt cancelAction
      disconnectWindow bookEstimate) :
    fillEstimate.orderQuantity = bookEstimate.orderQuantity ∧
      MayHaveTaken bookEstimate (takerQuantity fillEstimate) := by
  by_cases hfill : bookEstimate.hasFill = true
  · have hsame : fillEstimate = bookEstimate := h.trans (if_pos hfill)
    rw [hsame]
    exact ⟨rfl, .inl rfl⟩
  · rw [fillRestingOrderFromTradeEvents, if_neg hfill] at h
    dsimp only at h
    split_ifs at h with hcomponents
    · rw [h]
      exact ⟨rfl, .inl rfl⟩
    · rw [h]
      exact ⟨rfl, .inr ⟨hfill, rfl⟩⟩

theorem disconnectResult_withoutDuplicates (sequence : ℕ) {cancelled : Option SimulatedScenarioCancelResult}
    (hcancelled : cancelled.map SimulatedScenarioCancelResult.effectiveAt =
      cancelAction.map ScheduledOrderAction.scheduledAt) {fillEstimate : FillEstimate}
    (hquantity : fillEstimate.orderQuantity = bookEstimate.orderQuantity)
    (htaken : MayHaveTaken bookEstimate (takerQuantity fillEstimate))
    (h : DisconnectCopiesUnseen ctx scenario intent activationAt cancelAction disconnectWindow bookEstimate) :
    disconnectResultForOrder ctx (withoutDuplicates scenario) intent sequence activationAt cancelled
        disconnectWindow fillEstimate =
      disconnectResultForOrder ctx scenario intent sequence activationAt cancelled disconnectWindow
        fillEstimate := by
  cases disconnectWindow with
  | none => rfl
  | some window =>
      have htaker : (if fillEstimate.liquidityRole = .taker then fillEstimate.filledQuantity else 0) =
          takerQuantity fillEstimate := rfl
      unfold disconnectResultForOrder
      simp only [htaker]
      -- each early exit is the same in both; past them the condition is about the trades that are counted
      by_cases hactive : window.disconnectedAt ≤ activationAt
      · rw [if_pos hactive, if_pos hactive]
      · rw [if_neg hactive, if_neg hactive]
        by_cases hcancel : ∃ cancel ∈ cancelled, cancel.effectiveAt ≤ window.disconnectedAt
        · rw [if_pos hcancel, if_pos hcancel]
        · rw [if_neg hcancel, if_neg hcancel]
          by_cases hopen : fillEstimate.orderQuantity ≤ takerQuantity fillEstimate
          · rw [if_pos hopen, if_pos hopen]
          · have hlater : ∀ cancel ∈ cancelAction, window.disconnectedAt < cancel.scheduledAt := by
              intro cancel hmem
              rw [hmem, Option.map_some] at hcancelled
              obtain ⟨result, hresult, htime⟩ := Option.map_eq_some_iff.mp hcancelled
              rw [← htime]
              exact not_le.mp fun hle => hcancel ⟨result, hresult, hle⟩
            have hcounted := h window rfl (not_le.mp hactive) hlater _ htaken (hquantity ▸ not_le.mp hopen)
            rw [← hquantity] at hcounted
            rw [preDisconnectRestingFillQuantity_withoutDuplicates hcounted]

/-! ## One order -/

open DeterministicScenarioRunner

variable {runner : DeterministicScenarioRunner} {settings : RunSettings} {action : ScheduledOrderAction}
  {index : ℕ} {admission : SimulatedExchangeOrderAdmission}

theorem finishOrder_withoutDuplicates (book : OrderBookSnapshot)
    (hfills : FillCopiesUnseen ctx scenario intent activationAt cancelAction settings.disconnectWindow bookEstimate)
    (hdisconnect : DisconnectCopiesUnseen ctx scenario intent activationAt cancelAction settings.disconnectWindow
      bookEstimate) :
    finishOrder ctx settings (withoutDuplicates scenario) action intent index cancelAction admission activationAt book
        bookEstimate =
      finishOrder ctx settings scenario action intent index cancelAction admission activationAt book
        bookEstimate := by
  obtain ⟨estimate, hestimate⟩ : ∃ estimate, estimate = fillRestingOrderFromTradeEvents ctx scenario intent
      activationAt cancelAction settings.disconnectWindow bookEstimate := ⟨_, rfl⟩
  obtain ⟨hquantity, htaken⟩ := mayHaveTaken_fillRestingOrder scenario hestimate
  have hsame : ∀ outcome, disconnectResultForOrder ctx (withoutDuplicates scenario) intent index activationAt
      (cancelAction.map fun cancel => Scenarios.cancelResult cancel index outcome) settings.disconnectWindow estimate =
      disconnectResultForOrder ctx scenario intent index activationAt
        (cancelAction.map fun cancel => Scenarios.cancelResult cancel index outcome) settings.disconnectWindow
        estimate := by
    intro outcome
    refine disconnectResult_withoutDuplicates index ?_ hquantity htaken hdisconnect
    cases cancelAction <;> rfl
  unfold finishOrder
  dsimp only
  rw [fillRestingOrder_withoutDuplicates hfills, ← hestimate, hsame]
  rfl

/-- The condition on an order that is active: on its book, and on the fill that the model estimates from it. -/
structure CopiesUnseen (runner : DeterministicScenarioRunner) (ctx : DecimalContext) (settings : RunSettings)
    (scenario : SimulationScenario) (intent : OrderIntent) (activationAt : UTCDateTime)
    (cancelAction : Option ScheduledOrderAction) : Prop where
  book : BookCopiesUnseen scenario (some activationAt)
  fills : ∀ book limitPrice bookEstimate, projectBookUntil scenario (some activationAt) = .ok book →
    intent.limitPrice = some limitPrice → postOnlyWouldCross intent book = .ok false →
    runner.fillModel.evaluate book intent.side limitPrice intent.quantity = .ok bookEstimate →
    FillCopiesUnseen ctx scenario intent activationAt cancelAction settings.disconnectWindow bookEstimate ∧
      DisconnectCopiesUnseen ctx scenario intent activationAt cancelAction settings.disconnectWindow bookEstimate

theorem activateOrder_withoutDuplicates
    (h : intent.limitPrice.isSome = true → CopiesUnseen runner ctx settings scenario intent activationAt cancelAction) :
    runner.activateOrder ctx settings (withoutDuplicates scenario) action intent index cancelAction admission
        activationAt =
      runner.activateOrder ctx settings scenario action intent index cancelAction admission activationAt := by
  unfold activateOrder
  cases hprice : intent.limitPrice with
  | none => rfl
  | some limitPrice =>
      have hcopies := h (by rw [hprice]; rfl)
      dsimp only
      rw [projectBookUntil_withoutDuplicates hcopies.book]
      cases hbook : projectBookUntil scenario (some activationAt) with
      | error e => rfl
      | ok book =>
          rw [ok_bind, ok_bind]
          cases hcross : postOnlyWouldCross intent book with
          | error e => rfl
          | ok crosses =>
              rw [ok_bind, ok_bind]
              cases crosses with
              | true => rfl
              | false =>
                  rw [if_neg Bool.false_ne_true, if_neg Bool.false_ne_true]
                  cases hestimate : runner.fillModel.evaluate book intent.side limitPrice intent.quantity with
                  | error e => rfl
                  | ok bookEstimate =>
                      obtain ⟨hfills, hdisconnect⟩ :=
                          hcopies.fills book limitPrice bookEstimate hbook hprice hcross hestimate
                      rw [ok_bind, ok_bind]
                      exact finishOrder_withoutDuplicates book hfills hdisconnect

/-- The condition on one order: it matters only where the order is admitted and not cancelled before it is active. -/
def OrderCopiesUnseen (runner : DeterministicScenarioRunner) (ctx : DecimalContext) (settings : RunSettings)
    (scenario : SimulationScenario) (action : ScheduledOrderAction) (cancelAction : Option ScheduledOrderAction) :
    Prop :=
  ∀ intent admission activationAt, action.action = .orderIntent intent →
    runner.admitOrder ctx settings intent action.scheduledAt = .ok admission → admission.rejected = false →
    admission.activatesAt = some activationAt → (∀ cancel ∈ cancelAction, activationAt ≤ cancel.scheduledAt) →
    intent.limitPrice.isSome = true → CopiesUnseen runner ctx settings scenario intent activationAt cancelAction

/-- **One order.** -/
theorem runOrderAction_withoutDuplicates
    (h : OrderCopiesUnseen runner ctx settings scenario action cancelAction) :
    runner.runOrderAction ctx settings (withoutDuplicates scenario) action index cancelAction =
      runner.runOrderAction ctx settings scenario action index cancelAction := by
  unfold runOrderAction
  cases haction : action.action with
  | cancelOrderRequest request => rfl
  | orderIntent intent =>
      dsimp only
      cases hadmitted : runner.admitOrder ctx settings intent action.scheduledAt with
      | error e => rfl
      | ok admission =>
          rw [ok_bind, ok_bind]
          split_ifs with hrejected
          · rfl
          · cases hactivates : admission.activatesAt with
            | none => rfl
            | some activatesAt =>
                dsimp only
                cases hearly : cancelAction.filter fun cancel => decide (cancel.scheduledAt < activatesAt) with
                | some cancel => rfl
                | none =>
                    have hcancel : ∀ cancel ∈ cancelAction, activatesAt ≤ cancel.scheduledAt := by
                      intro cancel hmem
                      rw [hmem, Option.filter_eq_none_iff] at hearly
                      exact not_lt.mp fun hlt => hearly cancel rfl (decide_eq_true hlt)
                    exact activateOrder_withoutDuplicates (h intent admission activatesAt haction hadmitted
                      (Bool.eq_false_iff.mpr hrejected) hactivates hcancel)

/-! ## The run -/

/-- The loop over the orders: with the same results so far, the next order gets the same cancel. -/
theorem runOrderActions_withoutDuplicates {used : List ℕ} {actions : List ScheduledOrderAction}
    {results : List SimulatedScenarioOrderResult}
    (hrun : runner.runOrderActions ctx settings scenario index used actions = .ok results)
    (h : ∀ i action, actions[i]? = some action → OrderCopiesUnseen runner ctx settings scenario action
      (matchingCancelAction scenario action (used ++ cancelSequences (results.take i)))) :
    runner.runOrderActions ctx settings (withoutDuplicates scenario) index used actions = .ok results := by
  induction actions generalizing index used results with
  | nil => exact hrun
  | cons action actions ih =>
      rw [runOrderActions, bind_eq_ok] at hrun
      obtain ⟨result, hresult, hrun⟩ := hrun
      obtain ⟨rest, hrest, hrun⟩ := bind_eq_ok.mp hrun
      cases hrun
      have hfirst := h 0 action rfl
      rw [List.take_zero, cancelSequences_nil, List.append_nil] at hfirst
      have hsame : runner.runOrderAction ctx settings (withoutDuplicates scenario) action index
          (matchingCancelAction (withoutDuplicates scenario) action used) = .ok result :=
        (runOrderAction_withoutDuplicates hfirst).trans hresult
      have htail := ih hrest fun i other hi => by
        have hother := h (i + 1) other hi
        rw [List.take_succ_cons, cancelSequences_cons, ← List.append_assoc] at hother
        exact hother
      rw [runOrderActions, hsame, ok_bind, htail]
      rfl

/-- **Copies do not change a run** in which no order meets a copy that changes its book, fills it or is counted at
    its disconnect while the window of that loop does not hold the first copy. -/
theorem duplicates_do_not_matter {parsers : ParameterParsers} {run : SimulationScenarioRun}
    (hrun : runner.run parsers ctx scenario = .ok run)
    (hcopies : ∀ settings, runner.settings parsers scenario.configuration scenario.initialBook.exchange = .ok settings →
      ∀ i action, (orderIntentActions scenario.orderActions)[i]? = some action →
        OrderCopiesUnseen runner ctx settings scenario action (assignedCancel scenario run i action)) :
    runner.run parsers ctx (withoutDuplicates scenario) = .ok run := by
  obtain ⟨settings, hsettings, hresults⟩ := run_eq_ok hrun
  have hloop : runner.runOrderActions ctx settings (withoutDuplicates scenario) 0 []
      (orderIntentActions scenario.orderActions) = .ok run.orderResults := by
    refine runOrderActions_withoutDuplicates hresults fun i action hi => ?_
    rw [List.nil_append]
    exact hcopies settings hsettings i action hi
  have hbook := @finalBook_withoutDuplicates scenario
  have hsame : runner.run parsers ctx (withoutDuplicates scenario) = runner.run parsers ctx scenario := by
    unfold DeterministicScenarioRunner.run
    rw [hbook]
    have hsettings' : runner.settings parsers (withoutDuplicates scenario).configuration
        (withoutDuplicates scenario).initialBook.exchange = .ok settings := hsettings
    have hactions : (withoutDuplicates scenario).orderActions = scenario.orderActions := rfl
    rw [hsettings, hsettings', hactions, ok_bind, ok_bind, hloop, hresults]
    rfl
  exact hsame.trans hrun

/-! ## Copies at one time -/

/-- Copies that are scheduled with the first one are never seen without it. -/
theorem copiesUnseen_of_sameTimes
    (h : ∀ event ∈ scenario.marketEvents, ∀ first ∈ scenario.marketEvents,
      first.payloadHash = event.payloadHash → first.scheduledAt = event.scheduledAt) :
    CopiesUnseen runner ctx settings scenario intent activationAt cancelAction := by
  have hsees : ∀ looksAt : ScheduledMarketEvent → Bool,
      (∀ e₁ e₂ : ScheduledMarketEvent, e₁.scheduledAt = e₂.scheduledAt → looksAt e₁ = looksAt e₂) →
      ∀ event ∈ distinctEvents looksAt scenario.marketEvents, FirstSeen looksAt scenario.marketEvents event := by
    intro looksAt hlooksAt event hevent first hfirst hhash
    obtain ⟨hmem, hlooks⟩ := List.mem_filter.mp (mem_of_mem_unseen hevent).1
    rw [hlooksAt first event (h event hmem first (mem_of_mem_unseen hfirst).1 hhash)]
    exact hlooks
  refine ⟨fun event hevent _ => hsees _ ?_ event hevent, fun _ _ _ _ _ _ _ => ⟨fun _ fill hfill => ?_, ?_⟩⟩
  · intro e₁ e₂ htime
    unfold projectedThrough
    rw [htime]
  · refine hsees _ ?_ fill.1 (mem_of_mem_restingFillEvents hfill)
    intro e₁ e₂ htime
    unfold restingWindow
    rw [htime]
  · intro window _ _ _ _ _ _ counted hcounted
    refine hsees _ ?_ counted (mem_of_mem_countedTrades hcounted)
    intro e₁ e₂ htime
    unfold preDisconnectResting
    rw [htime]

/-- The trade was already delivered before the order is active. -/
def lateCopy : SimulationScenario := rainScenario [5, 15] fun _ => "sha256:twice"

/-- The trade is delivered twice at one time. -/
def copyAtOnce : SimulationScenario := rainScenario [15, 15] fun _ => "sha256:twice"

/-- What the orders of a run are filled with. -/
def filledQuantities (run : SimulationScenarioRun) : List (Option ℚ) :=
  run.orderResults.map fun result => result.fillEstimate.map FillEstimate.filledQuantity

/-- The late copy fills the order. -/
theorem lateCopy_fills :
    ∃ run₁ run₂, rainRunner.run noParameters defaultContext lateCopy = .ok run₁ ∧
      rainRunner.run noParameters defaultContext (withoutDuplicates lateCopy) = .ok run₂ ∧
      filledQuantities run₁ = [some 1] ∧ filledQuantities run₂ = [some 0] := by
  obtain ⟨run₁, h₁⟩ := rain_run lateCopy (by decide +kernel)
  obtain ⟨run₂, h₂⟩ := rain_run (withoutDuplicates lateCopy) (by decide +kernel)
  have hfilled₁ : (rainRunner.run noParameters defaultContext lateCopy).toOption.map filledQuantities =
      some [some 1] := by decide +kernel
  have hfilled₂ : (rainRunner.run noParameters defaultContext (withoutDuplicates lateCopy)).toOption.map
      filledQuantities = some [some 0] := by decide +kernel
  rw [h₁] at hfilled₁
  rw [h₂] at hfilled₂
  exact ⟨run₁, run₂, h₁, h₂, Option.some.inj hfilled₁, Option.some.inj hfilled₂⟩

theorem duplicates_do_not_matter_copyAtOnce :
    ∃ run, rainRunner.run noParameters defaultContext copyAtOnce = .ok run ∧
      rainRunner.run noParameters defaultContext (withoutDuplicates copyAtOnce) = .ok run := by
  obtain ⟨run, hrun⟩ := rain_run copyAtOnce (by decide +kernel)
  refine ⟨run, hrun, duplicates_do_not_matter hrun ?_⟩
  intro settings _ i action _ intent admission activationAt _ _ _ _ _ _
  refine copiesUnseen_of_sameTimes fun event hevent first hfirst _ => ?_
  have htime : ∀ e ∈ copyAtOnce.marketEvents, e.scheduledAt = 15 := by decide
  rw [htime event hevent, htime first hfirst]

end Scenarios
end Pmrp
