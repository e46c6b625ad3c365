import Mathlib.Algebra.Order.BigOperators.Group.List
import Mathlib.Tactic.Linarith
import Pmrp.Simulation.FillModels

/-!
# `Simulation.Correctness.MaximalFills` — an estimate takes all that the limit reaches

The loop over the opposite side stops at the first level that the limit does not reach. The sides are sorted, so the
levels before it are all that the limit reaches (`openLevels_eq_nil`), and the loop takes them in full until the
quantity runs out (`takeLevels_exact`).
-/

namespace Pmrp
namespace FillModels

/-! ## Prices seen by a taker -/

/-- Price `a` is better than price `b` for an order on this side. -/
def Better : Side → ℚ → ℚ → Prop
  | .buy, a, b => a < b
  | .sell, a, b => b < a

/-- The price is at or better than the limit. -/
def AtOrBetter : Side → ℚ → ℚ → Prop
  | .buy, limitPrice, price => price ≤ limitPrice
  | .sell, limitPrice, price => limitPrice ≤ price

variable {side : Side} {limitPrice a b c : ℚ} {allowTouch : Bool}

theorem Better.atOrBetter (h : Better side a b) : AtOrBetter side b a := by
  cases side with
  | buy => exact le_of_lt h
  | sell => exact le_of_lt h

theorem AtOrBetter.refl (side : Side) (a : ℚ) : AtOrBetter side a a := by
  cases side with
  | buy => exact le_refl a
  | sell => exact le_refl a

theorem isExecutable_touch : isExecutable side limitPrice a true = true ↔ AtOrBetter side limitPrice a := by
  cases side <;> simp [isExecutable, AtOrBetter]

/-- A limit that reaches a price reaches every better one. -/
theorem isExecutable_better (h : Better side a b) (hb : isExecutable side limitPrice b allowTouch = true) :
    isExecutable side limitPrice a allowTouch = true := by
  cases side <;> cases allowTouch <;> simp only [isExecutable, Better, Bool.false_eq_true, if_false, if_true,
    decide_eq_true_eq] at h hb ⊢ <;> linarith

/-- What trades through the limit also touches it. -/
theorem isExecutable_of_strict (h : isExecutable side limitPrice a false = true) :
    isExecutable side limitPrice a true = true := by
  cases side <;> simp only [isExecutable, Bool.false_eq_true, if_false, if_true, decide_eq_true_eq] at h ⊢ <;> linarith

/-! ## The levels that the limit reaches -/

/-- For the touch model these are the levels at or better than the limit (`isExecutable_touch`). -/
def openLevels (side : Side) (limitPrice : ℚ) (allowTouch : Bool) (levels : List OrderBookLevel) :
    List OrderBookLevel :=
  levels.filter fun level => isExecutable side limitPrice level.price allowTouch

def totalQuantity (levels : List OrderBookLevel) : ℚ := (levels.map OrderBookLevel.quantity).sum

/-- The levels stand in best-first order. -/
def BestFirst (side : Side) (levels : List OrderBookLevel) : Prop :=
  levels.Pairwise fun a b => Better side a.price b.price

theorem bestFirst_oppositeSideLevels (book : OrderBookSnapshot) (side : Side) :
    BestFirst side (oppositeSideLevels book side) := by
  cases side with
  | buy => exact book.asks_pairwise
  | sell => exact book.bids_pairwise

variable {level : OrderBookLevel} {levels : List OrderBookLevel}

theorem totalQuantity_nonneg (levels : List OrderBookLevel) : 0 ≤ totalQuantity levels := by
  refine List.sum_nonneg fun q hq => ?_
  obtain ⟨level, -, rfl⟩ := List.mem_map.mp hq
  exact level.quantity_nonneg

theorem totalQuantity_cons : totalQuantity (level :: levels) = level.quantity + totalQuantity levels := by
  rw [totalQuantity, List.map_cons, List.sum_cons]
  rfl

theorem openLevels_cons_of_pos (h : isExecutable side limitPrice level.price allowTouch = true) :
    openLevels side limitPrice allowTouch (level :: levels) = level :: openLevels side limitPrice allowTouch levels :=
  List.filter_cons_of_pos h

theorem openLevels_cons_of_neg (h : ¬isExecutable side limitPrice level.price allowTouch = true) :
    openLevels side limitPrice allowTouch (level :: levels) = openLevels side limitPrice allowTouch levels :=
  List.filter_cons_of_neg h

/-- Behind a level that the limit does not reach it reaches nothing. -/
theorem openLevels_eq_nil (hsorted : BestFirst side (level :: levels))
    (h : isExecutable side limitPrice level.price allowTouch = false) :
    openLevels side limitPrice allowTouch (level :: levels) = [] := by
  refine List.filter_eq_nil_iff.mpr fun l hl => ?_
  rcases List.mem_cons.mp hl with rfl | hl
  · rw [h]
    exact Bool.false_ne_true
  · intro hopen
    have hhead := isExecutable_better (List.rel_of_pairwise_cons hsorted hl) hopen
    rw [h] at hhead
    cases hhead

/-- The trade-through model reaches no more than the touch model. -/
theorem totalQuantity_openLevels_le (side : Side) (limitPrice : ℚ) (levels : List OrderBookLevel) :
    totalQuantity (openLevels side limitPrice false levels) ≤
      totalQuantity (openLevels side limitPrice true levels) := by
  induction levels with
  | nil => exact le_refl _
  | cons level levels ih =>
      have hnonneg := level.quantity_nonneg
      by_cases hstrict : isExecutable side limitPrice level.price false = true
      · rw [openLevels_cons_of_pos hstrict, openLevels_cons_of_pos (isExecutable_of_strict hstrict),
          totalQuantity_cons, totalQuantity_cons]
        linarith
      · rw [openLevels_cons_of_neg hstrict]
        by_cases htouch : isExecutable side limitPrice level.price true = true
        · rw [openLevels_cons_of_pos htouch, totalQuantity_cons]
          linarith
        · rw [openLevels_cons_of_neg htouch]
          exact ih

/-! ## What the loop takes -/

/-- Components that take the first levels in order, each in full except maybe the last. -/
inductive LeadingFill : List OrderBookLevel → List SimulatedFillComponent → Prop where
  | nil {levels : List OrderBookLevel} : LeadingFill levels []
  | part {level : OrderBookLevel} {levels : List OrderBookLevel} {quantity : ℚ} (hpos : 0 < quantity)
      (hle : quantity ≤ level.quantity) : LeadingFill (level :: levels) [⟨level.price, quantity, .taker⟩]
  | full {level : OrderBookLevel} {levels : List OrderBookLevel} {components : List SimulatedFillComponent}
      (hpos : 0 < level.quantity) (hrest : LeadingFill levels components) :
      LeadingFill (level :: levels) (⟨level.price, level.quantity, .taker⟩ :: components)

theorem takeLevels_zero (ctx : DecimalContext) (levels : List OrderBookLevel) :
    takeLevels ctx side limitPrice allowTouch 0 levels = (0, []) := by
  cases levels with
  | nil => rfl
  | cons level levels => exact if_pos (Or.inl rfl)

/-- The levels with something on them. -/
def nonempty (levels : List OrderBookLevel) : List OrderBookLevel := levels.filter fun level => level.quantity ≠ 0

def filledSum (components : List SimulatedFillComponent) : ℚ :=
  (components.map SimulatedFillComponent.quantity).sum

/-- What a loop leaves and takes when it takes all that it may, best level first. -/
structure TakesAll (remaining : ℚ) (openLevels : List OrderBookLevel) (taken : ℚ × List SimulatedFillComponent) :
    Prop where
  left_eq : taken.1 = remaining - min remaining (totalQuantity openLevels)
  sum_eq : filledSum taken.2 = min remaining (totalQuantity openLevels)
  leading : LeadingFill (nonempty openLevels) taken.2

/-- The loop takes nothing where nothing is asked for or reached. -/
theorem takesAll_nothing {remaining : ℚ} {levels : List OrderBookLevel}
    (h : min remaining (totalQuantity levels) = 0) : TakesAll remaining levels (remaining, []) where
  left_eq := by rw [h, sub_zero]
  sum_eq := h.symm
  leading := .nil

theorem TakesAll.cons_empty {remaining : ℚ} {taken : ℚ × List SimulatedFillComponent}
    (h : TakesAll remaining levels taken) (hempty : level.quantity = 0) :
    TakesAll remaining (level :: levels) taken where
  left_eq := by rw [h.left_eq, totalQuantity_cons, hempty, zero_add]
  sum_eq := by rw [h.sum_eq, totalQuantity_cons, hempty, zero_add]
  leading := by
    have hfilter : nonempty (level :: levels) = nonempty levels := List.filter_cons_of_neg (by simp [hempty])
    rw [hfilter]
    exact h.leading

/-- The last level is taken for what is left of the quantity. -/
theorem takesAll_last {remaining : ℚ} (hpos : 0 < remaining) (hle : remaining ≤ level.quantity) :
    TakesAll remaining (level :: levels) (0, [⟨level.price, remaining, .taker⟩]) := by
  have hrest := totalQuantity_nonneg levels
  have hall : min remaining (totalQuantity (level :: levels)) = remaining := by
    rw [totalQuantity_cons]
    exact min_eq_left (by linarith)
  have hfilter : nonempty (level :: levels) = level :: nonempty levels :=
    List.filter_cons_of_pos (by simp [(hpos.trans_le hle).ne'])
  refine ⟨?_, ?_, ?_⟩
  · rw [hall, sub_self]
  · rw [hall]
    simp [filledSum]
  · rw [hfilter]
    exact .part hpos hle

/-- A level before the last is taken in full. -/
theorem TakesAll.cons {remaining : ℚ} {taken : ℚ × List SimulatedFillComponent} (hlevel : 0 < level.quantity)
    (h : TakesAll (remaining - level.quantity) levels taken) :
    TakesAll remaining (level :: levels) (taken.1, ⟨level.price, level.quantity, .taker⟩ :: taken.2) := by
  have hshift : min remaining (totalQuantity (level :: levels)) =
      level.quantity + min (remaining - level.quantity) (totalQuantity levels) := by
    rw [totalQuantity_cons, ← min_add_add_left]
    congr 1
    ring
  have hfilter : nonempty (level :: levels) = level :: nonempty levels :=
    List.filter_cons_of_pos (by simp [hlevel.ne'])
  refine ⟨?_, ?_, ?_⟩
  · show taken.1 = _
    rw [h.left_eq, hshift]
    ring
  · rw [hshift, ← h.sum_eq]
    simp [filledSum]
  · rw [hfilter]
    exact .full hlevel h.leading

theorem takeLevels_cons_empty {remaining : ℚ} (hpos : 0 < remaining)
    (hexecutable : isExecutable side limitPrice level.price allowTouch = true) (hempty : level.quantity = 0) :
    takeLevels .exact side limitPrice allowTouch remaining (level :: levels) =
      takeLevels .exact side limitPrice allowTouch remaining levels := by
  rw [takeLevels, if_neg (by simp [hpos.ne', hexecutable]), hempty, min_eq_right hpos.le]
  exact if_pos rfl

theorem takeLevels_cons_taken {remaining : ℚ} (hpos : 0 < remaining)
    (hexecutable : isExecutable side limitPrice level.price allowTouch = true) (hlevel : 0 < level.quantity) :
    takeLevels .exact side limitPrice allowTouch remaining (level :: levels) =
      ((takeLevels .exact side limitPrice allowTouch (remaining - min remaining level.quantity) levels).1,
        ⟨level.price, min remaining level.quantity, .taker⟩ ::
          (takeLevels .exact side limitPrice allowTouch (remaining - min remaining level.quantity) levels).2) := by
  rw [takeLevels, if_neg (by simp [hpos.ne', hexecutable])]
  exact if_neg (lt_min hpos hlevel).ne'

/-- **The loop takes what the limit reaches**, up to the quantity. -/
theorem takeLevels_exact (hsorted : BestFirst side levels) {remaining : ℚ} (hnonneg : 0 ≤ remaining) :
    TakesAll remaining (openLevels side limitPrice allowTouch levels)
      (takeLevels .exact side limitPrice allowTouch remaining levels) := by
  -- the quantity changes with every level taken, so the induction is for all of them
  induction levels generalizing remaining with
  | nil => exact takesAll_nothing (min_eq_right hnonneg)
  | cons level levels ih =>
      by_cases hzero : remaining = 0
      · rw [hzero, takeLevels_zero]
        exact takesAll_nothing (min_eq_left (totalQuantity_nonneg _))
      have hpos : 0 < remaining := lt_of_le_of_ne hnonneg (Ne.symm hzero)
      by_cases hexecutable : isExecutable side limitPrice level.price allowTouch = true
      · rw [openLevels_cons_of_pos hexecutable]
        by_cases hempty : level.quantity = 0
        · rw [takeLevels_cons_empty hpos hexecutable hempty]
          exact (ih hsorted.of_cons hnonneg).cons_empty hempty
        · have hlevel : 0 < level.quantity := lt_of_le_of_ne level.quantity_nonneg (Ne.symm hempty)
          rw [takeLevels_cons_taken hpos hexecutable hlevel]
          rcases le_or_gt remaining level.quantity with hlast | hmore
          · rw [min_eq_left hlast, sub_self, takeLevels_zero]
            exact takesAll_last hpos hlast
          · rw [min_eq_right hmore.le]
            exact (ih hsorted.of_cons (sub_pos.mpr hmore).le).cons hlevel
      · -- the limit does not reach the best level that is left
        have hclosed : isExecutable side limitPrice level.price allowTouch = false := by simpa using hexecutable
        have htaken : takeLevels .exact side limitPrice allowTouch remaining (level :: levels) = (remaining, []) :=
          if_pos (Or.inr hclosed)
        rw [htaken, openLevels_eq_nil hsorted hclosed]
        exact takesAll_nothing (min_eq_right hnonneg)

/-! ## Prices of components -/

variable {components : List SimulatedFillComponent}

/-- Components have something on them and stand in the order of their levels. -/
theorem LeadingFill.spec (h : LeadingFill levels components) :
    ∀ component ∈ components, 0 < component.quantity ∧ ∃ level ∈ levels, component.price = level.price ∧
      component.quantity ≤ level.quantity := by
  induction h with
  | nil =>
      intro component hcomponent
      cases hcomponent
  | part hpos hle =>
      intro component hcomponent
      rw [List.mem_singleton.mp hcomponent]
      exact ⟨hpos, _, List.mem_cons_self, rfl, hle⟩
  | full hpos _ ih =>
      intro component hcomponent
      rcases List.mem_cons.mp hcomponent with rfl | hcomponent
      · exact ⟨hpos, _, List.mem_cons_self, rfl, le_refl _⟩
      · obtain ⟨hcpos, level, hlevel, hprice, hle⟩ := ih component hcomponent
        exact ⟨hcpos, level, List.mem_cons_of_mem _ hlevel, hprice, hle⟩

theorem LeadingFill.bestFirst (h : LeadingFill levels components) (hsorted : BestFirst side levels) :
    components.Pairwise fun a b => Better side a.price b.price := by
  induction h with
  | nil => exact .nil
  | part hpos hle => exact List.pairwise_singleton _ _
  | @full level levels components hpos hrest ih =>
      refine .cons ?_ (ih hsorted.of_cons)
      intro component hcomponent
      obtain ⟨-, l, hl, hprice, -⟩ := hrest.spec component hcomponent
      rw [hprice]
      exact List.rel_of_pairwise_cons hsorted hl

/-- Weights that are positive keep an average between the bounds of what is averaged. -/
theorem sum_mul_le {bound : ℚ} (hpos : ∀ component ∈ components, 0 < component.quantity)
    (hle : ∀ component ∈ components, component.price ≤ bound) :
    (components.map fun component => component.price * component.quantity).sum ≤ bound * filledSum components := by
  induction components with
  | nil => simp [filledSum]
  | cons component components ih =>
      have hrest := ih (fun x hx => hpos x (List.mem_cons_of_mem _ hx)) fun x hx => hle x (List.mem_cons_of_mem _ hx)
      have hhead := mul_le_mul_of_nonneg_right (hle component List.mem_cons_self) (hpos component List.mem_cons_self).le
      simp only [filledSum, List.map_cons, List.sum_cons] at hrest ⊢
      rw [mul_add]
      linarith

theorem le_sum_mul {bound : ℚ} (hpos : ∀ component ∈ components, 0 < component.quantity)
    (hle : ∀ component ∈ components, bound ≤ component.price) :
    bound * filledSum components ≤ (components.map fun component => component.price * component.quantity).sum := by
  induction components with
  | nil => simp [filledSum]
  | cons component components ih =>
      have hrest := ih (fun x hx => hpos x (List.mem_cons_of_mem _ hx)) fun x hx => hle x (List.mem_cons_of_mem _ hx)
      have hhead := mul_le_mul_of_nonneg_right (hle component List.mem_cons_self) (hpos component List.mem_cons_self).le
      simp only [filledSum, List.map_cons, List.sum_cons] at hrest ⊢
      rw [mul_add]
      linarith

/-- The average of prices within a limit is within it, and no better than the best price. -/
theorem averageFillPrice_within {average best : ℚ} (hpos : ∀ component ∈ components, 0 < component.quantity)
    (hlimit : ∀ component ∈ components, AtOrBetter side limitPrice component.price)
    (hbest : ∀ component ∈ components, AtOrBetter side component.price best)
    (h : averageFillPrice .exact components = some average) :
    AtOrBetter side limitPrice average ∧ AtOrBetter side average best := by
  have hnonneg : 0 ≤ filledSum components := by
    refine List.sum_nonneg fun q hq => ?_
    obtain ⟨component, hcomponent, rfl⟩ := List.mem_map.mp hq
    exact (hpos component hcomponent).le
  simp only [averageFillPrice, DecimalContext.exact_sum, DecimalContext.exact_div, DecimalContext.exact_mul] at h
  split_ifs at h with hzero
  have hsum : 0 < filledSum components := lt_of_le_of_ne hnonneg (Ne.symm hzero)
  obtain rfl := Option.some.inj h
  cases side with
  | buy => exact ⟨(div_le_iff₀ hsum).mpr (sum_mul_le hpos hlimit), (le_div_iff₀ hsum).mpr (le_sum_mul hpos hbest)⟩
  | sell => exact ⟨(le_div_iff₀ hsum).mpr (le_sum_mul hpos hlimit), (div_le_iff₀ hsum).mpr (sum_mul_le hpos hbest)⟩

/-! ## Estimates -/

/-- The estimate takes a leading part of the levels that the limit reaches, and no less than it may. -/
structure MaximalFill (book : OrderBookSnapshot) (side : Side) (limitPrice quantity : ℚ) (allowTouch : Bool)
    (estimate : FillEstimate) : Prop where
  filled_eq : estimate.filledQuantity =
    min quantity (totalQuantity (openLevels side limitPrice allowTouch (oppositeSideLevels book side)))
  remaining_eq : estimate.filledQuantity + estimate.remainingQuantity = quantity
  components_sum : filledSum estimate.components = estimate.filledQuantity
  leading : LeadingFill (nonempty (openLevels side limitPrice allowTouch (oppositeSideLevels book side)))
    estimate.components
  best_first : estimate.components.Pairwise fun a b => Better side a.price b.price
  within_limit : ∀ component ∈ estimate.components, AtOrBetter side limitPrice component.price
  average_iff : estimate.averageFillPrice.isSome = true ↔ 0 < estimate.filledQuantity
  average_within : ∀ average ∈ estimate.averageFillPrice, ∃ best ∈ (oppositeSideLevels book side).head?,
    AtOrBetter side limitPrice average ∧ AtOrBetter side average best.price

theorem atOrBetter_of_executable (h : isExecutable side limitPrice a allowTouch = true) :
    AtOrBetter side limitPrice a := by
  cases allowTouch with
  | true => exact isExecutable_touch.mp h
  | false => exact isExecutable_touch.mp (isExecutable_of_strict h)

/-- The first level is the best one. -/
theorem atOrBetter_head (hsorted : BestFirst side levels) {best : OrderBookLevel} (hbest : levels.head? = some best)
    (hlevel : level ∈ levels) : AtOrBetter side level.price best.price := by
  cases levels with
  | nil => cases hlevel
  | cons first rest =>
      obtain rfl := Option.some.inj hbest
      rcases List.mem_cons.mp hlevel with rfl | hrest
      · exact AtOrBetter.refl side _
      · exact (List.rel_of_pairwise_cons hsorted hrest).atOrBetter

theorem estimateBookFill_maximal (reasonPrefix : String) {book : OrderBookSnapshot} {quantity : ℚ}
    (hvalid : book.isValid = true) (hlimit : 0 ≤ limitPrice) (hquantity : 0 < quantity) (side : Side)
    (allowTouch : Bool) :
    ∃ estimate, estimateBookFill .exact allowTouch reasonPrefix book side limitPrice quantity = .ok estimate ∧
      MaximalFill book side limitPrice quantity allowTouch estimate := by
  have hinputs : validateInputs book limitPrice quantity = .ok ⟨⟩ := by
    simp [validateInputs, hvalid, raiseIf, not_lt.mpr hlimit, not_le.mpr hquantity]
  have hsorted := bestFirst_oppositeSideLevels book side
  obtain ⟨hleft, hsum, hleading⟩ := @takeLevels_exact side limitPrice allowTouch _ hsorted quantity hquantity.le
  rw [estimateBookFill, hinputs, ok_bind]
  refine ⟨_, rfl, ?_⟩
  generalize takeLevels .exact side limitPrice allowTouch quantity (oppositeSideLevels book side) = taken at *
  -- every component stands on a level of the book that the limit reaches
  have hlevels : ∀ component ∈ taken.2, 0 < component.quantity ∧ AtOrBetter side limitPrice component.price ∧
      ∃ level ∈ oppositeSideLevels book side, component.price = level.price := by
    intro component hcomponent
    obtain ⟨hpos, level, hlevel, hprice, -⟩ := hleading.spec component hcomponent
    obtain ⟨hmem, hexecutable⟩ := List.mem_filter.mp (List.mem_of_mem_filter hlevel)
    exact ⟨hpos, hprice ▸ atOrBetter_of_executable hexecutable, level, hmem, hprice⟩
  have hfilled : quantity - taken.1 = filledSum taken.2 := by rw [hleft, hsum]; ring
  refine ⟨?_, ?_, hfilled.symm, hleading, ?_, fun component hc => (hlevels component hc).2.1, ?_, ?_⟩
  · exact hfilled.trans hsum
  · exact sub_add_cancel quantity taken.1
  · exact hleading.bestFirst ((hsorted.filter _).filter _)
  · show (averageFillPrice .exact taken.2).isSome = true ↔ 0 < quantity - taken.1
    have hnonneg : 0 ≤ filledSum taken.2 := by
      rw [hsum]
      exact le_min hquantity.le (totalQuantity_nonneg _)
    rw [hfilled]
    simp only [averageFillPrice, DecimalContext.exact_sum]
    by_cases hzero : filledSum taken.2 = 0
    · simp [filledSum] at hzero
      simp [filledSum, hzero]
    · have hpos := lt_of_le_of_ne hnonneg (Ne.symm hzero)
      simp only [filledSum] at hzero hpos ⊢
      simp [hzero, hpos]
  · intro average haverage
    have hne : taken.2 ≠ [] := by
      intro hnil
      change averageFillPrice .exact taken.2 = some average at haverage
      rw [hnil] at haverage
      simp [averageFillPrice] at haverage
    obtain ⟨component, hcomponent⟩ := List.exists_mem_of_ne_nil _ hne
    obtain ⟨-, -, level, hlevel, -⟩ := hlevels component hcomponent
    cases hhead : (oppositeSideLevels book side).head? with
    | none =>
        rw [List.head?_eq_none_iff.mp hhead] at hlevel
        cases hlevel
    | some best =>
        refine ⟨best, rfl, averageFillPrice_within (fun c hc => (hlevels c hc).1) (fun c hc => (hlevels c hc).2.1) ?_
          haverage⟩
        intro c hc
        obtain ⟨-, -, l, hl, hprice⟩ := hlevels c hc
        rw [hprice]
        exact atOrBetter_head hsorted hhead hl

/-- **Fill estimates are maximal**: the touch model takes all that is at or better than the limit, up to the quantity,
    best level first, and the trade-through model never takes more. -/
theorem touch_fill_maximal {book : OrderBookSnapshot} {quantity : ℚ} (hvalid : book.isValid = true)
    (hlimit : 0 ≤ limitPrice) (hquantity : 0 < quantity) (side : Side) :
    ∃ touch through, (touchFillModel .exact).evaluate book side limitPrice quantity = .ok touch ∧
      (tradeThroughFillModel .exact).evaluate book side limitPrice quantity = .ok through ∧
      MaximalFill book side limitPrice quantity true touch ∧
      MaximalFill book side limitPrice quantity false through ∧ through.filledQuantity ≤ touch.filledQuantity := by
  obtain ⟨touch, htouch, hmaximal⟩ := estimateBookFill_maximal "simulation_touch" hvalid hlimit hquantity side true
  obtain ⟨through, hthrough, hstrict⟩ :=
    estimateBookFill_maximal "simulation_trade_through" hvalid hlimit hquantity side false
  refine ⟨touch, through, htouch, hthrough, hmaximal, hstrict, ?_⟩
  rw [hmaximal.filled_eq, hstrict.filled_eq]
  exact min_le_min_left _ (totalQuantity_openLevels_le side limitPrice _)

theorem emptyLevel_nonneg : (0 : ℚ) ≤ 0 := le_refl 0

/-- Three ask levels, the one in the middle empty. -/
def ladder : List OrderBookLevel :=
  [⟨17 / 40, 13, none, by norm_num, by norm_num⟩, ⟨19 / 40, 0, none, by norm_num, emptyLevel_nonneg⟩,
    ⟨23 / 40, 17, none, by norm_num, by norm_num⟩]

theorem ladder_ascending : StrictlyAscending (ladder.map OrderBookLevel.price) := by decide +kernel

theorem noBids : StrictlyDescending (([] : List OrderBookLevel).map OrderBookLevel.price) := List.isChain_nil

def ladderBook : OrderBookSnapshot where
  marketId := ⟨"mkt_ladder", by decide⟩
  contractId := ⟨"ctr_ladder", by decide⟩
  exchange := "ladder"
  receivedAt := 0
  bids := []
  asks := ladder
  snapshotReason := "laddered"
  exchange_within := TextWithin.ofList (by decide)
  snapshotReason_within := TextWithin.ofList (by decide)
  bids_descending := noBids
  asks_ascending := ladder_ascending

theorem touch_fill_maximal_ladderBook : ∃ touch through,
    (touchFillModel .exact).evaluate ladderBook .buy (23 / 40) 15 = .ok touch ∧
      (tradeThroughFillModel .exact).evaluate ladderBook .buy (23 / 40) 15 = .ok through ∧
      MaximalFill ladderBook .buy (23 / 40) 15 true touch ∧ MaximalFill ladderBook .buy (23 / 40) 15 false through ∧
      through.filledQuantity ≤ touch.filledQuantity :=
  touch_fill_maximal rfl (by norm_num) (by norm_num) .buy

end FillModels
end Pmrp
