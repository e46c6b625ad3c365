import Pmrp.Risk.Correctness.Approval
import Pmrp.Simulation.RejectionModels

/-!
# `Simulation.Correctness.RequiredBalance` — the balance check of simulations and of live risk

A scenario charges a buy its price and a sell the complement of its price; RISK-017 charges both their price.
`verdicts_iff` says for which orders and balances the two give one verdict, in exact arithmetic.
-/

namespace Pmrp
namespace RequiredBalance

/-- The simulated exchange rejects the intent for this available balance. -/
def SimulatorRejects (model : BoundedRejectionModel) (marketStatus : MarketStatus) (intent : OrderIntent)
    (availableBalance : ℚ) : Prop :=
  ∃ decision, model.evaluate marketStatus intent.limitPrice intent.quantity
      (requiredBalanceForIntent .exact intent) (some availableBalance) = .ok decision ∧
    decision.rejected = true

/-- RISK-017 does not pass the intent. -/
def RiskRejects (maxStateAge : Timedelta) (intent : OrderIntent) (context : RiskContext) : Prop :=
  (AvailableBalanceRule.evaluate .exact maxStateAge intent context).passes = false

/-- The context has a fresh state with this available balance and nothing reserved. -/
def FreshBalance (maxStateAge : Timedelta) (context : RiskContext) (availableBalance : ℚ) : Prop :=
  ∃ state, context.availableBalance = some state ∧ Fresh maxStateAge context state.observedAt ∧
    state.availableBalance = availableBalance ∧ state.reservedBalance = 0

/-- The balance a simulation asks of an order with this price. -/
def simulatedBalance (side : Side) (price quantity : ℚ) : ℚ :=
  (if side = .buy then price else 1 - price) * quantity

variable {model : BoundedRejectionModel} {marketStatus : MarketStatus} {intent : OrderIntent} {price : ℚ}
  {maxStateAge : Timedelta} {context : RiskContext} {availableBalance : ℚ}

theorem requiredBalanceForIntent_exact (hprice : intent.limitPrice = some price) (hunit : 0 ≤ price ∧ price ≤ 1) :
    requiredBalanceForIntent .exact intent = some (simulatedBalance intent.side price intent.quantity) := by
  have hbounds : ¬(price < 0 ∨ 1 < price) := by
    rintro (hneg | hlarge)
    · exact not_lt.mpr hunit.1 hneg
    · exact not_lt.mpr hunit.2 hlarge
  unfold requiredBalanceForIntent simulatedBalance
  rw [hprice]
  dsimp only
  rw [if_neg hbounds, DecimalContext.exact_mul, DecimalContext.exact_sub]

theorem simulatedBalance_nonneg (intent : OrderIntent) (hunit : 0 ≤ price ∧ price ≤ 1) :
    0 ≤ simulatedBalance intent.side price intent.quantity := by
  refine mul_nonneg ?_ intent.quantity_pos.le
  split_ifs
  · exact hunit.1
  · exact sub_nonneg.mpr hunit.2

/-- The simulator rejects below its own balance, and raises on a negative one. -/
theorem simulatorRejects_iff (hprice : intent.limitPrice = some price) (hunit : 0 ≤ price ∧ price ≤ 1)
    (hother : model.OtherChecksPass marketStatus price intent.quantity) :
    SimulatorRejects model marketStatus intent availableBalance ↔
      0 ≤ availableBalance ∧ availableBalance < simulatedBalance intent.side price intent.quantity := by
  have hrequired : ¬∃ v ∈ some (simulatedBalance intent.side price intent.quantity), v < 0 := by
    rintro ⟨v, ⟨⟩, hneg⟩
    exact not_lt.mpr (simulatedBalance_nonneg intent hunit) hneg
  unfold SimulatorRejects
  rw [requiredBalanceForIntent_exact hprice hunit, hprice,
    BoundedRejectionModel.evaluate_of_otherChecksPass hother, BoundedRejectionModel.parseOptionalNonnegative,
    raiseIf_bind_of_not hrequired]
  constructor
  · rintro ⟨decision, hdecision, hrejected⟩
    simp only [BoundedRejectionModel.parseOptionalNonnegative, bind_eq_ok, raiseIf_eq_ok, pure_eq_ok] at hdecision
    obtain ⟨-, havailable, rfl⟩ := hdecision
    exact ⟨not_lt.mp fun hneg => havailable ⟨_, rfl, hneg⟩,
      (BoundedRejectionModel.evaluateBalance_rejected _ _).mp hrejected⟩
  · rintro ⟨hnonneg, hlt⟩
    have havailable : ¬∃ v ∈ some availableBalance, v < 0 := by
      rintro ⟨v, ⟨⟩, hneg⟩
      exact not_lt.mpr hnonneg hneg
    refine ⟨_, ?_, (BoundedRejectionModel.evaluateBalance_rejected _ _).mpr hlt⟩
    rw [BoundedRejectionModel.parseOptionalNonnegative, raiseIf_bind_of_not havailable]
    rfl

/-- RISK-017 rejects below the notional of the order, whatever its side. -/
theorem riskRejects_iff (hprice : intent.limitPrice = some price)
    (hbalance : FreshBalance maxStateAge context availableBalance) :
    RiskRejects maxStateAge intent context ↔ availableBalance < intent.quantity * price := by
  obtain ⟨state, hstate, hfresh, rfl, hreserved⟩ := hbalance
  have hpasses : (AvailableBalanceRule.evaluate .exact maxStateAge intent context).passes = true ↔
      intent.quantity * price ≤ state.availableBalance := by
    rw [AvailableBalanceRule.evaluate_passes, hprice, hstate]
    simp only [RiskAvailableBalanceState.effectiveAvailableBalance, DecimalContext.exact_mul,
      DecimalContext.exact_sub]
    constructor
    · rintro ⟨p, hp, s, hs, -, hle⟩
      cases hp
      cases hs
      rwa [hreserved, sub_zero] at hle
    · intro hle
      exact ⟨price, rfl, state, rfl, hfresh, by rwa [hreserved, sub_zero]⟩
  unfold RiskRejects
  rw [← not_le, ← hpasses, Bool.not_eq_true]

/-- **When backtest and live risk agree on a balance.** The simulator charges a sell the complement of its price
    and raises on a negative balance. Buys get one verdict for every balance that is not negative, sells for one
    that does not lie between the two amounts. -/
theorem verdicts_iff (hprice : intent.limitPrice = some price) (hunit : 0 ≤ price ∧ price ≤ 1)
    (hother : model.OtherChecksPass marketStatus price intent.quantity)
    (hbalance : FreshBalance maxStateAge context availableBalance) :
    (SimulatorRejects model marketStatus intent availableBalance ↔
      0 ≤ availableBalance ∧ availableBalance < simulatedBalance intent.side price intent.quantity) ∧
    (RiskRejects maxStateAge intent context ↔ availableBalance < simulatedBalance .buy price intent.quantity) ∧
    ((SimulatorRejects model marketStatus intent availableBalance ↔ RiskRejects maxStateAge intent context) ↔
      0 ≤ availableBalance ∧ (intent.side = .buy ∨
        (availableBalance < simulatedBalance .sell price intent.quantity ↔
          availableBalance < simulatedBalance .buy price intent.quantity))) := by
  have hnotional : intent.quantity * price = simulatedBalance .buy price intent.quantity := by
    rw [simulatedBalance, if_pos rfl, mul_comm]
  have hsimulator := @simulatorRejects_iff _ _ _ _ availableBalance hprice hunit hother
  have hrisk := riskRejects_iff hprice hbalance
  rw [hnotional] at hrisk
  refine ⟨hsimulator, hrisk, ?_⟩
  rw [hsimulator, hrisk]
  -- a balance below zero is below every amount
  have hnegative : ¬0 ≤ availableBalance → availableBalance < simulatedBalance .buy price intent.quantity := by
    intro h
    have hamount : 0 ≤ simulatedBalance .buy price intent.quantity := by
      rw [← hnotional]
      exact mul_nonneg intent.quantity_pos.le hunit.1
    exact (not_le.mp h).trans_le hamount
  by_cases hnonneg : 0 ≤ availableBalance
  · cases intent.side <;> simp [hnonneg]
  · simp [hnonneg, hnegative hnonneg]

/-! ## A sell -/

theorem ten_pos : (0 : ℚ) < 10 := by norm_num

theorem tenth_nonneg : (0 : ℚ) ≤ 1 / 10 := by norm_num

/-- Sells 10 at a price of one tenth. -/
def tenthSell : OrderIntent :=
  RiskEngine.quote ⟨"intent_tenth", by decide⟩ .sell 10 (1 / 10) ten_pos tenth_nonneg

theorem zero_le_default : (0 : ℚ) ≤ 0 := le_refl 0

theorem zero_le_of_default : ∀ p ∈ some (1 : ℚ), 0 ≤ p := RiskEngine.nonneg_of_mem_some zero_le_one

theorem pos_of_unbounded : ∀ q ∈ (none : Option ℚ), 0 < q := by rintro q ⟨⟩

def defaultRejectionModel : BoundedRejectionModel where
  minPrice := 0
  maxPrice := some 1
  minQuantity := 1 / 100000000
  maxQuantity := none
  openStatuses := [.open]
  minPrice_nonneg := zero_le_default
  maxPrice_nonneg := zero_le_of_default
  minQuantity_pos := by norm_num
  maxQuantity_pos := pos_of_unbounded
  minPrice_le := zero_le_of_default
  minQuantity_le := by rintro q ⟨⟩
  openStatuses_ne := List.cons_ne_nil _ _

theorem otherChecksPass_tenthSell : defaultRejectionModel.OtherChecksPass .open (1 / 10) tenthSell.quantity where
  min_price := by show (0 : ℚ) ≤ 1 / 10; norm_num
  max_price := by rintro p ⟨⟩; norm_num
  min_quantity := by show (1 / 100000000 : ℚ) ≤ 10; norm_num
  max_quantity := by rintro q ⟨⟩
  market_open := List.mem_singleton_self _

def fiveAvailable : RiskContext where
  evaluatedAt := 0
  availableBalance := some { availableBalance := 5, observedAt := 0, reserved_nonneg := zero_le_default }

theorem freshBalance_fiveAvailable : FreshBalance 1 fiveAvailable 5 := ⟨_, rfl, by decide, rfl, rfl⟩

theorem verdicts_iff_tenthSell :
    (SimulatorRejects defaultRejectionModel .open tenthSell 5 ↔ (0 : ℚ) ≤ 5 ∧ 5 < simulatedBalance .sell (1 / 10) 10) ∧
    (RiskRejects 1 tenthSell fiveAvailable ↔ 5 < simulatedBalance .buy (1 / 10) 10) ∧
    ((SimulatorRejects defaultRejectionModel .open tenthSell 5 ↔ RiskRejects 1 tenthSell fiveAvailable) ↔
      (0 : ℚ) ≤ 5 ∧ (tenthSell.side = .buy ∨
        (5 < simulatedBalance .sell (1 / 10) 10 ↔ 5 < simulatedBalance .buy (1 / 10) 10))) :=
  verdicts_iff rfl (by norm_num) otherChecksPass_tenthSell freshBalance_fiveAvailable

/-- With 5 available the simulator rejects the sell, which it charges 9; live risk charges 1 and passes it. -/
theorem tenthSell_disagrees :
    ¬(SimulatorRejects defaultRejectionModel .open tenthSell 5 ↔ RiskRejects 1 tenthSell fiveAvailable) := by
  have hunit : (0 : ℚ) ≤ 1 / 10 ∧ (1 / 10 : ℚ) ≤ 1 := by norm_num
  rw [simulatorRejects_iff rfl hunit otherChecksPass_tenthSell, riskRejects_iff rfl freshBalance_fiveAvailable]
  have hcharged : (5 : ℚ) < simulatedBalance tenthSell.side (1 / 10) tenthSell.quantity := by
    show (5 : ℚ) < (1 - 1 / 10) * 10
    norm_num
  have hpassed : ¬(5 : ℚ) < tenthSell.quantity * (1 / 10) := by
    show ¬(5 : ℚ) < 10 * (1 / 10)
    norm_num
  exact fun h => hpassed (h.mp ⟨by norm_num, hcharged⟩)

end RequiredBalance
end Pmrp
